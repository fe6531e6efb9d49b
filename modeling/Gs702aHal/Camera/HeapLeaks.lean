import Gs702aHal.Camera.HeapAccount

set_option relaxedAutoImplicit false
set_option autoImplicit false

/-!
# The leaks that the heap tracker names

When the library is unloaded, the tracker names the allocations that are still live and gives every
block back to the real allocator.

## Main definitions

* `HeapTracker.leaks` — the lines about the leaks.

## Main results

* `HeapTracker.Tracker.freeLeaks_eq`, `HeapTracker.Tracker.freeBacklog_eq` — the two loops.
* `HeapTracker.show_names` — the leaks are shown.
* `HeapTracker.exit_releases` — every block is released, and the leaks are named.
-/

namespace HeapTracker

open LinkedList (Ends Node Represents)

/-- The leaks, the newest first, each with the number of those that are left. -/
def leaks (size : Addr → BitVec 32) : List Addr → List Line
  | [] => []
  | hdr :: hdrs => .deleting (size hdr) (user hdr) (hdrs.length + 1) :: leaks size hdrs

namespace Tracker

/-- The blocks of a list are gone. -/
def without (blocks : Addr → Option Block) (hdrs : List Addr) : Addr → Option Block :=
  fun a => if hdrs.contains a then none else blocks a

/-- The other blocks are still there. -/
lemma without_of_notMem {blocks : Addr → Option Block} {hdrs : List Addr} {a : Addr}
    (h : a ∉ hdrs) : without blocks hdrs a = blocks a := by
  simp [without, h]

/-- First one block is gone, then the rest of them. -/
lemma without_update (blocks : Addr → Option Block) (hdr : Addr) (hdrs : List Addr) :
    without (Function.update blocks hdr none) hdrs = without blocks (hdr :: hdrs) := by
  funext a
  by_cases ha : a = hdr <;> simp [without, ha]

/-- A live allocation is checked and taken out of the live ones. -/
lemma Linked.del_leak {s : Tracker} {live freed : List Addr} {hdr : Addr} {b : Block}
    (h : s.Linked live freed) (hlive : hdr ∈ live) (hb : s.blocks hdr = some b) :
    ∃ s', s.del_leak hdr = some ((check_allocation s.milist hdr b).valid, s') ∧
      s'.Linked (live.erase hdr) freed ∧ s'.blocks = s.blocks ∧
      s'.log = s.log ++ (check_allocation s.milist hdr b).lines := by
  have hdel : s.del_leak hdr = some ((check_allocation s.milist hdr b).valid,
      { s.malloc_log (check_allocation s.milist hdr b).lines with
        links := (LinkedList.del hdr s.links s.ends).1
        num := s.num - 1
        ends := (LinkedList.del hdr s.links s.ends).2 }) := by
    simp [Tracker.del_leak, del_and_check, hb, Tracker.malloc_log]
  refine ⟨_, hdel, ⟨h.liveList.del hlive, h.liveList.del_frame h.freedList h.disjoint hlive, ?_, ?_,
    h.backlog_num⟩, rfl, rfl⟩
  · exact fun a ha => h.disjoint (List.mem_of_mem_erase ha)
  · rw [List.length_erase_of_mem hlive]
    exact congrArg (· - 1) h.num

/-- None of the lines is kept. -/
lemma filter_of_any {f : Line → Bool} {lines : List Line} (h : lines.any f = false) :
    lines.filter f = [] :=
  List.filter_eq_nil_iff.mpr (List.any_eq_false.mp h)

/-- The loop ends with the list. -/
lemma freeLeaks_none {s : Tracker} (hlast : s.ends.last = none) (fuel : ℕ) :
    s.freeLeaks fuel = some s := by
  cases fuel <;> simp [freeLeaks, hlast]

/-- A round of the loop. -/
lemma freeLeaks_succ {s s₁ : Tracker} {hdr : Addr} {b : Block} {valid : Bool}
    (hlast : s.ends.last = some hdr) (hb : s.blocks hdr = some b)
    (hdel : (s.malloc_log [.deleting b.size (user hdr) s.num]).del_leak hdr = some (valid, s₁))
    (hb₁ : s₁.blocks hdr = some b) (fuel : ℕ) :
    ∃ lines, s.freeLeaks (fuel + 1) = ((s₁.malloc_log lines).setBlock hdr none).freeLeaks fuel ∧
      lines.any Line.deletes = false := by
  cases valid with
  | false =>
    have hnil : s₁.malloc_log [] = s₁ := by simp [malloc_log]
    refine ⟨[], ?_, rfl⟩
    rw [hnil]
    simp [freeLeaks, hlast, hb, hdel, real_free, hb₁]
  | true =>
    refine ⟨.allocatedHere (user hdr) b.size :: print_backtrace s₁.milist b.bt, ?_, ?_⟩
    · simp [freeLeaks, hlast, hb, hdel, real_free, hb₁]
    · rw [List.any_cons, deletes_print_backtrace]
      rfl

/-- **The leaks are named and released**, the newest first.

**Proof sketch.** By induction on the live allocations: a round of the loop takes out the newest
one, and logs it with their number, which is their count. -/
lemma freeLeaks_eq {size : Addr → BitVec 32} {live freed : List Addr} {s : Tracker} {fuel : ℕ}
    (h : s.Linked live freed) (hfuel : live.length ≤ fuel)
    (hblocks : ∀ hdr ∈ live, ∃ b, s.blocks hdr = some b ∧ b.size = size hdr) :
    ∃ s' lines, s.freeLeaks fuel = some s' ∧ s'.Linked [] freed ∧
      s'.blocks = without s.blocks live ∧ s'.log = s.log ++ lines ∧
      lines.filter Line.deletes = leaks size live := by
  induction live generalizing s fuel with
  | nil =>
    refine ⟨s, [], freeLeaks_none h.liveList.last fuel, h, ?_, (List.append_nil _).symm, rfl⟩
    funext a
    simp [without]
  | cons hdr live ih =>
    rw [List.length_cons] at hfuel
    obtain ⟨fuel, rfl⟩ : ∃ n, fuel = n + 1 := ⟨fuel - 1, by omega⟩
    obtain ⟨b, hb, hsize⟩ := hblocks hdr List.mem_cons_self
    obtain ⟨hnew, -⟩ := List.nodup_cons.mp h.liveList.nodup
    obtain ⟨s₁, hs₁, hlinked₁, hblocks₁, hlog₁⟩ :=
      (h.malloc_log [.deleting b.size (user hdr) s.num]).del_leak List.mem_cons_self hb
    rw [List.erase_cons_head] at hlinked₁
    have hb₁ : s₁.blocks hdr = some b := by rw [hblocks₁]; exact hb
    obtain ⟨lines₁, hround, hdeletes₁⟩ := freeLeaks_succ h.liveList.last hb hs₁ hb₁ fuel
    have hblocks₂ : ((s₁.malloc_log lines₁).setBlock hdr none).blocks =
        Function.update s.blocks hdr none := by
      rw [blocks_setBlock, blocks_malloc_log, hblocks₁, blocks_malloc_log]
    have hrest : ∀ a ∈ live, ∃ b, ((s₁.malloc_log lines₁).setBlock hdr none).blocks a = some b ∧
        b.size = size a := by
      intro a ha
      rw [hblocks₂, Function.update_of_ne fun hah : a = hdr => hnew (hah ▸ ha)]
      exact hblocks a (List.mem_cons_of_mem _ ha)
    have hle : live.length ≤ fuel := by omega
    obtain ⟨s', lines₂, hs', hlinked', hblocks', hlog', hlines₂⟩ :=
      ih ((hlinked₁.malloc_log lines₁).setBlock hdr none) hle hrest
    refine ⟨s', .deleting b.size (user hdr) s.num :: (check_allocation s.milist hdr b).lines ++
      lines₁ ++ lines₂, hround.trans hs', hlinked', ?_, ?_, ?_⟩
    · rw [hblocks', hblocks₂, without_update]
    · rw [hlog', setBlock, malloc_log, hlog₁]
      simp [malloc_log]
    · rw [List.cons_append, List.cons_append, List.filter_cons_of_pos rfl, List.filter_append,
        List.filter_append, filter_of_any check_allocation_deletes, filter_of_any hdeletes₁,
        hlines₂, leaks, hsize, h.num]
      rfl

/-- The loop ends with the list. -/
lemma freeBacklog_none {s : Tracker} (hlast : s.backlog.last = none) (fuel : ℕ) :
    s.freeBacklog fuel = some s := by
  cases fuel <;> simp [freeBacklog, hlast]

/-- A round of the loop. -/
lemma freeBacklog_succ {s s' : Tracker} {hdr gone : Addr} (hlast : s.backlog.last = some hdr)
    (hfirst : s.backlog.first = some gone)
    (h : ((s.del_from_backlog gone).bind fun s => s.real_free gone) = some s') (fuel : ℕ) :
    s.freeBacklog (fuel + 1) = s'.freeBacklog fuel := by
  obtain ⟨s₁, hs₁, hs'⟩ := Option.bind_eq_some_iff.mp h
  simp [freeBacklog, hlast, hfirst, hs₁, hs']

/-- The kept allocations are released, the oldest first.

**Proof sketch.** By induction on their list from its end: a round takes out the oldest one. -/
lemma freeBacklog_eq {live freed : List Addr} {s : Tracker} {fuel : ℕ}
    (h : s.Linked live freed) (hfuel : freed.length ≤ fuel)
    (hblocks : ∀ hdr ∈ freed, ∃ b, s.blocks hdr = some b) :
    ∃ s' lines, s.freeBacklog fuel = some s' ∧ s'.Linked live [] ∧
      s'.blocks = without s.blocks freed ∧ s'.log = s.log ++ lines ∧
      lines.filter Line.deletes = [] := by
  induction freed using List.reverseRecOn generalizing s fuel with
  | nil =>
    refine ⟨s, [], freeBacklog_none h.freedList.last fuel, h, ?_, (List.append_nil _).symm, rfl⟩
    funext a
    simp [without]
  | append_singleton fs gone ih =>
    rw [List.length_append, List.length_singleton] at hfuel
    obtain ⟨fuel, rfl⟩ : ∃ n, fuel = n + 1 := ⟨fuel - 1, by omega⟩
    obtain ⟨hdr, hlast⟩ : ∃ hdr, s.backlog.last = some hdr := by
      rw [h.freedList.last]
      exact Option.isSome_iff_exists.mp (by simp)
    obtain ⟨b, hb⟩ := hblocks gone (by simp)
    have hfirst := h.freedList.first_eq_of_append rfl
    have hnew : gone ∉ fs := fun hg =>
      (List.nodup_append'.mp h.freedList.nodup).2.2 hg (List.mem_singleton_self _)
    obtain ⟨s₁, hs₁, hlinked₁, hblocks₁, -, hlog₁⟩ := h.evict hb
    have hrest : ∀ a ∈ fs, ∃ b, s₁.blocks a = some b := by
      intro a ha
      rw [hblocks₁, Function.update_of_ne fun hag : a = gone => hnew (hag ▸ ha)]
      exact hblocks a (List.mem_append_left _ ha)
    have hle : fs.length ≤ fuel := by omega
    obtain ⟨s', lines, hs', hlinked', hblocks', hlog', hlines⟩ := ih hlinked₁ hle hrest
    refine ⟨s', (check_allocation s.milist gone b).lines ++ lines,
      (freeBacklog_succ hlast hfirst hs₁ fuel).trans hs', hlinked', ?_, ?_, ?_⟩
    · rw [hblocks', hblocks₁, without_update]
      funext a
      simp [without, or_comm]
    · rw [hlog', hlog₁, List.append_assoc]
    · rw [List.filter_append, filter_of_any check_allocation_deletes, hlines]
      rfl

end Tracker

/-- **The leaks are shown.** `heaptracker_show_leaked_memory` names the live allocations, the newest
first, each with the number of all of them, and changes nothing but the log. -/
theorem show_names {s : Tracker} {c : Account} (h : Tracks s c) :
    ∃ lines, s.heaptracker_show_leaked_memory = some (s.malloc_log lines) ∧
      lines.filter Line.deletes =
        c.live.map fun hdr => .deleting (c.size hdr) (user hdr) c.live.length := by
  have hlive : ∀ hdr ∈ c.live, ∃ b, s.blocks hdr = some b ∧ b.size = c.size hdr := by
    intro hdr hl
    obtain ⟨b, hb, hold⟩ := h.stored.live hdr hl
    exact ⟨b, hb, hold.size_eq⟩
  generalize hlines : (fun (hdr : Addr) (b : Block) =>
    (.deleting b.size (user hdr) s.num : Line) :: .allocatedHere (user hdr) b.size ::
      print_backtrace s.milist b.bt) = lines
  refine ⟨Tracker.leakedLines s.num ++ c.live.flatMap (s.linesOf lines), ?_, ?_⟩
  · rw [Tracker.heaptracker_show_leaked_memory, hlines]
    refine (Tracker.logEach_eq (h.linked.malloc_log _).liveList h.linked.num.ge
      fun hdr hl => (hlive hdr hl).imp fun b hb => hb.1).trans ?_
    simp only [Tracker.malloc_log, List.append_assoc]
    rfl
  · have hcount : (Tracker.leakedLines s.num).filter Line.deletes = [] := by
      rw [Tracker.leakedLines]
      split_ifs <;> rfl
    rw [List.filter_append, hcount, List.nil_append, List.filter_flatMap, List.map_eq_flatMap]
    refine List.flatMap_congr fun hdr hl => ?_
    obtain ⟨b, hb, hsize⟩ := hlive hdr hl
    rw [Tracker.linesOf, hb, ← hlines, Option.elim_some, List.filter_cons_of_pos rfl,
      List.filter_cons_of_neg Bool.false_ne_true, Tracker.filter_of_any (deletes_print_backtrace _),
      hsize, h.linked.num]

/-- **At exit every block is released, and the leaks are named.** After a run,
`heaptracker_free_leaked_memory` leaves no block and two empty lists, and the lines about leaks name
the live allocations with their sizes, the newest first.

**Proof sketch.** The first loop takes out the live allocations, the second one those that are kept;
by the account there are no other blocks. -/
theorem exit_releases (milist : List mapinfo) (links : Addr → Node Addr) {run : List Call}
    (h : StepRun.Along Account.step Account.Allows Account.init run) :
    ∃ s s' lines, StepRun.final exec (some (Tracker.init milist links)) run = some s ∧
      s.heaptracker_free_leaked_memory = some s' ∧ s'.blocks = (fun _ => none) ∧
      s'.Linked [] [] ∧ s'.log = s.log ++ lines ∧
      lines.filter Line.deletes =
        leaks (StepRun.final Account.step Account.init run).size
          (StepRun.final Account.step Account.init run).live := by
  obtain ⟨s, hs, htracks⟩ := tracks_run milist links h
  generalize StepRun.final Account.step Account.init run = c at htracks ⊢
  have hlive : ∀ hdr ∈ c.live, ∃ b, s.blocks hdr = some b ∧ b.size = c.size hdr := by
    intro hdr hl
    obtain ⟨b, hb, hold⟩ := htracks.stored.live hdr hl
    exact ⟨b, hb, hold.size_eq⟩
  obtain ⟨s₁, lines₁, hs₁, hlinked₁, hblocks₁, hlog₁, hlines₁⟩ :=
    Tracker.freeLeaks_eq (htracks.linked.malloc_log (Tracker.leakedLines s.num))
      htracks.linked.num.ge hlive
  have hfreed : ∀ hdr ∈ c.freed, ∃ b, s₁.blocks hdr = some b := by
    intro hdr hf
    obtain ⟨b, hb, -⟩ := htracks.stored.freed hdr hf
    exact ⟨b, by rw [hblocks₁, Tracker.without_of_notMem (htracks.not_live hf)]; exact hb⟩
  obtain ⟨s₂, lines₂, hs₂, hlinked₂, hblocks₂, hlog₂, hlines₂⟩ :=
    Tracker.freeBacklog_eq hlinked₁ hlinked₁.backlog_num.ge hfreed
  refine ⟨s, s₂, Tracker.leakedLines s.num ++ lines₁ ++ lines₂, hs, ?_, ?_, hlinked₂, ?_, ?_⟩
  · rw [Tracker.heaptracker_free_leaked_memory, hs₁]
    exact hs₂
  · rw [hblocks₂, hblocks₁]
    funext a
    by_cases hk : c.Knows a
    · rcases hk with hl | hf
      · simp [Tracker.without, hl]
      · simp [Tracker.without, hf]
    · have hnone := htracks.stored.other a hk
      simp [Tracker.without, hnone]
  · rw [hlog₂, hlog₁]
    simp [Tracker.malloc_log]
  · have hcount : (Tracker.leakedLines s.num).filter Line.deletes = [] := by
      rw [Tracker.leakedLines]
      split_ifs <;> rfl
    rw [List.filter_append, List.filter_append, hcount, hlines₁, hlines₂, List.append_nil]
    rfl

/-- A live allocation is a leak. -/
theorem exit_releases_sample :
    ∃ s s' lines, StepRun.final exec (some (Tracker.init [] fun _ => ⟨none, none⟩))
        ((sampleRun (.data 3)).take 2) = some s ∧
      s.heaptracker_free_leaked_memory = some s' ∧ s'.blocks = (fun _ => none) ∧
      s'.Linked [] [] ∧ s'.log = s.log ++ lines ∧
      lines.filter Line.deletes =
        leaks (StepRun.final Account.step Account.init ((sampleRun (.data 3)).take 2)).size
          (StepRun.final Account.step Account.init ((sampleRun (.data 3)).take 2)).live := by
  have hallows := sampleRun_allows (.data 3) fun i hi => by cases hi; decide
  exact exit_releases [] (fun _ => ⟨none, none⟩) ⟨hallows.1, hallows.2.1, trivial⟩

end HeapTracker
