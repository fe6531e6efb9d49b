import Gs702aHal.Camera.HeapVerdicts

set_option relaxedAutoImplicit false
set_option autoImplicit false

/-!
# The account of the heap tracker

The tracker keeps two linked lists, two counts, and tags, sizes and guards in the headers. All of
them are those of an account that knows nothing of memory: lists of allocations, and the stray
bytes.

## Main definitions

* `HeapTracker.Tracker.Linked` — the two lists of the tracker, and their counts.
* `HeapTracker.Stored` — the blocks are those of the account.
* `HeapTracker.Tracks` — the tracker has the account in its memory.

## Main results

* `HeapTracker.Tracks.step`, `HeapTracker.tracks_run` — the tracker keeps its account.
* `HeapTracker.lists_of_run` — what its lists are after a run.
* `HeapTracker.log_of_proper` — a program that writes to its own memory only gets no report.
* `HeapTracker.scan_reports` — a scan reports an allocation exactly if a stray byte has changed it.
-/

namespace HeapTracker

open LinkedList (Ends Node Represents)

/-! ### The lists -/

/-- The two lists of the tracker, and their counts. -/
structure Tracker.Linked (s : Tracker) (live freed : List Addr) : Prop where
  liveList : Represents s.links s.ends live
  freedList : Represents s.links s.backlog freed
  disjoint : live.Disjoint freed
  num : s.num = live.length
  backlog_num : s.backlog_num = freed.length

/-- What the header and the bytes of an allocation are. -/
structure Holds (c : Account) (hdr : Addr) (tag : BitVec 32) (b : Block) : Prop where
  tag_eq : b.tag = tag
  size_eq : b.size = c.size hdr
  byte_eq : ∀ p, ((∃ i, p = .data i) → tag = BACKLOG_TAG) → b.byte p = (c.stray hdr p).getD p.fill

/-- The blocks of the real allocator are those of the account. -/
structure Stored (blocks : Addr → Option Block) (c : Account) : Prop where
  live : ∀ hdr ∈ c.live, ∃ b, blocks hdr = some b ∧ Holds c hdr ALLOCATION_TAG b
  freed : ∀ hdr ∈ c.freed, ∃ b, blocks hdr = some b ∧ Holds c hdr BACKLOG_TAG b
  other : ∀ hdr, ¬ c.Knows hdr → blocks hdr = none
  stray_live : ∀ hdr ∈ c.live, ∀ i, c.stray hdr (.data i) = none
  stray_lt : ∀ hdr i, c.stray hdr (.data i) ≠ none → i < (c.size hdr).toNat

/-- The tracker has the account in its memory. -/
structure Tracks (s : Tracker) (c : Account) : Prop where
  linked : s.Linked c.live c.freed
  bound : c.freed.length ≤ BACKLOG_MAX
  stored : Stored s.blocks c

namespace Tracker

variable {s : Tracker} {live freed : List Addr} {hdr : Addr} {b : Block}

@[simp] lemma blocks_setBlock (s : Tracker) (hdr : Addr) (b : Option Block) :
    (s.setBlock hdr b).blocks = Function.update s.blocks hdr b := rfl

@[simp] lemma blocks_malloc_log (s : Tracker) (lines : List Line) :
    (s.malloc_log lines).blocks = s.blocks := rfl

/-- The lists do not depend on the blocks. -/
lemma Linked.setBlock (h : s.Linked live freed) (hdr : Addr) (b : Option Block) :
    (s.setBlock hdr b).Linked live freed := { h with }

/-- The lists do not depend on the log. -/
lemma Linked.malloc_log (h : s.Linked live freed) (lines : List Line) :
    (s.malloc_log lines).Linked live freed := { h with }

/-- A new allocation comes to the front of the live ones. -/
lemma Linked.add (h : s.Linked live freed) (hlive : hdr ∉ live) (hfreed : hdr ∉ freed)
    (size : BitVec 32) (hfits : sizeofHdr + size.toNat + REAR_GUARD_LEN < 2 ^ 32) :
    ∃ s', s.add hdr b size = some s' ∧ s'.Linked (hdr :: live) freed ∧
      s'.blocks = Function.update s.blocks hdr (some (prepared b size)) ∧
      s'.milist = s.milist ∧ s'.log = s.log := by
  refine ⟨_, if_pos hfits, ⟨h.liveList.add hlive,
    h.liveList.add_frame h.freedList h.disjoint hfreed, ?_, ?_,
    h.backlog_num⟩, rfl, rfl, rfl⟩
  · exact List.disjoint_cons_left.mpr ⟨hfreed, h.disjoint⟩
  · exact (congrArg (· + 1) h.num).trans (List.length_cons ..).symm

/-- What has the tag is taken out of the list. -/
lemma del_eq (hb : s.blocks hdr = some b) (htag : b.tag = ALLOCATION_TAG) :
    s.del hdr = some (true, { s with
      num := s.num - 1
      links := (LinkedList.del hdr s.links s.ends).1
      ends := (LinkedList.del hdr s.links s.ends).2 }) := by
  simp [Tracker.del, hb, htag]

/-- A live allocation is taken out of the live ones. -/
lemma Linked.del (h : s.Linked live freed) (hlive : hdr ∈ live) (hb : s.blocks hdr = some b)
    (htag : b.tag = ALLOCATION_TAG) :
    ∃ s', s.del hdr = some (true, s') ∧ s'.Linked (live.erase hdr) freed ∧
      s'.blocks = s.blocks ∧ s'.milist = s.milist ∧ s'.log = s.log := by
  refine ⟨_, del_eq hb htag, ⟨h.liveList.del hlive,
    h.liveList.del_frame h.freedList h.disjoint hlive, ?_, ?_, h.backlog_num⟩, rfl, rfl, rfl⟩
  · exact fun a ha => h.disjoint (List.mem_of_mem_erase ha)
  · rw [List.length_erase_of_mem hlive]
    exact congrArg (· - 1) h.num

/-- What has another tag is left alone. -/
lemma del_of_tag (hb : s.blocks hdr = some b) (htag : b.tag ≠ ALLOCATION_TAG) :
    s.del hdr = some (false, s) := by
  simp [Tracker.del, hb, htag]

/-- What is in the backlog is checked and taken out of it. -/
lemma del_from_backlog_eq (hb : s.blocks hdr = some b) :
    s.del_from_backlog hdr = some { s.setBlock hdr (some { b with tag := 0 }) with
      links := (LinkedList.del hdr s.links s.backlog).1
      backlog_num := s.backlog_num - 1
      backlog := (LinkedList.del hdr s.links s.backlog).2
      log := s.log ++ (check_allocation s.milist hdr b).lines } := by
  simp [Tracker.del_from_backlog, del_and_check, hb, malloc_log, setBlock]

/-- A kept allocation is checked and taken out of the kept ones. -/
lemma Linked.del_from_backlog (h : s.Linked live freed) (hfreed : hdr ∈ freed)
    (hb : s.blocks hdr = some b) :
    ∃ s', s.del_from_backlog hdr = some s' ∧ s'.Linked live (freed.erase hdr) ∧
      s'.blocks = Function.update s.blocks hdr (some { b with tag := 0 }) ∧
      s'.milist = s.milist ∧ s'.log = s.log ++ (check_allocation s.milist hdr b).lines := by
  refine ⟨_, del_from_backlog_eq hb, ⟨?_, h.freedList.del hfreed, ?_, h.num, ?_⟩, rfl, rfl,
    rfl⟩
  · exact h.freedList.del_frame h.liveList (fun a ha hl => h.disjoint hl ha) hfreed
  · exact fun a hl ha => h.disjoint hl (List.mem_of_mem_erase ha)
  · rw [List.length_erase_of_mem hfreed]
    exact congrArg (· - 1) h.backlog_num

/-- What comes into the backlog, before the loop. -/
lemma add_to_backlog_eq (hb : s.blocks hdr = some b) :
    s.add_to_backlog hdr = Tracker.clearUp (s.backlog_num + 1 - BACKLOG_MAX)
      { s.setBlock hdr (some { b with tag := BACKLOG_TAG, data := fun _ => FREE_POISON }) with
        backlog_num := s.backlog_num + 1
        links := (LinkedList.add hdr s.links s.backlog).1
        backlog := (LinkedList.add hdr s.links s.backlog).2 } := by
  simp [Tracker.add_to_backlog, hb]

/-- What comes into the backlog is in front of it, before older ones leave it. -/
lemma Linked.add_to_backlog (h : s.Linked live freed) (hlive : hdr ∉ live) (hfreed : hdr ∉ freed)
    (hb : s.blocks hdr = some b) :
    ∃ s' : Tracker, s.add_to_backlog hdr = s'.clearUp (s.backlog_num + 1 - BACKLOG_MAX) ∧
      s'.Linked live (hdr :: freed) ∧
      s'.blocks = Function.update s.blocks hdr
        (some { b with tag := BACKLOG_TAG, data := fun _ => FREE_POISON }) ∧
      s'.milist = s.milist ∧ s'.log = s.log := by
  refine ⟨_, add_to_backlog_eq hb, ⟨?_, h.freedList.add hfreed, ?_, h.num, ?_⟩, rfl, rfl, rfl⟩
  · exact h.freedList.add_frame h.liveList (fun a ha hl => h.disjoint hl ha) hlive
  · exact List.disjoint_cons_right.mpr ⟨hlive, h.disjoint⟩
  · exact (congrArg (· + 1) h.backlog_num).trans (List.length_cons ..).symm

/-- The oldest of the kept allocations goes back to the real allocator. -/
lemma Linked.evict {gone : Addr} (h : s.Linked live (freed ++ [gone]))
    (hb : s.blocks gone = some b) :
    ∃ s', ((s.del_from_backlog gone).bind fun s => s.real_free gone) = some s' ∧
      s'.Linked live freed ∧ s'.blocks = Function.update s.blocks gone none ∧
      s'.milist = s.milist ∧ s'.log = s.log ++ (check_allocation s.milist gone b).lines := by
  obtain ⟨s₁, hs₁, hl₁, hblocks, hmi, hlog⟩ := h.del_from_backlog (by simp) hb
  have hgone : gone ∉ freed := fun hg =>
    (List.nodup_append'.mp h.freedList.nodup).2.2 hg (List.mem_singleton_self _)
  rw [List.erase_append_right _ hgone, List.erase_cons_head, List.append_nil] at hl₁
  have hb₁ : s₁.blocks gone = some { b with tag := 0 } := by rw [hblocks, Function.update_self]
  refine ⟨s₁.setBlock gone none, ?_, hl₁.setBlock gone none, ?_, hmi, hlog⟩
  · rw [hs₁, Option.bind_some, real_free, hb₁]
    rfl
  · rw [blocks_setBlock, hblocks, Function.update_idem]

/-- What a call of `wrap_free` comes to for a live allocation. -/
lemma wrap_free_of_live {ptr : Addr} {s' : Tracker} (hptr : ptr ≠ 0)
    (hdel : s.del (metaHdr ptr) = some (true, s')) (hb : s'.blocks (metaHdr ptr) = some b)
    (stack : List Addr) :
    s.wrap_free ptr stack = (s'.setBlock (metaHdr ptr) (some { b with
      freed_bt := heaptracker_stacktrace stack MAX_BACKTRACE_DEPTH })).add_to_backlog
        (metaHdr ptr) := by
  have hne : ¬ ptr = 0#32 := hptr
  simp [Tracker.wrap_free, hne, hdel, hb]

/-- What was freed before is reported. -/
lemma wrap_free_of_freed {ptr : Addr} (hptr : ptr ≠ 0) (hb : s.blocks (metaHdr ptr) = some b)
    (htag : b.tag = BACKLOG_TAG) (stack : List Addr) :
    ∃ lines, s.wrap_free ptr stack = some (s.malloc_log lines) := by
  have hne : ¬ ptr = 0#32 := hptr
  have hdel : s.del (metaHdr ptr) = some (false, s) := del_of_tag hb (by rw [htag]; decide)
  exact ⟨_, by simp [Tracker.wrap_free, hne, hdel, hb, htag]; rfl⟩

/-- A null pointer is not freed. -/
lemma wrap_free_null (s : Tracker) (stack : List Addr) : s.wrap_free 0 stack = some s := by
  simp [Tracker.wrap_free]

/-- A reallocation of no bytes frees. -/
lemma wrap_realloc_zero (s : Tracker) (ptr : Addr) (stack : List Addr) (r : Option (Addr × Block)) :
    s.wrap_realloc ptr 0 stack r = (s.wrap_free ptr stack).map fun s => (0, s) := by
  simp [Tracker.wrap_realloc, Option.map_eq_bind]

/-- A reallocation of a null pointer allocates. -/
lemma wrap_realloc_null {size : BitVec 32} (hsize : size ≠ 0) (s : Tracker) (stack : List Addr)
    (r : Option (Addr × Block)) :
    s.wrap_realloc 0 size stack r = s.wrap_malloc size stack r := by
  have hsize' : ¬ size = 0#32 := hsize
  simp [Tracker.wrap_realloc, hsize']

/-- What a call of `wrap_realloc` comes to for a live allocation. -/
lemma wrap_realloc_of_live {ptr size : BitVec 32} {s' : Tracker} (hsize : size ≠ 0) (hptr : ptr ≠ 0)
    (hdel : s.del (metaHdr ptr) = some (true, s')) (hb : s'.blocks (metaHdr ptr) = some b)
    (stack : List Addr) (r : Option (Addr × Block)) :
    s.wrap_realloc ptr size stack r = s'.reallocate (metaHdr ptr) size stack r := by
  have hne : ¬ ptr = 0#32 := hptr
  have hsize' : ¬ size = 0#32 := hsize
  simp [Tracker.wrap_realloc, hne, hsize', hdel, hb]

/-- What it comes to for one that was freed before: it is reported, and taken out of the backlog. -/
lemma wrap_realloc_of_freed {ptr size : BitVec 32} (hsize : size ≠ 0) (hptr : ptr ≠ 0)
    (hb : s.blocks (metaHdr ptr) = some b) (htag : b.tag = BACKLOG_TAG) (stack : List Addr)
    (r : Option (Addr × Block)) :
    ∃ lines, s.wrap_realloc ptr size stack r =
      ((s.malloc_log lines).del_from_backlog (metaHdr ptr)).bind fun s =>
        s.reallocate (metaHdr ptr) size stack r := by
  have hne : ¬ ptr = 0#32 := hptr
  have hsize' : ¬ size = 0#32 := hsize
  have hdel : s.del (metaHdr ptr) = some (false, s) := del_of_tag hb (by rw [htag]; decide)
  exact ⟨_, by simp [Tracker.wrap_realloc, hne, hsize', hdel, hb, htag]; rfl⟩

/-- A round of the loop. -/
lemma clearUp_succ {gone : Addr} {s' : Tracker} (hfirst : s.backlog.first = some gone)
    (h : ((s.del_from_backlog gone).bind fun s => s.real_free gone) = some s') (rounds : ℕ) :
    s.clearUp (rounds + 1) = s'.clearUp rounds := by
  obtain ⟨s₁, hs₁, hs'⟩ := Option.bind_eq_some_iff.mp h
  simp [clearUp, hfirst, hs₁, hs']

/-- What a loop logs about an allocation. -/
def linesOf (s : Tracker) (lines : Addr → Block → List Line) (hdr : Addr) : List Line :=
  (s.blocks hdr).elim [] (lines hdr)

/-- A loop logs something about every allocation of a list, once and in its order. -/
lemma logEach_eq {lines : Addr → Block → List Line} {list : Ends Addr} {ks : List Addr} {fuel : ℕ}
    (h : Represents s.links list ks) (hfuel : ks.length ≤ fuel)
    (hblocks : ∀ hdr ∈ ks, ∃ b, s.blocks hdr = some b) :
    s.logEach lines list fuel = some (s.malloc_log (ks.flatMap (s.linesOf lines))) := by
  rw [logEach, h.forEach_eq hfuel]
  suffices hall : ∀ (ks : List Addr) (t : Tracker), (∀ hdr ∈ ks, ∃ b, s.blocks hdr = some b) →
      t.blocks = s.blocks →
      ks.foldlM (fun (t : Tracker) hdr => do
        let b ← t.blocks hdr
        return t.malloc_log (lines hdr b)) t =
          some (t.malloc_log (ks.flatMap (s.linesOf lines))) from hall ks s hblocks rfl
  intro ks
  induction ks with
  | nil => intro t _ _; simp [malloc_log]
  | cons hdr ks ih =>
    intro t hks hbt
    obtain ⟨b, hb⟩ := hks hdr List.mem_cons_self
    have hstep : (do
        let b ← t.blocks hdr
        return t.malloc_log (lines hdr b) : Option Tracker) =
          some (t.malloc_log (s.linesOf lines hdr)) := by
      rw [hbt, linesOf, hb]
      rfl
    rw [List.foldlM_cons, hstep, Option.bind_eq_bind, Option.bind_some,
      ih (t.malloc_log _) (fun a ha => hks a (List.mem_cons_of_mem _ ha)) hbt, List.flatMap_cons]
    simp only [malloc_log, List.append_assoc]

/-- The lines of the check of an allocation. -/
def checkLines (s : Tracker) : Addr → List Line :=
  s.linesOf fun hdr b => (check_allocation s.milist hdr b).lines

end Tracker

/-! ### The blocks -/

section Blocks

variable {blocks : Addr → Option Block} {c c' : Account} {hdr : Addr} {tag : BitVec 32} {b : Block}

/-- What a block holds depends on the account of that block. -/
lemma Holds.congr (h : Holds c hdr tag b) (hsize : c'.size hdr = c.size hdr)
    (hstray : c'.stray hdr = c.stray hdr) : Holds c' hdr tag b := by
  refine ⟨h.tag_eq, h.size_eq.trans hsize.symm, fun p hp => ?_⟩
  rw [hstray]
  exact h.byte_eq p hp

/-- What may be said of one block. -/
structure StoredAt (o : Option Block) (c : Account) (hdr : Addr) : Prop where
  live : hdr ∈ c.live → ∃ b, o = some b ∧ Holds c hdr ALLOCATION_TAG b
  freed : hdr ∈ c.freed → ∃ b, o = some b ∧ Holds c hdr BACKLOG_TAG b
  other : ¬ c.Knows hdr → o = none
  stray_live : hdr ∈ c.live → ∀ i, c.stray hdr (.data i) = none
  stray_lt : ∀ i, c.stray hdr (.data i) ≠ none → i < (c.size hdr).toNat

/-- The blocks are those of the account if each of them is. -/
lemma stored_iff : Stored blocks c ↔ ∀ hdr, StoredAt (blocks hdr) c hdr := by
  constructor
  · intro h hdr
    exact ⟨h.live hdr, h.freed hdr, h.other hdr, h.stray_live hdr, h.stray_lt hdr⟩
  · intro h
    exact ⟨fun hdr => (h hdr).live, fun hdr => (h hdr).freed, fun hdr => (h hdr).other,
      fun hdr => (h hdr).stray_live, fun hdr => (h hdr).stray_lt⟩

/-- The account says the same of a block as before. -/
structure SameAt (c c' : Account) (hdr : Addr) : Prop where
  live : hdr ∈ c'.live ↔ hdr ∈ c.live
  freed : hdr ∈ c'.freed ↔ hdr ∈ c.freed
  size : c'.size hdr = c.size hdr
  stray : c'.stray hdr = c.stray hdr

/-- A block that stays, with its account. -/
lemma StoredAt.same {o : Option Block} (h : StoredAt o c hdr) (hs : SameAt c c' hdr) :
    StoredAt o c' hdr where
  live hl := by
    obtain ⟨b, hb, hold⟩ := h.live (hs.live.mp hl)
    exact ⟨b, hb, hold.congr hs.size hs.stray⟩
  freed hf := by
    obtain ⟨b, hb, hold⟩ := h.freed (hs.freed.mp hf)
    exact ⟨b, hb, hold.congr hs.size hs.stray⟩
  other hk := h.other (by rwa [Account.Knows, hs.live, hs.freed] at hk)
  stray_live hl := by
    rw [hs.stray]
    exact h.stray_live (hs.live.mp hl)
  stray_lt i hi := by
    rw [hs.stray] at hi
    rw [hs.size]
    exact h.stray_lt i hi

/-- **One block changes.** The account changes for that block only.

**Proof sketch.** Every other block is as the account says before and after. -/
lemma Stored.update (h : Stored blocks c) {o : Option Block} (ho : StoredAt o c' hdr)
    (hsame : ∀ a ≠ hdr, SameAt c c' a) : Stored (Function.update blocks hdr o) c' := by
  rw [stored_iff] at h ⊢
  intro a
  by_cases ha : a = hdr
  · rw [ha, Function.update_self]
    exact ho
  · rw [Function.update_of_ne ha]
    exact (h a).same (hsame a ha)

/-- A new block, with its tag, its size and its guards. -/
lemma Stored.allocate (h : Stored blocks c) (hnew : ¬ c.Knows hdr) (size : BitVec 32) :
    Stored (Function.update blocks hdr (some (Tracker.prepared b size))) (c.allocate hdr size) := by
  refine h.update ⟨fun _ => ⟨_, rfl, rfl, ?_, ?_⟩, ?_, ?_, ?_, ?_⟩ fun a ha => ⟨?_, Iff.rfl, ?_, ?_⟩
  · exact (c.size_allocate_self hdr size).symm
  · intro p hp
    rw [c.stray_allocate_self]
    cases p with
    | front i => rfl
    | rear i => rfl
    | data i => exact absurd (hp ⟨i, rfl⟩) (by decide)
  · exact fun hf => absurd (.inr hf) hnew
  · exact fun hk => absurd (.inl List.mem_cons_self) hk
  · exact fun _ i => c.stray_allocate_self hdr size _
  · exact fun i hi => absurd (c.stray_allocate_self hdr size _) hi
  · exact ⟨fun hl => (List.mem_cons.mp hl).resolve_left ha, List.mem_cons_of_mem _⟩
  · exact Function.update_of_ne ha ..
  · exact Function.update_of_ne ha ..

/-- A block that was live is filled with poison. -/
lemma Stored.keep (h : Stored blocks c) (hl : hdr ∈ c.live) (hnd : c.live.Nodup)
    (hb : blocks hdr = some b) (bt : List Addr) :
    Stored (Function.update blocks hdr (some { b with
      tag := BACKLOG_TAG
      freed_bt := bt
      data := fun _ => FREE_POISON })) (c.keep hdr) := by
  obtain ⟨b', hb', hold⟩ := h.live hdr hl
  obtain rfl : b = b' := Option.some.inj (hb.symm.trans hb')
  have hnot : hdr ∉ (c.keep hdr).live := hnd.not_mem_erase
  refine h.update ⟨fun hm => absurd hm hnot, fun _ => ⟨_, rfl, rfl, hold.size_eq, ?_⟩, ?_,
    fun hm => absurd hm hnot, h.stray_lt hdr⟩ fun a ha => ⟨?_, ?_, rfl, rfl⟩
  · intro p _
    cases p with
    | front i => exact hold.byte_eq (.front i) (by simp)
    | rear i => exact hold.byte_eq (.rear i) (by simp)
    | data i => exact (congrArg (Option.getD · FREE_POISON) (h.stray_live hdr hl i)).symm
  · exact fun hk => absurd (.inr List.mem_cons_self) hk
  · exact List.mem_erase_of_ne ha
  · exact ⟨fun hf => (List.mem_cons.mp hf).resolve_left ha, List.mem_cons_of_mem _⟩

/-- A block goes back to the real allocator. -/
lemma Stored.release (h : Stored blocks c) (hlive : c.live.Nodup) (hfreed : c.freed.Nodup) :
    Stored (Function.update blocks hdr none) (c.release hdr) := by
  have hl : hdr ∉ (c.release hdr).live := hlive.not_mem_erase
  have hf : hdr ∉ (c.release hdr).freed := hfreed.not_mem_erase
  refine h.update ⟨fun hm => absurd hm hl, fun hm => absurd hm hf, fun _ => rfl,
    fun hm => absurd hm hl, h.stray_lt hdr⟩ fun a ha => ⟨?_, ?_, rfl, rfl⟩
  · exact List.mem_erase_of_ne ha
  · exact List.mem_erase_of_ne ha

/-- The program writes to the memory of a live allocation. -/
lemma Stored.write_live (h : Stored blocks c) (hl : hdr ∈ c.live) (hf : hdr ∉ c.freed)
    (hb : blocks hdr = some b) (v : Byte) (i : ℕ) :
    Stored (Function.update blocks hdr (some (b.write v (.data i)))) c := by
  obtain ⟨b', hb', hold⟩ := h.live hdr hl
  obtain rfl : b = b' := Option.some.inj (hb.symm.trans hb')
  refine h.update ⟨fun _ => ⟨_, rfl, ?_, ?_, ?_⟩, fun hm => absurd hm hf,
    fun hk => absurd (.inl hl) hk, h.stray_live hdr, h.stray_lt hdr⟩
    fun a _ => ⟨Iff.rfl, Iff.rfl, rfl, rfl⟩
  · rw [Block.tag_write, hold.tag_eq]
  · rw [Block.size_write, hold.size_eq]
  · intro p hp
    have hpi : p ≠ .data i := fun hpi => absurd (hp ⟨i, hpi⟩) (by decide)
    rw [Block.byte_write, Function.update_of_ne hpi]
    exact hold.byte_eq p hp

/-- What a block holds after a stray byte was written to it. -/
lemma Holds.note (h : Holds c hdr tag b) (v : Byte) (place : Place) :
    Holds (c.note hdr place v) hdr tag (b.write v place) := by
  refine ⟨by rw [Block.tag_write, h.tag_eq], by rw [Block.size_write, h.size_eq]; rfl, ?_⟩
  intro p hp
  rw [Block.byte_write, c.stray_note_self]
  by_cases hpp : p = place
  · rw [hpp, Function.update_self, Function.update_self, Option.getD_some]
  · rw [Function.update_of_ne hpp, Function.update_of_ne hpp]
    exact h.byte_eq p hp

/-- The program writes where it must not. -/
lemma Stored.note (h : Stored blocks c) (hk : c.Knows hdr) (hb : blocks hdr = some b) (v : Byte)
    {place : Place} (hlt : ∀ i, place = .data i → hdr ∉ c.live ∧ i < (c.size hdr).toNat) :
    Stored (Function.update blocks hdr (some (b.write v place))) (c.note hdr place v) := by
  have hself : ∀ p, p ≠ place → (c.note hdr place v).stray hdr p = c.stray hdr p := by
    intro p hp
    rw [c.stray_note_self, Function.update_of_ne hp]
  refine h.update ⟨fun hl => ?_, fun hf => ?_, fun hn => absurd hk hn, fun hl i => ?_,
    fun i hi => ?_⟩ fun a ha => ⟨Iff.rfl, Iff.rfl, rfl, Function.update_of_ne ha ..⟩
  · obtain ⟨b', hb', hold⟩ := h.live hdr hl
    obtain rfl : b = b' := Option.some.inj (hb.symm.trans hb')
    exact ⟨_, rfl, hold.note v place⟩
  · obtain ⟨b', hb', hold⟩ := h.freed hdr hf
    obtain rfl : b = b' := Option.some.inj (hb.symm.trans hb')
    exact ⟨_, rfl, hold.note v place⟩
  · rw [hself _ fun hi => (hlt i hi.symm).1 hl]
    exact h.stray_live hdr hl i
  · by_cases hplace : place = .data i
    · exact (hlt i hplace).2
    · rw [hself _ fun hi => hplace hi.symm] at hi
      exact h.stray_lt hdr i hi

end Blocks

/-! ### Stray bytes -/

section Stray

variable {c : Account} {hdr : Addr} {tag : BitVec 32} {b : Block}

/-- The stray bytes of an allocation are those that the tracker puts there. -/
def Account.Sound (c : Account) (hdr : Addr) : Prop :=
  ∀ p v, c.stray hdr p = some v → v = p.fill

/-- **An allocation is intact exactly if no stray byte has changed it.** -/
lemma Holds.intact_iff (h : Holds c hdr tag b) (htag : tag = ALLOCATION_TAG ∨ tag = BACKLOG_TAG)
    (hlive : tag = ALLOCATION_TAG → ∀ i, c.stray hdr (.data i) = none)
    (hlt : ∀ i, c.stray hdr (.data i) ≠ none → i < (c.size hdr).toNat) :
    b.intact ↔ c.Sound hdr := by
  have hfront : b.is_front_guard_valid ↔
      ∀ i v, c.stray hdr (.front i) = some v → v = FRONT_GUARD := by
    rw [Block.is_front_guard_valid, decide_eq_true_iff]
    refine forall_congr' fun i => ?_
    rw [show b.front_guard i = _ from h.byte_eq (.front i) (by simp)]
    cases c.stray hdr (.front i) <;> simp [Place.fill]
  have hrear : b.is_rear_guard_valid.1 ↔
      ∀ i v, c.stray hdr (.rear i) = some v → v = REAR_GUARD := by
    rw [Block.is_rear_guard_valid, decide_eq_true_iff]
    refine forall_congr' fun i => ?_
    rw [show b.rear_guard i = _ from h.byte_eq (.rear i) (by simp)]
    cases c.stray hdr (.rear i) <;> simp [Place.fill]
  have hdata : ¬ (b.tag = BACKLOG_TAG ∧ b.was_used_after_free) ↔
      ∀ i v, c.stray hdr (.data i) = some v → v = FREE_POISON := by
    rcases htag with htag | htag
    · -- what the program writes to a live allocation is not stray
      have hnot : b.tag ≠ BACKLOG_TAG := by
        rw [h.tag_eq, htag]
        decide
      simp [hnot, hlive htag]
    · rw [h.tag_eq, htag, Block.was_used_after_free, decide_eq_true_iff, h.size_eq]
      simp only [true_and, not_exists, not_and, not_not]
      constructor
      · intro hpoison i v hv
        have hbyte := h.byte_eq (.data i) (fun _ => htag)
        rw [hv] at hbyte
        exact hbyte.symm.trans (hpoison i (hlt i (by simp [hv])))
      · intro hsound i _
        rw [show b.data i = _ from h.byte_eq (.data i) (fun _ => htag)]
        cases hv : c.stray hdr (.data i) with
        | none => rfl
        | some v => exact hsound i v hv
  rw [Block.intact, Bool.and_eq_true, Bool.and_eq_true, hfront, hrear, Bool.not_eq_true',
    ← Bool.not_eq_true, Bool.and_eq_true, decide_eq_true_iff, hdata]
  constructor
  · rintro ⟨⟨hf, hr⟩, hd⟩ p v hp
    cases p with
    | front i => exact hf i v hp
    | data i => exact hd i v hp
    | rear i => exact hr i v hp
  · exact fun hs => ⟨⟨fun i => hs (.front i), fun i => hs (.rear i)⟩, fun i => hs (.data i)⟩

end Stray

/-! ### The steps -/

/-- No stray byte was written. -/
def Account.Clean (c : Account) : Prop := ∀ hdr p, c.stray hdr p = none

/-- The program frees and reallocates live allocations only, and writes to their memory only. -/
def Account.Proper (c : Account) : Call → Prop
  | .free ptr _ | .realloc ptr _ _ _ => ptr ≠ 0 → metaHdr ptr ∈ c.live
  | .write hdr place _ => hdr ∈ c.live ∧ ∃ i, place = .data i
  | _ => True

namespace Tracks

variable {s : Tracker} {c : Account} {hdr ptr : Addr} {b : Block}

/-- What is kept is not live. -/
lemma not_live (h : Tracks s c) (hf : hdr ∈ c.freed) : hdr ∉ c.live :=
  fun hl => h.linked.disjoint hl hf

/-- The block of an allocation is intact exactly if its stray bytes have changed nothing. -/
lemma exists_block (h : Tracks s c) (hk : c.Knows hdr) :
    ∃ b, s.blocks hdr = some b ∧ (b.tag = ALLOCATION_TAG ∨ b.tag = BACKLOG_TAG) ∧
      (b.intact ↔ c.Sound hdr) := by
  rcases hk with hl | hf
  · obtain ⟨b, hb, hold⟩ := h.stored.live hdr hl
    exact ⟨b, hb, .inl hold.tag_eq,
      hold.intact_iff (.inl rfl) (fun _ => h.stored.stray_live hdr hl) (h.stored.stray_lt hdr)⟩
  · obtain ⟨b, hb, hold⟩ := h.stored.freed hdr hf
    exact ⟨b, hb, .inr hold.tag_eq,
      hold.intact_iff (.inr rfl) (fun htag => absurd htag (by decide)) (h.stored.stray_lt hdr)⟩

/-- A check of an allocation writes nothing if there are no stray bytes. -/
lemma lines_of_clean (h : Tracks s c) (hclean : c.Clean) (hk : c.Knows hdr)
    (hb : s.blocks hdr = some b) : (check_allocation s.milist hdr b).lines = [] := by
  obtain ⟨b', hb', htag, hintact⟩ := h.exists_block hk
  obtain rfl : b = b' := Option.some.inj (hb.symm.trans hb')
  refine check_allocation_lines htag (hintact.mpr fun p v hp => ?_)
  rw [hclean] at hp
  cases hp

/-- A new allocation. -/
lemma add (h : Tracks s c) {size : BitVec 32} (hroom : c.Room hdr size) (b : Block) :
    ∃ s', s.add hdr b size = some s' ∧ Tracks s' (c.allocate hdr size) ∧ s'.log = s.log := by
  obtain ⟨s', hs', hlinked, hblocks, -, hlog⟩ := h.linked.add (b := b)
    (fun hl => hroom.new (.inl hl)) (fun hf => hroom.new (.inr hf)) size hroom.fits
  refine ⟨s', hs', ⟨hlinked, h.bound, ?_⟩, hlog⟩
  rw [hblocks]
  exact h.stored.allocate hroom.new size

/-- An allocation goes back to the real allocator once it is in neither list. -/
lemma release (h : Tracks s c) {s' : Tracker}
    (hlinked : s'.Linked (c.release hdr).live (c.release hdr).freed)
    (hblocks : s'.blocks = Function.update s.blocks hdr none) : Tracks s' (c.release hdr) := by
  refine ⟨hlinked, ?_, ?_⟩
  · exact (List.length_erase_le ..).trans h.bound
  · rw [hblocks]
    exact h.stored.release h.linked.liveList.nodup h.linked.freedList.nodup

/-- What is freed is filled with poison and comes into the backlog. -/
lemma wrap_free_keep (h : Tracks s c) (hptr : ptr ≠ 0) (hl : metaHdr ptr ∈ c.live)
    (stack : List Addr) :
    ∃ s' : Tracker, s.wrap_free ptr stack = s'.clearUp (c.freed.length + 1 - BACKLOG_MAX) ∧
      s'.Linked (c.keep (metaHdr ptr)).live (c.keep (metaHdr ptr)).freed ∧
      Stored s'.blocks (c.keep (metaHdr ptr)) ∧
      (∀ a ≠ metaHdr ptr, s'.blocks a = s.blocks a) ∧ s'.milist = s.milist ∧ s'.log = s.log := by
  obtain ⟨b, hb, hold⟩ := h.stored.live _ hl
  obtain ⟨s₁, hs₁, hlinked₁, hblocks₁, hmi₁, hlog₁⟩ := h.linked.del hl hb hold.tag_eq
  have hb₁ : s₁.blocks (metaHdr ptr) = some b := by rw [hblocks₁, hb]
  have hfreed : metaHdr ptr ∉ c.freed := fun hf => h.not_live hf hl
  obtain ⟨s₂, hs₂, hlinked₂, hblocks₂, hmi₂, hlog₂⟩ :=
    (hlinked₁.setBlock (metaHdr ptr) (some { b with
      freed_bt := heaptracker_stacktrace stack MAX_BACKTRACE_DEPTH })).add_to_backlog
      h.linked.liveList.nodup.not_mem_erase hfreed (Function.update_self ..)
  rw [Tracker.blocks_setBlock, Function.update_idem, hblocks₁] at hblocks₂
  refine ⟨s₂, ?_, hlinked₂, ?_, ?_, hmi₂.trans hmi₁, hlog₂.trans hlog₁⟩
  · rw [Tracker.wrap_free_of_live hptr hs₁ hb₁, hs₂, ← hlinked₁.backlog_num]
    rfl
  · rw [hblocks₂]
    exact h.stored.keep hl h.linked.liveList.nodup hb _
  · intro a ha
    rw [hblocks₂, Function.update_of_ne ha]

/-- **A live allocation is freed.** It is kept, and the oldest of those that are kept leaves if they
are too many.

**Proof sketch.** The backlog was full or not. If it was, its oldest allocation is checked once more
and taken out, and what is left are the newest ones. -/
lemma wrap_free (h : Tracks s c) (hptr : ptr ≠ 0) (hl : metaHdr ptr ∈ c.live)
    (stack : List Addr) :
    ∃ s' lines, s.wrap_free ptr stack = some s' ∧ Tracks s' (c.free (metaHdr ptr)) ∧
      s'.log = s.log ++ lines ∧ (c.Clean → lines = []) := by
  obtain ⟨s₁, hs₁, hlinked₁, hstored₁, hblocks₁, hmi₁, hlog₁⟩ :=
    h.wrap_free_keep hptr hl stack
  have hfreed : metaHdr ptr ∉ c.freed := fun hf => h.not_live hf hl
  rw [hs₁, Account.free, if_pos hl]
  generalize metaHdr ptr = hdr at *
  rcases Nat.lt_or_eq_of_le h.bound with hlt | heq
  · rw [show c.freed.length + 1 - BACKLOG_MAX = 0 by omega, List.take_of_length_le hlt]
    refine ⟨s₁, [], rfl, ⟨hlinked₁, hlt, hstored₁⟩, ?_, fun _ => rfl⟩
    rw [hlog₁, List.append_nil]
  · obtain ⟨fs, gone, hfs⟩ : ∃ fs gone, c.freed = fs ++ [gone] := by
      refine ⟨_, _, (List.dropLast_append_getLast ?_).symm⟩
      rintro hnil
      rw [hnil] at heq
      exact absurd heq (by decide)
    have hmem : gone ∈ c.freed := by simp [hfs]
    have hne : gone ≠ hdr := fun hne => hfreed (hne ▸ hmem)
    obtain ⟨b, hb, -⟩ := h.stored.freed gone hmem
    have hb₁ : s₁.blocks gone = some b := by rw [hblocks₁ gone hne, hb]
    have hkeep : (c.keep hdr).freed = (hdr :: fs) ++ [gone] := by simp [Account.keep, hfs]
    rw [hkeep] at hlinked₁
    obtain ⟨s₂, hs₂, hlinked₂, hblocks₂, -, hlog₂⟩ := hlinked₁.evict hb₁
    have hnum : c.freed.length + 1 - BACKLOG_MAX = 0 + 1 := by omega
    have hfirst := hlinked₁.freedList.first_eq_of_append rfl
    have hlen : (hdr :: fs).length = BACKLOG_MAX := by
      rw [← heq, hfs, List.length_append, List.length_cons, List.length_singleton]
    have htake : (hdr :: c.freed).take BACKLOG_MAX = hdr :: fs := by
      rw [hfs, ← List.cons_append, List.take_left' hlen]
    have hrelease : (c.keep hdr).release gone = { c.keep hdr with freed := hdr :: fs } := by
      have hlive : gone ∉ (c.keep hdr).live := fun hg => h.not_live hmem (List.mem_of_mem_erase hg)
      have hnew : gone ∉ hdr :: fs := fun hg =>
        (List.nodup_append'.mp hlinked₁.freedList.nodup).2.2 hg (List.mem_singleton_self _)
      rw [Account.release, List.erase_of_not_mem hlive, hkeep, List.erase_append_right _ hnew,
        List.erase_cons_head, List.append_nil]
    rw [htake, ← hrelease]
    refine ⟨s₂, (check_allocation s₁.milist gone b).lines, ?_, ⟨?_, ?_, ?_⟩, ?_, ?_⟩
    · rw [hnum, Tracker.clearUp_succ hfirst hs₂]
      rfl
    · rw [hrelease]
      exact hlinked₂
    · rw [hrelease]
      exact hlen.le
    · rw [hblocks₂]
      exact hstored₁.release hlinked₁.liveList.nodup (hkeep ▸ hlinked₁.freedList.nodup)
    · rw [hlog₂, hlog₁]
    · intro hclean
      rw [hmi₁]
      exact h.lines_of_clean hclean (.inr hmem) hb

/-- What was freed before is left alone. -/
lemma wrap_free_again (h : Tracks s c) (hptr : ptr ≠ 0) (hf : metaHdr ptr ∈ c.freed)
    (stack : List Addr) :
    ∃ s' lines, s.wrap_free ptr stack = some s' ∧ Tracks s' (c.free (metaHdr ptr)) ∧
      s'.log = s.log ++ lines := by
  obtain ⟨b, hb, hold⟩ := h.stored.freed _ hf
  obtain ⟨lines, hlines⟩ := Tracker.wrap_free_of_freed hptr hb hold.tag_eq stack
  rw [Account.free, if_neg (h.not_live hf)]
  exact ⟨_, lines, hlines, ⟨h.linked.malloc_log lines, h.bound, h.stored⟩, rfl⟩

/-- A block moves once it is in neither list. -/
lemma reallocate (h : Tracks (s.setBlock hdr none) c) (hb : s.blocks hdr = some b)
    {x : Addr × Block} {size : BitVec 32} (hroom : c.Room x.1 size) (stack : List Addr) :
    ∃ s', s.reallocate hdr size stack (some x) = some (user x.1, s') ∧
      Tracks s' (c.allocate x.1 size) ∧ s'.log = s.log := by
  obtain ⟨s', hs', hs⟩ := h.add hroom (Tracker.traced (Tracker.moved b x.2.data) stack)
  refine ⟨s', ?_, hs⟩
  simp [Tracker.reallocate, hb, hs']

/-- **An allocation moves.** It is live again, wherever it was.

**Proof sketch.** A live allocation is taken out of the live ones; one that was freed before is
checked and taken out of the backlog. Either way it is in neither list when it moves. -/
lemma wrap_realloc (h : Tracks s c) {size : BitVec 32} (hsize : size ≠ 0) (hptr : ptr ≠ 0)
    (hk : c.Knows (metaHdr ptr)) {x : Addr × Block}
    (hroom : (c.release (metaHdr ptr)).Room x.1 size) (stack : List Addr) :
    ∃ s' lines, s.wrap_realloc ptr size stack (some x) = some (user x.1, s') ∧
      Tracks s' ((c.release (metaHdr ptr)).allocate x.1 size) ∧ s'.log = s.log ++ lines ∧
      (metaHdr ptr ∈ c.live → lines = []) := by
  rcases hk with hl | hf
  · have hfreed : metaHdr ptr ∉ c.freed := fun hf => h.not_live hf hl
    obtain ⟨b, hb, hold⟩ := h.stored.live _ hl
    obtain ⟨s₁, hs₁, hlinked₁, hblocks₁, -, hlog₁⟩ := h.linked.del hl hb hold.tag_eq
    have hb₁ : s₁.blocks (metaHdr ptr) = some b := by rw [hblocks₁, hb]
    have h₁ : Tracks (s₁.setBlock (metaHdr ptr) none) (c.release (metaHdr ptr)) := by
      refine h.release ?_ (by rw [Tracker.blocks_setBlock, hblocks₁])
      rw [Account.release, List.erase_of_not_mem hfreed]
      exact hlinked₁.setBlock _ none
    obtain ⟨s', hs', htracks, hlog⟩ := h₁.reallocate hb₁ hroom stack
    refine ⟨s', [], ?_, htracks, ?_, fun _ => rfl⟩
    · rw [Tracker.wrap_realloc_of_live hsize hptr hs₁ hb₁, hs']
    · rw [hlog, hlog₁, List.append_nil]
  · have hlive : metaHdr ptr ∉ c.live := h.not_live hf
    obtain ⟨b, hb, hold⟩ := h.stored.freed _ hf
    obtain ⟨lines, hlines⟩ :=
      Tracker.wrap_realloc_of_freed hsize hptr hb hold.tag_eq stack (some x)
    obtain ⟨s₁, hs₁, hlinked₁, hblocks₁, -, hlog₁⟩ :=
      (h.linked.malloc_log lines).del_from_backlog hf hb
    have hb₁ : s₁.blocks (metaHdr ptr) = some { b with tag := 0 } := by
      rw [hblocks₁, Function.update_self]
    have h₁ : Tracks (s₁.setBlock (metaHdr ptr) none) (c.release (metaHdr ptr)) := by
      refine h.release ?_ ?_
      · rw [Account.release, List.erase_of_not_mem hlive]
        exact hlinked₁.setBlock _ none
      · rw [Tracker.blocks_setBlock, hblocks₁, Function.update_idem, Tracker.blocks_malloc_log]
    obtain ⟨s', hs', htracks, hlog⟩ := h₁.reallocate hb₁ hroom stack
    refine ⟨s', _, ?_, htracks, (hlog.trans hlog₁).trans (List.append_assoc ..),
      fun hl => absurd hl hlive⟩
    rw [hlines, hs₁, Option.bind_some, hs']

/-- A byte is written. -/
lemma write (h : Tracks s c) (hk : c.Knows hdr) {place : Place}
    (hlt : ∀ i, place = .data i → i < (c.size hdr).toNat) (v : Byte) :
    ∃ b, s.blocks hdr = some b ∧
      Tracks (s.setBlock hdr (some (b.write v place))) (c.write hdr place v) := by
  obtain ⟨b, hb, -⟩ := h.exists_block hk
  refine ⟨b, hb, ?_⟩
  by_cases hlive : hdr ∈ c.live ∧ ∃ i, place = .data i
  · obtain ⟨hl, i, rfl⟩ := hlive
    rw [Account.write, if_pos hl]
    exact ⟨h.linked.setBlock hdr _, h.bound,
      h.stored.write_live hl (fun hf => h.not_live hf hl) hb v i⟩
  · have hnote : c.write hdr place v = c.note hdr place v := by
      cases place with
      | data i => exact if_neg fun hl => hlive ⟨hl, i, rfl⟩
      | _ => rfl
    rw [hnote]
    refine ⟨h.linked.setBlock hdr _, h.bound, h.stored.note hk hb v fun i hi => ⟨?_, hlt i hi⟩⟩
    exact fun hl => hlive ⟨hl, i, hi⟩

/-- A round of the scanner checks every allocation once. -/
lemma scanner (h : Tracks s c) :
    s.scanner = some (s.malloc_log ((c.live ++ c.freed).flatMap s.checkLines)) := by
  have hlive : s.check_list s.ends s.num = some (s.malloc_log (c.live.flatMap s.checkLines)) :=
    Tracker.logEach_eq h.linked.liveList h.linked.num.ge
      fun hdr hl => (h.exists_block (.inl hl)).imp fun b hb => hb.1
  have hfreed : (s.malloc_log (c.live.flatMap s.checkLines)).check_list s.backlog s.backlog_num =
      some ((s.malloc_log (c.live.flatMap s.checkLines)).malloc_log
        (c.freed.flatMap s.checkLines)) :=
    Tracker.logEach_eq h.linked.freedList h.linked.backlog_num.ge
      fun hdr hf => (h.exists_block (.inr hf)).imp fun b hb => hb.1
  rw [Tracker.scanner, hlive]
  refine hfreed.trans ?_
  rw [List.flatMap_append]
  simp only [Tracker.malloc_log, List.append_assoc]

/-- A round of the scanner writes nothing if there are no stray bytes. -/
lemma scanner_lines_of_clean (h : Tracks s c) (hclean : c.Clean) :
    (c.live ++ c.freed).flatMap s.checkLines = [] := by
  rw [List.flatMap_eq_nil_iff]
  intro hdr hk
  obtain ⟨b, hb, -⟩ := h.exists_block (List.mem_append.mp hk)
  rw [Tracker.checkLines, Tracker.linesOf, hb]
  exact h.lines_of_clean hclean (List.mem_append.mp hk) hb

/-- **A round of the scanner blames an allocation exactly if a stray byte has changed it.** -/
lemma scanner_blames (h : Tracks s c) (hdr : Addr) :
    ((c.live ++ c.freed).flatMap s.checkLines).any (Line.blames (user hdr)) = true ↔
      c.Knows hdr ∧ ¬ c.Sound hdr := by
  have hcheck : ∀ a, c.Knows a →
      ((s.checkLines a).any (Line.blames (user hdr)) = true ↔ ¬ c.Sound a ∧ a = hdr) := by
    intro a ha
    obtain ⟨b, hb, htag, hintact⟩ := h.exists_block ha
    rw [Tracker.checkLines, Tracker.linesOf, hb, Option.elim_some, check_allocation_blames htag,
      Bool.and_eq_true, Bool.not_eq_true', ← Bool.not_eq_true, hintact, decide_eq_true_iff]
    exact and_congr_right fun _ => ⟨user_inj, congrArg user⟩
  rw [List.any_flatMap, List.any_eq_true]
  constructor
  · rintro ⟨a, ha, hblames⟩
    have hk : c.Knows a := List.mem_append.mp ha
    obtain ⟨hsound, rfl⟩ := (hcheck a hk).mp hblames
    exact ⟨hk, hsound⟩
  · rintro ⟨hk, hsound⟩
    exact ⟨hdr, List.mem_append.mpr hk, (hcheck hdr hk).mpr ⟨hsound, rfl⟩⟩

/-- A call of `wrap_malloc`. -/
lemma wrap_malloc (h : Tracks s c) {size : BitVec 32} {r : Option (Addr × Block)}
    (hroom : ∀ x ∈ r, c.Room x.1 size) (stack : List Addr) :
    ∃ s', (s.wrap_malloc size stack r).map Prod.snd = some s' ∧
      Tracks s' (r.elim c fun x => c.allocate x.1 size) ∧ s'.log = s.log := by
  cases r with
  | none => exact ⟨s, rfl, h, rfl⟩
  | some x =>
    obtain ⟨s', hs', hs⟩ := h.add (hroom x rfl) (Tracker.traced x.2 stack)
    exact ⟨s', by simp [Tracker.wrap_malloc, hs'], hs⟩

/-- A call of `wrap_calloc`. -/
lemma wrap_calloc (h : Tracks s c) {nmemb size : BitVec 32} {r : Option (Addr × Block)}
    (hroom : ∀ x ∈ r, c.Room x.1 (nmemb * size)) (stack : List Addr) :
    ∃ s', (s.wrap_calloc nmemb size stack r).map Prod.snd = some s' ∧
      Tracks s' (r.elim c fun x => c.allocate x.1 (nmemb * size)) ∧ s'.log = s.log := by
  cases r with
  | none => exact ⟨s, rfl, h, rfl⟩
  | some x =>
    obtain ⟨s', hs', hs⟩ := h.add (hroom x rfl) (Tracker.traced (Tracker.cleared x.2) stack)
    exact ⟨s', by simp [Tracker.wrap_calloc, hs'], hs⟩

/-- A call of `wrap_free`. -/
lemma wrap_free_known (h : Tracks s c) (hk : c.Known ptr) (stack : List Addr) :
    ∃ s' lines, s.wrap_free ptr stack = some s' ∧
      Tracks s' (if ptr = 0 then c else c.free (metaHdr ptr)) ∧ s'.log = s.log ++ lines ∧
      (c.Clean → (ptr ≠ 0 → metaHdr ptr ∈ c.live) → lines = []) := by
  by_cases hptr : ptr = 0
  · rw [if_pos hptr, hptr, Tracker.wrap_free_null]
    exact ⟨s, [], rfl, h, (List.append_nil _).symm, fun _ _ => rfl⟩
  · rw [if_neg hptr]
    rcases hk.resolve_left hptr with hl | hf
    · obtain ⟨s', lines, hs', htracks, hlog, hlines⟩ := h.wrap_free hptr hl stack
      exact ⟨s', lines, hs', htracks, hlog, fun hclean _ => hlines hclean⟩
    · obtain ⟨s', lines, hs', htracks, hlog⟩ := h.wrap_free_again hptr hf stack
      exact ⟨s', lines, hs', htracks, hlog, fun _ hl => absurd (hl hptr) (h.not_live hf)⟩

/-- **A step keeps the account.** It has a result, and it writes nothing if the program has written
to its own memory only, and goes on to do so.

**Proof sketch.** By cases on the step. -/
theorem step (h : Tracks s c) {a : Call} (ha : c.Allows a) :
    ∃ s' lines, s.perform a = some s' ∧ Tracks s' (c.step a) ∧ s'.log = s.log ++ lines ∧
      (c.Clean → c.Proper a → lines = []) := by
  cases a with
  | malloc size stack r =>
    obtain ⟨s', hs', htracks, hlog⟩ := h.wrap_malloc ha stack
    exact ⟨s', [], hs', htracks, by rw [hlog, List.append_nil], fun _ _ => rfl⟩
  | calloc nmemb size stack r =>
    obtain ⟨s', hs', htracks, hlog⟩ := h.wrap_calloc ha stack
    exact ⟨s', [], hs', htracks, by rw [hlog, List.append_nil], fun _ _ => rfl⟩
  | free ptr stack => exact h.wrap_free_known ha stack
  | write hdr place v =>
    obtain ⟨b, hb, htracks⟩ := h.write ha.1 ha.2 v
    exact ⟨_, [], by rw [Tracker.perform, hb, Option.map_some], htracks,
      (List.append_nil _).symm, fun _ _ => rfl⟩
  | scan =>
    exact ⟨_, _, h.scanner, ⟨h.linked.malloc_log _, h.bound, h.stored⟩, rfl,
      fun hclean _ => h.scanner_lines_of_clean hclean⟩
  | realloc ptr size stack r =>
    obtain ⟨hknown, hnull, hmove⟩ := ha
    by_cases hsize : size = 0
    · obtain ⟨s', lines, hs', hs⟩ := h.wrap_free_known hknown stack
      refine ⟨s', lines, ?_, by rw [Account.step, if_pos hsize]; exact hs⟩
      rw [Tracker.perform, hsize, Tracker.wrap_realloc_zero, hs']
      rfl
    by_cases hptr : ptr = 0
    · obtain ⟨s', hs', htracks, hlog⟩ := h.wrap_malloc (hnull hsize hptr) stack
      refine ⟨s', [], ?_, ?_, by rw [hlog, List.append_nil], fun _ _ => rfl⟩
      · rw [Tracker.perform, hptr, Tracker.wrap_realloc_null hsize, hs']
      · rw [Account.step, if_neg hsize, if_pos hptr]
        exact htracks
    · obtain ⟨x, rfl, hroom⟩ := hmove hsize hptr
      obtain ⟨s', lines, hs', htracks, hlog, hlines⟩ :=
        h.wrap_realloc hsize hptr (hknown.resolve_left hptr) hroom stack
      refine ⟨s', lines, ?_, ?_, hlog, fun _ hp => hlines (hp hptr)⟩
      · rw [Tracker.perform, hs']
        rfl
      · rw [Account.step, if_neg hsize, if_neg hptr]
        exact htracks

end Tracks

/-! ### Runs -/

/-- A step of a process, if nothing went wrong before. -/
def exec (o : Option Tracker) (a : Call) : Option Tracker := o.bind (·.perform a)

/-- The tracker of a process that has allocated nothing. -/
lemma tracks_init (milist : List mapinfo) (links : Addr → Node Addr) :
    Tracks (Tracker.init milist links) Account.init where
  linked := ⟨LinkedList.represents_empty links, LinkedList.represents_empty links,
    List.disjoint_nil_left _, rfl, rfl⟩
  bound := Nat.zero_le _
  stored := by
    rw [stored_iff]
    intro hdr
    exact ⟨fun h => absurd h List.not_mem_nil, fun h => absurd h List.not_mem_nil, fun _ => rfl,
      fun _ _ => rfl, fun _ h => absurd rfl h⟩

/-- **The tracker keeps its account in every run**: the two lists, their counts, the headers and the
bytes are those of the account, and nothing is written outside of a block.

**Proof sketch.** `Tracks` relates the states of the tracker and the accounts, and every step keeps
it. -/
theorem tracks_run (milist : List mapinfo) (links : Addr → Node Addr) {run : List Call}
    (h : StepRun.Along Account.step Account.Allows Account.init run) :
    ∃ s, StepRun.final exec (some (Tracker.init milist links)) run = some s ∧
      Tracks s (StepRun.final Account.step Account.init run) := by
  refine StepRun.simulates_of_along (R := fun c o => ∃ s, o = some s ∧ Tracks s c) ?_
    ⟨_, rfl, tracks_init milist links⟩ h
  rintro c _ a ⟨s, rfl, htracks⟩ ha
  obtain ⟨s', lines, hs', htracks', -⟩ := htracks.step ha
  exact ⟨s', hs', htracks'⟩

/-- **The lists of the tracker.** After a run the two linked lists hold the live allocations and the
last ones that were freed, the newest first; the counts are their lengths, no allocation is in both,
and the tracker has given back every other block.

**Proof sketch.** This is what the account says of the lists and the blocks. -/
theorem lists_of_run (milist : List mapinfo) (links : Addr → Node Addr) {run : List Call}
    {c : Account} (hc : StepRun.final Account.step Account.init run = c)
    (h : StepRun.Along Account.step Account.Allows Account.init run) :
    ∃ s, StepRun.final exec (some (Tracker.init milist links)) run = some s ∧
      Represents s.links s.ends c.live ∧ Represents s.links s.backlog c.freed ∧
      s.num = c.live.length ∧ s.backlog_num = c.freed.length ∧ c.freed.length ≤ BACKLOG_MAX ∧
      c.live.Disjoint c.freed ∧ ∀ hdr, s.blocks hdr ≠ none ↔ c.Knows hdr := by
  obtain ⟨s, hs, htracks⟩ := tracks_run milist links h
  rw [hc] at htracks
  refine ⟨s, hs, htracks.linked.liveList, htracks.linked.freedList, htracks.linked.num,
    htracks.linked.backlog_num, htracks.bound, htracks.linked.disjoint, fun hdr => ⟨?_, ?_⟩⟩
  · intro hb
    by_contra hk
    exact hb (htracks.stored.other hdr hk)
  · intro hk
    obtain ⟨b, hb, -⟩ := htracks.exists_block hk
    rw [hb]
    exact Option.some_ne_none b

/-- Eight bytes are allocated and freed, and a byte is written in between. -/
def sampleRun (place : Place) : List Call :=
  [.malloc 8 [] (some (0x1000, ⟨0, [], [], 0, fun _ => 0, fun _ => 0, fun _ => 0⟩)),
    .write 0x1000 place 7, .free (user 0x1000) []]

/-- The callers may do so, as long as the byte lies in the block. -/
lemma sampleRun_allows (place : Place) (hplace : ∀ i, place = .data i → i < 8) :
    StepRun.Along Account.step Account.Allows Account.init (sampleRun place) := by
  have hfree : metaHdr (user 0x1000) = 0x1000 := metaHdr_user _
  refine ⟨?_, ⟨.inl List.mem_cons_self, hplace⟩, ?_, trivial⟩
  · rintro x ⟨⟩
    exact ⟨by decide, by decide, by decide⟩
  · refine .inr (.inl ?_)
    rw [hfree]
    cases place <;> exact List.mem_cons_self

/-- The lists after a byte behind the allocation was written. -/
theorem lists_of_run_sample :
    ∃ s, StepRun.final exec (some (Tracker.init [] fun _ => ⟨none, none⟩))
        (sampleRun (.rear ⟨0, by decide⟩)) = some s ∧
      Represents s.links s.ends [] ∧ Represents s.links s.backlog [0x1000] ∧
      s.num = 0 ∧ s.backlog_num = 1 ∧ 1 ≤ BACKLOG_MAX ∧ List.Disjoint ([] : List Addr) [0x1000] ∧
      ∀ hdr, s.blocks hdr ≠ none ↔ hdr ∈ ([] : List Addr) ∨ hdr ∈ [0x1000] :=
  lists_of_run [] (fun _ => ⟨none, none⟩) (c := ⟨[], [0x1000], _, _⟩) rfl
    (sampleRun_allows _ fun i hi => by cases hi)

/-- A proper step writes no stray byte. -/
lemma Account.Clean.step {c : Account} (h : c.Clean) {a : Call} (ha : c.Proper a) :
    (c.step a).Clean := by
  have hallocate : ∀ (c : Account) (hdr : Addr) (size : BitVec 32), c.Clean →
      (c.allocate hdr size).Clean := by
    intro c hdr size hc a p
    by_cases hah : a = hdr
    · rw [hah, Account.stray_allocate_self]
    · exact (congrFun (Function.update_of_ne hah ..) p).trans (hc a p)
  have hfree : ∀ hdr, (c.free hdr).Clean := by
    intro hdr
    rw [Account.free]
    split_ifs <;> exact h
  cases a with
  | malloc size stack r => cases r with
    | none => exact h
    | some x => exact hallocate c x.1 size h
  | calloc nmemb size stack r => cases r with
    | none => exact h
    | some x => exact hallocate c x.1 (nmemb * size) h
  | free ptr stack =>
    rw [Account.step]
    split_ifs
    · exact h
    · exact hfree _
  | realloc ptr size stack r =>
    rw [Account.step]
    split_ifs
    · exact h
    · exact hfree _
    · cases r with
      | none => exact h
      | some x => exact hallocate c x.1 size h
    · cases r with
      | none => exact h
      | some x => exact hallocate (c.release (metaHdr ptr)) x.1 size h
  | write hdr place v =>
    obtain ⟨hl, i, rfl⟩ := ha
    rw [Account.step, Account.write, if_pos hl]
    exact h
  | scan => exact h

/-- **No false alarm.** A program that writes to its own memory only, and frees nothing twice, gets
no report.

**Proof sketch.** No stray byte is ever written, so that no step writes a line. -/
theorem log_of_proper (milist : List mapinfo) (links : Addr → Node Addr) {run : List Call}
    (h : StepRun.Along Account.step (fun c a => c.Allows a ∧ c.Proper a) Account.init run) :
    ∃ s, StepRun.final exec (some (Tracker.init milist links)) run = some s ∧ s.log = [] := by
  suffices hrun : (StepRun.final Account.step Account.init run).Clean ∧
      ∃ s, StepRun.final exec (some (Tracker.init milist links)) run = some s ∧
        Tracks s (StepRun.final Account.step Account.init run) ∧ s.log = [] by
    obtain ⟨-, s, hs, -, hlog⟩ := hrun
    exact ⟨s, hs, hlog⟩
  refine StepRun.simulates_of_along
    (R := fun c o => c.Clean ∧ ∃ s, o = some s ∧ Tracks s c ∧ s.log = []) ?_
    ⟨fun _ _ => rfl, _, rfl, tracks_init milist links, rfl⟩ h
  rintro c _ a ⟨hclean, s, rfl, htracks, hlog⟩ ⟨ha, hp⟩
  obtain ⟨s', lines, hs', htracks', hlog', hlines⟩ := htracks.step ha
  refine ⟨hclean.step hp, s', hs', htracks', ?_⟩
  rw [hlog', hlog, hlines hclean hp, List.append_nil]

/-- A program that writes to its allocation gets no report. -/
theorem log_of_proper_sample :
    ∃ s, StepRun.final exec (some (Tracker.init [] fun _ => ⟨none, none⟩))
      (sampleRun (.data 3)) = some s ∧ s.log = [] := by
  refine log_of_proper [] (fun _ => ⟨none, none⟩) ?_
  have hallows := sampleRun_allows (.data 3) fun i hi => by cases hi; decide
  exact ⟨⟨hallows.1, trivial⟩, ⟨hallows.2.1, List.mem_cons_self, 3, rfl⟩,
    ⟨hallows.2.2.1, fun _ => by rw [metaHdr_user]; exact List.mem_cons_self⟩, trivial⟩

/-- **The scanner finds every change, and no other.** After a run it blames an allocation, live or
kept, exactly if the last stray byte at some place of it is another one than the tracker had put
there.

**Proof sketch.** The scanner goes through both lists, which are those of the account, and a check
blames the allocation if it is not intact. -/
theorem scan_reports (milist : List mapinfo) (links : Addr → Node Addr) {run : List Call}
    (h : StepRun.Along Account.step Account.Allows Account.init run) :
    ∃ s lines, StepRun.final exec (some (Tracker.init milist links)) run = some s ∧
      s.scanner = some (s.malloc_log lines) ∧
      ∀ hdr, lines.any (Line.blames (user hdr)) = true ↔
        (StepRun.final Account.step Account.init run).Knows hdr ∧
          ¬ (StepRun.final Account.step Account.init run).Sound hdr := by
  obtain ⟨s, hs, htracks⟩ := tracks_run milist links h
  exact ⟨s, _, hs, htracks.scanner, htracks.scanner_blames⟩

/-- The allocation is blamed if a byte behind it was written. -/
theorem scan_reports_sample :
    ∃ s lines, StepRun.final exec (some (Tracker.init [] fun _ => ⟨none, none⟩))
        (sampleRun (.rear ⟨0, by decide⟩)) = some s ∧
      s.scanner = some (s.malloc_log lines) ∧
      ∀ hdr, lines.any (Line.blames (user hdr)) = true ↔
        (StepRun.final Account.step Account.init (sampleRun (.rear ⟨0, by decide⟩))).Knows hdr ∧
          ¬ (StepRun.final Account.step Account.init
            (sampleRun (.rear ⟨0, by decide⟩))).Sound hdr :=
  scan_reports [] (fun _ => ⟨none, none⟩) (sampleRun_allows _ fun i hi => by cases hi)

end HeapTracker
