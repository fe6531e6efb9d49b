import Mathlib.Data.List.FinRange
import Gs702aHal.Lib.LinkedList
import Gs702aHal.Lib.StepRun

set_option relaxedAutoImplicit false
set_option autoImplicit false

/-!
# The heap tracker

The camera library can be built with a tracker in front of the allocator. Every block gets a header
and is surrounded by guard bytes; the headers of the live allocations are linked, and so are those
of the last allocations that were freed, whose memory is kept for a while and filled with poison. A
scanner looks at all of them for bytes that have changed.

What the real allocator returns, the call stack and the bytes that the program writes are part of a
step. A step that writes outside of a block, or that reads a header where there is none, has no
result.

## Main definitions

* `HeapTracker.check_allocation` — the check of one allocation.
* `HeapTracker.Tracker`, `HeapTracker.Tracker.perform` — the tracker and its steps.
* `HeapTracker.Account`, `HeapTracker.Account.step` — what it is for: the live allocations, those
  freed last, and the bytes that the program has written where it must not.
* `HeapTracker.Account.Allows` — what the callers and the real allocator keep to.
-/

namespace HeapTracker

open LinkedList (Ends Node Represents)

/-- An address. -/
abbrev Addr := BitVec 32

/-- A byte. -/
abbrev Byte := BitVec 8

/-- The longest call stack that is kept. -/
def MAX_BACKTRACE_DEPTH : ℕ := 20

/-- The tag of a live allocation. -/
def ALLOCATION_TAG : BitVec 32 := 0x1ee7d00d

/-- The tag of one that was freed. -/
def BACKLOG_TAG : BitVec 32 := 0xbabecafe

/-- The bytes of freed memory. -/
def FREE_POISON : Byte := 0xa5

/-- So many freed allocations are kept. -/
def BACKLOG_MAX : ℕ := 50

/-- The bytes in front of an allocation. -/
def FRONT_GUARD : Byte := 0xaa

/-- Their number. -/
def FRONT_GUARD_LEN : ℕ := 16

/-- The bytes behind it. -/
def REAR_GUARD : Byte := 0xbb

/-- Their number. -/
def REAR_GUARD_LEN : ℕ := 16

/-- `sizeof(struct hdr)`: the tag, two links, two call stacks with their depths, the size and the
front guard. -/
def sizeofHdr : ℕ :=
  4 + 4 + 4 + 4 * MAX_BACKTRACE_DEPTH + 4 + 4 * MAX_BACKTRACE_DEPTH + 4 + 4 + FRONT_GUARD_LEN

/-- A block of the real allocator: the header but for its links, the memory of the program, of which
the first `size` bytes count, and the guard behind it. -/
structure Block where
  tag : BitVec 32
  bt : List Addr
  freed_bt : List Addr
  size : BitVec 32
  front_guard : Fin FRONT_GUARD_LEN → Byte
  data : ℕ → Byte
  rear_guard : Fin REAR_GUARD_LEN → Byte

/-- `user`, the address that the program gets. -/
def user (hdr : Addr) : Addr := hdr + BitVec.ofNat 32 sizeofHdr

/-- `meta`, the header in front of such an address. -/
def metaHdr (ptr : Addr) : Addr := ptr - BitVec.ofNat 32 sizeofHdr

/-- The header of what the program gets. -/
@[simp] lemma metaHdr_user (hdr : Addr) : metaHdr (user hdr) = hdr := by
  rw [metaHdr, user, BitVec.add_sub_cancel]

/-- What the program gets determines the header. -/
lemma user_inj {a b : Addr} (h : user a = user b) : a = b := by
  rw [← metaHdr_user a, h, metaHdr_user]

/-! ### Reports -/

/-- `mapinfo`, a library and where it is mapped. -/
structure mapinfo where
  start : BitVec 32
  stop : BitVec 32
  name : List Char

/-- A line of `malloc_log`. -/
inductive Line
  | stars
  | pc (cnt : ℕ) (pc : BitVec 32) (name : List Char)
  | rearMismatch (start stop : ℕ)
  | corruptedFront (p : Addr) (size : BitVec 32)
  | corruptedFrontNoTrace (p : Addr)
  | corruptedRear (p : Addr) (size : BitVec 32)
  | invalidTag (p : Addr) (tag : BitVec 32)
  | usedAfterFree (p : Addr) (size : BitVec 32)
  | allocatedHere (p : Addr) (size : BitVec 32)
  | freedHere (p : Addr) (size : BitVec 32)
  | multiplyFreed (p : Addr) (size : BitVec 32)
  | firstFreedHere (p : Addr) (size : BitVec 32)
  | nowFreedHere (p : Addr) (size : BitVec 32)
  | notTracked (p : Addr)
  | reallocationOfFreed (p : Addr) (size : BitVec 32)
  | nowReallocatedHere (p : Addr) (size : BitVec 32)
  | reallocationNotTracked (p : Addr) (size : BitVec 32)
  | leaked (num : ℕ)
  | deleting (size : BitVec 32) (p : Addr) (remaining : ℕ)
  deriving DecidableEq, Repr

/-- The lines by which a check finds fault with an allocation. -/
def Line.blames (p : Addr) : Line → Bool
  | .corruptedFront q _ | .corruptedFrontNoTrace q | .corruptedRear q _ | .invalidTag q _
  | .usedAfterFree q _ => q = p
  | _ => false

/-- `heaptracker_stacktrace`: the addresses of the call stack up to the first zero. -/
def heaptracker_stacktrace (stack : List Addr) (max_entries : ℕ) : List Addr :=
  (stack.takeWhile (· ≠ 0)).take max_entries

/-- `pc_to_mapinfo`, with the address in the library if it is a shared one. -/
def pc_to_mapinfo (milist : List mapinfo) (pc : BitVec 32) : Option (mapinfo × BitVec 32) :=
  (milist.find? fun mi => mi.start ≤ pc ∧ pc < mi.stop).map fun mi =>
    (mi, if ".so".toList <:+: mi.name then pc - mi.start else pc)

/-- `print_backtrace`. -/
def print_backtrace (milist : List mapinfo) (bt : List Addr) : List Line :=
  .stars :: (bt.take MAX_BACKTRACE_DEPTH).zipIdx.map fun (pc, cnt) =>
    match pc_to_mapinfo milist pc with
    | some (mi, rel_pc) => .pc cnt rel_pc mi.name
    | none => .pc cnt pc "(unknown)".toList

/-! ### Checks -/

/-- `is_front_guard_valid`. -/
def Block.is_front_guard_valid (b : Block) : Bool := decide (∀ i, b.front_guard i = FRONT_GUARD)

/-- The loop of `is_rear_guard_valid`, from the byte `i` on, with the first of the changed bytes
before it: the lines that it writes. -/
def rearMismatches : List Byte → ℕ → Option ℕ → List Line
  | [], i, first_mismatch => (first_mismatch.map (Line.rearMismatch · i)).toList
  | v :: guard, i, first_mismatch =>
    if v ≠ REAR_GUARD then rearMismatches guard (i + 1) (first_mismatch.or (some i))
    else (first_mismatch.map (Line.rearMismatch · i)).toList ++ rearMismatches guard (i + 1) none

/-- `is_rear_guard_valid`. -/
def Block.is_rear_guard_valid (b : Block) : Bool × List Line :=
  (decide (∀ i, b.rear_guard i = REAR_GUARD), rearMismatches (List.ofFn b.rear_guard) 0 none)

/-- `was_used_after_free`. -/
def Block.was_used_after_free (b : Block) : Bool :=
  decide (∃ i < b.size.toNat, b.data i ≠ FREE_POISON)

/-- What a check finds: whether the allocation is valid, whether its call stacks may be printed, and
the lines that it writes. -/
structure Verdict where
  valid : Bool
  safe : Bool
  lines : List Line

/-- `check_guards`. -/
def check_guards (hdr : Addr) (b : Block) : Verdict :=
  if b.is_front_guard_valid then
    let rear := b.is_rear_guard_valid
    if rear.1 then ⟨true, true, rear.2⟩
    else ⟨false, true, rear.2 ++ [.corruptedRear (user hdr) b.size]⟩
  else if b.front_guard ⟨0, by decide⟩ = FRONT_GUARD then
    ⟨false, true, [.corruptedFront (user hdr) b.size]⟩
  else ⟨false, false, [.corruptedFrontNoTrace (user hdr)]⟩

/-- The end of `__check_allocation`, which prints the call stacks of an invalid allocation. -/
def traces (milist : List mapinfo) (hdr : Addr) (b : Block) (v : Verdict) : Verdict :=
  if !v.valid && v.safe then
    { v with lines := v.lines ++ .allocatedHere (user hdr) b.size :: print_backtrace milist b.bt ++
        if b.tag = BACKLOG_TAG then
          .freedHere (user hdr) b.size :: print_backtrace milist b.freed_bt
        else [] }
  else v

/-- `__check_allocation`. -/
def check_allocation (milist : List mapinfo) (hdr : Addr) (b : Block) : Verdict :=
  if b.tag ≠ ALLOCATION_TAG ∧ b.tag ≠ BACKLOG_TAG then
    ⟨false, false, [.invalidTag (user hdr) b.tag]⟩
  else if b.tag = BACKLOG_TAG ∧ b.was_used_after_free then
    let v := check_guards hdr b
    traces milist hdr b ⟨false, v.safe, .usedAfterFree (user hdr) b.size :: v.lines⟩
  else traces milist hdr b (check_guards hdr b)

/-! ### The tracker -/

/-- The state of the tracker: the blocks of the real allocator, the links in their headers, the
number and the ends of the live allocations, those of the freed ones, and what has been logged. -/
structure Tracker where
  milist : List mapinfo
  blocks : Addr → Option Block
  links : Addr → Node Addr
  num : ℕ
  ends : Ends Addr
  backlog_num : ℕ
  backlog : Ends Addr
  log : List Line

namespace Tracker

/-- The tracker of a process that has allocated nothing. -/
def init (milist : List mapinfo) (links : Addr → Node Addr) : Tracker :=
  ⟨milist, fun _ => none, links, 0, Ends.empty, 0, Ends.empty, []⟩

/-- `malloc_log`. -/
def malloc_log (s : Tracker) (lines : List Line) : Tracker := { s with log := s.log ++ lines }

/-- What a block is set to. -/
def setBlock (s : Tracker) (hdr : Addr) (b : Option Block) : Tracker :=
  { s with blocks := Function.update s.blocks hdr b }

/-- The block with its tag, its size and its guards. -/
def prepared (b : Block) (size : BitVec 32) : Block :=
  { b with
    tag := ALLOCATION_TAG
    size := size
    front_guard := fun _ => FRONT_GUARD
    rear_guard := fun _ => REAR_GUARD }

/-- `add`. If the sum of the sizes was too large for a word, then the block is shorter than what is
written to it. -/
def add (hdr : Addr) (b : Block) (size : BitVec 32) (s : Tracker) : Option Tracker :=
  if sizeofHdr + size.toNat + REAR_GUARD_LEN < 2 ^ 32 then
    let (links, ends) := LinkedList.add hdr s.links s.ends
    some { s.setBlock hdr (some (prepared b size)) with
      num := s.num + 1
      links := links
      ends := ends }
  else none

/-- `del`, and whether it succeeds. -/
def del (hdr : Addr) (s : Tracker) : Option (Bool × Tracker) := do
  let b ← s.blocks hdr
  if b.tag ≠ ALLOCATION_TAG then
    return (false, s)
  let (links, ends) := LinkedList.del hdr s.links s.ends
  return (true, { s with num := s.num - 1, links := links, ends := ends })

/-- `__del_and_check` for the list with these ends: it looks at the address of `safe`, which is
never null. -/
def del_and_check (hdr : Addr) (ends : Ends Addr) (s : Tracker) :
    Option (Bool × Ends Addr × Tracker) := do
  let b ← s.blocks hdr
  let v := check_allocation s.milist hdr b
  let (links, ends) := LinkedList.del hdr s.links ends
  return (v.valid, ends, { s.malloc_log v.lines with links := links })

/-- `__del_from_backlog`. -/
def del_from_backlog (hdr : Addr) (s : Tracker) : Option Tracker := do
  let (_, backlog, s) ← s.del_and_check hdr s.backlog
  let b ← s.blocks hdr
  return { s.setBlock hdr (some { b with tag := 0 }) with
    backlog_num := s.backlog_num - 1
    backlog := backlog }

/-- `del_leak`, and whether the allocation is valid. -/
def del_leak (hdr : Addr) (s : Tracker) : Option (Bool × Tracker) := do
  let (valid, ends, s) ← s.del_and_check hdr s.ends
  return (valid, { s with num := s.num - 1, ends := ends })

/-- `__real_free`. -/
def real_free (hdr : Addr) (s : Tracker) : Option Tracker := do
  let _ ← s.blocks hdr
  return s.setBlock hdr none

/-- So many rounds of the loop of `add_to_backlog`, each of which takes one allocation out. -/
def clearUp : ℕ → Tracker → Option Tracker
  | 0, s => some s
  | rounds + 1, s => do
    let gone ← s.backlog.first
    let s ← s.del_from_backlog gone
    let s ← s.real_free gone
    clearUp rounds s

/-- `add_to_backlog`. -/
def add_to_backlog (hdr : Addr) (s : Tracker) : Option Tracker := do
  let b ← s.blocks hdr
  let (links, backlog) := LinkedList.add hdr s.links s.backlog
  let s := { s.setBlock hdr (some { b with tag := BACKLOG_TAG, data := fun _ => FREE_POISON }) with
    backlog_num := s.backlog_num + 1
    links := links
    backlog := backlog }
  s.clearUp (s.backlog_num - BACKLOG_MAX)

/-- The call stack of a block. -/
def traced (b : Block) (stack : List Addr) : Block :=
  { b with bt := heaptracker_stacktrace stack MAX_BACKTRACE_DEPTH }

/-- The memory of a block that `calloc` returns. -/
def cleared (b : Block) : Block := { b with data := fun _ => 0 }

/-- `__wrap_malloc`; `r` is the block that the real allocator returns. -/
def wrap_malloc (size : BitVec 32) (stack : List Addr) (r : Option (Addr × Block)) (s : Tracker) :
    Option (Addr × Tracker) :=
  match r with
  | some (hdr, b) => do
    let s ← s.add hdr (traced b stack) size
    return (user hdr, s)
  | none => return (0, s)

/-- `__wrap_calloc`. -/
def wrap_calloc (nmemb size : BitVec 32) (stack : List Addr) (r : Option (Addr × Block))
    (s : Tracker) : Option (Addr × Tracker) :=
  match r with
  | some (hdr, b) => do
    let s ← s.add hdr (traced (cleared b) stack) (nmemb * size)
    return (user hdr, s)
  | none => return (0, s)

/-- `__wrap_free`. -/
def wrap_free (ptr : Addr) (stack : List Addr) (s : Tracker) : Option Tracker := do
  if ptr = 0 then
    return s
  let hdr := metaHdr ptr
  let bt := heaptracker_stacktrace stack MAX_BACKTRACE_DEPTH
  let (found, s) ← s.del hdr
  let b ← s.blocks hdr
  if found then
    (s.setBlock hdr (some { b with freed_bt := bt })).add_to_backlog hdr
  else if b.tag = BACKLOG_TAG then
    return s.malloc_log (.multiplyFreed (user hdr) b.size ::
      .allocatedHere (user hdr) b.size :: print_backtrace s.milist b.bt ++
      .firstFreedHere (user hdr) b.size :: print_backtrace s.milist b.freed_bt ++
      .nowFreedHere (user hdr) b.size :: print_backtrace s.milist bt)
  else
    return s.malloc_log (.notTracked (user hdr) :: print_backtrace s.milist bt)

/-- A block that was moved to a longer or shorter one: its bytes are copied, those of the rear guard
too, and what lies behind them is new. -/
def moved (b : Block) (rest : ℕ → Byte) : Block :=
  { b with
    data := fun i =>
      if i < b.size.toNat then b.data i
      else if h : i - b.size.toNat < REAR_GUARD_LEN then b.rear_guard ⟨i - b.size.toNat, h⟩
      else rest i }

/-- The end of `__wrap_realloc`; `r` is where the real allocator moves the block to, with what was
there. -/
def reallocate (hdr : Addr) (size : BitVec 32) (stack : List Addr) (r : Option (Addr × Block))
    (s : Tracker) : Option (Addr × Tracker) := do
  let b ← s.blocks hdr
  match r with
  | some (hdr', raw) => do
    let s ← (s.setBlock hdr none).add hdr' (traced (moved b raw.data) stack) size
    return (user hdr', s)
  | none => return (0, s)

/-- `__wrap_realloc`. For memory that is not the tracker's it returns what the real allocator
returns, which is not tracked; a null pointer is left to `__wrap_malloc`. -/
def wrap_realloc (ptr size : BitVec 32) (stack : List Addr) (r : Option (Addr × Block))
    (s : Tracker) : Option (Addr × Tracker) := do
  if size = 0 then
    let s ← s.wrap_free ptr stack
    return (0, s)
  if ptr = 0 then
    return ← s.wrap_malloc size stack r
  let hdr := metaHdr ptr
  let bt := heaptracker_stacktrace stack MAX_BACKTRACE_DEPTH
  let (found, s) ← s.del hdr
  let b ← s.blocks hdr
  if found then
    s.reallocate hdr size stack r
  else if b.tag = BACKLOG_TAG then
    let s := s.malloc_log (.reallocationOfFreed (user hdr) size ::
      .allocatedHere (user hdr) b.size :: print_backtrace s.milist b.bt ++
      .firstFreedHere (user hdr) b.size :: print_backtrace s.milist b.freed_bt ++
      .nowReallocatedHere (user hdr) b.size :: print_backtrace s.milist bt)
    let s ← s.del_from_backlog hdr
    s.reallocate hdr size stack r
  else
    return ((r.map Prod.fst).getD 0,
      s.malloc_log (.reallocationNotTracked (user hdr) size :: print_backtrace s.milist bt))

/-- A loop through the list with these ends that logs something about every allocation. -/
def logEach (lines : Addr → Block → List Line) (list : Ends Addr) (fuel : ℕ) (s : Tracker) :
    Option Tracker :=
  LinkedList.forEach s.links
    (fun hdr (s : Tracker) => do
      let b ← s.blocks hdr
      return s.malloc_log (lines hdr b))
    fuel list.last s

/-- `check_list`, of the list with these ends. -/
def check_list (list : Ends Addr) (fuel : ℕ) (s : Tracker) : Option Tracker :=
  s.logEach (fun hdr b => (check_allocation s.milist hdr b).lines) list fuel

/-- A round of `scanner`. -/
def scanner (s : Tracker) : Option Tracker := do
  let s ← s.check_list s.ends s.num
  s.check_list s.backlog s.backlog_num

/-- The line about the number of leaks. -/
def leakedLines (num : ℕ) : List Line := if num ≠ 0 then [.leaked num] else []

/-- `heaptracker_show_leaked_memory`. -/
def heaptracker_show_leaked_memory (s : Tracker) : Option Tracker :=
  (s.malloc_log (leakedLines s.num)).logEach
    (fun hdr b => .deleting b.size (user hdr) s.num :: .allocatedHere (user hdr) b.size ::
      print_backtrace s.milist b.bt)
    s.ends s.num

/-- The first loop of `heaptracker_free_leaked_memory`. -/
def freeLeaks (fuel : ℕ) (s : Tracker) : Option Tracker :=
  match s.ends.last, fuel with
  | none, _ => some s
  | some _, 0 => none
  | some hdr, fuel + 1 => do
    let b ← s.blocks hdr
    let (valid, s) ← (s.malloc_log [.deleting b.size (user hdr) s.num]).del_leak hdr
    let s := if valid then
        s.malloc_log (.allocatedHere (user hdr) b.size :: print_backtrace s.milist b.bt)
      else s
    let s ← s.real_free hdr
    freeLeaks fuel s

/-- The second loop of `heaptracker_free_leaked_memory`. -/
def freeBacklog (fuel : ℕ) (s : Tracker) : Option Tracker :=
  match s.backlog.last, fuel with
  | none, _ => some s
  | some _, 0 => none
  | some _, fuel + 1 => do
    let hdr ← s.backlog.first
    let s ← s.del_from_backlog hdr
    let s ← s.real_free hdr
    freeBacklog fuel s

/-- `heaptracker_free_leaked_memory`. -/
def heaptracker_free_leaked_memory (s : Tracker) : Option Tracker := do
  let s ← (s.malloc_log (leakedLines s.num)).freeLeaks s.num
  s.freeBacklog s.backlog_num

end Tracker

/-! ### What the program does -/

/-- A byte of a block: of one of its guards, or of the program's memory. -/
inductive Place
  | front (i : Fin FRONT_GUARD_LEN)
  | data (i : ℕ)
  | rear (i : Fin REAR_GUARD_LEN)
  deriving DecidableEq

/-- The byte that the tracker puts there. -/
def Place.fill : Place → Byte
  | front _ => FRONT_GUARD
  | data _ => FREE_POISON
  | rear _ => REAR_GUARD

namespace Block

/-- What is at a place of a block. -/
def byte (b : Block) : Place → Byte
  | .front i => b.front_guard i
  | .data i => b.data i
  | .rear i => b.rear_guard i

/-- A byte is written at a place of a block. -/
def write (b : Block) (v : Byte) : Place → Block
  | .front i => { b with front_guard := Function.update b.front_guard i v }
  | .data i => { b with data := Function.update b.data i v }
  | .rear i => { b with rear_guard := Function.update b.rear_guard i v }

@[simp] lemma tag_write (b : Block) (v : Byte) (p : Place) : (b.write v p).tag = b.tag := by
  cases p <;> rfl

@[simp] lemma size_write (b : Block) (v : Byte) (p : Place) : (b.write v p).size = b.size := by
  cases p <;> rfl

/-- The byte that is written, and no other, changes. -/
lemma byte_write (b : Block) (v : Byte) (p : Place) :
    (b.write v p).byte = Function.update b.byte p v := by
  funext q
  by_cases hq : q = p
  · rw [hq, Function.update_self]
    cases p <;> simp [write, byte]
  · rw [Function.update_of_ne hq]
    cases p <;> cases q <;> simp_all [write, byte]

end Block

/-- A step of the process: a call, a byte that is written, or a round of the scanner. -/
inductive Call
  | malloc (size : BitVec 32) (stack : List Addr) (r : Option (Addr × Block))
  | calloc (nmemb size : BitVec 32) (stack : List Addr) (r : Option (Addr × Block))
  | realloc (ptr : Addr) (size : BitVec 32) (stack : List Addr) (r : Option (Addr × Block))
  | free (ptr : Addr) (stack : List Addr)
  | write (hdr : Addr) (place : Place) (v : Byte)
  | scan

/-- What a step does. -/
def Tracker.perform (s : Tracker) : Call → Option Tracker
  | .malloc size stack r => (s.wrap_malloc size stack r).map Prod.snd
  | .calloc nmemb size stack r => (s.wrap_calloc nmemb size stack r).map Prod.snd
  | .realloc ptr size stack r => (s.wrap_realloc ptr size stack r).map Prod.snd
  | .free ptr stack => s.wrap_free ptr stack
  | .write hdr place v => (s.blocks hdr).map fun b => s.setBlock hdr (some (b.write v place))
  | .scan => s.scanner

/-! ### The account -/

/-- What the tracker is for: the live allocations and those freed last, the newest of them first,
their sizes, and the stray bytes: the last one that was written at each place where the program
must not write. -/
structure Account where
  live : List Addr
  freed : List Addr
  size : Addr → BitVec 32
  stray : Addr → Place → Option Byte

namespace Account

/-- Nothing was allocated. -/
def init : Account := ⟨[], [], fun _ => 0, fun _ _ => none⟩

/-- The allocation is live or kept. -/
def Knows (c : Account) (hdr : Addr) : Prop := hdr ∈ c.live ∨ hdr ∈ c.freed

instance (c : Account) (hdr : Addr) : Decidable (c.Knows hdr) :=
  inferInstanceAs (Decidable (_ ∨ _))

/-- A new allocation. -/
def allocate (c : Account) (hdr : Addr) (size : BitVec 32) : Account :=
  { c with
    live := hdr :: c.live
    size := Function.update c.size hdr size
    stray := Function.update c.stray hdr fun _ => none }

@[simp] lemma size_allocate_self (c : Account) (hdr : Addr) (size : BitVec 32) :
    (c.allocate hdr size).size hdr = size := Function.update_self ..

@[simp] lemma stray_allocate_self (c : Account) (hdr : Addr) (size : BitVec 32) (p : Place) :
    (c.allocate hdr size).stray hdr p = none := by
  simp [allocate]

/-- An allocation goes back to the real allocator. -/
def release (c : Account) (hdr : Addr) : Account :=
  { c with live := c.live.erase hdr, freed := c.freed.erase hdr }

/-- A live allocation is kept. -/
def keep (c : Account) (hdr : Addr) : Account :=
  { c with live := c.live.erase hdr, freed := hdr :: c.freed }

/-- A live allocation is freed; what was freed before is left alone. -/
def free (c : Account) (hdr : Addr) : Account :=
  if hdr ∈ c.live then
    { c.keep hdr with freed := (hdr :: c.freed).take BACKLOG_MAX }
  else c

/-- A stray byte is noted. -/
def note (c : Account) (hdr : Addr) (place : Place) (v : Byte) : Account :=
  { c with stray := Function.update c.stray hdr (Function.update (c.stray hdr) place (some v)) }

@[simp] lemma stray_note_self (c : Account) (hdr : Addr) (place : Place) (v : Byte) :
    (c.note hdr place v).stray hdr = Function.update (c.stray hdr) place (some v) :=
  Function.update_self ..

/-- A byte is written. It is no stray one in the memory of a live allocation. -/
def write (c : Account) (hdr : Addr) (place : Place) (v : Byte) : Account :=
  match place with
  | .data _ => if hdr ∈ c.live then c else c.note hdr place v
  | _ => c.note hdr place v

/-- The account after a step. -/
def step (c : Account) : Call → Account
  | .malloc size _ r => r.elim c fun x => c.allocate x.1 size
  | .calloc nmemb size _ r => r.elim c fun x => c.allocate x.1 (nmemb * size)
  | .realloc ptr size _ r =>
    if size = 0 then if ptr = 0 then c else c.free (metaHdr ptr)
    else if ptr = 0 then r.elim c fun x => c.allocate x.1 size
    else r.elim c fun x => (c.release (metaHdr ptr)).allocate x.1 size
  | .free ptr _ => if ptr = 0 then c else c.free (metaHdr ptr)
  | .write hdr place v => c.write hdr place v
  | .scan => c

/-- The real allocator has room for a new block, at an address that is not null and not in use, and
the sum of the sizes fits into a word. -/
structure Room (c : Account) (hdr : Addr) (size : BitVec 32) : Prop where
  ne_zero : hdr ≠ 0
  new : ¬ c.Knows hdr
  fits : sizeofHdr + size.toNat + REAR_GUARD_LEN < 2 ^ 32

/-- What is freed or reallocated is null, or an allocation that is live or kept. -/
def Known (c : Account) (ptr : Addr) : Prop := ptr = 0 ∨ c.Knows (metaHdr ptr)

/-- What the callers and the real allocator keep to. A reallocation does not fail. -/
def Allows (c : Account) : Call → Prop
  | .malloc size _ r => ∀ x ∈ r, c.Room x.1 size
  | .calloc nmemb size _ r => ∀ x ∈ r, c.Room x.1 (nmemb * size)
  | .realloc ptr size _ r =>
    c.Known ptr ∧ (size ≠ 0 → ptr = 0 → ∀ x ∈ r, c.Room x.1 size) ∧
      (size ≠ 0 → ptr ≠ 0 → ∃ x ∈ r, (c.release (metaHdr ptr)).Room x.1 size)
  | .free ptr _ => c.Known ptr
  | .write hdr place _ => c.Knows hdr ∧ ∀ i, place = .data i → i < (c.size hdr).toNat
  | .scan => True

end Account

end HeapTracker
