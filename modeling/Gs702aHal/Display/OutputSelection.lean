import Mathlib.Data.Finset.Image
import Mathlib.Data.Fintype.Basic
import Mathlib.Data.Fintype.Pi
import Mathlib.Tactic.FinCases
import Gs702aHal.Lib.StepRun

set_option relaxedAutoImplicit false
set_option autoImplicit false

/-!
# Selection of the output displayers

`init` of the display service registers the displayers that the board has: the LCD, and HDMI
and CVBS if their modules open. The service keeps the selection in `current_display`, a word with
one displayer id in each byte, which closing and enabling read byte by byte. There are two ways
to select: by such a word (`setOutputDisplayer`) and by a list of names (`setOutputDisplayer1`).
The first records a byte of ones for each displayer that it opened, not its id; the second
records the ids of all displayers named, also of those that failed to open, and talks to the HDMI
device without checking that there is one.

## Main definitions

* `DisplayService.displayers` — the table that `init` fills.
* `DisplayService.setOutputDisplayer`, `DisplayService.setOutputDisplayer1`,
  `DisplayService.closeOutputDisplayer`, `DisplayService.enableOutput` — the calls.
* `DisplayService.Encodes` — the word records the displayers that are open.
* `DisplayService.Consistent` — the bookkeeping after the last selection.
* `DisplayService.KeepsRecord` — the calls that keep it.

## Main results

* `DisplayService.openBytes_spec` — what the loop over the bytes of a word opens.
* `DisplayService.always_consistent_iff` — the bookkeeping is right throughout a run exactly if
  no selection by word opens a displayer and each selection by names opens all or none.
-/

namespace DisplayService

/-- A text, as its bytes. -/
abbrev Bytes := List UInt8

/-- The bytes of a literal. -/
def literal (s : String) : Bytes := s.toList.map Char.toUInt8

/-! ## The table of displayers -/

/-- The types of displayers. -/
inductive DisplayerType
  | TYPE_LCD
  | TYPE_HDMI
  | TYPE_CVBS
deriving DecidableEq

/-- An entry of the table of displayers. -/
structure Displayer where
  /-- What it is. -/
  type : DisplayerType
  /-- Its id, a number from 1 on. -/
  id : BitVec 32
  /-- Its name. -/
  name : Bytes
deriving DecidableEq

/-- The devices that `init` finds beside the LCD. -/
structure Devices where
  /-- The HDMI module opens. -/
  hdmi : Bool
  /-- The CVBS module opens. -/
  cvbs : Bool
deriving DecidableEq

/-- Register a displayer: its id is the count of displayers after it. -/
def register (type : DisplayerType) (name : String) (displayers : List Displayer) :
    List Displayer :=
  displayers ++ [⟨type, BitVec.ofNat 32 (displayers.length + 1), literal name⟩]

/-- The table of displayers after `init`. -/
def displayers (devices : Devices) : List Displayer :=
  let table := register .TYPE_LCD "lcd0" []
  let table := if devices.hdmi then register .TYPE_HDMI "hdmi" table else table
  if devices.cvbs then register .TYPE_CVBS "cvbs" table else table

/-- The number of displayers. -/
def displayer_count (devices : Devices) : ℕ := (displayers devices).length

/-- The place of the displayer with an id, or the count if there is none. -/
def get_real_id (devices : Devices) (dp_id : BitVec 32) : ℕ :=
  (displayers devices).findIdx fun displayer => displayer.id == dp_id

/-- The place of the displayer with a name, or the count if there is none. -/
def get_real_id_of_name (devices : Devices) (id : Bytes) : ℕ :=
  (displayers devices).findIdx fun displayer => id == displayer.name

/-- The id at a place of the table. The array behind it is static, so that it is 0 where nothing
was registered. -/
def idAt (devices : Devices) (single_id : ℕ) : BitVec 32 :=
  (displayers devices)[single_id]?.elim 0 Displayer.id

/-- The bit of the display engine for a displayer, or -1 if there is none. -/
def mapDisplayIdFromHalToDrvier (devices : Devices) (displayId : ℕ) : BitVec 32 :=
  match (displayers devices)[displayId]?.map Displayer.type with
  | some .TYPE_LCD => 0x1
  | some .TYPE_HDMI => 0x2
  | some .TYPE_CVBS => 0x4
  | none => -1

/-! ## The state of the service -/

/-- What the drivers were told last. -/
structure Drivers where
  /-- The displayers that the display engine shows. -/
  displayer_id : BitVec 32
  /-- The HDMI device is under manual control. -/
  manual_flag : Bool
  /-- The HDMI device encrypts. -/
  hdcp_switch : Bool
deriving DecidableEq

/-- The state of the service, with the displayers that are open. -/
structure Service where
  /-- The selection, one id in each byte, or -1. -/
  current_display : BitVec 32
  /-- The places of the displayers that were opened and not closed since. -/
  opened : Finset ℕ
  /-- The drivers. -/
  drivers : Drivers
deriving DecidableEq

/-- The value of a byte of a word. -/
def byteAt (word : BitVec 32) (i : ℕ) : BitVec 32 :=
  ((0xFF#32 <<< (8 * i)) &&& word) >>> (8 * i)

/-- The place of the displayer named by a byte of a word. -/
def realId (devices : Devices) (word : BitVec 32) (i : Fin 4) : ℕ :=
  get_real_id devices (byteAt word i)

/-- A byte of a word is the id of a displayer. -/
def Known (devices : Devices) (word : BitVec 32) (i : Fin 4) : Prop :=
  realId devices word i < displayer_count devices

instance (devices : Devices) (word : BitVec 32) (i : Fin 4) : Decidable (Known devices word i) :=
  inferInstanceAs (Decidable (_ < _))

/-- The places of the displayers that a word names. -/
def named (devices : Devices) (word : BitVec 32) : Finset ℕ :=
  (Finset.univ.filter (Known devices word)).image (realId devices word)

/-- Close the displayer named by a byte, if there is one. -/
def closeByte (devices : Devices) (id : BitVec 32) (opened : Finset ℕ) (i : Fin 4) : Finset ℕ :=
  let single_id := realId devices id i
  if displayer_count devices ≤ single_id then opened else opened.erase single_id

/-- Close the displayers named by a word, unless nothing is selected. -/
def closeOutputDisplayer (devices : Devices) (id : BitVec 32) (s : Service) : Service :=
  if s.current_display.slt 0 then s
  else { s with
    opened := (List.finRange 4).foldl (closeByte devices id) s.opened
    current_display := -1 }

/-- Open one displayer. HDMI and CVBS ask their device; the LCD needs nothing. -/
def setSingleOutputDisplayer (devices : Devices) (single_id : ℕ) (answer : Bool) : Bool :=
  match (displayers devices)[single_id]?.map Displayer.type with
  | some .TYPE_CVBS => answer
  | some .TYPE_HDMI => answer
  | some .TYPE_LCD => true
  | none => false

/-- The variables of the loop that opens displayers. -/
structure Progress where
  /-- The displayers that are open. -/
  opened : Finset ℕ
  /-- A byte of ones for each displayer opened. -/
  sucess_id : BitVec 32
  /-- The number of displayers opened. -/
  j : ℕ
  /-- The configuration for the display engine. -/
  displayer_id : BitVec 32
deriving DecidableEq

/-- Open the displayer named by a byte, if there is one. `answers` is what the devices say, one
answer for each byte. -/
def openByte (devices : Devices) (id : BitVec 32) (answers : Fin 4 → Bool) (p : Progress)
    (i : Fin 4) : Progress :=
  let single_id := realId devices id i
  if displayer_count devices ≤ single_id then p
  else if setSingleOutputDisplayer devices single_id (answers i) then
    let drv_dpy_no := mapDisplayIdFromHalToDrvier devices single_id
    if drv_dpy_no.slt 0 then { p with opened := insert single_id p.opened }
    else
      { opened := insert single_id p.opened
        sucess_id := p.sucess_id ||| (0xFF#32 <<< (8 * p.j))
        j := p.j + 1
        displayer_id := p.displayer_id ||| drv_dpy_no }
  else p

/-- The loop over the bytes of a word. -/
def openBytes (devices : Devices) (id : BitVec 32) (answers : Fin 4 → Bool)
    (opened : Finset ℕ) : Progress :=
  (List.finRange 4).foldl (openByte devices id answers) ⟨opened, 0, 0, 0⟩

/-- Select by a word of ids. After `init` there is a display engine, with all its functions. -/
def setOutputDisplayer (devices : Devices) (id : BitVec 32) (answers : Fin 4 → Bool)
    (s : Service) : Bool × Service :=
  if id = s.current_display then (true, s)
  else
    let s := closeOutputDisplayer devices s.current_display s
    let p := openBytes devices id answers s.opened
    if p.sucess_id = 0 then (false, { s with opened := p.opened })
    else (true, { s with
      opened := p.opened
      drivers := { s.drivers with displayer_id := p.displayer_id }
      current_display := p.sucess_id })

/-- The pieces of a C string between ampersands. -/
def strtok (text : Bytes) : List Bytes :=
  ((text.takeWhile (· ≠ 0)).splitOnP (· = 0x26)).filter (· ≠ [])

/-- Add the id of a named displayer to the word, in the byte of its name. -/
def addName (devices : Devices) (tmp_current_display : BitVec 32) (result : Bytes) : BitVec 32 :=
  let single_id := get_real_id_of_name devices result
  if literal "lcd0" = result then tmp_current_display ||| (idAt devices single_id <<< 0)
  else if literal "hdmi" = result then tmp_current_display ||| (idAt devices single_id <<< 8)
  else if literal "cvbs" = result then tmp_current_display ||| (idAt devices single_id <<< 16)
  else tmp_current_display

/-- The word of the displayers in a list of names. -/
def requested (devices : Devices) (names : Bytes) : BitVec 32 :=
  (strtok names).foldl (addName devices) 0

/-- A list of names, which is not empty. -/
structure NameList where
  /-- The text. -/
  text : Bytes
  /-- There is something in it. -/
  nonempty : text ≠ []

/-- The room in `current_displayer`, with the byte that ends the text. -/
def currentDisplayerSize : ℕ := 32

/-- Put the HDMI device under manual control, if there is one. -/
def setManualFlag (devices : Devices) (s : Service) : Service :=
  if devices.hdmi then { s with drivers := { s.drivers with manual_flag := true } } else s

/-- Select by a list of names, which is copied to `current_displayer`. `none` is undefined: the
copy leaves the array, or there is no HDMI device to switch encryption on for. -/
def setOutputDisplayer1 (devices : Devices) (id : NameList) (answers : Fin 4 → Bool)
    (s : Service) : Option (Bool × Service) :=
  if currentDisplayerSize ≤ id.text.length then none
  else
    let tmp_current_display := requested devices id.text
    let s := setManualFlag devices s
    let s := closeOutputDisplayer devices s.current_display s
    let p := openBytes devices tmp_current_display answers s.opened
    if p.sucess_id = 0 then some (false, { s with opened := p.opened })
    else if devices.hdmi then
      some (true,
        { opened := p.opened
          current_display := tmp_current_display
          drivers := ⟨p.displayer_id, false, true⟩ })
    else none

/-- Switch one displayer on or off. The LCD is always on. -/
def enableSingleOutput (devices : Devices) (dpy_id : ℕ) (answer : Bool) : Bool :=
  match (displayers devices)[dpy_id]?.map Displayer.type with
  | some .TYPE_CVBS => answer
  | some .TYPE_HDMI => answer
  | some .TYPE_LCD => true
  | none => false

/-- Switch the displayers named by a list of bytes on or off, up to the first one that fails. The
list has the displayers that were switched. -/
def enableBytes (devices : Devices) (word : BitVec 32) (answers : Fin 4 → Bool) :
    List (Fin 4) → Bool × List ℕ
  | [] => (true, [])
  | i :: places =>
    let single_id := realId devices word i
    if displayer_count devices ≤ single_id then enableBytes devices word answers places
    else if enableSingleOutput devices single_id (answers i) then
      let (answer, rest) := enableBytes devices word answers places
      (answer, single_id :: rest)
    else (false, [single_id])

/-- Switch the selected displayers on or off. -/
def enableOutput (devices : Devices) (answers : Fin 4 → Bool) (s : Service) : Bool × List ℕ :=
  if s.current_display.slt 0 then (false, [])
  else enableBytes devices s.current_display answers (List.finRange 4)

/-! ## Runs -/

/-- The calls of the service, with what the devices answer at each byte. -/
inductive Call
  | setOutputDisplayer (id : BitVec 32) (answers : Fin 4 → Bool)
  | setOutputDisplayer1 (id : NameList) (answers : Fin 4 → Bool)
  | enableOutput (enable : Bool) (answers : Fin 4 → Bool)

/-- How the last selection ended. -/
inductive Selection
  | notYet
  | accepted
  | refused
  | undefined
deriving DecidableEq

/-- A state of a run. -/
structure State where
  /-- The state of the service. -/
  service : Service
  /-- How the last selection ended. -/
  last : Selection
deriving DecidableEq

/-- The state after a selection. -/
def State.ofAnswer (answer : Bool × Service) : State :=
  ⟨answer.2, if answer.1 then .accepted else .refused⟩

/-- One call. Nothing happens after an undefined one. -/
def step (devices : Devices) (s : State) : Call → State
  | .setOutputDisplayer id answers =>
    if s.last = .undefined then s
    else .ofAnswer (setOutputDisplayer devices id answers s.service)
  | .setOutputDisplayer1 id answers =>
    if s.last = .undefined then s
    else (setOutputDisplayer1 devices id answers s.service).elim ⟨s.service, .undefined⟩ .ofAnswer
  | .enableOutput _ _ => s

/-- The state after `init`: nothing is selected. The drivers are as they were. -/
def start (drivers : Drivers) : State := ⟨⟨-1, ∅, drivers⟩, .notYet⟩

/-- The places of the displayers that a configuration of the display engine shows. -/
def shown (devices : Devices) (displayer_id : BitVec 32) : Finset ℕ :=
  (Finset.range (displayer_count devices)).filter fun k =>
    displayer_id &&& mapDisplayIdFromHalToDrvier devices k ≠ 0

/-- The word records the displayers that are open: it is -1 and none is, or each byte is 0 or the
id of an open displayer, no displayer has two bytes, all that are open have one, and the display
engine shows them. -/
def Encodes (devices : Devices) (s : Service) : Prop :=
  (s.current_display = -1 ∧ s.opened = ∅) ∨
  (s.current_display.slt 0 = false ∧ named devices s.current_display = s.opened ∧
    (∀ i : Fin 4, byteAt s.current_display i = 0 ∨ Known devices s.current_display i) ∧
    (∀ i k : Fin 4, Known devices s.current_display i →
      realId devices s.current_display i = realId devices s.current_display k → i = k) ∧
    shown devices s.drivers.displayer_id = s.opened)

/-- **The bookkeeping.** The last selection has an answer. If it was accepted, the word records
the displayers that are open, the next selection closes them all and enabling switches
these and no others; if it was refused, no displayer is open and the word is -1. -/
structure Consistent (devices : Devices) (s : State) : Prop where
  /-- The last selection has an answer. -/
  defined : s.last ≠ .undefined
  /-- After an accepted selection the word records what is open. -/
  encodes : s.last = .accepted → Encodes devices s.service
  /-- After an accepted selection closing the selection leaves nothing open. -/
  closes : s.last = .accepted →
    (closeOutputDisplayer devices s.service.current_display s.service).opened = ∅
  /-- After an accepted selection enabling reaches what is open. -/
  enables : s.last = .accepted →
    (enableOutput devices (fun _ => true) s.service).2.toFinset = s.service.opened
  /-- After a refused selection nothing is open. -/
  refused : s.last = .refused →
    s.service.opened = ∅ ∧ s.service.current_display = -1

/-- The displayer named by a byte of a word opens. -/
def OpensAt (devices : Devices) (word : BitVec 32) (answers : Fin 4 → Bool) (i : Fin 4) : Prop :=
  Known devices word i ∧
    setSingleOutputDisplayer devices (realId devices word i) (answers i) = true

instance (devices : Devices) (word : BitVec 32) (answers : Fin 4 → Bool) (i : Fin 4) :
    Decidable (OpensAt devices word answers i) :=
  inferInstanceAs (Decidable (_ ∧ _))

/-- A word opens no displayer. -/
def OpensNone (devices : Devices) (word : BitVec 32) (answers : Fin 4 → Bool) : Prop :=
  ∀ i, ¬ OpensAt devices word answers i

/-- A word opens all displayers that it names. -/
def OpensAll (devices : Devices) (word : BitVec 32) (answers : Fin 4 → Bool) : Prop :=
  ∀ i, Known devices word i → OpensAt devices word answers i

instance (devices : Devices) (word : BitVec 32) (answers : Fin 4 → Bool) :
    Decidable (OpensNone devices word answers) :=
  inferInstanceAs (Decidable (∀ _, _))

/-- The name whose displayer a list of names can put in a byte of the word. -/
def slotName : Fin 4 → Bytes
  | 0 => literal "lcd0"
  | 1 => literal "hdmi"
  | 2 => literal "cvbs"
  | 3 => []

/-- A list of names asks for a displayer of the board. -/
def Asked (devices : Devices) (names : Bytes) (i : Fin 4) : Prop :=
  (∃ displayer ∈ displayers devices, displayer.name = slotName i) ∧ slotName i ∈ strtok names

instance (devices : Devices) (names : Bytes) (i : Fin 4) : Decidable (Asked devices names i) :=
  inferInstanceAs (Decidable (_ ∧ _))

/-- The calls that keep the record: a selection by word selects again what is selected or opens
nothing; a selection by names fits in `current_displayer` and, of the displayers that it asks for,
opens none, or all if there is an HDMI device. The LCD, at the first place, always opens. -/
def KeepsRecord (devices : Devices) (s : State) : Call → Prop
  | .setOutputDisplayer id answers =>
    id = s.service.current_display ∨ OpensNone devices id answers
  | .setOutputDisplayer1 id answers =>
    id.text.length < currentDisplayerSize ∧
      ((∀ i, Asked devices id.text i → i ≠ 0 ∧ answers i = false) ∨
        devices.hdmi = true ∧ ∀ i, Asked devices id.text i → i = 0 ∨ answers i = true)
  | .enableOutput _ _ => True

instance (devices : Devices) (s : State) (call : Call) : Decidable (KeepsRecord devices s call) :=
  match call with
  | .setOutputDisplayer _ _ => inferInstanceAs (Decidable (_ ∨ _))
  | .setOutputDisplayer1 _ _ => inferInstanceAs (Decidable (_ ∧ ((∀ _, _) ∨ _ ∧ ∀ _, _)))
  | .enableOutput _ _ => .isTrue trivial

/-! ## The table -/

/-- Each displayer has a bit of its own. -/
lemma driverBit_and_iff (devices : Devices) :
    ∀ k < displayer_count devices, ∀ m < displayer_count devices,
      mapDisplayIdFromHalToDrvier devices k &&& mapDisplayIdFromHalToDrvier devices m ≠ 0 ↔
        m = k := by
  rcases devices with ⟨_ | _, _ | _⟩ <;> decide

/-- The display engine has a bit for each displayer. -/
lemma driverBit_nonneg (devices : Devices) :
    ∀ k < displayer_count devices, (mapDisplayIdFromHalToDrvier devices k).slt 0 = false := by
  rcases devices with ⟨_ | _, _ | _⟩ <;> decide

/-- The ids start at 1. -/
lemma count_le_get_real_id_zero (devices : Devices) :
    displayer_count devices ≤ get_real_id devices 0 := by
  rcases devices with ⟨_ | _, _ | _⟩ <;> decide

/-- Switching on a displayer of the table succeeds if its device agrees. -/
lemma enableSingleOutput_true (devices : Devices) :
    ∀ k < displayer_count devices, enableSingleOutput devices k true = true := by
  rcases devices with ⟨_ | _, _ | _⟩ <;> decide

/-- A configuration without bits shows nothing. -/
lemma shown_zero (devices : Devices) : shown devices 0 = ∅ := by
  simp [shown]

/-- A configuration with one more bit shows one more displayer. -/
lemma shown_or (devices : Devices) (config : BitVec 32) {k : ℕ}
    (hk : k < displayer_count devices) :
    shown devices (config ||| mapDisplayIdFromHalToDrvier devices k) =
      insert k (shown devices config) := by
  ext m
  simp only [shown, Finset.mem_filter, Finset.mem_range, Finset.mem_insert]
  constructor
  · rintro ⟨hm, hbit⟩
    by_cases heq : m = k
    · exact Or.inl heq
    · have hk0 : mapDisplayIdFromHalToDrvier devices k &&&
          mapDisplayIdFromHalToDrvier devices m = 0 :=
        not_not.mp fun h => heq ((driverBit_and_iff devices k hk m hm).mp h)
      rw [BitVec.and_or_distrib_right, hk0] at hbit
      exact Or.inr ⟨hm, fun h => hbit (BitVec.or_eq_zero_iff.mpr ⟨h, rfl⟩)⟩
  · rintro (rfl | ⟨hm, hbit⟩)
    · refine ⟨hk, fun h => ?_⟩
      rw [BitVec.and_or_distrib_right] at h
      exact (driverBit_and_iff devices m hk m hk).mpr rfl (BitVec.or_eq_zero_iff.mp h).2
    · refine ⟨hm, fun h => hbit ?_⟩
      rw [BitVec.and_or_distrib_right] at h
      exact (BitVec.or_eq_zero_iff.mp h).1

/-! ## The loops over the bytes of a word -/

/-- A word of ones in the first bytes. -/
def ones : ℕ → BitVec 32
  | 0 => 0
  | j + 1 => ones j ||| (0xFF#32 <<< (8 * j))

/-- The displayers that a word opens. -/
def openedBy (devices : Devices) (word : BitVec 32) (answers : Fin 4 → Bool) : Finset ℕ :=
  (Finset.univ.filter (OpensAt devices word answers)).image (realId devices word)

/-- A list of all places of bytes, restricted and mapped, has the image of the restriction. -/
lemma toFinset_map_filter_finRange (P : Fin 4 → Prop) [DecidablePred P] (f : Fin 4 → ℕ) :
    (((List.finRange 4).filter fun i => decide (P i)).map f).toFinset =
      (Finset.univ.filter P).image f := by
  ext k
  simp

/-- A word opens a displayer unless it opens none. -/
lemma openedBy_eq_empty_iff (devices : Devices) (word : BitVec 32) (answers : Fin 4 → Bool) :
    openedBy devices word answers = ∅ ↔ OpensNone devices word answers := by
  simp [openedBy, Finset.filter_eq_empty_iff, OpensNone]

/-- The loop over some bytes closes the displayers that they name. -/
lemma foldl_closeByte (devices : Devices) (word : BitVec 32) (places : List (Fin 4))
    (opened : Finset ℕ) :
    places.foldl (closeByte devices word) opened = opened \
      ((places.filter fun i => decide (Known devices word i)).map
        (realId devices word)).toFinset := by
  induction places generalizing opened with
  | nil => simp
  | cons i places ih =>
    rw [List.foldl_cons, ih]
    by_cases hi : Known devices word i
    · have hlt : ¬ displayer_count devices ≤ realId devices word i := not_le.mpr hi
      ext k
      simp only [closeByte, if_neg hlt, List.filter_cons, hi, decide_true, if_true, List.map_cons,
        List.toFinset_cons, Finset.mem_sdiff, Finset.mem_erase, Finset.mem_insert]
      tauto
    · have hle : displayer_count devices ≤ realId devices word i := not_lt.mp hi
      simp only [closeByte, if_pos hle, List.filter_cons, hi, decide_false, Bool.false_eq_true,
        if_false]

/-- Closing a selection closes the displayers that it names. -/
lemma closeOutputDisplayer_opened (devices : Devices) (word : BitVec 32) {s : Service}
    (hs : s.current_display.slt 0 = false) :
    (closeOutputDisplayer devices word s).opened = s.opened \ named devices word := by
  simp only [closeOutputDisplayer, hs, Bool.false_eq_true, if_false]
  rw [foldl_closeByte, toFinset_map_filter_finRange]
  rfl

/-- Switching on reaches the displayers named by some bytes. -/
lemma enableBytes_true (devices : Devices) (word : BitVec 32) (places : List (Fin 4)) :
    enableBytes devices word (fun _ => true) places = (true,
      (places.filter fun i => decide (Known devices word i)).map (realId devices word)) := by
  induction places with
  | nil => rfl
  | cons i places ih =>
    by_cases hi : Known devices word i
    · have hlt : ¬ displayer_count devices ≤ realId devices word i := not_le.mpr hi
      simp [enableBytes, hlt, ih, hi, enableSingleOutput_true devices _ hi]
    · have hle : displayer_count devices ≤ realId devices word i := not_lt.mp hi
      simp [enableBytes, hle, ih, hi]

/-- What one byte does when its displayer opens, and otherwise. -/
lemma openByte_eq (devices : Devices) (word : BitVec 32) (answers : Fin 4 → Bool) (p : Progress)
    (i : Fin 4) :
    openByte devices word answers p i =
      if OpensAt devices word answers i then
        { opened := insert (realId devices word i) p.opened
          sucess_id := p.sucess_id ||| (0xFF#32 <<< (8 * p.j))
          j := p.j + 1
          displayer_id :=
            p.displayer_id ||| mapDisplayIdFromHalToDrvier devices (realId devices word i) }
      else p := by
  by_cases hi : Known devices word i
  · have hlt : ¬ displayer_count devices ≤ realId devices word i := not_le.mpr hi
    have hbit := driverBit_nonneg devices _ hi
    simp only [openByte, if_neg hlt, hbit, OpensAt, hi, true_and, Bool.false_eq_true, if_false]
  · have hle : displayer_count devices ≤ realId devices word i := not_lt.mp hi
    simp [openByte, OpensAt, hle, hi]

/-- What the loop over some bytes adds to its variables. -/
lemma foldl_openByte (devices : Devices) (word : BitVec 32) (answers : Fin 4 → Bool)
    (places : List (Fin 4)) {p : Progress} (hp : p.sucess_id = ones p.j) :
    let opening := places.filter fun i => decide (OpensAt devices word answers i)
    let q := places.foldl (openByte devices word answers) p
    q.opened = p.opened ∪ (opening.map (realId devices word)).toFinset ∧
      q.j = p.j + opening.length ∧
      q.sucess_id = ones q.j ∧
      shown devices q.displayer_id =
        shown devices p.displayer_id ∪ (opening.map (realId devices word)).toFinset := by
  induction places generalizing p with
  | nil => simpa using hp
  | cons i places ih =>
    rw [List.foldl_cons, openByte_eq]
    by_cases hi : OpensAt devices word answers i
    · simp only [hi, if_true, List.filter_cons, decide_true, List.map_cons, List.toFinset_cons,
        List.length_cons]
      obtain ⟨hopened, hj, hones, hshown⟩ := @ih
        { opened := insert (realId devices word i) p.opened
          sucess_id := p.sucess_id ||| (0xFF#32 <<< (8 * p.j))
          j := p.j + 1
          displayer_id :=
            p.displayer_id ||| mapDisplayIdFromHalToDrvier devices (realId devices word i) }
        (by rw [hp]; rfl)
      refine ⟨?_, ?_, hones, ?_⟩
      · rw [hopened, Finset.insert_union, Finset.union_insert]
      · rw [hj, Nat.add_assoc, Nat.add_comm 1]
      · rw [hshown, shown_or devices _ hi.1, Finset.insert_union, Finset.union_insert]
    · simp only [hi, if_false, List.filter_cons, decide_false, Bool.false_eq_true]
      exact ih hp

/-- The number of bytes whose displayer opens. -/
def openCount (devices : Devices) (word : BitVec 32) (answers : Fin 4 → Bool) : ℕ :=
  ((List.finRange 4).filter fun i => decide (OpensAt devices word answers i)).length

/-- **The loop that opens displayers** adds those that open to the open ones and shows them, and
returns a byte of ones for each byte whose displayer opened. -/
theorem openBytes_spec (devices : Devices) (word : BitVec 32) (answers : Fin 4 → Bool)
    (opened : Finset ℕ) :
    (openBytes devices word answers opened).opened = opened ∪ openedBy devices word answers ∧
      (openBytes devices word answers opened).sucess_id =
        ones (openCount devices word answers) ∧
      shown devices (openBytes devices word answers opened).displayer_id =
        openedBy devices word answers := by
  obtain ⟨hopened, hj, hones, hshown⟩ := @foldl_openByte devices word answers (List.finRange 4)
    ⟨opened, 0, 0, 0⟩ rfl
  rw [toFinset_map_filter_finRange] at hopened hshown
  refine ⟨hopened, ?_, ?_⟩
  · rw [Nat.zero_add] at hj
    rw [openBytes, hones, hj]
    rfl
  · rw [shown_zero, Finset.empty_union] at hshown
    exact hshown

/-- There are four bytes. -/
lemma openCount_le (devices : Devices) (word : BitVec 32) (answers : Fin 4 → Bool) :
    openCount devices word answers ≤ 4 :=
  (List.length_filter_le _ _).trans_eq (List.length_finRange)

/-- A word without an opening byte opens nothing. -/
lemma openCount_eq_zero_iff (devices : Devices) (word : BitVec 32) (answers : Fin 4 → Bool) :
    openCount devices word answers = 0 ↔ OpensNone devices word answers := by
  simp [openCount, OpensNone, List.filter_eq_nil_iff]

/-- Ones are left out only for the empty list of bytes. -/
lemma ones_eq_zero_iff : ∀ j ≤ 4, ones j = 0 ↔ j = 0 := by
  decide

/-- A byte of ones is the id of no displayer. -/
lemma named_ones (devices : Devices) : ∀ j ≤ 4, named devices (ones j) = ∅ := by
  rcases devices with ⟨_ | _, _ | _⟩ <;> decide

/-- The loop opens nothing exactly if it returns no ones. -/
lemma sucess_id_eq_zero_iff (devices : Devices) (word : BitVec 32) (answers : Fin 4 → Bool)
    (opened : Finset ℕ) :
    (openBytes devices word answers opened).sucess_id = 0 ↔ OpensNone devices word answers := by
  rw [(openBytes_spec devices word answers opened).2.1,
    ones_eq_zero_iff _ (openCount_le devices word answers), openCount_eq_zero_iff]

/-! ## The word of a list of names -/

/-- The byte of a combined word. -/
lemma byteAt_or (a b : BitVec 32) (i : ℕ) : byteAt (a ||| b) i = byteAt a i ||| byteAt b i := by
  rw [byteAt, BitVec.and_or_distrib_left, BitVec.ushiftRight_or_distrib]
  rfl

/-- The id that a list of names can put in a byte. -/
def slotId (devices : Devices) (i : Fin 4) : BitVec 32 :=
  if i = 3 then 0 else idAt devices (get_real_id_of_name devices (slotName i))

/-- The id of a slot, in its byte and in the others. -/
lemma byteAt_slotId (devices : Devices) : ∀ i k : Fin 4,
    byteAt (slotId devices k <<< (8 * k.val)) i = if slotName i = slotName k then slotId devices i
      else 0 := by
  rcases devices with ⟨_ | _, _ | _⟩ <;> decide

/-- The name of a slot adds the id of its displayer. -/
lemma addName_slotName (devices : Devices) (word : BitVec 32) (k : Fin 4) (hk : k ≠ 3) :
    addName devices word (slotName k) = word ||| (slotId devices k <<< (8 * k.val)) := by
  have hhdmi : literal "lcd0" ≠ literal "hdmi" := by decide
  have hcvbs : literal "lcd0" ≠ literal "cvbs" ∧ literal "hdmi" ≠ literal "cvbs" := by decide
  fin_cases k
  · simp [addName, slotName, slotId]
  · simp [addName, slotName, slotId, hhdmi]
  · simp [addName, slotName, slotId, hcvbs]
  · exact absurd rfl hk

/-- Another name adds nothing. -/
lemma addName_other (devices : Devices) (word : BitVec 32) {result : Bytes}
    (h : ∀ k : Fin 4, slotName k ≠ result) : addName devices word result = word := by
  have hlcd := h 0
  have hhdmi := h 1
  have hcvbs := h 2
  exact (if_neg hlcd).trans ((if_neg hhdmi).trans (if_neg hcvbs))

/-- A name sets the byte of its slot. -/
lemma byteAt_addName (devices : Devices) (word : BitVec 32) {result : Bytes} (hresult : result ≠ [])
    (i : Fin 4) :
    byteAt (addName devices word result) i =
      byteAt word i ||| if slotName i = result then slotId devices i else 0 := by
  by_cases hslot : ∃ k : Fin 4, slotName k = result
  · obtain ⟨k, rfl⟩ := hslot
    have hk : k ≠ 3 := fun h => hresult (by rw [h]; rfl)
    rw [addName_slotName devices word k hk, byteAt_or, byteAt_slotId]
  · have hother : ∀ k : Fin 4, slotName k ≠ result := fun k hk => hslot ⟨k, hk⟩
    rw [addName_other devices word hother, if_neg (hother i)]
    exact BitVec.or_zero.symm

/-- **The word of a list of names** has, in each slot whose name is in the list, the id of the
displayer, and 0 elsewhere. -/
theorem byteAt_requested (devices : Devices) (names : Bytes) (i : Fin 4) :
    byteAt (requested devices names) i =
      if slotName i ∈ strtok names then slotId devices i else 0 := by
  have hfold : ∀ (results : List Bytes), (∀ result ∈ results, result ≠ []) → ∀ word : BitVec 32,
      byteAt (results.foldl (addName devices) word) i =
        byteAt word i ||| if slotName i ∈ results then slotId devices i else 0 := by
    intro results
    induction results with
    | nil => simp
    | cons result results ih =>
      intro hne word
      rw [List.foldl_cons, ih fun r hr => hne r (List.mem_cons_of_mem result hr),
        byteAt_addName devices word (hne result List.mem_cons_self), BitVec.or_assoc]
      refine congrArg (byteAt word i ||| ·) ?_
      by_cases hhead : slotName i = result
      · have hmem : slotName i ∈ result :: results := hhead ▸ List.mem_cons_self
        rw [if_pos hhead, if_pos hmem]
        split_ifs
        · exact BitVec.or_self
        · exact BitVec.or_zero
      · rw [if_neg hhead]
        refine BitVec.zero_or.trans ?_
        simp only [List.mem_cons, hhead, false_or]
  have hne : ∀ result ∈ strtok names, result ≠ [] := fun result hr => by
    simpa using (List.mem_filter.mp hr).2
  refine (hfold (strtok names) hne 0).trans ?_
  rw [show byteAt 0 i = 0 by fin_cases i <;> rfl]
  exact BitVec.zero_or

/-- Each byte of the word is 0 or the id of its slot. -/
def Slotted (devices : Devices) (word : BitVec 32) : Prop :=
  ∀ i : Fin 4, byteAt word i = 0 ∨ byteAt word i = slotId devices i

/-- The word of a list of names is slotted. -/
lemma slotted_requested (devices : Devices) (names : Bytes) :
    Slotted devices (requested devices names) := by
  intro i
  rw [byteAt_requested]
  split_ifs
  · exact Or.inr rfl
  · exact Or.inl rfl

/-- The displayer of a slot is in the table exactly if its id is. -/
lemma slotId_known_iff (devices : Devices) : ∀ i : Fin 4,
    get_real_id devices (slotId devices i) < displayer_count devices ↔
      ∃ displayer ∈ displayers devices, displayer.name = slotName i := by
  rcases devices with ⟨_ | _, _ | _⟩ <;> decide

/-- The LCD opens, and the other displayers open if their device agrees. -/
lemma setSingleOutputDisplayer_slot (devices : Devices) : ∀ i : Fin 4, ∀ answer : Bool,
    get_real_id devices (slotId devices i) < displayer_count devices →
      (setSingleOutputDisplayer devices (get_real_id devices (slotId devices i)) answer = true ↔
        i = 0 ∨ answer = true) := by
  rcases devices with ⟨_ | _, _ | _⟩ <;> decide

/-- A byte of the word names a displayer exactly if the list asks for it. -/
lemma known_requested_iff (devices : Devices) (names : Bytes) (i : Fin 4) :
    Known devices (requested devices names) i ↔ Asked devices names i := by
  rw [Known, realId, byteAt_requested, Asked, ← slotId_known_iff]
  split_ifs with hmem
  · exact (and_iff_left hmem).symm
  · have hle := count_le_get_real_id_zero devices
    exact iff_of_false (by omega) fun h => hmem h.2

/-- What a list of names opens. -/
lemma opensAt_requested_iff (devices : Devices) (names : Bytes) (answers : Fin 4 → Bool)
    (i : Fin 4) :
    OpensAt devices (requested devices names) answers i ↔
      Asked devices names i ∧ (i = 0 ∨ answers i = true) := by
  rw [OpensAt, known_requested_iff]
  refine and_congr_right fun hasked => ?_
  rw [realId, byteAt_requested, if_pos hasked.2]
  exact setSingleOutputDisplayer_slot devices i (answers i)
    ((slotId_known_iff devices i).mpr hasked.1)

/-- A list of names opens nothing exactly if nothing that it asks for opens. -/
lemma opensNone_requested_iff (devices : Devices) (names : Bytes) (answers : Fin 4 → Bool) :
    OpensNone devices (requested devices names) answers ↔
      ∀ i, Asked devices names i → i ≠ 0 ∧ answers i = false := by
  simp only [OpensNone, opensAt_requested_iff, not_and, not_or, Bool.not_eq_true, ne_eq]

/-- A list of names opens all that it names exactly if all that it asks for opens. -/
lemma opensAll_requested_iff (devices : Devices) (names : Bytes) (answers : Fin 4 → Bool) :
    OpensAll devices (requested devices names) answers ↔
      ∀ i, Asked devices names i → i = 0 ∨ answers i = true := by
  simp only [OpensAll, known_requested_iff, opensAt_requested_iff]
  exact forall_congr' fun i => imp_congr_right fun hasked => and_iff_right hasked

/-- The slots hold different displayers. -/
lemma slotId_known (devices : Devices) : ∀ i k : Fin 4,
    (slotId devices i = 0 ∨ get_real_id devices (slotId devices i) < displayer_count devices) ∧
      (get_real_id devices (slotId devices i) < displayer_count devices →
        get_real_id devices (slotId devices i) = get_real_id devices (slotId devices k) →
          i = k) := by
  rcases devices with ⟨_ | _, _ | _⟩ <;> decide

/-- A slotted word is not negative: its last byte is 0. -/
lemma Slotted.nonneg {devices : Devices} {word : BitVec 32} (h : Slotted devices word) :
    word.slt 0 = false := by
  have hlast : byteAt word 3 = 0 := by
    rcases h 3 with h3 | h3
    · exact h3
    · exact h3
  have hbit : (byteAt word 3).getLsbD 7 = false := by
    rw [hlast]
    rfl
  refine BitVec.slt_zero_eq_msb.trans ?_
  rw [BitVec.msb_eq_getLsbD_last]
  simpa [byteAt] using hbit

/-- Each byte of a slotted word is 0 or the id of a displayer. -/
lemma Slotted.zero_or_known {devices : Devices} {word : BitVec 32} (h : Slotted devices word)
    (i : Fin 4) : byteAt word i = 0 ∨ Known devices word i := by
  rcases h i with hi | hi
  · exact Or.inl hi
  · rcases (slotId_known devices i i).1 with hz | hk
    · exact Or.inl (hi.trans hz)
    · refine Or.inr ?_
      rw [Known, realId, hi]
      exact hk

/-- No displayer has two bytes of a slotted word. -/
lemma Slotted.place_unique {devices : Devices} {word : BitVec 32} (h : Slotted devices word)
    (i k : Fin 4) (hi : Known devices word i)
    (heq : realId devices word i = realId devices word k) : i = k := by
  have hslot : ∀ m, Known devices word m → byteAt word m = slotId devices m := by
    intro m hm
    rcases h m with hz | hs
    · have hle := count_le_get_real_id_zero devices
      rw [Known, realId, hz] at hm
      omega
    · exact hs
  have hk : Known devices word k := by
    rw [Known, ← heq]
    exact hi
  have hi' := hslot i hi
  have hk' := hslot k hk
  rw [realId, realId, hi', hk'] at heq
  rw [Known, realId, hi'] at hi
  exact (slotId_known devices i k).2 hi heq

/-! ## The calls -/

/-- Closing the recorded selection leaves nothing open and selected. -/
lemma closeOutputDisplayer_of_encodes {devices : Devices} {s : Service} (h : Encodes devices s) :
    closeOutputDisplayer devices s.current_display s =
      { s with opened := ∅, current_display := -1 } := by
  obtain ⟨current, opened, drivers⟩ := s
  rcases h with ⟨hcurrent, hopened⟩ | ⟨hpos, hnamed, -⟩
  · obtain rfl : current = -1 := hcurrent
    obtain rfl : opened = ∅ := hopened
    rfl
  · have hclose := closeOutputDisplayer_opened devices current hpos
    rw [hnamed, Finset.sdiff_self] at hclose
    simp only [closeOutputDisplayer, hpos, Bool.false_eq_true, if_false] at hclose ⊢
    rw [hclose]

/-- Enabling reaches the displayers that are open, if the word records them. -/
lemma enableOutput_of_encodes {devices : Devices} {s : Service} (h : Encodes devices s) :
    (enableOutput devices (fun _ => true) s).2.toFinset = s.opened := by
  rcases h with ⟨hcurrent, hopened⟩ | ⟨hpos, hnamed, -⟩
  · rw [enableOutput, hcurrent, hopened]
    rfl
  · simp only [enableOutput, hpos, Bool.false_eq_true, if_false]
    rw [enableBytes_true, toFinset_map_filter_finRange]
    exact hnamed

/-- The displayers that a word opens are all that it names exactly if all of these open. -/
lemma openedBy_eq_named_iff {devices : Devices} {word : BitVec 32} {answers : Fin 4 → Bool}
    (h : ∀ i k : Fin 4, Known devices word i → realId devices word i = realId devices word k →
      i = k) :
    named devices word = openedBy devices word answers ↔ OpensAll devices word answers := by
  constructor
  · intro heq i hi
    have hmem : realId devices word i ∈ named devices word :=
      Finset.mem_image.mpr ⟨i, Finset.mem_filter.mpr ⟨Finset.mem_univ i, hi⟩, rfl⟩
    rw [heq] at hmem
    obtain ⟨k, hk, hik⟩ := Finset.mem_image.mp hmem
    obtain rfl := h i k hi hik.symm
    exact (Finset.mem_filter.mp hk).2
  · intro hall
    refine congrArg (Finset.image (realId devices word)) (Finset.filter_congr fun i _ => ?_)
    exact ⟨hall i, fun hi => hi.1⟩

/-- A selection by a word that opens nothing is refused. -/
lemma setOutputDisplayer_of_opensNone {devices : Devices} {id : BitVec 32}
    {answers : Fin 4 → Bool} {s : Service} (hs : Encodes devices s) (hid : id ≠ s.current_display)
    (hnone : OpensNone devices id answers) :
    setOutputDisplayer devices id answers s =
      (false, { s with opened := ∅, current_display := -1 }) := by
  have hopened := (openBytes_spec devices id answers ∅).1
  rw [(openedBy_eq_empty_iff devices id answers).mpr hnone, Finset.union_empty] at hopened
  simp only [setOutputDisplayer, if_neg hid, closeOutputDisplayer_of_encodes hs,
    (sucess_id_eq_zero_iff devices id answers ∅).mpr hnone, if_true, hopened]

/-- A selection by a word that opens something records bytes of ones. -/
lemma setOutputDisplayer_of_opens {devices : Devices} {id : BitVec 32} {answers : Fin 4 → Bool}
    {s : Service} (hs : Encodes devices s) (hid : id ≠ s.current_display)
    (hsome : ¬ OpensNone devices id answers) :
    (setOutputDisplayer devices id answers s).1 = true ∧
      (setOutputDisplayer devices id answers s).2.opened = openedBy devices id answers ∧
      (setOutputDisplayer devices id answers s).2.current_display =
        ones (openCount devices id answers) := by
  obtain ⟨hopened, hones, -⟩ := openBytes_spec devices id answers ∅
  have hzero := mt (sucess_id_eq_zero_iff devices id answers ∅).mp hsome
  simp only [setOutputDisplayer, if_neg hid, closeOutputDisplayer_of_encodes hs, if_neg hzero]
  exact ⟨trivial, hopened.trans (Finset.empty_union _), hones⟩

/-- Bytes of ones record no displayer that is open. -/
lemma not_encodes_ones {devices : Devices} {id : BitVec 32} {answers : Fin 4 → Bool} {s : Service}
    (hopened : s.opened = openedBy devices id answers)
    (hcurrent : s.current_display = ones (openCount devices id answers))
    (hsome : ¬ OpensNone devices id answers) : ¬ Encodes devices s := by
  rw [← openedBy_eq_empty_iff, ← hopened] at hsome
  rintro (⟨-, hempty⟩ | ⟨-, hnamed, -⟩)
  · exact hsome hempty
  · rw [hcurrent, named_ones devices _ (openCount_le devices id answers)] at hnamed
    exact hsome hnamed.symm

/-- The manual flag is not part of the record. -/
lemma encodes_setManualFlag {devices : Devices} {s : Service} (h : Encodes devices s) :
    Encodes devices (setManualFlag devices s) := by
  unfold setManualFlag
  split_ifs
  · exact h
  · exact h

/-- A selection by names whose text fits, from a state with a right record. -/
lemma setOutputDisplayer1_eq {devices : Devices} {id : NameList} {answers : Fin 4 → Bool}
    {s : Service} (hs : Encodes devices s) (hlength : id.text.length < currentDisplayerSize) :
    setOutputDisplayer1 devices id answers s =
      let p := openBytes devices (requested devices id.text) answers ∅
      if OpensNone devices (requested devices id.text) answers then
        some (false, ⟨-1, p.opened, (setManualFlag devices s).drivers⟩)
      else if devices.hdmi then
        some (true, ⟨requested devices id.text, p.opened, ⟨p.displayer_id, false, true⟩⟩)
      else none := by
  have hroom : ¬ currentDisplayerSize ≤ id.text.length := not_le.mpr hlength
  simp only [setOutputDisplayer1, if_neg hroom,
    closeOutputDisplayer_of_encodes (encodes_setManualFlag hs), sucess_id_eq_zero_iff]

/-! ## Runs -/

/-- What holds in every state of a run whose calls keep the record. -/
structure Recorded (devices : Devices) (s : State) : Prop where
  /-- The last selection has an answer. -/
  defined : s.last ≠ .undefined
  /-- The word records what is open. -/
  encodes : Encodes devices s.service
  /-- After a refused selection nothing is open. -/
  refused : s.last = .refused → s.service.opened = ∅ ∧ s.service.current_display = -1

/-- The bookkeeping is right if the word records what is open. -/
lemma Recorded.consistent {devices : Devices} {s : State} (h : Recorded devices s) :
    Consistent devices s where
  defined := h.defined
  encodes := fun _ => h.encodes
  closes := fun _ => by rw [closeOutputDisplayer_of_encodes h.encodes]
  enables := fun _ => enableOutput_of_encodes h.encodes
  refused := h.refused

/-- Nothing is selected after `init`. -/
lemma recorded_start (devices : Devices) (drivers : Drivers) :
    Recorded devices (start drivers) where
  defined := by simp [start]
  encodes := Or.inl ⟨rfl, rfl⟩
  refused := fun h => by simp [start] at h

/-- A refused selection that closed everything leaves a right record. -/
lemma recorded_refused (devices : Devices) (drivers : Drivers) :
    Recorded devices (State.ofAnswer (false, ⟨-1, ∅, drivers⟩)) where
  defined := by simp [State.ofAnswer]
  encodes := Or.inl ⟨rfl, rfl⟩
  refused := fun _ => ⟨rfl, rfl⟩

/-- An accepted selection with a right record. -/
lemma recorded_accepted {devices : Devices} {s : Service} (h : Encodes devices s) :
    Recorded devices (State.ofAnswer (true, s)) where
  defined := by simp [State.ofAnswer]
  encodes := h
  refused := fun hlast => by simp [State.ofAnswer] at hlast

/-- The word of a list of names all of whose displayers opened records them. -/
lemma encodes_requested {devices : Devices} {names : Bytes} {answers : Fin 4 → Bool}
    (hall : OpensAll devices (requested devices names) answers) (manual_flag hdcp_switch : Bool) :
    Encodes devices ⟨requested devices names,
      (openBytes devices (requested devices names) answers ∅).opened,
      ⟨(openBytes devices (requested devices names) answers ∅).displayer_id, manual_flag,
        hdcp_switch⟩⟩ := by
  have hslotted := slotted_requested devices names
  obtain ⟨hopened, -, hshown⟩ := openBytes_spec devices (requested devices names) answers ∅
  rw [Finset.empty_union] at hopened
  refine Or.inr ⟨hslotted.nonneg, ?_, hslotted.zero_or_known, hslotted.place_unique, ?_⟩
  · exact ((openedBy_eq_named_iff hslotted.place_unique).mpr hall).trans hopened.symm
  · exact hshown.trans hopened.symm

/-- The word of a list of names records what it opened only if all its displayers opened. -/
lemma opensAll_of_encodes {devices : Devices} {names : Bytes} {answers : Fin 4 → Bool}
    {drivers : Drivers}
    (h : Encodes devices ⟨requested devices names,
      (openBytes devices (requested devices names) answers ∅).opened, drivers⟩) :
    OpensAll devices (requested devices names) answers := by
  have hslotted := slotted_requested devices names
  have hopened := (openBytes_spec devices (requested devices names) answers ∅).1
  rw [Finset.empty_union] at hopened
  rcases h with ⟨hcurrent, -⟩ | ⟨-, hnamed, -⟩
  · have hneg := hslotted.nonneg
    rw [show requested devices names = -1 from hcurrent] at hneg
    exact absurd hneg (by decide)
  · exact (openedBy_eq_named_iff hslotted.place_unique).mp (hnamed.trans hopened)

/-- A call that keeps the record leaves it right. -/
lemma recorded_step {devices : Devices} {s : State} (h : Recorded devices s) {call : Call}
    (hcall : KeepsRecord devices s call) : Recorded devices (step devices s call) := by
  cases call with
  | setOutputDisplayer id answers =>
    simp only [step, if_neg h.defined]
    by_cases hid : id = s.service.current_display
    · rw [setOutputDisplayer, if_pos hid]
      exact recorded_accepted h.encodes
    · have hnone : OpensNone devices id answers := hcall.resolve_left hid
      rw [setOutputDisplayer_of_opensNone h.encodes hid hnone]
      exact recorded_refused devices s.service.drivers
  | setOutputDisplayer1 id answers =>
    obtain ⟨hlength, hopens⟩ := hcall
    rw [← opensNone_requested_iff, ← opensAll_requested_iff] at hopens
    simp only [step, if_neg h.defined]
    rw [setOutputDisplayer1_eq h.encodes hlength]
    by_cases hnone : OpensNone devices (requested devices id.text) answers
    · have hopened := (openBytes_spec devices (requested devices id.text) answers ∅).1
      rw [(openedBy_eq_empty_iff devices _ answers).mpr hnone, Finset.union_empty] at hopened
      simp only [if_pos hnone, hopened]
      exact recorded_refused devices _
    · obtain ⟨hhdmi, hall⟩ := hopens.resolve_left hnone
      simp only [if_neg hnone, hhdmi, if_true]
      exact recorded_accepted (encodes_requested hall false true)
  | enableOutput enable answers => exact h

/-- A call after which the bookkeeping is right keeps the record. -/
lemma keepsRecord_of_consistent {devices : Devices} {s : State} (h : Recorded devices s)
    {call : Call} (hstep : Consistent devices (step devices s call)) :
    KeepsRecord devices s call := by
  cases call with
  | setOutputDisplayer id answers =>
    refine or_iff_not_imp_left.mpr fun hid => ?_
    by_contra hsome
    obtain ⟨haccepted, hopened, hcurrent⟩ := setOutputDisplayer_of_opens h.encodes hid hsome
    have hencodes := hstep.encodes
    simp only [step, if_neg h.defined, State.ofAnswer, haccepted, if_true] at hencodes
    exact not_encodes_ones hopened hcurrent hsome (hencodes trivial)
  | setOutputDisplayer1 id answers =>
    have hdefined := hstep.defined
    have hencodes := hstep.encodes
    simp only [step, if_neg h.defined] at hdefined hencodes
    by_cases hlength : id.text.length < currentDisplayerSize
    · refine ⟨hlength, ?_⟩
      rw [← opensNone_requested_iff, ← opensAll_requested_iff]
      refine or_iff_not_imp_left.mpr fun hsome => ?_
      rw [setOutputDisplayer1_eq h.encodes hlength] at hdefined hencodes
      simp only [if_neg hsome] at hdefined hencodes
      by_cases hhdmi : devices.hdmi = true
      · simp only [hhdmi, if_true] at hencodes
        exact ⟨hhdmi, opensAll_of_encodes (hencodes rfl)⟩
      · simp [hhdmi] at hdefined
    · rw [setOutputDisplayer1, if_pos (not_lt.mp hlength)] at hdefined
      exact absurd rfl hdefined
  | enableOutput enable answers => trivial

/-- **The selection of displayers.** After `init`, the bookkeeping is right throughout a run
exactly if each selection by word repeats the current word or opens no displayer, and each
selection by names fits in the array it is copied to and opens either no displayer or, on a board
with HDMI, all that it names.

**Proof sketch.** The record is an invariant of the calls under the condition. A selection by
word that opens something leaves bytes of ones, which name no displayer. The bytes of the
word of a list of names are slots for different displayers, so that the displayers it names are
those opened exactly if all of them opened; without HDMI the call ends at the missing device. -/
theorem always_consistent_iff (devices : Devices) (drivers : Drivers) (run : List Call) :
    StepRun.Always (step devices) (Consistent devices) (start drivers) run ↔
      StepRun.Along (step devices) (KeepsRecord devices) (start drivers) run :=
  StepRun.always_iff_along_of_invariant (I := Recorded devices)
    (fun _ => Recorded.consistent) (fun _ _ h => recorded_step h)
    (fun _ _ h => keepsRecord_of_consistent h) (recorded_start devices drivers)

/-- On a board with an LCD only, selecting it by the word 1 records 255, which names no displayer:
the LCD is open, and neither closing nor enabling reaches it. -/
theorem not_always_consistent :
    ¬ ∀ (devices : Devices) (drivers : Drivers) (run : List Call),
      StepRun.Always (step devices) (Consistent devices) (start drivers) run := by
  intro h
  have hlast := (h ⟨false, false⟩ ⟨0, false, false⟩ [.setOutputDisplayer 1 fun _ => true]).last
  have hencodes := hlast.encodes (by decide)
  have hbroken : ¬ Encodes ⟨false, false⟩ ⟨0xFF, {0}, ⟨1, false, false⟩⟩ := by
    unfold Encodes
    decide
  refine hbroken ?_
  have hstate : (StepRun.final (step ⟨false, false⟩) (start ⟨0, false, false⟩)
      [.setOutputDisplayer 1 fun _ => true]).service = ⟨0xFF, {0}, ⟨1, false, false⟩⟩ := by
    decide
  rw [← hstate]
  exact hencodes

end DisplayService
