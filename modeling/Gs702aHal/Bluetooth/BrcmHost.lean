import Gs702aHal.Bluetooth.Vendor

set_option relaxedAutoImplicit false
set_option autoImplicit false

/-!
# Setting up the Broadcom controller

`hw_config_start` resets the controller, and `hw_config_cback` is called with the event that answers
each command: it sets the speed of the serial port, asks for the controller's name, passes on the
patch file that belongs to it, record by record, sets the speed again, and writes the address. What
the outer world decides is an argument: the status and the opcode of the event, whether the stack
has a buffer and takes a command, which patch file there is and whether it can be read. The speed
`UART_TARGET_BAUD_RATE` is a constant of the build.

## Main definitions

* `Bluetooth.Brcm.HwCfg` — the state of the set-up: `hw_cfg_cb`, with the patch file behind `fw_fd`.
* `Bluetooth.Brcm.hw_config_start`, `Bluetooth.Brcm.hw_config_cback` — the two functions.
* `Bluetooth.Brcm.setup` — the exchange with the controller.

## Main results

* `Bluetooth.Brcm.settled_iff` — the stack is told the end of a set-up once.
* `Bluetooth.Brcm.buffers` — no buffer is lost or given back twice.
* `Bluetooth.Brcm.descriptors_final` — the patch file is closed at the end, and read only while it
  is open.
-/

namespace Bluetooth.Brcm

/-- `HCI_RESET`. -/
def HCI_RESET : BitVec 16 := 0x0C03
/-- `HCI_VSC_WRITE_UART_CLOCK_SETTING`. -/
def HCI_VSC_WRITE_UART_CLOCK_SETTING : BitVec 16 := 0xFC45
/-- `HCI_VSC_UPDATE_BAUDRATE`. -/
def HCI_VSC_UPDATE_BAUDRATE : BitVec 16 := 0xFC18
/-- `HCI_READ_LOCAL_NAME`. -/
def HCI_READ_LOCAL_NAME : BitVec 16 := 0x0C14
/-- `HCI_VSC_DOWNLOAD_MINIDRV`. -/
def HCI_VSC_DOWNLOAD_MINIDRV : BitVec 16 := 0xFC2E
/-- `HCI_VSC_WRITE_BD_ADDR`. -/
def HCI_VSC_WRITE_BD_ADDR : BitVec 16 := 0xFC01
/-- `HCI_VSC_LAUNCH_RAM`. -/
def HCI_VSC_LAUNCH_RAM : BitVec 16 := 0xFC4E

/-- The hardware configuration state; `idle` is zero. -/
inductive HwCfgState
  | idle
  | HW_CFG_START
  | HW_CFG_SET_UART_CLOCK
  | HW_CFG_SET_UART_BAUD_1
  | HW_CFG_READ_LOCAL_NAME
  | HW_CFG_DL_MINIDRIVER
  | HW_CFG_DL_FW_PATCH
  | HW_CFG_SET_UART_BAUD_2
  | HW_CFG_SET_BD_ADDR
  deriving DecidableEq, Repr

open HwCfgState

/-- `hw_cfg_cb` and `vnd_local_bd_addr`. The descriptor `fw_fd` is what has not been read yet of
the file that it belongs to, or `none` for `-1`. -/
structure HwCfg where
  state : HwCfgState
  fw_fd : Option (List Byte)
  f_set_baud_2 : Bool
  vnd_local_bd_addr : List Byte
  deriving DecidableEq, Repr

/-- What the outer world decides at an event: the status and the opcode that the event names,
whether there is a buffer for a command, whether the stack takes the first and a second command, the
patch file that is located for the controller's name and opened, whether the header and the payload
of a record can be read from an open file, and the opcode and the length in a buffer that was not
written. -/
structure Answers where
  status : Byte
  opcode : BitVec 16
  alloc : Bool
  xmit : Bool
  xmitAgain : Bool
  patch : Option (List Byte)
  headerRead : Bool
  payloadRead : Bool
  unwritten : BitVec 16
  unwrittenLen : Byte

/-- What the library does itself: it changes the serial port, and opens and closes the patch
file. -/
inductive BrcmAct
  | set_baud (baud : UserialBaud)
  | openPatch
  | closePatch
  deriving DecidableEq, Repr

/-- What the library does. -/
abbrev Act := VendorAct BrcmAct

/-- What the `switch` has come to. -/
abbrev Step := Progress HwCfg BrcmAct

/-! ### The functions -/

/-- A command without parameters. -/
def plainCommand (opcode : BitVec 16) : List Byte := UINT16_TO_STREAM opcode ++ [0]

/-- The command for the clock of the serial port. -/
def clockCommand : List Byte := UINT16_TO_STREAM HCI_VSC_WRITE_UART_CLOCK_SETTING ++ [1, 1]

/-- The command for the speed of the serial port. -/
def baudCommand (rate : BitVec 32) : List Byte :=
  UINT16_TO_STREAM HCI_VSC_UPDATE_BAUDRATE ++ [6, 0, 0] ++ UINT32_TO_STREAM rate

/-- The command for the address, the last octet of which comes first. -/
def bdaddrCommand (vnd_local_bd_addr : List Byte) : List Byte :=
  UINT16_TO_STREAM HCI_VSC_WRITE_BD_ADDR ++ (6 :: (vnd_local_bd_addr.take 6).reverse)

/-- `hw_config_set_bdaddr`. -/
def hw_config_set_bdaddr (s : HwCfg) (xmit : Bool) (acts : List Act) : Step :=
  ⟨{ s with state := HW_CFG_SET_BD_ADDR },
    acts ++ [.xmit HCI_VSC_WRITE_BD_ADDR ((bdaddrCommand s.vnd_local_bd_addr).map some) xmit], xmit⟩

/-- `close` if there is a descriptor. -/
def HwCfg.close (s : HwCfg) : List Act := if s.fw_fd.isSome then [.own .closePatch] else []

/-- The case `HW_CFG_SET_BD_ADDR`: the set-up is complete. -/
def bdaddrCase (s : HwCfg) (acts : List Act) : Step :=
  ⟨{ s with state := idle, fw_fd := none }, acts ++ (.deallocCommand :: .fwcfg true :: s.close),
    true⟩

/-- The case `HW_CFG_SET_UART_BAUD_2`. It goes on if the command for the address is not taken. -/
def baud2Case (rate : BitVec 32) (s : HwCfg) (a : Answers) : Step :=
  let r := hw_config_set_bdaddr s a.xmit [.own (.set_baud (line_speed_to_userial_baud rate))]
  if r.is_proceeding then r else bdaddrCase r.host r.acts

/-- The case `HW_CFG_SET_UART_CLOCK`. -/
def clockCase (rate : BitVec 32) (s : HwCfg) (a : Answers) (acts : List Act) : Step :=
  ⟨{ s with state := if s.f_set_baud_2 then HW_CFG_SET_UART_BAUD_2 else HW_CFG_SET_UART_BAUD_1 },
    acts ++ [.xmit HCI_VSC_UPDATE_BAUDRATE ((baudCommand rate).map some) a.xmit], a.xmit⟩

/-- The case `HW_CFG_START`. -/
def startCase (rate : BitVec 32) (s : HwCfg) (a : Answers) (acts : List Act) : Step :=
  if 3000000 < rate then
    ⟨{ s with state := HW_CFG_SET_UART_CLOCK },
      acts ++ [.xmit HCI_VSC_WRITE_UART_CLOCK_SETTING (clockCommand.map some) a.xmit], a.xmit⟩
  else clockCase rate s a acts

/-- The patch file is at its end, or cannot be used: it is closed, and the speed is set again. -/
def patchEnd (rate : BitVec 32) (s : HwCfg) (a : Answers) : Step :=
  startCase rate { s with fw_fd := none, f_set_baud_2 := true } a
    [.own .closePatch, .own (.set_baud (line_speed_to_userial_baud 115200))]

/-- `read` from `fw_fd`. There is nothing to be read without a descriptor. -/
def HwCfg.read (s : HwCfg) (len : ℕ) (works : Bool) : Option (List Byte × HwCfg) :=
  match s.fw_fd with
  | none => none
  | some file =>
    if works then some (file.take len, { s with fw_fd := some (file.drop len) }) else none

/-- A record whose header has been read is a command. If its payload cannot be read, `p_buf->len`
becomes two. -/
def recordCase (s : HwCfg) (a : Answers) (low high len : Byte) : Step :=
  match s.read len.toNat a.payloadRead with
  | none => ⟨s, [.xmit (STREAM_TO_UINT16 low high) ([low, high].map some) a.xmit], a.xmit⟩
  | some (payload, s) =>
    ⟨s, [.xmit (STREAM_TO_UINT16 low high) ((low :: high :: len :: payload).map some) a.xmit],
      a.xmit⟩

/-- A payload is read, or cannot be read. -/
def HwCfg.skip (s : HwCfg) (len : ℕ) (works : Bool) : HwCfg :=
  ((s.read len works).map Prod.snd).getD s

/-- The case `HW_CFG_DL_FW_PATCH`. A header that cannot be read makes `p_buf->len` large, so that a
payload of an unknown length is read all the same, and what is sent is not known. -/
def patchCase (rate : BitVec 32) (s : HwCfg) (a : Answers) : Step :=
  match s.read 3 a.headerRead with
  | some (low :: high :: len :: _, s) =>
    if a.opcode = HCI_VSC_LAUNCH_RAM then patchEnd rate s a else recordCase s a low high len
  | some (_, s) => patchEnd rate s a
  | none =>
    if a.opcode = HCI_VSC_LAUNCH_RAM then patchEnd rate s a
    else ⟨s.skip a.unwrittenLen.toNat a.payloadRead, [.xmit a.unwritten [none] a.xmit], a.xmit⟩

/-- The case `HW_CFG_READ_LOCAL_NAME`. The address is written at once if there is no patch file, or
if the command for the mini driver is not taken. -/
def nameCase (s : HwCfg) (a : Answers) : Step :=
  match a.patch with
  | none => hw_config_set_bdaddr s a.xmit []
  | some file =>
    let acts := [.own .openPatch, .xmit HCI_VSC_DOWNLOAD_MINIDRV
      ((plainCommand HCI_VSC_DOWNLOAD_MINIDRV).map some) a.xmit]
    let s := { s with fw_fd := some file, state := HW_CFG_DL_MINIDRIVER }
    if a.xmit then ⟨s, acts, true⟩ else hw_config_set_bdaddr s a.xmitAgain acts

/-- The case `HW_CFG_SET_UART_BAUD_1`. -/
def baud1Case (rate : BitVec 32) (s : HwCfg) (a : Answers) : Step :=
  ⟨{ s with state := HW_CFG_READ_LOCAL_NAME },
    [.own (.set_baud (line_speed_to_userial_baud rate))] ++
      [.xmit HCI_READ_LOCAL_NAME ((plainCommand HCI_READ_LOCAL_NAME).map some) a.xmit], a.xmit⟩

/-- The `switch` of `hw_config_cback`. -/
def hwConfigSwitch (rate : BitVec 32) (s : HwCfg) (a : Answers) : Step :=
  match s.state with
  | HW_CFG_SET_UART_BAUD_1 => baud1Case rate s a
  | HW_CFG_READ_LOCAL_NAME => nameCase s a
  | HW_CFG_DL_MINIDRIVER => patchCase rate { s with state := HW_CFG_DL_FW_PATCH } a
  | HW_CFG_DL_FW_PATCH => patchCase rate s a
  | HW_CFG_START => startCase rate s a []
  | HW_CFG_SET_UART_CLOCK => clockCase rate s a []
  | HW_CFG_SET_UART_BAUD_2 => baud2Case rate s a
  | HW_CFG_SET_BD_ADDR => bdaddrCase s []
  | idle => ⟨s, [], false⟩

/-- What is done after a failure. -/
def HwCfg.abort (s : HwCfg) : HwCfg × List Act := ({ s with state := idle, fw_fd := none }, s.close)

/-- `hw_config_cback`. -/
def hw_config_cback (rate : BitVec 32) (s : HwCfg) (a : Answers) : HwCfg × List Act :=
  cback HwCfg.abort a.status a.alloc s (hwConfigSwitch rate s a)

/-- The variables that `hw_config_start` sets. -/
def HwCfg.reset (s : HwCfg) : HwCfg :=
  { s with state := idle, fw_fd := none, f_set_baud_2 := false }

/-- `hw_config_start`. -/
def hw_config_start (s : HwCfg) (alloc xmit : Bool) : HwCfg × List Act :=
  start { s.reset with state := HW_CFG_START } s.reset HCI_RESET
    ((plainCommand HCI_RESET).map some) alloc xmit

/-- Nothing is under way. -/
def HwCfg.Idle (s : HwCfg) : Prop := s.state = idle

/-! ### What one event does -/

/-- Closing the patch file does not concern the stack. -/
lemma quiet_close (s : HwCfg) : ∀ x ∈ s.close, x.quiet = true := by
  unfold HwCfg.close
  intro x hx
  split_ifs at hx
  · rw [List.mem_singleton.mp hx]
    rfl
  · exact absurd hx List.not_mem_nil

section Switch

variable (rate : BitVec 32) {s : HwCfg} (a : Answers) {acts : List Act}
  (h : ∀ x ∈ acts, x.quiet = true)
include h

/-- `hw_config_set_bdaddr` sends one command. -/
lemma sound_set_bdaddr (xmit : Bool) : (hw_config_set_bdaddr s xmit acts).Sound HwCfg.Idle := by
  have hbusy : ¬ HwCfg.Idle { s with state := HW_CFG_SET_BD_ADDR } :=
    fun hidle => HwCfgState.noConfusion hidle
  exact Progress.sound_of_xmit h hbusy _ _ _

/-- The end of the set-up. -/
lemma sound_bdaddrCase : (bdaddrCase s acts).Sound HwCfg.Idle := by
  have hidle : HwCfg.Idle { s with state := idle, fw_fd := none } := rfl
  exact Progress.sound_of_end h hidle (quiet_close s)

/-- The command for the speed. -/
lemma sound_clockCase : (clockCase rate s a acts).Sound HwCfg.Idle := by
  have hbusy : ¬ HwCfg.Idle { s with
      state := if s.f_set_baud_2 then HW_CFG_SET_UART_BAUD_2 else HW_CFG_SET_UART_BAUD_1 } := by
    intro hidle
    cases hset : s.f_set_baud_2 <;> simp [HwCfg.Idle, hset] at hidle
  exact Progress.sound_of_xmit h hbusy _ _ _

/-- The command for the clock, or for the speed. -/
lemma sound_startCase : (startCase rate s a acts).Sound HwCfg.Idle := by
  unfold startCase
  split_ifs
  · have hbusy : ¬ HwCfg.Idle { s with state := HW_CFG_SET_UART_CLOCK } :=
      fun hidle => HwCfgState.noConfusion hidle
    exact Progress.sound_of_xmit h hbusy _ _ _
  · exact sound_clockCase rate a h

end Switch

section Switch

variable (rate : BitVec 32) (s : HwCfg) (a : Answers)

/-- The end of the patch file. -/
lemma sound_patchEnd : (patchEnd rate s a).Sound HwCfg.Idle := by
  refine sound_startCase rate a fun x hx => ?_
  rcases List.mem_cons.mp hx with rfl | hx
  · rfl
  · rw [List.mem_singleton.mp hx]
    rfl

/-- A command of the patch file. -/
lemma sound_of_record {s : HwCfg} (hbusy : ¬ s.Idle) (opcode : BitVec 16)
    (octets : List (Option Byte)) (taken : Bool) :
    Progress.Sound HwCfg.Idle (⟨s, [.xmit opcode octets taken], taken⟩ : Step) :=
  Progress.sound_of_xmit (fun _ hx => absurd hx List.not_mem_nil) hbusy opcode octets taken

/-- Reading keeps the state. -/
lemma state_of_read {s t : HwCfg} {len : ℕ} {works : Bool} {octets : List Byte}
    (h : s.read len works = some (octets, t)) : t.state = s.state := by
  unfold HwCfg.read at h
  split at h
  · exact absurd h (by simp)
  · split_ifs at h
    obtain ⟨-, rfl⟩ := Prod.mk.inj (Option.some_inj.mp h)
    rfl

/-- So does reading a payload that may be missing. -/
lemma state_skip (s : HwCfg) (len : ℕ) (works : Bool) : (s.skip len works).state = s.state := by
  unfold HwCfg.skip
  cases hread : s.read len works with
  | none => rfl
  | some r => exact state_of_read hread

/-- A record, or the end of the patch file. -/
lemma sound_patchCase {s : HwCfg} (hbusy : ¬ s.Idle) : (patchCase rate s a).Sound HwCfg.Idle := by
  unfold patchCase
  split
  · next low high len octets t hread =>
    split_ifs
    · exact sound_patchEnd rate t a
    · have hbusy' : ¬ t.Idle := by
        rw [HwCfg.Idle, state_of_read hread]
        exact hbusy
      unfold recordCase
      split
      · exact sound_of_record hbusy' _ _ _
      · next payload u hpayload =>
        refine sound_of_record ?_ _ _ _
        rw [HwCfg.Idle, state_of_read hpayload]
        exact hbusy'
  · exact sound_patchEnd rate _ a
  · split_ifs
    · exact sound_patchEnd rate s a
    · refine sound_of_record ?_ _ _ _
      rw [HwCfg.Idle, state_skip]
      exact hbusy

/-- What follows the controller's name. -/
lemma sound_nameCase : (nameCase s a).Sound HwCfg.Idle := by
  unfold nameCase
  split
  · exact sound_set_bdaddr (fun x hx => absurd hx List.not_mem_nil) a.xmit
  · next file _ =>
    by_cases hxmit : a.xmit = true
    · have hbusy : ¬ HwCfg.Idle { s with fw_fd := some file, state := HW_CFG_DL_MINIDRIVER } :=
        fun hidle => HwCfgState.noConfusion hidle
      have hquiet : ∀ x ∈ [(.own .openPatch : Act)], x.quiet = true := fun x hx => by
        rw [List.mem_singleton.mp hx]
        rfl
      simp only [hxmit, if_true]
      exact Progress.sound_of_xmit hquiet hbusy _ _ true
    · have hfalse : a.xmit = false := by simpa using hxmit
      simp only [hfalse, Bool.false_eq_true, if_false]
      refine sound_set_bdaddr (fun x hx => ?_) a.xmitAgain
      rcases List.mem_cons.mp hx with rfl | hx
      · rfl
      · rw [List.mem_singleton.mp hx]
        rfl

/-- What the stack says of the command for the address decides whether the set-up is complete. -/
lemma baud2Case_eq : baud2Case rate s a =
    if a.xmit = true then
      hw_config_set_bdaddr s a.xmit [.own (.set_baud (line_speed_to_userial_baud rate))]
    else bdaddrCase { s with state := HW_CFG_SET_BD_ADDR }
      ([.own (.set_baud (line_speed_to_userial_baud rate))] ++
        [.xmit HCI_VSC_WRITE_BD_ADDR ((bdaddrCommand s.vnd_local_bd_addr).map some) a.xmit]) := rfl

/-- The address after the second change of the speed. -/
lemma sound_baud2Case : (baud2Case rate s a).Sound HwCfg.Idle := by
  have hquiet : ∀ x ∈ [(.own (.set_baud (line_speed_to_userial_baud rate)) : Act)],
      x.quiet = true := fun x hx => by
    rw [List.mem_singleton.mp hx]
    rfl
  rw [baud2Case_eq]
  by_cases hxmit : a.xmit = true
  · rw [if_pos hxmit]
    exact sound_set_bdaddr hquiet a.xmit
  · rw [if_neg hxmit]
    refine sound_bdaddrCase fun x hx => ?_
    rcases List.mem_append.mp hx with hx | hx
    · exact hquiet x hx
    · rw [List.mem_singleton.mp hx, VendorAct.quiet]
      simpa using hxmit

/-- The `switch` sends one command, or reports the end, or fails. -/
lemma sound_hwConfigSwitch : (hwConfigSwitch rate s a).Sound HwCfg.Idle := by
  have hnil : ∀ x ∈ ([] : List Act), x.quiet = true := fun x hx => absurd hx List.not_mem_nil
  unfold hwConfigSwitch
  cases hstate : s.state with
  | idle => exact Progress.sound_of_nothing s
  | HW_CFG_START => exact sound_startCase rate a hnil
  | HW_CFG_SET_UART_CLOCK => exact sound_clockCase rate a hnil
  | HW_CFG_SET_UART_BAUD_1 =>
    have hbusy : ¬ HwCfg.Idle { s with state := HW_CFG_READ_LOCAL_NAME } :=
      fun hidle => HwCfgState.noConfusion hidle
    refine Progress.sound_of_xmit (fun x hx => ?_) hbusy _ _ _
    rw [List.mem_singleton.mp hx]
    rfl
  | HW_CFG_READ_LOCAL_NAME => exact sound_nameCase s a
  | HW_CFG_DL_MINIDRIVER =>
    have hbusy : ¬ HwCfg.Idle { s with state := HW_CFG_DL_FW_PATCH } :=
      fun hidle => HwCfgState.noConfusion hidle
    exact sound_patchCase rate a hbusy
  | HW_CFG_DL_FW_PATCH =>
    have hbusy : ¬ s.Idle := fun hidle => HwCfgState.noConfusion (hstate.symm.trans hidle)
    exact sound_patchCase rate a hbusy
  | HW_CFG_SET_UART_BAUD_2 => exact sound_baud2Case rate s a
  | HW_CFG_SET_BD_ADDR => exact sound_bdaddrCase hnil

/-- **Every call of `hw_config_cback` sends one command or reports once.** -/
theorem turn_hw_config_cback :
    Turn HwCfg.Idle (hw_config_cback rate s a).1 (hw_config_cback rate s a).2 := by
  have habort : ∀ t : HwCfg, HwCfg.Idle t.abort.1 ∧ ∀ x ∈ t.abort.2, x.quiet = true :=
    fun t => ⟨rfl, quiet_close t⟩
  rw [hw_config_cback]
  exact turn_cback habort a.status a.alloc s (sound_hwConfigSwitch rate s a)

end Switch

/-! ### The set-up -/

/-- The exchange with the controller after `hw_config_start`. -/
def setup (s : HwCfg) (alloc xmit : Bool) : Exchange HwCfg Act :=
  started (hw_config_start s alloc xmit)

/-- The state of the exchange after an event. -/
def event (rate : BitVec 32) (x : Exchange HwCfg Act) (a : Answers) : Exchange HwCfg Act :=
  x.reply (hw_config_cback rate) VendorAct.sends a

/-- **The stack is told the end of a set-up once**: after every run of events, each of which answers
a command, either one command is under way and nothing has been reported, or none is and the end
has been reported once. This is so exactly if the stack took the first command or had no buffer for
it.

**Proof sketch.** Each call of `hw_config_cback` sends one command or reports once. -/
theorem settled_iff (rate : BitVec 32) (s : HwCfg) (alloc xmit : Bool) (run : List Answers)
    (hrun : StepRun.Along (event rate) Exchange.Expected (setup s alloc xmit) run) :
    Exchange.Settled HwCfg.Idle VendorAct.reports
        (StepRun.final (event rate) (setup s alloc xmit) run) ↔
      (alloc = true → xmit = true) :=
  settled_start_iff (turn_hw_config_cback rate) _ _ alloc xmit run
    (fun h => HwCfgState.noConfusion h) rfl hrun

/-- An event of a status for which there is a buffer, but no patch file. -/
def answered (status : Byte) : Answers :=
  ⟨status, HCI_RESET, true, true, true, none, true, true, 0, 0⟩

/-- A set-up whose second command fails. -/
theorem settled_iff_failing :
    Exchange.Settled HwCfg.Idle VendorAct.reports
        (StepRun.final (event 3000000) (setup ⟨idle, none, false, []⟩ true true)
          [answered 0, answered 1]) ↔
      (true = true → true = true) :=
  settled_iff 3000000 ⟨idle, none, false, []⟩ true true [answered 0, answered 1]
    ⟨Nat.one_pos, Nat.one_pos, trivial⟩

/-- **No buffer is lost or given back twice**, but for that of a first command that the stack did
not take. -/
theorem buffers (rate : BitVec 32) (s : HwCfg) (alloc xmit : Bool) (run : List Answers) :
    heldCommands (StepRun.final (event rate) (setup s alloc xmit) run).log =
        (if alloc = true ∧ xmit = false then 1 else 0) ∧
      (StepRun.final (event rate) (setup s alloc xmit) run).log.countP VendorAct.returnsEvent =
        run.length :=
  heldCommands_final (turn_hw_config_cback rate) _ _ alloc xmit run

/-! ### The patch file -/

/-- How often the patch file was opened and not closed. -/
def heldPatch (acts : List Act) : ℤ :=
  acts.count (.own .openPatch) - acts.count (.own .closePatch)

/-- The patch files of a list are those of its parts. -/
lemma heldPatch_append (l l' : List Act) : heldPatch (l ++ l') = heldPatch l + heldPatch l' := by
  simp only [heldPatch, List.count_append]
  omega

/-- The descriptors that the library has. -/
def HwCfg.descriptors (s : HwCfg) : ℤ := if s.fw_fd.isSome then 1 else 0

/-- The patch file is open while it is passed on; apart from that it may only be open while the
address is written. -/
def HwCfg.Coherent (s : HwCfg) : Prop :=
  match s.state with
  | HW_CFG_DL_MINIDRIVER => s.fw_fd.isSome = true
  | HW_CFG_DL_FW_PATCH => s.fw_fd.isSome = true
  | HW_CFG_SET_BD_ADDR => True
  | _ => s.fw_fd = none

/-- The reads of an open file work. -/
def Answers.Reads (a : Answers) : Prop := a.headerRead = true ∧ a.payloadRead = true

/-- All octets of the commands are known. -/
def Known (acts : List Act) : Prop := ∀ c ∈ commands acts, none ∉ c.2

/-- What the `switch` does with the patch file. -/
structure Handles (s : HwCfg) (a : Answers) (r : Step) : Prop where
  coherent : r.host.Coherent
  held : s.descriptors + heldPatch r.acts = r.host.descriptors
  known : a.Reads → Known r.acts

/-- Octets that were written are known. -/
lemma notMem_map_some (octets : List Byte) : none ∉ octets.map some := by simp

/-- The commands of two lists are known if those of each are. -/
lemma Known.append {l l' : List Act} (h : Known l) (h' : Known l') : Known (l ++ l') := by
  intro c hc
  rw [commands_append] at hc
  exact (List.mem_append.mp hc).elim (h c) (h' c)

/-- A command whose octets were written. -/
lemma known_xmit (opcode : BitVec 16) (octets : List Byte) (taken : Bool) :
    Known [.xmit opcode (octets.map some) taken] := by
  intro c hc
  cases taken with
  | false => exact absurd hc List.not_mem_nil
  | true =>
    rw [List.mem_singleton.mp hc]
    exact notMem_map_some octets

section Patch

variable {rate : BitVec 32} {s : HwCfg} {a : Answers} {acts : List Act}

/-- A command after other actions. -/
lemma Handles.of_xmit {t : HwCfg} (ht : t.Coherent)
    (hheld : s.descriptors + heldPatch acts = t.descriptors) (hknown : Known acts)
    (opcode : BitVec 16) (octets : List Byte) (taken proceeding : Bool) :
    Handles s a ⟨t, acts ++ [.xmit opcode (octets.map some) taken], proceeding⟩ := by
  refine ⟨ht, ?_, fun _ => hknown.append (known_xmit opcode octets taken)⟩
  rw [heldPatch_append]
  exact (congrArg (s.descriptors + ·) (Int.add_zero _)).trans hheld

/-- The command for the speed. -/
lemma handles_clockCase {t : HwCfg} (ht : t.fw_fd = none)
    (hheld : s.descriptors + heldPatch acts = 0) (hknown : Known acts) :
    Handles s a (clockCase rate t a acts) := by
  have hcoherent : HwCfg.Coherent { t with
      state := if t.f_set_baud_2 then HW_CFG_SET_UART_BAUD_2 else HW_CFG_SET_UART_BAUD_1 } := by
    cases hset : t.f_set_baud_2 <;> exact ht
  have hdescriptors : HwCfg.descriptors { t with
      state := if t.f_set_baud_2 then HW_CFG_SET_UART_BAUD_2 else HW_CFG_SET_UART_BAUD_1 } = 0 := by
    rw [HwCfg.descriptors, ht]
    rfl
  exact Handles.of_xmit hcoherent (hheld.trans hdescriptors.symm) hknown _ _ _ _

/-- The command for the clock, or for the speed. -/
lemma handles_startCase {t : HwCfg} (ht : t.fw_fd = none)
    (hheld : s.descriptors + heldPatch acts = 0) (hknown : Known acts) :
    Handles s a (startCase rate t a acts) := by
  unfold startCase
  split_ifs
  · have hcoherent : HwCfg.Coherent { t with state := HW_CFG_SET_UART_CLOCK } := ht
    have hdescriptors : HwCfg.descriptors { t with state := HW_CFG_SET_UART_CLOCK } = 0 := by
      rw [HwCfg.descriptors, ht]
      rfl
    exact Handles.of_xmit hcoherent (hheld.trans hdescriptors.symm) hknown _ _ _ _
  · exact handles_clockCase ht hheld hknown

/-- The end of the patch file closes it. -/
lemma handles_patchEnd {t : HwCfg} (hs : s.fw_fd.isSome = true) :
    Handles s a (patchEnd rate t a) := by
  refine handles_startCase rfl ?_ fun c hc => absurd hc List.not_mem_nil
  rw [HwCfg.descriptors, if_pos hs]
  rfl

/-- What reading from an open file gives. -/
lemma read_of_isSome (hs : s.fw_fd.isSome = true) (len : ℕ) :
    s.read len true =
      some ((s.fw_fd.getD []).take len, { s with fw_fd := some ((s.fw_fd.getD []).drop len) }) := by
  obtain ⟨file, hfile⟩ := Option.isSome_iff_exists.mp hs
  rw [HwCfg.read, hfile]
  rfl

/-- Reading keeps the descriptor. -/
lemma isSome_of_read {t : HwCfg} {len : ℕ} {works : Bool} {octets : List Byte}
    (h : s.read len works = some (octets, t)) :
    s.fw_fd.isSome = true ∧ t.fw_fd.isSome = true := by
  unfold HwCfg.read at h
  split at h
  · exact absurd h (by simp)
  · next file hfile =>
    split_ifs at h
    obtain ⟨-, rfl⟩ := Prod.mk.inj (Option.some_inj.mp h)
    exact ⟨by rw [hfile]; rfl, rfl⟩

/-- So does reading a payload that may be missing. -/
lemma isSome_fw_fd_skip (hs : s.fw_fd.isSome = true) (len : ℕ) (works : Bool) :
    (s.skip len works).fw_fd.isSome = true := by
  unfold HwCfg.skip
  cases hread : s.read len works with
  | none => exact hs
  | some r => exact (isSome_of_read hread).2

/-- An open file stays open with a command. -/
lemma handles_of_open {t : HwCfg} (hs : s.fw_fd.isSome = true) (ht : t.fw_fd.isSome = true)
    (hstate : t.state = HW_CFG_DL_FW_PATCH) (opcode : BitVec 16) (octets : List Byte)
    (taken proceeding : Bool) :
    Handles s a ⟨t, [.xmit opcode (octets.map some) taken], proceeding⟩ := by
  have hcoherent : t.Coherent := by
    rw [HwCfg.Coherent, hstate]
    exact ht
  have hheld : s.descriptors + heldPatch [] = t.descriptors := by
    rw [HwCfg.descriptors, HwCfg.descriptors, if_pos hs, if_pos ht]
    rfl
  exact Handles.of_xmit hcoherent hheld (fun c hc => absurd hc List.not_mem_nil) _ _ _ _

/-- A record, or the end of the patch file. -/
lemma handles_patchCase (hs : s.fw_fd.isSome = true) (hstate : s.state = HW_CFG_DL_FW_PATCH) :
    Handles s a (patchCase rate s a) := by
  unfold patchCase
  split
  · next low high len octets t hread =>
    have ht := (isSome_of_read hread).2
    have htstate : t.state = HW_CFG_DL_FW_PATCH := (state_of_read hread).trans hstate
    split_ifs
    · exact handles_patchEnd hs
    · unfold recordCase
      split
      · exact handles_of_open hs ht htstate _ _ _ _
      · next payload u hpayload =>
        exact handles_of_open hs (isSome_of_read hpayload).2
          ((state_of_read hpayload).trans htstate) _ _ _ _
  · exact handles_patchEnd hs
  · next hread =>
    split_ifs
    · exact handles_patchEnd hs
    · have hopen := isSome_fw_fd_skip hs a.unwrittenLen.toNat a.payloadRead
      refine ⟨?_, ?_, fun hreads => ?_⟩
      · rw [HwCfg.Coherent, state_skip, hstate]
        exact hopen
      · rw [HwCfg.descriptors, HwCfg.descriptors, if_pos hs, if_pos hopen]
        rfl
      · rw [hreads.1, read_of_isSome hs] at hread
        exact absurd hread (by simp)

/-- The command for the address, whatever has been done before. -/
lemma handles_set_bdaddr {t : HwCfg} (hheld : s.descriptors + heldPatch acts = t.descriptors)
    (hknown : Known acts) (xmit : Bool) : Handles s a (hw_config_set_bdaddr t xmit acts) := by
  have hcoherent : HwCfg.Coherent { t with state := HW_CFG_SET_BD_ADDR } := trivial
  exact Handles.of_xmit hcoherent hheld hknown _ _ _ _

/-- The end of the set-up closes the file. -/
lemma handles_bdaddrCase {t : HwCfg} (hheld : s.descriptors + heldPatch acts = t.descriptors)
    (hknown : Known acts) : Handles s a (bdaddrCase t acts) := by
  have hclose : heldPatch (.deallocCommand :: .fwcfg true :: t.close) = -t.descriptors := by
    rw [HwCfg.close, HwCfg.descriptors]
    cases t.fw_fd <;> rfl
  refine ⟨rfl, ?_, fun _ => hknown.append ?_⟩
  · have hzero : HwCfg.descriptors { t with state := idle, fw_fd := none } = 0 := rfl
    rw [bdaddrCase, heldPatch_append, hclose, hzero]
    omega
  · intro c hc
    rw [commands_cons, commands_cons, commands_quiet (quiet_close t)] at hc
    exact absurd hc List.not_mem_nil

/-- What follows the controller's name. -/
lemma handles_nameCase (hs : s.fw_fd = none) : Handles s a (nameCase s a) := by
  have hzero : s.descriptors = 0 := by rw [HwCfg.descriptors, hs]; rfl
  unfold nameCase
  split
  · exact handles_set_bdaddr (Int.add_zero _) (fun c hc => absurd hc List.not_mem_nil) a.xmit
  · next file _ =>
    have hheld : s.descriptors + heldPatch [.own .openPatch, .xmit HCI_VSC_DOWNLOAD_MINIDRV
        ((plainCommand HCI_VSC_DOWNLOAD_MINIDRV).map some) a.xmit] = 1 := by
      rw [hzero]
      rfl
    have hknown : Known [(.own .openPatch : Act), .xmit HCI_VSC_DOWNLOAD_MINIDRV
        ((plainCommand HCI_VSC_DOWNLOAD_MINIDRV).map some) a.xmit] :=
      known_xmit HCI_VSC_DOWNLOAD_MINIDRV (plainCommand HCI_VSC_DOWNLOAD_MINIDRV) a.xmit
    simp only
    split_ifs
    · exact ⟨rfl, hheld, fun _ => hknown⟩
    · exact handles_set_bdaddr hheld hknown a.xmitAgain

/-- The `switch` keeps account of the patch file. -/
lemma handles_hwConfigSwitch (hs : s.Coherent) : Handles s a (hwConfigSwitch rate s a) := by
  have hnil : Known ([] : List Act) := fun c hc => absurd hc List.not_mem_nil
  have hbaud : Known [(.own (.set_baud (line_speed_to_userial_baud rate)) : Act)] :=
    fun c hc => absurd hc List.not_mem_nil
  have hheld : s.descriptors +
      heldPatch [.own (.set_baud (line_speed_to_userial_baud rate))] = s.descriptors :=
    Int.add_zero _
  have hzero : s.fw_fd = none → s.descriptors + heldPatch [] = 0 := fun hnone => by
    rw [HwCfg.descriptors, hnone]
    rfl
  unfold hwConfigSwitch
  rw [HwCfg.Coherent] at hs
  cases hstate : s.state with
  | idle =>
    rw [hstate] at hs
    refine ⟨?_, Int.add_zero _, fun _ => hnil⟩
    rw [HwCfg.Coherent, hstate]
    exact hs
  | HW_CFG_START =>
    rw [hstate] at hs
    exact handles_startCase hs (hzero hs) hnil
  | HW_CFG_SET_UART_CLOCK =>
    rw [hstate] at hs
    exact handles_clockCase hs (hzero hs) hnil
  | HW_CFG_SET_UART_BAUD_1 =>
    rw [hstate] at hs
    have hcoherent : HwCfg.Coherent { s with state := HW_CFG_READ_LOCAL_NAME } := hs
    exact Handles.of_xmit hcoherent hheld hbaud _ _ _ _
  | HW_CFG_READ_LOCAL_NAME =>
    rw [hstate] at hs
    exact handles_nameCase hs
  | HW_CFG_DL_MINIDRIVER =>
    rw [hstate] at hs
    have hopen : HwCfg.fw_fd { s with state := HW_CFG_DL_FW_PATCH } |>.isSome := hs
    have hpatch : Handles { s with state := HW_CFG_DL_FW_PATCH } a
        (patchCase rate { s with state := HW_CFG_DL_FW_PATCH } a) := handles_patchCase hopen rfl
    exact ⟨hpatch.coherent, hpatch.held, hpatch.known⟩
  | HW_CFG_DL_FW_PATCH =>
    rw [hstate] at hs
    exact handles_patchCase hs hstate
  | HW_CFG_SET_UART_BAUD_2 =>
    rw [hstate] at hs
    simp only
    rw [baud2Case_eq]
    split_ifs
    · exact handles_set_bdaddr hheld hbaud a.xmit
    · exact handles_bdaddrCase (t := { s with state := HW_CFG_SET_BD_ADDR }) hheld (hbaud.append
        (known_xmit HCI_VSC_WRITE_BD_ADDR (bdaddrCommand s.vnd_local_bd_addr) a.xmit))
  | HW_CFG_SET_BD_ADDR => exact handles_bdaddrCase (Int.add_zero _) hnil

end Patch

/-- What a call of `hw_config_cback` does with the patch file. -/
lemma handles_hw_config_cback (rate : BitVec 32) {s : HwCfg} (hs : s.Coherent) (a : Answers) :
    (hw_config_cback rate s a).1.Coherent ∧
      s.descriptors + heldPatch (hw_config_cback rate s a).2 =
        (hw_config_cback rate s a).1.descriptors ∧
      (a.Reads → Known (hw_config_cback rate s a).2) := by
  have hswitch : Handles s a (hwConfigSwitch rate s a) := handles_hwConfigSwitch hs
  obtain ⟨hcoherent, hheld, hknown⟩ := hswitch
  have habort : ∀ t : HwCfg, t.descriptors + heldPatch t.abort.2 = t.abort.1.descriptors :=
    fun t => by
      rw [HwCfg.abort, HwCfg.close, HwCfg.descriptors]
      cases t.fw_fd <;> rfl
  have hclose : ∀ t : HwCfg, Known t.close := fun t c hc => by
    rw [commands_quiet (quiet_close t)] at hc
    exact absurd hc List.not_mem_nil
  have hcons : ∀ l : List Act, heldPatch (.alloc :: l) = heldPatch l := fun l => by
    rw [← List.singleton_append, heldPatch_append]
    exact Int.zero_add _
  unfold hw_config_cback cback
  by_cases hbuffer : a.status = 0 ∧ a.alloc = true
  · rw [if_pos hbuffer]
    by_cases hp : (hwConfigSwitch rate s a).is_proceeding = true
    · rw [if_pos hp]
      refine ⟨hcoherent, ?_, fun hreads => ?_⟩
      · rw [hcons, heldPatch_append]
        exact (congrArg (s.descriptors + ·) (Int.add_zero _)).trans hheld
      · have hevent : Known [(.deallocEvent : Act)] := fun c hc => absurd hc List.not_mem_nil
        exact (hknown hreads).append hevent
    · rw [if_neg hp]
      refine ⟨rfl, ?_, fun hreads => ?_⟩
      · have hzero := habort (hwConfigSwitch rate s a).host
        have hfixed : heldPatch [.deallocEvent, .deallocCommand, .fwcfg false] = 0 := rfl
        simp only [hcons, heldPatch_append, hfixed]
        omega
      · have hfixed : Known [(.deallocEvent : Act), .deallocCommand, .fwcfg false] :=
          fun c hc => absurd hc List.not_mem_nil
        exact (hknown hreads).append (hfixed.append (hclose _))
  · rw [if_neg hbuffer]
    refine ⟨rfl, ?_, fun _ => ?_⟩
    · have hzero := habort s
      have hfixed : heldPatch [.deallocEvent, .fwcfg false] = 0 := rfl
      simp only [heldPatch_append, hfixed]
      omega
    · have hfixed : Known [(.deallocEvent : Act), .fwcfg false] :=
        fun c hc => absurd hc List.not_mem_nil
      exact hfixed.append (hclose s)

/-- What is known of the patch file at each time. -/
structure PatchKept (x : Exchange HwCfg Act) : Prop where
  coherent : x.party.Coherent
  held : heldPatch x.log = x.party.descriptors

/-- At the beginning there is none. -/
lemma patchKept_setup (s : HwCfg) (alloc xmit : Bool) : PatchKept (setup s alloc xmit) := by
  cases alloc <;> exact ⟨rfl, rfl⟩

/-- An event keeps what is known of the patch file. -/
lemma PatchKept.event {rate : BitVec 32} {x : Exchange HwCfg Act} (h : PatchKept x) (a : Answers) :
    PatchKept (Brcm.event rate x a) := by
  obtain ⟨hcoherent, hheld, -⟩ := handles_hw_config_cback rate h.coherent a
  refine ⟨hcoherent, ?_⟩
  rw [Brcm.event, Exchange.reply, heldPatch_append, h.held]
  exact hheld

/-- **The patch file is closed at the end, and read only while it is open**: in every run, it is
open exactly as long as there is a descriptor, and closed when nothing is under way; and if the
reads of an open file work, each command that is sent consists of octets that were written to it.

**Proof sketch.** In the states in which records are read there is a descriptor, since these states
are only entered with one. Each call opens and closes what it does to the descriptor. -/
theorem descriptors_final (rate : BitVec 32) (s : HwCfg) (alloc xmit : Bool) (run : List Answers) :
    (heldPatch (StepRun.final (event rate) (setup s alloc xmit) run).log =
        (StepRun.final (event rate) (setup s alloc xmit) run).party.descriptors ∧
      ((StepRun.final (event rate) (setup s alloc xmit) run).party.Idle →
        heldPatch (StepRun.final (event rate) (setup s alloc xmit) run).log = 0)) ∧
    ((∀ a ∈ run, a.Reads) →
      Known (StepRun.final (event rate) (setup s alloc xmit) run).log) := by
  constructor
  · have htrue : StepRun.Along (event rate) (fun _ _ => True) (setup s alloc xmit) run :=
      StepRun.along_of_forall (fun _ _ => trivial) _ run
    have halways : StepRun.Always (event rate) PatchKept (setup s alloc xmit) run :=
      StepRun.always_of_along (I := PatchKept) (fun _ a hx _ => hx.event a)
        (patchKept_setup s alloc xmit) htrue
    obtain ⟨hcoherent, hheld⟩ := halways.last
    refine ⟨hheld, fun hidle => ?_⟩
    rw [HwCfg.Coherent, hidle] at hcoherent
    rw [hheld, HwCfg.descriptors, hcoherent]
    rfl
  · intro hreads
    have hknown : Known (setup s alloc xmit).log := by
      cases alloc with
      | true => exact known_xmit HCI_RESET (plainCommand HCI_RESET) xmit
      | false => exact fun c hc => absurd hc List.not_mem_nil
    have hkept := patchKept_setup s alloc xmit
    generalize setup s alloc xmit = x at hknown hkept
    induction run generalizing x with
    | nil => exact hknown
    | cons a run ih =>
      obtain ⟨-, -, hcall⟩ := handles_hw_config_cback rate hkept.coherent a
      exact ih (fun b hb => hreads b (List.mem_cons_of_mem a hb)) _
        (hknown.append (hcall (hreads a List.mem_cons_self))) (hkept.event a)

end Bluetooth.Brcm
