import Gs702aHal.Bluetooth.RtkConfig
import Gs702aHal.Bluetooth.Vendor

set_option relaxedAutoImplicit false
set_option autoImplicit false

/-!
# Setting up the Realtek controller

`hw_config_start` sends a first command to the controller, and `hw_config_cback` is called with the
event that answers each command: it loads the configuration file and the firmware, changes the speed
of the serial port on both sides, and passes the firmware on packet by packet. What the outer world
decides is an argument: whether the stack has a buffer, whether it takes a command, what is in the
files, and what the controller answers. A packet is copied out of the firmware's memory by a
pointer; an octet that is read from somewhere else is unknown.

The callbacks are those of the stack, which calls `hw_config_start` after it has set them. The file
descriptor `fw_fd` is never opened for this controller.

## Main definitions

* `Bluetooth.Rtk.HwCfg` — the state of the set-up: `hw_cfg_cb.state`, and the static variables.
* `Bluetooth.Rtk.hw_config_start`, `Bluetooth.Rtk.hw_config_cback` — the two functions.
* `Bluetooth.Rtk.setup` — the exchange with the controller.

## Main results

* `Bluetooth.Rtk.setup_settled_iff` — the stack is told the end of a set-up once.
* `Bluetooth.Rtk.setup_buffers` — no buffer is lost or given back twice.
* `Bluetooth.Rtk.setup_memory` — what happens to the memory of the firmware and of the file.
-/

namespace Bluetooth.Rtk

/-- `HCI_VSC_UPDATE_BAUDRATE`. -/
def HCI_VSC_UPDATE_BAUDRATE : BitVec 16 := 0xFC17
/-- `HCI_VSC_DOWNLOAD_FW_PATCH`. -/
def HCI_VSC_DOWNLOAD_FW_PATCH : BitVec 16 := 0xFC20
/-- `HCI_VSC_H5_INIT`. -/
def HCI_VSC_H5_INIT : BitVec 16 := 0xFCEE
/-- `PATCH_DATA_FIELD_MAX_SIZE`. -/
def PATCH_DATA_FIELD_MAX_SIZE : ℕ := 252

/-- The hardware configuration state; `idle` is zero. -/
inductive HwCfgState
  | idle
  | HW_CFG_H5_INIT
  | HW_CFG_START
  | HW_CFG_SET_UART_BAUD_HOST
  | HW_CFG_SET_UART_BAUD_CONTROLLER
  | HW_CFG_DL_FW_PATCH
  deriving DecidableEq, Repr

open HwCfgState

/-- A pointer: some octets behind the start of the firmware's memory, or behind the address zero. -/
structure Pointer where
  null : Bool
  offset : ℕ
  deriving DecidableEq, Repr

/-- `hw_cfg_cb.state`, `gHwFlowControlEnable`, and the static variables of `hw_config_cback`. -/
structure HwCfg where
  state : HwCfgState
  gHwFlowControlEnable : Bool
  buf : Option (List Byte)
  baudrate : BitVec 32
  iCurIndex : Byte
  iCurLen : Byte
  iEndIndex : Byte
  iLastPacketLen : Byte
  iAdditionPkt : Byte
  iTotalIndex : Byte
  bufpatch : Pointer
  iIndexRx : Byte
  deriving DecidableEq, Repr

/-- A configuration file that can be parsed without reading behind its end. -/
structure ConfigFile where
  octets : List Byte
  parsed : ∀ flow, (rtk_parse_config_file octets flow).isSome

/-- What the parser finds in the file. -/
def ConfigFile.found (f : ConfigFile) (flow : Bool) : Found :=
  (rtk_parse_config_file f.octets flow).get (f.parsed flow)

/-- What comes of reading a file: there is none (or no memory for it), or `read` gives fewer octets
than `stat` has counted, or the file is read. -/
inductive FileRead (α : Type)
  | missing
  | short
  | contents (file : α)

/-- `read` gives fewer octets than the file has. -/
def FileRead.isShort {α : Type} : FileRead α → Bool
  | short => true
  | _ => false

/-- What the outer world decides at an event: the status, the opcode and the index that the event
names, whether there is a buffer for a command, whether the stack takes the command, and the two
files. -/
structure Answers where
  status : Byte
  opcode : BitVec 16
  index : Byte
  alloc : Bool
  xmit : Bool
  config : FileRead ConfigFile
  firmware : FileRead (List Byte)

/-- The blocks of memory: for the configuration file, and for the firmware. -/
inductive Block
  | config
  | firmware
  deriving DecidableEq, Repr

/-- What the library does itself: it changes the serial port, and takes memory and gives it back. -/
inductive RtkAct
  | set_baud (baud : UserialBaud)
  | set_hw_fctrl (on : Bool)
  | malloc (block : Block)
  | free (block : Block)
  deriving DecidableEq, Repr

/-- What the library does. -/
abbrev Act := VendorAct RtkAct

/-- What the `switch` has come to. -/
abbrev Step := Progress HwCfg RtkAct

/-! ### The functions -/

/-- `memcpy` from a pointer. -/
def HwCfg.read (s : HwCfg) (p : Pointer) (len : ℕ) : List (Option Byte) :=
  (List.range len).map fun i => if p.null then none else (s.buf.getD [])[p.offset + i]?

/-- The octets of `hw_config_set_controller_baudrate`. The speed is passed as a `uint16_t`. -/
def baudratePacket (baudrate : BitVec 32) : List Byte :=
  UINT16_TO_STREAM HCI_VSC_UPDATE_BAUDRATE ++
    (4 :: UINT32_TO_STREAM ((baudrate.setWidth 16).setWidth 32))

/-- `hw_config_set_controller_baudrate`. -/
def hw_config_set_controller_baudrate (s : HwCfg) (a : Answers) (acts : List Act) : Step :=
  ⟨{ s with state := HW_CFG_SET_UART_BAUD_HOST },
    acts ++ [.xmit HCI_VSC_UPDATE_BAUDRATE ((baudratePacket s.baudrate).map some) a.xmit], a.xmit⟩

/-- The octets of a packet with a part of the firmware. -/
def patchPacket (index len : Byte) (data : List (Option Byte)) : List (Option Byte) :=
  (UINT16_TO_STREAM HCI_VSC_DOWNLOAD_FW_PATCH ++ [1 + len, index]).map some ++ data

/-- `hci_download_patch_h4`, with the variables that it is called with. -/
def hci_download_patch_h4 (s : HwCfg) (a : Answers) (acts : List Act) : Step :=
  ⟨{ s with state := HW_CFG_DL_FW_PATCH },
    acts ++ [.xmit HCI_VSC_DOWNLOAD_FW_PATCH
      (patchPacket s.iCurIndex s.iCurLen (s.read s.bufpatch s.iCurLen.toNat)) a.xmit], a.xmit⟩

/-- The event of a packet moves on to the next one. -/
def HwCfg.update (s : HwCfg) (a : Answers) : HwCfg :=
  if a.opcode = HCI_VSC_DOWNLOAD_FW_PATCH then
    { s with
      iIndexRx := a.index
      bufpatch := if s.iCurIndex < s.iEndIndex then
        { s.bufpatch with offset := s.bufpatch.offset + PATCH_DATA_FIELD_MAX_SIZE }
        else s.bufpatch
      iCurIndex := s.iCurIndex + 1 }
  else s

/-- The packet to be sent: a full one, the last one with data, or one of those that fill up. -/
def HwCfg.select (s : HwCfg) : HwCfg :=
  if s.iCurIndex < s.iEndIndex then
    { s with
      iCurIndex := s.iCurIndex &&& 0x7F
      iCurLen := BitVec.ofNat 8 PATCH_DATA_FIELD_MAX_SIZE }
  else if s.iCurIndex = s.iEndIndex then
    { s with
      iCurIndex := if s.iCurIndex = s.iTotalIndex then s.iCurIndex ||| 0x80
        else s.iCurIndex &&& 0x7F
      iCurLen := s.iLastPacketLen }
  else if s.iCurIndex < s.iTotalIndex then
    { s with iCurIndex := s.iCurIndex &&& 0x7F, bufpatch := ⟨true, 0⟩, iCurLen := 0 }
  else { s with iCurIndex := s.iCurIndex ||| 0x80, bufpatch := ⟨true, 0⟩, iCurLen := 0 }

/-- The event says that the last packet has arrived. -/
def HwCfg.Complete (s : HwCfg) (a : Answers) : Prop :=
  a.opcode = HCI_VSC_DOWNLOAD_FW_PATCH ∧ (s.iIndexRx &&& 0x80 ≠ 0 ∨ s.iIndexRx = s.iTotalIndex)

instance (s : HwCfg) (a : Answers) : Decidable (s.Complete a) :=
  inferInstanceAs (Decidable (a.opcode = HCI_VSC_DOWNLOAD_FW_PATCH ∧
    (s.iIndexRx &&& 0x80 ≠ 0 ∨ s.iIndexRx = s.iTotalIndex)))

/-- `DOWNLOAD_FW`. -/
def downloadFw (s : HwCfg) (a : Answers) (acts : List Act) : Step :=
  if (s.update a).Complete a then
    ⟨{ s.update a with buf := none, state := idle },
      acts ++ (if (s.update a).buf.isSome then [.own (.free .firmware)] else []) ++
        [.deallocCommand, .fwcfg true, .own (.set_hw_fctrl s.gHwFlowControlEnable)], true⟩
  else hci_download_patch_h4 (s.update a).select a acts

/-- `rtk_get_bt_config`: what the file sets, what it holds, and what is done with its memory. -/
def rtk_get_bt_config (flow : Bool) : FileRead ConfigFile → Found × List Byte × List Act
  | .missing => (⟨0, flow⟩, [], [])
  | .short => (⟨0, flow⟩, [], [.own (.malloc .config), .own (.free .config)])
  | .contents f => (f.found flow, f.octets, [.own (.malloc .config)])

/-- `rtk_get_bt_firmware`, and the copy of the configuration file behind the firmware. -/
def rtk_get_bt_firmware (octets : List Byte) :
    FileRead (List Byte) → Option (List Byte) × List Act
  | .missing => (none, [])
  | .short => (none, [.own (.malloc .firmware), .own (.free .firmware)])
  | .contents fw => (some (fw ++ octets), [.own (.malloc .firmware)])

/-- The memory of the configuration file is given back if there is a pointer to it. The one to
memory that was given back after a short read is still there. -/
def freeConfigFile : FileRead ConfigFile → List Act
  | .missing => []
  | .short => [.own (.free .config)]
  | .contents _ => [.own (.free .config)]

/-- The file and the firmware are loaded. The second part is what the file holds. -/
def HwCfg.load (s : HwCfg) (a : Answers) : HwCfg × List Byte × List Act :=
  let c := rtk_get_bt_config s.gHwFlowControlEnable a.config
  let f := rtk_get_bt_firmware c.2.1 a.firmware
  ({ s with
      buf := f.1, baudrate := c.1.baudrate, gHwFlowControlEnable := c.1.gHwFlowControlEnable
      iCurIndex := 0, iCurLen := 0, iEndIndex := 0, iLastPacketLen := 0, iAdditionPkt := 0
      iTotalIndex := 0, bufpatch := ⟨true, 0⟩, iIndexRx := 0 },
    c.2.1, c.2.2 ++ f.2 ++ freeConfigFile a.config)

/-- How many packets fill up, if the last one with data has a number: so many that the packets, and
the command for the speed if there is one, are a multiple of eight. -/
def additionPkt (iEndIndex : Byte) (baudrate : BitVec 32) : Byte :=
  let n := iEndIndex.toNat + if baudrate ≠ 0 then 2 else 1
  BitVec.ofNat 8 (if n % 8 ≠ 0 then 8 - n % 8 else 0)

/-- The numbers of the packets for `buf_len` octets. -/
def HwCfg.count (s : HwCfg) (buf_len : ℕ) : HwCfg :=
  let iEndIndex := BitVec.ofNat 8 ((buf_len - 1) / PATCH_DATA_FIELD_MAX_SIZE)
  let iLastPacketLen := BitVec.ofNat 8 (buf_len % PATCH_DATA_FIELD_MAX_SIZE)
  { s with
    iEndIndex := iEndIndex
    iLastPacketLen := if iLastPacketLen = 0 then BitVec.ofNat 8 PATCH_DATA_FIELD_MAX_SIZE
      else iLastPacketLen
    iAdditionPkt := additionPkt iEndIndex s.baudrate
    iTotalIndex := additionPkt iEndIndex s.baudrate + iEndIndex
    bufpatch := ⟨false, 0⟩ }

/-- The case `HW_CFG_START`. Without a firmware the set-up is complete. -/
def startCase (s : HwCfg) (a : Answers) : Step :=
  let r := s.load a
  let buf_len := (r.1.buf.getD []).length
  if 0 < buf_len then
    if r.2.1.length = 0 then downloadFw (r.1.count buf_len) a r.2.2
    else hw_config_set_controller_baudrate (r.1.count buf_len) a r.2.2
  else ⟨{ r.1 with state := idle }, r.2.2 ++ [.deallocCommand, .fwcfg true], true⟩

/-- The `switch` of `hw_config_cback`. -/
def hwConfigSwitch (s : HwCfg) (a : Answers) : Step :=
  match s.state with
  | HW_CFG_START => startCase s a
  | HW_CFG_SET_UART_BAUD_CONTROLLER => hw_config_set_controller_baudrate s a []
  | HW_CFG_SET_UART_BAUD_HOST =>
    downloadFw s a
      [.own (.set_baud (line_speed_to_userial_baud (rtk_speed_to_uart_speed s.baudrate)))]
  | HW_CFG_DL_FW_PATCH => downloadFw s a []
  | idle => ⟨s, [], false⟩
  | HW_CFG_H5_INIT => ⟨s, [], false⟩

/-- `hw_config_cback`. Only the state is changed after a failure. -/
def hw_config_cback (s : HwCfg) (a : Answers) : HwCfg × List Act :=
  cback (fun s => ({ s with state := idle }, [])) a.status a.alloc s (hwConfigSwitch s a)

/-- `hw_config_start`. -/
def hw_config_start (s : HwCfg) (alloc xmit : Bool) : HwCfg × List Act :=
  start { s with state := HW_CFG_START } { s with state := idle } HCI_VSC_H5_INIT
    ((UINT16_TO_STREAM HCI_VSC_H5_INIT).map some) alloc xmit

/-- Nothing is under way. -/
def HwCfg.Idle (s : HwCfg) : Prop := s.state = idle

/-! ### What one event does -/

/-- The `switch` is sound, does not lead back to the start, and reports success only at the end,
without a firmware. -/
structure SwitchSound (r : Step) : Prop where
  sound : r.Sound HwCfg.Idle
  left : r.is_proceeding = true → r.host.state ≠ HW_CFG_START
  done : .fwcfg true ∈ r.acts →
    r.is_proceeding = true ∧ r.host.state = idle ∧ r.host.buf.getD [] = []

section Switch

variable {s : HwCfg} {a : Answers} {acts : List Act} (h : ∀ x ∈ acts, x.quiet = true)
include h

/-- A command after actions that do not concern the stack. -/
lemma switchSound_of_xmit {host : HwCfg} (hbusy : host.state ≠ idle)
    (hleft : host.state ≠ HW_CFG_START) (opcode : BitVec 16) (octets : List (Option Byte))
    (taken : Bool) : SwitchSound ⟨host, acts ++ [.xmit opcode octets taken], taken⟩ := by
  have hnot : ¬ HwCfg.Idle host := hbusy
  refine ⟨Progress.sound_of_xmit h hnot opcode octets taken, fun _ => hleft, fun hdone => ?_⟩
  rcases List.mem_append.mp hdone with hdone | hdone
  · exact absurd hdone (notMem_quiet h true)
  · cases List.mem_singleton.mp hdone

/-- The end of the set-up between such actions. -/
lemma switchSound_of_end {host : HwCfg} (hidle : host.state = idle)
    (hbuf : host.buf.getD [] = []) {rest : List Act} (hrest : ∀ x ∈ rest, x.quiet = true) :
    SwitchSound ⟨host, acts ++ (.deallocCommand :: .fwcfg true :: rest), true⟩ := by
  have hend : HwCfg.Idle host := hidle
  exact ⟨Progress.sound_of_end h hend hrest,
    fun _ hstart => HwCfgState.noConfusion (hidle.symm.trans hstart), fun _ => ⟨rfl, hidle, hbuf⟩⟩

/-- `hw_config_set_controller_baudrate` sends one command. -/
lemma sound_set_controller_baudrate :
    SwitchSound (hw_config_set_controller_baudrate s a acts) :=
  switchSound_of_xmit h (fun hidle => HwCfgState.noConfusion hidle)
    (fun hstart => HwCfgState.noConfusion hstart) _ _ _

/-- The label `DOWNLOAD_FW` sends one command, or reports the end. -/
lemma sound_downloadFw : SwitchSound (downloadFw s a acts) := by
  unfold downloadFw
  by_cases hcomplete : (s.update a).Complete a
  · rw [if_pos hcomplete]
    refine switchSound_of_end ?_ rfl rfl fun x hx => by rw [List.mem_singleton.mp hx]; rfl
    · intro x hx
      rcases List.mem_append.mp hx with hx | hx
      · exact h x hx
      · split_ifs at hx
        · rw [List.mem_singleton.mp hx]
          rfl
        · exact absurd hx List.not_mem_nil
  · rw [if_neg hcomplete]
    exact switchSound_of_xmit h (fun hidle => HwCfgState.noConfusion hidle)
      (fun hstart => HwCfgState.noConfusion hstart) _ _ _

end Switch

/-- Loading the file and the firmware concerns memory only. -/
lemma quiet_load (s : HwCfg) (a : Answers) : ∀ x ∈ (s.load a).2.2, x.quiet = true := by
  have hconfig : ∀ x ∈ (rtk_get_bt_config s.gHwFlowControlEnable a.config).2.2,
      x.quiet = true := by
    cases a.config <;> simp [rtk_get_bt_config, VendorAct.quiet]
  have hfirmware : ∀ octets, ∀ x ∈ (rtk_get_bt_firmware octets a.firmware).2,
      x.quiet = true := by
    intro octets
    cases a.firmware <;> simp [rtk_get_bt_firmware, VendorAct.quiet]
  have hfree : ∀ x ∈ freeConfigFile a.config, x.quiet = true := by
    cases a.config <;> simp [freeConfigFile, VendorAct.quiet]
  intro x hx
  rcases List.mem_append.mp hx with hx | hx
  · rcases List.mem_append.mp hx with hx | hx
    · exact hconfig x hx
    · exact hfirmware _ x hx
  · exact hfree x hx

/-- A `switch` that does nothing. -/
lemma switchSound_of_nothing (s : HwCfg) : SwitchSound ⟨s, [], false⟩ :=
  ⟨Progress.sound_of_nothing s, fun h => absurd h Bool.false_ne_true,
    fun h => absurd h List.not_mem_nil⟩

/-- The `switch` sends one command, or reports the end, or fails. -/
lemma sound_hwConfigSwitch (s : HwCfg) (a : Answers) : SwitchSound (hwConfigSwitch s a) := by
  unfold hwConfigSwitch
  cases s.state with
  | idle => exact switchSound_of_nothing s
  | HW_CFG_H5_INIT => exact switchSound_of_nothing s
  | HW_CFG_SET_UART_BAUD_CONTROLLER =>
    exact sound_set_controller_baudrate fun x hx => absurd hx List.not_mem_nil
  | HW_CFG_SET_UART_BAUD_HOST =>
    exact sound_downloadFw fun x hx => by rw [List.mem_singleton.mp hx]; rfl
  | HW_CFG_DL_FW_PATCH => exact sound_downloadFw fun x hx => absurd hx List.not_mem_nil
  | HW_CFG_START =>
    have hquiet := quiet_load s a
    simp only [startCase]
    split_ifs with hlen hconfig
    · exact sound_downloadFw hquiet
    · exact sound_set_controller_baudrate hquiet
    · exact switchSound_of_end hquiet rfl (List.eq_nil_of_length_eq_zero (by simpa using hlen))
        fun x hx => absurd hx List.not_mem_nil

/-- **Every call of `hw_config_cback` sends one command or reports once.** -/
theorem turn_hw_config_cback (s : HwCfg) (a : Answers) :
    Turn HwCfg.Idle (hw_config_cback s a).1 (hw_config_cback s a).2 := by
  have habort : ∀ t : HwCfg, HwCfg.Idle { t with state := idle } ∧
      ∀ x ∈ ([] : List Act), x.quiet = true :=
    fun t => ⟨rfl, fun x hx => absurd hx List.not_mem_nil⟩
  rw [hw_config_cback]
  exact turn_cback habort a.status a.alloc s (sound_hwConfigSwitch s a).sound

/-! ### The set-up -/

/-- The exchange with the controller after `hw_config_start`. -/
def setup (s : HwCfg) (alloc xmit : Bool) : Exchange HwCfg Act :=
  started (hw_config_start s alloc xmit)

/-- The state of the exchange after an event. -/
def event (x : Exchange HwCfg Act) (a : Answers) : Exchange HwCfg Act :=
  x.reply hw_config_cback VendorAct.sends a

/-- The variables before the first set-up. -/
def HwCfg.fresh : HwCfg where
  state := idle
  gHwFlowControlEnable := true
  buf := none
  baudrate := 0
  iCurIndex := 0
  iCurLen := 0
  iEndIndex := 0
  iLastPacketLen := 0
  iAdditionPkt := 0
  iTotalIndex := 0
  bufpatch := ⟨true, 0⟩
  iIndexRx := 0

/-- **The stack is told the end of a set-up once**: after every run of events, each of which answers
a command, either one command is under way and nothing has been reported, or none is and the end
has been reported once. This is so exactly if the stack took the first command or had no buffer for
it: nobody looks at what it said.

**Proof sketch.** Each call of `hw_config_cback` sends one command or reports once. -/
theorem setup_settled_iff (s : HwCfg) (alloc xmit : Bool) (run : List Answers)
    (hrun : StepRun.Along event Exchange.Expected (setup s alloc xmit) run) :
    Exchange.Settled HwCfg.Idle VendorAct.reports
        (StepRun.final event (setup s alloc xmit) run) ↔
      (alloc = true → xmit = true) :=
  settled_start_iff turn_hw_config_cback _ _ alloc xmit run (fun h => HwCfgState.noConfusion h) rfl
    hrun

/-- An event without files, which ends a set-up. -/
def noFiles (status : Byte) : Answers :=
  ⟨status, HCI_VSC_H5_INIT, 0, true, true, .missing, .missing⟩

/-- A set-up whose first command fails. -/
theorem setup_settled_iff_failing :
    Exchange.Settled HwCfg.Idle VendorAct.reports
        (StepRun.final event (setup HwCfg.fresh true true) [noFiles 1]) ↔
      (true = true → true = true) :=
  setup_settled_iff HwCfg.fresh true true [noFiles 1] ⟨Nat.one_pos, trivial⟩

/-- **No buffer is lost or given back twice**: over every run, each buffer for a command has been
taken by the stack or given back, and so has the buffer of each event. The one exception is the
buffer of a first command that the stack did not take: it is lost. -/
theorem setup_buffers (s : HwCfg) (alloc xmit : Bool) (run : List Answers) :
    heldCommands (StepRun.final event (setup s alloc xmit) run).log =
        (if alloc = true ∧ xmit = false then 1 else 0) ∧
      (StepRun.final event (setup s alloc xmit) run).log.countP VendorAct.returnsEvent =
        run.length :=
  heldCommands_final turn_hw_config_cback _ _ alloc xmit run

/-! ### Memory -/

/-- The blocks of a kind that were taken and not given back. -/
def heldBlocks (b : Block) (acts : List Act) : ℤ :=
  acts.count (.own (.malloc b)) - acts.count (.own (.free b))

/-- The blocks of a list are those of its parts. -/
lemma heldBlocks_append (b : Block) (l l' : List Act) :
    heldBlocks b (l ++ l') = heldBlocks b l + heldBlocks b l' := by
  simp only [heldBlocks, List.count_append]
  omega

/-- Getting a buffer, and what follows at the end of a call, has nothing to do with memory. -/
lemma heldBlocks_call {b : Block} (l : List Act) {rest : List Act} (hrest : heldBlocks b rest = 0) :
    heldBlocks b (.alloc :: (l ++ rest)) = heldBlocks b l := by
  have hsplit : VendorAct.alloc :: (l ++ rest) = [.alloc] ++ (l ++ rest) := rfl
  rw [hsplit, heldBlocks_append, heldBlocks_append, hrest, Int.add_zero]
  exact Int.zero_add _

/-- Blocks of the firmware that the pointer `buf` leads to. -/
def HwCfg.blocks (s : HwCfg) : ℤ := if s.buf.isSome then 1 else 0

/-- Moving on to the next packet keeps the firmware. -/
@[simp] lemma HwCfg.buf_update (s : HwCfg) (a : Answers) : (s.update a).buf = s.buf := by
  unfold HwCfg.update
  split_ifs <;> rfl

/-- So does choosing it. -/
@[simp] lemma HwCfg.buf_select (s : HwCfg) : s.select.buf = s.buf := by
  unfold HwCfg.select
  split_ifs <;> rfl

/-- The label `DOWNLOAD_FW` gives the firmware back when it is done. -/
lemma heldBlocks_downloadFw (s : HwCfg) (a : Answers) (acts : List Act) :
    s.blocks + heldBlocks .firmware (downloadFw s a acts).acts =
        heldBlocks .firmware acts + (downloadFw s a acts).host.blocks ∧
      heldBlocks .config (downloadFw s a acts).acts = heldBlocks .config acts := by
  unfold downloadFw
  by_cases hcomplete : (s.update a).Complete a
  · rw [if_pos hcomplete]
    simp only [HwCfg.buf_update, HwCfg.blocks, heldBlocks_append]
    cases s.buf <;> simp [heldBlocks]
  · rw [if_neg hcomplete]
    simp only [hci_download_patch_h4, HwCfg.blocks, HwCfg.buf_select, HwCfg.buf_update,
      heldBlocks_append]
    simp [heldBlocks]
    omega

/-- `hw_config_set_controller_baudrate` has nothing to do with memory. -/
lemma heldBlocks_set_controller_baudrate (s : HwCfg) (a : Answers) (acts : List Act) (b : Block) :
    heldBlocks b (hw_config_set_controller_baudrate s a acts).acts = heldBlocks b acts := by
  rw [hw_config_set_controller_baudrate, heldBlocks_append]
  simp [heldBlocks]

/-- What was loaded is there, and the memory of a file with a short read was given back twice. -/
lemma heldBlocks_load (s : HwCfg) (a : Answers) :
    heldBlocks .firmware (s.load a).2.2 = (s.load a).1.blocks ∧
      heldBlocks .config (s.load a).2.2 = if a.config.isShort then -1 else 0 := by
  simp only [HwCfg.load, HwCfg.blocks, heldBlocks_append]
  obtain ⟨status, opcode, index, alloc, xmit, config, firmware⟩ := a
  cases config <;> cases firmware <;> exact ⟨rfl, rfl⟩

/-- What the `switch` does to the memory. -/
lemma heldBlocks_hwConfigSwitch {s : HwCfg} (hstart : s.state = HW_CFG_START → s.buf = none)
    (a : Answers) :
    s.blocks + heldBlocks .firmware (hwConfigSwitch s a).acts = (hwConfigSwitch s a).host.blocks ∧
      heldBlocks .config (hwConfigSwitch s a).acts =
        if s.state = HW_CFG_START ∧ a.config.isShort = true then -1 else 0 := by
  unfold hwConfigSwitch
  cases hstate : s.state with
  | idle => exact ⟨Int.add_zero _, rfl⟩
  | HW_CFG_H5_INIT => exact ⟨Int.add_zero _, rfl⟩
  | HW_CFG_SET_UART_BAUD_CONTROLLER => exact ⟨Int.add_zero _, rfl⟩
  | HW_CFG_SET_UART_BAUD_HOST =>
    obtain ⟨hfirmware, hconfig⟩ := heldBlocks_downloadFw s a
      [.own (.set_baud (line_speed_to_userial_baud (rtk_speed_to_uart_speed s.baudrate)))]
    exact ⟨hfirmware.trans (Int.zero_add _), hconfig⟩
  | HW_CFG_DL_FW_PATCH =>
    obtain ⟨hfirmware, hconfig⟩ := heldBlocks_downloadFw s a []
    exact ⟨hfirmware.trans (Int.zero_add _), hconfig⟩
  | HW_CFG_START =>
    obtain ⟨hfirmware, hconfig⟩ := heldBlocks_load s a
    have hbefore : s.blocks = 0 := by rw [HwCfg.blocks, hstart hstate]; rfl
    have hcount : ∀ n, ((s.load a).1.count n).blocks = (s.load a).1.blocks := fun _ => rfl
    simp only [startCase, true_and]
    rw [hbefore, ← hconfig, Int.zero_add]
    split_ifs with hlen hempty
    · obtain ⟨hfirmware', hconfig'⟩ := heldBlocks_downloadFw
        ((s.load a).1.count ((s.load a).1.buf.getD []).length) a (s.load a).2.2
      rw [hcount, hfirmware] at hfirmware'
      exact ⟨Int.add_left_cancel hfirmware', hconfig'⟩
    · exact ⟨(heldBlocks_set_controller_baudrate _ a _ _).trans hfirmware,
        heldBlocks_set_controller_baudrate _ a _ _⟩
    · rw [heldBlocks_append, heldBlocks_append]
      exact ⟨(Int.add_zero _).trans hfirmware, Int.add_zero _⟩

/-- The configuration file is loaded at this event, with a short read. -/
def HwCfg.LoadsShort (s : HwCfg) (a : Answers) : Prop :=
  s.state = HW_CFG_START ∧ (a.status = 0 ∧ a.alloc = true) ∧ a.config.isShort = true

instance (s : HwCfg) (a : Answers) : Decidable (s.LoadsShort a) :=
  inferInstanceAs (Decidable (s.state = HW_CFG_START ∧ (a.status = 0 ∧ a.alloc = true) ∧
    a.config.isShort = true))

/-- What a call of `hw_config_cback` does to the memory. -/
lemma heldBlocks_hw_config_cback {s : HwCfg} (hstart : s.state = HW_CFG_START → s.buf = none)
    (a : Answers) :
    s.blocks + heldBlocks .firmware (hw_config_cback s a).2 = (hw_config_cback s a).1.blocks ∧
      heldBlocks .config (hw_config_cback s a).2 = if s.LoadsShort a then -1 else 0 := by
  obtain ⟨hfirmware, hconfig⟩ := heldBlocks_hwConfigSwitch hstart a
  have hshort : s.LoadsShort a ↔
      (a.status = 0 ∧ a.alloc = true) ∧ s.state = HW_CFG_START ∧ a.config.isShort = true := by
    unfold HwCfg.LoadsShort
    tauto
  unfold hw_config_cback cback
  by_cases hbuffer : a.status = 0 ∧ a.alloc = true
  · have hiff : s.LoadsShort a ↔ s.state = HW_CFG_START ∧ a.config.isShort = true := by
      rw [hshort, and_iff_right hbuffer]
    simp only [if_pos hbuffer, hiff]
    by_cases hp : (hwConfigSwitch s a).is_proceeding = true
    · rw [if_pos hp, heldBlocks_call _ rfl, heldBlocks_call _ rfl]
      exact ⟨hfirmware, hconfig⟩
    · rw [if_neg hp, heldBlocks_call _ rfl, heldBlocks_call _ rfl]
      exact ⟨hfirmware, hconfig⟩
  · rw [if_neg hbuffer, if_neg fun h => hbuffer (hshort.mp h).1]
    exact ⟨Int.add_zero _, rfl⟩

/-- Where a call of `hw_config_cback` leads: never back to the start, and from nowhere to
nowhere. -/
lemma state_hw_config_cback (s : HwCfg) (a : Answers) :
    (hw_config_cback s a).1.state ≠ HW_CFG_START ∧
      (s.state = idle → (hw_config_cback s a).1 = s ∧ .fwcfg true ∉ (hw_config_cback s a).2) ∧
      (.fwcfg true ∈ (hw_config_cback s a).2 → (hw_config_cback s a).1.state = idle ∧
        (hw_config_cback s a).1.buf.getD [] = []) := by
  have hsound := sound_hwConfigSwitch s a
  unfold hw_config_cback cback
  by_cases hbuffer : a.status = 0 ∧ a.alloc = true
  · simp only [if_pos hbuffer]
    by_cases hp : (hwConfigSwitch s a).is_proceeding = true
    · rw [if_pos hp]
      refine ⟨hsound.left hp, fun hidle => ?_, fun hdone => ?_⟩
      · rw [hwConfigSwitch, hidle] at hp
        exact absurd hp Bool.false_ne_true
      · have hmem : VendorAct.fwcfg true ∈ (hwConfigSwitch s a).acts := by simpa using hdone
        exact (hsound.done hmem).2
    · rw [if_neg hp]
      have hnot : VendorAct.fwcfg true ∉ (hwConfigSwitch s a).acts := fun h => hp (hsound.done h).1
      refine ⟨fun h => HwCfgState.noConfusion h, fun hidle => ?_, fun hdone => ?_⟩
      · have hhost : (hwConfigSwitch s a).host = s := by rw [hwConfigSwitch, hidle]
        rw [hhost]
        refine ⟨?_, by simpa using hnot⟩
        obtain ⟨state, flow⟩ := s
        cases hidle
        rfl
      · exact absurd (by simpa using hdone) hnot
  · rw [if_neg hbuffer]
    refine ⟨fun h => HwCfgState.noConfusion h, fun hidle => ?_, fun hdone => ?_⟩
    · refine ⟨?_, by simp⟩
      obtain ⟨state, flow⟩ := s
      cases hidle
      rfl
    · exact absurd hdone (by simp)

/-- What is known of the memory at each time: that of the firmware is where the pointer leads, and
none with any octets is left when success has been reported; that of the configuration file has been
given back. -/
structure MemoryKept (x : Exchange HwCfg Act) : Prop where
  start : x.party.state = HW_CFG_START → x.party.buf = none
  firmware : heldBlocks .firmware x.log = x.party.blocks
  done : .fwcfg true ∈ x.log → x.party.state = idle ∧ x.party.buf.getD [] = []
  config : heldBlocks .config x.log ≤ 0

/-- An event keeps what is known of the memory. -/
lemma MemoryKept.event {x : Exchange HwCfg Act} (h : MemoryKept x) (a : Answers) :
    MemoryKept (Rtk.event x a) := by
  obtain ⟨hleft, hidle, hdone⟩ := state_hw_config_cback x.party a
  obtain ⟨hfirmware, hconfig⟩ := heldBlocks_hw_config_cback h.start a
  refine ⟨fun hstart => absurd hstart hleft, ?_, fun hmem => ?_, ?_⟩
  · rw [Rtk.event, Exchange.reply, heldBlocks_append, h.firmware]
    exact hfirmware
  · rcases List.mem_append.mp hmem with hmem | hmem
    · obtain ⟨hstate, hbuf⟩ := h.done hmem
      rw [Rtk.event, Exchange.reply, (hidle hstate).1]
      exact ⟨hstate, hbuf⟩
    · exact hdone hmem
  · have hle := h.config
    rw [Rtk.event, Exchange.reply, heldBlocks_append, hconfig]
    split_ifs <;> omega

end Bluetooth.Rtk
