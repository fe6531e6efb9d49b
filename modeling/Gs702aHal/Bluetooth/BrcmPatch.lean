import Gs702aHal.Bluetooth.BrcmHost

set_option relaxedAutoImplicit false
set_option autoImplicit false

/-!
# The patch file of the Broadcom controller

A patch file is a sequence of records, each of which is a command: its opcode, the number of its
parameters, and the parameters. The library reads the header and then the payload, and sends what it
has read, until the file ends or a record has launched the patch. With a controller that
acknowledges each command, the commands of a whole set-up are those of the file between a fixed
beginning and a fixed end.

## Main definitions

* `Bluetooth.Brcm.patchRecords` — the commands of a patch file.
* `Bluetooth.Brcm.script` — the commands of a set-up.
* `Bluetooth.Brcm.install` — the set-up with a controller that acknowledges each command.

## Main results

* `Bluetooth.Brcm.patchRecords_encode` — the records of a file are read back.
* `Bluetooth.Brcm.install_commands` — the set-up sends its script, and then reports success.
-/

namespace Bluetooth.Brcm

open HwCfgState

/-- A command: its opcode and its octets. -/
abbrev Command := BitVec 16 × List (Option Byte)

/-- A command whose octets were written. -/
def command (opcode : BitVec 16) (octets : List Byte) : Command := (opcode, octets.map some)

/-! ### The records of a file -/

/-- The commands of a patch file: up to the one that launches the patch, or as long as there is a
header. The last payload may be shorter than its header says. -/
def patchRecords : List Byte → List Command
  | low :: high :: len :: rest =>
    command (STREAM_TO_UINT16 low high) (low :: high :: len :: rest.take len.toNat) ::
      if STREAM_TO_UINT16 low high = HCI_VSC_LAUNCH_RAM then []
      else patchRecords (rest.drop len.toNat)
  | _ => []
termination_by file => file.length
decreasing_by
  simp only [List.length_cons, List.length_drop]
  omega

/-- There is no record without a header. -/
lemma patchRecords_of_short {file : List Byte} (h : file.length < 3) : patchRecords file = [] := by
  rw [patchRecords]
  rintro low high len rest rfl
  simp only [List.length_cons] at h
  omega

/-- A record of a patch file. -/
structure PatchRecord where
  opcode : BitVec 16
  payload : List Byte
  len_lt : payload.length < 256

/-- The octets of a record. -/
def PatchRecord.encode (r : PatchRecord) : List Byte :=
  UINT16_TO_STREAM r.opcode ++ (BitVec.ofNat 8 r.payload.length :: r.payload)

/-- The records up to the one that launches the patch. -/
def launched : List PatchRecord → List PatchRecord
  | [] => []
  | r :: records => r :: if r.opcode = HCI_VSC_LAUNCH_RAM then [] else launched records

/-- **The records of a file are read back**, up to the one that launches the patch. Behind them
there may be less than a header. -/
theorem patchRecords_encode (records : List PatchRecord) {tail : List Byte}
    (htail : tail.length < 3) :
    patchRecords (records.flatMap PatchRecord.encode ++ tail) =
      (launched records).map fun r => command r.opcode r.encode := by
  induction records with
  | nil => exact patchRecords_of_short htail
  | cons r records ih =>
    have hlen : (BitVec.ofNat 8 r.payload.length).toNat = r.payload.length := by
      rw [BitVec.toNat_ofNat, Nat.mod_eq_of_lt r.len_lt]
    have hsplit : (r :: records).flatMap PatchRecord.encode ++ tail =
        r.opcode.setWidth 8 :: (r.opcode >>> 8).setWidth 8 :: BitVec.ofNat 8 r.payload.length ::
          (r.payload ++ (records.flatMap PatchRecord.encode ++ tail)) := by
      simp [PatchRecord.encode, UINT16_TO_STREAM]
    rw [hsplit, patchRecords, stream_to_uint16_to_stream, hlen, List.take_left, List.drop_left, ih,
      launched, List.map_cons]
    congr 1
    split_ifs <;> rfl

/-! ### The script of a set-up -/

section Script

variable (rate : BitVec 32) (patch : Option (List Byte))

/-- The commands for the speed. -/
def baudCommands : List Command :=
  (if 3000000 < rate then [command HCI_VSC_WRITE_UART_CLOCK_SETTING clockCommand] else []) ++
    [command HCI_VSC_UPDATE_BAUDRATE (baudCommand rate)]

/-- The command for the address. -/
def bdaddrCommands (s : HwCfg) : List Command :=
  [command HCI_VSC_WRITE_BD_ADDR (bdaddrCommand s.vnd_local_bd_addr)]

/-- The commands after the controller's name is known. -/
def patchCommands (s : HwCfg) : List Command :=
  match patch with
  | none => bdaddrCommands s
  | some file =>
    command HCI_VSC_DOWNLOAD_MINIDRV (plainCommand HCI_VSC_DOWNLOAD_MINIDRV) ::
      (patchRecords file ++ (baudCommands rate ++ bdaddrCommands s))

/-- The commands after the first change of the speed. -/
def nameCommands (s : HwCfg) : List Command :=
  command HCI_READ_LOCAL_NAME (plainCommand HCI_READ_LOCAL_NAME) :: patchCommands rate patch s

/-- The commands of a set-up. -/
def script (s : HwCfg) : List Command :=
  command HCI_RESET (plainCommand HCI_RESET) :: (baudCommands rate ++ nameCommands rate patch s)

/-- The controller acknowledges the last command. The stack has buffers and takes each command, and
the patch file can be read. -/
def acknowledge (x : Exchange HwCfg Act) : Answers :=
  ⟨0, (((commands x.log).getLast?).getD (0, [])).1, true, true, true, patch, true, true, 0, 0⟩

/-- The set-up after a number of rounds with the controller. -/
def install (s : HwCfg) (n : ℕ) : Exchange HwCfg Act :=
  Exchange.rounds (hw_config_cback rate) VendorAct.sends (acknowledge patch) n (setup s true true)

/-- The commands while the patch file is passed on. -/
def restCommands (s : HwCfg) (last : BitVec 16) : List Command :=
  (if last = HCI_VSC_LAUNCH_RAM then [] else patchRecords (s.fw_fd.getD [])) ++
    (baudCommands rate ++ bdaddrCommands s)

/-- The commands that are still to be sent, by the state and the opcode of the last command. -/
def remaining (s : HwCfg) (last : BitVec 16) : List Command :=
  match s.state with
  | HW_CFG_START => baudCommands rate ++
      if s.f_set_baud_2 then bdaddrCommands s else nameCommands rate patch s
  | HW_CFG_SET_UART_CLOCK => command HCI_VSC_UPDATE_BAUDRATE (baudCommand rate) ::
      if s.f_set_baud_2 then bdaddrCommands s else nameCommands rate patch s
  | HW_CFG_SET_UART_BAUD_1 => nameCommands rate patch s
  | HW_CFG_READ_LOCAL_NAME => patchCommands rate patch s
  | HW_CFG_DL_MINIDRIVER => restCommands rate s last
  | HW_CFG_DL_FW_PATCH => restCommands rate s last
  | HW_CFG_SET_UART_BAUD_2 => bdaddrCommands s
  | HW_CFG_SET_BD_ADDR => []
  | idle => []

/-- The set-up is under way, and these commands are still to be sent. -/
structure Sending (todo : List Command) (x : Exchange HwCfg Act) : Prop where
  busy : ¬ x.party.Idle
  coherent : x.party.Coherent
  unanswered : x.unanswered = 1
  todo_eq : todo =
    remaining rate patch x.party (((commands x.log).getLast?).getD (0, [])).1
  reports : ∀ b, .fwcfg b ∉ x.log

end Script

/-! ### One round -/

/-- Nothing is done before the command. -/
lemma quiet_nil : ∀ act ∈ ([] : List Act), act.quiet = true :=
  fun _ hact => absurd hact List.not_mem_nil

section Round

variable {rate : BitVec 32} {patch : Option (List Byte)} {x : Exchange HwCfg Act}

/-- What a round does whose `switch` sends a command. -/
lemma round_of_sends {t : HwCfg} {acts : List Act} {opcode : BitVec 16}
    {octets : List (Option Byte)} (hquiet : ∀ act ∈ acts, act.quiet = true)
    (hswitch : hwConfigSwitch rate x.party (acknowledge patch x) =
      ⟨t, acts ++ [.xmit opcode octets true], true⟩)
    (hunanswered : x.unanswered = 1) :
    (Exchange.round (hw_config_cback rate) VendorAct.sends (acknowledge patch) x).party = t ∧
      (Exchange.round (hw_config_cback rate) VendorAct.sends (acknowledge patch) x).unanswered = 1 ∧
      commands (Exchange.round (hw_config_cback rate) VendorAct.sends (acknowledge patch) x).log =
        commands x.log ++ [(opcode, octets)] ∧
      ∀ b, .fwcfg b ∈
          (Exchange.round (hw_config_cback rate) VendorAct.sends (acknowledge patch) x).log ↔
        .fwcfg b ∈ x.log := by
  have hpos : 0 < x.unanswered := by rw [hunanswered]; exact Nat.one_pos
  rw [Exchange.round_of_pos hpos]
  apply reply_of_sends hquiet _ hunanswered
  rw [hw_config_cback, cback, if_pos ⟨rfl, rfl⟩, hswitch]
  simp only [if_true]

/-- A round that sends the first of the remaining commands leaves the rest. -/
lemma Sending.of_sends {t : HwCfg} {acts : List Act} {c : Command} {todo : List Command}
    (h : Sending rate patch (c :: todo) x) (hquiet : ∀ act ∈ acts, act.quiet = true)
    (hswitch : hwConfigSwitch rate x.party (acknowledge patch x) =
      ⟨t, acts ++ [.xmit c.1 c.2 true], true⟩)
    (hbusy : ¬ t.Idle) (hcoherent : t.Coherent) (htodo : todo = remaining rate patch t c.1) :
    Sending rate patch todo
        (Exchange.round (hw_config_cback rate) VendorAct.sends (acknowledge patch) x) ∧
      commands (Exchange.round (hw_config_cback rate) VendorAct.sends (acknowledge patch) x).log =
        commands x.log ++ [c] := by
  obtain ⟨hparty, hone, hcommands, hreports⟩ := round_of_sends hquiet hswitch h.unanswered
  refine ⟨⟨?_, ?_, hone, ?_, fun b hmem => h.reports b ((hreports b).mp hmem)⟩, hcommands⟩
  · rw [hparty]
    exact hbusy
  · rw [hparty]
    exact hcoherent
  · rw [hparty, hcommands, List.getLast?_concat]
    exact htodo

/-- The round that sends the command for the speed. -/
lemma Sending.clockCase {t : HwCfg} {acts : List Act} {c : Command} {todo : List Command}
    (h : Sending rate patch (c :: todo) x) (hquiet : ∀ act ∈ acts, act.quiet = true)
    (hclosed : t.fw_fd = none)
    (hswitch : hwConfigSwitch rate x.party (acknowledge patch x) =
      Brcm.clockCase rate t (acknowledge patch x) acts)
    (htodo : c :: todo = command HCI_VSC_UPDATE_BAUDRATE (baudCommand rate) ::
      if t.f_set_baud_2 then bdaddrCommands t else nameCommands rate patch t) :
    Sending rate patch todo
        (Exchange.round (hw_config_cback rate) VendorAct.sends (acknowledge patch) x) ∧
      commands (Exchange.round (hw_config_cback rate) VendorAct.sends (acknowledge patch) x).log =
        commands x.log ++ [c] := by
  obtain ⟨rfl, rfl⟩ := List.cons.inj htodo
  refine h.of_sends hquiet hswitch ?_ ?_ ?_ <;>
    cases hset : t.f_set_baud_2
  · exact fun hidle => HwCfgState.noConfusion hidle
  · exact fun hidle => HwCfgState.noConfusion hidle
  · exact hclosed
  · exact hclosed
  · rfl
  · rfl

/-- The round that sends the command for the clock, or for the speed. -/
lemma Sending.startCase {t : HwCfg} {acts : List Act} {c : Command} {todo : List Command}
    (h : Sending rate patch (c :: todo) x) (hquiet : ∀ act ∈ acts, act.quiet = true)
    (hclosed : t.fw_fd = none)
    (hswitch : hwConfigSwitch rate x.party (acknowledge patch x) =
      Brcm.startCase rate t (acknowledge patch x) acts)
    (htodo : c :: todo = baudCommands rate ++
      if t.f_set_baud_2 then bdaddrCommands t else nameCommands rate patch t) :
    Sending rate patch todo
        (Exchange.round (hw_config_cback rate) VendorAct.sends (acknowledge patch) x) ∧
      commands (Exchange.round (hw_config_cback rate) VendorAct.sends (acknowledge patch) x).log =
        commands x.log ++ [c] := by
  by_cases hfast : 3000000 < rate
  · rw [baudCommands, if_pos hfast] at htodo
    rw [Brcm.startCase, if_pos hfast] at hswitch
    obtain ⟨rfl, rfl⟩ := List.cons.inj htodo
    exact h.of_sends hquiet hswitch (fun hidle => HwCfgState.noConfusion hidle) hclosed rfl
  · rw [baudCommands, if_neg hfast] at htodo
    rw [Brcm.startCase, if_neg hfast] at hswitch
    exact h.clockCase hquiet hclosed hswitch htodo

/-- The file is at its end, or has launched the patch. -/
lemma patchCase_of_end {s : HwCfg} {a : Answers} {file : List Byte} (hfile : s.fw_fd = some file)
    (hread : a.headerRead = true) (hend : a.opcode = HCI_VSC_LAUNCH_RAM ∨ file.length < 3) :
    patchCase rate s a = patchEnd rate s a := by
  have h3 : s.read 3 a.headerRead = some (file.take 3, { s with fw_fd := some (file.drop 3) }) := by
    rw [HwCfg.read, hfile, hread]
    rfl
  unfold patchCase
  rw [h3]
  rcases file with _ | ⟨low, _ | ⟨high, _ | ⟨len, rest⟩⟩⟩
  · rfl
  · rfl
  · rfl
  · have hlaunch : a.opcode = HCI_VSC_LAUNCH_RAM := by
      refine hend.resolve_right fun hshort => ?_
      simp only [List.length_cons] at hshort
      omega
    simp only [List.take_succ_cons, List.take_zero]
    rw [if_pos hlaunch]
    rfl

/-- A record of the file. -/
lemma patchCase_of_record {s : HwCfg} {a : Answers} {low high len : Byte} {rest : List Byte}
    (hfile : s.fw_fd = some (low :: high :: len :: rest)) (hread : a.Reads)
    (ha : a.opcode ≠ HCI_VSC_LAUNCH_RAM) :
    patchCase rate s a = ⟨{ s with fw_fd := some (rest.drop len.toNat) },
      [.xmit (STREAM_TO_UINT16 low high)
        ((low :: high :: len :: rest.take len.toNat).map some) a.xmit], a.xmit⟩ := by
  have h3 : s.read 3 a.headerRead =
      some (low :: high :: len :: [], { s with fw_fd := some rest }) := by
    rw [HwCfg.read, hfile, hread.1]
    rfl
  unfold patchCase
  rw [h3]
  simp only
  rw [if_neg ha, recordCase, HwCfg.read, hread.2]
  rfl

/-- The round that sends a record, or sets the speed after the last one. -/
lemma Sending.patchCase {t : HwCfg} {c : Command} {todo : List Command}
    (h : Sending rate patch (c :: todo) x) (hopen : t.fw_fd.isSome = true)
    (hstate : t.state = HW_CFG_DL_FW_PATCH)
    (hswitch : hwConfigSwitch rate x.party (acknowledge patch x) =
      Brcm.patchCase rate t (acknowledge patch x))
    (htodo : c :: todo = restCommands rate t (acknowledge patch x).opcode) :
    Sending rate patch todo
        (Exchange.round (hw_config_cback rate) VendorAct.sends (acknowledge patch) x) ∧
      commands (Exchange.round (hw_config_cback rate) VendorAct.sends (acknowledge patch) x).log =
        commands x.log ++ [c] := by
  obtain ⟨file, hfile⟩ := Option.isSome_iff_exists.mp hopen
  have hquiet : ∀ act ∈ [(.own .closePatch : Act),
      .own (.set_baud (line_speed_to_userial_baud 115200))], act.quiet = true := fun act hact => by
    rcases List.mem_cons.mp hact with rfl | hact
    · rfl
    · rw [List.mem_singleton.mp hact]
      rfl
  by_cases hend : (acknowledge patch x).opcode = HCI_VSC_LAUNCH_RAM ∨ file.length < 3
  · have hnone : (if (acknowledge patch x).opcode = HCI_VSC_LAUNCH_RAM then []
        else patchRecords (t.fw_fd.getD [])) = [] := by
      rcases hend with hlaunch | hshort
      · exact if_pos hlaunch
      · rw [hfile, Option.getD_some, patchRecords_of_short hshort, ite_self]
    rw [restCommands, hnone, List.nil_append] at htodo
    rw [patchCase_of_end hfile rfl hend] at hswitch
    exact h.startCase hquiet rfl hswitch htodo
  · obtain ⟨hlaunch, hlong⟩ := not_or.mp hend
    obtain ⟨low, high, len, rest, rfl⟩ :
        ∃ low high len rest, file = low :: high :: len :: rest := by
      rcases file with _ | ⟨low, _ | ⟨high, _ | ⟨len, rest⟩⟩⟩
      · exact absurd (by simp) hlong
      · exact absurd (by simp) hlong
      · exact absurd (by simp) hlong
      · exact ⟨low, high, len, rest, rfl⟩
    rw [restCommands, if_neg hlaunch, hfile, Option.getD_some, patchRecords] at htodo
    obtain ⟨rfl, rfl⟩ := List.cons.inj htodo
    rw [patchCase_of_record hfile ⟨rfl, rfl⟩ hlaunch] at hswitch
    refine h.of_sends quiet_nil hswitch ?_ ?_ ?_
    · exact fun hidle => HwCfgState.noConfusion (hstate.symm.trans hidle)
    · rw [HwCfg.Coherent, hstate]
      rfl
    · rw [remaining, hstate]
      rfl

/-- **A round sends the first of the remaining commands, and leaves the rest.** -/
lemma Sending.next {c : Command} {todo : List Command} (h : Sending rate patch (c :: todo) x) :
    Sending rate patch todo
        (Exchange.round (hw_config_cback rate) VendorAct.sends (acknowledge patch) x) ∧
      commands (Exchange.round (hw_config_cback rate) VendorAct.sends (acknowledge patch) x).log =
        commands x.log ++ [c] := by
  have htodo := h.todo_eq
  have hcoherent := h.coherent
  rw [remaining] at htodo
  rw [HwCfg.Coherent] at hcoherent
  have hquiet : ∀ act ∈ [(.own (.set_baud (line_speed_to_userial_baud rate)) : Act)],
      act.quiet = true := fun act hact => by
    rw [List.mem_singleton.mp hact]
    rfl
  cases hstate : x.party.state with
  | idle => exact absurd hstate h.busy
  | HW_CFG_START =>
    rw [hstate] at htodo hcoherent
    exact h.startCase quiet_nil hcoherent (by rw [hwConfigSwitch, hstate]) htodo
  | HW_CFG_SET_UART_CLOCK =>
    rw [hstate] at htodo hcoherent
    exact h.clockCase quiet_nil hcoherent (by rw [hwConfigSwitch, hstate]) htodo
  | HW_CFG_SET_UART_BAUD_1 =>
    rw [hstate] at htodo hcoherent
    obtain ⟨rfl, rfl⟩ := List.cons.inj htodo
    have hswitch : hwConfigSwitch rate x.party (acknowledge patch x) =
        baud1Case rate x.party (acknowledge patch x) := by rw [hwConfigSwitch, hstate]
    refine h.of_sends hquiet hswitch ?_ ?_ rfl
    · exact fun hidle => HwCfgState.noConfusion hidle
    · exact hcoherent
  | HW_CFG_READ_LOCAL_NAME =>
    rw [hstate] at htodo hcoherent
    have hswitch : hwConfigSwitch rate x.party (acknowledge patch x) =
        nameCase x.party (acknowledge patch x) := by rw [hwConfigSwitch, hstate]
    cases patch with
    | none =>
      obtain ⟨rfl, rfl⟩ := List.cons.inj htodo
      refine h.of_sends quiet_nil hswitch ?_ ?_ rfl
      · exact fun hidle => HwCfgState.noConfusion hidle
      · exact trivial
    | some file =>
      obtain ⟨rfl, rfl⟩ := List.cons.inj htodo
      have hopen : ∀ act ∈ [(.own .openPatch : Act)], act.quiet = true := fun act hact => by
        rw [List.mem_singleton.mp hact]
        rfl
      refine h.of_sends hopen hswitch ?_ ?_ rfl
      · exact fun hidle => HwCfgState.noConfusion hidle
      · rfl
  | HW_CFG_DL_MINIDRIVER =>
    rw [hstate] at htodo hcoherent
    have hswitch : hwConfigSwitch rate x.party (acknowledge patch x) =
        Brcm.patchCase rate { x.party with state := HW_CFG_DL_FW_PATCH }
          (acknowledge patch x) := by rw [hwConfigSwitch, hstate]
    refine h.patchCase ?_ ?_ hswitch htodo
    · exact hcoherent
    · rfl
  | HW_CFG_DL_FW_PATCH =>
    rw [hstate] at htodo hcoherent
    exact h.patchCase hcoherent hstate (by rw [hwConfigSwitch, hstate]) htodo
  | HW_CFG_SET_UART_BAUD_2 =>
    rw [hstate] at htodo hcoherent
    obtain ⟨rfl, rfl⟩ := List.cons.inj htodo
    have hswitch : hwConfigSwitch rate x.party (acknowledge patch x) =
        baud2Case rate x.party (acknowledge patch x) := by rw [hwConfigSwitch, hstate]
    refine h.of_sends hquiet hswitch ?_ ?_ rfl
    · exact fun hidle => HwCfgState.noConfusion hidle
    · exact trivial
  | HW_CFG_SET_BD_ADDR =>
    rw [hstate] at htodo
    exact absurd htodo (List.cons_ne_nil c todo)

/-- The commands for the speed are some. -/
lemma baudCommands_append_ne_nil (rate : BitVec 32) (l : List Command) :
    baudCommands rate ++ l ≠ [] := by
  rw [baudCommands]
  split_ifs <;> simp

/-- Without a remaining command the address has been written. -/
lemma Sending.state_of_nil (h : Sending rate patch [] x) :
    x.party.state = HW_CFG_SET_BD_ADDR := by
  have htodo := h.todo_eq
  rw [remaining] at htodo
  cases hstate : x.party.state with
  | idle => exact absurd hstate h.busy
  | HW_CFG_SET_BD_ADDR => rfl
  | HW_CFG_START =>
    rw [hstate] at htodo
    exact absurd htodo.symm (baudCommands_append_ne_nil rate _)
  | HW_CFG_SET_UART_CLOCK =>
    rw [hstate] at htodo
    exact absurd htodo.symm (List.cons_ne_nil _ _)
  | HW_CFG_SET_UART_BAUD_1 =>
    rw [hstate] at htodo
    exact absurd htodo.symm (List.cons_ne_nil _ _)
  | HW_CFG_READ_LOCAL_NAME =>
    rw [hstate] at htodo
    cases patch <;> exact absurd htodo.symm (List.cons_ne_nil _ _)
  | HW_CFG_DL_MINIDRIVER =>
    rw [hstate] at htodo
    exact absurd (List.append_eq_nil_iff.mp htodo.symm).2 (baudCommands_append_ne_nil rate _)
  | HW_CFG_DL_FW_PATCH =>
    rw [hstate] at htodo
    exact absurd (List.append_eq_nil_iff.mp htodo.symm).2 (baudCommands_append_ne_nil rate _)
  | HW_CFG_SET_UART_BAUD_2 =>
    rw [hstate] at htodo
    exact absurd htodo.symm (List.cons_ne_nil _ _)

/-- The set-up has come to its end. -/
structure Installed (rate : BitVec 32) (patch : Option (List Byte)) (s : HwCfg)
    (x : Exchange HwCfg Act) : Prop where
  commands : commands x.log = script rate patch s
  success : .fwcfg true ∈ x.log
  reports : x.log.countP VendorAct.reports = 1
  idle : x.party.Idle
  closed : x.party.fw_fd = none
  unanswered : x.unanswered = 0

/-- The round after the last command reports success. -/
lemma Sending.done {s : HwCfg} (h : Sending rate patch [] x)
    (hcommands : commands x.log = script rate patch s) :
    Installed rate patch s
      (Exchange.round (hw_config_cback rate) VendorAct.sends (acknowledge patch) x) := by
  have hpos : 0 < x.unanswered := by rw [h.unanswered]; exact Nat.one_pos
  have hnone : x.log.countP VendorAct.reports = 0 := by
    rw [List.countP_eq_zero]
    intro act hact hreport
    cases act <;> first | exact h.reports _ hact | exact absurd hreport Bool.false_ne_true
  obtain ⟨hsends, hreports, -⟩ := counts_quiet (quiet_close x.party)
  have hcback : hw_config_cback rate x.party (acknowledge patch x) =
      ({ x.party with state := idle, fw_fd := none },
        .alloc :: (.deallocCommand :: .fwcfg true :: x.party.close ++ [.deallocEvent])) := by
    rw [hw_config_cback, cback, if_pos ⟨rfl, rfl⟩, hwConfigSwitch, h.state_of_nil]
    rfl
  rw [Exchange.round_of_pos hpos, Exchange.reply, hcback]
  refine ⟨?_, List.mem_append_right _ (by simp), ?_, rfl, rfl, ?_⟩
  · have hend : Bluetooth.commands (.alloc :: (.deallocCommand :: .fwcfg true ::
        x.party.close ++ [.deallocEvent])) = [] := by
      rw [commands_cons, List.cons_append, List.cons_append, commands_cons, commands_cons,
        commands_append, commands_quiet (quiet_close x.party)]
      rfl
    simp only
    rw [commands_append, hend, List.append_nil, hcommands]
  · simp only [List.countP_append, List.countP_cons, List.countP_nil, hnone, hreports,
      List.cons_append, VendorAct.reports]
    rfl
  · simp only [List.countP_append, List.countP_cons, List.countP_nil, hsends, h.unanswered,
      List.cons_append, VendorAct.sends]
    rfl

end Round

/-! ### The whole set-up -/

/-- After `hw_config_start` the rest of the script is still to be sent. -/
lemma sending_setup (rate : BitVec 32) (patch : Option (List Byte)) (s : HwCfg) :
    Sending rate patch (baudCommands rate ++ nameCommands rate patch s) (setup s true true) := by
  refine ⟨fun hidle => HwCfgState.noConfusion hidle, rfl, rfl, rfl, fun b hmem => ?_⟩
  simp [setup, hw_config_start, started, start] at hmem

/-- **The set-up sends its script, one command in each round, and then reports success**, for each
patch file and each target speed: the commands of the file stand between the fixed ones, up to the
one that launches the patch.

**Proof sketch.** What is still to be sent can be read off the state and the last command. A round
sends the first of it and leaves the rest, and reports success if there is none. -/
theorem install_commands (rate : BitVec 32) (patch : Option (List Byte)) (s : HwCfg) (n : ℕ) :
    if n < (script rate patch s).length then
      commands (install rate patch s n).log = (script rate patch s).take (n + 1) ∧
        ∀ b, .fwcfg b ∉ (install rate patch s n).log
    else Installed rate patch s (install rate patch s n) := by
  have hstart : commands (setup s true true).log =
      [command HCI_RESET (plainCommand HCI_RESET)] := rfl
  have hnext : ∀ c todo x, Sending rate patch (c :: todo) x →
      Sending rate patch todo
          (Exchange.round (hw_config_cback rate) VendorAct.sends (acknowledge patch) x) ∧
        commands (Exchange.round (hw_config_cback rate) VendorAct.sends
          (acknowledge patch) x).log = commands x.log ++ [c] := fun c todo x h => h.next
  have hscript := Exchange.rounds_script hnext (sending_setup rate patch s)
  have hlen : (script rate patch s).length =
      (baudCommands rate ++ nameCommands rate patch s).length + 1 := rfl
  by_cases hn : n < (script rate patch s).length
  · rw [if_pos hn]
    obtain ⟨hsending, hcommands⟩ := hscript n (by omega)
    refine ⟨?_, hsending.reports⟩
    rw [install, hcommands, hstart]
    rfl
  · rw [if_neg hn]
    obtain ⟨hsending, hcommands⟩ := hscript _ le_rfl
    rw [List.drop_length] at hsending
    rw [List.take_length, hstart] at hcommands
    have hend := hsending.done hcommands
    rw [← Exchange.rounds_succ] at hend
    have hstay : install rate patch s n =
        install rate patch s ((baudCommands rate ++ nameCommands rate patch s).length + 1) :=
      Exchange.rounds_of_le (by omega) hend.unanswered
    rw [hstay]
    exact hend

end Bluetooth.Brcm
