import Gs702aHal.Bluetooth.Hci
import Gs702aHal.Lib.Exchange

set_option relaxedAutoImplicit false
set_option autoImplicit false

/-!
# The callback of a vendor library

The vendor libraries for the two controllers are set up in the same way. The stack calls
`hw_config_start`, which sends a first command, and passes the event that answers a command to
`hw_config_cback`. The callback asks for a buffer for the next command, a `switch` over its state
decides what to do with it, the buffer of the event is given back, and a failure is reported if the
`switch` does not go on. The stack owns a command that it has taken; it has said before which
callbacks it has.

## Main definitions

* `Bluetooth.VendorAct` — what a library does. Each has actions of its own, such as opening a file.
* `Bluetooth.Progress` — what the `switch` has come to.
* `Bluetooth.cback` — the frame of `hw_config_cback`.
* `Bluetooth.commands` — the commands that the stack has taken.

## Main results

* `Bluetooth.turn_cback` — each call sends one command or reports once.
* `Bluetooth.settled_start_iff` — the end of a set-up is reported once.
* `Bluetooth.heldCommands_final` — no buffer is lost or given back twice.
-/

namespace Bluetooth

/-- What a library does. The octets of a command that are not known are `none`. -/
inductive VendorAct (ε : Type)
  | alloc
  | deallocCommand
  | deallocEvent
  | xmit (opcode : BitVec 16) (octets : List (Option Byte)) (taken : Bool)
  | fwcfg (success : Bool)
  | own (e : ε)
  deriving DecidableEq, Repr

/-- What `hw_config_cback` has come to in its `switch`: the variables, what was done, and
`is_proceeding`. -/
structure Progress (σ ε : Type) where
  host : σ
  acts : List (VendorAct ε)
  is_proceeding : Bool

variable {σ ε : Type}

/-- The frame of `hw_config_cback`: `abort` is what is done with the variables after a failure. -/
def cback (abort : σ → σ × List (VendorAct ε)) (status : Byte) (alloc : Bool) (s : σ)
    (r : Progress σ ε) : σ × List (VendorAct ε) :=
  if status = 0 ∧ alloc then
    if r.is_proceeding then (r.host, .alloc :: (r.acts ++ [.deallocEvent]))
    else ((abort r.host).1,
      .alloc :: (r.acts ++ ([.deallocEvent, .deallocCommand, .fwcfg false] ++ (abort r.host).2)))
  else ((abort s).1, [.deallocEvent, .fwcfg false] ++ (abort s).2)

namespace VendorAct

/-- A command that the stack takes. -/
def sends : VendorAct ε → Bool
  | xmit _ _ taken => taken
  | _ => false

/-- The end of the set-up is reported. -/
def reports : VendorAct ε → Bool
  | fwcfg _ => true
  | _ => false

/-- A command that the stack takes, and its octets. -/
def command : VendorAct ε → Option (BitVec 16 × List (Option Byte))
  | xmit opcode octets true => some (opcode, octets)
  | _ => none

/-- Neither a buffer nor the stack is concerned, or only by a command that it does not take. -/
def quiet : VendorAct ε → Bool
  | xmit _ _ taken => !taken
  | own _ => true
  | _ => false

/-- A buffer for a command is asked for. -/
def asks : VendorAct ε → Bool
  | alloc => true
  | _ => false

/-- A buffer for a command is given back. -/
def returns : VendorAct ε → Bool
  | deallocCommand => true
  | _ => false

/-- The buffer of an event is given back. -/
def returnsEvent : VendorAct ε → Bool
  | deallocEvent => true
  | _ => false

end VendorAct

open VendorAct

/-- The commands that reach the controller. -/
def commands (acts : List (VendorAct ε)) : List (BitVec 16 × List (Option Byte)) :=
  acts.filterMap command

/-! ### What a call counts for -/

/-- What the `switch` leaves behind: a command that was taken and is waited for, or the end, or
nothing that concerns the stack. -/
inductive Progress.Ends (Idle : σ → Prop) (r : Progress σ ε) : Prop
  | sent (proceeding : r.is_proceeding = true) (busy : ¬ Idle r.host)
      (sends : r.acts.countP sends = 1) (reports : r.acts.countP reports = 0)
      (returns : r.acts.countP returns = 0)
  | ended (proceeding : r.is_proceeding = true) (idle : Idle r.host)
      (sends : r.acts.countP sends = 0) (reports : r.acts.countP reports = 1)
      (returns : r.acts.countP returns = 1)
  | failed (stopped : r.is_proceeding = false) (sends : r.acts.countP sends = 0)
      (reports : r.acts.countP reports = 0) (returns : r.acts.countP returns = 0)

/-- What the `switch` leaves to others: to get a buffer, and to give back that of the event. -/
structure Progress.Sound (Idle : σ → Prop) (r : Progress σ ε) : Prop where
  ends : r.Ends Idle
  asks : r.acts.countP asks = 0
  event : r.acts.countP returnsEvent = 0

/-- What a call of `hw_config_cback` counts for: it sends one command or reports once, and is idle
after the second; each buffer is given to the stack, or back, once. -/
structure Turn (Idle : σ → Prop) (host : σ) (acts : List (VendorAct ε)) : Prop where
  one : acts.countP sends + acts.countP reports = 1
  idle_iff : Idle host ↔ acts.countP sends = 0
  command : acts.countP asks = acts.countP returns + acts.countP sends
  event : acts.countP returnsEvent = 1

section Quiet

variable {acts : List (VendorAct ε)} (h : ∀ x ∈ acts, x.quiet = true)
include h

/-- Actions that do not concern the stack are none of those that do. -/
lemma countP_quiet {p : VendorAct ε → Bool} (hp : ∀ x, x.quiet = true → p x = false) :
    acts.countP p = 0 := by
  rw [List.countP_eq_zero]
  intro x hx hpx
  rw [hp x (h x hx)] at hpx
  exact Bool.false_ne_true hpx

/-- The end is not among them. -/
lemma notMem_quiet (success : Bool) : VendorAct.fwcfg success ∉ acts := fun hmem =>
  Bool.false_ne_true (h _ hmem)

/-- What such actions count for. -/
lemma counts_quiet : acts.countP sends = 0 ∧ acts.countP reports = 0 ∧
    acts.countP returns = 0 ∧ acts.countP asks = 0 ∧ acts.countP returnsEvent = 0 := by
  refine ⟨countP_quiet h ?_, countP_quiet h ?_, countP_quiet h ?_, countP_quiet h ?_,
    countP_quiet h ?_⟩
  · intro x hx
    cases x with
    | xmit opcode octets taken => simpa [quiet, sends] using hx
    | _ => rfl
  all_goals
    intro x hx
    cases x <;> first | rfl | exact absurd hx Bool.false_ne_true

/-- No command is among them. -/
lemma commands_quiet : commands acts = [] := by
  rw [commands, List.filterMap_eq_nil_iff]
  intro x hx
  have hquiet := h x hx
  cases x with
  | xmit opcode octets taken =>
    have htaken : taken = false := by simpa [quiet] using hquiet
    rw [htaken]
    rfl
  | _ => rfl

/-- A command after such actions. -/
lemma Progress.sound_of_xmit {Idle : σ → Prop} {host : σ} (hbusy : ¬ Idle host)
    (opcode : BitVec 16) (octets : List (Option Byte)) (taken : Bool) :
    Progress.Sound Idle ⟨host, acts ++ [.xmit opcode octets taken], taken⟩ := by
  obtain ⟨hsends, hreports, hreturns, hasks, hevent⟩ := counts_quiet h
  refine ⟨?_, ?_, ?_⟩
  · cases taken with
    | true =>
      apply Progress.Ends.sent rfl hbusy
      · rw [List.countP_append, hsends]; rfl
      · rw [List.countP_append, hreports]; rfl
      · rw [List.countP_append, hreturns]; rfl
    | false =>
      apply Progress.Ends.failed rfl
      · rw [List.countP_append, hsends]; rfl
      · rw [List.countP_append, hreports]; rfl
      · rw [List.countP_append, hreturns]; rfl
  · rw [List.countP_append, hasks]; rfl
  · rw [List.countP_append, hevent]; rfl

/-- The end of the set-up between such actions. -/
lemma Progress.sound_of_end {Idle : σ → Prop} {host : σ} (hidle : Idle host)
    {rest : List (VendorAct ε)} (hrest : ∀ x ∈ rest, x.quiet = true) :
    Progress.Sound Idle ⟨host, acts ++ (.deallocCommand :: .fwcfg true :: rest), true⟩ := by
  obtain ⟨hsends, hreports, hreturns, hasks, hevent⟩ := counts_quiet h
  obtain ⟨hsends', hreports', hreturns', hasks', hevent'⟩ := counts_quiet hrest
  refine ⟨.ended rfl hidle ?_ ?_ ?_, ?_, ?_⟩
  · rw [List.countP_append, hsends, List.countP_cons, List.countP_cons, hsends']; rfl
  · rw [List.countP_append, hreports, List.countP_cons, List.countP_cons, hreports']; rfl
  · rw [List.countP_append, hreturns, List.countP_cons, List.countP_cons, hreturns']; rfl
  · rw [List.countP_append, hasks, List.countP_cons, List.countP_cons, hasks']; rfl
  · rw [List.countP_append, hevent, List.countP_cons, List.countP_cons, hevent']; rfl

end Quiet

/-- A `switch` that does nothing fails. -/
lemma Progress.sound_of_nothing {Idle : σ → Prop} (s : σ) :
    Progress.Sound Idle (⟨s, [], false⟩ : Progress σ ε) :=
  ⟨.failed rfl rfl rfl rfl, rfl, rfl⟩

/-- **Every call of `hw_config_cback` sends one command or reports once.** -/
theorem turn_cback {Idle : σ → Prop} {abort : σ → σ × List (VendorAct ε)}
    (habort : ∀ s, Idle (abort s).1 ∧ ∀ x ∈ (abort s).2, x.quiet = true) (status : Byte)
    (alloc : Bool) (s : σ) {r : Progress σ ε} (h : r.Sound Idle) :
    Turn Idle (cback abort status alloc s r).1 (cback abort status alloc s r).2 := by
  obtain ⟨hends, hasks, hevent⟩ := h
  unfold cback
  by_cases hbuffer : status = 0 ∧ alloc = true
  · rw [if_pos hbuffer]
    cases hends with
    | sent hp hbusy hsends hreports hreturns =>
      rw [if_pos hp]
      constructor <;>
        simp [List.countP_cons, sends, reports, returns, VendorAct.asks, returnsEvent, *]
    | ended hp hidle hsends hreports hreturns =>
      rw [if_pos hp]
      constructor <;>
        simp [List.countP_cons, sends, reports, returns, VendorAct.asks, returnsEvent, *]
    | failed hp hsends hreports hreturns =>
      obtain ⟨hidle, hquiet⟩ := habort r.host
      obtain ⟨hsends', hreports', hreturns', hasks', hevent'⟩ := counts_quiet hquiet
      rw [hp, if_neg Bool.false_ne_true]
      constructor <;>
        simp [List.countP_cons, sends, reports, returns, VendorAct.asks, returnsEvent, *]
  · obtain ⟨hidle, hquiet⟩ := habort s
    obtain ⟨hsends', hreports', hreturns', hasks', hevent'⟩ := counts_quiet hquiet
    rw [if_neg hbuffer]
    constructor <;>
      simp [List.countP_cons, sends, reports, returns, VendorAct.asks, returnsEvent, *]

/-! ### The exchange with the controller -/

/-- What `hw_config_start` does: it sends the first command, if there is a buffer for it. Nobody
looks at what the stack says of it. -/
def start (started stopped : σ) (opcode : BitVec 16) (octets : List (Option Byte))
    (alloc xmit : Bool) : σ × List (VendorAct ε) :=
  if alloc then (started, [.alloc, .xmit opcode octets xmit]) else (stopped, [.fwcfg false])

/-- The exchange after `hw_config_start`. -/
def started (r : σ × List (VendorAct ε)) : Exchange σ (VendorAct ε) :=
  ⟨r.1, r.2.countP sends, r.2⟩

/-- The buffers for commands that were obtained and neither taken by the stack nor given back. -/
def heldCommands (acts : List (VendorAct ε)) : ℤ :=
  acts.countP asks - (acts.countP returns + acts.countP sends)

/-- The buffers of a list are those of its parts. -/
lemma heldCommands_append (l l' : List (VendorAct ε)) :
    heldCommands (l ++ l') = heldCommands l + heldCommands l' := by
  simp only [heldCommands, List.countP_append]
  omega

section Start

variable {ι : Type} {Idle : σ → Prop} {react : σ → ι → σ × List (VendorAct ε)}
  (hturn : ∀ s e, Turn Idle (react s e).1 (react s e).2) {s t : σ} (opcode : BitVec 16)
  (octets : List (Option Byte)) (alloc xmit : Bool) (run : List ι)
include hturn

/-- **The end of a set-up is reported once**, over every run of events that answer a command,
exactly if the stack took the first command or had no buffer for it.

**Proof sketch.** Each call sends one command or reports once, so that the number of reports and of
unanswered commands together stays one. If the stack did not take the first command, there is no
event. -/
lemma settled_start_iff (hbusy : ¬ Idle s) (hidle : Idle t)
    (hrun : StepRun.Along (Exchange.reply react sends) Exchange.Expected
      (started (start s t opcode octets alloc xmit)) run) :
    Exchange.Settled Idle reports (StepRun.final (Exchange.reply react sends)
        (started (start s t opcode octets alloc xmit)) run) ↔
      (alloc = true → xmit = true) := by
  constructor
  · intro hsettled halloc
    cases xmit with
    | true => rfl
    | false =>
      subst halloc
      cases run with
      | nil => exact absurd hsettled.one Nat.zero_ne_one
      | cons a run => exact absurd hrun.1 (Nat.lt_irrefl 0)
  · intro htaken
    refine Exchange.settled_final (fun s e => (hturn s e).one) (fun s e => (hturn s e).idle_iff) ?_
      hrun
    cases alloc with
    | true =>
      rw [htaken rfl]
      exact ⟨rfl, ⟨fun h => absurd h hbusy, fun h => Nat.noConfusion h⟩⟩
    | false => exact ⟨rfl, ⟨fun _ => rfl, fun _ => hidle⟩⟩

/-- **No buffer is lost or given back twice**, but for that of a first command that the stack did
not take. -/
lemma heldCommands_final :
    heldCommands (StepRun.final (Exchange.reply react sends)
        (started (start s t opcode octets alloc xmit)) run).log =
          (if alloc = true ∧ xmit = false then 1 else 0) ∧
      (StepRun.final (Exchange.reply react sends)
        (started (start s t opcode octets alloc xmit)) run).log.countP returnsEvent =
          run.length := by
  constructor
  · refine Exchange.tracked_final heldCommands_append (fun _ => _) (fun _ => True)
      (fun _ _ _ => trivial) (fun s e _ => ?_) trivial ?_ run
    · have hcommand := (hturn s e).command
      rw [heldCommands]
      omega
    · cases alloc <;> cases xmit <;> rfl
  · have hstart : (started (start s t opcode octets alloc xmit :
        σ × List (VendorAct ε))).log.countP returnsEvent = 0 := by
      cases alloc <;> rfl
    rw [Exchange.count_final returnsEvent (fun s e => (hturn s e).event), hstart, Nat.zero_add]

end Start

/-! ### Commands -/

/-- The commands of a list are those of its parts. -/
lemma commands_append (l l' : List (VendorAct ε)) :
    commands (l ++ l') = commands l ++ commands l' :=
  List.filterMap_append

/-- A command at the head of a list comes first. -/
lemma commands_cons (act : VendorAct ε) (l : List (VendorAct ε)) :
    commands (act :: l) = act.command.toList ++ commands l := by
  cases h : act.command <;> simp [commands, h]

/-- What a call does that goes on with a command. -/
lemma reply_of_sends {ι : Type} {react : σ → ι → σ × List (VendorAct ε)}
    {x : Exchange σ (VendorAct ε)} {a : ι} {t : σ} {acts : List (VendorAct ε)} {opcode : BitVec 16}
    {octets : List (Option Byte)} (hquiet : ∀ act ∈ acts, act.quiet = true)
    (hreact : react x.party a =
      (t, .alloc :: (acts ++ [.xmit opcode octets true] ++ [.deallocEvent])))
    (hunanswered : x.unanswered = 1) :
    (x.reply react sends a).party = t ∧ (x.reply react sends a).unanswered = 1 ∧
      commands (x.reply react sends a).log = commands x.log ++ [(opcode, octets)] ∧
      ∀ b, .fwcfg b ∈ (x.reply react sends a).log ↔ .fwcfg b ∈ x.log := by
  have hsends := (counts_quiet hquiet).1
  rw [Exchange.reply, hreact]
  refine ⟨rfl, ?_, ?_, fun b => ?_⟩
  · simp only [hunanswered, List.countP_cons, List.countP_append, List.countP_nil, hsends, sends]
    rfl
  · simp only
    rw [commands_append, commands_cons, commands_append, commands_append, commands_quiet hquiet]
    rfl
  · have hacts := notMem_quiet hquiet b
    simp [hacts]

end Bluetooth
