import Gs702aHal.Camera.Types
import Gs702aHal.Lib.StepRun
import Mathlib.Algebra.Order.Ring.Int

set_option relaxedAutoImplicit false
set_option autoImplicit false

/-!
# Waiting with a timeout

`Semaphore` wraps a semaphore of the C library. `WaitTimeout` adds the timeout to the time of day,
seconds to seconds and the rest to the nanoseconds, and waits until then; a wait that fails
replaces the semaphore by a new one without a count.

## Main definitions

* `CameraHal.SemPointer` — the semaphore behind `mSemaphore`.
* `CameraHal.Semaphore.WaitTimeout`, `CameraHal.Semaphore.Signal`, `CameraHal.Semaphore.Create` —
  the functions of the class.
* `CameraHal.deadline` — the time that `WaitTimeout` asks for.
* `CameraHal.SemaphoreCall.Works` — what a call should do.

## Main results

* `CameraHal.deadline_nsec`, `CameraHal.deadline_isExact_iff` — the deadline's fields.
* `CameraHal.waits_work_iff` — the calls of a run do what they should exactly if the microseconds
  need no carry, and resources for a new semaphore are there when a wait fails.
* `CameraHal.not_waits_work_carry` — a wait that fails at once.
-/

namespace CameraHal

open Status

/-! ### Times -/

/-- A value of the 32-bit type `long`. -/
def toLong (x : ℤ) : ℤ := (x + 2 ^ 31) % 2 ^ 32 - 2 ^ 31

/-- `struct timeval`, as `gettimeofday` gives it. -/
structure Timeval where
  tv_sec : ℤ
  tv_usec : ℤ
  sec_range : -2 ^ 31 ≤ tv_sec ∧ tv_sec < 2 ^ 31
  usec_range : 0 ≤ tv_usec ∧ tv_usec < 1000000

/-- `struct timespec`. -/
structure Timespec where
  tv_sec : ℤ
  tv_nsec : ℤ

/-- The time that `WaitTimeout` asks for. -/
def deadline (currentTime : Timeval) (timeoutMicroSecs : ℤ) : Timespec :=
  let tv_sec := currentTime.tv_sec
  let tv_nsec := toLong (currentTime.tv_usec * 1000)
  { tv_sec := toLong (tv_sec + timeoutMicroSecs.tdiv 1000000)
    tv_nsec := toLong (tv_nsec + toLong (timeoutMicroSecs.tmod 1000000 * 1000)) }

/-! ### The semaphore -/

/-- What `mSemaphore` points to: nothing, memory that is not a semaphore, or a semaphore with a
count. -/
inductive SemPointer
  | null
  | uninitialised
  | created (count : ℕ)
  deriving DecidableEq

/-- The largest count of a semaphore. -/
def SEM_VALUE_MAX : ℕ := 0x3fffffff

/-- The errors of `sem_timedwait`. -/
inductive WaitError
  | EINVAL
  | ETIMEDOUT
  | EINTR
  deriving DecidableEq

/-- How waiting ends: another thread signals, or the time passes, or a signal handler runs. -/
inductive WaitEnd
  | signalled
  | failed (error : WaitError) (notInvalid : error ≠ .EINVAL)

/-- `sem_post`. -/
def sem_post : SemPointer → ℤ × SemPointer
  | .created count =>
    if count < SEM_VALUE_MAX then (0, .created (count + 1)) else (-1, .created count)
  | pointer => (-1, pointer)

/-- `sem_timedwait`: a count is taken at once; otherwise the nanoseconds are checked before
waiting. A signal that ends the wait is taken by it. -/
def sem_timedwait (abs_timeout : Timespec) (ends : WaitEnd) :
    SemPointer → (ℤ × Option WaitError) × SemPointer
  | .created count =>
    if 0 < count then ((0, none), .created (count - 1))
    else if abs_timeout.tv_nsec < 0 ∨ 1000000000 ≤ abs_timeout.tv_nsec then
      ((-1, some .EINVAL), .created count)
    else match ends with
      | .signalled => ((0, none), .created count)
      | .failed error _ => ((-1, some error), .created count)
  | pointer => ((-1, some .EINVAL), pointer)

/-- `sem_init` of the memory that `mSemaphore` points to. -/
def sem_init (value : ℤ) : ℤ × SemPointer :=
  if value ≤ SEM_VALUE_MAX then (0, .created value.toNat) else (-1, .uninitialised)

/-- Whether the C library can destroy a semaphore and allocate memory for one. -/
structure Resources where
  destroyed : Bool
  allocated : Bool

/-- `PERMISSION_DENIED`, which is `-EPERM`. -/
def PERMISSION_DENIED : Status := -1#32

/-- `ErrorUtils::posixToAndroidError`. -/
def posixToAndroidError (error : ℤ) : Status :=
  if error = 0 then NO_ERROR
  else if error ∈ [22, 27, 90, 7, 14, 84] then BAD_VALUE
  else if error = 38 then INVALID_OPERATION
  else if error ∈ [13, 1] then PERMISSION_DENIED
  else if error ∈ [98, 11, 114, 16, 17, 115] then ALREADY_EXISTS
  else if error = 12 then NO_MEMORY
  else UNKNOWN_ERROR

namespace Semaphore

/-- `Semaphore::Release`. -/
def Release (r : Resources) (mSemaphore : SemPointer) : Status × SemPointer :=
  if mSemaphore = .null then (posixToAndroidError 0, .null)
  else (posixToAndroidError (if r.destroyed then 0 else -1), .null)

/-- `Semaphore::Create`. -/
def Create (r : Resources) (count : ℤ) (mSemaphore : SemPointer) : Status × SemPointer :=
  if count < 0 then (BAD_VALUE, mSemaphore)
  else
    let (ret, mSemaphore) := Release r mSemaphore
    if ret ≠ NO_ERROR then (ret, mSemaphore)
    else if r.allocated = false then (NO_MEMORY, .null)
    else (posixToAndroidError (sem_init count).1, (sem_init count).2)

/-- `Semaphore::Signal`. -/
def Signal (mSemaphore : SemPointer) : Status × SemPointer :=
  if mSemaphore = .null then (BAD_VALUE, mSemaphore)
  else (posixToAndroidError (sem_post mSemaphore).1, (sem_post mSemaphore).2)

/-- `Semaphore::WaitTimeout`. -/
def WaitTimeout (r : Resources) (currentTime : Timeval) (timeoutMicroSecs : ℤ) (ends : WaitEnd)
    (mSemaphore : SemPointer) : Status × SemPointer :=
  let (ret, mSemaphore) :=
    if mSemaphore = .null then (BAD_VALUE, mSemaphore)
    else
      let (result, waited) :=
        sem_timedwait (deadline currentTime timeoutMicroSecs) ends mSemaphore
      (BitVec.ofInt 32 result.1, waited)
  if ret ≠ NO_ERROR then
    let (_, signalled) := Signal mSemaphore
    let (_, created) := Create r 0 signalled
    (ret, created)
  else (ret, mSemaphore)

end Semaphore

/-! ### The deadline -/

/-- A deadline is valid, is the current time plus the timeout, and its nanoseconds are the sum of
the parts below a second. -/
def Timespec.IsExact (d : Timespec) (currentTime : Timeval) (timeoutMicroSecs : ℤ) : Prop :=
  0 ≤ d.tv_nsec ∧ d.tv_nsec < 1000000000 ∧
    d.tv_sec * 1000000000 + d.tv_nsec =
      currentTime.tv_sec * 1000000000 + currentTime.tv_usec * 1000 + timeoutMicroSecs * 1000 ∧
    d.tv_nsec = currentTime.tv_usec * 1000 + timeoutMicroSecs % 1000000 * 1000

/-- The parts below a second add up to less than a second, and the seconds fit their type. -/
def NoCarry (currentTime : Timeval) (timeoutMicroSecs : ℤ) : Prop :=
  currentTime.tv_usec + timeoutMicroSecs % 1000000 < 1000000 ∧
    currentTime.tv_sec + timeoutMicroSecs / 1000000 < 2 ^ 31

/-- The nanoseconds do not overflow: they are the sum of the parts below a second. -/
lemma deadline_nsec (currentTime : Timeval) {timeoutMicroSecs : ℤ} (h : 0 ≤ timeoutMicroSecs) :
    (deadline currentTime timeoutMicroSecs).tv_nsec =
      currentTime.tv_usec * 1000 + timeoutMicroSecs % 1000000 * 1000 := by
  have husec := currentTime.usec_range
  have hmod : timeoutMicroSecs.tmod 1000000 = timeoutMicroSecs % 1000000 :=
    Int.tmod_eq_emod_of_nonneg h
  simp only [deadline, toLong, hmod]
  omega

/-- The seconds are the sum of the seconds, if that is a value of their type. -/
lemma deadline_sec (currentTime : Timeval) {timeoutMicroSecs : ℤ} (h : 0 ≤ timeoutMicroSecs) :
    (deadline currentTime timeoutMicroSecs).tv_sec =
      toLong (currentTime.tv_sec + timeoutMicroSecs / 1000000) := by
  rw [deadline, Int.tdiv_eq_ediv_of_nonneg h]

/-- A sum of seconds is kept exactly if it fits. -/
lemma toLong_eq_iff {x : ℤ} (hlow : -2 ^ 31 ≤ x) (hhigh : x < 2 ^ 32) :
    toLong x = x ↔ x < 2 ^ 31 := by
  unfold toLong
  omega

/-- **The deadline is valid and exact just if nothing is carried.**

**Proof sketch.** The nanoseconds are the sum of the parts below a second, without an overflow.
The deadline is valid exactly if that sum is below a second; then it is the current time plus the
timeout exactly if the seconds are the sum of the seconds. -/
theorem deadline_isExact_iff (currentTime : Timeval) {timeoutMicroSecs : ℤ}
    (h : 0 ≤ timeoutMicroSecs) (hint : timeoutMicroSecs < 2 ^ 31) :
    (deadline currentTime timeoutMicroSecs).IsExact currentTime timeoutMicroSecs ↔
      NoCarry currentTime timeoutMicroSecs := by
  have husec := currentTime.usec_range
  have hsec := currentTime.sec_range
  have hfits := toLong_eq_iff (x := currentTime.tv_sec + timeoutMicroSecs / 1000000) (by omega)
    (by omega)
  rw [Timespec.IsExact, NoCarry, deadline_nsec currentTime h, deadline_sec currentTime h, ← hfits]
  omega

/-! ### Sequences of calls -/

/-- A call of `WaitTimeout`: its argument, and what the system does in it. -/
structure TimedWait where
  currentTime : Timeval
  timeoutMicroSecs : ℤ
  timeout_range : 0 ≤ timeoutMicroSecs ∧ timeoutMicroSecs < 2 ^ 31
  ends : WaitEnd
  resources : Resources

/-- The calls. -/
inductive SemaphoreCall
  | Signal
  | WaitTimeout (wait : TimedWait)

/-- What a call does to the semaphore. -/
def semaphoreStep (mSemaphore : SemPointer) : SemaphoreCall → SemPointer
  | .Signal => (Semaphore.Signal mSemaphore).2
  | .WaitTimeout w =>
    (Semaphore.WaitTimeout w.resources w.currentTime w.timeoutMicroSecs w.ends mSemaphore).2

namespace TimedWait

/-- The deadline that a wait asks for. -/
def asked (w : TimedWait) : Timespec := deadline w.currentTime w.timeoutMicroSecs

/-- The result of a wait. -/
def result (w : TimedWait) (mSemaphore : SemPointer) : Status :=
  (Semaphore.WaitTimeout w.resources w.currentTime w.timeoutMicroSecs w.ends mSemaphore).1

end TimedWait

/-- What a call should do. A wait on a semaphore asks for a deadline that is valid and exact, and
is not refused for an invalid one; a wait that fails leaves a semaphore without a count. -/
def SemaphoreCall.Works (mSemaphore : SemPointer) : SemaphoreCall → Prop
  | .Signal => True
  | .WaitTimeout w =>
    (∀ count, mSemaphore = .created count →
      w.asked.IsExact w.currentTime w.timeoutMicroSecs ∧
        (sem_timedwait w.asked w.ends mSemaphore).1.2 ≠ some .EINVAL) ∧
    (w.result mSemaphore ≠ NO_ERROR →
      semaphoreStep mSemaphore (.WaitTimeout w) = .created 0)

/-- The condition: nothing is carried where there is a semaphore to wait on; where there is none,
or no count and no signal in time, a new one can be made. -/
def SemaphoreCall.Fits (mSemaphore : SemPointer) : SemaphoreCall → Prop
  | .Signal => True
  | .WaitTimeout w =>
    (∀ count, mSemaphore = .created count → NoCarry w.currentTime w.timeoutMicroSecs) ∧
    (mSemaphore = .null → w.resources.allocated = true) ∧
    (mSemaphore = .uninitialised ∨ mSemaphore = .created 0 ∧ w.ends ≠ .signalled →
      w.resources.destroyed = true ∧ w.resources.allocated = true)

namespace Semaphore

variable {r : Resources} {mSemaphore : SemPointer} {w : TimedWait}

/-- A new semaphore without a count is there exactly if it can be allocated, and the old one, if
any, destroyed. -/
lemma create_zero_iff :
    (Create r 0 mSemaphore).2 = .created 0 ↔
      r.allocated = true ∧ (mSemaphore ≠ .null → r.destroyed = true) := by
  have hok : posixToAndroidError 0 = NO_ERROR := rfl
  have herr : posixToAndroidError (-1) ≠ NO_ERROR := by decide
  have hinit : sem_init 0 = (0, .created 0) := rfl
  unfold Create Release
  rw [if_neg (lt_irrefl 0)]
  by_cases hnull : mSemaphore = .null
  · cases r.allocated <;> simp [hnull, hok, hinit]
  · cases r.destroyed <;> cases r.allocated <;> simp [hnull, hok, herr, hinit]

/-- Signalling makes no semaphore and destroys none. -/
lemma signal_eq_null_iff : (Signal mSemaphore).2 = .null ↔ mSemaphore = .null := by
  unfold Signal
  cases mSemaphore with
  | null => simp
  | uninitialised => simp [sem_post]
  | created count =>
    simp only [sem_post, reduceCtorEq, if_false, iff_false]
    split <;> simp

/-- A call without a semaphore to wait on fails, and makes one if it can. -/
lemma works_null_iff :
    (SemaphoreCall.WaitTimeout w).Works .null ↔ (SemaphoreCall.WaitTimeout w).Fits .null := by
  have hfails : w.result .null ≠ NO_ERROR := by
    show BAD_VALUE ≠ NO_ERROR
    decide
  have hstep : semaphoreStep .null (.WaitTimeout w) = (Create w.resources 0 .null).2 := rfl
  simp [SemaphoreCall.Works, SemaphoreCall.Fits, hfails, hstep, create_zero_iff]

/-- What a wait does that `sem_timedwait` fails: the semaphore is replaced. -/
lemma step_of_fails {error : WaitError} {waited : SemPointer} (hnull : mSemaphore ≠ .null)
    (hwait : sem_timedwait w.asked w.ends mSemaphore = ((-1, some error), waited)) :
    w.result mSemaphore ≠ NO_ERROR ∧
      semaphoreStep mSemaphore (.WaitTimeout w) =
        (Create w.resources 0 (Signal waited).2).2 := by
  have hret : BitVec.ofInt 32 (-1) ≠ NO_ERROR := by decide
  rw [TimedWait.asked] at hwait
  simp only [TimedWait.result, semaphoreStep, WaitTimeout, if_neg hnull, hwait, if_pos hret]
  exact ⟨hret, trivial⟩

/-- A wait that succeeds returns no error. -/
lemma result_of_succeeds {waited : SemPointer} (hnull : mSemaphore ≠ .null)
    (hwait : sem_timedwait w.asked w.ends mSemaphore = ((0, none), waited)) :
    w.result mSemaphore = NO_ERROR := by
  have hret : ¬ BitVec.ofInt 32 0 ≠ NO_ERROR := by decide
  rw [TimedWait.asked] at hwait
  simp only [TimedWait.result, WaitTimeout, if_neg hnull, hwait, if_neg hret]
  decide

/-- A wait on memory that is not a semaphore fails. -/
lemma works_uninitialised_iff :
    (SemaphoreCall.WaitTimeout w).Works .uninitialised ↔
      (SemaphoreCall.WaitTimeout w).Fits .uninitialised := by
  have hwait : sem_timedwait w.asked w.ends .uninitialised =
      ((-1, some .EINVAL), .uninitialised) := rfl
  obtain ⟨hfails, hstep⟩ := step_of_fails (by decide) hwait
  have hnull : (Signal .uninitialised).2 ≠ .null := by
    rw [Ne, signal_eq_null_iff]
    decide
  simp [SemaphoreCall.Works, SemaphoreCall.Fits, hfails, hstep, create_zero_iff, hnull, and_comm]

/-- A wait that is not refused succeeds with a count or a signal, and replaces the semaphore
otherwise. -/
lemma works_created_iff {count : ℕ} :
    (SemaphoreCall.WaitTimeout w).Works (.created count) ↔
      (SemaphoreCall.WaitTimeout w).Fits (.created count) := by
  have hexact := deadline_isExact_iff w.currentTime w.timeout_range.1 w.timeout_range.2
  by_cases hcarry : NoCarry w.currentTime w.timeoutMicroSecs
  · have hasked : w.asked.IsExact w.currentTime w.timeoutMicroSecs := hexact.mpr hcarry
    have hvalid : ¬ (w.asked.tv_nsec < 0 ∨ 1000000000 ≤ w.asked.tv_nsec) := by
      rintro (hneg | hbig)
      · exact absurd hasked.1 (not_le.mpr hneg)
      · exact absurd hasked.2.1 (not_lt.mpr hbig)
    by_cases hcount : 0 < count
    · have hwait : sem_timedwait w.asked w.ends (.created count) =
          ((0, none), .created (count - 1)) := if_pos hcount
      have hresult := result_of_succeeds (by simp) hwait
      have hne : count ≠ 0 := by omega
      simp [SemaphoreCall.Works, SemaphoreCall.Fits, hwait, hresult, hcarry, hne, hasked]
    · obtain rfl : count = 0 := by omega
      cases hends : w.ends with
      | signalled =>
        have hwait : sem_timedwait w.asked w.ends (.created 0) = ((0, none), .created 0) := by
          simp only [sem_timedwait, if_neg hcount, if_neg hvalid, hends]
        have hresult := result_of_succeeds (by simp) hwait
        simp [SemaphoreCall.Works, SemaphoreCall.Fits, ← hends, hwait, hresult, hcarry, hasked]
      | failed error notInvalid =>
        have hwait : sem_timedwait w.asked w.ends (.created 0) =
            ((-1, some error), .created 0) := by
          simp only [sem_timedwait, if_neg hcount, if_neg hvalid, hends]
        obtain ⟨hfails, hstep⟩ := step_of_fails (by simp) hwait
        have hnull : (Signal (.created 0)).2 ≠ .null := by
          rw [Ne, signal_eq_null_iff]
          decide
        have hnotSignalled : w.ends ≠ .signalled := by simp [hends]
        simp [SemaphoreCall.Works, SemaphoreCall.Fits, hwait, hfails, hstep, hcarry, hnotSignalled,
          hasked, notInvalid, create_zero_iff, hnull, and_comm]
  · constructor
    · rintro ⟨hworks, -⟩
      exact absurd (hexact.mp (hworks count rfl).1) hcarry
    · rintro ⟨hfits, -⟩
      exact absurd (hfits count rfl) hcarry

end Semaphore

/-- A call does what it should exactly under the condition. -/
lemma SemaphoreCall.works_iff (mSemaphore : SemPointer) (call : SemaphoreCall) :
    call.Works mSemaphore ↔ call.Fits mSemaphore := by
  cases call with
  | Signal => exact Iff.rfl
  | WaitTimeout w =>
    cases mSemaphore with
    | null => exact Semaphore.works_null_iff
    | uninitialised => exact Semaphore.works_uninitialised_iff
    | created count => exact Semaphore.works_created_iff

/-- **Waiting with a timeout works exactly if nothing is carried.** Over every sequence of
`Signal` and `WaitTimeout` calls, at any times and with any timeouts: every wait on a semaphore asks
for a valid deadline that is the current time plus the timeout, and is not refused for an invalid
one, and every wait that fails leaves a new semaphore without a count, exactly if for each wait
the microseconds of the time and of the timeout's fraction of a second add up to less than a
second (and the seconds fit their type), and a semaphore can be destroyed and allocated where the
wait is not successful. -/
theorem waits_work_iff (mSemaphore : SemPointer) (calls : List SemaphoreCall) :
    StepRun.Along semaphoreStep SemaphoreCall.Works mSemaphore calls ↔
      StepRun.Along semaphoreStep SemaphoreCall.Fits mSemaphore calls :=
  StepRun.along_congr SemaphoreCall.works_iff

/-- A timeout of half a second, 0.6 seconds after the full second. -/
def carriedWait : TimedWait where
  currentTime := ⟨10, 600000, by decide, by decide⟩
  timeoutMicroSecs := 500000
  timeout_range := by decide
  ends := .signalled
  resources := ⟨true, true⟩

/-- **A wait that is refused at once.** The deadline of `carriedWait` has 1100000000 nanoseconds;
`sem_timedwait` fails with `EINVAL` although another thread would have signalled in time. -/
theorem not_waits_work_carry :
    carriedWait.asked.tv_nsec = 1100000000 ∧
      (sem_timedwait carriedWait.asked carriedWait.ends (.created 0)).1 = (-1, some .EINVAL) ∧
      ¬ StepRun.Along semaphoreStep SemaphoreCall.Works (.created 0)
        [.WaitTimeout carriedWait] := by
  refine ⟨rfl, rfl, ?_⟩
  rintro ⟨⟨hdeadline, -⟩, -⟩
  exact absurd rfl (hdeadline 0 rfl).2

/-- Timeouts of whole seconds, as the callers give, need no carry. -/
lemma noCarry_of_seconds (currentTime : Timeval) {seconds : ℤ}
    (hfits : currentTime.tv_sec + seconds < 2 ^ 31) : NoCarry currentTime (seconds * 1000000) := by
  have husec := currentTime.usec_range
  refine ⟨?_, ?_⟩
  · omega
  · omega

end CameraHal
