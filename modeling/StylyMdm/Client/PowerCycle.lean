import StylyMdm.Library.Crash

/-!
# The power-cycle timers

`PowerCycleTimers` arms the two timers that bring a headset back after a self-update, and disarms
them afterwards, in the same process or in a later one. Between them stands only what
`UpdateJournal` has written. The processes can be killed at any point, so `arm` and `disarm` are
programs of a `Crash.System`: each step is one call of the SDK or one commit of the journal.

A timer is armed when its `open` call returns 0 and not armed when its `close` call returns 0; a
call can return any other code or throw, and a `close` call that does can have closed the timer.

`arm_spec` and `disarm_spec` say what each of the two does to a device, at every point where its
process can be killed and at the end, relative to the device it was called on.

What is wanted is that no shutdown timer stays armed that nobody will disarm. Three contracts are
read off the two specifications:

* `ownership`: an armed shutdown timer is one that the journal knows of, or has given up on after
  enough failures, in the runs whose kills come where a timer has an owner (`KilledOwned`);
* `arming`: when `arm` returns that the timers are armed, both are, and the journal says so;
* `refusal`: when `arm` returns that it has refused safely, the shutdown timer is not armed, in the
  runs in which `openTimingShutdown` does not fail while the timer is armed (`OpensAnew`).

The last two sections turn them into statements about every run, with the runs that violate the
conditions beside them.
-/

namespace StylyMdm.Client.PowerCycle

open Crash

/-- `MAX_DISARM_ATTEMPTS`. -/
def maxDisarmAttempts : Nat := 3

/-- `MAX_ARM_CLOSE_ATTEMPTS`. -/
def maxArmCloseAttempts : Nat := 4

/-- `Int.MIN_VALUE`. -/
def minValue : Int := -2 ^ 31

/-- The outcomes of `arm`. -/
inductive ArmOutcome
  | armed
  | refusedSafe
  | refusedUnsafe
deriving DecidableEq

/-- Which of the two timers a close has confirmed. -/
structure CloseResult where
  shutdownClosed : Bool
  startupClosed : Bool

/-- The events of the journal. -/
inductive Event
  | powerCycleScheduled
  | powerCycleClosed

/-! ### The device -/

/-- What outlives a process: the timers, and `PREF_POWER_CYCLE_TIMERS` and
`PREF_POWER_CYCLE_DISARM_ATTEMPTS`. The last two fields are for the statements only, no program
reads them: how many disarms have failed since the shutdown timer was armed, and whether it was
armed and since then neither the journal was written nor the timer confirmed closed. -/
structure Device where
  shutdownArmed : Bool
  startupArmed : Bool
  powerCycleTimersSet : Bool
  disarmAttempts : Nat
  failures : Nat
  opening : Bool

namespace Device

/-- A headset on which nothing was ever armed. -/
def new : Device where
  shutdownArmed := false
  startupArmed := false
  powerCycleTimersSet := false
  disarmAttempts := 0
  failures := 0
  opening := false

/-- `UpdateJournal.markPowerCycleTimersSet`. -/
def markPowerCycleTimersSet (d : Device) : Device :=
  { d with powerCycleTimersSet := true, disarmAttempts := 0, opening := false }

/-- `UpdateJournal.recordPowerCycleDisarmFailure`, with the number that it returns. -/
def recordPowerCycleDisarmFailure (d : Device) : Device × Nat :=
  let attempts := d.disarmAttempts + 1
  ({ d with
      powerCycleTimersSet := true, disarmAttempts := attempts, failures := d.failures + 1
      opening := false },
    attempts)

/-- `UpdateJournal.clearPowerCycleTimers`. -/
def clearPowerCycleTimers (d : Device) : Device :=
  { d with powerCycleTimersSet := false, disarmAttempts := 0, opening := false }

/-- `openTimingShutdown`, with the code that it returns, or `none` if it throws. -/
def openTimingShutdown (ret : Option Int) (d : Device) : Device :=
  if ret = some 0 then { d with shutdownArmed := true, failures := 0, opening := true } else d

/-- `openTimingStartup`: the timer is armed when the call returns zero. -/
def openTimingStartup (ret : Option Int) (d : Device) : Device :=
  if ret = some 0 then { d with startupArmed := true } else d

/-- `closeTimingShutdown`; `closes` says whether the timer is closed although the code is not 0. -/
def closeTimingShutdown (ret : Option Int) (closes : Bool) (d : Device) : Device :=
  if ret = some 0 then { d with shutdownArmed := false, opening := false }
  else if closes then { d with shutdownArmed := false }
  else d

/-- `closeTimingStartup`: the timer is disarmed when the call returns zero, and perhaps also when it
fails. -/
def closeTimingStartup (ret : Option Int) (closes : Bool) (d : Device) : Device :=
  if ret = some 0 ∨ closes then { d with startupArmed := false } else d

end Device

/-! ### The operations -/

/-- The calls of the SDK and the commits of the journal. -/
inductive Op
  | serviceBinder
  | openTimingShutdown
  | openTimingStartup
  | pbsGetTimingShutDownStatusTwo
  | pbsGetTimingStartupStatusTwo
  | closeTimingShutdown
  | closeTimingStartup
  | sleep
  | record (event : Event)
  | markPowerCycleTimersSet
  | recordPowerCycleDisarmFailure
  | clearPowerCycleTimers

/-- What the SDK decides. -/
def Outcome : Op → Type
  | .serviceBinder => Bool
  | .openTimingShutdown | .openTimingStartup => Option Int
  | .pbsGetTimingShutDownStatusTwo | .pbsGetTimingStartupStatusTwo => Option String
  | .closeTimingShutdown | .closeTimingStartup => Option Int × Bool
  | _ => Unit

/-- What the program gets back. -/
def Answer : Op → Type
  | .serviceBinder => Bool
  | .openTimingShutdown | .openTimingStartup | .closeTimingShutdown | .closeTimingStartup =>
    Option Int
  | .pbsGetTimingShutDownStatusTwo | .pbsGetTimingStartupStatusTwo => Option String
  | .recordPowerCycleDisarmFailure => Nat
  | _ => Unit

/-- A call of the SDK, with what the device makes of it. -/
def perform : (op : Op) → Outcome op → Device → Device × Answer op
  | .serviceBinder, available, d => (d, available)
  | .openTimingShutdown, ret, d => (d.openTimingShutdown ret, ret)
  | .openTimingStartup, ret, d => (d.openTimingStartup ret, ret)
  | .pbsGetTimingShutDownStatusTwo, status, d => (d, status)
  | .pbsGetTimingStartupStatusTwo, status, d => (d, status)
  | .closeTimingShutdown, (ret, closes), d => (d.closeTimingShutdown ret closes, ret)
  | .closeTimingStartup, (ret, closes), d => (d.closeTimingStartup ret closes, ret)
  | .sleep, _, d => (d, ())
  | .record _, _, d => (d, ())
  | .markPowerCycleTimersSet, _, d => (d.markPowerCycleTimersSet, ())
  | .recordPowerCycleDisarmFailure, _, d => d.recordPowerCycleDisarmFailure
  | .clearPowerCycleTimers, _, d => (d.clearPowerCycleTimers, ())

/-- The surroundings of a process of the client. -/
abbrev sdk : Interface Device where
  Op := Op
  Outcome := Outcome
  Answer := Answer
  perform := perform

/-- The programs that call the SDK. -/
abbrev Program := Prog sdk

/-- The call of `openTimingShutdown`. -/
def openTimingShutdown : Program (Option Int) := .ask (I := sdk) .openTimingShutdown

/-- The call of `openTimingStartup`. -/
def openTimingStartup : Program (Option Int) := .ask (I := sdk) .openTimingStartup

/-- The call of `closeTimingShutdown`. -/
def closeTimingShutdown : Program (Option Int) := .ask (I := sdk) .closeTimingShutdown

/-- The call of `closeTimingStartup`. -/
def closeTimingStartup : Program (Option Int) := .ask (I := sdk) .closeTimingStartup

/-- The call of `pbsGetTimingShutDownStatusTwo`. -/
def pbsGetTimingShutDownStatusTwo : Program (Option String) :=
  .ask (I := sdk) .pbsGetTimingShutDownStatusTwo

/-- The call of `pbsGetTimingStartupStatusTwo`. -/
def pbsGetTimingStartupStatusTwo : Program (Option String) :=
  .ask (I := sdk) .pbsGetTimingStartupStatusTwo

/-- The check that the service is bound. -/
def serviceBinder : Program Bool := .ask (I := sdk) .serviceBinder

/-- The wait between two reads of a status. -/
def sleep : Program Unit := .ask (I := sdk) .sleep

/-- An entry of the journal. -/
def record (event : Event) : Program Unit := .ask (I := sdk) (.record event)

/-- The preference that timers are set. -/
def markPowerCycleTimersSet : Program Unit := .ask (I := sdk) .markPowerCycleTimersSet

/-- The count of failed disarms, raised by one. -/
def recordPowerCycleDisarmFailure : Program Nat := .ask (I := sdk) .recordPowerCycleDisarmFailure

/-- The preferences of the timers, cleared. -/
def clearPowerCycleTimers : Program Unit := .ask (I := sdk) .clearPowerCycleTimers

/-! ### Arming -/

/-- The code of a call, `Int.MIN_VALUE` for one that throws. -/
def codeOf (ret : Option Int) : Int := ret.getD minValue

/-- The loop of `resolvePartialArm`, with its two variables. -/
def resolvePasses {m : Type → Type} [Monad m] (shutdownWasArmed : Bool)
    (closeAttempt : m CloseResult) : Nat → Bool → Bool → m ArmOutcome
  | 0, shutdownEverClosed, _ =>
    pure (if !shutdownWasArmed || shutdownEverClosed then .refusedSafe else .refusedUnsafe)
  | passes + 1, shutdownEverClosed, startupEverClosed => do
    let pass ← closeAttempt
    let shutdownEverClosed := shutdownEverClosed || pass.shutdownClosed
    let startupEverClosed := startupEverClosed || pass.startupClosed
    let shutdownSafe := !shutdownWasArmed || shutdownEverClosed
    if shutdownSafe && startupEverClosed then pure .refusedSafe
    else resolvePasses shutdownWasArmed closeAttempt passes shutdownEverClosed startupEverClosed

/-- `resolvePartialArm`. -/
def resolvePartialArm {m : Type → Type} [Monad m] (maxAttempts : Nat) (shutdownWasArmed : Bool)
    (closeAttempt : m CloseResult) : m ArmOutcome :=
  resolvePasses shutdownWasArmed closeAttempt maxAttempts false false

/-- The variables of `refuseAndCloseOut` that the lambda changes. -/
structure Closing where
  shutdownEverClosed : Bool
  startupEverClosed : Bool
  attempt : Nat

/-- The lambda of `refuseAndCloseOut`. -/
def closeAttempt : StateT Closing Program CloseResult := do
  let closing ← get
  let _ ← (if closing.attempt > 0 then sleep else pure () : Program Unit)
  let shutdownRet ← (closeTimingShutdown : Program (Option Int))
  let startupRet ← (closeTimingStartup : Program (Option Int))
  let shutdownClosed := shutdownRet = some 0
  let startupClosed := startupRet = some 0
  set { closing with
    shutdownEverClosed := closing.shutdownEverClosed || shutdownClosed
    startupEverClosed := closing.startupEverClosed || startupClosed
    attempt := closing.attempt + 1 }
  pure { shutdownClosed := shutdownClosed, startupClosed := startupClosed }

/-- `refuseAndCloseOut`. -/
def refuseAndCloseOut (shutdownRet startupRet : Int) : Program ArmOutcome := do
  let shutdownWasArmed := decide (shutdownRet = 0)
  let (outcome, closing) ← (resolvePartialArm maxArmCloseAttempts shutdownWasArmed closeAttempt).run
    { shutdownEverClosed := false, startupEverClosed := false, attempt := 0 }
  let shutdownMaybeArmed := shutdownWasArmed && !closing.shutdownEverClosed
  let startupMaybeArmed := decide (startupRet = 0) && !closing.startupEverClosed
  let _ ← (if shutdownMaybeArmed || startupMaybeArmed then markPowerCycleTimersSet else pure ())
  record .powerCycleClosed
  pure outcome

/-- `arm`. -/
def arm : Program ArmOutcome := do
  let shutdownRet ← openTimingShutdown
  let startupRet ← openTimingStartup
  if codeOf shutdownRet ≠ 0 ∨ codeOf startupRet ≠ 0 then
    refuseAndCloseOut (codeOf shutdownRet) (codeOf startupRet)
  else do
    let _ ← pbsGetTimingShutDownStatusTwo
    let _ ← pbsGetTimingStartupStatusTwo
    record .powerCycleScheduled
    markPowerCycleTimersSet
    pure .armed

/-! ### Disarming -/

/-- What `disarm` does after the two calls. -/
def settleDisarm (confirmedClosed : Bool) : Program Unit :=
  if confirmedClosed then clearPowerCycleTimers
  else do
    let attempts ← recordPowerCycleDisarmFailure
    if attempts ≥ maxDisarmAttempts then clearPowerCycleTimers else pure ()

/-- `disarm`. -/
def disarm : Program Unit := do
  let proxy ← serviceBinder
  if !proxy then record .powerCycleClosed
  else do
    let shutdownRet ← closeTimingShutdown
    let startupRet ← closeTimingStartup
    let threw := shutdownRet.isNone || startupRet.isNone
    settleDisarm (!threw && codeOf shutdownRet = 0 && codeOf startupRet = 0)
    record .powerCycleClosed

/-! ### The processes -/

/-- The public calls: `arm` and `disarm`. -/
inductive Call
  | arm
  | disarm

/-- What the processes of the client can run. -/
abbrev client : System Device where
  interface := sdk
  Call := Call
  Result
    | .arm => ArmOutcome
    | .disarm => Unit
  body
    | .arm => arm
    | .disarm => disarm

/-- A new headset, before the first process starts. -/
def initial : Crash.State client where
  store := .new
  process := .dead

/-! ### What arming does -/

/-- The shutdown timer is not armed, or it was and the journal is as it was. -/
def SameTimer (d₀ d : Device) : Prop :=
  d.shutdownArmed = true → d₀.shutdownArmed = true ∧
    d.powerCycleTimersSet = d₀.powerCycleTimersSet ∧ d.disarmAttempts = d₀.disarmAttempts ∧
    d.failures = d₀.failures ∧ d.opening = d₀.opening

/-- The journal says that the timers are set, and counts no failure. -/
def Marked (d : Device) : Prop := d.powerCycleTimersSet = true ∧ d.disarmAttempts = 0

/-- The shutdown timer was armed, and nothing knows of it yet. -/
def Opened (d : Device) : Prop := d.opening = true ∧ d.failures = 0

section SameTimer

variable {d₀ d : Device}

/-- Nothing is done to the timer. -/
theorem SameTimer.refl (d : Device) : SameTimer d d := fun h => ⟨h, rfl, rfl, rfl, rfl⟩

/-- A shutdown timer that is not armed may have been closed. -/
theorem SameTimer.of_not_armed (h : d.shutdownArmed = false) : SameTimer d₀ d := by
  intro harmed
  rw [h] at harmed
  exact absurd harmed Bool.false_ne_true

/-- And later still. -/
theorem SameTimer.trans {d' : Device} (h : SameTimer d₀ d) (h' : SameTimer d d') :
    SameTimer d₀ d' := by
  intro harmed
  obtain ⟨harmed, hset, hattempts, hfailures, hopening⟩ := h' harmed
  obtain ⟨harmed₀, hset₀, hattempts₀, hfailures₀, hopening₀⟩ := h harmed
  exact ⟨harmed₀, hset.trans hset₀, hattempts.trans hattempts₀, hfailures.trans hfailures₀,
    hopening.trans hopening₀⟩

/-- A close does not change the timer it leaves armed. -/
theorem sameTimer_closeTimingShutdown (ret : Option Int) (closes : Bool) (d : Device) :
    SameTimer d (d.closeTimingShutdown ret closes) := by
  rw [Device.closeTimingShutdown]
  split_ifs
  · exact .of_not_armed rfl
  · exact .of_not_armed rfl
  · exact .refl d

/-- Nor does a close of the startup timer. -/
theorem sameTimer_closeTimingStartup (ret : Option Int) (closes : Bool) (d : Device) :
    SameTimer d (d.closeTimingStartup ret closes) := by
  rw [Device.closeTimingStartup]
  split_ifs
  · exact fun h => ⟨h, rfl, rfl, rfl, rfl⟩
  · exact .refl d

/-- Nor its opening. -/
theorem sameTimer_openTimingStartup (ret : Option Int) (d : Device) :
    SameTimer d (d.openTimingStartup ret) := by
  rw [Device.openTimingStartup]
  split_ifs
  · exact fun h => ⟨h, rfl, rfl, rfl, rfl⟩
  · exact .refl d

end SameTimer

/-- The startup timer is another one. -/
@[simp] theorem shutdownArmed_closeTimingStartup (ret : Option Int) (closes : Bool) (d : Device) :
    (d.closeTimingStartup ret closes).shutdownArmed = d.shutdownArmed := by
  rw [Device.closeTimingStartup]
  split_ifs <;> rfl

/-- The shutdown timer is not armed after a call that says so, nor if it was not before. -/
theorem not_armed_closeTimingShutdown {ret : Option Int} {closes : Bool} {d : Device}
    (h : d.shutdownArmed = false ∨ ret = some 0) :
    (d.closeTimingShutdown ret closes).shutdownArmed = false := by
  rw [Device.closeTimingShutdown]
  split_ifs with hret hcloses
  · rfl
  · rfl
  · exact h.resolve_right hret

/-- A call has succeeded when it returns zero. -/
theorem codeOf_eq_zero_iff {ret : Option Int} : codeOf ret = 0 ↔ ret = some 0 := by
  cases ret with
  | none => exact ⟨fun h => absurd h (by decide), fun h => absurd h (by simp)⟩
  | some code => exact ⟨fun h => congrArg some h, fun h => Option.some.inj h⟩

section Arming

variable {allowed : (op : sdk.Op) → sdk.Outcome op → Device → Prop} {crash : Device → Prop}

/-- The loop knows when the shutdown timer was confirmed closed. -/
structure Passing (d₁ : Device) (closing : Closing) (d : Device) : Prop where
  same : SameTimer d₁ d
  closed : closing.shutdownEverClosed = true → d.shutdownArmed = false

/-- One pass. -/
theorem closeAttempt_spec {d₁ : Device} (hcrash : ∀ d, SameTimer d₁ d → crash d)
    {closing : Closing} {d : Device} (h : Passing d₁ closing d) :
    Prog.wp allowed crash (fun result d => Passing d₁ result.2 d ∧
      result.2.shutdownEverClosed = (closing.shutdownEverClosed || result.1.shutdownClosed) ∧
      result.2.startupEverClosed = (closing.startupEverClosed || result.1.startupClosed))
      (closeAttempt.run closing) d := by
  have hrun : closeAttempt.run closing =
      ((if closing.attempt > 0 then sleep else pure () : Program Unit) >>= fun _ =>
        closeTimingShutdown >>= fun shutdownRet => closeTimingStartup >>= fun startupRet =>
          pure (⟨shutdownRet = some 0, startupRet = some 0⟩,
            ⟨closing.shutdownEverClosed || decide (shutdownRet = some 0),
              closing.startupEverClosed || decide (startupRet = some 0),
              closing.attempt + 1⟩)) := by
    simp [closeAttempt]
  rw [hrun, Prog.wp_bind]
  have hbackoff : Prog.wp allowed crash (fun _ d' => d' = d)
      (if closing.attempt > 0 then sleep else pure () : Program Unit) d := by
    split_ifs
    · exact ⟨hcrash d h.same, fun _ _ => ⟨hcrash d h.same, rfl⟩⟩
    · exact ⟨hcrash d h.same, rfl⟩
  refine Prog.wp_mono hbackoff ?_
  rintro - d' - rfl
  refine ⟨hcrash d' h.same, fun (ret, closes) _ => ?_⟩
  have hsame := h.same.trans (sameTimer_closeTimingShutdown ret closes d')
  refine ⟨hcrash _ hsame, fun (ret', closes') _ => ?_⟩
  have hsame' := hsame.trans (sameTimer_closeTimingStartup ret' closes' _)
  refine ⟨hcrash _ hsame', ⟨hsame', fun hclosed => ?_⟩, rfl, rfl⟩
  change (closing.shutdownEverClosed || decide (ret = some 0)) = true at hclosed
  rw [Bool.or_eq_true, decide_eq_true_iff] at hclosed
  exact (shutdownArmed_closeTimingStartup ret' closes' _).trans
    (not_armed_closeTimingShutdown (hclosed.imp_left h.closed))

/-- What the passes lead to. -/
def Resolved (shutdownWasArmed : Bool) (result : ArmOutcome × Closing) : Prop :=
  result.1 = if !shutdownWasArmed || result.2.shutdownEverClosed then .refusedSafe
    else .refusedUnsafe

/-- The loop of the passes. -/
theorem resolvePasses_spec {d₁ : Device} (hcrash : ∀ d, SameTimer d₁ d → crash d)
    (shutdownWasArmed : Bool) (passes : Nat) {closing : Closing} {d : Device}
    (h : Passing d₁ closing d) :
    Prog.wp allowed crash
      (fun result d => Passing d₁ result.2 d ∧ Resolved shutdownWasArmed result)
      ((resolvePasses shutdownWasArmed closeAttempt passes closing.shutdownEverClosed
        closing.startupEverClosed).run closing) d := by
  induction passes generalizing closing d with
  | zero => exact ⟨hcrash d h.same, h, rfl⟩
  | succ passes ih =>
    rw [resolvePasses, StateT.run_bind, Prog.wp_bind]
    refine Prog.wp_mono (closeAttempt_spec hcrash h) ?_
    rintro ⟨pass, closing'⟩ d' - ⟨hpassing, hshutdown, hstartup⟩
    simp only at hpassing hshutdown hstartup ⊢
    rw [← hshutdown, ← hstartup]
    by_cases hsafe : (!shutdownWasArmed || closing'.shutdownEverClosed) &&
        closing'.startupEverClosed
    · rw [if_pos hsafe]
      refine ⟨hcrash d' hpassing.same, hpassing, ?_⟩
      rw [Bool.and_eq_true] at hsafe
      exact (if_pos hsafe.1).symm
    · rw [if_neg hsafe]
      exact ih hpassing

/-- Wherever `arm` can be killed: nothing has happened to the shutdown timer, or it was opened, or
the journal says so. -/
def Arming (d₀ d : Device) : Prop := SameTimer d₀ d ∨ Opened d ∨ Marked d

/-- The call of `openTimingShutdown` fails while the timer is armed from before. -/
def MissedOpen (allowed : (op : sdk.Op) → sdk.Outcome op → Device → Prop) (d₀ : Device) : Prop :=
  d₀.shutdownArmed = true ∧ ∃ ret : Option Int, ret ≠ some 0 ∧ allowed .openTimingShutdown ret d₀

/-- What holds when `arm` returns. -/
structure Arranged (allowed : (op : sdk.Op) → sdk.Outcome op → Device → Prop) (d₀ : Device)
    (outcome : ArmOutcome) (d : Device) : Prop where
  owned : SameTimer d₀ d ∨ Marked d
  armed : outcome = .armed →
    d.shutdownArmed = true ∧ d.startupArmed = true ∧ d.powerCycleTimersSet = true
  safe : outcome = .refusedSafe → d.shutdownArmed = false ∨ MissedOpen allowed d₀

/-- While the timer is the one before or the new one, `arm` is in order. -/
theorem Arming.of_sameTimer {d₀ d₁ d : Device} (h : SameTimer d₀ d₁ ∨ Opened d₁)
    (hsame : SameTimer d₁ d) : Arming d₀ d := by
  cases harmed : d.shutdownArmed with
  | false => exact .inl (.of_not_armed harmed)
  | true =>
    obtain ⟨-, -, -, hfailures, hopening⟩ := hsame harmed
    rcases h with h | h
    · exact .inl (h.trans hsame)
    · exact .inr (.inl ⟨hopening.trans h.1, hfailures.trans h.2⟩)

/-- The device before the refusal: the shutdown timer was opened, or the call has failed. -/
def Refusing (allowed : (op : sdk.Op) → sdk.Outcome op → Device → Prop) (d₀ : Device)
    (shutdownRet : Int) (d₁ : Device) : Prop :=
  shutdownRet = 0 ∧ Opened d₁ ∨
    shutdownRet ≠ 0 ∧ SameTimer d₀ d₁ ∧ (d₀.shutdownArmed = true → MissedOpen allowed d₀)

/-- A refusal starts with the timer before, or with the new one. -/
theorem Refusing.before {d₀ d₁ : Device} {shutdownRet : Int}
    (h : Refusing allowed d₀ shutdownRet d₁) : SameTimer d₀ d₁ ∨ Opened d₁ :=
  h.elim (fun h => .inr h.2) (fun h => .inl h.2.1)

/-- The startup timer has no part in it. -/
theorem Refusing.openTimingStartup {d₀ d₁ : Device} {shutdownRet : Int}
    (h : Refusing allowed d₀ shutdownRet d₁) (ret : Option Int) :
    Refusing allowed d₀ shutdownRet (d₁.openTimingStartup ret) := by
  rcases h with ⟨hzero, hopened⟩ | ⟨hfailed, hsame, hmissed⟩
  · refine .inl ⟨hzero, ?_⟩
    rw [Device.openTimingStartup]
    split_ifs <;> exact hopened
  · exact .inr ⟨hfailed, hsame.trans (sameTimer_openTimingStartup ret d₁), hmissed⟩

/-- A refusal closes both timers, and says whether it is safe. -/
theorem refuseAndCloseOut_spec {d₀ d₁ : Device} {shutdownRet : Int} (startupRet : Int)
    (h : Refusing allowed d₀ shutdownRet d₁) :
    Prog.wp allowed (Arming d₀) (Arranged allowed d₀)
      (refuseAndCloseOut shutdownRet startupRet) d₁ := by
  have hcrash : ∀ d, SameTimer d₁ d → Arming d₀ d := fun d => Arming.of_sameTimer h.before
  have hstart : Passing d₁ { shutdownEverClosed := false, startupEverClosed := false, attempt := 0 }
      d₁ := ⟨.refl d₁, fun h => absurd h Bool.false_ne_true⟩
  rw [refuseAndCloseOut, Prog.wp_bind]
  refine Prog.wp_mono (resolvePasses_spec hcrash _ maxArmCloseAttempts hstart) ?_
  rintro ⟨outcome, closing⟩ d hd ⟨hpassing, houtcome⟩
  -- with the timer armed, the passes have not closed it and it was not opened by this call
  have hsafe : outcome = .refusedSafe → d.shutdownArmed = false ∨ MissedOpen allowed d₀ := by
    rintro rfl
    cases harmed : d.shutdownArmed with
    | false => exact .inl rfl
    | true =>
      have hopen : closing.shutdownEverClosed = false := by
        rw [← Bool.not_eq_true]
        intro hclosed
        exact absurd (harmed.symm.trans (hpassing.closed hclosed)) (by decide)
      rcases h with ⟨rfl, -⟩ | ⟨-, hsame, hmissed⟩
      · simp [Resolved, hopen] at houtcome
      · exact .inr (hmissed (hsame.trans hpassing.same harmed).1)
  have hno : outcome ≠ .armed := by
    rintro rfl
    simp only [Resolved] at houtcome
    split_ifs at houtcome
  rw [Prog.wp_bind]
  by_cases hmark : (decide (shutdownRet = 0) && !closing.shutdownEverClosed ||
      decide (startupRet = 0) && !closing.startupEverClosed) = true
  · have hmarked : Marked d.markPowerCycleTimersSet := ⟨rfl, rfl⟩
    have hcrash' : Arming d₀ d.markPowerCycleTimersSet := .inr (.inr hmarked)
    have harranged : Arranged allowed d₀ outcome d.markPowerCycleTimersSet :=
      ⟨.inr hmarked, fun h => absurd h hno, hsafe⟩
    rw [if_pos hmark]
    exact ⟨hd, fun _ _ => ⟨hcrash', hcrash', fun _ _ => ⟨hcrash', harranged⟩⟩⟩
  · have hsame : SameTimer d₀ d := by
      rcases h with ⟨rfl, -⟩ | ⟨-, hsame, -⟩
      · have hclosed : closing.shutdownEverClosed = true := by
          by_contra hopen
          exact hmark (by simp [hopen])
        exact .of_not_armed (hpassing.closed hclosed)
      · exact hsame.trans hpassing.same
    have harranged : Arranged allowed d₀ outcome d :=
      ⟨.inl hsame, fun h => absurd h hno, hsafe⟩
    rw [if_neg hmark]
    exact ⟨hd, hd, fun _ _ => ⟨hd, harranged⟩⟩

/-- What `arm` does to a device. -/
theorem arm_spec (d₀ : Device) :
    Prog.wp allowed (Arming d₀) (Arranged allowed d₀) arm d₀ := by
  have hd₀ : Arming d₀ d₀ := .inl (.refl d₀)
  rw [arm]
  refine ⟨hd₀, fun (ret : Option Int) hret => ?_⟩
  have hopened : Refusing allowed d₀ (codeOf ret) (d₀.openTimingShutdown ret) := by
    rw [Device.openTimingShutdown, Refusing, codeOf_eq_zero_iff, Ne, codeOf_eq_zero_iff]
    split_ifs with hzero
    · exact .inl ⟨hzero, rfl, rfl⟩
    · exact .inr ⟨hzero, .refl d₀, fun harmed => ⟨harmed, ret, hzero, hret⟩⟩
  have hcrash : Arming d₀ (d₀.openTimingShutdown ret) :=
    .of_sameTimer hopened.before (.refl _)
  refine ⟨hcrash, fun (ret' : Option Int) _ => ?_⟩
  have hopened' := hopened.openTimingStartup ret'
  change Prog.wp allowed (Arming d₀) (Arranged allowed d₀)
    (if codeOf ret ≠ 0 ∨ codeOf ret' ≠ 0 then
      refuseAndCloseOut (codeOf ret) (codeOf ret') else _)
    ((d₀.openTimingShutdown ret).openTimingStartup ret')
  split_ifs with hfailed
  · exact refuseAndCloseOut_spec (codeOf ret') hopened'
  · rw [not_or, not_not, not_not, codeOf_eq_zero_iff, codeOf_eq_zero_iff] at hfailed
    obtain ⟨rfl, rfl⟩ := hfailed
    have hcrash' : Arming d₀ ((d₀.openTimingShutdown (some 0)).openTimingStartup (some 0)) :=
      .of_sameTimer hopened'.before (.refl _)
    have hmarked : Arming d₀ ((d₀.openTimingShutdown (some 0)).openTimingStartup
        (some 0)).markPowerCycleTimersSet := .inr (.inr ⟨rfl, rfl⟩)
    -- the two reads and the entry in the journal leave the device as it is
    refine ⟨hcrash', fun _ _ => ⟨hcrash', fun _ _ => ⟨hcrash', fun _ _ => ?_⟩⟩⟩
    refine ⟨hcrash', fun _ _ => ?_⟩
    exact ⟨hmarked, .inr ⟨rfl, rfl⟩, fun _ => ⟨rfl, rfl, rfl⟩, fun h => absurd h (by decide)⟩

end Arming

/-! ### What disarming does -/

/-- Wherever `disarm` can be killed, and when it returns: nothing was counted, or this failure was,
or the timers are cleared, for a reason. -/
def Disarming (d₀ d : Device) : Prop :=
  d.shutdownArmed = true → d₀.shutdownArmed = true ∧
    (d.powerCycleTimersSet = d₀.powerCycleTimersSet ∧ d.disarmAttempts = d₀.disarmAttempts ∧
        d.failures = d₀.failures ∨
      d.failures = d₀.failures + 1 ∧
        (d.powerCycleTimersSet = true ∧ d.disarmAttempts = d₀.disarmAttempts + 1 ∨
          maxDisarmAttempts ≤ d₀.disarmAttempts + 1))

/-- While the timer is the one before, `disarm` is in order. -/
theorem Disarming.of_sameTimer {d₀ d : Device} (h : SameTimer d₀ d) : Disarming d₀ d := by
  intro harmed
  obtain ⟨harmed₀, hset, hattempts, hfailures, -⟩ := h harmed
  exact ⟨harmed₀, .inl ⟨hset, hattempts, hfailures⟩⟩

section Disarming

variable {allowed : (op : sdk.Op) → sdk.Outcome op → Device → Prop}

/-- The end of `disarm`: the timers are cleared when they are confirmed closed, and the failure
counts when not. -/
theorem settleDisarm_spec {d₀ d : Device} (h : SameTimer d₀ d) {confirmedClosed : Bool}
    (hclosed : confirmedClosed = true → d.shutdownArmed = false) :
    Prog.wp allowed (Disarming d₀) (fun _ => Disarming d₀) (settleDisarm confirmedClosed) d := by
  have hd := Disarming.of_sameTimer h
  rw [settleDisarm]
  split_ifs with hconfirmed
  · have hcleared : Disarming d₀ d.clearPowerCycleTimers :=
      .of_sameTimer (.of_not_armed (hclosed hconfirmed))
    exact ⟨hd, fun _ _ => ⟨hcleared, hcleared⟩⟩
  · have hcounted : Disarming d₀ d.recordPowerCycleDisarmFailure.1 := by
      intro harmed
      obtain ⟨harmed₀, -, hattempts, hfailures, -⟩ := h harmed
      exact ⟨harmed₀, .inr ⟨congrArg (· + 1) hfailures, .inl ⟨rfl, congrArg (· + 1) hattempts⟩⟩⟩
    refine ⟨hd, fun _ _ => ?_⟩
    change Prog.wp allowed _ _
      (if maxDisarmAttempts ≤ d.disarmAttempts + 1 then clearPowerCycleTimers else pure ())
      d.recordPowerCycleDisarmFailure.1
    split_ifs with hlimit
    · have hcleared : Disarming d₀ d.recordPowerCycleDisarmFailure.1.clearPowerCycleTimers := by
        intro harmed
        obtain ⟨harmed₀, -, hattempts, hfailures, -⟩ := h harmed
        exact ⟨harmed₀, .inr ⟨congrArg (· + 1) hfailures, .inr (hattempts ▸ hlimit)⟩⟩
      exact ⟨hcounted, fun _ _ => ⟨hcleared, hcleared⟩⟩
    · exact ⟨hcounted, hcounted⟩

/-- What `disarm` does to a device. -/
theorem disarm_spec (d₀ : Device) :
    Prog.wp allowed (Disarming d₀) (fun _ => Disarming d₀) disarm d₀ := by
  have hd₀ : Disarming d₀ d₀ := .of_sameTimer (.refl d₀)
  rw [disarm]
  refine ⟨hd₀, fun (proxy : Bool) _ => ?_⟩
  cases proxy with
  | false => exact ⟨hd₀, fun _ _ => ⟨hd₀, hd₀⟩⟩
  | true =>
    refine ⟨hd₀, fun ((ret, closes) : Option Int × Bool) _ => ?_⟩
    have hsame := sameTimer_closeTimingShutdown ret closes d₀
    refine ⟨.of_sameTimer hsame, fun ((ret', closes') : Option Int × Bool) _ => ?_⟩
    have hsame' := hsame.trans (sameTimer_closeTimingStartup ret' closes' _)
    change Prog.wp allowed (Disarming d₀) (fun _ => Disarming d₀)
      (settleDisarm (!(ret.isNone || ret'.isNone) && codeOf ret = 0 && codeOf ret' = 0) >>=
        fun _ => record .powerCycleClosed)
      ((d₀.closeTimingShutdown ret closes).closeTimingStartup ret' closes')
    rw [Prog.wp_bind]
    refine Prog.wp_mono (settleDisarm_spec hsame' fun hconfirmed => ?_) ?_
    · simp only [Bool.and_eq_true, decide_eq_true_iff] at hconfirmed
      rw [shutdownArmed_closeTimingStartup]
      exact not_armed_closeTimingShutdown (.inr (codeOf_eq_zero_iff.mp hconfirmed.1.2))
    · exact fun _ d hd _ => ⟨hd, fun _ _ => ⟨hd, hd⟩⟩

end Disarming

/-! ### Every run -/

/-- The shutdown timer has an owner: the journal knows of it, and has not counted more failures
than there were, or there were enough of them. -/
def Owned (d : Device) : Prop :=
  d.shutdownArmed = true →
    d.powerCycleTimersSet = true ∧ d.disarmAttempts ≤ d.failures ∨ maxDisarmAttempts ≤ d.failures

/-- What `arm` leaves is owned. -/
theorem Owned.of_arranged {d₀ d : Device} (h : Owned d₀) (hd : SameTimer d₀ d ∨ Marked d) :
    Owned d := by
  intro harmed
  rcases hd with hsame | ⟨hset, hattempts⟩
  · obtain ⟨harmed₀, hset, hattempts, hfailures, -⟩ := hsame harmed
    rw [hset, hattempts, hfailures]
    exact h harmed₀
  · exact .inl ⟨hset, by omega⟩

/-- And what `disarm` leaves. -/
theorem Owned.of_disarming {d₀ d : Device} (h : Owned d₀) (hd : Disarming d₀ d) : Owned d := by
  intro harmed
  obtain ⟨harmed₀, ⟨hset, hattempts, hfailures⟩ | ⟨hfailures, hcounted⟩⟩ := hd harmed
  · rw [hset, hattempts, hfailures]
    exact h harmed₀
  · rcases h harmed₀ with ⟨-, hle⟩ | hle
    · rcases hcounted with ⟨hset, hattempts⟩ | hlimit
      · exact .inl ⟨hset, by omega⟩
      · exact .inr (by omega)
    · exact .inr (by omega)

/-- A kill does not come between the opening of the shutdown timer and the next step that writes
the journal or confirms the timer closed, unless the journal says already that the timers are set,
with no failure counted. -/
def KilledOwned (d : Device) : Prop := d.opening = true → d.shutdownArmed = true → Marked d

/-- `openTimingShutdown` does not fail while the shutdown timer is armed. -/
def OpensAnew (op : sdk.Op) (outcome : sdk.Outcome op) (d : Device) : Prop :=
  match op, outcome with
  | .openTimingShutdown, ret => ret = some 0 ∨ d.shutdownArmed = false
  | _, _ => True

/-- The runs whose kills come where a timer has an owner. -/
def ownership : Contract client where
  inv := Owned
  allowed _ _ _ := True
  killable := KilledOwned
  post _ _ _ := True

/-- All runs. -/
def arming : Contract client where
  inv _ := True
  allowed _ _ _ := True
  killable _ := True
  post
    | .arm, outcome, d => outcome = ArmOutcome.armed →
        d.shutdownArmed = true ∧ d.startupArmed = true ∧ d.powerCycleTimersSet = true
    | .disarm, _, _ => True

/-- The runs whose shutdown timers are opened anew. -/
def refusal : Contract client where
  inv _ := True
  allowed := OpensAnew
  killable _ := True
  post
    | .arm, outcome, d => outcome = ArmOutcome.refusedSafe → d.shutdownArmed = false
    | .disarm, _, _ => True

/-- Every call keeps the ownership. -/
theorem ownership_met : ownership.Met := by
  rintro (_ | _) d₀ hd₀
  · have hcrash : ∀ d, Arming d₀ d → ownership.crash d := by
      rintro d (hsame | ⟨hopening, -⟩ | hmarked) hkill
      · exact Owned.of_arranged hd₀ (.inl hsame)
      · exact fun harmed => Owned.of_arranged hd₀ (.inr (hkill hopening harmed)) harmed
      · exact Owned.of_arranged hd₀ (.inr hmarked)
    refine Prog.wp_mono (Prog.wp_mono_crash (arm_spec d₀) hcrash) fun _ d _ hd => ?_
    exact ⟨Owned.of_arranged hd₀ hd.owned, trivial⟩
  · have hcrash : ∀ d, Disarming d₀ d → ownership.crash d := fun _ hd _ =>
      Owned.of_disarming hd₀ hd
    refine Prog.wp_mono (Prog.wp_mono_crash (disarm_spec d₀) hcrash) fun _ d _ hd => ?_
    exact ⟨Owned.of_disarming hd₀ hd, trivial⟩

/-- And `arm` its own promise. -/
theorem arming_met : arming.Met := by
  rintro (_ | _) d₀ -
  · have hcrash : ∀ d, Arming d₀ d → arming.crash d := fun _ _ _ => trivial
    refine Prog.wp_mono (Prog.wp_mono_crash (arm_spec d₀) hcrash) fun _ d _ hd => ?_
    exact ⟨trivial, hd.armed⟩
  · have hcrash : ∀ d, Disarming d₀ d → arming.crash d := fun _ _ _ => trivial
    refine Prog.wp_mono (Prog.wp_mono_crash (disarm_spec d₀) hcrash) fun _ _ _ _ => ?_
    exact ⟨trivial, trivial⟩

/-- And its refusals theirs. -/
theorem refusal_met : refusal.Met := by
  rintro (_ | _) d₀ -
  · have hcrash : ∀ d, Arming d₀ d → refusal.crash d := fun _ _ _ => trivial
    refine Prog.wp_mono (Prog.wp_mono_crash (arm_spec d₀) hcrash) fun _ d _ hd => ?_
    refine ⟨trivial, fun hsafe => (hd.safe hsafe).resolve_right ?_⟩
    rintro ⟨harmed, ret, hret, hopen⟩
    rcases hopen with hopen | hopen
    · exact hret hopen
    · exact absurd (harmed.symm.trans hopen) (by decide)
  · have hcrash : ∀ d, Disarming d₀ d → refusal.crash d := fun _ _ _ => trivial
    refine Prog.wp_mono (Prog.wp_mono_crash (disarm_spec d₀) hcrash) fun _ _ _ _ => ?_
    exact ⟨trivial, trivial⟩

/-- At rest, an armed shutdown timer is known to the journal or enough disarms have failed, in every
run whose kills leave the timers an owner; `arm` reports both timers armed only when they are, with
the flag set, in every run; and it reports a safe refusal only with the shutdown timer not armed,
in every run in which the timer is not opened again in vain. -/
theorem timers_owned (run : List (Crash.Label client)) :
    (Run.Along Crash.step ownership.Considers initial run →
      (Run.exec Crash.step initial run).process.AtRest →
      (Run.exec Crash.step initial run).store.shutdownArmed = true →
        (Run.exec Crash.step initial run).store.powerCycleTimersSet = true ∨
          maxDisarmAttempts ≤ (Run.exec Crash.step initial run).store.failures) ∧
    ((Run.exec Crash.step initial run).process = .returned Call.arm ArmOutcome.armed →
      (Run.exec Crash.step initial run).store.shutdownArmed = true ∧
        (Run.exec Crash.step initial run).store.startupArmed = true ∧
        (Run.exec Crash.step initial run).store.powerCycleTimersSet = true) ∧
    (Run.Along Crash.step refusal.Considers initial run →
      (Run.exec Crash.step initial run).process = .returned Call.arm ArmOutcome.refusedSafe →
      (Run.exec Crash.step initial run).store.shutdownArmed = false) := by
  refine ⟨fun hrun hrest harmed => ?_, fun hreturned => ?_, fun hrun hreturned => ?_⟩
  · have hinitial : ownership.Sound initial := fun h => absurd h Bool.false_ne_true
    have howned := (Contract.sound ownership_met hinitial hrun).inv_of_atRest hrest
    exact (howned harmed).imp_left And.left
  · have hrun : Run.Along Crash.step arming.Considers initial run :=
      Run.along_of_forall (Contract.considers_of_forall (fun _ _ _ => trivial) fun _ => trivial)
        initial run
    exact (Contract.sound arming_met (s := initial) trivial hrun).post_of_returned hreturned rfl
  · exact (Contract.sound refusal_met (s := initial) trivial hrun).post_of_returned hreturned rfl

/-- The outcomes of the calls on the timers, and the others as they should be. -/
def outcomes (openShutdown openStartup : Option Int)
    (closeShutdown closeStartup : Option Int × Bool) :
    (op : Op) → Outcome op
  | .serviceBinder => true
  | .openTimingShutdown => openShutdown
  | .openTimingStartup => openStartup
  | .pbsGetTimingShutDownStatusTwo => some ""
  | .pbsGetTimingStartupStatusTwo => some ""
  | .closeTimingShutdown => closeShutdown
  | .closeTimingStartup => closeStartup
  | .sleep => ()
  | .record _ => ()
  | .markPowerCycleTimersSet => ()
  | .recordPowerCycleDisarmFailure => ()
  | .clearPowerCycleTimers => ()

/-- The timers open, and do not close. -/
def opens : Crash.Label client :=
  .perform (outcomes (some 0) (some 0) (some 1, false) (none, false))

/-- The shutdown timer does not open, nor close. -/
def shutdownFails : Crash.Label client :=
  .perform (outcomes (some 1) (some 0) (some 1, false) (some 0, true))

/-- The timers are armed, and a process is killed while it disarms them. -/
def killedDisarming : List (Crash.Label client) :=
  [.start, .begin .arm, opens, opens, opens, opens, opens, opens, opens, .kill, .start,
    .begin .disarm, opens, opens, .kill]

/-- The run of a `disarm` that is killed. -/
theorem timers_owned_killed :
    (Run.exec Crash.step initial killedDisarming).store.shutdownArmed = true ∧
      ((Run.exec Crash.step initial killedDisarming).store.powerCycleTimersSet = true ∨
        maxDisarmAttempts ≤ (Run.exec Crash.step initial killedDisarming).store.failures) := by
  have hconsidered : Run.Along Crash.step ownership.Considers initial killedDisarming :=
    ⟨trivial, trivial, trivial, trivial, trivial, trivial, trivial, trivial, trivial, trivial,
      trivial, trivial, trivial, trivial, fun h => absurd h Bool.false_ne_true, trivial⟩
  exact ⟨rfl, (timers_owned killedDisarming).1 hconsidered trivial rfl⟩

/-- The process is killed after it has opened the shutdown timer. -/
def killedArming : List (Crash.Label client) := [.start, .begin .arm, opens, .kill]

/-- Both timers are armed, and `arm` is called again and cannot open the shutdown timer. -/
def armedTwice : List (Crash.Label client) :=
  [.start, .begin .arm, opens, opens, opens, opens, opens, opens, opens, .begin .arm,
    shutdownFails, shutdownFails, shutdownFails, shutdownFails, shutdownFails, shutdownFails]

/-- A killed process leaves a shutdown timer behind that nobody knows of; and a refusal is reported
as safe with the shutdown timer armed. -/
theorem shutdown_left_armed :
    ((Run.exec Crash.step initial killedArming).process.AtRest ∧
      (Run.exec Crash.step initial killedArming).store.shutdownArmed = true ∧
      (Run.exec Crash.step initial killedArming).store.powerCycleTimersSet = false ∧
      (Run.exec Crash.step initial killedArming).store.failures < maxDisarmAttempts) ∧
    (Run.exec Crash.step initial armedTwice).process = .returned Call.arm ArmOutcome.refusedSafe ∧
      (Run.exec Crash.step initial armedTwice).store.shutdownArmed = true :=
  ⟨⟨trivial, rfl, rfl, by decide⟩, rfl, rfl⟩

end StylyMdm.Client.PowerCycle
