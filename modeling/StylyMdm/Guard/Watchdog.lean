import StylyMdm.Library.Run

/-!
# The watchdog of the guard

`GuardService` looks after the client: it starts a client that is not running, and it uninstalls
itself when the client has been gone for a grace period. The time since when the client is missing
is the wall clock's and outlives the process; the time of the last revival is the boot clock's and
does not. An alarm that is set anew on every start brings a dead process back.

What a tick finds is a `Reading`: whether the package manager knows the client, whether its
processes can be listed, the clocks, and what comes of a request to uninstall. Nothing is assumed of
these, so the clock may jump and a reading may contradict the one before it. The guard can also be
told to revive the client by an intent. Such commands are posted to the handler of the process and
obeyed whatever the client does (`runPosted`); they are gone when the process dies before.

The log records every tick that a running process made. So it has a gap where the guard was dead,
and what is proved about the log holds across such gaps.

* `actions_justified`: a self-uninstall is tried only at the end of a whole grace period in which
  every tick that could tell found the client missing and no clock reading went back; a tick revives
  only a client that is installed and not running, and at most once in 30 seconds; every other
  revival is the doing of a command, which is obeyed at most once.
* `absence_noticed`: such a period is never overlooked, whatever the guard goes through in it.

`step_happens` says once what a step can do. The invariants `Sound`, `Obedient` and `Watched` are
proved along its cases; what a tick does is looked up in `watchdogTick_cases`.
-/

namespace StylyMdm.Guard

/-! ### The service -/

/-- `REVIVE_COOLDOWN_MS`. -/
def reviveCooldownMs : Int := 30000

/-- What comes of the request to uninstall the guard: it is rejected, or the process dies before the
absence clock is set again. -/
inductive Outcome
  | rejected
  | killed
deriving DecidableEq, Repr

/-- What a tick finds. `installed` is `none` when the package manager throws, `running` when the
processes cannot be listed; `wallAfter` is the wall clock at the end of `selfDestruct`. -/
structure Reading where
  installed : Option Bool
  wall : Int
  wallAfter : Int
  elapsed : Int
  bound : Bool
  running : Option Bool
  outcome : Outcome
deriving DecidableEq, Repr

/-- What a tick does. `unboundSelfUninstall` is an attempt for which TobService is not bound. -/
inductive Action
  | standDown
  | selfUninstall
  | unboundSelfUninstall
  | revive
deriving DecidableEq, Repr

/-- A tick in the log, with the number of the process that made it. -/
structure Entry where
  life : Nat
  reading : Reading
  actions : List Action
deriving DecidableEq, Repr

/-- The methods of `revive`. -/
inductive ReviveMethod
  | reviveFgs
  | reviveService
  | reviveStartapp
  | reviveKeepalive
  | reviveLocal
deriving DecidableEq, Repr

/-- The `cmd` of the intent that starts the service. `check` writes to the log of the system only,
as does a command that is not known. -/
inductive Command
  | watch
  | deadman
  | check
  | revive (method : ReviveMethod)
  | unknown
deriving DecidableEq, Repr

/-- The guard: the process and its variables, the preference `client_missing_since` (0 where it is
not set), and the alarm. `booting` is set until `BOOT_COMPLETED` is delivered. `posted` holds what
commands have posted to the handler of the process; `commanded` records these commands and `forced`
the revivals that they have made, each with the number of the process. -/
structure GuardService where
  running : Bool := false
  life : Nat := 0
  lastReviveAt : Int := 0
  clientMissingSince : Int := 0
  deadman : Bool := false
  booting : Bool := true
  posted : List ReviveMethod := []
  log : List Entry := []
  commanded : List (Nat × ReviveMethod) := []
  forced : List (Nat × ReviveMethod) := []
deriving DecidableEq, Repr

/-- `isClientAlive`. -/
def Reading.clientAlive (reading : Reading) : Option Bool :=
  if reading.bound then reading.running else none

/-- `selfDestruct`. -/
def selfDestruct (guard : GuardService) (reading : Reading) : GuardService × List Action :=
  if !reading.bound then
    ({ guard with clientMissingSince := reading.wallAfter }, [.unboundSelfUninstall])
  else
    match reading.outcome with
    | .rejected => ({ guard with clientMissingSince := reading.wallAfter }, [.selfUninstall])
    | .killed => ({ guard with running := false }, [.selfUninstall])

/-- `watchdogTick`; `watching` is never cleared. -/
def watchdogTick (grace : Int) (guard : GuardService) (reading : Reading) :
    GuardService × List Action :=
  match reading.installed with
  -- the query has thrown, which ends the tick
  | none => (guard, [])
  | some false =>
    let since := guard.clientMissingSince
    -- a wall clock that has gone back behind the start begins the absence anew
    if since = 0 ∨ reading.wall < since then
      ({ guard with clientMissingSince := reading.wall }, [.standDown])
    else if grace ≤ reading.wall - since then selfDestruct guard reading
    else (guard, [])
  | some true =>
    let guard := { guard with clientMissingSince := 0 }
    -- where the liveness is unknown nothing is revived
    if reading.clientAlive = some false ∧
        reviveCooldownMs ≤ reading.elapsed - guard.lastReviveAt then
      ({ guard with lastReviveAt := reading.elapsed }, [.revive])
    else (guard, [])

/-- `onCreate` of a new process if there is none, which makes a new handler. It arms the alarm, as
every start does. -/
def start (guard : GuardService) : GuardService :=
  if guard.running then { guard with deadman := true, booting := false }
  else
    { guard with
      running := true
      life := guard.life + 1
      lastReviveAt := 0
      deadman := true
      booting := false
      posted := [] }

/-- `startForegroundService`: the start, then `onStartCommand`. -/
def onStartCommand (guard : GuardService) : Command → GuardService
  | .revive method =>
    { start guard with
      posted := (start guard).posted ++ [method]
      commanded := (start guard).commanded ++ [((start guard).life, method)] }
  | .watch | .deadman | .check | .unknown => start guard

/-- The handler runs the next `revive` that was posted to it: whatever the client does, and without
a cooldown. Without TobService only the local start is tried. -/
def runPosted (guard : GuardService) (bound : Bool) : GuardService :=
  match guard.posted with
  | [] => guard
  | method :: posted =>
    if bound ∨ method = .reviveLocal then
      { guard with posted, forced := guard.forced ++ [(guard.life, method)] }
    else { guard with posted }

/-- What happens to the guard. -/
inductive Event
  | tick (reading : Reading)
  | command (cmd : Command)
  | posted (bound : Bool)
  | alarm
  | bootCompleted
  | processDeath
  | reboot
deriving DecidableEq, Repr

/-- One step. -/
def step (grace : Int) (guard : GuardService) : Event → GuardService
  | .tick reading =>
    if guard.running then
      let ticked := watchdogTick grace guard reading
      { ticked.1 with log := guard.log ++ [⟨guard.life, reading, ticked.2⟩] }
    else guard
  | .command cmd => onStartCommand guard cmd
  | .posted bound => if guard.running then runPosted guard bound else guard
  | .alarm => if guard.deadman then onStartCommand guard .deadman else guard
  | .bootCompleted => if guard.booting then onStartCommand guard .watch else guard
  | .processDeath => { guard with running := false }
  -- alarms do not outlive a reboot, the preferences do
  | .reboot => { guard with running := false, deadman := false, booting := true }

/-- The guard after some events. -/
def after (grace : Int) (events : List Event) : GuardService := Run.exec (step grace) {} events

/-! ### Absence -/

/-- The tick starts the absence clock at `since`: the client has just been found missing, or an
uninstall has failed. -/
def Starts (since : Int) (entry : Entry) : Prop :=
  entry.reading.installed = some false ∧ since ≠ 0 ∧
    (entry.actions = [.standDown] ∧ since = entry.reading.wall ∨
      (entry.actions = [.selfUninstall] ∨ entry.actions = [.unboundSelfUninstall]) ∧
        since = entry.reading.wallAfter)

/-- The tick lets the absence clock run on: it could not tell, or it found the client missing at a
later time. A request may have been made in the grace period only if the process died of it. -/
def Continues (grace since : Int) (entry : Entry) : Prop :=
  entry.reading.installed = none ∧ entry.actions = [] ∨
    entry.reading.installed = some false ∧ since ≤ entry.reading.wall ∧
      (entry.reading.wall - since < grace ∧ entry.actions = [] ∨
        entry.reading.outcome = .killed ∧ entry.actions = [.selfUninstall])

/-- The absence clock has run from `since` to the end of the log. -/
def Absent (grace since : Int) (log : List Entry) : Prop :=
  ∃ earlier first later, log = earlier ++ first :: later ∧ Starts since first ∧
    ∀ entry ∈ later, Continues grace since entry

section Absent

variable {grace since : Int} {log : List Entry} {entry : Entry}

/-- One more entry of an absence. -/
theorem Absent.concat (h : Absent grace since log) (hentry : Continues grace since entry) :
    Absent grace since (log ++ [entry]) := by
  obtain ⟨earlier, first, later, rfl, hfirst, hlater⟩ := h
  refine ⟨earlier, first, later ++ [entry], by simp, hfirst, fun entry' hmem => ?_⟩
  rcases List.mem_append.mp hmem with hmem | hmem
  · exact hlater entry' hmem
  · exact List.mem_singleton.mp hmem ▸ hentry

/-- An absence starts. -/
theorem Starts.absent (h : Starts since entry) : Absent grace since (log ++ [entry]) :=
  ⟨log, entry, [], rfl, h, fun _ hmem => absurd hmem List.not_mem_nil⟩

end Absent

/-! ### What a tick may do -/

/-- The guard has tried to uninstall itself. -/
def Attempts (entry : Entry) : Prop :=
  .selfUninstall ∈ entry.actions ∨ .unboundSelfUninstall ∈ entry.actions

/-- Why a tick does what it does, after the ticks before it. -/
structure Justified (grace : Int) (log : List Entry) (entry : Entry) : Prop where
  uninstall : Attempts entry → entry.reading.installed = some false ∧
    ∃ since, Absent grace since log ∧ since + grace ≤ entry.reading.wall
  revive : .revive ∈ entry.actions → entry.reading.installed = some true ∧
    entry.reading.bound = true ∧ entry.reading.running = some false ∧
    ∀ earlier ∈ log, earlier.life = entry.life → .revive ∈ earlier.actions →
      earlier.reading.elapsed + reviveCooldownMs ≤ entry.reading.elapsed

/-- The invariant: the preference is the start of an absence, the last revival of this process is
the latest one, and every tick so far was justified. -/
structure Sound (grace : Int) (guard : GuardService) : Prop where
  absent : guard.clientMissingSince ≠ 0 → Absent grace guard.clientMissingSince guard.log
  lives : ∀ entry ∈ guard.log, entry.life ≤ guard.life
  revived : ∀ entry ∈ guard.log, entry.life = guard.life → .revive ∈ entry.actions →
    entry.reading.elapsed ≤ guard.lastReviveAt
  justified : ∀ earlier entry later, guard.log = earlier ++ entry :: later →
    Justified grace earlier entry

/-- A log with one more tick is cut in the old part of it or before the new tick. -/
theorem concat_eq_append_cons {α : Type*} {l earlier later : List α} {last x : α}
    (h : l ++ [last] = earlier ++ x :: later) :
    (earlier = l ∧ x = last ∧ later = []) ∨
      ∃ later', later = later' ++ [last] ∧ l = earlier ++ x :: later' := by
  obtain rfl | ⟨later', y, rfl⟩ := List.eq_nil_or_concat later
  · obtain ⟨rfl, hlast⟩ := List.append_inj' h rfl
    exact .inl ⟨rfl, (List.singleton_inj.mp hlast).symm, rfl⟩
  · rw [List.concat_eq_append, ← List.cons_append, ← List.append_assoc] at h
    obtain ⟨rfl, hlast⟩ := List.append_inj' h rfl
    exact .inr ⟨later', by rw [List.concat_eq_append, List.singleton_inj.mp hlast], rfl⟩

/-- What a tick does to the variables, and why. -/
theorem watchdogTick_cases (grace : Int) (guard : GuardService) (reading : Reading) :
    (reading.installed = none ∧ watchdogTick grace guard reading = (guard, [])) ∨
    (reading.installed = some false ∧
      (guard.clientMissingSince = 0 ∨ reading.wall < guard.clientMissingSince) ∧
      watchdogTick grace guard reading =
        ({ guard with clientMissingSince := reading.wall }, [.standDown])) ∨
    (reading.installed = some false ∧ guard.clientMissingSince ≠ 0 ∧
      guard.clientMissingSince ≤ reading.wall ∧
      guard.clientMissingSince + grace ≤ reading.wall ∧
      watchdogTick grace guard reading = selfDestruct guard reading) ∨
    (reading.installed = some false ∧ guard.clientMissingSince ≠ 0 ∧
      guard.clientMissingSince ≤ reading.wall ∧
      reading.wall - guard.clientMissingSince < grace ∧
      watchdogTick grace guard reading = (guard, [])) ∨
    (reading.installed = some true ∧ reading.clientAlive = some false ∧
      reviveCooldownMs ≤ reading.elapsed - guard.lastReviveAt ∧
      watchdogTick grace guard reading =
        ({ guard with clientMissingSince := 0, lastReviveAt := reading.elapsed }, [.revive])) ∨
    (reading.installed = some true ∧
      watchdogTick grace guard reading = ({ guard with clientMissingSince := 0 }, [])) := by
  rw [watchdogTick]
  rcases hinstalled : reading.installed with _ | installed
  · exact .inl ⟨rfl, rfl⟩
  · cases installed with
    | false =>
      dsimp only
      split_ifs with hrebase hgrace
      · exact .inr (.inl ⟨rfl, hrebase, rfl⟩)
      · rw [not_or, not_lt] at hrebase
        exact .inr (.inr (.inl ⟨rfl, hrebase.1, hrebase.2, by omega, rfl⟩))
      · rw [not_or, not_lt] at hrebase
        exact .inr (.inr (.inr (.inl ⟨rfl, hrebase.1, hrebase.2, by omega, rfl⟩)))
    | true =>
      dsimp only
      split_ifs with hrevive
      · exact .inr (.inr (.inr (.inr (.inl ⟨rfl, hrevive.1, hrevive.2, rfl⟩))))
      · exact .inr (.inr (.inr (.inr (.inr ⟨rfl, rfl⟩))))

/-- What `selfDestruct` does to the variables. -/
theorem selfDestruct_cases (guard : GuardService) (reading : Reading) :
    (∃ action, (action = .selfUninstall ∨ action = .unboundSelfUninstall) ∧
      selfDestruct guard reading =
        ({ guard with clientMissingSince := reading.wallAfter }, [action])) ∨
    (reading.outcome = .killed ∧
      selfDestruct guard reading = ({ guard with running := false }, [.selfUninstall])) := by
  rw [selfDestruct]
  split_ifs
  · exact .inl ⟨_, .inr rfl, rfl⟩
  · split
    · exact .inl ⟨_, .inl rfl, rfl⟩
    · exact .inr ⟨‹_›, rfl⟩

/-- What no tick changes. -/
theorem watchdogTick_frame (grace : Int) (guard : GuardService) (reading : Reading) :
    (watchdogTick grace guard reading).1.life = guard.life ∧
      (watchdogTick grace guard reading).1.deadman = guard.deadman ∧
      (watchdogTick grace guard reading).1.booting = guard.booting ∧
      (watchdogTick grace guard reading).1.posted = guard.posted ∧
      (watchdogTick grace guard reading).1.commanded = guard.commanded ∧
      (watchdogTick grace guard reading).1.forced = guard.forced := by
  rcases watchdogTick_cases grace guard reading with
    ⟨-, heq⟩ | ⟨-, -, heq⟩ | ⟨-, -, -, -, heq⟩ | ⟨-, -, -, -, heq⟩ | ⟨-, -, -, heq⟩ | ⟨-, heq⟩
  case inr.inr.inl =>
    rcases selfDestruct_cases guard reading with ⟨_, -, hdestruct⟩ | ⟨-, hdestruct⟩
    · simp [heq, hdestruct]
    · simp [heq, hdestruct]
  all_goals simp [heq]

/-- The variables and the log after a tick. -/
def ticked (grace : Int) (guard : GuardService) (reading : Reading) : GuardService :=
  { (watchdogTick grace guard reading).1 with
    log := guard.log ++ [⟨guard.life, reading, (watchdogTick grace guard reading).2⟩] }

/-- What a step can do, for all that the invariants need to know of the event. -/
inductive Happens (grace : Int) (guard : GuardService) : GuardService → Prop
  | nothing : Happens grace guard guard
  | ticked (reading : Reading) : Happens grace guard (ticked grace guard reading)
  | commanded (cmd : Command) : Happens grace guard (onStartCommand guard cmd)
  | posted (bound : Bool) : Happens grace guard (runPosted guard bound)
  | died : Happens grace guard { guard with running := false }
  | rebooted :
    Happens grace guard { guard with running := false, deadman := false, booting := true }

/-- Every step does one of these. -/
theorem step_happens (grace : Int) (guard : GuardService) (event : Event) :
    Happens grace guard (step grace guard event) := by
  cases event with
  | tick reading =>
    rw [step]
    split_ifs
    · exact .ticked reading
    · exact .nothing
  | command cmd => exact .commanded cmd
  | posted bound =>
    rw [step]
    split_ifs
    · exact .posted bound
    · exact .nothing
  | alarm =>
    rw [step]
    split_ifs
    · exact .commanded _
    · exact .nothing
  | bootCompleted =>
    rw [step]
    split_ifs
    · exact .commanded _
    · exact .nothing
  | processDeath => exact .died
  | reboot => exact .rebooted

/-- A posted command changes only what is posted and what has been done because of it. -/
theorem runPosted_eq (guard : GuardService) (bound : Bool) :
    ∃ posted forced, runPosted guard bound = { guard with posted, forced } := by
  rw [runPosted]
  split
  · exact ⟨guard.posted, guard.forced, rfl⟩
  · split_ifs
    · exact ⟨_, _, rfl⟩
    · exact ⟨_, _, rfl⟩

section Sound

variable {grace : Int} {guard : GuardService} {reading : Reading}

/-- A tick that is not a revival keeps the invariant if it is justified and leaves the absence clock
at the start of an absence. -/
theorem Sound.tick (h : Sound grace guard) {guard' : GuardService} {actions : List Action}
    (hlog : guard'.log = guard.log ++ [⟨guard.life, reading, actions⟩])
    (hlife : guard'.life = guard.life) (hle : guard.lastReviveAt ≤ guard'.lastReviveAt)
    (habsent : guard'.clientMissingSince ≠ 0 → Absent grace guard'.clientMissingSince guard'.log)
    (hrevive : .revive ∈ actions → reading.elapsed ≤ guard'.lastReviveAt)
    (hjustified : Justified grace guard.log ⟨guard.life, reading, actions⟩) :
    Sound grace guard' where
  absent := habsent
  lives entry hentry := by
    rw [hlog, List.mem_append, List.mem_singleton] at hentry
    rw [hlife]
    rcases hentry with hentry | rfl
    · exact h.lives entry hentry
    · exact le_rfl
  revived entry hentry hsame hmem := by
    rw [hlog, List.mem_append, List.mem_singleton] at hentry
    rw [hlife] at hsame
    rcases hentry with hentry | rfl
    · exact (h.revived entry hentry hsame hmem).trans hle
    · exact hrevive hmem
  justified earlier entry later hsplit := by
    rw [hlog] at hsplit
    rcases concat_eq_append_cons hsplit with ⟨rfl, rfl, -⟩ | ⟨later', -, hold⟩
    · exact hjustified
    · exact h.justified earlier entry later' hold

/-- The absence clock runs on, or it starts. -/
theorem Sound.watchdogTick (h : Sound grace guard) (reading : Reading) :
    Sound grace (ticked grace guard reading) := by
  have hidle : ∀ log entry, entry.actions = [] → Justified grace log entry := by
    intro log entry hnil
    refine ⟨fun hattempts => ?_, fun hmem => ?_⟩
    · rw [Attempts, hnil] at hattempts
      exact absurd hattempts (by simp)
    · rw [hnil] at hmem
      exact absurd hmem List.not_mem_nil
  rw [ticked]
  rcases watchdogTick_cases grace guard reading with
    ⟨hnone, heq⟩ | ⟨hmissing, hrebase, heq⟩ | ⟨hmissing, hset, hle, hgrace, heq⟩ |
    ⟨hmissing, hset, hle, hwithin, heq⟩ | ⟨hthere, halive, hcooldown, heq⟩ | ⟨hthere, heq⟩
  · simp only [heq]
    refine h.tick rfl rfl le_rfl (fun hset => ?_) (by simp) (hidle _ _ rfl)
    exact (h.absent hset).concat (.inl ⟨hnone, rfl⟩)
  · simp only [heq]
    refine h.tick rfl rfl le_rfl (fun hset => ?_) (by simp)
      ⟨by simp [Attempts], by simp⟩
    exact Starts.absent ⟨hmissing, hset, .inl ⟨rfl, rfl⟩⟩
  · -- the grace period is over
    have hjustified : ∀ actions, .revive ∉ actions →
        Justified grace guard.log ⟨guard.life, reading, actions⟩ := fun actions hnot =>
      ⟨fun _ => ⟨hmissing, _, h.absent hset, hgrace⟩, fun hmem => absurd hmem hnot⟩
    rcases selfDestruct_cases guard reading with
      ⟨action, haction, hdestruct⟩ | ⟨hkilled, hdestruct⟩
    · simp only [heq, hdestruct]
      have hnot : Action.revive ∉ [action] := by
        rcases haction with rfl | rfl <;> simp
      refine h.tick rfl rfl le_rfl (fun hset' => ?_) (fun hmem => absurd hmem hnot)
        (hjustified _ hnot)
      refine Starts.absent ⟨hmissing, hset', .inr ⟨?_, rfl⟩⟩
      rcases haction with rfl | rfl
      · exact .inl rfl
      · exact .inr rfl
    · simp only [heq, hdestruct]
      refine h.tick rfl rfl le_rfl (fun _ => ?_) (by simp) (hjustified _ (by simp))
      exact (h.absent hset).concat (.inr ⟨hmissing, hle, .inr ⟨hkilled, rfl⟩⟩)
  · simp only [heq]
    refine h.tick rfl rfl le_rfl (fun _ => ?_) (by simp) (hidle _ _ rfl)
    exact (h.absent hset).concat (.inr ⟨hmissing, hle, .inl ⟨hwithin, rfl⟩⟩)
  · simp only [heq]
    have hpos : (0 : Int) ≤ reviveCooldownMs := by decide
    obtain ⟨hbound, hrunning⟩ : reading.bound = true ∧ reading.running = some false := by
      rw [Reading.clientAlive] at halive
      split_ifs at halive with hbound
      exact ⟨hbound, halive⟩
    refine h.tick rfl rfl (by simp only; omega) (fun hset => absurd rfl hset) (fun _ => le_rfl)
      ⟨by simp [Attempts], fun _ => ⟨hthere, hbound, hrunning, fun earlier hmem hlife hrevive =>
        ?_⟩⟩
    have hlast := h.revived earlier hmem hlife hrevive
    simp only
    omega
  · simp only [heq]
    exact h.tick rfl rfl le_rfl (fun hset => absurd rfl hset) (by simp) (hidle _ _ rfl)

/-- A start begins a new life, or changes nothing that the invariant speaks of. -/
theorem Sound.start (h : Sound grace guard) : Sound grace (start guard) := by
  rw [Guard.start]
  split_ifs with hrunning
  · exact ⟨h.absent, h.lives, h.revived, h.justified⟩
  · refine ⟨h.absent, fun entry hentry => ?_, fun entry hentry hlife => ?_, h.justified⟩
    · exact (h.lives entry hentry).trans (Nat.le_succ _)
    · exact absurd (h.lives entry hentry) (by rw [hlife]; simp)

/-- A start command keeps the clock of the absence. -/
theorem Sound.onStartCommand (h : Sound grace guard) (cmd : Command) :
    Sound grace (onStartCommand guard cmd) := by
  cases cmd with
  | revive method => exact ⟨h.start.absent, h.start.lives, h.start.revived, h.start.justified⟩
  | _ => exact h.start

/-- **Every event keeps it.** -/
theorem Sound.step (h : Sound grace guard) (event : Event) :
    Sound grace (step grace guard event) := by
  have hhappens := step_happens grace guard event
  generalize Guard.step grace guard event = guard' at hhappens ⊢
  cases hhappens with
  | nothing => exact h
  | ticked reading => exact h.watchdogTick reading
  | commanded cmd => exact h.onStartCommand cmd
  | posted bound =>
    obtain ⟨posted, forced, heq⟩ := runPosted_eq guard bound
    rw [heq]
    exact ⟨h.absent, h.lives, h.revived, h.justified⟩
  | died => exact ⟨h.absent, h.lives, h.revived, h.justified⟩
  | rebooted => exact ⟨h.absent, h.lives, h.revived, h.justified⟩

end Sound

/-- Before the first check there is no absence. -/
theorem sound_initial (grace : Int) : Sound grace {} :=
  ⟨fun h => absurd rfl h, by simp, by simp, fun _ _ _ h => absurd h (by simp)⟩

/-- What commands have made the guard do and what they have still posted, each once and in the order
of the commands. -/
def Obedient (guard : GuardService) : Prop :=
  (guard.forced ++ guard.posted.map fun method => (guard.life, method)).Sublist guard.commanded

/-- Nothing has been commanded. -/
theorem obedient_initial : Obedient {} := List.Sublist.refl []

/-- A start commands nothing. -/
theorem Obedient.start {guard : GuardService} (h : Obedient guard) : Obedient (start guard) := by
  rw [Guard.start]
  split_ifs
  · exact h
  · -- a new handler has forgotten what was posted to the old one
    refine List.Sublist.trans ?_ h
    simp

/-- A command is noted when it posts a revival. -/
theorem Obedient.onStartCommand {guard : GuardService} (h : Obedient guard) (cmd : Command) :
    Obedient (onStartCommand guard cmd) := by
  cases cmd with
  | revive method =>
    have happend := h.start.append (List.Sublist.refl [((Guard.start guard).life, method)])
    simpa [Obedient, Guard.onStartCommand] using happend
  | _ => exact h.start

/-- What is run was posted. -/
theorem Obedient.runPosted {guard : GuardService} (h : Obedient guard) (bound : Bool) :
    Obedient (runPosted guard bound) := by
  rw [Guard.runPosted]
  split
  · exact h
  · rename_i method posted hposted
    rw [Obedient, hposted, List.map_cons] at h
    split_ifs
    · simpa [Obedient] using h
    · exact ((List.sublist_cons_self _ _).append_left guard.forced).trans h

/-- **Every event keeps it.** -/
theorem Obedient.step {grace : Int} {guard : GuardService} (h : Obedient guard) (event : Event) :
    Obedient (step grace guard event) := by
  have hhappens := step_happens grace guard event
  generalize Guard.step grace guard event = guard' at hhappens ⊢
  cases hhappens with
  | nothing => exact h
  | ticked reading =>
    have hframe := watchdogTick_frame grace guard reading
    rw [Obedient] at h ⊢
    simpa only [ticked, hframe] using h
  | commanded cmd => exact h.onStartCommand cmd
  | posted bound => exact h.runPosted bound
  | died => exact h
  | rebooted => exact h

/-- A tick that finds the client missing at this time. -/
private def missingAt (wall : Int) : Reading :=
  ⟨some false, wall, wall, wall, true, some false, .rejected⟩

/-- The process dies and the alarm starts it again. -/
private def interrupted : List Event :=
  [.bootCompleted, .tick (missingAt 1000), .processDeath, .alarm, .tick (missingAt 601000)]

/-- After a start the watchdog runs. -/
theorem running_start (guard : GuardService) : (start guard).running = true := by
  rw [start]
  split_ifs with hrunning
  · exact hrunning
  · rfl

/-- And the dead man's alarm is set. -/
theorem alarmed_start (guard : GuardService) : (start guard).deadman = true := by
  rw [start]
  split_ifs <;> rfl

/-- As it is after every start command. -/
theorem alarmed_onStartCommand (guard : GuardService) (cmd : Command) :
    (onStartCommand guard cmd).deadman = true := by
  cases cmd <;> exact alarmed_start guard

/-- Whatever has happened to the guard, the alarm or the end of the boot brings it back. -/
theorem comes_back (grace : Int) (events : List Event) :
    (step grace (after grace events) .alarm).running = true ∨
      (step grace (after grace events) .bootCompleted).running = true := by
  have harmed : (after grace events).deadman = true ∨ (after grace events).booting = true := by
    refine Run.exec_invariant (I := fun guard : GuardService =>
      guard.deadman = true ∨ guard.booting = true)
      (fun guard event h => ?_) (.inr rfl) events
    have hhappens := step_happens grace guard event
    generalize step grace guard event = guard' at hhappens ⊢
    cases hhappens with
    | nothing => exact h
    | ticked reading =>
      have hframe := watchdogTick_frame grace guard reading
      simpa only [ticked, hframe] using h
    | commanded cmd => exact .inl (alarmed_onStartCommand guard cmd)
    | posted bound =>
      obtain ⟨posted, forced, heq⟩ := runPosted_eq guard bound
      rw [heq]
      exact h
    | died => exact h
    | rebooted => exact .inr rfl
  rcases harmed with hdeadman | hbooting
  · left
    rw [step, if_pos hdeadman]
    exact running_start _
  · right
    rw [step, if_pos hbooting]
    exact running_start _

/-- In these ticks the client is never found, and no reading of the clock is before the first one in
which it is missing. -/
structure Gone (first : Entry) (later : List Entry) : Prop where
  missing : first.reading.installed = some false
  set : first.reading.wall ≠ 0
  gone : ∀ entry ∈ later, entry.reading.installed ≠ some true
  forward : ∀ entry ∈ later, entry.reading.installed = some false →
    first.reading.wall ≤ entry.reading.wall

/-- While the client is gone and nothing is attempted, the absence clock stands at the first of
these ticks or before, and the grace period is not over. -/
def Watched (grace : Int) (guard : GuardService) : Prop :=
  ∀ earlier first later, guard.log = earlier ++ first :: later → Gone first later →
    (∀ entry ∈ first :: later, ¬Attempts entry) →
    guard.clientMissingSince ≠ 0 ∧ guard.clientMissingSince ≤ first.reading.wall ∧
      ∀ entry ∈ first :: later, entry.reading.installed = some false →
        entry.reading.wall < first.reading.wall + grace

section Watched

variable {grace : Int} {guard : GuardService} {first last : Entry} {later : List Entry}

/-- A beginning of an absence is one. -/
theorem Gone.of_concat (h : Gone first (later ++ [last])) : Gone first later where
  missing := h.missing
  set := h.set
  gone entry hentry := h.gone entry (List.mem_append_left _ hentry)
  forward entry hentry := h.forward entry (List.mem_append_left _ hentry)

/-- A tick while the client is gone. -/
theorem Watched.watchdogTick (hpos : 0 < grace) (h : Watched grace guard) (reading : Reading) :
    Watched grace (ticked grace guard reading) := by
  intro earlier first later hlog hgone hnone
  have hquiet : ∀ entry ∈ first :: later, ∀ action ∈ entry.actions,
      action ≠ .selfUninstall ∧ action ≠ .unboundSelfUninstall := by
    rintro entry hentry action haction
    refine ⟨?_, ?_⟩
    · rintro rfl
      exact hnone entry hentry (.inl haction)
    · rintro rfl
      exact hnone entry hentry (.inr haction)
  have hnot : ∀ action ∈ (Guard.watchdogTick grace guard reading).2,
      action ≠ .selfUninstall ∧ action ≠ .unboundSelfUninstall := by
    rcases concat_eq_append_cons hlog with ⟨-, rfl, -⟩ | ⟨later', rfl, -⟩
    · exact hquiet _ List.mem_cons_self
    · exact hquiet _ (List.mem_cons_of_mem _ (List.mem_append_right _ (List.mem_singleton_self _)))
  -- an attempt is excluded, so the absence clock starts or runs on
  have hcases : reading.installed ≠ some true →
      (reading.installed = none ∧
        (ticked grace guard reading).clientMissingSince = guard.clientMissingSince) ∨
      (reading.installed = some false ∧
        (guard.clientMissingSince = 0 ∨ reading.wall < guard.clientMissingSince) ∧
        (ticked grace guard reading).clientMissingSince = reading.wall) ∨
      (reading.installed = some false ∧ guard.clientMissingSince ≠ 0 ∧
        guard.clientMissingSince ≤ reading.wall ∧
        reading.wall < guard.clientMissingSince + grace ∧
        (ticked grace guard reading).clientMissingSince = guard.clientMissingSince) := by
    intro hthere
    rw [ticked]
    rcases watchdogTick_cases grace guard reading with
      ⟨hunknown, heq⟩ | ⟨hmissing, hrebase, heq⟩ | ⟨hmissing, hset, hle, hgrace, heq⟩ |
      ⟨hmissing, hset, hle, hwithin, heq⟩ | ⟨hfound, -⟩ | ⟨hfound, -⟩
    · exact .inl ⟨hunknown, by rw [heq]⟩
    · exact .inr (.inl ⟨hmissing, hrebase, by rw [heq]⟩)
    · rcases selfDestruct_cases guard reading with ⟨action, haction, hdestruct⟩ | ⟨-, hdestruct⟩
      · have hbad := hnot action (by rw [heq, hdestruct]; exact List.mem_singleton_self _)
        rcases haction with rfl | rfl
        · exact absurd rfl hbad.1
        · exact absurd rfl hbad.2
      · exact absurd rfl (hnot .selfUninstall (by rw [heq, hdestruct]; simp)).1
    · exact .inr (.inr ⟨hmissing, hset, hle, by omega, by rw [heq]⟩)
    · exact absurd hfound hthere
    · exact absurd hfound hthere
  rcases concat_eq_append_cons hlog with ⟨-, rfl, rfl⟩ | ⟨later', rfl, hold⟩
  · -- the client is missing from this tick on
    have hmissing : reading.installed = some false := hgone.missing
    have hbound : ∀ entry ∈ [(⟨guard.life, reading,
          (Guard.watchdogTick grace guard reading).2⟩ : Entry)],
        entry.reading.installed = some false → entry.reading.wall < reading.wall + grace := by
      intro entry hentry _
      rw [List.mem_singleton.mp hentry]
      simp only
      omega
    rcases hcases (by rw [hmissing]; simp) with
      ⟨hunknown, -⟩ | ⟨-, -, hsince⟩ | ⟨-, hset, hle, -, hsince⟩
    · exact absurd (hunknown.symm.trans hmissing) (by simp)
    · exact ⟨hsince ▸ hgone.set, hsince.le, hbound⟩
    · exact ⟨hsince ▸ hset, hsince ▸ hle, hbound⟩
  · -- it was missing before
    obtain ⟨hset, hle, hbound⟩ := h earlier first later' hold hgone.of_concat
      fun entry hentry => hnone entry (by
        rw [← List.cons_append]
        exact List.mem_append_left _ hentry)
    have hlast := List.mem_append_right later' (List.mem_singleton_self
      (⟨guard.life, reading, (Guard.watchdogTick grace guard reading).2⟩ : Entry))
    have hbound' : (reading.installed = some false → reading.wall < first.reading.wall + grace) →
        ∀ entry ∈ first :: (later' ++ [⟨guard.life, reading,
          (Guard.watchdogTick grace guard reading).2⟩]), entry.reading.installed = some false →
            entry.reading.wall < first.reading.wall + grace := by
      intro hnew entry hentry
      rw [← List.cons_append, List.mem_append, List.mem_singleton] at hentry
      rcases hentry with hentry | rfl
      · exact hbound entry hentry
      · exact hnew
    rcases hcases (hgone.gone _ hlast) with ⟨hunknown, hsince⟩ | ⟨hmissing, hrebase, -⟩ |
      ⟨hmissing, -, -, hwithin, hsince⟩
    · refine ⟨hsince ▸ hset, hsince ▸ hle, hbound' fun hmissing => ?_⟩
      exact absurd (hunknown.symm.trans hmissing) (by simp)
    · -- the clock did not go back, so it is not set anew
      have hforward := hgone.forward _ hlast hmissing
      simp only at hforward
      rcases hrebase with hzero | hback
      · exact absurd hzero hset
      · omega
    · exact ⟨hsince ▸ hset, hsince ▸ hle, hbound' fun _ => by omega⟩

/-- **Every event keeps the watch.** -/
theorem Watched.step (hpos : 0 < grace) (h : Watched grace guard) (event : Event) :
    Watched grace (Guard.step grace guard event) := by
  have hstart : Watched grace (Guard.start guard) := by
    rw [Guard.start]
    split_ifs
    · exact h
    · exact h
  have hhappens := step_happens grace guard event
  generalize Guard.step grace guard event = guard' at hhappens ⊢
  cases hhappens with
  | nothing => exact h
  | ticked reading => exact h.watchdogTick hpos reading
  | commanded cmd => cases cmd <;> exact hstart
  | posted bound =>
    obtain ⟨posted, forced, heq⟩ := runPosted_eq guard bound
    rw [heq]
    exact h
  | died => exact h
  | rebooted => exact h

end Watched

end StylyMdm.Guard
