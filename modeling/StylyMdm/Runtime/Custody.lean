import StylyMdm.PushJobs.Live
import StylyMdm.Runtime.System

/-!
# Who looks after a device

A device is in custody of the task that has its lock and has taken its session away: until a new
session is set, this task must leave no row of the device live. `Custody` is the discipline that
says so, with the stages `none` (no lock) and `some (d, owes)` (the lock of `d`; `owes` from the
removal of the session on). While a device has no session, no other task may make one of its rows
live.

Two steps of the source break this: an acceptance that arrives after the session is gone, and a
registration that gives up while a row is live. `Entry.Orderly` says of an entry of the history that
it is not one of them, and the discipline promises nothing for a history with such an entry.

* `Rely` is what a task can count on while it awaits: the session of the device whose lock it has
  stays as it is, nobody else gives it a session, and while there is none the rows of the device are
  frozen (`Store.Frozen`).
* `Move` is what it may do itself: touch the session of a device only under its lock, and leave the
  lock of a device without a session only when the rows are settled.
* `Inv` is what follows for the server: a device without a session is settled, or some task owes it.
* While a task owes a device it awaits the store only, never the wire or a timer. So the debt is
  paid as soon as the store has answered.

The laws that `Library.Coop` asks of a discipline are proved here once; `Quiet` moves are those that
need no argument at all.
-/

namespace StylyMdm.Runtime

open PushJobs Coop

/-! ### Orderly histories -/

/-- The row that an acceptance moves to `downloading`: the answer to a command, or the answer that
the device is busy with this very execution. -/
def acceptance : RuntimeCall → Option (JobId × DeviceId)
  | .transition (.accepted _) jobId deviceId | .transition (.busySame _) jobId deviceId =>
    some (jobId, deviceId)
  | _ => none

/-- The step is not one of those that leave a live row without a session: no acceptance finds its
device without a session and its row still waiting for it, and no registration gives up, without a
session, while a row of its device is live. -/
def Entry.Orderly : Entry → Prop
  | .called store memory call =>
    ∀ jobId deviceId, acceptance call = some (jobId, deviceId) →
      memory.sessions deviceId = none → ∀ row, store.device? jobId deviceId = some row →
        row.state ∉ [DeviceState.dispatching, .reconciling]
  | .wrote _ _ _ => True
  | .dropped store deviceId => store.Settled deviceId

/-- A history of orderly steps. -/
def Orderly (log : List Entry) : Prop := ∀ entry ∈ log, entry.Orderly

/-- A beginning of an orderly history is orderly. -/
theorem Orderly.of_prefix {log log' : List Entry} (h : Orderly log') (hpre : log <+: log') :
    Orderly log := fun entry hentry => h entry (hpre.subset hentry)

/-! ### The discipline -/

/-- How far a task has got: the device whose lock it has, and whether it has taken its session
away. -/
abbrev Stage : Type := Option (DeviceId × Bool)

namespace Custody

/-- The task has the lock its stage speaks of. -/
def Owns (i : Nat) (g : Stage) (s : Server) : Prop :=
  ∀ d owes, g = some (d, owes) → (s.memory.deviceLocks d).head? = some i

/-- What others may do while task `i` awaits at stage `g`. -/
structure Rely (i : Nat) (g : Stage) (s s' : Server) : Prop where
  log : s.log <+: s'.log
  sound : s.store.Sound → s'.store.Sound
  mine : ∀ d session, s'.memory.sessions d = some session → session.ws = i →
    s.memory.sessions d = some session
  kept : ∀ d owes, g = some (d, owes) → s'.memory.sessions d = s.memory.sessions d
  frozen : ∀ d owes, g = some (d, owes) → Orderly s'.log → s.memory.sessions d = none →
    Store.Frozen d s.store s'.store

/-- What task `i` may do, if it has the lock its stage speaks of. -/
structure Move (i : Nat) (s : Server) (g : Stage) (s' : Server) (g' : Stage) : Prop where
  log : s.log <+: s'.log
  sound : s.store.Sound → s'.store.Sound
  fresh : ∀ d session, s'.memory.sessions d = some session →
    s.memory.sessions d = some session ∨ session.ws = i
  locks : ∀ d j, j ≠ i → (s.memory.deviceLocks d).head? = some j →
    (s'.memory.deviceLocks d).head? = some j
  owns : Owns i g' s'
  unheld : ∀ d, (∀ owes, g ≠ some (d, owes)) → s'.memory.sessions d = s.memory.sessions d ∧
    (Orderly s'.log → s.memory.sessions d = none → Store.Frozen d s.store s'.store)
  held : ∀ d owes, g = some (d, owes) → Orderly s'.log → s'.memory.sessions d = none →
    g' = some (d, true) ∨ s'.store.Settled d ∨
      (owes = false ∧ s.memory.sessions d = none ∧ Store.Frozen d s.store s'.store)

/-- What holds when a task starts. A WebSocket that starts has no session yet. -/
structure Entered (task : Task) (i : Nat) (s : Server) (g : Stage) : Prop where
  idle : g = none
  sound : s.store.Sound
  fresh : ∀ registration, task = .socket registration →
    ∀ d session, s.memory.sessions d = some session → session.ws ≠ i

/-- What holds of the server and the stages of `n` tasks: a device without a session is settled, or
some task owes it. -/
structure Inv (s : Server) (g : Nat → Stage) (n : Nat) : Prop where
  sound : s.store.Sound
  owns : ∀ i, Owns i (g i) s
  bound : ∀ i, n ≤ i → g i = none
  sockets : ∀ d session, s.memory.sessions d = some session → session.ws < n
  settled : Orderly s.log → ∀ d, s.memory.sessions d = none →
    s.store.Settled d ∨ ∃ i, g i = some (d, true)

end Custody

open Custody in
/-- The discipline. While a task owes a device, it awaits the store only. -/
def custody : Discipline Server Wait Task Stage where
  idle := none
  rely := Rely
  wait g what := ∀ d, g = some (d, true) → ∃ answered, what = .store answered
  move i s g s' g' := Owns i g s → Move i s g s' g'
  hand _ _ g g' task h := g' = g ∧ h = none ∧ ∃ jobId deviceId, task = .dispatch jobId deviceId
  entry := Entered

namespace Custody

/-- Others may do nothing. -/
theorem Rely.refl (i : Nat) (g : Stage) (s : Server) : Rely i g s s where
  log := List.prefix_refl _
  sound h := h
  mine _ _ h _ := h
  kept _ _ _ := rfl
  frozen d _ _ _ _ := .refl d _

/-- What others may do, they may do in two steps. -/
theorem Rely.trans {i : Nat} {g : Stage} {s s' s'' : Server} (h : Rely i g s s')
    (h' : Rely i g s' s'') : Rely i g s s'' where
  log := h.log.trans h'.log
  sound hs := h'.sound (h.sound hs)
  mine d session hsession hws := h.mine d session (h'.mine d session hsession hws) hws
  kept d owes hg := (h'.kept d owes hg).trans (h.kept d owes hg)
  frozen d owes hg hlog hnone :=
    (h.frozen d owes hg (hlog.of_prefix h'.log) hnone).trans
      (h'.frozen d owes hg hlog ((h.kept d owes hg).trans hnone))

/-- A move keeps the invariant. -/
theorem Move.inv {i n : Nat} {s s' : Server} {g : Nat → Stage} {x : Stage} (hinv : Inv s g n)
    (hi : i < n) (h : Move i s (g i) s' x) : Inv s' (Function.update g i x) n where
  sound := h.sound hinv.sound
  owns j := by
    by_cases hj : j = i
    · subst hj
      rw [Function.update_self]
      exact h.owns
    · rw [Function.update_of_ne hj]
      exact fun d owes hg => h.locks d j hj (hinv.owns j d owes hg)
  bound j hj := by
    rw [Function.update_of_ne (by omega)]
    exact hinv.bound j hj
  sockets d session hsession := by
    rcases h.fresh d session hsession with hold | rfl
    · exact hinv.sockets d session hold
    · exact hi
  settled hlog d hnone := by
    -- another task that owes the device still does
    have hother : ∀ j, j ≠ i → g j = some (d, true) →
        ∃ j, Function.update g i x j = some (d, true) :=
      fun j hj hg => ⟨j, by rw [Function.update_of_ne hj, hg]⟩
    by_cases hheld : ∃ owes, g i = some (d, owes)
    · obtain ⟨owes, hg⟩ := hheld
      rcases h.held d owes hg hlog hnone with hx | hsettled | ⟨rfl, hsession, hfrozen⟩
      · exact .inr ⟨i, by rw [Function.update_self, hx]⟩
      · exact .inl hsettled
      · rcases hinv.settled (hlog.of_prefix h.log) d hsession with hsettled | ⟨j, hj⟩
        · exact .inl (hfrozen.settled hsettled)
        · refine .inr (hother j ?_ hj)
          rintro rfl
          rw [hg] at hj
          exact absurd hj (by simp)
    · obtain ⟨hsame, hfrozen⟩ := h.unheld d fun owes hg => hheld ⟨owes, hg⟩
      rw [hsame] at hnone
      rcases hinv.settled (hlog.of_prefix h.log) d hnone with hsettled | ⟨j, hj⟩
      · exact .inl ((hfrozen hlog hnone).settled hsettled)
      · refine .inr (hother j ?_ hj)
        rintro rfl
        exact hheld ⟨true, hj⟩

/-- A move of one task is tolerated by the others: the lock of a device has one owner. -/
theorem Move.rely {i j n : Nat} {s s' : Server} {g : Nat → Stage} {x : Stage} (hinv : Inv s g n)
    (h : Move i s (g i) s' x) (hj : j ≠ i) : Rely j (g j) s s' := by
  have hunheld : ∀ d owes, g j = some (d, owes) → ∀ owes', g i ≠ some (d, owes') := by
    intro d owes hgj owes' hgi
    have hhead := (hinv.owns j d owes hgj).symm.trans (hinv.owns i d owes' hgi)
    exact hj (by simpa using hhead)
  refine ⟨h.log, h.sound, fun d session hsession hws => ?_, fun d owes hg => ?_,
    fun d owes hg hlog hnone => ?_⟩
  · exact (h.fresh d session hsession).resolve_right fun hself => hj (hws.symm.trans hself)
  · exact (h.unheld d (hunheld d owes hg)).1
  · exact (h.unheld d (hunheld d owes hg)).2 hlog hnone

/-- A task that has not yet started has no stage. -/
theorem Inv.start {n : Nat} {s : Server} {g : Nat → Stage} (hinv : Inv s g n) :
    Inv s g (n + 1) where
  sound := hinv.sound
  owns := hinv.owns
  bound i hi := hinv.bound i (by omega)
  sockets d session hsession := Nat.lt_succ_of_lt (hinv.sockets d session hsession)
  settled := hinv.settled

/-- What holds when a task starts still holds when others have moved before it does. -/
theorem Entered.rely {task : Task} {i : Nat} {s s' : Server} {g : Stage} (h : Entered task i s g)
    (hrely : Rely i g s s') : Entered task i s' g where
  idle := h.idle
  sound := hrely.sound h.sound
  fresh registration htask d session hsession hws :=
    h.fresh registration htask d session (hrely.mine d session hsession hws) hws

/-! ### Quiet moves -/

/-- A change that leaves the store, the sessions and the locks alone. -/
structure Quiet (s s' : Server) : Prop where
  log : s.log <+: s'.log
  store : s'.store = s.store
  sessions : s'.memory.sessions = s.memory.sessions
  deviceLocks : s'.memory.deviceLocks = s.memory.deviceLocks

/-- No change is quiet. -/
theorem Quiet.refl (s : Server) : Quiet s s := ⟨List.prefix_refl _, rfl, rfl, rfl⟩

/-- A quiet change is a move of any task, at its stage. -/
theorem Quiet.move {i : Nat} {s s' : Server} {g : Stage} (h : Quiet s s') (howns : Owns i g s) :
    Move i s g s' g where
  log := h.log
  sound hs := by rwa [h.store]
  fresh d session hsession := .inl (by rwa [h.sessions] at hsession)
  locks d j _ hhead := by rwa [h.deviceLocks]
  owns d owes hg := by
    rw [h.deviceLocks]
    exact howns d owes hg
  unheld d _ := ⟨by rw [h.sessions], fun _ _ => by rw [h.store]; exact .refl d _⟩
  held d owes hg _ hnone := by
    rw [h.sessions] at hnone
    rw [h.store]
    rcases owes with _ | _
    · exact .inr (.inr ⟨rfl, hnone, .refl d _⟩)
    · exact .inl hg

end Custody

end StylyMdm.Runtime
