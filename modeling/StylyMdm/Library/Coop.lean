import Mathlib

/-!
# Cooperative tasks

Programs that run on one thread and give up control only where they await something, as the tasks
of an event loop do. A `Prog` is a tree of such steps: it reads and writes the shared state `σ` in
one piece (`sync`), awaits an answer from outside (`await`), creates another task (`spawn`), or is
done. A `System` has the programs of its tasks, says which answers can arrive, and what can happen
from outside. `Pool.step` is the interleaving semantics: a label resumes one task, which then runs
to its next await, or lets something happen from outside. A label that names a task that is not
there, or an answer that cannot arrive, changes nothing, so every list of labels is a run.

The rules for proving invariants are those of rely and guarantee. A `Discipline` says which changes
of the shared state a task may make (`move`) and which ones it must tolerate while it awaits
(`rely`). Both depend on a **stage**, a value that says how far a task has got and that exists only
in the proof: no program reads it, and a proof may choose its stages as it needs them.

* `Discipline.wp` is the weakest precondition of a program under a discipline. It is computed on
  the program alone, so a proof about a task never speaks of the other tasks. `wp_bind` and
  `wp_mono` are the rules for composition and consequence.
* `Pending` is what is left to say of a suspended task: resumed with any answer, in any state that
  the others may have led to, it goes on as its precondition says.
* `Lawful` collects the laws of a discipline with an invariant: the invariant survives every move,
  and what one task may do is tolerated by the others.
* `Pool.Safe.step` is the soundness theorem: if every task body meets its precondition, and an
  invariant survives every move, then it holds in every state of every run.

What happens from outside may end all tasks at once, which models a process that is killed and
started again: `Response` says so, and only the shared state is taken over.
-/

namespace Coop

/-- A cooperative program: `σ` is the shared state, `α` says what can be awaited and `ρ` what comes
back, `τ` are the tasks it can create, `β` is its result. -/
inductive Prog (σ α : Type) (ρ : α → Type) (τ β : Type) : Type
  | done (value : β)
  | sync (update : σ → σ) (next : σ → Prog σ α ρ τ β)
  | await (what : α) (next : ρ what → Prog σ α ρ τ β)
  | spawn (task : τ) (next : Prog σ α ρ τ β)

namespace Prog

variable {σ α τ β δ : Type} {ρ : α → Type}

/-- Sequential composition. -/
protected def bind : Prog σ α ρ τ β → (β → Prog σ α ρ τ δ) → Prog σ α ρ τ δ
  | .done value, f => f value
  | .sync update next, f => .sync update fun s => (next s).bind f
  | .await what next, f => .await what fun answer => (next answer).bind f
  | .spawn task next, f => .spawn task (next.bind f)

instance : Monad (Prog σ α ρ τ) where
  pure := .done
  bind := Prog.bind

/-- Read the shared state. -/
def get : Prog σ α ρ τ σ := .sync id .done

/-- Change the shared state. -/
def modify (update : σ → σ) : Prog σ α ρ τ Unit := .sync update fun _ => .done ()

/-- Await an answer. -/
def wait (what : α) : Prog σ α ρ τ (ρ what) := .await what .done

/-- Create a task. -/
def create (task : τ) : Prog σ α ρ τ Unit := .spawn task (.done ())

/-- Run to the next await: the new state, the tasks created on the way, and what is left. -/
def run : Prog σ α ρ τ β → σ → σ × List τ × Prog σ α ρ τ β
  | .done value, s => (s, [], .done value)
  | .sync update next, s => (next s).run (update s)
  | .await what next, s => (s, [], .await what next)
  | .spawn task next, s => ((next.run s).1, task :: (next.run s).2.1, (next.run s).2.2)

/-- A program runs until it is done or awaits something. -/
theorem run_left (p : Prog σ α ρ τ β) (s : σ) :
    (∃ value, (p.run s).2.2 = .done value) ∨ ∃ what next, (p.run s).2.2 = .await what next := by
  induction p generalizing s with
  | done value => exact .inl ⟨value, rfl⟩
  | sync update next ih => exact ih s (update s)
  | await what next ih => exact .inr ⟨what, next, rfl⟩
  | spawn task next ih => exact ih s

/-- Does the program await something before it does anything else? -/
def awaits : Prog σ α ρ τ β → Bool
  | .await _ _ => true
  | _ => false

end Prog

/-- What something from outside does: the new state, whether all tasks are gone, and the tasks it
creates. -/
structure Response (σ τ : Type) where
  state : σ
  reset : Bool := false
  tasks : List τ := []

/-- A system of tasks. A body ends with the task it goes on as, if it goes on. -/
structure System (σ α : Type) (ρ : α → Type) (τ ε : Type) where
  body : Nat → τ → Prog σ α ρ τ (Option τ)
  enabled : Nat → σ → (what : α) → ρ what → Bool
  external : ε → σ → Response σ τ

/-- One scheduling decision. `run` is for a task that has not reached an await yet. -/
inductive Label (α : Type) (ρ : α → Type) (ε : Type)
  | run (task : Nat)
  | resume (task : Nat) (what : α) (answer : ρ what)
  | external (event : ε)

/-- The shared state and the suspended tasks. -/
structure Pool (σ α : Type) (ρ : α → Type) (τ : Type) where
  state : σ
  tasks : List (Nat × Prog σ α ρ τ (Option τ)) := []
  nextId : Nat := 0

section Semantics

variable {σ α τ ε : Type} {ρ : α → Type} (sys : System σ α ρ τ ε)

/-- The suspended program of a task. -/
def Pool.program? (pool : Pool σ α ρ τ) (i : Nat) : Option (Prog σ α ρ τ (Option τ)) :=
  pool.tasks.lookup i

/-- Add new tasks. -/
def Pool.create (pool : Pool σ α ρ τ) : List τ → Pool σ α ρ τ
  | [] => pool
  | task :: tasks =>
    Pool.create { pool with
      tasks := pool.tasks ++ [(pool.nextId, sys.body pool.nextId task)]
      nextId := pool.nextId + 1 } tasks

/-- The program a task is left with. -/
def System.after (i : Nat) :
    Prog σ α ρ τ (Option τ) → Option (Prog σ α ρ τ (Option τ))
  | .done none => none
  | .done (some task) => some (sys.body i task)
  | program => some program

/-- Replace the program of a task, or remove the task. -/
def Pool.put (pool : Pool σ α ρ τ) (i : Nat) (program : Option (Prog σ α ρ τ (Option τ))) :
    List (Nat × Prog σ α ρ τ (Option τ)) :=
  pool.tasks.filterMap fun task =>
    if task.1 = i then program.map fun program => (i, program) else some task

/-- Run a task to its next await. -/
def Pool.advance (pool : Pool σ α ρ τ) (i : Nat) (program : Prog σ α ρ τ (Option τ)) :
    Pool σ α ρ τ :=
  Pool.create sys
    { pool with
      state := (program.run pool.state).1
      tasks := pool.put i (sys.after i (program.run pool.state).2.2) }
    (program.run pool.state).2.1

variable [DecidableEq α]

/-- The program a label makes a task run. -/
def Pool.chosen (pool : Pool σ α ρ τ) : Label α ρ ε → Option (Nat × Prog σ α ρ τ (Option τ))
  | .run i =>
    match pool.program? i with
    | some program => if program.awaits then none else some (i, program)
    | none => none
  | .resume i what answer =>
    match pool.program? i with
    | some (.await what' next) =>
      if h : what = what' then
        if sys.enabled i pool.state what answer then some (i, next (h ▸ answer)) else none
      else none
    | _ => none
  | .external _ => none

/-- One step of the pool; a label that is not enabled changes nothing. -/
def Pool.step (pool : Pool σ α ρ τ) (label : Label α ρ ε) : Pool σ α ρ τ :=
  match label with
  | .external event =>
    let response := sys.external event pool.state
    Pool.create sys
      { pool with
        state := response.state
        tasks := if response.reset then [] else pool.tasks } response.tasks
  | label =>
    match pool.chosen sys label with
    | some (i, program) => pool.advance sys i program
    | none => pool

end Semantics

/-! ### Disciplines -/

/-- What tasks may do and must tolerate. `γ` are the stages. `rely i g` relates two states when
others may lead from the first to the second while task `i` awaits at stage `g`, and `wait g` says
what may be awaited there; `move i s g s' g'` allows task `i` to change the state;
`hand i s g g' task h` allows it to create a task that starts at stage `h`; `entry` is the
precondition of a task. A task ends at stage `idle`. -/
structure Discipline (σ α τ γ : Type) where
  idle : γ
  rely : Nat → γ → σ → σ → Prop
  wait : γ → α → Prop
  move : Nat → σ → γ → σ → γ → Prop
  hand : Nat → σ → γ → γ → τ → γ → Prop
  entry : τ → Nat → σ → γ → Prop

section Logic

variable {σ α τ ε γ β δ : Type} {ρ : α → Type} (sys : System σ α ρ τ ε) (D : Discipline σ α τ γ)

/-- The weakest precondition of a program under a discipline. -/
def wp (i : Nat) : Prog σ α ρ τ β → (β → σ → γ → Prop) → σ → γ → Prop
  | .done value, Q, s, g => Q value s g
  | .sync update next, Q, s, g => ∃ g', D.move i s g (update s) g' ∧ wp i (next s) Q (update s) g'
  | .await what next, Q, s, g =>
    D.wait g what ∧
      ∀ s', D.rely i g s s' → ∀ answer, sys.enabled i s' what answer → wp i (next answer) Q s' g
  | .spawn task next, Q, s, g => ∃ g' h, D.hand i s g g' task h ∧ wp i next Q s g'

variable {sys D} {i : Nat} {s : σ} {g : γ}

theorem wp_bind {p : Prog σ α ρ τ β} {f : β → Prog σ α ρ τ δ} {Q : δ → σ → γ → Prop} :
    wp sys D i (p >>= f) Q s g ↔ wp sys D i p (fun b => wp sys D i (f b) Q) s g := by
  change wp sys D i (p.bind f) Q s g ↔ _
  induction p generalizing s g with
  | done value => rfl
  | sync update next ih => exact exists_congr fun g' => and_congr_right fun _ => ih s
  | await what next ih =>
    exact and_congr_right fun _ => forall_congr' fun s' => forall_congr' fun _ =>
      forall_congr' fun answer => forall_congr' fun _ => ih answer
  | spawn task next ih =>
    exact exists_congr fun g' => exists_congr fun h => and_congr_right fun _ => ih

theorem wp_mono {p : Prog σ α ρ τ β} {Q Q' : β → σ → γ → Prop}
    (h : wp sys D i p Q s g) (hQ : ∀ b s g, Q b s g → Q' b s g) : wp sys D i p Q' s g := by
  induction p generalizing s g with
  | done value => exact hQ value s g h
  | sync update next ih =>
    obtain ⟨g', hmove, hnext⟩ := h
    exact ⟨g', hmove, ih s hnext⟩
  | await what next ih =>
    refine ⟨h.1, fun s' hrely answer henabled => ?_⟩
    exact ih answer (h.2 s' hrely answer henabled)
  | spawn task next ih =>
    obtain ⟨g', h', hhand, hnext⟩ := h
    exact ⟨g', h', hhand, ih hnext⟩

theorem wp_pure {b : β} {Q : β → σ → γ → Prop} :
    wp sys D i (pure b : Prog σ α ρ τ β) Q s g ↔ Q b s g := Iff.rfl

variable (D) in
/-- What a body must establish when it ends: the stage `idle`, or the precondition of the task it
goes on as. -/
def Discipline.after (i : Nat) (next : Option τ) (s : σ) (g : γ) : Prop :=
  match next with
  | none => g = D.idle
  | some task => D.entry task i s g

variable (sys D) in
/-- A suspended program that will do as it should whenever it is resumed. -/
def Pending (i : Nat) (p : Prog σ α ρ τ (Option τ)) (s : σ) (g : γ) : Prop :=
  ∀ s', D.rely i g s s' → wp sys D i p (D.after i) s' g

variable (sys D) in
/-- The laws of a discipline, with an invariant of the shared state and the stages of the tasks.
The tasks are numbered below `n`. -/
structure Lawful (inv : σ → (Nat → γ) → Nat → Prop) : Prop where
  rely_refl : ∀ i g s, D.rely i g s s
  rely_trans : ∀ i g s s' s'', D.rely i g s s' → D.rely i g s' s'' → D.rely i g s s''
  move_inv : ∀ {i s g n s' x}, inv s g n → i < n → D.move i s (g i) s' x →
    inv s' (Function.update g i x) n
  move_rely : ∀ {i s g n s' x j}, inv s g n → i < n → D.move i s (g i) s' x → j ≠ i →
    D.rely j (g j) s s'
  hand_inv : ∀ {i s g n x task y}, inv s g n → i < n → D.hand i s (g i) x task y →
    inv s (Function.update (Function.update g i x) n y) (n + 1)
  hand_entry : ∀ {i s g n x task y}, inv s g n → i < n → D.hand i s (g i) x task y →
    D.entry task n s y
  start : ∀ {s g n task}, inv s g n → g n = D.idle → D.entry task n s D.idle → inv s g (n + 1)
  entry_rely : ∀ {task i s g s'}, D.entry task i s g → D.rely i g s s' → D.entry task i s' g
  body : ∀ {task i s g}, D.entry task i s g → wp sys D i (sys.body i task) (D.after i) s g
  external_keep : ∀ event {s g n}, inv s g n → (sys.external event s).reset = false →
    inv (sys.external event s).state g n ∧ ∀ j, D.rely j (g j) s (sys.external event s).state
  external_reset : ∀ {event s g n}, inv s g n → (sys.external event s).reset = true →
    inv (sys.external event s).state (fun _ => D.idle) n
  external_entry : ∀ {event s g n task}, inv s g n → task ∈ (sys.external event s).tasks →
    ∀ i, n ≤ i → D.entry task i (sys.external event s).state D.idle

/-! ### Soundness -/

variable {inv : σ → (Nat → γ) → Nat → Prop}

/-- A program that runs to its next await: the invariant holds again, the other tasks could
tolerate the run, and the program that is left is still correct. -/
theorem Lawful.run_spec (law : Lawful sys D inv) {p : Prog σ α ρ τ β} {Q : β → σ → γ → Prop}
    {g : Nat → γ} {n : Nat} (h : wp sys D i p Q s (g i)) (hinv : inv s g n) (hi : i < n) :
    ∃ g', inv (p.run s).1 g' (n + (p.run s).2.1.length) ∧
      (∀ j, j ≠ i → j < n → g' j = g j) ∧
      (∀ j, n + (p.run s).2.1.length ≤ j → g' j = g j) ∧
      (∀ j, j ≠ i → j < n → D.rely j (g j) s (p.run s).1) ∧
      (∀ k task, (p.run s).2.1[k]? = some task → D.entry task (n + k) (p.run s).1 (g' (n + k))) ∧
      wp sys D i (p.run s).2.2 Q (p.run s).1 (g' i) := by
  induction p generalizing s g n with
  | done value =>
    exact ⟨g, hinv, fun _ _ _ => rfl, fun _ _ => rfl, fun j _ _ => law.rely_refl j _ _,
      fun k task hk => absurd hk (by simp [Prog.run]), h⟩
  | await what next ih =>
    exact ⟨g, hinv, fun _ _ _ => rfl, fun _ _ => rfl, fun j _ _ => law.rely_refl j _ _,
      fun k task hk => absurd hk (by simp [Prog.run]), h⟩
  | sync update next ih =>
    obtain ⟨x, hmove, hnext⟩ := h
    have hself : Function.update g i x i = x := Function.update_self i x g
    obtain ⟨g', hinv', hsame, hlate, hrely, hentry, hwp⟩ :=
      ih s (by rwa [hself]) (law.move_inv hinv hi hmove) hi
    refine ⟨g', hinv', fun j hj hjn => ?_, fun j hj => ?_, fun j hj hjn => ?_, hentry, hwp⟩
    · rw [hsame j hj hjn, Function.update_of_ne hj]
    · rw [hlate j hj, Function.update_of_ne (by omega)]
    · have hlater := hrely j hj hjn
      rw [Function.update_of_ne hj] at hlater
      exact law.rely_trans j _ _ _ _ (law.move_rely hinv hi hmove hj) hlater
  | spawn task next ih =>
    obtain ⟨x, y, hhand, hnext⟩ := h
    -- the new task is number `n`
    have hself : Function.update (Function.update g i x) n y i = x := by
      rw [Function.update_of_ne (by omega), Function.update_self]
    obtain ⟨g', hinv', hsame, hlate, hrely, hentry, hwp⟩ :=
      ih (by rwa [hself]) (law.hand_inv hinv hi hhand) (Nat.lt_succ_of_lt hi)
    have hnew : g' n = y := by
      rw [hsame n (by omega) (Nat.lt_succ_self n), Function.update_self]
    have hlen : n + (Prog.run (.spawn task next) s).2.1.length =
        n + 1 + (next.run s).2.1.length := by
      simp only [Prog.run, List.length_cons]
      omega
    refine ⟨g', by rw [hlen]; exact hinv', fun j hj hjn => ?_, fun j hj => ?_, fun j hj hjn => ?_,
      ?_, hwp⟩
    · rw [hsame j hj (by omega), Function.update_of_ne (by omega), Function.update_of_ne hj]
    · rw [hlen] at hj
      rw [hlate j hj, Function.update_of_ne (by omega), Function.update_of_ne (by omega)]
    · have hlater := hrely j hj (by omega)
      rwa [Function.update_of_ne (by omega), Function.update_of_ne hj] at hlater
    · intro k task' hk
      rcases k with _ | k
      · rw [Prog.run, List.getElem?_cons_zero, Option.some.injEq] at hk
        subst hk
        have hrely' := hrely n (by omega) (Nat.lt_succ_self n)
        rw [Function.update_self] at hrely'
        rw [Nat.add_zero, hnew]
        exact law.entry_rely (law.hand_entry hinv hi hhand) hrely'
      · rw [Prog.run, List.getElem?_cons_succ] at hk
        have hlater := hentry k task' hk
        rwa [Nat.add_assoc, Nat.add_comm 1 k] at hlater

variable (sys D inv) in
/-- The invariant of a pool, for stages `g` and `n` tasks, of which those from `pool.nextId` on are
about to be added. -/
structure Pool.SafeAt (pool : Pool σ α ρ τ) (g : Nat → γ) (n : Nat) : Prop where
  invariant : inv pool.state g n
  unborn : ∀ i, n ≤ i → g i = D.idle
  dead : ∀ i < pool.nextId, i ∉ pool.tasks.map Prod.fst → g i = D.idle
  nodup : (pool.tasks.map Prod.fst).Nodup
  bound : ∀ task ∈ pool.tasks, task.1 < pool.nextId
  pending : ∀ task ∈ pool.tasks, Pending sys D task.1 task.2 pool.state (g task.1)

/-- A task whose precondition holds is pending. -/
theorem Lawful.pending_body (law : Lawful sys D inv) {task : τ} (h : D.entry task i s g) :
    Pending sys D i (sys.body i task) s g :=
  fun _ hrely => law.body (law.entry_rely h hrely)

theorem Pool.SafeAt.create (law : Lawful sys D inv) {pool : Pool σ α ρ τ} {g : Nat → γ}
    {tasks : List τ} (h : pool.SafeAt sys D inv g (pool.nextId + tasks.length))
    (hentry : ∀ k task, tasks[k]? = some task →
      D.entry task (pool.nextId + k) pool.state (g (pool.nextId + k))) :
    (Pool.create sys pool tasks).SafeAt sys D inv g (Pool.create sys pool tasks).nextId := by
  induction tasks generalizing pool with
  | nil => exact h
  | cons task tasks ih =>
    rw [Pool.create]
    have hfirst := hentry 0 task rfl
    have hids : ∀ j ∈ pool.tasks.map Prod.fst, j < pool.nextId := by
      intro j hj
      obtain ⟨entry, hmem, rfl⟩ := List.mem_map.mp hj
      exact h.bound entry hmem
    refine ih ?_ ?_
    · refine ⟨?_, ?_, ?_, ?_, ?_, ?_⟩
      · simpa [Nat.add_assoc, Nat.add_comm 1] using h.invariant
      · intro j hj
        refine h.unborn j ?_
        simp only [List.length_cons] at hj ⊢
        omega
      · intro j hj hnot
        simp only [List.map_append, List.map_cons, List.map_nil, List.mem_append,
          List.mem_singleton, not_or] at hnot
        exact h.dead j (by simp only at hj; omega) hnot.1
      · rw [List.map_append, List.map_cons, List.map_nil, List.nodup_append]
        refine ⟨h.nodup, List.nodup_singleton _, ?_⟩
        intro a ha b hb
        rw [List.mem_singleton] at hb
        have := hids a ha
        omega
      · intro entry hmem
        rcases List.mem_append.mp hmem with hold | hnew
        · exact Nat.lt_succ_of_lt (h.bound entry hold)
        · rw [List.mem_singleton] at hnew
          subst hnew
          exact Nat.lt_succ_self _
      · intro entry hmem
        rcases List.mem_append.mp hmem with hold | hnew
        · exact h.pending entry hold
        · rw [List.mem_singleton] at hnew
          subst hnew
          exact law.pending_body hfirst
    · intro k task' hk
      have hlater := hentry (k + 1) task' hk
      simpa [Nat.add_assoc, Nat.add_comm 1] using hlater

theorem Pool.mem_put {pool : Pool σ α ρ τ} {program : Option (Prog σ α ρ τ (Option τ))}
    {task : Nat × Prog σ α ρ τ (Option τ)} (h : task ∈ pool.put i program) :
    (task ∈ pool.tasks ∧ task.1 ≠ i) ∨ (task.1 = i ∧ program = some task.2) := by
  rw [Pool.put, List.mem_filterMap] at h
  obtain ⟨old, hmem, hold⟩ := h
  split at hold
  · obtain ⟨p, hp, rfl⟩ := Option.map_eq_some_iff.mp hold
    exact .inr ⟨rfl, hp⟩
  · rename_i hne
    rw [Option.some.injEq] at hold
    subst hold
    exact .inl ⟨hmem, hne⟩

theorem Pool.map_fst_put {pool : Pool σ α ρ τ}
    (program : Option (Prog σ α ρ τ (Option τ))) :
    (pool.put i program).map Prod.fst =
      if program.isSome then pool.tasks.map Prod.fst
      else (pool.tasks.map Prod.fst).filter (· ≠ i) := by
  rw [Pool.put]
  induction pool.tasks with
  | nil => cases program <;> rfl
  | cons task tasks ih =>
    by_cases hi : task.1 = i
    · cases program with
      | none => simpa [List.filterMap_cons, hi] using ih
      | some p => simpa [List.filterMap_cons, hi] using ih
    · cases program with
      | none => simpa [List.filterMap_cons, hi] using ih
      | some p => simpa [List.filterMap_cons, hi] using ih

theorem Pool.mem_of_program? {pool : Pool σ α ρ τ} {p : Prog σ α ρ τ (Option τ)}
    (h : pool.program? i = some p) : (i, p) ∈ pool.tasks := by
  obtain ⟨before, after, htasks, -⟩ := List.lookup_eq_some_iff.mp h
  rw [htasks]
  exact List.mem_append_right _ List.mem_cons_self

/-- A suspended task awaits what it may at its stage. -/
theorem Pool.SafeAt.wait (law : Lawful sys D inv) {pool : Pool σ α ρ τ} {g : Nat → γ} {n : Nat}
    (h : pool.SafeAt sys D inv g n) {what : α} {next : ρ what → Prog σ α ρ τ (Option τ)}
    (hi : pool.program? i = some (.await what next)) : D.wait (g i) what :=
  (h.pending _ (Pool.mem_of_program? hi) _ (law.rely_refl _ _ _)).1

/-- A task that runs to its next await leaves a safe pool. -/
theorem Pool.SafeAt.advance (law : Lawful sys D inv) {pool : Pool σ α ρ τ} {g : Nat → γ}
    (h : pool.SafeAt sys D inv g pool.nextId) {p : Prog σ α ρ τ (Option τ)}
    (hi : i ∈ pool.tasks.map Prod.fst) (hwp : wp sys D i p (D.after i) pool.state (g i)) :
    ∃ g', (pool.advance sys i p).SafeAt sys D inv g' (pool.advance sys i p).nextId := by
  obtain ⟨entry, hentry, rfl⟩ := List.mem_map.mp hi
  have hbound := h.bound entry hentry
  obtain ⟨g', hinv, hsame, hlate, hrely, hnew, hleft⟩ := law.run_spec hwp h.invariant hbound
  refine ⟨g', Pool.SafeAt.create law ?_ hnew⟩
  have hids := pool.map_fst_put (i := entry.1) (sys.after entry.1 (p.run pool.state).2.2)
  refine ⟨hinv, fun j hj => ?_, fun j hj hnot => ?_, ?_, fun task htask => ?_, fun task htask => ?_⟩
  · rw [hlate j hj]
    exact h.unborn j ((Nat.le_add_right _ _).trans hj)
  · -- the task itself is gone only if it is done
    simp only [hids] at hnot
    by_cases hji : j = entry.1
    · subst hji
      split at hnot
      · exact absurd hi hnot
      · rename_i hdone
        generalize (p.run pool.state).2.2 = left at hleft hdone
        cases left with
        | done next =>
          cases next with
          | none => exact hleft
          | some task => exact absurd rfl hdone
        | _ => exact absurd rfl hdone
    · rw [hsame j hji hj]
      refine h.dead j hj fun hmem => hnot ?_
      split
      · exact hmem
      · exact List.mem_filter.mpr ⟨hmem, by simpa using hji⟩
  · simp only [hids]
    split
    · exact h.nodup
    · exact h.nodup.filter _
  · rcases Pool.mem_put htask with ⟨hold, -⟩ | ⟨heq, -⟩
    · exact h.bound task hold
    · rw [heq]
      exact hbound
  · rcases Pool.mem_put htask with ⟨hold, hne⟩ | ⟨heq, hleft'⟩
    · intro s' hs'
      have hg : g' task.1 = g task.1 := hsame _ hne (h.bound task hold)
      rw [hg] at hs' ⊢
      exact h.pending task hold s'
        (law.rely_trans _ _ _ _ _ (hrely _ hne (h.bound task hold)) hs')
    · rw [heq]
      rcases p.run_left pool.state with ⟨next, hdone⟩ | ⟨what, next, hawait⟩
      · rw [hdone] at hleft hleft'
        cases next with
        | none => exact absurd hleft' (by simp [System.after])
        | some task' =>
          rw [System.after, Option.some.injEq] at hleft'
          rw [← hleft']
          exact law.pending_body hleft
      · rw [hawait] at hleft hleft'
        rw [System.after, Option.some.injEq] at hleft'
        · rw [← hleft']
          refine fun s' hs' => ⟨hleft.1, fun s'' hs'' answer henabled => ?_⟩
          exact hleft.2 s'' (law.rely_trans _ _ _ _ _ hs' hs'') answer henabled
        · simp
        · simp

variable (sys D inv) in
/-- The invariant of a pool. -/
def Pool.Safe (pool : Pool σ α ρ τ) : Prop := ∃ g, pool.SafeAt sys D inv g pool.nextId

/-- New tasks at stage `idle` keep the invariant. -/
theorem Lawful.inv_add (law : Lawful sys D inv) {g : Nat → γ} {n : Nat} {tasks : List τ}
    (hinv : inv s g n) (hidle : ∀ j, n ≤ j → g j = D.idle)
    (hentry : ∀ task ∈ tasks, ∀ j, n ≤ j → D.entry task j s D.idle) :
    inv s g (n + tasks.length) := by
  induction tasks generalizing n with
  | nil => exact hinv
  | cons task tasks ih =>
    have hfirst := law.start hinv (hidle n le_rfl) (hentry task List.mem_cons_self n le_rfl)
    have hrest := ih hfirst (fun j hj => hidle j (by omega)) fun task' htask' j hj =>
      hentry task' (List.mem_cons_of_mem _ htask') j (by omega)
    rwa [List.length_cons, Nat.add_comm tasks.length, ← Nat.add_assoc]

/-- What happens from outside keeps the pool safe. -/
theorem Pool.SafeAt.external (law : Lawful sys D inv) {pool : Pool σ α ρ τ} {g : Nat → γ}
    (h : pool.SafeAt sys D inv g pool.nextId) (event : ε) :
    ∃ g', Pool.SafeAt sys D inv
      { pool with
        state := (sys.external event pool.state).state
        tasks := if (sys.external event pool.state).reset then [] else pool.tasks } g'
      (pool.nextId + (sys.external event pool.state).tasks.length) ∧
      ∀ j, pool.nextId ≤ j → g' j = D.idle := by
  have hentry : ∀ task ∈ (sys.external event pool.state).tasks, ∀ j, pool.nextId ≤ j →
      D.entry task j (sys.external event pool.state).state D.idle :=
    fun task htask j hj => law.external_entry h.invariant htask j hj
  by_cases hreset : (sys.external event pool.state).reset
  · refine ⟨fun _ => D.idle, ⟨?_, fun _ _ => rfl, fun _ _ _ => rfl, ?_, ?_, ?_⟩, fun _ _ => rfl⟩
    · exact law.inv_add (law.external_reset h.invariant hreset) (fun _ _ => rfl) hentry
    all_goals simp [hreset]
  · have hkeep := law.external_keep event h.invariant (by simpa using hreset)
    refine ⟨g, ⟨?_, fun j hj => h.unborn j ((Nat.le_add_right _ _).trans hj), ?_, ?_, ?_, ?_⟩,
      h.unborn⟩
    · exact law.inv_add hkeep.1 h.unborn hentry
    · simpa [hreset] using h.dead
    · simpa [hreset] using h.nodup
    · simpa [hreset] using h.bound
    · simp only [hreset]
      intro task htask s' hs'
      exact h.pending task htask s' (law.rely_trans _ _ _ _ _ (hkeep.2 task.1) hs')

/-- **Soundness.** Every step keeps a lawful invariant. -/
theorem Pool.Safe.step [DecidableEq α] (law : Lawful sys D inv) {pool : Pool σ α ρ τ}
    (h : pool.Safe sys D inv) (label : Label α ρ ε) : (pool.step sys label).Safe sys D inv := by
  obtain ⟨g, h⟩ := h
  -- a chosen program is the continuation of a pending one
  have hchosen : ∀ i p, pool.chosen sys label = some (i, p) →
      i ∈ pool.tasks.map Prod.fst ∧ wp sys D i p (D.after i) pool.state (g i) := by
    intro i p hp
    cases label with
    | external event => exact absurd hp (by simp [Pool.chosen])
    | run j =>
      rw [Pool.chosen] at hp
      split at hp
      · rename_i program hprogram
        split at hp
        · exact absurd hp (by simp)
        · simp only [Option.some.injEq, Prod.mk.injEq] at hp
          obtain ⟨rfl, rfl⟩ := hp
          have hmem := Pool.mem_of_program? hprogram
          exact ⟨List.mem_map.mpr ⟨_, hmem, rfl⟩, h.pending _ hmem _ (law.rely_refl _ _ _)⟩
      · exact absurd hp (by simp)
    | resume j what answer =>
      rw [Pool.chosen] at hp
      split at hp
      · rename_i what' next hprogram
        split at hp
        · rename_i heq
          subst heq
          split at hp
          · rename_i henabled
            simp only [Option.some.injEq, Prod.mk.injEq] at hp
            obtain ⟨rfl, rfl⟩ := hp
            have hmem := Pool.mem_of_program? hprogram
            exact ⟨List.mem_map.mpr ⟨_, hmem, rfl⟩,
              (h.pending _ hmem _ (law.rely_refl _ _ _)).2 _ (law.rely_refl _ _ _) answer henabled⟩
          · exact absurd hp (by simp)
        · exact absurd hp (by simp)
      · exact absurd hp (by simp)
  cases label with
  | external event =>
    obtain ⟨g', hsafe, hidle⟩ := h.external law event
    refine ⟨g', Pool.SafeAt.create law hsafe fun k task hk => ?_⟩
    rw [hidle _ (Nat.le_add_right _ _)]
    exact law.external_entry h.invariant (List.mem_of_getElem? hk) _ (Nat.le_add_right _ _)
  | run j =>
    rw [Pool.step]
    · rcases hp : pool.chosen sys (.run j) with _ | ⟨i, p⟩
      · exact ⟨g, h⟩
      · exact h.advance law (hchosen i p hp).1 (hchosen i p hp).2
    · simp
  | resume j what answer =>
    rw [Pool.step]
    · rcases hp : pool.chosen sys (.resume j what answer) with _ | ⟨i, p⟩
      · exact ⟨g, h⟩
      · exact h.advance law (hchosen i p hp).1 (hchosen i p hp).2
    · simp

end Logic

end Coop
