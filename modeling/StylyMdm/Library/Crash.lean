import StylyMdm.Library.Run

/-!
# Programs that can be cut off

A program that asks its surroundings for one thing after another, and whose process can be killed
between any two of them, while what the surroundings keep survives. `Prog` is such a program, over
an `Interface` that says what can be asked and what it does to the surviving state. A `System` has
the programs that a process can be told to run; `step` takes it from one operation to the next, or
kills the process. The outcome of an operation comes with the label, so nothing is assumed of the
surroundings beyond what an interface or a contract states.

`Prog.wp` is the weakest precondition of a program with a **crash condition**, which has to hold
wherever the process can be killed: before the first operation, and after each one. Its rules are
those of a logic without crashes (`wp_bind`, `wp_mono`), with one more for the crash condition
(`wp_mono_crash`).

A `Contract` has an invariant of the surviving state, says which outcomes and kills are considered,
and what holds when a call returns. `sound` is the soundness theorem: if every program, started
where the invariant holds, meets its precondition, then the invariant holds in every state of every
run in which no program is under way (`Sound.inv_of_atRest`), and a call that has returned has left
what the contract promises (`Sound.post_of_returned`).

The proof keeps one statement about a process in the middle of a call: what is left of the program
meets the precondition still, and so will restore the invariant whether it is cut off or not.
-/

namespace Crash

variable {σ : Type}

/-- What a program can ask of its surroundings. The outcome of an operation is decided outside; it
determines the new state and the answer. -/
structure Interface (σ : Type) where
  Op : Type
  Outcome : Op → Type
  Answer : Op → Type
  perform : (op : Op) → Outcome op → σ → σ × Answer op

/-- A program over an interface. -/
inductive Prog (I : Interface σ) (β : Type) : Type
  | done (value : β)
  | call (op : I.Op) (next : I.Answer op → Prog I β)

namespace Prog

variable {I : Interface σ} {β γ : Type}

/-- Sequential composition. -/
protected def bind : Prog I β → (β → Prog I γ) → Prog I γ
  | .done value, f => f value
  | .call op next, f => .call op fun answer => (next answer).bind f

instance : Monad (Prog I) where
  pure := .done
  bind := Prog.bind

protected theorem bind_done (p : Prog I β) : p.bind .done = p := by
  induction p with
  | done value => rfl
  | call op next ih => exact congrArg (Prog.call op) (funext ih)

protected theorem bind_bind {δ : Type} (p : Prog I β) (f : β → Prog I γ) (g : γ → Prog I δ) :
    (p.bind f).bind g = p.bind fun value => (f value).bind g := by
  induction p with
  | done value => rfl
  | call op next ih => exact congrArg (Prog.call op) (funext ih)

instance : LawfulMonad (Prog I) :=
  LawfulMonad.mk' _ Prog.bind_done (fun _ _ => rfl) fun p f g => p.bind_bind f g

/-- Ask for one operation. -/
def ask (op : I.Op) : Prog I (I.Answer op) := .call op .done

/-- The weakest precondition: `crash` holds wherever the process can be killed, `post` at the end,
whatever allowed outcomes the operations have. -/
def wp (allowed : (op : I.Op) → I.Outcome op → σ → Prop) (crash : σ → Prop)
    (post : β → σ → Prop) : Prog I β → σ → Prop
  | .done value, s => crash s ∧ post value s
  | .call op next, s => crash s ∧ ∀ outcome, allowed op outcome s →
      (next (I.perform op outcome s).2).wp allowed crash post (I.perform op outcome s).1

section Rules

variable {allowed : (op : I.Op) → I.Outcome op → σ → Prop} {crash : σ → Prop}
  {post post' : β → σ → Prop} {s : σ}

theorem wp_pure {value : β} :
    (pure value : Prog I β).wp allowed crash post s ↔ crash s ∧ post value s := Iff.rfl

/-- The process can be killed before the program does anything. -/
theorem crash_of_wp {p : Prog I β} (h : p.wp allowed crash post s) : crash s := by
  cases p with
  | done value => exact h.1
  | call op next => exact h.1

/-- The rule for sequential composition. -/
theorem wp_bind {p : Prog I β} {f : β → Prog I γ} {post : γ → σ → Prop} :
    (p >>= f).wp allowed crash post s ↔
      p.wp allowed crash (fun value s => (f value).wp allowed crash post s) s := by
  change (p.bind f).wp allowed crash post s ↔ _
  induction p generalizing s with
  | done value => exact ⟨fun h => ⟨crash_of_wp h, h⟩, fun h => h.2⟩
  | call op next ih =>
    refine and_congr_right fun _ => forall_congr' fun outcome => ?_
    exact imp_congr_right fun _ => ih (I.perform op outcome s).2

/-- The rule of consequence. -/
theorem wp_mono {p : Prog I β} (h : p.wp allowed crash post s)
    (hpost : ∀ value s, crash s → post value s → post' value s) :
    p.wp allowed crash post' s := by
  induction p generalizing s with
  | done value => exact ⟨h.1, hpost value s h.1 h.2⟩
  | call op next ih =>
    exact ⟨h.1, fun outcome hallowed => ih (I.perform op outcome s).2 (h.2 outcome hallowed)⟩

/-- The rule of consequence for the crash condition. -/
theorem wp_mono_crash {p : Prog I β} {crash' : σ → Prop} (h : p.wp allowed crash post s)
    (hcrash : ∀ s, crash s → crash' s) : p.wp allowed crash' post s := by
  induction p generalizing s with
  | done value => exact ⟨hcrash s h.1, h.2⟩
  | call op next ih =>
    refine ⟨hcrash s h.1, fun outcome hallowed => ?_⟩
    exact ih (I.perform op outcome s).2 (h.2 outcome hallowed)

end Rules

end Prog

/-- What a process can be told to run. -/
structure System (σ : Type) where
  interface : Interface σ
  Call : Type
  Result : Call → Type
  body : (c : Call) → Prog interface (Result c)

/-- A process: not there, started, in the middle of a call, or back from one. -/
inductive Process (S : System σ)
  | dead
  | idle
  | running (c : S.Call) (rest : Prog S.interface (S.Result c))
  | returned (c : S.Call) (value : S.Result c)

/-- Is the process not in the middle of a call? -/
def Process.AtRest {S : System σ} : Process S → Prop
  | .running _ _ => False
  | _ => True

/-- The store and the process. -/
structure State (S : System σ) where
  store : σ
  process : Process S

/-- What can happen next: a process starts, it is told to run something, it goes on to the next
operation, which has this outcome, or it is killed. -/
inductive Label (S : System σ)
  | start
  | begin (c : S.Call)
  | perform (outcome : (op : S.interface.Op) → S.interface.Outcome op)
  | kill

variable {S : System σ}

/-- One step: a start, a call that begins, one of its writes, or a crash. -/
def step (s : State S) : Label S → State S
  | .start =>
    match s.process with
    | .dead => { s with process := .idle }
    | _ => s
  | .begin c =>
    match s.process with
    | .idle | .returned _ _ => { s with process := .running c (S.body c) }
    | _ => s
  | .perform outcome =>
    match s.process with
    | .running c (.done value) => { s with process := .returned c value }
    | .running c (.call op next) =>
      let result := S.interface.perform op (outcome op) s.store
      { store := result.1, process := .running c (next result.2) }
    | _ => s
  | .kill => { s with process := .dead }

/-- An invariant of the surviving state, which outcomes and kills are considered, and what holds
when a call returns. -/
structure Contract (S : System σ) where
  inv : σ → Prop
  allowed : (op : S.interface.Op) → S.interface.Outcome op → σ → Prop
  killable : σ → Prop
  post : (c : S.Call) → S.Result c → σ → Prop

namespace Contract

variable (K : Contract S)

/-- Where the process can be killed, the invariant holds. -/
def crash (s : σ) : Prop := K.killable s → K.inv s

/-- The programs meet the contract. -/
def Met : Prop := ∀ c s, K.inv s →
  (S.body c).wp K.allowed K.crash (fun value s => K.inv s ∧ K.post c value s) s

/-- The label is one that the contract considers. -/
def Considers (s : State S) (l : Label S) : Prop :=
  match l, s.process with
  | .perform outcome, .running _ (.call op _) => K.allowed op (outcome op) s.store
  | .kill, .running _ _ => K.killable s.store
  | _, _ => True

/-- The invariant holds at rest, and what is left of a call will restore it. -/
def Sound (s : State S) : Prop :=
  match s.process with
  | .running c rest => rest.wp K.allowed K.crash (fun value s => K.inv s ∧ K.post c value s) s.store
  | .returned c value => K.inv s.store ∧ K.post c value s.store
  | _ => K.inv s.store

variable {K}

/-- A contract that asks nothing of outcomes and kills considers every run. -/
theorem considers_of_forall (hallowed : ∀ op outcome s, K.allowed op outcome s)
    (hkillable : ∀ s, K.killable s) (s : State S) (l : Label S) : K.Considers s l := by
  unfold Considers
  split
  · exact hallowed _ _ _
  · exact hkillable _
  · trivial

/-- The step lemma. -/
theorem Sound.step (hmet : K.Met) {s : State S} {l : Label S} (hs : K.Sound s)
    (hl : K.Considers s l) : K.Sound (step s l) := by
  obtain ⟨store, process⟩ := s
  cases process with
  | dead => cases l <;> exact hs
  | idle =>
    cases l with
    | begin c => exact hmet c store hs
    | _ => exact hs
  | returned c value =>
    cases l with
    | begin c => exact hmet c store hs.1
    | kill => exact hs.1
    | _ => exact hs
  | running c rest =>
    cases l with
    | perform outcome =>
      cases rest with
      | done value => exact hs.2
      | call op next => exact hs.2 (outcome op) hl
    | kill => exact Prog.crash_of_wp hs hl
    | _ => exact hs

/-- **Soundness**: a met contract holds in every state of every run that it considers. -/
theorem sound (hmet : K.Met) {s : State S} (hs : K.Sound s) {run : List (Label S)}
    (hrun : Run.Along step K.Considers s run) : K.Sound (Run.exec step s run) :=
  hrun.invariant (fun _ _ hs hl => hs.step hmet hl) hs

theorem Sound.inv_of_atRest {s : State S} (h : K.Sound s) (hrest : s.process.AtRest) :
    K.inv s.store := by
  obtain ⟨store, process⟩ := s
  cases process with
  | running c rest => exact hrest.elim
  | returned c value => exact h.1
  | _ => exact h

theorem Sound.post_of_returned {s : State S} (h : K.Sound s) {c : S.Call} {value : S.Result c}
    (hreturned : s.process = .returned c value) : K.post c value s.store := by
  obtain ⟨store, process⟩ := s
  obtain rfl : process = .returned c value := hreturned
  exact h.2

end Contract

end Crash
