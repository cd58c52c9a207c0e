import Mathlib

/-!
# Runs of a deterministic system

A system is a step function `step : σ → α → σ` on states `σ` under labels `α`; a run is a list
of labels. What is not deterministic in a program (a scheduler, an answer from outside, a failure)
is in the labels, so that a statement about all lists of labels is one about all behaviours.

A condition on single steps, `P : σ → α → Prop`, is lifted to whole runs by `Along`: every step of
the run meets the condition in the state it is taken from. The rules of this file turn facts about
one step into facts about every run:

* `Along.invariant` for an invariant that is kept by the steps that meet the condition, and
  `exec_invariant` for one that every step keeps;
* `Along.strengthen`, which adds an invariant to the condition of every step;
* `Along.relates`, for a reflexive and transitive relation between the states before and after a
  step, which then relates the beginning of a run to its end.

The last section has the two inversion rules for fallible computations in `Except`.
-/

namespace Run

variable {σ α : Type*} (step : σ → α → σ)

/-- The state after the labels `l`. -/
def exec (s : σ) (l : List α) : σ := l.foldl step s

@[simp] theorem exec_nil (s : σ) : exec step s [] = s := rfl

@[simp] theorem exec_cons (s : σ) (a : α) (l : List α) :
    exec step s (a :: l) = exec step (step s a) l := rfl

@[simp] theorem exec_append (s : σ) (l l' : List α) :
    exec step s (l ++ l') = exec step (exec step s l) l' := List.foldl_append

/-- Every step of the run `l` from `s` meets `P`. -/
def Along (P : σ → α → Prop) : σ → List α → Prop
  | _, [] => True
  | s, a :: l => P s a ∧ Along P (step s a) l

variable {step}

@[simp] theorem along_nil {P : σ → α → Prop} {s : σ} : Along step P s [] := trivial

@[simp] theorem along_cons {P : σ → α → Prop} {s : σ} {a : α} {l : List α} :
    Along step P s (a :: l) ↔ P s a ∧ Along step P (step s a) l := Iff.rfl

theorem along_append {P : σ → α → Prop} {s : σ} {l l' : List α} :
    Along step P s (l ++ l') ↔ Along step P s l ∧ Along step P (exec step s l) l' := by
  induction l generalizing s with
  | nil => simp
  | cons a l ih => simp [ih, and_assoc]

instance Along.decidable {P : σ → α → Prop} [∀ s a, Decidable (P s a)] :
    ∀ (s : σ) (l : List α), Decidable (Along step P s l)
  | _, [] => isTrue trivial
  | s, a :: l =>
    haveI : Decidable (Along step P (step s a) l) := Along.decidable (step s a) l
    inferInstanceAs (Decidable (P s a ∧ Along step P (step s a) l))

theorem Along.mono {P Q : σ → α → Prop} (h : ∀ s a, P s a → Q s a) {s : σ} {l : List α}
    (hl : Along step P s l) : Along step Q s l := by
  induction l generalizing s with
  | nil => trivial
  | cons a l ih => exact ⟨h s a hl.1, ih hl.2⟩

theorem Along.and {P Q : σ → α → Prop} {s : σ} {l : List α} (hP : Along step P s l)
    (hQ : Along step Q s l) : Along step (fun s a => P s a ∧ Q s a) s l := by
  induction l generalizing s with
  | nil => trivial
  | cons a l ih => exact ⟨⟨hP.1, hQ.1⟩, ih hP.2 hQ.2⟩

/-- A condition every step meets holds along every run. -/
theorem along_of_forall {P : σ → α → Prop} (h : ∀ s a, P s a) (s : σ) (l : List α) :
    Along step P s l := by
  induction l generalizing s with
  | nil => trivial
  | cons a l ih => exact ⟨h s a, ih _⟩

/-- A condition that holds after every prefix of a run, for its next label, holds along the run. -/
theorem along_of_prefix {P : σ → α → Prop} {s : σ} {l : List α}
    (h : ∀ l₁ a l₂, l = l₁ ++ a :: l₂ → P (exec step s l₁) a) : Along step P s l := by
  induction l generalizing s with
  | nil => trivial
  | cons a l ih =>
    refine ⟨h [] a l rfl, ih fun l₁ b l₂ hl => ?_⟩
    exact h (a :: l₁) b l₂ (by rw [hl, List.cons_append])

/-- **The invariant rule.** What every step that meets `P` preserves, a run of such steps
preserves. -/
theorem Along.invariant {P : σ → α → Prop} {I : σ → Prop}
    (h : ∀ s a, I s → P s a → I (step s a)) {s : σ} {l : List α} (hl : Along step P s l)
    (hs : I s) : I (exec step s l) := by
  induction l generalizing s with
  | nil => exact hs
  | cons a l ih => exact ih hl.2 (h s a hs hl.1)

/-- What every step preserves, every run preserves. -/
theorem exec_invariant {I : σ → Prop} (h : ∀ s a, I s → I (step s a)) {s : σ} (hs : I s)
    (l : List α) : I (exec step s l) :=
  (along_of_forall (fun _ _ => trivial) s l).invariant (fun s a hI _ => h s a hI) hs

/-- The invariant holds before every step of the run, so the step condition may be
strengthened with it. -/
theorem Along.strengthen {P : σ → α → Prop} {I : σ → Prop}
    (h : ∀ s a, I s → P s a → I (step s a)) {s : σ} {l : List α} (hl : Along step P s l)
    (hs : I s) : Along step (fun s a => I s ∧ P s a) s l := by
  induction l generalizing s with
  | nil => trivial
  | cons a l ih => exact ⟨⟨hs, hl.1⟩, ih hl.2 (h s a hs hl.1)⟩

/-- A reflexive and transitive relation that every step respects relates the ends of a run. -/
theorem Along.relates {P : σ → α → Prop} {R : σ → σ → Prop} (hrefl : ∀ s, R s s)
    (htrans : ∀ s t u, R s t → R t u → R s u) (h : ∀ s a, P s a → R s (step s a)) {s : σ}
    {l : List α} (hl : Along step P s l) : R s (exec step s l) := by
  induction l generalizing s with
  | nil => exact hrefl s
  | cons a l ih => exact htrans _ _ _ (h s a hl.1) (ih hl.2)

end Run

namespace Except

universe u

variable {ε : Type*} {α β : Type u}

theorem exists_of_isOk {x : Except ε α} (h : x.isOk = true) : ∃ a, x = .ok a := by
  cases x with
  | error e => exact absurd h Bool.false_ne_true
  | ok a => exact ⟨a, rfl⟩

/-- A bind succeeds exactly when both parts do. -/
theorem bind_eq_ok {x : Except ε α} {f : α → Except ε β} {b : β} :
    x >>= f = .ok b ↔ ∃ a, x = .ok a ∧ f a = .ok b := by
  rcases x with e | a
  · simp [bind, Except.bind]
  · simp [bind, Except.bind]

theorem map_eq_ok {x : Except ε α} {f : α → β} {b : β} :
    x.map f = .ok b ↔ ∃ a, x = .ok a ∧ f a = b := by
  rcases x with e | a
  · simp [Except.map]
  · simp [Except.map]

end Except
