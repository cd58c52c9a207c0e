import Mathlib

/-!
# Delayed messages

The messages that wait in the queue of a looper, each with the time it is due. The queue is in the
order of those times, and messages of one time are in the order they were posted. The looper takes
the first message, and not before it is due.

That the queue is in order is a field of the structure, kept by `post` because it inserts behind
what is due at the same time (`pairwise_orderedInsert`).

`Queue.pending` forgets the times. What the operations do to it is all that a protocol which only
posts, removes and waits for messages needs to know: a posted message is pending
(`pending_post`), and what the looper takes was pending and is not any more (`pending_of_next`).
-/

namespace Looper

/-- Messages that are due later or posted later stand further back. -/
structure Queue (α : Type*) where
  messages : List (Int × α)
  sorted : messages.Pairwise fun message later => message.1 ≤ later.1

namespace Queue

variable {α : Type*} {q rest : Queue α} {a : α} {due now : Int}

/-- The queue without messages. -/
def empty : Queue α where
  messages := []
  sorted := .nil

/-- The messages, without their times. -/
def pending (q : Queue α) : Multiset α := Multiset.ofList (q.messages.map Prod.snd)

theorem pairwise_orderedInsert {l : List (Int × α)} (message : Int × α)
    (h : l.Pairwise fun m m' => m.1 ≤ m'.1) :
    (l.orderedInsert (fun m m' => m.1 < m'.1) message).Pairwise fun m m' => m.1 ≤ m'.1 := by
  induction l with
  | nil => simp
  | cons head l ih =>
    obtain ⟨hhead, hl⟩ := List.pairwise_cons.mp h
    rw [List.orderedInsert_cons]
    split
    · rename_i hlt
      refine List.pairwise_cons.mpr ⟨fun m hm => ?_, h⟩
      rcases List.mem_cons.mp hm with rfl | hm
      · exact hlt.le
      · exact hlt.le.trans (hhead m hm)
    · rename_i hge
      refine List.pairwise_cons.mpr ⟨fun m hm => ?_, ih hl⟩
      rcases (List.mem_orderedInsert _).mp hm with rfl | hm
      · exact not_lt.mp hge
      · exact hhead m hm

/-- `postAtTime`: behind what is due at the same time. -/
def post (q : Queue α) (due : Int) (a : α) : Queue α where
  messages := q.messages.orderedInsert (fun m m' => m.1 < m'.1) (due, a)
  sorted := pairwise_orderedInsert (due, a) q.sorted

/-- The first message, if it is due, and the others. -/
def next (q : Queue α) (now : Int) : Option (α × Queue α) :=
  match q with
  | ⟨[], _⟩ => none
  | ⟨(due, a) :: messages, sorted⟩ =>
    if due ≤ now then some (a, ⟨messages, (List.pairwise_cons.mp sorted).2⟩) else none

@[simp] theorem pending_empty : (empty : Queue α).pending = 0 := rfl

@[simp] theorem pending_post : (q.post due a).pending = a ::ₘ q.pending := by
  rw [pending, pending, post, Multiset.cons_coe, Multiset.coe_eq_coe]
  exact (List.perm_orderedInsert _ _ _).map Prod.snd

theorem pending_of_next (h : q.next now = some (a, rest)) : q.pending = a ::ₘ rest.pending := by
  obtain ⟨messages, sorted⟩ := q
  cases messages with
  | nil => cases h
  | cons message messages =>
    rw [next] at h
    split at h
    · cases h
      rfl
    · cases h

end Queue

end Looper
