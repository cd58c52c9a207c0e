import StylyMdm.Library.Text

/-!
# JSON values in Python

The values `json.loads` builds, with what Python's `==`, `bool` and `hash` make of them, and
dictionaries as association lists in insertion order. An object of a JSON text becomes a
dictionary, so its keys are distinct; a dictionary becomes an object again with the texts of its
keys, which need not be.

Three things make the values differ from those of a data format:

* `==` compares numbers of different types by their value, and `bool` is a number: `1`, `1.0` and
  `True` are one key of a dictionary. A `NaN` differs from itself, but a dictionary finds it again,
  because keys are first compared by identity (`same`, `differs`).
* A list or a dictionary has no hash, so as a key it raises (`hashable`).
* A string can have lone surrogates, which UTF-8 cannot encode (`encodable`), and a value can be
  nested deeper than a recursive writer goes (`depth`).

The mutual recursions over items and fields are turned into statements about all of them
(`itemsEncodable_iff`, `depth_arr_le_iff`, and so on), so that later proofs go by membership. The
last section has assignment, lookup and removal with keys that are any values, not strings alone.
-/

namespace Py

open Text

/-- A `float`. -/
inductive Float64
  | finite (q : ℚ)
  | infinite (negative : Bool)
  | nan
deriving DecidableEq

/-- A JSON value. -/
inductive Value
  | null
  | bool (b : Bool)
  | int (n : Int)
  | float (x : Float64)
  | str (s : Str)
  | arr (items : List Value)
  | obj (fields : List (Str × Value))

namespace Value

/-- `bool(v)`. -/
def truthy : Value → Bool
  | null => false
  | bool b => b
  | int n => n ≠ 0
  | float (.finite q) => q ≠ 0
  | float _ => true
  | str s => s ≠ []
  | arr items => !items.isEmpty
  | obj fields => !fields.isEmpty

/-- Has the value a hash, as the key of a dictionary needs it? -/
def hashable : Value → Bool
  | arr _ | obj _ => false
  | _ => true

/-- `str` values. -/
def asStr : Value → Option Str
  | str s => some s
  | _ => none

/-- The numbers, `bool` among them. -/
def asNumber : Value → Option Float64
  | bool b => some (.finite (if b then 1 else 0))
  | int n => some (.finite n)
  | float x => some x
  | _ => none

mutual

/-- The equality of `in` and of dictionary keys: `==`, or the same object. All `NaN` of
`json.loads` are one object. -/
def same : Value → Value → Bool
  | null, null => true
  | str s, str t => s = t
  | arr l, arr l' => sameItems l l'
  | obj l, obj l' => l.length = l'.length && sameFields l l'
  | v, w =>
    match v.asNumber, w.asNumber with
    | some x, some y => x = y
    | _, _ => false

/-- `same` for the items of two lists. -/
def sameItems : List Value → List Value → Bool
  | [], [] => true
  | v :: l, w :: l' => v.same w && sameItems l l'
  | _, _ => false

/-- Does the second dictionary have the items of the first one? -/
def sameFields : List (Str × Value) → List (Str × Value) → Bool
  | [], _ => true
  | (key, v) :: l, l' =>
    (match l'.lookup key with
      | some w => v.same w
      | none => false) && sameFields l l'

end

/-- `v != w`, which is true of a `NaN` and itself. -/
def differs (v w : Value) : Bool :=
  match v with
  | float .nan => true
  | _ => !v.same w

mutual

/-- Can every string of the value be encoded as UTF-8? -/
def encodable : Value → Bool
  | str s => Text.encodable s
  | arr items => itemsEncodable items
  | obj fields => fieldsEncodable fields
  | _ => true

/-- `encodable` for the items of a list. -/
def itemsEncodable : List Value → Bool
  | [] => true
  | v :: l => v.encodable && itemsEncodable l

/-- `encodable` for the fields of an object. -/
def fieldsEncodable : List (Str × Value) → Bool
  | [] => true
  | (key, v) :: l => Text.encodable key && v.encodable && fieldsEncodable l

end

mutual

/-- How deep lists and objects are nested. -/
def depth : Value → Nat
  | arr items => itemsDepth items + 1
  | obj fields => fieldsDepth fields + 1
  | _ => 0

/-- `depth` for the items of a list. -/
def itemsDepth : List Value → Nat
  | [] => 0
  | v :: l => max v.depth (itemsDepth l)

/-- `depth` for the fields of an object. -/
def fieldsDepth : List (Str × Value) → Nat
  | [] => 0
  | (_, v) :: l => max v.depth (fieldsDepth l)

end

/-- `d.get(key)` of a dictionary; other values have no keys. -/
def get? (v : Value) (key : Str) : Option Value :=
  match v with
  | obj fields => fields.lookup key
  | _ => none

/-- `d.get(key)`, which is `None` when the key is missing. -/
def get (v : Value) (key : Str) : Value := (v.get? key).getD null

/-- `isinstance(v, dict)`. -/
def isObj : Value → Bool
  | obj _ => true
  | _ => false

section KeyText

variable (floatRepr : ℚ → Str)

/-- The text of a key in a JSON object. `floatRepr` is `float.__repr__` of a finite number. -/
def keyText : Value → Str
  | str s => s
  | bool b => ofString (if b then "true" else "false")
  | null => ofString "null"
  | int n => ofString (toString n)
  | float (.finite q) => floatRepr q
  | float (.infinite negative) => ofString (if negative then "-Infinity" else "Infinity")
  | float .nan => ofString "NaN"
  | arr _ | obj _ => []

end KeyText

@[simp] theorem same_str (s t : Str) : (str s).same (str t) = decide (s = t) := by
  rw [same]

theorem same_str_iff {v : Value} {s : Str} : v.same (str s) ↔ v = str s := by
  cases v with
  | str t => simp
  | _ => simp [same, asNumber]

theorem str_same_iff {v : Value} {s : Str} : (str s).same v ↔ v = str s := by
  cases v with
  | str t => simp [eq_comm]
  | _ => simp [same, asNumber]

theorem itemsEncodable_iff {items : List Value} :
    itemsEncodable items ↔ ∀ v ∈ items, v.encodable := by
  induction items with
  | nil => simp [itemsEncodable]
  | cons v items ih => simp [itemsEncodable, ih]

theorem fieldsEncodable_iff {fields : List (Str × Value)} :
    fieldsEncodable fields ↔
      ∀ field ∈ fields, Text.encodable field.1 ∧ field.2.encodable := by
  induction fields with
  | nil => simp [fieldsEncodable]
  | cons first fields ih => simp [fieldsEncodable, ih]

/-- A list is nested one level deeper than its deepest item. -/
theorem depth_arr_le_iff {items : List Value} {n : Nat} :
    (arr items).depth ≤ n + 1 ↔ ∀ v ∈ items, v.depth ≤ n := by
  rw [depth, Nat.add_le_add_iff_right]
  induction items with
  | nil => simp [itemsDepth]
  | cons v items ih => simp [itemsDepth, ih]

/-- An object is nested one level deeper than its deepest field. -/
theorem depth_obj_le_iff {fields : List (Str × Value)} {n : Nat} :
    (obj fields).depth ≤ n + 1 ↔ ∀ field ∈ fields, field.2.depth ≤ n := by
  rw [depth, Nat.add_le_add_iff_right]
  induction fields with
  | nil => simp [fieldsDepth]
  | cons first fields ih => simp [fieldsDepth, ih]

theorem fieldsEncodable_append (fields fields' : List (Str × Value)) :
    fieldsEncodable (fields ++ fields') = (fieldsEncodable fields && fieldsEncodable fields') := by
  induction fields with
  | nil => simp [fieldsEncodable]
  | cons first fields ih => simp [fieldsEncodable, ih, Bool.and_assoc]

end Value

/-! ### Dictionaries -/

section Dict

variable {κ β : Type*}

/-- `d[k] = v`: an old key keeps its place. -/
def setItem (eq : κ → κ → Bool) (k : κ) (v : β) : List (κ × β) → List (κ × β)
  | [] => [(k, v)]
  | (k', v') :: d => if eq k' k then (k', v) :: d else (k', v') :: setItem eq k v d

/-- `d.get(k)`. -/
def getItem (eq : κ → κ → Bool) (k : κ) (d : List (κ × β)) : Option β :=
  (d.find? fun entry => eq entry.1 k).map Prod.snd

/-- `d.pop(k, None)`, the dictionary that remains. -/
def popItem (eq : κ → κ → Bool) (k : κ) : List (κ × β) → List (κ × β)
  | [] => []
  | (k', v') :: d => if eq k' k then d else (k', v') :: popItem eq k d

variable {eq : κ → κ → Bool} {k : κ} {v : β} {d : List (κ × β)}

theorem mem_of_getItem (h : getItem eq k d = some v) : ∃ k', (k', v) ∈ d ∧ eq k' k := by
  rw [getItem, Option.map_eq_some_iff] at h
  obtain ⟨entry, hfind, rfl⟩ := h
  have hkey := List.find?_some hfind
  exact ⟨entry.1, List.mem_of_find?_eq_some hfind, hkey⟩

theorem popItem_sublist (eq : κ → κ → Bool) (k : κ) (d : List (κ × β)) :
    (popItem eq k d).Sublist d := by
  induction d with
  | nil => exact List.Sublist.refl _
  | cons first d ih =>
    rw [popItem]
    split
    · exact List.sublist_cons_self _ _
    · exact ih.cons_cons _

/-- What holds of the new entry and of the others holds of all. -/
theorem forall_mem_setItem {P : κ × β → Prop} (h : ∀ entry ∈ popItem eq k d, P entry)
    (hk : P (k, v)) (hold : ∀ entry ∈ d, eq entry.1 k → P (entry.1, v)) :
    ∀ entry ∈ setItem eq k v d, P entry := by
  induction d with
  | nil => simpa [setItem] using hk
  | cons first d ih =>
    obtain ⟨k', v'⟩ := first
    by_cases heq : eq k' k
    · simp only [popItem, heq, if_true] at h
      simp only [setItem, heq, if_true, List.mem_cons, forall_eq_or_imp]
      exact ⟨hold (k', v') List.mem_cons_self heq, h⟩
    · simp only [popItem, heq, Bool.false_eq_true, if_false, List.mem_cons, forall_eq_or_imp] at h
      simp only [setItem, heq, Bool.false_eq_true, if_false, List.mem_cons, forall_eq_or_imp]
      exact ⟨h.1, ih h.2 fun entry hentry => hold entry (List.mem_cons_of_mem _ hentry)⟩

/-- A new key comes last. -/
theorem setItem_of_not_mem (h : ∀ entry ∈ d, eq entry.1 k = false) :
    setItem eq k v d = d ++ [(k, v)] := by
  induction d with
  | nil => rfl
  | cons first d ih =>
    rw [List.forall_mem_cons] at h
    rw [setItem, if_neg (by rw [h.1]; exact Bool.false_ne_true), ih h.2, List.cons_append]

/-- The keys stay distinct. -/
theorem nodup_setItem (heq : ∀ entry ∈ d, eq entry.1 k ↔ entry.1 = k)
    (h : (d.map Prod.fst).Nodup) : ((setItem eq k v d).map Prod.fst).Nodup := by
  induction d with
  | nil => simp [setItem]
  | cons first d ih =>
    rw [List.forall_mem_cons] at heq
    rw [List.map_cons, List.nodup_cons] at h
    rw [setItem]
    split
    · exact List.nodup_cons.mpr h
    · rename_i hne
      rw [List.map_cons, List.nodup_cons]
      refine ⟨fun hmem => ?_, ih heq.2 h.2⟩
      have hkeys : ∀ entry ∈ setItem eq k v d, entry.1 ≠ first.1 := by
        have hold : ∀ entry ∈ d, entry.1 ≠ first.1 := by
          intro entry hentry hsame
          exact h.1 (hsame ▸ List.mem_map_of_mem hentry)
        refine forall_mem_setItem (fun entry hentry => ?_) ?_ fun entry hentry _ =>
          hold entry hentry
        · exact hold entry ((popItem_sublist eq k d).subset hentry)
        · exact fun hsame => hne (heq.1.mpr hsame.symm)
      obtain ⟨entry, hentry, hsame⟩ := List.mem_map.mp hmem
      exact hkeys entry hentry hsame

end Dict

end Py
