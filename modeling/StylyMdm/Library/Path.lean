import StylyMdm.Library.Text

/-!
# Paths

Texts of paths and their components, with `posixpath.normpath` of the Python library. A path is cut
at every slash, so a text is the join of its components, and a list of components without slashes
is what its join is cut into (`join_components`, `components_join`).

**Normal paths.** `normpath` reads the components from left to right and keeps a stack: an empty
component and `.` add nothing, and `..` removes the last name, or stays where there is none to
remove in a relative path. One or two slashes at the beginning are kept as they are, more than two
become one (`initialSlashes`). For a path without `..` the stack is the list of the components that
are names (`normpath_eq`, `normpath_absolute`), and their join is shorter than the path was
(`length_join_properComponents_lt`).

The lemmas about `join` in between are the ones that programs need which build a path and then look
at its text again: its first and last character, its length, and its parts.
-/

namespace Text

/-- The separator of components. -/
def slash : Point := 47

/-- The component `.`. -/
def dot : Str := [46]

/-- The component `..`. -/
def dotdot : Str := [46, 46]

/-- `'/'.join(components)`. -/
def join (components : List Str) : Str := [slash].intercalate components

/-- `text.split('/')`. -/
def components (text : Str) : List Str := text.splitOn slash

section Components

variable {text : Str} {parts : List Str}

theorem join_components (text : Str) : join (components text) = text :=
  List.intercalate_splitOn slash

theorem components_join (h : ∀ part ∈ parts, slash ∉ part) (hne : parts ≠ []) :
    components (join parts) = parts :=
  List.splitOn_intercalate slash h hne

theorem components_ne_nil (text : Str) : components text ≠ [] := List.splitOn_ne_nil slash text

theorem components_append_slash (text rest : Str) :
    components (text ++ slash :: rest) = components text ++ components rest :=
  List.splitOn_append_cons_self text rest

/-- A component has no slash. -/
theorem slash_not_mem_of_mem_components {part : Str} (h : part ∈ components text) :
    slash ∉ part := by
  induction text generalizing part with
  | nil =>
    rw [components, List.splitOn_nil, List.mem_singleton] at h
    rw [h]
    exact List.not_mem_nil
  | cons c text ih =>
    rw [components, List.splitOn_cons_eq_if_modifyHead] at h
    split at h
    · rcases List.mem_cons.mp h with rfl | h
      · exact List.not_mem_nil
      · exact ih h
    · rename_i hne
      have hc : slash ≠ c := by
        intro heq
        exact hne (by rw [heq]; exact beq_self_eq_true c)
      rcases hsplit : text.splitOn slash with _ | ⟨first, rest⟩
      · exact absurd hsplit (List.splitOn_ne_nil slash text)
      · rw [hsplit, List.modifyHead_cons] at h
        have hall : ∀ part ∈ first :: rest, slash ∉ part := by
          intro part hpart
          exact ih (by rwa [components, hsplit])
        rcases List.mem_cons.mp h with rfl | h
        · rw [List.mem_cons, not_or]
          exact ⟨hc, hall first List.mem_cons_self⟩
        · exact hall part (List.mem_cons_of_mem _ h)

theorem join_cons_cons (part part' : Str) (parts : List Str) :
    join (part :: part' :: parts) = part ++ slash :: join (part' :: parts) := by
  rw [join, join, List.intercalate_cons_cons]
  simp

theorem subset_join {part : Str} (h : part ∈ parts) : part ⊆ join parts := by
  induction parts with
  | nil => exact absurd h List.not_mem_nil
  | cons first parts ih =>
    rcases parts with _ | ⟨second, parts⟩
    · rw [List.mem_singleton.mp h, join, List.intercalate_singleton]
      exact List.Subset.refl _
    · rw [join_cons_cons]
      rcases List.mem_cons.mp h with rfl | h
      · exact List.subset_append_left _ _
      · exact fun c hc => List.mem_append_right _ (List.mem_cons_of_mem _ (ih h hc))

theorem length_le_length_join {part : Str} (h : part ∈ parts) :
    part.length ≤ (join parts).length := by
  induction parts with
  | nil => exact absurd h List.not_mem_nil
  | cons first parts ih =>
    rcases parts with _ | ⟨second, parts⟩
    · rw [List.mem_singleton.mp h, join, List.intercalate_singleton]
    · rw [join_cons_cons, List.length_append, List.length_cons]
      rcases List.mem_cons.mp h with rfl | h
      · omega
      · have hle := ih h
        omega

theorem mem_join {c : Point} (h : c ∈ join parts) : c = slash ∨ ∃ part ∈ parts, c ∈ part := by
  induction parts with
  | nil => exact absurd h List.not_mem_nil
  | cons first parts ih =>
    rcases parts with _ | ⟨second, parts⟩
    · rw [join, List.intercalate_singleton] at h
      exact .inr ⟨first, List.mem_cons_self, h⟩
    · rw [join_cons_cons, List.mem_append, List.mem_cons] at h
      rcases h with h | h | h
      · exact .inr ⟨first, List.mem_cons_self, h⟩
      · exact .inl h
      · rcases ih h with h | ⟨part, hpart, h⟩
        · exact .inl h
        · exact .inr ⟨part, List.mem_cons_of_mem _ hpart, h⟩

/-- The characters of a component are characters of the text. -/
theorem subset_of_mem_components {part : Str} (h : part ∈ components text) : part ⊆ text := by
  have hsub := subset_join h
  rwa [join_components] at hsub

theorem join_append (parts parts' : List Str) (h : parts ≠ []) (h' : parts' ≠ []) :
    join (parts ++ parts') = join parts ++ slash :: join parts' := by
  induction parts with
  | nil => exact absurd rfl h
  | cons part parts ih =>
    rcases parts with _ | ⟨part', parts⟩
    · obtain ⟨first, rest, rfl⟩ := List.exists_cons_of_ne_nil h'
      rw [List.singleton_append, join_cons_cons]
      simp [join]
    · rw [List.cons_append, List.cons_append, join_cons_cons, join_cons_cons, ← List.cons_append,
        ih (List.cons_ne_nil _ _), List.append_assoc, List.cons_append]

/-- The first character of a join is the first one of its first component. -/
theorem head?_join {part : Str} (h : part ≠ []) : (join (part :: parts)).head? = part.head? := by
  obtain ⟨c, rest, rfl⟩ := List.exists_cons_of_ne_nil h
  rcases parts with _ | ⟨part', parts⟩
  · simp [join]
  · rw [join_cons_cons]
    rfl

/-- The last character of a join is the last one of its last component. -/
theorem getLast?_join {part : Str} (h : part ≠ []) :
    (join (parts ++ [part])).getLast? = part.getLast? := by
  rcases parts with _ | ⟨part', parts⟩
  · simp [join]
  · rw [join_append _ _ (List.cons_ne_nil _ _) (List.cons_ne_nil _ _)]
    have hsingle : join [part] = part := List.intercalate_singleton
    rw [hsingle, List.getLast?_append_of_ne_nil _ (List.cons_ne_nil _ _),
      List.getLast?_cons_of_ne_nil h]

/-- A join has no slash at its ends. -/
theorem strip_join (h : ∀ part ∈ parts, part ≠ [] ∧ slash ∉ part) :
    strip (· = slash) (join parts) = join parts := by
  refine strip_eq_self ?_ ?_
  · rcases parts with _ | ⟨part, parts⟩
    · simp [join]
    · intro c hc
      rw [head?_join (h part List.mem_cons_self).1] at hc
      have hmem : c ∈ part := List.mem_of_mem_head? hc
      have hslash := (h part List.mem_cons_self).2
      rw [decide_eq_true_iff]
      rintro rfl
      exact hslash hmem
  · rcases List.eq_nil_or_concat parts with rfl | ⟨init, part, rfl⟩
    · simp [join]
    · intro c hc
      rw [List.concat_eq_append] at h hc
      rw [getLast?_join (h part (by simp)).1] at hc
      have hmem : c ∈ part := List.mem_of_mem_getLast? hc
      have hslash := (h part (by simp)).2
      rw [decide_eq_true_iff]
      rintro rfl
      exact hslash hmem

/-- A path below another one has its components first. -/
theorem append_of_join_append {parts' : List Str} {rest : Str}
    (h : ∀ part ∈ parts, slash ∉ part) (hne : parts ≠ [])
    (h' : ∀ part ∈ parts', slash ∉ part) (hne' : parts' ≠ [])
    (heq : join parts' = join parts ++ slash :: rest) : parts' = parts ++ components rest := by
  rw [← components_join h' hne', heq, components_append_slash, components_join h hne]

/-- Fewer components make a shorter path. -/
theorem length_join_le {parts parts' : List Str} (h : parts.Sublist parts') :
    (join parts).length ≤ (join parts').length := by
  induction h with
  | slnil => exact le_rfl
  | @cons parts parts' part h ih =>
    refine ih.trans ?_
    rcases parts' with _ | ⟨part', parts'⟩
    · simp [join]
    · rw [join_cons_cons, List.length_append, List.length_cons]
      omega
  | @cons_cons parts parts' part h ih =>
    rcases parts with _ | ⟨first, parts⟩
    · have hle := length_le_length_join (List.mem_cons_self (a := part) (l := parts'))
      simpa [join] using hle
    · obtain ⟨first', others, rfl⟩ :=
        List.exists_cons_of_ne_nil (List.ne_nil_of_mem (h.subset List.mem_cons_self))
      rw [join_cons_cons, join_cons_cons, List.length_append, List.length_append, List.length_cons,
        List.length_cons]
      omega

end Components

/-! ### Normal paths -/

/-- The number of slashes `normpath` keeps at the beginning. -/
def initialSlashes : Str → Nat
  | c :: rest =>
    if c ≠ slash then 0
    else
      match rest with
      | c' :: rest' => if c' = slash ∧ rest'.head? ≠ some slash then 2 else 1
      | [] => 1
  | [] => 0

/-- One component of `normpath`. -/
def normStep (slashes : Nat) (parts : List Str) (part : Str) : List Str :=
  if part = [] ∨ part = dot then parts
  else if part ≠ dotdot ∨ (slashes = 0 ∧ parts = []) ∨ parts.getLast? = some dotdot then
    parts ++ [part]
  else parts.dropLast

/-- `posixpath.normpath`. -/
def normpath (path : Str) : Str :=
  let text := List.replicate (initialSlashes path) slash ++
    join ((components path).foldl (normStep (initialSlashes path)) [])
  if path = [] ∨ text = [] then dot else text

/-- The components that `normpath` keeps of a path without `..`. -/
def properComponents (path : Str) : List Str :=
  (components path).filter fun part => part ≠ [] ∧ part ≠ dot

theorem foldl_normStep {slashes : Nat} {parts : List Str} (h : dotdot ∉ parts) (acc : List Str) :
    parts.foldl (normStep slashes) acc =
      acc ++ parts.filter fun part => part ≠ [] ∧ part ≠ dot := by
  induction parts generalizing acc with
  | nil => simp
  | cons part parts ih =>
    rw [List.mem_cons, not_or] at h
    rw [List.foldl_cons, ih h.2, normStep]
    by_cases hskip : part = [] ∨ part = dot
    · have hfalse : ¬ (part ≠ [] ∧ part ≠ dot) := by tauto
      rw [if_pos hskip, List.filter_cons_of_neg (by simpa using hfalse)]
    · have htrue : part ≠ [] ∧ part ≠ dot := by tauto
      rw [if_neg hskip, if_pos (.inl (Ne.symm h.1)), List.filter_cons_of_pos (by simpa using htrue)]
      simp

/-- An absolute path begins with one or two slashes, as far as `normpath` keeps them. -/
theorem initialSlashes_absolute {path rest : Str} (habs : path = slash :: rest) :
    initialSlashes path = 1 ∨ initialSlashes path = 2 := by
  rw [habs]
  rcases rest with _ | ⟨c, rest⟩
  · exact .inl rfl
  · simp only [initialSlashes, ne_eq, not_true_eq_false, if_false]
    split
    · exact .inr rfl
    · exact .inl rfl

/-- `normpath` of an absolute path without `..` drops the empty components and the dots. -/
theorem normpath_eq {path rest : Str} (habs : path = slash :: rest)
    (h : dotdot ∉ components path) :
    normpath path =
      List.replicate (initialSlashes path) slash ++ join (properComponents path) := by
  have hne : List.replicate (initialSlashes path) slash ++ join (properComponents path) ≠ [] := by
    rcases initialSlashes_absolute habs with hk | hk <;> simp [hk, List.replicate]
  rw [normpath]
  simp only [foldl_normStep h, List.nil_append]
  rw [if_neg]
  · rfl
  · rw [not_or]
    exact ⟨by simp [habs], hne⟩

/-- `normpath` of an absolute path without `..`. -/
theorem normpath_absolute {path rest : Str} (habs : path = slash :: rest)
    (h : dotdot ∉ components path) :
    ∃ k, (k = 1 ∨ k = 2) ∧
      normpath path = List.replicate k slash ++ join (properComponents path) :=
  ⟨initialSlashes path, initialSlashes_absolute habs, normpath_eq habs h⟩

/-- Dropping components does not make an absolute path longer. -/
theorem length_join_properComponents_lt {path rest : Str} (habs : path = slash :: rest) :
    (join (properComponents path)).length < path.length := by
  have hcomp : components path = [] :: components rest := by
    rw [habs]
    exact components_append_slash [] rest
  have hdrop : properComponents path = (components rest).filter fun part =>
    part ≠ [] ∧ part ≠ dot := by
    rw [properComponents, hcomp, List.filter_cons_of_neg (by simp)]
  have hle : (join (properComponents path)).length ≤ (join (components rest)).length := by
    rw [hdrop]
    exact length_join_le List.filter_sublist
  rw [join_components] at hle
  have hlen : path.length = rest.length + 1 := by rw [habs, List.length_cons]
  omega

/-- The proper components of a path that is made of proper components. -/
theorem properComponents_join {parts : List Str}
    (h : ∀ part ∈ parts, part ≠ [] ∧ part ≠ dot ∧ slash ∉ part) (hne : parts ≠ []) :
    components (slash :: join parts) = [] :: parts ∧
      properComponents (slash :: join parts) = parts := by
  have hcomp : components (slash :: join parts) = [] :: parts := by
    have happend := components_append_slash [] (join parts)
    rw [components_join (fun part hpart => (h part hpart).2.2) hne] at happend
    exact happend
  refine ⟨hcomp, ?_⟩
  rw [properComponents, hcomp, List.filter_cons_of_neg (by simp), List.filter_eq_self]
  intro part hpart
  simpa using ⟨(h part hpart).1, (h part hpart).2.1⟩

/-- Empty components and dots behind a path are further components of it. -/
theorem components_append_marks (text : Str) {marks : List Str} (h : ∀ mark ∈ marks, slash ∉ mark) :
    components (text ++ marks.flatMap (slash :: ·)) = components text ++ marks := by
  induction marks generalizing text with
  | nil => simp
  | cons mark marks ih =>
    rw [List.forall_mem_cons] at h
    have hmark : components mark = [mark] := by
      have hjoin : components (join [mark]) = [mark] :=
        components_join (by simpa using h.1) (by simp)
      rwa [join, List.intercalate_singleton] at hjoin
    rw [List.flatMap_cons, ← List.append_assoc, ih _ h.2, components_append_slash, hmark,
      List.append_assoc, List.singleton_append]

theorem properComponents_spec {path part : Str} (h : part ∈ properComponents path) :
    part ≠ [] ∧ part ≠ dot ∧ part ∈ components path := by
  obtain ⟨hmem, hproper⟩ := List.mem_filter.mp h
  rw [decide_eq_true_iff] at hproper
  exact ⟨hproper.1, hproper.2, hmem⟩

end Text
