import StylyMdm.Library.Path

/-!
# Pure paths

The paths of `pathlib`, as far as `joinpath` with single names goes: segments without a separator.
On POSIX such a name is one component. On Windows it can begin with a drive, and a drive that is
not the one of the path replaces the whole path (`exists_not_isBelow`); without drives the names
lead below the path (`isBelow_joinpath`). That is so before and after Python 3.12, which took over
the rules of `ntpath`.

What the versions do differently is a field of the flavour:

* which characters can be the letter of a drive, and in which form two drives are compared;
* whether all names are parsed together, so that only those from the last drive on count, or joined
  one after the other;
* whether a path keeps its own letter or takes the one of the name, when the drive of a name is the
  drive of the path in another letter case (`joinedDrive`).

`IsBelow` is what a program wants to know of a path that it has built from foreign names: the drive
and the root of the base, and a longer tail without `..`.
-/

namespace Pathlib

open Text

/-- The drives of Windows: up to Python 3.11 the letter of a drive is an ASCII letter, in later
versions any character. `lower` is what drives are compared by. Up to Python 3.11 the names that are
joined are parsed together, and what stands before the last drive is not looked at. -/
structure Drives where
  isLetter : Point → Bool
  lower : Str → Str
  lower_ne : lower [67, 58] ≠ lower [68, 58]
  parsedTogether : Bool

/-- The two flavours of a path. -/
inductive Flavour
  | posix
  | windows (drives : Drives)

/-- A drive, a root and the components below, separated by nothing. -/
structure PurePath where
  drive : Str
  root : Str
  tail : List Str
deriving DecidableEq

namespace Flavour

variable (flavour : Flavour)

/-- The drive at the beginning of a name, such as `C:`. -/
def drive (name : Str) : Str :=
  match flavour with
  | posix => []
  | windows drives =>
    if name.head?.any drives.isLetter ∧ name[1]? = some 58 then name.take 2 else []

/-- Do two drives count as one? Windows compares them in lower case. -/
def SameDrive (drive drive' : Str) : Prop :=
  match flavour with
  | posix => drive = drive'
  | windows drives => drives.lower drive = drives.lower drive'

instance (drive drive' : Str) : Decidable (flavour.SameDrive drive drive') :=
  match flavour with
  | posix => inferInstanceAs (Decidable (drive = drive'))
  | windows drives => inferInstanceAs (Decidable (drives.lower drive = drives.lower drive'))

/-- The drive of a path that a name with the same drive is joined to: up to Python 3.11 the path
keeps its own letter, in later versions it takes that of the name. -/
def joinedDrive (own name : Str) : Str :=
  match flavour with
  | posix => own
  | windows drives => if drives.parsedTogether then own else name

/-- `path.joinpath(name)`. The components `""` and `"."` say nothing. -/
def joinName (path : PurePath) (name : Str) : PurePath :=
  let drive := flavour.drive name
  let rest := name.drop drive.length
  let tail := if rest = [] ∨ rest = dot then [] else [rest]
  if drive = [] then { path with tail := path.tail ++ tail }
  else if flavour.SameDrive drive path.drive then
    { drive := flavour.joinedDrive path.drive drive, root := path.root, tail := path.tail ++ tail }
  else { drive := drive, root := [], tail := tail }

/-- The names from the last one with a drive on. -/
def fromLastDrive : List Str → List Str
  | [] => []
  | name :: names =>
    if names.any fun later => flavour.drive later ≠ [] then fromLastDrive names else name :: names

/-- The names that `joinpath` looks at. -/
def parsedNames (names : List Str) : List Str :=
  match flavour with
  | posix => names
  | windows drives => if drives.parsedTogether then (windows drives).fromLastDrive names else names

/-- `path.joinpath(*names)`. -/
def joinpath (path : PurePath) (names : List Str) : PurePath :=
  (flavour.parsedNames names).foldl flavour.joinName path

/-- A proper descendant of the directory `base`. -/
def IsBelow (base path : PurePath) : Prop :=
  flavour.SameDrive path.drive base.drive ∧ path.root = base.root ∧
    ∃ below, below ≠ [] ∧ dotdot ∉ below ∧ path.tail = base.tail ++ below

variable {flavour}

/-- A drive has two characters. -/
theorem drive_eq_nil {name : Str} (h : name.length < 2) : flavour.drive name = [] := by
  cases flavour with
  | posix => rfl
  | windows drives =>
    have hsecond : name[1]? = none := List.getElem?_eq_none (by omega)
    rw [drive, if_neg]
    simp [hsecond]

theorem sameDrive_refl (drive : Str) : flavour.SameDrive drive drive := by
  cases flavour <;> rfl

theorem fromLastDrive_eq_self {names : List Str} (h : ∀ name ∈ names, flavour.drive name = []) :
    flavour.fromLastDrive names = names := by
  cases names with
  | nil => rfl
  | cons name names =>
    rw [fromLastDrive, if_neg]
    rw [List.any_eq_true]
    rintro ⟨later, hlater, hdrive⟩
    exact of_decide_eq_true hdrive (h later (List.mem_cons_of_mem _ hlater))

theorem exists_drive_fromLastDrive {names : List Str}
    (h : ∃ name ∈ names, flavour.drive name ≠ []) :
    ∃ name ∈ flavour.fromLastDrive names, flavour.drive name ≠ [] := by
  induction names with
  | nil => exact h
  | cons name names ih =>
    rw [fromLastDrive]
    split
    · rename_i hlater
      obtain ⟨later, hmem, hdrive⟩ := List.any_eq_true.mp hlater
      exact ih ⟨later, hmem, of_decide_eq_true hdrive⟩
    · exact h

theorem parsedNames_eq_self {names : List Str} (h : ∀ name ∈ names, flavour.drive name = []) :
    flavour.parsedNames names = names := by
  cases flavour with
  | posix => rfl
  | windows drives =>
    rw [parsedNames, fromLastDrive_eq_self h]
    split <;> rfl

theorem exists_drive_parsedNames {names : List Str} (h : ∃ name ∈ names, flavour.drive name ≠ []) :
    ∃ name ∈ flavour.parsedNames names, flavour.drive name ≠ [] := by
  cases flavour with
  | posix => exact h
  | windows drives =>
    rw [parsedNames]
    split
    · exact exists_drive_fromLastDrive h
    · exact h

/-- Names without drives are components. -/
theorem foldl_joinName {path : PurePath} {names : List Str}
    (h : ∀ name ∈ names, flavour.drive name = [] ∧ name ≠ [] ∧ name ≠ dot) :
    names.foldl flavour.joinName path = { path with tail := path.tail ++ names } := by
  induction names generalizing path with
  | nil => simp
  | cons name names ih =>
    obtain ⟨hdrive, hnil, hdot⟩ := h name List.mem_cons_self
    have hname : flavour.joinName path name = { path with tail := path.tail ++ [name] } := by
      simp [joinName, hdrive, hnil, hdot]
    rw [List.foldl_cons, hname, ih fun name hmem => h name (List.mem_cons_of_mem _ hmem)]
    simp

theorem isBelow_joinpath {path : PurePath} {names : List Str} (hne : names ≠ [])
    (h : ∀ name ∈ names, flavour.drive name = [] ∧ name ≠ [] ∧ name ≠ dot ∧ name ≠ dotdot) :
    flavour.IsBelow path (flavour.joinpath path names) := by
  rw [joinpath, parsedNames_eq_self fun name hmem => (h name hmem).1,
    foldl_joinName fun name hmem => ⟨(h name hmem).1, (h name hmem).2.1, (h name hmem).2.2.1⟩]
  exact ⟨sameDrive_refl _, rfl, names, hne, fun hmem => (h _ hmem).2.2.2 rfl, rfl⟩

theorem drive_foldl_joinName {path : PurePath} {names : List Str}
    (h : ∀ name ∈ names, flavour.drive name = []) :
    (names.foldl flavour.joinName path).drive = path.drive := by
  induction names generalizing path with
  | nil => rfl
  | cons name names ih =>
    refine (ih fun name hmem => h name (List.mem_cons_of_mem _ hmem)).trans ?_
    rw [joinName]
    simp only [h name List.mem_cons_self, if_true]

/-- Once the root is lost it does not come back. -/
theorem root_foldl_joinName {path : PurePath} (h : path.root = []) (names : List Str) :
    (names.foldl flavour.joinName path).root = [] := by
  induction names generalizing path with
  | nil => exact h
  | cons name names ih =>
    refine ih ?_
    rw [joinName]
    split
    · exact h
    · split
      · exact h
      · rfl

/-- A name with a drive leads out of some directory. -/
theorem exists_not_isBelow {names : List Str} (h : ∃ name ∈ names, flavour.drive name ≠ []) :
    ∃ base : PurePath, ¬ flavour.IsBelow base (flavour.joinpath base names) := by
  have hparsed := exists_drive_parsedNames h
  simp only [joinpath]
  generalize flavour.parsedNames names = parsed at hparsed
  cases flavour with
  | posix =>
    obtain ⟨name, -, hdrive⟩ := hparsed
    exact absurd rfl hdrive
  | windows drives =>
    -- the first drive decides, and it is not both of two drives
    have hfind : (parsed.find? fun name => (windows drives).drive name ≠ []).isSome := by
      rw [List.find?_isSome]
      obtain ⟨name, hname, hdrive⟩ := hparsed
      exact ⟨name, hname, decide_eq_true hdrive⟩
    obtain ⟨name, hname⟩ := Option.isSome_iff_exists.mp hfind
    obtain ⟨hdrive, before, after, rfl, hbefore⟩ := List.find?_eq_some_iff_append.mp hname
    rw [decide_eq_true_iff] at hdrive
    obtain ⟨other, hother⟩ : ∃ other : Str,
        drives.lower ((windows drives).drive name) ≠ drives.lower other := by
      by_cases hc : drives.lower ((windows drives).drive name) = drives.lower [67, 58]
      · exact ⟨[68, 58], hc ▸ drives.lower_ne⟩
      · exact ⟨[67, 58], hc⟩
    refine ⟨⟨other, [92], []⟩, fun hbelow => ?_⟩
    have hkept : (before.foldl (windows drives).joinName ⟨other, [92], []⟩).drive = other :=
      drive_foldl_joinName fun name hmem => by simpa using hbefore name hmem
    have hlost : ((windows drives).joinName
        (before.foldl (windows drives).joinName ⟨other, [92], []⟩) name).root = [] := by
      have hdifferent : ¬ (windows drives).SameDrive ((windows drives).drive name)
          (before.foldl (windows drives).joinName ⟨other, [92], []⟩).drive := by
        rw [hkept]
        exact hother
      rw [joinName, if_neg hdrive, if_neg hdifferent]
    have hroot := hbelow.2.1
    rw [List.foldl_append, List.foldl_cons] at hroot
    exact List.cons_ne_nil _ _ (hroot.symm.trans (root_foldl_joinName hlost after))

end Flavour

end Pathlib
