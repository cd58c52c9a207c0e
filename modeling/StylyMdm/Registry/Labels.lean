import StylyMdm.Library.Run
import StylyMdm.Registry.Reload

/-!
# Labels

`handle_set_device_label` refuses a label that another record has. It compares labels as they are
stored, stripped and then cut to 64 characters; a reload strips them again. A label that was cut
behind white space is therefore another label after a restart, and can be the label of another
record. The labels stay apart in every run in which no accepted label agrees with one of another
record once both are stripped.

The invariant (`Apart`) says more than that labels are unique: they are unique as a reload would
read them. So it holds of the file as well as of the memory, and a restart at any time keeps it
(`Apart.loadRegistry`). Of the handlers only the one that sets a label has anything to show; the
others change records without their labels, or remove records.

The condition (`LabelApart`) is on the message and the memory it meets. It asks nothing of a message
that is refused, be it for its label or for its device id, and nothing of an empty label. The run at
the end breaks it with a label of 65 characters.
-/

namespace StylyMdm.Registry

open Text Py

/-- No two records have the same label, unless it is empty. -/
def Memory.LabelsUnique (m : Memory) : Prop :=
  m.registry.Pairwise fun entry other => entry.2.label = [] ∨ entry.2.label ≠ other.2.label

/-- The labels are apart as a reload would read them. -/
structure Apart (records : List Record) : Prop where
  stripped : records.Pairwise fun record other =>
    strip isSpace record.label = [] ∨ strip isSpace record.label ≠ strip isSpace other.label
  visible : ∀ record ∈ records, record.label ≠ [] → strip isSpace record.label ≠ []

section Apart

variable {records : List Record} {record : Record}

theorem Apart.sublist {others : List Record} (h : Apart records) (hsub : others.Sublist records) :
    Apart others :=
  ⟨h.stripped.sublist hsub, fun record hrecord => h.visible record (hsub.subset hrecord)⟩

theorem Apart.unique {m : Memory} (h : Apart (m.registry.map Prod.snd)) : m.LabelsUnique := by
  have hpair := List.pairwise_map.mp h.stripped
  refine hpair.imp_of_mem fun {entry other} hentry _ hstripped => ?_
  rw [or_iff_not_imp_left]
  intro hlabel heq
  have hvisible := h.visible entry.2 (List.mem_map_of_mem hentry) hlabel
  rw [heq] at hvisible hstripped
  exact hstripped.elim hvisible fun hne => hne rfl

/-- Two labels that do not agree once they are stripped. -/
def Differ (label other : Str) : Prop :=
  strip isSpace label = [] ∨ strip isSpace label ≠ strip isSpace other

theorem Differ.symm {label other : Str} (h : Differ label other) : Differ other label := by
  rcases h with h | h
  · by_cases ho : strip isSpace other = []
    · exact .inl ho
    · exact .inr (by rw [h]; exact ho)
  · exact .inr h.symm

end Apart

/-! ### Changes of a record -/

section Set

variable {κ : Type*} {eq : κ → κ → Bool} {k : κ} {d : List (κ × Record)} {record : Record}

/-- Setting a record whose label differs from those of the others. -/
theorem Apart.setItem (h : Apart (d.map Prod.snd))
    (hvisible : record.label ≠ [] → strip isSpace record.label ≠ [])
    (hdiffer : ∀ entry ∈ popItem eq k d, Differ record.label entry.2.label) :
    Apart ((setItem eq k record d).map Prod.snd) := by
  refine ⟨?_, ?_⟩
  · induction d with
    | nil => simp [Py.setItem]
    | cons first d ih =>
      have hrest : Apart (d.map Prod.snd) := h.sublist (List.sublist_cons_self _ _)
      have hfirst := (List.pairwise_cons.mp h.stripped).1
      rw [Py.setItem]
      by_cases heq : eq first.1 k
      · simp only [popItem, heq, if_true] at hdiffer ⊢
        refine List.pairwise_cons.mpr ⟨fun other hother => ?_, hrest.stripped⟩
        obtain ⟨entry, hentry, rfl⟩ := List.mem_map.mp hother
        exact hdiffer entry hentry
      · simp only [popItem, heq, Bool.false_eq_true, if_false, List.forall_mem_cons] at hdiffer ⊢
        have hall : ∀ entry ∈ Py.setItem eq k record d, Differ first.2.label entry.2.label := by
          refine forall_mem_setItem (fun entry hentry => ?_) hdiffer.1.symm
            fun _ _ _ => hdiffer.1.symm
          exact hfirst entry.2 (List.mem_map_of_mem ((popItem_sublist eq k d).subset hentry))
        refine List.pairwise_cons.mpr ⟨fun other hother => ?_, ih hrest hdiffer.2⟩
        obtain ⟨entry, hentry, rfl⟩ := List.mem_map.mp hother
        exact hall entry hentry
  · have hall : ∀ entry ∈ Py.setItem eq k record d,
        entry.2.label ≠ [] → strip isSpace entry.2.label ≠ [] := by
      refine forall_mem_setItem (fun entry hentry => ?_) hvisible fun _ _ _ => hvisible
      exact h.visible entry.2 (List.mem_map_of_mem ((popItem_sublist eq k d).subset hentry))
    intro other hother
    obtain ⟨entry, hentry, rfl⟩ := List.mem_map.mp hother
    exact hall entry hentry

/-- A record and the others. -/
theorem Apart.differ (h : Apart (d.map Prod.snd)) (hget : getItem eq k d = some record) :
    (record.label ≠ [] → strip isSpace record.label ≠ []) ∧
      ∀ entry ∈ popItem eq k d, Differ record.label entry.2.label := by
  induction d with
  | nil => exact absurd hget (by simp [getItem])
  | cons first d ih =>
    have hfirst := (List.pairwise_cons.mp h.stripped).1
    by_cases heq : eq first.1 k
    · have hrecord : first.2 = record := by simpa [getItem, heq] using hget
      subst hrecord
      simp only [popItem, heq, if_true]
      exact ⟨h.visible first.2 List.mem_cons_self,
        fun entry hentry => hfirst entry.2 (List.mem_map_of_mem hentry)⟩
    · have hget' : getItem eq k d = some record := by simpa [getItem, heq] using hget
      obtain ⟨hvisible, hall⟩ := ih (h.sublist (List.sublist_cons_self _ _)) hget'
      simp only [popItem, heq, Bool.false_eq_true, if_false, List.forall_mem_cons]
      refine ⟨hvisible, ?_, hall⟩
      have hmem : record ∈ d.map Prod.snd := by
        obtain ⟨k', hmem, -⟩ := mem_of_getItem hget'
        exact List.mem_map_of_mem hmem
      exact Differ.symm (hfirst record hmem)

/-- Changing a record but for its label. -/
theorem Apart.setItem_of_label (h : Apart (d.map Prod.snd))
    (hlabel : record.label = ((getItem eq k d).getD {}).label) :
    Apart ((Py.setItem eq k record d).map Prod.snd) := by
  rcases hget : getItem eq k d with _ | old
  · rw [hget] at hlabel
    have hempty : record.label = [] := hlabel
    refine h.setItem (fun hne => absurd hempty hne) fun entry _ => .inl ?_
    rw [hempty]
    rfl
  · rw [hget] at hlabel
    have hsame : record.label = old.label := hlabel
    obtain ⟨hvisible, hall⟩ := h.differ hget
    refine h.setItem ?_ ?_
    · rw [hsame]
      exact hvisible
    · rw [hsame]
      exact hall

end Set

/-! ### Handlers -/

/-- The records of a memory. -/
def Memory.records (m : Memory) : List Record := m.registry.map Prod.snd

section Handlers

variable {m : Memory}

theorem Apart.updateRecord (h : Apart m.records) (serial : Value) {f : Record → Record}
    (hf : ∀ record, (f record).label = record.label) : Apart (m.updateRecord serial f).records := by
  rw [Memory.updateRecord]
  split
  · rename_i record hrecord
    refine h.setItem_of_label ?_
    rw [Memory.record] at hrecord
    rw [hrecord, hf]
    rfl
  · exact h

/-- The condition on a label: no other record has a label that agrees with it once both are
stripped, unless it is the very label, which is refused. Of a message that is refused for its device
id nothing is asked. -/
def LabelApart (m : Memory) : Event → Prop
  | .setDeviceLabel deviceId label =>
    ∀ text, strippedField label = some text →
      (deviceId.getD (.str [])).truthy → (deviceId.getD (.str [])).hashable →
      labelOwner m (deviceId.getD (.str [])) (text.take maxLabelLen) = none →
      ∀ entry ∈ popItem Value.same (deviceId.getD (.str [])) m.registry,
        Differ (text.take maxLabelLen) entry.2.label
  | _ => True

theorem strippedField_cases {value : Option Value} {text : Str}
    (h : strippedField value = some text) : ∃ s, text = strip isSpace s := by
  unfold strippedField at h
  split at h
  · exact ⟨_, (Option.some.inj h).symm⟩
  · split at h
    · exact absurd h (by simp)
    · exact ⟨[], (Option.some.inj h).symm⟩

private theorem Apart.handleSetDeviceLabel (h : Apart m.records) {deviceId label : Option Value}
    (hapart : LabelApart m (.setDeviceLabel deviceId label)) :
    Apart (handleSetDeviceLabel m deviceId label).memory.records := by
  unfold StylyMdm.Registry.handleSetDeviceLabel
  split
  · exact h
  · rename_i text htext
    simp only
    split
    · exact h
    · rename_i htruthy
      split
      · exact h
      · rename_i howner
        split
        · exact h
        · rename_i hhashable
          refine Apart.setItem h ?_ ?_
          · obtain ⟨s, rfl⟩ := strippedField_cases htext
            exact strip_take_ne_nil
          · -- an empty label is apart from all others
            by_cases hempty : text.take maxLabelLen = []
            · intro entry _
              refine .inl ?_
              change strip isSpace (text.take maxLabelLen) = []
              rw [hempty]
              rfl
            · rw [if_neg hempty] at howner
              exact hapart text htext (by simpa using htruthy) (by simpa using hhashable) howner

private theorem Apart.handleRegister (h : Apart m.records) (now : ℚ) (data : RegisterData)
    (remote : Option Str) : Apart (handleRegister m now data remote).memory.records := by
  unfold StylyMdm.Registry.handleRegister
  split
  · exact h
  · exact h
  · exact h
  · exact Apart.setItem_of_label h rfl

/-- **A handler keeps the labels apart.** -/
theorem Apart.handle (h : Apart m.records) (now : ℚ) {event : Event} (hapart : LabelApart m event) :
    Apart (handle m now event).memory.records := by
  have hupdate : ∀ (serial : Value) (f : Record → Record),
      (∀ record, (f record).label = record.label) → Apart (m.updateRecord serial f).records :=
    fun serial f hf => h.updateRecord serial hf
  cases event with
  | register data remote => exact h.handleRegister now data remote
  | setDeviceLabel deviceId label => exact h.handleSetDeviceLabel hapart
  | batteryUpdate deviceId level charging timestamp =>
    simp only [StylyMdm.Registry.handle]
    split
    · unfold handleBatteryUpdate
      split
      · exact h
      · exact h
      · exact hupdate _ _ fun _ => rfl
    · exact h
  | disconnect deviceId =>
    simp only [StylyMdm.Registry.handle]
    split
    · exact hupdate _ _ fun _ => rfl
    · exact h
  | retired deviceId =>
    simp only [StylyMdm.Registry.handle]
    split
    · exact h
    · exact hupdate _ _ fun _ => rfl
  | deleteAppResult deviceId status packageName =>
    simp only [StylyMdm.Registry.handle]
    unfold handleDeleteAppResult
    split
    · exact hupdate _ _ fun _ => rfl
    · exact h
  | setStartupApp deviceId packageName extra current =>
    simp only [StylyMdm.Registry.handle]
    split
    · exact hupdate _ _ fun _ => rfl
    · exact h
  | clearStartupApp deviceId current => exact hupdate _ _ fun _ => rfl
  | forgetDevice deviceId =>
    simp only [StylyMdm.Registry.handle]
    unfold handleForgetDevice
    simp only
    split
    · exact h
    · split
      · exact h
      · split
        · exact h
        · exact h.sublist ((popItem_sublist _ _ _).map _)
  | createGroup name =>
    simp only [StylyMdm.Registry.handle, handleCreateGroup]
    repeat' split
    all_goals exact h
  | renameGroup name newName =>
    simp only [StylyMdm.Registry.handle, handleRenameGroup]
    repeat' split
    all_goals exact h
  | deleteGroup name =>
    simp only [StylyMdm.Registry.handle, handleDeleteGroup]
    repeat' split
    all_goals exact h
  | setDeviceGroups deviceId groups =>
    simp only [StylyMdm.Registry.handle, handleSetDeviceGroups]
    repeat' split
    all_goals exact h
  | setGroupMembers name members =>
    simp only [StylyMdm.Registry.handle, handleSetGroupMembers]
    repeat' split
    all_goals exact h
  | save => exact h
  | restart => exact h

end Handlers

/-! ### Restarts -/

section Restart

variable {floatRepr : ℚ → Str} {m : Memory}

/-- The texts of the keys keep the labels apart, whichever records they drop. -/
theorem Apart.texts (h : Apart m.records) : Apart ((m.texts floatRepr).map Prod.snd) := by
  have hfold : ∀ (pairs d : List (Str × Record)), Apart (d.map Prod.snd) →
      Apart (pairs.map Prod.snd) →
      (∀ entry ∈ d, ∀ pair ∈ pairs, Differ pair.2.label entry.2.label) →
      Apart ((pairs.foldl
        (fun d pair => Py.setItem (fun k k' => decide (k = k')) pair.1 pair.2 d) d).map
          Prod.snd) := by
    intro pairs
    induction pairs with
    | nil => exact fun d hd _ _ => hd
    | cons pair pairs ih =>
      intro d hd hpairs hcross
      have hrest : Apart (pairs.map Prod.snd) := hpairs.sublist (List.sublist_cons_self _ _)
      rw [List.foldl_cons]
      refine ih _ ?_ hrest ?_
      · refine hd.setItem (hpairs.visible pair.2 List.mem_cons_self) fun entry hentry => ?_
        exact hcross entry ((popItem_sublist _ _ _).subset hentry) pair List.mem_cons_self
      · have hnew : ∀ pair' ∈ pairs, Differ pair'.2.label pair.2.label := by
          intro pair' hpair'
          exact Differ.symm ((List.pairwise_cons.mp hpairs.stripped).1 pair'.2
            (List.mem_map_of_mem hpair'))
        refine forall_mem_setItem (fun entry hentry pair' hpair' => ?_) hnew fun _ _ _ => hnew
        exact hcross entry ((popItem_sublist _ _ _).subset hentry) pair'
          (List.mem_cons_of_mem _ hpair')
  refine hfold _ [] ⟨List.Pairwise.nil, by simp⟩ ?_ (by simp)
  rw [List.map_map]
  exact h

/-- **A reload keeps the labels apart.** -/
theorem Apart.loadRegistry (h : Apart m.records) (now : ℚ) :
    Apart (loadRegistry now (payload floatRepr m)).records := by
  have htexts : Apart ((m.texts floatRepr).map Prod.snd) := h.texts
  rw [loadRegistry_payload]
  have hrecords : (((m.texts floatRepr).map fun entry =>
      (Value.str entry.1, entry.2.loaded now)).map Prod.snd) =
        ((m.texts floatRepr).map Prod.snd).map (Record.loaded now) := by
    rw [List.map_map, List.map_map]
    rfl
  change Apart (List.map Prod.snd _)
  rw [hrecords]
  have hlabel : ∀ record : Record, (record.loaded now).label = strip isSpace record.label :=
    fun _ => rfl
  refine ⟨?_, ?_⟩
  · rw [List.pairwise_map]
    refine htexts.stripped.imp fun {record other} hdiffer => ?_
    rwa [hlabel, hlabel, strip_strip, strip_strip]
  · intro record hrecord hne
    obtain ⟨old, -, rfl⟩ := List.mem_map.mp hrecord
    rw [hlabel] at hne ⊢
    rwa [strip_strip]

end Restart

/-! ### Runs -/

/-- **Labels are unique.** In every run of registrations, labels, forgotten devices, other messages
and restarts from the empty registry in which no label is accepted that agrees with the label of
another record once both are stripped, no two records have the same non-empty label. -/
theorem labels_unique (floatRepr : ℚ → Str) (depthLimit : Nat) (events : List (ℚ × Event))
    (hapart : Run.Along (State.step floatRepr depthLimit)
      (fun s event => LabelApart s.memory event.2) {} events) :
    (Run.exec (State.step floatRepr depthLimit) {} events).memory.LabelsUnique := by
  have hempty : Apart (Memory.records {}) := ⟨List.Pairwise.nil, by simp [Memory.records]⟩
  have hend : (Run.exec (State.step floatRepr depthLimit) {} events).Holds floatRepr
      fun m => Apart m.records := by
    refine hapart.invariant (fun s event h hlabel => ?_) (State.Holds.initial hempty)
    exact h.step hempty (fun m now hm => hm.loadRegistry now) (h.memory.handle event.1 hlabel)
  exact hend.memory.unique

/-- A message that sets the label of a device. -/
def setLabel (deviceId label : Str) : ℚ × Event :=
  (0, .setDeviceLabel (some (.str deviceId)) (some (.str label)))

theorem labels_unique_of_two_devices :
    (Run.exec (State.step (fun _ => []) 1000) {}
      [setLabel (ofString "A") (ofString "one"), setLabel (ofString "B") (ofString "two"),
        (1, .restart)]).memory.LabelsUnique := by
  refine labels_unique (fun _ => []) 1000 _ ⟨?_, ?_, trivial, trivial⟩
  · intro text _ _ _ _ entry hentry
    exact absurd hentry (by simp [popItem])
  · intro text htext _ _ _ entry hentry
    have hothers : popItem Value.same (.str (ofString "B"))
        (State.step (fun _ => []) 1000 {}
          (setLabel (ofString "A") (ofString "one"))).memory.registry =
          [(.str (ofString "A"), { label := ofString "one" })] := rfl
    have hentry' : entry = (.str (ofString "A"), { label := ofString "one" }) :=
      List.mem_singleton.mp (hothers ▸ hentry)
    have htext' : text = ofString "two" := (Option.some.inj htext).symm
    rw [hentry', htext']
    exact .inr (by decide +kernel)

/-- A label of 65 characters that is cut behind a blank. -/
def longLabel : Str := List.replicate 63 120 ++ [32, 121]

/-- The label that a reload makes of it. -/
def cutLabel : Str := List.replicate 63 120

/-- After a restart two records have the same label: one was set to it, the other one to a label
that was cut behind a blank. -/
theorem labels_equal_after_restart :
    ¬ (Run.exec (State.step (fun _ => []) 1000) {}
      [setLabel (ofString "A") longLabel, setLabel (ofString "B") cutLabel,
        (1, .restart)]).memory.LabelsUnique := by
  unfold Memory.LabelsUnique
  decide +kernel

end StylyMdm.Registry
