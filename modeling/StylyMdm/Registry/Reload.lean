import StylyMdm.Registry.Handlers

/-!
# What a reload makes of the registry

`load_registry` of what `save_registry` has written, as a function of the memory that was saved:
every record is `Record.loaded`, and the records are those of the texts of the keys. No step of the
reload can raise.

That is not so for any file: a battery level that is infinite makes `int` raise. But the level of a
battery in the memory is an integer, whatever was reported, since it has been through the same
coercion before; so it is written as one and loaded without an exception (`coerceBattery_toValue`).

The last section is the induction that the results about runs share. A property of memories that
every handler keeps and that a reload brings about holds of the memory, and of the memory that the
file was written from, in every state of every run (`State.Holds.step`). The file is not mentioned
in such a property, only what it was made of.
-/

namespace StylyMdm.Registry

open Text Py

/-! ### Records -/

/-- A battery that was saved and loaded. -/
def Battery.loaded (now : ℚ) (battery : Battery) : Option Battery :=
  if battery.level < 0 ∨ 100 < battery.level then none
  else
    some { battery with
      lastSeen := if isNumber battery.lastSeen then battery.lastSeen else .float (.finite now) }

/-- A record that was saved and loaded. -/
def Record.loaded (now : ℚ) (record : Record) : Record where
  label := strip isSpace record.label
  model := record.model
  ip := record.ip
  lastSeen := match record.lastSeen with
    | .bool b => .bool b
    | .int n => .int n
    | .float x => .float x
    | _ => .null
  startupApp := match record.startupApp with
    | .obj fields => .obj fields
    | _ => .null
  battery := some ((record.battery.getD none).bind (Battery.loaded now))
  versionCode := some (record.versionCode.getD none)
  versionName := some (record.versionName.getD [])
  retired := some (record.retired.getD false)
  identityKind := some (record.identityKind.getD .legacy)

theorem lookup_field (key k : String) (value : Option Value) :
    (field key value).lookup (ofString k) = if k = key then value else none := by
  cases value with
  | none => simp [field]
  | some v =>
    by_cases h : k = key
    · simp [field, h]
    · simp [field, h, List.lookup_cons]

/-- The fields of a saved record. -/
theorem Record.get_toValue (record : Record) :
    record.toValue.get (ofString "label") = .str record.label ∧
    record.toValue.get (ofString "model") = .str record.model ∧
    record.toValue.get (ofString "ip") = .str record.ip ∧
    record.toValue.get (ofString "last_seen") = record.lastSeen ∧
    record.toValue.get (ofString "startup_app") = record.startupApp ∧
    record.toValue.get (ofString "battery") =
      (record.battery.getD none).elim .null Battery.toValue ∧
    record.toValue.get (ofString "version_code") = (record.versionCode.getD none).elim .null .int ∧
    record.toValue.get (ofString "version_name") = record.versionName.elim .null .str ∧
    record.toValue.get (ofString "retired") = record.retired.elim .null .bool ∧
    record.toValue.get (ofString "identity_kind") =
      record.identityKind.elim .null fun kind => .str kind.text := by
  simp only [Value.get, Value.get?, Record.toValue, List.lookup_append, lookup_field,
    List.lookup_cons, List.lookup_nil, ofString_beq]
  refine ⟨by simp, by simp, by simp, by simp, by simp, ?_, ?_, ?_, ?_, ?_⟩
  · rcases record.battery with _ | _ | battery <;> simp
  · rcases record.versionCode with _ | _ | code <;> simp
  · cases record.versionName <;> simp
  · cases record.retired <;> simp
  · cases record.identityKind <;> simp

theorem coerceBattery_toValue (now : ℚ) (battery : Battery) :
    coerceBattery now battery.toValue = some (battery.loaded now) := by
  have hlevel : battery.toValue.get (ofString "level") = .int battery.level := by
    simp [Value.get, Value.get?, Battery.toValue]
  have hcharging : battery.toValue.get (ofString "charging") = .bool battery.charging := by
    simp [Value.get, Value.get?, Battery.toValue, List.lookup_cons]
  have hseen : battery.toValue.get? (ofString "last_seen") = some battery.lastSeen := by
    simp [Value.get?, Battery.toValue, List.lookup_cons]
  have hobj : battery.toValue = .obj _ := rfl
  unfold coerceBattery
  rw [hobj]
  simp only
  rw [← hobj, hlevel, hcharging, hseen]
  unfold Battery.loaded
  simp only
  split
  · rfl
  · rfl

/-- **A saved record is loaded as a record.** -/
theorem coerceRecord_toValue (now : ℚ) (record : Record) :
    coerceRecord now record.toValue = some (some (record.loaded now)) := by
  obtain ⟨hlabel, hmodel, hip, hseen, happ, hbattery, hcode, hname, hretired, hkind⟩ :=
    record.get_toValue
  have hobj : record.toValue = .obj _ := rfl
  unfold coerceRecord
  rw [hobj]
  simp only
  rw [← hobj, hlabel, hmodel, hip, hseen, happ, hbattery, hcode, hname, hretired, hkind]
  have hhashable : Value.hashable (record.identityKind.elim .null fun kind => .str kind.text) := by
    cases record.identityKind <;> rfl
  have hcoerce : coerceBattery now ((record.battery.getD none).elim .null Battery.toValue) =
      some ((record.battery.getD none).bind (Battery.loaded now)) := by
    cases record.battery.getD none with
    | none => rfl
    | some battery => exact coerceBattery_toValue now battery
  rw [hhashable, hcoerce]
  simp only [Bool.not_true, Bool.false_eq_true, if_false, Option.map_some, Option.some.injEq]
  unfold Record.loaded
  rw [Record.mk.injEq]
  refine ⟨rfl, rfl, rfl, ?_, ?_, rfl, ?_, ?_, ?_, ?_⟩
  · cases record.lastSeen <;> rfl
  · cases record.startupApp <;> rfl
  · rcases record.versionCode with _ | _ | code <;> rfl
  · cases record.versionName <;> rfl
  · cases record.retired <;> rfl
  · rcases record.identityKind with _ | _ | _
    · rfl
    · rfl
    · simp [IdentityKind.text]

/-! ### The file -/

/-- The saved records by the texts of their keys. -/
def Memory.texts (floatRepr : ℚ → Str) (m : Memory) : List (Str × Record) :=
  readPairs (m.registry.map fun entry => (entry.1.keyText floatRepr, entry.2))

section Pairs

variable {β γ : Type*}

theorem setItem_map (f : β → γ) (k : Str) (v : β) (d : List (Str × β)) :
    setItem (fun k k' => decide (k = k')) k (f v) (d.map fun entry => (entry.1, f entry.2)) =
      (setItem (fun k k' => decide (k = k')) k v d).map fun entry => (entry.1, f entry.2) := by
  induction d with
  | nil => rfl
  | cons first d ih =>
    by_cases h : first.1 = k
    · simp [setItem, h]
    · simp [setItem, h, ih]

theorem readPairs_map (f : β → γ) (pairs : List (Str × β)) :
    readPairs (pairs.map fun entry => (entry.1, f entry.2)) =
      (readPairs pairs).map fun entry => (entry.1, f entry.2) := by
  have hfold : ∀ d : List (Str × β),
      (pairs.map fun entry => (entry.1, f entry.2)).foldl
          (fun d pair => setItem (fun k k' => decide (k = k')) pair.1 pair.2 d)
          (d.map fun entry => (entry.1, f entry.2)) =
        (pairs.foldl (fun d pair => setItem (fun k k' => decide (k = k')) pair.1 pair.2 d) d).map
          fun entry => (entry.1, f entry.2) := by
    induction pairs with
    | nil => intro d; rfl
    | cons pair pairs ih =>
      intro d
      simp only [List.map_cons, List.foldl_cons, setItem_map, ih]
  exact hfold []

end Pairs

theorem coerceRecords_map (now : ℚ) (records : List (Str × Record)) :
    coerceRecords now (records.map fun entry => (entry.1, entry.2.toValue)) =
      some (records.map fun entry => (.str entry.1, entry.2.loaded now)) := by
  induction records with
  | nil => rfl
  | cons first records ih =>
    rw [List.map_cons, coerceRecords, coerceRecord_toValue, ih]
    rfl

/-- **What a reload makes of the registry.** -/
theorem loadRegistry_payload (floatRepr : ℚ → Str) (now : ℚ) (m : Memory) :
    loadRegistry now (payload floatRepr m) =
      { registry := (m.texts floatRepr).map fun entry => (.str entry.1, entry.2.loaded now)
        groups := coerceGroups (.obj (m.groups.map fun entry => (entry.1, .arr entry.2))) } := by
  have hdevices : (payload floatRepr m).get (ofString "devices") =
      .obj ((m.texts floatRepr).map fun entry => (entry.1, entry.2.toValue)) := by
    rw [Memory.texts, ← readPairs_map, List.map_map]
    simp [payload, Value.get, Value.get?]
    rfl
  have hgroups : (payload floatRepr m).get (ofString "groups") =
      .obj (m.groups.map fun entry => (entry.1, .arr entry.2)) := by
    simp [payload, Value.get, Value.get?, List.lookup_cons]
  have hobj : payload floatRepr m = .obj _ := rfl
  unfold loadRegistry
  rw [hobj]
  simp only
  rw [← hobj, hdevices, hgroups]
  simp only [coerceRecords_map]

/-! ### Invariants of memory and file -/

/-- A property of the memory, and of the memory the file was written from. -/
structure State.Holds (floatRepr : ℚ → Str) (P : Memory → Prop) (s : State) : Prop where
  memory : P s.memory
  file : ∀ content, s.file = some content → ∃ m, P m ∧ content = payload floatRepr m

theorem State.Holds.initial {floatRepr : ℚ → Str} {P : Memory → Prop} (h : P {}) :
    State.Holds floatRepr P {} :=
  ⟨h, by simp⟩

/-- A property that handlers and reloads keep is kept by every event. -/
theorem State.Holds.step {floatRepr : ℚ → Str} {depthLimit : Nat} {P : Memory → Prop} {s : State}
    {event : ℚ × Event} (h : s.Holds floatRepr P) (hempty : P {})
    (hreload : ∀ m now, P m → P (loadRegistry now (payload floatRepr m)))
    (hhandle : P (handle s.memory event.1 event.2).memory) :
    (s.step floatRepr depthLimit event).Holds floatRepr P := by
  obtain ⟨now, event⟩ := event
  by_cases hrestart : event = .restart
  · subst hrestart
    refine ⟨?_, h.file⟩
    change P ((s.file.map (loadRegistry now)).getD {})
    rcases hfile : s.file with _ | content
    · exact hempty
    · obtain ⟨m, hm, rfl⟩ := h.file content hfile
      exact hreload m now hm
  · have hstep : s.step floatRepr depthLimit (now, event) =
        { memory := (handle s.memory now event).memory
          file := if (handle s.memory now event).saves then
            (saveRegistry floatRepr depthLimit (handle s.memory now event).memory).or s.file
          else s.file } := by
      cases event with
      | restart => exact absurd rfl hrestart
      | _ => rfl
    rw [hstep]
    refine ⟨hhandle, fun content hcontent => ?_⟩
    simp only at hcontent
    split at hcontent
    · rw [Option.or_eq_some_iff] at hcontent
      rcases hcontent with hsaved | ⟨-, hold⟩
      · refine ⟨_, hhandle, ?_⟩
        rw [saveRegistry] at hsaved
        split at hsaved
        · exact (Option.some.inj hsaved).symm
        · exact absurd hsaved (by simp)
      · exact h.file content hold
    · exact h.file content hcontent

end StylyMdm.Registry
