import StylyMdm.Library.Run
import StylyMdm.Registry.Reload

/-!
# The registry survives a restart

A memory is `Clean` when `save_registry` can write it and `load_registry` reads back what was
written. What breaks it are texts with a surrogate, which cannot be encoded, labels and group names
that were cut behind white space, device ids that are no strings, and startup apps that are no
objects or nested too deep for `json.dumps`. `StoresClean` says of a message that it brings none of
these into the registry; a run of such messages never leaves the clean memories.

* **The round trip** (`Memory.Clean.roundTrip`) is about one memory. The keys of its records are
  distinct texts, so nothing is lost to equal keys (`readPairs_eq_self`), every record is coerced to
  itself but for the keys that it lacks (`Record.Clean.loaded`), and a group whose members are
  distinct keeps them (`coerceGroups_eq_self`).
* **The handlers** keep a memory clean, with one lemma for each of them. Those that cut a name use
  the condition on the message; those that only move names around use that they were clean.
* **Runs.** A reload leaves a clean memory, so restarts may come at any time
  (`Memory.Clean.reloaded`, `registry_round_trip`).

Messages that are refused bring nothing into the registry, whatever they contain, so the condition
does not speak of them. The last run breaks it with two group names, one of which is cut behind a
blank.
-/

namespace StylyMdm.Registry

open Text Py

/-! ### Clean memories -/

/-- A startup app that `json.dumps` can write, three levels deep in the file, and that a reload does
not change. -/
structure CleanStartupApp (depthLimit : Nat) (startupApp : Value) : Prop where
  object : startupApp = .null ∨ startupApp.isObj
  text : startupApp.encodable
  depth : startupApp.depth + 3 ≤ depthLimit

/-- A record that a reload does not change but for the keys it lacks. -/
structure Record.Clean (depthLimit : Nat) (record : Record) : Prop where
  label : strip isSpace record.label = record.label
  labelText : encodable record.label
  model : encodable record.model
  ip : encodable record.ip
  lastSeen : record.lastSeen = .null ∨ ∃ x, record.lastSeen = .float x
  startupApp : CleanStartupApp depthLimit record.startupApp
  battery : ∀ battery, record.battery = some (some battery) →
    0 ≤ battery.level ∧ battery.level ≤ 100 ∧ ∃ x, battery.lastSeen = .float x
  versionName : ∀ name, record.versionName = some name → encodable name

/-- A member of a group that a reload does not drop. -/
def CleanMember (member : Value) : Prop := ∃ s, member = .str s ∧ s ≠ [] ∧ encodable s

/-- The name of a group that a reload does not change. -/
structure CleanName (name : Str) : Prop where
  stripped : strip isSpace name = name
  length : name.length ≤ maxGroupNameLen
  ne_nil : name ≠ []
  text : encodable name

/-- A group that a reload does not change. -/
structure CleanGroup (group : Str × List Value) : Prop where
  name : CleanName group.1
  members : ∀ member ∈ group.2, CleanMember member
  nodup : group.2.Nodup

/-- An entry of the registry that a reload does not change but for missing keys. -/
structure CleanEntry (depthLimit : Nat) (entry : Value × Record) : Prop where
  key : ∃ s, entry.1 = .str s ∧ encodable s
  record : entry.2.Clean depthLimit

/-- A memory that a reload does not change but for missing keys. -/
structure Memory.Clean (depthLimit : Nat) (m : Memory) : Prop where
  entries : ∀ entry ∈ m.registry, CleanEntry depthLimit entry
  keys : (m.registry.map Prod.fst).Nodup
  groups : ∀ group ∈ m.groups, CleanGroup group
  names : (m.groups.map Prod.fst).Nodup

theorem Memory.Clean.initial (depthLimit : Nat) : Memory.Clean depthLimit {} := by
  refine ⟨?_, List.nodup_nil, ?_, List.nodup_nil⟩ <;> simp

/-! ### The round trip -/

/-- The record with the keys it lacks at their defaults. -/
def Record.withDefaults (record : Record) : Record :=
  { record with
    battery := some (record.battery.getD none)
    versionCode := some (record.versionCode.getD none)
    versionName := some (record.versionName.getD [])
    retired := some (record.retired.getD false)
    identityKind := some (record.identityKind.getD .legacy) }

theorem Record.Clean.loaded {depthLimit : Nat} {record : Record} (h : record.Clean depthLimit)
    (now : ℚ) :
    record.loaded now = record.withDefaults := by
  have hseen : (record.loaded now).lastSeen = record.lastSeen := by
    rcases h.lastSeen with hnull | ⟨x, hx⟩
    · rw [Record.loaded, hnull]
    · rw [Record.loaded, hx]
  have happ : (record.loaded now).startupApp = record.startupApp := by
    rcases h.startupApp.object with hnull | hobj
    · rw [Record.loaded, hnull]
    · rcases hvalue : record.startupApp with _ | _ | _ | _ | _ | _ | _ <;>
        simp [Record.loaded, hvalue, Value.isObj] at hobj ⊢
  have hbattery : (record.loaded now).battery = some (record.battery.getD none) := by
    rcases hvalue : record.battery with _ | _ | battery
    · simp [Record.loaded, hvalue]
    · simp [Record.loaded, hvalue]
    · obtain ⟨hlow, hhigh, x, hx⟩ := h.battery battery hvalue
      have hload : battery.loaded now = some battery := by
        have hnumber : isNumber battery.lastSeen := by
          rw [hx]
          rfl
        rw [Battery.loaded, if_neg (by omega), if_pos hnumber]
      simp [Record.loaded, hvalue, hload]
  have hlabel := h.label
  cases hrecord : record with
  | mk label model ip lastSeen startupApp battery versionCode versionName retired identityKind =>
    subst hrecord
    simp only [Record.withDefaults, Record.loaded, Record.mk.injEq] at *
    exact ⟨hlabel, trivial, trivial, hseen, happ, hbattery, trivial, trivial, trivial, trivial⟩

theorem Record.Clean.encodable_toValue {depthLimit : Nat} {record : Record}
    (h : record.Clean depthLimit) : record.toValue.encodable := by
  have hfield : ∀ (key : String) (value : Option Value), (∀ v, value = some v → v.encodable) →
      Value.fieldsEncodable (field key value) = true := by
    intro key value hvalue
    cases value with
    | none => rfl
    | some v => simp [field, Value.fieldsEncodable, encodable_ofString, hvalue v rfl]
  rw [Record.toValue, Value.encodable]
  simp only [Value.fieldsEncodable_append, Bool.and_eq_true]
  refine ⟨⟨⟨⟨⟨?_, ?_⟩, ?_⟩, ?_⟩, ?_⟩, ?_⟩
  · have hseen : record.lastSeen.encodable = true := by
      rcases h.lastSeen with hnull | ⟨x, hx⟩
      · rw [hnull]
        rfl
      · rw [hx]
        rfl
    simp [Value.fieldsEncodable, encodable_ofString, Value.encodable, h.labelText, h.model, h.ip,
      hseen, h.startupApp.text]
  · refine hfield _ _ fun v hv => ?_
    obtain ⟨battery, hbattery, rfl⟩ := Option.map_eq_some_iff.mp hv
    cases battery with
    | none => rfl
    | some battery =>
      obtain ⟨-, -, x, hx⟩ := h.battery battery hbattery
      simp [Battery.toValue, Value.encodable, Value.fieldsEncodable, encodable_ofString, hx]
  · refine hfield _ _ fun v hv => ?_
    obtain ⟨code, -, rfl⟩ := Option.map_eq_some_iff.mp hv
    cases code <;> rfl
  · refine hfield _ _ fun v hv => ?_
    obtain ⟨name, hname, rfl⟩ := Option.map_eq_some_iff.mp hv
    exact h.versionName name hname
  · refine hfield _ _ fun v hv => ?_
    obtain ⟨retired, -, rfl⟩ := Option.map_eq_some_iff.mp hv
    rfl
  · refine hfield _ _ fun v hv => ?_
    obtain ⟨kind, -, rfl⟩ := Option.map_eq_some_iff.mp hv
    cases kind <;> exact encodable_ofString _

/-- In the object of a record only the startup app and the battery are nested. -/
theorem Record.Clean.depth_toValue {n : Nat} (hn : 1 ≤ n) {record : Record}
    (h : record.Clean (n + 3)) : record.toValue.depth ≤ n + 1 := by
  have happ : record.startupApp.depth ≤ n := by
    have hdepth := h.startupApp.depth
    omega
  have hseen : record.lastSeen.depth = 0 := by
    rcases h.lastSeen with hnull | ⟨x, hx⟩
    · rw [hnull]
      rfl
    · rw [hx]
      rfl
  have hfield : ∀ (key : String) (value : Option Value), (∀ v, value = some v → v.depth ≤ n) →
      ∀ pair ∈ field key value, pair.2.depth ≤ n := by
    intro key value hvalue pair hpair
    obtain ⟨v, hv, rfl⟩ := List.mem_map.mp hpair
    exact hvalue v (Option.mem_toList.mp hv)
  rw [Record.toValue, Value.depth_obj_le_iff]
  simp only [List.forall_mem_append]
  refine ⟨⟨⟨⟨⟨?_, hfield _ _ ?_⟩, hfield _ _ ?_⟩, hfield _ _ ?_⟩, hfield _ _ ?_⟩, hfield _ _ ?_⟩
  · simp [Value.depth, hseen, happ]
  · rintro v hv
    obtain ⟨battery, hbattery, rfl⟩ := Option.map_eq_some_iff.mp hv
    cases battery with
    | none => exact Nat.zero_le n
    | some battery =>
      obtain ⟨-, -, x, hx⟩ := h.battery battery hbattery
      simpa [Battery.toValue, Value.depth, Value.fieldsDepth, hx] using hn
  · rintro v hv
    obtain ⟨code, -, rfl⟩ := Option.map_eq_some_iff.mp hv
    cases code <;> exact Nat.zero_le n
  · rintro v hv
    obtain ⟨name, -, rfl⟩ := Option.map_eq_some_iff.mp hv
    exact Nat.zero_le n
  · rintro v hv
    obtain ⟨retired, -, rfl⟩ := Option.map_eq_some_iff.mp hv
    exact Nat.zero_le n
  · rintro v hv
    obtain ⟨kind, -, rfl⟩ := Option.map_eq_some_iff.mp hv
    exact Nat.zero_le n

/-- A clean memory is nested no deeper than `json.dumps` can write. The battery of a record is on
the fourth level. -/
theorem Memory.Clean.depth_dumped {depthLimit : Nat} (hlimit : 4 ≤ depthLimit) {m : Memory}
    (h : m.Clean depthLimit) (floatRepr : ℚ → Str) :
    (dumped floatRepr m).depth ≤ depthLimit := by
  obtain ⟨n, rfl⟩ : ∃ n, depthLimit = n + 3 := ⟨depthLimit - 3, by omega⟩
  rw [dumped, Value.depth_obj_le_iff, List.forall_mem_cons, List.forall_mem_singleton,
    Value.depth_obj_le_iff, Value.depth_obj_le_iff]
  constructor
  · intro field hfield
    obtain ⟨entry, hentry, rfl⟩ := List.mem_map.mp hfield
    exact (h.entries entry hentry).record.depth_toValue (by omega)
  · intro field hfield
    obtain ⟨group, hgroup, rfl⟩ := List.mem_map.mp hfield
    refine Value.depth_arr_le_iff.mpr fun member hmember => ?_
    obtain ⟨s, rfl, -, -⟩ := (h.groups group hgroup).members member hmember
    exact Nat.zero_le n

theorem Memory.Clean.encodable_dumped {depthLimit : Nat} {m : Memory} (h : m.Clean depthLimit)
    (floatRepr : ℚ → Str) : (dumped floatRepr m).encodable := by
  rw [dumped, Value.encodable, Value.fieldsEncodable_iff, List.forall_mem_cons,
    List.forall_mem_singleton, Value.encodable, Value.encodable, Value.fieldsEncodable_iff,
    Value.fieldsEncodable_iff]
  refine ⟨⟨encodable_ofString _, ?_⟩, encodable_ofString _, ?_⟩
  · intro field hfield
    obtain ⟨entry, hentry, rfl⟩ := List.mem_map.mp hfield
    obtain ⟨s, hs, htext⟩ := (h.entries entry hentry).key
    refine ⟨?_, (h.entries entry hentry).record.encodable_toValue⟩
    rw [hs]
    exact htext
  · intro field hfield
    obtain ⟨group, hgroup, rfl⟩ := List.mem_map.mp hfield
    refine ⟨(h.groups group hgroup).name.text, ?_⟩
    rw [Value.encodable, Value.itemsEncodable_iff]
    intro member hmember
    obtain ⟨s, rfl, -, htext⟩ := (h.groups group hgroup).members member hmember
    exact htext

/-- A clean memory is written. -/
theorem Memory.Clean.writable {depthLimit : Nat} (hlimit : 4 ≤ depthLimit) {m : Memory}
    (h : m.Clean depthLimit) (floatRepr : ℚ → Str) : writable floatRepr depthLimit m := by
  rw [Registry.writable, Bool.and_eq_true, decide_eq_true_iff]
  exact ⟨h.depth_dumped hlimit floatRepr, h.encodable_dumped floatRepr⟩

/-- Pairs with distinct keys are read as they are. -/
theorem readPairs_eq_self {β : Type*} {pairs : List (Str × β)} (h : (pairs.map Prod.fst).Nodup) :
    readPairs pairs = pairs := by
  have hfold : ∀ d : List (Str × β), ((d ++ pairs).map Prod.fst).Nodup →
      pairs.foldl (fun d pair => setItem (fun k k' => decide (k = k')) pair.1 pair.2 d) d =
        d ++ pairs := by
    clear h
    induction pairs with
    | nil => simp
    | cons pair pairs ih =>
      intro d hnodup
      have hnew : setItem (fun k k' => decide (k = k')) pair.1 pair.2 d = d ++ [pair] := by
        refine setItem_of_not_mem fun entry hentry => ?_
        rw [decide_eq_false_iff_not]
        intro hsame
        rw [List.map_append, List.nodup_append] at hnodup
        exact hnodup.2.2 entry.1 (List.mem_map_of_mem hentry) pair.1 (by simp) hsame
      rw [List.foldl_cons, hnew, ih (d ++ [pair]) (by simpa using hnodup)]
      simp
  exact hfold [] h

theorem addMember_of_not_mem {serials : List Value} {s : Str} (hne : s ≠ [])
    (hnew : .str s ∉ serials) : addMember serials (.str s) = serials ++ [.str s] := by
  have hany : serials.any (Value.same (.str s)) = false := by
    rw [List.any_eq_false]
    intro v hv hsame
    exact hnew (Value.str_same_iff.mp hsame ▸ hv)
  simp [addMember, hne, hany]

/-- The members of a clean group are read as they are. -/
theorem cleanMembers_eq_self {members : List Value} (h : ∀ member ∈ members, CleanMember member)
    (hnodup : members.Nodup) : cleanMembers members = members := by
  have hfold : ∀ serials : List Value, (serials ++ members).Nodup →
      members.foldl addMember serials = serials ++ members := by
    clear hnodup
    induction members with
    | nil => simp
    | cons member members ih =>
      intro serials hserials
      rw [List.forall_mem_cons] at h
      obtain ⟨s, rfl, hne, -⟩ := h.1
      have hnew : Value.str s ∉ serials := by
        intro hmem
        rw [List.nodup_append] at hserials
        exact hserials.2.2 _ hmem _ List.mem_cons_self rfl
      rw [List.foldl_cons, addMember_of_not_mem hne hnew,
        ih h.2 (serials ++ [Value.str s]) (by simpa using hserials)]
      simp
  exact hfold [] hnodup

theorem CleanName.cleanName {name : Str} (h : CleanName name) : cleanName name = name := by
  rw [Registry.cleanName, h.stripped, List.take_of_length_le h.length]

/-- Clean groups are read as they are. -/
theorem coerceGroups_eq_self {groups : List (Str × List Value)}
    (h : ∀ group ∈ groups, CleanGroup group) (hnames : (groups.map Prod.fst).Nodup) :
    coerceGroups (.obj (groups.map fun group => (group.1, .arr group.2))) = groups := by
  have hfold : ∀ result : List (Str × List Value), ((result ++ groups).map Prod.fst).Nodup →
      (groups.map fun group => (group.1, Value.arr group.2)).foldl addGroup result =
        result ++ groups := by
    clear hnames
    induction groups with
    | nil => simp
    | cons group groups ih =>
      intro result hnodup
      rw [List.forall_mem_cons] at h
      have hadd : addGroup result (group.1, .arr group.2) = result ++ [group] := by
        rw [addGroup, h.1.name.cleanName, if_neg h.1.name.ne_nil]
        simp only [cleanMembers_eq_self h.1.members h.1.nodup]
        refine setItem_of_not_mem fun entry hentry => ?_
        rw [decide_eq_false_iff_not]
        intro hsame
        rw [List.map_append, List.nodup_append] at hnodup
        exact hnodup.2.2 entry.1 (List.mem_map_of_mem hentry) group.1 (by simp) hsame
      rw [List.map_cons, List.foldl_cons, hadd, ih h.2 (result ++ [group]) (by simpa using hnodup)]
      simp
  exact hfold [] hnames

/-- The memory a restart makes of this one: the missing keys have their defaults and nothing is
online. -/
def Memory.reloaded (m : Memory) : Memory where
  registry := m.registry.map fun entry => (entry.1, entry.2.withDefaults)
  groups := m.groups

/-- **The round trip.** A clean memory is saved, and a reload restores it. -/
theorem Memory.Clean.roundTrip {depthLimit : Nat} (hlimit : 4 ≤ depthLimit) {m : Memory}
    (h : m.Clean depthLimit) (floatRepr : ℚ → Str) :
    saveRegistry floatRepr depthLimit m = some (payload floatRepr m) ∧
      ∀ now, loadRegistry now (payload floatRepr m) = m.reloaded := by
  refine ⟨if_pos (h.writable hlimit floatRepr), fun now => ?_⟩
  have hkeys : ∀ entry ∈ m.registry, .str (entry.1.keyText floatRepr) = entry.1 := by
    intro entry hentry
    obtain ⟨s, hs, -⟩ := (h.entries entry hentry).key
    rw [hs]
    rfl
  have htexts : m.texts floatRepr =
      m.registry.map fun entry => (entry.1.keyText floatRepr, entry.2) := by
    refine readPairs_eq_self ?_
    have hnodup := h.keys
    rw [List.map_map]
    refine List.Nodup.of_map Value.str ?_
    rw [List.map_map]
    convert hnodup using 1
    exact List.map_congr_left hkeys
  rw [loadRegistry_payload, coerceGroups_eq_self h.groups h.names, htexts, Memory.reloaded,
    List.map_map]
  congr 1
  refine List.map_congr_left fun entry hentry => ?_
  simp only [Function.comp_apply]
  rw [hkeys entry hentry, (h.entries entry hentry).record.loaded now]

/-! ### Messages that keep a memory clean -/

/-- What the message brings into the registry is clean: texts that can be encoded, labels and names
that do not end in white space when they are cut, device ids that are strings, startup apps that
are objects or null and not nested too deep. Of what the handler refuses or does not store, nothing
is asked. -/
def StoresClean (depthLimit : Nat) (m : Memory) : Event → Prop
  | .register data remote =>
    match parseRegistration data remote with
    | .device _ deviceId model ip versionName _ startupApp =>
      encodable deviceId ∧ encodable model ∧ encodable ip ∧ encodable versionName ∧
        CleanStartupApp depthLimit startupApp
    | _ => True
  | .setStartupApp deviceId packageName extra _ =>
    packageName.truthy → (m.record (.str deviceId)).isSome →
      packageName.encodable ∧ extra.encodable ∧
        packageName.depth + 4 ≤ depthLimit ∧ extra.depth + 4 ≤ depthLimit
  | .setDeviceLabel deviceId label =>
    ∀ text, strippedField label = some text →
      (text.take maxLabelLen = [] ∨
        labelOwner m (deviceId.getD (.str [])) (text.take maxLabelLen) = none) →
      (deviceId.getD (.str [])).truthy → (deviceId.getD (.str [])).hashable →
      (∃ s, deviceId.getD (.str []) = .str s ∧ encodable s) ∧
        strip isSpace (text.take maxLabelLen) = text.take maxLabelLen ∧
        encodable (text.take maxLabelLen)
  | .createGroup name =>
    ∀ text, nameField name = some text → ¬ m.hasGroup text →
      strip isSpace text = text ∧ encodable text
  | .renameGroup name newName =>
    ∀ text newText, nameField name = some text → nameField newName = some newText →
      m.hasGroup text → ¬ m.hasGroup newText → strip isSpace newText = newText ∧ encodable newText
  | .setDeviceGroups deviceId groups =>
    ∀ requested, groups.getD (.arr []) = .arr requested → targetNames requested ≠ [] →
      (∀ name ∈ targetNames requested, m.hasGroup name) → (deviceId.getD (.str [])).truthy →
      ∃ s, deviceId.getD (.str []) = .str s ∧ encodable s
  | .setGroupMembers name members =>
    ∀ text requested, nameField name = some text → m.hasGroup text →
      members.getD (.arr []) = .arr requested →
      ∀ s, .str s ∈ cleanMembers requested → encodable s
  | _ => True

section Records

variable {depthLimit : Nat} {m : Memory} {s : Str}

theorem CleanStartupApp.null (hlimit : 4 ≤ depthLimit) : CleanStartupApp depthLimit .null :=
  ⟨.inl rfl, rfl, by simp [Value.depth]; omega⟩

theorem Record.Clean.default (hlimit : 4 ≤ depthLimit) : Record.Clean depthLimit {} := by
  refine ⟨rfl, rfl, rfl, rfl, .inl rfl, .null hlimit, ?_, ?_⟩ <;> simp

/-- The record of a clean memory, or an empty one. -/
theorem Memory.Clean.record (hlimit : 4 ≤ depthLimit) (h : m.Clean depthLimit) (serial : Value) :
    ((m.record serial).getD {}).Clean depthLimit := by
  rcases hget : m.record serial with _ | record
  · exact Record.Clean.default hlimit
  · obtain ⟨key, hmem, -⟩ := mem_of_getItem hget
    exact (h.entries (key, record) hmem).record

/-- Setting a clean record. -/
theorem Memory.Clean.setRecord {record : Record} (h : m.Clean depthLimit) (hs : encodable s)
    (hrecord : record.Clean depthLimit) : (m.setRecord (.str s) record).Clean depthLimit := by
  refine ⟨?_, ?_, h.groups, h.names⟩
  · refine forall_mem_setItem (fun entry hentry => ?_) ⟨⟨s, rfl, hs⟩, hrecord⟩ ?_
    · exact h.entries entry ((popItem_sublist _ _ _).subset hentry)
    · intro entry hentry _
      exact ⟨(h.entries entry hentry).key, hrecord⟩
  · exact nodup_setItem (fun entry _ => Value.same_str_iff) h.keys

/-- Changing the record of a device, if it has one. -/
theorem Memory.Clean.updateRecord (h : m.Clean depthLimit) {f : Record → Record}
    (hf : (m.record (.str s)).isSome →
      ∀ record : Record, record.Clean depthLimit → (f record).Clean depthLimit) :
    (m.updateRecord (.str s) f).Clean depthLimit := by
  rw [Memory.updateRecord]
  split
  · rename_i record hget
    obtain ⟨key, hmem, hkey⟩ := mem_of_getItem hget
    obtain ⟨s', hs', htext⟩ := (h.entries (key, record) hmem).key
    rw [Value.same_str_iff.mp hkey, Value.str.injEq] at hs'
    exact h.setRecord (hs' ▸ htext) (hf (by rw [hget]; rfl) _ (h.entries (key, record) hmem).record)
  · exact h

/-- What is online does not matter. -/
theorem Memory.Clean.online (h : m.Clean depthLimit) (online : List (Str × Value)) :
    Memory.Clean depthLimit { m with online } :=
  ⟨h.entries, h.keys, h.groups, h.names⟩

theorem Memory.Clean.setStartupApp (h : m.Clean depthLimit) {startupApp : Value} {current : Bool}
    (happ : (m.record (.str s)).isSome → CleanStartupApp depthLimit startupApp) :
    (m.setStartupApp s startupApp current).Clean depthLimit := by
  refine Memory.Clean.online (h.updateRecord fun hsome record hrecord => ?_) _
  exact { hrecord with startupApp := happ hsome }

end Records

/-! ### Groups -/

section Groups

variable {depthLimit : Nat} {m : Memory} {name : Str} {members : List Value}

theorem nameField_cases {value : Option Value} (h : nameField value = some name) :
    name.length ≤ maxGroupNameLen := by
  obtain ⟨text, -, rfl⟩ := Option.map_eq_some_iff.mp h
  exact List.length_take_le _ _

theorem Memory.hasGroup_iff : m.hasGroup name ↔ ∃ group ∈ m.groups, group.1 = name := by
  rw [Memory.hasGroup, List.any_eq_true]
  simp

/-- Groups of which all are clean. -/
theorem Memory.Clean.withGroups (h : m.Clean depthLimit) {groups : List (Str × List Value)}
    (hgroups : ∀ group ∈ groups, CleanGroup group) (hnames : (groups.map Prod.fst).Nodup) :
    Memory.Clean depthLimit { m with groups } :=
  ⟨h.entries, h.keys, hgroups, hnames⟩

/-- Setting a clean group. -/
theorem Memory.Clean.setGroup (h : m.Clean depthLimit) {groups : List (Str × List Value)}
    (hsub : groups.Sublist m.groups) (hgroup : CleanGroup (name, members)) :
    Memory.Clean depthLimit
      { m with groups := setItem (fun k k' => decide (k = k')) name members groups } := by
  refine h.withGroups ?_ ?_
  · refine forall_mem_setItem (fun group hmem => ?_) hgroup ?_
    · exact h.groups group (hsub.subset ((popItem_sublist _ _ _).subset hmem))
    · intro group hmem _
      exact ⟨(h.groups group (hsub.subset hmem)).name, hgroup.members, hgroup.nodup⟩
  · exact nodup_setItem (fun group _ => decide_eq_true_iff) (h.names.sublist (hsub.map _))

/-- Changing the members of every group. -/
theorem Memory.Clean.mapMembers (h : m.Clean depthLimit) {f : Str → List Value → List Value}
    (hf : ∀ group ∈ m.groups, (∀ member ∈ f group.1 group.2, CleanMember member) ∧
      (f group.1 group.2).Nodup) :
    Memory.Clean depthLimit
      { m with groups := m.groups.map fun group => (group.1, f group.1 group.2) } := by
  refine h.withGroups ?_ ?_
  · intro group hmem
    obtain ⟨old, hold, rfl⟩ := List.mem_map.mp hmem
    exact ⟨(h.groups old hold).name, (hf old hold).1, (hf old hold).2⟩
  · rw [List.map_map]
    exact h.names

/-- What `cleanMembers` collects are distinct non-empty strings. -/
theorem cleanMembers_spec (requested : List Value) :
    (∀ member ∈ cleanMembers requested, ∃ s, member = .str s ∧ s ≠ []) ∧
      (cleanMembers requested).Nodup := by
  have hfold : ∀ serials : List Value,
      (∀ member ∈ serials, ∃ s, member = .str s ∧ s ≠ []) ∧ serials.Nodup →
      (∀ member ∈ requested.foldl addMember serials, ∃ s, member = .str s ∧ s ≠ []) ∧
        (requested.foldl addMember serials).Nodup := by
    induction requested with
    | nil => exact fun _ h => h
    | cons first requested ih =>
      intro serials h
      refine ih _ ?_
      unfold addMember
      split
      · rename_i text
        split
        · rename_i hadd
          refine ⟨?_, ?_⟩
          · intro member hmember
            rcases List.mem_append.mp hmember with hold | hnew
            · exact h.1 member hold
            · exact ⟨text, List.mem_singleton.mp hnew, hadd.1⟩
          · refine List.nodup_append.mpr ⟨h.2, List.nodup_singleton _, ?_⟩
            intro member hmember other hother hsame
            rw [List.mem_singleton.mp hother] at hsame
            have hany : serials.any (Value.same (.str text)) = true :=
              List.any_eq_true.mpr ⟨member, hmember, Value.str_same_iff.mpr hsame⟩
            rw [hany] at hadd
            exact absurd hadd.2 (by simp)
        · exact h
      · exact h
  exact hfold [] ⟨by simp, List.nodup_nil⟩

/-- Taking a member out of a group. -/
theorem CleanGroup.eraseP {group : Str × List Value} (h : CleanGroup group) (p : Value → Bool) :
    (∀ member ∈ group.2.eraseP p, CleanMember member) ∧ (group.2.eraseP p).Nodup :=
  ⟨fun member hmember => h.members member (List.eraseP_sublist.subset hmember),
    h.nodup.sublist List.eraseP_sublist⟩

end Groups

/-! ### Handlers -/

section Handlers

variable {depthLimit : Nat} {m : Memory}

private theorem Memory.Clean.handleRegister (hlimit : 4 ≤ depthLimit) (h : m.Clean depthLimit)
    (now : ℚ) {data : RegisterData} {remote : Option Str}
    (hclean : StoresClean depthLimit m (.register data remote)) :
    (handleRegister m now data remote).memory.Clean depthLimit := by
  unfold Registry.handleRegister
  simp only [StoresClean] at hclean
  split
  · exact h
  · exact h
  · exact h
  · rename_i kind deviceId model ip versionName versionCode startupApp hparse
    rw [hparse] at hclean
    obtain ⟨hid, hmodel, hip, hversion, happ⟩ := hclean
    have hprev := h.record hlimit (.str deviceId)
    refine Memory.Clean.online (h.setRecord hid ?_) _
    refine ⟨hprev.label, hprev.labelText, hmodel, hip, .inr ⟨_, rfl⟩, happ, ?_, ?_⟩
    · intro battery hbattery
      refine hprev.battery battery ?_
      rw [Option.some.injEq] at hbattery
      rcases hold : ((m.record (.str deviceId)).getD {}).battery with _ | old
      · rw [hold] at hbattery
        exact absurd hbattery (by simp)
      · rw [hold] at hbattery
        exact congrArg some hbattery
    · intro name hname
      rw [Option.some.injEq] at hname
      exact hname ▸ hversion

private theorem Memory.Clean.handleBatteryUpdate (h : m.Clean depthLimit) (now : ℚ)
    (deviceId : Str) (level charging timestamp : Value) :
    (handleBatteryUpdate m now deviceId level charging timestamp).memory.Clean depthLimit := by
  unfold Registry.handleBatteryUpdate
  split
  · exact h
  · exact h
  · rename_i battery hcoerce
    have hlevel : 0 ≤ battery.level ∧ battery.level ≤ 100 := by
      unfold coerceBattery at hcoerce
      simp only at hcoerce
      split at hcoerce
      · exact absurd hcoerce (by simp)
      · exact absurd hcoerce (by simp)
      · split at hcoerce
        · exact absurd hcoerce (by simp)
        · rename_i hrange
          split at hcoerce
          · rw [Option.some.injEq, Option.some.injEq] at hcoerce
            rw [← hcoerce]
            simp only
            omega
          · exact absurd hcoerce (by simp)
    refine h.updateRecord fun _ record hrecord => ?_
    refine { hrecord with lastSeen := .inr ⟨_, rfl⟩, battery := ?_ }
    intro battery' hbattery'
    rw [Option.some.injEq, Option.some.injEq] at hbattery'
    rw [← hbattery']
    exact ⟨hlevel.1, hlevel.2, _, rfl⟩

private theorem Memory.Clean.handleSetDeviceLabel (hlimit : 4 ≤ depthLimit)
    (h : m.Clean depthLimit) {deviceId label : Option Value}
    (hclean : StoresClean depthLimit m (.setDeviceLabel deviceId label)) :
    (handleSetDeviceLabel m deviceId label).memory.Clean depthLimit := by
  unfold Registry.handleSetDeviceLabel
  split
  · exact h
  · rename_i text htext
    simp only
    split
    · exact h
    · rename_i htruthy
      split
      · exact h
      · rename_i howner
        split
        · exact h
        · rename_i hhashable
          have haccepted : text.take maxLabelLen = [] ∨
              labelOwner m (deviceId.getD (.str [])) (text.take maxLabelLen) = none := by
            by_cases hempty : text.take maxLabelLen = []
            · exact .inl hempty
            · rw [if_neg hempty] at howner
              exact .inr howner
          obtain ⟨⟨s, hs, hid⟩, hstrip, hencodable⟩ :=
            hclean text htext haccepted (by simpa using htruthy) (by simpa using hhashable)
          have hprev := h.record hlimit (deviceId.getD (.str []))
          rw [hs] at hprev ⊢
          exact h.setRecord hid { hprev with label := hstrip, labelText := hencodable }

private theorem Memory.Clean.handleForgetDevice (h : m.Clean depthLimit)
    (deviceId : Option Value) : (handleForgetDevice m deviceId).memory.Clean depthLimit := by
  unfold Registry.handleForgetDevice
  simp only
  split
  · exact h
  · split
    · exact h
    · split
      · exact h
      · have hgroups := h.mapMembers
          (f := fun _ members => members.eraseP (Value.same · (deviceId.getD (.str []))))
          fun group hgroup => (h.groups group hgroup).eraseP _
        have hsub := popItem_sublist Value.same (deviceId.getD (.str [])) m.registry
        exact ⟨fun entry hentry => h.entries entry (hsub.subset hentry),
          h.keys.sublist (hsub.map _), hgroups.groups, hgroups.names⟩

private theorem Memory.Clean.handleCreateGroup (h : m.Clean depthLimit) {name : Option Value}
    (hclean : StoresClean depthLimit m (.createGroup name)) :
    (handleCreateGroup m name).memory.Clean depthLimit := by
  unfold Registry.handleCreateGroup
  split
  · exact h
  · rename_i text htext
    split
    · exact h
    · rename_i hne
      split
      · exact h
      · rename_i hnew
        obtain ⟨hstrip, hencodable⟩ := hclean text htext hnew
        exact h.setGroup (List.Sublist.refl _)
          ⟨⟨hstrip, nameField_cases htext, hne, hencodable⟩, by simp, List.nodup_nil⟩

private theorem Memory.Clean.handleRenameGroup (h : m.Clean depthLimit)
    {name newName : Option Value} (hclean : StoresClean depthLimit m (.renameGroup name newName)) :
    (handleRenameGroup m name newName).memory.Clean depthLimit := by
  unfold Registry.handleRenameGroup
  split
  · rename_i text newText htext hnewText
    split
    · exact h
    · rename_i hne
      rw [not_or] at hne
      split
      · exact h
      · rename_i members hget
        obtain ⟨key, hmem, hkey⟩ := mem_of_getItem hget
        have hold := h.groups (key, members) hmem
        rw [decide_eq_true_iff] at hkey
        subst hkey
        split
        · exact h
        · rename_i hfree
          refine h.setGroup (popItem_sublist _ _ _) ⟨?_, hold.members, hold.nodup⟩
          by_cases hsame : newText = key
          · rw [hsame]
            exact hold.name
          · have hnew : ¬ m.hasGroup newText := fun hhas => hfree ⟨hsame, hhas⟩
            obtain ⟨hstrip, hencodable⟩ := hclean key newText htext hnewText
              (Memory.hasGroup_iff.mpr ⟨_, hmem, rfl⟩) hnew
            exact ⟨hstrip, nameField_cases hnewText, hne.2, hencodable⟩
  · exact h

private theorem Memory.Clean.handleDeleteGroup (h : m.Clean depthLimit) (name : Option Value) :
    (handleDeleteGroup m name).memory.Clean depthLimit := by
  unfold Registry.handleDeleteGroup
  split
  · exact h
  · rename_i text _
    split
    · exact h
    · have hsub := popItem_sublist (fun k k' => decide (k = k')) text m.groups
      exact h.withGroups (fun group hgroup => h.groups group (hsub.subset hgroup))
        (h.names.sublist (hsub.map _))

private theorem Memory.Clean.handleSetDeviceGroups (h : m.Clean depthLimit)
    {deviceId groups : Option Value}
    (hclean : StoresClean depthLimit m (.setDeviceGroups deviceId groups)) :
    (handleSetDeviceGroups m deviceId groups).memory.Clean depthLimit := by
  unfold Registry.handleSetDeviceGroups
  simp only
  split
  · exact h
  · rename_i htruthy
    split
    · rename_i requested hrequested
      split
      · exact h
      · rename_i hknown
        refine h.mapMembers (f := fun name members =>
          (memberships (deviceId.getD (.str [])) (targetNames requested) (name, members)).2) ?_
        intro group hgroup
        unfold memberships
        simp only
        split
        · rename_i hadd
          have hall : ∀ name ∈ targetNames requested, m.hasGroup name := by
            intro name hname
            by_contra hnot
            exact hknown (List.any_eq_true.mpr ⟨name, hname, by simpa using hnot⟩)
          obtain ⟨s, hs, hid⟩ := hclean requested hrequested (List.ne_nil_of_mem hadd.1) hall
            (by simpa using htruthy)
          rw [hs] at hadd htruthy ⊢
          refine ⟨?_, ?_⟩
          · intro member hmember
            rcases List.mem_append.mp hmember with hold | hnew
            · exact (h.groups group hgroup).members member hold
            · refine ⟨s, List.mem_singleton.mp hnew, ?_, hid⟩
              simpa [Value.truthy] using htruthy
          · refine List.nodup_append.mpr ⟨(h.groups group hgroup).nodup, List.nodup_singleton _, ?_⟩
            intro member hmember other hother hsame
            rw [List.mem_singleton.mp hother] at hsame
            have hany : group.2.any (Value.same · (.str s)) = true :=
              List.any_eq_true.mpr ⟨member, hmember, Value.same_str_iff.mpr hsame⟩
            rw [hany] at hadd
            exact absurd hadd.2 (by simp)
        · split
          · exact (h.groups group hgroup).eraseP _
          · exact ⟨(h.groups group hgroup).members, (h.groups group hgroup).nodup⟩
    · exact h

private theorem Memory.Clean.handleSetGroupMembers (h : m.Clean depthLimit)
    {name members : Option Value}
    (hclean : StoresClean depthLimit m (.setGroupMembers name members)) :
    (handleSetGroupMembers m name members).memory.Clean depthLimit := by
  unfold Registry.handleSetGroupMembers
  split
  · exact h
  · rename_i text htext
    split
    · exact h
    · split
      · exact h
      · rename_i hhas
        have hhas' : m.hasGroup text := by simpa using hhas
        split
        · rename_i requested hrequested
          obtain ⟨group, hgroup, rfl⟩ := Memory.hasGroup_iff.mp hhas'
          obtain ⟨hmembers, hnodup⟩ := cleanMembers_spec requested
          refine h.setGroup (List.Sublist.refl _) ⟨(h.groups group hgroup).name, ?_, hnodup⟩
          intro member hmember
          obtain ⟨s, rfl, hne⟩ := hmembers member hmember
          exact ⟨s, rfl, hne, hclean group.1 requested htext hhas' hrequested s hmember⟩
        · exact h

/-- **A handler keeps the memory clean.** -/
theorem Memory.Clean.handle (hlimit : 4 ≤ depthLimit) (h : m.Clean depthLimit) (now : ℚ)
    {event : Event} (hclean : StoresClean depthLimit m event) :
    (handle m now event).memory.Clean depthLimit := by
  cases event with
  | register data remote => exact h.handleRegister hlimit now hclean
  | batteryUpdate deviceId level charging timestamp =>
    simp only [Registry.handle]
    split
    · exact h.handleBatteryUpdate now deviceId level charging timestamp
    · exact h
  | disconnect deviceId =>
    simp only [Registry.handle]
    split
    · refine Memory.Clean.online (h.updateRecord fun _ record hrecord => ?_) _
      exact { hrecord with lastSeen := .inr ⟨_, rfl⟩ }
    · exact h
  | retired deviceId =>
    simp only [Registry.handle]
    split
    · exact h
    · exact h.updateRecord fun _ record hrecord => { hrecord with }
  | deleteAppResult deviceId status packageName =>
    simp only [Registry.handle]
    unfold handleDeleteAppResult
    split
    · exact h.setStartupApp fun _ => .null hlimit
    · exact h
  | setStartupApp deviceId packageName extra current =>
    simp only [Registry.handle]
    split
    · rename_i htruthy
      refine h.setStartupApp fun hsome => ?_
      obtain ⟨hpackage, hextra, hpackageDepth, hextraDepth⟩ := hclean htruthy hsome
      refine ⟨.inr rfl, ?_, ?_⟩
      · simp [Value.encodable, Value.fieldsEncodable, encodable_ofString, hpackage, hextra]
      · simp only [Value.depth, Value.fieldsDepth]
        omega
    · exact h
  | clearStartupApp deviceId current => exact h.setStartupApp fun _ => .null hlimit
  | save => exact h
  | setDeviceLabel deviceId label => exact h.handleSetDeviceLabel hlimit hclean
  | forgetDevice deviceId => exact h.handleForgetDevice deviceId
  | createGroup name => exact h.handleCreateGroup hclean
  | renameGroup name newName => exact h.handleRenameGroup hclean
  | deleteGroup name => exact h.handleDeleteGroup name
  | setDeviceGroups deviceId groups => exact h.handleSetDeviceGroups hclean
  | setGroupMembers name members => exact h.handleSetGroupMembers hclean
  | restart => exact h

end Handlers

/-! ### Runs -/

/-- A reload gives a clean memory. -/
theorem Memory.Clean.reloaded {depthLimit : Nat} {m : Memory} (h : m.Clean depthLimit) :
    m.reloaded.Clean depthLimit := by
  refine ⟨?_, ?_, h.groups, h.names⟩
  · intro entry hentry
    obtain ⟨old, hold, rfl⟩ := List.mem_map.mp hentry
    have hrecord := (h.entries old hold).record
    refine ⟨(h.entries old hold).key, { hrecord with battery := ?_, versionName := ?_ }⟩
    · intro battery hbattery
      refine hrecord.battery battery ?_
      rcases hvalue : old.2.battery with _ | value
      · exact absurd hbattery (by simp [Record.withDefaults, hvalue])
      · simpa [Record.withDefaults, hvalue] using hbattery
    · intro name hname
      rcases hvalue : old.2.versionName with _ | value
      · have hempty : [] = name := by simpa [Record.withDefaults, hvalue] using hname
        rw [← hempty]
        rfl
      · refine hrecord.versionName name ?_
        simpa [Record.withDefaults, hvalue] using hname
  · rw [Memory.reloaded, List.map_map]
    exact h.keys

/-- **The registry survives a restart.** In every run from the empty registry in which the messages
store what is clean, `save_registry` completes and `load_registry` then restores the devices, their
records and the groups, with the keys that a record lacks at their defaults. A battery takes four
levels of the file, so that many `json.dumps` must be able to write. -/
theorem registry_round_trip (floatRepr : ℚ → Str) {depthLimit : Nat} (hlimit : 4 ≤ depthLimit)
    (events : List (ℚ × Event))
    (hclean : Run.Along (State.step floatRepr depthLimit)
      (fun s event => StoresClean depthLimit s.memory event.2) {} events) :
    ∃ content, saveRegistry floatRepr depthLimit
        (Run.exec (State.step floatRepr depthLimit) {} events).memory = some content ∧
      ∀ now, loadRegistry now content =
        (Run.exec (State.step floatRepr depthLimit) {} events).memory.reloaded := by
  have hend : (Run.exec (State.step floatRepr depthLimit) {} events).Holds floatRepr
      (Memory.Clean depthLimit) := by
    refine hclean.invariant (fun s event h hevent => ?_)
      (State.Holds.initial (Memory.Clean.initial depthLimit))
    refine h.step (Memory.Clean.initial depthLimit) (fun m now hm => ?_)
      (h.memory.handle hlimit event.1 hevent)
    rw [(hm.roundTrip hlimit floatRepr).2 now]
    exact hm.reloaded
  exact ⟨_, hend.memory.roundTrip hlimit floatRepr⟩

/-- A device that registers, is labelled and put into a group. -/
def cleanRun : List (ℚ × Event) :=
  [(0, .register { deviceId := .str (ofString "PA94") } none),
    (1, .setDeviceLabel (some (.str (ofString "PA94"))) (some (.str (ofString "one")))),
    (2, .createGroup (some (.str (ofString "lab")))),
    (3, .setDeviceGroups (some (.str (ofString "PA94")))
      (some (.arr [.str (ofString "lab")])))]

theorem registry_round_trip_clean :
    ∃ content, saveRegistry (fun _ => []) 1000
        (Run.exec (State.step (fun _ => []) 1000) {} cleanRun).memory = some content ∧
      ∀ now, loadRegistry now content =
        (Run.exec (State.step (fun _ => []) 1000) {} cleanRun).memory.reloaded := by
  refine registry_round_trip (fun _ => []) (by decide) cleanRun ⟨?_, ?_, ?_, ?_, trivial⟩
  · change _ ∧ _ ∧ _ ∧ _ ∧ _
    exact ⟨by decide +kernel, by decide +kernel, by decide +kernel, by decide +kernel,
      .null (by decide)⟩
  · intro text htext _ _ _
    rw [← Option.some.inj htext]
    exact ⟨⟨ofString "PA94", rfl, by decide +kernel⟩, by decide +kernel, by decide +kernel⟩
  · intro text htext _
    rw [← Option.some.inj htext]
    exact ⟨by decide +kernel, by decide +kernel⟩
  · intro requested _ _ _ _
    exact ⟨ofString "PA94", rfl, by decide +kernel⟩

/-- Two groups, the name of one of which is cut behind a blank. -/
def mergingRun : List (ℚ × Event) :=
  [(0, .createGroup (some (.str (List.replicate 63 120 ++ [32, 121])))),
    (1, .createGroup (some (.str (List.replicate 63 120))))]

/-- A reload makes one group of the two. -/
theorem groups_merged_by_reload :
    (Run.exec (State.step (fun _ => []) 1000) {} mergingRun).memory.groups.length = 2 ∧
    (saveRegistry (fun _ => []) 1000
      (Run.exec (State.step (fun _ => []) 1000) {} mergingRun).memory).map
        (fun content => (loadRegistry 2 content).groups.length) = some 1 := by
  decide +kernel

end StylyMdm.Registry
