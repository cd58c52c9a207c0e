import StylyMdm.Library.Run
import StylyMdm.Library.Dict
import StylyMdm.PushJobs.Uuid

/-!
# Transfer slots

A slot that a device holds is a future in `pending_transfers`, a dictionary in `server.py`. The
runtime of the push jobs replaces the dictionary by an adapter over its registry of typed keys, and
`release_transfer_slot` by a function of its own. Both are modelled here with the operations of the
jobs that use them, as two machines with the same labels.

The jobs register futures for the tasks `install` and `push` only. Where the task of a release is
neither of these nor `None` (a `DOWNLOAD_COMPLETE` names it freely), the original finds nothing,
while the replacement goes on as for `None` and releases all slots of the device.

**Keys.** A waiter of the old jobs is registered under the device, the task and a fresh UUID, one of
the new jobs under the job's own identifier. No key is both (`Legacy.ne_canonicalKey`), so the old
operations never touch a waiter of a canonical job.

**Refinement.** `Agrees` relates a state of the one machine to a state of the other: the same
futures, the same answers so far, the same future under each tuple key, and the same waiters of
canonical jobs. Each operation keeps it, `release` under the condition that it names a task of the
jobs, names none, or finds no open slot (`Named`). The other direction needs the answers: a release
that does not meet the condition returns `False` there and `True` here, and what was returned is
never forgotten (`Plain.returned_exec`, `Typed.returned_exec`). Together they are
`release_refines_iff`.
-/

namespace StylyMdm.Transfers.Slots

open PushJobs

/-! ### Futures -/

/-- The number of a future. -/
abbrev FutureId := Nat

/-- How a future is done. -/
inductive Outcome
  | result (reason : String)
  | cancelled
deriving DecidableEq

/-- The futures that are done. -/
abbrev Futures := FutureId → Option Outcome

/-- `set_result` on a list of futures, those that are done apart, and whether there was one. -/
def Futures.resolve (futures : Futures) (reason : String) : List FutureId → Futures × Bool
  | [] => (futures, false)
  | fut :: rest =>
    if (futures fut).isSome then futures.resolve reason rest
    else
      let resolved := Futures.resolve
        (Function.update futures fut (some (.result reason))) reason rest
      (resolved.1, true)

/-- A `TransferKey`. -/
structure TransferKey where
  kind : String
  deviceId : String
  jobId : Option String
  attempt : Option Nat
deriving DecidableEq

/-- The key of a waiter of a canonical job. -/
def canonicalKey (deviceId : String) (jobId : String) : TransferKey :=
  ⟨"push", deviceId, some jobId, some 1⟩

/-- The tasks of the jobs that use tuple keys. -/
inductive Task
  | install
  | push

/-- The text of a task. -/
def Task.value : Task → String
  | .install => "install"
  | .push => "push"

/-- The operations. A registration is given the `uuid4()` that it may draw. -/
inductive Label
  /-- `pending_transfers[(device, task)] = fut` with a new future. -/
  | register (deviceId : String) (task : Task) (uuid : String)
  /-- `if pending_transfers.get(key) is fut: del pending_transfers[key]`. -/
  | remove (deviceId : String) (task : Task) (fut : FutureId)
  /-- `register`, `release_exact` and `remove_if_same` for the waiter of a canonical job. -/
  | canonical (deviceId : String) (jobId : String)
  | releaseExact (deviceId : String) (jobId : String) (reason : String)
  | removeIfSame (deviceId : String) (jobId : String) (fut : FutureId)
  /-- A waiter gives up. -/
  | cancel (fut : FutureId)
  /-- `release_transfer_slot`. -/
  | release (deviceId : String) (reason : String) (task : Option String)

/-! ### The registry -/

/-- The waiters of the `TransferRegistry`. -/
abbrev Registry := Dict TransferKey FutureId

/-- `register`; `none` is a `RuntimeError`. -/
def Registry.register (registry : Registry) (futures : Futures) (key : TransferKey)
    (fut : FutureId) : Option Registry :=
  if (Dict.get registry key).any fun current => (futures current).isNone then none
  else some (Dict.set registry key fut)

/-- `remove_if_same`. -/
def Registry.removeIfSame (registry : Registry) (key : TransferKey) (fut : FutureId) : Registry :=
  if Dict.get registry key = some fut then Dict.del registry key else registry

/-! ### The original -/

/-- `pending_transfers` of `server.py`, beside a registry for the canonical jobs. -/
structure Plain where
  pendingTransfers : Dict (String × String) FutureId
  registry : Registry
  futures : Futures
  nextFuture : FutureId
  returned : List Bool

namespace Plain

/-- The server before its first transfer. -/
def initial : Plain := ⟨∅, ∅, fun _ => none, 0, []⟩

/-- `release_transfer_slot`. -/
def releaseTransferSlot (s : Plain) (deviceId : String) (reason : String) :
    Option String → Futures × Bool
  | some task =>
    match s.pendingTransfers.get (deviceId, task) with
    | none => (s.futures, false)
    | some fut => s.futures.resolve reason [fut]
  | none =>
    s.futures.resolve reason
      ((s.pendingTransfers.rows.filter fun item => item.1.1 = deviceId).map Prod.snd)

/-- One step of the server with the plain dict. -/
def step (s : Plain) : Label → Plain
  | .register deviceId task _ =>
    { s with
      pendingTransfers := s.pendingTransfers.set (deviceId, task.value) s.nextFuture
      nextFuture := s.nextFuture + 1 }
  | .remove deviceId task fut =>
    if s.pendingTransfers.get (deviceId, task.value) = some fut then
      { s with pendingTransfers := s.pendingTransfers.del (deviceId, task.value) }
    else s
  | .canonical deviceId jobId =>
    if canonicalUuid4 jobId ≠ some jobId then s
    else
      { s with
        registry := (s.registry.register s.futures (canonicalKey deviceId jobId)
          s.nextFuture).getD s.registry
        nextFuture := s.nextFuture + 1 }
  | .releaseExact deviceId jobId reason =>
    if canonicalUuid4 jobId ≠ some jobId then s
    else
      match Dict.get s.registry (canonicalKey deviceId jobId) with
      | none => s
      | some fut => { s with futures := (s.futures.resolve reason [fut]).1 }
  | .removeIfSame deviceId jobId fut =>
    if canonicalUuid4 jobId ≠ some jobId then s
    else { s with registry := s.registry.removeIfSame (canonicalKey deviceId jobId) fut }
  | .cancel fut =>
    if (s.futures fut).isSome then s
    else { s with futures := Function.update s.futures fut (some .cancelled) }
  | .release deviceId reason task =>
    let (futures, released) := s.releaseTransferSlot deviceId reason task
    { s with futures, returned := s.returned ++ [released] }

end Plain

/-! ### The replacement -/

/-- The adapter over the registry of the runtime. -/
structure Typed where
  keys : Dict (String × String) TransferKey
  registry : Registry
  futures : Futures
  nextFuture : FutureId
  returned : List Bool

namespace Typed

/-- The server before its first transfer. -/
def initial : Typed := ⟨∅, ∅, fun _ => none, 0, []⟩

/-- `_key`. -/
def key (s : Typed) (key : String × String) (uuid : String) : TransferKey :=
  if key.2 = "install" then ⟨"install", key.1, none, none⟩
  else
    match s.keys.get key with
    | some existing => existing
    | none => ⟨"push", key.1, some ("legacy-" ++ uuid), some 1⟩

/-- `get`, through `__getitem__`: it drops a key whose waiter is gone. -/
def getItem (s : Typed) (key : String × String) : Typed × Option FutureId :=
  match s.keys.get key with
  | none => (s, none)
  | some typed =>
    match Dict.get s.registry typed with
    | none => ({ s with keys := s.keys.del key }, none)
    | some fut => (s, some fut)

/-- `__setitem__`. -/
def setItem (s : Typed) (key : String × String) (uuid : String) (fut : FutureId) : Typed :=
  let registry :=
    match s.keys.get key with
    | none => s.registry
    | some previous =>
      match Dict.get s.registry previous with
      | none => s.registry
      | some current => s.registry.removeIfSame previous current
  let typed := s.key key uuid
  match registry.register s.futures typed fut with
  | none => { s with registry }
  | some registry => { s with registry, keys := s.keys.set key typed }

/-- `__delitem__`, for a key that is there. -/
def delItem (s : Typed) (key : String × String) : Typed :=
  match s.keys.get key with
  | none => s
  | some typed =>
    let registry :=
      match Dict.get s.registry typed with
      | none => s.registry
      | some fut => s.registry.removeIfSame typed fut
    { s with registry, keys := s.keys.del key }

/-- `__iter__`, to its end: it drops the keys whose waiters are gone. -/
def iter (s : Typed) : Typed × List (String × String) :=
  let live := fun item : (String × String) × TransferKey => (Dict.get s.registry item.2).isSome
  ({ s with keys := s.keys.delete fun item => !live item },
    (s.keys.rows.filter live).map Prod.fst)

/-- The futures of the keys of a device, one `get` after the other. -/
def getAll (s : Typed) (deviceId : String) : List (String × String) → Typed × List FutureId
  | [] => (s, [])
  | key :: rest =>
    if key.1 ≠ deviceId then s.getAll deviceId rest
    else
      let got := s.getItem key
      let rest := got.1.getAll deviceId rest
      (rest.1, got.2.toList ++ rest.2)

/-- `_release_transfer_slot`. -/
def releaseTransferSlot (s : Typed) (deviceId : String) (reason : String)
    (task : Option String) : Typed × Bool :=
  let (s, futs) :=
    if task = some "install" ∨ task = some "push" then
      let got := s.getItem (deviceId, task.getD "")
      (got.1, got.2.toList)
    else
      let keys := s.iter
      keys.1.getAll deviceId keys.2
  let resolved := s.futures.resolve reason futs
  ({ s with futures := resolved.1 }, resolved.2)

/-- One step of the server with the adapter. -/
def step (s : Typed) : Label → Typed
  | .register deviceId task uuid =>
    { s.setItem (deviceId, task.value) uuid s.nextFuture with nextFuture := s.nextFuture + 1 }
  | .remove deviceId task fut =>
    let got := s.getItem (deviceId, task.value)
    if got.2 = some fut then got.1.delItem (deviceId, task.value) else got.1
  | .canonical deviceId jobId =>
    if canonicalUuid4 jobId ≠ some jobId then s
    else
      { s with
        registry := (s.registry.register s.futures (canonicalKey deviceId jobId)
          s.nextFuture).getD s.registry
        nextFuture := s.nextFuture + 1 }
  | .releaseExact deviceId jobId reason =>
    if canonicalUuid4 jobId ≠ some jobId then s
    else
      match Dict.get s.registry (canonicalKey deviceId jobId) with
      | none => s
      | some fut => { s with futures := (s.futures.resolve reason [fut]).1 }
  | .removeIfSame deviceId jobId fut =>
    if canonicalUuid4 jobId ≠ some jobId then s
    else { s with registry := s.registry.removeIfSame (canonicalKey deviceId jobId) fut }
  | .cancel fut =>
    if (s.futures fut).isSome then s
    else { s with futures := Function.update s.futures fut (some .cancelled) }
  | .release deviceId reason task =>
    let released := s.releaseTransferSlot deviceId reason task
    { released.1 with returned := s.returned ++ [released.2] }

end Typed

/-- The condition of agreement on a release: the task is one of those that the jobs register or is
`None`, or the device holds no slot that is still open. -/
def Named (s : Plain) : Label → Prop
  | .release deviceId _ task =>
    task = none ∨ task = some "install" ∨ task = some "push" ∨
      ∀ key fut, s.pendingTransfers.get key = some fut → key.1 = deviceId →
        (s.futures fut).isSome
  | _ => True

/-! ### Completing futures -/

namespace Futures

variable {futures : Futures} {reason : String} {futs futs' : List FutureId} {fut : FutureId}

theorem resolve_fst : (futures.resolve reason futs).1 fut =
    if fut ∈ futs ∧ futures fut = none then some (.result reason) else futures fut := by
  induction futs generalizing futures with
  | nil => simp [resolve]
  | cons head rest ih =>
    by_cases hdone : (futures head).isSome
    · have hhead : futures head ≠ none := Option.isSome_iff_ne_none.1 hdone
      rw [resolve, if_pos hdone, ih]
      by_cases heq : fut = head
      · subst heq
        rw [if_neg fun h => hhead h.2, if_neg fun h => hhead h.2]
      · simp only [List.mem_cons, heq, false_or]
    · have hhead : futures head = none := by simpa using hdone
      rw [resolve, if_neg hdone]
      dsimp only
      rw [ih]
      by_cases heq : fut = head
      · subst heq
        simp [hhead]
      · rw [Function.update_of_ne heq]
        simp only [List.mem_cons, heq, false_or]

theorem resolve_snd :
    (futures.resolve reason futs).2 = true ↔ ∃ fut ∈ futs, futures fut = none := by
  induction futs generalizing futures with
  | nil => simp [resolve]
  | cons head rest ih =>
    by_cases hdone : (futures head).isSome
    · have hhead : futures head ≠ none := Option.isSome_iff_ne_none.1 hdone
      rw [resolve, if_pos hdone, ih]
      simp [hhead]
    · have hhead : futures head = none := by simpa using hdone
      rw [resolve, if_neg hdone]
      simp [hhead]

/-- The order in which the futures are visited does not matter. -/
theorem resolve_congr (h : ∀ fut, fut ∈ futs ↔ fut ∈ futs') :
    futures.resolve reason futs = futures.resolve reason futs' := by
  refine Prod.ext (funext fun fut => ?_) (Bool.eq_iff_iff.2 ?_)
  · simp only [resolve_fst, h fut]
  · rw [resolve_snd, resolve_snd]
    exact exists_congr fun fut => and_congr_left fun _ => h fut

theorem resolve_eq_self (h : ∀ fut ∈ futs, (futures fut).isSome) :
    futures.resolve reason futs = (futures, false) := by
  refine Prod.ext (funext fun fut => ?_) (Bool.eq_false_iff.2 fun hsnd => ?_)
  · rw [resolve_fst]
    refine if_neg fun hopen => ?_
    have := h fut hopen.1
    simp [hopen.2] at this
  · obtain ⟨fut, hfut, hnone⟩ := resolve_snd.1 hsnd
    have := h fut hfut
    simp [hnone] at this

end Futures

/-! ### The keys of the adapter -/

/-- `typed` is a key that the adapter makes for `key`. -/
def Legacy (key : String × String) (typed : TransferKey) : Prop :=
  (key.2 = "install" ∧ typed = ⟨"install", key.1, none, none⟩) ∨
    (key.2 = "push" ∧ ∃ uuid, typed = ⟨"push", key.1, some ("legacy-" ++ uuid), some 1⟩)

theorem Legacy.inj {key key' : String × String} {typed : TransferKey} (h : Legacy key typed)
    (h' : Legacy key' typed) : key = key' := by
  obtain ⟨htask, htyped⟩ | ⟨htask, uuid, htyped⟩ := h <;>
    obtain ⟨htask', htyped'⟩ | ⟨htask', uuid', htyped'⟩ := h' <;>
    rw [htyped, TransferKey.mk.injEq] at htyped'
  · exact Prod.ext htyped'.2.1 (htask.trans htask'.symm)
  · exact absurd htyped'.1 (by decide)
  · exact absurd htyped'.1 (by decide)
  · exact Prod.ext htyped'.2.1 (htask.trans htask'.symm)

/-- The identifier of a canonical job consists of hexadecimal digits and hyphens. -/
theorem canonicalUuid4_legacy (uuid : String) :
    canonicalUuid4 ("legacy-" ++ uuid) ≠ some ("legacy-" ++ uuid) := by
  intro h
  obtain ⟨value, -, htext⟩ := Option.map_eq_some_iff.1 h
  have hgroups : 'l' ∈ groups (hexText 32 value) := by
    have hchars : (uuidText value).toList = groups (hexText 32 value) := String.toList_ofList
    rw [← hchars, htext, String.toList_append]
    exact List.mem_append_left _ (by decide)
  obtain hhyphen | hdigit := mem_groups hgroups
  · exact absurd hhyphen (by decide)
  · exact absurd (mem_hexText hdigit) (by decide)

theorem Legacy.ne_canonicalKey {key : String × String} {typed : TransferKey}
    (h : Legacy key typed) {deviceId jobId : String} (hjob : canonicalUuid4 jobId = some jobId) :
    typed ≠ canonicalKey deviceId jobId := by
  rintro rfl
  obtain ⟨-, htyped⟩ | ⟨-, uuid, htyped⟩ := h
  · exact absurd (TransferKey.mk.inj htyped).1 (by decide)
  · have hid : jobId = "legacy-" ++ uuid := Option.some.inj (TransferKey.mk.inj htyped).2.2.1
    exact canonicalUuid4_legacy uuid (hid ▸ hjob)

/-! ### The futures that a release visits -/

/-- The slots that `release_transfer_slot` visits. -/
def Plain.slots (s : Plain) (deviceId : String) : Option String → List FutureId
  | some task => (s.pendingTransfers.get (deviceId, task)).toList
  | none => (s.pendingTransfers.rows.filter fun item => item.1.1 = deviceId).map Prod.snd

theorem Plain.releaseTransferSlot_eq (s : Plain) (deviceId reason : String)
    (task : Option String) : s.releaseTransferSlot deviceId reason task =
      s.futures.resolve reason (s.slots deviceId task) := by
  rcases task with _ | task
  · rfl
  · rw [releaseTransferSlot, slots]
    rcases s.pendingTransfers.get (deviceId, task) with _ | fut <;> rfl

theorem Plain.mem_slots {s : Plain} {deviceId : String} {task : Option String} {fut : FutureId} :
    fut ∈ s.slots deviceId task ↔ ∃ key, s.pendingTransfers.get key = some fut ∧
      key.1 = deviceId ∧ ∀ name, task = some name → key.2 = name := by
  rcases task with _ | task
  · rw [slots, List.mem_map]
    constructor
    · rintro ⟨⟨key, _⟩, hitem, rfl⟩
      rw [List.mem_filter, decide_eq_true_iff] at hitem
      exact ⟨key, Dict.mem_iff.1 hitem.1, hitem.2, fun _ h => absurd h (Option.some_ne_none _).symm⟩
    · rintro ⟨key, hget, hdevice, -⟩
      exact ⟨(key, fut), List.mem_filter.2 ⟨Dict.mem_iff.2 hget, decide_eq_true hdevice⟩, rfl⟩
  · rw [slots, Option.mem_toList]
    constructor
    · exact fun h => ⟨(deviceId, task), h, rfl, fun name hname => Option.some.inj hname⟩
    · rintro ⟨⟨_, _⟩, hget, rfl, htask⟩
      rw [← htask task rfl]
      exact hget

/-! ### Agreement -/

/-- The adapter over its registry shows the dictionary. -/
structure Agrees (p : Plain) (t : Typed) : Prop where
  futures : p.futures = t.futures
  nextFuture : p.nextFuture = t.nextFuture
  returned : p.returned = t.returned
  pending : ∀ key, p.pendingTransfers.get key = (t.keys.get key).bind (Dict.get t.registry)
  live : ∀ key typed, t.keys.get key = some typed → ∃ fut, Dict.get t.registry typed = some fut
  legacy : ∀ key typed, t.keys.get key = some typed → Legacy key typed
  canonical : ∀ deviceId jobId, canonicalUuid4 jobId = some jobId →
    Dict.get p.registry (canonicalKey deviceId jobId) =
      Dict.get t.registry (canonicalKey deviceId jobId)
  /-- No waiter is left behind. -/
  owned : ∀ typed fut, Dict.get t.registry typed = some fut →
    (∃ deviceId jobId, canonicalUuid4 jobId = some jobId ∧ typed = canonicalKey deviceId jobId) ∨
      ∃ key, t.keys.get key = some typed
  below : ∀ typed fut, Dict.get t.registry typed = some fut → fut < t.nextFuture
  inj : ∀ typed typed' fut, Dict.get t.registry typed = some fut →
    Dict.get t.registry typed' = some fut → typed = typed'

namespace Agrees

variable {p : Plain} {t : Typed}

theorem initial : Agrees .initial .initial where
  futures := rfl
  nextFuture := rfl
  returned := rfl
  pending _ := rfl
  live _ _ h := absurd h (Option.some_ne_none _).symm
  legacy _ _ h := absurd h (Option.some_ne_none _).symm
  canonical _ _ _ := rfl
  owned _ _ h := absurd h (Option.some_ne_none _).symm
  below _ _ h := absurd h (Option.some_ne_none _).symm
  inj _ _ _ h := absurd h (Option.some_ne_none _).symm

theorem key_of_pending (h : Agrees p t) {key : String × String} {fut : FutureId}
    (hget : p.pendingTransfers.get key = some fut) :
    ∃ typed, t.keys.get key = some typed ∧ Dict.get t.registry typed = some fut := by
  rw [h.pending] at hget
  exact Option.bind_eq_some_iff.1 hget

theorem task_of_pending (h : Agrees p t) {key : String × String} {fut : FutureId}
    (hget : p.pendingTransfers.get key = some fut) : key.2 = "install" ∨ key.2 = "push" := by
  obtain ⟨typed, htyped, -⟩ := h.key_of_pending hget
  obtain ⟨htask, -⟩ | ⟨htask, -⟩ := h.legacy key typed htyped
  · exact .inl htask
  · exact .inr htask

/-- Looking up a key drops nothing. -/
theorem getItem_eq (h : Agrees p t) (key : String × String) :
    t.getItem key = (t, p.pendingTransfers.get key) := by
  rw [Typed.getItem, h.pending]
  rcases htyped : t.keys.get key with _ | typed
  · rfl
  · obtain ⟨fut, hfut⟩ := h.live key typed htyped
    simp [hfut]

/-- Neither does the iteration. -/
theorem iter_eq (h : Agrees p t) : t.iter = (t, t.keys.rows.map Prod.fst) := by
  have hlive : ∀ item ∈ t.keys.rows, (Dict.get t.registry item.2).isSome := by
    intro item hitem
    obtain ⟨fut, hfut⟩ := h.live item.1 item.2 (Dict.mem_iff.1 hitem)
    simp [hfut]
  have hkeys : (t.keys.delete fun item => !(Dict.get t.registry item.2).isSome) = t.keys := by
    refine Table.ext_rows (List.filter_eq_self.2 fun item hitem => ?_)
    simp [hlive item hitem]
  rw [Typed.iter, hkeys, List.filter_eq_self.2 hlive]

theorem getAll_eq (h : Agrees p t) (deviceId : String) (keys : List (String × String)) :
    t.getAll deviceId keys =
      (t, (keys.filter fun key => key.1 = deviceId).filterMap p.pendingTransfers.get) := by
  induction keys with
  | nil => rfl
  | cons key rest ih =>
    rw [Typed.getAll]
    by_cases hdevice : key.1 = deviceId
    · rw [if_neg (not_not.2 hdevice), List.filter_cons, if_pos (decide_eq_true hdevice)]
      dsimp only
      rw [h.getItem_eq, ih, List.filterMap_cons]
      rcases p.pendingTransfers.get key with _ | fut <;> rfl
    · rw [if_pos hdevice, List.filter_cons, if_neg (by simpa using hdevice), ih]

/-- The replacement completes the slots of the device, those of the task where it is `install` or
`push`. -/
theorem releaseTransferSlot_eq (h : Agrees p t) (deviceId reason : String)
    (task : Option String) : ∃ futs,
      (∀ fut, fut ∈ futs ↔ ∃ key, p.pendingTransfers.get key = some fut ∧ key.1 = deviceId ∧
        (task = some "install" ∨ task = some "push" → task = some key.2)) ∧
      t.releaseTransferSlot deviceId reason task =
        ({ t with futures := (t.futures.resolve reason futs).1 },
          (t.futures.resolve reason futs).2) := by
  by_cases htask : task = some "install" ∨ task = some "push"
  · refine ⟨(p.pendingTransfers.get (deviceId, task.getD "")).toList, fun fut => ?_, ?_⟩
    · have hname : ∃ name, task = some name := by
        rcases htask with htask | htask <;> exact ⟨_, htask⟩
      obtain ⟨name, rfl⟩ := hname
      rw [Option.mem_toList]
      constructor
      · exact fun hget => ⟨_, hget, rfl, fun _ => rfl⟩
      · rintro ⟨⟨_, _⟩, hget, rfl, hkey⟩
        have : name = _ := Option.some.inj (hkey htask)
        rw [Option.getD_some, this]
        exact hget
    · rw [Typed.releaseTransferSlot, if_pos htask, h.getItem_eq]
  · refine ⟨((t.keys.rows.map Prod.fst).filter fun key => key.1 = deviceId).filterMap
      p.pendingTransfers.get, fun fut => ?_, ?_⟩
    · rw [List.mem_filterMap]
      constructor
      · rintro ⟨key, hkey, hget⟩
        rw [List.mem_filter, decide_eq_true_iff] at hkey
        exact ⟨key, hget, hkey.2, fun h => absurd h htask⟩
      · rintro ⟨key, hget, hdevice, -⟩
        obtain ⟨typed, htyped, -⟩ := h.key_of_pending hget
        have hmem : key ∈ t.keys.rows.map Prod.fst :=
          List.mem_map_of_mem (f := Prod.fst) (Dict.mem_iff.2 htyped)
        exact ⟨key, List.mem_filter.2 ⟨hmem, decide_eq_true hdevice⟩, hget⟩
    · rw [Typed.releaseTransferSlot, if_neg htask, h.iter_eq]
      dsimp only
      rw [h.getAll_eq]

/-! ### One step -/

/-- A change of futures and of what was returned, the same on both sides. -/
theorem withFutures (h : Agrees p t) (futures : Futures) (released : List Bool) :
    Agrees { p with futures, returned := p.returned ++ released }
      { t with futures, returned := t.returned ++ released } :=
  { h with futures := rfl, returned := congrArg (· ++ released) h.returned }

/-- A change of the waiter of a canonical job, the same on both sides. -/
theorem withCanonical (h : Agrees p t) (registry registry' : Registry)
    {nextFuture nextFuture' : FutureId} (deviceId : String) {jobId : String}
    (hjob : canonicalUuid4 jobId = some jobId) (hsame : nextFuture = nextFuture')
    (hnext : t.nextFuture ≤ nextFuture')
    (hframe : ∀ key, key ≠ canonicalKey deviceId jobId →
      Dict.get registry key = Dict.get p.registry key)
    (hframe' : ∀ key, key ≠ canonicalKey deviceId jobId →
      Dict.get registry' key = Dict.get t.registry key)
    (heq : Dict.get registry (canonicalKey deviceId jobId) =
      Dict.get registry' (canonicalKey deviceId jobId))
    (hnew : ∀ fut, Dict.get registry' (canonicalKey deviceId jobId) = some fut →
      Dict.get t.registry (canonicalKey deviceId jobId) = some fut ∨
        t.nextFuture ≤ fut ∧ fut < nextFuture') :
    Agrees { p with registry, nextFuture }
      { t with registry := registry', nextFuture := nextFuture' } := by
  -- The keys of the adapter are never canonical.
  have hkeys : ∀ key typed, t.keys.get key = some typed →
      Dict.get registry' typed = Dict.get t.registry typed := fun key typed htyped =>
    hframe' typed ((h.legacy key typed htyped).ne_canonicalKey hjob)
  -- A waiter that is found now was found before or is new.
  have hold : ∀ typed fut, Dict.get registry' typed = some fut →
      Dict.get t.registry typed = some fut ∨
        typed = canonicalKey deviceId jobId ∧ t.nextFuture ≤ fut ∧ fut < nextFuture' := by
    intro typed fut hfut
    by_cases htyped : typed = canonicalKey deviceId jobId
    · subst htyped
      exact (hnew fut hfut).imp_right fun hfresh => ⟨rfl, hfresh⟩
    · exact .inl ((hframe' typed htyped).symm.trans hfut)
  exact {
    futures := h.futures
    nextFuture := hsame
    returned := h.returned
    pending := by
      intro key
      rw [h.pending]
      rcases htyped : t.keys.get key with _ | typed
      · rfl
      · exact (hkeys key typed htyped).symm
    live := by
      intro key typed htyped
      rw [hkeys key typed htyped]
      exact h.live key typed htyped
    legacy := h.legacy
    canonical := by
      intro deviceId' jobId' hjob'
      by_cases hkey : canonicalKey deviceId' jobId' = canonicalKey deviceId jobId
      · rw [hkey]
        exact heq
      · exact (hframe _ hkey).trans ((h.canonical _ _ hjob').trans (hframe' _ hkey).symm)
    owned := by
      intro typed fut hfut
      obtain hfut | ⟨rfl, -⟩ := hold typed fut hfut
      · exact h.owned typed fut hfut
      · exact .inl ⟨deviceId, jobId, hjob, rfl⟩
    below := by
      intro typed fut hfut
      obtain hfut | ⟨-, -, hlt⟩ := hold typed fut hfut
      · exact (h.below typed fut hfut).trans_le hnext
      · exact hlt
    inj := by
      intro typed typed' fut hfut hfut'
      obtain hfut | ⟨rfl, hge, -⟩ := hold typed fut hfut <;>
        obtain hfut' | ⟨rfl, hge', -⟩ := hold typed' fut hfut'
      · exact h.inj typed typed' fut hfut hfut'
      · exact absurd (h.below typed fut hfut) (Nat.not_lt.2 hge')
      · exact absurd (h.below typed' fut hfut') (Nat.not_lt.2 hge)
      · rfl }

end Agrees

/-! ### The registry -/

namespace Registry

variable {registry : Registry} {futures : Futures} {key key' : TransferKey} {fut : FutureId}

theorem get_register : Dict.get ((registry.register futures key fut).getD registry) key' =
    if key' = key ∧ ¬((Dict.get registry key).any fun current => (futures current).isNone)
    then some fut else Dict.get registry key' := by
  rw [register]
  by_cases hbusy : (Dict.get registry key).any fun current => (futures current).isNone
  · rw [if_pos hbusy, if_neg fun h => h.2 hbusy, Option.getD_none]
  · rw [if_neg hbusy, Option.getD_some, Dict.get_set]
    by_cases hkey : key' = key
    · rw [if_pos hkey, if_pos ⟨hkey, hbusy⟩]
    · rw [if_neg hkey, if_neg fun h => hkey h.1]

theorem register_of_get_none (h : Dict.get registry key = none) :
    registry.register futures key fut = some (Dict.set registry key fut) := by
  rw [register, h]
  exact if_neg Bool.false_ne_true

theorem get_removeIfSame : Dict.get (registry.removeIfSame key fut) key' =
    if key' = key ∧ Dict.get registry key = some fut then none else Dict.get registry key' := by
  rw [removeIfSame]
  by_cases hsame : Dict.get registry key = some fut
  · rw [if_pos hsame, Dict.get_del]
    simp only [hsame, and_true]
  · rw [if_neg hsame, if_neg fun h => hsame h.2]

end Registry

namespace Agrees

variable {p : Plain} {t : Typed}

/-- A key that the adapter does not hold has no waiter. -/
theorem get_of_legacy (h : Agrees p t) {key : String × String} {typed : TransferKey}
    (hlegacy : Legacy key typed) (hkey : t.keys.get key = none) :
    Dict.get t.registry typed = none := by
  rw [Option.eq_none_iff_forall_not_mem]
  intro fut hfut
  obtain ⟨deviceId, jobId, hjob, rfl⟩ | ⟨key', hkey'⟩ := h.owned typed fut hfut
  · exact hlegacy.ne_canonicalKey hjob rfl
  · rw [(h.legacy key' typed hkey').inj hlegacy, hkey] at hkey'
    exact absurd hkey' (Option.some_ne_none _).symm

/-- An assignment moves the waiter of the typed key, which is the one that was there. -/
theorem setItem_eq (h : Agrees p t) (deviceId : String) (task : Task) (uuid : String)
    (fut : FutureId) : ∃ typed registry,
      t.setItem (deviceId, task.value) uuid fut =
        { t with registry, keys := t.keys.set (deviceId, task.value) typed } ∧
      Legacy (deviceId, task.value) typed ∧
      (∀ previous, t.keys.get (deviceId, task.value) = some previous → previous = typed) ∧
      ∀ key, Dict.get registry key = if key = typed then some fut else Dict.get t.registry key := by
  rcases hkey : t.keys.get (deviceId, task.value) with _ | previous
  · have hlegacy : Legacy (deviceId, task.value) (t.key (deviceId, task.value) uuid) := by
      cases task with
      | install => exact .inl ⟨rfl, rfl⟩
      | push =>
        refine .inr ⟨rfl, uuid, ?_⟩
        have : t.keys.get (deviceId, "push") = none := hkey
        simp [Typed.key, Task.value, this]
    have hnone := h.get_of_legacy hlegacy hkey
    refine ⟨t.key (deviceId, task.value) uuid,
      Dict.set t.registry (t.key (deviceId, task.value) uuid) fut, ?_, hlegacy,
      fun previous hprevious => absurd hprevious (Option.some_ne_none _).symm,
      fun key => Dict.get_set⟩
    rw [Typed.setItem, hkey]
    dsimp only
    rw [Registry.register_of_get_none hnone]
  · obtain ⟨current, hcurrent⟩ := h.live _ previous hkey
    have hlegacy := h.legacy _ previous hkey
    have htyped : t.key (deviceId, task.value) uuid = previous := by
      cases task with
      | install =>
        obtain ⟨-, htyped⟩ | ⟨htask, -⟩ := hlegacy
        · exact htyped.symm
        · exact absurd (show "install" = "push" from htask) (by decide)
      | push =>
        have : t.keys.get (deviceId, "push") = some previous := hkey
        simp [Typed.key, Task.value, this]
    have hremoved : ∀ key, Dict.get (t.registry.removeIfSame previous current) key =
        if key = previous then none else Dict.get t.registry key := by
      intro key
      rw [Registry.get_removeIfSame]
      simp only [hcurrent, and_true]
    refine ⟨previous, Dict.set (t.registry.removeIfSame previous current) previous fut, ?_,
      hlegacy, fun previous' hprevious => (Option.some.inj hprevious).symm, fun key => ?_⟩
    · rw [Typed.setItem, hkey]
      dsimp only
      rw [hcurrent, htyped]
      dsimp only
      rw [Registry.register_of_get_none ((hremoved previous).trans (if_pos rfl))]
    · rw [Dict.get_set, hremoved]
      by_cases hprevious : key = previous
      · rw [if_pos hprevious, if_pos hprevious]
      · rw [if_neg hprevious, if_neg hprevious, if_neg hprevious]

theorem register (h : Agrees p t) (deviceId : String) (task : Task) (uuid : String) :
    Agrees (p.step (.register deviceId task uuid)) (t.step (.register deviceId task uuid)) := by
  obtain ⟨typed, registry, hset, hlegacy, hprevious, hget⟩ :=
    h.setItem_eq deviceId task uuid t.nextFuture
  have hne : ∀ key' typed', t.keys.get key' = some typed' → key' ≠ (deviceId, task.value) →
      typed' ≠ typed := by
    rintro key' typed' hkey' hne rfl
    exact hne ((h.legacy key' typed' hkey').inj hlegacy)
  have hold : ∀ typed' fut, Dict.get registry typed' = some fut →
      (typed' = typed ∧ fut = t.nextFuture) ∨
        (typed' ≠ typed ∧ Dict.get t.registry typed' = some fut) := by
    intro typed' fut hfut
    rw [hget] at hfut
    by_cases htyped : typed' = typed
    · rw [if_pos htyped] at hfut
      exact .inl ⟨htyped, (Option.some.inj hfut).symm⟩
    · rw [if_neg htyped] at hfut
      exact .inr ⟨htyped, hfut⟩
  rw [Plain.step, Typed.step, hset]
  exact {
    futures := h.futures
    nextFuture := congrArg (· + 1) h.nextFuture
    returned := h.returned
    pending := by
      intro key
      dsimp only
      rw [Dict.get_set, Dict.get_set, h.nextFuture]
      by_cases hkey : key = (deviceId, task.value)
      · rw [if_pos hkey, if_pos hkey, Option.bind_some, hget, if_pos rfl]
      · rw [if_neg hkey, if_neg hkey, h.pending]
        rcases htyped : t.keys.get key with _ | typed'
        · rfl
        · rw [Option.bind_some, Option.bind_some, hget, if_neg (hne key typed' htyped hkey)]
    live := by
      intro key typed' hkey'
      dsimp only at hkey' ⊢
      rw [Dict.get_set] at hkey'
      rw [hget]
      by_cases htyped : typed' = typed
      · exact ⟨_, if_pos htyped⟩
      · rw [if_neg htyped]
        by_cases hkey : key = (deviceId, task.value)
        · rw [if_pos hkey] at hkey'
          exact absurd (Option.some.inj hkey').symm htyped
        · rw [if_neg hkey] at hkey'
          exact h.live key typed' hkey'
    legacy := by
      intro key typed' hkey'
      dsimp only at hkey'
      rw [Dict.get_set] at hkey'
      by_cases hkey : key = (deviceId, task.value)
      · rw [if_pos hkey, Option.some.injEq] at hkey'
        rw [hkey, ← hkey']
        exact hlegacy
      · rw [if_neg hkey] at hkey'
        exact h.legacy key typed' hkey'
    canonical := by
      intro deviceId' jobId hjob
      dsimp only
      rw [hget, if_neg (hlegacy.ne_canonicalKey hjob).symm]
      exact h.canonical deviceId' jobId hjob
    owned := by
      intro typed' fut hfut
      dsimp only
      obtain ⟨rfl, -⟩ | ⟨htyped, hfut⟩ := hold typed' fut hfut
      · exact .inr ⟨(deviceId, task.value), Dict.get_set.trans (if_pos rfl)⟩
      · obtain hcanonical | ⟨key, hkey'⟩ := h.owned typed' fut hfut
        · exact .inl hcanonical
        · refine .inr ⟨key, Dict.get_set.trans ?_⟩
          rw [if_neg]
          · exact hkey'
          · rintro rfl
            exact htyped (hprevious typed' hkey')
    below := by
      intro typed' fut hfut
      dsimp only
      obtain ⟨-, rfl⟩ | ⟨-, hfut⟩ := hold typed' fut hfut
      · exact Nat.lt_succ_self _
      · exact Nat.lt_succ_of_lt (h.below typed' fut hfut)
    inj := by
      intro typed₁ typed₂ fut hfut₁ hfut₂
      obtain ⟨rfl, hnext⟩ | ⟨-, hold₁⟩ := hold typed₁ fut hfut₁ <;>
        obtain ⟨rfl, hnext'⟩ | ⟨-, hold₂⟩ := hold typed₂ fut hfut₂
      · rfl
      · exact absurd (h.below typed₂ fut hold₂) (Nat.not_lt.2 hnext.ge)
      · exact absurd (h.below typed₁ fut hold₁) (Nat.not_lt.2 hnext'.ge)
      · exact h.inj typed₁ typed₂ fut hold₁ hold₂ }

theorem remove (h : Agrees p t) (deviceId : String) (task : Task) (fut : FutureId) :
    Agrees (p.step (.remove deviceId task fut)) (t.step (.remove deviceId task fut)) := by
  rw [Plain.step, Typed.step, h.getItem_eq]
  dsimp only
  by_cases hget : p.pendingTransfers.get (deviceId, task.value) = some fut
  case neg => rwa [if_neg hget, if_neg hget]
  rw [if_pos hget, if_pos hget]
  obtain ⟨typed, hkey, hfut⟩ := h.key_of_pending hget
  have hdel : t.delItem (deviceId, task.value) =
      { t with
        registry := t.registry.removeIfSame typed fut
        keys := t.keys.del (deviceId, task.value) } := by
    rw [Typed.delItem, hkey]
    dsimp only
    rw [hfut]
  have hremoved : ∀ key, Dict.get (t.registry.removeIfSame typed fut) key =
      if key = typed then none else Dict.get t.registry key := by
    intro key
    rw [Registry.get_removeIfSame]
    simp only [hfut, and_true]
  have hne : ∀ key' typed', t.keys.get key' = some typed' → key' ≠ (deviceId, task.value) →
      typed' ≠ typed := by
    rintro key' typed' hkey' hne rfl
    exact hne ((h.legacy key' typed' hkey').inj (h.legacy _ typed' hkey))
  have hkeys : ∀ key typed', Dict.get (t.keys.del (deviceId, task.value)) key = some typed' →
      key ≠ (deviceId, task.value) ∧ t.keys.get key = some typed' := by
    intro key typed' hkey'
    rw [Dict.get_del] at hkey'
    by_cases hsame : key = (deviceId, task.value)
    · rw [if_pos hsame] at hkey'
      exact absurd hkey' (Option.some_ne_none _).symm
    · rw [if_neg hsame] at hkey'
      exact ⟨hsame, hkey'⟩
  have hold : ∀ typed' fut', Dict.get (t.registry.removeIfSame typed fut) typed' = some fut' →
      typed' ≠ typed ∧ Dict.get t.registry typed' = some fut' := by
    intro typed' fut' hfut'
    rw [hremoved] at hfut'
    by_cases htyped : typed' = typed
    · rw [if_pos htyped] at hfut'
      exact absurd hfut' (Option.some_ne_none _).symm
    · rw [if_neg htyped] at hfut'
      exact ⟨htyped, hfut'⟩
  rw [hdel]
  exact {
    futures := h.futures
    nextFuture := h.nextFuture
    returned := h.returned
    pending := by
      intro key
      dsimp only
      rw [Dict.get_del, Dict.get_del]
      by_cases hsame : key = (deviceId, task.value)
      · rw [if_pos hsame, if_pos hsame]
        rfl
      · rw [if_neg hsame, if_neg hsame, h.pending]
        rcases hkey' : t.keys.get key with _ | typed'
        · rfl
        · rw [Option.bind_some, Option.bind_some, hremoved, if_neg (hne key typed' hkey' hsame)]
    live := by
      intro key typed' hkey'
      obtain ⟨hsame, hkey'⟩ := hkeys key typed' hkey'
      dsimp only
      rw [hremoved, if_neg (hne key typed' hkey' hsame)]
      exact h.live key typed' hkey'
    legacy := fun key typed' hkey' => h.legacy key typed' (hkeys key typed' hkey').2
    canonical := by
      intro deviceId' jobId hjob
      dsimp only
      rw [hremoved, if_neg ((h.legacy _ typed hkey).ne_canonicalKey hjob).symm]
      exact h.canonical deviceId' jobId hjob
    owned := by
      intro typed' fut' hfut'
      obtain ⟨htyped, hfut'⟩ := hold typed' fut' hfut'
      obtain hcanonical | ⟨key, hkey'⟩ := h.owned typed' fut' hfut'
      · exact .inl hcanonical
      · refine .inr ⟨key, Dict.get_del.trans ?_⟩
        rw [if_neg]
        · exact hkey'
        · rintro rfl
          rw [hkey] at hkey'
          exact htyped (Option.some.inj hkey').symm
    below := fun typed' fut' hfut' => h.below typed' fut' (hold typed' fut' hfut').2
    inj := fun typed₁ typed₂ fut' hfut₁ hfut₂ =>
      h.inj typed₁ typed₂ fut' (hold typed₁ fut' hfut₁).2 (hold typed₂ fut' hfut₂).2 }

/-- The operations on the waiters of the canonical jobs leave the slots of the adapter alone. -/
theorem canonicalJob (h : Agrees p t) (deviceId jobId : String) :
    Agrees (p.step (.canonical deviceId jobId)) (t.step (.canonical deviceId jobId)) := by
  rw [Plain.step, Typed.step]
  by_cases hjob : canonicalUuid4 jobId = some jobId
  case neg => rwa [if_pos hjob, if_pos hjob]
  rw [if_neg (not_not.2 hjob), if_neg (not_not.2 hjob)]
  refine h.withCanonical _ _ deviceId hjob (congrArg (· + 1) h.nextFuture) (Nat.le_succ _)
    (fun key hkey => ?_) (fun key hkey => ?_) ?_ ?_
  · rw [Registry.get_register, if_neg fun h => hkey h.1]
  · rw [Registry.get_register, if_neg fun h => hkey h.1]
  · rw [Registry.get_register, Registry.get_register, h.canonical deviceId jobId hjob,
      h.nextFuture, h.futures]
  · intro fut hfut
    rw [Registry.get_register] at hfut
    split at hfut
    · cases hfut
      exact .inr ⟨le_rfl, Nat.lt_succ_self _⟩
    · exact .inl hfut

theorem removeIfSame (h : Agrees p t) (deviceId jobId : String) (fut : FutureId) :
    Agrees (p.step (.removeIfSame deviceId jobId fut))
      (t.step (.removeIfSame deviceId jobId fut)) := by
  rw [Plain.step, Typed.step]
  by_cases hjob : canonicalUuid4 jobId = some jobId
  case neg => rwa [if_pos hjob, if_pos hjob]
  rw [if_neg (not_not.2 hjob), if_neg (not_not.2 hjob)]
  refine h.withCanonical _ _ deviceId hjob h.nextFuture le_rfl (fun key hkey => ?_)
    (fun key hkey => ?_) ?_ ?_
  · rw [Registry.get_removeIfSame, if_neg fun h => hkey h.1]
  · rw [Registry.get_removeIfSame, if_neg fun h => hkey h.1]
  · rw [Registry.get_removeIfSame, Registry.get_removeIfSame, h.canonical deviceId jobId hjob]
  · intro fut' hfut'
    rw [Registry.get_removeIfSame] at hfut'
    split at hfut'
    · exact absurd hfut' (Option.some_ne_none _).symm
    · exact .inl hfut'

theorem releaseExact (h : Agrees p t) (deviceId jobId reason : String) :
    Agrees (p.step (.releaseExact deviceId jobId reason))
      (t.step (.releaseExact deviceId jobId reason)) := by
  rw [Plain.step, Typed.step]
  by_cases hjob : canonicalUuid4 jobId = some jobId
  case neg => rwa [if_pos hjob, if_pos hjob]
  rw [if_neg (not_not.2 hjob), if_neg (not_not.2 hjob), h.canonical deviceId jobId hjob]
  rcases Dict.get t.registry (canonicalKey deviceId jobId) with _ | fut
  · exact h
  · exact { h with futures := congrArg (fun futures => (futures.resolve reason [fut]).1) h.futures }

theorem cancel (h : Agrees p t) (fut : FutureId) :
    Agrees (p.step (.cancel fut)) (t.step (.cancel fut)) := by
  rw [Plain.step, Typed.step, h.futures]
  by_cases hdone : (t.futures fut).isSome
  · rwa [if_pos hdone, if_pos hdone]
  · rw [if_neg hdone, if_neg hdone]
    exact { h with futures := rfl }

/-- A release that meets the condition completes the same futures. -/
theorem resolve_eq (h : Agrees p t) {deviceId reason : String} {task : Option String}
    (hnamed : Named p (.release deviceId reason task)) {futs : List FutureId}
    (hfuts : ∀ fut, fut ∈ futs ↔ ∃ key, p.pendingTransfers.get key = some fut ∧ key.1 = deviceId ∧
      (task = some "install" ∨ task = some "push" → task = some key.2)) :
    t.futures.resolve reason futs = t.futures.resolve reason (p.slots deviceId task) := by
  have htask : ∀ name : String, task = some name → name = "install" ∨ name = "push" →
      ∀ fut, fut ∈ futs ↔ fut ∈ p.slots deviceId task := by
    rintro name rfl hname fut
    rw [hfuts, Plain.mem_slots]
    refine exists_congr fun key => and_congr_right fun _ => and_congr_right fun _ => ?_
    simp only [Option.some.injEq]
    exact ⟨fun h _ hother => hother ▸ (h hname).symm, fun h _ => (h name rfl).symm⟩
  obtain rfl | rfl | rfl | hdone := hnamed
  · refine Futures.resolve_congr fun fut => ?_
    rw [hfuts, Plain.mem_slots]
    simp
  · exact Futures.resolve_congr (htask _ rfl (.inl rfl))
  · exact Futures.resolve_congr (htask _ rfl (.inr rfl))
  · -- The slots of the device are done, so that neither side completes one.
    rw [Futures.resolve_eq_self, Futures.resolve_eq_self]
    · intro fut hfut
      obtain ⟨key, hget, hdevice, -⟩ := Plain.mem_slots.1 hfut
      exact h.futures ▸ hdone key fut hget hdevice
    · intro fut hfut
      obtain ⟨key, hget, hdevice, -⟩ := (hfuts fut).1 hfut
      exact h.futures ▸ hdone key fut hget hdevice

theorem release (h : Agrees p t) {deviceId reason : String} {task : Option String}
    (hnamed : Named p (.release deviceId reason task)) :
    Agrees (p.step (.release deviceId reason task)) (t.step (.release deviceId reason task)) := by
  obtain ⟨futs, hfuts, hrelease⟩ := h.releaseTransferSlot_eq deviceId reason task
  rw [Plain.step, Typed.step, hrelease, p.releaseTransferSlot_eq, h.resolve_eq hnamed hfuts,
    h.futures]
  exact h.withFutures _ _

/-- **One step.** -/
theorem step (h : Agrees p t) {label : Label} (hnamed : Named p label) :
    Agrees (p.step label) (t.step label) := by
  cases label with
  | register deviceId task uuid => exact h.register deviceId task uuid
  | remove deviceId task fut => exact h.remove deviceId task fut
  | canonical deviceId jobId => exact h.canonicalJob deviceId jobId
  | releaseExact deviceId jobId reason => exact h.releaseExact deviceId jobId reason
  | removeIfSame deviceId jobId fut => exact h.removeIfSame deviceId jobId fut
  | cancel fut => exact h.cancel fut
  | release deviceId reason task => exact h.release hnamed

/-- A release that does not meet the condition returns `False`, and its replacement `True`. -/
theorem returned_of_not_named (h : Agrees p t) {label : Label} (hnamed : ¬Named p label) :
    (p.step label).returned = p.returned ++ [false] ∧
      (t.step label).returned = t.returned ++ [true] := by
  cases label with
  | release deviceId reason task =>
    simp only [Named, not_or, not_forall] at hnamed
    obtain ⟨hnone, hinstall, hpush, key, fut, hget, hdevice, hopen⟩ := hnamed
    have hopen : t.futures fut = none := by
      rw [← h.futures]
      simpa using hopen
    constructor
    · have hslots : p.slots deviceId task = [] := by
        refine List.eq_nil_iff_forall_not_mem.2 fun fut hfut => ?_
        obtain ⟨key, hget, -, htask⟩ := Plain.mem_slots.1 hfut
        obtain ⟨name, rfl⟩ := Option.ne_none_iff_exists'.1 hnone
        rcases h.task_of_pending hget with hkey | hkey
        · exact hinstall (congrArg some ((htask name rfl).symm.trans hkey))
        · exact hpush (congrArg some ((htask name rfl).symm.trans hkey))
      rw [Plain.step, p.releaseTransferSlot_eq, hslots]
      rfl
    · obtain ⟨futs, hfuts, hrelease⟩ := h.releaseTransferSlot_eq deviceId reason task
      have hmem : fut ∈ futs :=
        (hfuts fut).2 ⟨key, hget, hdevice, fun htask => absurd htask (not_or.2 ⟨hinstall, hpush⟩)⟩
      rw [Typed.step, hrelease]
      exact congrArg (fun released => t.returned ++ [released])
        (Futures.resolve_snd.2 ⟨fut, hmem, hopen⟩)
  | _ => exact absurd trivial hnamed

end Agrees

/-! ### Runs -/

theorem Plain.returned_step (s : Plain) (label : Label) :
    s.returned <+: (s.step label).returned := by
  cases label with
  | release deviceId reason task => exact List.prefix_append _ _
  | _ =>
    rw [step]
    repeat' split
    all_goals exact List.prefix_rfl

theorem Typed.returned_setItem (s : Typed) (key : String × String) (uuid : String)
    (fut : FutureId) : (s.setItem key uuid fut).returned = s.returned := by
  unfold setItem
  dsimp only
  repeat' split
  all_goals rfl

theorem Typed.returned_getItem (s : Typed) (key : String × String) :
    (s.getItem key).1.returned = s.returned := by
  unfold getItem
  repeat' split
  all_goals rfl

theorem Typed.returned_delItem (s : Typed) (key : String × String) :
    (s.delItem key).returned = s.returned := by
  unfold delItem
  repeat' split
  all_goals rfl

theorem Typed.returned_step (s : Typed) (label : Label) :
    s.returned <+: (s.step label).returned := by
  cases label with
  | release deviceId reason task => exact List.prefix_append _ _
  | register deviceId task uuid => rw [step, returned_setItem]
  | remove deviceId task fut =>
    rw [step]
    split
    · rw [returned_delItem, returned_getItem]
    · rw [returned_getItem]
  | _ =>
    rw [step]
    repeat' split
    all_goals exact List.prefix_rfl

theorem Plain.returned_exec (s : Plain) (labels : List Label) :
    s.returned <+: (Run.exec step s labels).returned :=
  (Run.along_of_forall (fun _ _ => trivial) s labels).relates
    (R := fun s s' => s.returned <+: s'.returned) (fun _ => List.prefix_rfl)
    (fun _ _ _ => List.IsPrefix.trans) fun s label _ => s.returned_step label

theorem Typed.returned_exec (s : Typed) (labels : List Label) :
    s.returned <+: (Run.exec step s labels).returned :=
  (Run.along_of_forall (fun _ _ => trivial) s labels).relates
    (R := fun s s' => s.returned <+: s'.returned) (fun _ => List.prefix_rfl)
    (fun _ _ _ => List.IsPrefix.trans) fun s label _ => s.returned_step label

/-- What a release may complete: slots of the device, of the task that it names, and never the
waiter of a canonical job. -/
def Scoped (s : Typed) : Label → Prop
  | .release deviceId reason task => ∀ fut, s.futures fut = none →
      (s.step (.release deviceId reason task)).futures fut ≠ none →
      (s.step (.release deviceId reason task)).futures fut = some (.result reason) ∧
        (∃ key, (s.getItem key).2 = some fut ∧ key.1 = deviceId ∧
          ∀ name, task = some name → key.2 = name) ∧
        ∀ deviceId' jobId, canonicalUuid4 jobId = some jobId →
          Dict.get s.registry (canonicalKey deviceId' jobId) ≠ some fut
  | _ => True

namespace Agrees

variable {p : Plain} {t : Typed}

theorem scoped_step (h : Agrees p t) {label : Label} (hnamed : Named p label) : Scoped t label := by
  cases label with
  | release deviceId reason task =>
    intro fut hopen hdone
    obtain ⟨futs, hfuts, hrelease⟩ := h.releaseTransferSlot_eq deviceId reason task
    have hstep : (t.step (.release deviceId reason task)).futures =
        (t.futures.resolve reason (p.slots deviceId task)).1 := by
      rw [Typed.step, hrelease, h.resolve_eq hnamed hfuts]
    rw [hstep, Futures.resolve_fst] at hdone
    have hmem : fut ∈ p.slots deviceId task := by
      by_contra hmem
      rw [if_neg fun h => hmem h.1] at hdone
      exact hdone hopen
    rw [hstep, Futures.resolve_fst, if_pos ⟨hmem, hopen⟩]
    obtain ⟨key, hget, hdevice, htask⟩ := Plain.mem_slots.1 hmem
    refine ⟨rfl, ⟨key, ?_, hdevice, htask⟩, fun deviceId' jobId hjob hcanonical => ?_⟩
    · rw [h.getItem_eq]
      exact hget
    · obtain ⟨typed, hkey, hfut⟩ := h.key_of_pending hget
      exact (h.legacy key typed hkey).ne_canonicalKey hjob (h.inj _ _ fut hfut hcanonical)
  | _ => trivial

theorem exec (h : Agrees p t) {labels : List Label} (hnamed : Run.Along Plain.step Named p labels) :
    Agrees (Run.exec Plain.step p labels) (Run.exec Typed.step t labels) ∧
      Run.Along Typed.step Scoped t labels := by
  induction labels generalizing p t with
  | nil => exact ⟨h, trivial⟩
  | cons label labels ih =>
    obtain ⟨hend, hscoped⟩ := ih (h.step hnamed.1) hnamed.2
    exact ⟨hend, h.scoped_step hnamed.1, hscoped⟩

theorem along_of_returned (h : Agrees p t) {labels : List Label}
    (heq : (Run.exec Plain.step p labels).returned = (Run.exec Typed.step t labels).returned) :
    Run.Along Plain.step Named p labels := by
  induction labels generalizing p t with
  | nil => trivial
  | cons label labels ih =>
    by_cases hnamed : Named p label
    · exact ⟨hnamed, ih (h.step hnamed) heq⟩
    · -- The two logs differ at the place of this release, whatever follows.
      exfalso
      obtain ⟨hplain, htyped⟩ := h.returned_of_not_named hnamed
      have hpre : p.returned ++ [false] <+: (Run.exec Typed.step t (label :: labels)).returned := by
        rw [← heq, ← hplain]
        exact Plain.returned_exec _ _
      have hpre' : t.returned ++ [true] <+: (Run.exec Typed.step t (label :: labels)).returned := by
        rw [← htyped]
        exact Typed.returned_exec _ _
      have hsame := List.prefix_of_prefix_length_le hpre hpre' (by simp [h.returned])
      rw [h.returned, List.prefix_append_right_inj] at hsame
      exact absurd hsame (by decide)

end Agrees

/-- **The replacement completes the same futures and returns the same values exactly in the runs
whose releases name `install`, `push` or nothing, or find no open slot of the device**; in these a
release completes no future of another task and no waiter of a canonical job. -/
theorem release_refines_iff (labels : List Label) :
    ((Run.exec Plain.step .initial labels).futures = (Run.exec Typed.step .initial labels).futures ∧
      (Run.exec Plain.step .initial labels).returned =
        (Run.exec Typed.step .initial labels).returned ∧
      Run.Along Typed.step Scoped .initial labels) ↔
    Run.Along Plain.step Named .initial labels := by
  constructor
  · exact fun h => Agrees.initial.along_of_returned h.2.1
  · intro hnamed
    obtain ⟨hend, hscoped⟩ := Agrees.initial.exec hnamed
    exact ⟨hend.futures, hend.returned, hscoped⟩

/-- A `DOWNLOAD_COMPLETE` whose task is no known one releases the push slot of the device. -/
theorem release_of_unknown_task : ¬∀ labels,
    (Run.exec Plain.step .initial labels).futures = (Run.exec Typed.step .initial labels).futures ∧
      (Run.exec Plain.step .initial labels).returned =
        (Run.exec Typed.step .initial labels).returned ∧
      Run.Along Typed.step Scoped .initial labels := by
  intro h
  have hfutures := (h [.register "quest-1" .push "6f9619ff-8b86-4011-b42d-00c04fc964ff",
    .release "quest-1" "download_complete" (some "sync")]).1
  exact absurd (congrFun hfutures 0) (by decide +kernel)

end StylyMdm.Transfers.Slots
