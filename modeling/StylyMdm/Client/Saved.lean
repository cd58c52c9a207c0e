import StylyMdm.Client.Codec
import StylyMdm.Client.Outbox

/-!
# The saved file and its text

A start-up of `Device` takes up the state that was saved. The source writes that state with
`stateToJson` and reads the text again. Along every run whose commands come from `parseCommand`
and whose failures have a code and a detail, the saved state is `Readable`, and `PushJobStore.load`
of its text gives the state that `Coordinator.start` recovers from, but for a blank code or detail,
which no message shows.

So the file of `Coordinator` and the text of `Codec` are connected along runs:

* `Device.Saves.readable` is the step lemma. What a save adds to the file is the command of the
  event, or a receipt for the command that was active; all else was in the file before.
* `Device.Valid.readable_exec` is the run lemma, and `load_saved` what it says of the file of a run
  that starts with an empty one.
* `resultToJson_readBack` says that what is lost of a result is not in its message either, and
  `load_saved_eq` that nothing is lost where no failure has a blank text.

Trimming and reading back can be exchanged (`trim_readBack`), so it does not matter that `load`
trims what it has read.
-/

namespace StylyMdm.Client

/-! ### The state as it is written -/

/-- The `PHASE_` constants. -/
def Phase.text : Phase → String
  | .downloading => "downloading"
  | .validating => "validating"
  | .applying => "applying"

/-- The state with the texts of its phases. -/
def State.written (state : State) : Codec.State where
  active := state.active.map fun active => ⟨active.command, active.phase.text⟩
  pendingResults := state.pendingResults
  completedReceipts := state.completedReceipts

/-- The state with every blank failure code or detail made null. -/
def State.readBack (state : State) : State :=
  { state with
    pendingResults := state.pendingResults.map Codec.readBackReceipt
    completedReceipts := state.completedReceipts.map Codec.readBackReceipt }

/-- A result as the worker or the recovery builds it, for a command that was parsed. -/
def Receipt.Readable (platform : Codec.Platform) (receipt : Receipt) : Prop :=
  (∃ payload, Codec.parseCommand platform payload = .ok receipt.command) ∧
    Codec.Made receipt.command receipt.result

/-- A state that is read back. -/
structure Readable (platform : Codec.Platform) (state : State) : Prop where
  active : ∀ active ∈ state.active,
    ∃ payload, Codec.parseCommand platform payload = .ok active.command
  receipts : ∀ receipt ∈ state.receipts, receipt.Readable platform

section Text

variable {platform : Codec.Platform} {state : State}

theorem takeLast_map {α β : Type*} (f : α → β) (n : Nat) (l : List α) :
    takeLast n (l.map f) = (takeLast n l).map f := by
  unfold takeLast
  rw [List.length_map, List.map_drop]

/-- The age of a receipt is read back. -/
theorem keptAt_readBackReceipt (cutoff : Int) (receipt : Receipt) :
    keptAt cutoff (Codec.readBackReceipt receipt) = keptAt cutoff receipt := rfl

/-- Reading back and trimming can be exchanged. -/
theorem trim_readBack (now : Int) (state : State) :
    trim now state.readBack = (trim now state).readBack := by
  have hfilter : ∀ cutoff, (state.completedReceipts.map Codec.readBackReceipt).filter
      (keptAt cutoff) = (state.completedReceipts.filter (keptAt cutoff)).map
        Codec.readBackReceipt := by
    intro cutoff
    rw [List.filter_map]
    rfl
  simp only [trim, normalizePushState, State.readBack, hfilter, takeLast_map]

theorem Readable.sound (h : Readable platform state) : Codec.Sound platform state.written where
  active active hactive := by
    obtain ⟨active', hactive', rfl⟩ := Option.map_eq_some_iff.mp hactive
    exact h.active active' hactive'
  command receipt hreceipt := (h.receipts receipt hreceipt).1
  result receipt hreceipt := by
    obtain ⟨⟨payload, hcommand⟩, hmade⟩ := h.receipts receipt hreceipt
    exact ⟨receipt.command, payload, hcommand, hmade⟩

/-- **`load` of what `save` has written.** -/
theorem Readable.load (h : Readable platform state) (now : Int) :
    Codec.load platform now (Codec.stateToJson state.written) =
      (trim now state).readBack.written := by
  rw [Codec.load, Codec.stateFromJson_stateToJson h.sound, ← trim_readBack]
  rfl

/-- No message shows what is lost of a result. -/
theorem resultToJson_readBack (result : Result) :
    Codec.resultToJson (Codec.readBack result) = Codec.resultToJson result := by
  simp only [Codec.resultToJson, Codec.readBack, Codec.putCounts, Codec.putFailure,
    Codec.nonBlank_bind]
  rfl

/-- Nothing is lost of a state without blank failure codes and details. -/
theorem State.readBack_eq_self
    (h : ∀ receipt ∈ state.receipts, Codec.readBack receipt.result = receipt.result) :
    state.readBack = state := by
  have hself : ∀ l ⊆ state.receipts, l.map Codec.readBackReceipt = l := by
    intro l hl
    refine (List.map_congr_left fun receipt hreceipt => ?_).trans (List.map_id l)
    rw [Codec.readBackReceipt, h receipt (hl hreceipt)]
    rfl
  rw [State.readBack, hself _ (List.subset_append_left _ _),
    hself _ (List.subset_append_right _ _)]

end Text

/-! ### Along a run -/

/-- The command of the event comes from `parseCommand`, and the failure has a code and a detail, as
`PushFilesWorker.execute` gives every failure. -/
def Event.Genuine (platform : Codec.Platform) : Event → Prop
  | .command given => ∃ payload, Codec.parseCommand platform payload = .ok given
  | .terminal _ (.failed failureCode detail) _ => failureCode.isSome ∧ detail.isSome
  | _ => True

/-- The event of the step, if it brings one, is genuine. -/
def Step.Genuine (platform : Codec.Platform) (s : Step) : Prop :=
  ∀ event ∈ s.event?, event.Genuine platform

section Run

variable {platform : Codec.Platform} {d : Device} {s : Step} {next : State}
  {recorded : Option Receipt}

/-- The result of a genuine outcome is one that is read back. -/
theorem Outcome.made {outcome : Outcome} {command : Command} {completedAt : Int}
    (h : (Event.terminal command outcome completedAt).Genuine platform) :
    Codec.Made command (outcome.result command completedAt) := by
  cases outcome with
  | applied added updated deleted => exact .success added updated deleted completedAt
  | failed failureCode detail =>
    obtain ⟨hcode, hdetail⟩ := h
    obtain ⟨code, rfl⟩ := Option.isSome_iff_exists.mp hcode
    obtain ⟨text, rfl⟩ := Option.isSome_iff_exists.mp hdetail
    exact .failure code text completedAt

/-- What is recorded can be read back. -/
theorem Device.Saves.recorded_readable (h : d.Saves s next recorded) (hd : d.Valid)
    (hs : s.Genuine platform) (hf : Readable platform d.file) {receipt : Receipt}
    (hr : recorded = some receipt) : receipt.Readable platform := by
  rcases h with ⟨-, clock, -, hrecover⟩ | ⟨p, event, gate, worker, hp, hevent, henabled, hcommit⟩
  · rw [recover, trim_active] at hrecover
    split at hrecover
    · exact absurd (hr.symm.trans (Prod.mk.inj hrecover).2.symm) (by simp)
    · rename_i active hactive
      obtain ⟨-, hrecorded⟩ := Prod.mk.inj hrecover
      obtain rfl := Option.some.inj (hrecorded.trans hr)
      exact ⟨hf.active active hactive, .failure _ _ _⟩
  · have hv := hd p hp
    have hmemory := hv.memory (hcommit.startSaved hv)
    cases hcommit with
    | accept hnew hdurable hfree => exact absurd hr (by simp)
    | phase hactive hcallback hother => exact absurd hr (by simp)
    | terminal hcurrent =>
      rename_i command outcome completedAt
      obtain rfl := Option.some.inj hr
      -- the callback is one of the active execution
      have hmem : command ∈ p.executions := by
        simpa [Device.enabled, Event.callbackOf] using henabled
      have hgate := hv.executions command hmem
      rw [hv.gate, hmemory, Option.map_eq_some_iff] at hgate
      obtain ⟨active, hactive, rfl⟩ := hgate
      exact ⟨hf.active active hactive, Outcome.made (hs _ hevent)⟩
    | ack happly =>
      obtain rfl := Option.some.inj hr
      rw [hmemory] at happly
      exact hf.receipts _ (List.mem_append_left _ (applyPushResultAckToState_eq_some happly).1)

/-- **A save keeps the file readable.** -/
theorem Device.Saves.readable (h : d.Saves s next recorded) (hd : d.Valid)
    (hs : s.Genuine platform) (hf : Readable platform d.file) : Readable platform next where
  active active hactive := by
    rcases h with ⟨-, clock, -, hrecover⟩ | ⟨p, event, gate, worker, hp, hevent, -, hcommit⟩
    · have hnone : next.active = none := by
        obtain ⟨rfl, -⟩ := Prod.mk.inj hrecover
        split
        · assumption
        · rfl
      exact absurd (hnone.symm.trans hactive) (by simp)
    · have hmemory := (hd p hp).memory (hcommit.startSaved (hd p hp))
      cases hcommit with
      | accept hnew hdurable hfree =>
        obtain rfl := Option.some.inj hactive
        exact hs _ hevent
      | phase hold hcallback hother =>
        obtain rfl := Option.some.inj hactive
        rw [hmemory] at hold
        obtain ⟨payload, hcommand⟩ := hf.active _ hold
        exact ⟨payload, hcommand⟩
      | terminal hcurrent => exact absurd hactive (by simp)
      | ack happly =>
        rw [hmemory] at happly
        obtain ⟨-, -, rfl⟩ := applyPushResultAckToState_eq_some happly
        exact hf.active active hactive
  receipts receipt hreceipt := by
    rcases (h.fileChange hd).mem_next hreceipt with hold | hnew
    · exact hf.receipts receipt hold
    · exact h.recorded_readable hd hs hf hnew

theorem Readable.trim {state : State} (h : Readable platform state) (now : Int) :
    Readable platform (trim now state) where
  active active hactive := h.active active (by rwa [trim_active] at hactive)
  receipts receipt hreceipt := h.receipts receipt (trim_receipts_subset now state hreceipt)

/-- **Every saved state can be read back.** -/
theorem Device.Valid.readable_exec (hd : d.Valid) (hf : Readable platform d.file)
    {steps : List Step} (h : ∀ s ∈ steps, s.Genuine platform) :
    Readable platform (Run.exec Device.step d steps).file := by
  induction steps generalizing d with
  | nil => exact hf
  | cons s steps ih =>
    refine ih (hd.step s) ?_ fun s' hs' => h s' (List.mem_cons_of_mem _ hs')
    rcases d.recorded_cases s with ⟨hfile, -⟩ | ⟨next, recorded, -, -, hfile, hsaves⟩
    · rw [hfile]
      exact hf
    · rw [hfile]
      exact (hsaves.readable hd (h s List.mem_cons_self) hf).trim s.clock

/-- **The file of a run is loaded as it was saved.** The next start-up recovers from the trimmed
state, but for blank failure codes and details. -/
theorem load_saved {steps : List Step} (h : ∀ s ∈ steps, s.Genuine platform) (now : Int) :
    Codec.load platform now
        (Codec.stateToJson (Run.exec Device.step {} steps).file.written) =
      (trim now (Run.exec Device.step {} steps).file).readBack.written :=
  (Device.Valid.initial.readable_exec
    ⟨fun _ hactive => absurd hactive (by simp), fun _ hreceipt => absurd hreceipt (by
      simp [State.receipts])⟩ h).load now

/-- When no failure has a blank code or detail, it is the very state that `Coordinator.start`
recovers from. -/
theorem load_saved_eq {steps : List Step} (h : ∀ s ∈ steps, s.Genuine platform) (now : Int)
    (htexts : ∀ receipt ∈ (Run.exec Device.step {} steps).file.receipts,
      Codec.readBack receipt.result = receipt.result) :
    Codec.load platform now
        (Codec.stateToJson (Run.exec Device.step {} steps).file.written) =
      (trim now (Run.exec Device.step {} steps).file).written := by
  rw [load_saved h, State.readBack_eq_self fun receipt hreceipt =>
    htexts receipt (trim_receipts_subset now _ hreceipt)]

end Run

end StylyMdm.Client
