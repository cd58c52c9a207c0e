import StylyMdm.Client.AtMostOnce

/-!
# The outbox of the client

The terminal results that the server has not acknowledged. A result enters when the worker ends or
when a restart finds its execution active; it leaves when an acknowledgement of its identity is
accepted or marked as not retryable. The list is cut to 256 entries at every load and save.

`Filed` is the invariant of the saved file: one identity has one result, in the outbox and among
the completed receipts, and none at all while it is executed. Two results sent for one identity are
therefore equal as long as a receipt of it is kept, over any restarts. `outbox` is the list without
the cut; in a run in which it has at most 256 entries it is the list that is saved.

The outbox of a run is defined on the run, not on the state: `outboxAfter` adds what a step records
and removes what an acknowledgement of the step settles, whether or not anything is cut. So the
hypothesis that never more than 256 results are waiting is about what happened, and the conclusion
that the file has exactly these results is about the code.

`result_kept_until_acknowledged` collects the statements for every run. The run of
`result_not_resent_after_failed_start` shows what the process does that could not save at its start:
it holds the empty state, so nothing is sent again until the next start.
-/

namespace StylyMdm.Client

/-! ### One identity, one result -/

/-- A command of a job is one with an identity. -/
theorem Command.isJobV1_eq (command : Command) : command.isJobV1 = command.identity.isSome := by
  rw [Command.isJobV1, Command.identity, Option.isSome_map]

/-- The receipts of a state. -/
def State.receipts (state : State) : List Receipt := state.pendingResults ++ state.completedReceipts

/-- The invariant of the saved file. -/
structure Filed (file : State) : Prop where
  uniform : ∀ receipt ∈ file.receipts, ∀ other ∈ file.receipts,
    receipt.command.isJobV1 → receipt.command.identity = other.command.identity →
      receipt.result = other.result
  fresh : ∀ active, file.active = some active → active.command.isJobV1 →
    ∀ receipt ∈ file.receipts, receipt.command.identity ≠ active.command.identity
  jobs : ∀ receipt ∈ file.pendingResults, receipt.command.isJobV1
  distinct : file.pendingResults.Pairwise fun receipt other =>
    receipt.command.identity ≠ other.command.identity

section Filed

variable {file next : State} {now : Int} {load : Option Int} {recorded : Option Receipt}

/-- An empty file. -/
theorem Filed.initial : Filed {} := by
  refine ⟨?_, ?_, ?_, List.Pairwise.nil⟩ <;> simp [State.receipts]

/-- Dropping receipts keeps the invariant. -/
theorem Filed.of_subset (h : Filed file)
    (hpending : next.pendingResults.Sublist file.pendingResults)
    (hreceipts : next.receipts ⊆ file.receipts)
    (hfresh : ∀ active, next.active = some active → active.command.isJobV1 →
      ∀ receipt ∈ file.receipts, receipt.command.identity ≠ active.command.identity) :
    Filed next where
  uniform := fun receipt hreceipt other hother =>
    h.uniform receipt (hreceipts hreceipt) other (hreceipts hother)
  fresh := fun active hactive hjob receipt hreceipt =>
    hfresh active hactive hjob receipt (hreceipts hreceipt)
  jobs := fun receipt hreceipt => h.jobs receipt (hpending.subset hreceipt)
  distinct := h.distinct.sublist hpending

/-- A cut keeps the order. -/
theorem takeLast_sublist {α : Type*} (n : Nat) (l : List α) : (takeLast n l).Sublist l := by
  unfold takeLast
  exact List.drop_sublist _ _

/-- A short list is not cut. -/
theorem takeLast_eq_self {α : Type*} {n : Nat} {l : List α} (h : l.length ≤ n) :
    takeLast n l = l := by
  unfold takeLast
  rw [Nat.sub_eq_zero_of_le h, List.drop_zero]

/-- A trim adds no receipt. -/
theorem trim_receipts_subset (now : Int) (state : State) :
    (trim now state).receipts ⊆ state.receipts := by
  intro receipt hreceipt
  rw [State.receipts, List.mem_append] at hreceipt ⊢
  refine hreceipt.imp (fun hreceipt => ?_) mem_of_mem_trim
  rw [trim_pendingResults] at hreceipt
  exact mem_of_mem_takeLast hreceipt

/-- A trim keeps the invariant. -/
theorem Filed.trim (h : Filed file) : Filed (trim now file) := by
  refine h.of_subset ?_ (trim_receipts_subset now file) ?_
  · rw [trim_pendingResults]
    exact takeLast_sublist _ _
  · rw [trim_active]
    exact h.fresh

/-- The state that records the end of the active execution. -/
def State.settle (state : State) (receipt : Receipt) : State where
  active := none
  pendingResults :=
    if receipt.command.isJobV1 then state.pendingResults ++ [receipt] else state.pendingResults
  completedReceipts := takeLast maxReceipts (state.completedReceipts ++ [receipt])

/-- Settling adds one receipt. -/
theorem State.mem_settle {receipt other : Receipt} (h : other ∈ (file.settle receipt).receipts) :
    other ∈ file.receipts ∨ other = receipt := by
  rw [State.receipts, List.mem_append] at h ⊢
  rcases h with h | h
  · rw [State.settle] at h
    simp only at h
    split at h
    · rcases List.mem_append.mp h with h | h
      · exact .inl (.inl h)
      · exact .inr (List.mem_singleton.mp h)
    · exact .inl (.inl h)
  · rcases List.mem_append.mp (mem_of_mem_takeLast h) with h | h
    · exact .inl (.inr h)
    · exact .inr (List.mem_singleton.mp h)

/-- The end of the active execution is the first result of its identity. -/
theorem Filed.settle (h : Filed file) {active : Active} {receipt : Receipt}
    (hactive : file.active = some active)
    (hid : receipt.command.identity = active.command.identity) : Filed (file.settle receipt) := by
  have hnew : receipt.command.isJobV1 →
      ∀ other ∈ file.receipts, other.command.identity ≠ receipt.command.identity := by
    intro hv1 other hother
    rw [Command.isJobV1_eq, hid, ← Command.isJobV1_eq] at hv1
    rw [hid]
    exact h.fresh active hactive hv1 other hother
  refine ⟨?_, fun _ hnone => absurd hnone (by simp [State.settle]), ?_, ?_⟩
  · intro first hfirst second hsecond hv1 hsame
    rcases State.mem_settle hfirst with hold | hfirst
    · rcases State.mem_settle hsecond with hold' | hsecond
      · exact h.uniform first hold second hold' hv1 hsame
      · rw [Command.isJobV1_eq, hsame, ← Command.isJobV1_eq, hsecond] at hv1
        exact absurd (hsame.trans (by rw [hsecond])) (hnew hv1 first hold)
    · rw [hfirst] at hv1 hsame ⊢
      rcases State.mem_settle hsecond with hold' | hsecond
      · exact absurd hsame.symm (hnew hv1 second hold')
      · rw [hsecond]
  · intro other hother
    rw [State.settle] at hother
    simp only at hother
    split at hother
    · rename_i hv1
      rcases List.mem_append.mp hother with hother | hother
      · exact h.jobs other hother
      · rwa [List.mem_singleton.mp hother]
    · exact h.jobs other hother
  · rw [State.settle]
    simp only
    split
    · rename_i hv1
      refine List.pairwise_append.mpr ⟨h.distinct, List.pairwise_singleton _ _, ?_⟩
      intro other hother last hlast
      rw [List.mem_singleton.mp hlast]
      exact hnew hv1 other (List.mem_append_left _ hother)
    · exact h.distinct

/-- What a change of the file does to the receipts: none is added, or the active execution is
settled, from the file or from what a start-up has loaded of it. -/
theorem FileChange.settle_cases (h : FileChange load file next recorded) (hf : Filed file) :
    (next.pendingResults.Sublist file.pendingResults ∧ next.receipts ⊆ file.receipts ∧
      ∀ active, next.active = some active → active.command.isJobV1 →
        ∀ receipt ∈ file.receipts, receipt.command.identity ≠ active.command.identity) ∨
    ∃ base active receipt, (base = file ∨ ∃ now, base = trim now file) ∧
      base.active = some active ∧ receipt.command.identity = active.command.identity ∧
      next = base.settle receipt := by
  cases h with
  | accept hidle hnew =>
    refine .inl ⟨List.Sublist.refl _, List.Subset.refl _, ?_⟩
    intro active hactive hjob receipt hreceipt
    rw [Option.some.injEq] at hactive
    subst hactive
    exact ne_of_terminalReceipt_eq_none hnew hjob hreceipt
  | phase hactive =>
    refine .inl ⟨List.Sublist.refl _, List.Subset.refl _, ?_⟩
    intro active hactive' hjob receipt hreceipt
    rw [Option.some.injEq] at hactive'
    subst hactive'
    exact hf.fresh _ hactive hjob receipt hreceipt
  | terminal hactive hsame => exact .inr ⟨file, _, ⟨_, _⟩, .inl rfl, hactive, hsame.symm, rfl⟩
  | ack happly =>
    obtain ⟨hsettled, -, rfl⟩ := applyPushResultAckToState_eq_some happly
    refine .inl ⟨List.filter_sublist, fun receipt hreceipt => ?_, hf.fresh⟩
    rw [State.receipts, List.mem_append] at hreceipt ⊢
    rcases hreceipt with h | h
    · exact .inl (List.mem_of_mem_filter h)
    · rcases List.mem_append.mp (mem_of_mem_takeLast h) with h | h
      · exact .inr (List.mem_of_mem_filter h)
      · rw [List.mem_singleton.mp h]
        exact .inl hsettled
  | start hload =>
    rename_i now completedAt
    rcases recover_eq completedAt (trim now file) with ⟨hnone, heq⟩ |
      ⟨active, receipt, hactive, hcommand, -, -, heq⟩
    · rw [heq]
      refine .inl ⟨?_, trim_receipts_subset now file, ?_⟩
      · rw [trim_pendingResults]
        exact takeLast_sublist _ _
      · intro active hactive
        exact absurd (hnone.symm.trans hactive) (by simp)
    · refine .inr ⟨trim now file, active, receipt, .inr ⟨now, rfl⟩, hactive, by rw [hcommand], ?_⟩
      rw [heq, State.settle, hcommand]

/-- **A save keeps the invariant.** -/
theorem FileChange.filed (h : FileChange load file next recorded) (hf : Filed file) :
    Filed (trim now next) := by
  rcases h.settle_cases hf with ⟨hpending, hreceipts, hfresh⟩ |
    ⟨base, active, receipt, hbase, hactive, hid, rfl⟩
  · exact (hf.of_subset hpending hreceipts hfresh).trim
  · rcases hbase with rfl | ⟨loaded, rfl⟩
    · exact (hf.settle hactive hid).trim
    · exact (hf.trim.settle hactive hid).trim

/-- A receipt that is saved while another of its identity is kept has the same result. -/
theorem FileChange.result_eq (h : FileChange load file next recorded) (hf : Filed file)
    {receipt other : Receipt} (hreceipt : receipt ∈ file.receipts)
    (hother : other ∈ (trim now next).receipts) (hjob : receipt.command.isJobV1)
    (hsame : receipt.command.identity = other.command.identity) :
    receipt.result = other.result := by
  have hmem := trim_receipts_subset now next hother
  rcases h.settle_cases hf with ⟨-, hreceipts, -⟩ |
    ⟨base, active, settled, hbase, hactive, hid, rfl⟩
  · exact hf.uniform receipt hreceipt other (hreceipts hmem) hjob hsame
  · have hbase' : base.receipts ⊆ file.receipts ∧ base.active = file.active := by
      rcases hbase with rfl | ⟨loaded, rfl⟩
      · exact ⟨List.Subset.refl _, rfl⟩
      · exact ⟨trim_receipts_subset loaded file, trim_active loaded file⟩
    rcases State.mem_settle hmem with hmem | rfl
    · exact hf.uniform receipt hreceipt other (hbase'.1 hmem) hjob hsame
    · -- the identity is being executed, so it has no receipt
      rw [Command.isJobV1_eq, hsame, hid, ← Command.isJobV1_eq] at hjob
      exact absurd (hsame.trans hid)
        (hf.fresh active (hbase'.2.symm.trans hactive) hjob receipt hreceipt)

end Filed

/-! ### The outbox of a run -/

/-- Does the step bring an acknowledgement that settles the result of this receipt? -/
def Step.acknowledges (s : Step) (receipt : Receipt) : Bool :=
  match s.event? with
  | some (.resultAck ack) => (ack.accepted || !ack.retryable) && ack.matches receipt
  | _ => false

/-- The unacknowledged results after a step. An acknowledgement counts when it is saved. -/
def outboxAfter (d : Device) (results : List Receipt) (s : Step) : List Receipt :=
  match s.event?, recordedBy d s with
  | some (.resultAck _), _ :: _ => results.filter fun receipt => !s.acknowledges receipt
  | _, recorded => results ++ recorded.filter fun receipt => receipt.command.isJobV1

/-- The unacknowledged results after a run, none of them dropped. -/
def outbox : Device → List Receipt → List Step → List Receipt
  | _, results, [] => results
  | d, results, s :: steps => outbox (d.step s) (outboxAfter d results s) steps

section Outbox

variable {d : Device} {s : Step} {next : State} {recorded : Option Receipt}

/-- What is saved of the outbox, before it is cut. -/
theorem Device.Saves.pendingResults (h : d.Saves s next recorded) (hd : d.Valid)
    (hshort : d.file.pendingResults.length ≤ maxReceipts) :
    (∃ ack settled, s.event? = some (.resultAck ack) ∧ recorded = some settled ∧
      applyPushResultAckToState d.file ack maxReceipts = some (settled, next)) ∨
    ((∀ ack, s.event? ≠ some (.resultAck ack)) ∧
      next.pendingResults = d.file.pendingResults ++
        recorded.toList.filter fun receipt => receipt.command.isJobV1) := by
  rcases h with ⟨hevent, clock, -, hrecover⟩ | ⟨p, event, gate, worker, hp, hevent, -, hcommit⟩
  · refine .inr ⟨fun ack hack => absurd (hevent.symm.trans hack) (by simp), ?_⟩
    have hload : (trim clock.load d.file).pendingResults = d.file.pendingResults := by
      rw [trim_pendingResults, takeLast_eq_self hshort]
    rcases recover_eq clock.completedAt (trim clock.load d.file) with ⟨-, heq⟩ |
      ⟨active, receipt, -, hcommand, -, -, heq⟩
    · obtain ⟨rfl, rfl⟩ := Prod.mk.inj (heq.symm.trans hrecover)
      rw [hload, Option.toList_none, List.filter_nil, List.append_nil]
    · obtain ⟨rfl, rfl⟩ := Prod.mk.inj (heq.symm.trans hrecover)
      simp only [hload, ← hcommand]
      cases hjob : receipt.command.isJobV1 <;> simp [hjob]
  · have hmemory := (hd p hp).memory (hcommit.startSaved (hd p hp))
    rw [hevent]
    cases hcommit with
    | accept hnew hdurable hgate => exact .inr ⟨by simp, by simp [hmemory]⟩
    | phase hactive hcallback hother =>
      refine .inr ⟨fun ack hack => ?_, by simp [hmemory]⟩
      rw [Option.some.injEq] at hack
      rw [hack] at hcallback
      exact absurd hcallback (by simp [Event.callbackOf])
    | terminal hcurrent =>
      refine .inr ⟨by simp, ?_⟩
      rename_i command outcome completedAt
      rw [hmemory]
      cases hjob : command.isJobV1 <;> simp [hjob]
    | ack happly =>
      rw [hmemory] at happly
      exact .inl ⟨_, _, rfl, rfl, happly⟩

/-- The outbox is saved whole unless it is too long. -/
theorem Device.Valid.pendingResults_step (hd : d.Valid) (s : Step)
    (hshort : d.file.pendingResults.length ≤ maxReceipts)
    (hbound : (outboxAfter d d.file.pendingResults s).length ≤ maxReceipts) :
    (d.step s).file.pendingResults = outboxAfter d d.file.pendingResults s := by
  rcases d.recorded_cases s with ⟨hfile, hnil⟩ | ⟨next, recorded, -, hrecorded, hfile, hsaves⟩
  · rw [hfile, outboxAfter, hnil]
    split
    · rename_i heq
      exact absurd heq (by simp)
    · simp
  · have hnext : next.pendingResults = outboxAfter d d.file.pendingResults s := by
      rcases hsaves.pendingResults hd hshort with ⟨ack, settled, hevent, rfl, happly⟩ |
        ⟨hother, hnext⟩
      · obtain ⟨-, -, rfl⟩ := applyPushResultAckToState_eq_some happly
        have heffective : (ack.accepted || !ack.retryable) = true := by
          by_contra hnot
          simp only [Bool.or_eq_true, Bool.not_eq_true', not_or, Bool.not_eq_true,
            Bool.not_eq_false] at hnot
          simp [applyPushResultAckToState, hnot] at happly
        rw [outboxAfter, hrecorded, hevent]
        refine List.filter_congr fun receipt _ => ?_
        rw [Step.acknowledges, hevent]
        simp [heffective]
      · rw [outboxAfter, hrecorded, hnext]
        split
        · rename_i ack _ _ hevent _
          exact absurd hevent (hother ack)
        · rfl
    rw [hfile, trim_pendingResults, hnext, takeLast_eq_self hbound]

/-- An identity has one pending result. -/
theorem Filed.pending_unique {file : State} (hf : Filed file) {receipt other : Receipt}
    (hmem : receipt ∈ file.pendingResults) (hother : other ∈ file.pendingResults)
    (hid : receipt.command.identity = other.command.identity) : receipt = other := by
  have hnodup : (file.pendingResults.map fun receipt => receipt.command.identity).Nodup :=
    List.pairwise_map.mpr hf.distinct
  exact List.inj_on_of_nodup_map hnodup hmem hother hid

/-- A receipt at the end of the completed ones is saved unless it is too old. -/
theorem mem_trim_completedReceipts {now : Int} {active : Option Active}
    {pending completed : List Receipt} {receipt : Receipt}
    (hkept : keptAt (now - receiptRetentionMs) receipt) :
    receipt ∈ (trim now
      ⟨active, pending, takeLast maxReceipts (completed ++ [receipt])⟩).completedReceipts := by
  have hpos : 0 < maxReceipts := by simp [maxReceipts]
  rw [trim_completedReceipts, takeLast_append_cons (by simpa using hpos), List.filter_append,
    List.filter_cons_of_pos hkept, List.filter_nil]
  exact mem_takeLast_append_singleton hpos

/-- A result leaves the outbox with its acknowledgement, and is then a completed receipt. -/
theorem Device.Valid.pending_or_acknowledged (hd : d.Valid) (hm : ReceiptsMatch d.file)
    (hf : Filed d.file) (s : Step) (hshort : d.file.pendingResults.length ≤ maxReceipts)
    (hbound : (outboxAfter d d.file.pendingResults s).length ≤ maxReceipts) {receipt : Receipt}
    (hmem : receipt ∈ d.file.pendingResults) :
    receipt ∈ (d.step s).file.pendingResults ∨
    (s.acknowledges receipt ∧ (keptAt (s.clock - receiptRetentionMs) receipt →
      receipt ∈ (d.step s).file.completedReceipts)) := by
  have hsaved := hd.pendingResults_step s hshort hbound
  rcases d.recorded_cases s with ⟨hfile, -⟩ | ⟨next, recorded, -, hrecorded, hfile, hsaves⟩
  · rw [hfile]
    exact .inl hmem
  · rcases hsaves.pendingResults hd hshort with ⟨ack, settled, hevent, rfl, happly⟩ | ⟨hother, -⟩
    · by_cases hack : s.acknowledges receipt
      · refine .inr ⟨hack, fun hkept => ?_⟩
        obtain ⟨hsettled, hmatches, rfl⟩ := applyPushResultAckToState_eq_some happly
        -- there is only one result of this identity
        have heq : receipt = settled := by
          rw [Step.acknowledges, hevent, Bool.and_eq_true] at hack
          refine hf.pending_unique hmem hsettled ?_
          exact identity_eq_of_matches (hm receipt (List.mem_append_left _ hmem))
            (hm settled (List.mem_append_left _ hsettled)) hack.2 hmatches
        rw [hfile, heq]
        exact mem_trim_completedReceipts (heq ▸ hkept)
      · refine .inl ?_
        rw [hsaved, outboxAfter, hrecorded, hevent]
        exact List.mem_filter.mpr ⟨hmem, by simpa using hack⟩
    · refine .inl ?_
      rw [hsaved, outboxAfter]
      split
      · rename_i ack _ _ hevent _
        exact absurd hevent (hother ack)
      · exact List.mem_append_left _ hmem

end Outbox

/-! ### Runs -/

/-- The invariant of a device: what is saved is sound, filed, and short. -/
structure Device.Filed (d : Device) : Prop where
  sound : d.Sound
  filed : Client.Filed d.file
  short : d.file.pendingResults.length ≤ maxReceipts

section Run

variable {d : Device} {s : Step}

/-- A device without a file. -/
theorem Device.Filed.initial : Device.Filed {} :=
  ⟨Device.Sound.initial, Client.Filed.initial, Nat.zero_le _⟩

/-- A cut list is short. -/
theorem length_takeLast_le {α : Type*} (n : Nat) (l : List α) : (takeLast n l).length ≤ n := by
  rw [takeLast, List.length_drop]
  omega

/-- A step keeps the invariant. -/
theorem Device.Filed.step (hd : d.Filed) (s : Step) : (d.step s).Filed := by
  rcases d.recorded_cases s with ⟨hfile, -⟩ | ⟨next, recorded, -, -, hfile, hsaves⟩
  · refine ⟨hd.sound.step s, ?_, ?_⟩
    · rw [hfile]
      exact hd.filed
    · rw [hfile]
      exact hd.short
  · refine ⟨hd.sound.step s, ?_, ?_⟩
    · rw [hfile]
      exact (hsaves.fileChange hd.sound.valid).filed hd.filed
    · rw [hfile, trim_pendingResults]
      exact length_takeLast_le _ _

/-- And so does a run. -/
theorem Device.Filed.exec (hd : d.Filed) (steps : List Step) :
    (Run.exec Device.step d steps).Filed :=
  Run.exec_invariant (fun _ s hs => hs.step s) hd steps

/-- The file keeps a receipt of the identity. -/
def Device.Keeps (x : String × Int) (d : Device) : Prop :=
  ∃ receipt ∈ d.file.receipts, receipt.command.identity = some x

/-- The result of an identity does not change as long as a receipt of it is kept. -/
theorem Device.Filed.result_eq (hd : d.Filed) {steps : List Step} {x : String × Int}
    {receipt other : Receipt} (hmem : receipt ∈ d.file.receipts)
    (hid : receipt.command.identity = some x)
    (hkept : ∀ before ∈ steps.inits, (Run.exec Device.step d before).Keeps x)
    (hother : other ∈ (Run.exec Device.step d steps).file.receipts)
    (hid' : other.command.identity = some x) : receipt.result = other.result := by
  have hjob : receipt.command.isJobV1 := by rw [Command.isJobV1_eq, hid, Option.isSome_some]
  induction steps generalizing d receipt with
  | nil => exact hd.filed.uniform receipt hmem other hother hjob (hid.trans hid'.symm)
  | cons s steps ih =>
    obtain ⟨middle, hmiddle, hid''⟩ : (d.step s).Keeps x := hkept [s] (by simp)
    have hsame : receipt.result = middle.result := by
      rcases d.recorded_cases s with ⟨hfile, -⟩ | ⟨next, recorded, -, -, hfile, hsaves⟩
      · rw [hfile] at hmiddle
        exact hd.filed.uniform receipt hmem middle hmiddle hjob (hid.trans hid''.symm)
      · rw [hfile] at hmiddle
        exact (hsaves.fileChange hd.sound.valid).result_eq hd.filed hmem hmiddle hjob
          (hid.trans hid''.symm)
    rw [hsame]
    refine ih (hd.step s) hmiddle hid'' (fun before hbefore => ?_) hother ?_
    · exact hkept (s :: before) (by simpa [List.mem_inits] using hbefore)
    · rw [Command.isJobV1_eq, hid'', Option.isSome_some]

/-- What is sent is sent after the save of the step. -/
theorem Device.file_of_trace {file : State} {message : Message}
    (h : (file, .send message) ∈ d.trace s) : file = (d.step s).file := by
  obtain ⟨before, after, hactions, rfl⟩ := mem_performed h
  simp only at hactions
  rcases d.save_cases s with ⟨hfile, hnone⟩ | ⟨next, recorded, rest, hsave, hrest, hfile, -⟩
  · rw [hfile]
    refine fileAfter_eq_self fun action haction now state recorded heq => ?_
    subst heq
    exact hnone now state recorded (by rw [hactions]; exact List.mem_append_left _ haction)
  · rw [hactions] at hsave
    rcases before with _ | ⟨first, before⟩
    · exact absurd (List.cons.inj hsave).1 (by simp)
    · rw [List.cons_append, List.cons.injEq] at hsave
      obtain ⟨rfl, rfl⟩ := hsave
      rw [hfile]
      change fileAfter (trim s.clock next) before = _
      refine fileAfter_eq_self fun action haction now state recorded heq => ?_
      subst heq
      exact hrest now state recorded (List.mem_append_left _ haction)

/-- The identity a result is sent for. -/
def Result.identity (result : Result) : Option (String × Int) :=
  result.jobId.map fun jobId => (jobId, result.attempt)

/-- What is sent for an identity is kept by the file after the step. -/
theorem Device.Filed.sent (hd : d.Filed) {file : State} {result : Result} {x : String × Int}
    (h : (file, .send (.result result)) ∈ d.trace s) (hid : result.identity = some x) :
    ∃ receipt ∈ (d.step s).file.receipts, receipt.command.identity = some x ∧
      receipt.result = result := by
  have hjob : result.jobId ≠ none := by
    intro hnone
    rw [Result.identity, hnone] at hid
    exact absurd hid (by simp)
  obtain ⟨receipt, hmem, rfl⟩ := hd.sound.valid.announced s h hjob
  rw [Device.file_of_trace h] at hmem
  refine ⟨receipt, hmem, ?_, rfl⟩
  obtain ⟨hjob', hattempt⟩ := (hd.sound.step s).receipts receipt hmem
  rw [Result.identity, hjob', hattempt] at hid
  exact hid

/-- What is sent for an identity is what is saved for it. -/
theorem Device.Filed.sent_eq (hd : d.Filed) {middle : List Step} {receipt : Receipt}
    {file : State} {result : Result} {x : String × Int} (hmem : receipt ∈ d.file.receipts)
    (hid : receipt.command.identity = some x)
    (hkept : ∀ before ∈ middle.inits, (Run.exec Device.step d before).Keeps x)
    (hsent : (file, .send (.result result)) ∈ (Run.exec Device.step d middle).trace s)
    (hid' : result.identity = some x) : result = receipt.result := by
  obtain ⟨other, hother, hid'', rfl⟩ := (hd.exec middle).sent hsent hid'
  have hend : (Run.exec Device.step d middle).step s = Run.exec Device.step d (middle ++ [s]) := by
    rw [Run.exec_append, Run.exec_cons, Run.exec_nil]
  rw [hend] at hother
  refine (hd.result_eq hmem hid (fun before hbefore => ?_) hother hid'').symm
  rw [List.mem_inits, List.prefix_concat_iff] at hbefore
  rcases hbefore with rfl | hbefore
  · exact ⟨other, hother, hid''⟩
  · exact hkept before (by rwa [List.mem_inits])

/-- The outbox of a run, from any device in whose run it stays short. -/
theorem Device.Filed.pendingResults_exec (hd : d.Filed) (steps : List Step)
    (hbound : ∀ before ∈ steps.inits,
      (outbox d d.file.pendingResults before).length ≤ maxReceipts) :
    (Run.exec Device.step d steps).file.pendingResults = outbox d d.file.pendingResults steps := by
  induction steps generalizing d with
  | nil => rfl
  | cons s steps ih =>
    have hstep := hd.sound.valid.pendingResults_step s hd.short (hbound [s] (by simp))
    have hih := ih (hd.step s) fun before hbefore => by
      rw [hstep]
      exact hbound (s :: before) (by simpa [List.mem_inits] using hbefore)
    rw [Run.exec_cons, hih, hstep]
    rfl

/-- A result stays in the outbox until a step of the run acknowledges it. -/
theorem Device.Filed.pending_or_acknowledged_exec (hd : d.Filed) {steps : List Step}
    (hbound : ∀ before ∈ steps.inits,
      (outbox d d.file.pendingResults before).length ≤ maxReceipts) {receipt : Receipt}
    (hmem : receipt ∈ d.file.pendingResults) :
    receipt ∈ (Run.exec Device.step d steps).file.pendingResults ∨
    ∃ middle s rest, steps = middle ++ s :: rest ∧ s.acknowledges receipt ∧
      (keptAt (s.clock - receiptRetentionMs) receipt →
        receipt ∈ (Run.exec Device.step d (middle ++ [s])).file.completedReceipts) := by
  induction steps generalizing d with
  | nil => exact .inl hmem
  | cons s steps ih =>
    have hfirst := hbound [s] (by simp)
    have hstep := hd.sound.valid.pendingResults_step s hd.short hfirst
    rcases hd.sound.valid.pending_or_acknowledged hd.sound.receipts hd.filed s hd.short hfirst hmem
      with hstays | ⟨hack, hcompleted⟩
    · have hbound' : ∀ before ∈ steps.inits,
          (outbox (d.step s) (d.step s).file.pendingResults before).length ≤ maxReceipts := by
        intro before hbefore
        rw [hstep]
        exact hbound (s :: before) (by simpa [List.mem_inits] using hbefore)
      rcases ih (hd.step s) hbound' hstays with hend | ⟨middle, s', rest, rfl, hack, hcompleted⟩
      · exact .inl hend
      · exact .inr ⟨s :: middle, s', rest, rfl, hack, hcompleted⟩
    · exact .inr ⟨[], s, steps, rfl, hack, hcompleted⟩

/-- The outbox of the rest of a run. -/
theorem outbox_append (results : List Receipt) (before after : List Step) :
    outbox d results (before ++ after) =
      outbox (Run.exec Device.step d before) (outbox d results before) after := by
  induction before generalizing d results with
  | nil => rfl
  | cons s before ih => exact ih (outboxAfter d results s)

end Run

/-- A registration on the current transport resends the outbox, once the start-up save has
succeeded. -/
theorem Process.Valid.registered {d : Device} {p : Process} (hv : p.Valid d.file)
    (hp : d.process = some p) (hsaved : p.startSaved) {token : Nat}
    (htoken : p.coordinator.transportToken = some token) (now : Int) (saveOk : Bool) :
    d.actions (.event now saveOk (.registered token)) =
      d.file.pendingResults.map fun receipt => .send (.result receipt.result) := by
  have hsend : ∀ message, p.coordinator.send message = [.send message] := by
    intro message
    rw [Coordinator.send, htoken]
    rfl
  simp only [Device.actions, hp, Device.enabled, Event.callbackOf, Option.all_none, if_true,
    Coordinator.handle, htoken, Coordinator.replayPendingResults, hv.memory hsaved, hsend]
  exact List.map_eq_flatMap.symm

/-- **The outbox.** In every run of the device, over restarts, failed saves and kills at any point,
in which at most 256 results are unacknowledged at any time: the saved list is the list of the
unacknowledged results; a result stays in it until a step brings an acknowledgement of its identity
that is accepted or not retryable, and no other; it is then a completed receipt, unless it is older
than seven days; a process whose start-up save has succeeded resends the list at every registration
of the current transport; and what is sent for an identity is what is saved for it, and what was
saved or sent before, as long as a receipt of it is kept. -/
theorem result_kept_until_acknowledged (steps : List Step)
    (hbound : ∀ before ∈ steps.inits, (outbox {} [] before).length ≤ 256) :
    (Run.exec Device.step {} steps).file.pendingResults = outbox {} [] steps ∧
    (∀ before after receipt, steps = before ++ after →
      receipt ∈ (Run.exec Device.step {} before).file.pendingResults →
      receipt ∈ (Run.exec Device.step {} steps).file.pendingResults ∨
      ∃ middle s rest, after = middle ++ s :: rest ∧ s.acknowledges receipt ∧
        (keptAt (s.clock - receiptRetentionMs) receipt → receipt ∈
          (Run.exec Device.step {} (before ++ middle ++ [s])).file.completedReceipts)) ∧
    (∀ p token now saveOk, (Run.exec Device.step {} steps).process = some p → p.startSaved →
      p.coordinator.transportToken = some token →
      (Run.exec Device.step {} steps).actions (.event now saveOk (.registered token)) =
        (Run.exec Device.step {} steps).file.pendingResults.map
          fun receipt => .send (.result receipt.result)) ∧
    (∀ receipt middle s file result x,
      receipt ∈ (Run.exec Device.step {} steps).file.receipts →
      receipt.command.identity = some x →
      (∀ before ∈ middle.inits, (Run.exec Device.step {} (steps ++ before)).Keeps x) →
      (file, .send (.result result)) ∈ (Run.exec Device.step {} (steps ++ middle)).trace s →
      result.identity = some x → result = receipt.result) ∧
    (∀ s file₁ file₂ result₁ result₂ x,
      (file₁, .send (.result result₁)) ∈ (Run.exec Device.step {} steps).trace s →
      (file₂, .send (.result result₂)) ∈ (Run.exec Device.step {} steps).trace s →
      result₁.identity = some x → result₂.identity = some x → result₁ = result₂) ∧
    ∀ s₁ middle s₂ file₁ file₂ result₁ result₂ x,
      (file₁, .send (.result result₁)) ∈ (Run.exec Device.step {} steps).trace s₁ →
      (file₂, .send (.result result₂)) ∈
        (Run.exec Device.step {} (steps ++ s₁ :: middle)).trace s₂ →
      result₁.identity = some x → result₂.identity = some x →
      (∀ before ∈ middle.inits, (Run.exec Device.step {} (steps ++ s₁ :: before)).Keeps x) →
      result₁ = result₂ := by
  have hd := Device.Filed.initial.exec steps
  refine ⟨Device.Filed.initial.pendingResults_exec steps hbound, ?_, ?_, ?_, ?_, ?_⟩
  · rintro before after receipt rfl hmem
    have hbefore := Device.Filed.initial.pendingResults_exec before fun first hfirst =>
      hbound first (by
        rw [List.mem_inits] at hfirst ⊢
        exact hfirst.trans (List.prefix_append _ _))
    simp only [List.append_assoc, Run.exec_append _ _ before]
    refine (Device.Filed.initial.exec before).pending_or_acknowledged_exec
      (fun middle hmiddle => ?_)
      hmem
    rw [hbefore]
    have hlong := hbound (before ++ middle) (by
      rw [List.mem_inits] at hmiddle ⊢
      exact (List.prefix_append_right_inj before).mpr hmiddle)
    rwa [outbox_append] at hlong
  · intro p token now saveOk hp hsaved htoken
    exact (hd.sound.valid p hp).registered hp hsaved htoken now saveOk
  · intro receipt middle s file result x hmem hid hkept hsent hid'
    simp only [Run.exec_append] at hkept hsent
    exact hd.sent_eq hmem hid hkept hsent hid'
  · intro s file₁ file₂ result₁ result₂ x h₁ h₂ hid₁ hid₂
    obtain ⟨receipt, hmem, hid, rfl⟩ := hd.sent h₁ hid₁
    obtain ⟨other, hmem', hid', rfl⟩ := hd.sent h₂ hid₂
    refine (hd.step s).filed.uniform receipt hmem other hmem' ?_ (hid.trans hid'.symm)
    rw [Command.isJobV1_eq, hid, Option.isSome_some]
  · intro s₁ middle s₂ file₁ file₂ result₁ result₂ x h₁ h₂ hid₁ hid₂ hkept
    obtain ⟨receipt, hmem, hid, rfl⟩ := hd.sent h₁ hid₁
    simp only [Run.exec_append, Run.exec_cons] at hkept h₂
    exact ((hd.step s₁).sent_eq hmem hid hkept h₂ hid₂).symm

/-- A run in which a job is executed, its result saved, and acknowledged after a restart. -/
def acknowledgedRun : List Step :=
  [.start ⟨0, 0, 0⟩ true, .event 1 true (.command sampleCommand),
    .event 2 true (.terminal sampleCommand (.applied 1 2 3) 2), .kill, .start ⟨3, 3, 3⟩ true,
    .event 4 true (.resultAck
      { jobId := "11111111-1111-4111-8111-111111111111", attempt := 1, accepted := true,
        retryable := false })]

/-- The run of a job whose result is acknowledged after a restart. -/
theorem result_kept_until_acknowledged_run :
    (∀ before ∈ acknowledgedRun.inits, (outbox {} [] before).length ≤ 256) ∧
    (Run.exec Device.step {} acknowledgedRun).file.pendingResults =
      outbox {} [] acknowledgedRun := by
  have hbound : ∀ before ∈ acknowledgedRun.inits, (outbox {} [] before).length ≤ 256 := by
    decide +kernel
  exact ⟨hbound, (result_kept_until_acknowledged acknowledgedRun hbound).1⟩

/-- A run that saves a result, and in which the save of the next start-up fails. -/
def failedStartRun : List Step :=
  [.start ⟨0, 0, 0⟩ true, .event 1 true (.command sampleCommand),
    .event 2 true (.terminal sampleCommand (.applied 1 2 3) 2), .kill, .start ⟨3, 3, 3⟩ false,
    .event 4 true (.attachTransport 7)]

/-- A device whose start-up save has failed has a result in its file and does not resend it when it
registers. -/
theorem result_not_resent_after_failed_start :
    (∀ before ∈ failedStartRun.inits, (outbox {} [] before).length ≤ 256) ∧
    (Run.exec Device.step {} failedStartRun).file.pendingResults ≠ [] ∧
    (Run.exec Device.step {} failedStartRun).process.map
      (fun p => p.coordinator.transportToken) = some (some 7) ∧
    (Run.exec Device.step {} failedStartRun).actions (.event 5 true (.registered 7)) = [] := by
  refine ⟨?_, ?_, ?_, ?_⟩ <;> decide +kernel

end StylyMdm.Client
