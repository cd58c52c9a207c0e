import StylyMdm.Connections.Retires

/-!
# How a self-update ends

The pending entry is what the handler of a registration, the messages of the device and two timers
have in common. A handler that settles it keeps it in the dictionary while the admins are told; what
it finds there afterwards is the same entry as long as no other socket registers for the device in
the meantime (`SelfUpdateSafe`). Then every announcement has at most one result and at most one
verification, the verification after a success.

**The log.** `Unsettled` and `Resulted` say what the log has of an announcement so far, `Emits` what
a turn may add to it, and `Ordered` that in the whole log results and verifications come as they
should.

**A device.** `Rest` is a device none of whose handlers is settling anything: a pending entry is
unsettled, or has its successful result and waits for the verification, and every live timer is the
entry's. `Settling` and `Hashing` are the two situations in which a handler is in the middle:
it has told the result and still has the entry, or it hashes APKs for an entry it is about to make.
`Fits` picks the situation by the place of the handler.

`Turn.Settles` is then what each turn does, from a situation that fits to another one. The module
after this one joins the devices.
-/

namespace StylyMdm.Connections

open Text Py
open Registry (IdentityKind RegisterData)

/-! ### What the log says of an announcement -/

/-- Is it the result of the announced update? -/
def Event.isResult (announcement : Nat) : Event → Bool
  | .selfUpdateResult a _ => a = announcement
  | _ => false

/-- Is it the verification of the announced update? -/
def Event.isVerified (announcement : Nat) : Event → Bool
  | .selfUpdateVerified a => a = announcement
  | _ => false

/-- The events that matter for a self-update. -/
def Event.aboutUpdate : Event → Bool
  | .selfUpdateResult _ _ => true
  | .selfUpdateVerified _ => true
  | .keyError => true
  | _ => false

/-- Nothing has been said of the announced update. -/
structure Unsettled (log : List Event) (a : Nat) : Prop where
  result : log.countP (Event.isResult a) = 0
  verified : log.countP (Event.isVerified a) = 0

/-- The result is known, and the verification is not. -/
structure Resulted (log : List Event) (a : Nat) (success : Bool) : Prop where
  result : log.countP (Event.isResult a) = 1
  verified : log.countP (Event.isVerified a) = 0
  success : success = true → .selfUpdateResult a .success ∈ log

/-- What may be said of a self-update: its result if there is none yet, and its verification after a
success. -/
inductive Emits (log : List Event) (entry : Option SelfUpdate) : List Event → Prop
  | nothing (events : List Event) (hevents : ∀ event ∈ events, event.aboutUpdate = false) :
      Emits log entry events
  | result (noted : List Event) (e : SelfUpdate) (status : UpdateStatus)
      (hnoted : ∀ event ∈ noted, event.aboutUpdate = false) (hentry : entry = some e)
      (hlog : Unsettled log e.announcement) :
      Emits log entry (noted ++ [.selfUpdateResult e.announcement status])
  | verified (noted : List Event) (e : SelfUpdate)
      (hnoted : ∀ event ∈ noted, event.aboutUpdate = false) (hentry : entry = some e)
      (hlog : Resulted log e.announcement true) :
      Emits log entry (noted ++ [.selfUpdateVerified e.announcement])

/-- Every update has at most one result and one verification, the latter after a success. -/
structure Ordered (log : List Event) : Prop where
  result_once : ∀ a, log.countP (Event.isResult a) ≤ 1
  verified_once : ∀ a, log.countP (Event.isVerified a) ≤ 1
  succeeded : ∀ before after a, log = before ++ .selfUpdateVerified a :: after →
    .selfUpdateResult a .success ∈ before
  keyError : .keyError ∉ log

section Log

variable {log events noted : List Event} {entry : Option SelfUpdate} {a : Nat}

/-- An event that is not about updates is no result of one. -/
theorem not_isResult_of_aboutUpdate {event : Event} (h : event.aboutUpdate = false) (a : Nat) :
    ¬ event.isResult a = true := by
  cases event <;> first | exact Bool.false_ne_true | exact absurd h (Ne.symm Bool.false_ne_true)

/-- Nor a verification. -/
theorem not_isVerified_of_aboutUpdate {event : Event} (h : event.aboutUpdate = false) (a : Nat) :
    ¬ event.isVerified a = true := by
  cases event <;> first | exact Bool.false_ne_true | exact absurd h (Ne.symm Bool.false_ne_true)

/-- Such events do not count. -/
theorem count_of_aboutUpdate (hevents : ∀ event ∈ events, event.aboutUpdate = false) (a : Nat) :
    events.countP (Event.isResult a) = 0 ∧ events.countP (Event.isVerified a) = 0 :=
  ⟨List.countP_eq_zero.mpr fun event hevent => not_isResult_of_aboutUpdate (hevents event hevent) a,
    List.countP_eq_zero.mpr fun event hevent =>
      not_isVerified_of_aboutUpdate (hevents event hevent) a⟩

/-- What is said concerns the entry. -/
theorem Emits.count (hemits : Emits log entry events)
    (ha : ∀ e, entry = some e → e.announcement ≠ a) :
    events.countP (Event.isResult a) = 0 ∧ events.countP (Event.isVerified a) = 0 := by
  cases hemits with
  | nothing _ hevents => exact count_of_aboutUpdate hevents a
  | result noted e status hnoted hentry hlog =>
    have hcount := count_of_aboutUpdate hnoted a
    simp [List.countP_append, hcount.1, hcount.2, Event.isResult, Event.isVerified, ha e hentry]
  | verified noted e hnoted hentry hlog =>
    have hcount := count_of_aboutUpdate hnoted a
    simp [List.countP_append, hcount.1, hcount.2, Event.isResult, Event.isVerified, ha e hentry]

/-- They may come first. -/
theorem Emits.after (hemits : Emits log entry events)
    (hnoted : ∀ event ∈ noted, event.aboutUpdate = false) : Emits log entry (noted ++ events) := by
  have hboth : ∀ {others : List Event}, (∀ event ∈ others, event.aboutUpdate = false) →
      ∀ event ∈ noted ++ others, event.aboutUpdate = false := by
    intro others hothers event hevent
    rcases List.mem_append.mp hevent with hevent | hevent
    · exact hnoted event hevent
    · exact hothers event hevent
  cases hemits with
  | nothing _ hevents => exact .nothing _ (hboth hevents)
  | result noted' e status hnoted' hentry hlog =>
    rw [← List.append_assoc]
    exact .result _ e status (hboth hnoted') hentry hlog
  | verified noted' e hnoted' hentry hlog =>
    rw [← List.append_assoc]
    exact .verified _ e (hboth hnoted') hentry hlog

/-- An update that is unsettled stays so while no event is about it. -/
theorem Unsettled.append (hlog : Unsettled log a)
    (hevents : events.countP (Event.isResult a) = 0 ∧ events.countP (Event.isVerified a) = 0) :
    Unsettled (log ++ events) a where
  result := by rw [List.countP_append, hlog.result, hevents.1]
  verified := by rw [List.countP_append, hlog.verified, hevents.2]

/-- So does one that has its result. -/
theorem Resulted.append {success : Bool} (hlog : Resulted log a success)
    (hevents : events.countP (Event.isResult a) = 0 ∧ events.countP (Event.isVerified a) = 0) :
    Resulted (log ++ events) a success where
  result := by rw [List.countP_append, hlog.result, hevents.1]
  verified := by rw [List.countP_append, hlog.verified, hevents.2]
  success hsuccess := List.mem_append_left _ (hlog.success hsuccess)

/-- The result is said. -/
theorem Unsettled.resulted (hlog : Unsettled log a) (success : Bool) :
    Resulted (log ++ [.selfUpdateResult a (if success then .success else .fail)]) a success where
  result := by simp [List.countP_append, hlog.result, Event.isResult]
  verified := by simp [List.countP_append, hlog.verified, Event.isVerified]
  success hsuccess := by simp [hsuccess]

/-- One more event, which has its place. -/
theorem Ordered.snoc (hlog : Ordered log) {event : Event}
    (hresult : ∀ a, event.isResult a = true → Unsettled log a)
    (hverified : ∀ a, event.isVerified a = true → Resulted log a true)
    (hkey : event ≠ .keyError) : Ordered (log ++ [event]) where
  result_once a := by
    have hold := hlog.result_once a
    rw [List.countP_append, List.countP_singleton]
    split
    · rename_i hevent
      rw [(hresult a hevent).result]
    · exact hold
  verified_once a := by
    have hold := hlog.verified_once a
    rw [List.countP_append, List.countP_singleton]
    split
    · rename_i hevent
      rw [(hverified a hevent).verified]
    · exact hold
  succeeded before after a heq := by
    induction after using List.reverseRecOn with
    | nil =>
      obtain ⟨rfl, hevent⟩ := List.append_inj' heq rfl
      rw [List.cons.injEq] at hevent
      exact (hverified a (by simp [hevent.1, Event.isVerified])).success rfl
    | append_singleton after last =>
      rw [← List.cons_append, ← List.append_assoc] at heq
      obtain ⟨heq, -⟩ := List.append_inj' heq rfl
      exact hlog.succeeded before after a heq
  keyError := by
    rw [List.mem_append, List.mem_singleton]
    exact not_or_intro hlog.keyError (Ne.symm hkey)

/-- More events that are not about updates. -/
theorem Ordered.append_nothing (hlog : Ordered log)
    (hevents : ∀ event ∈ events, event.aboutUpdate = false) : Ordered (log ++ events) := by
  induction events using List.reverseRecOn with
  | nil => rwa [List.append_nil]
  | append_singleton events event ih =>
    rw [← List.append_assoc]
    have habout := hevents event (by simp)
    refine (ih fun event' hevent' => hevents event' (by simp [hevent'])).snoc ?_ ?_ ?_
    · exact fun a hresult => absurd hresult (not_isResult_of_aboutUpdate habout a)
    · exact fun a hverified => absurd hverified (not_isVerified_of_aboutUpdate habout a)
    · rintro rfl
      exact absurd habout (by simp [Event.aboutUpdate])

/-- What may be said keeps the order. -/
theorem Ordered.emits (hlog : Ordered log) (hemits : Emits log entry events) :
    Ordered (log ++ events) := by
  cases hemits with
  | nothing _ hevents => exact hlog.append_nothing hevents
  | result noted e status hnoted hentry hunsettled =>
    rw [← List.append_assoc]
    refine (hlog.append_nothing hnoted).snoc ?_ (by simp [Event.isVerified]) (by simp)
    intro a ha
    rw [Event.isResult, decide_eq_true_iff] at ha
    subst ha
    exact hunsettled.append (count_of_aboutUpdate hnoted _)
  | verified noted e hnoted hentry hresulted =>
    rw [← List.append_assoc]
    refine (hlog.append_nothing hnoted).snoc (by simp [Event.isResult]) ?_ (by simp)
    intro a ha
    rw [Event.isVerified, decide_eq_true_iff] at ha
    subst ha
    exact hresulted.append (count_of_aboutUpdate hnoted _)

end Log

/-! ### A device and the handler that settles its update -/

/-- An entry that nobody is about to settle. -/
def Idle (log : List Event) (e : SelfUpdate) : Prop :=
  match e.phase with
  | .updating => Unsettled log e.announcement
  | .verifying => Resulted log e.announcement true

/-- The timer is the one that the entry has. -/
structure Ticks (e : SelfUpdate) (t : Nat) (timer : Timer) : Prop where
  task : e.timeoutTask = some t
  announcement : timer.announcement = e.announcement
  correlationId : timer.correlationId = e.correlationId
  phase : (timer.kind = .selfUpdate ∧ e.phase = .updating) ∨
    (timer.kind = .verify ∧ e.phase = .verifying)

/-- A device whose entry nobody is about to settle. `live` are the timers of its self-updates. -/
structure Rest (log : List Event) (live : Nat → Timer → Prop) (entry : Option SelfUpdate) :
    Prop where
  idle : ∀ e, entry = some e → Idle log e
  ticks : ∀ t timer, live t timer → ∃ e, entry = some e ∧ Ticks e t timer

/-- A device whose entry is about to be settled by a handler that has said the result. -/
structure Settling (log : List Event) (live : Nat → Timer → Prop) (entry : Option SelfUpdate)
    (e : SelfUpdate) (phase : Phase) (success : Bool) : Prop where
  entry : ∃ current, entry = some current ∧ current.announcement = e.announcement ∧
    current.correlationId = e.correlationId ∧ current.phase = phase
  resulted : Resulted log e.announcement success
  quiet : ∀ t timer, ¬ live t timer

/-- A device whose new entry is about to be made. -/
structure Hashing (log : List Event) (live : Nat → Timer → Prop) (entry : Option SelfUpdate)
    (draft : Draft) : Prop where
  unsettled : Unsettled log draft.announcement
  idle : ∀ e, entry = some e → Idle log e
  older : ∀ e, entry = some e → e.announcement < draft.announcement
  quiet : ∀ t timer, ¬ live t timer

/-- The entry and the timers of a device fit to where its handler is. -/
def Fits (log : List Event) (live : Nat → Timer → Prop) (entry : Option SelfUpdate) : Point → Prop
  | .hashing draft => Hashing log live entry draft
  | .resultSent e success => Settling log live entry e .updating success
  | .installStateSent e success => Settling log live entry e .updating success
  | .verifySending e => Settling log live entry e .verifying true
  | _ => Rest log live entry

/-- Is nothing being settled at this point? -/
def Point.rests : Point → Bool
  | .hashing _ => false
  | .resultSent _ _ => false
  | .installStateSent _ _ => false
  | .verifySending _ => false
  | _ => true

section Fits

variable {log events : List Event} {live live' : Nat → Timer → Prop} {entry : Option SelfUpdate}
  {point : Point}

/-- A handler that rests settles nothing. -/
theorem fits_iff_rest (hrests : point.rests = true) :
    Fits log live entry point ↔ Rest log live entry := by
  cases point <;> first | exact Iff.rfl | exact absurd hrests (by simp [Point.rests])

/-- An update in its phase, while no event is about it. -/
theorem Idle.append {e : SelfUpdate} (hidle : Idle log e)
    (hevents : events.countP (Event.isResult e.announcement) = 0 ∧
      events.countP (Event.isVerified e.announcement) = 0) : Idle (log ++ events) e := by
  rw [Idle] at hidle ⊢
  cases hphase : e.phase with
  | updating =>
    rw [hphase] at hidle
    exact hidle.append hevents
  | verifying =>
    rw [hphase] at hidle
    exact hidle.append hevents

/-- Fewer timers and what concerns other announcements change nothing. -/
theorem Fits.frame (hfits : Fits log live entry point)
    (hlive : ∀ t timer, live' t timer → live t timer)
    (hentry : ∀ e, entry = some e → events.countP (Event.isResult e.announcement) = 0 ∧
      events.countP (Event.isVerified e.announcement) = 0)
    (hdraft : ∀ draft, point = .hashing draft →
      events.countP (Event.isResult draft.announcement) = 0 ∧
        events.countP (Event.isVerified draft.announcement) = 0) :
    Fits (log ++ events) live' entry point := by
  have hrest : Rest log live entry → Rest (log ++ events) live' entry := by
    intro hrest
    refine ⟨fun e he => (hrest.idle e he).append (hentry e he), fun t timer ht => ?_⟩
    exact hrest.ticks t timer (hlive t timer ht)
  have hsettling : ∀ {e phase success}, Settling log live entry e phase success →
      Settling (log ++ events) live' entry e phase success := by
    intro e phase success hsettling
    refine ⟨hsettling.entry, ?_, fun t timer ht => hsettling.quiet t timer (hlive t timer ht)⟩
    obtain ⟨current, hcurrent, hann, -⟩ := hsettling.entry
    exact hsettling.resulted.append (hann ▸ hentry current hcurrent)
  cases point with
  | hashing draft =>
    have hhashing : Hashing log live entry draft := hfits
    exact
      { unsettled := hhashing.unsettled.append (hdraft draft rfl)
        idle := fun e he => (hhashing.idle e he).append (hentry e he)
        older := hhashing.older
        quiet := fun t timer ht => hhashing.quiet t timer (hlive t timer ht) }
  | resultSent e success => exact hsettling hfits
  | installStateSent e success => exact hsettling hfits
  | verifySending e => exact hsettling hfits
  | receive => exact hrest hfits
  | answering => exact hrest hfits
  | rejecting => exact hrest hfits
  | completing version => exact hrest hfits
  | retireResolved version => exact hrest hfits
  | closing => exact hrest hfits
  | closed => exact hrest hfits

/-- While a draft is hashed nobody is about to settle the old entry. -/
theorem Hashing.rest {draft : Draft} (hhashing : Hashing log live entry draft) :
    Rest log live entry :=
  ⟨hhashing.idle, fun t timer ht => absurd ht (hhashing.quiet t timer)⟩

/-- Nor is anybody while the device is asked for its APK. -/
theorem Settling.rest {e : SelfUpdate} (hsettling : Settling log live entry e .verifying true) :
    Rest log live entry := by
  refine ⟨fun e' he' => ?_, fun t timer ht => absurd ht (hsettling.quiet t timer)⟩
  obtain ⟨current, hcurrent, hann, -, hphase⟩ := hsettling.entry
  rw [hcurrent, Option.some_inj] at he'
  subst he'
  rw [Idle, hphase, hann]
  exact hsettling.resulted

end Fits

/-! ### What a turn does to a self-update -/

/-- Is the handler in an await after which it acts on the self-update of its device? -/
def Handler.settling (h : Handler) : Bool :=
  match h.point with
  | .retireResolved _ => true
  | .hashing _ => true
  | .resultSent _ _ => true
  | .installStateSent _ _ => true
  | .verifySending _ => true
  | _ => false

/-- The timers of the self-updates of the device after a turn. -/
def Turn.live (turn : Turn) (now : Nat) (live : Nat → Timer → Prop) (t : Nat) (timer : Timer) :
    Prop :=
  (t = now ∧ turn.started = some timer ∧ timer.kind ≠ .retire) ∨ (live t timer ∧ t ∉ turn.cancelled)

/-- What a turn does to the self-update of the device. -/
structure Turn.Settles (log : List Event) (live : Nat → Timer → Prop) (ws : Socket) (dev : Device)
    (h : Handler) (now : Nat) (deviceId : DeviceId) (turn : Turn) : Prop where
  fits : Fits (log ++ turn.events) (turn.live now live) turn.device.selfUpdate turn.handler.point
  emits : Emits log dev.selfUpdate turn.events
  entry : ∀ e, turn.device.selfUpdate = some e → e.announcement = now ∨
    (∃ e', dev.selfUpdate = some e' ∧ e'.announcement = e.announcement) ∨
    ∃ draft, h.point = .hashing draft ∧ draft.announcement = e.announcement
  draft : ∀ draft, turn.handler.point = .hashing draft → draft.announcement = now
  started : ∀ timer, turn.started = some timer → timer.deviceId = deviceId
  settling : turn.handler.settling = true → dev.ownedBy ws = true ∨ h.settling = true

section Turns

variable {log : List Event} {live : Nat → Timer → Prop} {ws : Socket} {dev : Device} {h : Handler}
  {now : Nat} {deviceId : DeviceId} {turn : Turn}

/-- A handler that rests hashes nothing. -/
theorem Point.ne_hashing {point : Point} (hrests : point.rests = true) (draft : Draft) :
    point ≠ .hashing draft := by
  rintro rfl
  exact absurd hrests (by simp [Point.rests])

/-- A turn that leaves the entry alone. -/
theorem Turn.Settles.of_kept (hrest : Rest log live dev.selfUpdate)
    (hsame : turn.device.selfUpdate = dev.selfUpdate)
    (hevents : ∀ event ∈ turn.events, event.aboutUpdate = false)
    (hstarted : ∀ timer, turn.started = some timer →
      timer.kind = .retire ∧ timer.deviceId = deviceId)
    (hrests : turn.handler.point.rests = true)
    (hsettling : turn.handler.settling = true → dev.ownedBy ws = true ∨ h.settling = true) :
    turn.Settles log live ws dev h now deviceId where
  fits := by
    have hcount := count_of_aboutUpdate hevents
    rw [hsame]
    refine ((fits_iff_rest hrests).mpr hrest).frame ?_ (fun e _ => hcount _) fun draft _ => hcount _
    rintro t timer (⟨-, htimer, hkind⟩ | ⟨hlive, -⟩)
    · exact absurd (hstarted timer htimer).1 hkind
    · exact hlive
  emits := .nothing _ hevents
  entry e he := .inr (.inl ⟨e, hsame ▸ he, rfl⟩)
  draft draft hdraft := absurd hdraft (Point.ne_hashing hrests draft)
  started timer htimer := (hstarted timer htimer).2
  settling := hsettling

/-- A turn that deletes the entry. -/
theorem Turn.Settles.of_deleted (hnone : turn.device.selfUpdate = none)
    (hquiet : ∀ t timer, live t timer → t ∈ turn.cancelled)
    (hemits : Emits log dev.selfUpdate turn.events)
    (hstarted : ∀ timer, turn.started = some timer →
      timer.kind = .retire ∧ timer.deviceId = deviceId)
    (hrests : turn.handler.point.rests = true) (hsettling : turn.handler.settling = false) :
    turn.Settles log live ws dev h now deviceId where
  fits := by
    rw [fits_iff_rest hrests, hnone]
    refine ⟨by simp, ?_⟩
    rintro t timer (⟨-, htimer, hkind⟩ | ⟨hlive, hcancelled⟩)
    · exact absurd (hstarted timer htimer).1 hkind
    · exact absurd (hquiet t timer hlive) hcancelled
  emits := hemits
  entry e he := by
    rw [hnone] at he
    exact absurd he (by simp)
  draft draft hdraft := absurd hdraft (Point.ne_hashing hrests draft)
  started timer htimer := (hstarted timer htimer).2
  settling h' := by
    rw [hsettling] at h'
    exact absurd h' (by simp)

/-- The live timer is the one of the entry. -/
theorem Rest.mem_selfUpdateTimer (hrest : Rest log live dev.selfUpdate) {t : Nat} {timer : Timer}
    (hlive : live t timer) : t ∈ dev.selfUpdateTimer := by
  obtain ⟨e, he, hticks⟩ := hrest.ticks t timer hlive
  simp [Device.selfUpdateTimer, he, hticks.task]

/-- The `finally` block closes the verification that will not be answered. -/
theorem settles_leave (hrest : Rest log live dev.selfUpdate) :
    (leave ws dev h).Settles log live ws dev h now deviceId := by
  rw [leave]
  by_cases hown : dev.ownedBy ws = true
  · simp only [hown, Bool.not_true, Bool.false_eq_true, if_false]
    split
    · rename_i hentry
      exact .of_kept hrest rfl (by simp [teardown]) (by simp [teardown]) rfl (fun _ => .inl hown)
    · rename_i e hentry
      split
      · exact .of_kept hrest rfl (by simp [teardown]) (by simp [teardown]) rfl (fun _ => .inl hown)
      · rename_i hphase
        refine .of_deleted rfl (fun t timer hlive => hrest.mem_selfUpdateTimer hlive) ?_ (by simp)
          rfl rfl
        have hidle := hrest.idle e hentry
        rw [Idle, not_not.mp hphase] at hidle
        exact .verified [] e (by simp) hentry hidle
  · rw [if_pos (by simpa using hown)]
    exact .of_kept hrest rfl (by simp) (by simp) rfl (by simp [Handler.settling])

/-- `del pending_self_updates[device_id]` after the result has been said. -/
theorem settles_deleteSelfUpdate {e : SelfUpdate} {phase : Phase} {success : Bool}
    (hsettling : Settling log live dev.selfUpdate e phase success) {events : List Event}
    (hevents : events = [] ∨ (success = true ∧ events = [.selfUpdateVerified e.announcement])) :
    (deleteSelfUpdate ws dev h events).Settles log live ws dev h now deviceId := by
  obtain ⟨current, hcurrent, hann, -, -⟩ := hsettling.entry
  have hemits : Emits log dev.selfUpdate events := by
    rcases hevents with rfl | ⟨rfl, rfl⟩
    · exact .nothing [] (by simp)
    · rw [← hann]
      exact .verified [] current (by simp) hcurrent (hann ▸ hsettling.resulted)
  rw [deleteSelfUpdate]
  split
  · rename_i hnone
    rw [hnone] at hcurrent
    exact absurd hcurrent (by simp)
  · exact .of_deleted rfl (fun t timer hlive => absurd hlive (hsettling.quiet t timer)) hemits
      (by simp) rfl rfl

/-- A registration resolves the pending update, once. -/
theorem settles_resolvePendingSelfUpdate (hrest : Rest log live dev.selfUpdate)
    {versionCode : Option Int} (hmay : dev.ownedBy ws = true ∨ h.settling = true) :
    (resolvePendingSelfUpdate dev h versionCode).Settles log live ws dev h now deviceId := by
  rw [resolvePendingSelfUpdate]
  split
  · exact .of_kept hrest rfl (by simp) (by simp) rfl fun _ => hmay
  · rename_i e hentry
    split
    · exact .of_kept hrest rfl (by simp) (by simp) rfl fun _ => hmay
    · rename_i hphase
      have hupdating : e.phase = .updating := not_not.mp hphase
      have hunsettled : Unsettled log e.announcement := by
        have hidle := hrest.idle e hentry
        rwa [Idle, hupdating] at hidle
      exact
        { fits :=
            { entry := ⟨e, hentry, rfl, rfl, hupdating⟩
              resulted := hunsettled.resulted _
              quiet := by
                rintro t timer (⟨-, htimer, -⟩ | ⟨hlive, hcancelled⟩)
                · exact absurd htimer (by simp)
                · exact hcancelled (hrest.mem_selfUpdateTimer hlive) }
          emits := .result [] e _ (by simp) hentry hunsettled
          entry := fun e' he' => .inr (.inl ⟨e', he', rfl⟩)
          draft := fun draft hdraft => absurd hdraft (by simp)
          started := fun timer htimer => absurd htimer (by simp)
          settling := fun _ => hmay }

/-- The result is written once. -/
theorem settles_settleSelfUpdate {e : SelfUpdate} {success : Bool}
    (hsettling : Settling log live dev.selfUpdate e .updating success) (hmay : h.settling = true) :
    (settleSelfUpdate ws dev h e success).Settles log live ws dev h now deviceId := by
  rw [settleSelfUpdate]
  split
  · exact settles_deleteSelfUpdate hsettling (.inl rfl)
  · rename_i hsuccess
    have hsuccess : success = true := by simpa using hsuccess
    split
    · obtain ⟨current, hcurrent, hann, hcorrelation, -⟩ := hsettling.entry
      have hassign : (dev.assign e fun current =>
          { current with phase := .verifying, timeoutTask := none }).selfUpdate =
          some { current with phase := .verifying, timeoutTask := none } := by
        simp [Device.assign, hcurrent, hann]
      exact
        { fits :=
            { entry := ⟨_, hassign, hann, hcorrelation, rfl⟩
              resulted := by
                rw [List.append_nil]
                exact hsuccess ▸ hsettling.resulted
              quiet := by
                rintro t timer (⟨-, htimer, -⟩ | ⟨hlive, -⟩)
                · exact absurd htimer (by simp)
                · exact hsettling.quiet t timer hlive }
          emits := .nothing [] (by simp)
          entry := by
            intro e' he'
            rw [hassign, Option.some_inj] at he'
            exact .inr (.inl ⟨current, hcurrent, by rw [← he']⟩)
          draft := fun draft hdraft => absurd hdraft (by simp)
          started := fun timer htimer => absurd htimer (by simp)
          settling := fun _ => .inr hmay }
    · exact settles_deleteSelfUpdate hsettling (.inr ⟨hsuccess, rfl⟩)

/-- Resolving a retirement settles no update. -/
theorem settles_resolvePendingRetire (hrest : Rest log live dev.selfUpdate)
    {versionCode : Option Int} (hmay : dev.ownedBy ws = true ∨ h.settling = true) :
    (resolvePendingRetire dev h deviceId versionCode).Settles log live ws dev h now deviceId := by
  rw [resolvePendingRetire]
  split
  · exact settles_resolvePendingSelfUpdate hrest hmay
  · exact .of_kept hrest rfl (by simp [Event.aboutUpdate]) (by simp) rfl fun _ => hmay

/-- The new entry, once the timer of the old one is cancelled. -/
theorem settles_createSelfUpdate {draft : Draft} {expected : Option Str} {cancelled : List Nat}
    (hunsettled : Unsettled log draft.announcement)
    (hquiet : ∀ t timer, live t timer → t ∈ cancelled)
    (hdraft : draft.announcement = now ∨ h.point = .hashing draft) :
    Turn.Settles log live ws dev h now deviceId
      { createSelfUpdate dev h now deviceId draft expected with cancelled := cancelled } where
  fits := by
    refine ⟨?_, ?_⟩
    · rintro e ⟨⟩
      rw [Idle]
      exact hunsettled.append (by simp [createSelfUpdate])
    · rintro t timer (⟨rfl, ⟨⟩, -⟩ | ⟨hlive, hcancelled⟩)
      · exact ⟨_, rfl, rfl, rfl, rfl, .inl ⟨rfl, rfl⟩⟩
      · exact absurd (hquiet t timer hlive) hcancelled
  emits := .nothing _ (by simp [createSelfUpdate])
  entry := by
    rintro e ⟨⟩
    rcases hdraft with hnow | hpoint
    · exact .inl hnow
    · exact .inr (.inr ⟨draft, hpoint, rfl⟩)
  draft draft' hpoint := absurd hpoint (by simp [createSelfUpdate])
  started := by
    rintro timer ⟨⟩
    rfl
  settling hsettling := absurd hsettling (by simp [createSelfUpdate, Handler.settling])

/-- The verification is awaited. -/
theorem settles_awaitVerification {e : SelfUpdate}
    (hsettling : Settling log live dev.selfUpdate e .verifying true) :
    (awaitVerification dev h now deviceId e).Settles log live ws dev h now deviceId := by
  obtain ⟨current, hcurrent, hann, hcorrelation, hphase⟩ := hsettling.entry
  have hassign : (dev.assign e fun current => { current with timeoutTask := some now }).selfUpdate =
      some { current with timeoutTask := some now } := by
    simp [Device.assign, hcurrent, hann]
  exact
    { fits := by
        refine ⟨?_, ?_⟩
        · intro e' he'
          rw [awaitVerification, hassign, Option.some_inj] at he'
          subst he'
          simp only [Idle, hphase, hann]
          exact hsettling.resulted.append (by simp [awaitVerification])
        · rintro t timer (⟨rfl, ⟨⟩, -⟩ | ⟨hlive, -⟩)
          · exact ⟨_, hassign, rfl, hann.symm, hcorrelation.symm, .inr ⟨rfl, hphase⟩⟩
          · exact absurd hlive (hsettling.quiet t timer)
      emits := .nothing _ (by simp [awaitVerification])
      entry := by
        intro e' he'
        rw [awaitVerification, hassign, Option.some_inj] at he'
        exact .inr (.inl ⟨current, hcurrent, by rw [← he']⟩)
      draft := fun draft hdraft => absurd hdraft (by simp [awaitVerification])
      started := by
        rintro timer ⟨⟩
        rfl
      settling := fun hsettling =>
        absurd hsettling (by simp [awaitVerification, Handler.settling]) }

/-- A message of the owner. -/
theorem settles_handleOwn (message : Message) (hreceive : h.point = .receive)
    (hown : dev.ownedBy ws = true) (hrest : Rest log live dev.selfUpdate)
    (hfresh : Unsettled log now) (hlt : ∀ e, dev.selfUpdate = some e → e.announcement < now) :
    (handleOwn ws dev h now deviceId message).Settles log live ws dev h now deviceId := by
  have hrests : h.point.rests = true := by simp [hreceive, Point.rests]
  unfold handleOwn
  split
  · rename_i task
    generalize (if task.truthy then task else Value.str taskInstall) = key
    split
    · exact .of_kept hrest rfl (by simp) (by simp) rfl fun _ => .inl hown
    · split
      · exact .of_kept hrest rfl (by simp) (by simp) rfl fun _ => .inl hown
      · exact settles_leave hrest
  · split
    · exact .of_kept hrest rfl (by simp) (by simp) hrests fun _ => .inl hown
    · split
      · exact settles_createSelfUpdate hfresh (fun t timer hlive => hrest.mem_selfUpdateTimer hlive)
          (.inl rfl)
      · exact
          { fits :=
              { unsettled := hfresh.append (by simp)
                idle := fun e he => (hrest.idle e he).append (by simp)
                older := hlt
                quiet := by
                  rintro t timer (⟨-, htimer, -⟩ | ⟨hlive, hcancelled⟩)
                  · exact absurd htimer (by simp)
                  · exact hcancelled (hrest.mem_selfUpdateTimer hlive) }
            emits := .nothing _ (by simp)
            entry := fun e he => .inr (.inl ⟨e, he, rfl⟩)
            draft := by
              rintro draft ⟨⟩
              rfl
            started := fun timer htimer => absurd htimer (by simp)
            settling := fun _ => .inl hown }
  · split
    · exact .of_kept hrest rfl (by simp) (by simp) hrests fun _ => .inl hown
    · refine .of_deleted rfl (fun t timer hlive => ?_) (.nothing _ (by simp [Event.aboutUpdate]))
        (by simp) hrests (by simp [Handler.settling, hreceive])
      exact List.mem_append_right _ (hrest.mem_selfUpdateTimer hlive)
  · exact .of_kept hrest rfl (by simp [Event.aboutUpdate]) (by simp) rfl fun _ => .inl hown
  · simp only
    split
    · exact .of_kept hrest rfl (by simp) (by simp) rfl fun _ => .inl hown
    · split
      · exact .of_kept hrest rfl (by simp) (by simp) rfl fun _ => .inl hown
      · exact .of_deleted rfl (fun t timer hlive => hrest.mem_selfUpdateTimer hlive)
          (.nothing _ (by simp)) (by simp) rfl rfl
  · exact .of_kept hrest rfl (by simp) (by simp) rfl fun _ => .inl hown
  · split
    · exact .of_kept hrest rfl (by simp) (by simp) rfl fun _ => .inl hown
    · rename_i e hentry
      split
      · exact .of_kept hrest rfl (by simp) (by simp) rfl fun _ => .inl hown
      · rename_i hconsumed
        refine .of_deleted rfl (fun t timer hlive => hrest.mem_selfUpdateTimer hlive) ?_ (by simp)
          rfl rfl
        have hphase : e.phase = .verifying := by
          by_contra hphase
          simp [hphase] at hconsumed
        have hidle := hrest.idle e hentry
        rw [Idle, hphase] at hidle
        exact .verified [] e (by simp) hentry hidle
  · exact .of_kept hrest rfl (by simp) (by simp) rfl fun _ => .inl hown
  · exact .of_kept hrest rfl (by simp) (by simp) hrests fun _ => .inl hown

/-- Does a handler that has said the result go on to delete or to verify the entry? -/
def Point.carriesOn : Point → Answer → Bool
  | .resultSent _ _, .done _ _ => true
  | .resultSent _ _, _ => false
  | .installStateSent _ _, .done _ _ => true
  | .installStateSent _ _, _ => false
  | _, _ => true

/-- An acknowledgement settles nothing. -/
theorem Turn.Settles.of_acknowledge {ready : Bool}
    (hturn : turn.Settles log live ws (dev.acknowledge ready) h now deviceId) :
    turn.Settles log live ws dev h now deviceId where
  fits := hturn.fits
  emits := hturn.emits
  entry := hturn.entry
  draft := hturn.draft
  started := hturn.started
  settling hsettling := by
    have hmay := hturn.settling hsettling
    rwa [ownedBy_acknowledge] at hmay

/-- A handler goes on past its await. -/
theorem settles_resume (answer : Answer) (hfits : Fits log live dev.selfUpdate h.point)
    (hcarries : h.point.carriesOn answer = true) :
    (resume ws dev h now deviceId h.point answer).Settles log live ws dev h now deviceId := by
  have hstays : ∀ point, Rest log live dev.selfUpdate → point.rests = true →
      (h.at point).settling = false →
      Turn.Settles log live ws dev h now deviceId { device := dev, handler := h.at point } := by
    intro point hrest hrests hsettling
    exact .of_kept hrest rfl (by simp) (by simp) hrests (by simp [hsettling])
  have hsame : Rest log live dev.selfUpdate → h.point.rests = true →
      Turn.Settles log live ws dev h now deviceId { device := dev, handler := h } :=
    fun hrest hrests => .of_kept hrest rfl (by simp) (by simp) hrests .inr
  have hmay : ∀ point, h.point = point → (h.at point).settling = h.settling := by
    rintro point rfl
    rfl
  cases hpoint : h.point with
  | receive =>
    rw [hpoint] at hfits
    exact hsame hfits (by rw [hpoint]; rfl)
  | closed =>
    rw [hpoint] at hfits
    exact hsame hfits (by rw [hpoint]; rfl)
  | answering =>
    rw [hpoint] at hfits
    cases answer with
    | done ready hashes => exact hstays .receive hfits rfl rfl
    | failed => exact settles_leave hfits
    | cancelled => exact settles_leave hfits
  | rejecting =>
    rw [hpoint] at hfits
    cases answer <;> exact settles_leave hfits
  | completing version =>
    rw [hpoint] at hfits
    cases answer with
    | done ready hashes =>
      rw [resume]
      split
      · rename_i hown
        have hown' : (dev.acknowledge ready).ownedBy ws = true := by rwa [ownedBy_acknowledge]
        have hrest : Rest log live (dev.acknowledge ready).selfUpdate := hfits
        exact (settles_resolvePendingRetire hrest (.inl hown')).of_acknowledge
      · exact hstays .receive hfits rfl rfl
    | failed => exact settles_leave hfits
    | cancelled => exact settles_leave hfits
  | retireResolved version =>
    rw [hpoint] at hfits
    cases answer with
    | done ready hashes =>
      exact settles_resolvePendingSelfUpdate hfits (.inr (hmay _ hpoint).symm)
    | failed => exact settles_leave hfits
    | cancelled => exact settles_leave hfits
  | resultSent e success =>
    rw [hpoint] at hfits hcarries
    cases answer with
    | done ready hashes =>
      have hsettling : Settling log live dev.selfUpdate e .updating success := hfits
      rw [resume]
      exact
        { fits :=
            { entry := hsettling.entry
              resulted := by
                rw [List.append_nil]
                exact hsettling.resulted
              quiet := by
                rintro t timer (⟨-, htimer, -⟩ | ⟨hlive, -⟩)
                · exact absurd htimer (by simp)
                · exact hsettling.quiet t timer hlive }
          emits := .nothing _ (by simp)
          entry := fun e' he' => .inr (.inl ⟨e', he', rfl⟩)
          draft := fun draft hdraft => absurd hdraft (by simp)
          started := fun timer htimer => absurd htimer (by simp)
          settling := fun _ => .inr (hmay _ hpoint).symm }
    | failed => exact absurd hcarries (by simp [Point.carriesOn])
    | cancelled => exact absurd hcarries (by simp [Point.carriesOn])
  | installStateSent e success =>
    rw [hpoint] at hfits hcarries
    cases answer with
    | done ready hashes => exact settles_settleSelfUpdate hfits (hmay _ hpoint).symm
    | failed => exact absurd hcarries (by simp [Point.carriesOn])
    | cancelled => exact absurd hcarries (by simp [Point.carriesOn])
  | verifySending e =>
    rw [hpoint] at hfits
    cases answer with
    | done ready hashes => exact settles_awaitVerification hfits
    | failed => exact settles_deleteSelfUpdate hfits (.inr ⟨rfl, rfl⟩)
    | cancelled => exact settles_leave (Settling.rest hfits)
  | hashing draft =>
    rw [hpoint] at hfits
    have hhashing : Hashing log live dev.selfUpdate draft := hfits
    cases answer with
    | done ready hashes =>
      exact settles_createSelfUpdate hhashing.unsettled
        (fun t timer hlive => absurd hlive (hhashing.quiet t timer)) (.inr hpoint)
    | failed => exact settles_leave hhashing.rest
    | cancelled => exact settles_leave hhashing.rest
  | closing =>
    rw [hpoint] at hfits
    cases answer with
    | done ready hashes =>
      rw [resume]
      split
      · exact .of_kept hfits rfl (by simp [teardown]) (by simp [teardown]) rfl
          (by simp [Handler.settling, teardown])
      · exact hstays .closed hfits rfl rfl
    | failed => exact hstays .closed hfits rfl rfl
    | cancelled => exact hstays .closed hfits rfl rfl

/-- What is noted before a turn settles nothing. -/
theorem Turn.Settles.after {noted : List Event}
    (hturn : turn.Settles log live ws dev h now deviceId)
    (hturn' : turn.Settles (log ++ noted) live ws dev h now deviceId)
    (hnoted : ∀ event ∈ noted, event.aboutUpdate = false) :
    (turn.after noted).Settles log live ws dev h now deviceId where
  fits := by
    have hfits := hturn'.fits
    rw [List.append_assoc] at hfits
    exact hfits
  emits := hturn.emits.after hnoted
  entry := hturn.entry
  draft := hturn.draft
  started := hturn.started
  settling := hturn.settling

/-- Nobody is about to settle the entry, while no event is about updates. -/
theorem Rest.append {events : List Event} (hrest : Rest log live dev.selfUpdate)
    (hevents : ∀ event ∈ events, event.aboutUpdate = false) :
    Rest (log ++ events) live dev.selfUpdate :=
  ⟨fun e he => (hrest.idle e he).append (count_of_aboutUpdate hevents _), hrest.ticks⟩

/-- A `REGISTER` that is received is no such event. -/
theorem aboutUpdate_received (data : RegisterData) :
    ∀ event ∈ received data, event.aboutUpdate = false := by
  intro event hevent
  obtain ⟨d, -, rfl⟩ := aboutRetire_received hevent
  rfl

/-- After the `finally` block a handler settles nothing. -/
theorem settling_leave : (leave ws dev h).handler.settling = false := by
  rw [leave]
  split
  · rfl
  · simp only
    split
    · rfl
    · split <;> rfl

/-- The registration itself does nothing but to end a verification that it finds. -/
theorem settles_claimDevice (hrest : Rest log live dev.selfUpdate) (kind : IdentityKind)
    (version : Option Int) (saved : Bool) :
    (claimDevice ws dev h now kind deviceId version saved).Settles log live ws dev h now
      deviceId ∧
    (claimDevice ws dev h now kind deviceId version saved).handler.settling = false := by
  rw [claimDevice]
  split
  · exact ⟨.of_kept hrest rfl (by simp) (by simp) rfl (by simp [Handler.settling]), rfl⟩
  · have hleave : (leave ws
        { dev with
          connection := some { ws := ws, identityKind := kind, registrationReady := false }
          retired := some false }
        { h with
          provisional := false, deviceId := some deviceId, identityKind := some kind
          claim := now }).Settles log live ws _ _ now deviceId := settles_leave hrest
    refine ⟨?_, settling_leave⟩
    exact
      { fits := hleave.fits
        emits := hleave.emits
        entry := hleave.entry
        draft := hleave.draft
        started := hleave.started
        settling := fun hsettling => by
          rw [settling_leave] at hsettling
          exact absurd hsettling (by simp) }

end Turns

section TurnOf

variable {s : State} {ws : Socket} {h : Handler} {d : DeviceId} {label : Label} {turn : Turn}
  {live : Nat → Timer → Prop}

/-- **Every turn settles an update as it should.** -/
theorem TurnOf.settles (hturn : TurnOf s ws h d label turn)
    (hfits : Fits s.log live (s.devices d).selfUpdate h.point)
    (hcarries : ∀ answer, label = .resume ws answer → h.point.carriesOn answer = true)
    (hfresh : Unsettled s.log s.time)
    (hlt : ∀ e, (s.devices d).selfUpdate = some e → e.announcement < s.time) :
    turn.Settles s.log live ws (s.devices d) h s.time d := by
  cases hturn with
  | message message saved hreceive hown =>
    rw [hreceive] at hfits
    exact settles_handleOwn message hreceive hown hfits hfresh hlt
  | raise data saved hreceive hrequest =>
    rw [hreceive] at hfits
    have hrest : Rest s.log live (s.devices d).selfUpdate := hfits
    exact (settles_leave hrest).after (settles_leave (hrest.append (aboutUpdate_received data)))
      (aboutUpdate_received data)
  | close hreceive =>
    rw [hreceive] at hfits
    exact settles_leave hfits
  | resume answer => exact settles_resume answer hfits (hcarries answer rfl)

/-- A turn of a handler that is not the owner and is not about to settle anything. -/
theorem TurnOf.aside (hturn : TurnOf s ws h d label turn)
    (hown : (s.devices d).ownedBy ws = false) (hsettling : h.settling = false) :
    turn.device.selfUpdate = (s.devices d).selfUpdate ∧
    (∀ event ∈ turn.events, event.aboutUpdate = false) ∧ turn.started = none ∧
    turn.handler.settling = false := by
  have hleave : leave ws (s.devices d) h =
      { device := s.devices d, handler := { h with provisional := false }.at .closed } := by
    rw [leave]
    simp [hown]
  have hpoint : ∀ {point}, h.point = point → (h.at point).settling = false := by
    rintro point rfl
    exact hsettling
  cases hturn with
  | message message saved hreceive hown' =>
    rw [hown] at hown'
    exact absurd hown' (by simp)
  | raise data saved hreceive hrequest =>
    rw [hleave]
    exact ⟨rfl, by simpa [Turn.after] using aboutUpdate_received data, rfl, rfl⟩
  | close hreceive =>
    rw [hleave]
    exact ⟨rfl, by simp, rfl, rfl⟩
  | resume answer =>
    unfold Connections.resume
    split
    · exact ⟨rfl, by simp, rfl, rfl⟩
    · rw [if_neg (by simp [hown])]
      exact ⟨rfl, by simp, rfl, rfl⟩
    · rename_i heq
      exact absurd (hpoint heq) (by simp [Handler.settling])
    · rename_i heq
      exact absurd (hpoint heq) (by simp [Handler.settling])
    · rename_i heq
      exact absurd (hpoint heq) (by simp [Handler.settling])
    · rename_i heq
      exact absurd (hpoint heq) (by simp [Handler.settling])
    · rename_i heq
      exact absurd (hpoint heq) (by simp [Handler.settling])
    · rename_i heq
      exact absurd (hpoint heq) (by simp [Handler.settling])
    · split
      · exact ⟨rfl, by simp [teardown], rfl, rfl⟩
      · exact ⟨rfl, by simp, rfl, rfl⟩
    · exact ⟨rfl, by simp, rfl, rfl⟩
    · exact ⟨rfl, by simp, rfl, hsettling⟩
    · exact ⟨rfl, by simp, rfl, hsettling⟩
    · rw [hleave]
      exact ⟨rfl, by simp, rfl, rfl⟩

end TurnOf

end StylyMdm.Connections
