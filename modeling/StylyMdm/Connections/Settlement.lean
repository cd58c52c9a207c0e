import StylyMdm.Connections.SelfUpdates

/-!
# A self-update is settled at most once

The invariant of a run: at most one handler of a device is about to settle its self-update, and the
entry, the timers and the log fit to where this handler is (`Tracked`). Every announcement has its
device, so what is said of one device concerns no entry of another.

A handler is **acting** on a device when it is at one of the places of `Point.rests` where it has
told something and not yet cleared the entry, or is about to make one. That there is only one
(`Tracked.alone`) is what the condition of `SelfUpdateSafe` is for: no socket claims the device
while another one is acting on it, and the awaits of a handler that is acting end well. Both are
conditions on a step and the state before it.

`self_update_settles_once` counts the results and the verifications of every announcement in the
log of such a run. The two runs at the end are one in which an update is verified, and one in which
a second registration slips in and the update is settled twice.
-/

namespace StylyMdm.Connections

open Text Py
open Registry (IdentityKind RegisterData)

/-- The handler of the device is about to act on its self-update. -/
def State.Acting (s : State) (ws : Socket) (h : Handler) (d : DeviceId) : Prop :=
  s.handlers ws = some h ∧ h.deviceId = some d ∧ h.settling = true

/-- The timers of the self-updates of the device. -/
def State.live (s : State) (d : DeviceId) (t : Nat) (timer : Timer) : Prop :=
  s.timers t = some timer ∧ timer.deviceId = d ∧ timer.kind ≠ .retire

/-- No other socket registers for a device while a handler of the device is about to act on its
self-update, and a handler that has said the result goes on. -/
structure SelfUpdateSafe (s : State) (label : Label) : Prop where
  claims : ∀ ws data saved h kind d version, label = .message ws (.register data) saved →
    s.handlers ws = some h → h.request data = .claim kind d version → ∀ ws' h', ¬ s.Acting ws' h' d
  answers : ∀ ws answer h, label = .resume ws answer → s.handlers ws = some h →
    h.point.carriesOn answer = true

/-- The self-updates, with the device of each announcement. -/
structure Tracked (home : Nat → DeviceId) (s : State) : Prop where
  ordered : Ordered s.log
  fresh : ∀ a, s.time ≤ a → Unsettled s.log a
  timer_lt : ∀ t timer, s.timers t = some timer → t < s.time
  entry_home : ∀ d e, (s.devices d).selfUpdate = some e →
    e.announcement < s.time ∧ home e.announcement = d
  draft_home : ∀ ws h d draft, s.handlers ws = some h → h.deviceId = some d →
    h.point = .hashing draft → draft.announcement < s.time ∧ home draft.announcement = d
  alone : ∀ ws h ws' h' d, s.Acting ws h d → s.Acting ws' h' d → ws = ws'
  owner : ∀ ws h d c, s.Acting ws h d → (s.devices d).connection = some c → c.ws = ws
  fits : ∀ ws h d, s.Acting ws h d → Fits s.log (s.live d) (s.devices d).selfUpdate h.point
  rest : ∀ d, (∀ ws h, ¬ s.Acting ws h d) → Rest s.log (s.live d) (s.devices d).selfUpdate

/-- Nothing is tracked at the start. -/
theorem Tracked.initial (home : Nat → DeviceId) : Tracked home {} := by
  refine ⟨⟨?_, ?_, ?_, ?_⟩, ?_, ?_, ?_, ?_, ?_, ?_, ?_, ?_⟩
  · simp
  · simp
  · simp
  · simp
  · exact fun a _ => ⟨rfl, rfl⟩
  · simp
  · simp
  · simp
  · simp [State.Acting]
  · simp [State.Acting]
  · simp [State.Acting]
  · exact fun d _ => ⟨by simp, by simp [State.live]⟩

section Steps

variable {s s' : State} {home : Nat → DeviceId} {ws : Socket} {h : Handler} {d : DeviceId}
  {label : Label} {turn : Turn}

/-- A point at which a handler settles is one at which it is between test and act. -/
theorem Handler.settling_eq_false (hbetween : h.between = false) : h.settling = false := by
  rw [Handler.between] at hbetween
  rw [Handler.settling]
  split at hbetween <;> simp_all

/-- A step that leaves the self-updates and the handlers that act on them alone. -/
theorem Tracked.keep (hs : Tracked home s) {events : List Event} (hlog : s'.log = s.log ++ events)
    (hevents : ∀ event ∈ events, event.aboutUpdate = false) (htime : s.time ≤ s'.time)
    (htimers : ∀ t timer, s'.timers t = some timer → s.timers t = some timer)
    (hentry : ∀ d, (s'.devices d).selfUpdate = (s.devices d).selfUpdate)
    (hconnection : ∀ d c, (s'.devices d).connection = some c →
      ∃ c', (s.devices d).connection = some c' ∧ c'.ws = c.ws)
    (hacting : ∀ ws h d, s'.Acting ws h d ↔ s.Acting ws h d) : Tracked home s' := by
  have hcount := count_of_aboutUpdate hevents
  have hframe : ∀ d point, Fits s.log (s.live d) (s.devices d).selfUpdate point →
      Fits s'.log (s'.live d) (s'.devices d).selfUpdate point := by
    intro d point hfits
    rw [hlog, hentry]
    refine hfits.frame ?_ (fun e _ => hcount _) fun draft _ => hcount _
    rintro t timer ⟨htimer, hrest⟩
    exact ⟨htimers t timer htimer, hrest⟩
  refine ⟨?_, ?_, ?_, ?_, ?_, ?_, ?_, ?_, ?_⟩
  · rw [hlog]
    exact hs.ordered.append_nothing hevents
  · intro a ha
    rw [hlog]
    exact (hs.fresh a (htime.trans ha)).append (hcount a)
  · intro t timer htimer
    exact (hs.timer_lt t timer (htimers t timer htimer)).trans_le htime
  · intro d e he
    rw [hentry] at he
    exact ⟨(hs.entry_home d e he).1.trans_le htime, (hs.entry_home d e he).2⟩
  · intro ws h d draft hhandler hid hpoint
    obtain ⟨hhandler', -, -⟩ := (hacting ws h d).mp
      ⟨hhandler, hid, by rw [Handler.settling, hpoint]⟩
    have hdraft := hs.draft_home ws h d draft hhandler' hid hpoint
    exact ⟨hdraft.1.trans_le htime, hdraft.2⟩
  · intro ws h ws' h' d hact hact'
    exact hs.alone ws h ws' h' d ((hacting ws h d).mp hact) ((hacting ws' h' d).mp hact')
  · intro ws h d c hact hc
    obtain ⟨c', hc', hws⟩ := hconnection d c hc
    rw [← hws]
    exact hs.owner ws h d c' ((hacting ws h d).mp hact) hc'
  · intro ws h d hact
    exact hframe d h.point (hs.fits ws h d ((hacting ws h d).mp hact))
  · intro d hnone
    have hrest := hs.rest d fun ws h hact => hnone ws h ((hacting ws h d).mpr hact)
    exact hframe d .receive hrest

/-- A handler that moves from one place where it does not act to another. -/
theorem acting_iff_of_update {h' : Handler}
    (hhandlers : s'.handlers = Function.update s.handlers ws (some h'))
    (hbefore : ∀ h, s.handlers ws = some h → h.deviceId = none ∨ h.settling = false)
    (hafter : h'.settling = false) (ws' : Socket) (g : Handler) (d : DeviceId) :
    s'.Acting ws' g d ↔ s.Acting ws' g d := by
  constructor
  · rintro ⟨hg, hid, hsettling⟩
    rcases handler_cases hhandlers hg with ⟨rfl, rfl⟩ | ⟨-, hg'⟩
    · rw [hafter] at hsettling
      exact absurd hsettling (by simp)
    · exact ⟨hg', hid, hsettling⟩
  · rintro ⟨hg, hid, hsettling⟩
    refine ⟨?_, hid, hsettling⟩
    rw [hhandlers, Function.update_of_ne]
    · exact hg
    · rintro rfl
      rcases hbefore g hg with hnone | hnot
      · rw [hnone] at hid
        exact absurd hid (by simp)
      · rw [hnot] at hsettling
        exact absurd hsettling (by simp)

/-- The timers after a turn. -/
theorem live_apply {t : Nat} {timer : Timer} {d' : DeviceId}
    (hlive : (s.apply ws d turn).live d' t timer) :
    (t = s.time ∧ turn.started = some timer ∧ timer.deviceId = d' ∧ timer.kind ≠ .retire) ∨
    (s.live d' t timer ∧ t ∉ turn.cancelled) := by
  obtain ⟨htimer, hd', hkind⟩ := hlive
  simp only [State.apply] at htimer
  split at htimer
  · rename_i hnow
    exact .inl ⟨hnow.1, htimer, hd', hkind⟩
  · split at htimer
    · exact absurd htimer (by simp)
    · rename_i hcancelled
      exact .inr ⟨⟨htimer, hd', hkind⟩, hcancelled⟩

/-- A handler that settles nothing rests. -/
theorem Handler.rests_of_settling (hsettling : h.settling = false) : h.point.rests = true := by
  rw [Handler.settling] at hsettling
  rw [Point.rests.eq_def]
  split at hsettling <;> simp_all

/-- Fewer timers change nothing. -/
theorem Fits.mono {log : List Event} {live live' : Nat → Timer → Prop} {entry : Option SelfUpdate}
    {point : Point} (hfits : Fits log live entry point)
    (hlive : ∀ t timer, live' t timer → live t timer) : Fits log live' entry point := by
  have hframe : Fits (log ++ []) live' entry point := hfits.frame hlive (by simp) (by simp)
  rwa [List.append_nil] at hframe

/-- A turn of the only handler of the device that may act on its self-update. -/
theorem Tracked.move (hs : Tracked home s) (hhandler : s.handlers ws = some h)
    (hid : h.deviceId = some d ∨ (h.deviceId = none ∧ h.point = .receive))
    (hid' : turn.handler.deviceId = some d) (hothers : ∀ ws' h', s.Acting ws' h' d → ws' = ws)
    (hturn : turn.Settles s.log (s.live d) ws (s.devices d) h s.time d)
    (howner : turn.handler.settling = true → ∀ c, turn.device.connection = some c → c.ws = ws) :
    Tracked (Function.update home s.time d) (s.apply ws d turn) := by
  have hhome : ∀ {a}, a < s.time → Function.update home s.time d a = home a := by
    intro a ha
    exact Function.update_of_ne ha.ne _ _
  have hnow : Function.update home s.time d s.time = d := Function.update_self ..
  -- who acts after the turn
  have hacting : ∀ {ws' g d'}, (s.apply ws d turn).Acting ws' g d' →
      (ws' = ws ∧ g = turn.handler ∧ d' = d ∧ turn.handler.settling = true) ∨
        (d' ≠ d ∧ s.Acting ws' g d') := by
    rintro ws' g d' ⟨hg, hgid, hsettling⟩
    rcases handler_cases rfl hg with ⟨rfl, rfl⟩ | ⟨hne, hg'⟩
    · rw [hid', Option.some_inj] at hgid
      exact .inl ⟨rfl, rfl, hgid.symm, hsettling⟩
    · refine .inr ⟨?_, hg', hgid, hsettling⟩
      rintro rfl
      exact hne (hothers ws' g ⟨hg', hgid, hsettling⟩)
  have hacting' : ∀ {ws' g d'}, d' ≠ d → s.Acting ws' g d' →
    (s.apply ws d turn).Acting ws' g d' := by
    rintro ws' g d' hne ⟨hg, hgid, hsettling⟩
    refine ⟨?_, hgid, hsettling⟩
    rw [State.apply_handlers_of_ne]
    · exact hg
    · rintro rfl
      rw [hhandler, Option.some_inj] at hg
      subst hg
      rcases hid with hid | ⟨hnone, -⟩
      · rw [hid, Option.some_inj] at hgid
        exact hne hgid.symm
      · rw [hnone] at hgid
        exact absurd hgid (by simp)
  -- what is said concerns the entry of this device
  have hcount : ∀ {a}, a < s.time → home a ≠ d →
      turn.events.countP (Event.isResult a) = 0 ∧ turn.events.countP (Event.isVerified a) = 0 := by
    intro a ha hne
    refine hturn.emits.count fun e he heq => hne ?_
    rw [← heq]
    exact (hs.entry_home d e he).2
  -- the other devices
  have hframe : ∀ {d'}, d' ≠ d → ∀ point,
      (∀ draft, point = .hashing draft → draft.announcement < s.time ∧
        home draft.announcement = d') →
      Fits s.log (s.live d') (s.devices d').selfUpdate point →
      Fits (s.apply ws d turn).log ((s.apply ws d turn).live d')
        ((s.apply ws d turn).devices d').selfUpdate point := by
    intro d' hne point hdraft hfits
    rw [State.apply_log, State.apply_devices_of_ne _ _ _ _ hne]
    refine hfits.frame ?_ ?_ ?_
    · intro t timer hlive
      rcases live_apply hlive with ⟨-, hstarted, hd', -⟩ | ⟨hlive, -⟩
      · exact absurd (hd'.symm.trans (hturn.started timer hstarted)) hne
      · exact hlive
    · intro e he
      obtain ⟨hlt, hd'⟩ := hs.entry_home d' e he
      exact hcount hlt (hd' ▸ hne)
    · intro draft hpoint
      obtain ⟨hlt, hd'⟩ := hdraft draft hpoint
      exact hcount hlt (hd' ▸ hne)
  have hfits : Fits (s.apply ws d turn).log ((s.apply ws d turn).live d)
      ((s.apply ws d turn).devices d).selfUpdate turn.handler.point := by
    rw [State.apply_log, State.apply_devices_self]
    refine hturn.fits.mono fun t timer hlive => ?_
    exact (live_apply hlive).imp (fun hnew => ⟨hnew.1, hnew.2.1, hnew.2.2.2⟩) id
  refine ⟨?_, ?_, ?_, ?_, ?_, ?_, ?_, ?_, ?_⟩
  · exact hs.ordered.emits hturn.emits
  · intro a ha
    rw [State.apply_time] at ha
    refine (hs.fresh a (by omega)).append (hturn.emits.count fun e he heq => ?_)
    have hlt := (hs.entry_home d e he).1
    omega
  · intro t timer htimer
    rw [State.apply_time]
    simp only [State.apply] at htimer
    split at htimer
    · omega
    · split at htimer
      · exact absurd htimer (by simp)
      · have hlt := hs.timer_lt t timer htimer
        omega
  · intro d' e he
    rw [State.apply_time]
    rcases eq_or_ne d' d with rfl | hne
    · rw [State.apply_devices_self] at he
      rcases hturn.entry e he with heq | ⟨e', he', heq⟩ | ⟨draft, hpoint, heq⟩
      · rw [heq]
        exact ⟨by omega, hnow⟩
      · obtain ⟨hlt, hd'⟩ := hs.entry_home d' e' he'
        rw [← heq, hhome hlt]
        exact ⟨by omega, hd'⟩
      · rcases hid with hid | ⟨-, hreceive⟩
        · obtain ⟨hlt, hd'⟩ := hs.draft_home ws h d' draft hhandler hid hpoint
          rw [← heq, hhome hlt]
          exact ⟨by omega, hd'⟩
        · rw [hreceive] at hpoint
          exact absurd hpoint (by simp)
    · rw [State.apply_devices_of_ne _ _ _ _ hne] at he
      obtain ⟨hlt, hd'⟩ := hs.entry_home d' e he
      rw [hhome hlt]
      exact ⟨by omega, hd'⟩
  · intro ws' g d' draft hg hgid hpoint
    rw [State.apply_time]
    rcases handler_cases rfl hg with ⟨rfl, rfl⟩ | ⟨-, hg'⟩
    · rw [hid', Option.some_inj] at hgid
      rw [hturn.draft draft hpoint, ← hgid]
      exact ⟨by omega, hnow⟩
    · obtain ⟨hlt, hd'⟩ := hs.draft_home ws' g d' draft hg' hgid hpoint
      rw [hhome hlt]
      exact ⟨by omega, hd'⟩
  · intro ws₁ g₁ ws₂ g₂ d' hact₁ hact₂
    rcases hacting hact₁ with ⟨rfl, -, rfl, -⟩ | ⟨hne₁, hact₁⟩
    · rcases hacting hact₂ with ⟨rfl, -, -, -⟩ | ⟨hne₂, -⟩
      · rfl
      · exact absurd rfl hne₂
    · rcases hacting hact₂ with ⟨-, -, rfl, -⟩ | ⟨-, hact₂⟩
      · exact absurd rfl hne₁
      · exact hs.alone ws₁ g₁ ws₂ g₂ d' hact₁ hact₂
  · intro ws' g d' c hact hc
    rcases hacting hact with ⟨rfl, -, rfl, hsettling⟩ | ⟨hne, hact⟩
    · rw [State.apply_devices_self] at hc
      exact howner hsettling c hc
    · rw [State.apply_devices_of_ne _ _ _ _ hne] at hc
      exact hs.owner ws' g d' c hact hc
  · intro ws' g d' hact
    rcases hacting hact with ⟨-, rfl, rfl, -⟩ | ⟨hne, hact⟩
    · exact hfits
    · refine hframe hne g.point (fun draft hpoint => ?_) (hs.fits ws' g d' hact)
      exact hs.draft_home ws' g d' draft hact.1 hact.2.1 hpoint
  · intro d' hnone
    rcases eq_or_ne d' d with rfl | hne
    · have hsettling : turn.handler.settling = false := by
        by_contra hsettling
        exact hnone ws turn.handler
          ⟨State.apply_handlers_self .., hid', by simpa using hsettling⟩
      exact (fits_iff_rest (Handler.rests_of_settling hsettling)).mp hfits
    · have hrest := hs.rest d' fun ws' g hact => hnone ws' g (hacting' hne hact)
      exact hframe hne .receive (by simp) hrest

/-- A turn of a handler, whoever acts on the self-update of its device. -/
theorem Tracked.turned (hs : Tracked home s) (hhandler : s.handlers ws = some h)
    (hid : h.deviceId = some d) (hturn : TurnOf s ws h d label turn)
    (hcarries : ∀ answer, label = .resume ws answer → h.point.carriesOn answer = true) :
    ∃ home', Tracked home' (s.apply ws d turn) := by
  have horderly := hturn.orderly
  have hid' : turn.handler.deviceId = some d := horderly.deviceId.trans hid
  by_cases hothers : ∀ ws' h', s.Acting ws' h' d → ws' = ws
  · have hfits : Fits s.log (s.live d) (s.devices d).selfUpdate h.point := by
      by_cases hsettling : h.settling = true
      · exact hs.fits ws h d ⟨hhandler, hid, hsettling⟩
      · have hnot : h.settling = false := by simpa using hsettling
        rw [fits_iff_rest (Handler.rests_of_settling hnot)]
        refine hs.rest d fun ws' h' hact => ?_
        have hws := hothers ws' h' hact
        subst hws
        obtain ⟨hh', -, hsettling'⟩ := hact
        rw [hhandler, Option.some_inj] at hh'
        exact hsettling (hh' ▸ hsettling')
    have hsettles := hturn.settles hfits hcarries (hs.fresh _ le_rfl)
      fun e he => (hs.entry_home d e he).1
    refine ⟨_, hs.move hhandler (.inl hid) hid' hothers hsettles fun hsettling c hc => ?_⟩
    obtain ⟨c', hc', hws⟩ := horderly.connection c hc
    rw [← hws]
    rcases hsettles.settling hsettling with hown | hbefore
    · obtain ⟨c'', hc'', hws''⟩ := Device.ownedBy_iff.mp hown
      rw [hc', Option.some_inj] at hc''
      rw [hc'', hws'']
    · exact hs.owner ws h d c' ⟨hhandler, hid, hbefore⟩ hc'
  · -- another handler acts, so this one is superseded
    push Not at hothers
    obtain ⟨ws', h', hact', hne⟩ := hothers
    have hnot : h.settling = false := by
      by_contra hsettling
      exact hne (hs.alone ws' h' ws h d hact' ⟨hhandler, hid, by simpa using hsettling⟩)
    have hown : (s.devices d).ownedBy ws = false := by
      rw [Bool.eq_false_iff]
      intro hown
      obtain ⟨c, hc, hws⟩ := Device.ownedBy_iff.mp hown
      exact hne ((hs.owner ws' h' d c hact' hc).symm.trans hws)
    obtain ⟨hentry, hevents, hstarted, hafter⟩ := hturn.aside hown hnot
    refine ⟨home, hs.keep rfl hevents (Nat.le_succ _) ?_ ?_ ?_ ?_⟩
    · intro t timer htimer
      simp only [State.apply, hstarted, Option.isSome_none, Bool.false_eq_true, and_false,
        if_false] at htimer
      split at htimer
      · exact absurd htimer (by simp)
      · exact htimer
    · intro d'
      rcases eq_or_ne d' d with rfl | hdevice
      · rw [State.apply_devices_self, hentry]
      · rw [State.apply_devices_of_ne _ _ _ _ hdevice]
    · intro d' c hc
      rcases eq_or_ne d' d with rfl | hdevice
      · rw [State.apply_devices_self] at hc
        exact horderly.connection c hc
      · rw [State.apply_devices_of_ne _ _ _ _ hdevice] at hc
        exact ⟨c, hc, rfl⟩
    · refine acting_iff_of_update rfl (fun g hg => ?_) hafter
      rw [hhandler, Option.some_inj] at hg
      exact .inr (hg ▸ hnot)

/-- A socket claims a device on whose self-update nobody acts. -/
theorem Tracked.claimed (hs : Tracked home s) {data : RegisterData} {saved : Bool}
    {kind : IdentityKind} {version : Option Int} (hhandler : s.handlers ws = some h)
    (hreceive : h.point = .receive) (hrequest : h.request data = .claim kind d version)
    (hnone : ∀ ws' h', ¬ s.Acting ws' h' d) :
    ∃ home', Tracked home' (s.apply ws d
      ((claimDevice ws (s.devices d) h s.time kind d version saved).after (received data))) := by
  have hrest := hs.rest d hnone
  have hnoted := aboutUpdate_received data
  have hclaims := claims_claimDevice ws (s.devices d) h s.time kind d version saved
  obtain ⟨hsettles, hafter⟩ :=
    @settles_claimDevice s.log (s.live d) ws (s.devices d) h s.time d hrest kind version saved
  obtain ⟨hsettles', -⟩ := @settles_claimDevice (s.log ++ received data) (s.live d) ws
    (s.devices d) h s.time d (hrest.append hnoted) kind version saved
  refine ⟨_, hs.move hhandler (.inr ⟨(Handler.request_eq_claim hrequest).1, hreceive⟩)
    hclaims.deviceId (fun ws' h' hact => absurd hact (hnone ws' h'))
    (hsettles.after hsettles' hnoted) fun hsettling => ?_⟩
  exact absurd hsettling (by simpa [Turn.after] using hafter)

/-- The timer of a retire leaves the self-update alone. -/
theorem selfUpdate_fire_retire (dev : Device) {timer : Timer} (saved : Bool)
    (hkind : timer.kind = .retire) :
    (fire dev timer saved).1.selfUpdate = dev.selfUpdate ∧
    ∀ event ∈ (fire dev timer saved).2, event.aboutUpdate = false := by
  unfold fire
  rw [hkind]
  simp only
  split
  · exact ⟨rfl, by simp⟩
  · split
    · exact ⟨rfl, by simp⟩
    · split
      · exact ⟨rfl, by simp [Event.aboutUpdate]⟩
      · split
        · exact ⟨rfl, by simp [Event.aboutUpdate]⟩
        · refine ⟨rfl, ?_⟩
          cases saved <;> simp [Event.aboutUpdate]

/-- The timer of an entry that nobody is about to settle settles it. -/
theorem selfUpdate_fire {log : List Event} {dev : Device} {e : SelfUpdate} {t : Nat} {timer : Timer}
    (saved : Bool) (hentry : dev.selfUpdate = some e) (hidle : Idle log e)
    (hticks : Ticks e t timer) :
    (fire dev timer saved).1.selfUpdate = none ∧
    Emits log dev.selfUpdate (fire dev timer saved).2 := by
  unfold fire
  rcases hticks.phase with ⟨hkind, hphase⟩ | ⟨hkind, hphase⟩
  · rw [Idle, hphase] at hidle
    simp only [hkind, hentry]
    rw [if_pos ⟨hticks.correlationId.symm, hphase⟩]
    exact ⟨rfl, .result [] e _ (by simp) rfl hidle⟩
  · rw [Idle, hphase] at hidle
    simp only [hkind, hentry]
    rw [if_pos ⟨hticks.correlationId.symm, hphase⟩]
    exact ⟨rfl, .verified [] e (by simp) rfl hidle⟩

/-- Nobody is about to settle an entry that has a live timer. -/
theorem Tracked.rests_of_live (hs : Tracked home s) {t : Nat} {timer : Timer}
    (hlive : s.live d t timer) (hact : s.Acting ws h d) : h.point.rests = true := by
  have hfits := hs.fits ws h d hact
  cases hpoint : h.point with
  | hashing draft =>
    rw [hpoint] at hfits
    exact absurd hlive (Hashing.quiet hfits t timer)
  | resultSent e success =>
    rw [hpoint] at hfits
    exact absurd hlive (Settling.quiet hfits t timer)
  | installStateSent e success =>
    rw [hpoint] at hfits
    exact absurd hlive (Settling.quiet hfits t timer)
  | verifySending e =>
    rw [hpoint] at hfits
    exact absurd hlive (Settling.quiet hfits t timer)
  | _ => rfl

/-- While the timer of a device is live nothing is being settled. -/
theorem Tracked.rest_of_live (hs : Tracked home s) {t : Nat} {timer : Timer}
    (hlive : s.live d t timer) : Rest s.log (s.live d) (s.devices d).selfUpdate := by
  by_cases hact : ∃ ws h, s.Acting ws h d
  · obtain ⟨ws, h, hact⟩ := hact
    exact (fits_iff_rest (hs.rests_of_live hlive hact)).mp (hs.fits ws h d hact)
  · push Not at hact
    exact hs.rest d hact

/-- A timer of a self-update fires. -/
theorem Tracked.fired (hs : Tracked home s) {t : Nat} {timer : Timer} (saved : Bool)
    (hlive : s.live d t timer) (hlog : s'.log = s.log ++ (fire (s.devices d) timer saved).2)
    (htime : s'.time = s.time + 1) (hhandlers : s'.handlers = s.handlers)
    (htimers : s'.timers = Function.update s.timers t none)
    (hdevices : s'.devices = Function.update s.devices d (fire (s.devices d) timer saved).1) :
    Tracked home s' := by
  have hrest := hs.rest_of_live hlive
  obtain ⟨e, hentry, hticks⟩ := hrest.ticks t timer hlive
  obtain ⟨hnone, hemits⟩ := selfUpdate_fire saved hentry (hrest.idle e hentry) hticks
  have hself : s'.devices d = (fire (s.devices d) timer saved).1 := by
    rw [hdevices, Function.update_self]
  have hother : ∀ {d'}, d' ≠ d → s'.devices d' = s.devices d' := by
    intro d' hne
    rw [hdevices, Function.update_of_ne hne]
  have hconnection : ∀ d', (s'.devices d').connection = (s.devices d').connection := by
    intro d'
    rcases eq_or_ne d' d with rfl | hne
    · rw [hself, connection_fire]
    · rw [hother hne]
  have hacting : ∀ {ws' g d'}, s'.Acting ws' g d' ↔ s.Acting ws' g d' := by
    intro ws' g d'
    rw [State.Acting, State.Acting, hhandlers]
  have hsub : ∀ {t' timer'}, s'.timers t' = some timer' → t' ≠ t ∧ s.timers t' = some timer' := by
    intro t' timer' htimer'
    rw [htimers] at htimer'
    rcases eq_or_ne t' t with rfl | hne
    · rw [Function.update_self] at htimer'
      exact absurd htimer' (by simp)
    · rw [Function.update_of_ne hne] at htimer'
      exact ⟨hne, htimer'⟩
  -- the entry is gone, and with it its only timer
  have hgone : Rest s'.log (s'.live d) (s'.devices d).selfUpdate := by
    rw [hself, hnone]
    refine ⟨by simp, ?_⟩
    rintro t' timer' ⟨htimer', hrest'⟩
    obtain ⟨hne, htimer'⟩ := hsub htimer'
    obtain ⟨e', hentry', hticks'⟩ := hrest.ticks t' timer' ⟨htimer', hrest'⟩
    rw [hentry, Option.some_inj] at hentry'
    have htask := hticks'.task
    rw [← hentry', hticks.task, Option.some_inj] at htask
    exact absurd htask.symm hne
  have hcount : ∀ {a}, home a ≠ d →
      (fire (s.devices d) timer saved).2.countP (Event.isResult a) = 0 ∧
      (fire (s.devices d) timer saved).2.countP (Event.isVerified a) = 0 := by
    intro a hne
    refine hemits.count fun e' he' heq => hne ?_
    rw [← heq]
    exact (hs.entry_home d e' he').2
  have hframe : ∀ {d'}, d' ≠ d → ∀ point,
      (∀ draft, point = .hashing draft → home draft.announcement = d') →
      Fits s.log (s.live d') (s.devices d').selfUpdate point →
      Fits s'.log (s'.live d') (s'.devices d').selfUpdate point := by
    intro d' hne point hdraft hfits
    rw [hlog, hother hne]
    refine hfits.frame ?_ ?_ ?_
    · rintro t' timer' ⟨htimer', hrest'⟩
      exact ⟨(hsub htimer').2, hrest'⟩
    · intro e' he'
      exact hcount ((hs.entry_home d' e' he').2 ▸ hne)
    · intro draft hpoint
      exact hcount (hdraft draft hpoint ▸ hne)
  refine ⟨?_, ?_, ?_, ?_, ?_, ?_, ?_, ?_, ?_⟩
  · rw [hlog]
    exact hs.ordered.emits hemits
  · intro a ha
    rw [hlog]
    refine (hs.fresh a (by omega)).append (hemits.count fun e' he' heq => ?_)
    have hlt := (hs.entry_home d e' he').1
    omega
  · intro t' timer' htimer'
    have hlt := hs.timer_lt t' timer' (hsub htimer').2
    omega
  · intro d' e' he'
    rcases eq_or_ne d' d with rfl | hne
    · rw [hself, hnone] at he'
      exact absurd he' (by simp)
    · rw [hother hne] at he'
      obtain ⟨hlt, hd'⟩ := hs.entry_home d' e' he'
      exact ⟨by omega, hd'⟩
  · intro ws' g d' draft hg hgid hpoint
    obtain ⟨hlt, hd'⟩ := hs.draft_home ws' g d' draft (hhandlers ▸ hg) hgid hpoint
    exact ⟨by omega, hd'⟩
  · intro ws₁ g₁ ws₂ g₂ d' hact₁ hact₂
    exact hs.alone ws₁ g₁ ws₂ g₂ d' (hacting.mp hact₁) (hacting.mp hact₂)
  · intro ws' g d' c hact hc
    exact hs.owner ws' g d' c (hacting.mp hact) (hconnection d' ▸ hc)
  · intro ws' g d' hact
    have hact' := hacting.mp hact
    rcases eq_or_ne d' d with rfl | hne
    · exact (fits_iff_rest (hs.rests_of_live hlive hact')).mpr hgone
    · refine hframe hne g.point (fun draft hpoint => ?_) (hs.fits ws' g d' hact')
      exact (hs.draft_home ws' g d' draft hact'.1 hact'.2.1 hpoint).2
  · intro d' hno
    rcases eq_or_ne d' d with rfl | hne
    · exact hgone
    · have hrest' := hs.rest d' fun ws' g hact => hno ws' g (hacting.mpr hact)
      exact hframe hne .receive (by simp) hrest'

/-- A restart forgets the timers and the handlers. -/
theorem Tracked.restarted (hs : Tracked home s) (registry : DeviceId → Option Bool) :
    Tracked home
      { devices := fun deviceId => { retired := registry deviceId }
        log := s.log
        time := s.time + 1 } where
  ordered := hs.ordered
  fresh a ha := hs.fresh a (Nat.le_of_succ_le ha)
  timer_lt := by simp
  entry_home := by simp
  draft_home := by simp
  alone := by simp [State.Acting]
  owner := by simp [State.Acting]
  fits := by simp [State.Acting]
  rest := fun d _ => ⟨by simp, by simp [State.live]⟩

/-- **A safe step keeps the invariant**, perhaps with a timer of its own. -/
theorem Tracked.step (hs : Tracked home s) (hsafe : SelfUpdateSafe s label) :
    ∃ home', Tracked home' (s.step label) := by
  have hhappens := step_happens s label
  generalize s.step label = s' at hhappens
  have hsame : ∀ {dev : Device} {d' : DeviceId}, dev.selfUpdate = (s.devices d').selfUpdate →
      ∀ d, (Function.update s.devices d' dev d).selfUpdate = (s.devices d).selfUpdate := by
    intro dev d' hdev d
    rcases eq_or_ne d d' with rfl | hne
    · rw [Function.update_self, hdev]
    · rw [Function.update_of_ne hne]
  have hconnection : ∀ {dev : Device} {d' : DeviceId},
      dev.connection = (s.devices d').connection →
      ∀ d c, (Function.update s.devices d' dev d).connection = some c →
        ∃ c', (s.devices d).connection = some c' ∧ c'.ws = c.ws := by
    intro dev d' hdev d c hc
    rcases eq_or_ne d d' with rfl | hne
    · rw [Function.update_self, hdev] at hc
      exact ⟨c, hc, rfl⟩
    · rw [Function.update_of_ne hne] at hc
      exact ⟨c, hc, rfl⟩
  cases hhappens with
  | nothing => exact ⟨home, hs⟩
  | connected ws remote hnew =>
    refine ⟨home, hs.keep rfl (by simp) (Nat.le_succ _) (fun _ _ => id) (fun _ => rfl)
      (fun _ c hc => ⟨c, hc, rfl⟩) (acting_iff_of_update rfl (fun g hg => ?_) rfl)⟩
    rw [hnew] at hg
    exact absurd hg (by simp)
  | parked _ ws h h' events hsocket hhandler hid hclaim hbefore hafter hclosed hevents =>
    refine ⟨home, hs.keep rfl (fun event hevent => ?_) (Nat.le_succ _) (fun _ _ => id)
      (fun _ => rfl) (fun _ c hc => ⟨c, hc, rfl⟩)
      (acting_iff_of_update rfl (fun g hg => ?_) (Handler.settling_eq_false hafter.1))⟩
    · obtain ⟨data, saved, -, -, hreceived, -⟩ := hevents event hevent
      exact aboutUpdate_received data event hreceived
    · rw [hhandler, Option.some_inj] at hg
      subst hg
      rcases hbefore with hreceive | hnone
      · exact .inr (by rw [Handler.settling, hreceive])
      · exact .inl hnone
  | turned _ ws h d turn hhandler hid hturn =>
    exact hs.turned hhandler hid hturn fun answer hlabel =>
      hsafe.answers ws answer h hlabel hhandler
  | claimed ws data saved h kind d version hhandler hreceive hrequest =>
    exact hs.claimed hhandler hreceive hrequest
      (hsafe.claims ws data saved h kind d version rfl hhandler hrequest)
  | fired t saved timer htimer =>
    by_cases hkind : timer.kind = .retire
    · obtain ⟨hentry, hevents⟩ := selfUpdate_fire_retire (s.devices timer.deviceId) saved hkind
      refine ⟨home, hs.keep rfl hevents (Nat.le_succ _) (fun t' timer' htimer' => ?_)
        (hsame hentry) (hconnection (connection_fire _ timer saved)) fun _ _ _ => Iff.rfl⟩
      rcases eq_or_ne t' t with rfl | hne
      · simp only [Function.update_self] at htimer'
        exact absurd htimer' (by simp)
      · simpa only [Function.update_of_ne hne] using htimer'
    · exact ⟨home, hs.fired saved ⟨htimer, rfl, hkind⟩ rfl rfl rfl rfl rfl⟩
  | forgotten d hoffline =>
    refine ⟨home, hs.keep (List.append_nil _).symm (by simp) (Nat.le_succ _)
      (fun t timer htimer => ?_) (hsame rfl) (hconnection rfl) fun _ _ _ => Iff.rfl⟩
    simp only at htimer
    split at htimer
    · exact absurd htimer (by simp)
    · exact htimer
  | transferred _ d dispatch transfers hsocket =>
    exact ⟨home, hs.keep (List.append_nil _).symm (by simp) (Nat.le_succ _) (fun _ _ => id)
      (hsame rfl) (hconnection rfl) fun _ _ _ => Iff.rfl⟩
  | restarted registry => exact ⟨home, hs.restarted registry⟩

end Steps

/-! ### Older announcements -/

/-- The announcement that a handler is about to settle or to make. -/
def Point.announcement? : Point → Option Nat
  | .hashing draft => some draft.announcement
  | .resultSent e _ => some e.announcement
  | .installStateSent e _ => some e.announcement
  | .verifySending e => some e.announcement
  | _ => none

/-- The announcement that a step belongs to. -/
def State.belongsTo (s : State) : Label → Option Nat
  | .resume ws _ => (s.handlers ws).bind fun h => h.point.announcement?
  | .fire t _ => (s.timers t).bind fun timer =>
      if timer.kind = .retire then none else some timer.announcement
  | _ => none

section Older

variable {s : State} {home : Nat → DeviceId} {ws : Socket} {h : Handler} {d : DeviceId} {a : Nat}
  {e : SelfUpdate}

/-- A handler with an announcement settles it. -/
theorem Handler.settling_of_announcement (ha : h.point.announcement? = some a) :
    h.settling = true := by
  rw [Point.announcement?.eq_def] at ha
  rw [Handler.settling]
  split at ha <;> simp_all

/-- The entry of a device is not newer than what its handler is about to settle or to make. -/
theorem Tracked.announcement_le (hs : Tracked home s) (hhandler : s.handlers ws = some h)
    (hid : h.deviceId = some d) (ha : h.point.announcement? = some a)
    (he : (s.devices d).selfUpdate = some e) : e.announcement ≤ a := by
  have hfits := hs.fits ws h d ⟨hhandler, hid, Handler.settling_of_announcement ha⟩
  have hsettled : ∀ {e' : SelfUpdate} {phase success},
      Settling s.log (s.live d) (s.devices d).selfUpdate e' phase success →
      some e'.announcement = some a → e.announcement ≤ a := by
    intro e' phase success hsettling heq
    obtain ⟨current, hcurrent, hann, -⟩ := hsettling.entry
    rw [he, Option.some_inj] at hcurrent
    rw [Option.some_inj] at heq
    rw [hcurrent, hann, heq]
  cases hpoint : h.point with
  | hashing draft =>
    rw [hpoint] at hfits ha
    have hlt := Hashing.older hfits e he
    have heq : draft.announcement = a := Option.some_inj.mp ha
    omega
  | resultSent e' success =>
    rw [hpoint] at hfits ha
    exact hsettled hfits ha
  | installStateSent e' success =>
    rw [hpoint] at hfits ha
    exact hsettled hfits ha
  | verifySending e' =>
    rw [hpoint] at hfits ha
    exact hsettled hfits ha
  | _ =>
    rw [hpoint] at ha
    exact absurd ha (by simp [Point.announcement?])

/-- A step that belongs to an older announcement leaves the entry of a newer one alone. -/
theorem Tracked.newer (hs : Tracked home s) {label : Label} (ha : s.belongsTo label = some a)
    (he : (s.devices d).selfUpdate = some e) (hlt : a < e.announcement) :
    ((s.step label).devices d).selfUpdate = some e := by
  have hhappens := step_happens s label
  generalize s.step label = s' at hhappens
  cases hhappens with
  | nothing => exact he
  | connected => exact he
  | parked => exact he
  | turned _ ws h d' turn hhandler hid hturn =>
    cases hturn with
    | message => exact absurd ha (by simp [State.belongsTo])
    | raise => exact absurd ha (by simp [State.belongsTo])
    | close => exact absurd ha (by simp [State.belongsTo])
    | resume answer =>
      rw [State.belongsTo, hhandler, Option.bind_some] at ha
      rcases eq_or_ne d d' with rfl | hne
      · have hle := hs.announcement_le hhandler hid ha he
        omega
      · rw [State.apply_devices_of_ne _ _ _ _ hne]
        exact he
  | claimed => exact absurd ha (by simp [State.belongsTo])
  | fired t saved timer htimer =>
    rw [State.belongsTo, htimer, Option.bind_some] at ha
    split at ha
    · exact absurd ha (by simp)
    · rename_i hkind
      rw [Option.some_inj] at ha
      rcases eq_or_ne d timer.deviceId with rfl | hne
      · have hlive : s.live timer.deviceId t timer := ⟨htimer, rfl, hkind⟩
        obtain ⟨e', he', hticks⟩ := (hs.rest_of_live hlive).ticks t timer hlive
        rw [he, Option.some_inj] at he'
        have hann := hticks.announcement
        rw [← he'] at hann
        omega
      · simp only [Function.update_of_ne hne]
        exact he
  | forgotten => exact absurd ha (by simp [State.belongsTo])
  | transferred _ d' dispatch transfers hsocket =>
    rcases eq_or_ne d d' with rfl | hne
    · simp only [Function.update_self]
      exact he
    · simp only [Function.update_of_ne hne]
      exact he
  | restarted => exact absurd ha (by simp [State.belongsTo])

end Older

/-- As long as no other socket registers for a device between a handler's look at its self-update
and what it does because of it, and no handler is stopped after it has said the result, every
announced update has at most one result and at most one verification, the verification after a
success; no handler fails to find the entry; and a step that belongs to an older announcement leaves
the entry of a newer one alone. -/
theorem self_update_settles_once (labels : List Label)
    (hsafe : Run.Along State.step SelfUpdateSafe {} labels) :
    (∀ a, (Run.exec State.step {} labels).log.countP (Event.isResult a) ≤ 1) ∧
    (∀ a, (Run.exec State.step {} labels).log.countP (Event.isVerified a) ≤ 1) ∧
    (∀ before after a,
      (Run.exec State.step {} labels).log = before ++ .selfUpdateVerified a :: after →
      .selfUpdateResult a .success ∈ before) ∧
    .keyError ∉ (Run.exec State.step {} labels).log ∧
    ∀ label a d e, (Run.exec State.step {} labels).belongsTo label = some a →
      ((Run.exec State.step {} labels).devices d).selfUpdate = some e → a < e.announcement →
      (((Run.exec State.step {} labels).step label).devices d).selfUpdate = some e := by
  obtain ⟨home, hs⟩ : ∃ home, Tracked home (Run.exec State.step {} labels) := by
    refine hsafe.invariant (I := fun s => ∃ home, Tracked home s) ?_
      ⟨fun _ => [], Tracked.initial _⟩
    rintro s label ⟨home, hs⟩ hstep
    exact hs.step hstep
  refine ⟨hs.ordered.result_once, hs.ordered.verified_once, hs.ordered.succeeded,
    hs.ordered.keyError, ?_⟩
  intro label a d e ha he hlt
  exact hs.newer ha he hlt

/-! ### Two runs -/

/-- The condition, tested for the sockets below a bound. -/
def safeBelow (n : Nat) (s : State) : Label → Bool
  | .message _ (.register _) _ => decide (∀ ws < n, (s.handlers ws).all fun h => !h.settling)
  | .resume ws answer => (s.handlers ws).all fun h => h.point.carriesOn answer
  | _ => true

/-- A run with few sockets is safe when the decidable test says so. -/
theorem selfUpdateSafe_of_below {labels : List Label} (n : Nat)
    (hconnects : ∀ label ∈ labels, connectsBelow n label = true)
    (hbelow : Run.Along State.step (fun s label => safeBelow n s label = true) {} labels) :
    Run.Along State.step SelfUpdateSafe {} labels := by
  refine Run.along_of_prefix fun before label after hlabels => ?_
  rw [hlabels, Run.along_append, Run.along_cons] at hbelow
  have hsafe := hbelow.2.1
  have hbound : ∀ ws, n ≤ ws → (Run.exec State.step {} before).handlers ws = none :=
    fun ws hws => handlers_exec_eq_none
      (fun label' hlabel' => hconnects label' (by simp [hlabels, hlabel'])) hws
  constructor
  · rintro ws data saved h kind d version rfl hhandler hrequest ws' h' ⟨hhandler', -, hsettling⟩
    rcases Nat.lt_or_ge ws' n with hlt | hge
    · have hall := of_decide_eq_true hsafe ws' hlt
      rw [hhandler'] at hall
      simp [hsettling] at hall
    · rw [hbound ws' hge] at hhandler'
      exact absurd hhandler' (by simp)
  · rintro ws answer h rfl hhandler
    rw [safeBelow, hhandler] at hsafe
    simpa using hsafe

/-- The check of the installed APK is answered. -/
def updatedAndVerified : List Label :=
  updatedAndVerifying ++ [.message 1 (.verifyApkResult (.str (ofString "app"))) true]

/-- The run of an update that is verified. -/
theorem self_update_settles_once_verified :
    (Run.exec State.step {} updatedAndVerified).log =
      [.registerReceived sampleId, .registerReceived sampleId, .selfUpdateResult 5 .success] ++
        .selfUpdateVerified 5 :: [] ∧
    Event.selfUpdateResult 5 .success ∈
      [Event.registerReceived sampleId, .registerReceived sampleId,
        .selfUpdateResult 5 .success] := by
  have hlog : (Run.exec State.step {} updatedAndVerified).log =
      [.registerReceived sampleId, .registerReceived sampleId, .selfUpdateResult 5 .success] ++
        .selfUpdateVerified 5 :: [] := by decide +kernel
  have hsafe : Run.Along State.step SelfUpdateSafe {} updatedAndVerified :=
    selfUpdateSafe_of_below 2 (by decide) (by decide +kernel)
  exact ⟨hlog, (self_update_settles_once updatedAndVerified hsafe).2.2.1 _ _ 5 hlog⟩

/-- A device comes back from a self-update with its old version, and registers again while the
admins are told. -/
def registeredWhileSettling : List Label :=
  [.connect 0 none, .message 0 (registerSample 1) true, .resume 0 completed, .resume 0 completed,
    .dispatched sampleId { fullSha256 := some (ofString "5e") },
    .message 0 (.selfUpdateStarting (.str (ofString "c")) (.int 2) (.str (ofString "app"))) true,
    .resume 0 completed, .close 0,
    .connect 1 none, .message 1 (registerSample 1) true, .resume 1 completed,
    .connect 2 none, .message 2 (registerSample 1) true, .resume 2 completed,
    .resume 1 completed, .resume 1 completed, .resume 2 completed, .resume 2 completed]

/-- The update has two results, and the second handler does not find the entry. -/
theorem self_update_settled_twice :
    (Run.exec State.step {} registeredWhileSettling).log.countP (Event.isResult 5) = 2 ∧
    .keyError ∈ (Run.exec State.step {} registeredWhileSettling).log := by
  decide +kernel

end StylyMdm.Connections
