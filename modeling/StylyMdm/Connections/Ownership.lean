import StylyMdm.Connections.Steps

/-!
# Which socket a device belongs to

The newest `REGISTER` owns the device. A handler tests its ownership once and acts on it after the
awaits that follow: while the admins are told that a retire or a self-update is settled, while an
APK is hashed, and in the `finally` block, before it deletes the registration. As long as no other
socket registers for the device during these awaits, a superseded socket changes nothing of it
(`Owned.superseded`). What the same sockets do in the push runtime is in `PushOwnership`.

Handlers are compared by the time of their claim, a number that grows with every step. `Owned` is
the invariant:

* claims are in the past and no two handlers have the same one;
* the registration of a device is that of its newest handler (`owner`), and the newest handler has
  the registration until it is closed (`kept`);
* a handler that is between a test and what it does because of it is the newest (`between`). This is
  the part that a `REGISTER` of another socket breaks, and the only one that needs the condition
  (`Undisturbed`).

A superseded handler is not the newest, so it neither owns the device nor is between, and by
`Turn.Orderly` its turns leave the device as it was.
-/

namespace StylyMdm.Connections

open Text Py
open Registry (IdentityKind RegisterData)

/-- No handler has claimed the device after this step. -/
def State.Newest (s : State) (deviceId : DeviceId) (claim : Nat) : Prop :=
  ∀ ws h, s.handlers ws = some h → h.deviceId = some deviceId → h.claim ≤ claim

/-- The device belongs to the handler that has claimed it last. -/
structure Owned (s : State) : Prop where
  claim_lt : ∀ ws h d, s.handlers ws = some h → h.deviceId = some d → h.claim < s.time
  claim_inj : ∀ ws h ws' h' d, s.handlers ws = some h → h.deviceId = some d →
    s.handlers ws' = some h' → h'.deviceId = some d → h.claim = h'.claim → ws = ws'
  owner : ∀ d c, (s.devices d).connection = some c →
    ∃ h, s.handlers c.ws = some h ∧ h.deviceId = some d ∧ s.Newest d h.claim
  between : ∀ ws h d, s.handlers ws = some h → h.deviceId = some d → h.between = true →
    s.Newest d h.claim
  kept : ∀ ws h d, s.handlers ws = some h → h.deviceId = some d → s.Newest d h.claim →
    h.point ≠ .closed → ∃ c, (s.devices d).connection = some c ∧ c.ws = ws

/-- The claim that a message makes when the handler waits for it: the socket, the device, and
whether the record of the device is saved. -/
def State.claims (s : State) : Label → Option (Socket × DeviceId × Bool)
  | .message ws (.register data) saved =>
    match s.handlers ws with
    | none => none
    | some h =>
      match h.point, h.request data with
      | .receive, .claim _ deviceId _ => some (ws, deviceId, saved)
      | _, _ => none
  | _ => none

/-- No socket registers for a device while another handler of the device is in an await between a
test of its ownership and what it does because of it. -/
def Undisturbed (s : State) (label : Label) : Prop :=
  ∀ ws d saved, s.claims label = some (ws, d, saved) →
    ∀ ws' h', s.handlers ws' = some h' → h'.deviceId = some d → h'.between = false

section Claims

variable {s : State} {ws : Socket} {d : DeviceId} {saved : Bool} {label : Label}

/-- A claim does not depend on what is noted before it. -/
theorem Turn.Claims.after {now : Nat} {turn : Turn} (hturn : turn.Claims ws now d)
    (events : List Event) : (turn.after events).Claims ws now d :=
  { hturn with }

/-- A `REGISTER` with an identity is a claim of it. -/
theorem State.claims_eq_some {data : RegisterData} {h : Handler} {kind : IdentityKind}
    {version : Option Int} (hhandler : s.handlers ws = some h) (hreceive : h.point = .receive)
    (hrequest : h.request data = .claim kind d version) :
    s.claims (.message ws (.register data) saved) = some (ws, d, saved) := by
  simp only [State.claims, hhandler, hreceive, hrequest]

/-- Only a `REGISTER` is a claim. -/
theorem State.message_of_claims (hclaims : s.claims label = some (ws, d, saved)) :
    ∃ data, label = .message ws (.register data) saved := by
  unfold State.claims at hclaims
  split at hclaims
  · rename_i data _
    split at hclaims
    · exact absurd hclaims (by simp)
    · split at hclaims
      · simp only [Option.some.injEq, Prod.mk.injEq] at hclaims
        obtain ⟨rfl, -, rfl⟩ := hclaims
        exact ⟨data, rfl⟩
      · exact absurd hclaims (by simp)
  · exact absurd hclaims (by simp)

/-- The step of a claim. -/
theorem State.step_claims (hclaims : s.claims label = some (ws, d, saved)) :
    ∃ h turn, s.handlers ws = some h ∧ h.deviceId = none ∧ label.socket? = some ws ∧
      s.step label = s.apply ws d turn ∧ turn.Claims ws s.time d ∧
      (saved = true → ∃ versionCode, turn.handler.point = .completing versionCode) := by
  obtain ⟨data, rfl⟩ := State.message_of_claims hclaims
  simp only [State.claims] at hclaims
  split at hclaims
  · exact absurd hclaims (by simp)
  · rename_i h hhandler
    split at hclaims
    · rename_i kind d' version hreceive hrequest
      simp only [Option.some.injEq, Prod.mk.injEq, true_and, and_true] at hclaims
      subst hclaims
      have hturn := claims_claimDevice ws (s.devices d') h s.time kind d' version saved
      refine ⟨h, _, hhandler, (Handler.request_eq_claim hrequest).1, rfl, ?_,
        (hturn.after (received data)), ?_⟩
      · simp only [State.step, hhandler, hreceive, State.handleMessage, State.handleRegister,
          hrequest]
      · rintro rfl
        exact ⟨version, rfl⟩
    · exact absurd hclaims (by simp)

end Claims

section Steps

variable {s s' : State} {ws : Socket} {h h' : Handler} {d : DeviceId}

/-- A handler that keeps its device and its claim leaves all claims as they are. -/
theorem newest_iff_of_update (hhandlers : s'.handlers = Function.update s.handlers ws (some h'))
    (hhandler : s.handlers ws = some h) (hid : h'.deviceId = h.deviceId)
    (hclaim : h'.claim = h.claim) (d : DeviceId) (claim : Nat) :
    s'.Newest d claim ↔ s.Newest d claim := by
  constructor
  · intro hnewest ws' g hg hd
    rcases eq_or_ne ws' ws with rfl | hne
    · rw [hhandler, Option.some_inj] at hg
      subst hg
      rw [← hclaim]
      exact hnewest ws' h' (by rw [hhandlers, Function.update_self]) (hid.trans hd)
    · exact hnewest ws' g (by rw [hhandlers, Function.update_of_ne hne]; exact hg) hd
  · intro hnewest ws' g hg hd
    rw [hhandlers] at hg
    rcases eq_or_ne ws' ws with rfl | hne
    · rw [Function.update_self, Option.some_inj] at hg
      subst hg
      rw [hclaim]
      exact hnewest ws' h hhandler (hid ▸ hd)
    · rw [Function.update_of_ne hne] at hg
      exact hnewest ws' g hg hd

/-- The handlers after one of them has moved. -/
theorem handler_cases (hhandlers : s'.handlers = Function.update s.handlers ws (some h'))
    {ws' : Socket} {g : Handler} (hg : s'.handlers ws' = some g) :
    (ws' = ws ∧ g = h') ∨ (ws' ≠ ws ∧ s.handlers ws' = some g) := by
  rw [hhandlers] at hg
  rcases eq_or_ne ws' ws with rfl | hne
  · rw [Function.update_self, Option.some_inj] at hg
    exact .inl ⟨rfl, hg.symm⟩
  · rw [Function.update_of_ne hne] at hg
    exact .inr ⟨hne, hg⟩

/-- A handler that keeps its device and its claim, and deletes the registration only when it is the
newest one and ends. -/
theorem Owned.move (hs : Owned s)
    (hhandlers : s'.handlers = Function.update s.handlers ws (some h'))
    (hhandler : s.handlers ws = some h) (hid : h'.deviceId = h.deviceId)
    (hclaim : h'.claim = h.claim) (htime : s.time ≤ s'.time)
    (hclosed : ∀ d, h.deviceId = some d → h.point = .closed → h'.point = .closed)
    (hbetween : ∀ d, h.deviceId = some d → h'.between = true → s.Newest d h.claim)
    (hconnection : ∀ d c, (s'.devices d).connection = some c →
      ∃ c', (s.devices d).connection = some c' ∧ c'.ws = c.ws)
    (hdeleted : ∀ d, (s'.devices d).connection = none → (s.devices d).connection = none ∨
      (h.deviceId = some d ∧ h'.point = .closed ∧ s.Newest d h.claim)) : Owned s' := by
  have hnewest := newest_iff_of_update hhandlers hhandler hid hclaim
  -- a handler after the step had the same device and claim before
  have hbefore : ∀ ws' g d, s'.handlers ws' = some g → g.deviceId = some d →
      ∃ g', s.handlers ws' = some g' ∧ g'.deviceId = some d ∧ g'.claim = g.claim := by
    intro ws' g d hg hd
    rcases handler_cases hhandlers hg with ⟨rfl, rfl⟩ | ⟨-, hg'⟩
    · exact ⟨h, hhandler, hid ▸ hd, hclaim.symm⟩
    · exact ⟨g, hg', hd, rfl⟩
  refine ⟨?_, ?_, ?_, ?_, ?_⟩
  · intro ws' g d hg hd
    obtain ⟨g', hg', hd', heq⟩ := hbefore ws' g d hg hd
    have hlt := hs.claim_lt ws' g' d hg' hd'
    omega
  · intro ws₁ g₁ ws₂ g₂ d hg₁ hd₁ hg₂ hd₂ heq
    obtain ⟨g₁', hg₁', hd₁', heq₁⟩ := hbefore ws₁ g₁ d hg₁ hd₁
    obtain ⟨g₂', hg₂', hd₂', heq₂⟩ := hbefore ws₂ g₂ d hg₂ hd₂
    exact hs.claim_inj ws₁ g₁' ws₂ g₂' d hg₁' hd₁' hg₂' hd₂' (by omega)
  · intro d c hc
    obtain ⟨c', hc', hws⟩ := hconnection d c hc
    obtain ⟨g, hg, hd, hnew⟩ := hs.owner d c' hc'
    rw [hws] at hg
    rcases eq_or_ne c.ws ws with heq | hne
    · rw [heq, hhandler, Option.some_inj] at hg
      subst hg
      refine ⟨h', by rw [hhandlers, heq, Function.update_self], hid.trans hd, ?_⟩
      rw [hnewest, hclaim]
      exact hnew
    · exact ⟨g, by rw [hhandlers, Function.update_of_ne hne]; exact hg, hd, (hnewest _ _).mpr hnew⟩
  · intro ws' g d hg hd hgbetween
    rw [hnewest]
    rcases handler_cases hhandlers hg with ⟨rfl, rfl⟩ | ⟨-, hg'⟩
    · rw [hclaim]
      exact hbetween d (hid ▸ hd) hgbetween
    · exact hs.between ws' g d hg' hd hgbetween
  · intro ws' g d hg hd hnew hopen
    rw [hnewest] at hnew
    obtain ⟨c, hc, hws⟩ : ∃ c, (s.devices d).connection = some c ∧ c.ws = ws' := by
      rcases handler_cases hhandlers hg with ⟨rfl, rfl⟩ | ⟨-, hg'⟩
      · have hd' : h.deviceId = some d := hid ▸ hd
        exact hs.kept ws' h d hhandler hd' (hclaim ▸ hnew) fun hend => hopen (hclosed d hd' hend)
      · exact hs.kept ws' g d hg' hd hnew hopen
    rcases hc' : (s'.devices d).connection with _ | c'
    · rcases hdeleted d hc' with hnone | ⟨hd', hend, hnew'⟩
      · rw [hc] at hnone
        exact absurd hnone (by simp)
      · rcases handler_cases hhandlers hg with ⟨rfl, rfl⟩ | ⟨hne, hg'⟩
        · exact absurd hend hopen
        · -- two newest handlers of one device
          have heq : g.claim = h.claim :=
            le_antisymm (hnew' ws' g hg' hd) (hnew ws h hhandler hd')
          exact absurd (hs.claim_inj ws' g ws h d hg' hd hhandler hd' heq) hne
    · obtain ⟨c'', hc'', hws'⟩ := hconnection d c' hc'
      rw [hc, Option.some_inj] at hc''
      refine ⟨c', rfl, ?_⟩
      rw [← hws', ← hc'', hws]

/-- A turn of a handler. -/
theorem Owned.turn (hs : Owned s) (hhandler : s.handlers ws = some h) (hid : h.deviceId = some d)
    {turn : Turn} (hturn : turn.Orderly ws (s.devices d) h)
    (hclosed : h.point = .closed → turn.handler.point = .closed) :
    Owned (s.apply ws d turn) := by
  have hnewest : (s.devices d).ownedBy ws = true ∨ h.between = true → s.Newest d h.claim := by
    rintro (hown | hbetween)
    · obtain ⟨c, hc, rfl⟩ := Device.ownedBy_iff.mp hown
      obtain ⟨g, hg, -, hnew⟩ := hs.owner d c hc
      rw [hhandler, Option.some_inj] at hg
      rwa [hg]
    · exact hs.between ws h d hhandler hid hbetween
  refine hs.move rfl hhandler hturn.deviceId hturn.claim (Nat.le_succ _) (fun _ _ => hclosed)
    ?_ ?_ ?_
  · intro d' hd' hbetween
    rw [hid, Option.some_inj] at hd'
    exact hd' ▸ hnewest (hturn.between hbetween)
  · intro d' c hc
    rcases eq_or_ne d' d with rfl | hne
    · rw [State.apply_devices_self] at hc
      exact hturn.connection c hc
    · rw [State.apply_devices_of_ne _ _ _ _ hne] at hc
      exact ⟨c, hc, rfl⟩
  · intro d' hnone
    rcases eq_or_ne d' d with rfl | hne
    · rw [State.apply_devices_self] at hnone
      rcases hturn.deleted hnone with hbefore | hend
      · exact .inl hbefore
      · by_cases hmay : (s.devices d').ownedBy ws = true ∨ h.between = true
        · exact .inr ⟨hid, hend, hnewest hmay⟩
        · simp only [not_or, Bool.not_eq_true] at hmay
          rw [hturn.superseded hmay.1 hmay.2] at hnone
          exact .inl hnone
    · rw [State.apply_devices_of_ne _ _ _ _ hne] at hnone
      exact .inl hnone

/-- The claim of a socket is the newest of its device. -/
theorem Turn.Claims.newest {turn : Turn} (hturn : turn.Claims ws s.time d) (hs : Owned s) :
    (s.apply ws d turn).Newest d s.time := by
  intro ws' g hg hd
  rcases handler_cases rfl hg with ⟨rfl, rfl⟩ | ⟨-, hg'⟩
  · exact hturn.claim.le
  · exact (hs.claim_lt ws' g d hg' hd).le

/-- The claims of other devices stay those of before. -/
theorem Turn.Claims.newest_iff {turn : Turn} (hturn : turn.Claims ws s.time d)
    (hhandler : s.handlers ws = some h) (hid : h.deviceId = none) {d' : DeviceId} {n : Nat}
    (hne : d' ≠ d) : (s.apply ws d turn).Newest d' n ↔ s.Newest d' n := by
  constructor
  · intro hnewest ws' g hg hd
    refine hnewest ws' g ?_ hd
    rw [State.apply_handlers_of_ne]
    · exact hg
    · rintro rfl
      rw [hhandler, Option.some_inj] at hg
      rw [← hg, hid] at hd
      exact absurd hd (by simp)
  · intro hnewest ws' g hg hd
    rcases handler_cases rfl hg with ⟨rfl, rfl⟩ | ⟨-, hg'⟩
    · rw [hturn.deviceId, Option.some_inj] at hd
      exact absurd hd.symm hne
    · exact hnewest ws' g hg' hd

/-- A socket claims the device. -/
theorem Owned.claim (hs : Owned s) (hhandler : s.handlers ws = some h) (hid : h.deviceId = none)
    {turn : Turn} (hturn : turn.Claims ws s.time d)
    (hquiet : ∀ ws' h', s.handlers ws' = some h' → h'.deviceId = some d → h'.between = false) :
    Owned (s.apply ws d turn) := by
  have hcases : ∀ {ws' g}, (s.apply ws d turn).handlers ws' = some g →
      (ws' = ws ∧ g = turn.handler) ∨ (ws' ≠ ws ∧ s.handlers ws' = some g) :=
    fun hg => handler_cases rfl hg
  have hnew : (s.apply ws d turn).Newest d s.time := hturn.newest hs
  have hother : ∀ d' n, d' ≠ d → ((s.apply ws d turn).Newest d' n ↔ s.Newest d' n) :=
    fun d' n hne => hturn.newest_iff hhandler hid hne
  refine ⟨?_, ?_, ?_, ?_, ?_⟩
  · intro ws' g d' hg hd
    rw [State.apply_time]
    rcases hcases hg with ⟨rfl, rfl⟩ | ⟨-, hg'⟩
    · rw [hturn.claim]
      omega
    · have := hs.claim_lt ws' g d' hg' hd
      omega
  · intro ws₁ g₁ ws₂ g₂ d' hg₁ hd₁ hg₂ hd₂ heq
    rcases hcases hg₁ with ⟨rfl, rfl⟩ | ⟨-, hg₁'⟩
    · rcases hcases hg₂ with ⟨rfl, rfl⟩ | ⟨-, hg₂'⟩
      · rfl
      · have := hs.claim_lt ws₂ g₂ d' hg₂' hd₂
        rw [hturn.claim] at heq
        omega
    · rcases hcases hg₂ with ⟨rfl, rfl⟩ | ⟨-, hg₂'⟩
      · have := hs.claim_lt ws₁ g₁ d' hg₁' hd₁
        rw [hturn.claim] at heq
        omega
      · exact hs.claim_inj ws₁ g₁ ws₂ g₂ d' hg₁' hd₁ hg₂' hd₂ heq
  · intro d' c hc
    rcases eq_or_ne d' d with rfl | hne
    · rw [State.apply_devices_self] at hc
      rw [hturn.connection c hc, State.apply_handlers_self]
      exact ⟨_, rfl, hturn.deviceId, hturn.claim ▸ hnew⟩
    · rw [State.apply_devices_of_ne _ _ _ _ hne] at hc
      obtain ⟨g, hg, hd, hnewest⟩ := hs.owner d' c hc
      have hws : c.ws ≠ ws := by
        intro heq
        rw [heq, hhandler, Option.some_inj] at hg
        rw [← hg, hid] at hd
        exact absurd hd (by simp)
      exact ⟨g, by rw [State.apply_handlers_of_ne _ _ _ _ hws]; exact hg, hd,
        (hother d' _ hne).mpr hnewest⟩
  · intro ws' g d' hg hd hbetween
    rcases hcases hg with ⟨rfl, rfl⟩ | ⟨-, hg'⟩
    · rw [hturn.deviceId, Option.some_inj] at hd
      subst hd
      exact hturn.claim ▸ hnew
    · rcases eq_or_ne d' d with rfl | hne
      · rw [hquiet ws' g hg' hd] at hbetween
        exact absurd hbetween (by simp)
      · exact (hother d' _ hne).mpr (hs.between ws' g d' hg' hd hbetween)
  · intro ws' g d' hg hd hnewest hopen
    rcases hcases hg with ⟨rfl, rfl⟩ | ⟨-, hg'⟩
    · rw [hturn.deviceId, Option.some_inj] at hd
      subst hd
      rw [State.apply_devices_self]
      rcases hc : turn.device.connection with _ | c
      · exact absurd (hturn.deleted hc) hopen
      · exact ⟨c, rfl, hturn.connection c hc⟩
    · rcases eq_or_ne d' d with rfl | hne
      · -- the new claim is newer than this one
        have hle := hnewest ws turn.handler (State.apply_handlers_self ..) hturn.deviceId
        have hlt := hs.claim_lt ws' g d' hg' hd
        rw [hturn.claim] at hle
        omega
      · rw [State.apply_devices_of_ne _ _ _ _ hne]
        exact hs.kept ws' g d' hg' hd ((hother d' _ hne).mp hnewest) hopen

/-- Whatever leaves the handlers alone, and each registration to its socket. -/
theorem Owned.of_connections (hs : Owned s) (hhandlers : s'.handlers = s.handlers)
    (htime : s.time ≤ s'.time)
    (hconnection : ∀ d, ((s'.devices d).connection.map fun c => c.ws) =
      (s.devices d).connection.map fun c => c.ws) : Owned s' where
  claim_lt ws h d hh hd := (hs.claim_lt ws h d (hhandlers ▸ hh) hd).trans_le htime
  claim_inj ws h ws' h' d hh hd hh' hd' :=
    hs.claim_inj ws h ws' h' d (hhandlers ▸ hh) hd (hhandlers ▸ hh') hd'
  owner d c hc := by
    have heq := hconnection d
    rw [hc] at heq
    obtain ⟨c', hc', hws : c'.ws = c.ws⟩ := Option.map_eq_some_iff.mp heq.symm
    obtain ⟨h, hh, hd, hnewest⟩ := hs.owner d c' hc'
    exact ⟨h, by rw [hhandlers, ← hws]; exact hh, hd, by rwa [State.Newest, hhandlers]⟩
  between ws h d hh hd hbetween := by
    rw [State.Newest, hhandlers]
    exact hs.between ws h d (hhandlers ▸ hh) hd hbetween
  kept ws h d hh hd hnewest hopen := by
    rw [State.Newest, hhandlers] at hnewest
    obtain ⟨c, hc, hws⟩ := hs.kept ws h d (hhandlers ▸ hh) hd hnewest hopen
    have heq := hconnection d
    rw [hc] at heq
    obtain ⟨c', hc', hws'⟩ := Option.map_eq_some_iff.mp heq
    exact ⟨c', hc', hws'.trans hws⟩

/-- A new handler has no device yet. -/
theorem Owned.connect (hs : Owned s) (remote : Option Str) (hnew : s.handlers ws = none) :
    Owned (s.park ws { remote := remote } []) := by
  have hcases : ∀ {ws' g d}, (s.park ws { remote := remote } []).handlers ws' = some g →
      g.deviceId = some d → s.handlers ws' = some g := by
    intro ws' g d hg hd
    rcases handler_cases rfl hg with ⟨rfl, rfl⟩ | ⟨-, hg'⟩
    · exact absurd hd (by simp)
    · exact hg'
  have hkeep : ∀ {ws' g}, s.handlers ws' = some g →
      (s.park ws { remote := remote } []).handlers ws' = some g := by
    intro ws' g hg
    refine (Function.update_of_ne ?_ _ _).trans hg
    rintro rfl
    rw [hnew] at hg
    exact absurd hg (by simp)
  have hnewest : ∀ d n, (s.park ws { remote := remote } []).Newest d n ↔ s.Newest d n :=
    fun d n => ⟨fun h ws' g hg hd => h ws' g (hkeep hg) hd,
      fun h ws' g hg hd => h ws' g (hcases hg hd) hd⟩
  refine ⟨?_, ?_, ?_, ?_, ?_⟩
  · intro ws' g d hg hd
    exact Nat.lt_succ_of_lt (hs.claim_lt ws' g d (hcases hg hd) hd)
  · intro ws₁ g₁ ws₂ g₂ d hg₁ hd₁ hg₂ hd₂
    exact hs.claim_inj ws₁ g₁ ws₂ g₂ d (hcases hg₁ hd₁) hd₁ (hcases hg₂ hd₂) hd₂
  · intro d c hc
    obtain ⟨g, hg, hd, hnew'⟩ := hs.owner d c hc
    exact ⟨g, hkeep hg, hd, (hnewest d _).mpr hnew'⟩
  · intro ws' g d hg hd hbetween
    exact (hnewest d _).mpr (hs.between ws' g d (hcases hg hd) hd hbetween)
  · intro ws' g d hg hd hnew' hopen
    exact hs.kept ws' g d (hcases hg hd) hd ((hnewest d _).mp hnew') hopen

/-- A timer leaves the connection of its device alone. -/
theorem connection_fire (dev : Device) (timer : Timer) (saved : Bool) :
    (fire dev timer saved).1.connection = dev.connection := by
  unfold fire
  split
  · split
    · rfl
    · split_ifs <;> rfl
  · split
    · rfl
    · split_ifs <;> rfl
  · split
    · rfl
    · split
      · rfl
      · split
        · rfl
        · split <;> rfl

/-- One step. -/
theorem Owned.step (hs : Owned s) (label : Label) (hquiet : Undisturbed s label) :
    Owned (s.step label) := by
  have hhappens := step_happens s label
  generalize s.step label = s' at hhappens
  cases hhappens with
  | nothing => exact hs
  | connected ws remote hnew => exact hs.connect remote hnew
  | parked _ ws h h' events hsocket hhandler hid hclaim hbefore hafter hclosed hevents =>
    refine hs.move rfl hhandler hid hclaim (Nat.le_succ _) ?_ ?_ (fun _ c hc => ⟨c, hc, rfl⟩)
      fun _ hnone => .inl hnone
    · intro d hd hend
      rcases hbefore with hreceive | hnone
      · rw [hend] at hreceive
        exact absurd hreceive (by simp)
      · rw [hnone] at hd
        exact absurd hd (by simp)
    · intro d _ hbetween
      rw [hafter.1] at hbetween
      exact absurd hbetween (by simp)
  | turned _ ws h d turn hhandler hid hturn => exact hs.turn hhandler hid hturn.orderly hturn.closed
  | claimed ws data saved h kind d version hhandler hreceive hrequest =>
    have hclaims := claims_claimDevice ws (s.devices d) h s.time kind d version saved
    exact hs.claim hhandler (Handler.request_eq_claim hrequest).1 { hclaims with }
      (hquiet ws d saved (State.claims_eq_some hhandler hreceive hrequest))
  | fired t saved timer htimer =>
    refine hs.of_connections rfl (Nat.le_succ _) fun d => ?_
    rcases eq_or_ne d timer.deviceId with rfl | hne
    · simp only [Function.update_self, connection_fire]
    · simp only [Function.update_of_ne hne]
  | forgotten d hoffline =>
    refine hs.of_connections rfl (Nat.le_succ _) fun d' => ?_
    rcases eq_or_ne d' d with rfl | hne
    · simp only [Function.update_self]
    · simp only [Function.update_of_ne hne]
  | transferred _ d dispatch transfers hsocket =>
    refine hs.of_connections rfl (Nat.le_succ _) fun d' => ?_
    rcases eq_or_ne d' d with rfl | hne
    · simp only [Function.update_self]
    · simp only [Function.update_of_ne hne]
  | restarted registry =>
    constructor <;> simp

end Steps

/-! ### Along runs -/

/-- Another socket has registered for the device after this one. -/
def State.Superseded (s : State) (ws : Socket) (d : DeviceId) : Prop :=
  ∃ h ws' h', s.handlers ws = some h ∧ h.deviceId = some d ∧
    s.handlers ws' = some h' ∧ h'.deviceId = some d ∧ h.claim < h'.claim

/-- Has the handler not reached its `finally` block yet? -/
def Handler.isOpen (h : Handler) : Prop := h.point ≠ .closing ∧ h.point ≠ .closed

/-- A superseded socket is not the newest registration. -/
theorem State.Superseded.not_newest {s : State} {ws : Socket} {d : DeviceId}
    (hsuperseded : s.Superseded ws d) :
    ∃ h, s.handlers ws = some h ∧ h.deviceId = some d ∧ ¬ s.Newest d h.claim := by
  obtain ⟨h, ws', h', hhandler, hid, hhandler', hid', hlt⟩ := hsuperseded
  exact ⟨h, hhandler, hid, fun hnewest => absurd (hnewest ws' h' hhandler' hid') (by omega)⟩

/-- No device has a socket at the start. -/
theorem Owned.initial : Owned {} := by
  constructor <;> simp

/-- A superseded handler changes nothing of its device. -/
theorem Owned.superseded {s : State} {ws : Socket} {d : DeviceId} (hs : Owned s)
    (hsuperseded : s.Superseded ws d) (label : Label) (hsocket : label.socket? = some ws) :
    (s.step label).devices d = s.devices d := by
  obtain ⟨h, hhandler, hid, hold⟩ := hsuperseded.not_newest
  have hhappens := step_happens s label
  generalize s.step label = s' at hhappens
  cases hhappens with
  | nothing => rfl
  | connected ws remote hnew => exact absurd hsocket (by simp [Label.socket?])
  | parked _ ws h h' events hsocket hhandler hid hclaim hbefore hafter hclosed hevents => rfl
  | turned _ ws₁ g d₁ turn hg hd₁ hturn =>
    rw [hturn.socket, Option.some_inj] at hsocket
    subst hsocket
    rw [hhandler, Option.some_inj] at hg
    subst hg
    rw [hid, Option.some_inj] at hd₁
    subst hd₁
    rw [State.apply_devices_self]
    refine hturn.orderly.superseded ?_ ?_
    · rw [← Bool.not_eq_true]
      intro hown
      obtain ⟨c, hc, rfl⟩ := Device.ownedBy_iff.mp hown
      obtain ⟨g, hg, -, hnewest⟩ := hs.owner d c hc
      rw [hhandler, Option.some_inj] at hg
      exact hold (hg ▸ hnewest)
    · rw [← Bool.not_eq_true]
      exact fun hbetween => hold (hs.between _ h d hhandler hid hbetween)
  | claimed ws₁ data saved g kind d₁ version hg hreceive hrequest =>
    rw [Label.socket?, Option.some_inj] at hsocket
    subst hsocket
    rw [hhandler, Option.some_inj] at hg
    subst hg
    rw [(Handler.request_eq_claim hrequest).1] at hid
    exact absurd hid (by simp)
  | fired t saved timer htimer => exact absurd hsocket (by simp [Label.socket?])
  | forgotten d hoffline => exact absurd hsocket (by simp [Label.socket?])
  | transferred _ d dispatch transfers hnone =>
    rw [hnone] at hsocket
    exact absurd hsocket (by simp)
  | restarted registry => exact absurd hsocket (by simp [Label.socket?])

/-- There is a newest handler of a device that has one. -/
theorem Owned.exists_newest {s : State} {ws : Socket} {h : Handler} {d : DeviceId} (hs : Owned s)
    (hhandler : s.handlers ws = some h) (hid : h.deviceId = some d) :
    ∃ ws' h', s.handlers ws' = some h' ∧ h'.deviceId = some d ∧ h.claim ≤ h'.claim ∧
      s.Newest d h'.claim := by
  -- by induction on the steps between the claim and now
  induction hn : s.time - h.claim using Nat.strong_induction_on generalizing ws h with
  | _ n ih =>
    by_cases hnewest : s.Newest d h.claim
    · exact ⟨ws, h, hhandler, hid, le_rfl, hnewest⟩
    · rw [State.Newest] at hnewest
      push Not at hnewest
      obtain ⟨ws₁, h₁, hhandler₁, hid₁, hlt⟩ := hnewest
      have hlt₁ := hs.claim_lt ws₁ h₁ d hhandler₁ hid₁
      obtain ⟨ws₂, h₂, hhandler₂, hid₂, hle, hnewest₂⟩ :=
        ih (s.time - h₁.claim) (by omega) hhandler₁ hid₁ rfl
      exact ⟨ws₂, h₂, hhandler₂, hid₂, by omega, hnewest₂⟩

/-- The device of an open handler is registered for its socket or for one that came later, unless
one that came later has ended. -/
theorem Owned.registered {s : State} {ws : Socket} {h : Handler} {d : DeviceId} (hs : Owned s)
    (hhandler : s.handlers ws = some h) (hid : h.deviceId = some d) (hopen : h.isOpen)
    (hlater : ∀ ws' h', s.handlers ws' = some h' → h'.deviceId = some d → h.claim < h'.claim →
      h'.point ≠ .closed) :
    ∃ c h', (s.devices d).connection = some c ∧ s.handlers c.ws = some h' ∧
      h'.deviceId = some d ∧ h.claim ≤ h'.claim := by
  obtain ⟨ws', h', hhandler', hid', hle, hnewest⟩ := hs.exists_newest hhandler hid
  have hend : h'.point ≠ .closed := by
    rcases hle.eq_or_lt with heq | hlt
    · have hsame := hs.claim_inj ws h ws' h' d hhandler hid hhandler' hid' heq
      subst hsame
      rw [hhandler, Option.some_inj] at hhandler'
      exact hhandler' ▸ hopen.2
    · exact hlater ws' h' hhandler' hid' hlt
  obtain ⟨c, hc, rfl⟩ := hs.kept ws' h' d hhandler' hid' hnewest hend
  exact ⟨c, h', hc, hhandler', hid', hle⟩

/-! ### Runs to evaluate -/

/-- Only sockets that have connected have a handler. -/
theorem handlers_eq_none {s : State} {ws : Socket} (hnone : s.handlers ws = none) (label : Label)
    (hlabel : ∀ remote, label ≠ .connect ws remote) : (s.step label).handlers ws = none := by
  have hother : ∀ {ws' g}, s.handlers ws' = some g → ws ≠ ws' := by
    rintro ws' g hg rfl
    rw [hnone] at hg
    exact absurd hg (by simp)
  have hhappens := step_happens s label
  generalize s.step label = s' at hhappens
  cases hhappens with
  | nothing => exact hnone
  | connected ws' remote hnew =>
    refine (Function.update_of_ne ?_ _ _).trans hnone
    rintro rfl
    exact hlabel remote rfl
  | parked _ ws' h h' events hsocket hhandler hid hclaim hbefore hafter hclosed hevents =>
    exact (Function.update_of_ne (hother hhandler) _ _).trans hnone
  | turned _ ws' h d turn hhandler hid hturn =>
    exact (State.apply_handlers_of_ne _ _ _ _ (hother hhandler)).trans hnone
  | claimed ws' data saved h kind d version hhandler hreceive hrequest =>
    exact (State.apply_handlers_of_ne _ _ _ _ (hother hhandler)).trans hnone
  | fired t saved timer htimer => exact hnone
  | forgotten d hoffline => exact hnone
  | transferred _ d dispatch transfers hsocket => exact hnone
  | restarted registry => rfl

/-- The labels connect only sockets below a bound. -/
def connectsBelow (n : Nat) : Label → Bool
  | .connect ws _ => ws < n
  | _ => true

/-- A socket that no label connects has no handler. -/
theorem handlers_exec_eq_none {n : Nat} {labels : List Label}
    (hlabels : ∀ label ∈ labels, connectsBelow n label = true) {ws : Socket} (hws : n ≤ ws) :
    (Run.exec State.step {} labels).handlers ws = none := by
  induction labels using List.reverseRecOn with
  | nil => rfl
  | append_singleton labels label ih =>
    rw [Run.exec_append, Run.exec_cons, Run.exec_nil]
    refine handlers_eq_none (ih fun label' hlabel' => hlabels label' (by simp [hlabel'])) label ?_
    rintro remote rfl
    have hlt := hlabels _ (by simp : Label.connect ws remote ∈ labels ++ [.connect ws remote])
    rw [connectsBelow, decide_eq_true_iff] at hlt
    exact absurd hlt (Nat.not_lt.mpr hws)

/-- The device of the runs below. -/
def sampleId : DeviceId := ofString "00000000-0000-0000-0000-000000000000"

/-- A `REGISTER` of the sample device. -/
def registerSample (version : Int) : Message :=
  .register
    { identityScheme := .str (ofString "styly_device_id_v1"), deviceId := .str sampleId
      versionCode := .int version }

/-- An await that ends as it should. -/
def completed : Answer := .done true none

/-- What is evaluated of a handler: its device, its claim, and whether it waits for the
acknowledgement of its registration. -/
def Handler.summary (h : Handler) : Option DeviceId × Nat × Bool :=
  (h.deviceId, h.claim,
    match h.point with
    | .completing _ => true
    | _ => false)

/-- The summaries of two handlers tell which of them is superseded. -/
theorem State.superseded_of_summary {s : State} {ws ws' : Socket} {d : DeviceId} {n n' : Nat}
    {b b' : Bool} (h : (s.handlers ws).map Handler.summary = some (some d, n, b))
    (h' : (s.handlers ws').map Handler.summary = some (some d, n', b')) (hlt : n < n') :
    s.Superseded ws d := by
  obtain ⟨g, hg, heq⟩ := Option.map_eq_some_iff.mp h
  obtain ⟨g', hg', heq'⟩ := Option.map_eq_some_iff.mp h'
  simp only [Handler.summary, Prod.mk.injEq] at heq heq'
  exact ⟨g, ws', g', hg, heq.1, hg', heq'.1, by omega⟩

/-- A handler that completes a registration is open. -/
theorem Handler.isOpen_of_summary {h : Handler} {deviceId : Option DeviceId} {n : Nat}
    (heq : h.summary = (deviceId, n, true)) : h.isOpen := by
  simp only [Handler.summary, Prod.mk.injEq] at heq
  constructor
  · intro hpoint
    rw [hpoint] at heq
    exact absurd heq.2.2 (by simp)
  · intro hpoint
    rw [hpoint] at heq
    exact absurd heq.2.2 (by simp)

/-- A self-update of the sample device, up to the check of the installed APK. -/
def updatedAndVerifying : List Label :=
  [.connect 0 none, .message 0 (registerSample 1) true, .resume 0 completed, .resume 0 completed,
    .dispatched sampleId { fullSha256 := some (ofString "5e") },
    .message 0 (.selfUpdateStarting (.str (ofString "c")) (.int 2) (.str (ofString "app"))) true,
    .resume 0 completed, .close 0,
    .connect 1 none, .message 1 (registerSample 2) true, .resume 1 completed, .resume 1 completed,
    .resume 1 completed, .resume 1 completed, .resume 1 completed]

end StylyMdm.Connections
