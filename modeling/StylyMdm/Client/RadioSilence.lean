import StylyMdm.Library.Run
import StylyMdm.Client.AttemptChain

/-!
# Radio silence

What the chain of attempts means for every run of the connection manager (`radio_silence`): outside
of a window and of a connection no timer is pending and no socket is opened before a network comes
up, an open window has its one timer and one attempt at a time, and what was cancelled changes
nothing. The number that a discovery thread is recognised by has 32 bits; `generation_recurs` is a
run in which a thread outlives all of them.

The statement is about the states of a run and about what may follow each of them: `Quiet` is a
client that does nothing by itself, and `Quiet.requests_eq` says that no sequence of turns makes it
ask for a connection as long as no network comes up. `RadioSilence` puts this beside the counts of
timers and attempts in a window. Its hypothesis is on the turns of the run, not on its states.

The run with a wrapped generation has `2 ^ 31 + 1` callbacks of the connectivity manager, each of
which cancels an attempt and starts one. It is described by an invariant that counts them
(`Circling`), not evaluated.
-/

namespace StylyMdm.Client.Connection.WebSocketManager

variable {Network : Type*} {m : WebSocketManager Network} {φ : Phase}

/-- How many of these are there: pending retry timers, discovery threads whose report would be
accepted, and sockets. -/
def stages (m : WebSocketManager Network) : Nat :=
  m.timers.pending.count .retryElapsed +
    m.discoveries.countP (fun d => d.generation = m.attemptGeneration) +
    m.webSocket.toList.length

/-- An open window has a stage. -/
theorem Good.exists_stage (h : m.Good φ) (hopen : m.scheduler.state = .windowOpen) :
    ∃ stage, φ = .window stage := by
  have hstate := h.inPhase.state
  rw [hopen] at hstate
  cases φ with
  | quiet => exact absurd hstate (by simp [Phase.Admits])
  | connected => cases hstate
  | window stage => exact ⟨stage, rfl⟩

/-- In an open window there is one stage of one attempt. -/
theorem Good.stages_eq_one (h : m.Good φ) (hyoung : m.Young)
    (hopen : m.scheduler.state = .windowOpen) : m.stages = 1 := by
  obtain ⟨stage, rfl⟩ := h.exists_stage hopen
  have hvalid : m.discoveries.countP (fun d => d.generation = m.attemptGeneration) = m.live := by
    refine List.countP_congr fun d hd => ?_
    rw [decide_eq_true_iff, h.numbered.generation_eq_iff hyoung hd, Bool.not_eq_true']
  have hsocket : m.webSocket.toList.length = m.webSocket.isSome.toNat := by
    cases m.webSocket <;> rfl
  rw [stages, hvalid, hsocket, h.inPhase.live, h.inPhase.timers, h.inPhase.webSocket]
  cases stage with
  | discovering => simp [Phase.timers, Phase.discoveries, Phase.hasSocket]
  | connecting => simp [Phase.timers, Phase.discoveries, Phase.hasSocket]
  | waiting => simp [Phase.timers, Phase.discoveries, Phase.hasSocket]

/-- Exactly one timer of an open window is pending. -/
theorem Good.countP_windowExpired (h : m.Good φ) (hopen : m.scheduler.state = .windowOpen) :
    m.timers.pending.countP (fun timer => timer ≠ .retryElapsed) = 1 := by
  obtain ⟨stage, rfl⟩ := h.exists_stage hopen
  rw [h.inPhase.timers]
  cases stage with
  | discovering => rfl
  | connecting => rfl
  | waiting => rfl

/-! ### Silence -/

/-- Nothing is under way, apart from threads whose report will be dropped. -/
structure Quiet (m : WebSocketManager Network) : Prop where
  state : m.scheduler.state = .idle ∨ m.scheduler.state = .silent
  timers : m.timers.pending = 0
  webSocket : m.webSocket = none

/-- Outside a window and a connection nothing is going on. -/
theorem Good.quiet (h : m.Good φ)
    (hstate : m.scheduler.state = .idle ∨ m.scheduler.state = .silent) : m.Quiet := by
  have hφ : φ = .quiet := by
    have hadmits := h.inPhase.state
    cases φ with
    | quiet => rfl
    | window stage =>
      rw [show m.scheduler.state = .windowOpen from hadmits] at hstate
      simp at hstate
    | connected =>
      rw [show m.scheduler.state = .connected from hadmits] at hstate
      simp at hstate
  subst hφ
  exact ⟨hstate, h.inPhase.timers, h.webSocket_eq_none rfl⟩

section Turns

variable [DecidableEq Network] {build : Build} {t : Turn Network}

omit [DecidableEq Network] in

/-- No timer is due. -/
theorem Quiet.next_eq_none (h : m.Quiet) (now : Int) : m.timers.next now = none := by
  cases hnext : m.timers.next now with
  | none => rfl
  | some next =>
    obtain ⟨callback, rest⟩ := next
    have hpending := Looper.Queue.pending_of_next hnext
    rw [h.timers] at hpending
    exact absurd hpending.symm Multiset.cons_ne_zero

variable (build) in
/-- Only a network that comes up ends the silence. -/
theorem Quiet.handle (h : m.Quiet) (ht : ∀ network, t.message ≠ .networkAvailable network) :
    (m.handle build t).Quiet ∧ (m.handle build t).requests = m.requests := by
  have hsame : m.Quiet ∧ m.requests = m.requests := ⟨h, rfl⟩
  rw [WebSocketManager.handle]
  cases hmessage : t.message with
  | networkAvailable network => exact absurd hmessage (ht network)
  | networkLost network =>
    dsimp only
    split
    · exact hsame
    · rw [ConnectionScheduler.onNetworkLost]
      rcases h.state with hstate | hstate
      · simp only [hstate]
        exact ⟨⟨h.state, h.timers, h.webSocket⟩, rfl⟩
      · simp only [hstate]
        exact ⟨⟨.inl rfl, rfl, rfl⟩, rfl⟩
  | socketOpened socket =>
    simpa only [h.webSocket, Ne, reduceCtorEq, not_false_eq_true, if_true] using hsame
  | socketGone socket =>
    simpa only [h.webSocket, Ne, reduceCtorEq, not_false_eq_true, if_true] using hsame
  | retryElapsed => simpa only [h.next_eq_none] using hsame
  | windowExpired => simpa only [h.next_eq_none] using hsame
  | preferencesChanged preferences => exact ⟨⟨h.state, h.timers, h.webSocket⟩, rfl⟩
  | discoveryFinished serial discovered =>
    dsimp only
    cases m.discoveries.find? fun d => d.serial = serial with
    | none => exact hsame
    | some d =>
      dsimp only
      rw [onDiscovered, if_pos]
      · exact ⟨⟨h.state, h.timers, h.webSocket⟩, rfl⟩
      · rcases h.state with hstate | hstate
        · simp [hstate]
        · simp [hstate]

variable (build) in

/-- And no message but a network changes that. -/
theorem Quiet.turn (h : m.Quiet) (ht : ∀ network, t.message ≠ .networkAvailable network) :
    (m.turn build t).Quiet ∧ (m.turn build t).requests = m.requests := by
  rw [WebSocketManager.turn]
  split
  · obtain ⟨hquiet, hrequests⟩ := h.handle build ht
    exact ⟨⟨hquiet.state, hquiet.timers, hquiet.webSocket⟩, hrequests⟩
  · exact ⟨h, rfl⟩

/-- No socket is opened before a network comes up. -/
theorem Quiet.requests_eq (h : m.Quiet) {turns : List (Turn Network)}
    (hturns : ∀ t ∈ turns, ∀ network, t.message ≠ .networkAvailable network) :
    (Run.exec (WebSocketManager.turn build) m turns).requests = m.requests := by
  have halong : Run.Along (WebSocketManager.turn build)
      (fun _ t => ∀ network, t.message ≠ .networkAvailable network) m turns :=
    Run.along_of_prefix fun before t after hsplit => hturns t (by simp [hsplit])
  refine (halong.invariant (I := fun m' => m'.Quiet ∧ m'.requests = m.requests) ?_ ⟨h, rfl⟩).2
  rintro m' t ⟨hquiet, hrequests⟩ ht
  obtain ⟨hquiet', hrequests'⟩ := hquiet.turn build ht
  exact ⟨hquiet', hrequests'.trans hrequests⟩

/-! ### Every run -/

/-- Radio silence and a single chain of attempts. -/
structure RadioSilence (build : Build) (m : WebSocketManager Network) : Prop where
  quiet_timers : m.scheduler.state = .idle ∨ m.scheduler.state = .silent → m.timers.pending = 0
  quiet_requests : m.scheduler.state = .idle ∨ m.scheduler.state = .silent →
    ∀ turns : List (Turn Network), (∀ t ∈ turns, ∀ network, t.message ≠ .networkAvailable network) →
      (Run.exec (turn build) m turns).requests = m.requests
  window_timer : m.scheduler.state = .windowOpen →
    m.timers.pending.countP (fun timer => timer ≠ .retryElapsed) = 1
  window_stages : m.scheduler.state = .windowOpen → m.stages ≤ 1
  connected_timers : m.scheduler.state = .connected → m.timers.pending = 0
  timely : m.history.marks.Pairwise Mark.Timely
  cancelled_socket : ∀ socket ∈ m.history.cancelled, ∀ t,
    t.message = .socketOpened socket ∨ t.message = .socketGone socket → m.handle build t = m
  cancelled_discovery : ∀ d ∈ m.discoveries, d.cancelled = true → ∀ t discovered,
    t.message = .discoveryFinished d.serial discovered →
      m.handle build t = { m with discoveries := m.discoveries.filter fun e => e.serial ≠ d.serial }

/-- The invariant gives the silence of the radio. -/
theorem Good.radioSilence (h : m.Good φ) (hyoung : m.Young) : m.RadioSilence build where
  quiet_timers hstate := (h.quiet hstate).timers
  quiet_requests hstate _ hturns := (h.quiet hstate).requests_eq hturns
  window_timer := h.countP_windowExpired
  window_stages hopen := (h.stages_eq_one hyoung hopen).le
  connected_timers hstate := by
    have hadmits := h.inPhase.state
    rw [hstate] at hadmits
    cases φ with
    | quiet => exact absurd hadmits (by simp [Phase.Admits])
    | window stage => cases hadmits
    | connected => exact h.inPhase.timers
  timely := h.marked.timely
  cancelled_socket socket hsocket t ht := by
    have hne := (h.numbered.cancelled socket hsocket).2
    rw [WebSocketManager.handle]
    rcases ht with ht | ht
    · rw [ht]
      exact if_pos hne
    · rw [ht]
      exact if_pos hne
  cancelled_discovery d hd hcancelled t discovered ht :=
    h.numbered.handle_of_cancelled hyoung hd hcancelled ht

omit [DecidableEq Network] in

/-- It holds of a new manager. -/
theorem good_connect (preferences : Preferences) :
    (connect preferences : WebSocketManager Network).Good .quiet where
  numbered := .connect preferences
  marked := ⟨.nil, nofun, nofun⟩
  inPhase := ⟨.inl rfl, rfl, rfl, rfl⟩

/-- **Radio silence.** It holds in every state of a run in which no discovery thread is under way
for `2 ^ 32` increments of `attemptGeneration`. -/
theorem radio_silence (build : Build) (preferences : Preferences) (turns : List (Turn Network))
    (h : Run.Along (turn build) (fun m t => (m.turn build t).Young) (connect preferences) turns) :
    (Run.exec (turn build) (connect preferences) turns).RadioSilence build := by
  have hrun := h.invariant (I := fun m => m.Young ∧ ∃ φ, m.Good φ) ?_
    ⟨nofun, _, good_connect preferences⟩
  · obtain ⟨hyoung, φ, hgood⟩ := hrun
    exact hgood.radioSilence hyoung
  · rintro m t ⟨hyoung, φ, hgood⟩ hnext
    obtain ⟨φ', hgood', -⟩ := hgood.turn build t hyoung
    exact ⟨hnext, φ', hgood'⟩

end Turns

instance : Decidable m.Young :=
  inferInstanceAs (Decidable (∀ d ∈ m.discoveries, m.history.increments < d.serial + 2 ^ 32))

/-- A build that accepts every URL. -/
def lenient : Build := ⟨fun _ => true, "ws://192.168.1.100:8080/ws/device"⟩

/-- A server is found but does not answer; the second attempt succeeds. -/
def secondAttempt : List (Turn Nat) :=
  [⟨.networkAvailable 7, 0, 1, {}⟩,
    ⟨.discoveryFinished 1 (some "ws://192.168.1.20:8080/ws/device"), 900, 900, {}⟩,
    ⟨.socketGone 0, 3900, 3901, {}⟩, ⟨.retryElapsed, 5901, 5901, {}⟩,
    ⟨.discoveryFinished 2 none, 8901, 8901, {}⟩, ⟨.socketOpened 1, 8950, 8950, {}⟩]

/-- The run of a second attempt that connects. -/
theorem radio_silence_secondAttempt :
    (Run.exec (turn lenient) (connect ⟨none, none⟩) secondAttempt).scheduler.state = .connected ∧
      (Run.exec (turn lenient) (connect ⟨none, none⟩) secondAttempt).RadioSilence lenient :=
  ⟨by decide, radio_silence lenient ⟨none, none⟩ secondAttempt (by decide)⟩

/-! ### A thread that outlives all generations -/

/-- The network comes up. -/
def comesUp : Turn Unit := ⟨.networkAvailable (), 0, 0, {}⟩

/-- The network comes up `2 ^ 31 + 1` times, then the first thread reports. -/
def outliving : List (Turn Unit) :=
  List.replicate (2 ^ 31 + 1) comesUp ++ [⟨.discoveryFinished 1 none, 0, 0, {}⟩]

/-- The network has come up `n + 1` times, and no thread has reported. -/
private structure Circling (n : Nat) (m : WebSocketManager Unit) : Prop where
  isRunning : m.isRunning = true
  preferences : m.preferences = ⟨none, none⟩
  state : m.scheduler.state = .windowOpen
  webSocket : m.webSocket = none
  uptime : m.uptime = 0
  generation : m.attemptGeneration = BitVec.ofNat 32 (2 * n + 1)
  increments : m.history.increments = 2 * n + 1
  discoveries : ∃ first later, m.discoveries = first :: later ∧ first.generation = 1 ∧
    first.serial = 1 ∧ (n = 0 ∨ ∃ last ∈ later, last.generation = m.attemptGeneration ∧
      last.serial = m.history.increments)

/-- One more network. -/
private theorem Circling.turn {n : Nat} {m : WebSocketManager Unit} (h : Circling n m) :
    Circling (n + 1) (m.turn lenient comesUp) := by
  obtain ⟨first, later, hdiscoveries, hgeneration, hserial, -⟩ := h.discoveries
  have hturn : m.turn lenient comesUp =
      { ({ m with activeNetwork := some () }.dispatch 0
          (ConnectionScheduler.openWindow {} 0 true) : WebSocketManager Unit) with
        uptime := 0 } := by
    rw [WebSocketManager.turn, if_pos (by rw [h.uptime]; decide), WebSocketManager.handle]
    dsimp only [comesUp]
    rw [if_neg (by simp [h.isRunning]), ConnectionScheduler.onNetworkAvailable]
    simp only [h.state]
  have htarget : Target.onWindowOpened m.preferences.manualServerUrl = .autoDiscovery := by
    rw [h.preferences]
    rfl
  have hnumber : m.attemptGeneration + 1 + 1 = BitVec.ofNat 32 (2 * (n + 1) + 1) := by
    rw [h.generation]
    have hnext := BitVec.ofNat_add (n := 32) (2 * n + 1) 1
    exact ((BitVec.ofNat_add (2 * n + 1 + 1) 1).trans (congrArg (· + 1#32) hnext)).symm
  have hincrements : m.history.increments + 1 + 1 = 2 * (n + 1) + 1 := by
    rw [h.increments]
    omega
  rw [hturn]
  simp only [dispatch, ConnectionScheduler.openWindow, if_true, List.cons_append, List.nil_append,
    List.foldl_cons, List.foldl_nil, perform, startAttempt, cancelAttempt, htarget, mark,
    startAutoDiscoveryAttempt]
  refine ⟨h.isRunning, h.preferences, rfl, rfl, rfl, hnumber, hincrements, ?_⟩
  refine ⟨{ first with cancelled := true }, (later.map fun d => { d with cancelled := true }) ++
    [⟨m.attemptGeneration + 1 + 1, m.history.increments + 1 + 1, false⟩], ?_, hgeneration, hserial,
    .inr ⟨_, List.mem_append_right _ (List.mem_singleton_self _), rfl, rfl⟩⟩
  rw [hdiscoveries]
  rfl

/-- And as many as there are. -/
private theorem circling (n : Nat) :
    Circling n (Run.exec (turn lenient) (connect ⟨none, none⟩)
      (List.replicate (n + 1) comesUp)) := by
  induction n with
  | zero =>
    exact ⟨rfl, rfl, rfl, rfl, rfl, rfl, rfl, ⟨1, 1, false⟩, [], rfl, rfl, rfl, .inl rfl⟩
  | succ n ih =>
    rw [List.replicate_succ', Run.exec_append]
    exact ih.turn

/-- After `2 ^ 31` more networks the first thread has the current generation again. -/
private theorem Circling.report {m : WebSocketManager Unit} (h : Circling (2 ^ 31) m) :
    (m.turn lenient ⟨.discoveryFinished 1 none, 0, 0, {}⟩).scheduler.state = .windowOpen ∧
      1 < (m.turn lenient ⟨.discoveryFinished 1 none, 0, 0, {}⟩).stages := by
  obtain ⟨first, later, hdiscoveries, hgeneration, hserial, hlast⟩ := h.discoveries
  obtain ⟨last, hmem, hvalid, hincrements⟩ := hlast.resolve_left (by decide)
  have hfind : m.discoveries.find? (fun d => d.serial = 1) = some first := by
    rw [hdiscoveries, List.find?_cons_of_pos (by simp [hserial])]
  have hcurrent : m.attemptGeneration = 1 := by
    rw [h.generation]
    rfl
  have hturn : m.turn lenient ⟨.discoveryFinished 1 none, 0, 0, {}⟩ =
      { (m.reported 1).doConnect (lenient.getCachedServerUrl m.preferences) with uptime := 0 } := by
    rw [WebSocketManager.turn, if_pos (by rw [h.uptime]; decide), WebSocketManager.handle]
    simp only [hfind]
    rw [onDiscovered, if_neg (by simp [h.isRunning, hgeneration, hcurrent, h.state])]
    rfl
  have hreported : last ∈ (m.reported 1).discoveries := by
    refine List.mem_filter.mpr ⟨hdiscoveries ▸ List.mem_cons_of_mem _ hmem, ?_⟩
    rw [hincrements, h.increments]
    decide
  rw [hturn, doConnect_eq (m := m.reported 1) h.isRunning]
  refine ⟨h.state, ?_⟩
  have hpos : 0 < (m.reported 1).discoveries.countP fun d => d.generation = m.attemptGeneration :=
    List.countP_pos_iff.mpr ⟨last, hreported, decide_eq_true hvalid⟩
  change 1 < _ + (m.reported 1).discoveries.countP (fun d => d.generation = m.attemptGeneration) + 1
  omega

/-- While one discovery thread is under way the network comes up `2 ^ 31 + 1` times, then the thread
has the current generation again: its report opens a socket although it was cancelled, and the
thread that was started last is still to report. -/
theorem generation_recurs :
    (Run.exec (turn lenient) (connect ⟨none, none⟩) outliving).scheduler.state = .windowOpen ∧
      1 < (Run.exec (turn lenient) (connect ⟨none, none⟩) outliving).stages := by
  have h := circling (2 ^ 31)
  rw [outliving, Run.exec_append, Run.exec_cons, Run.exec_nil]
  exact h.report

end StylyMdm.Client.Connection.WebSocketManager
