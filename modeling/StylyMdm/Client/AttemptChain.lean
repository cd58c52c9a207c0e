import StylyMdm.Library.Run
import StylyMdm.Client.WebSocketManager

/-!
# One chain of attempts

What the connection window is for: outside of a window and of a connection the client is silent,
and in a window there is one attempt after the other, never two at a time. `Phase` is the client as
such a chain, and `Phase.Move` what each message may do to it. `Good.turn` says that the manager
follows the chain, turn by turn: what the scheduler believes to be under way is under way, and what
was cancelled is recognised when it reports.

A socket that was cancelled is recognised by its identity. A discovery thread is recognised by a
number of 32 bits, so the manager follows the chain as long as no thread outlives `2 ^ 32` later
increments of `attemptGeneration` (`Young`).

The invariant has three parts. `Numbered` is about the numbers of threads and sockets: the threads
have different ones, and exactly the thread of the current generation has not been cancelled.
`Marked` is about what the history says of the windows. `InPhase` says that the pending timers, the
threads that are not cancelled (`live`) and the socket are those of the phase. `Good` puts them
together. There is one lemma for each operation and then one for each message.
-/

namespace StylyMdm.Client.Connection

/-! ### The chain -/

/-- What an open window waits for. -/
inductive Stage
  | discovering
  | connecting
  | waiting
deriving DecidableEq

/-- Where a chain of connection attempts stands: no window, an open window with the stage of its
attempt, or a connection. -/
inductive Phase
  | quiet
  | window (stage : Stage)
  | connected
deriving DecidableEq

namespace Phase

/-- The states of the scheduler in this phase. -/
def Admits : Phase → State → Prop
  | quiet, state => state = .idle ∨ state = .silent
  | window _, state => state = .windowOpen
  | connected, state => state = .connected

/-- The timers that are pending, in the window with this number. -/
def timers (number : Nat) : Phase → Multiset Timer
  | quiet | connected => 0
  | window .waiting => {.retryElapsed, .windowExpired number}
  | window _ => {.windowExpired number}

/-- How many discovery threads are under way that were not cancelled. -/
def discoveries : Phase → Nat
  | window .discovering => 1
  | _ => 0

/-- Is there a socket? -/
def hasSocket : Phase → Bool
  | window .connecting | connected => true
  | _ => false

/-- What a message may do to the chain. An attempt starts with a discovery or with a socket. -/
inductive Move {Network : Type*} : Message Network → Phase → Phase → Prop
  | stay {message φ} : Move message φ φ
  | available {network φ stage} (h : stage ≠ .waiting) :
    Move (.networkAvailable network) φ (window stage)
  | lost {network φ} : Move (.networkLost network) φ quiet
  | found {serial discovered} :
    Move (.discoveryFinished serial discovered) (window .discovering) (window .connecting)
  | opened {socket} : Move (.socketOpened socket) (window .connecting) connected
  | failed {socket} : Move (.socketGone socket) (window .connecting) (window .waiting)
  | failedLate {socket} : Move (.socketGone socket) (window .connecting) quiet
  | dropped {socket stage} (h : stage ≠ .waiting) :
    Move (.socketGone socket) connected (window stage)
  | retried {stage} (h : stage ≠ .waiting) :
    Move .retryElapsed (window .waiting) (window stage)
  | expired {stage} : Move .windowExpired (window stage) quiet

end Phase

namespace WebSocketManager

variable {Network : Type*} {m : WebSocketManager Network}

/-- How many discovery threads are under way that were not cancelled. -/
def live (m : WebSocketManager Network) : Nat := m.discoveries.countP fun d => !d.cancelled

/-- The manager does what the chain says in this phase. -/
structure InPhase (m : WebSocketManager Network) (φ : Phase) : Prop where
  state : φ.Admits m.scheduler.state
  timers : m.timers.pending = φ.timers m.history.windows
  live : m.live = φ.discoveries
  webSocket : m.webSocket.isSome = φ.hasSocket

/-- No thread is still under way after `2 ^ 32` increments. -/
def Young (m : WebSocketManager Network) : Prop :=
  ∀ d ∈ m.discoveries, m.history.increments < d.serial + 2 ^ 32

/-! ### Threads and sockets by their numbers -/

/-- A thread has the number of the increment before it was started; it was cancelled exactly when
there was a later one. What was cancelled is not the current socket. -/
structure Numbered (m : WebSocketManager Network) : Prop where
  isRunning : m.isRunning = true
  generation : m.attemptGeneration = BitVec.ofNat 32 m.history.increments
  discovery : ∀ d ∈ m.discoveries, d.generation = BitVec.ofNat 32 d.serial ∧
    d.serial ≤ m.history.increments ∧ (d.cancelled = false ↔ d.serial = m.history.increments)
  nodup : (m.discoveries.map Discovery.serial).Nodup
  webSocket : ∀ socket ∈ m.webSocket, socket < m.requests.length
  cancelled : ∀ socket ∈ m.history.cancelled,
    socket < m.requests.length ∧ m.webSocket ≠ some socket

/-- No discovery is live when all are cancelled. -/
theorem live_eq_zero_iff : m.live = 0 ↔ ∀ d ∈ m.discoveries, d.cancelled = true := by
  simp [live]

/-- A new manager has no discovery. -/
theorem Numbered.connect (preferences : Preferences) :
    (connect preferences : WebSocketManager Network).Numbered where
  isRunning := rfl
  generation := rfl
  discovery := by simp [WebSocketManager.connect]
  nodup := by simp [WebSocketManager.connect]
  webSocket := by simp [WebSocketManager.connect]
  cancelled := by simp [WebSocketManager.connect]

/-- The numbers are not those of the scheduler, its timers and windows or the environment. -/
theorem Numbered.frame {scheduler : ConnectionScheduler} {target : Target}
    {network : Option Network} {timers : Looper.Queue Timer} {preferences : Preferences}
    {uptime : Int} {windows : Nat} {marks : List Mark} (h : m.Numbered) :
    Numbered { m with
      scheduler := scheduler
      target := target
      activeNetwork := network
      timers := timers
      preferences := preferences
      uptime := uptime
      history := { m.history with windows := windows, marks := marks } } :=
  ⟨h.isRunning, h.generation, h.discovery, h.nodup, h.webSocket, h.cancelled⟩

/-- A cancelled attempt leaves the numbers in order. -/
theorem Numbered.cancelAttempt (h : m.Numbered) : m.cancelAttempt.Numbered where
  isRunning := h.isRunning
  generation := by
    rw [WebSocketManager.cancelAttempt, h.generation]
    exact (BitVec.ofNat_add _ 1).symm
  discovery := by
    intro d hd
    obtain ⟨d, hmem, rfl⟩ := List.mem_map.mp hd
    obtain ⟨hgeneration, hle, -⟩ := h.discovery d hmem
    refine ⟨hgeneration, Nat.le_succ_of_le hle, ?_⟩
    rw [Bool.true_eq_false, false_iff]
    exact (Nat.lt_succ_of_le hle).ne
  nodup := by
    rw [WebSocketManager.cancelAttempt, List.map_map]
    exact h.nodup
  webSocket := by simp [WebSocketManager.cancelAttempt]
  cancelled := by
    intro socket hsocket
    refine ⟨?_, by simp [WebSocketManager.cancelAttempt]⟩
    rcases List.mem_append.mp hsocket with hsocket | hsocket
    · exact (h.cancelled socket hsocket).1
    · exact h.webSocket socket (Option.mem_toList.mp hsocket)

/-- And no discovery live. -/
@[simp] theorem live_cancelAttempt : m.cancelAttempt.live = 0 := by
  simp [live, cancelAttempt]

/-- A discovery of a new generation has a number of its own. -/
theorem Numbered.startAutoDiscoveryAttempt (h : m.Numbered) (hlive : m.live = 0) :
    m.startAutoDiscoveryAttempt.Numbered where
  isRunning := h.isRunning
  generation := by
    rw [WebSocketManager.startAutoDiscoveryAttempt, h.generation]
    exact (BitVec.ofNat_add _ 1).symm
  discovery := by
    intro d hd
    rcases List.mem_append.mp hd with hd | hd
    · obtain ⟨hgeneration, hle, -⟩ := h.discovery d hd
      refine ⟨hgeneration, Nat.le_succ_of_le hle, ?_⟩
      rw [live_eq_zero_iff.mp hlive d hd, Bool.true_eq_false, false_iff]
      exact (Nat.lt_succ_of_le hle).ne
    · rw [List.mem_singleton.mp hd, h.generation]
      exact ⟨(BitVec.ofNat_add _ 1).symm, le_rfl, iff_of_true rfl rfl⟩
  nodup := by
    rw [WebSocketManager.startAutoDiscoveryAttempt, List.map_append, List.nodup_append]
    refine ⟨h.nodup, List.nodup_singleton _, fun serial hserial later hlater => ?_⟩
    obtain ⟨d, hd, rfl⟩ := List.mem_map.mp hserial
    have hle := (h.discovery d hd).2.1
    rw [List.map_singleton, List.mem_singleton] at hlater
    rw [hlater]
    exact (Nat.lt_succ_of_le hle).ne
  webSocket := h.webSocket
  cancelled := h.cancelled

/-- It is one more that is live. -/
theorem live_startAutoDiscoveryAttempt : m.startAutoDiscoveryAttempt.live = m.live + 1 := by
  simp [live, startAutoDiscoveryAttempt]

/-- A running manager opens a socket. -/
theorem doConnect_eq (h : m.isRunning = true) (url : String) :
    m.doConnect url =
      { m.mark (.socket m.history.windows) with
        webSocket := some m.requests.length
        requests := m.requests ++ [url] } := by
  rw [doConnect, h]
  rfl

/-- Which is no discovery. -/
theorem Numbered.doConnect (h : m.Numbered) (url : String) : (m.doConnect url).Numbered := by
  rw [doConnect_eq h.isRunning]
  refine ⟨h.isRunning, h.generation, h.discovery, h.nodup, ?_, ?_⟩
  · intro socket hsocket
    rw [Option.mem_some_iff] at hsocket
    rw [List.length_append, List.length_singleton]
    omega
  · intro socket hsocket
    have hlt := (h.cancelled socket hsocket).1
    rw [List.length_append, List.length_singleton, Ne, Option.some_inj]
    exact ⟨by omega, by omega⟩

end WebSocketManager

/-! ### Windows by their numbers -/

/-- The later mark does not belong to a window whose timer has fired. -/
def Mark.Timely (later earlier : Mark) : Prop :=
  ∀ window, earlier = .expired window → later ≠ .attempt window ∧ later ≠ .socket window

namespace WebSocketManager

variable {Network : Type*} {m : WebSocketManager Network} {later now : Int} {values : Values}

/-- Nothing happens in a window whose timer has fired, and no such window is open. -/
structure Marked (m : WebSocketManager Network) : Prop where
  timely : m.history.marks.Pairwise Mark.Timely
  expired : ∀ window, .expired window ∈ m.history.marks → window ≤ m.history.windows
  closed : m.scheduler.state = .windowOpen →
    ∀ window, .expired window ∈ m.history.marks → window ≠ m.history.windows

/-- A mark of the open window. -/
theorem Marked.cons {mark : Mark} (h : m.Marked) (hopen : m.scheduler.state = .windowOpen)
    (hmark : mark = .attempt m.history.windows ∨ mark = .socket m.history.windows) :
    (m.mark mark).Marked := by
  have hnew : ∀ window, mark ≠ .expired window := by
    rintro window rfl
    simp at hmark
  have hmem : ∀ window, .expired window ∈ mark :: m.history.marks →
      .expired window ∈ m.history.marks := fun window hwindow =>
    (List.mem_cons.mp hwindow).resolve_left (hnew window).symm
  refine ⟨List.pairwise_cons.mpr ⟨fun earlier hearlier window => ?_, h.timely⟩,
    fun window hwindow =>
    h.expired window (hmem window hwindow), fun _ window hwindow =>
    h.closed hopen window (hmem window hwindow)⟩
  rintro rfl
  have hne := h.closed hopen window hearlier
  rcases hmark with rfl | rfl
  · simpa using Ne.symm hne
  · simpa using Ne.symm hne

/-! ### The operations -/

/-- The manager does what the chain says, and its numbers are in order. -/
structure Good (m : WebSocketManager Network) (φ : Phase) : Prop where
  numbered : m.Numbered
  marked : m.Marked
  inPhase : m.InPhase φ

/-- The window is open, and nothing else is under way. -/
structure Ready (m : WebSocketManager Network) : Prop where
  numbered : m.Numbered
  marked : m.Marked
  state : m.scheduler.state = .windowOpen
  timers : m.timers.pending = {.windowExpired m.history.windows}
  live : m.live = 0
  webSocket : m.webSocket = none

/-- A manager that is ready may connect. -/
theorem Ready.doConnect (h : m.Ready) (url : String) :
    (m.doConnect url).Good (.window .connecting) := by
  have hmarked := h.marked.cons h.state (.inr rfl)
  refine ⟨h.numbered.doConnect url, ?_, ?_⟩
  · rw [doConnect_eq h.numbered.isRunning]
    exact ⟨hmarked.timely, hmarked.expired, hmarked.closed⟩
  · rw [doConnect_eq h.numbered.isRunning]
    exact ⟨h.state, h.timers, h.live, rfl⟩

/-- Or discover. -/
theorem Ready.startAutoDiscoveryAttempt (h : m.Ready) :
    m.startAutoDiscoveryAttempt.Good (.window .discovering) where
  numbered := h.numbered.startAutoDiscoveryAttempt h.live
  marked := ⟨h.marked.timely, h.marked.expired, h.marked.closed⟩
  inPhase := by
    refine ⟨h.state, h.timers, ?_, ?_⟩
    · rw [live_startAutoDiscoveryAttempt, h.live]
      rfl
    · exact congrArg Option.isSome h.webSocket

/-- An attempt is a stage of the window. -/
theorem Ready.startAttempt (h : m.Ready) :
    ∃ stage, stage ≠ .waiting ∧ m.startAttempt.Good (.window stage) := by
  have hmarked := h.marked.cons h.state (.inl rfl)
  have hready : (m.mark (.attempt m.history.windows)).Ready :=
    ⟨h.numbered.frame, hmarked, h.state, h.timers, h.live, h.webSocket⟩
  unfold WebSocketManager.startAttempt
  cases m.target with
  | manual url => exact ⟨.connecting, by decide, hready.doConnect url⟩
  | autoDiscovery => exact ⟨.discovering, by decide, hready.startAutoDiscoveryAttempt⟩

variable (later now values) in
/-- Opening a window when nothing is under way. -/
theorem good_openWindow (hnumbered : m.Numbered) (hmarked : m.Marked) (hlive : m.live = 0)
    (hsocket : m.webSocket = none) :
    ∃ stage, stage ≠ .waiting ∧
      (m.dispatch later (ConnectionScheduler.openWindow values now false)).Good
        (.window stage) := by
  have hready : Ready { m with
      scheduler := (ConnectionScheduler.openWindow values now false).1
      timers := Looper.Queue.empty.post (long (later + values.connectWindowMs))
        (.windowExpired (m.history.windows + 1))
      target := .onWindowOpened m.preferences.manualServerUrl
      history := { m.history with windows := m.history.windows + 1 } } := by
    refine ⟨hnumbered.frame, ⟨hmarked.timely, fun window hwindow =>
      Nat.le_succ_of_le (hmarked.expired window hwindow), fun _ window hwindow =>
      (Nat.lt_succ_of_le (hmarked.expired window hwindow)).ne⟩, rfl, ?_, hlive, hsocket⟩
    rw [Looper.Queue.pending_post, Looper.Queue.pending_empty]
    rfl
  exact hready.startAttempt

variable (later now values) in
/-- Opening a window in place of another one. -/
theorem good_reopenWindow (hnumbered : m.Numbered) (hmarked : m.Marked) :
    ∃ stage, stage ≠ .waiting ∧
      (m.dispatch later (ConnectionScheduler.openWindow values now true)).Good
        (.window stage) :=
  good_openWindow (m := m.cancelAttempt) later now values hnumbered.cancelAttempt
    ⟨hmarked.timely, hmarked.expired, hmarked.closed⟩ live_cancelAttempt rfl

/-- Falling silent. -/
theorem good_quiet {s : ConnectionScheduler} (hnumbered : m.Numbered)
    (htimely : m.history.marks.Pairwise Mark.Timely)
    (hexpired : ∀ window, .expired window ∈ m.history.marks → window ≤ m.history.windows)
    (hs : s.state = .idle ∨ s.state = .silent) :
    Good ({ m with scheduler := s, timers := .empty } : WebSocketManager Network).cancelAttempt
      .quiet where
  numbered := Numbered.cancelAttempt hnumbered.frame
  marked := by
    refine ⟨htimely, hexpired, fun hopen => ?_⟩
    rcases hs with hs | hs
    · exact absurd (hs.symm.trans hopen) (by decide)
    · exact absurd (hs.symm.trans hopen) (by decide)
  inPhase := ⟨hs, rfl, live_cancelAttempt, rfl⟩

/-! ### Timers and threads -/

section Pending

variable {φ : Phase}

/-- A phase without a socket has none. -/
theorem Good.webSocket_eq_none (h : m.Good φ) (hφ : φ.hasSocket = false) :
    m.webSocket = none := by
  rw [← Option.not_isSome_iff_eq_none, h.inPhase.webSocket, hφ]
  exact Bool.false_ne_true

/-- The chain does not depend on which network is active, on the preferences or on the clock. -/
theorem Good.withEnvironment (h : m.Good φ) (network : Option Network)
    (preferences : Preferences) (uptime : Int) :
    Good { m with activeNetwork := network, preferences := preferences, uptime := uptime } φ :=
  ⟨h.numbered.frame, ⟨h.marked.timely, h.marked.expired, h.marked.closed⟩,
    ⟨h.inPhase.state, h.inPhase.timers, h.inPhase.live, h.inPhase.webSocket⟩⟩

/-- The retry timer is only pending in the stage that waits for it. -/
theorem Good.of_retryElapsed {timers : Looper.Queue Timer} (h : m.Good φ)
    (hnext : m.timers.next now = some (.retryElapsed, timers)) :
    φ = .window .waiting ∧ timers.pending = {.windowExpired m.history.windows} := by
  have hpending := (Looper.Queue.pending_of_next hnext).symm.trans h.inPhase.timers
  have hsingle (rest : Multiset Timer) :
      .retryElapsed ::ₘ rest ≠ {.windowExpired m.history.windows} := by
    rintro hrest
    cases (Multiset.singleton_eq_cons_iff _).mp hrest.symm with
    | intro hne _ => cases hne
  cases φ with
  | quiet => exact absurd hpending (Multiset.cons_ne_zero)
  | connected => exact absurd hpending (Multiset.cons_ne_zero)
  | window stage =>
    cases stage with
    | discovering => exact absurd hpending (hsingle _)
    | connecting => exact absurd hpending (hsingle _)
    | waiting => exact ⟨rfl, (Multiset.cons_inj_right _).mp hpending⟩

/-- The timer of a window is only pending in this window. -/
theorem Good.of_windowExpired {window : Nat} {timers : Looper.Queue Timer} (h : m.Good φ)
    (hnext : m.timers.next now = some (.windowExpired window, timers)) :
    m.scheduler.state = .windowOpen ∧ (∃ stage, φ = .window stage) ∧
      window = m.history.windows := by
  have hmem : .windowExpired window ∈ φ.timers m.history.windows := by
    rw [← h.inPhase.timers, Looper.Queue.pending_of_next hnext]
    exact Multiset.mem_cons_self _ _
  have hstate := h.inPhase.state
  cases φ with
  | quiet => exact absurd hmem (Multiset.notMem_zero _)
  | connected => exact absurd hmem (Multiset.notMem_zero _)
  | window stage =>
    refine ⟨hstate, ⟨stage, rfl⟩, ?_⟩
    cases stage with
    | discovering => simpa [Phase.timers] using hmem
    | connecting => simpa [Phase.timers] using hmem
    | waiting => simpa [Phase.timers] using hmem

/-- A thread has the current generation exactly when it was not cancelled, if it is not too old. -/
theorem Numbered.generation_eq_iff {d : Discovery} (h : m.Numbered) (hyoung : m.Young)
    (hd : d ∈ m.discoveries) : d.generation = m.attemptGeneration ↔ d.cancelled = false := by
  obtain ⟨hgeneration, hle, hcancelled⟩ := h.discovery d hd
  have hlt := hyoung d hd
  rw [hgeneration, h.generation, hcancelled]
  constructor
  · intro heq
    have hmod := congrArg BitVec.toNat heq
    rw [BitVec.toNat_ofNat, BitVec.toNat_ofNat] at hmod
    omega
  · exact congrArg _

/-- The manager after the thread has reported, if the report changes nothing else. -/
def reported (m : WebSocketManager Network) (serial : Nat) : WebSocketManager Network :=
  { m with discoveries := m.discoveries.filter fun d => d.serial ≠ serial }

/-- A report of a discovery leaves the numbers in order. -/
theorem Numbered.reported (h : m.Numbered) (serial : Nat) : (m.reported serial).Numbered :=
  ⟨h.isRunning, h.generation, fun d hd => h.discovery d (List.mem_of_mem_filter hd),
    h.nodup.sublist (List.filter_sublist.map _), h.webSocket, h.cancelled⟩

/-- The report of a cancelled thread is none of a live one. -/
theorem Numbered.live_reported_of_cancelled {d : Discovery} (h : m.Numbered)
    (hd : d ∈ m.discoveries) (hcancelled : d.cancelled = true) :
    (m.reported d.serial).live = m.live := by
  rw [live, live, WebSocketManager.reported, List.countP_filter]
  refine List.countP_congr fun e he => ?_
  rw [Bool.and_eq_true, decide_eq_true_iff, and_iff_left_iff_imp]
  rintro hlive hserial
  rw [List.inj_on_of_nodup_map h.nodup he hd hserial, hcancelled] at hlive
  exact Bool.false_ne_true hlive

/-- There is no second live thread. -/
theorem Numbered.live_reported {d : Discovery} (h : m.Numbered) (hd : d ∈ m.discoveries)
    (hlive : d.cancelled = false) : (m.reported d.serial).live = 0 := by
  rw [live_eq_zero_iff]
  intro e he
  obtain ⟨hmem, hne⟩ := List.mem_filter.mp he
  rw [decide_eq_true_iff, ((h.discovery d hd).2.2).mp hlive] at hne
  rw [← Bool.not_eq_false, (h.discovery e hmem).2.2]
  exact hne

/-- A discovery is found by its number. -/
theorem Numbered.find?_eq {d : Discovery} (h : m.Numbered) (hd : d ∈ m.discoveries) :
    (m.discoveries.find? fun e => e.serial = d.serial) = some d := by
  cases hfind : m.discoveries.find? fun e => e.serial = d.serial with
  | none => simpa using List.find?_eq_none.mp hfind d hd
  | some e =>
    have hserial := List.find?_some hfind
    rw [decide_eq_true_iff] at hserial
    rw [List.inj_on_of_nodup_map h.nodup (List.mem_of_find?_eq_some hfind) hd hserial]

end Pending

/-! ### One message -/

section Handle

variable [DecidableEq Network] {build : Build} {t : Turn Network} {φ : Phase}

/-- A network opens a window. -/
theorem Good.networkAvailable {network : Network} (h : m.Good φ)
    (ht : t.message = .networkAvailable network) :
    ∃ φ', (m.handle build t).Good φ' ∧ φ.Move t.message φ' := by
  have hgood := h.withEnvironment (some network) m.preferences m.uptime
  have hstate := h.inPhase.state
  rw [handle, ht]
  dsimp only
  rw [if_neg (by simp [h.numbered.isRunning]), ConnectionScheduler.onNetworkAvailable]
  cases φ with
  | quiet =>
    obtain ⟨stage, hstage, hopened⟩ := good_openWindow t.later t.now t.values
       hgood.numbered hgood.marked h.inPhase.live (h.webSocket_eq_none rfl)
    refine ⟨_, ?_, .available hstage⟩
    rcases hstate with hstate | hstate
    · simpa only [hstate] using hopened
    · simpa only [hstate] using hopened
  | window stage =>
    obtain ⟨stage, hstage, hopened⟩ := good_reopenWindow t.later t.now t.values
       hgood.numbered hgood.marked
    refine ⟨_, ?_, .available hstage⟩
    simpa only [show m.scheduler.state = .windowOpen from hstate] using hopened
  | connected =>
    refine ⟨_, ?_, .stay⟩
    simp only [show m.scheduler.state = .connected from hstate]
    exact hgood

/-- Its loss ends whatever is in progress. -/
theorem Good.networkLost {network : Network} (h : m.Good φ)
    (ht : t.message = .networkLost network) :
    ∃ φ', (m.handle build t).Good φ' ∧ φ.Move t.message φ' := by
  rw [handle, ht]
  dsimp only
  split
  · exact ⟨φ, h, .stay⟩
  · refine ⟨.quiet, ?_, .lost⟩
    have hgood := h.withEnvironment none m.preferences m.uptime
    have hquiet := good_quiet (s := { m.scheduler with state := .idle }) hgood.numbered
      h.marked.timely h.marked.expired (.inl rfl)
    rw [ConnectionScheduler.onNetworkLost]
    cases hstate : m.scheduler.state with
    | idle =>
      have hφ := h.inPhase.state
      rw [hstate] at hφ
      cases φ with
      | quiet => exact hgood
      | window stage => cases hφ
      | connected => cases hφ
    | windowOpen => exact hquiet
    | connected => exact hquiet
    | silent => exact hquiet

/-- A socket opens, which is the current one or of no account. -/
theorem Good.socketOpened {socket : Nat} (h : m.Good φ)
    (ht : t.message = .socketOpened socket) :
    ∃ φ', (m.handle build t).Good φ' ∧ φ.Move t.message φ' := by
  rw [handle, ht]
  dsimp only
  split
  · exact ⟨φ, h, .stay⟩
  · rename_i hsocket
    rw [not_not] at hsocket
    have hconnected (hlive : m.live = 0) :
        (m.dispatch t.later m.scheduler.onConnected).Good .connected :=
      ⟨h.numbered.frame, ⟨h.marked.timely, h.marked.expired, fun hopen => nomatch hopen⟩,
        ⟨rfl, rfl, hlive, congrArg Option.isSome hsocket⟩⟩
    have hφ : φ.hasSocket = true := by
      rw [← h.inPhase.webSocket, hsocket]
      rfl
    cases φ with
    | quiet => cases hφ
    | connected => exact ⟨.connected, hconnected h.inPhase.live, .stay⟩
    | window stage =>
      cases stage with
      | connecting => exact ⟨.connected, hconnected h.inPhase.live, .opened⟩
      | discovering => cases hφ
      | waiting => cases hφ

/-- A socket is gone, and a retry is due or a window opens. -/
theorem Good.socketGone {socket : Nat} (h : m.Good φ) (ht : t.message = .socketGone socket) :
    ∃ φ', (m.handle build t).Good φ' ∧ φ.Move t.message φ' := by
  rw [handle, ht]
  dsimp only
  split
  · exact ⟨φ, h, .stay⟩
  · rename_i hsocket
    rw [not_not] at hsocket
    have hφ : φ.hasSocket = true := by
      rw [← h.inPhase.webSocket, hsocket]
      rfl
    have hnumbered : Numbered { m with webSocket := none } :=
      ⟨h.numbered.isRunning, h.numbered.generation, h.numbered.discovery, h.numbered.nodup,
        by simp, fun socket hsocket => ⟨(h.numbered.cancelled socket hsocket).1, by simp⟩⟩
    have hmarked : Marked { m with webSocket := none } :=
      ⟨h.marked.timely, h.marked.expired, h.marked.closed⟩
    have hstate := h.inPhase.state
    rw [ConnectionScheduler.onSocketDisconnected]
    cases φ with
    | quiet => cases hφ
    | connected =>
      obtain ⟨stage, hstage, hopened⟩ := good_openWindow t.later t.now t.values
        hnumbered hmarked h.inPhase.live rfl
      refine ⟨_, ?_, .dropped hstage⟩
      simpa only [show m.scheduler.state = .connected from hstate] using hopened
    | window stage =>
      cases stage with
      | discovering => cases hφ
      | waiting => cases hφ
      | connecting =>
        simp only [show m.scheduler.state = .windowOpen from hstate]
        split
        · have hquiet := good_quiet (s := { m.scheduler with state := .silent }) hnumbered
            h.marked.timely h.marked.expired (.inr rfl)
          exact ⟨.quiet, hquiet, .failedLate⟩
        · refine ⟨.window .waiting, ⟨?_, ?_, ?_⟩, .failed⟩
          · exact hnumbered.frame
          · exact ⟨h.marked.timely, h.marked.expired, h.marked.closed⟩
          · refine ⟨hstate, ?_, h.inPhase.live, rfl⟩
            refine Looper.Queue.pending_post.trans ?_
            exact congrArg (Timer.retryElapsed ::ₘ ·) h.inPhase.timers

/-- A retry starts the next attempt of the chain. -/
theorem Good.retryElapsed (h : m.Good φ) (ht : t.message = .retryElapsed) :
    ∃ φ', (m.handle build t).Good φ' ∧ φ.Move t.message φ' := by
  rw [handle, ht]
  dsimp only
  rcases hnext : m.timers.next t.now with _ | ⟨_ | _, timers⟩
  · exact ⟨φ, h, .stay⟩
  · obtain ⟨rfl, hpending⟩ := h.of_retryElapsed hnext
    have hstate : m.scheduler.state = .windowOpen := h.inPhase.state
    have hready : Ready { m with timers := timers } :=
      ⟨h.numbered.frame, ⟨h.marked.timely, h.marked.expired, h.marked.closed⟩, hstate, hpending,
        h.inPhase.live, h.webSocket_eq_none rfl⟩
    obtain ⟨stage, hstage, hgood⟩ := hready.startAttempt
    refine ⟨_, ?_, .retried hstage⟩
    simp only [ConnectionScheduler.onRetryElapsed, hstate]
    exact hgood
  · exact ⟨φ, h, .stay⟩

/-- A window ends. -/
theorem Good.windowExpired (h : m.Good φ) (ht : t.message = .windowExpired) :
    ∃ φ', (m.handle build t).Good φ' ∧ φ.Move t.message φ' := by
  rw [handle, ht]
  dsimp only
  rcases hnext : m.timers.next t.now with _ | ⟨_ | window, timers⟩
  · exact ⟨φ, h, .stay⟩
  · exact ⟨φ, h, .stay⟩
  · obtain ⟨hstate, ⟨stage, rfl⟩, rfl⟩ := h.of_windowExpired hnext
    refine ⟨.quiet, ?_, .expired⟩
    have hnumbered : Numbered { m.mark (.expired m.history.windows) with timers := timers } :=
      h.numbered.frame
    have htimely : (m.mark (.expired m.history.windows)).history.marks.Pairwise Mark.Timely :=
      List.pairwise_cons.mpr ⟨fun _ _ _ _ => ⟨nofun, nofun⟩, h.marked.timely⟩
    have hquiet := good_quiet (s := { m.scheduler with state := .silent }) hnumbered htimely
      (fun window hwindow => by
        rcases List.mem_cons.mp hwindow with hwindow | hwindow
        · exact (Mark.expired.inj hwindow).le
        · exact h.marked.expired window hwindow)
      (.inr rfl)
    simp only [ConnectionScheduler.onWindowExpired, hstate]
    exact hquiet

/-- What a cancelled thread reports is dropped. -/
theorem Numbered.handle_of_cancelled {d : Discovery} {discovered : Option String}
    (h : m.Numbered) (hyoung : m.Young) (hd : d ∈ m.discoveries) (hcancelled : d.cancelled = true)
    (ht : t.message = .discoveryFinished d.serial discovered) :
    m.handle build t = m.reported d.serial := by
  have hgeneration : d.generation ≠ m.attemptGeneration := by
    rw [Ne, h.generation_eq_iff hyoung hd, hcancelled]
    exact Bool.true_eq_false.mp
  rw [handle, ht]
  simp only [h.find?_eq hd]
  rw [onDiscovered, if_pos (.inr (.inl hgeneration))]
  rfl

/-- A discovery ends, and counts if it is of the current generation. -/
theorem Good.discoveryFinished {serial : Nat} {discovered : Option String} (h : m.Good φ)
    (hyoung : m.Young) (ht : t.message = .discoveryFinished serial discovered) :
    ∃ φ', (m.handle build t).Good φ' ∧ φ.Move t.message φ' := by
  by_cases hmem : ∃ d ∈ m.discoveries, d.serial = serial
  · obtain ⟨d, hd, rfl⟩ := hmem
    have hnumbered := h.numbered.reported d.serial
    have hmarked : (m.reported d.serial).Marked :=
      ⟨h.marked.timely, h.marked.expired, h.marked.closed⟩
    cases hcancelled : d.cancelled with
    | true =>
      rw [h.numbered.handle_of_cancelled hyoung hd hcancelled ht]
      refine ⟨φ, ⟨hnumbered, hmarked, h.inPhase.state, h.inPhase.timers, ?_,
        h.inPhase.webSocket⟩, .stay⟩
      rw [h.numbered.live_reported_of_cancelled hd hcancelled]
      exact h.inPhase.live
    | false =>
      -- a live thread is the one the window waits for
      have hφ : φ = .window .discovering := by
        have hlive : φ.discoveries ≠ 0 := by
          rw [← h.inPhase.live, Ne, live_eq_zero_iff]
          intro hall
          exact Bool.false_ne_true (hcancelled.symm.trans (hall d hd))
        cases φ with
        | quiet => exact absurd rfl hlive
        | connected => exact absurd rfl hlive
        | window stage =>
          cases stage with
          | discovering => rfl
          | connecting => exact absurd rfl hlive
          | waiting => exact absurd rfl hlive
      subst hφ
      have hstate : m.scheduler.state = .windowOpen := h.inPhase.state
      have hready : (m.reported d.serial).Ready :=
        ⟨hnumbered, hmarked, hstate, h.inPhase.timers, h.numbered.live_reported hd hcancelled,
          h.webSocket_eq_none rfl⟩
      have hgeneration := (h.numbered.generation_eq_iff hyoung hd).mpr hcancelled
      refine ⟨.window .connecting, ?_, ht ▸ .found⟩
      rw [handle, ht]
      simp only [h.numbered.find?_eq hd]
      rw [onDiscovered, if_neg (by simp [h.numbered.isRunning, hgeneration, hstate])]
      cases discovered.filter build.isValidWsUrl with
      | none => exact hready.doConnect _
      | some url =>
        have hsaved : Ready { m.reported d.serial with
            preferences := { m.preferences with serverUrl := some url } } :=
          ⟨hnumbered.frame,
            ⟨hmarked.timely, hmarked.expired, hmarked.closed⟩, hstate, hready.timers,
            hready.live, hready.webSocket⟩
        exact hsaved.doConnect url
  · have hfind : m.discoveries.find? (fun d => d.serial = serial) = none :=
      List.find?_eq_none.mpr fun d hd hserial => hmem ⟨d, hd, of_decide_eq_true hserial⟩
    rw [handle, ht]
    simp only [hfind]
    exact ⟨φ, h, .stay⟩

variable (build t) in
/-- The manager follows the chain. -/
theorem Good.handle (h : m.Good φ) (hyoung : m.Young) :
    ∃ φ', (m.handle build t).Good φ' ∧ φ.Move t.message φ' := by
  cases ht : t.message with
  | networkAvailable network => exact ht ▸ h.networkAvailable ht
  | networkLost network => exact ht ▸ h.networkLost ht
  | socketOpened socket => exact ht ▸ h.socketOpened ht
  | socketGone socket => exact ht ▸ h.socketGone ht
  | retryElapsed => exact ht ▸ h.retryElapsed ht
  | windowExpired => exact ht ▸ h.windowExpired ht
  | discoveryFinished serial discovered => exact ht ▸ h.discoveryFinished hyoung ht
  | preferencesChanged preferences =>
    rw [WebSocketManager.handle, ht]
    exact ⟨φ, h.withEnvironment m.activeNetwork preferences m.uptime, .stay⟩

variable (build t) in
/-- **The simulation.** Each turn of the manager is a move of the chain. -/
theorem Good.turn (h : m.Good φ) (hyoung : m.Young) :
    ∃ φ', (m.turn build t).Good φ' ∧ φ.Move t.message φ' := by
  rw [WebSocketManager.turn]
  split
  · obtain ⟨φ', hgood, hmove⟩ := h.handle build t hyoung
    exact ⟨φ', hgood.withEnvironment _ _ t.later, hmove⟩
  · exact ⟨φ, h, .stay⟩

end Handle

end WebSocketManager

end StylyMdm.Client.Connection
