import StylyMdm.Console.Broadcast

/-!
# Consoles converge

The invariant of the page (`PageInv`): once the listing of the current socket has arrived, the jobs
are the newest of all frames that have arrived on it, and until then the buffered updates are. With
what the server sends (`ServerInv`, `Owed`), a page has the newest published revision of every job
when nothing is on the way any more.

Revisions only grow on the page while a socket stays current, with one exception that the design
brings along: the initial snapshot replaces the jobs, and a job that it does not list can come back
with an older revision than the page had from an earlier socket (`replaced_by_older`).

* `HoldsNewest` instantiates the tables of `Library.Newest` with the jobs of the page and their
  revisions: the two maps of the page hold, of all frames that have arrived, one of the highest
  revision for each job.
* `Awaiting` and `Settled` are the two phases of the page, before and after the listing of its
  socket; `PageChange` says how a step leads from one to the other.
* `Kept` is the statement about revisions: what the page has of a job on this socket it keeps, or
  gets something newer.
* `World.Quiet` is the end of a run as far as the page is concerned: nothing is pending and nothing
  is in flight to its socket.

`console_converges` puts these together for any run and any later point of it. The runs at the end
meet its hypotheses, and show the exception.
-/

namespace StylyMdm.Console

open PushJobs Store

/-! ### The jobs of the page -/

/-- The page shows, of these snapshots, one of the highest revision for each job. -/
abbrev HoldsNewest (jobs : Jobs) (l : List JobSnapshot) : Prop :=
  Newest.Holds JobSnapshot.jobId JobSnapshot.revision jobs l

/-- The frames that have arrived on a socket. -/
def Socket.arrived (socket : Socket) : List Frame := socket.sent.take socket.received

theorem HoldsNewest.replaceJobs {page : Page} {l jobs : List JobSnapshot}
    (h : HoldsNewest page.bufferedUpdates l) :
      HoldsNewest (replaceJobs page jobs).pushJobs (jobs ++ l) := by
  have hjobs : HoldsNewest (jobs.foldl (Newest.put JobSnapshot.jobId JobSnapshot.revision) noJobs)
      ([] ++ jobs) := Newest.Holds.nil.foldl jobs
  exact hjobs.join h

section Arrived

variable {socket : Socket} {frame : Frame} {x : JobSnapshot}

theorem arrived_received (hframe : socket.sent[socket.received]? = some frame) :
    ({ socket with received := socket.received + 1 } : Socket).arrived =
      socket.arrived ++ [frame] := by
  rw [Socket.arrived, Socket.arrived, List.take_add_one, hframe]
  rfl

/-- What goes out later has not arrived. -/
theorem arrived_append (h : socket.received ≤ socket.sent.length) (listed : Bool)
    (frames : List Frame) :
    ({ socket with listed := listed, sent := socket.sent ++ frames } : Socket).arrived =
      socket.arrived :=
  List.take_append_of_le_length h

theorem mem_listings_of_arrived {jobs : List JobSnapshot} (h : jobs ∈ listings socket.arrived) :
    jobs ∈ listings socket.sent :=
  ((List.take_prefix _ _).filterMap _).subset h

theorem mem_updates_of_arrived (h : x ∈ updates socket.arrived) : x ∈ updates socket.sent :=
  ((List.take_prefix _ _).filterMap _).subset h

/-- A socket has one listing at most. -/
theorem Socket.WellFormed.listings_eq (h : socket.WellFormed) {jobs : List JobSnapshot}
    (hmem : jobs ∈ listings socket.sent) :
    socket.listing = some jobs ∧ listings socket.sent = [jobs] := by
  rw [h.listed] at hmem ⊢
  split at hmem
  · rename_i hlisted
    obtain ⟨jobs', hlisting⟩ := Option.ne_none_iff_exists'.mp (h.read hlisted)
    rw [hlisting, Option.toList_some, List.mem_singleton] at hmem
    subst hmem
    simp [hlisted, hlisting]
  · exact absurd hmem List.not_mem_nil

/-- When a listing arrives, no other one has arrived before. -/
theorem Socket.WellFormed.first_listing (h : socket.WellFormed) {jobs : List JobSnapshot}
    (hframe : socket.sent[socket.received]? = some (.pushJobsSnapshot jobs)) :
    listings socket.arrived = [] ∧ socket.listing = some jobs := by
  have hnext : (socket.arrived ++ [.pushJobsSnapshot jobs]) <+: socket.sent := by
    rw [← arrived_received hframe]
    exact List.take_prefix _ _
  have hlistings := hnext.filterMap Frame.listed?
  change listings _ <+: listings socket.sent at hlistings
  rw [listings_append, listings_listing] at hlistings
  obtain ⟨hlisting, hone⟩ := h.listings_eq
    (hlistings.subset (List.mem_append_right _ List.mem_cons_self))
  have hlength := hlistings.length_le
  simp only [hone, List.length_append, List.length_singleton] at hlength
  exact ⟨List.eq_nil_of_length_eq_zero (by omega), hlisting⟩

variable {w : World} {label : Label} {ws : SocketId}

theorem SocketChange.arrived (h : SocketChange w label ws socket)
    (hown : (w.sockets ws).WellFormed) (hdeliver : label ≠ .deliver ws) :
    socket.arrived = (w.sockets ws).arrived := by
  cases h with
  | same => rfl
  | accepted hnew => rfl
  | listing jobs hnone hlist => rfl
  | listed jobs hlisting => exact arrived_append hown.received _ _
  | update job => exact arrived_append hown.received _ _
  | received hlabel => exact absurd hlabel hdeliver

/-- A new listing is read from the store. -/
theorem SocketChange.listing_cases (h : SocketChange w label ws socket) {jobs : List JobSnapshot}
    (hjobs : socket.listing = some jobs) : (w.sockets ws).listing = some jobs ∨
      ∃ newestFirst recentLimit cutoff,
        w.store.listSnapshots newestFirst recentLimit cutoff = .ok jobs := by
  cases h with
  | same => exact .inl hjobs
  | accepted hnew => exact .inl hjobs
  | listing jobs' hnone hlist =>
    cases hjobs
    exact .inr ⟨_, _, _, hlist⟩
  | listed jobs' hlisting => exact .inl hjobs
  | update job => exact .inl hjobs
  | received hlabel => exact .inl hjobs

end Arrived

/-! ### The invariant of the page -/

/-- The page waits for the listing of its socket. -/
structure Awaiting (w : World) (ws : SocketId) : Prop where
  buffered : HoldsNewest w.page.bufferedUpdates (updates (w.sockets ws).arrived)
  listing : listings (w.sockets ws).arrived = []
  newer : ∀ jobs, (w.sockets ws).listing = some jobs → ∀ x ∈ jobs, ∀ y,
    w.page.pushJobs x.jobId = some y → y.revision ≤ x.revision

/-- The page has the listing of its socket. -/
structure Settled (w : World) (ws : SocketId) : Prop where
  shows : HoldsNewest w.page.pushJobs ((w.sockets ws).arrived.flatMap Frame.jobs)
  listing : listings (w.sockets ws).arrived ≠ []

/-- The invariant of the page. -/
structure PageInv (w : World) : Prop where
  held : ∀ k x, w.page.pushJobs k = some x → Reaches w.store k x.revision
  born : ∀ ws, w.page.currentAdminSocket = some ws → ws < w.nextSocket
  awaiting : ∀ ws, w.page.currentAdminSocket = some ws →
    w.page.awaitingInitialSnapshot = true → Awaiting w ws
  settled : ∀ ws, w.page.currentAdminSocket = some ws →
    w.page.awaitingInitialSnapshot = false → Settled w ws

theorem PageInv.initial : PageInv .initial :=
  ⟨by simp [World.initial, noJobs], by simp [World.initial], by simp [World.initial],
    by simp [World.initial]⟩

section Steps

variable {w w' : World} {ws : SocketId}

/-- What has arrived is of committed states. -/
theorem ServerInv.reaches (h : ServerInv w) {x : JobSnapshot}
    (hx : x ∈ (w.sockets ws).arrived.flatMap Frame.jobs) : Reaches w.store x.jobId x.revision := by
  rcases mem_jobs_iff.mp hx with hupdate | ⟨jobs, hjobs, hx⟩
  · obtain ⟨r, hr, hle⟩ := ((h.socket ws).older x (mem_updates_of_arrived hupdate)).le
    obtain ⟨job, hjob, hle'⟩ := h.revisions _ r hr
    exact ⟨job, hjob, hle.trans hle'⟩
  · have hlisting := ((h.socket ws).own.listings_eq (mem_listings_of_arrived hjobs)).1
    exact (h.socket ws).listing jobs hlisting x hx

/-- A step that the page does not see: on its socket nothing arrives, and a listing that is read is
not older than the jobs of the page. -/
theorem PageInv.unseen (h : PageInv w) (hpage : w'.page = w.page)
    (hnext : w.nextSocket ≤ w'.nextSocket)
    (hstore : ∀ k r, Reaches w.store k r → Reaches w'.store k r)
    (harrived : ∀ ws, w.page.currentAdminSocket = some ws →
      (w'.sockets ws).arrived = (w.sockets ws).arrived)
    (hlisting : ∀ ws jobs, (w'.sockets ws).listing = some jobs →
      (w.sockets ws).listing = some jobs ∨
      ∀ x ∈ jobs, ∀ y, w.page.pushJobs x.jobId = some y → y.revision ≤ x.revision) :
    PageInv w' := by
  refine ⟨fun k x hx => hstore k _ (h.held k x (hpage ▸ hx)),
    fun ws hws => (h.born ws (hpage ▸ hws)).trans_le hnext, fun ws hws hwait => ?_,
    fun ws hws hwait => ?_⟩
  · rw [hpage] at hws hwait
    obtain ⟨hbuffered, hnone, hnewer⟩ := h.awaiting ws hws hwait
    refine ⟨?_, ?_, fun jobs hjobs => ?_⟩
    · rwa [hpage, harrived ws hws]
    · rwa [harrived ws hws]
    · rw [hpage]
      rcases hlisting ws jobs hjobs with hold | hread
      · exact hnewer jobs hold
      · exact hread
  · rw [hpage] at hws hwait
    obtain ⟨hshows, hsome⟩ := h.settled ws hws hwait
    refine ⟨?_, ?_⟩
    · rwa [hpage, harrived ws hws]
    · rwa [harrived ws hws]

/-- The page opens a socket. -/
theorem PageInv.connect (h : PageInv w) (hserver : ServerInv w) :
    PageInv { w with
      nextSocket := w.nextSocket + 1
      page := patchedWebSocket w.page w.nextSocket } := by
  have hsocket := hserver.socket w.nextSocket
  have hfresh := (hsocket.fresh (hsocket.unborn le_rfl)).1
  refine ⟨h.held, ?_, ?_, ?_⟩
  · rintro ws ⟨⟩
    exact Nat.lt_succ_self _
  · rintro ws ⟨⟩ -
    constructor <;> simp only [hfresh]
    · exact Newest.Holds.nil
    · rfl
    · simp [Socket.fresh]
  · rintro ws ⟨⟩ hwait
    exact Bool.noConfusion hwait

theorem Settled.pageInv (h : Settled w ws) (hserver : ServerInv w) (hborn : ws < w.nextSocket)
    (hcurrent : w.page.currentAdminSocket = some ws)
    (hsettled : w.page.awaitingInitialSnapshot = false) : PageInv w := by
  refine ⟨fun k x hx => ?_, fun ws' hws' => ?_, fun _ _ hwait => ?_, fun ws' hws' _ => ?_⟩
  · obtain ⟨hmem, rfl⟩ := h.shows.mem k x hx
    exact hserver.reaches hmem
  · rwa [← Option.some.inj (hcurrent.symm.trans hws')]
  · exact absurd (hsettled.symm.trans hwait) (by simp)
  · rwa [← Option.some.inj (hcurrent.symm.trans hws')]

theorem Awaiting.pageInv (h : Awaiting w ws)
    (hheld : ∀ k x, w.page.pushJobs k = some x → Reaches w.store k x.revision)
    (hborn : ws < w.nextSocket) (hcurrent : w.page.currentAdminSocket = some ws)
    (hwait : w.page.awaitingInitialSnapshot = true) : PageInv w := by
  refine ⟨hheld, fun ws' hws' => ?_, fun ws' hws' _ => ?_, fun _ _ hsettled => ?_⟩
  · rwa [← Option.some.inj (hcurrent.symm.trans hws')]
  · rwa [← Option.some.inj (hcurrent.symm.trans hws')]
  · exact absurd (hwait.symm.trans hsettled) (by simp)

/-- A page that gets a listing has been waiting for it. -/
theorem PageInv.awaiting_of_listing (h : PageInv w) (hserver : ServerInv w)
    {jobs : List JobSnapshot} (hcurrent : w.page.currentAdminSocket = some ws)
    (hframe : (w.sockets ws).sent[(w.sockets ws).received]? = some (.pushJobsSnapshot jobs)) :
    w.page.awaitingInitialSnapshot = true ∧ Awaiting w ws ∧
      (w.sockets ws).listing = some jobs := by
  obtain ⟨hnone, hlisting⟩ := (hserver.socket ws).own.first_listing hframe
  have hwait : w.page.awaitingInitialSnapshot = true := by
    by_contra hsettled
    exact (h.settled ws hcurrent (by simpa using hsettled)).listing hnone
  exact ⟨hwait, h.awaiting ws hcurrent hwait, hlisting⟩

/-- A frame arrives on the current socket. -/
theorem PageInv.deliver (h : PageInv w) (hserver : ServerInv w) {frame : Frame}
    (hcurrent : w.page.currentAdminSocket = some ws)
    (hframe : (w.sockets ws).sent[(w.sockets ws).received]? = some frame) :
    PageInv { w with
      sockets := Function.update w.sockets ws
        { w.sockets ws with received := (w.sockets ws).received + 1 }
      page := observeMessage w.page ws frame } := by
  have hserver' := (hserver.deliver hframe).setPage (observeMessage w.page ws frame)
  have hborn := h.born ws hcurrent
  have harrived : (Function.update w.sockets ws
      { w.sockets ws with received := (w.sockets ws).received + 1 } ws).arrived =
        (w.sockets ws).arrived ++ [frame] := by
    rw [Function.update_self]
    exact arrived_received hframe
  cases frame with
  | pushJobsSnapshot jobs =>
    -- the listing and the updates before it are all that has arrived
    obtain ⟨-, hawaiting, -⟩ := h.awaiting_of_listing hserver hcurrent hframe
    rw [observeMessage, if_neg (not_not.mpr hcurrent)] at hserver' ⊢
    refine Settled.pageInv ⟨?_, ?_⟩ hserver' hborn hcurrent rfl
    · rw [harrived]
      refine hawaiting.buffered.replaceJobs.congr fun x => ?_
      rw [mem_jobs_iff, updates_append, listings_append, hawaiting.listing]
      simp [or_comm]
    · rw [harrived, listings_append]
      simp
  | pushJobUpdated job =>
    rw [observeMessage, if_neg (not_not.mpr hcurrent)] at hserver' ⊢
    split
    · rename_i hwait
      obtain ⟨hbuffered, hnone, hnewer⟩ := h.awaiting ws hcurrent hwait
      refine Awaiting.pageInv ⟨?_, ?_, ?_⟩ h.held hborn hcurrent hwait
      · rw [harrived, updates_append, updates_update]
        exact hbuffered.put job
      · rw [harrived, listings_append, hnone]
        rfl
      · simpa only [Function.update_self] using hnewer
    · rename_i hsettled
      rw [if_neg hsettled] at hserver'
      rw [Bool.not_eq_true] at hsettled
      obtain ⟨hshows, hsome⟩ := h.settled ws hcurrent hsettled
      refine Settled.pageInv ⟨?_, ?_⟩ hserver' hborn hcurrent hsettled
      · rw [harrived, List.flatMap_append, List.flatMap_singleton]
        exact hshows.put job
      · rw [harrived, listings_append, listings_update, List.append_nil]
        exact hsome

/-- What a step leaves as it is, apart from the sockets. -/
structure Unseen (w w' : World) : Prop where
  store : ∀ k r, Reaches w.store k r → Reaches w'.store k r
  nextSocket : w.nextSocket ≤ w'.nextSocket
  page : w'.page = w.page

theorem Unseen.refl (w : World) : Unseen w w := ⟨fun _ _ => id, le_rfl, rfl⟩

/-- Only an own new socket and a frame concern the page. -/
theorem unseen_step (indexed : Bool) (w : World) {label : Label} (hconnect : label ≠ .connect true)
    (hdeliver : ∀ ws, label ≠ .deliver ws) : Unseen w (step indexed w label) := by
  cases label with
  | commit call => exact ⟨fun _ _ hr => hr.step indexed call, le_rfl, rfl⟩
  | publish index =>
    rw [step]
    split
    · exact .refl w
    · exact ⟨fun _ _ => id, le_rfl, rfl⟩
  | advance => exact ⟨fun _ _ => id, le_rfl, rfl⟩
  | forward ws sends =>
    rw [step]
    split
    · split
      · exact .refl w
      · split
        · exact ⟨fun _ _ => id, le_rfl, rfl⟩
        · split <;> exact ⟨fun _ _ => id, le_rfl, rfl⟩
    · exact .refl w
  | connect own =>
    cases own with
    | true => exact absurd rfl hconnect
    | false => exact ⟨fun _ _ => id, Nat.le_succ _, rfl⟩
  | accept ws =>
    rw [step]
    split <;> exact ⟨fun _ _ => id, le_rfl, rfl⟩
  | list ws newestFirst recentLimit cutoff =>
    rw [step]
    split
    · exact .refl w
    · split <;> exact ⟨fun _ _ => id, le_rfl, rfl⟩
  | sendListing ws sends =>
    rw [step]
    split
    · exact .refl w
    · split
      · exact .refl w
      · split <;> exact ⟨fun _ _ => id, le_rfl, rfl⟩
  | close ws => exact ⟨fun _ _ => id, le_rfl, rfl⟩
  | deliver ws => exact absurd rfl (hdeliver ws)

/-- What a step can be for the page. -/
inductive PageChange (w : World) (label : Label) : World → Prop
  | connect (hlabel : label = .connect true) :
    PageChange w label
      { w with
        nextSocket := w.nextSocket + 1
        page := patchedWebSocket w.page w.nextSocket }
  | deliver (ws : SocketId) (frame : Frame) (hlabel : label = .deliver ws)
      (hcurrent : w.page.currentAdminSocket = some ws)
      (hframe : (w.sockets ws).sent[(w.sockets ws).received]? = some frame) :
    PageChange w label
      { w with
        sockets := Function.update w.sockets ws
          { w.sockets ws with received := (w.sockets ws).received + 1 }
        page := observeMessage w.page ws frame }
  | unseen (w' : World) (h : Unseen w w')
      (hdeliver : ∀ ws, w.page.currentAdminSocket = some ws → w' = w ∨ label ≠ .deliver ws) :
    PageChange w label w'

theorem pageChange_step (indexed : Bool) (w : World) (label : Label) :
    PageChange w label (step indexed w label) := by
  by_cases hconnect : label = .connect true
  · subst hconnect
    exact .connect rfl
  by_cases hdeliver : ∃ ws, label = .deliver ws
  · obtain ⟨ws, rfl⟩ := hdeliver
    rw [step]
    split
    · exact .unseen w (.refl w) fun _ _ => .inl rfl
    · rename_i frame hframe
      by_cases hcurrent : w.page.currentAdminSocket = some ws
      · exact .deliver ws frame rfl hcurrent hframe
      · -- a frame on another socket is not for the page
        refine .unseen _ ⟨fun _ _ => id, le_rfl, ?_⟩ fun ws' hws' => .inr ?_
        · cases frame <;> rw [observeMessage, if_pos hcurrent]
        · rintro ⟨⟩
          exact hcurrent hws'
  · exact .unseen _ (unseen_step indexed w hconnect fun ws heq => hdeliver ⟨ws, heq⟩)
      fun ws _ => .inr fun heq => hdeliver ⟨ws, heq⟩

/-- The jobs of the page change by a frame on the current socket only. -/
theorem PageChange.of_pushJobs_ne {label : Label} (h : PageChange w label w')
    (hne : w'.page.pushJobs ≠ w.page.pushJobs) :
    ∃ ws, label = .deliver ws ∧ w.page.currentAdminSocket = some ws := by
  cases h with
  | connect hlabel => exact absurd rfl hne
  | deliver ws frame hlabel hcurrent hframe => exact ⟨ws, hlabel, hcurrent⟩
  | unseen w' hunseen hdeliver => exact absurd (congrArg Page.pushJobs hunseen.page) hne

theorem PageInv.change (h : PageInv w) (hserver : ServerInv w) {label : Label}
    (hpage : PageChange w label w') (hsockets : ∀ ws, SocketChange w label ws (w'.sockets ws)) :
    PageInv w' := by
  cases hpage with
  | connect hlabel => exact h.connect hserver
  | deliver ws frame hlabel hcurrent hframe => exact h.deliver hserver hcurrent hframe
  | unseen w' hunseen hdeliver =>
    refine h.unseen hunseen.page hunseen.nextSocket hunseen.store (fun ws hws => ?_)
      fun ws jobs hjobs => ?_
    · rcases hdeliver ws hws with rfl | hlabel
      · rfl
      · exact (hsockets ws).arrived (hserver.socket ws).own hlabel
    · refine ((hsockets ws).listing_cases hjobs).imp_right ?_
      rintro ⟨newestFirst, recentLimit, cutoff, hlist⟩ x hx y hy
      obtain ⟨k, job, hjob, rfl⟩ := shows_of_listSnapshots hlist x hx
      obtain rfl := jobId_of_job? hjob
      -- the listing has the job as it is in the store
      obtain ⟨job', hjob', hle⟩ := h.held _ y hy
      rw [show (w.store.jobSnapshot job).jobId = job.jobId from rfl, hjob,
        Option.some.injEq] at hjob'
      exact hjob' ▸ hle

theorem exec_inv (indexed : Bool) (labels : List Label) :
    ServerInv (World.exec indexed .initial labels) ∧
      PageInv (World.exec indexed .initial labels) :=
  Run.exec_invariant (I := fun w => ServerInv w ∧ PageInv w)
    (fun _ label h => ⟨h.1.step indexed label, h.2.change h.1 (pageChange_step indexed _ label)
      (socketChange_step indexed _ label)⟩)
    ⟨.initial, .initial⟩ labels

end Steps

/-! ### Revisions on the page only grow -/

/-- The page has this revision of the job, or a later one. -/
def Jobs.Has (jobs : Jobs) (k : JobId) (r : Nat) : Prop := ∃ x, jobs k = some x ∧ r ≤ x.revision

/-- The listing of the socket has the job. -/
def Socket.Lists (socket : Socket) (k : JobId) : Prop :=
  ∃ jobs, socket.listing = some jobs ∧ ∃ x ∈ jobs, x.jobId = k

/-- As long as the socket is the current one, the page has this revision of the job or a later one.
If the page was waiting for the listing at first and is not any more, that is so when the listing
has the job. -/
structure Kept (waiting : Bool) (ws : SocketId) (k : JobId) (r : Nat) (w : World) : Prop where
  born : ws < w.nextSocket
  awaiting : w.page.currentAdminSocket = some ws → w.page.awaitingInitialSnapshot = true →
    waiting = true ∧ w.page.pushJobs.Has k r
  settled : w.page.currentAdminSocket = some ws → w.page.awaitingInitialSnapshot = false →
    waiting = false ∨ (w.sockets ws).Lists k → w.page.pushJobs.Has k r

section Kept

variable {w w' : World} {waiting : Bool} {ws : SocketId} {k : JobId} {r : Nat}

/-- The listing that has arrived is the listing of the socket. -/
theorem Settled.listing_eq (h : Settled w ws) (hserver : ServerInv w) :
    ∃ jobs, (w.sockets ws).listing = some jobs := by
  obtain ⟨jobs, hjobs⟩ := List.exists_mem_of_ne_nil _ h.listing
  exact ⟨jobs, ((hserver.socket ws).own.listings_eq (mem_listings_of_arrived hjobs)).1⟩

/-- A listing that was there stays the one of the socket. -/
theorem Socket.Later.lists {socket socket' : Socket} (h : socket.Later socket')
    {jobs : List JobSnapshot} (hjobs : socket.listing = some jobs) (hlists : socket'.Lists k) :
    socket.Lists k := by
  obtain ⟨jobs', hjobs', hmem⟩ := hlists
  have hsame := (h.listing jobs hjobs).symm.trans hjobs'
  exact ⟨jobs, hjobs, Option.some.inj hsame ▸ hmem⟩

theorem Kept.change (h : Kept waiting ws k r w) (hserver : ServerInv w) (hinv : PageInv w)
    {label : Label} (hpage : PageChange w label w')
    (hsockets : ∀ ws, SocketChange w label ws (w'.sockets ws)) : Kept waiting ws k r w' := by
  have hlater := (hsockets ws).later
  cases hpage with
  | connect hlabel =>
    -- another socket is the current one
    refine ⟨h.born.trans (Nat.lt_succ_self _), fun hcurrent => ?_, fun hcurrent => ?_⟩
    · exact absurd (Option.some.inj hcurrent) h.born.ne'
    · exact absurd (Option.some.inj hcurrent) h.born.ne'
  | deliver ws' frame hlabel hcurrent' hframe =>
    refine ⟨h.born, ?_, ?_⟩
    · cases frame with
      | pushJobsSnapshot jobs =>
        rw [observeMessage, if_neg (not_not.mpr hcurrent')]
        exact fun _ hwait => Bool.noConfusion hwait
      | pushJobUpdated job =>
        rw [observeMessage, if_neg (not_not.mpr hcurrent')]
        split
        · exact h.awaiting
        · rename_i hsettled
          exact fun _ hwait => absurd hwait hsettled
    · cases frame with
      | pushJobsSnapshot jobs =>
        rw [observeMessage, if_neg (not_not.mpr hcurrent')]
        intro hcurrent _ hcase
        obtain rfl : ws' = ws := Option.some.inj (hcurrent'.symm.trans hcurrent)
        obtain ⟨hwait, hawaiting, hlisting⟩ := hinv.awaiting_of_listing hserver hcurrent' hframe
        obtain ⟨hwaiting, x, hx, hle⟩ := h.awaiting hcurrent' hwait
        rcases hcase with hnot | hlists
        · exact absurd (hnot.symm.trans hwaiting) (by simp)
        · obtain ⟨jobs', hjobs', y, hy, rfl⟩ := hlater.lists hlisting hlists
          cases hlisting.symm.trans hjobs'
          -- the listing is not older than what the page had
          have hnewer := hawaiting.newer jobs hlisting y hy x hx
          obtain ⟨z, hz, hle'⟩ :=
            hawaiting.buffered.replaceJobs.newest y (List.mem_append_left _ hy)
          exact ⟨z, hz, hle.trans (hnewer.trans hle')⟩
      | pushJobUpdated job =>
        rw [observeMessage, if_neg (not_not.mpr hcurrent')]
        split
        · rename_i hwait
          exact fun _ hsettled => absurd (hwait.symm.trans hsettled) (by simp)
        · intro hcurrent hsettled hcase
          obtain ⟨jobs, hjobs⟩ := (hinv.settled ws hcurrent hsettled).listing_eq hserver
          obtain ⟨x, hx, hle⟩ :=
            h.settled hcurrent hsettled (hcase.imp_right (hlater.lists hjobs))
          obtain ⟨y, hy, hle'⟩ := Newest.rank_le_put hx job
          exact ⟨y, hy, hle.trans hle'⟩
  | unseen w' hunseen hdeliver =>
    refine ⟨h.born.trans_le hunseen.nextSocket, ?_, ?_⟩
    · rw [hunseen.page]
      exact h.awaiting
    · rw [hunseen.page]
      intro hcurrent hsettled hcase
      obtain ⟨jobs, hjobs⟩ := (hinv.settled ws hcurrent hsettled).listing_eq hserver
      exact h.settled hcurrent hsettled (hcase.imp_right (hlater.lists hjobs))

theorem kept_exec (indexed : Bool) (before after : List Label) {x : JobSnapshot} :
    let w := World.exec indexed .initial before
    let w' := World.exec indexed w after
    w.page.currentAdminSocket = some ws → w.page.pushJobs k = some x →
      Kept w.page.awaitingInitialSnapshot ws k x.revision w' := by
  intro w w' hcurrent hx
  obtain ⟨hserver, hpage⟩ := exec_inv indexed before
  have hkept : Kept w.page.awaitingInitialSnapshot ws k x.revision w :=
    ⟨hpage.born ws hcurrent, fun _ hwait => ⟨hwait, x, hx, le_rfl⟩, fun _ _ _ => ⟨x, hx, le_rfl⟩⟩
  have hinv := @Run.exec_invariant _ _ (step indexed)
    (fun w' => ServerInv w' ∧ PageInv w' ∧
      Kept w.page.awaitingInitialSnapshot ws k x.revision w')
    (fun w' label ⟨hserver, hpage, hkept⟩ => ⟨hserver.step indexed label,
      hpage.change hserver (pageChange_step indexed w' label) (socketChange_step indexed w' label),
      hkept.change hserver hpage (pageChange_step indexed w' label)
        (socketChange_step indexed w' label)⟩)
    w ⟨hserver, hpage, hkept⟩ after
  exact hinv.2.2

end Kept

/-! ### When nothing is on the way -/

/-- Nothing is pending, and nothing is in flight to the current socket of the page. -/
structure World.Quiet (w : World) (ws : SocketId) : Prop where
  current : w.page.currentAdminSocket = some ws
  connected : ws ∈ w.adminConnections
  listed : (w.sockets ws).listed = true
  arrived : (w.sockets ws).received = (w.sockets ws).sent.length
  pending : w.publisher.pendingPublications = []
  idle : ∀ job connections, w.publisher.loop = .sending job connections → ws ∉ connections

section Quiet

variable {w : World} {ws : SocketId} {k : JobId} {r : Nat}

theorem World.Quiet.settled (h : w.Quiet ws) (hserver : ServerInv w) (hpage : PageInv w) :
    Settled w ws ∧ (w.sockets ws).arrived = (w.sockets ws).sent := by
  have hall : (w.sockets ws).arrived = (w.sockets ws).sent := by
    rw [Socket.arrived, h.arrived, List.take_length]
  obtain ⟨jobs, hjobs⟩ :=
    Option.ne_none_iff_exists'.mp ((hserver.socket ws).own.read h.listed)
  refine ⟨hpage.settled ws h.current ?_, hall⟩
  by_contra hwait
  have hnone := (hpage.awaiting ws h.current (by simpa using hwait)).listing
  rw [hall, (hserver.socket ws).own.listed, if_pos h.listed, hjobs] at hnone
  exact absurd hnone (by simp)

/-- The newest published revision of a job that the socket has is not newer than what it has. -/
theorem World.Quiet.covered (h : w.Quiet ws) (hserver : ServerInv w)
    (hr : w.publisher.publicationRevisions k = some r)
    (hk : k ∈ ((w.sockets ws).sent.flatMap Frame.jobs).map JobSnapshot.jobId) :
    ∃ x ∈ (w.sockets ws).sent.flatMap Frame.jobs, x.jobId = k ∧ r ≤ x.revision := by
  cases (hserver.socket ws).covered h.connected k r hr with
  | pending x hmem => exact absurd (h.pending ▸ hmem) List.not_mem_nil
  | sending job connections hloop hws => exact absurd hws (h.idle job connections hloop)
  | sent x hmem hxk hxr => exact ⟨x, mem_jobs_iff.mpr (.inl hmem), hxk, hxr.ge⟩
  | listed hnone hle =>
    obtain ⟨x, hx, hxk⟩ := List.mem_map.mp hk
    rcases mem_jobs_iff.mp hx with hupdate | ⟨jobs, hjobs, hmem⟩
    · exact absurd hxk (hnone x hupdate)
    · have hlisting := ((hserver.socket ws).own.listings_eq hjobs).1
      exact ⟨x, hx, hxk, hle jobs hlisting x hmem hxk⟩

/-- What is owed to the socket is there. -/
theorem World.Quiet.sent (h : w.Quiet ws) (howed : Owed w ws k r) :
    ∃ x ∈ (w.sockets ws).sent.flatMap Frame.jobs, x.jobId = k ∧ r ≤ x.revision := by
  cases howed with
  | pending x hmem => exact absurd (h.pending ▸ hmem) List.not_mem_nil
  | sending job connections hloop hws => exact absurd hws (h.idle job connections hloop)
  | sent x hmem hk hr => exact ⟨x, mem_jobs_iff.mpr (.inl hmem), hk, hr⟩

end Quiet

/-- **The console converges.** From any run to any later point of it:

* the revisions of a job in the updates on a socket are strictly increasing;
* while a socket stays current, the page does not fall behind a revision of a job that it had; where
  the initial snapshot has come in between, this is so for the jobs that it lists;
* when nothing is on the way, the page has, of the snapshots that were sent on its socket, one of
  the highest revision for each job, and nothing else; and it is not behind any publication of a job
  that the socket has, nor behind a publication newer than the earlier ones that was made after the
  socket was there;
* only a frame on the current socket changes the jobs of the page. -/
theorem console_converges (indexed : Bool) (before after : List Label) :
    let w := World.exec indexed .initial before
    let w' := World.exec indexed w after
    (∀ ws, (updates (w'.sockets ws).sent).Pairwise fun x y =>
      x.jobId = y.jobId → x.revision < y.revision) ∧
    (∀ ws k x, w.page.currentAdminSocket = some ws → w'.page.currentAdminSocket = some ws →
      w.page.pushJobs k = some x →
      w'.page.awaitingInitialSnapshot = w.page.awaitingInitialSnapshot ∨ (w'.sockets ws).Lists k →
      w'.page.pushJobs.Has k x.revision) ∧
    (∀ ws, w'.Quiet ws →
      HoldsNewest w'.page.pushJobs ((w'.sockets ws).sent.flatMap Frame.jobs) ∧
      ∀ index x rest, after = .publish index :: rest → w.produced[index]? = some x →
        x.jobId ∈ ((w'.sockets ws).sent.flatMap Frame.jobs).map JobSnapshot.jobId ∨
          ws ∈ w.adminConnections ∧
            (∀ r, w.publisher.publicationRevisions x.jobId = some r → r < x.revision) →
        w'.page.pushJobs.Has x.jobId x.revision) ∧
    ∀ label, (step indexed w' label).page.pushJobs ≠ w'.page.pushJobs →
      ∃ ws, label = .deliver ws ∧ w'.page.currentAdminSocket = some ws := by
  intro w w'
  obtain ⟨hserver, hpage⟩ := exec_inv indexed before
  have hinv : ServerInv w' ∧ PageInv w' := by
    have hall := exec_inv indexed (before ++ after)
    rwa [World.exec, Run.exec_append] at hall
  obtain ⟨hserver', hpage'⟩ := hinv
  refine ⟨fun ws => (hserver'.socket ws).own.sorted, fun ws k x hcurrent hcurrent' hx hcase => ?_,
    fun ws hquiet => ?_, fun label hchange => ?_⟩
  · have hkept := kept_exec indexed before after hcurrent hx
    rcases hwait : w'.page.awaitingInitialSnapshot with _ | _
    · exact hkept.settled hcurrent' hwait (hcase.imp_left fun heq => heq.symm.trans hwait)
    · exact (hkept.awaiting hcurrent' hwait).2
  · obtain ⟨⟨hshows, -⟩, hall⟩ := hquiet.settled hserver' hpage'
    rw [hall] at hshows
    refine ⟨hshows, fun index x rest hafter hx hcase => ?_⟩
    -- some frame is at least as new
    have hnewest : ∃ y ∈ (w'.sockets ws).sent.flatMap Frame.jobs,
        y.jobId = x.jobId ∧ x.revision ≤ y.revision := by
      have hstep : step indexed w (.publish index) =
          { w with publisher := w.publisher.publish x } := by
        rw [step, hx]
      have hrun : w' = World.exec indexed { w with publisher := w.publisher.publish x } rest := by
        rw [← hstep]
        exact congrArg (World.exec indexed w) hafter
      rcases hcase with hmem | ⟨hopen, hnew⟩
      · have hpublished : Published w' x.jobId x.revision := by
          rw [hrun]
          exact Run.exec_invariant (I := fun w => Published w x.jobId x.revision)
            (fun _ label h => h.step indexed label) (published_publish w x) rest
        obtain ⟨r, hr, hle⟩ := hpublished
        obtain ⟨y, hy, hk, hle'⟩ := hquiet.covered hserver' hr hmem
        exact ⟨y, hy, hk, hle.trans hle'⟩
      · have howed : Owed w' ws x.jobId x.revision := by
          rw [hrun]
          refine (owed_publish hnew).exec ?_ hopen indexed rest (hrun ▸ hquiet.connected)
          exact hserver.publish (List.mem_of_getElem? hx)
        exact hquiet.sent howed
    obtain ⟨y, hy, hk, hle⟩ := hnewest
    obtain ⟨z, hz, hle'⟩ := hshows.newest y hy
    exact ⟨z, hk ▸ hz, hle.trans hle'⟩
  · exact (pageChange_step indexed w' label).of_pushJobs_ne hchange

/-- A job is created and expires after its socket has listed it; then it is published. -/
private def expiring : List Label :=
  [.commit (10, .createJob "job-1" (pushRequest "request-1" "quest-1") jobV1Protocols 1000),
   .connect true, .accept 0, .list 0 id 100 0, .sendListing 0 true, .deliver 0,
   .commit (2000, .expireCreated "job-1" (some 1010))]

/-- The labels that publish the job and bring it to the socket. -/
private def published : List Label :=
  [.publish 1, .advance, .advance, .forward 0 true, .advance, .deliver 0]

theorem console_converges_expired :
    let w' := World.exec true (World.exec true .initial expiring) published
    w'.Quiet 0 ∧ w'.page.pushJobs.Has "job-1" 2 := by
  have hquiet : (World.exec true (World.exec true .initial expiring) published).Quiet 0 := by
    refine ⟨by decide +kernel, by decide +kernel, by decide +kernel, by decide +kernel,
      by decide +kernel, fun job connections hloop => ?_⟩
    have hdraining :
      (World.exec true (World.exec true .initial expiring) published).publisher.loop =
        .draining := by decide +kernel
    exact absurd (hloop.symm.trans hdraining) (by simp)
  have hx : ∃ x, (World.exec true .initial expiring).produced[1]? = some x ∧
      x.jobId = "job-1" ∧ x.revision = 2 :=
    ⟨((World.exec true .initial expiring).produced[1]?).get (by decide +kernel), by simp,
      by decide +kernel, by decide +kernel⟩
  obtain ⟨x, hx, hk, hr⟩ := hx
  refine ⟨hquiet, ?_⟩
  rw [← hk, ← hr]
  refine ((console_converges true expiring published).2.2.1 0 hquiet).2 1 x _ rfl hx
    (.inr ⟨by decide +kernel, ?_⟩)
  have hnone :
      (World.exec true .initial expiring).publisher.publicationRevisions "job-1" = none := by
    decide +kernel
  rw [hk, hnone]
  exact fun r hr => absurd hr (by simp)

/-- A job is created and expires, and a socket lists it then; a second socket follows. -/
private def listedOnce : List Label :=
  [.commit (10, .createJob "job-1" (pushRequest "request-1" "quest-1") jobV1Protocols 1000),
   .commit (2000, .expireCreated "job-1" (some 1010)),
   .connect true, .accept 0, .list 0 id 100 0, .sendListing 0 true, .deliver 0,
   .connect true, .accept 1]

/-- The second socket does not list the job any more, and an older snapshot of it is published. -/
private def relisted : List Label :=
  [.list 1 id 100 5000, .publish 0, .advance, .advance, .forward 1 true, .deliver 1,
   .sendListing 1 true, .deliver 1]

/-- While the second socket is the current one, the revision of the job goes from `2` to `1`. -/
theorem replaced_by_older :
    let w := World.exec true .initial listedOnce
    (∀ n ≤ relisted.length,
      (World.exec true w (relisted.take n)).page.currentAdminSocket = some 1) ∧
      (w.page.pushJobs "job-1").map JobSnapshot.revision = some 2 ∧
      ((World.exec true w relisted).page.pushJobs "job-1").map JobSnapshot.revision = some 1 := by
  decide +kernel

end StylyMdm.Console
