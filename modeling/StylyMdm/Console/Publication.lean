import StylyMdm.Console.Assignments
import StylyMdm.Library.Newest
import StylyMdm.PushJobs.Revision

/-!
# From the store to the console

How the snapshots of the jobs reach a console. `PushRuntime.publish` is given snapshots of committed
operations, in an order of its own; `_publication_loop` sends the newest of each job to all admin
sockets; and `send_initial_snapshot` reads the jobs once for each new socket and sends them after
that. The page of a console (`push-jobs-v1.js`) opens a socket, buffers updates until the initial
snapshot is there, replaces its jobs by the snapshot and the buffered updates, and then keeps what
is newer.

The system is a step function on the store, the publisher, the admin sockets and the page. A socket
carries what has been sent on it and how much of that has arrived; other consoles are sockets that
are not the page's. A frame that cannot be sent removes its socket, as `_broadcast_admin_message`
does. The snapshots of the server have an identifier and a revision, so the check `validJob` of the
page passes and is left out.

**Where it interleaves.** The publication loop is suspended while it sends to one socket after the
other, so an update can be on one socket and not yet on the next while a new socket is accepted,
reads its snapshot and sends it. A snapshot that was read before an update is sent may go out after
it, and the page has to cope with that: this is what the buffer and the comparison of revisions in
`applyJob` are for. `produced` collects the snapshots of the committed states; `publish` may be
called with any of them, late or in another order.
-/

namespace StylyMdm.Console

open PushJobs Store

/-- The number of a socket. -/
abbrev SocketId := Nat

/-- The frames with jobs on an admin socket. -/
inductive Frame
  | pushJobsSnapshot (jobs : List JobSnapshot)
  | pushJobUpdated (job : JobSnapshot)
deriving DecidableEq

/-! ### The page -/

/-- A `Map` of jobs by their identifiers. -/
abbrev Jobs := JobId → Option JobSnapshot

/-- The variables of `push-jobs-v1.js`. -/
structure Page where
  currentAdminSocket : Option SocketId
  awaitingInitialSnapshot : Bool
  bufferedUpdates : Jobs
  pushJobs : Jobs

/-- The page before its first frame. -/
def noJobs : Jobs := fun _ => none

/-- `applyJob`. -/
def applyJob (pushJobs : Jobs) (job : JobSnapshot) : Jobs :=
  Newest.put JobSnapshot.jobId JobSnapshot.revision pushJobs job

/-- `bufferJob`. -/
def bufferJob (bufferedUpdates : Jobs) (job : JobSnapshot) : Jobs :=
  Newest.put JobSnapshot.jobId JobSnapshot.revision bufferedUpdates job

/-- `replaceJobs`. -/
def replaceJobs (page : Page) (jobs : List JobSnapshot) : Page :=
  let replacement := jobs.foldl (Newest.put JobSnapshot.jobId JobSnapshot.revision) noJobs
  { page with
    pushJobs := Newest.join JobSnapshot.revision replacement page.bufferedUpdates
    bufferedUpdates := noJobs }

/-- `observeMessage`. -/
def observeMessage (page : Page) (socket : SocketId) : Frame → Page
  | .pushJobsSnapshot jobs =>
    if page.currentAdminSocket ≠ some socket then page
    else { replaceJobs page jobs with awaitingInitialSnapshot := false }
  | .pushJobUpdated job =>
    if page.currentAdminSocket ≠ some socket then page
    else if page.awaitingInitialSnapshot then
      { page with bufferedUpdates := bufferJob page.bufferedUpdates job }
    else { page with pushJobs := applyJob page.pushJobs job }

/-- `PatchedWebSocket`, for an admin socket. -/
def patchedWebSocket (page : Page) (socket : SocketId) : Page :=
  { page with
    currentAdminSocket := some socket
    awaitingInitialSnapshot := true
    bufferedUpdates := noJobs }

/-! ### The publisher -/

/-- Where `_publication_loop` is: at the wake event, at the head of the inner loop, or in
`forward_to_admins` with the connections that are not served yet. -/
inductive LoopState
  | waiting
  | draining
  | sending (job : JobSnapshot) (connections : List SocketId)
deriving DecidableEq

/-- The fields of the publication loop. -/
structure Publisher where
  publicationRevisions : JobId → Option Nat
  pendingPublications : List JobSnapshot
  publicationWake : Bool
  loop : LoopState

/-- Assignment to a key of a `dict`: it keeps its place. -/
def setPending (pending : List JobSnapshot) (snapshot : JobSnapshot) : List JobSnapshot :=
  if snapshot.jobId ∈ pending.map JobSnapshot.jobId then
    pending.map fun job => if job.jobId = snapshot.jobId then snapshot else job
  else pending ++ [snapshot]

/-- `publish`. -/
def Publisher.publish (p : Publisher) (snapshot : JobSnapshot) : Publisher :=
  if (p.publicationRevisions snapshot.jobId).any (snapshot.revision ≤ ·) then p
  else
    { p with
      publicationRevisions :=
        Function.update p.publicationRevisions snapshot.jobId (some snapshot.revision)
      pendingPublications := setPending p.pendingPublications snapshot
      publicationWake := true }

/-- `_publication_loop` from one of its two heads: it waits, or takes the last of the pending
snapshots. -/
def Publisher.advance (p : Publisher) (adminConnections : List SocketId) : Publisher :=
  match p.loop with
  | .waiting =>
    if p.publicationWake then { p with publicationWake := false, loop := .draining } else p
  | .draining =>
    match p.pendingPublications.getLast? with
    | none => { p with loop := .waiting }
    | some job =>
      { p with
        pendingPublications := p.pendingPublications.dropLast
        loop := .sending job adminConnections }
  | .sending _ [] => { p with loop := .draining }
  | .sending _ (_ :: _) => p

/-! ### The system -/

/-- An admin socket of the server: whether the handler has accepted it, what
`send_initial_snapshot` has read and whether it is sent, and the frames on it. -/
structure Socket where
  accepted : Bool
  listing : Option (List JobSnapshot)
  listed : Bool
  sent : List Frame
  received : Nat

/-- A socket that is not yet connected. -/
def Socket.fresh : Socket := ⟨false, none, false, [], 0⟩

/-- `produced` are the snapshots of the committed states. -/
structure World where
  store : Store
  produced : List JobSnapshot
  publisher : Publisher
  adminConnections : List SocketId
  sockets : SocketId → Socket
  nextSocket : SocketId
  page : Page

namespace World

/-- The server as it starts, without sockets. -/
def initial : World where
  store := Store.initial
  produced := []
  publisher := ⟨fun _ => none, [], false, .waiting⟩
  adminConnections := []
  sockets := fun _ => .fresh
  nextSocket := 0
  page := ⟨none, false, noJobs, noJobs⟩

/-- A frame goes out on a socket. -/
def send (w : World) (ws : SocketId) (frame : Frame) : World :=
  { w with
    sockets := Function.update w.sockets ws
      { w.sockets ws with sent := (w.sockets ws).sent ++ [frame] } }

/-- A socket is closed. -/
def close (w : World) (ws : SocketId) : World :=
  { w with adminConnections := w.adminConnections.filter fun other => other ≠ ws }

end World

/-- What can happen next. A send says whether it goes well. -/
inductive Label
  /-- An operation of the store. -/
  | commit (call : Millis × Op)
  /-- `publish` with one of the produced snapshots. -/
  | publish (index : Nat)
  /-- `_publication_loop` moves on. -/
  | advance
  /-- `send_one` for the event that is being forwarded. -/
  | forward (ws : SocketId) (sends : Bool)
  /-- A page opens a socket, this one or another. -/
  | connect (own : Bool)
  /-- `admin_ws_handler` accepts a socket. -/
  | accept (ws : SocketId)
  /-- The two halves of `send_initial_snapshot`. -/
  | list (ws : SocketId) (newestFirst : List JobRow → List JobRow) (recentLimit : Nat)
      (cutoff : Millis)
  | sendListing (ws : SocketId) (sends : Bool)
  /-- A socket fails or is closed. -/
  | close (ws : SocketId)
  /-- The next frame on a socket arrives. -/
  | deliver (ws : SocketId)

/-- One step. A label that does not apply changes nothing. -/
def step (indexed : Bool) (w : World) : Label → World
  | .commit call =>
    let store := w.store.step indexed call
    { w with store := store, produced := w.produced ++ store.jobs.rows.map store.jobSnapshot }
  | .publish index =>
    match w.produced[index]? with
    | none => w
    | some snapshot => { w with publisher := w.publisher.publish snapshot }
  | .advance => { w with publisher := w.publisher.advance w.adminConnections }
  | .forward ws sends =>
    match w.publisher.loop with
    | .sending job connections =>
      if ws ∉ connections then w
      else
        let served := { w with
          publisher := { w.publisher with
            loop := .sending job (connections.filter fun other => other ≠ ws) } }
        if ws ∉ w.adminConnections then served
        else if sends then served.send ws (.pushJobUpdated job)
        else served.close ws
    | _ => w
  | .connect own =>
    { w with
      nextSocket := w.nextSocket + 1
      page := if own then patchedWebSocket w.page w.nextSocket else w.page }
  | .accept ws =>
    if w.nextSocket ≤ ws ∨ (w.sockets ws).accepted then w
    else
      { w with
        adminConnections := ws :: w.adminConnections
        sockets := Function.update w.sockets ws { w.sockets ws with accepted := true } }
  | .list ws newestFirst recentLimit cutoff =>
    if ws ∉ w.adminConnections ∨ (w.sockets ws).listing ≠ none then w
    else
      match w.store.listSnapshots newestFirst recentLimit cutoff with
      | .error _ => w.close ws
      | .ok jobs =>
        { w with
          sockets := Function.update w.sockets ws { w.sockets ws with listing := some jobs } }
  | .sendListing ws sends =>
    match (w.sockets ws).listing with
    | none => w
    | some jobs =>
      if ws ∉ w.adminConnections ∨ (w.sockets ws).listed then w
      else if sends then
        { w with
          sockets := Function.update w.sockets ws
            { w.sockets ws with
              listed := true
              sent := (w.sockets ws).sent ++ [.pushJobsSnapshot jobs] } }
      else w.close ws
  | .close ws => w.close ws
  | .deliver ws =>
    match (w.sockets ws).sent[(w.sockets ws).received]? with
    | none => w
    | some frame =>
      { w with
        sockets := Function.update w.sockets ws
          { w.sockets ws with received := (w.sockets ws).received + 1 }
        page := observeMessage w.page ws frame }

/-- The state after some steps. -/
abbrev World.exec (indexed : Bool) (w : World) (labels : List Label) : World :=
  Run.exec (step indexed) w labels

end StylyMdm.Console
