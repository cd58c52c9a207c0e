import StylyMdm.Console.Publication

/-!
# What the server sends to the consoles

The invariant of the server (`ServerInv`): every snapshot on the way is one of a committed state,
what is pending or being sent is newer than what a socket has of that job, and the newest published
revision of a job is pending, being sent, on the socket, or not newer than what the socket's listing
says (`Covered`). There is one lemma for each thing that can happen; together they give the
invariant for all runs. A publication that is made while a socket is there ends up on it
(`Owed.exec`).

The invariant has a part for the publisher alone (`PublisherInv`), one for each socket by itself
(`Socket.WellFormed`), and one for a socket and the publisher together (`SocketInv`). The parts for
a socket are kept by what happens to other sockets because `SocketChange` says what a step does to
one socket, with what it starts from; `Socket.Later` is what all of these changes have in common.

`Owed` follows a single publication on its way: it is pending, or being forwarded and this socket is
not served yet, or on the socket, or replaced by a newer one in one of these places. Each step moves
it on or leaves it where it is, and only the loss of the socket ends the obligation.
-/

namespace StylyMdm.Console

open PushJobs Store

/-! ### Revisions of the store -/

/-- The job is there, with this revision or a later one. -/
def Reaches (s : Store) (k : JobId) (revision : Nat) : Prop :=
  ∃ job, s.job? k = some job ∧ revision ≤ job.revision

theorem revision_le_of_jobChange {now : Millis} {s s' : Store} {job job' : JobRow} {op : Op}
    (h : JobChange now s s' job op job') : job.revision ≤ job'.revision := by
  cases h with
  | same => exact le_rfl
  | edit hrows edit => exact edit.revision_lt.le
  | published => exact Nat.le_succ _
  | touched => exact (touchedJob_revision _ _ _).symm ▸ Nat.le_succ _
  | bumped => exact Nat.le_succ _
  | recovered =>
    rename_i acceptTimeout timeout
    rw [rederived, rederivedJob_revision]
    rcases hrecover : recoverJob now job with _ | job'
    · exact le_rfl
    · exact (revision_lt_of_recoverJob hrecover).le
  | artifactMissing => exact Nat.le_succ _

theorem Reaches.step {s : Store} {k : JobId} {revision : Nat} (h : Reaches s k revision)
    (indexed : Bool) (call : Millis × Op) : Reaches (s.step indexed call) k revision := by
  obtain ⟨job, hjob, hle⟩ := h
  obtain ⟨job', hjob', hchange⟩ := (step_effect indexed s call).jobChange hjob
  exact ⟨job', hjob', hle.trans (revision_le_of_jobChange hchange)⟩

/-- A snapshot of a committed state. -/
theorem reaches_jobSnapshot {s : Store} {job : JobRow} {k : JobId} (h : s.job? k = some job) :
    Reaches s (s.jobSnapshot job).jobId (s.jobSnapshot job).revision := by
  obtain rfl := jobId_of_job? h
  exact ⟨job, h, le_rfl⟩

/-! ### Frames -/

/-- The job of an update. -/
def Frame.updated? : Frame → Option JobSnapshot
  | .pushJobsSnapshot _ => none
  | .pushJobUpdated job => some job

/-- The jobs of a snapshot. -/
def Frame.listed? : Frame → Option (List JobSnapshot)
  | .pushJobsSnapshot jobs => some jobs
  | .pushJobUpdated _ => none

/-- The jobs in a frame. -/
def Frame.jobs : Frame → List JobSnapshot
  | .pushJobsSnapshot jobs => jobs
  | .pushJobUpdated job => [job]

/-- The updates among frames. -/
def updates (frames : List Frame) : List JobSnapshot := frames.filterMap Frame.updated?

/-- The listings among frames. -/
def listings (frames : List Frame) : List (List JobSnapshot) := frames.filterMap Frame.listed?

@[simp] theorem updates_append (frames frames' : List Frame) :
    updates (frames ++ frames') = updates frames ++ updates frames' := List.filterMap_append

@[simp] theorem listings_append (frames frames' : List Frame) :
    listings (frames ++ frames') = listings frames ++ listings frames' := List.filterMap_append

@[simp] theorem updates_nil : updates [] = [] := rfl

@[simp] theorem listings_nil : listings [] = [] := rfl

@[simp] theorem updates_update (job : JobSnapshot) : updates [.pushJobUpdated job] = [job] := rfl

@[simp] theorem updates_listing (jobs : List JobSnapshot) : updates [.pushJobsSnapshot jobs] = [] :=
  rfl

@[simp] theorem listings_update (job : JobSnapshot) : listings [.pushJobUpdated job] = [] := rfl

@[simp] theorem listings_listing (jobs : List JobSnapshot) :
    listings [.pushJobsSnapshot jobs] = [jobs] := rfl

/-- A job in a frame was listed or is an update. -/
theorem mem_jobs_iff {frames : List Frame} {x : JobSnapshot} :
    x ∈ frames.flatMap Frame.jobs ↔ x ∈ updates frames ∨ ∃ jobs ∈ listings frames, x ∈ jobs := by
  induction frames with
  | nil => simp
  | cons frame frames ih =>
    rw [List.flatMap_cons, List.mem_append, ih, ← List.singleton_append, updates_append,
      listings_append]
    cases frame with
    | pushJobsSnapshot jobs =>
      rw [updates_listing, listings_listing, List.nil_append, List.singleton_append,
        List.exists_mem_cons_iff]
      exact or_left_comm
    | pushJobUpdated job =>
      rw [updates_update, listings_update, List.nil_append, List.mem_append]
      exact or_assoc.symm

/-! ### The server -/

/-- Where the newest published revision of a job is, as far as a socket is concerned. -/
inductive Covered (w : World) (ws : SocketId) (k : JobId) (r : Nat) : Prop
  | pending (x : JobSnapshot) (hmem : x ∈ w.publisher.pendingPublications) (hk : x.jobId = k)
  | sending (job : JobSnapshot) (connections : List SocketId)
      (hloop : w.publisher.loop = .sending job connections) (hws : ws ∈ connections)
      (hk : job.jobId = k) (hr : job.revision = r)
  | sent (x : JobSnapshot) (hmem : x ∈ updates (w.sockets ws).sent) (hk : x.jobId = k)
      (hr : x.revision = r)
  | listed (hnone : ∀ x ∈ updates (w.sockets ws).sent, x.jobId ≠ k)
      (hle : ∀ jobs, (w.sockets ws).listing = some jobs → ∀ x ∈ jobs, x.jobId = k →
        r ≤ x.revision)

/-- The revision of the job that is being forwarded, compared with what else is published of it. -/
structure Forwarding (p : Publisher) (job : JobSnapshot) : Prop where
  le : ∃ r, p.publicationRevisions job.jobId = some r ∧ job.revision ≤ r
  lt : ∀ x ∈ p.pendingPublications, x.jobId = job.jobId → job.revision < x.revision
  newest : ∀ r, p.publicationRevisions job.jobId = some r →
    job.revision = r ∨ ∃ x ∈ p.pendingPublications, x.jobId = job.jobId

/-- An update on a socket is older than what is still to come on it. -/
structure Older (p : Publisher) (ws : SocketId) (x : JobSnapshot) : Prop where
  le : ∃ r, p.publicationRevisions x.jobId = some r ∧ x.revision ≤ r
  pending : ∀ y ∈ p.pendingPublications, y.jobId = x.jobId → x.revision < y.revision
  sending : ∀ job connections, p.loop = .sending job connections → ws ∈ connections →
    job.jobId = x.jobId → x.revision < job.revision

/-- The invariant of the publisher alone. -/
structure PublisherInv (p : Publisher) : Prop where
  pending : ∀ x ∈ p.pendingPublications, p.publicationRevisions x.jobId = some x.revision
  nodup : (p.pendingPublications.map JobSnapshot.jobId).Nodup
  forwarding : ∀ job connections, p.loop = .sending job connections → Forwarding p job

/-- What holds of a socket by itself: the updates of a job are newer and newer, and the listing went
out at most once. -/
structure Socket.WellFormed (socket : Socket) : Prop where
  sorted : (updates socket.sent).Pairwise fun x y => x.jobId = y.jobId → x.revision < y.revision
  listed : listings socket.sent = if socket.listed then socket.listing.toList else []
  read : socket.listed = true → socket.listing ≠ none
  received : socket.received ≤ socket.sent.length

theorem Socket.wellFormed_fresh : Socket.fresh.WellFormed :=
  ⟨List.Pairwise.nil, rfl, by simp [Socket.fresh], le_rfl⟩

/-- An update goes out that is newer than the others. -/
theorem Socket.WellFormed.sendUpdate {socket : Socket} {job : JobSnapshot} (h : socket.WellFormed)
    (hnew : ∀ x ∈ updates socket.sent, x.jobId = job.jobId → x.revision < job.revision) :
    ({ socket with sent := socket.sent ++ [.pushJobUpdated job] } : Socket).WellFormed := by
  refine ⟨?_, ?_, h.read, ?_⟩
  · rw [updates_append, updates_update]
    refine List.pairwise_append.mpr ⟨h.sorted, List.pairwise_singleton _ _, fun x hx y hy hk => ?_⟩
    rw [List.mem_singleton.mp hy] at hk ⊢
    exact hnew x hx hk
  · rw [listings_append, listings_update, List.append_nil]
    exact h.listed
  · rw [List.length_append]
    exact Nat.le_add_right_of_le h.received

/-- The listing goes out. -/
theorem Socket.WellFormed.sendListing {socket : Socket} {jobs : List JobSnapshot}
    (h : socket.WellFormed) (hlisting : socket.listing = some jobs) (hnew : socket.listed = false) :
    ({ socket with listed := true, sent := socket.sent ++ [.pushJobsSnapshot jobs] } :
      Socket).WellFormed := by
  refine ⟨?_, ?_, fun _ => by simp [hlisting], ?_⟩
  · rw [updates_append, updates_listing, List.append_nil]
    exact h.sorted
  · rw [listings_append, listings_listing, h.listed, hnew, if_pos rfl, hlisting]
    rfl
  · rw [List.length_append]
    exact Nat.le_add_right_of_le h.received

/-- The invariant of a socket of the server. -/
structure SocketInv (w : World) (ws : SocketId) : Prop where
  own : (w.sockets ws).WellFormed
  older : ∀ x ∈ updates (w.sockets ws).sent, Older w.publisher ws x
  listing : ∀ jobs, (w.sockets ws).listing = some jobs →
    ∀ x ∈ jobs, Reaches w.store x.jobId x.revision
  fresh : (w.sockets ws).accepted = false → w.sockets ws = .fresh ∧ ws ∉ w.adminConnections
  unborn : w.nextSocket ≤ ws → (w.sockets ws).accepted = false
  covered : ws ∈ w.adminConnections → ∀ k r,
    w.publisher.publicationRevisions k = some r → Covered w ws k r

/-- The invariant of the server. -/
structure ServerInv (w : World) : Prop where
  produced : ∀ x ∈ w.produced, Reaches w.store x.jobId x.revision
  revisions : ∀ k r, w.publisher.publicationRevisions k = some r → Reaches w.store k r
  publisher : PublisherInv w.publisher
  socket : ∀ ws, SocketInv w ws

theorem ServerInv.initial : ServerInv .initial where
  produced := by simp [World.initial]
  revisions := by simp [World.initial]
  publisher := ⟨by simp [World.initial], by simp [World.initial], by simp [World.initial]⟩
  socket ws := ⟨Socket.wellFormed_fresh, by simp [World.initial, Socket.fresh],
    by simp [World.initial, Socket.fresh], fun _ => ⟨rfl, by simp [World.initial]⟩, fun _ => rfl,
    by simp [World.initial]⟩

section Publisher

variable {p : Publisher} {x y job : JobSnapshot} {pending : List JobSnapshot}

theorem mem_setPending :
    y ∈ setPending pending x ↔ y = x ∨ y ∈ pending ∧ y.jobId ≠ x.jobId := by
  rw [setPending]
  split
  · rename_i hold
    obtain ⟨old, hmem, hk⟩ := List.mem_map.mp hold
    rw [List.mem_map]
    constructor
    · rintro ⟨z, hz, rfl⟩
      split
      · exact .inl rfl
      · rename_i hne
        exact .inr ⟨hz, hne⟩
    · rintro (rfl | ⟨hy, hne⟩)
      · exact ⟨old, hmem, if_pos hk⟩
      · exact ⟨y, hy, if_neg hne⟩
  · rename_i hnew
    rw [List.mem_append, List.mem_singleton, or_comm]
    refine or_congr_right ⟨fun hy => ⟨hy, fun hk => hnew ?_⟩, fun hy => hy.1⟩
    exact List.mem_map.mpr ⟨y, hy, hk⟩

theorem nodup_setPending (hnodup : (pending.map JobSnapshot.jobId).Nodup) :
    ((setPending pending x).map JobSnapshot.jobId).Nodup := by
  rw [setPending]
  split
  · rw [List.map_map]
    have hsame : JobSnapshot.jobId ∘ (fun job : JobSnapshot =>
        if job.jobId = x.jobId then x else job) = JobSnapshot.jobId := by
      funext job
      rw [Function.comp_apply]
      split
      · rename_i hk
        exact hk.symm
      · rfl
    rwa [hsame]
  · rename_i hnew
    rw [List.map_append, List.map_singleton]
    refine List.nodup_append.mpr ⟨hnodup, List.nodup_singleton _, ?_⟩
    rintro k hk _ hx rfl
    rw [List.mem_singleton.mp hx] at hk
    exact hnew hk

/-- What `publish` does: nothing when the snapshot is not newer than what was published. -/
theorem publish_cases (p : Publisher) (x : JobSnapshot) : p.publish x = p ∨
    (∀ r, p.publicationRevisions x.jobId = some r → r < x.revision) ∧ p.publish x =
      { p with
        publicationRevisions := Function.update p.publicationRevisions x.jobId (some x.revision)
        pendingPublications := setPending p.pendingPublications x
        publicationWake := true } := by
  rw [Publisher.publish]
  split
  · exact .inl rfl
  · rename_i hnew
    refine .inr ⟨fun r hr => ?_, rfl⟩
    rw [hr, Option.any_some, decide_eq_true_iff] at hnew
    omega

end Publisher

section ServerSteps

variable {w : World} {ws : SocketId}

/-- `publish` keeps the invariant of the publisher. -/
theorem PublisherInv.publish {p : Publisher} (h : PublisherInv p) (x : JobSnapshot) :
    PublisherInv (p.publish x) := by
  rcases publish_cases p x with heq | ⟨hnew, heq⟩
  · rw [heq]
    exact h
  · rw [heq]
    refine ⟨fun y hy => ?_, nodup_setPending h.nodup, fun job connections hloop => ?_⟩
    · rcases mem_setPending.mp hy with rfl | ⟨hy, hne⟩
      · exact Function.update_self _ _ _
      · exact (Function.update_of_ne hne _ _).trans (h.pending y hy)
    · obtain ⟨⟨r, hr, hle⟩, hlt, hnewest⟩ := h.forwarding job connections hloop
      by_cases hk : job.jobId = x.jobId
      · have hrx := hnew r (hk ▸ hr)
        refine ⟨⟨x.revision, ?_, by omega⟩, fun y hy hyk => ?_, fun r' _ => ?_⟩
        · exact hk ▸ Function.update_self _ _ _
        · rcases mem_setPending.mp hy with rfl | ⟨-, hne⟩
          · omega
          · exact absurd (hyk.trans hk) hne
        · exact .inr ⟨x, mem_setPending.mpr (.inl rfl), hk.symm⟩
      · refine ⟨⟨r, (Function.update_of_ne hk _ _).trans hr, hle⟩, fun y hy hyk => ?_,
          fun r' hr' => ?_⟩
        · rcases mem_setPending.mp hy with rfl | ⟨hy, -⟩
          · exact absurd hyk.symm hk
          · exact hlt y hy hyk
        · rcases hnewest r' ((Function.update_of_ne hk _ _).symm.trans hr') with heq | ⟨y, hy, hyk⟩
          · exact .inl heq
          · exact .inr ⟨y, mem_setPending.mpr (.inr ⟨hy, fun hyx => hk (hyk.symm.trans hyx)⟩), hyk⟩

theorem Older.publish {p : Publisher} {x y : JobSnapshot} (h : Older p ws y) :
    Older (p.publish x) ws y := by
  rcases publish_cases p x with heq | ⟨hnew, heq⟩
  · rw [heq]
    exact h
  · rw [heq]
    obtain ⟨⟨r, hr, hle⟩, hpending, hsending⟩ := h
    refine ⟨?_, fun z hz hzk => ?_, hsending⟩
    · by_cases hk : y.jobId = x.jobId
      · have hrx := hnew r (hk ▸ hr)
        exact ⟨x.revision, hk ▸ Function.update_self _ _ _, by omega⟩
      · exact ⟨r, (Function.update_of_ne hk _ _).trans hr, hle⟩
    · rcases mem_setPending.mp hz with rfl | ⟨hz, -⟩
      · have hrx := hnew r (hzk ▸ hr)
        omega
      · exact hpending z hz hzk

/-- A call of `publish`. -/
theorem ServerInv.publish (h : ServerInv w) {x : JobSnapshot} (hx : x ∈ w.produced) :
    ServerInv { w with publisher := w.publisher.publish x } := by
  refine ⟨h.produced, fun k r hr => ?_, h.publisher.publish x, fun ws => ?_⟩
  · rcases publish_cases w.publisher x with heq | ⟨-, heq⟩
    · exact h.revisions k r (heq ▸ hr)
    · simp only [heq, Function.update_apply] at hr
      split at hr
      · rename_i hk
        cases hr
        exact hk ▸ h.produced x hx
      · exact h.revisions k r hr
  · obtain ⟨hown, holder, hlisting, hfresh, hunborn, hcovered⟩ := h.socket ws
    refine ⟨hown, fun y hy => (holder y hy).publish, hlisting, hfresh, hunborn,
      fun hws k r hr => ?_⟩
    rcases publish_cases w.publisher x with heq | ⟨-, heq⟩
    · simp only [heq] at hr ⊢
      exact hcovered hws k r hr
    · simp only [heq] at hr ⊢
      by_cases hk : k = x.jobId
      · exact .pending x (mem_setPending.mpr (.inl rfl)) hk.symm
      · rw [Function.update_of_ne hk] at hr
        cases hcovered hws k r hr with
        | pending y hy hyk =>
          exact .pending y (mem_setPending.mpr (.inr ⟨hy, fun hyx => hk (hyk.symm.trans hyx)⟩)) hyk
        | sending job connections hloop hmem hjk hjr =>
          exact .sending job connections hloop hmem hjk hjr
        | sent y hy hyk hyr => exact .sent y hy hyk hyr
        | listed hnone hle => exact .listed hnone hle

/-- What is published, sent and listed decides. -/
theorem Covered.congr {w' : World} {k : JobId} {r : Nat} (h : Covered w ws k r)
    (hpublisher : w'.publisher = w.publisher)
    (hsent : updates (w'.sockets ws).sent = updates (w.sockets ws).sent)
    (hlisting : (w'.sockets ws).listing = (w.sockets ws).listing) : Covered w' ws k r := by
  cases h with
  | pending y hy hyk => exact .pending y (hpublisher ▸ hy) hyk
  | sending job connections hloop hmem hjk hjr =>
    exact .sending job connections (hpublisher ▸ hloop) hmem hjk hjr
  | sent y hy hyk hyr => exact .sent y (hsent ▸ hy) hyk hyr
  | listed hnone hle => exact .listed (hsent ▸ hnone) (hlisting ▸ hle)

/-- An operation of the store. -/
theorem ServerInv.commit (h : ServerInv w) (indexed : Bool) (call : Millis × Op) :
    ServerInv (step indexed w (.commit call)) := by
  refine ⟨fun x hx => ?_, fun k r hr => (h.revisions k r hr).step indexed call, h.publisher,
    fun ws => ?_⟩
  · rcases List.mem_append.mp hx with hx | hx
    · exact (h.produced x hx).step indexed call
    · obtain ⟨job, hjob, rfl⟩ := List.mem_map.mp hx
      exact reaches_jobSnapshot (mem_jobs.mp hjob)
  · obtain ⟨hown, holder, hlisting, hfresh, hunborn, hcovered⟩ := h.socket ws
    refine ⟨hown, holder, fun jobs hjobs x hx => (hlisting jobs hjobs x hx).step indexed call,
      hfresh, hunborn, fun hws k r hr => ?_⟩
    exact (hcovered hws k r hr).congr rfl rfl rfl

/-- The publication loop moves on. -/
theorem ServerInv.advance (h : ServerInv w) :
    ServerInv { w with publisher := w.publisher.advance w.adminConnections } := by
  have hidle : ∀ {loop wake}, (∀ job connections, loop ≠ .sending job connections) →
      (∀ job connections ws, w.publisher.loop = .sending job connections → ws ∉ connections) →
      ServerInv { w with
        publisher := { w.publisher with publicationWake := wake, loop := loop } } := by
    intro loop wake hloop hnone
    refine ⟨h.produced, h.revisions, ⟨h.publisher.pending, h.publisher.nodup,
      fun job connections heq => absurd heq (hloop job connections)⟩, fun ws => ?_⟩
    obtain ⟨hown, holder, hlisting, hfresh, hunborn, hcovered⟩ := h.socket ws
    refine ⟨hown, fun x hx => ⟨(holder x hx).le, (holder x hx).pending,
      fun job connections heq => absurd heq (hloop job connections)⟩, hlisting, hfresh, hunborn,
      fun hws k r hr => ?_⟩
    cases hcovered hws k r hr with
    | pending y hy hyk => exact .pending y hy hyk
    | sending job connections heq hmem => exact absurd hmem (hnone job connections ws heq)
    | sent y hy hyk hyr => exact .sent y hy hyk hyr
    | listed hlnone hle => exact .listed hlnone hle
  rw [Publisher.advance]
  split
  · rename_i hloop
    split
    · exact hidle (by simp) (by simp [hloop])
    · exact h
  · rename_i hloop
    split
    · exact hidle (by simp) (by simp [hloop])
    · -- the last of the pending snapshots is taken
      rename_i job hlast
      obtain ⟨rest, hpending⟩ := List.getLast?_eq_some_iff.mp hlast
      have hmem : ∀ y, y ∈ w.publisher.pendingPublications ↔ y ∈ rest ∨ y = job := by
        intro y
        rw [hpending, List.mem_append, List.mem_singleton]
      have hnodup := h.publisher.nodup
      rw [hpending, List.map_append, List.map_singleton, List.nodup_append] at hnodup
      have hother : ∀ y ∈ rest, y.jobId ≠ job.jobId := fun y hy =>
        hnodup.2.2 _ (List.mem_map_of_mem hy) _ List.mem_cons_self
      have hjob := h.publisher.pending job ((hmem job).mpr (.inr rfl))
      have hdrop : w.publisher.pendingPublications.dropLast = rest := by
        rw [hpending, List.dropLast_concat]
      refine ⟨h.produced, h.revisions, ⟨fun y hy => ?_, ?_, fun job' connections heq => ?_⟩,
        fun ws => ?_⟩
      · exact h.publisher.pending y ((hmem y).mpr (.inl (hdrop ▸ hy)))
      · rw [hdrop]
        exact hnodup.1
      · cases heq
        refine ⟨⟨_, hjob, le_rfl⟩, fun y hy hyk => ?_, fun r hr => .inl ?_⟩
        · exact absurd hyk (hother y (hdrop ▸ hy))
        · exact Option.some.inj (hjob.symm.trans hr)
      · obtain ⟨hown, holder, hlisting, hfresh, hunborn, hcovered⟩ :=
          h.socket ws
        refine ⟨hown, fun x hx => ⟨(holder x hx).le, fun y hy hyk => ?_,
          fun job' connections heq _ hk => ?_⟩, hlisting, hfresh, hunborn, fun hws k r hr => ?_⟩
        · exact (holder x hx).pending y ((hmem y).mpr (.inl (hdrop ▸ hy))) hyk
        · cases heq
          exact (holder x hx).pending job ((hmem job).mpr (.inr rfl)) hk
        · cases hcovered hws k r hr with
          | pending y hy hyk =>
            rcases (hmem y).mp hy with hy | rfl
            · exact .pending y (hdrop.symm ▸ hy) hyk
            · exact .sending y w.adminConnections rfl hws hyk
                (Option.some.inj (hjob.symm.trans (hyk ▸ hr)))
          | sending job' connections heq => exact absurd (hloop.symm.trans heq) (by simp)
          | sent y hy hyk hyr => exact .sent y hy hyk hyr
          | listed hnone hle => exact .listed hnone hle
  · rename_i job hloop
    refine hidle (by simp) fun job' connections ws heq => ?_
    cases hloop.symm.trans heq
    exact List.not_mem_nil
  · exact h

/-- A new socket of a page. -/
theorem ServerInv.connect (h : ServerInv w) (page : Page) :
    ServerInv { w with nextSocket := w.nextSocket + 1, page := page } := by
  refine ⟨h.produced, h.revisions, h.publisher, fun ws => ?_⟩
  obtain ⟨hown, holder, hlisting, hfresh, hunborn, hcovered⟩ := h.socket ws
  exact ⟨hown, holder, hlisting, hfresh, fun hle => hunborn (Nat.le_of_succ_le hle),
    fun hws k r hr => (hcovered hws k r hr).congr rfl rfl rfl⟩

/-- A socket is closed. -/
theorem ServerInv.close (h : ServerInv w) (ws : SocketId) : ServerInv (w.close ws) := by
  refine ⟨h.produced, h.revisions, h.publisher, fun ws' => ?_⟩
  obtain ⟨hown, holder, hlisting, hfresh, hunborn, hcovered⟩ := h.socket ws'
  exact ⟨hown, holder, hlisting,
    fun hnew => ⟨(hfresh hnew).1, fun hmem => (hfresh hnew).2 (List.mem_filter.mp hmem).1⟩, hunborn,
    fun hws k r hr => (hcovered (List.mem_filter.mp hws).1 k r hr).congr rfl rfl rfl⟩

/-- A socket that is accepted has nothing on it. -/
theorem ServerInv.accept (h : ServerInv w) (hborn : ws < w.nextSocket)
    (hnew : (w.sockets ws).accepted = false) :
    ServerInv { w with
      adminConnections := ws :: w.adminConnections
      sockets := Function.update w.sockets ws { w.sockets ws with accepted := true } } := by
  refine ⟨h.produced, h.revisions, h.publisher, fun ws' => ?_⟩
  obtain ⟨hown, holder, hlisting, hfresh, hunborn, hcovered⟩ := h.socket ws'
  by_cases hsame : ws' = ws
  · subst hsame
    obtain ⟨hsocket, -⟩ := hfresh hnew
    constructor <;> simp only [Function.update_self, hsocket]
    · exact ⟨List.Pairwise.nil, rfl, by simp [Socket.fresh], le_rfl⟩
    · simp [Socket.fresh]
    · simp [Socket.fresh]
    · simp
    · exact fun hle => absurd hle (not_le.mpr hborn)
    · exact fun _ k r _ => .listed (by simp [Socket.fresh]) (by simp [Socket.fresh])
  · have hsocket : Function.update w.sockets ws { w.sockets ws with accepted := true } ws' =
        w.sockets ws' := Function.update_of_ne hsame _ _
    constructor <;> simp only [hsocket]
    · exact hown
    · exact holder
    · exact hlisting
    · exact fun hnew => ⟨(hfresh hnew).1, by simpa [hsame] using (hfresh hnew).2⟩
    · exact hunborn
    · intro hws k r hr
      have hws' : ws' ∈ w.adminConnections := by simpa [hsame] using hws
      exact (hcovered hws' k r hr).congr rfl (by simp only [hsocket]) (by simp only [hsocket])

/-- The event goes to one of the sockets, or does not reach it. -/
theorem ServerInv.forward (h : ServerInv w) (indexed : Bool) (ws : SocketId) (sends : Bool) :
    ServerInv (step indexed w (.forward ws sends)) := by
  rw [step]
  split
  · rename_i job connections hloop
    split
    · exact h
    · rename_i hmem
      rw [not_not] at hmem
      have hforwarding := h.publisher.forwarding job connections hloop
      have hpublisher : PublisherInv { w.publisher with
          loop := .sending job (connections.filter fun other => other ≠ ws) } := by
        refine ⟨h.publisher.pending, h.publisher.nodup, fun job' connections' heq => ?_⟩
        cases heq
        exact ⟨hforwarding.le, hforwarding.lt, hforwarding.newest⟩
      have holder : ∀ ws' x, Older w.publisher ws' x → Older { w.publisher with
          loop := .sending job (connections.filter fun other => other ≠ ws) } ws' x := by
        intro ws' x hx
        refine ⟨hx.le, hx.pending, fun job' connections' heq hws' => ?_⟩
        cases heq
        exact hx.sending job connections hloop (List.mem_filter.mp hws').1
      -- the other sockets are still waiting for the event
      have hcovered : ∀ {w' : World} {ws' k r}, ws' ≠ ws → ws' ∈ w.adminConnections →
          w'.publisher = { w.publisher with
            loop := .sending job (connections.filter fun other => other ≠ ws) } →
          w'.sockets ws' = w.sockets ws' → w.publisher.publicationRevisions k = some r →
            Covered w' ws' k r := by
        intro w' ws' k r hne hws' hpub hsocket hr
        cases (h.socket ws').covered hws' k r hr with
        | pending y hy hyk => exact .pending y (hpub ▸ hy) hyk
        | sending job' connections' heq hws' hk hjr =>
          cases hloop.symm.trans heq
          exact .sending job _ (congrArg Publisher.loop hpub)
            (List.mem_filter.mpr ⟨hws', decide_eq_true hne⟩) hk hjr
        | sent y hy hyk hyr => exact .sent y (hsocket ▸ hy) hyk hyr
        | listed hnone hle => exact .listed (hsocket ▸ hnone) (hsocket ▸ hle)
      split
      · rename_i hgone
        refine ⟨h.produced, h.revisions, hpublisher, fun ws' => ?_⟩
        obtain ⟨hown, holder', hlisting, hfresh, hunborn, -⟩ := h.socket ws'
        exact ⟨hown, fun x hx => holder ws' x (holder' x hx), hlisting, hfresh, hunborn,
          fun hws' k r hr => hcovered (fun heq => hgone (heq ▸ hws')) hws' rfl rfl hr⟩
      · rename_i hopen
        rw [not_not] at hopen
        split
        · -- the update is newer than those that went out before
          refine ⟨h.produced, h.revisions, hpublisher, fun ws' => ?_⟩
          obtain ⟨hown, holder', hlisting, hfresh, hunborn, hcovered'⟩ := h.socket ws'
          by_cases hsame : ws' = ws
          · subst hsame
            have haccepted : (w.sockets ws').accepted = true := by
              by_contra hnot
              exact (hfresh (by simpa using hnot)).2 hopen
            constructor <;> simp only [World.send, Function.update_self]
            · refine hown.sendUpdate fun x hx hk => ?_
              exact (holder' x hx).sending job connections hloop hmem hk.symm
            · intro x hx
              rw [updates_append, updates_update] at hx
              rcases List.mem_append.mp hx with hx | hx
              · exact holder ws' x (holder' x hx)
              · rw [List.mem_singleton.mp hx]
                refine ⟨hforwarding.le, hforwarding.lt, fun job' connections' heq hws' => ?_⟩
                cases heq
                exact absurd rfl (of_decide_eq_true (List.mem_filter.mp hws').2)
            · exact hlisting
            · exact fun hnew => absurd (haccepted.symm.trans hnew) (by simp)
            · exact hunborn
            · intro _ k r hr
              have hjob : job.jobId = k → Covered { w with
                  publisher := { w.publisher with
                    loop := .sending job (connections.filter fun other => other ≠ ws') }
                  sockets := Function.update w.sockets ws' { w.sockets ws' with
                    sent := (w.sockets ws').sent ++ [.pushJobUpdated job] } } ws' k r := by
                intro hk
                rcases hforwarding.newest r (hk ▸ hr) with hrev | ⟨y, hy, hyk⟩
                · exact .sent job (by simp) hk hrev
                · exact .pending y hy (hyk.trans hk)
              cases hcovered' hopen k r hr with
              | pending y hy hyk => exact .pending y hy hyk
              | sending job' connections' heq _ hk =>
                cases hloop.symm.trans heq
                exact hjob hk
              | sent y hy hyk hyr => exact .sent y (by simp [hy]) hyk hyr
              | listed hnone hle =>
                by_cases hk : job.jobId = k
                · exact hjob hk
                · refine .listed (fun x hx => ?_) (by simpa using hle)
                  simp only [Function.update_self, updates_append, updates_update, List.mem_append,
                    List.mem_singleton] at hx
                  rcases hx with hx | rfl
                  · exact hnone x hx
                  · exact hk
          · have hsocket : Function.update w.sockets ws { w.sockets ws with
                sent := (w.sockets ws).sent ++ [.pushJobUpdated job] } ws' = w.sockets ws' :=
              Function.update_of_ne hsame _ _
            constructor <;> simp only [World.send, hsocket]
            · exact hown
            · exact fun x hx => holder ws' x (holder' x hx)
            · exact hlisting
            · exact hfresh
            · exact hunborn
            · exact fun hws' k r hr => hcovered hsame hws' rfl hsocket hr
        · refine ⟨h.produced, h.revisions, hpublisher, fun ws' => ?_⟩
          obtain ⟨hown, holder', hlisting, hfresh, hunborn, -⟩ := h.socket ws'
          refine ⟨hown, fun x hx => holder ws' x (holder' x hx), hlisting,
            fun hnew => ⟨(hfresh hnew).1, fun hws' => (hfresh hnew).2 (List.mem_filter.mp hws').1⟩,
            hunborn, fun hws' k r hr => ?_⟩
          obtain ⟨hws', hne⟩ := List.mem_filter.mp hws'
          exact hcovered (of_decide_eq_true hne) hws' rfl rfl hr
  · exact h

/-- A socket of the server is replaced by one with the same updates. -/
theorem ServerInv.updateSocket (h : ServerInv w) {socket : Socket} (hown : socket.WellFormed)
    (hsent : updates socket.sent = updates (w.sockets ws).sent)
    (hlisting : ∀ jobs, socket.listing = some jobs → ∀ x ∈ jobs, Reaches w.store x.jobId x.revision)
    (haccepted : (w.sockets ws).accepted = true) (haccepted' : socket.accepted = true)
    (hcovered : ws ∈ w.adminConnections → ∀ k r, w.publisher.publicationRevisions k = some r →
      Covered w ws k r → ∀ jobs, socket.listing = some jobs → ∀ x ∈ jobs, x.jobId = k →
        r ≤ x.revision ∨ (w.sockets ws).listing = some jobs) :
    ServerInv { w with sockets := Function.update w.sockets ws socket } := by
  refine ⟨h.produced, h.revisions, h.publisher, fun ws' => ?_⟩
  obtain ⟨hown', holder, hlisting', hfresh, hunborn, hcovered'⟩ := h.socket ws'
  by_cases hsame : ws' = ws
  · subst hsame
    constructor <;> simp only [Function.update_self, hsent]
    · exact hown
    · exact holder
    · exact hlisting
    · exact fun hnew => absurd (haccepted'.symm.trans hnew) (by simp)
    · exact fun hle => absurd (haccepted.symm.trans (hunborn hle)) (by simp)
    · intro hws k r hr
      have hold := hcovered' hws k r hr
      cases hold with
      | pending y hy hyk => exact .pending y hy hyk
      | sending job connections hloop hmem hjk hjr =>
        exact .sending job connections hloop hmem hjk hjr
      | sent y hy hyk hyr => exact .sent y (by simpa [hsent] using hy) hyk hyr
      | listed hnone hle =>
        refine .listed (by simpa [hsent] using hnone) fun jobs hjobs x hx hk => ?_
        simp only [Function.update_self] at hjobs
        rcases hcovered hws k r hr (.listed hnone hle) jobs hjobs x hx hk with hle' | hold
        · exact hle'
        · exact hle jobs hold x hx hk
  · have hsocket : Function.update w.sockets ws socket ws' = w.sockets ws' :=
      Function.update_of_ne hsame _ _
    constructor <;> simp only [hsocket]
    · exact hown'
    · exact holder
    · exact hlisting'
    · exact hfresh
    · exact hunborn
    · exact fun hws k r hr => (hcovered' hws k r hr).congr rfl (by simp only [hsocket])
        (by simp only [hsocket])

theorem SocketInv.accepted_of_open (h : SocketInv w ws) (hopen : ws ∈ w.adminConnections) :
    (w.sockets ws).accepted = true := by
  by_contra hnot
  exact (h.fresh (by simpa using hnot)).2 hopen

/-- The jobs are read for a socket. -/
theorem ServerInv.list (h : ServerInv w) {newestFirst : List JobRow → List JobRow}
    {recentLimit : Nat} {cutoff : Millis} {jobs : List JobSnapshot}
    (hopen : ws ∈ w.adminConnections) (hnone : (w.sockets ws).listing = none)
    (hlist : w.store.listSnapshots newestFirst recentLimit cutoff = .ok jobs) :
    ServerInv { w with
      sockets := Function.update w.sockets ws { w.sockets ws with listing := some jobs } } := by
  have hshows := shows_of_listSnapshots hlist
  have hsocket := h.socket ws
  have haccepted := hsocket.accepted_of_open hopen
  have hunsent : (w.sockets ws).listed = false := by
    by_contra hsent
    exact hsocket.own.read (by simpa using hsent) hnone
  refine h.updateSocket ⟨hsocket.own.sorted, ?_, by simp, hsocket.own.received⟩ rfl ?_ haccepted
    haccepted ?_
  · simpa [hunsent] using hsocket.own.listed
  · rintro jobs' ⟨⟩ x hx
    obtain ⟨k, job, hjob, rfl⟩ := hshows x hx
    exact reaches_jobSnapshot hjob
  · rintro - k r hr - jobs' ⟨⟩ x hx hk
    -- what is published of a job is in the store, and the listing has the job as it is there
    obtain ⟨job, hjob, hle⟩ := h.revisions k r hr
    obtain ⟨k', job', hjob', rfl⟩ := hshows x hx
    have hk' : k' = k := (jobId_of_job? hjob').symm.trans hk
    rw [hk', hjob, Option.some.injEq] at hjob'
    exact .inl (hjob' ▸ hle)

/-- The listing goes out. -/
theorem ServerInv.sendListing (h : ServerInv w) {jobs : List JobSnapshot}
    (hopen : ws ∈ w.adminConnections) (hlisting : (w.sockets ws).listing = some jobs)
    (hnew : (w.sockets ws).listed = false) :
    ServerInv { w with
      sockets := Function.update w.sockets ws
        { w.sockets ws with
          listed := true
          sent := (w.sockets ws).sent ++ [.pushJobsSnapshot jobs] } } := by
  have hsocket := h.socket ws
  have haccepted := hsocket.accepted_of_open hopen
  refine h.updateSocket (hsocket.own.sendListing hlisting hnew) ?_ hsocket.listing haccepted
    haccepted fun _ k r _ _ jobs' hjobs x _ _ => .inr hjobs
  rw [updates_append, updates_listing, List.append_nil]

/-- A frame arrives. -/
theorem ServerInv.deliver (h : ServerInv w) {frame : Frame}
    (hframe : (w.sockets ws).sent[(w.sockets ws).received]? = some frame) :
    ServerInv { w with
      sockets := Function.update w.sockets ws
        { w.sockets ws with received := (w.sockets ws).received + 1 } } := by
  have hsocket := h.socket ws
  have hlt : (w.sockets ws).received < (w.sockets ws).sent.length :=
    (List.getElem?_eq_some_iff.mp hframe).1
  have haccepted : (w.sockets ws).accepted = true := by
    by_contra hnot
    rw [(hsocket.fresh (by simpa using hnot)).1] at hlt
    exact absurd hlt (by simp [Socket.fresh])
  exact h.updateSocket ⟨hsocket.own.sorted, hsocket.own.listed, hsocket.own.read, hlt⟩ rfl
    hsocket.listing haccepted haccepted fun _ k r _ _ jobs hjobs x _ _ => .inr hjobs

/-- The page is no part of the server. -/
theorem ServerInv.setPage (h : ServerInv w) (page : Page) : ServerInv { w with page := page } := by
  refine ⟨h.produced, h.revisions, h.publisher, fun ws => ?_⟩
  obtain ⟨hown, holder, hlisting, hfresh, hunborn, hcovered⟩ := h.socket ws
  exact ⟨hown, holder, hlisting, hfresh, hunborn,
    fun hws k r hr => (hcovered hws k r hr).congr rfl rfl rfl⟩

theorem ServerInv.step (h : ServerInv w) (indexed : Bool) (label : Label) :
    ServerInv (step indexed w label) := by
  cases label with
  | commit call => exact h.commit indexed call
  | publish index =>
    rw [Console.step]
    split
    · exact h
    · rename_i x hx
      exact h.publish (List.mem_of_getElem? hx)
  | advance => exact h.advance
  | forward ws sends => exact h.forward indexed ws sends
  | connect own => exact h.connect _
  | accept ws =>
    rw [Console.step]
    split
    · exact h
    · rename_i hnew
      rw [not_or, not_le, Bool.not_eq_true] at hnew
      exact h.accept hnew.1 hnew.2
  | list ws newestFirst recentLimit cutoff =>
    rw [Console.step]
    split
    · exact h
    · rename_i hnew
      rw [not_or, not_not, not_not] at hnew
      split
      · exact h.close ws
      · rename_i hlist
        exact h.list hnew.1 hnew.2 hlist
  | sendListing ws sends =>
    rw [Console.step]
    split
    · exact h
    · rename_i hlisting
      split
      · exact h
      · rename_i hnew
        rw [not_or, not_not, Bool.not_eq_true] at hnew
        split
        · exact h.sendListing hnew.1 hlisting hnew.2
        · exact h.close ws
  | close ws => exact h.close ws
  | deliver ws =>
    rw [Console.step]
    split
    · exact h
    · rename_i hframe
      exact (h.deliver hframe).setPage _

theorem ServerInv.exec (h : ServerInv w) (indexed : Bool) (labels : List Label) :
    ServerInv (w.exec indexed labels) :=
  Run.exec_invariant (fun _ label hw => hw.step indexed label) h labels

end ServerSteps

/-! ### What a step does to a socket -/

/-- The changes of a socket, with what they start from. -/
inductive SocketChange (w : World) (label : Label) (ws : SocketId) : Socket → Prop
  | same : SocketChange w label ws (w.sockets ws)
  | accepted (hnew : (w.sockets ws).accepted = false) :
    SocketChange w label ws { w.sockets ws with accepted := true }
  | listing {newestFirst : List JobRow → List JobRow} {recentLimit : Nat} {cutoff : Millis}
      (jobs : List JobSnapshot) (hnone : (w.sockets ws).listing = none)
      (hlist : w.store.listSnapshots newestFirst recentLimit cutoff = .ok jobs) :
    SocketChange w label ws { w.sockets ws with listing := some jobs }
  | listed (jobs : List JobSnapshot) (hlisting : (w.sockets ws).listing = some jobs) :
    SocketChange w label ws
      { w.sockets ws with
        listed := true
        sent := (w.sockets ws).sent ++ [.pushJobsSnapshot jobs] }
  | update (job : JobSnapshot) :
    SocketChange w label ws
      { w.sockets ws with sent := (w.sockets ws).sent ++ [.pushJobUpdated job] }
  | received (hlabel : label = .deliver ws) :
    SocketChange w label ws { w.sockets ws with received := (w.sockets ws).received + 1 }

section SocketChange

variable {w : World} {label : Label} {ws : SocketId} {socket : Socket}

/-- A step that replaces one socket changes that one only. -/
theorem socketChange_update {ws' : SocketId} (h : SocketChange w label ws' socket) :
    SocketChange w label ws (Function.update w.sockets ws' socket ws) := by
  by_cases hsame : ws = ws'
  · subst hsame
    rwa [Function.update_self]
  · rw [Function.update_of_ne hsame]
    exact .same

theorem socketChange_step (indexed : Bool) (w : World) (label : Label) (ws : SocketId) :
    SocketChange w label ws ((step indexed w label).sockets ws) := by
  cases label with
  | commit call => exact .same
  | publish index =>
    rw [step]
    split <;> exact .same
  | advance => exact .same
  | forward ws' sends =>
    rw [step]
    split
    · split
      · exact .same
      · split
        · exact .same
        · split
          · exact socketChange_update (.update _)
          · exact .same
    · exact .same
  | connect own => exact .same
  | accept ws' =>
    rw [step]
    split
    · exact .same
    · rename_i hnew
      rw [not_or, not_le, Bool.not_eq_true] at hnew
      exact socketChange_update (.accepted hnew.2)
  | list ws' newestFirst recentLimit cutoff =>
    rw [step]
    split
    · exact .same
    · rename_i hnew
      rw [not_or, not_not, not_not] at hnew
      split
      · exact .same
      · rename_i hlist
        exact socketChange_update (.listing _ hnew.2 hlist)
  | sendListing ws' sends =>
    rw [step]
    split
    · exact .same
    · rename_i hlisting
      split
      · exact .same
      · split
        · exact socketChange_update (.listed _ hlisting)
        · exact .same
  | close ws' => exact .same
  | deliver ws' =>
    rw [step]
    split
    · exact .same
    · exact socketChange_update (.received rfl)

/-- What stays on a socket. -/
structure Socket.Later (socket socket' : Socket) : Prop where
  accepted : socket.accepted = true → socket'.accepted = true
  listing : ∀ jobs, socket.listing = some jobs → socket'.listing = some jobs
  sent : socket.sent <+: socket'.sent

theorem Socket.Later.refl (socket : Socket) : socket.Later socket :=
  ⟨id, fun _ => id, List.prefix_rfl⟩

theorem Socket.Later.trans {socket₁ socket₂ socket₃ : Socket} (h : socket₁.Later socket₂)
    (h' : socket₂.Later socket₃) : socket₁.Later socket₃ :=
  ⟨h'.accepted ∘ h.accepted, fun jobs => h'.listing jobs ∘ h.listing jobs, h.sent.trans h'.sent⟩

theorem SocketChange.later (h : SocketChange w label ws socket) : (w.sockets ws).Later socket := by
  cases h with
  | same => exact .refl _
  | accepted hnew => exact ⟨fun _ => rfl, fun _ => id, List.prefix_rfl⟩
  | listing jobs hnone hlist =>
    exact ⟨id, fun _ hjobs => absurd (hnone.symm.trans hjobs) (by simp), List.prefix_rfl⟩
  | listed jobs hlisting => exact ⟨id, fun _ => id, List.prefix_append _ _⟩
  | update job => exact ⟨id, fun _ => id, List.prefix_append _ _⟩
  | received hlabel => exact ⟨id, fun _ => id, List.prefix_rfl⟩

/-- A socket that has been accepted is not accepted again. -/
theorem open_of_step {indexed : Bool} (haccepted : (w.sockets ws).accepted = true)
    (hopen : ws ∈ (step indexed w label).adminConnections) : ws ∈ w.adminConnections := by
  cases label with
  | commit call => exact hopen
  | publish index =>
    rw [step] at hopen
    split at hopen <;> exact hopen
  | advance => exact hopen
  | forward ws' sends =>
    rw [step] at hopen
    split at hopen
    · split at hopen
      · exact hopen
      · split at hopen
        · exact hopen
        · split at hopen
          · exact hopen
          · exact (List.mem_filter.mp hopen).1
    · exact hopen
  | connect own => exact hopen
  | accept ws' =>
    rw [step] at hopen
    split at hopen
    · exact hopen
    · rename_i hnew
      rcases List.mem_cons.mp hopen with rfl | hopen
      · exact absurd (.inr haccepted) hnew
      · exact hopen
  | list ws' newestFirst recentLimit cutoff =>
    rw [step] at hopen
    split at hopen
    · exact hopen
    · split at hopen
      · exact (List.mem_filter.mp hopen).1
      · exact hopen
  | sendListing ws' sends =>
    rw [step] at hopen
    split at hopen
    · exact hopen
    · split at hopen
      · exact hopen
      · split at hopen
        · exact hopen
        · exact (List.mem_filter.mp hopen).1
  | close ws' => exact (List.mem_filter.mp hopen).1
  | deliver ws' =>
    rw [step] at hopen
    split at hopen <;> exact hopen

end SocketChange

/-! ### What is published -/

/-- This revision of the job has been published, or a later one. -/
def Published (w : World) (k : JobId) (r : Nat) : Prop :=
  ∃ r', w.publisher.publicationRevisions k = some r' ∧ r ≤ r'

section Published

variable {w : World} {k : JobId} {r : Nat}

theorem published_publish (w : World) (x : JobSnapshot) :
    Published { w with publisher := w.publisher.publish x } x.jobId x.revision := by
  rw [Published, Publisher.publish]
  split
  · rename_i hany
    obtain ⟨r, hr, hle⟩ := (Option.any_eq_true _ _).mp hany
    exact ⟨r, hr, of_decide_eq_true hle⟩
  · exact ⟨_, Function.update_self _ _ _, le_rfl⟩

theorem Published.publish (h : Published w k r) (x : JobSnapshot) :
    Published { w with publisher := w.publisher.publish x } k r := by
  obtain ⟨r', hr', hle⟩ := h
  rcases publish_cases w.publisher x with heq | ⟨hnew, heq⟩
  · rw [heq]
    exact ⟨r', hr', hle⟩
  · rw [heq]
    by_cases hk : k = x.jobId
    · have hlt := hnew r' (hk ▸ hr')
      exact ⟨x.revision, hk ▸ Function.update_self _ _ _, by omega⟩
    · exact ⟨r', (Function.update_of_ne hk _ _).trans hr', hle⟩

theorem Published.step (h : Published w k r) (indexed : Bool) (label : Label) :
    Published (step indexed w label) k r := by
  cases label with
  | commit call => exact h
  | publish index =>
    rw [Console.step]
    split
    · exact h
    · exact h.publish _
  | advance =>
    rw [Console.step, Publisher.advance]
    split
    · split <;> exact h
    · split <;> exact h
    · exact h
    · exact h
  | forward ws sends =>
    rw [Console.step]
    split
    · split
      · exact h
      · split
        · exact h
        · split <;> exact h
    · exact h
  | connect own => exact h
  | accept ws =>
    rw [Console.step]
    split <;> exact h
  | list ws newestFirst recentLimit cutoff =>
    rw [Console.step]
    split
    · exact h
    · split <;> exact h
  | sendListing ws sends =>
    rw [Console.step]
    split
    · exact h
    · split
      · exact h
      · split <;> exact h
  | close ws => exact h
  | deliver ws =>
    rw [Console.step]
    split <;> exact h

end Published

/-! ### Publications reach the sockets -/

/-- A publication of this revision is on a socket, or one at least as new is on its way to it. -/
inductive Owed (w : World) (ws : SocketId) (k : JobId) (r : Nat) : Prop
  | pending (x : JobSnapshot) (hmem : x ∈ w.publisher.pendingPublications) (hk : x.jobId = k)
      (hr : r ≤ x.revision)
  | sending (job : JobSnapshot) (connections : List SocketId)
      (hloop : w.publisher.loop = .sending job connections) (hws : ws ∈ connections)
      (hk : job.jobId = k) (hr : r ≤ job.revision)
  | sent (x : JobSnapshot) (hmem : x ∈ updates (w.sockets ws).sent) (hk : x.jobId = k)
      (hr : r ≤ x.revision)

section Owed

variable {w w' : World} {ws : SocketId} {k : JobId} {r : Nat}

/-- The publisher is as before, and the socket is the same or a later one. -/
theorem Owed.later (h : Owed w ws k r) (hpublisher : w'.publisher = w.publisher)
    (hsocket : (w.sockets ws).Later (w'.sockets ws)) : Owed w' ws k r := by
  cases h with
  | pending x hmem hk hr => exact .pending x (hpublisher ▸ hmem) hk hr
  | sending job connections hloop hws hk hr =>
    exact .sending job connections (hpublisher ▸ hloop) hws hk hr
  | sent x hmem hk hr => exact .sent x ((hsocket.sent.filterMap _).subset hmem) hk hr

/-- A later publication of the job takes the place of an earlier one. -/
theorem Owed.publish (h : Owed w ws k r) (hinv : PublisherInv w.publisher) (x : JobSnapshot) :
    Owed { w with publisher := w.publisher.publish x } ws k r := by
  rcases publish_cases w.publisher x with heq | ⟨hnew, heq⟩
  · exact h.later heq (.refl _)
  · rw [heq]
    cases h with
    | pending y hy hk hr =>
      by_cases hsame : y.jobId = x.jobId
      · have hlt := hnew y.revision (hsame ▸ hinv.pending y hy)
        exact .pending x (mem_setPending.mpr (.inl rfl)) (hsame.symm.trans hk) (by omega)
      · exact .pending y (mem_setPending.mpr (.inr ⟨hy, hsame⟩)) hk hr
    | sending job connections hloop hws hk hr => exact .sending job connections hloop hws hk hr
    | sent y hy hk hr => exact .sent y hy hk hr

/-- What the loop takes is sent to all sockets that are there. -/
theorem Owed.advance (h : Owed w ws k r) (hopen : ws ∈ w.adminConnections) :
    Owed { w with publisher := w.publisher.advance w.adminConnections } ws k r := by
  have hidle : ∀ {loop wake},
      (∀ job connections ws, w.publisher.loop = .sending job connections → ws ∉ connections) →
      Owed { w with
        publisher := { w.publisher with publicationWake := wake, loop := loop } } ws k r := by
    intro loop wake hnone
    cases h with
    | pending x hmem hk hr => exact .pending x hmem hk hr
    | sending job connections hloop hws => exact absurd hws (hnone job connections ws hloop)
    | sent x hmem hk hr => exact .sent x hmem hk hr
  rw [Publisher.advance]
  split
  · rename_i hloop
    split
    · exact hidle (by simp [hloop])
    · exact h
  · rename_i hloop
    split
    · exact hidle (by simp [hloop])
    · rename_i job hlast
      obtain ⟨rest, hpending⟩ := List.getLast?_eq_some_iff.mp hlast
      cases h with
      | pending x hmem hk hr =>
        rw [hpending, List.mem_append, List.mem_singleton] at hmem
        rcases hmem with hmem | rfl
        · refine .pending x ?_ hk hr
          rwa [hpending, List.dropLast_concat]
        · exact .sending x w.adminConnections rfl hopen hk hr
      | sending job' connections heq => exact absurd (hloop.symm.trans heq) (by simp)
      | sent x hmem hk hr => exact .sent x hmem hk hr
  · rename_i job hloop
    refine hidle fun job' connections ws heq => ?_
    cases hloop.symm.trans heq
    exact List.not_mem_nil
  · exact h

/-- The event that is forwarded goes to the socket, or the socket is closed. -/
theorem Owed.forward (h : Owed w ws k r) (indexed : Bool) (ws' : SocketId) (sends : Bool)
    (hopen : ws ∈ w.adminConnections)
    (hopen' : ws ∈ (step indexed w (.forward ws' sends)).adminConnections) :
    Owed (step indexed w (.forward ws' sends)) ws k r := by
  revert hopen'
  rw [step]
  split
  · rename_i job connections hloop
    have hkeep : ∀ {w' : World}, w'.publisher = { w.publisher with
          loop := .sending job (connections.filter fun other => other ≠ ws') } →
        (w.sockets ws).Later (w'.sockets ws) → (ws = ws' → job ∈ updates (w'.sockets ws).sent) →
        Owed w' ws k r := by
      intro w' hpublisher hlater hsent
      cases h with
      | pending x hmem hk hr => exact .pending x (hpublisher ▸ hmem) hk hr
      | sending job' connections' heq hws hk hr =>
        cases hloop.symm.trans heq
        by_cases hsame : ws = ws'
        · exact .sent job (hsent hsame) hk hr
        · exact .sending job _ (congrArg Publisher.loop hpublisher)
            (List.mem_filter.mpr ⟨hws, decide_eq_true hsame⟩) hk hr
      | sent x hmem hk hr => exact .sent x ((hlater.sent.filterMap _).subset hmem) hk hr
    split
    · exact fun _ => h
    · split
      · rename_i hgone
        exact fun _ => hkeep rfl (.refl _) fun hsame => absurd (hsame ▸ hopen) hgone
      · split
        · refine fun _ => hkeep rfl ?_ fun hsame => ?_
          · exact (@socketChange_update w .advance ws _ ws' (.update job)).later
          · subst hsame
            simp [World.send]
        · exact fun hopen' => hkeep rfl (.refl _) fun hsame =>
            absurd hsame (of_decide_eq_true (List.mem_filter.mp hopen').2)
  · exact fun _ => h

theorem Owed.step (h : Owed w ws k r) (hinv : PublisherInv w.publisher) (indexed : Bool)
    (label : Label) (hopen : ws ∈ w.adminConnections)
    (hopen' : ws ∈ (step indexed w label).adminConnections) :
    Owed (step indexed w label) ws k r := by
  have hlater := (socketChange_step indexed w label ws).later
  cases label with
  | commit call => exact h.later rfl hlater
  | publish index =>
    rw [Console.step]
    split
    · exact h
    · exact h.publish hinv _
  | advance => exact h.advance hopen
  | forward ws' sends => exact h.forward indexed ws' sends hopen hopen'
  | connect own => exact h.later rfl hlater
  | accept ws' =>
    refine h.later ?_ hlater
    rw [Console.step]
    split <;> rfl
  | list ws' newestFirst recentLimit cutoff =>
    refine h.later ?_ hlater
    rw [Console.step]
    split
    · rfl
    · split <;> rfl
  | sendListing ws' sends =>
    refine h.later ?_ hlater
    rw [Console.step]
    split
    · rfl
    · split
      · rfl
      · split <;> rfl
  | close ws' => exact h.later rfl hlater
  | deliver ws' =>
    refine h.later ?_ hlater
    rw [Console.step]
    split <;> rfl

/-- A publication that is newer than the earlier ones and made while the socket is there. -/
theorem owed_publish {x : JobSnapshot}
    (hnew : ∀ r, w.publisher.publicationRevisions x.jobId = some r → r < x.revision) :
    Owed { w with publisher := w.publisher.publish x } ws x.jobId x.revision := by
  have hold : ¬(w.publisher.publicationRevisions x.jobId).any (x.revision ≤ ·) := by
    intro hany
    obtain ⟨r, hr, hle⟩ := (Option.any_eq_true _ _).mp hany
    have hlt := hnew r hr
    have hle := of_decide_eq_true hle
    omega
  refine .pending x ?_ rfl le_rfl
  rw [Publisher.publish, if_neg hold]
  exact mem_setPending.mpr (.inl rfl)

/-- While the socket stays, what it is owed stays too. -/
theorem Owed.exec (h : Owed w ws k r) (hserver : ServerInv w) (hopen : ws ∈ w.adminConnections)
    (indexed : Bool) (labels : List Label)
    (hopen' : ws ∈ (w.exec indexed labels).adminConnections) :
    Owed (w.exec indexed labels) ws k r := by
  have hinv := @Run.exec_invariant _ _ (Console.step indexed)
    (fun w => ServerInv w ∧ (w.sockets ws).accepted = true ∧
      (ws ∈ w.adminConnections → Owed w ws k r))
    (fun w label ⟨hserver, haccepted, howed⟩ => ?_)
    w ⟨hserver, (hserver.socket ws).accepted_of_open hopen, fun _ => h⟩ labels
  · exact hinv.2.2 hopen'
  · refine ⟨hserver.step indexed label,
      (socketChange_step indexed w label ws).later.accepted haccepted, fun hopen' => ?_⟩
    have hopen := open_of_step haccepted hopen'
    exact (howed hopen).step hserver.publisher indexed label hopen hopen'

end Owed

end StylyMdm.Console
