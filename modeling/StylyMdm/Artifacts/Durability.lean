import StylyMdm.PushJobs.Artifacts
import StylyMdm.Artifacts.ArtifactStore

/-!
# Artifacts are durable

The invariant of the data directory: every artifact row names a file whose bytes were fsynced, and
so does every publication from its rename on; the names that are in flight are those of no row. What
a step does to one publication leaves the files of the others alone, because no two of them have
drawn the same name, and a crash leaves what was fsynced.

* `Stored` is the statement about a file that all parts of the invariant use: it is there, it has
  the recorded size and digest, and its bytes were fsynced.
* `Kept` speaks of the rows and the artifact root. It is what survives a crash, so it is proved
  without mentioning the process (`Kept.crash`).
* `Publication.Knows` says for each place of the thread which file it relies on, `Serving` that the
  publications and the calls handed to the store do not get in each other's way, and `Removing`
  what the list of orphans excludes while a server starts.
* `Durable` puts them together. `Durable.serve` and `Durable.step` are the step lemmas.

`artifacts_durable` reads the promise off the invariant: the rows of every state have their files,
in every run in which a crash loses no rename. That condition is on the platform, since where
directories can be fsynced the code does so before it hands over the row. The last run loses a
rename on a platform without it, and keeps an orphan whose removal fails.
-/

namespace StylyMdm.Artifacts

open PushJobs Store

variable {platform : Platform}

/-! ### Files and publications -/

/-- The file has the recorded identity, and its bytes were fsynced. -/
structure Matches (platform : Platform) (file : File (List UInt8)) (byteSize : Nat)
    (sha256 : String) : Prop where
  size : byteSize = file.content.length
  digest : sha256 = platform.sha256 file.content
  synced : file.synced = true

/-- There is a file with the recorded identity under the name. -/
def Stored (platform : Platform) (fsynced : Bool) (root : Directory String (List UInt8))
    (name : String) (byteSize : Nat) (sha256 : String) : Prop :=
  ∃ file, root.Holds fsynced name file ∧ Matches platform file byteSize sha256

/-- The name that a publication has drawn. -/
def Publication.artifactId? : Publication → Option String
  | .zipTree _ => none
  | .begin _ => none
  | .identity _ artifactId => some artifactId
  | .fsync artifact => some artifact.artifactId
  | .replace artifact => some artifact.artifactId
  | .fsyncDir artifact => some artifact.artifactId
  | .returned artifact => some artifact.artifactId
  | .submitted artifact => some artifact.artifactId

/-- The record that a publication has made. -/
def Publication.artifact? : Publication → Option PublishedArtifact
  | .fsync artifact => some artifact
  | .replace artifact => some artifact
  | .fsyncDir artifact => some artifact
  | .returned artifact => some artifact
  | .submitted artifact => some artifact
  | _ => none

/-- What a publication knows of its file: of the part until it is renamed, and then of the file in
the artifact root. -/
def Publication.Knows (platform : Platform) (root : Directory String (List UInt8))
    (part : Option (File (List UInt8))) : Publication → Prop
  | .fsync artifact => ∀ file ∈ part,
    artifact.byteSize = file.content.length ∧ artifact.sha256 = platform.sha256 file.content
  | .replace artifact => ∀ file ∈ part, Matches platform file artifact.byteSize artifact.sha256
  | .fsyncDir artifact =>
    Stored platform false root artifact.storageName artifact.byteSize artifact.sha256
  | .returned artifact =>
    Stored platform platform.posix root artifact.storageName artifact.byteSize artifact.sha256
  | .submitted artifact =>
    Stored platform platform.posix root artifact.storageName artifact.byteSize artifact.sha256
  | _ => True

/-- The record has the name that was drawn, and the file is the one it describes. -/
structure Publication.Fits (platform : Platform) (root : Directory String (List UInt8))
    (part : Option (File (List UInt8))) (publication : Publication) : Prop where
  name : ∀ artifact, publication.artifact? = some artifact →
    artifact.storageName = storageName artifact.artifactId
  knows : publication.Knows platform root part

theorem storageName_inj {artifactId artifactId' : String}
    (h : storageName artifactId = storageName artifactId') : artifactId = artifactId' :=
  String.append_left_inj _ |>.mp h

section Publications

variable {root : Directory String (List UInt8)} {part : Option (File (List UInt8))}
  {publication publication' : Publication} {outcome : Outcome} {fsynced : Bool} {name : String}
  {byteSize : Nat} {sha256 : String}

theorem Publication.artifactId?_of_artifact? {artifact : PublishedArtifact}
    (h : publication.artifact? = some artifact) :
    publication.artifactId? = some artifact.artifactId := by
  cases publication with
  | zipTree package => cases h
  | begin package => cases h
  | identity package artifactId => cases h
  | fsync artifact' => cases h; rfl
  | replace artifact' => cases h; rfl
  | fsyncDir artifact' => cases h; rfl
  | returned artifact' => cases h; rfl
  | submitted artifact' => cases h; rfl

theorem Stored.put {file : File (List UInt8)} {name' : String}
    (h : Stored platform fsynced root name byteSize sha256) (hne : name ≠ name') :
    Stored platform fsynced (root.put name' file) name byteSize sha256 := by
  obtain ⟨stored, hholds, hmatches⟩ := h
  exact ⟨stored, hholds.put hne, hmatches⟩

theorem Stored.unlink {name' : String} (h : Stored platform fsynced root name byteSize sha256)
    (hne : name ≠ name') : Stored platform fsynced (root.unlink name') name byteSize sha256 := by
  obtain ⟨stored, hholds, hmatches⟩ := h
  exact ⟨stored, hholds.unlink hne, hmatches⟩

theorem Stored.sync {fsynced' : Bool} (h : Stored platform fsynced root name byteSize sha256) :
    Stored platform fsynced' root.sync name byteSize sha256 := by
  obtain ⟨stored, hholds, hmatches⟩ := h
  exact ⟨stored, Directory.holds_sync hholds.entry, hmatches⟩

/-- What was stored is found after a crash. -/
theorem Stored.afterCrash {found : Dict String (File (List UInt8))} {fsynced' : Bool}
    (h : Stored platform fsynced root name byteSize sha256) (hcrash : root.AfterCrash found)
    (hlost : fsynced = true ∨ root.NothingLost found) :
    Stored platform fsynced' ⟨found, found⟩ name byteSize sha256 := by
  obtain ⟨stored, hholds, hmatches⟩ := h
  have hfound := hholds.afterCrash hmatches.synced hcrash hlost
  exact ⟨stored, ⟨hfound, fun _ => hfound⟩, hmatches⟩

/-- An operation of the thread renames its part, fsyncs the root, or leaves it alone. -/
theorem Publication.next_root (platform : Platform) (root : Directory String (List UInt8))
    (part : Option (File (List UInt8))) (publication : Publication) (outcome : Outcome) :
    (publication.next platform root part outcome).root = root ∨
      (publication.next platform root part outcome).root = root.sync ∨
      ∃ artifact file, publication = .replace artifact ∧
        (publication.next platform root part outcome).root =
          root.put artifact.storageName file := by
  unfold Publication.next
  split
  case h_8 artifact =>
    split
    · exact .inl rfl
    · exact .inr (.inr ⟨_, _, rfl, rfl⟩)
  case h_9 =>
    dsimp only
    split
    · exact .inr (.inl rfl)
    · exact .inl rfl
  all_goals first
    | exact .inl rfl
    | (split <;> exact .inl rfl)

/-- What is stored under another name than that of the publication stays. -/
theorem Stored.next (h : Stored platform fsynced root name byteSize sha256)
    (hne : ∀ artifact, publication = .replace artifact → name ≠ artifact.storageName) :
    Stored platform fsynced (publication.next platform root part outcome).root name byteSize
      sha256 := by
  rcases publication.next_root platform root part outcome with heq | heq | ⟨artifact, file, hp, heq⟩
  · rw [heq]
    exact h
  · rw [heq]
    exact h.sync
  · rw [heq]
    exact h.put (hne artifact hp)

/-- A publication keeps the name that it has drawn. -/
theorem Publication.next_artifactId
    (h : (publication.next platform root part outcome).publication = some publication') :
    publication'.artifactId? = publication.artifactId? ∨
      ∃ artifactId, outcome = .uuid4 artifactId ∧ publication'.artifactId? = some artifactId := by
  unfold Publication.next at h
  split at h
  case h_5 package artifactId =>
    split at h
    · cases h
    · cases h
      exact .inr ⟨artifactId, rfl, rfl⟩
  case h_6 package artifactId =>
    obtain ⟨file, -, rfl⟩ := Option.map_eq_some_iff.mp h
    exact .inl rfl
  case h_7 artifact =>
    obtain ⟨file, -, rfl⟩ := Option.map_eq_some_iff.mp h
    exact .inl rfl
  case h_8 artifact =>
    split at h
    · cases h
    · cases h
      exact .inl rfl
  all_goals first
    | (cases h; exact .inl rfl)
    | cases h

/-- The thread makes its record from the part, and renames the part that it has fsynced. -/
theorem Publication.Fits.next (hfits : publication.Fits platform root part)
    (h : (publication.next platform root part outcome).publication = some publication') :
    publication'.Fits platform (publication.next platform root part outcome).root
      (publication.next platform root part outcome).part := by
  unfold Publication.next at h ⊢
  split at h
  case h_5 package artifactId =>
    split at h
    · cases h
    · cases h
      exact ⟨nofun, trivial⟩
  case h_6 package artifactId =>
    obtain ⟨file, hpart, rfl⟩ := Option.map_eq_some_iff.mp h
    refine ⟨fun artifact hartifact => ?_, ?_⟩
    · cases hartifact
      rfl
    · intro file' hfile'
      obtain rfl := Option.some.inj (hpart.symm.trans hfile')
      exact ⟨rfl, rfl⟩
  case h_7 artifact =>
    obtain ⟨file, hpart, rfl⟩ := Option.map_eq_some_iff.mp h
    refine ⟨hfits.name, ?_⟩
    intro file' hfile'
    dsimp only at hfile'
    rw [hpart, Option.map_some, Option.mem_some_iff] at hfile'
    obtain ⟨hsize, hdigest⟩ := hfits.knows file hpart
    subst hfile'
    exact ⟨hsize, hdigest, rfl⟩
  case h_8 artifact =>
    split at h
    · cases h
    · rename_i file
      cases h
      refine ⟨hfits.name, file, ⟨?_, nofun⟩, hfits.knows file rfl⟩
      exact Dict.get_set.trans (if_pos rfl)
  case h_9 artifact =>
    cases h
    refine ⟨hfits.name, ?_⟩
    change Stored platform platform.posix (if platform.posix then root.sync else root) _ _ _
    have hstored : Stored platform false root _ _ _ := hfits.knows
    split
    · exact hstored.sync
    · rename_i hposix
      obtain ⟨file, hholds, hmatches⟩ := hstored
      exact ⟨file, ⟨hholds.entry, fun htrue => absurd htrue hposix⟩, hmatches⟩
  all_goals first
    | (cases h; exact hfits)
    | (cases h; exact ⟨nofun, trivial⟩)
    | cases h

/-- A publication fits when its part is removed. -/
theorem Publication.Fits.cleanup (h : publication.Fits platform root part) :
    publication.Fits platform root none := by
  refine ⟨h.name, ?_⟩
  have hknows := h.knows
  cases publication with
  | fsync artifact => exact nofun
  | replace artifact => exact nofun
  | zipTree package => trivial
  | begin package => trivial
  | identity package artifactId => trivial
  | fsyncDir artifact => exact hknows
  | returned artifact => exact hknows
  | submitted artifact => exact hknows

end Publications

/-! ### The invariant -/

/-- Some artifact row has the file name. -/
def Referenced (s : Store) (name : String) : Prop :=
  ∃ id row, s.artifacts.find? id = some row ∧ row.storageName = name

/-- The rows of the store and the artifact root. -/
structure Kept (platform : Platform) (server : Server) : Prop where
  wellFormed : WellFormed server.store
  owned : Owned server.store
  named : ∀ {id row}, server.store.artifacts.find? id = some row →
    row.storageName = storageName id ∧ id ∈ server.drawn
  stored : ∀ {id row}, server.store.artifacts.find? id = some row →
    Stored platform platform.posix server.root row.storageName row.byteSize row.sha256

/-- The removal of the orphans at start-up. -/
structure Removing (server : Server) (orphans failed : List String) : Prop where
  unreferenced : ∀ name ∈ orphans, ¬ Referenced server.store name
  covered : ∀ name file, isPublicationName name = true → server.root.entries.get name = some file →
    Referenced server.store name ∨ name ∈ orphans ∨ name ∈ failed

/-- The uploads and the publications that are under way. -/
structure Serving (platform : Platform) (server : Server) (uploads : JobId → Option Upload)
    (publications : JobId → Option Publication) : Prop where
  started : ∀ k, uploads k ≠ none ∨ publications k ≠ none → UploadStarted server.store k
  receiving : ∀ k, uploads k = some .parts → publications k = none
  fits : ∀ {k publication}, publications k = some publication →
    publication.Fits platform server.root (server.parts k)
  fresh : ∀ {k publication id}, publications k = some publication →
    publication.artifactId? = some id →
      id ∈ server.drawn ∧ server.store.artifacts.find? id = none
  distinct : ∀ {k publication k' publication' id}, publications k = some publication →
    publication.artifactId? = some id → publications k' = some publication' →
      publication'.artifactId? = some id → k = k'

/-- What holds of the process. -/
def Fitting (platform : Platform) (server : Server) : Option Process → Prop
  | some (.removing orphans failed) => Removing server orphans failed
  | some (.serving uploads publications) => Serving platform server uploads publications
  | _ => True

/-- The invariant. -/
structure Durable (platform : Platform) (server : Server) : Prop extends Kept platform server where
  process : Fitting platform server server.process

theorem Durable.initial : Durable platform .initial where
  wellFormed := .initial
  owned := .initial
  named h := absurd h (by simp [Server.initial, Store.initial])
  stored h := absurd h (by simp [Server.initial, Store.initial])
  process := trivial

/-! ### Calls of the store -/

section Calls

variable {server : Server} {s' : Store} {now : Millis} {op : Op}
  {uploads : JobId → Option Upload} {publications : JobId → Option Publication}

/-- A call that publishes nothing changes nothing for the files. -/
theorem Kept.store (h : Kept platform server) (e : Effect now server.store op s')
    (hop : ∀ jobId artifact, op ≠ .publishArtifact jobId artifact) :
    Kept platform { server with store := s' } where
  wellFormed := h.wellFormed.effect e
  owned := h.owned.effect h.wellFormed e
  named hrow := h.named (e.artifacts_eq hop _ ▸ hrow)
  stored hrow := h.stored (e.artifacts_eq hop _ ▸ hrow)

theorem Serving.store (h : Serving platform server uploads publications)
    (e : Effect now server.store op s')
    (hop : ∀ jobId artifact, op ≠ .publishArtifact jobId artifact) :
    Serving platform { server with store := s' } uploads publications where
  started k hk := (h.started k hk).effect e
  receiving := h.receiving
  fits := h.fits
  fresh hk hid := ⟨(h.fresh hk hid).1, (e.artifacts_eq hop _).trans (h.fresh hk hid).2⟩
  distinct := h.distinct

/-- What is under way for one job is replaced by something of the same name. -/
theorem Serving.update {publication : Option Publication} {k : JobId}
    (h : Serving platform server uploads publications)
    (hfits : ∀ p, publication = some p → p.Fits platform server.root (server.parts k))
    (hname : ∀ p id, publication = some p → p.artifactId? = some id →
      ∃ p', publications k = some p' ∧ p'.artifactId? = some id)
    (hstarted : publication ≠ none → UploadStarted server.store k)
    (hreceiving : uploads k = some .parts → publication = none) :
    Serving platform server uploads (Function.update publications k publication) := by
  -- a name that is under way now was under way before, for the same job
  have hold : ∀ {k' p id}, Function.update publications k publication k' = some p →
      p.artifactId? = some id → ∃ p', publications k' = some p' ∧ p'.artifactId? = some id := by
    intro k' p id hp hid
    by_cases hk : k' = k
    · subst hk
      rw [Function.update_self] at hp
      exact hname p id hp hid
    · rw [Function.update_of_ne hk] at hp
      exact ⟨p, hp, hid⟩
  refine ⟨fun k' hk' => ?_, fun k' hk' => ?_, fun {k' p} hp => ?_, fun hp hid => ?_,
    fun hp hid hp' hid' => ?_⟩
  · by_cases hk : k' = k
    · subst hk
      rw [Function.update_self] at hk'
      exact hk'.elim (fun hupload => h.started _ (.inl hupload)) hstarted
    · rw [Function.update_of_ne hk] at hk'
      exact h.started k' hk'
  · by_cases hk : k' = k
    · subst hk
      rw [Function.update_self]
      exact hreceiving hk'
    · rw [Function.update_of_ne hk]
      exact h.receiving k' hk'
  · by_cases hk : k' = k
    · subst hk
      rw [Function.update_self] at hp
      exact hfits p hp
    · rw [Function.update_of_ne hk] at hp
      exact h.fits hp
  · obtain ⟨p', hp', hid'⟩ := hold hp hid
    exact h.fresh hp' hid'
  · obtain ⟨q, hq, hidq⟩ := hold hp hid
    obtain ⟨q', hq', hidq'⟩ := hold hp' hid'
    exact h.distinct hq hidq hq' hidq'

end Calls

/-! ### The thread -/

section Threads

variable {server : Server} {uploads : JobId → Option Upload}
  {publications : JobId → Option Publication} {k : JobId} {publication : Publication}
  {outcome : Outcome}

/-- What another publication knows stays. -/
theorem Publication.Fits.frame {root : Directory String (List UInt8)}
    {part part' : Option (File (List UInt8))} {other : Publication}
    (h : other.Fits platform root part)
    (hne : ∀ artifact artifact', publication = .replace artifact →
      other.artifact? = some artifact' → artifact'.storageName ≠ artifact.storageName) :
    other.Fits platform (publication.next platform root part' outcome).root part := by
  refine ⟨h.name, ?_⟩
  have hknows := h.knows
  cases other with
  | zipTree package => trivial
  | begin package => trivial
  | identity package artifactId => trivial
  | fsync artifact => exact hknows
  | replace artifact => exact hknows
  | fsyncDir artifact => exact Stored.next hknows fun renamed hp => hne renamed artifact hp rfl
  | returned artifact => exact Stored.next hknows fun renamed hp => hne renamed artifact hp rfl
  | submitted artifact => exact Stored.next hknows fun renamed hp => hne renamed artifact hp rfl

/-- The server after an operation of the thread. -/
def afterThread (platform : Platform) (server : Server) (uploads : JobId → Option Upload)
    (publications : JobId → Option Publication) (k : JobId) (publication : Publication)
    (outcome : Outcome) : Server :=
  let next := publication.next platform server.root (server.parts k) outcome
  { server with
    root := next.root
    parts := Function.update server.parts k next.part
    drawn :=
      match outcome with
      | .uuid4 artifactId => artifactId :: server.drawn
      | _ => server.drawn
    process := some (.serving uploads (Function.update publications k next.publication)) }

theorem drawn_subset : server.drawn ⊆
    (afterThread platform server uploads publications k publication outcome).drawn := by
  cases outcome with
  | uuid4 artifactId => exact List.subset_cons_self _ _
  | written content => exact List.Subset.refl _
  | done => exact List.Subset.refl _
  | raised => exact List.Subset.refl _

theorem Kept.thread (h : Kept platform server)
    (hserving : Serving platform server uploads publications)
    (hp : publications k = some publication) :
    Kept platform (afterThread platform server uploads publications k publication outcome) where
  wellFormed := h.wellFormed
  owned := h.owned
  named hrow := ⟨(h.named hrow).1, drawn_subset (h.named hrow).2⟩
  stored := by
    intro id row hrow
    refine (h.stored hrow).next fun artifact hreplace => ?_
    -- the name of the row is not under way
    subst hreplace
    rw [(h.named hrow).1, (hserving.fits hp).name artifact rfl]
    intro heq
    obtain rfl := storageName_inj heq
    exact Option.some_ne_none row (hrow.symm.trans (hserving.fresh hp rfl).2)

theorem Serving.thread (h : Kept platform server)
    (hserving : Serving platform server uploads publications)
    (hp : publications k = some publication)
    (hdrawn : ∀ artifactId, outcome = .uuid4 artifactId → artifactId ∉ server.drawn) :
    Serving platform (afterThread platform server uploads publications k publication outcome)
      uploads (Function.update publications k
        (publication.next platform server.root (server.parts k) outcome).publication) := by
  -- a name that is under way now was under way before, or was just drawn
  have hold : ∀ {k' p id}, Function.update publications k
      (publication.next platform server.root (server.parts k) outcome).publication k' = some p →
      p.artifactId? = some id →
      (∃ p', publications k' = some p' ∧ p'.artifactId? = some id) ∨
        (k' = k ∧ outcome = .uuid4 id) := by
    intro k' p id hp' hid
    by_cases hk : k' = k
    · subst hk
      rw [Function.update_self] at hp'
      rcases Publication.next_artifactId hp' with hsame | ⟨artifactId, houtcome, hnew⟩
      · exact .inl ⟨publication, hp, hsame ▸ hid⟩
      · obtain rfl := Option.some.inj (hnew.symm.trans hid)
        exact .inr ⟨rfl, houtcome⟩
    · rw [Function.update_of_ne hk] at hp'
      exact .inl ⟨p, hp', hid⟩
  refine ⟨fun k' hk' => ?_, fun k' hk' => ?_, fun {k' p} hp' => ?_, fun {k' p id} hp' hid => ?_,
    fun {k' p k'' p' id} hp' hid hp'' hid' => ?_⟩
  · by_cases hk : k' = k
    · subst hk
      exact hserving.started k' (.inr (by simp [hp]))
    · rw [Function.update_of_ne hk] at hk'
      exact hserving.started k' hk'
  · by_cases hk : k' = k
    · subst hk
      exact absurd (hp.symm.trans (hserving.receiving k' hk')) (by simp)
    · rw [Function.update_of_ne hk]
      exact hserving.receiving k' hk'
  · by_cases hk : k' = k
    · subst hk
      rw [Function.update_self] at hp'
      have hpart : (afterThread platform server uploads publications k' publication
          outcome).parts k' = (publication.next platform server.root (server.parts k')
            outcome).part := Function.update_self _ _ _
      rw [hpart]
      exact (hserving.fits hp).next hp'
    · rw [Function.update_of_ne hk] at hp'
      have hpart : (afterThread platform server uploads publications k publication
          outcome).parts k' = server.parts k' := Function.update_of_ne hk _ _
      rw [hpart]
      refine (hserving.fits hp').frame fun artifact artifact' hreplace hartifact heq => hk ?_
      subst hreplace
      rw [(hserving.fits hp').name artifact' hartifact, (hserving.fits hp).name artifact rfl] at heq
      have hid := Publication.artifactId?_of_artifact? hartifact
      rw [storageName_inj heq] at hid
      exact hserving.distinct hp' hid hp rfl
  · rcases hold hp' hid with ⟨q, hq, hidq⟩ | ⟨rfl, rfl⟩
    · exact ⟨drawn_subset (hserving.fresh hq hidq).1, (hserving.fresh hq hidq).2⟩
    · refine ⟨List.mem_cons_self, ?_⟩
      rcases hrow : server.store.artifacts.find? id with _ | row
      · exact hrow
      · exact absurd (h.named hrow).2 (hdrawn id rfl)
  · rcases hold hp' hid with ⟨q, hq, hidq⟩ | ⟨rfl, rfl⟩
    · rcases hold hp'' hid' with ⟨q', hq', hidq'⟩ | ⟨rfl, rfl⟩
      · exact hserving.distinct hq hidq hq' hidq'
      · exact absurd (hserving.fresh hq hidq).1 (hdrawn id rfl)
    · rcases hold hp'' hid' with ⟨q', hq', hidq'⟩ | ⟨rfl, -⟩
      · exact absurd (hserving.fresh hq' hidq').1 (hdrawn id rfl)
      · rfl

end Threads

/-! ### The other steps -/

section Steps

variable {server : Server} {s' : Store} {now : Millis} {uploads : JobId → Option Upload}
  {publications : JobId → Option Publication} {k : JobId} {artifact : PublishedArtifact}

/-- The row that is inserted describes the file that was published. -/
theorem Kept.execute (h : Kept platform server)
    (hserving : Serving platform server uploads publications)
    (hp : publications k = some (.submitted artifact))
    (e : Effect now server.store (.publishArtifact k artifact) s') :
    Kept platform { server with store := s' } where
  wellFormed := h.wellFormed.effect e
  owned := h.owned.effect h.wellFormed e
  named := by
    intro id row hrow
    rcases e.artifact_cases hrow with hold | ⟨_, _, artifact', hop, rfl, rfl, -⟩
    · exact h.named hold
    · obtain ⟨-, rfl⟩ := Op.publishArtifact.inj hop
      exact ⟨(hserving.fits hp).name artifact rfl, (hserving.fresh hp rfl).1⟩
  stored := by
    intro id row hrow
    rcases e.artifact_cases hrow with hold | ⟨_, _, artifact', hop, rfl, rfl, -⟩
    · exact h.stored hold
    · obtain ⟨-, rfl⟩ := Op.publishArtifact.inj hop
      exact (hserving.fits hp).knows

theorem Serving.execute (hserving : Serving platform server uploads publications)
    (hp : publications k = some (.submitted artifact))
    (e : Effect now server.store (.publishArtifact k artifact) s') :
    Serving platform { server with store := s' } uploads (Function.update publications k none) := by
  have hold : ∀ {k' p}, Function.update publications k none k' = some p →
      k' ≠ k ∧ publications k' = some p := by
    intro k' p hp'
    by_cases hk : k' = k
    · subst hk
      rw [Function.update_self] at hp'
      exact absurd hp' (by simp)
    · rw [Function.update_of_ne hk] at hp'
      exact ⟨hk, hp'⟩
  refine ⟨fun k' hk' => ?_, fun k' hk' => ?_, fun hp' => hserving.fits (hold hp').2,
    fun {k' p id} hp' hid => ?_,
    fun hp' hid hp'' hid' => hserving.distinct (hold hp').2 hid (hold hp'').2 hid'⟩
  · refine (hserving.started k' (hk'.imp id fun hsome => ?_)).effect e
    obtain ⟨p, hp'⟩ := Option.ne_none_iff_exists'.mp hsome
    rw [(hold hp').2]
    exact Option.some_ne_none p
  · by_cases hk : k' = k
    · rw [hk, Function.update_self]
    · rw [Function.update_of_ne hk]
      exact hserving.receiving k' hk'
  · obtain ⟨hne, hp'⟩ := hold hp'
    obtain ⟨hdrawn, hnone⟩ := hserving.fresh hp' hid
    refine ⟨hdrawn, ?_⟩
    rcases hrow : s'.artifacts.find? id with _ | row
    · rfl
    · rcases e.artifact_cases hrow with hsome | ⟨_, _, artifact', hop, -, rfl, -⟩
      · exact absurd (hnone.symm.trans hsome) (by simp)
      · obtain ⟨-, rfl⟩ := Op.publishArtifact.inj hop
        exact absurd (hserving.distinct hp' hid hp rfl) hne

/-- A crash leaves what the rows name. -/
theorem Kept.crash {found : Dict String (File (List UInt8))}
    {parts : JobId → Option (File (List UInt8))} (h : Kept platform server)
    (hcrash : server.root.AfterCrash found)
    (hlost : platform.posix = true ∨ server.root.NothingLost found) :
    Kept platform { server with root := ⟨found, found⟩, parts := parts, process := none } where
  wellFormed := h.wellFormed
  owned := h.owned
  named := h.named
  stored hrow := (h.stored hrow).afterCrash hcrash hlost

/-- The orphans are the publications without a row. -/
theorem removing_orphans (server : Server) :
    Removing { server with
      process := some (.removing (orphanArtifactsSync server.store server.root) []) }
      (orphanArtifactsSync server.store server.root) [] := by
  have hreferenced : ∀ name, Referenced server.store name ↔
      name ∈ server.store.artifacts.rows.map ArtifactRow.storageName := by
    intro name
    rw [List.mem_map]
    constructor
    · rintro ⟨id, row, hrow, hname⟩
      exact ⟨row, Table.mem_of_find? hrow, hname⟩
    · rintro ⟨row, hrow, hname⟩
      exact ⟨row.artifactId, row, Table.find?_of_mem hrow, hname⟩
  constructor
  · intro name hname hrow
    rw [orphanArtifactsSync, List.mem_insertionSort, List.mem_filter, decide_eq_true_iff] at hname
    exact hname.2.2 ((hreferenced name).mp hrow)
  · intro name file hpublication hentry
    by_cases hrow : Referenced server.store name
    · exact .inl hrow
    · refine .inr (.inl ?_)
      rw [orphanArtifactsSync, List.mem_insertionSort, List.mem_filter, decide_eq_true_iff]
      refine ⟨?_, hpublication, fun hmem => hrow ((hreferenced name).mpr hmem)⟩
      exact List.mem_map_of_mem (Dict.mem_iff.mpr hentry)

/-- An orphan is removed. -/
theorem Kept.unlink {name : String} {orphans failed : List String} (h : Kept platform server)
    (hremoving : Removing server (name :: orphans) failed) :
    Kept platform { server with
      root := server.root.unlink name
      process := some (.removing orphans failed) } where
  wellFormed := h.wellFormed
  owned := h.owned
  named := h.named
  stored := by
    intro id row hrow
    refine (h.stored hrow).unlink fun heq => ?_
    exact hremoving.unreferenced name List.mem_cons_self ⟨id, row, hrow, heq⟩

theorem Removing.unlink {name : String} {orphans failed : List String}
    (h : Removing server (name :: orphans) failed) :
    Removing { server with
      root := server.root.unlink name
      process := some (.removing orphans failed) } orphans failed := by
  refine ⟨fun other hother => h.unreferenced other (List.mem_cons_of_mem _ hother), ?_⟩
  intro other file hpublication hentry
  have hget := (Dict.get_del (d := server.root.entries)).symm.trans hentry
  split at hget
  · cases hget
  · rename_i hne
    exact (h.covered other file hpublication hget).imp_right
      (Or.imp_left fun hmem => (List.mem_cons.mp hmem).resolve_left hne)

/-- An orphan could not be removed. -/
theorem Removing.keep {name : String} {orphans failed : List String}
    (h : Removing server (name :: orphans) failed) :
    Removing { server with process := some (.removing orphans (name :: failed)) } orphans
      (name :: failed) := by
  refine ⟨fun other hother => h.unreferenced other (List.mem_cons_of_mem _ hother), ?_⟩
  intro other file hpublication hentry
  rcases h.covered other file hpublication hentry with hrow | hmem | hfailed
  · exact .inl hrow
  · rcases List.mem_cons.mp hmem with rfl | hmem
    · exact .inr (.inr List.mem_cons_self)
    · exact .inr (.inl hmem)
  · exact .inr (.inr (List.mem_cons_of_mem _ hfailed))

/-- Files in the work directories, the process, and the uploads are nothing to the rows. -/
theorem Kept.congr {server' : Server} (h : Kept platform server)
    (hstore : server'.store = server.store) (hroot : server'.root = server.root)
    (hdrawn : server'.drawn = server.drawn) : Kept platform server' where
  wellFormed := hstore ▸ h.wellFormed
  owned := hstore ▸ h.owned
  named hrow := hdrawn ▸ h.named (hstore ▸ hrow)
  stored hrow := hroot ▸ h.stored (hstore ▸ hrow)

theorem Serving.withProcess (h : Serving platform server uploads publications)
    (process : Option Process) :
    Serving platform { server with process := process } uploads publications :=
  ⟨h.started, h.receiving, h.fits, h.fresh, h.distinct⟩

/-- An upload goes on or ends. -/
theorem Serving.upload {upload : Option Upload} (h : Serving platform server uploads publications)
    (hstarted : upload ≠ none → UploadStarted server.store k)
    (hreceiving : upload = some .parts → publications k = none) :
    Serving platform server (Function.update uploads k upload) publications := by
  refine ⟨fun k' hk' => ?_, fun k' hk' => ?_, h.fits, h.fresh, h.distinct⟩
  · by_cases hk : k' = k
    · subst hk
      rw [Function.update_self] at hk'
      exact hk'.elim hstarted fun hpublication => h.started k' (.inr hpublication)
    · rw [Function.update_of_ne hk] at hk'
      exact h.started k' hk'
  · by_cases hk : k' = k
    · subst hk
      rw [Function.update_self] at hk'
      exact hreceiving hk'
    · rw [Function.update_of_ne hk] at hk'
      exact h.receiving k' hk'

/-- `cleanup_work` removes only the part of a publication. -/
theorem Serving.cleanup (h : Serving platform server uploads publications) (k : JobId) :
    Serving platform { server with parts := Function.update server.parts k none } uploads
      publications := by
  refine ⟨h.started, h.receiving, fun {k' p} hp => ?_, h.fresh, h.distinct⟩
  by_cases hk : k' = k
  · subst hk
    change p.Fits platform server.root (Function.update server.parts k' none k')
    rw [Function.update_self]
    exact (h.fits hp).cleanup
  · change p.Fits platform server.root (Function.update server.parts k none k')
    rw [Function.update_of_ne hk]
    exact h.fits hp

/-- Only one call publishes artifacts, and it has its own place. -/
theorem op_ne_publishArtifact {call : RuntimeCall} (h : hasOwnPlace call = false) (jobId : JobId)
    (artifact : PublishedArtifact) : call.op ≠ .publishArtifact jobId artifact := by
  cases call with
  | publishArtifact jobId artifact => exact absurd h (by simp [hasOwnPlace])
  | _ => exact nofun

theorem Durable.of_serving (h : Kept platform server)
    (hserving : Serving platform server uploads publications)
    (hprocess : server.process = some (.serving uploads publications)) :
    Durable platform server :=
  ⟨h, by rw [hprocess]; exact hserving⟩

/-- **A step while the server serves requests.** -/
theorem Durable.serve (h : Kept platform server)
    (hserving : Serving platform server uploads publications)
    (hprocess : server.process = some (.serving uploads publications)) {label : Label}
    (hadmits : server.Admits label) :
    Durable platform (server.serve platform uploads publications label) := by
  have hsame : Durable platform server := .of_serving h hserving hprocess
  cases label with
  | call now call =>
    simp only [Server.serve]
    split_ifs with hplace
    · exact hsame
    · rw [Bool.not_eq_true] at hplace
      have e := runtimeStep_effect platform.indexed server.store (now, call)
      have hop := op_ne_publishArtifact hplace
      exact .of_serving (h.store e hop) (hserving.store e hop) hprocess
  | startUpload now jobId =>
    simp only [Server.serve]
    split
    · rename_i store snapshot heq
      have e := startUpload_effect heq
      obtain ⟨hbefore, hafter⟩ := startUpload_started heq
      refine ⟨(h.store e nofun).congr rfl rfl rfl, ?_⟩
      refine ((hserving.store e nofun).upload (fun _ => hafter) fun _ => ?_).withProcess _
      by_contra hpublication
      exact hbefore (hserving.started jobId (.inr hpublication))
    · rename_i store snapshot heq
      have e := startUpload_effect heq
      exact .of_serving (h.store e nofun) (hserving.store e nofun) hprocess
    · exact hsame
  | markPackaging now jobId files bytes package =>
    simp only [Server.serve]
    split_ifs with hupload
    · split
      · rename_i store snapshot heq
        have e := markPackaging_effect heq
        have hstarted : UploadStarted store jobId :=
          (hserving.started jobId (.inl (by rw [hupload]; exact nofun))).effect e
        refine ⟨(h.store e nofun).congr rfl rfl rfl, ?_⟩
        have hupload' : Serving platform { server with store := store }
            (Function.update uploads jobId (some .thread)) publications :=
          (hserving.store e nofun).upload (fun _ => hstarted) nofun
        refine (hupload'.update ?_ ?_ (fun _ => hstarted) fun hparts => ?_).withProcess _
        · rintro p hp
          cases hp
          exact ⟨nofun, trivial⟩
        · intro p id hp hid
          cases hp
          cases hid
        · rw [Function.update_self] at hparts
          cases hparts
      · exact hsame
    · exact hsame
  | publishArtifact jobId =>
    simp only [Server.serve]
    split
    · rename_i artifact hupload hp
      refine ⟨h.congr rfl rfl rfl, ?_⟩
      refine (hserving.update ?_ ?_ (fun _ => ?_) fun hparts => ?_).withProcess _
      · rintro p hp'
        cases hp'
        have hfits := hserving.fits hp
        exact ⟨hfits.name, hfits.knows⟩
      · intro p id hp' hid
        cases hp'
        exact ⟨_, hp, hid⟩
      · exact hserving.started jobId (.inr (by rw [hp]; exact nofun))
      · rw [hupload] at hparts
        cases hparts
    · exact hsame
  | endRequest jobId =>
    exact ⟨h.congr rfl rfl rfl, (hserving.upload nofun nofun).withProcess _⟩
  | thread jobId outcome =>
    simp only [Server.serve]
    split
    · exact hsame
    · rename_i publication hp
      refine ⟨h.thread hserving hp, hserving.thread h hp fun artifactId houtcome => ?_⟩
      subst houtcome
      exact hadmits
  | execute now jobId =>
    simp only [Server.serve]
    split
    · rename_i artifact hp
      have e := runtimeStep_effect platform.indexed server.store
        (now, .publishArtifact jobId artifact)
      exact ⟨(h.execute hserving hp e).congr rfl rfl rfl,
        (hserving.execute hp e).withProcess _⟩
    · exact hsame
  | cancelled jobId =>
    simp only [Server.serve]
    split
    · have hended : Serving platform server uploads (Function.update publications jobId none) :=
        hserving.update nofun nofun (absurd rfl) fun _ => rfl
      exact ⟨h.congr rfl rfl rfl, hended.withProcess _⟩
    · exact hsame
  | cleanupWork jobId =>
    exact .of_serving (h.congr rfl rfl rfl) (hserving.cleanup jobId) hprocess
  | crash found parts => exact hsame
  | recoverStartup now acceptTimeout timeout => exact hsame
  | reconcileMissing now => exact hsame
  | orphanArtifacts => exact hsame
  | removeOrphan removed => exact hsame
  | serve => exact hsame

/-- **The step lemma.** -/
theorem Durable.step (h : Durable platform server) {label : Label} (hadmits : server.Admits label)
    (hkeeps : KeepsRenames platform server label) :
    Durable platform (server.step platform label) := by
  have hkept := h.toKept
  have hfitting := h.process
  unfold Server.step
  split
  · rename_i found parts
    exact ⟨hkept.crash hadmits hkeeps, trivial⟩
  · rename_i now acceptTimeout timeout hprocess
    have e := runtimeStep_effect platform.indexed server.store
      (now, .restart acceptTimeout timeout)
    exact ⟨(hkept.store e nofun).congr rfl rfl rfl, trivial⟩
  · rename_i now hprocess
    have e := runtimeStep_effect platform.indexed server.store
      (now, .missingArtifacts fun name => (server.root.entries.get name).isSome)
    exact ⟨(hkept.store e nofun).congr rfl rfl rfl, trivial⟩
  · rename_i hprocess
    exact ⟨hkept.congr rfl rfl rfl, removing_orphans server⟩
  · rename_i jobId orphans failed hprocess
    rw [hprocess] at hfitting
    have hremoving : Removing server orphans failed := hfitting
    refine ⟨hkept.congr rfl rfl rfl, ?_⟩
    dsimp only
    rw [hprocess]
    exact ⟨hremoving.unreferenced, hremoving.covered⟩
  · rename_i removed name orphans failed hprocess
    rw [hprocess] at hfitting
    split
    · exact ⟨hkept.unlink hfitting, hfitting.unlink⟩
    · exact ⟨hkept.congr rfl rfl rfl, hfitting.keep⟩
  · rename_i failed hprocess
    refine ⟨hkept.congr rfl rfl rfl, ?_⟩
    exact ⟨fun _ hk => absurd rfl (hk.resolve_right (absurd rfl)), nofun, nofun, nofun, nofun⟩
  · rename_i uploads publications hprocess
    rw [hprocess] at hfitting
    exact .serve hkept hfitting hprocess hadmits
  · exact h

end Steps

/-! ### Runs -/

/-- The orphans that are left when the start-up is over. -/
def Server.leftOrphans (server : Server) : Option (List String) :=
  match server.process with
  | some (.removing [] failed) => some failed
  | _ => none

/-- What is promised of the artifacts of a server. -/
structure Server.ArtifactsDurable (platform : Platform) (server : Server) : Prop where
  /-- Every row names a file with the recorded size and digest. -/
  stored : ∀ row ∈ server.store.artifacts, ∃ file,
    server.root.entries.get row.storageName = some file ∧
      row.byteSize = file.content.length ∧ row.sha256 = platform.sha256 file.content
  /-- A job that is dispatched names a row. -/
  dispatched : ∀ job ∈ server.store.jobs, job.state ∈ [JobState.ready, .running, .reconciling] →
    ∃ row ∈ server.store.artifacts, job.artifactId = some row.artifactId
  owner : ∀ row ∈ server.store.artifacts,
    ∃! job, job ∈ server.store.jobs ∧ job.artifactId = some row.artifactId
  /-- Neither the removal of orphans nor that of work directories deletes the file of a row. -/
  removeOrphan : ∀ row ∈ server.store.artifacts, ∀ removed,
    (server.step platform (.removeOrphan removed)).root.entries.get row.storageName =
      server.root.entries.get row.storageName
  cleanupWork : ∀ row ∈ server.store.artifacts, ∀ jobId,
    (server.step platform (.cleanupWork jobId)).root.entries.get row.storageName =
      server.root.entries.get row.storageName
  /-- After the start-up a publication without a row is one whose removal failed. -/
  leftOrphans : ∀ failed, server.leftOrphans = some failed → ∀ name file,
    isPublicationName name = true → server.root.entries.get name = some file →
      (∃ row ∈ server.store.artifacts, row.storageName = name) ∨ name ∈ failed

section Runs

variable {server : Server}

theorem step_removeOrphan_root (platform : Platform) (server : Server) (removed : Bool) :
    (server.step platform (.removeOrphan removed)).root = server.root ∨
      ∃ name orphans failed, server.process = some (.removing (name :: orphans) failed) ∧
        (server.step platform (.removeOrphan removed)).root = server.root.unlink name := by
  rcases hprocess : server.process with
    _ | _ | _ | ⟨_ | ⟨name, orphans⟩, failed⟩ | ⟨uploads, publications⟩
  all_goals simp only [Server.step, Server.serve, hprocess]
  case some.removing.cons =>
    cases removed with
    | false => exact .inl rfl
    | true => exact .inr ⟨name, orphans, failed, rfl, rfl⟩
  all_goals exact .inl trivial

theorem step_cleanupWork_root (platform : Platform) (server : Server) (jobId : JobId) :
    (server.step platform (.cleanupWork jobId)).root = server.root := by
  rcases hprocess : server.process with
    _ | _ | _ | ⟨orphans, failed⟩ | ⟨uploads, publications⟩
  all_goals simp only [Server.step, Server.serve, hprocess]

theorem Durable.artifactsDurable (h : Durable platform server) :
    server.ArtifactsDurable platform where
  stored := by
    intro row hrow
    obtain ⟨file, hholds, hmatches⟩ := h.stored (Table.find?_of_mem hrow)
    exact ⟨file, hholds.entry, hmatches.size, hmatches.digest⟩
  dispatched := by
    intro job hjob hstate
    have hfind : server.store.job? job.jobId = some job := Table.find?_of_mem hjob
    have himplied : impliesArtifact job.state = true := by
      revert hstate
      rcases job.state <;> decide
    obtain ⟨id, hid⟩ := Option.ne_none_iff_exists'.mp ((h.owned.fits hfind).implied himplied)
    obtain ⟨row, hrow⟩ := h.wellFormed.artifactOfJob hfind hid
    exact ⟨row, Table.mem_of_find? hrow, by rw [hid, Table.key_of_find? hrow]⟩
  owner := by
    intro row hrow
    obtain ⟨k, job, hjob, hid⟩ := h.owned.owner (Table.find?_of_mem hrow)
    refine ⟨job, ⟨Table.mem_of_find? hjob, hid⟩, fun other ⟨hother, hidOther⟩ => ?_⟩
    have hfind : server.store.job? other.jobId = some other := Table.find?_of_mem hother
    have hk := h.owned.unique hjob hid hfind hidOther
    rw [hk] at hjob
    exact Option.some.inj (hfind.symm.trans hjob)
  removeOrphan := by
    intro row hrow removed
    rcases step_removeOrphan_root platform server removed with hroot | ⟨name, orphans, failed,
      hprocess, hroot⟩
    · rw [hroot]
    · have hremoving := h.process
      rw [hprocess] at hremoving
      rw [hroot, Directory.unlink, Dict.get_del, if_neg]
      intro hname
      exact hremoving.unreferenced name List.mem_cons_self
        ⟨row.artifactId, row, Table.find?_of_mem hrow, hname⟩
  cleanupWork row hrow jobId := by rw [step_cleanupWork_root]
  leftOrphans := by
    intro failed hleft name file hpublication hentry
    rw [Server.leftOrphans] at hleft
    split at hleft
    · rename_i failed' hprocess
      cases hleft
      have hremoving := h.process
      rw [hprocess] at hremoving
      rcases hremoving.covered name file hpublication hentry with
        ⟨id, row, hrow, hname⟩ | hmem | hfailed
      · exact .inl ⟨row, Table.mem_of_find? hrow, hname⟩
      · exact absurd hmem List.not_mem_nil
      · exact .inr hfailed
    · cases hleft

/-- **Artifacts are durable.** The runs are all those from a new data directory in which a crash
loses no rename. -/
theorem artifacts_durable (platform : Platform) (labels : List Label)
    (hrun : Run.Along (Server.step platform)
      (fun server label => server.Admits label ∧ KeepsRenames platform server label) .initial
      labels) :
    (Run.exec (Server.step platform) .initial labels).ArtifactsDurable platform := by
  refine Durable.artifactsDurable (hrun.invariant ?_ .initial)
  intro server label h hlabel
  exact h.step hlabel.1 hlabel.2

/-- A platform whose digest is that of SHA-256 on the archive of the runs below. -/
def digestOfArchive (posix : Bool) : Platform where
  sha256 _ := "039058c6f2c0cb492c533b0a4d14ef77cc0f78abccced5287d84a1a2011cfb81"
  posix := posix
  indexed := true

/-- The constructor of `PushRuntime`. -/
def constructed (now : Millis) : List Label :=
  [.recoverStartup now 60000 1800000, .reconcileMissing now, .orphanArtifacts]

/-- A job whose archive is renamed into the artifact root. -/
def renamedRun : List Label :=
  constructed 0 ++
    [.serve,
     .call 10 (.createJob "job-1" (pushRequest "request-1" "quest-1") jobV1Protocols 1000),
     .startUpload 20 "job-1",
     .markPackaging 30 "job-1" 1 10 ⟨"files.zip", 1⟩,
     .thread "job-1" (.written [1, 2, 3]),
     .thread "job-1" (.uuid4 "6f9619ff-8b86-4011-b42d-00c04fc964ff"),
     .thread "job-1" .done, .thread "job-1" .done, .thread "job-1" .done]

/-- The job is published. -/
def publishedRun : List Label :=
  renamedRun ++ [.thread "job-1" .done, .publishArtifact "job-1", .execute 40 "job-1"]

/-- The artifact root with the archive. -/
def archiveFound : Dict String (File (List UInt8)) :=
  (∅ : Dict String (File (List UInt8))).set "6f9619ff-8b86-4011-b42d-00c04fc964ff.zip"
    ⟨[1, 2, 3], true⟩

/-- A crash of the machine after the publication, and the start after it. -/
def restartedRun : List Label :=
  publishedRun ++ .crash archiveFound (fun _ => none) :: constructed 50

theorem artifacts_durable_restarted :
    (Run.exec (Server.step (digestOfArchive true)) .initial restartedRun).ArtifactsDurable
        (digestOfArchive true) ∧
      (Run.exec (Server.step (digestOfArchive true)) .initial restartedRun).store.artifacts.rows ≠
        [] :=
  ⟨artifacts_durable (digestOfArchive true) restartedRun (by decide +kernel), by decide +kernel⟩

/-- On Windows the rename of a published archive may be lost; and an archive without a row is left
where its removal fails. -/
theorem rename_lost_and_orphan_left :
    let lost := publishedRun ++ [.crash ∅ fun _ => none]
    let left := renamedRun ++ .crash archiveFound (fun _ => none) ::
      (constructed 50 ++ [.removeOrphan false])
    (Run.Along (Server.step (digestOfArchive false)) Server.Admits .initial lost ∧
      ∃ row ∈ (Run.exec (Server.step (digestOfArchive false)) .initial lost).store.artifacts.rows,
        (Run.exec (Server.step (digestOfArchive false)) .initial lost).root.entries.get
          row.storageName = none) ∧
    Run.Along (Server.step (digestOfArchive true)) Server.Admits .initial left ∧
      (Run.exec (Server.step (digestOfArchive true)) .initial left).leftOrphans ≠ none ∧
      isPublicationName "6f9619ff-8b86-4011-b42d-00c04fc964ff.zip" = true ∧
      (Run.exec (Server.step (digestOfArchive true)) .initial left).root.entries.get
        "6f9619ff-8b86-4011-b42d-00c04fc964ff.zip" ≠ none ∧
      (Run.exec (Server.step (digestOfArchive true)) .initial left).store.artifacts.rows = [] := by
  decide +kernel

end Runs

end StylyMdm.Artifacts
