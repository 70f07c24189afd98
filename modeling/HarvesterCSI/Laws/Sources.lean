import HarvesterCSI.Laws.Listing
import HarvesterCSI.Laws.Retry

/-!
# What an answer was made from

Snapshots, backups and restores are found by name and reused. Whether the object
behind an answer was made from the source of the request depends on what was
there under the name before.
-/

namespace HarvesterCSI

open Calls Calls.Prog
open Cluster (Answers)

-- ---------------------------------------------------------------------------
-- What others do meanwhile
-- ---------------------------------------------------------------------------

/-- A snapshot without what its controllers write. -/
def VolumeSnapshot.spec (snap : VolumeSnapshot) : VolumeSnapshot :=
  { snap with status := none, finalizers := [] }

def VolumeRemoteBackup.spec (vrb : VolumeRemoteBackup) : VolumeRemoteBackup :=
  { vrb with creationTimestamp := none, sourceRequests := none, success := false }

def VolumeRemoteRestore.spec (vrr : VolumeRemoteRestore) : VolumeRemoteRestore :=
  { vrr with success := false }

/-- The host works on the objects, so that any status may change. It neither makes
nor deletes snapshots, backups and restores, and keeps the source of a claim. -/
structure StatusMoves (s t : Cluster) : Prop where
  snapshots : ∀ key, (t.snapshots.get key).map (·.spec) = (s.snapshots.get key).map (·.spec)
  backups : ∀ key, (t.backups.get key).map (·.spec) = (s.backups.get key).map (·.spec)
  restores : ∀ key, (t.restores.get key).map (·.spec) = (s.restores.get key).map (·.spec)
  claims : ∀ key, (t.pvcs.get key).map (·.dataSource) = (s.pvcs.get key).map (·.dataSource)

namespace StatusMoves

theorem refl (s : Cluster) : StatusMoves s s :=
  ⟨fun _ => rfl, fun _ => rfl, fun _ => rfl, fun _ => rfl⟩

theorem trans (s t u : Cluster) (h₁ : StatusMoves s t) (h₂ : StatusMoves t u) :
    StatusMoves s u where
  snapshots key := (h₂.snapshots key).trans (h₁.snapshots key)
  backups key := (h₂.backups key).trans (h₁.backups key)
  restores key := (h₂.restores key).trans (h₁.restores key)
  claims key := (h₂.claims key).trans (h₁.claims key)

theorem runs {p : Api α} (h : StatusMoves s t) (hrun : run Cluster.serve p t = (o, u)) :
    Runs StatusMoves Answers p s o u :=
  Runs.of_run_after refl trans Cluster.serve_answers h hrun

theorem symm (h : StatusMoves s t) : StatusMoves t s where
  snapshots key := (h.snapshots key).symm
  backups key := (h.backups key).symm
  restores key := (h.restores key).symm
  claims key := (h.claims key).symm

theorem stays {f : α → β} {o o' : Option α} (h : o'.map f = o.map f) (ho : o = some a) :
    ∃ a', o' = some a' ∧ f a' = f a := by
  subst ho
  exact Option.map_eq_some_iff.mp h

theorem snapshot (h : StatusMoves s t) (hs : s.snapshots.get key = some snap) :
    ∃ snap', t.snapshots.get key = some snap' ∧ snap'.labelled = snap.labelled ∧
      snap'.persistentVolumeClaimName = snap.persistentVolumeClaimName := by
  obtain ⟨snap', ht, hspec⟩ := stays (h.snapshots key) hs
  have hlabelled := congrArg VolumeSnapshot.labelled hspec
  have hsource := congrArg VolumeSnapshot.persistentVolumeClaimName hspec
  exact ⟨snap', ht, hlabelled, hsource⟩

theorem backup (h : StatusMoves s t) (hs : s.backups.get key = some vrb) :
    ∃ vrb', t.backups.get key = some vrb' ∧ vrb'.source = vrb.source := by
  obtain ⟨vrb', ht, hspec⟩ := stays (h.backups key) hs
  have hsource := congrArg VolumeRemoteBackup.source hspec
  exact ⟨vrb', ht, hsource⟩

theorem restore (h : StatusMoves s t) (hs : s.restores.get key = some vrr) :
    ∃ vrr', t.restores.get key = some vrr' ∧ vrr'.fromRef = vrr.fromRef := by
  obtain ⟨vrr', ht, hspec⟩ := stays (h.restores key) hs
  have hfrom := congrArg VolumeRemoteRestore.fromRef hspec
  exact ⟨vrr', ht, hfrom⟩

theorem claim (h : StatusMoves s t) (hs : s.pvcs.get key = some pvc) :
    ∃ pvc', t.pvcs.get key = some pvc' ∧ pvc'.dataSource = pvc.dataSource :=
  stays (h.claims key) hs

end StatusMoves

-- ---------------------------------------------------------------------------
-- Snapshots and backups
-- ---------------------------------------------------------------------------

def SnapOp (vol : String) : Op → Prop
  | .createSnapshot snap => snap.persistentVolumeClaimName = some vol
  | .createBackup vrb => vrb.source = vol
  | .getSnapshot .. | .getBackup .. | .getPVC .. | .getSetting _ => True
  | _ => False

theorem SnapOp.writes (hop : SnapOp vol op) (h : Answers op s r t) :
    (t.snapshots = s.snapshots ∨ ∃ snap, snap.persistentVolumeClaimName = some vol ∧
      t.snapshots = s.snapshots.put snap) ∧
    (t.backups = s.backups ∨ ∃ vrb, vrb.source = vol ∧ t.backups = s.backups.put vrb) := by
  rcases h with h | ⟨rfl, -⟩
  · obtain rfl := (congrArg Prod.snd h).symm
    cases op <;> first | exact hop.elim | exact ⟨.inl rfl, .inl rfl⟩ | skip
    all_goals
      dsimp only [Cluster.serve]
      split
    · exact ⟨.inl rfl, .inl rfl⟩
    · exact ⟨.inr ⟨_, hop, rfl⟩, .inl rfl⟩
    · exact ⟨.inl rfl, .inl rfl⟩
    · exact ⟨.inl rfl, .inr ⟨_, hop, rfl⟩⟩
  · exact ⟨.inl rfl, .inl rfl⟩

def BackupOf (vol : String) (key : Key) (s : Cluster) : Prop :=
  ∀ vrb, s.backups.get key = some vrb → vrb.source = vol

def SnapshotOf (vol : String) (key : Key) (s : Cluster) : Prop :=
  ∀ snap, s.snapshots.get key = some snap → snap.labelled = true →
    snap.persistentVolumeClaimName = some vol

theorem BackupOf.move (h : BackupOf vol key s) (hmove : StatusMoves s t) : BackupOf vol key t := by
  intro vrb ht
  obtain ⟨vrb', hs, hsource⟩ := hmove.symm.backup ht
  rw [← hsource]
  exact h vrb' hs

theorem SnapshotOf.move (h : SnapshotOf vol key s) (hmove : StatusMoves s t) :
    SnapshotOf vol key t := by
  intro snap ht hlabelled
  obtain ⟨snap', hs, hlabels, hsource⟩ := hmove.symm.snapshot ht
  rw [← hsource]
  exact h snap' hs (hlabels.trans hlabelled)

theorem BackupOf.call (hop : SnapOp vol op) (h : BackupOf vol key s) (hans : Answers op s r t) :
    BackupOf vol key t := by
  intro vrb ht
  rcases (hop.writes hans).2 with hsame | ⟨new, hsource, hput⟩
  · exact h vrb (hsame ▸ ht)
  · rw [hput, Store.get_put] at ht
    split at ht
    · cases ht
      exact hsource
    · exact h vrb ht

theorem SnapshotOf.call (hop : SnapOp vol op) (h : SnapshotOf vol key s) (hans : Answers op s r t) :
    SnapshotOf vol key t := by
  intro snap ht
  rcases (hop.writes hans).1 with hsame | ⟨new, hsource, hput⟩
  · exact h snap (hsame ▸ ht)
  · rw [hput, Store.get_put] at ht
    split at ht
    · cases ht
      exact fun _ => hsource
    · exact h snap ht

section
variable {cs : ControllerServer}

theorem convertVolumeRemoteBackupToCSI_cases (cs : ControllerServer) (vrb : VolumeRemoteBackup)
    (vol : String) :
    (∃ e, cs.convertVolumeRemoteBackupToCSI vrb vol = .error e) ∨
      ∃ snap, cs.convertVolumeRemoteBackupToCSI vrb vol = .ok snap ∧
        snap.snapshotId = formatBackupSnapshotID vrb.ns vrb.name := by
  unfold ControllerServer.convertVolumeRemoteBackupToCSI
  split
  · exact .inl ⟨_, rfl⟩
  · split
    · exact .inl ⟨_, rfl⟩
    · exact .inr ⟨_, rfl, rfl⟩

theorem SnapOp.prepareBackup (name vol : String) :
    (cs.prepareBackupSnapResponse name vol).Uses (SnapOp vol) := by
  refine Uses.bind ⟨trivial, fun r => ?_⟩ fun ready => ?_
  · cases r <;> trivial
  · split
    · refine Uses.request trivial fun r => ?_
      cases r with
      | error e => trivial
      | ok vrb =>
        rcases convertVolumeRemoteBackupToCSI_cases cs vrb vol with ⟨e, h⟩ | ⟨snap, h, -⟩
        all_goals
          simp [h]
    · trivial

theorem SnapOp.handleBackup (name vol : String) :
    (cs.handleBackupSnap name vol).Uses (SnapOp vol) := by
  refine Uses.orElse ⟨trivial, fun r => ?_⟩ fun e => ?_
  · cases r with
    | error e => trivial
    | ok vrb => exact prepareBackup _ _
  · split
    · refine Uses.bind ⟨rfl, fun r => ?_⟩ fun vrb => prepareBackup _ _
      cases r <;> trivial
    · trivial

theorem prepareBackupSnapResponse_ok
    (h : Runs StatusMoves Answers (cs.prepareBackupSnapResponse name vol) s (.ok snap) t) :
    ∃ vrb, t.backups.get (cs.ns, name) = some vrb ∧
      snap.snapshotId = formatBackupSnapshotID cs.ns name := by
  obtain ⟨ready, u, -, h⟩ := h.bind_ok StatusMoves.refl
  cases ready with
  | false => cases h.1
  | true =>
    obtain ⟨s₁, r, s₂, -, hget, h⟩ := Runs.request h
    obtain ⟨rfl, hread⟩ := hget.getBackup
    cases r with
    | error e => cases h.1
    | ok vrb =>
      have hvrb := hread vrb rfl
      dsimp only at h
      rcases convertVolumeRemoteBackupToCSI_cases cs vrb vol with ⟨e, hc⟩ | ⟨snap', hc, hid⟩
      · rw [hc] at h
        cases h.1
      · rw [hc] at h
        obtain ⟨hsnap, hmove⟩ := h
        cases hsnap
        have hkey := Store.get_key hvrb
        obtain ⟨hns, hname⟩ := Prod.mk.inj hkey
        obtain ⟨vrb', hget', -⟩ := hmove.backup hvrb
        exact ⟨vrb', hget', by rw [hid, hns, hname]⟩

theorem handleBackupSnap_ok
    (h : Runs StatusMoves Answers (cs.handleBackupSnap name vol) s (.ok snap) t) :
    ∃ vrb, t.backups.get (cs.ns, name) = some vrb ∧
      snap.snapshotId = formatBackupSnapshotID cs.ns name := by
  rcases h.orElse_ok StatusMoves.refl with ⟨s₁, r, s₂, -, hget, h⟩ | ⟨e, u, -, h⟩
  · obtain ⟨rfl, hread⟩ := hget.getBackup
    cases r with
    | error e => cases h.1
    | ok vrb =>
      have hname : vrb.name = name := congrArg Prod.snd (Store.get_key (hread vrb rfl))
      rw [← hname]
      exact prepareBackupSnapResponse_ok h
  · split at h
    · obtain ⟨vrb, u', ⟨s₁, r, s₂, -, hcreate, hcreated⟩, h⟩ := h.bind_ok StatusMoves.refl
      cases r with
      | error e => cases hcreated.1
      | ok res =>
        obtain rfl := hcreate.createBackup_ok
        obtain ⟨hvrb, -⟩ := hcreated
        cases hvrb
        exact prepareBackupSnapResponse_ok h
    · cases h.1

theorem convertVolumeSnapshotToCSI_cases (cs : ControllerServer) (snap : VolumeSnapshot)
    (vol : String) :
    (∃ e, cs.convertVolumeSnapshotToCSI snap vol = .error e) ∨
      cs.convertVolumeSnapshotToCSI snap vol = .panic ∨
      ∃ entry, cs.convertVolumeSnapshotToCSI snap vol = .ok entry ∧
        entry.snapshotId = snap.name := by
  unfold ControllerServer.convertVolumeSnapshotToCSI
  split
  · exact .inl ⟨_, rfl⟩
  · split
    · exact .inl ⟨_, rfl⟩
    · split
      · exact .inr (.inl rfl)
      · exact .inr (.inr ⟨_, rfl, rfl⟩)

theorem SnapOp.prepareSnapshot (cs : ControllerServer) (name vol : String) :
    (cs.prepareSnapshotResponse name vol).Uses (SnapOp vol) := by
  refine Uses.bind (Uses.request trivial fun r => ?_) fun ready => ?_
  · repeat' split
    all_goals trivial
  · split
    · refine Uses.request trivial fun r => ?_
      cases r with
      | error e => trivial
      | ok snap =>
        refine Uses.bind (ControllerServer.validateHostSnapLabels_pure cs snap) fun _ => ?_
        rcases convertVolumeSnapshotToCSI_cases cs snap vol with ⟨e, h⟩ | h | ⟨entry, h, -⟩
        all_goals
          rw [h]
          trivial
    · trivial

theorem SnapOp.handleExistingLocal (name vol : String) :
    (cs.handleExistingLocalSnap name vol).Uses (SnapOp vol) := by
  refine Uses.request trivial fun r => ?_
  cases r with
  | error e => trivial
  | ok snap =>
    exact Uses.bind (ControllerServer.validateHostSnapLabels_pure cs snap) fun _ =>
      prepareSnapshot _ _ _

theorem SnapOp.generate (name : String) (pvc : PVC) :
    (cs.generateHostSnap name pvc).Uses (SnapOp pvc.name) := by
  refine Uses.bind (Uses.request trivial fun r => ?_) fun snapClass => ?_
  · dsimp only [ControllerServer.getHostSnapClass.unmarshalFailed]
    repeat' split
    all_goals trivial
  · unfold ControllerServer.generateHostSnapManifest
    split
    · trivial
    · refine Uses.request rfl fun r => ?_
      cases r <;> trivial

theorem prepareSnapshotResponse_ok
    (h : Runs StatusMoves Answers (cs.prepareSnapshotResponse name vol) s (.ok entry) t) :
    ∃ snap, t.snapshots.get (cs.ns, name) = some snap ∧ snap.labelled = true ∧
      entry.snapshotId = name := by
  obtain ⟨ready, u, -, h⟩ := h.bind_ok StatusMoves.refl
  cases ready with
  | false => cases h.1
  | true =>
    obtain ⟨s₁, r, s₂, -, hget, h⟩ := Runs.request h
    obtain ⟨rfl, hread⟩ := hget.getSnapshot
    cases r with
    | error e => cases h.1
    | ok snap =>
      have hsnap := hread snap rfl
      dsimp only at h
      rcases validateHostSnapLabels_cases cs snap with ⟨hlabelled, hv⟩ | ⟨-, e, hv⟩
      · rw [hv, ok_bind] at h
        rcases convertVolumeSnapshotToCSI_cases cs snap vol with ⟨e, hc⟩ | hc | ⟨entry', hc, hid⟩
        · rw [hc] at h
          cases h.1
        · rw [hc] at h
          cases h.1
        · rw [hc] at h
          obtain ⟨hentry, hmove⟩ := h
          cases hentry
          obtain ⟨snap', hget', hlabels, -⟩ := hmove.snapshot hsnap
          have hname : snap.name = name := congrArg Prod.snd (Store.get_key hsnap)
          exact ⟨snap', hget', hlabels.trans hlabelled, hid.trans hname⟩
      · rw [hv] at h
        cases h.1

theorem handleExistingLocalSnap_ok
    (h : Runs StatusMoves Answers (cs.handleExistingLocalSnap name vol) s (.ok entry) t) :
    ∃ snap, t.snapshots.get (cs.ns, name) = some snap ∧ snap.labelled = true ∧
      entry.snapshotId = name := by
  obtain ⟨s₁, r, s₂, -, hget, h⟩ := Runs.request h
  obtain ⟨rfl, hread⟩ := hget.getSnapshot
  cases r with
  | error e => cases h.1
  | ok snap =>
    obtain ⟨_, u, -, h⟩ := h.bind_ok StatusMoves.refl
    have hname : snap.name = name := congrArg Prod.snd (Store.get_key (hread snap rfl))
    rw [← hname]
    exact prepareSnapshotResponse_ok h

theorem generateHostSnap_ok
    (h : Runs StatusMoves Answers (cs.generateHostSnap name pvc) s (.ok created) t) :
    created.name = name := by
  obtain ⟨snapClass, u, -, h⟩ := h.bind_ok StatusMoves.refl
  cases hsc : pvc.storageClassName with
  | none =>
    simp only [ControllerServer.generateHostSnapManifest, hsc] at h
    cases h.1
  | some sc =>
    simp only [ControllerServer.generateHostSnapManifest, hsc, ok_bind, request_bind] at h
    obtain ⟨s₁, r, s₂, -, hcreate, h⟩ := h
    cases r with
    | error e => cases h.1
    | ok res =>
      obtain rfl := hcreate.createSnapshot_ok
      obtain ⟨hcreated, -⟩ := h
      cases hcreated
      rfl

theorem createSnapFromVolume_reports
    (h : Runs StatusMoves Answers (cs.createSnapFromVolume name vol) s (.ok entry) t) :
    ∃ snap, t.snapshots.get (cs.ns, name) = some snap ∧ snap.labelled = true ∧
      entry.snapshotId = name := by
  obtain ⟨s₁, r, s₂, -, -, h⟩ := Runs.request h
  cases r with
  | error e => cases h.1
  | ok pvc =>
    obtain ⟨created, u, hcreated, h⟩ := h.bind_ok StatusMoves.refl
    rw [← generateHostSnap_ok hcreated]
    exact prepareSnapshotResponse_ok h

theorem createSnapFromVolume_ok (hof : SnapshotOf vol (cs.ns, name) s)
    (h : Runs StatusMoves Answers (cs.createSnapFromVolume name vol) s o t) :
    SnapshotOf vol (cs.ns, name) t := by
  obtain ⟨s₁, r, s₂, hmove, hget, h⟩ := Runs.request h
  obtain ⟨rfl, hread⟩ := hget.getPVC
  cases r with
  | error e => exact (hof.move hmove).move h.2
  | ok pvc =>
    -- the claim that was read is the volume asked for
    have hvol : pvc.name = vol := congrArg Prod.snd (Store.get_key (hread pvc rfl))
    have hgenerate : (cs.generateHostSnap name pvc).Uses (SnapOp vol) :=
      hvol ▸ SnapOp.generate name pvc
    have huses := hgenerate.bind fun created =>
      SnapOp.prepareSnapshot cs created.name vol
    exact Runs.invariant huses (fun _ _ => SnapshotOf.move) (fun _ _ _ _ => SnapshotOf.call) h
      (hof.move hmove)

theorem handleLocalSnap_reports
    (h : Runs StatusMoves Answers (cs.handleLocalSnap name vol) s (.ok entry) t) :
    ∃ snap, t.snapshots.get (cs.ns, name) = some snap ∧ snap.labelled = true ∧
      entry.snapshotId = name := by
  rcases h.orElse_ok StatusMoves.refl with h | ⟨e, u, -, h⟩
  · exact handleExistingLocalSnap_ok h
  · split at h
    · exact createSnapFromVolume_reports h
    · cases h.1

theorem handleLocalSnap_ok (hof : SnapshotOf vol (cs.ns, name) s)
    (h : Runs StatusMoves Answers (cs.handleLocalSnap name vol) s (.ok entry) t) :
    SnapshotOf vol (cs.ns, name) t := by
  have hexisting {o : Outcome Err Snapshot} {u : Cluster}
      (h : Runs StatusMoves Answers (cs.handleExistingLocalSnap name vol) s o u) :
      SnapshotOf vol (cs.ns, name) u :=
    Runs.invariant (SnapOp.handleExistingLocal name vol) (fun _ _ => SnapshotOf.move)
      (fun _ _ _ _ => SnapshotOf.call) h hof
  rcases h.orElse_ok StatusMoves.refl with h | ⟨e, u, hmissing, h⟩
  · exact hexisting h
  · split at h
    · exact createSnapFromVolume_ok (hexisting hmissing) h
    · cases h.1

end

-- ---------------------------------------------------------------------------
-- CreateSnapshot
-- ---------------------------------------------------------------------------

/-- The object with the id that a request for a snapshot was answered with was
made from the volume of the request. -/
def SnapshotMadeFrom (cs : ControllerServer) (req : CreateSnapshotRequest) (id : String)
    (s : Cluster) : Prop :=
  if ControllerServer.isBackupSnapshot req then
    ∃ vrb, s.backups.get (cs.ns, req.name) = some vrb ∧
      id = formatBackupSnapshotID vrb.ns vrb.name ∧ vrb.source = req.sourceVolumeId
  else
    ∃ snap, s.snapshots.get (cs.ns, req.name) = some snap ∧ id = snap.name ∧
      snap.persistentVolumeClaimName = some req.sourceVolumeId

/-- No object that the request could be answered with has another source. -/
def NameFree (cs : ControllerServer) (req : CreateSnapshotRequest) (s : Cluster) : Prop :=
  if ControllerServer.isBackupSnapshot req then BackupOf req.sourceVolumeId (cs.ns, req.name) s
  else SnapshotOf req.sourceVolumeId (cs.ns, req.name) s

section
variable {cs : ControllerServer} {req : CreateSnapshotRequest}

theorem createSnapshot_eq (hname : req.name ≠ "") (hvol : req.sourceVolumeId ≠ "") :
    cs.createSnapshot req =
      if ControllerServer.isBackupSnapshot req then cs.handleBackupSnap req.name req.sourceVolumeId
      else cs.handleLocalSnap req.name req.sourceVolumeId := by
  simp [ControllerServer.createSnapshot, ControllerServer.validateCreateSnapshotRequest, hname,
    hvol]

theorem createSnapshot_named
    (h : Runs StatusMoves Answers (cs.createSnapshot req) s (.ok entry) t) :
    req.name ≠ "" ∧ req.sourceVolumeId ≠ "" := by
  unfold ControllerServer.createSnapshot ControllerServer.validateCreateSnapshotRequest at h
  split at h
  · cases h.1
  · rename_i hname
    split at h
    · cases h.1
    · exact ⟨hname, by assumption⟩

theorem createSnapshot_madeFrom (hfree : NameFree cs req s)
    (h : Runs StatusMoves Answers (cs.createSnapshot req) s (.ok entry) t) :
    SnapshotMadeFrom cs req entry.snapshotId t := by
  obtain ⟨hname, hvol⟩ := createSnapshot_named h
  rw [createSnapshot_eq hname hvol] at h
  unfold SnapshotMadeFrom
  unfold NameFree at hfree
  split at h
  · rename_i hbackup
    rw [if_pos hbackup] at hfree ⊢
    obtain ⟨vrb, hget, hid⟩ := handleBackupSnap_ok h
    have hof : BackupOf req.sourceVolumeId (cs.ns, req.name) t :=
      Runs.invariant (SnapOp.handleBackup req.name req.sourceVolumeId) (fun _ _ => BackupOf.move)
        (fun _ _ _ _ => BackupOf.call) h hfree
    have hkey := Store.get_key hget
    obtain ⟨hns, hname⟩ := Prod.mk.inj hkey
    exact ⟨vrb, hget, by rw [hid, hns, hname], hof vrb hget⟩
  · rename_i hlocal
    rw [if_neg hlocal] at hfree ⊢
    obtain ⟨snap, hget, hlabelled, hid⟩ := handleLocalSnap_reports h
    have hof := handleLocalSnap_ok hfree h
    have hname : snap.name = req.name := congrArg Prod.snd (Store.get_key hget)
    exact ⟨snap, hget, hid.trans hname.symm, hof snap hget hlabelled⟩

-- Once the host has finished it, an object of the name is the answer, whatever it
-- was made from.

def VolumeRemoteBackup.finished (vrb : VolumeRemoteBackup) : VolumeRemoteBackup :=
  { vrb with success := true }

def VolumeSnapshot.finished (snap : VolumeSnapshot) : VolumeSnapshot :=
  { snap with status := some { readyToUse := some true, restoreSize := some 0 } }

theorem run_handleBackupSnap (hname : name ≠ "") (hvol : vol ≠ "")
    (hget : s.backups.get (cs.ns, name) = some vrb) (hready : vrb.success = true) :
    ∃ entry, run Cluster.serve (cs.handleBackupSnap name vol) s = (.ok entry, s) := by
  have hvrb : vrb.name = name := congrArg Prod.snd (Store.get_key hget)
  simp [ControllerServer.handleBackupSnap, ControllerServer.handleExistingBackupSnap,
    ControllerServer.prepareBackupSnapResponse, ControllerServer.checkVolumeRemoteBackupReadiness,
    ControllerServer.convertVolumeRemoteBackupToCSI, Cluster.serve, hget, hready, hvrb, hname, hvol]

theorem run_handleLocalSnap (hname : name ≠ "") (hvol : vol ≠ "")
    (hget : s.snapshots.get (cs.ns, name) = some snap) (hlabelled : snap.labelled = true)
    (hready : snap.status = some { readyToUse := some true, restoreSize := some 0 }) :
    ∃ entry, run Cluster.serve (cs.handleLocalSnap name vol) s = (.ok entry, s) := by
  have hsnap : snap.name = name := congrArg Prod.snd (Store.get_key hget)
  simp [ControllerServer.handleLocalSnap, ControllerServer.handleExistingLocalSnap,
    ControllerServer.prepareSnapshotResponse, ControllerServer.checkSnapsReadiness,
    ControllerServer.convertVolumeSnapshotToCSI, Cluster.serve, hget, hready, hsnap, hname, hvol,
    validateHostSnapLabels_labelled hlabelled]

theorem nameFree_of_madeFrom (hname : req.name ≠ "") (hvol : req.sourceVolumeId ≠ "")
    (h : ∀ entry t, Runs StatusMoves Answers (cs.createSnapshot req) s (.ok entry) t →
      SnapshotMadeFrom cs req entry.snapshotId t) : NameFree cs req s := by
  rw [createSnapshot_eq hname hvol] at h
  unfold SnapshotMadeFrom at h
  unfold NameFree
  split
  · rename_i hbackup
    simp only [hbackup, if_true] at h
    intro vrb hget
    have hput : (s.backups.put vrb.finished).get (cs.ns, req.name) = some vrb.finished :=
      Store.get_overwrite hget rfl
    have hmove : StatusMoves s { s with backups := s.backups.put vrb.finished } :=
      { StatusMoves.refl s with backups := Store.map_overwrite hget rfl rfl }
    obtain ⟨entry, hrun⟩ := run_handleBackupSnap
      (s := { s with backups := s.backups.put vrb.finished }) hname hvol hput rfl
    obtain ⟨vrb', hget', -, hsource⟩ := h entry _
      (hmove.runs hrun)
    rw [hput] at hget'
    cases hget'
    exact hsource
  · rename_i hlocal
    simp only [hlocal] at h
    intro snap hget hlabelled
    have hput : (s.snapshots.put snap.finished).get (cs.ns, req.name) = some snap.finished :=
      Store.get_overwrite hget rfl
    have hmove : StatusMoves s { s with snapshots := s.snapshots.put snap.finished } :=
      { StatusMoves.refl s with snapshots := Store.map_overwrite hget rfl rfl }
    obtain ⟨entry, hrun⟩ := run_handleLocalSnap
      (s := { s with snapshots := s.snapshots.put snap.finished }) hname hvol hput hlabelled rfl
    obtain ⟨snap', hget', -, hsource⟩ := h entry _
      (hmove.runs hrun)
    rw [hput] at hget'
    cases hget'
    exact hsource

end

-- ---------------------------------------------------------------------------
-- CreateVolume
-- ---------------------------------------------------------------------------

/-- The object behind a volume made from a snapshot id was made from what the id
stands for. -/
def VolumeMadeFrom (cs : ControllerServer) (req : CreateVolumeRequest) (id : String) (s : Cluster) :
    Prop :=
  match req.volumeContentSource with
  | some (.snapshot snapId) =>
    match parseSnapshotID snapId with
    | (true, ns, name) => ∃ vrr, s.restores.get (cs.ns, req.name) = some vrr ∧ id = vrr.name ∧
        vrr.fromRef = ns ++ "/" ++ name
    | (false, _, _) => ∃ pvc, s.pvcs.get (cs.ns, req.name) = some pvc ∧ id = pvc.name ∧
        pvc.dataSource = some ⟨snapshotGroupName, volumeSnapshotKind, snapId⟩
  | _ => True

def RestoreOf (fromRef : String) (key : Key) (s : Cluster) : Prop :=
  ∀ vrr, s.restores.get key = some vrr → vrr.fromRef = fromRef

theorem RestoreOf.move (h : RestoreOf fromRef key s) (hmove : StatusMoves s t) :
    RestoreOf fromRef key t := by
  intro vrr ht
  obtain ⟨vrr', hs, hfrom⟩ := hmove.symm.restore ht
  rw [← hfrom]
  exact h vrr' hs

section
variable {cs : ControllerServer} {req : CreateVolumeRequest}

theorem getOrCreateVolumeRemoteRestore_ok
    (hof : RestoreOf (vrb.ns ++ "/" ++ vrb.name) (cs.ns, name) s)
    (h : Runs StatusMoves Answers (cs.getOrCreateVolumeRemoteRestore name vrb) s (.ok vrr) t) :
    vrr.name = name ∧ ∃ vrr', t.restores.get (cs.ns, name) = some vrr' ∧
      vrr'.fromRef = vrb.ns ++ "/" ++ vrb.name := by
  obtain ⟨s₁, r, s₂, hmove, hget, h⟩ := Runs.request h
  obtain ⟨rfl, hread⟩ := hget.getRestore
  cases r with
  | ok found =>
    obtain ⟨hvrr, hmove'⟩ := h
    cases hvrr
    have hfound := hread vrr rfl
    obtain ⟨vrr₀, hget₀, hfrom₀⟩ := hmove.symm.restore hfound
    obtain ⟨vrr', hget', hfrom'⟩ := hmove'.restore hfound
    exact ⟨congrArg Prod.snd (Store.get_key hfound), vrr', hget',
      (hfrom'.trans hfrom₀.symm).trans (hof vrr₀ hget₀)⟩
  | error e =>
    dsimp only at h
    split at h
    · cases h.1
    · obtain ⟨s₃, r, s₄, -, hcreate, h⟩ := Runs.request h
      cases r with
      | error e => cases h.1
      | ok res =>
        obtain ⟨rfl, hnew⟩ := hcreate.createRestore_ok
        obtain ⟨hvrr, hmove'⟩ := h
        cases hvrr
        obtain ⟨vrr', hget', hfrom'⟩ := hmove'.restore hnew
        exact ⟨rfl, vrr', hget', hfrom'⟩

theorem restoreReady_ok {got vrr : VolumeRemoteRestore}
    (h : Runs StatusMoves Answers (do
      if ← cs.checkVolumeRemoteRestoreReadiness got.name then pure got
      else .error (.status .internal ("VolumeRemoteRestore " ++ got.name ++ " is not ready")))
      s (.ok vrr) t) : vrr = got ∧ StatusMoves s t := by
  obtain ⟨ready, u, ⟨s₁, r, s₂, hmove, hget, hcheck⟩, h⟩ := h.bind_ok StatusMoves.refl
  obtain ⟨rfl, -⟩ := hget.getRestore
  cases ready with
  | false => cases h.1
  | true =>
    obtain ⟨hvrr, hlast⟩ := h
    cases hvrr
    have hmove' : StatusMoves s₂ u := by cases r <;> exact hcheck.2
    exact ⟨rfl, .trans _ _ _ (.trans _ _ _ hmove hmove') hlast⟩

theorem createVolume_backup_madeFrom (haccepts : cs.Accepts req)
    (hid : parseSnapshotID req.snapshotId = (true, vrbNs, vrbName))
    (hof : (s.backups.get (vrbNs, vrbName)).isSome →
      RestoreOf (vrbNs ++ "/" ++ vrbName) (cs.ns, req.name) s)
    (h : Runs StatusMoves Answers (cs.createVolume ticks req) s (.ok resp) t) :
    ∃ vrr, t.restores.get (cs.ns, req.name) = some vrr ∧ resp.volumeId = vrr.name ∧
      vrr.fromRef = vrbNs ++ "/" ++ vrbName := by
  rw [ControllerServer.createVolume_eq haccepts,
    if_pos (by rw [ControllerServer.isBackupSnapshotRestore_eq, hid])] at h
  simp only [ControllerServer.buildHostVolumeRemoteRestore, hid] at h
  obtain ⟨s₁, r, s₂, hmove, hget, h⟩ := Runs.request h
  obtain ⟨rfl, hread⟩ := hget.getBackup
  cases r with
  | error e => cases h.1
  | ok vrb =>
    have hvrb := hread vrb rfl
    have hkey := Store.get_key hvrb
    obtain ⟨hns, hname⟩ := Prod.mk.inj hkey
    obtain ⟨vrb₀, hget₀, -⟩ := hmove.symm.backup hvrb
    have hof := (hof (by rw [hget₀]; rfl)).move hmove
    rw [← hns, ← hname] at hof ⊢
    obtain ⟨vrr, u, hrestore, hresp, hlast⟩ := h.bind_ok StatusMoves.refl
    obtain ⟨got, u₁, hgot, hready⟩ := hrestore.bind_ok StatusMoves.refl
    obtain ⟨hgotName, vrr₁, hget₁, hfrom₁⟩ := getOrCreateVolumeRemoteRestore_ok hof hgot
    obtain ⟨hvrr, hmove₁⟩ := restoreReady_ok hready
    obtain ⟨vrr', hget', hfrom'⟩ := (hmove₁.trans _ _ _ hlast).restore hget₁
    refine ⟨vrr', hget', ?_, hfrom'.trans hfrom₁⟩
    cases hresp
    have hname' : vrr'.name = req.name := congrArg Prod.snd (Store.get_key hget')
    rw [hname', hvrr, hgotName]

def ClaimFrom (source : Option DataSource) (key : Key) (s : Cluster) : Prop :=
  ∃ pvc, s.pvcs.get key = some pvc ∧ pvc.dataSource = source

theorem ClaimFrom.move (h : ClaimFrom source key s) (hmove : StatusMoves s t) :
    ClaimFrom source key t := by
  obtain ⟨pvc, hget, hsource⟩ := h
  obtain ⟨pvc', hget', hsource'⟩ := hmove.claim hget
  exact ⟨pvc', hget', hsource'.trans hsource⟩

/-- A claim is never taken over from someone else. -/
theorem createVolume_snapshot_madeFrom (hsnap : req.volumeContentSource = some (.snapshot snapId))
    (hlocal : cs.isBackupSnapshotRestore req = false)
    (h : Runs StatusMoves Answers (cs.createVolume ticks req) s (.ok resp) t) :
    ∃ pvc, t.pvcs.get (cs.ns, req.name) = some pvc ∧ resp.volumeId = pvc.name ∧
      pvc.dataSource = some ⟨snapshotGroupName, volumeSnapshotKind, snapId⟩ := by
  obtain ⟨hostPVC, s₁, s₂, res, s₃, hbuild, -, hcreate, hexport, rfl⟩ :=
    ControllerServer.createVolume_ok StatusMoves.refl StatusMoves.trans hlocal h
  obtain ⟨u, hostSnap, u', -, hget, hns, hname, hsource⟩ :=
    ControllerServer.buildHostPVC_snapshot_ok StatusMoves.refl hsnap hbuild
  obtain ⟨-, hread⟩ := hget.getSnapshot
  have hsnapName : hostSnap.name = snapId := congrArg Prod.snd (Store.get_key (hread hostSnap rfl))
  obtain ⟨-, rfl, rfl⟩ := hcreate.createPVC_ok
  have hnew : ClaimFrom hostPVC.dataSource (hostPVC.ns, hostPVC.name) (s₂.setPVC hostPVC) :=
    ⟨_, Cluster.get_setPVC _ _, rfl⟩
  obtain ⟨pvc, hpvc, hfrom⟩ : ClaimFrom hostPVC.dataSource (hostPVC.ns, hostPVC.name) t := by
    refine hexport.invariant (ControllerServer.exportVolume_uses _) (fun _ _ => ClaimFrom.move) ?_
      hnew
    intro op s r t hop hinv hans
    rwa [ClaimFrom, hop.pvcs hans]
  rw [hsource, hsnapName] at hfrom
  have hpvcName : pvc.name = hostPVC.name := congrArg Prod.snd (Store.get_key hpvc)
  rw [hns, hname] at hpvc
  exact ⟨pvc, hpvc, hpvcName.symm, hfrom⟩

def RestoreFree (cs : ControllerServer) (req : CreateVolumeRequest) (s : Cluster) : Prop :=
  match parseSnapshotID req.snapshotId with
  | (true, vrbNs, vrbName) => (s.backups.get (vrbNs, vrbName)).isSome →
      RestoreOf (vrbNs ++ "/" ++ vrbName) (cs.ns, req.name) s
  | (false, _, _) => True

theorem createVolume_madeFrom (haccepts : cs.Accepts req) (hfree : RestoreFree cs req s)
    (h : Runs StatusMoves Answers (cs.createVolume ticks req) s (.ok resp) t) :
    VolumeMadeFrom cs req resp.volumeId t := by
  unfold VolumeMadeFrom
  split
  · rename_i snapId hsnap
    have hsnapId : req.snapshotId = snapId := by simp [CreateVolumeRequest.snapshotId, hsnap]
    split
    · rename_i hid
      rw [← hsnapId] at hid
      rw [RestoreFree, hid] at hfree
      exact createVolume_backup_madeFrom haccepts hid hfree h
    · rename_i hid
      refine createVolume_snapshot_madeFrom hsnap ?_ h
      rw [ControllerServer.isBackupSnapshotRestore_eq, hsnapId, hid]
  · trivial

def VolumeRemoteRestore.finished (vrr : VolumeRemoteRestore) : VolumeRemoteRestore :=
  { vrr with success := true }

theorem restoreFree_of_madeFrom (haccepts : cs.Accepts req)
    (h : ∀ resp t, Runs StatusMoves Answers (cs.createVolume ticks req) s (.ok resp) t →
      VolumeMadeFrom cs req resp.volumeId t) : RestoreFree cs req s := by
  unfold RestoreFree
  split
  · rename_i vrbNs vrbName hid
    intro hvrb vrr hget
    have hbackup : cs.isBackupSnapshotRestore req = true := by
      rw [ControllerServer.isBackupSnapshotRestore_eq, hid]
    have hput : (s.restores.put vrr.finished).get (cs.ns, req.name) = some vrr.finished :=
      Store.get_overwrite hget rfl
    have hmove : StatusMoves s { s with restores := s.restores.put vrr.finished } :=
      { StatusMoves.refl s with restores := Store.map_overwrite hget rfl rfl }
    obtain ⟨vrb, hvrb⟩ := Option.isSome_iff_exists.mp hvrb
    have hrun := createVolume_restored (s := { s with restores := s.restores.put vrr.finished })
      ticks haccepts hbackup hput rfl
    simp only [hid, hvrb] at hrun
    have hfrom := h _ _
      (hmove.runs hrun)
    unfold VolumeMadeFrom at hfrom
    split at hfrom
    · rename_i snapId hsnap
      have hsnapId : req.snapshotId = snapId := by simp [CreateVolumeRequest.snapshotId, hsnap]
      rw [← hsnapId, hid] at hfrom
      obtain ⟨vrr', hget', -, hfrom⟩ := hfrom
      rw [hput] at hget'
      cases hget'
      exact hfrom
    · -- a request without a snapshot has an empty id, which is not one of a backup
      rename_i hsource
      unfold ControllerServer.isBackupSnapshotRestore at hbackup
      split at hbackup
      · exact absurd ‹_› (hsource _)
      · cases hbackup
  · trivial

end

-- ---------------------------------------------------------------------------
-- Both calls
-- ---------------------------------------------------------------------------

/-- An answer names an object made from the source of the request exactly if no
object of the requested name, of the kind the request asks for, was made from
another source before. A claim is always made anew. -/
theorem answer_made_from_source_iff (cs : ControllerServer) (s : Cluster) :
    (∀ req, (∀ entry t, Runs StatusMoves Answers (cs.createSnapshot req) s (.ok entry) t →
        SnapshotMadeFrom cs req entry.snapshotId t) ↔
      (req.name ≠ "" → req.sourceVolumeId ≠ "" → NameFree cs req s)) ∧
    ∀ ticks req, (∀ resp t, Runs StatusMoves Answers (cs.createVolume ticks req) s (.ok resp) t →
        VolumeMadeFrom cs req resp.volumeId t) ↔
      (cs.Accepts req → RestoreFree cs req s) := by
  refine ⟨fun req => ⟨fun h hname hvol => nameFree_of_madeFrom hname hvol h, ?_⟩,
    fun ticks req => ⟨fun h haccepts => restoreFree_of_madeFrom haccepts h, ?_⟩⟩
  · intro hfree entry t h
    obtain ⟨hname, hvol⟩ := createSnapshot_named h
    exact createSnapshot_madeFrom (hfree hname hvol) h
  · intro hfree resp t h
    have haccepts := ControllerServer.Accepts.of_runs h
    exact createVolume_madeFrom haccepts (hfree haccepts) h

/-- A backup of volume `v` is taken for one of volume `w`. -/
theorem backup_of_other_volume :
    let req : CreateSnapshotRequest :=
      { name := "b", sourceVolumeId := "w", parameters := some [("type", "backup")] }
    run Cluster.serve (exampleServer.createSnapshot req) oneBackup =
        (.ok ⟨"backup:ns/b", "w", 0, none, true⟩, oneBackup) ∧
      oneBackup.backups.get ("ns", "b") = some exampleBackup ∧ exampleBackup.source = "v" ∧
      ¬ SnapshotMadeFrom exampleServer req "backup:ns/b" oneBackup := by
  refine ⟨rfl, rfl, rfl, ?_⟩
  rintro ⟨vrb, hget, -, hsource⟩
  cases hget
  exact absurd hsource (by decide)

end HarvesterCSI
