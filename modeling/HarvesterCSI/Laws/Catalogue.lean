import HarvesterCSI.Calls.Series
import HarvesterCSI.Laws.Readiness
import HarvesterCSI.Laws.SnapshotIds
import Mathlib.Logic.Function.Basic

/-!
# Snapshots as a catalogue

A catalogue says of each snapshot and backup what it was taken of, what the host has
reported of it and whether the host still holds it. A create enters what is missing and
fails until the host reports it ready; a delete strikes out what nobody holds; a listing
shows what there is. Some things are not as one would like them, and the catalogue has
them as they are: an entry answers for every source, also when it is being deleted, the
delete of a snapshot that is there fails, one snapshot without a report crashes the
listing, and a create crashes on a garbled report.
-/

namespace HarvesterCSI

open Calls Calls.Prog

-- ---------------------------------------------------------------------------
-- The catalogue
-- ---------------------------------------------------------------------------

/-- What the host reports of a snapshot. One that has failed may be ready; a garbled
report has an error without a message, or is ready without a size. -/
structure Progress where
  size : Int64 := 0
  time : Option Nat := none
  ready : Bool := false
  failed : Bool := false
  garbled : Bool := false

inductive SnapAnswer
  | made (entry : Snapshot)
  | done
  | listed (entries : Set Snapshot)
  | failed
  | crashed

/-- A snapshot is the driver's by its labels, and held by its finalizers. -/
structure Taken where
  ours : Bool
  source : String
  progress : Option Progress
  held : Bool := false
  deleting : Bool := false

namespace Taken

def entry (t : Taken) (id vol : String) : Snapshot where
  snapshotId := id
  sourceVolumeId := vol
  sizeBytes := (t.progress.getD {}).size
  creationTime := (t.progress.getD {}).time
  readyToUse := (t.progress.getD {}).ready

def answer (t : Taken) (id vol : String) : SnapAnswer :=
  match t.ours, t.progress with
  | true, some p =>
    if p.garbled then .crashed else if p.ready && !p.failed then .made (t.entry id vol) else .failed
  | _, _ => .failed

def deleted (t : Taken) : Option Taken := if t.held then some { t with deleting := true } else none

/-- The host takes hold of it, or lets go: what is marked then goes. -/
def hold (held : Bool) (t : Taken) : Option Taken :=
  if held = false ∧ t.deleting = true then none else some { t with held := held }

end Taken

abbrev Catalogue := SnapRef → Option Taken

inductive SnapStep
  | create (req : CreateSnapshotRequest)
  | delete (id : String)
  | list (req : ListSnapshotsRequest)
  /-- The host writes the status of a snapshot. -/
  | report (name : String) (status : SnapshotStatus)
  /-- The host writes the finalizers of a snapshot. -/
  | finalize (name : String) (finalizers : List String)
  /-- The host writes the status of a backup. -/
  | backUp (ns name : String) (time : Option Nat) (requests : ResourceList) (success : Bool)

/-- A backup has its status from the start. -/
def SnapRef.fresh (vol : String) : SnapRef → Taken
  | .snapshot _ _ => ⟨true, vol, none, false, false⟩
  | .backup _ _ => ⟨true, vol, some {}, false, false⟩

def SnapRef.name : SnapRef → String
  | .snapshot _ name | .backup _ name => name

/-- The backups are not filtered by id. -/
def SnapRef.Asked (req : ListSnapshotsRequest) (e : Snapshot) : SnapRef → Prop
  | .snapshot _ _ => req.wants e = true
  | .backup _ _ => req.wantsSource e = true

def SnapshotStatus.progress (status : SnapshotStatus) : Progress where
  size := status.restoreSize.getD 0
  time := status.creationTime
  ready := status.readyToUse.getD false
  failed := status.error.isSome
  garbled := match status.error with
    | some err => err.message.isNone
    | none => status.readyToUse.getD false && status.restoreSize.isNone

namespace Catalogue

structure Lists (cs : ControllerServer) (req : ListSnapshotsRequest) (a : Catalogue)
    (ref : SnapRef) (t : Taken) : Prop where
  there : a ref = some t
  known : ref.Known cs
  ours : t.ours = true
  source : t.source ≠ ""
  named : ref.name ≠ ""
  asked : ref.Asked req (t.entry ref.id t.source)

/-- The answer to a create of what there is, or is not. A snapshot, unlike a backup, is
made only of a claim that can have one. -/
def create (cs : ControllerServer) (claims : String → Bool) (req : CreateSnapshotRequest)
    (a : Catalogue) : SnapAnswer × Catalogue :=
  match a (req.ref cs) with
  | some t => (t.answer (req.ref cs).id req.sourceVolumeId, a)
  | none =>
    (.failed, if ControllerServer.isBackupSnapshot req || claims req.sourceVolumeId then
      Function.update a (req.ref cs) (some ((req.ref cs).fresh req.sourceVolumeId)) else a)

/-- A backup of an empty name is one that nobody can ask for. -/
def delete (a : Catalogue) : SnapRef → SnapAnswer
  | .snapshot ns name => if (a (.snapshot ns name)).isSome then .failed else .done
  | .backup ns name => if (a (.backup ns name)).isNone ∧ name = "" then .failed else .done

def strike (a : Catalogue) : SnapRef → Catalogue
  | .snapshot ns name =>
    Function.update a (.snapshot ns name) ((a (.snapshot ns name)).bind Taken.deleted)
  | .backup ns name => Function.update a (.backup ns name) none

def note (a : Catalogue) (ref : SnapRef) (p : Progress) : Catalogue :=
  Function.update a ref ((a ref).map fun t => { t with progress := some p })

open Classical in
noncomputable def spec (cs : ControllerServer) (claims : String → Bool) :
    SnapStep → Catalogue → SnapAnswer × Catalogue
  | .create req, a =>
    if req.name = "" ∨ req.sourceVolumeId = "" then (.failed, a) else a.create cs claims req
  | .delete id, a =>
    if id = "" then (.failed, a) else (a.delete (.ofId cs id), a.strike (.ofId cs id))
  | .list req, a =>
    (if req.maxEntries < 0 then .failed
      else if ∀ ref t, a.Lists cs req ref t → t.progress ≠ none then
        .listed {e | ∃ ref t, a.Lists cs req ref t ∧ e = t.entry ref.id t.source}
      else .crashed, a)
  | .report name status, a => (.done, a.note (.snapshot cs.ns name) status.progress)
  | .finalize name finalizers, a =>
    (.done, Function.update a (.snapshot cs.ns name)
      ((a (.snapshot cs.ns name)).bind (Taken.hold (finalizers ≠ []))))
  | .backUp ns name time requests success, a =>
    (.done, a.note (.backup ns name) ⟨requests.storageValue, time, success, false, false⟩)

end Catalogue

-- ---------------------------------------------------------------------------
-- The driver and the host
-- ---------------------------------------------------------------------------

inductive SnapReply
  | made (entry : Snapshot)
  | done
  | listed (resp : ListSnapshotsResponse)

def VolumeRemoteBackup.reported (vrb : VolumeRemoteBackup) (time : Option Nat)
    (requests : ResourceList) (success : Bool) : VolumeRemoteBackup :=
  { vrb with creationTimestamp := time, sourceRequests := some requests, success := success }

def Cluster.report (ns name : String) (status : SnapshotStatus) (s : Cluster) : Cluster :=
  match s.snapshots.get (ns, name) with
  | some snap => { s with snapshots := s.snapshots.put { snap with status := some status } }
  | none => s

/-- A marked snapshot goes with the last of its finalizers. -/
def Cluster.finalize (ns name : String) (finalizers : List String) (s : Cluster) : Cluster :=
  match s.snapshots.get (ns, name) with
  | some snap =>
    if finalizers = [] ∧ snap.deletionTimestamp.isSome then
      { s with snapshots := s.snapshots.erase (ns, name) }
    else { s with snapshots := s.snapshots.put { snap with finalizers := finalizers } }
  | none => s

def Cluster.backUp (ns name : String) (time : Option Nat) (requests : ResourceList)
    (success : Bool) (s : Cluster) : Cluster :=
  match s.backups.get (ns, name) with
  | some vrb => { s with backups := s.backups.put (vrb.reported time requests success) }
  | none => s

def SnapStep.step (cs : ControllerServer) : SnapStep → Cluster → Outcome Err SnapReply × Cluster
  | .create req, s => run Cluster.serve (do pure (.made (← cs.createSnapshot req))) s
  | .delete id, s => run Cluster.serve (do cs.deleteSnapshot id; pure .done) s
  | .list req, s => run Cluster.serve (do pure (.listed (← cs.listSnapshots req))) s
  | .report name status, s => (.ok .done, s.report cs.ns name status)
  | .finalize name finalizers, s => (.ok .done, s.finalize cs.ns name finalizers)
  | .backUp ns name time requests success, s =>
    (.ok .done, s.backUp ns name time requests success)

/-- What a caller can tell; a listing has no order. -/
def seen : Outcome Err SnapReply → SnapAnswer
  | .ok (.made entry) => .made entry
  | .ok .done => .done
  | .ok (.listed resp) => .listed {e | e ∈ resp.entries}
  | .error _ => .failed
  | .panic => .crashed

def VolumeSnapshot.taken (snap : VolumeSnapshot) : Taken where
  ours := snap.labelled
  source := snap.sourceVolume
  progress := snap.status.map SnapshotStatus.progress
  held := snap.finalizers ≠ []
  deleting := snap.deletionTimestamp.isSome

def VolumeRemoteBackup.taken (vrb : VolumeRemoteBackup) : Taken where
  ours := true
  source := vrb.sourceVolume
  progress := some ⟨(vrb.sourceRequests.getD {}).storageValue, vrb.creationTimestamp, vrb.success,
    false, false⟩

def Cluster.catalogue (s : Cluster) : Catalogue
  | .snapshot ns name => (s.snapshots.get (ns, name)).map VolumeSnapshot.taken
  | .backup ns name => (s.backups.get (ns, name)).map VolumeRemoteBackup.taken

/-- The class for a provisioner: the default of the setting comes first. -/
def Setting.snapClass (config : Setting) (provisioner : String) : Option String :=
  match config.default with
  | .error _ => none
  | .ok csiInfo => (ControllerServer.snapClassOf csiInfo provisioner).or (match config.value with
    | .error _ => none
    | .ok csiInfo => ControllerServer.snapClassOf csiInfo provisioner)

def Snapshottable (ns v : String) (s : Cluster) : Prop :=
  ∃ pvc sc config hostSnapClass, s.pvcs.get (ns, v) = some pvc ∧ pvc.storageClassName = some sc ∧
    s.settings.get csiDriverConfig = some config ∧
    config.snapClass ((pvc.annotations.lookup annStorageProvisioner).getD "") = some hostSnapClass

def SnapStep.Whole : SnapStep → Prop
  | .list req => req.maxEntries ≤ 0 ∧ req.startingToken = ""
  | _ => True

structure Catalogue.Follows (cs : ControllerServer) (claims : String → Bool) (s : Cluster)
    (a : Catalogue) : Prop where
  entries : s.catalogue = a
  claims : ∀ v, claims v = true ↔ Snapshottable cs.ns v s

-- ---------------------------------------------------------------------------
-- Writes
-- ---------------------------------------------------------------------------

theorem Cluster.catalogue_snapshot {s t : Cluster} {o : Option VolumeSnapshot}
    (hsnapshots : ∀ key, t.snapshots.get key = if key = (ns, name) then o else s.snapshots.get key)
    (hbackups : t.backups = s.backups) :
    t.catalogue = Function.update s.catalogue (.snapshot ns name) (o.map VolumeSnapshot.taken) := by
  funext ref
  rw [Function.update_apply]
  cases ref with
  | snapshot ns' name' =>
    simp only [catalogue, hsnapshots, Prod.mk.injEq, SnapRef.snapshot.injEq]
    split <;> rfl
  | backup => simp only [catalogue, hbackups, reduceCtorEq, if_false]

theorem Cluster.catalogue_backup {s t : Cluster} {o : Option VolumeRemoteBackup}
    (hbackups : ∀ key, t.backups.get key = if key = (ns, name) then o else s.backups.get key)
    (hsnapshots : t.snapshots = s.snapshots) :
    t.catalogue =
      Function.update s.catalogue (.backup ns name) (o.map VolumeRemoteBackup.taken) := by
  funext ref
  rw [Function.update_apply]
  cases ref with
  | snapshot => simp only [catalogue, hsnapshots, reduceCtorEq, if_false]
  | backup ns' name' =>
    simp only [catalogue, hbackups, Prod.mk.injEq, SnapRef.backup.injEq]
    split <;> rfl

namespace Catalogue
section
variable {cs : ControllerServer} {claims : String → Bool} {s t : Cluster} {a : Catalogue}

theorem Follows.snapshot (h : Follows cs claims s a) {o : Option VolumeSnapshot}
    (hsnapshots : ∀ key,
      t.snapshots.get key = if key = (cs.ns, name) then o else s.snapshots.get key)
    (hbackups : t.backups = s.backups) (hpvcs : t.pvcs = s.pvcs)
    (hsettings : t.settings = s.settings) :
    Follows cs claims t
      (Function.update a (.snapshot cs.ns name) (o.map VolumeSnapshot.taken)) where
  entries := by rw [Cluster.catalogue_snapshot hsnapshots hbackups, h.entries]
  claims v := by simpa only [Snapshottable, hpvcs, hsettings] using h.claims v

theorem Follows.backup (h : Follows cs claims s a) {o : Option VolumeRemoteBackup}
    (hbackups : ∀ key, t.backups.get key = if key = (ns, name) then o else s.backups.get key)
    (hsnapshots : t.snapshots = s.snapshots) (hpvcs : t.pvcs = s.pvcs)
    (hsettings : t.settings = s.settings) :
    Follows cs claims t
      (Function.update a (.backup ns name) (o.map VolumeRemoteBackup.taken)) where
  entries := by rw [Cluster.catalogue_backup hbackups hsnapshots, h.entries]
  claims v := by simpa only [Snapshottable, hpvcs, hsettings] using h.claims v

theorem Follows.snapshot_get (h : Follows cs claims s a) (ns name : String) :
    a (.snapshot ns name) = (s.snapshots.get (ns, name)).map VolumeSnapshot.taken := by
  rw [← h.entries]
  rfl

theorem Follows.backup_get (h : Follows cs claims s a) (ns name : String) :
    a (.backup ns name) = (s.backups.get (ns, name)).map VolumeRemoteBackup.taken := by
  rw [← h.entries]
  rfl

end
end Catalogue

-- ---------------------------------------------------------------------------
-- Creating
-- ---------------------------------------------------------------------------

section
variable (cs : ControllerServer) {s : Cluster}

theorem run_getHostSnapClass (hconfig : s.settings.get csiDriverConfig = some config) {pvc : PVC}
    (hclass : config.snapClass ((pvc.annotations.lookup annStorageProvisioner).getD "") =
      some hostSnapClass) :
    run Cluster.serve (cs.getHostSnapClass pvc) s = (.ok hostSnapClass, s) := by
  simp only [ControllerServer.getHostSnapClass, request_bind, run_call, Cluster.serve, hconfig,
    found_some]
  unfold Setting.snapClass at hclass
  cases hdefault : config.default with
  | error e => simp [hdefault] at hclass
  | ok csiInfo =>
    simp only [hdefault] at hclass
    cases hfirst : ControllerServer.snapClassOf csiInfo
        ((pvc.annotations.lookup annStorageProvisioner).getD "") with
    | some name =>
      simp only [hfirst, Option.some_or, Option.some.injEq] at hclass
      simp [hfirst, hclass]
    | none =>
      simp only [hfirst, Option.none_or] at hclass
      cases hvalue : config.value with
      | error e => simp [hvalue] at hclass
      | ok csiInfo' =>
        simp only [hvalue] at hclass
        simp [hfirst, hclass]

theorem run_getHostSnapClass_none {pvc : PVC}
    (hclass : ∀ config, s.settings.get csiDriverConfig = some config →
      config.snapClass ((pvc.annotations.lookup annStorageProvisioner).getD "") = none) :
    ∃ e, run Cluster.serve (cs.getHostSnapClass pvc) s = (.error e, s) := by
  simp only [ControllerServer.getHostSnapClass, request_bind, run_call, Cluster.serve]
  cases hconfig : s.settings.get csiDriverConfig with
  | none => exact ⟨_, rfl⟩
  | some config =>
    have hnone := hclass config hconfig
    unfold Setting.snapClass at hnone
    simp only [found_some]
    cases hdefault : config.default with
    | error e => exact ⟨_, rfl⟩
    | ok csiInfo =>
      simp only [hdefault, Option.or_eq_none_iff] at hnone
      simp only [hnone.1]
      cases hvalue : config.value with
      | error e => exact ⟨_, rfl⟩
      | ok csiInfo' =>
        simp only [hvalue] at hnone
        simp only [hnone.2]
        exact ⟨_, rfl⟩

theorem generateHostSnapManifest_ok (name hostSnapClass : String)
    (hsc : pvc.storageClassName = some sc) :
    ∃ snap, cs.generateHostSnapManifest name hostSnapClass pvc = .ok snap ∧ snap.ns = cs.ns ∧
      snap.name = name ∧ snap.status = none ∧
      snap.taken = ⟨true, pvc.name, none, false, false⟩ := by
  unfold ControllerServer.generateHostSnapManifest
  simp only [hsc]
  refine ⟨_, rfl, rfl, rfl, rfl, ?_⟩
  simp [VolumeSnapshot.taken, VolumeSnapshot.labelled, VolumeSnapshot.sourceVolume, labelSnapHostSC,
    labelSnapHostVolumeMode]

/-- The first create of a name leaves the snapshot and an error. -/
theorem run_createSnapFromVolume (h : Snapshottable cs.ns vol s)
    (hnone : s.snapshots.get (cs.ns, name) = none) :
    ∃ snap msg, snap.ns = cs.ns ∧ snap.name = name ∧
      snap.taken = ⟨true, vol, none, false, false⟩ ∧
      run Cluster.serve (cs.createSnapFromVolume name vol) s =
        (.error (.status .internal msg),
          { s with rev := s.rev + 1, snapshots := s.snapshots.put snap }) := by
  obtain ⟨pvc, sc, config, hostSnapClass, hpvc, hsc, hconfig, hclass⟩ := h
  obtain rfl : pvc.name = vol := congrArg Prod.snd (Store.get_key hpvc)
  have hsnapClass := run_getHostSnapClass cs hconfig hclass
  obtain ⟨snap, hmanifest, hns, hname, hstatus, htaken⟩ :=
    generateHostSnapManifest_ok cs name hostSnapClass hsc
  refine ⟨snap, "host snap " ++ name ++ " is not ready", hns, hname, htaken, ?_⟩
  simp [ControllerServer.createSnapFromVolume, ControllerServer.generateHostSnap,
    ControllerServer.prepareSnapshotResponse, ControllerServer.checkSnapsReadiness, Cluster.serve,
    hpvc, run_bind, hsnapClass, hmanifest, hns, hname, hnone, hstatus]

theorem run_createSnapFromVolume_unfit (h : ¬ Snapshottable cs.ns vol s) (name : String) :
    ∃ e, run Cluster.serve (cs.createSnapFromVolume name vol) s = (.error e, s) := by
  simp only [ControllerServer.createSnapFromVolume, ControllerServer.generateHostSnap, request_bind,
    run_call, Cluster.serve]
  cases hpvc : s.pvcs.get (cs.ns, vol) with
  | none => exact ⟨_, rfl⟩
  | some pvc =>
    simp only [found_some, run_bind]
    by_cases hclass : ∃ config hostSnapClass, s.settings.get csiDriverConfig = some config ∧
        config.snapClass ((pvc.annotations.lookup annStorageProvisioner).getD "") =
          some hostSnapClass
    · obtain ⟨config, hostSnapClass, hconfig, hclass⟩ := hclass
      have hsc : pvc.storageClassName = none := by
        cases hsc : pvc.storageClassName with
        | none => rfl
        | some sc => exact absurd ⟨pvc, sc, config, hostSnapClass, hpvc, hsc, hconfig, hclass⟩ h
      rw [run_getHostSnapClass cs hconfig hclass]
      simp [ControllerServer.generateHostSnapManifest, hsc]
    · have hnone (config) (hconfig : s.settings.get csiDriverConfig = some config) :
          config.snapClass ((pvc.annotations.lookup annStorageProvisioner).getD "") = none := by
        cases hsome : config.snapClass ((pvc.annotations.lookup annStorageProvisioner).getD "") with
        | none => rfl
        | some hostSnapClass => exact absurd ⟨config, hostSnapClass, hconfig, hsome⟩ hclass
      obtain ⟨e, hrun⟩ := run_getHostSnapClass_none cs hnone
      rw [hrun]
      exact ⟨e, rfl⟩

theorem validateHostSnapLabels_error (h : cs.validateHostSnapLabels snap = .error e) :
    e.isNotFound = false := by
  unfold ControllerServer.validateHostSnapLabels at h
  split at h
  · cases h
    rfl
  · split at h
    · cases h
    · cases h
      rfl

theorem run_checkSnapsReadiness (hget : s.snapshots.get (cs.ns, name) = some snap) :
    run Cluster.serve (cs.checkSnapsReadiness name) s =
      (match snap.taken.progress with
        | none => .ok false
        | some p => if p.garbled then .panic else .ok (p.ready && !p.failed), s) := by
  simp only [ControllerServer.checkSnapsReadiness, request_bind, run_call, Cluster.serve, hget,
    found_some, VolumeSnapshot.taken]
  cases hstatus : snap.status with
  | none => rfl
  | some status =>
    simp only [Option.map_some, SnapshotStatus.progress]
    cases status.error with
    | some err => cases hmessage : err.message <;> simp [hmessage]
    | none =>
      rcases status.readyToUse with - | - | -
      · simp
      · simp
      · cases hsize : status.restoreSize <;> simp

def told : Outcome Err Snapshot → SnapAnswer
  | .ok entry => .made entry
  | .error _ => .failed
  | .panic => .crashed

/-- A snapshot that is there is the answer, whatever it was taken of. -/
theorem run_handleLocalSnap_there (hname : name ≠ "") (hvol : vol ≠ "")
    (hget : s.snapshots.get (cs.ns, name) = some snap) :
    ∃ o, run Cluster.serve (cs.handleLocalSnap name vol) s = (o, s) ∧
      told o = snap.taken.answer name vol := by
  have hsnap : snap.name = name := congrArg Prod.snd (Store.get_key hget)
  have hcheck := run_checkSnapsReadiness cs hget
  simp only [ControllerServer.handleLocalSnap, ControllerServer.handleExistingLocalSnap,
    request_bind, call_orElse, run_call, Cluster.serve, hget, found_some]
  rcases validateHostSnapLabels_cases cs snap with ⟨hlabelled, hvalid⟩ | ⟨hlabelled, e, hvalid⟩
  · simp only [hvalid, ok_bind, hsnap, ControllerServer.prepareSnapshotResponse, run_orElse,
      run_bind, hcheck]
    have hours : snap.taken.ours = true := hlabelled
    unfold Taken.answer
    cases hstatus : snap.status with
    | none =>
      have hprogress : snap.taken.progress = none := by simp [VolumeSnapshot.taken, hstatus]
      simp only [hprogress, hours]
      exact ⟨_, rfl, rfl⟩
    | some status =>
      have hprogress : snap.taken.progress = some status.progress := by
        simp [VolumeSnapshot.taken, hstatus]
      simp only [hprogress, hours]
      cases status.progress.garbled with
      | true => exact ⟨_, rfl, rfl⟩
      | false =>
        cases hready : status.progress.ready && !status.progress.failed with
        | true =>
          refine ⟨.ok (snap.taken.entry name vol), ?_, rfl⟩
          simp [Cluster.serve, hget, hvalid, ControllerServer.convertVolumeSnapshotToCSI, hsnap,
            hname, hvol, hstatus, Taken.entry, hprogress, SnapshotStatus.progress]
        | false => exact ⟨_, rfl, rfl⟩
  · refine ⟨.error e, ?_, ?_⟩
    · simp [hvalid, validateHostSnapLabels_error cs hvalid]
    · simp [told, Taken.answer, VolumeSnapshot.taken, hlabelled]

theorem run_handleLocalSnap_none (vol : String) (hname : name ≠ "")
    (hget : s.snapshots.get (cs.ns, name) = none) :
    run Cluster.serve (cs.handleLocalSnap name vol) s =
      run Cluster.serve (cs.createSnapFromVolume name vol) s := by
  simp [ControllerServer.handleLocalSnap, ControllerServer.handleExistingLocalSnap, Cluster.serve,
    hget, Err.isNotFound, missing_of_ne hname, notFound]

theorem run_handleBackupSnap_there (hname : name ≠ "") (hvol : vol ≠ "")
    (hget : s.backups.get (cs.ns, name) = some vrb) :
    ∃ o, run Cluster.serve (cs.handleBackupSnap name vol) s = (o, s) ∧
      told o = vrb.taken.answer (formatBackupSnapshotID cs.ns name) vol := by
  obtain ⟨hns, hvrb⟩ : vrb.ns = cs.ns ∧ vrb.name = name := by
    simpa using Store.get_key hget
  simp only [ControllerServer.handleBackupSnap, ControllerServer.handleExistingBackupSnap,
    ControllerServer.prepareBackupSnapResponse, ControllerServer.checkVolumeRemoteBackupReadiness,
    request_bind, call_orElse, run_call, Cluster.serve, hget, found_some, hvrb, call_bind]
  cases hready : vrb.success with
  | true =>
    refine ⟨.ok (vrb.taken.entry (formatBackupSnapshotID cs.ns name) vol), ?_, ?_⟩
    · simp [Cluster.serve, hget, ControllerServer.convertVolumeRemoteBackupToCSI, hns, hvrb, hname,
        hvol, hready, Taken.entry, VolumeRemoteBackup.taken]
    · simp [told, Taken.answer, VolumeRemoteBackup.taken, hready]
  | false =>
    refine ⟨.error (.status .internal ("VolumeRemoteBackup " ++ name ++ " is not ready")), ?_, ?_⟩
    · simp [Err.isNotFound]
    · simp [told, Taken.answer, VolumeRemoteBackup.taken, hready]

theorem run_handleBackupSnap_none (vol : String) (hname : name ≠ "")
    (hget : s.backups.get (cs.ns, name) = none) :
    ∃ e, run Cluster.serve (cs.handleBackupSnap name vol) s =
      (.error e, { s with
        rev := s.rev + 1
        backups := s.backups.put (cs.buildHostVolumeRemoteBackup name vol lhBackup) }) := by
  simp [ControllerServer.handleBackupSnap, ControllerServer.handleExistingBackupSnap,
    ControllerServer.createHostVolumeRemoteBackupFromReq,
    ControllerServer.generateHostVolumeRemoteBackup, ControllerServer.prepareBackupSnapResponse,
    ControllerServer.checkVolumeRemoteBackupReadiness,
    ControllerServer.buildHostVolumeRemoteBackup, Cluster.serve, hget, Err.isNotFound,
    missing_of_ne hname, notFound]

end

theorem seen_made {p : Api Snapshot} (h : run Cluster.serve p s = (o, t)) :
    seen (run Cluster.serve (do pure (SnapReply.made (← p))) s).1 = told o ∧
      (run Cluster.serve (do pure (SnapReply.made (← p))) s).2 = t := by
  rw [run_bind, h]
  cases o <;> exact ⟨rfl, rfl⟩

namespace Catalogue
section
variable {cs : ControllerServer} {claims : String → Bool} {s : Cluster} {a : Catalogue}

theorem update_none (a : Catalogue) (h : a ref = none) : Function.update a ref none = a := by
  rw [← h, Function.update_eq_self]

theorem Follows.create_of_run (hrun : run Cluster.serve (cs.createSnapshot req) s = (o, t))
    (htold : told o = (a.create cs claims req).1)
    (h : Follows cs claims t (a.create cs claims req).2) :
    seen (SnapStep.step cs (.create req) s).1 = (a.create cs claims req).1 ∧
      Follows cs claims (SnapStep.step cs (.create req) s).2 (a.create cs claims req).2 := by
  obtain ⟨hseen, hlast⟩ := seen_made hrun
  exact ⟨hseen.trans htold, hlast.symm ▸ h⟩

theorem Follows.create_there (h : Follows cs claims s a) (hthere : a (req.ref cs) = some t)
    (hrun : ∃ o, run Cluster.serve (cs.createSnapshot req) s = (o, s) ∧
      told o = t.answer (req.ref cs).id req.sourceVolumeId) :
    seen (SnapStep.step cs (.create req) s).1 = (a.create cs claims req).1 ∧
      Follows cs claims (SnapStep.step cs (.create req) s).2 (a.create cs claims req).2 := by
  obtain ⟨o, hrun, htold⟩ := hrun
  refine Follows.create_of_run hrun ?_ ?_
  · simpa only [Catalogue.create, hthere] using htold
  · simpa only [Catalogue.create, hthere] using h

theorem Follows.create_backup (h : Follows cs claims s a) (hname : req.name ≠ "")
    (hvol : req.sourceVolumeId ≠ "") (hbackup : ControllerServer.isBackupSnapshot req = true) :
    seen (SnapStep.step cs (.create req) s).1 = (a.create cs claims req).1 ∧
      Follows cs claims (SnapStep.step cs (.create req) s).2 (a.create cs claims req).2 := by
  have href : req.ref cs = .backup cs.ns req.name := if_pos hbackup
  have hentry := h.backup_get cs.ns req.name
  have heq : cs.createSnapshot req = _ := createSnapshot_eq hname hvol
  rw [hbackup, if_pos rfl] at heq
  cases hget : s.backups.get (cs.ns, req.name) with
  | some vrb =>
    rw [hget, ← href] at hentry
    refine h.create_there hentry ?_
    rw [heq, href]
    exact run_handleBackupSnap_there cs hname hvol hget
  | none =>
    rw [hget, ← href] at hentry
    obtain ⟨e, hrun⟩ := run_handleBackupSnap_none cs req.sourceVolumeId hname hget
    rw [← heq] at hrun
    refine Follows.create_of_run hrun ?_ ?_
    · simp only [Catalogue.create, hentry, Option.map_none, told]
    · simp only [Catalogue.create, hentry, Option.map_none, hbackup, Bool.true_or, if_true]
      rw [href]
      refine h.backup
        (o := some (cs.buildHostVolumeRemoteBackup req.name req.sourceVolumeId lhBackup)) ?_
        rfl rfl rfl
      exact fun key => Store.get_put s.backups _ key

theorem Follows.create_local (h : Follows cs claims s a) (hname : req.name ≠ "")
    (hvol : req.sourceVolumeId ≠ "") (hlocal : ControllerServer.isBackupSnapshot req = false) :
    seen (SnapStep.step cs (.create req) s).1 = (a.create cs claims req).1 ∧
      Follows cs claims (SnapStep.step cs (.create req) s).2 (a.create cs claims req).2 := by
  have href : req.ref cs = .snapshot cs.ns req.name := if_neg (by simp [hlocal])
  have hentry := h.snapshot_get cs.ns req.name
  have heq : cs.createSnapshot req = _ := createSnapshot_eq hname hvol
  rw [hlocal, if_neg Bool.false_ne_true] at heq
  cases hget : s.snapshots.get (cs.ns, req.name) with
  | some snap =>
    rw [hget, ← href] at hentry
    refine h.create_there hentry ?_
    rw [heq, href]
    exact run_handleLocalSnap_there cs hname hvol hget
  | none =>
    rw [hget, ← href] at hentry
    have hsame := run_handleLocalSnap_none cs req.sourceVolumeId hname hget
    rw [← heq] at hsame
    by_cases hclaim : claims req.sourceVolumeId = true
    · obtain ⟨snap, msg, hns, hsnap, htaken, hrun⟩ :=
        run_createSnapFromVolume cs ((h.claims _).mp hclaim) hget
      refine Follows.create_of_run (hsame.trans hrun) ?_ ?_
      · simp only [Catalogue.create, hentry, Option.map_none, told]
      · simp only [Catalogue.create, hentry, Option.map_none, hclaim, Bool.or_true, if_true]
        rw [href, SnapRef.fresh, ← htaken]
        refine h.snapshot (o := some snap) ?_ rfl rfl rfl
        intro key
        rw [Store.get_put, hns, hsnap]
    · obtain ⟨e, hrun⟩ := run_createSnapFromVolume_unfit cs (mt (h.claims _).mpr hclaim) req.name
      refine Follows.create_of_run (hsame.trans hrun) ?_ ?_
      · simp only [Catalogue.create, hentry, Option.map_none, told]
      · simpa [Catalogue.create, hentry, hlocal, hclaim] using h

theorem Follows.create (h : Follows cs claims s a) (req : CreateSnapshotRequest) :
    seen (SnapStep.step cs (.create req) s).1 = (spec cs claims (.create req) a).1 ∧
      Follows cs claims (SnapStep.step cs (.create req) s).2
        (spec cs claims (.create req) a).2 := by
  simp only [spec]
  split
  · rename_i hempty
    have hrun : ∃ e, cs.createSnapshot req = .error e := by
      unfold ControllerServer.createSnapshot ControllerServer.validateCreateSnapshotRequest
      by_cases hname : req.name = ""
      · exact ⟨_, by rw [if_pos hname]; rfl⟩
      · exact ⟨_, by rw [if_neg hname, if_pos (hempty.resolve_left hname)]; rfl⟩
    obtain ⟨e, hrun⟩ := hrun
    simp only [SnapStep.step, hrun]
    exact ⟨rfl, h⟩
  · rename_i hnamed
    obtain ⟨hname, hvol⟩ := not_or.mp hnamed
    cases hbackup : ControllerServer.isBackupSnapshot req with
    | true => exact h.create_backup hname hvol hbackup
    | false => exact h.create_local hname hvol hbackup

-- ---------------------------------------------------------------------------
-- Deleting, and what the host writes
-- ---------------------------------------------------------------------------

theorem Follows.removeSnapshot (h : Follows cs claims s a)
    (hget : s.snapshots.get (cs.ns, name) = some snap) :
    Follows cs claims (s.removeSnapshot snap)
      (Function.update a (.snapshot cs.ns name) snap.taken.deleted) := by
  have hkey := Store.get_key hget
  by_cases hheld : snap.finalizers = []
  · have hgone : snap.taken.deleted = none := by simp [Taken.deleted, VolumeSnapshot.taken, hheld]
    rw [hgone]
    refine h.snapshot (o := none) ?_ rfl rfl rfl
    intro key
    simp only [Cluster.removeSnapshot, if_pos hheld, Store.get_erase, hkey]
  · have hheld' : snap.taken.held = true := by simp [VolumeSnapshot.taken, hheld]
    rw [Taken.deleted, if_pos hheld']
    refine h.snapshot (o := some { snap with
      deletionTimestamp := some (snap.deletionTimestamp.getD s.rev) }) ?_ rfl rfl rfl
    intro key
    simp only [Cluster.removeSnapshot, if_neg hheld, Store.get_put, hkey]

theorem Follows.delete_local {id : String} (h : Follows cs claims s a) (hid : id ≠ "")
    (hparse : parseSnapshotID id = (false, "", id)) :
    seen (SnapStep.step cs (.delete id) s).1 = a.delete (.snapshot cs.ns id) ∧
      Follows cs claims (SnapStep.step cs (.delete id) s).2 (a.strike (.snapshot cs.ns id)) := by
  have hentry := h.snapshot_get cs.ns id
  simp only [SnapStep.step, ControllerServer.deleteSnapshot, if_neg hid, hparse,
    ControllerServer.handleLocalSnapDeletion, request_bind, call_bind, run_call, Cluster.serve,
    Catalogue.delete, strike]
  cases hget : s.snapshots.get (cs.ns, id) with
  | none =>
    rw [hget] at hentry
    simp only [hentry, Option.map_none, Option.bind_none, update_none a hentry, missing_of_ne hid]
    exact ⟨rfl, h⟩
  | some snap =>
    rw [hget] at hentry
    simp only [hentry, Option.map_some, Option.bind_some]
    exact ⟨rfl, h.removeSnapshot hget⟩

theorem Follows.delete_backup {id : String} (h : Follows cs claims s a) (hid : id ≠ "")
    (hparse : parseSnapshotID id = (true, ns, name)) :
    seen (SnapStep.step cs (.delete id) s).1 = a.delete (.backup ns name) ∧
      Follows cs claims (SnapStep.step cs (.delete id) s).2 (a.strike (.backup ns name)) := by
  have hentry := h.backup_get ns name
  simp only [SnapStep.step, ControllerServer.deleteSnapshot, if_neg hid, hparse,
    ControllerServer.handleBackupSnapDeletion, request_bind, call_bind, run_call, Cluster.serve,
    Catalogue.delete, strike]
  cases hget : s.backups.get (ns, name) with
  | none =>
    rw [hget] at hentry
    rw [update_none a hentry]
    by_cases hname : name = ""
    · subst hname
      simp only [hentry]
      exact ⟨rfl, h⟩
    · simp only [hentry, missing_of_ne hname, hname]
      exact ⟨rfl, h⟩
  | some vrb =>
    rw [hget] at hentry
    simp only [hentry]
    refine ⟨rfl, h.backup (o := none) ?_ rfl rfl rfl⟩
    exact fun key => Store.get_erase s.backups _ key

theorem Follows.delete (h : Follows cs claims s a) (id : String) :
    seen (SnapStep.step cs (.delete id) s).1 = (spec cs claims (.delete id) a).1 ∧
      Follows cs claims (SnapStep.step cs (.delete id) s).2 (spec cs claims (.delete id) a).2 := by
  simp only [spec]
  split
  · rename_i hempty
    simp only [SnapStep.step, ControllerServer.deleteSnapshot, if_pos hempty]
    exact ⟨rfl, h⟩
  · rename_i hid
    unfold SnapRef.ofId
    rcases parse_cases id with ⟨ns, name, hparse, -, -⟩ | hparse
    · rw [hparse]
      exact h.delete_backup hid hparse
    · rw [hparse]
      exact h.delete_local hid hparse

theorem Follows.report (h : Follows cs claims s a) (name : String) (status : SnapshotStatus) :
    Follows cs claims (s.report cs.ns name status)
      (a.note (.snapshot cs.ns name) status.progress) := by
  have hentry := h.snapshot_get cs.ns name
  unfold Cluster.report Catalogue.note
  cases hget : s.snapshots.get (cs.ns, name) with
  | none =>
    rw [hget] at hentry
    rwa [hentry, Option.map_none, Option.map_none, update_none a hentry]
  | some snap =>
    rw [hentry, hget]
    refine h.snapshot (o := some { snap with status := some status }) ?_ rfl rfl rfl
    intro key
    rw [Store.get_put, Store.get_key hget]

theorem Follows.finalize (h : Follows cs claims s a) (name : String) (finalizers : List String) :
    Follows cs claims (s.finalize cs.ns name finalizers)
      (Function.update a (.snapshot cs.ns name)
        ((a (.snapshot cs.ns name)).bind (Taken.hold (finalizers ≠ [])))) := by
  have hentry := h.snapshot_get cs.ns name
  unfold Cluster.finalize
  cases hget : s.snapshots.get (cs.ns, name) with
  | none =>
    rw [hget] at hentry
    rwa [hentry, Option.map_none, Option.bind_none, update_none a hentry]
  | some snap =>
    rw [hentry, hget, Option.map_some, Option.bind_some]
    by_cases hlast : finalizers = [] ∧ snap.deletionTimestamp.isSome = true
    · have hgone : snap.taken.hold (finalizers ≠ []) = none := by
        simp [Taken.hold, VolumeSnapshot.taken, hlast]
      simp only [if_pos hlast]
      rw [hgone]
      exact h.snapshot (o := none) (fun key => Store.get_erase s.snapshots _ key) rfl rfl rfl
    · have hheld : snap.taken.hold (finalizers ≠ []) =
          some (VolumeSnapshot.taken { snap with finalizers := finalizers }) := by
        simp only [Taken.hold, VolumeSnapshot.taken, decide_eq_false_iff_not, ne_eq, not_not]
        exact if_neg hlast
      simp only [if_neg hlast]
      rw [hheld]
      refine h.snapshot (o := some { snap with finalizers := finalizers }) ?_ rfl rfl rfl
      intro key
      rw [Store.get_put, Store.get_key hget]

theorem Follows.backUp (h : Follows cs claims s a) (ns name : String) (time : Option Nat)
    (requests : ResourceList) (success : Bool) :
    Follows cs claims (s.backUp ns name time requests success)
      (a.note (.backup ns name) ⟨requests.storageValue, time, success, false, false⟩) := by
  have hentry := h.backup_get ns name
  unfold Cluster.backUp Catalogue.note
  cases hget : s.backups.get (ns, name) with
  | none =>
    rw [hget] at hentry
    rwa [hentry, Option.map_none, Option.map_none, update_none a hentry]
  | some vrb =>
    rw [hentry, hget]
    refine h.backup (o := some (vrb.reported time requests success)) ?_ rfl rfl rfl
    intro key
    rw [Store.get_put]
    exact if_congr (by rw [← Store.get_key hget]; rfl) rfl rfl

-- ---------------------------------------------------------------------------
-- Listing
-- ---------------------------------------------------------------------------

theorem mem_hostSnaps {snap : VolumeSnapshot} :
    snap ∈ hostSnaps cs s ↔ snap.ns = cs.ns ∧ s.snapshots.get (snap.ns, snap.name) = some snap := by
  simp [hostSnaps, Store.get_eq_some, and_comm]

theorem entry_taken (snap : VolumeSnapshot) :
    snap.taken.entry snap.name snap.sourceVolume = snap.entry := by
  cases hstatus : snap.status <;>
    simp [Taken.entry, VolumeSnapshot.entry, VolumeSnapshot.taken, hstatus,
      SnapshotStatus.progress]

theorem Follows.lists_snapshot (h : Follows cs claims s a) {req : ListSnapshotsRequest} :
    a.Lists cs req (.snapshot ns name) t ↔ ∃ snap ∈ hostSnaps cs s, snap.ns = ns ∧
      snap.name = name ∧ snap.taken = t ∧ snap.owned = true ∧ req.wants snap.entry = true := by
  constructor
  · rintro ⟨hthere, hknown, hours, hsource, hnamed, hasked⟩
    rw [h.snapshot_get] at hthere
    obtain ⟨snap, hget, rfl⟩ := Option.map_eq_some_iff.mp hthere
    obtain ⟨rfl, rfl⟩ : snap.ns = ns ∧ snap.name = name := by simpa using Store.get_key hget
    refine ⟨snap, mem_hostSnaps.mpr ⟨hknown, hget⟩, rfl, rfl, rfl, ?_, ?_⟩
    · exact (owned_iff snap).mpr ⟨hours, hsource, hnamed⟩
    · rw [← entry_taken]
      exact hasked
  · rintro ⟨snap, hmem, rfl, rfl, rfl, howned, hwants⟩
    obtain ⟨hns, hget⟩ := mem_hostSnaps.mp hmem
    obtain ⟨hlabelled, hsource, hnamed⟩ := (owned_iff snap).mp howned
    refine ⟨by rw [h.snapshot_get, hget]; rfl, hns, hlabelled, hsource, hnamed, ?_⟩
    rw [← entry_taken] at hwants
    exact hwants

theorem Follows.lists_backup (h : Follows cs claims s a) {req : ListSnapshotsRequest} :
    a.Lists cs req (.backup ns name) t ↔ ∃ vrb ∈ s.backups.items, vrb.ns = ns ∧
      vrb.name = name ∧ vrb.taken = t ∧ vrb.owned = true ∧ req.wantsSource vrb.entry = true := by
  constructor
  · rintro ⟨hthere, -, -, hsource, hnamed, hasked⟩
    rw [h.backup_get] at hthere
    obtain ⟨vrb, hget, rfl⟩ := Option.map_eq_some_iff.mp hthere
    obtain ⟨hmem, hkey⟩ := Store.get_eq_some.mp hget
    obtain ⟨rfl, rfl⟩ : vrb.ns = ns ∧ vrb.name = name := by simpa using hkey
    exact ⟨vrb, hmem, rfl, rfl, rfl, (backup_owned_iff vrb).mpr ⟨hsource, hnamed⟩, hasked⟩
  · rintro ⟨vrb, hmem, rfl, rfl, rfl, howned, hwants⟩
    obtain ⟨hsource, hnamed⟩ := (backup_owned_iff vrb).mp howned
    have hget : s.backups.get (vrb.ns, vrb.name) = some vrb := Store.get_eq_some.mpr ⟨hmem, rfl⟩
    exact ⟨by rw [h.backup_get, hget]; rfl, trivial, rfl, hsource, hnamed, hwants⟩

theorem Follows.mem_listed (h : Follows cs claims s a) (req : ListSnapshotsRequest) (e : Snapshot) :
    e ∈ (snapshotEntries (hostSnaps cs s)).filter req.wants ++
        (backupEntries s).filter req.wantsSource ↔
      ∃ ref t, a.Lists cs req ref t ∧ e = t.entry ref.id t.source := by
  simp only [List.mem_append, List.mem_filter, snapshotEntries, backupEntries, List.mem_map]
  constructor
  · rintro (⟨⟨snap, ⟨hmem, howned⟩, rfl⟩, hwants⟩ | ⟨⟨vrb, ⟨hmem, howned⟩, rfl⟩, hwants⟩)
    · exact ⟨.snapshot snap.ns snap.name, snap.taken,
        h.lists_snapshot.mpr ⟨snap, hmem, rfl, rfl, rfl, howned, hwants⟩, (entry_taken snap).symm⟩
    · exact ⟨.backup vrb.ns vrb.name, vrb.taken,
        h.lists_backup.mpr ⟨vrb, hmem, rfl, rfl, rfl, howned, hwants⟩, rfl⟩
  · rintro ⟨ref, t, hlists, rfl⟩
    cases ref with
    | snapshot ns name =>
      obtain ⟨snap, hmem, rfl, rfl, rfl, howned, hwants⟩ := h.lists_snapshot.mp hlists
      refine .inl ⟨⟨snap, ⟨hmem, howned⟩, (entry_taken snap).symm⟩, ?_⟩
      exact (entry_taken snap).symm ▸ hwants
    | backup ns name =>
      obtain ⟨vrb, hmem, rfl, rfl, rfl, howned, hwants⟩ := h.lists_backup.mp hlists
      exact .inr ⟨⟨vrb, ⟨hmem, howned⟩, rfl⟩, hwants⟩

theorem Follows.list (h : Follows cs claims s a) {req : ListSnapshotsRequest}
    (hmax : req.maxEntries ≤ 0) (htoken : req.startingToken = "") :
    seen (SnapStep.step cs (.list req) s).1 = (spec cs claims (.list req) a).1 ∧
      (SnapStep.step cs (.list req) s).2 = s := by
  have hpage : page s.pager (hostSnaps cs s) ⟨req.maxEntries.toNat, req.startingToken⟩ =
      .ok (hostSnaps cs s, "") := by
    simp [page, hmax, htoken]
  simp only [SnapStep.step, run_bind, spec]
  by_cases hneg : req.maxEntries < 0
  · simp only [if_pos hneg, ControllerServer.listSnapshots,
      ControllerServer.validateListSnapshotsRequest]
    exact ⟨rfl, rfl⟩
  rw [if_neg hneg]
  by_cases hall : ∀ ref t, a.Lists cs req ref t → t.progress ≠ none
  · have hstatus : ∀ snap ∈ hostSnaps cs s, snap.owned = true → req.wants snap.entry = true →
        snap.status ≠ none := by
      intro snap hmem howned hwants hnone
      refine hall _ _ (h.lists_snapshot.mpr ⟨snap, hmem, rfl, rfl, rfl, howned, hwants⟩) ?_
      simp [VolumeSnapshot.taken, hnone]
    rw [run_listSnapshots_ok (by omega) hpage hstatus, if_pos hall]
    refine ⟨congrArg SnapAnswer.listed (Set.ext fun e => ?_), rfl⟩
    exact h.mem_listed req e
  · rw [if_neg hall]
    simp only [not_forall, not_not] at hall
    obtain ⟨ref, t, hlists, hnone⟩ := hall
    cases ref with
    | snapshot ns name =>
      obtain ⟨snap, hmem, -, -, rfl, howned, hwants⟩ := h.lists_snapshot.mp hlists
      have hstatus : snap.status = none := by simpa [VolumeSnapshot.taken] using hnone
      rw [run_listSnapshots_panic (by omega) hpage hmem howned hwants hstatus]
      exact ⟨rfl, rfl⟩
    | backup ns name =>
      obtain ⟨vrb, -, -, -, rfl, -, -⟩ := h.lists_backup.mp hlists
      cases hnone

-- ---------------------------------------------------------------------------
-- Whole histories
-- ---------------------------------------------------------------------------

theorem refines (cs : ControllerServer) (claims : String → Bool) :
    Refines (SnapStep.step cs) (spec cs claims) SnapStep.Whole seen (Follows cs claims) := by
  have hstep (i : SnapStep) (s a) (hi : i.Whole) (h : Follows cs claims s a) :
      seen (i.step cs s).1 = (spec cs claims i a).1 ∧
        Follows cs claims (i.step cs s).2 (spec cs claims i a).2 := by
    cases i with
    | create req => exact h.create req
    | delete id => exact h.delete id
    | list req =>
      obtain ⟨hanswer, hsame⟩ := h.list hi.1 hi.2
      exact ⟨hanswer, hsame.symm ▸ h⟩
    | report name status => exact ⟨rfl, h.report name status⟩
    | finalize name finalizers => exact ⟨rfl, h.finalize name finalizers⟩
    | backUp ns name time requests success =>
      exact ⟨rfl, h.backUp ns name time requests success⟩
  exact ⟨fun i s a hi h => (hstep i s a hi h).1, fun i s a hi h => (hstep i s a hi h).2⟩

end
end Catalogue

def catalogueHost : Cluster :=
  { Cluster.empty.setPVC {
      ns := "ns"
      name := "v"
      annotations := [(annStorageProvisioner, "driver.longhorn.io")]
      storageClassName := some "longhorn" } with
    settings := Cluster.empty.settings.put {
      name := csiDriverConfig
      default := .ok [("driver.longhorn.io", "longhorn-snapshot")] } }

def catalogueClaims (v : String) : Bool := v = "v"

theorem catalogueHost_follows :
    Catalogue.Follows exampleServer catalogueClaims catalogueHost fun _ => none where
  entries := by
    funext ref
    cases ref <;> rfl
  claims v := by
    constructor
    · intro hv
      obtain rfl : v = "v" := by simpa [catalogueClaims] using hv
      exact ⟨_, _, _, "longhorn-snapshot", rfl, rfl, rfl, rfl⟩
    · rintro ⟨pvc, -, -, -, hpvc, -⟩
      by_contra hv
      have hne : v ≠ "v" := by simpa [catalogueClaims] using hv
      simp [catalogueHost, Cluster.setPVC, exampleServer, hne, Cluster.empty] at hpvc

def SnapshotStatus.whole (size : Int64) (time : Option Nat) : SnapshotStatus where
  creationTime := time
  readyToUse := some true
  restoreSize := some size

def attempts (req : CreateSnapshotRequest) (early : List (SnapshotStatus × Nat)) : List SnapStep :=
  early.flatMap fun r => .report req.name r.1 :: List.replicate r.2 (.create req)

/-- The caller creates until that succeeds, and again, and deletes until that succeeds,
and again. The host takes hold of the snapshot, reports on it, and lets go of it once it
is to be deleted. -/
def snapshotLife (req : CreateSnapshotRequest) (finalizers : List String)
    (early : List (SnapshotStatus × Nat)) (size : Int64) (time : Option Nat)
    (creates again deletes later : Nat) : List SnapStep :=
  .create req :: List.replicate creates (.create req) ++
    .finalize req.name finalizers :: attempts req early ++
    .report req.name (.whole size time) :: List.replicate again (.create req) ++
    .delete req.name :: List.replicate deletes (.delete req.name) ++
    .finalize req.name [] :: List.replicate later (.delete req.name)

/-- What the caller is told: nothing but failures until the snapshot is ready, the
snapshot from then on, failures until it is gone, success from then on. -/
def lifeAnswers (req : CreateSnapshotRequest) (early : List (SnapshotStatus × Nat)) (size : Int64)
    (time : Option Nat) (creates again deletes later : Nat) : List SnapAnswer :=
  .failed :: List.replicate creates .failed ++
    .done :: early.flatMap (fun r => .done :: List.replicate r.2 .failed) ++
    .done :: List.replicate again (.made ⟨req.name, req.sourceVolumeId, size, time, true⟩) ++
    .failed :: List.replicate deletes .failed ++
    .done :: List.replicate later .done

/-- A report that does not make the snapshot ready, and can be read. -/
def Progress.Early (p : Progress) : Prop := p.garbled = false ∧ (p.ready = true → p.failed = true)

namespace Catalogue
section
variable {cs : ControllerServer} {claims : String → Bool} {a : Catalogue}
  {req : CreateSnapshotRequest}

def enter (a : Catalogue) (cs : ControllerServer) (name : String) (t : Taken) : Catalogue :=
  Function.update a (.snapshot cs.ns name) (some t)

theorem spec_create_enter (hname : req.name ≠ "") (hvol : req.sourceVolumeId ≠ "")
    (hlocal : ControllerServer.isBackupSnapshot req = false) (t : Taken) :
    spec cs claims (.create req) (a.enter cs req.name t) =
      (t.answer req.name req.sourceVolumeId, a.enter cs req.name t) := by
  have href : req.ref cs = .snapshot cs.ns req.name := if_neg (by simp [hlocal])
  simp [spec, Catalogue.create, href, Catalogue.enter, hname, hvol, SnapRef.id]

theorem spec_report_enter (name : String) (status : SnapshotStatus) (t : Taken) :
    spec cs claims (.report name status) (a.enter cs name t) =
      (.done, a.enter cs name { t with progress := some status.progress }) := by
  simp [spec, note, Catalogue.enter]

theorem trace_attempts (cs : ControllerServer) (a : Catalogue) (claims : String → Bool)
    (hname : req.name ≠ "") (hvol : req.sourceVolumeId ≠ "")
    (hlocal : ControllerServer.isBackupSnapshot req = false) {early : List (SnapshotStatus × Nat)}
    (hearly : ∀ r ∈ early, r.1.progress.Early) (t : Taken) :
    ∃ progress, trace (spec cs claims) (attempts req early) (a.enter cs req.name t) =
      (early.flatMap (fun r => .done :: List.replicate r.2 .failed),
        a.enter cs req.name { t with progress := progress }) := by
  induction early generalizing t with
  | nil => exact ⟨t.progress, rfl⟩
  | cons r rest ih =>
    obtain ⟨hr, hrest⟩ := List.forall_mem_cons.mp hearly
    let t' : Taken := { t with progress := some r.1.progress }
    have hwaits : spec cs claims (.create req) (a.enter cs req.name t') =
        (.failed, a.enter cs req.name t') := by
      rw [spec_create_enter hname hvol hlocal]
      have hready : (r.1.progress.ready && !r.1.progress.failed) = false := by
        cases hready : r.1.progress.ready with
        | false => rfl
        | true => simp [hr.2 hready]
      cases hours : t.ours <;> simp [Taken.answer, t', hours, hr.1, hready]
    obtain ⟨progress, hrun⟩ := ih hrest t'
    refine ⟨progress, ?_⟩
    rw [attempts, List.flatMap_cons, List.flatMap_cons, ← attempts, List.cons_append, trace,
      spec_report_enter, trace_append, trace_replicate hwaits, hrun]
    rfl

end
end Catalogue

theorem SnapRef.ofId_of_named {id : String} (cs : ControllerServer)
    (h : (SnapRef.snapshot cs.ns id).Named) :
    SnapRef.ofId cs id = .snapshot cs.ns id := by
  rw [ofId, parse_name h.2.1]

theorem Catalogue.trace_snapshotLife {cs : ControllerServer} {a : Catalogue}
    {claims : String → Bool} {req : CreateSnapshotRequest}
    (hnamed : (SnapRef.snapshot cs.ns req.name).Named) (hvol : req.sourceVolumeId ≠ "")
    (hlocal : ControllerServer.isBackupSnapshot req = false)
    (hclaim : claims req.sourceVolumeId = true) (hfree : a (.snapshot cs.ns req.name) = none)
    {finalizers : List String} (hheld : finalizers ≠ [])
    {early : List (SnapshotStatus × Nat)} (hearly : ∀ r ∈ early, r.1.progress.Early)
    (size : Int64) (time : Option Nat) (creates again deletes later : Nat) :
    trace (spec cs claims)
        (snapshotLife req finalizers early size time creates again deletes later) a =
      (lifeAnswers req early size time creates again deletes later, a) := by
  have hname : req.name ≠ "" := hnamed.1
  have href : req.ref cs = .snapshot cs.ns req.name := if_neg (by simp [hlocal])
  let fresh : Taken := ⟨true, req.sourceVolumeId, none, false, false⟩
  have hfirst : spec cs claims (.create req) a = (.failed, a.enter cs req.name fresh) := by
    simp [spec, Catalogue.create, hname, hvol, href, hfree, hclaim, SnapRef.fresh, fresh,
      Catalogue.enter]
  have hwaits : spec cs claims (.create req) (a.enter cs req.name fresh) =
      (.failed, a.enter cs req.name fresh) := spec_create_enter hname hvol hlocal fresh
  have hhold : spec cs claims (.finalize req.name finalizers) (a.enter cs req.name fresh) =
      (.done, a.enter cs req.name { fresh with held := true }) := by
    simp [spec, Catalogue.enter, Taken.hold, hheld, fresh]
  obtain ⟨progress, hearly⟩ := trace_attempts cs a claims hname hvol hlocal hearly
    { fresh with held := true }
  let whole : Taken :=
    ⟨true, req.sourceVolumeId, some (SnapshotStatus.whole size time).progress, true, false⟩
  have hreport : spec cs claims (.report req.name (.whole size time))
      (a.enter cs req.name { fresh with held := true, progress := progress }) =
        (.done, a.enter cs req.name whole) := spec_report_enter req.name _ _
  have hready : spec cs claims (.create req) (a.enter cs req.name whole) =
      (.made ⟨req.name, req.sourceVolumeId, size, time, true⟩, a.enter cs req.name whole) :=
    spec_create_enter hname hvol hlocal whole
  have hdelete (t : Taken) (ht : t.held = true) :
      spec cs claims (.delete req.name) (a.enter cs req.name t) =
        (.failed, a.enter cs req.name { t with deleting := true }) := by
    simp [spec, hname, SnapRef.ofId_of_named cs hnamed, Catalogue.delete, strike, Catalogue.enter,
      Taken.deleted, ht]
  have hagain := hdelete { whole with deleting := true } rfl
  have hrelease : spec cs claims (.finalize req.name [])
      (a.enter cs req.name { whole with deleting := true }) = (.done, a) := by
    simp [spec, Catalogue.enter, Taken.hold, update_none a hfree]
  have hgone : spec cs claims (.delete req.name) a = (.done, a) := by
    simp [spec, hname, SnapRef.ofId_of_named cs hnamed, Catalogue.delete, strike, hfree,
      update_none a hfree]
  simp only [snapshotLife, lifeAnswers, List.cons_append, List.append_assoc, trace, trace_append,
    hfirst, trace_replicate hwaits, hhold, hearly, hreport, trace_replicate hready,
    hdelete whole rfl, trace_replicate hagain, hrelease, trace_replicate hgone]

/-- However often a caller retries: its creates of a new snapshot fail until the host has
it ready and answer the same from then on, its deletes fail until the host has let go of
it and succeed from then on, and nothing is left. -/
theorem snapshot_retries_settle (cs : ControllerServer) (claims : String → Bool)
    (h : Catalogue.Follows cs claims s a) (req : CreateSnapshotRequest)
    (hnamed : (SnapRef.snapshot cs.ns req.name).Named) (hvol : req.sourceVolumeId ≠ "")
    (hlocal : ControllerServer.isBackupSnapshot req = false)
    (hclaim : Snapshottable cs.ns req.sourceVolumeId s)
    (hfree : s.snapshots.get (cs.ns, req.name) = none) {finalizers : List String}
    (hheld : finalizers ≠ []) {early : List (SnapshotStatus × Nat)}
    (hearly : ∀ r ∈ early, r.1.progress.Early) (size : Int64) (time : Option Nat)
    (creates again deletes later : Nat) :
    let life := trace (SnapStep.step cs)
      (snapshotLife req finalizers early size time creates again deletes later) s
    life.1.map seen = lifeAnswers req early size time creates again deletes later ∧
      life.2.catalogue = s.catalogue := by
  intro life
  have hwhole : ∀ i ∈ snapshotLife req finalizers early size time creates again deletes later,
      i.Whole := by
    intro i hi
    cases i with
    | list req' => simp [snapshotLife, attempts, List.mem_replicate] at hi
    | _ => trivial
  obtain ⟨hanswers, hlast⟩ := (Catalogue.refines cs claims).trace hwhole h
  have hnone : a (.snapshot cs.ns req.name) = none := by
    rw [h.snapshot_get, hfree]
    rfl
  rw [Catalogue.trace_snapshotLife hnamed hvol hlocal ((h.claims _).mpr hclaim) hnone hheld hearly]
    at hanswers hlast
  exact ⟨hanswers, hlast.entries.trans h.entries.symm⟩

def earlyReports : List (SnapshotStatus × Nat) :=
  [({ error := some { message := some "busy" } }, 1), ({ readyToUse := some false }, 2)]

theorem snapshot_retries_settle_twice :
    let life := trace (SnapStep.step exampleServer)
      (snapshotLife snapshotRequest ["bound"] earlyReports 5 (some 7) 1 1 2 1) catalogueHost
    life.1.map seen = [.failed, .failed, .done, .done, .failed, .done, .failed, .failed, .done,
        .made ⟨"snap", "v", 5, some 7, true⟩, .failed, .failed, .failed, .done, .done] ∧
      life.2.catalogue = catalogueHost.catalogue := by
  have hnamed : (SnapRef.snapshot "ns" "snap").Named := by
    unfold SnapRef.Named
    decide
  have hearly : ∀ r ∈ earlyReports, r.1.progress.Early := by
    simp [earlyReports, Progress.Early, SnapshotStatus.progress]
  exact snapshot_retries_settle exampleServer catalogueClaims catalogueHost_follows snapshotRequest
    hnamed (by decide) rfl ((catalogueHost_follows.claims "v").mp rfl) rfl (by decide) hearly
    5 (some 7) 1 1 2 1

end HarvesterCSI
