import HarvesterCSI.Controller.Snapshots
import HarvesterCSI.Laws.Create

/-!
# Listing snapshots

What a listing should hold, `ownedEntries` filtered by the request, and what the
two lists that ListSnapshots joins do hold.
-/

namespace HarvesterCSI

open Calls Calls.Prog

-- ---------------------------------------------------------------------------
-- What there is to list
-- ---------------------------------------------------------------------------

def VolumeSnapshot.sourceVolume (snap : VolumeSnapshot) : String :=
  snap.persistentVolumeClaimName.getD ""

def VolumeRemoteBackup.sourceVolume (vrb : VolumeRemoteBackup) : String :=
  ((vrb.labels.getD []).lookup labelBackupSrcVol).getD ""

def VolumeSnapshot.labelled (snap : VolumeSnapshot) : Bool :=
  ((snap.labels.getD []).lookup labelSnapHostSC).isSome &&
    ((snap.labels.getD []).lookup labelSnapHostVolumeMode).isSome

def VolumeSnapshot.owned (snap : VolumeSnapshot) : Bool :=
  snap.labelled && snap.sourceVolume ≠ "" && snap.name ≠ ""

/-- The label of a backup is the name of its source. -/
def VolumeRemoteBackup.owned (vrb : VolumeRemoteBackup) : Bool :=
  vrb.sourceVolume ≠ "" && vrb.name ≠ ""

def VolumeSnapshot.entry (snap : VolumeSnapshot) : Snapshot where
  snapshotId := snap.name
  sourceVolumeId := snap.sourceVolume
  sizeBytes := (snap.status.getD {}).restoreSize.getD 0
  creationTime := (snap.status.getD {}).creationTime
  readyToUse := (snap.status.getD {}).readyToUse.getD false

def VolumeRemoteBackup.entry (vrb : VolumeRemoteBackup) : Snapshot where
  snapshotId := formatBackupSnapshotID vrb.ns vrb.name
  sourceVolumeId := vrb.sourceVolume
  sizeBytes := (vrb.sourceRequests.getD {}).storageValue
  creationTime := vrb.creationTimestamp
  readyToUse := vrb.success

def ListSnapshotsRequest.wantsId (req : ListSnapshotsRequest) (e : Snapshot) : Bool :=
  req.snapshotId = "" || e.snapshotId = req.snapshotId

def ListSnapshotsRequest.wantsSource (req : ListSnapshotsRequest) (e : Snapshot) : Bool :=
  req.sourceVolumeId = "" || e.sourceVolumeId = req.sourceVolumeId

def ListSnapshotsRequest.wants (req : ListSnapshotsRequest) (e : Snapshot) : Bool :=
  req.wantsId e && req.wantsSource e

def hostSnaps (cs : ControllerServer) (s : Cluster) : List VolumeSnapshot :=
  s.snapshots.items.filter (·.ns = cs.ns)

def snapshotEntries (snaps : List VolumeSnapshot) : List Snapshot :=
  (snaps.filter VolumeSnapshot.owned).map VolumeSnapshot.entry

def backupEntries (s : Cluster) : List Snapshot :=
  (s.backups.items.filter VolumeRemoteBackup.owned).map VolumeRemoteBackup.entry

def ownedEntries (cs : ControllerServer) (s : Cluster) : List Snapshot :=
  snapshotEntries (hostSnaps cs s) ++ backupEntries s

def StatusesSet (cs : ControllerServer) (s : Cluster) (req : ListSnapshotsRequest) : Prop :=
  ∀ snap ∈ hostSnaps cs s, snap.owned = true → req.wants snap.entry = true → snap.status ≠ none

-- ---------------------------------------------------------------------------
-- Collecting entries
-- ---------------------------------------------------------------------------

section
variable {owned : α → Bool} {entry : α → Snapshot} {wants : Snapshot → Bool}

def wanted (owned : α → Bool) (entry : α → Snapshot) (wants : Snapshot → Bool) (a : α) :
    Option Snapshot :=
  if owned a && wants (entry a) then some (entry a) else none

theorem wanted_eq_some (h : owned a = true ∧ wants (entry a) = true) :
    wanted owned entry wants a = some (entry a) := if_pos (by simpa using h)

theorem wanted_eq_none (h : ¬ (owned a = true ∧ wants (entry a) = true)) :
    wanted owned entry wants a = none := if_neg (by simpa using h)

theorem filterMap_wanted (l : List α) :
    l.filterMap (wanted owned entry wants) = ((l.filter owned).map entry).filter wants := by
  induction l with
  | nil => rfl
  | cons a l ih =>
    simp only [List.filterMap_cons, wanted, List.filter_cons] at ih ⊢
    cases owned a with
    | false => simpa using ih
    | true => cases hw : wants (entry a) <;> simp [ih, hw]

end

section
variable {keep : α → Bool} {toEntry : α → Api Snapshot}

theorem collect_ok {f : α → Option Snapshot} (hskip : ∀ a, keep a = false → f a = none)
    (hkeep : ∀ a, keep a = true → a ∈ l → (∃ e, f a = some e ∧ toEntry a = .ok e) ∨
      f a = none ∧ ∃ e, toEntry a = .error e) :
    ControllerServer.collect keep toEntry l = .ok (l.filterMap f) := by
  induction l with
  | nil => rfl
  | cons a l ih =>
    have ih := ih fun b hb hmem => hkeep b hb (List.mem_cons_of_mem _ hmem)
    unfold ControllerServer.collect
    cases hk : keep a with
    | false => simp [hskip a hk, ih]
    | true =>
      rcases hkeep a hk List.mem_cons_self with ⟨e, hf, he⟩ | ⟨hf, e, he⟩
      · simp [hf, he, ih]
      · simp [hf, he, ih]

theorem collect_panic (hpure : ∀ a, (toEntry a).Uses fun _ => False) (hmem : a ∈ l)
    (hk : keep a = true) (ha : toEntry a = .panic) :
    ControllerServer.collect keep toEntry l = .panic := by
  induction l with
  | nil => cases hmem
  | cons b l ih =>
    unfold ControllerServer.collect
    rcases List.mem_cons.mp hmem with rfl | hmem
    · simp [hk, ha]
    · have hpure := hpure b
      cases keep b with
      | false => simp [ih hmem]
      | true =>
        cases hb : toEntry b with
        | ok e => simp [ih hmem]
        | error e => simp [ih hmem]
        | panic => simp
        | call op k =>
          rw [hb] at hpure
          exact hpure.1.elim

end

-- ---------------------------------------------------------------------------
-- Snapshots
-- ---------------------------------------------------------------------------

section
variable {cs : ControllerServer} {req : ListSnapshotsRequest}

theorem missingLabels_eq_nil (labels : StringMap) :
    ControllerServer.missingLabels labels = [] ↔
      ((labels.lookup labelSnapHostSC).isSome &&
        (labels.lookup labelSnapHostVolumeMode).isSome) = true := by
  simp [ControllerServer.missingLabels, Option.isSome_iff_ne_none]

theorem validateHostSnapLabels_cases (cs : ControllerServer) (snap : VolumeSnapshot) :
    snap.labelled = true ∧ cs.validateHostSnapLabels snap = .ok () ∨
      snap.labelled = false ∧ ∃ e, cs.validateHostSnapLabels snap = .error e := by
  unfold ControllerServer.validateHostSnapLabels VolumeSnapshot.labelled
  cases snap.labels with
  | none => exact .inr ⟨rfl, _, rfl⟩
  | some labels =>
    have hmissing := missingLabels_eq_nil labels
    dsimp only [Option.getD_some]
    split
    · rename_i hnil
      exact .inl ⟨hmissing.mp hnil, rfl⟩
    · rename_i hcons
      exact .inr ⟨Bool.eq_false_iff.mpr (mt hmissing.mpr hcons), _, rfl⟩

theorem validateHostSnapLabels_labelled (h : snap.labelled = true) :
    cs.validateHostSnapLabels snap = .ok () := by
  rcases validateHostSnapLabels_cases cs snap with ⟨-, hok⟩ | ⟨hnot, -⟩
  · exact hok
  · simp [hnot] at h

theorem shouldIncludeSnapshot_iff (snap : VolumeSnapshot) :
    cs.shouldIncludeSnapshot snap req = true ↔ snap.labelled = true ∧
      (req.snapshotId = "" ∨ snap.name = req.snapshotId) ∧
      (req.sourceVolumeId = "" ∨ snap.persistentVolumeClaimName = some req.sourceVolumeId) := by
  unfold ControllerServer.shouldIncludeSnapshot
  rcases validateHostSnapLabels_cases cs snap with ⟨hl, hv⟩ | ⟨hl, e, hv⟩
  · simp only [hl, hv]
    split
    · simp_all
    · split
      · simp_all
      · simp_all
        tauto
  · simp [hl, hv]

theorem convertHostSnapshotToEntry_cases (cs : ControllerServer) (snap : VolumeSnapshot) :
    (snap.sourceVolume ≠ "" ∧ snap.name ≠ "" ∧
      (snap.status ≠ none ∧ cs.convertHostSnapshotToEntry snap = .ok snap.entry ∨
        snap.status = none ∧ cs.convertHostSnapshotToEntry snap = .panic)) ∨
    ((snap.sourceVolume = "" ∨ snap.name = "") ∧
      ∃ e, cs.convertHostSnapshotToEntry snap = .error e) := by
  unfold ControllerServer.convertHostSnapshotToEntry ControllerServer.convertVolumeSnapshotToCSI
  by_cases hname : snap.name = ""
  · exact .inr ⟨.inr hname, by simp [hname]⟩
  · by_cases hsource : snap.sourceVolume = ""
    · refine .inr ⟨.inl hsource, ?_⟩
      rw [VolumeSnapshot.sourceVolume] at hsource
      simp [hname, hsource]
    · refine .inl ⟨hsource, hname, ?_⟩
      rw [VolumeSnapshot.sourceVolume] at hsource
      cases hstatus : snap.status with
      | none => simp [hname, hsource]
      | some status =>
        simp [hname, hsource, VolumeSnapshot.entry, VolumeSnapshot.sourceVolume, hstatus]

theorem owned_iff (snap : VolumeSnapshot) :
    snap.owned = true ↔ snap.labelled = true ∧ snap.sourceVolume ≠ "" ∧ snap.name ≠ "" := by
  simp [VolumeSnapshot.owned, and_assoc]

theorem wants_entry_iff (snap : VolumeSnapshot) :
    req.wants snap.entry = true ↔ (req.snapshotId = "" ∨ snap.name = req.snapshotId) ∧
      (req.sourceVolumeId = "" ∨ snap.sourceVolume = req.sourceVolumeId) := by
  simp only [ListSnapshotsRequest.wants, ListSnapshotsRequest.wantsId,
    ListSnapshotsRequest.wantsSource, Bool.and_eq_true, Bool.or_eq_true, decide_eq_true_eq]
  rfl

theorem shouldIncludeSnapshot_iff_wanted (snap : VolumeSnapshot) (hsource : snap.sourceVolume ≠ "")
    (hname : snap.name ≠ "") :
    cs.shouldIncludeSnapshot snap req = true ↔ snap.owned = true ∧ req.wants snap.entry = true := by
  have hclaim (v : String) (hv : v ≠ "") :
      snap.sourceVolume = v ↔ snap.persistentVolumeClaimName = some v := by
    unfold VolumeSnapshot.sourceVolume
    cases snap.persistentVolumeClaimName <;> simp [hv.symm]
  rw [shouldIncludeSnapshot_iff, owned_iff, wants_entry_iff]
  by_cases hv : req.sourceVolumeId = ""
  · simp [hv, hsource, hname]
  · simp [hv, hsource, hname, hclaim _ hv]

theorem processHostSnapshots_ok {snaps : List VolumeSnapshot}
    (hstatus : ∀ snap ∈ snaps, snap.owned = true → req.wants snap.entry = true →
      snap.status ≠ none) :
    cs.processHostSnapshots snaps req = .ok ((snapshotEntries snaps).filter req.wants) := by
  rw [snapshotEntries, ← filterMap_wanted]
  refine collect_ok (fun snap hskip => wanted_eq_none ?_) fun snap hkeep hmem => ?_
  · intro hw
    obtain ⟨-, hsource, hname⟩ := (owned_iff snap).mp hw.1
    simp [(shouldIncludeSnapshot_iff_wanted snap hsource hname).mpr hw] at hskip
  · rcases convertHostSnapshotToEntry_cases cs snap with
      ⟨hsource, hname, ⟨-, hconv⟩ | ⟨hnone, -⟩⟩ | ⟨hempty, hconv⟩
    · have hw := (shouldIncludeSnapshot_iff_wanted snap hsource hname).mp hkeep
      exact .inl ⟨snap.entry, wanted_eq_some hw, hconv⟩
    · have hw := (shouldIncludeSnapshot_iff_wanted snap hsource hname).mp hkeep
      exact absurd hnone (hstatus snap hmem hw.1 hw.2)
    · refine .inr ⟨wanted_eq_none fun hw => ?_, hconv⟩
      obtain ⟨-, hsource, hname⟩ := (owned_iff snap).mp hw.1
      exact hempty.elim hsource hname

theorem processHostSnapshots_panic {snaps : List VolumeSnapshot} (hmem : snap ∈ snaps)
    (howned : snap.owned = true) (hwants : req.wants snap.entry = true)
    (hstatus : snap.status = none) :
    cs.processHostSnapshots snaps req = .panic := by
  obtain ⟨-, hsource, hname⟩ := (owned_iff snap).mp howned
  have hcases (a : VolumeSnapshot) := convertHostSnapshotToEntry_cases cs a
  refine collect_panic (fun a => ?_) hmem
    ((shouldIncludeSnapshot_iff_wanted snap hsource hname).mpr ⟨howned, hwants⟩) ?_
  · rcases hcases a with ⟨-, -, ⟨-, h⟩ | ⟨-, h⟩⟩ | ⟨-, e, h⟩
    all_goals simp [h]
  · rcases hcases snap with ⟨-, -, ⟨h, -⟩ | ⟨-, h⟩⟩ | ⟨h, -⟩
    · exact absurd hstatus h
    · exact h
    · exact absurd h (by simp [hsource, hname])

end

-- ---------------------------------------------------------------------------
-- Backups
-- ---------------------------------------------------------------------------

section
variable {cs : ControllerServer} {req : ListSnapshotsRequest}

theorem backup_sourceVolume_iff (vrb : VolumeRemoteBackup) (hv : v ≠ "") :
    vrb.sourceVolume = v ↔ (vrb.labels.getD []).lookup labelBackupSrcVol = some v := by
  unfold VolumeRemoteBackup.sourceVolume
  cases (vrb.labels.getD []).lookup labelBackupSrcVol <;> simp [hv.symm]

theorem backup_owned_iff (vrb : VolumeRemoteBackup) :
    vrb.owned = true ↔ vrb.sourceVolume ≠ "" ∧ vrb.name ≠ "" := by
  simp [VolumeRemoteBackup.owned]

theorem wantsSource_entry_iff (vrb : VolumeRemoteBackup) :
    req.wantsSource vrb.entry = true ↔
      req.sourceVolumeId = "" ∨ vrb.sourceVolume = req.sourceVolumeId := by
  simp only [ListSnapshotsRequest.wantsSource, Bool.or_eq_true, decide_eq_true_eq]
  rfl

theorem shouldIncludeBackupSnapshot_iff (vrb : VolumeRemoteBackup)
    (hsource : vrb.sourceVolume ≠ "") :
    cs.shouldIncludeBackupSnapshot vrb req = true ↔ req.wantsSource vrb.entry = true := by
  have hlookup := (backup_sourceVolume_iff vrb hsource).mp rfl
  rw [wantsSource_entry_iff]
  unfold ControllerServer.shouldIncludeBackupSnapshot
  cases hlabels : vrb.labels with
  | none => simp [hlabels] at hlookup
  | some labels =>
    simp only [hlabels, Option.getD_some] at hlookup
    by_cases hv : req.sourceVolumeId = "" <;> simp [hlookup, hv]

theorem convertVolumeRemoteBackupToEntry_cases (cs : ControllerServer) (vrb : VolumeRemoteBackup) :
    vrb.owned = true ∧ cs.convertVolumeRemoteBackupToEntry vrb = .ok vrb.entry ∨
      vrb.owned = false ∧ ∃ e, cs.convertVolumeRemoteBackupToEntry vrb = .error e := by
  unfold ControllerServer.convertVolumeRemoteBackupToEntry
    ControllerServer.convertVolumeRemoteBackupToCSI
  by_cases hname : vrb.name = ""
  · exact .inr ⟨by simp [VolumeRemoteBackup.owned, hname], by simp [hname]⟩
  · by_cases hsource : vrb.sourceVolume = ""
    · refine .inr ⟨by simp [VolumeRemoteBackup.owned, hsource], ?_⟩
      rw [VolumeRemoteBackup.sourceVolume] at hsource
      simp [hname, hsource]
    · refine .inl ⟨(backup_owned_iff vrb).mpr ⟨hsource, hname⟩, ?_⟩
      rw [VolumeRemoteBackup.sourceVolume] at hsource
      simp [hname, hsource, VolumeRemoteBackup.entry, VolumeRemoteBackup.sourceVolume]

theorem collect_backups (vrbs : List VolumeRemoteBackup) :
    ControllerServer.collect (cs.shouldIncludeBackupSnapshot · req)
        cs.convertVolumeRemoteBackupToEntry vrbs =
      .ok (vrbs.filterMap
        (wanted VolumeRemoteBackup.owned VolumeRemoteBackup.entry req.wantsSource)) := by
  refine collect_ok (fun vrb hskip => wanted_eq_none ?_) fun vrb hkeep _ => ?_
  · rintro ⟨howned, hwants⟩
    have hsource := ((backup_owned_iff vrb).mp howned).1
    simp [(shouldIncludeBackupSnapshot_iff vrb hsource).mpr hwants] at hskip
  · rcases convertVolumeRemoteBackupToEntry_cases cs vrb with ⟨howned, hconv⟩ | ⟨howned, hconv⟩
    · have hsource := ((backup_owned_iff vrb).mp howned).1
      have hwants := (shouldIncludeBackupSnapshot_iff vrb hsource).mp hkeep
      exact .inl ⟨vrb.entry, wanted_eq_some ⟨howned, hwants⟩, hconv⟩
    · exact .inr ⟨wanted_eq_none (by simp [howned]), hconv⟩

/-- The backups are filtered by their source and by nothing else. -/
theorem run_listBackupSnaps (s : Cluster) :
    run Cluster.serve (cs.listBackupSnaps req) s =
      (.ok ((backupEntries s).filter req.wantsSource), s) := by
  simp only [ControllerServer.listBackupSnaps, ControllerServer.processHostVolumeRemoteBackups,
    request_bind, call_orElse, run_call, Cluster.serve, collect_backups, ok_orElse, run_ok]
  rw [backupEntries, ← filterMap_wanted, List.filterMap_filter]
  congr 2
  refine List.filterMap_congr fun vrb _ => ?_
  by_cases hv : req.sourceVolumeId = ""
  · simp [hv]
  · simp only [hv, ne_eq, not_false_eq_true, if_true, decide_eq_true_eq]
    split
    · rfl
    -- what the selector leaves out has another source
    · rename_i hout
      refine (wanted_eq_none fun hw => hout ?_).symm
      exact (backup_sourceVolume_iff vrb hv).mp
        (((wantsSource_entry_iff vrb).mp hw.2).resolve_left hv)

end

-- ---------------------------------------------------------------------------
-- The call
-- ---------------------------------------------------------------------------

section
variable {cs : ControllerServer} {req : ListSnapshotsRequest} {s : Cluster}

theorem run_listSnapshots_ok (hmax : 0 ≤ req.maxEntries)
    (hpage : page s.pager (hostSnaps cs s) ⟨req.maxEntries.toNat, req.startingToken⟩ =
      .ok (snaps, next))
    (hstatus : ∀ snap ∈ snaps, snap.owned = true → req.wants snap.entry = true →
      snap.status ≠ none) :
    run Cluster.serve (cs.listSnapshots req) s =
      (.ok ⟨(snapshotEntries snaps).filter req.wants ++ (backupEntries s).filter req.wantsSource,
          next⟩,
        s) := by
  have hvalid : ControllerServer.validateListSnapshotsRequest req =
      .ok ⟨req.maxEntries.toNat, req.startingToken⟩ := if_neg (by omega)
  have hlocal :
      run Cluster.serve (cs.listLocalSnaps ⟨req.maxEntries.toNat, req.startingToken⟩ req) s =
      (.ok ((snapshotEntries snaps).filter req.wants, next), s) := by
    rw [hostSnaps] at hpage
    simp [ControllerServer.listLocalSnaps, Cluster.serve, hpage, processHostSnapshots_ok hstatus]
  simp only [ControllerServer.listSnapshots, hvalid, ok_bind, run_bind, hlocal, run_orElse,
    run_listBackupSnaps, pure_eq, run_ok]

theorem run_listSnapshots_panic (hmax : 0 ≤ req.maxEntries)
    (hpage : page s.pager (hostSnaps cs s) ⟨req.maxEntries.toNat, req.startingToken⟩ =
      .ok (snaps, next)) (hmem : snap ∈ snaps) (howned : snap.owned = true)
    (hwants : req.wants snap.entry = true) (hstatus : snap.status = none) :
    run Cluster.serve (cs.listSnapshots req) s = (.panic, s) := by
  have hvalid : ControllerServer.validateListSnapshotsRequest req =
      .ok ⟨req.maxEntries.toNat, req.startingToken⟩ := if_neg (by omega)
  have hlocal :
      run Cluster.serve (cs.listLocalSnaps ⟨req.maxEntries.toNat, req.startingToken⟩ req) s =
      (.panic, s) := by
    rw [hostSnaps] at hpage
    simp [ControllerServer.listLocalSnaps, Cluster.serve, hpage,
      processHostSnapshots_panic hmem howned hwants hstatus]
  simp only [ControllerServer.listSnapshots, hvalid, ok_bind, run_bind, hlocal]

-- ---------------------------------------------------------------------------
-- The filters
-- ---------------------------------------------------------------------------

theorem perm_filter_iff (l : List α) (p : α → Bool) :
    l.Perm (l.filter p) ↔ ∀ a ∈ l, p a = true := by
  constructor
  · intro h
    exact List.length_filter_eq_length_iff.mp h.length_eq.symm
  · intro h
    rw [List.filter_eq_self.mpr h]

/-- An unpaged listing returns the driver's objects that pass both filters, each
once, exactly if none of its snapshots that do lacks a status and none of its
backups that pass the filter by source fails the one by id. -/
theorem listing_exact_iff (hmax : req.maxEntries = 0) (htoken : req.startingToken = "") :
    (∃ resp t, run Cluster.serve (cs.listSnapshots req) s = (.ok resp, t) ∧
        resp.entries.Perm ((ownedEntries cs s).filter req.wants)) ↔
      StatusesSet cs s req ∧ ∀ vrb ∈ s.backups.items, vrb.owned = true →
        req.wantsSource vrb.entry = true → req.wantsId vrb.entry = true := by
  have hpage : page s.pager (hostSnaps cs s) ⟨req.maxEntries.toNat, req.startingToken⟩ =
      .ok (hostSnaps cs s, "") := by
    simp [page, hmax, htoken]
  by_cases hstatus : StatusesSet cs s req
  · rw [run_listSnapshots_ok (by omega) hpage hstatus]
    have hbackups : (backupEntries s).filter req.wants =
        ((backupEntries s).filter req.wantsSource).filter req.wantsId := by
      rw [List.filter_filter]
      rfl
    have hall : (∀ e ∈ (backupEntries s).filter req.wantsSource, req.wantsId e = true) ↔
        ∀ vrb ∈ s.backups.items, vrb.owned = true → req.wantsSource vrb.entry = true →
          req.wantsId vrb.entry = true := by
      simp only [backupEntries, List.mem_filter, List.mem_map, and_imp, forall_exists_index]
      exact ⟨fun h vrb hmem howned => h _ vrb hmem howned rfl,
        fun h e vrb hmem howned he => he ▸ h vrb hmem howned⟩
    simp only [Prod.mk.injEq, Outcome.ok.injEq, ↓existsAndEq, ownedEntries, List.filter_append,
      List.perm_append_left_iff, hbackups, perm_filter_iff, hall, true_and]
    exact ⟨fun h => ⟨hstatus, h⟩, And.right⟩
  · refine iff_of_false ?_ fun h => hstatus h.1
    simp only [StatusesSet, not_forall, not_not] at hstatus
    obtain ⟨snap, hmem, howned, hwants, hnone⟩ := hstatus
    rw [run_listSnapshots_panic (by omega) hpage hmem howned hwants hnone]
    simp

end

def exampleBackup : VolumeRemoteBackup where
  ns := "ns"
  name := "b"
  labels := some [(labelBackupSrcVol, "v")]
  source := "v"
  success := true

def oneBackup : Cluster := { Cluster.empty with backups := Cluster.empty.backups.put exampleBackup }

/-- Asked for by its own id, the backup is all there is. -/
theorem listing_by_id_exact :
    let req : ListSnapshotsRequest := { snapshotId := "backup:ns/b" }
    ∃ resp t, run Cluster.serve (exampleServer.listSnapshots req) oneBackup = (.ok resp, t) ∧
      resp.entries.Perm ((ownedEntries exampleServer oneBackup).filter req.wants) := by
  intro req
  exact (listing_exact_iff rfl rfl).mpr ⟨by unfold StatusesSet; decide, by decide⟩

/-- Asked for another id, the listing still returns the backup. -/
theorem listing_by_id_inexact :
    let req : ListSnapshotsRequest := { snapshotId := "snap" }
    run Cluster.serve (exampleServer.listSnapshots req) oneBackup =
        (.ok ⟨[exampleBackup.entry], ""⟩, oneBackup) ∧
      (ownedEntries exampleServer oneBackup).filter req.wants = [] ∧
      ¬ ∃ resp t, run Cluster.serve (exampleServer.listSnapshots req) oneBackup = (.ok resp, t) ∧
        resp.entries.Perm ((ownedEntries exampleServer oneBackup).filter req.wants) := by
  intro req
  have hrun : run Cluster.serve (exampleServer.listSnapshots req) oneBackup =
      (.ok ⟨[exampleBackup.entry], ""⟩, oneBackup) := rfl
  have hwanted : (ownedEntries exampleServer oneBackup).filter req.wants = [] := by decide
  refine ⟨hrun, hwanted, ?_⟩
  rintro ⟨resp, t, h, hperm⟩
  rw [hrun] at h
  cases h
  simp [hwanted] at hperm

-- ---------------------------------------------------------------------------
-- Snapshots that the host has not filled in yet
-- ---------------------------------------------------------------------------

def ListSnapshotsRequest.Passes (req : ListSnapshotsRequest) (snap : VolumeSnapshot) : Prop :=
  snap.labelled = true ∧ (req.snapshotId = "" ∨ snap.name = req.snapshotId) ∧
    (req.sourceVolumeId = "" ∨ snap.persistentVolumeClaimName = some req.sourceVolumeId)

/-- The loop ends without a crash, with an entry for each snapshot that passes and has
a source. What its status does not say counts as not ready and of no size. -/
def SurvivesSnapshots (cs : ControllerServer) (snaps : List VolumeSnapshot)
    (req : ListSnapshotsRequest) : Prop :=
  ∃ entries, cs.processHostSnapshots snaps req = .ok entries ∧
    ∀ snap ∈ snaps, req.Passes snap → snap.persistentVolumeClaimName ≠ none → snap.entry ∈ entries

section
variable {cs : ControllerServer} {req : ListSnapshotsRequest} {snaps : List VolumeSnapshot}

theorem passes_iff_wanted (cs : ControllerServer) (hsource : snap.sourceVolume ≠ "")
    (hname : snap.name ≠ "") :
    req.Passes snap ↔ snap.owned = true ∧ req.wants snap.entry = true := by
  have hpasses : cs.shouldIncludeSnapshot snap req = true ↔ req.Passes snap :=
    shouldIncludeSnapshot_iff snap
  rw [← hpasses, shouldIncludeSnapshot_iff_wanted snap hsource hname]

theorem statuses_of_processHostSnapshots (h : cs.processHostSnapshots snaps req = .ok entries) :
    ∀ snap ∈ snaps, snap.owned = true → req.wants snap.entry = true → snap.status ≠ none := by
  intro snap hmem howned hwants hnone
  rw [processHostSnapshots_panic hmem howned hwants hnone] at h
  cases h

theorem mem_filter_snapshotEntries :
    e ∈ (snapshotEntries snaps).filter req.wants ↔
      ∃ snap ∈ snaps, snap.owned = true ∧ req.wants snap.entry = true ∧ snap.entry = e := by
  simp only [snapshotEntries, List.mem_filter, List.mem_map]
  constructor
  · rintro ⟨⟨snap, ⟨hmem, howned⟩, rfl⟩, hwants⟩
    exact ⟨snap, hmem, howned, hwants, rfl⟩
  · rintro ⟨snap, hmem, howned, hwants, rfl⟩
    exact ⟨⟨snap, ⟨hmem, howned⟩, rfl⟩, hwants⟩

/-- The loop survives exactly the lists in which every snapshot that it converts has
a status. (The names are never empty on a host.) -/
theorem survives_snapshots_iff :
    SurvivesSnapshots cs snaps req ↔
      ∀ snap ∈ snaps, req.Passes snap → snap.persistentVolumeClaimName ≠ none →
        snap.sourceVolume ≠ "" ∧ snap.name ≠ "" ∧ snap.status ≠ none := by
  constructor
  · rintro ⟨entries, hok, hentries⟩ snap hmem hpasses hclaim
    have hstatus := statuses_of_processHostSnapshots hok
    have hentry := hentries snap hmem hpasses hclaim
    rw [processHostSnapshots_ok hstatus] at hok
    cases hok
    obtain ⟨other, -, howned, -, hsame⟩ := mem_filter_snapshotEntries.mp hentry
    obtain ⟨-, hsource, hname⟩ := (owned_iff other).mp howned
    have hsameSource : other.sourceVolume = snap.sourceVolume :=
      congrArg Snapshot.sourceVolumeId hsame
    have hsameName : other.name = snap.name := congrArg Snapshot.snapshotId hsame
    rw [hsameSource] at hsource
    rw [hsameName] at hname
    obtain ⟨howned, hwants⟩ := (passes_iff_wanted cs hsource hname).mp hpasses
    exact ⟨hsource, hname, hstatus snap hmem howned hwants⟩
  · intro hall
    have hstatus : ∀ snap ∈ snaps, snap.owned = true → req.wants snap.entry = true →
        snap.status ≠ none := by
      intro snap hmem howned hwants
      obtain ⟨-, hsource, hname⟩ := (owned_iff snap).mp howned
      have hclaim : snap.persistentVolumeClaimName ≠ none := fun hnone =>
        hsource (by rw [VolumeSnapshot.sourceVolume, hnone]; rfl)
      exact (hall snap hmem ((passes_iff_wanted cs hsource hname).mpr ⟨howned, hwants⟩) hclaim).2.2
    refine ⟨_, processHostSnapshots_ok hstatus, ?_⟩
    intro snap hmem hpasses hclaim
    obtain ⟨hsource, hname, -⟩ := hall snap hmem hpasses hclaim
    obtain ⟨howned, hwants⟩ := (passes_iff_wanted cs hsource hname).mp hpasses
    exact mem_filter_snapshotEntries.mpr ⟨snap, hmem, howned, hwants, rfl⟩

end

def freshSnapshot (name : String) : VolumeSnapshot where
  ns := "ns"
  name := name
  labels := some [(labelSnapHostSC, "longhorn"), (labelSnapHostVolumeMode, "Block")]
  persistentVolumeClaimName := some "v"

/-- A fresh snapshot beside one that is ready crashes the loop. -/
theorem fresh_snapshot_panics :
    let ready := { freshSnapshot "old" with status := some { readyToUse := some true } }
    exampleServer.processHostSnapshots [ready] {} = .ok [ready.entry] ∧
      exampleServer.processHostSnapshots [ready, freshSnapshot "new"] {} = .panic ∧
      ¬ SurvivesSnapshots exampleServer [ready, freshSnapshot "new"] {} := by
  intro ready
  have hpanic : exampleServer.processHostSnapshots [ready, freshSnapshot "new"] {} = .panic := rfl
  refine ⟨rfl, hpanic, ?_⟩
  rintro ⟨entries, hok, -⟩
  cases hpanic.symm.trans hok

end HarvesterCSI
