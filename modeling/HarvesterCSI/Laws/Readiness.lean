import HarvesterCSI.Laws.Sources

/-!
# Answering from a snapshot that is there

A local CreateSnapshot that finds its host snapshot answers from the status of that
snapshot. The status, and every field of it, may be missing.
-/

namespace HarvesterCSI

open Calls Calls.Prog
open Cluster (Serves)

def Op.Creates : Op → Prop
  | .createPVC _ | .createNetworkFS _ | .createSnapshot _ | .createBackup _
  | .createRestore _ => True
  | _ => False

def KeepsSnapshot (key : Key) (s t : Cluster) : Prop := t.snapshots.get key = s.snapshots.get key

theorem KeepsSnapshot.refl (s : Cluster) : KeepsSnapshot key s s := rfl

theorem KeepsSnapshot.trans (s t u : Cluster) (h₁ : KeepsSnapshot key s t)
    (h₂ : KeepsSnapshot key t u) :
    KeepsSnapshot key s u := Eq.trans h₂ h₁

theorem KeepsSnapshot.runs {p : Api α} (key : Key) (h : run Cluster.serve p s = (o, t)) :
    Runs (KeepsSnapshot key) Serves p s o t :=
  Runs.of_run_after KeepsSnapshot.refl KeepsSnapshot.trans (fun _ _ => rfl) (KeepsSnapshot.refl s) h

def VolumeSnapshot.Ready (snap : VolumeSnapshot) : Prop :=
  ∃ status, snap.status = some status ∧ status.readyToUse = some true ∧ status.error = none

/-- The answer is OK exactly if the snapshot is ready; nothing that is missing is read
and nothing is created on the way. -/
structure AnsweredWhenReady (cs : ControllerServer) (req : CreateSnapshotRequest)
    (snap : VolumeSnapshot) (s : Cluster) : Prop where
  total : ∀ t, ¬ Runs (KeepsSnapshot (cs.ns, req.name)) Serves (cs.createSnapshot req) s .panic t
  ok : ∀ o t, Runs (KeepsSnapshot (cs.ns, req.name)) Serves (cs.createSnapshot req) s o t →
    ((∃ entry, o = .ok entry) ↔ snap.Ready)
  creates : Safe (KeepsSnapshot (cs.ns, req.name)) Serves (fun _ _ _ _ _ => True)
    (fun op _ _ _ _ => ¬ op.Creates) (cs.createSnapshot req) s

/-- What the log lines read is there: the message of an error, the size of a ready
snapshot. -/
def VolumeSnapshot.Legible (snap : VolumeSnapshot) : Prop :=
  ∀ status, snap.status = some status →
    match status.error with
    | some err => err.message ≠ none
    | none => status.readyToUse = some true → status.restoreSize ≠ none

-- ---------------------------------------------------------------------------
-- The call
-- ---------------------------------------------------------------------------

def knownSnapshot (key : Key) (snap : VolumeSnapshot) : (op : Op) → Option op.Res
  | .getSnapshot ns name => if (ns, name) = key then some (.ok snap) else none
  | _ => none

def HasSnapshot (key : Key) (snap : VolumeSnapshot) (s : Cluster) : Prop :=
  s.snapshots.get key = some snap

theorem knownSnapshot_known (key : Key) (snap : VolumeSnapshot) :
    Known (HasSnapshot key snap) (KeepsSnapshot key) Serves (knownSnapshot key snap) where
  move _ _ hs hkeep := Eq.trans hkeep hs
  answer op s r t a hs hserve hop := by
    cases op <;> simp only [knownSnapshot, reduceCtorEq] at hop
    split at hop
    · rename_i hkey
      cases hop
      obtain ⟨rfl, rfl⟩ := Prod.mk.inj hserve
      rw [hkey, show s.snapshots.get key = some snap from hs]
      exact ⟨rfl, hs⟩
    · cases hop

section
variable {cs : ControllerServer} {snap : VolumeSnapshot} {known : (op : Op) → Option op.Res}

theorem checkSnapsReadiness_legible (h : known (.getSnapshot cs.ns name) = some (.ok snap))
    (hlegible : snap.Legible) :
    ∃ ready, (cs.checkSnapsReadiness name).settle known = some (.ok ready) ∧
      (ready = true ↔ snap.Ready) := by
  simp only [ControllerServer.checkSnapsReadiness, request_bind, settle_call h]
  cases hstatus : snap.status with
  | none => exact ⟨false, rfl, by simp [VolumeSnapshot.Ready, hstatus]⟩
  | some status =>
    have hread := hlegible status hstatus
    cases herror : status.error with
    | some err =>
      simp only [herror] at hread
      exact ⟨false, by simp [herror, hread], by simp [VolumeSnapshot.Ready, hstatus, herror]⟩
    | none =>
      simp only [herror] at hread
      by_cases hready : status.readyToUse = some true
      · exact ⟨true, by simp [herror, hready, hread hready],
          by simp [VolumeSnapshot.Ready, hstatus, hready, herror]⟩
      · exact ⟨false, by simp [herror, hready], by simp [VolumeSnapshot.Ready, hstatus, hready]⟩

theorem checkSnapsReadiness_illegible (h : known (.getSnapshot cs.ns name) = some (.ok snap))
    (hillegible : ¬ snap.Legible) : (cs.checkSnapsReadiness name).settle known = some .panic := by
  simp only [VolumeSnapshot.Legible, Classical.not_forall] at hillegible
  obtain ⟨status, hstatus, hread⟩ := hillegible
  simp only [ControllerServer.checkSnapsReadiness, request_bind, settle_call h, hstatus]
  cases herror : status.error with
  | some err =>
    simp only [herror, ne_eq, Classical.not_not] at hread
    simp [hread]
  | none =>
    simp only [herror, Classical.not_imp, ne_eq, Classical.not_not] at hread
    simp [hread]

theorem handleExistingLocalSnap_settle (h : known (.getSnapshot cs.ns name) = some (.ok snap))
    (hsnap : snap.name = name) (hlabelled : snap.labelled = true) (vol : String) :
    (cs.handleExistingLocalSnap name vol).settle known =
      (cs.prepareSnapshotResponse name vol).settle known := by
  simp only [ControllerServer.handleExistingLocalSnap, request_bind, settle_call h,
    validateHostSnapLabels_labelled hlabelled, ok_bind, hsnap]

theorem prepareSnapshotResponse_panics
    (h : (cs.checkSnapsReadiness name).settle known = some .panic) :
    (cs.prepareSnapshotResponse name vol).settle known = some .panic := by
  simp only [ControllerServer.prepareSnapshotResponse, settle_bind, h]

theorem prepareSnapshotResponse_settle (hname : name ≠ "") (hvol : vol ≠ "")
    (h : known (.getSnapshot cs.ns name) = some (.ok snap)) (hsnap : snap.name = name)
    (hlabelled : snap.labelled = true) (hlegible : snap.Legible) :
    snap.Ready ∧ (∃ entry, (cs.prepareSnapshotResponse name vol).settle known = some (.ok entry)) ∨
      ¬ snap.Ready ∧ ∃ msg, (cs.prepareSnapshotResponse name vol).settle known =
        some (.error (.status .internal msg)) := by
  obtain ⟨ready, hcheck, hready⟩ := checkSnapsReadiness_legible h hlegible
  simp only [ControllerServer.prepareSnapshotResponse, settle_bind, hcheck]
  cases ready with
  | false => exact .inr ⟨fun hr => by simpa using hready.mpr hr, _, rfl⟩
  | true =>
    have hr := hready.mp rfl
    obtain ⟨status, hstatus, -⟩ := hr
    refine .inl ⟨hready.mp rfl, ?_⟩
    simp [settle_call h, validateHostSnapLabels_labelled hlabelled,
      ControllerServer.convertVolumeSnapshotToCSI, hsnap, hname, hvol, hstatus]

theorem createSnapshot_settle (hname : req.name ≠ "") (hvol : req.sourceVolumeId ≠ "")
    (hlocal : ControllerServer.isBackupSnapshot req = false)
    (h : (cs.handleExistingLocalSnap req.name req.sourceVolumeId).settle known = some o)
    (hfound : ∀ e, o = .error e → e.isNotFound = false) :
    (cs.createSnapshot req).settle known = some o := by
  rw [createSnapshot_eq hname hvol, if_neg (by simp [hlocal]), ControllerServer.handleLocalSnap,
    settle_orElse, h]
  cases o with
  | ok | panic => rfl
  | error e => simp [hfound e rfl]

end

theorem knownSnapshot_reads (h : knownSnapshot key snap op = some r) : ¬ op.Creates := by
  cases op <;> simp [knownSnapshot, Op.Creates] at h ⊢

theorem knownSnapshot_self (ns name : String) (snap : VolumeSnapshot) :
    knownSnapshot (ns, name) snap (.getSnapshot ns name) = some (.ok snap) := by
  simp [knownSnapshot]

/-- A labelled snapshot is answered for by its readiness exactly if its status has what
the log lines read. -/
theorem answered_when_ready_iff {cs : ControllerServer} {req : CreateSnapshotRequest}
    {snap : VolumeSnapshot} {s : Cluster} (hname : req.name ≠ "") (hvol : req.sourceVolumeId ≠ "")
    (hlocal : ControllerServer.isBackupSnapshot req = false)
    (hget : s.snapshots.get (cs.ns, req.name) = some snap) (hlabelled : snap.labelled = true) :
    AnsweredWhenReady cs req snap s ↔ snap.Legible := by
  have hsnap : snap.name = req.name := congrArg Prod.snd (Store.get_key hget)
  have hself := knownSnapshot_self cs.ns req.name snap
  have hknown := knownSnapshot_known (cs.ns, req.name) snap
  have hexisting := handleExistingLocalSnap_settle hself hsnap hlabelled req.sourceVolumeId
  constructor
  · intro hanswered
    by_contra hillegible
    have hpanic := checkSnapsReadiness_illegible hself hillegible
    have hsettle := createSnapshot_settle hname hvol hlocal
      (hexisting.trans (prepareSnapshotResponse_panics hpanic)) (by simp)
    obtain ⟨o, t, hrun⟩ : ∃ o t, run Cluster.serve (cs.createSnapshot req) s = (o, t) := ⟨_, _, rfl⟩
    replace hrun := KeepsSnapshot.runs (cs.ns, req.name) hrun
    rw [(hrun.settled hknown hsettle hget).1] at hrun
    exact hanswered.total _ hrun
  · intro hlegible
    obtain ⟨o, hsettle, hpanic, hok⟩ : ∃ o, (cs.createSnapshot req).settle
        (knownSnapshot (cs.ns, req.name) snap) = some o ∧ o ≠ .panic ∧
          ((∃ entry, o = .ok entry) ↔ snap.Ready) := by
      rcases prepareSnapshotResponse_settle hname hvol hself hsnap hlabelled hlegible with
        ⟨hready, entry, h⟩ | ⟨hready, msg, h⟩
      · exact ⟨_, createSnapshot_settle hname hvol hlocal (hexisting.trans h) (by simp), by simp,
          by simpa using hready⟩
      · exact ⟨_, createSnapshot_settle hname hvol hlocal (hexisting.trans h)
          (by simp [Err.isNotFound]), by simp, by simpa using hready⟩
    refine ⟨?_, ?_, Safe.settled hknown (fun _ _ _ _ _ h _ => knownSnapshot_reads h) hsettle hget⟩
    · intro t hrun
      exact hpanic (hrun.settled hknown hsettle hget).1.symm
    · intro o' t hrun
      rw [(hrun.settled hknown hsettle hget).1]
      exact hok

def labelledSnapshot (status : SnapshotStatus) : VolumeSnapshot where
  ns := "ns"
  name := "snap"
  labels := some [(labelSnapHostSC, "longhorn"), (labelSnapHostVolumeMode, "Block")]
  persistentVolumeClaimName := some "v"
  status := some status

def snapshotRequest : CreateSnapshotRequest where
  name := "snap"
  sourceVolumeId := "v"

def snapshotHost (status : SnapshotStatus) : Cluster :=
  { Cluster.empty with snapshots := Cluster.empty.snapshots.put (labelledSnapshot status) }

theorem answered_when_ready_sized :
    let status : SnapshotStatus := { readyToUse := some true, restoreSize := some 1073741824 }
    AnsweredWhenReady exampleServer snapshotRequest (labelledSnapshot status)
    (snapshotHost status) := by
  intro status
  refine (answered_when_ready_iff (by decide) (by decide) rfl rfl (by decide +kernel)).mpr ?_
  rintro _ ⟨⟩
  simp [status]

/-- A snapshot that is ready and reports no size. -/
theorem ready_without_size :
    let status : SnapshotStatus := { readyToUse := some true }
    (labelledSnapshot status).Ready ∧
      run Cluster.serve (exampleServer.createSnapshot snapshotRequest) (snapshotHost status) =
        (.panic, snapshotHost status) ∧
      ¬ AnsweredWhenReady exampleServer snapshotRequest (labelledSnapshot status)
      (snapshotHost status) := by
  intro status
  have hrun :
      run Cluster.serve (exampleServer.createSnapshot snapshotRequest) (snapshotHost status) =
      (.panic, snapshotHost status) := rfl
  exact ⟨⟨status, rfl, rfl, rfl⟩, hrun, fun h => h.total _ (KeepsSnapshot.runs _ hrun)⟩

end HarvesterCSI
