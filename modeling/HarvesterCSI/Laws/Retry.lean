import HarvesterCSI.Laws.Create

/-!
# Retrying CreateVolume

A caller that got no answer, or an error, asks again. By then the host object may
be there.
-/

namespace HarvesterCSI

open Calls Calls.Prog

/-- The host object of the request is there and ready: the restore of a backup,
otherwise the claim. -/
def HostReady (cs : ControllerServer) (req : CreateVolumeRequest) (s : Cluster) : Prop :=
  if cs.isBackupSnapshotRestore req then
    ∃ vrr, s.restores.get (cs.ns, req.name) = some vrr ∧ vrr.success = true
  else ∃ pvc, s.pvcs.get (cs.ns, req.name) = some pvc ∧ pvc.phase = .bound

def RetryReturns (cs : ControllerServer) (ticks : Nat) (req : CreateVolumeRequest) (s : Cluster) :
    Prop :=
  ∃ resp t, run Cluster.serve (cs.createVolume ticks req) s = (.ok resp, t) ∧
    resp.volumeId = req.name ∧ t.pvcs = s.pvcs ∧ t.restores = s.restores

section
variable {cs : ControllerServer}

theorem createVolume_existing (hbackup : cs.isBackupSnapshotRestore req = false)
    (hpvc : s.pvcs.get (cs.ns, req.name) = some pvc) :
    run Cluster.serve (cs.createVolume ticks req) s ≠ (.ok resp, t) := by
  intro h
  obtain ⟨hostPVC, s₁, s₂, res, s₃, hbuild, rfl, hcreate, -, -⟩ :=
    ControllerServer.createVolume_ok (fun _ => rfl) (fun _ _ _ => Eq.trans) hbackup
    (Cluster.runs_of_run h)
  obtain ⟨hns, hname⟩ := ControllerServer.buildHostPVC_key (fun _ => rfl) hbuild
  have hsame : s₁ = s :=
    hbuild.unchanged (ControllerServer.buildHostPVC_uses _ _ _) fun _ _ _ _ hop => hop.state
  have hnone := hcreate.answers.createPVC_ok.1
  rw [hsame, hns, hname, hpvc] at hnone
  cases hnone

theorem createVolume_restored (ticks : Nat) (hacc : cs.Accepts req)
    (hbackup : cs.isBackupSnapshotRestore req = true)
    (hvrr : s.restores.get (cs.ns, req.name) = some vrr) (hdone : vrr.success = true) :
    run Cluster.serve (cs.createVolume ticks req) s =
      match s.backups.get (parseSnapshotID req.snapshotId).2 with
      | some vrb => (.ok ⟨vrr.name, (vrb.sourceRequests.getD {}).storageValue,
          req.parameters.getD [], req.volumeContentSource⟩, s)
      | none => (.error (.api (missing "volumeremotebackups.harvesterhci.io"
          (parseSnapshotID req.snapshotId).2.2)), s) := by
  have hname : vrr.name = req.name := congrArg Prod.snd (Store.get_key hvrr)
  rw [ControllerServer.createVolume_eq hacc, if_pos hbackup]
  rw [ControllerServer.isBackupSnapshotRestore_eq] at hbackup
  obtain ⟨vrbNs, vrbName, hparse⟩ : ∃ vrbNs vrbName,
      parseSnapshotID req.snapshotId = (true, vrbNs, vrbName) := ⟨_, _, Prod.ext hbackup rfl⟩
  simp only [ControllerServer.buildHostVolumeRemoteRestore, hparse, request_bind, run_call,
    Cluster.serve]
  cases s.backups.get (vrbNs, vrbName) with
  | none => rfl
  | some vrb =>
    simp [ControllerServer.buildHostVolumeRemoteRestoreFromBackup,
      ControllerServer.getOrCreateVolumeRemoteRestore,
      ControllerServer.checkVolumeRemoteRestoreReadiness, Cluster.serve, hvrr, hname, hdone]

/-- Once the host object is there and ready, however that came about, repeating
the request returns the volume exactly if it restores a backup that still exists. -/
theorem retry_returns_iff (hacc : cs.Accepts req) (hready : HostReady cs req s) :
    RetryReturns cs ticks req s ↔ cs.isBackupSnapshotRestore req = true ∧
      ∃ vrb, s.backups.get (parseSnapshotID req.snapshotId).2 = some vrb := by
  cases hbackup : cs.isBackupSnapshotRestore req with
  | false =>
    obtain ⟨pvc, hpvc, -⟩ :
        ∃ pvc, s.pvcs.get (cs.ns, req.name) = some pvc ∧ pvc.phase = .bound := by
      simpa [HostReady, hbackup] using hready
    refine iff_of_false ?_ (by simp)
    rintro ⟨resp, t, hrun, -⟩
    exact createVolume_existing hbackup hpvc hrun
  | true =>
    obtain ⟨vrr, hvrr, hdone⟩ : ∃ vrr, s.restores.get (cs.ns, req.name) = some vrr ∧
        vrr.success = true := by
      simpa [HostReady, hbackup] using hready
    rw [RetryReturns, createVolume_restored ticks hacc hbackup hvrr hdone]
    cases s.backups.get (parseSnapshotID req.snapshotId).2 with
    | none => simp
    | some vrb =>
      refine iff_of_true ⟨_, _, rfl, ?_, rfl, rfl⟩ ⟨rfl, vrb, rfl⟩
      exact congrArg Prod.snd (Store.get_key hvrr)

end

theorem retry_restore_returns :
    let req : CreateVolumeRequest :=
      { name := "v", volumeCapabilities := [singleWriter],
        volumeContentSource := some (.snapshot "backup:other/b") }
    let s := { Cluster.empty with
      backups := Cluster.empty.backups.put { ns := "other", name := "b" }
      restores := Cluster.empty.restores.put { ns := "ns", name := "v", success := true } }
    RetryReturns exampleServer 0 req s := by
  intro req s
  have hready : HostReady exampleServer req s := ⟨_, rfl, rfl⟩
  exact (retry_returns_iff ⟨_, rfl⟩ hready).mpr ⟨rfl, { ns := "other", name := "b" }, by decide⟩

/-- The call returned, the claim was bound, and the same request fails. -/
theorem retry_claim_fails :
    let req : CreateVolumeRequest := { name := "v", volumeCapabilities := [singleWriter] }
    let first := run Cluster.serve (exampleServer.createVolume 0 req) .empty
    let s := first.2.setPVC
      { exampleServer.scratchPVC "v" [singleWriter] [] minimalVolumeSize "longhorn"
          longhornProvisioner with volumeName := "pvc-1", phase := .bound }
    first.1 = .ok ⟨"v", minimalVolumeSize, [], none⟩ ∧ HostReady exampleServer req s ∧
      (run Cluster.serve (exampleServer.createVolume 0 req) s).1 =
        .error (.status .internal "persistentvolumeclaims \"v\" already exists") ∧
      ¬ RetryReturns exampleServer 0 req s := by
  refine ⟨rfl, ⟨_, rfl, rfl⟩, by decide, ?_⟩
  rintro ⟨resp, t, hrun, -⟩
  cases hrun

end HarvesterCSI
