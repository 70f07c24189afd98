import HarvesterCSI.Controller.Snapshots
import HarvesterCSI.Laws.Deletion

/-!
# A volume restored from a local snapshot

The shape of a claim travels in two labels of its snapshot and is read back by
another builder, which shares no code with the first.
-/

namespace HarvesterCSI

open Calls Calls.Prog

structure PVC.Alike (source restored : PVC) : Prop where
  storageClassName : restored.storageClassName = source.storageClassName
  volumeMode : restored.volumeMode = source.volumeMode
  accessModes : restored.accessModes = source.accessModes
  forVM : restored.annotations.lookup annoFSVolumeForVM =
    source.annotations.lookup annoFSVolumeForVM

/-- A filesystem on a storage class that is asked for by name, that the host lets
the driver read and that is not on Longhorn. -/
def ForeignFilesystem (faults : Op → Option Fault) (req : CreateVolumeRequest) (s : Cluster) :
    Prop :=
  ControllerServer.scratchVolumeMode req.volumeCapabilities (req.parameters.getD []) = .filesystem ∧
    ∃ val sc, (req.parameters.getD []).lookup paramHostSC = some val ∧
      faults (.getStorageClass val) = none ∧ s.storageClasses.get val = some sc ∧
      sc.provisioner ≠ longhornProvisioner

structure Snapshotted (cs : ControllerServer) (snap : VolumeSnapshot) (pvc : PVC) (t : Cluster) :
    Prop where
  stored : ∃ hostSnap, t.snapshots.get (cs.ns, snap.name) = some hostSnap ∧
  hostSnap.labels = snap.labels
  storageClass : ∀ name, pvc.storageClassName = some name →
    ∃ sc, t.storageClasses.get name = some sc

namespace ControllerServer

variable {cs : ControllerServer} {faults : Op → Option Fault}

-- ---------------------------------------------------------------------------
-- What the first builder writes
-- ---------------------------------------------------------------------------

theorem getVolumeMode_cases (h : cs.validateVolumeCapabilities vc = .ok ()) :
    getVolumeMode vc = .block ∨ getVolumeMode vc = .filesystem := by
  cases vc with
  | nil => cases h
  | cons cap rest =>
    obtain ⟨_, hcap, -⟩ := bind_eq_ok.mp h
    rcases validateVolumeCapability_ok hcap with hmode | hmode <;> simp [getVolumeMode, hmode]

/-- The mode of an accepted request survives being written into a label. -/
theorem parseVolumeMode_scratch (h : cs.Accepts req) :
    parseVolumeMode (scratchVolumeMode req.volumeCapabilities (req.parameters.getD [])).text =
      some (scratchVolumeMode req.volumeCapabilities (req.parameters.getD [])) := by
  unfold scratchVolumeMode
  split
  · rfl
  · rcases getVolumeMode_cases h.checks.2.1 with hmode | hmode <;> rw [hmode] <;> rfl

theorem getStorageClass_foreign_iff
    (h : run (Cluster.faulty faults) (cs.getStorageClass vp) s = (.ok (name, provisioner), u)) :
    provisioner ≠ longhornProvisioner ↔
      ∃ val sc, vp.lookup paramHostSC = some val ∧ faults (.getStorageClass val) = none ∧
        s.storageClasses.get val = some sc ∧ sc.provisioner ≠ longhornProvisioner := by
  unfold getStorageClass at h
  cases hparam : vp.lookup paramHostSC with
  | none =>
    rw [hparam] at h
    cases h
    simp
  | some val =>
    simp only [hparam, validStorageClass, request_bind, call_bind, run_call] at h
    simp only [Option.some.injEq, exists_and_left, exists_eq_left']
    rcases hfault : faults (.getStorageClass val) with _ | (⟨e, he, acts⟩ | _)
    · simp only [Cluster.faulty, hfault, Cluster.serve] at h
      rcases hclass : s.storageClasses.get val with _ | sc
      · rcases missing_reason "storageclasses.storage.k8s.io" val with hreason | hreason <;>
          simp [hclass, hreason] at h
      · simp [hclass, found] at h
        simp [h.1.2]
    · -- an older host forbids the read, and any other error is returned
      simp only [Cluster.faulty, hfault] at h
      split at h
      · simp at h
        simp [h.1.2]
      · simp at h
      · simp at h
    · rcases missing_reason "storageclasses.storage.k8s.io" val with hreason | hreason <;>
        simp [Cluster.faulty, hfault, Cluster.serve, Cluster.without, hreason] at h

theorem buildHostPVCFromScratch_ok
    (h : run (Cluster.faulty faults) (cs.buildHostPVCFromScratch name vc vp size) s =
      (.ok pvc, u)) :
    ∃ sc provisioner, run (Cluster.faulty faults) (cs.getStorageClass vp) s =
      (.ok (sc, provisioner), u) ∧
      pvc = cs.scratchPVC name vc vp size sc provisioner := by
  rw [buildHostPVCFromScratch, run_bind] at h
  rcases hclass : run (Cluster.faulty faults) (cs.getStorageClass vp) s with
    ⟨⟨sc, provisioner⟩ | _ | _, v⟩ <;>
    rw [hclass] at h
  · obtain ⟨rfl, rfl⟩ :
        cs.scratchPVC name vc vp size sc provisioner = pvc ∧ v = u := by simpa using h
    exact ⟨sc, provisioner, rfl, rfl⟩
  · simp at h
  · simp at h

-- ---------------------------------------------------------------------------
-- What the second one reads back
-- ---------------------------------------------------------------------------

def snapPVC (cs : ControllerServer) (name snapName sc : String) (mode : VolumeMode) (size : Int64) :
    PVC where
  ns := cs.ns
  name := name
  accessModes := [.readWriteMany]
  volumeMode := some mode
  storageClassName := some sc
  requests := some { storage := some size }
  dataSource := some ⟨snapshotGroupName, volumeSnapshotKind, snapName⟩

theorem run_buildHostPVCFromSnap (hget : t.snapshots.get (cs.ns, snapId) = some hostSnap)
    (hlabels : hostSnap.labels = some [(labelSnapHostSC, sc), (labelSnapHostVolumeMode, text)])
    (hmode : parseVolumeMode text = some mode)
    (hclass : t.storageClasses.get sc = some storageClass) :
    run Cluster.serve (cs.buildHostPVCFromSnap name snapId size) t =
      (.ok (cs.snapPVC name hostSnap.name sc mode size), t) := by
  have hvalid : cs.validateHostSnapLabels hostSnap = .ok () := by
    rw [validateHostSnapLabels, hlabels]
    rfl
  have hsc : List.lookup labelSnapHostSC
      [(labelSnapHostSC, sc), (labelSnapHostVolumeMode, text)] = some sc := rfl
  have htext : List.lookup labelSnapHostVolumeMode
      [(labelSnapHostSC, sc), (labelSnapHostVolumeMode, text)] = some text := rfl
  simp only [buildHostPVCFromSnap, request_bind, run_call, Cluster.serve, hget, found, hvalid,
    ok_bind, hlabels, Option.getD_some, hsc, htext, hclass, hmode]
  rfl

end ControllerServer

/-- Only the mark of the first builder can be missing from the second claim. -/
theorem alike_snapPVC_iff (cs : ControllerServer) (hsc : sc ≠ "") :
    (cs.scratchPVC volume vc vp size sc provisioner).Alike
        (cs.snapPVC name snapName sc (ControllerServer.scratchVolumeMode vc vp) newSize) ↔
      ¬ (ControllerServer.scratchVolumeMode vc vp = .filesystem ∧
        provisioner ≠ longhornProvisioner) := by
  constructor
  · intro h hmarked
    have hforVM := h.forVM
    simp [ControllerServer.scratchPVC, ControllerServer.snapPVC, hmarked] at hforVM
  · intro hplain
    constructor
    · simp [ControllerServer.scratchPVC, ControllerServer.snapPVC, hsc]
    · rfl
    · rfl
    · simp only [ControllerServer.scratchPVC, if_neg hplain]
      rfl

/-- The claim made from the snapshot of a new claim is like it, except that the mark
of a filesystem outside Longhorn is lost. -/
theorem restored_alike_iff (haccepts : cs.Accepts req)
    (hbuild : run (Cluster.faulty faults)
      (cs.buildHostPVCFromScratch req.name req.volumeCapabilities (req.parameters.getD [])
        (cs.volSize req)) s = (.ok pvc, u))
    (hsnap : cs.generateHostSnapManifest snapName hostSnapClass pvc = .ok snap)
    (hkept : Snapshotted cs snap pvc t) (name : String) (size : Int64) :
    ∃ restored, run Cluster.serve (cs.buildHostPVCFromSnap name snap.name size) t =
      (.ok restored, t) ∧
      (pvc.Alike restored ↔ ¬ ForeignFilesystem faults req s) := by
  obtain ⟨sc, provisioner, hclass, rfl⟩ := ControllerServer.buildHostPVCFromScratch_ok hbuild
  obtain ⟨hostSnap, hget, hlabels⟩ := hkept.stored
  by_cases hsc : sc = ""
  · simp [ControllerServer.generateHostSnapManifest, ControllerServer.scratchPVC, hsc] at hsnap
  · have hname :
        (cs.scratchPVC req.name req.volumeCapabilities (req.parameters.getD []) (cs.volSize req)
        sc provisioner).storageClassName = some sc := if_pos hsc
    obtain ⟨storageClass, hstored⟩ := hkept.storageClass sc hname
    rw [ControllerServer.generateHostSnapManifest, hname] at hsnap
    cases hsnap
    refine ⟨_, ControllerServer.run_buildHostPVCFromSnap hget hlabels
      (ControllerServer.parseVolumeMode_scratch haccepts) hstored, ?_⟩
    rw [alike_snapPVC_iff cs hsc, ControllerServer.getStorageClass_foreign_iff hclass,
      ForeignFilesystem]

def foreignHost : Cluster :=
  { Cluster.empty with
    storageClasses :=
      Cluster.empty.storageClasses.put { name := "fast", provisioner := "other.csi" } }

def foreignRequest (mode : StringMap) : CreateVolumeRequest where
  name := "v"
  requiredBytes := some 1073741824
  volumeCapabilities := [singleWriter]
  parameters := some ((paramHostSC, "fast") :: mode)

def foreignPVC (mode : StringMap) : PVC :=
  exampleServer.scratchPVC "v" [singleWriter] ((paramHostSC, "fast") :: mode) 1073741824 "fast"
  "other.csi"

def foreignSnapshot (mode : VolumeMode) : VolumeSnapshot where
  ns := "ns"
  name := "snap"
  labels := some [(labelSnapHostSC, "fast"), (labelSnapHostVolumeMode, mode.text)]
  persistentVolumeClaimName := some "v"
  volumeSnapshotClassName := some "snapclass"

def foreignSnapshotted (mode : VolumeMode) : Cluster :=
  { foreignHost with snapshots := foreignHost.snapshots.put (foreignSnapshot mode) }

theorem snapshotted_foreign (mode : StringMap) (m : VolumeMode) :
    Snapshotted exampleServer (foreignSnapshot m) (foreignPVC mode) (foreignSnapshotted m) where
  stored := ⟨foreignSnapshot m, by cases m <;> rfl, rfl⟩
  storageClass := by
    intro name hname
    cases hname
    exact ⟨{ name := "fast", provisioner := "other.csi" }, rfl⟩

/-- A block device is restored as it was. -/
theorem restored_alike_block :
    ¬ ForeignFilesystem (fun _ => none) (foreignRequest []) foreignHost ∧
      ∃ restored, run Cluster.serve (exampleServer.buildHostPVCFromSnap "w" "snap" 1073741824)
          (foreignSnapshotted .block) = (.ok restored, foreignSnapshotted .block) ∧
        (foreignPVC []).Alike restored := by
  have hblock : ¬ ForeignFilesystem (fun _ => none) (foreignRequest []) foreignHost :=
    fun h => absurd h.1 (by decide)
  have haccepts : exampleServer.Accepts (foreignRequest []) := ⟨_, rfl⟩
  have hbuild :
      run (Cluster.faulty fun _ => none) (exampleServer.buildHostPVCFromScratch "v" [singleWriter]
      [(paramHostSC, "fast")] (exampleServer.volSize (foreignRequest []))) foreignHost =
      (.ok (foreignPVC []), foreignHost) := rfl
  have hsnap : exampleServer.generateHostSnapManifest "snap" "snapclass" (foreignPVC []) =
      .ok (foreignSnapshot .block) := rfl
  obtain ⟨restored, hrun, halike⟩ :=
    restored_alike_iff haccepts hbuild hsnap (snapshotted_foreign [] .block) "w" 1073741824
  exact ⟨hblock, restored, hrun, halike.mpr hblock⟩

/-- The claim of a filesystem is marked, and the restored one is not. -/
theorem restored_without_mark :
    let filesystem : StringMap := [(paramHostVolMode, "filesystem")]
    exampleServer.Accepts (foreignRequest filesystem) ∧
      run Cluster.serve (exampleServer.buildHostPVCFromScratch "v" [singleWriter]
          ((paramHostSC, "fast") :: filesystem) 1073741824) foreignHost =
        (.ok (foreignPVC filesystem), foreignHost) ∧
      exampleServer.generateHostSnapManifest "snap" "snapclass" (foreignPVC filesystem) =
        .ok (foreignSnapshot .filesystem) ∧
      (foreignPVC filesystem).annotations.lookup annoFSVolumeForVM = some "true" ∧
      run Cluster.serve (exampleServer.buildHostPVCFromSnap "w" "snap" 1073741824)
          (foreignSnapshotted .filesystem) =
        (.ok (exampleServer.snapPVC "w" "snap" "fast" .filesystem 1073741824),
          foreignSnapshotted .filesystem) ∧
      ¬ (foreignPVC filesystem).Alike
        (exampleServer.snapPVC "w" "snap" "fast" .filesystem 1073741824) := by
  refine ⟨⟨_, rfl⟩, rfl, rfl, rfl, rfl, ?_⟩
  intro h
  exact absurd h.forVM (by decide)

end HarvesterCSI
