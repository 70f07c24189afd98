import HarvesterCSI.Controller.Volumes

/-!
# What CreateVolume does when it returns

The stages of the call, each with what is known once it has succeeded. They hold
for any interference `rel` and any answers `api`.
-/

namespace HarvesterCSI

open Calls Calls.Prog

namespace ControllerServer
variable {cs : ControllerServer} {rel : Cluster → Cluster → Prop}
  {api : (op : Op) → Cluster → op.Res → Cluster → Prop}

-- ---------------------------------------------------------------------------
-- Requests
-- ---------------------------------------------------------------------------

def Accepts (cs : ControllerServer) (req : CreateVolumeRequest) : Prop :=
  ∃ r, cs.validateCreateVolReq req = .ok r

theorem validateControllerServiceRequest_create :
    cs.validateControllerServiceRequest .createDeleteVolume = .ok () := rfl

theorem validateVolumeCapabilities_pure (caps : List VolumeCapability) :
    (cs.validateVolumeCapabilities caps).Uses fun _ => False := by
  have hone (cap : VolumeCapability) : (cs.validateVolumeCapability cap).Uses fun _ => False := by
    unfold validateVolumeCapability
    repeat' split
    all_goals trivial
  have hall : (validateVolumeCapabilities.go cs caps).Uses fun _ => False := by
    induction caps with
    | nil => trivial
    | cons cap rest ih => exact (hone cap).bind fun _ => ih
  unfold validateVolumeCapabilities
  split
  · trivial
  · exact hall

theorem validateVolumeCapability_ok (h : cs.validateVolumeCapability cap = .ok ()) :
    cap.mode = .singleNodeWriter ∨ cap.mode = .multiNodeMultiWriter := by
  unfold validateVolumeCapability at h
  split at h
  · cases h
  · split at h
    · cases h
    · split at h
      · rename_i hmode
        unfold accessModes at hmode
        split at hmode <;> simp at hmode <;> simp [hmode]
      · split at h <;> cases h

theorem validateVolumeContentSource_pure (vcs : Option VolumeContentSource)
    (vc : List VolumeCapability) :
    (cs.validateVolumeContentSource vcs vc).Uses fun _ => False := by
  unfold validateVolumeContentSource
  repeat' split
  all_goals trivial

theorem validateCreateVolReq_pure (cs : ControllerServer) (req : CreateVolumeRequest) :
    (cs.validateCreateVolReq req).Uses fun _ => False := by
  simp only [validateCreateVolReq, validateControllerServiceRequest_create, ok_orElse, ok_bind]
  split
  · trivial
  · exact (validateVolumeCapabilities_pure _).bind fun _ =>
      (validateVolumeContentSource_pure _ _).bind fun _ => trivial

theorem Accepts.checks (h : cs.Accepts req) :
    req.name ≠ "" ∧ cs.validateVolumeCapabilities req.volumeCapabilities = .ok () ∧
      cs.validateCreateVolReq req = .ok (req.parameters.getD [], cs.volSize req) := by
  obtain ⟨r, h⟩ := h
  simp only [validateCreateVolReq, validateControllerServiceRequest_create, ok_orElse,
    ok_bind] at h ⊢
  split at h
  · cases h
  · rename_i hname
    obtain ⟨_, hcaps, h⟩ := bind_eq_ok.mp h
    obtain ⟨_, hsource, _⟩ := bind_eq_ok.mp h
    simp [hname, hcaps, hsource]

-- ---------------------------------------------------------------------------
-- The call
-- ---------------------------------------------------------------------------

theorem isBackupSnapshotRestore_eq (req : CreateVolumeRequest) :
    cs.isBackupSnapshotRestore req = (parseSnapshotID req.snapshotId).1 := by
  unfold isBackupSnapshotRestore CreateVolumeRequest.snapshotId
  rcases req.volumeContentSource with _ | (_ | _ | _) <;> rfl

theorem createVolume_eq (h : cs.Accepts req) :
    cs.createVolume ticks req =
      if cs.isBackupSnapshotRestore req then
        cs.buildHostVolumeRemoteRestore req (req.parameters.getD [])
      else cs.buildHostPVC req (req.parameters.getD []) (cs.volSize req) >>= fun hostPVC =>
        .call (.createPVC hostPVC) fun
          | .error e => .error (.status .internal e.message)
          | .ok resHostPVC => createVolume.exportVolume cs ticks resHostPVC >>= fun _ =>
            .ok ⟨resHostPVC.name, cs.volSize req, req.parameters.getD [],
              req.volumeContentSource⟩ := by
  unfold createVolume
  rw [h.checks.2.2]
  rfl

theorem Accepts.of_runs (h : Runs rel api (cs.createVolume ticks req) s (.ok resp) t) :
    cs.Accepts req := by
  have hpure := validateCreateVolReq_pure cs req
  unfold createVolume at h
  cases hv : cs.validateCreateVolReq req with
  | ok r => exact ⟨r, hv⟩
  | error e =>
    rw [hv] at h
    exact absurd h.1 (by simp)
  | panic =>
    rw [hv] at h
    exact absurd h.1 (by simp)
  | call op k =>
    rw [hv] at hpure
    exact hpure.1.elim

theorem createVolume_ok (hrefl : ∀ s, rel s s) (htrans : ∀ s t u, rel s t → rel t u → rel s u)
    (hbackup : cs.isBackupSnapshotRestore req = false)
    (h : Runs rel api (cs.createVolume ticks req) s (.ok resp) t) :
    ∃ hostPVC s₁ s₂ resHostPVC s₃,
      Runs rel api (cs.buildHostPVC req (req.parameters.getD []) (cs.volSize req)) s
        (.ok hostPVC) s₁ ∧
      rel s₁ s₂ ∧ api (.createPVC hostPVC) s₂ (.ok resHostPVC) s₃ ∧
      Runs rel api (createVolume.exportVolume cs ticks resHostPVC) s₃ (.ok ()) t ∧
      resp =
        ⟨resHostPVC.name, cs.volSize req, req.parameters.getD [], req.volumeContentSource⟩ := by
  rw [createVolume_eq (.of_runs h), if_neg (by simp [hbackup])] at h
  obtain ⟨hostPVC, s₁, hbuild, s₂, r, s₃, hmove, hcreate, h⟩ := h.bind_ok hrefl
  cases r with
  | error e => exact absurd h.1 (by simp)
  | ok resHostPVC =>
    obtain ⟨_, u, hexport, hresp, hmove'⟩ := h.bind_ok hrefl
    exact ⟨hostPVC, s₁, s₂, resHostPVC, s₃, hbuild, hmove, hcreate, hexport.after htrans hmove',
      by simpa using hresp⟩

theorem buildHostPVC_scratch_ok (hrefl : ∀ s, rel s s) (hscratch : req.volumeContentSource = none)
    (h : Runs rel api (cs.buildHostPVC req vp size) s (.ok pvc) t) :
    ∃ sc provisioner u, Runs rel api (cs.getStorageClass vp) s (.ok (sc, provisioner)) u ∧ rel u t ∧
      pvc = cs.scratchPVC req.name req.volumeCapabilities vp size sc provisioner := by
  simp only [buildHostPVC, hscratch, buildHostPVCFromScratch] at h
  obtain ⟨⟨sc, provisioner⟩, u, hsc, hpvc, hmove⟩ := h.bind_ok hrefl
  exact ⟨sc, provisioner, u, hsc, hmove, by simpa using hpvc⟩

theorem buildHostPVC_snapshot_ok (hrefl : ∀ s, rel s s)
    (hsnap : req.volumeContentSource = some (.snapshot snapId))
    (h : Runs rel api (cs.buildHostPVC req vp size) s (.ok pvc) t) :
    ∃ s₁ hostSnap s₂, rel s s₁ ∧ api (.getSnapshot cs.ns snapId) s₁ (.ok hostSnap) s₂ ∧
      pvc.ns = cs.ns ∧ pvc.name = req.name ∧
      pvc.dataSource = some ⟨snapshotGroupName, volumeSnapshotKind, hostSnap.name⟩ := by
  simp only [buildHostPVC, hsnap, buildHostPVCFromSnap, request_bind] at h
  obtain ⟨s₁, r, s₂, hmove, hget, h⟩ := h
  cases r with
  | error e => exact absurd h.1 (by simp)
  | ok hostSnap =>
    refine ⟨s₁, hostSnap, s₂, hmove, hget, ?_⟩
    obtain ⟨_, u, -, s₃, r, s₄, -, -, h⟩ := h.bind_ok hrefl
    cases r with
    | error e => exact absurd h.1 (by simp)
    | ok sc =>
      dsimp only at h
      split at h
      · exact absurd h.1 (by simp)
      · obtain ⟨hpvc, -⟩ := h
        cases hpvc
        exact ⟨rfl, rfl, rfl⟩

/-- What a claim made from a snapshot asks for is not rounded. -/
theorem buildHostPVC_snapshot_requests (hrefl : ∀ s, rel s s)
    (hsnap : req.volumeContentSource = some (.snapshot snapId))
    (h : Runs rel api (cs.buildHostPVC req vp size) s (.ok pvc) t) :
    pvc.requests = some { storage := some size } := by
  simp only [buildHostPVC, hsnap, buildHostPVCFromSnap, request_bind] at h
  obtain ⟨s₁, r, s₂, hmove, hget, h⟩ := h
  cases r with
  | error e => exact absurd h.1 (by simp)
  | ok hostSnap =>
    obtain ⟨_, u, -, s₃, r, s₄, -, -, h⟩ := h.bind_ok hrefl
    cases r with
    | error e => exact absurd h.1 (by simp)
    | ok sc =>
      dsimp only at h
      split at h
      · exact absurd h.1 (by simp)
      · obtain ⟨hpvc, -⟩ := h
        cases hpvc
        rfl

theorem buildHostPVC_key (hrefl : ∀ s, rel s s)
    (h : Runs rel api (cs.buildHostPVC req vp size) s (.ok pvc) t) :
    pvc.ns = cs.ns ∧ pvc.name = req.name := by
  rcases hsource : req.volumeContentSource with _ | (snapId | _ | _)
  · obtain ⟨sc, provisioner, u, -, -, rfl⟩ := buildHostPVC_scratch_ok hrefl hsource h
    exact ⟨rfl, rfl⟩
  · obtain ⟨-, -, -, -, -, hns, hname, -⟩ := buildHostPVC_snapshot_ok hrefl hsource h
    exact ⟨hns, hname⟩
  all_goals
    simp only [buildHostPVC, hsource] at h
    exact absurd h.1 (by simp)

def BuildOp : Op → Prop
  | .getStorageClass _ | .getSnapshot .. => True
  | _ => False

theorem BuildOp.state (hop : BuildOp op) (h : Cluster.Serves op s r t) : t = s := by
  obtain rfl := (congrArg Prod.snd h).symm
  cases op <;> first | exact hop.elim | rfl

theorem getStorageClass_uses (vp : StringMap) : (cs.getStorageClass vp).Uses BuildOp := by
  unfold getStorageClass validStorageClass
  split
  · trivial
  · refine Uses.bind ⟨trivial, fun r => ?_⟩ fun _ => trivial
    cases r with
    | ok sc => trivial
    | error e =>
      obtain ⟨reason, message⟩ := e
      cases reason <;> trivial

theorem validateHostSnapLabels_pure (cs : ControllerServer) (hostSnap : VolumeSnapshot) :
    (cs.validateHostSnapLabels hostSnap).Uses P := by
  unfold validateHostSnapLabels
  repeat' split
  all_goals trivial

theorem buildHostPVC_uses (req : CreateVolumeRequest) (vp : StringMap) (size : Int64) :
    (cs.buildHostPVC req vp size).Uses BuildOp := by
  unfold buildHostPVC
  split
  · exact (getStorageClass_uses vp).bind fun _ => trivial
  · simp only [buildHostPVCFromSnap, request_bind]
    refine ⟨trivial, fun r => ?_⟩
    cases r with
    | error e => trivial
    | ok hostSnap =>
      refine (validateHostSnapLabels_pure cs hostSnap).bind fun _ => ⟨trivial, fun r => ?_⟩
      cases r with
      | error e => trivial
      | ok sc =>
        dsimp only
        split <;> trivial
  · trivial

def ExportOp : Op → Prop
  | .getStorageClass _ | .getPVC .. | .createNetworkFS _ => True
  | _ => False

theorem ExportOp.pvcs (hop : ExportOp op) (h : Cluster.Answers op s r t) :
    t.pvcs = s.pvcs := by
  rcases h with h | ⟨rfl, -⟩
  · obtain rfl := (congrArg Prod.snd h).symm
    cases op <;> first | exact hop.elim | skip
    · rfl
    · rfl
    · dsimp only [Cluster.serve]
      split <;> rfl
  · rfl

def LookupOp : Op → Prop
  | .getStorageClass _ => True
  | _ => False

theorem LookupOp.export (op : Op) (hop : LookupOp op) : ExportOp op := by
  cases op <;> first | exact hop.elim | trivial

theorem isLHRWXVolume_uses (cs : ControllerServer) (pvc : PVC) :
    (cs.isLHRWXVolume pvc).Uses LookupOp := by
  have hgo (modes : List PVCAccessMode) : (isLHRWXVolume.go pvc modes).Uses LookupOp := by
    induction modes with
    | nil => trivial
    | cons mode rest ih =>
      simp only [isLHRWXVolume.go, request_bind]
      split
      · exact ih
      · split
        · trivial
        · refine ⟨trivial, fun r => ?_⟩
          cases r with
          | error e => exact ih
          | ok sc =>
            dsimp only
            split
            · trivial
            · exact ih
  unfold isLHRWXVolume
  split
  · exact hgo _
  · trivial

theorem isLHRWXVolume_shared (cs : ControllerServer) (hmode : pvc.volumeMode = some .filesystem)
    (hmodes : .readWriteMany ∈ pvc.accessModes) (hsc : pvc.storageClassName = some name) :
    ∃ k, cs.isLHRWXVolume pvc = .call (.getStorageClass name) k ∧
      ∀ sc, sc.provisioner = longhornProvisioner → k (.ok sc) = .ok true := by
  have hgo {modes : List PVCAccessMode} (hmodes : .readWriteMany ∈ modes) :
      ∃ k, isLHRWXVolume.go pvc modes = .call (.getStorageClass name) k ∧
        ∀ sc, sc.provisioner = longhornProvisioner → k (.ok sc) = .ok true := by
    induction modes with
    | nil => cases hmodes
    | cons mode rest ih =>
      simp only [isLHRWXVolume.go, hsc, request_bind]
      split
      · rename_i hne
        exact ih ((List.mem_cons.mp hmodes).resolve_left fun h => hne h.symm)
      · exact ⟨_, rfl, fun sc hprov => if_pos hprov⟩
  rw [isLHRWXVolume, if_pos hmode]
  exact hgo hmodes

theorem waitForLHVolumeName_uses (name : String) (ticks : Nat) :
    (cs.waitForLHVolumeName name ticks).Uses ExportOp := by
  induction ticks with
  | zero => trivial
  | succ ticks ih =>
    simp only [waitForLHVolumeName, request_bind]
    refine ⟨trivial, fun r => ?_⟩
    cases r with
    | error e => trivial
    | ok pvc =>
      dsimp only
      split
      · exact ih
      · trivial

theorem createNetworkFilesystem_uses (cs : ControllerServer) (name : String) :
    (cs.createNetworkFilesystem name).Uses ExportOp := by
  simp only [createNetworkFilesystem, request_bind]
  refine ⟨trivial, fun r => ?_⟩
  cases r with
  | ok fs => trivial
  | error e =>
    dsimp only
    split <;> trivial

theorem exportVolume_uses (pvc : PVC) : (createVolume.exportVolume cs ticks pvc).Uses ExportOp := by
  unfold createVolume.exportVolume
  refine ((isLHRWXVolume_uses cs pvc).mono LookupOp.export).bind fun shared => ?_
  split
  · refine (waitForLHVolumeName_uses _ _).bind fun bound => ?_
    split
    · refine ⟨trivial, fun r => ?_⟩
      cases r with
      | error e => trivial
      | ok pvc => exact (createNetworkFilesystem_uses cs _).orElse fun _ => trivial
    · trivial
  · trivial

end ControllerServer

-- ---------------------------------------------------------------------------
-- A server and a request
-- ---------------------------------------------------------------------------

def exampleServer : ControllerServer where
  ns := "ns"
  hostStorageClass := "longhorn"
  useDeclarativeHotplug := true
  networkFSListable := true

def singleWriter : VolumeCapability where
  mount := true
  accessMode := some .singleNodeWriter

end HarvesterCSI
