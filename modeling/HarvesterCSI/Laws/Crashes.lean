import HarvesterCSI.Laws.Effects

/-!
# Crashes

The driver reads some fields through pointers that may be nil: the storage class of a
shared claim, the requests of a claim, the volume of an attachment, the claim of a guest
volume, the mode of a capability, the status of a snapshot. A cluster in which they are
all set is intact, the driver keeps it so, and as long as it is intact no call crashes.

The one call that is left out is the CreateSnapshot of a local snapshot: what it makes has
no status until the host has written it, and crashes a listing until then.
-/

namespace HarvesterCSI

open Calls Calls.Prog

structure PVC.Sturdy (pvc : PVC) : Prop where
  storageClass : pvc.volumeMode = some .filesystem → .readWriteMany ∈ pvc.accessModes →
    pvc.storageClassName ≠ none
  requests : pvc.requests ≠ none

structure Intact (cs : ControllerServer) (s : Cluster) : Prop where
  claims : ∀ name pvc, s.pvcs.get (cs.ns, name) = some pvc → pvc.Sturdy
  hostVAs : ∀ va ∈ s.hostVAs, va.persistentVolumeName ≠ none
  guestVAs : ∀ va ∈ s.guestVAs, va.attached = true → va.persistentVolumeName ≠ none
  localPVs : ∀ name pv, s.guestPVs.get name = some pv → pv.claimRef ≠ none
  snapshots : ∀ name snap, s.snapshots.get (cs.ns, name) = some snap → snap.status ≠ none

/-- A claim with a filesystem gets a storage class. -/
def CreateVolumeRequest.Classed (cs : ControllerServer) (req : CreateVolumeRequest) : Prop :=
  ControllerServer.scratchVolumeMode req.volumeCapabilities (req.parameters.getD []) =
    .filesystem → cs.targetSC (req.parameters.getD []) ≠ ""

/-- Every capability has a mode, and a storage class is named where one is needed. -/
structure CreateVolumeRequest.Proper (cs : ControllerServer) (req : CreateVolumeRequest) :
    Prop where
  modes : ∀ cap ∈ req.volumeCapabilities, cap.accessMode ≠ none
  storageClass : req.Classed cs

def DriverCall.Proper (cs : ControllerServer) : DriverCall → Prop
  | .createVolume _ req => req.Proper cs
  | .validateVolumeCapabilities req => ∀ cap ∈ req.volumeCapabilities, cap.accessMode ≠ none
  | .createSnapshot req => ControllerServer.isBackupSnapshot req = true
  | _ => True

def Fits (cs : ControllerServer) : (op : Op) → op.Res → Prop
  | .getPVC ns _, r => ∀ pvc, r = .ok pvc → ns = cs.ns → pvc.Sturdy
  | .createPVC pvc, r => ∀ res, r = .ok res → pvc.Sturdy → res.Sturdy
  | .listHostVAs, r => ∀ vas, r = .ok vas → ∀ va ∈ vas, va.persistentVolumeName ≠ none
  | .listGuestVAs, r =>
    ∀ vas, r = .ok vas → ∀ va ∈ vas, va.attached = true → va.persistentVolumeName ≠ none
  | .getLocalPV _, r => ∀ pv, r = .ok pv → pv.claimRef ≠ none
  | .listSnapshots ns _, r =>
    ∀ snaps next, r = .ok (snaps, next) → ns = cs.ns → ∀ snap ∈ snaps, snap.status ≠ none
  | _, _ => True

theorem Intact.fits (hs : Intact cs s) (h : Wavers op s r t) : Fits cs op r := by
  cases op with
  | getPVC ns name =>
    rintro pvc rfl rfl
    exact hs.claims name pvc (found_eq_ok.mp (congrArg Prod.fst h.served))
  | createPVC pvc =>
    rintro res rfl hpvc
    obtain ⟨-, rfl, -⟩ := Cluster.Answers.createPVC_ok (.inl h.served)
    exact ⟨hpvc.storageClass, hpvc.requests⟩
  | listHostVAs =>
    rintro vas rfl
    cases h.served
    exact hs.hostVAs
  | listGuestVAs =>
    rintro vas rfl
    cases h.served
    exact hs.guestVAs
  | getLocalPV name =>
    rintro pv rfl
    exact hs.localPVs name pv (found_eq_ok.mp (congrArg Prod.fst h.served))
  | listSnapshots ns opts =>
    rintro snaps next rfl rfl snap hmem
    have hitem := page_mem (congrArg Prod.fst h.served) hmem
    obtain ⟨hstored, hns⟩ := List.mem_filter.mp hitem
    have hkey : (snap.ns, snap.name) = (cs.ns, snap.name) := by rw [of_decide_eq_true hns]
    exact hs.snapshots snap.name snap (Store.get_eq_some.mpr ⟨hstored, hkey⟩)
  | _ => trivial

-- ---------------------------------------------------------------------------
-- The driver keeps the cluster intact
-- ---------------------------------------------------------------------------

section
variable {cs : ControllerServer}

theorem ControllerServer.Builds.sturdy (h : cs.Builds req pvc) (hreq : req.Classed cs) :
    pvc.Sturdy := by
  cases h with
  | scratch provisioner =>
    refine ⟨fun hmode _ => ?_, Option.some_ne_none _⟩
    have hclass := hreq (Option.some.inj hmode)
    rw [ControllerServer.scratchPVC, if_pos hclass]
    exact Option.some_ne_none _
  | snapshot => exact ⟨fun _ _ => Option.some_ne_none _, Option.some_ne_none _⟩

theorem Intact.setPVC (hs : Intact cs s) (hpvc : pvc.Sturdy) : Intact cs (s.setPVC pvc) where
  claims name pvc' hget := by
    simp only [Cluster.setPVC, Store.get_put] at hget
    split at hget
    · cases hget
      exact ⟨hpvc.storageClass, hpvc.requests⟩
    · exact hs.claims name pvc' hget
  hostVAs := hs.hostVAs
  guestVAs := hs.guestVAs
  localPVs := hs.localPVs
  snapshots := hs.snapshots

theorem Intact.removeSnapshot (hs : Intact cs s)
    (hfound : s.snapshots.get (cs.ns, name) = some snap) :
    Intact cs (s.removeSnapshot snap) where
  claims := hs.claims
  hostVAs := hs.hostVAs
  guestVAs := hs.guestVAs
  localPVs := hs.localPVs
  snapshots other snap' hget := by
    unfold Cluster.removeSnapshot at hget
    dsimp only at hget
    split at hget
    · rw [Store.get_erase] at hget
      split at hget
      · cases hget
      · exact hs.snapshots other snap' hget
    · rw [Store.get_put] at hget
      split at hget
      · cases hget
        exact hs.snapshots name snap hfound
      · exact hs.snapshots other snap' hget

theorem Effect.intact {call : DriverCall} (h : Effect cs known call s t) (hcall : call.Proper cs)
    (hs : Intact cs s) : Intact cs t := by
  cases h with
  | createClaim hbuilds => exact hs.setPVC (hbuilds.sturdy hcall.storageClass)
  | grow hfound =>
    have hpvc := hs.claims _ _ hfound
    exact hs.setPVC ⟨hpvc.storageClass, Option.some_ne_none _⟩
  | deleteClaim =>
    refine ⟨fun name pvc hget => ?_, hs.hostVAs, hs.guestVAs, hs.localPVs, hs.snapshots⟩
    simp only [Store.get_erase] at hget
    split at hget
    · cases hget
    · exact hs.claims name pvc hget
  | createSnapshot hlocal => exact absurd (hlocal.symm.trans hcall) Bool.false_ne_true
  | deleteSnapshot _ hfound => exact hs.removeSnapshot hfound
  | _ => exact ⟨hs.claims, hs.hostVAs, hs.guestVAs, hs.localPVs, hs.snapshots⟩

def intactKept (cs : ControllerServer) : Rely Cluster where
  moves s t := VersionMoves s t ∧ (Intact cs s → Intact cs t)
  refl s := ⟨versions.refl s, id⟩
  trans h₁ h₂ := ⟨versions.trans h₁.1 h₂.1, fun hs => h₂.2 (h₁.2 hs)⟩

end

-- ---------------------------------------------------------------------------
-- Creating and deleting volumes
-- ---------------------------------------------------------------------------

abbrev CrashFree (cs : ControllerServer) (p : Api α) : Prop := p.Sound (Fits cs)

namespace ControllerServer
variable {cs : ControllerServer}

theorem validateVolumeCapabilities_sound {caps : List VolumeCapability}
    (hmodes : ∀ cap ∈ caps, cap.accessMode ≠ none) :
    CrashFree cs (cs.validateVolumeCapabilities caps) := by
  have hcap (cap : VolumeCapability) (hmode : cap.accessMode ≠ none) :
      CrashFree cs (cs.validateVolumeCapability cap) := by
    unfold validateVolumeCapability
    (repeat' split) <;> trivial
  have hgo : CrashFree cs (validateVolumeCapabilities.go cs caps) := by
    induction caps with
    | nil => trivial
    | cons cap caps ih =>
      refine (hcap cap (hmodes cap List.mem_cons_self)).seq fun _ => ?_
      exact ih fun cap' hmem => hmodes cap' (List.mem_cons_of_mem _ hmem)
  cases caps with
  | nil => trivial
  | cons cap caps => exact hgo

theorem validateCreateVolReq_sound
    (hmodes : ∀ cap ∈ req.volumeCapabilities, cap.accessMode ≠ none) :
    CrashFree cs (cs.validateCreateVolReq req) := by
  unfold validateCreateVolReq
  refine Sound.seq trivial fun _ => ?_
  split
  · trivial
  · refine (validateVolumeCapabilities_sound hmodes).seq fun _ => Sound.seq ?_ fun _ => trivial
    unfold validateVolumeContentSource
    (repeat' split) <;> trivial

theorem validateCreateVolReq_returns (req : CreateVolumeRequest) :
    (cs.validateCreateVolReq req).Returns fun r => r =
      (req.parameters.getD [], cs.volSize req) := by
  unfold validateCreateVolReq
  refine (returns_true _).bind fun _ _ => ?_
  split
  · trivial
  · exact (returns_true _).bind fun _ _ => (returns_true _).bind fun _ _ => rfl

theorem getStorageClass_sound (vp : StringMap) : CrashFree cs (cs.getStorageClass vp) := by
  unfold getStorageClass
  split
  · trivial
  · refine Sound.seq (Sound.request fun r _ => ?_) fun _ => trivial
    cases r with
    | ok sc => trivial
    | error e =>
      dsimp only
      split <;> trivial

theorem validateHostSnapLabels_sound (hostSnap : VolumeSnapshot) :
    CrashFree cs (cs.validateHostSnapLabels hostSnap) := by
  unfold validateHostSnapLabels
  (repeat' split) <;> trivial

theorem buildHostPVC_sound (req : CreateVolumeRequest) (vp : StringMap) (size : Int64) :
    CrashFree cs (cs.buildHostPVC req vp size) := by
  unfold buildHostPVC
  split
  · exact (getStorageClass_sound vp).seq fun _ => trivial
  · refine Sound.request fun r _ => ?_
    cases r with
    | error e => trivial
    | ok hostSnap =>
      refine (validateHostSnapLabels_sound hostSnap).seq fun _ => Sound.request fun r _ => ?_
      cases r with
      | error e => trivial
      | ok sc =>
        dsimp only
        split <;> trivial
  · trivial

theorem isLHRWXVolume_sound (hpvc : pvc.Sturdy) : CrashFree cs (cs.isLHRWXVolume pvc) := by
  have hgo (hmode : pvc.volumeMode = some .filesystem) {modes : List PVCAccessMode}
      (hmodes : ∀ mode ∈ modes, mode ∈ pvc.accessModes) : CrashFree cs
      (isLHRWXVolume.go pvc modes) := by
    induction modes with
    | nil => trivial
    | cons mode modes ih =>
      have hrest := ih fun m hm => hmodes m (List.mem_cons_of_mem _ hm)
      unfold isLHRWXVolume.go
      split
      · exact hrest
      · rename_i hrwx
        have hmem := hmodes mode List.mem_cons_self
        rw [not_not.mp hrwx] at hmem
        split
        · rename_i hnone
          exact absurd hnone (hpvc.storageClass hmode hmem)
        · refine Sound.request fun r _ => ?_
          cases r with
          | error e => exact hrest
          | ok sc =>
            dsimp only
            split
            · trivial
            · exact hrest
  unfold isLHRWXVolume
  split
  · rename_i hmode
    exact hgo hmode fun _ hm => hm
  · trivial

theorem waitForLHVolumeName_sound (name : String) (ticks : Nat) :
    CrashFree cs (cs.waitForLHVolumeName name ticks) := by
  induction ticks with
  | zero => trivial
  | succ ticks ih =>
    refine Sound.request fun r _ => ?_
    cases r with
    | error e => trivial
    | ok pvc =>
      dsimp only
      split
      · exact ih
      · trivial

theorem createNetworkFilesystem_sound (volumeName : String) :
    CrashFree cs (cs.createNetworkFilesystem volumeName) := by
  refine Sound.request fun r _ => ?_
  cases r with
  | ok fs => trivial
  | error e =>
    dsimp only
    split <;> trivial

theorem exportVolume_sound (hpvc : resHostPVC.Sturdy) :
    CrashFree cs (createVolume.exportVolume cs ticks resHostPVC) := by
  refine (isLHRWXVolume_sound hpvc).seq fun shared => ?_
  split
  · refine (waitForLHVolumeName_sound _ _).seq fun bound => ?_
    split
    · refine Sound.request fun r _ => ?_
      cases r with
      | error e => trivial
      | ok pvc => exact (createNetworkFilesystem_sound _).orElse fun _ => trivial
    · trivial
  · trivial

theorem buildHostVolumeRemoteRestore_sound (req : CreateVolumeRequest) (vp : StringMap) :
    CrashFree cs (cs.buildHostVolumeRemoteRestore req vp) := by
  unfold buildHostVolumeRemoteRestore
  split
  · trivial
  · refine Sound.request fun r _ => ?_
    cases r with
    | error e => trivial
    | ok vrb =>
      refine Sound.seq (Sound.seq (Sound.request fun r _ => ?_) fun vrr => ?_) fun _ => trivial
      · cases r with
        | ok vrr => trivial
        | error e =>
          dsimp only
          split
          · trivial
          · refine Sound.request fun r _ => ?_
            cases r <;> trivial
      · refine Sound.seq (Sound.request fun r _ => ?_) fun ready => ?_
        · cases r <;> trivial
        · split <;> trivial

theorem createVolume_sound (hreq : req.Proper cs) : CrashFree cs (cs.createVolume ticks req) := by
  refine (validateCreateVolReq_sound hreq.modes).bind (validateCreateVolReq_returns req) ?_
  rintro ⟨vp, size⟩ hr
  cases hr
  dsimp only
  split
  · exact buildHostVolumeRemoteRestore_sound req _
  · refine (buildHostPVC_sound req _ _).bind (buildHostPVC_returns req) fun pvc hbuilds => ?_
    refine Sound.request fun r hr => ?_
    cases r with
    | error e => trivial
    | ok res =>
      refine (exportVolume_sound ?_).seq fun _ => trivial
      exact hr res rfl (hbuilds.sturdy hreq.storageClass)

theorem deleteVolume_sound (volumeId : String) : CrashFree cs (cs.deleteVolume volumeId) := by
  have hclaim : CrashFree cs (cs.deleteClaim volumeId) := by
    refine Sound.request fun r _ => ?_
    cases r with
    | ok => trivial
    | error e =>
      dsimp only
      split <;> trivial
  by_cases hid : volumeId = ""
  · rw [deleteVolume, if_pos hid]
    trivial
  · rw [deleteVolume_eq cs hid]
    refine Sound.seq (Sound.request fun r _ => ?_) fun restored => ?_
    · cases r with
      | error e =>
        dsimp only
        split <;> trivial
      | ok vrr =>
        refine Sound.request fun r _ => ?_
        cases r <;> trivial
    · split
      · trivial
      · refine Sound.request fun r hr => ?_
        cases r with
        | error e =>
          dsimp only
          split <;> trivial
        | ok pvc =>
          refine (isLHRWXVolume_sound (hr pvc rfl rfl)).seq fun shared => ?_
          split
          · refine Sound.seq (Sound.request fun r _ => ?_) fun _ => hclaim
            cases r with
            | error e =>
              dsimp only
              split <;> trivial
            | ok fs =>
              refine Sound.request fun r _ => ?_
              cases r <;> trivial
          · exact hclaim

-- ---------------------------------------------------------------------------
-- Publishing and unpublishing
-- ---------------------------------------------------------------------------

theorem publishRWXVolume_sound (pvc : PVC) : CrashFree cs (cs.publishRWXVolume pvc) := by
  have henable (fs : NetworkFilesystem) : CrashFree cs (publishRWXVolume.enable pvc fs) := by
    unfold publishRWXVolume.enable
    split
    · trivial
    · refine Sound.request fun r _ => ?_
      cases r <;> trivial
  refine Sound.request fun r _ => ?_
  cases r with
  | ok fs => exact henable fs
  | error e =>
    dsimp only
    split
    · trivial
    · split
      · refine Sound.seq ?_ fun _ => trivial
        exact (createNetworkFilesystem_sound _).orElse fun _ => trivial
      · exact henable _

theorem unpublishRWXVolume_sound (pvc : PVC) : CrashFree cs (cs.unpublishRWXVolume pvc) := by
  have hdisable (fs : NetworkFilesystem) : CrashFree cs (unpublishRWXVolume.disable pvc fs) := by
    refine Sound.request fun r _ => ?_
    cases r <;> trivial
  refine Sound.request fun r _ => ?_
  cases r with
  | error e => trivial
  | ok fs =>
    dsimp only
    split
    · trivial
    · refine Sound.request fun r hr => ?_
      cases r with
      | error e => trivial
      | ok localPV =>
        dsimp only
        split
        · rename_i hnone
          exact hr localPV rfl hnone
        · refine Sound.request fun r _ => ?_
          split
          · trivial
          · exact hdisable fs

theorem waitForVASettled_sound (pvc : PVC) (nodeID : String) :
    CrashFree cs (cs.waitForVASettled pvc nodeID) := by
  have hhost (target : String) {vas : List VolumeAttachment}
      (hvas : ∀ va ∈ vas, va.persistentVolumeName ≠ none) : CrashFree cs
      (checkHostVA.go pvc target vas) := by
    induction vas with
    | nil => trivial
    | cons va vas ih =>
      unfold checkHostVA.go
      split
      · rename_i hnone
        exact hvas va List.mem_cons_self hnone
      · split
        · trivial
        · exact ih fun va' hmem => hvas va' (List.mem_cons_of_mem _ hmem)
  have hguest {vas : List VolumeAttachment}
      (hvas : ∀ va ∈ vas, va.attached = true → va.persistentVolumeName ≠ none) :
      CrashFree cs (checkGuestVA.go pvc nodeID vas) := by
    induction vas with
    | nil => trivial
    | cons va vas ih =>
      have hrest := ih fun va' hmem => hvas va' (List.mem_cons_of_mem _ hmem)
      unfold checkGuestVA.go
      split
      · rename_i hattached
        split
        · rename_i hnone
          exact hvas va List.mem_cons_self hattached hnone
        · split
          · trivial
          · exact hrest
      · exact hrest
  refine Sound.request fun r hr => ?_
  cases r with
  | error e => trivial
  | ok hostVAs =>
    dsimp only
    split
    · trivial
    · refine Sound.seq (Sound.request fun r _ => ?_) fun settled => ?_
      · cases r with
        | error e => trivial
        | ok vmi => exact hhost _ (hr hostVAs rfl)
      · split
        · refine Sound.request fun r hr => ?_
          cases r with
          | error e => trivial
          | ok guestVAs => exact hguest (hr guestVAs rfl)
        · trivial

theorem pollUntilContextTimeout_sound {cond : Api Bool} (hcond : CrashFree cs cond)
    (immediate : Bool) (ticks : Nat) :
    CrashFree cs (pollUntilContextTimeout immediate ticks cond) := by
  refine (Sound.poll hcond _).seq fun done => ?_
  split <;> trivial

theorem checkVolumeExistsInVM_sound (nodeID volumeID : String) :
    CrashFree cs (cs.checkVolumeExistsInVM nodeID volumeID) := by
  refine Sound.request fun r _ => ?_
  cases r with
  | ok vm => trivial
  | error e =>
    dsimp only
    split <;> trivial

theorem checkVolumeExistsInVMI_sound (nodeID volumeID : String) :
    CrashFree cs (cs.checkVolumeExistsInVMI nodeID volumeID) := by
  refine Sound.request fun r _ => ?_
  cases r with
  | ok vmi => trivial
  | error e =>
    dsimp only
    split <;> trivial

theorem isVolAttached_sound (nodeID volumeID : String) :
    CrashFree cs (cs.isVolAttached nodeID volumeID) :=
  (checkVolumeExistsInVM_sound nodeID volumeID).seq fun _ =>
    (checkVolumeExistsInVMI_sound nodeID volumeID).seq fun _ => trivial

theorem hotplugVolumeToVM_sound (nodeID volumeID : String) :
    CrashFree cs (cs.hotplugVolumeToVM nodeID volumeID) := by
  unfold hotplugVolumeToVM
  split
  · refine Sound.request fun r _ => ?_
    cases r with
    | error e => trivial
    | ok vm =>
      dsimp only
      split
      · trivial
      · refine Sound.request fun r _ => ?_
        cases r <;> trivial
  · refine Sound.request fun r _ => ?_
    cases r <;> trivial

theorem attachVolume_sound (pvc : PVC) (nodeId volumeId : String) :
    CrashFree cs (cs.attachVolume settleTicks attachTicks pvc nodeId volumeId) := by
  refine Sound.seq (Sound.orElse ?_ fun _ => trivial) fun _ => ?_
  · exact pollUntilContextTimeout_sound (waitForVASettled_sound pvc nodeId) _ _
  · refine Sound.seq ((isVolAttached_sound nodeId volumeId).orElse fun _ => trivial)
      fun attached => ?_
    split
    · trivial
    · refine Sound.seq ((hotplugVolumeToVM_sound nodeId volumeId).orElse fun _ => trivial) fun _ =>
        ?_
      refine Sound.orElse (pollUntilContextTimeout_sound ?_ _ _) fun _ => trivial
      exact (isVolAttached_sound nodeId volumeId).orElse fun _ => trivial

theorem controllerPublishVolume_sound (req : PublishRequest) :
    CrashFree cs (cs.controllerPublishVolume settleTicks attachTicks req) := by
  unfold controllerPublishVolume
  split
  · trivial
  · split
    · trivial
    · refine Sound.request fun r hr => ?_
      cases r with
      | error e => trivial
      | ok pvc =>
        dsimp only
        split
        · trivial
        · split
          · refine (isLHRWXVolume_sound (hr pvc rfl rfl)).seq fun shared => ?_
            split
            · exact publishRWXVolume_sound pvc
            · trivial
          · exact attachVolume_sound pvc _ _

theorem unplugVolumeFromVM_sound (nodeID volumeID : String) (volumeInVM volumeInVMI : Bool) :
    CrashFree cs (cs.unplugVolumeFromVM nodeID volumeID volumeInVM volumeInVMI) := by
  unfold unplugVolumeFromVM unplugVolumeFromVMLegacy
  split
  · refine Sound.seq (Sound.orElse (Sound.request fun r _ => ?_) fun _ => trivial) fun _ => trivial
    cases r with
    | error e => trivial
    | ok vm =>
      refine Sound.request fun r _ => ?_
      cases r <;> trivial
  · split
    · refine Sound.request fun r _ => ?_
      cases r <;> trivial
    · split
      · refine Sound.request fun r _ => ?_
        cases r <;> trivial
      · trivial

theorem detachVolume_sound (nodeId volumeId : String) :
    CrashFree cs (cs.detachVolume nodeId volumeId) := by
  refine Sound.seq (Sound.orElse ?_ fun _ => trivial) fun removing => ?_
  · refine (checkVolumeExistsInVMI_sound nodeId volumeId).seq fun inVMI => ?_
    refine (checkVolumeExistsInVM_sound nodeId volumeId).seq fun inVM => ?_
    split
    · trivial
    · exact (unplugVolumeFromVM_sound nodeId volumeId inVM inVMI).seq fun _ => trivial
  · split <;> trivial

theorem controllerUnpublishVolume_sound (req : UnpublishRequest) :
    CrashFree cs (cs.controllerUnpublishVolume req) := by
  unfold controllerUnpublishVolume
  split
  · trivial
  · refine Sound.request fun r hr => ?_
    cases r with
    | error e => trivial
    | ok pvc =>
      dsimp only
      split
      · trivial
      · refine (isLHRWXVolume_sound (hr pvc rfl rfl)).seq fun shared => ?_
        split
        · exact unpublishRWXVolume_sound pvc
        · exact detachVolume_sound _ _

-- ---------------------------------------------------------------------------
-- Expansion and backups
-- ---------------------------------------------------------------------------

theorem isVolumeInUse_sound (volumeID : String) : CrashFree cs (cs.isVolumeInUse volumeID) := by
  refine Sound.request fun r _ => ?_
  cases r <;> trivial

theorem waitForPVCState_sound (name : String) (predicate : PVC → Bool) (ticks : Nat) :
    CrashFree cs (cs.waitForPVCState name predicate ticks) := by
  induction ticks with
  | zero => trivial
  | succ ticks ih =>
    refine Sound.request fun r _ => ?_
    cases r with
    | error e => exact ih
    | ok pvc =>
      dsimp only
      split
      · trivial
      · exact ih

theorem controllerExpandVolume_sound (req : ExpandRequest) :
    CrashFree cs (cs.controllerExpandVolume ticks req) := by
  refine Sound.seq ?_ fun _ => ?_
  · unfold validateCtrlExpandReq
    split <;> trivial
  · split
    · trivial
    · refine Sound.request fun r hr => ?_
      cases r with
      | error e => trivial
      | ok pvc =>
        dsimp only
        split
        · trivial
        · refine Sound.seq ?_ fun _ => ?_
          · refine (isVolumeInUse_sound _).seq fun inUse => ?_
            split
            · refine Sound.request fun r _ => ?_
              cases r <;> trivial
            · trivial
          · split
            · trivial
            · split
              · trivial
              · unfold controllerExpandVolume.resize
                rw [if_neg (hr pvc rfl rfl).requests]
                refine Sound.request fun r _ => ?_
                cases r with
                | error e => trivial
                | ok res =>
                  refine (waitForPVCState_sound _ _ _).seq fun grown => ?_
                  split
                  · refine Sound.seq ((isVolumeInUse_sound _).orElse fun _ => ?_) fun _ =>
                      ?_ <;> trivial
                  · trivial

theorem createSnapshot_sound (hbackup : isBackupSnapshot req = true) :
    CrashFree cs (cs.createSnapshot req) := by
  have hprepare (name vol : String) : CrashFree cs (cs.prepareBackupSnapResponse name vol) := by
    refine Sound.seq (Sound.request fun r _ => ?_) fun ready => ?_
    · cases r <;> trivial
    · split
      · refine Sound.request fun r _ => ?_
        cases r with
        | error e => trivial
        | ok vrb =>
          unfold convertVolumeRemoteBackupToCSI
          (repeat' split) <;> trivial
      · trivial
  refine Sound.seq ?_ fun _ => ?_
  · unfold validateCreateSnapshotRequest
    (repeat' split) <;> trivial
  · rw [if_pos hbackup]
    refine Sound.orElse (Sound.request fun r _ => ?_) fun e => ?_
    · cases r with
      | error e => trivial
      | ok vrb => exact hprepare _ _
    · split
      · refine Sound.seq (Sound.request fun r _ => ?_) fun _ => hprepare _ _
        cases r <;> trivial
      · trivial

theorem deleteSnapshot_sound (snapshotId : String) :
    CrashFree cs (cs.deleteSnapshot snapshotId) := by
  unfold deleteSnapshot
  split
  · trivial
  · split
    all_goals
      refine Sound.request fun r _ => ?_
      cases r with
      | ok => trivial
      | error e =>
        dsimp only
        split <;> trivial

theorem collect_sound {keep : α → Bool} {toEntry : α → Api Snapshot} {l : List α}
    (h : ∀ a ∈ l, CrashFree cs (toEntry a)) : CrashFree cs (collect keep toEntry l) := by
  induction l with
  | nil => trivial
  | cons a rest ih =>
    obtain ⟨ha, hrest⟩ := List.forall_mem_cons.mp h
    unfold collect
    split
    · exact ih hrest
    · refine Sound.seq (Sound.orElse (ha.seq fun _ => trivial) fun _ => trivial) fun _ => ?_
      exact (ih hrest).seq fun _ => trivial

theorem listSnapshots_sound (req : ListSnapshotsRequest) : CrashFree cs (cs.listSnapshots req) := by
  have hvalid : CrashFree cs (validateListSnapshotsRequest req) := by
    unfold validateListSnapshotsRequest
    split <;> trivial
  refine hvalid.seq fun opts => Sound.seq (Sound.request fun r hr => ?_) fun _ => ?_
  · cases r with
    | error e => trivial
    | ok answer =>
      obtain ⟨snaps, next⟩ := answer
      refine Sound.seq (collect_sound fun snap hsnap => ?_) fun _ => trivial
      refine Sound.orElse ?_ fun _ => trivial
      have hstatus := hr snaps next rfl rfl snap hsnap
      unfold convertVolumeSnapshotToCSI
      (repeat' split) <;> trivial
  · refine Sound.seq (Sound.orElse (Sound.orElse (Sound.request fun r _ => ?_) fun _ => trivial)
      fun _ => trivial) fun _ => trivial
    cases r with
    | error e => trivial
    | ok vrbs =>
      refine collect_sound fun vrb _ => Sound.orElse ?_ fun _ => trivial
      unfold convertVolumeRemoteBackupToCSI
      (repeat' split) <;> trivial

theorem validateVolumeCapabilitiesRPC_sound {req : ValidateVolumeCapabilitiesRequest}
    (hmodes : ∀ cap ∈ req.volumeCapabilities, cap.accessMode ≠ none) :
    CrashFree cs (cs.validateVolumeCapabilitiesRPC req) := by
  refine Sound.request fun r _ => ?_
  cases r with
  | error e =>
    dsimp only
    split <;> trivial
  | ok pvc => exact (validateVolumeCapabilities_sound hmodes).seq fun _ => trivial

end ControllerServer

-- ---------------------------------------------------------------------------
-- Reconciles
-- ---------------------------------------------------------------------------

theorem onNodesChangeInOrder_sound (cs : ControllerServer) (c : Controller) (order : MapOrder)
    (node : Option Node) : CrashFree cs (c.onNodesChangeInOrder order node) := by
  have hone (vm : VirtualMachine) (names : List String) :
      CrashFree cs (c.removeAllHotplugVolumesBySubresource vm names) := by
    induction names with
    | nil => trivial
    | cons name names ih =>
      refine Sound.request fun r _ => ?_
      cases r with
      | error e => trivial
      | ok => exact ih
  have hall (vm : VirtualMachine) :
      CrashFree cs (c.removeAllHotplugVolumesInOrder order.visit vm) := by
    refine Sound.request fun r _ => ?_
    cases r with
    | error e => trivial
    | ok latestVM =>
      dsimp only
      split
      · trivial
      · split
        · refine Sound.request fun r _ => ?_
          cases r <;> trivial
        · exact hone _ _
  unfold Controller.onNodesChangeInOrder
  split
  · trivial
  · split
    · trivial
    · rename_i node _
      refine Sound.seq ?_ fun health => ?_
      · unfold Controller.getNodeAndVMHealth
        split
        · trivial
        · refine Sound.request fun r _ => ?_
          cases r with
          | error e => trivial
          | ok vm =>
            dsimp only
            split <;> trivial
      · obtain ⟨nodeHealthy, vmHealthy, vm⟩ := health
        dsimp only [Controller.handleNodeAndVMHealthInOrder]
        split
        · trivial
        · refine Sound.request fun r _ => ?_
          cases r <;> trivial
        · refine Sound.request fun r _ => ?_
          cases r <;> trivial
        · exact Sound.seq ((hall vm).orElse fun _ => trivial) fun _ => trivial
        · trivial

-- ---------------------------------------------------------------------------
-- Any number of calls
-- ---------------------------------------------------------------------------

theorem DriverCall.sound (cs : ControllerServer) (call : DriverCall) (hcall : call.Proper cs) :
    CrashFree cs (call.prog cs) := by
  cases call with
  | createVolume => exact (ControllerServer.createVolume_sound hcall).seq fun _ => trivial
  | deleteVolume => exact ControllerServer.deleteVolume_sound _
  | validateVolumeCapabilities =>
    exact (ControllerServer.validateVolumeCapabilitiesRPC_sound hcall).seq fun _ => trivial
  | controllerPublishVolume => exact ControllerServer.controllerPublishVolume_sound _
  | controllerUnpublishVolume => exact ControllerServer.controllerUnpublishVolume_sound _
  | controllerExpandVolume =>
    exact (ControllerServer.controllerExpandVolume_sound _).seq fun _ => trivial
  | createSnapshot => exact (ControllerServer.createSnapshot_sound hcall).seq fun _ => trivial
  | deleteSnapshot => exact ControllerServer.deleteSnapshot_sound _
  | listSnapshots => exact (ControllerServer.listSnapshots_sound _).seq fun _ => trivial
  | onNodesChange => exact (onNodesChangeInOrder_sound cs _ _ _).seq fun _ => trivial

/-- From an intact cluster that others keep intact, no run of proper calls crashes, and
the cluster is intact wherever it gets to. -/
theorem driver_never_crashes [DecidableEq ι] (cs : ControllerServer) (calls : ι → DriverCall)
    (hcalls : ∀ i, (calls i).Proper cs) (s₀ : Cluster) (hs : Versioned s₀) (hintact : Intact cs s₀)
    (h : Reach (intactKept cs).moves Wavers anyStep (driverCalls cs calls s₀) c) :
    Intact cs c.state ∧ ∀ i, c.procs i ≠ .panic := by
  have hstart (i : ι) : Guarantees (intactKept cs) Wavers (fun _ _ => True)
      ((driverCalls cs calls s₀).procs i) (driverCalls cs calls s₀).state := by
    refine (driver_guarantees cs calls hs i).imp ?_ ?_
    · exact fun _ _ hmove => hmove.1
    · exact fun _ _ hmove heffect => ⟨⟨hmove, heffect.intact (hcalls i)⟩, trivial⟩
  have hkept (c : CallPool ι)
      (hc : Reach (intactKept cs).moves Wavers anyStep (driverCalls cs calls s₀) c) :
      Intact cs c.state :=
    (hc.relies (fun _ _ hmove => hmove) hstart rfl).2 hintact
  refine ⟨hkept c h, fun i hpanic => ?_⟩
  have hsound :=
    h.sound hkept (fun _ _ _ _ => Intact.fits) (fun i => (calls i).sound cs (hcalls i)) i
  rw [hpanic] at hsound
  exact hsound

def reportedHost : Cluster :=
  { Cluster.empty with snapshots := Cluster.empty.snapshots.put {
      ns := "ns"
      name := "snap"
      labels := some [(labelSnapHostSC, "longhorn"), (labelSnapHostVolumeMode, "Block")]
      persistentVolumeClaimName := some "v"
      status := some { readyToUse := some true, restoreSize := some 5 } } }

theorem reportedHost_intact : Intact exampleServer reportedHost where
  claims _ _ := by rintro ⟨⟩
  hostVAs := by decide
  guestVAs := by decide
  localPVs _ _ := by rintro ⟨⟩
  snapshots name snap hget := by
    simp only [reportedHost, Store.get_put] at hget
    split at hget
    · cases hget
      exact Option.some_ne_none _
    · cases hget

/-- A shared volume is deleted while it is being made, and the snapshots are listed. -/
def createDeleteAndList (i : Fin 3) : DriverCall :=
  match i with
  | 0 => .createVolume 1 { name := "v", volumeCapabilities := [multiWriter] }
  | 1 => .deleteVolume "v"
  | 2 => .listSnapshots {}

def createDuringDelete : CallPool (Fin 3) :=
  (driverCalls exampleServer createDeleteAndList reportedHost).turns Cluster.serve
    [1, 0, 1, 2, 0, 1, 1, 2]

theorem driver_never_crashes_on_delete :
    createDuringDelete.history.length = 8 ∧ createDuringDelete.state.rev = 2 ∧
      Intact exampleServer createDuringDelete.state ∧ ∀ i, createDuringDelete.procs i ≠ .panic := by
  refine ⟨by decide +kernel, by decide +kernel,
    driver_never_crashes exampleServer createDeleteAndList ?_ reportedHost ?_ reportedHost_intact
      (Reach.start.turns (fun _ _ => .inl rfl) _)⟩
  · intro i
    match i with
    | 0 => exact ⟨by decide, fun _ => by decide⟩
    | 1 | 2 => trivial
  · exact ⟨Versioned.empty.vm, Versioned.empty.pvc, Versioned.empty.networkFS,
      Versioned.empty.positive⟩

end HarvesterCSI
