import HarvesterCSI.Laws.Patches

/-!
# The calls of publishing and unpublishing

Which calls the hot-plug paths make, so that what they leave alone is known
without following them.
-/

namespace HarvesterCSI

open Calls Calls.Prog

abbrev CallPool (ι : Type) := Pool ι Op.Res Err Unit Cluster

abbrev CallEvent (ι : Type) := Event ι Op.Res Err Unit Cluster

namespace ControllerServer

-- ---------------------------------------------------------------------------
-- Looking
-- ---------------------------------------------------------------------------

def LookOp : Op → Prop
  | .getVM .. | .getVMI .. => True
  | _ => False

theorem checkVolumeExistsInVM_uses (cs : ControllerServer) (nodeID volumeID : String) :
    (cs.checkVolumeExistsInVM nodeID volumeID).Uses LookOp := by
  refine Uses.request trivial fun r => ?_
  cases r with
  | ok vm => trivial
  | error e =>
    dsimp only
    split <;> trivial

theorem checkVolumeExistsInVMI_uses (cs : ControllerServer) (nodeID volumeID : String) :
    (cs.checkVolumeExistsInVMI nodeID volumeID).Uses LookOp := by
  refine Uses.request trivial fun r => ?_
  cases r with
  | ok vmi => trivial
  | error e =>
    dsimp only
    split <;> trivial

theorem isVolAttached_uses (cs : ControllerServer) (nodeID volumeID : String) :
    (cs.isVolAttached nodeID volumeID).Uses LookOp :=
  (checkVolumeExistsInVM_uses cs nodeID volumeID).bind fun _ =>
    (checkVolumeExistsInVMI_uses cs nodeID volumeID).bind fun _ => trivial

theorem waitForVolumeAttached_uses (cs : ControllerServer) (ticks : Nat)
    (nodeID volumeID : String) :
    (cs.waitForVolumeAttached ticks nodeID volumeID).Uses LookOp := by
  refine Uses.orElse (Uses.bind (Uses.poll ?_ _) fun done => ?_) fun _ => trivial
  · exact (isVolAttached_uses cs _ _).orElse fun _ => trivial
  · split <;> trivial

-- ---------------------------------------------------------------------------
-- Taking a volume out
-- ---------------------------------------------------------------------------

def DetachOp (volumeID : String) : Op → Prop
  | .getVM .. | .getVMI .. | .removeVolumeVM .. | .removeVolumeVMI .. => True
  | .patchVM _ _ patch => ∃ vm, patch = removePatch vm (· = volumeID)
  | _ => False

theorem LookOp.detach (volumeID : String) (op : Op) (hop : LookOp op) : DetachOp volumeID op := by
  cases op <;> first | exact hop.elim | trivial

theorem removeVolumeFromVM_uses (cs : ControllerServer) (nodeID volumeID : String) :
    (cs.removeVolumeFromVM nodeID volumeID).Uses (DetachOp volumeID) := by
  refine Uses.request trivial fun r => ?_
  cases r with
  | error e => trivial
  | ok vm =>
    refine Uses.request ⟨vm, rfl⟩ fun r => ?_
    cases r <;> trivial

theorem unplugVolumeFromVMLegacy_uses (cs : ControllerServer) (nodeID volumeID : String)
    (volumeInVM volumeInVMI : Bool) :
    (cs.unplugVolumeFromVMLegacy nodeID volumeID volumeInVM volumeInVMI).Uses
      (DetachOp volumeID) := by
  unfold unplugVolumeFromVMLegacy
  split
  · refine Uses.request trivial fun r => ?_
    cases r <;> trivial
  · split
    · refine Uses.request trivial fun r => ?_
      cases r <;> trivial
    · trivial

theorem unplugVolumeFromVM_uses (cs : ControllerServer) (nodeID volumeID : String)
    (volumeInVM volumeInVMI : Bool) :
    (cs.unplugVolumeFromVM nodeID volumeID volumeInVM volumeInVMI).Uses (DetachOp volumeID) := by
  unfold unplugVolumeFromVM
  split
  · refine Uses.bind (Uses.orElse ?_ fun _ => trivial) fun _ => trivial
    exact removeVolumeFromVM_uses cs _ _
  · exact unplugVolumeFromVMLegacy_uses cs _ _ _ _

theorem detachVolume_uses (cs : ControllerServer) (nodeId volumeId : String) :
    (cs.detachVolume nodeId volumeId).Uses (DetachOp volumeId) := by
  have hlook := LookOp.detach volumeId
  refine Uses.bind (Uses.orElse (Uses.bind ?_ fun volumeInVMI => Uses.bind ?_ fun volumeInVM => ?_)
    fun _ => trivial) fun removing => ?_
  · exact (checkVolumeExistsInVMI_uses cs _ _).mono hlook
  · exact (checkVolumeExistsInVM_uses cs _ _).mono hlook
  · split
    · trivial
    · exact (unplugVolumeFromVM_uses cs _ _ _ _).bind fun _ => trivial
  · split <;> trivial

def DisableOp : Op → Prop
  | .getNetworkFS .. | .getLocalPV _ | .podsByIndex _ => True
  | .updateNetworkFS fs => fs.desiredState = .disabled
  | _ => False

theorem unpublishRWXVolume_uses (cs : ControllerServer) (pvc : PVC) :
    (cs.unpublishRWXVolume pvc).Uses DisableOp := by
  have hdisable (fs : NetworkFilesystem) : (unpublishRWXVolume.disable pvc fs).Uses DisableOp := by
    refine Uses.request rfl fun r => ?_
    cases r <;> trivial
  refine Uses.request trivial fun r => ?_
  cases r with
  | error e => trivial
  | ok fs =>
    dsimp only
    split
    · trivial
    · refine Uses.request trivial fun r => ?_
      cases r with
      | error e => trivial
      | ok localPV =>
        dsimp only
        split
        · trivial
        · refine Uses.request trivial fun r => ?_
          split
          · trivial
          · exact hdisable fs

-- ---------------------------------------------------------------------------
-- Putting a volume in
-- ---------------------------------------------------------------------------

def AttachOp (cs : ControllerServer) (nodeID : String) : Op → Prop
  | .getPVC .. | .listHostVAs | .listGuestVAs | .getVM .. | .getVMI .. => True
  | .patchVM ns name _ | .addVolumeVM ns name _ _ => ns = cs.ns ∧ name = nodeID
  | _ => False

theorem LookOp.attach (cs : ControllerServer) (nodeID : String) (op : Op) (hop : LookOp op) :
    cs.AttachOp nodeID op := by
  cases op <;> first | exact hop.elim | trivial

theorem hotplugVolumeToVM_uses (cs : ControllerServer) (nodeID volumeID : String) :
    (cs.hotplugVolumeToVM nodeID volumeID).Uses (cs.AttachOp nodeID) := by
  unfold hotplugVolumeToVM
  split
  · refine Uses.request trivial fun r => ?_
    cases r with
    | error e => trivial
    | ok vm =>
      dsimp only
      split
      · trivial
      · refine Uses.request ⟨rfl, rfl⟩ fun r => ?_
        cases r <;> trivial
  · refine Uses.request ⟨rfl, rfl⟩ fun r => ?_
    cases r <;> trivial

theorem plugVolume_uses (cs : ControllerServer) (attachTicks : Nat) (nodeId volumeId : String) :
    (cs.plugVolume attachTicks nodeId volumeId).Uses (cs.AttachOp nodeId) := by
  have hlook := LookOp.attach cs nodeId
  refine Uses.bind (Uses.orElse ?_ fun _ => trivial) fun attached => ?_
  · exact (isVolAttached_uses cs _ _).mono hlook
  · split
    · trivial
    · refine Uses.bind (Uses.orElse ?_ fun _ => trivial) fun _ => ?_
      · exact hotplugVolumeToVM_uses cs _ _
      · exact (waitForVolumeAttached_uses cs _ _ _).mono hlook

theorem waitForVASettled_looks {P : Op → Prop} (cs : ControllerServer) (pvc : PVC) (nodeID : String)
    (hhostVAs : P .listHostVAs) (hvmi : P (.getVMI cs.ns nodeID)) (hguestVAs : P .listGuestVAs) :
    (cs.waitForVASettled pvc nodeID).Uses P := by
  have hhost (target : String) (vas : List VolumeAttachment) :
      (checkHostVA.go pvc target vas).Uses P := by
    induction vas with
    | nil => trivial
    | cons va rest ih =>
      unfold checkHostVA.go
      split
      · trivial
      · split
        · trivial
        · exact ih
  have hguest (vas : List VolumeAttachment) :
      (checkGuestVA.go pvc nodeID vas).Uses P := by
    induction vas with
    | nil => trivial
    | cons va rest ih =>
      unfold checkGuestVA.go
      split
      · split
        · trivial
        · split
          · trivial
          · exact ih
      · exact ih
  refine Uses.request hhostVAs fun r => ?_
  cases r with
  | error e => trivial
  | ok hostVAs =>
    dsimp only
    split
    · trivial
    · refine Uses.bind (Uses.request hvmi fun r => ?_) fun settled => ?_
      · cases r with
        | error e => trivial
        | ok vmi => exact hhost _ _
      · split
        · refine Uses.request hguestVAs fun r => ?_
          cases r with
          | error e => trivial
          | ok guestVAs => exact hguest guestVAs
        · trivial

theorem waitForVASettled_uses (cs : ControllerServer) (pvc : PVC) (nodeID : String) :
    (cs.waitForVASettled pvc nodeID).Uses (cs.AttachOp nodeID) :=
  waitForVASettled_looks cs pvc nodeID trivial trivial trivial

theorem attachVolume_uses (cs : ControllerServer) (settleTicks attachTicks : Nat) (pvc : PVC)
    (nodeId volumeId : String) :
    (cs.attachVolume settleTicks attachTicks pvc nodeId volumeId).Uses (cs.AttachOp nodeId) := by
  refine Uses.bind (Uses.orElse (Uses.bind (Uses.poll ?_ _) fun done => ?_) fun _ => trivial)
    fun _ => ?_
  · exact waitForVASettled_uses cs pvc nodeId
  · split <;> trivial
  · exact plugVolume_uses cs attachTicks nodeId volumeId

/-- A publish makes the calls of the way it takes, which the capability decides. -/
theorem controllerPublishVolume_uses {P : Op → Prop} (cs : ControllerServer) (req : PublishRequest)
    (hget : P (.getPVC cs.ns req.volumeId))
    (hshare : ∀ cap, req.volumeCapability = some cap → cap.mode = .multiNodeMultiWriter →
      ∀ pvc, (cs.isLHRWXVolume pvc).Uses P ∧ (cs.publishRWXVolume pvc).Uses P)
    (hattach : ∀ cap, req.nodeId ≠ "" → req.volumeCapability = some cap →
      cap.mode ≠ .multiNodeMultiWriter →
      ∀ pvc, (cs.attachVolume settleTicks attachTicks pvc req.nodeId req.volumeId).Uses P) :
    (cs.controllerPublishVolume settleTicks attachTicks req).Uses P := by
  unfold controllerPublishVolume
  split
  · trivial
  · rename_i hnode
    split
    · trivial
    · rename_i cap hcap
      refine Uses.request hget fun r => ?_
      cases r with
      | error e => trivial
      | ok pvc =>
        dsimp only
        split
        · trivial
        · split
          · rename_i hmode
            obtain ⟨hlookup, hpublish⟩ := hshare cap hcap hmode pvc
            refine hlookup.bind fun shared => ?_
            split
            · exact hpublish
            · trivial
          · rename_i hmode
            exact hattach cap hnode hcap hmode pvc

end ControllerServer

-- ---------------------------------------------------------------------------
-- What a write to a machine leaves alone
-- ---------------------------------------------------------------------------

def WritesVM : Op → Prop
  | .patchVM .. | .addVolumeVM .. => True
  | _ => False

theorem ControllerServer.AttachOp.effect {cs : ControllerServer} (hop : cs.AttachOp nodeID op)
    (h : Cluster.Answers op s r t) :
    t.pvcs = s.pvcs ∧ (∀ key, key ≠ (cs.ns, nodeID) → t.vms.get key = s.vms.get key) ∧
      (¬ WritesVM op → t.vms = s.vms) := by
  have hput {vm : VirtualMachine} {key : Key} (hvm : (vm.ns, vm.name) = (cs.ns, nodeID))
      (hkey : key ≠ (cs.ns, nodeID)) : (s.setVM vm).vms.get key = s.vms.get key := by
    rw [Cluster.setVM, Store.get_put, if_neg (hvm ▸ hkey)]
  rcases h with h | ⟨rfl, -⟩
  · obtain rfl := (congrArg Prod.snd h).symm
    cases op <;> first | exact hop.elim | exact ⟨rfl, fun _ _ => rfl, fun _ => rfl⟩ | skip
    all_goals
      obtain ⟨rfl, rfl⟩ := hop
      dsimp only [Cluster.serve]
      (repeat' split) <;> first | exact ⟨rfl, fun _ _ => rfl, fun _ => rfl⟩ | skip
    · rename_i vm hvm _ new hnew
      have hkey := Store.get_key hvm
      have hsame := VirtualMachine.applyPatch_key hnew
      exact ⟨rfl, fun key => hput (hsame.trans hkey), fun h => (h trivial).elim⟩
    · rename_i vm hvm _
      have hkey := Store.get_key hvm
      exact ⟨rfl, fun key => hput hkey, fun h => (h trivial).elim⟩
  · exact ⟨rfl, fun _ _ => rfl, fun _ => rfl⟩

end HarvesterCSI
