import HarvesterCSI.Controller.Volumes

/-!
# Publishing and unpublishing volumes

A volume with one writer is hot-plugged into the virtual machine behind the
guest node. A shared Longhorn volume is exported through its NetworkFilesystem,
which publishing enables and unpublishing disables.
-/

namespace HarvesterCSI

open Calls Calls.Prog

structure PublishRequest where
  volumeId : String
  nodeId : String
  volumeCapability : Option VolumeCapability
  deriving DecidableEq, Repr

structure UnpublishRequest where
  volumeId : String
  nodeId : String
  deriving DecidableEq, Repr

def VirtualMachine.hasVolume (vm : VirtualMachine) (v : String) : Bool :=
  vm.volumeList.any (·.name = v)

def VirtualMachine.hasDisk (vm : VirtualMachine) (v : String) : Bool := vm.diskList.any (·.name = v)

/-- A hot-plug status; a volume that was there from the start is not one. -/
def VirtualMachineInstance.hasVolume (vmi : VirtualMachineInstance) (v : String) : Bool :=
  vmi.volumeStatus.any fun st => st.name = v ∧ st.hotplugVolume

-- KubeVirt only supports SCSI for hot-plug volumes
def hotplugDisk (volumeID : String) : Disk := ⟨volumeID, .disk "scsi"⟩

def hotplugVolume (volumeID : String) : Volume := ⟨volumeID, .persistentVolumeClaim volumeID true⟩

namespace ControllerServer
variable (cs : ControllerServer)

-- ---------------------------------------------------------------------------
-- Where a volume is
-- ---------------------------------------------------------------------------

def checkVolumeExistsInVM (nodeID volumeID : String) : Api Bool := do
  match ← ask (.getVM cs.ns nodeID) with
  | .ok vm => pure (vm.hasVolume volumeID)
  | .error e =>
    if e.reason = .notFound then pure false
    else .error (.wrapped ("failed to get VM " ++ nodeID) (.api e))

def checkVolumeExistsInVMI (nodeID volumeID : String) : Api Bool := do
  match ← ask (.getVMI cs.ns nodeID) with
  | .ok vmi => pure (vmi.hasVolume volumeID)
  | .error e =>
    if e.reason = .notFound then pure false
    else .error (.wrapped ("failed to get VMI " ++ nodeID) (.api e))

def isVolAttached (nodeID volumeID : String) : Api Bool := do
  let volInVM ← cs.checkVolumeExistsInVM nodeID volumeID
  let volInVMI ← cs.checkVolumeExistsInVMI nodeID volumeID
  pure (volInVM && volInVMI)

-- ---------------------------------------------------------------------------
-- Hot-plugging
-- ---------------------------------------------------------------------------

def addPatch (vm : VirtualMachine) (volumeID : String) : List PatchOp :=
  .testResourceVersion vm.resourceVersion ::
    ((if vm.hasVolume volumeID then [] else [.addVolume (hotplugVolume volumeID)]) ++
      if vm.hasDisk volumeID then [] else [.addDisk (hotplugDisk volumeID)])

def addVolumeToVM (nodeID volumeID : String) : Api Unit := do
  match ← ask (.getVM cs.ns nodeID) with
  | .error e => .error (.wrapped ("failed to get VM " ++ nodeID) (.api e))
  | .ok vm =>
    if vm.hasVolume volumeID && vm.hasDisk volumeID then pure ()
    else
      match ← ask (.patchVM cs.ns nodeID (addPatch vm volumeID)) with
      | .ok () => pure ()
      | .error e => .error (.wrapped ("failed to patch VM " ++ nodeID) (.api e))

def removePatch (vm : VirtualMachine) (drop : String → Bool) : List PatchOp :=
  [.testResourceVersion vm.resourceVersion,
   .replaceVolumes (vm.volumeList.filter fun v => !drop v.name),
   .replaceDisks (vm.diskList.filter fun d => !drop d.name)]

def removeVolumeFromVM (nodeID volumeID : String) : Api Unit := do
  match ← ask (.getVM cs.ns nodeID) with
  | .error e => .error (.wrapped ("failed to get VM " ++ nodeID) (.api e))
  | .ok vm =>
    match ← ask (.patchVM cs.ns nodeID (removePatch vm (· = volumeID))) with
    | .ok () => pure ()
    | .error e => .error (.wrapped ("failed to patch VM " ++ nodeID) (.api e))

/-- The options name no disk: the server gives it the name of the volume. -/
def addVolumeToVMLegacy (nodeID volumeID : String) : Api Unit := do
  match ← ask (.addVolumeVM cs.ns nodeID (hotplugVolume volumeID) (hotplugDisk volumeID)) with
  | .ok () => pure ()
  | .error e => .error (.api e)

def hotplugVolumeToVM (nodeID volumeID : String) : Api Unit :=
  if cs.useDeclarativeHotplug then cs.addVolumeToVM nodeID volumeID
  else cs.addVolumeToVMLegacy nodeID volumeID

def unplugVolumeFromVMLegacy (nodeID volumeID : String) (volumeInVM volumeInVMI : Bool) :
    Api Bool := do
  if volumeInVMI then
    match ← ask (.removeVolumeVMI cs.ns nodeID volumeID) with
    | .ok () => pure true
    | .error e =>
      .error (.wrapped ("failed to remove volume " ++ volumeID ++ " from VMI " ++ nodeID) (.api e))
  else if volumeInVM then
    match ← ask (.removeVolumeVM cs.ns nodeID volumeID) with
    | .ok () => pure true
    | .error e =>
      .error (.wrapped ("failed to remove volume " ++ volumeID ++ " from VM " ++ nodeID) (.api e))
  else pure false

def unplugVolumeFromVM (nodeID volumeID : String) (volumeInVM volumeInVMI : Bool) : Api Bool :=
  if cs.useDeclarativeHotplug then do
    (cs.removeVolumeFromVM nodeID volumeID).orElse fun e =>
      .error (.wrapped ("failed to remove volume " ++ volumeID ++ " from VM " ++ nodeID) e)
    pure true
  else cs.unplugVolumeFromVMLegacy nodeID volumeID volumeInVM volumeInVMI

/-- Whether a remove request was sent. -/
def removeVolumeFromHostVM (nodeID volumeID : String) : Api Bool := do
  let volumeInVMI ← cs.checkVolumeExistsInVMI nodeID volumeID
  let volumeInVM ← cs.checkVolumeExistsInVM nodeID volumeID
  if !volumeInVM && !volumeInVMI then pure false
  else do
    let _ ← cs.unplugVolumeFromVM nodeID volumeID volumeInVM volumeInVMI
    pure true

-- ---------------------------------------------------------------------------
-- Shared volumes
-- ---------------------------------------------------------------------------

/-- A missing NetworkFilesystem is made anew and the call still fails. When the
claim is being deleted the code goes on with the empty object of the failed get. -/
def publishRWXVolume (pvc : PVC) : Api Unit := do
  match ← ask (.getNetworkFS harvesterNS pvc.volumeName) with
  | .ok networkfs => enable networkfs
  | .error e =>
    if e.reason ≠ .notFound then
      .error (.status .internal
        ("Failed to get NetworkFileSystem " ++ pvc.volumeName ++ ": " ++ e.message))
    else if pvc.deletionTimestamp = none then do
      (cs.createNetworkFilesystem pvc.volumeName).orElse fun e =>
        .error (.status .internal
          ("Failed to create NetworkFileSystem for volume " ++ pvc.name ++ ": " ++ e.message))
      .error (.status .internal ("NetworkFileSystem " ++ pvc.volumeName ++
        " is being recreated, retry in next reconciliation"))
    else enable { ns := "", name := "" }
where
  enable (networkfs : NetworkFilesystem) : Api Unit := do
    if networkfs.desiredState = .enabled ∨ networkfs.state = .enabling then pure ()
    else
      match ← ask (.updateNetworkFS { networkfs with desiredState := .enabled }) with
      | .ok _ => pure ()
      | .error e => .error (.status .internal
        ("Failed to enable NetworkFileSystem " ++ pvc.volumeName ++ ": " ++ e.message))

/-- An unreadable pod index counts as one without pods. -/
def unpublishRWXVolume (_ : ControllerServer) (pvc : PVC) : Api Unit := do
  match ← ask (.getNetworkFS harvesterNS pvc.volumeName) with
  | .error e => .error (.status .internal
    ("Failed to get NetworkFileSystem " ++ pvc.volumeName ++ ": " ++ e.message))
  | .ok networkfs =>
    if networkfs.desiredState = .disabled ∨ networkfs.state = .disabling then pure ()
    else
      match ← ask (.getLocalPV pvc.name) with
      | .error e => .error (.status .internal
        ("Failed to get local PV " ++ pvc.volumeName ++ ": " ++ e.message))
      | .ok localPV =>
        match localPV.claimRef with
        | none => .panic
        | some (localPVCNS, localPVCName) =>
          match ← ask (.podsByIndex (localPVCNS ++ "-" ++ localPVCName)) with
          | .ok (_ :: _) => pure ()
          | _ => disable networkfs
where
  disable (networkfs : NetworkFilesystem) : Api Unit := do
    match ← ask (.updateNetworkFS { networkfs with desiredState := .disabled }) with
    | .ok _ => pure ()
    | .error e => .error (.status .internal
      ("Failed to disable NetworkFileSystem " ++ pvc.volumeName ++ ": " ++ e.message))

-- ---------------------------------------------------------------------------
-- Attachments elsewhere
-- ---------------------------------------------------------------------------

def checkHostVA (pvc : PVC) (nodeID : String) (hostVAs : List VolumeAttachment) : Api Bool := do
  match ← ask (.getVMI cs.ns nodeID) with
  | .error e => .error (.status .internal ("Failed to get VMI " ++ nodeID ++ ": " ++ e.message))
  | .ok vmi => go vmi.nodeName hostVAs
where
  go (targetHostNodeID : String) : List VolumeAttachment → Api Bool
    | [] => .ok true
    | va :: rest =>
      match va.persistentVolumeName with
      | none => .panic
      | some name =>
        if name = pvc.volumeName ∧ va.nodeName ≠ targetHostNodeID then .ok false
        else go targetHostNodeID rest

def checkGuestVA (_ : ControllerServer) (pvc : PVC) (nodeID : String) : Api Bool := do
  match ← ask .listGuestVAs with
  | .error e =>
    .error (.status .internal ("Failed to list guest VolumeAttachments: " ++ e.message))
  | .ok guestVAs => go guestVAs
where
  go : List VolumeAttachment → Api Bool
    | [] => .ok true
    | va :: rest =>
      if va.attached then
        match va.persistentVolumeName with
        | none => .panic
        | some name => if name = pvc.name ∧ va.nodeName ≠ nodeID then .ok false else go rest
      else go rest

/-- An old host does not let its attachments be listed; then, and for volumes
that are not block devices, nothing is checked. -/
def waitForVASettled (pvc : PVC) (nodeID : String) : Api Bool := do
  match ← ask .listHostVAs with
  | .error _ => pure true
  | .ok hostVAs =>
    if pvc.volumeMode = none ∨ pvc.volumeMode = some .filesystem then pure true
    else if ← cs.checkHostVA pvc nodeID hostVAs then cs.checkGuestVA pvc nodeID
    else pure false

-- ---------------------------------------------------------------------------
-- ControllerPublishVolume
-- ---------------------------------------------------------------------------

def volumeAttachedCheck (nodeID volumeID : String) : Api Bool :=
  (cs.isVolAttached nodeID volumeID).orElse fun _ => .ok false

def waitForVolumeAttached (ticks : Nat) (nodeID volumeID : String) : Api Unit :=
  (pollUntilContextTimeout false ticks (cs.volumeAttachedCheck nodeID volumeID)).orElse fun e =>
    .error (.status .aborted ("Volume " ++ volumeID ++ " not yet attached to VM/VMI " ++ nodeID ++
      ", err: " ++ e.message))

def plugVolume (attachTicks : Nat) (nodeId volumeId : String) : Api Unit := do
  let attached ← (cs.isVolAttached nodeId volumeId).orElse fun e =>
    .error (.status .internal ("Failed to check volume " ++ volumeId ++ " in VM/VMI " ++ nodeId ++
      ": " ++ e.message))
  if attached then pure ()
  else do
    (cs.hotplugVolumeToVM nodeId volumeId).orElse fun e =>
      .error (.status .internal ("Failed to add volume to node " ++ nodeId ++ ": " ++ e.message))
    cs.waitForVolumeAttached attachTicks nodeId volumeId

def attachVolume (settleTicks attachTicks : Nat) (pvc : PVC) (nodeId volumeId : String) :
    Api Unit := do
  (pollUntilContextTimeout true settleTicks (cs.waitForVASettled pvc nodeId)).orElse fun e =>
    .error (.status .deadlineExceeded ("Failed to wait the volume " ++ volumeId ++
      " status to settled, err: " ++ e.message))
  cs.plugVolume attachTicks nodeId volumeId

/-- `settleTicks` and `attachTicks` are how often its two waits look. -/
def controllerPublishVolume (settleTicks attachTicks : Nat) (req : PublishRequest) : Api Unit := do
  if req.nodeId = "" then .error (.status .invalidArgument "missing node id in request")
  else match req.volumeCapability with
    | none => .error (.status .invalidArgument "Missing volume capability in request")
    | some volumeCapability =>
      match ← ask (.getPVC cs.ns req.volumeId) with
      | .error e =>
        .error (.status .internal ("Failed to get PVC " ++ req.volumeId ++ ": " ++ e.message))
      | .ok pvc =>
        if pvc.phase ≠ .bound then
          .error (.status .aborted ("The PVC " ++ req.volumeId ++ " in phase " ++ pvc.phase.text ++
            " is not ready to be attached"))
        else if volumeCapability.mode = .multiNodeMultiWriter then do
          if ← cs.isLHRWXVolume pvc then cs.publishRWXVolume pvc else pure ()
        else cs.attachVolume settleTicks attachTicks pvc req.nodeId req.volumeId

-- ---------------------------------------------------------------------------
-- ControllerUnpublishVolume
-- ---------------------------------------------------------------------------

def detachVolume (nodeId volumeId : String) : Api Unit := do
  let volRemoving ← (cs.removeVolumeFromHostVM nodeId volumeId).orElse fun e =>
    .error (.status .internal ("Failed to remove volume " ++ volumeId ++ " from host VM/VMI: " ++
      e.message))
  if volRemoving then
    .error (.status .aborted
      ("Volume " ++ volumeId ++ " removal in progress from VM/VMI " ++ nodeId ++
      ", waiting for completion"))
  else pure ()

def controllerUnpublishVolume (req : UnpublishRequest) : Api Unit := do
  if req.volumeId = "" then .error (.status .invalidArgument "Missing volume ID in request")
  else
    match ← ask (.getPVC cs.ns req.volumeId) with
    | .error e =>
      .error (.status .internal ("Failed to get PVC " ++ req.volumeId ++ ": " ++ e.message))
    | .ok pvc =>
      if pvc.phase ≠ .bound then
        .error (.status .aborted ("The PVC " ++ req.volumeId ++ " is in phase " ++ pvc.phase.text))
      else do
        if ← cs.isLHRWXVolume pvc then cs.unpublishRWXVolume pvc
        else cs.detachVolume req.nodeId req.volumeId

end ControllerServer

end HarvesterCSI
