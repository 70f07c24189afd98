import HarvesterCSI.Controller.Server

/-!
# Creating and deleting volumes

A volume is a claim on the host: made from scratch, from a VolumeSnapshot, or
through a VolumeRemoteRestore when the snapshot id names a backup. A shared
Longhorn volume also gets a NetworkFilesystem, its export.
-/

namespace HarvesterCSI

open Calls Calls.Prog

namespace ControllerServer
variable (cs : ControllerServer)

def validateVolumeContentSource (_ : ControllerServer) (vcs : Option VolumeContentSource)
    (vc : List VolumeCapability) : Api Unit :=
  match vcs with
  | none | some .unset => .ok ()
  | some (.volume _) =>
    .error (.status .invalidArgument "Volume cloning from another volume is not supported,")
  | some (.snapshot id) =>
    if id = "" then
      .error (.status .invalidArgument "Snapshot source is specified but SnapshotId is empty")
    else if vc.any (·.mode = .multiNodeMultiWriter) then
      .error (.status .invalidArgument "Creating RWX volumes from snapshots is not supported")
    else .ok ()

def volSize (_ : ControllerServer) (req : CreateVolumeRequest) : Int64 :=
  let size := req.requiredBytes.getD minimalVolumeSize
  if size < minimalVolumeSize then minimalVolumeSize else size

/-- The volume parameters and the size of a well-formed request. -/
def validateCreateVolReq (req : CreateVolumeRequest) : Api (StringMap × Int64) := do
  (cs.validateControllerServiceRequest .createDeleteVolume).orElse fun e =>
    .error (.status .invalidArgument ("invalid create volume req: " ++ e.message))
  if req.name = "" then .error (.status .invalidArgument "Volume Name cannot be empty")
  else do
    cs.validateVolumeCapabilities req.volumeCapabilities
    cs.validateVolumeContentSource req.volumeContentSource req.volumeCapabilities
    pure (req.parameters.getD [], cs.volSize req)

-- ---------------------------------------------------------------------------
-- Building claims
-- ---------------------------------------------------------------------------

/-- The volume mode of a new claim: a parameter overrides the capability. -/
def scratchVolumeMode (vc : List VolumeCapability) (vp : StringMap) : VolumeMode :=
  if vp.lookup paramHostVolMode = some "filesystem" then .filesystem else getVolumeMode vc

def scratchPVC (name : String) (vc : List VolumeCapability) (vp : StringMap) (size : Int64)
    (targetSC targetProvisioner : String) : PVC where
  ns := cs.ns
  name := name
  accessModes := [.readWriteMany]
  annotations :=
    if scratchVolumeMode vc vp = .filesystem ∧ targetProvisioner ≠ longhornProvisioner then
      [(annoFSVolumeForVM, "true")]
    else []
  volumeMode := some (scratchVolumeMode vc vp)
  storageClassName := if targetSC ≠ "" then some targetSC else none
  requests := some { storage := some (roundUpSize size) }

def buildHostPVCFromScratch (name : String) (vc : List VolumeCapability) (vp : StringMap)
    (size : Int64) : Api PVC := do
  let (targetSC, targetProvisioner) ← cs.getStorageClass vp
  pure (cs.scratchPVC name vc vp size targetSC targetProvisioner)

def missingLabels (labels : StringMap) : List String :=
  [labelSnapHostSC, labelSnapHostVolumeMode].filter fun label => (labels.lookup label).isNone

def validateHostSnapLabels (_ : ControllerServer) (hostSnap : VolumeSnapshot) : Api Unit :=
  match hostSnap.labels with
  | none => .error (.text ("host snapshot " ++ hostSnap.name ++ " is missing required labels"))
  | some labels =>
    if missingLabels labels = [] then .ok ()
    else .error (.text ("host snapshot " ++ hostSnap.name ++ " is missing required labels: [" ++
      " ".intercalate (missingLabels labels) ++ "]"))

def parseVolumeMode (s : String) : Option VolumeMode :=
  if s = VolumeMode.text .block then some .block
  else if s = VolumeMode.text .filesystem then some .filesystem
  else none

def buildHostPVCFromSnap (name snapshotId : String) (size : Int64) : Api PVC := do
  match ← ask (.getSnapshot cs.ns snapshotId) with
  | .error e => .error (.api e)
  | .ok hostSnap => do
    cs.validateHostSnapLabels hostSnap
    let labels := hostSnap.labels.getD []
    let storageClassName := (labels.lookup labelSnapHostSC).getD ""
    let volumeModeStr := (labels.lookup labelSnapHostVolumeMode).getD ""
    match ← ask (.getStorageClass storageClassName) with
    | .error e => .error (.api e)
    | .ok _ =>
      match parseVolumeMode volumeModeStr with
      | none =>
        .error (.status .internal
          ("Invalid volume mode " ++ volumeModeStr ++ " in snapshot labels"))
      | some volumeMode => pure {
          ns := cs.ns
          name := name
          accessModes := [.readWriteMany]
          volumeMode := some volumeMode
          storageClassName := some storageClassName
          requests := some { storage := some size }
          dataSource := some ⟨snapshotGroupName, volumeSnapshotKind, hostSnap.name⟩ }

def buildHostPVC (req : CreateVolumeRequest) (vp : StringMap) (size : Int64) : Api PVC :=
  match req.volumeContentSource with
  | none => cs.buildHostPVCFromScratch req.name req.volumeCapabilities vp size
  | some (.snapshot id) => cs.buildHostPVCFromSnap req.name id size
  | some _ => .error (.status .invalidArgument "Only snapshot content source is supported for now")

-- ---------------------------------------------------------------------------
-- Restoring from a backup
-- ---------------------------------------------------------------------------

def generateHostVolumeRemoteRestore (name : String) (vrb : VolumeRemoteBackup) :
    Api VolumeRemoteRestore := do
  match ← ask (.createRestore
    { ns := cs.ns, name := name, type := lhBackup, fromRef := vrb.ns ++ "/" ++ vrb.name }) with
  | .ok vrr => pure vrr
  | .error e => .error (.api e)

def getOrCreateVolumeRemoteRestore (name : String) (vrb : VolumeRemoteBackup) :
    Api VolumeRemoteRestore := do
  match ← ask (.getRestore cs.ns name) with
  | .ok vrr => pure vrr
  | .error e =>
    if e.reason ≠ .notFound then .error (.api e)
    else cs.generateHostVolumeRemoteRestore name vrb

def checkVolumeRemoteRestoreReadiness (name : String) : Api Bool := do
  match ← ask (.getRestore cs.ns name) with
  | .ok vrr => pure vrr.success
  | .error _ => pure false

def buildHostVolumeRemoteRestoreFromBackup (name : String) (vrb : VolumeRemoteBackup) :
    Api VolumeRemoteRestore := do
  let vrr ← cs.getOrCreateVolumeRemoteRestore name vrb
  if ← cs.checkVolumeRemoteRestoreReadiness vrr.name then pure vrr
  else .error (.status .internal ("VolumeRemoteRestore " ++ vrr.name ++ " is not ready"))

def isBackupSnapshotRestore (_ : ControllerServer) (req : CreateVolumeRequest) : Bool :=
  match req.volumeContentSource with
  | some (.snapshot id) => (parseSnapshotID id).1
  | _ => false

def buildHostVolumeRemoteRestore (req : CreateVolumeRequest) (volumeParameters : StringMap) :
    Api CreateVolumeResponse :=
  match parseSnapshotID req.snapshotId with
  | (false, _, _) => .error (.status .invalidArgument "Invalid backup snapshot ID format")
  | (true, vrbNs, vrbName) => do
    match ← ask (.getBackup vrbNs vrbName) with
    | .error e => .error (.api e)
    | .ok vrb => do
      let vrr ← cs.buildHostVolumeRemoteRestoreFromBackup req.name vrb
      pure {
        volumeId := vrr.name
        capacityBytes := (vrb.sourceRequests.getD {}).storageValue
        volumeContext := volumeParameters
        contentSource := req.volumeContentSource }

-- ---------------------------------------------------------------------------
-- CreateVolume
-- ---------------------------------------------------------------------------

/-- One read at each tick. A failed read ends the wait, an unset volume name does
not. -/
def waitForLHVolumeName (pvcName : String) : Nat → Api Bool
  | 0 => .ok false
  | ticks + 1 => do
    match ← ask (.getPVC cs.ns pvcName) with
    | .error _ => pure false
    | .ok pvc => if pvc.volumeName = "" then waitForLHVolumeName pvcName ticks else pure true

def createNetworkFilesystem (_ : ControllerServer) (volumeName : String) : Api Unit := do
  match ← ask (.createNetworkFS
    { ns := harvesterNS, name := volumeName, networkFSName := volumeName,
      desiredState := .disabled, provisioner := lhName }) with
  | .ok _ => pure ()
  | .error e => if e.reason = .alreadyExists then pure () else .error (.api e)

/-- `ticks` is how often the wait for the Longhorn volume looks before it times
out. When the read after the wait fails, its message names the claim of the empty
answer. -/
def createVolume (ticks : Nat) (req : CreateVolumeRequest) : Api CreateVolumeResponse := do
  let (volumeParameters, volSizeBytes) ← cs.validateCreateVolReq req
  if cs.isBackupSnapshotRestore req then cs.buildHostVolumeRemoteRestore req volumeParameters
  else do
    let hostPVC ← cs.buildHostPVC req volumeParameters volSizeBytes
    match ← ask (.createPVC hostPVC) with
    | .error e => .error (.status .internal e.message)
    | .ok resHostPVC => do
      exportVolume resHostPVC
      pure {
        volumeId := resHostPVC.name
        capacityBytes := volSizeBytes
        volumeContext := volumeParameters
        contentSource := req.volumeContentSource }
where
  -- only a shared Longhorn volume needs an export
  exportVolume (resHostPVC : PVC) : Api Unit := do
    if ← cs.isLHRWXVolume resHostPVC then do
      if ← cs.waitForLHVolumeName resHostPVC.name ticks then
        match ← ask (.getPVC cs.ns resHostPVC.name) with
        | .error e => .error (.status .internal ("Failed to get PVC : " ++ e.message))
        | .ok resPVC =>
          (cs.createNetworkFilesystem resPVC.volumeName).orElse fun e =>
            .error (.status .internal
              ("Failed to create NetworkFileSystem for volume " ++ resPVC.name ++ ": " ++
                e.message))
      else .error (.status .deadlineExceeded ("Failed to create volume " ++ resHostPVC.name))
    else pure ()

-- ---------------------------------------------------------------------------
-- DeleteVolume
-- ---------------------------------------------------------------------------

def deleteVolumeRemoteRestoreIfExists (volumeID : String) : Api Bool := do
  match ← ask (.getRestore cs.ns volumeID) with
  | .error e => if e.reason = .notFound then pure false else .error (.api e)
  | .ok _ =>
    match ← ask (.deleteRestore cs.ns volumeID) with
    | .error e => .error (.api e)
    | .ok () => pure true

def deleteVolume (volumeId : String) : Api Unit := do
  if volumeId = "" then .error (.status .invalidArgument "Volume ID missing in request")
  else do
    (cs.validateControllerServiceRequest .createDeleteVolume).orElse fun e =>
      .error (.status .internal ("Invalid delete volume req: " ++ e.message))
    if ← cs.deleteVolumeRemoteRestoreIfExists volumeId then pure ()
    else
      match ← ask (.getPVC cs.ns volumeId) with
      | .error e =>
        if e.reason = .notFound then pure ()
        else .error (.status .internal ("Failed to get PVC " ++ volumeId ++ ": " ++ e.message))
      | .ok pvc => do
        if ← cs.isLHRWXVolume pvc then
          deleteExport pvc.volumeName
        match ← ask (.deletePVC cs.ns volumeId) with
        | .ok () => pure ()
        | .error e =>
          if e.reason = .notFound then pure ()
          else .error (.status .internal ("Failed to delete PVC " ++ volumeId ++ ": " ++ e.message))
where
  deleteExport (volumeName : String) : Api Unit := do
    match ← ask (.getNetworkFS harvesterNS volumeName) with
    | .error e =>
      if e.reason = .notFound then pure ()
      else .error (.status .internal
        ("Failed to get NetworkFileSystem " ++ volumeName ++ ": " ++ e.message))
    | .ok _ =>
      match ← ask (.deleteNetworkFS harvesterNS volumeName) with
      | .ok () => pure ()
      | .error e => .error (.status .internal
        ("Failed to delete NetworkFileSystem " ++ volumeName ++ ": " ++ e.message))

-- ---------------------------------------------------------------------------
-- ValidateVolumeCapabilities
-- ---------------------------------------------------------------------------

/-- The RPC, after the check of the same name. The volume only has to exist. -/
def validateVolumeCapabilitiesRPC (req : ValidateVolumeCapabilitiesRequest) :
    Api ConfirmedCapabilities := do
  match ← ask (.getPVC cs.ns req.volumeId) with
  | .error e =>
    if e.reason = .notFound then
      .error (.status .notFound ("The PVC " ++ req.volumeId ++ " does not exist"))
    else .error (.status .internal ("Failed to get PVC " ++ req.volumeId ++ ": " ++ e.message))
  | .ok _ => do
    cs.validateVolumeCapabilities req.volumeCapabilities
    pure {
      volumeContext := req.volumeContext
      volumeCapabilities := req.volumeCapabilities
      parameters := req.parameters }

end ControllerServer

end HarvesterCSI
