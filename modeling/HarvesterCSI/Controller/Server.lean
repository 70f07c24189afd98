import HarvesterCSI.Cluster

/-!
# The controller server

Its configuration, the capabilities it advertises, the requests it takes, and
the checks that several of its calls share.
-/

namespace HarvesterCSI

open Calls Calls.Prog

-- ---------------------------------------------------------------------------
-- Constants
-- ---------------------------------------------------------------------------

def paramHostSC : String := "hostStorageClass"
def paramHostVolMode : String := "hostVolumeMode"
def paramSnapshotType : String := "type"
def snapshotTypeBackup : String := "backup"
def longhornProvisioner : String := "driver.longhorn.io"
def annoFSVolumeForVM : String := "harvesterhci.io/volumeForVirtualMachine"
def labelSnapHostSC : String := "harvesterhci.io/snapHostSC"
def labelSnapHostVolumeMode : String := "harvesterhci.io/snapHostVolumeMode"
def labelBackupSrcVol : String := "harvesterhci.io/backupSourceVolume"
def annStorageProvisioner : String := "volume.kubernetes.io/storage-provisioner"
def harvesterNS : String := "harvester-system"
def lhName : String := "Longhorn"
def lhBackup : String := "lh"
def volumeSnapshotKind : String := "VolumeSnapshot"
def snapshotGroupName : String := "snapshot.storage.k8s.io"
def csiDriverConfig : String := "csi-driver-config"
def csiOnlineExpandValidation : String := "csi-online-expand-validation"

-- ---------------------------------------------------------------------------
-- Messages
-- ---------------------------------------------------------------------------

inductive AccessMode
  | unknown
  | singleNodeWriter
  | singleNodeReaderOnly
  | multiNodeReaderOnly
  | multiNodeSingleWriter
  | multiNodeMultiWriter
  | singleNodeSingleWriter
  | singleNodeMultiWriter
  deriving DecidableEq, Repr

def AccessMode.text : AccessMode → String
  | .unknown => "UNKNOWN"
  | .singleNodeWriter => "SINGLE_NODE_WRITER"
  | .singleNodeReaderOnly => "SINGLE_NODE_READER_ONLY"
  | .multiNodeReaderOnly => "MULTI_NODE_READER_ONLY"
  | .multiNodeSingleWriter => "MULTI_NODE_SINGLE_WRITER"
  | .multiNodeMultiWriter => "MULTI_NODE_MULTI_WRITER"
  | .singleNodeSingleWriter => "SINGLE_NODE_SINGLE_WRITER"
  | .singleNodeMultiWriter => "SINGLE_NODE_MULTI_WRITER"

/-- Each part of a capability may be missing. -/
structure VolumeCapability where
  mount : Bool := false
  block : Bool := false
  accessMode : Option AccessMode := none
  deriving DecidableEq, Repr

/-- `GetAccessMode().GetMode()`, which is safe on an absent access mode. -/
def VolumeCapability.mode (c : VolumeCapability) : AccessMode := c.accessMode.getD .unknown

inductive VolumeContentSource
  | snapshot (snapshotId : String)
  | volume (volumeId : String)
  | unset
  deriving DecidableEq, Repr

structure CreateVolumeRequest where
  name : String
  /-- `CapacityRange.RequiredBytes`, when there is a capacity range. -/
  requiredBytes : Option Int64 := none
  volumeCapabilities : List VolumeCapability := []
  parameters : Option StringMap := none
  volumeContentSource : Option VolumeContentSource := none
  deriving DecidableEq, Repr

def CreateVolumeRequest.snapshotId (req : CreateVolumeRequest) : String :=
  match req.volumeContentSource with
  | some (.snapshot id) => id
  | _ => ""

structure CreateVolumeResponse where
  volumeId : String
  capacityBytes : Int64
  volumeContext : StringMap
  contentSource : Option VolumeContentSource
  deriving DecidableEq, Repr

structure ValidateVolumeCapabilitiesRequest where
  volumeId : String
  volumeContext : Option StringMap := none
  volumeCapabilities : List VolumeCapability := []
  parameters : Option StringMap := none
  deriving DecidableEq, Repr

structure ConfirmedCapabilities where
  volumeContext : Option StringMap
  volumeCapabilities : List VolumeCapability
  parameters : Option StringMap
  deriving DecidableEq, Repr

inductive RPCType
  | unknown
  | createDeleteVolume
  | publishUnpublishVolume
  | expandVolume
  | createDeleteSnapshot
  | listSnapshots
  deriving DecidableEq, Repr

def RPCType.text : RPCType → String
  | .unknown => "UNKNOWN"
  | .createDeleteVolume => "CREATE_DELETE_VOLUME"
  | .publishUnpublishVolume => "PUBLISH_UNPUBLISH_VOLUME"
  | .expandVolume => "EXPAND_VOLUME"
  | .createDeleteSnapshot => "CREATE_DELETE_SNAPSHOT"
  | .listSnapshots => "LIST_SNAPSHOTS"

-- ---------------------------------------------------------------------------
-- The server
-- ---------------------------------------------------------------------------

/-- `networkFSListable` is what the constructor finds out about the host: whether
NetworkFilesystems can be listed there. -/
structure ControllerServer where
  ns : String
  hostStorageClass : String
  useDeclarativeHotplug : Bool
  networkFSListable : Bool
  deriving DecidableEq, Repr

namespace ControllerServer
variable (cs : ControllerServer)

def caps (_ : ControllerServer) : List RPCType :=
  [.createDeleteVolume, .publishUnpublishVolume, .expandVolume, .createDeleteSnapshot,
    .listSnapshots]

def accessModes : List AccessMode :=
  if cs.networkFSListable then [.singleNodeWriter, .multiNodeMultiWriter] else [.singleNodeWriter]

def validateControllerServiceRequest (c : RPCType) : Api Unit :=
  if c = .unknown ∨ c ∈ cs.caps then .ok ()
  else .error (.status .invalidArgument ("unsupported capability " ++ c.text))

/-- The message of a rejected access mode reads the mode through the pointer. -/
def validateVolumeCapability (cap : VolumeCapability) : Api Unit :=
  if !cap.mount && !cap.block then
    .error (.status .invalidArgument "cannot have both mount and block access type be undefined")
  else if cap.mount && cap.block then
    .error (.status .invalidArgument "cannot have both block and mount access type")
  else if cap.mode ∈ cs.accessModes then .ok ()
  else match cap.accessMode with
    | none => .panic
    | some m => .error (.status .invalidArgument ("access mode " ++ m.text ++ " is not supported"))

def validateVolumeCapabilities (volumeCaps : List VolumeCapability) : Api Unit :=
  match volumeCaps with
  | [] => .error (.status .invalidArgument "Volume Capabilities cannot be empty")
  | _ => go volumeCaps
where
  go : List VolumeCapability → Api Unit
    | [] => .ok ()
    | cap :: rest => do
      cs.validateVolumeCapability cap
      go rest

def getVolumeMode : List VolumeCapability → VolumeMode
  | [] => .empty
  | cap :: rest =>
    if cap.mode = .multiNodeMultiWriter then .filesystem
    else if cap.mode = .singleNodeWriter then .block
    else getVolumeMode rest

/-- An older host forbids reading its storage classes, and then the check is
skipped (`none`). -/
def validStorageClass (_ : ControllerServer) (storageClassName : String) :
    Api (Option StorageClass) := do
  match ← ask (.getStorageClass storageClassName) with
  | .ok sc => pure (some sc)
  | .error e =>
    match e.reason with
    | .forbidden => pure none
    | .notFound => .error (.status .notFound e.message)
    | _ => .error (.status .internal e.message)

def getStorageClass (volParameters : StringMap) : Api (String × String) :=
  match volParameters.lookup paramHostSC with
  | none => .ok (cs.hostStorageClass, longhornProvisioner)
  | some val => do
    let sc ← cs.validStorageClass val
    pure (val, match sc with
      | some sc => sc.provisioner
      | none => longhornProvisioner)

/-- The storage class lookup is made once for each access mode that is
ReadWriteMany. Its error is only logged: the client returns an empty object
then, which has no provisioner. -/
def isLHRWXVolume (_ : ControllerServer) (pvc : PVC) : Api Bool :=
  if pvc.volumeMode = some .filesystem then go pvc.accessModes else .ok false
where
  go : List PVCAccessMode → Api Bool
    | [] => .ok false
    | mode :: rest =>
      if mode ≠ .readWriteMany then go rest
      else match pvc.storageClassName with
        | none => .panic
        | some scName => do
          match ← ask (.getStorageClass scName) with
          | .ok sc => if sc.provisioner = longhornProvisioner then pure true else go rest
          | .error _ => go rest

end ControllerServer

-- ---------------------------------------------------------------------------
-- Snapshot ids
-- ---------------------------------------------------------------------------

/-- `"backup:<namespace>/<name>"`. -/
def formatBackupSnapshotID (ns name : String) : String := "backup:" ++ ns ++ "/" ++ name

/-- `strings.SplitN(s, "/", 2)` when it has two parts. -/
def splitSlash (s : List Char) : Option (List Char × List Char) :=
  match s.dropWhile (· ≠ '/') with
  | [] => none
  | _ :: rest => some (s.takeWhile (· ≠ '/'), rest)

/-- Whether the id is of a backup, the namespace and the name. -/
def parseSnapshotID (snapshotID : String) : Bool × String × String :=
  if "backup:".toList.isPrefixOf snapshotID.toList then
    match splitSlash (snapshotID.toList.drop 7) with
    | some (ns, name) => (true, String.ofList ns, String.ofList name)
    | none => (false, "", snapshotID)
  else (false, "", snapshotID)

-- ---------------------------------------------------------------------------
-- Sizes
-- ---------------------------------------------------------------------------

def sizeAlignment : Int64 := 2 * 1024 * 1024
def minimalVolumeSize : Int64 := 10 * 1024 * 1024

def roundUpSize (size : Int64) : Int64 :=
  if size ≤ 0 then sizeAlignment
  else
    let r := size % sizeAlignment
    if r = 0 then size else size - r + sizeAlignment

/-- Poll `cond` until it is true, gives an error, or the deadline is met after
`ticks` intervals. -/
def pollUntilContextTimeout (immediate : Bool) (ticks : Nat) (cond : Api Bool) : Api Unit := do
  if ← poll cond (if immediate then ticks + 1 else ticks) then pure ()
  else .error (.text "context deadline exceeded")

end HarvesterCSI
