import HarvesterCSI.Calls.Store

/-!
# The objects of the host and the guest cluster

Each Kubernetes object carries the fields that the driver reads or writes. An
optional pointer is an `Option`, a map that may be nil is an `Option` of a map,
an enumerated string is an inductive type, a quantity is its `Value()`.
-/

namespace HarvesterCSI

abbrev StringMap := List (String × String)

abbrev Key := String × String

-- ---------------------------------------------------------------------------
-- Errors
-- ---------------------------------------------------------------------------

inductive Reason
  | notFound
  | alreadyExists
  | conflict
  | forbidden
  | invalid
  | internalError
  | unknown
  deriving DecidableEq, Repr

/-- An error of the Kubernetes API as the clients return it. One that they make
themselves has no reason. -/
structure ApiError where
  reason : Reason
  message : String
  deriving DecidableEq, Repr

inductive Code
  | invalidArgument
  | deadlineExceeded
  | notFound
  | failedPrecondition
  | aborted
  | internal
  deriving DecidableEq, Repr

def Code.text : Code → String
  | .invalidArgument => "InvalidArgument"
  | .deadlineExceeded => "DeadlineExceeded"
  | .notFound => "NotFound"
  | .failedPrecondition => "FailedPrecondition"
  | .aborted => "Aborted"
  | .internal => "Internal"

/-- A Go error: a client error, a gRPC status, or text made by `fmt.Errorf`,
with the error it wraps when the format has a `%w`. -/
inductive Err
  | api (e : ApiError)
  | status (code : Code) (msg : String)
  | text (msg : String)
  | wrap (msg : String) (cause : Err)
  deriving DecidableEq, Repr

/-- `err.Error()`. -/
def Err.message : Err → String
  | .api e => e.message
  | .status code msg => "rpc error: code = " ++ code.text ++ " desc = " ++ msg
  | .text msg => msg
  | .wrap msg _ => msg

/-- `errors.IsNotFound`, which looks through wrapped errors. -/
def Err.isNotFound : Err → Bool
  | .api e => e.reason = .notFound
  | .wrap _ cause => cause.isNotFound
  | _ => false

/-- `fmt.Errorf("<text>: %w", cause)`. -/
def Err.wrapped (text : String) (cause : Err) : Err := .wrap (text ++ ": " ++ cause.message) cause

-- ---------------------------------------------------------------------------
-- Volumes on the host
-- ---------------------------------------------------------------------------

inductive VolumeMode
  | block
  | filesystem
  | empty
  deriving DecidableEq, Repr

def VolumeMode.text : VolumeMode → String
  | .block => "Block"
  | .filesystem => "Filesystem"
  | .empty => ""

inductive PVCAccessMode
  | readWriteOnce
  | readOnlyMany
  | readWriteMany
  | readWriteOncePod
  deriving DecidableEq, Repr

inductive ClaimPhase
  | pending
  | bound
  | lost
  deriving DecidableEq, Repr

def ClaimPhase.text : ClaimPhase → String
  | .pending => "Pending"
  | .bound => "Bound"
  | .lost => "Lost"

/-- A resource list, of which only the storage entry is ever read. -/
structure ResourceList where
  storage : Option Int64 := none
  deriving DecidableEq, Repr

/-- `Storage().Value()`: an absent entry counts as zero. -/
def ResourceList.storageValue (l : ResourceList) : Int64 := l.storage.getD 0

structure DataSource where
  apiGroup : String
  kind : String
  name : String
  deriving DecidableEq, Repr

structure PVC where
  ns : String
  name : String
  resourceVersion : Nat := 0
  deletionTimestamp : Option Nat := none
  annotations : StringMap := []
  accessModes : List PVCAccessMode := []
  volumeMode : Option VolumeMode := none
  storageClassName : Option String := none
  volumeName : String := ""
  requests : Option ResourceList := none
  dataSource : Option DataSource := none
  phase : ClaimPhase := .pending
  capacity : ResourceList := {}
  deriving DecidableEq, Repr

structure StorageClass where
  name : String
  provisioner : String
  deriving DecidableEq, Repr

inductive NetworkFSState
  | enabled
  | enabling
  | disabling
  | disabled
  | unknown
  | empty
  deriving DecidableEq, Repr

inductive EndpointStatus
  | ready
  | notReady
  | reconciling
  | unknown
  | empty
  deriving DecidableEq, Repr

/-- The export of a shared volume. `empty` is the zero value of a state. The last four
fields are its status. -/
structure NetworkFilesystem where
  ns : String
  name : String
  resourceVersion : Nat := 0
  networkFSName : String := ""
  desiredState : NetworkFSState := .empty
  provisioner : String := ""
  state : NetworkFSState := .empty
  status : EndpointStatus := .empty
  endpoint : String := ""
  mountOpts : String := ""
  deriving DecidableEq, Repr

/-- Attachment of a volume to a node. The source is a PersistentVolume name, or
given inline, and then there is no name. -/
structure VolumeAttachment where
  persistentVolumeName : Option String
  nodeName : String
  attached : Bool
  deriving DecidableEq, Repr

structure PersistentVolume where
  name : String
  claimRef : Option Key
  deriving DecidableEq, Repr

/-- A pod by the claims of its volumes that have one. -/
structure Pod where
  ns : String
  name : String
  running : Bool
  claims : List String
  deriving DecidableEq, Repr

-- ---------------------------------------------------------------------------
-- Snapshots, backups and restores
-- ---------------------------------------------------------------------------

structure SnapshotError where
  message : Option String := none
  deriving DecidableEq, Repr

structure SnapshotStatus where
  creationTime : Option Nat := none
  readyToUse : Option Bool := none
  restoreSize : Option Int64 := none
  error : Option SnapshotError := none
  deriving DecidableEq, Repr

structure VolumeSnapshot where
  ns : String
  name : String
  labels : Option StringMap := none
  persistentVolumeClaimName : Option String := none
  volumeSnapshotClassName : Option String := none
  status : Option SnapshotStatus := none
  deletionTimestamp : Option Nat := none
  finalizers : List String := []
  deriving DecidableEq, Repr

/-- `sourceRequests` is `Status.SourceSpec.Resources.Requests`. -/
structure VolumeRemoteBackup where
  ns : String
  name : String
  labels : Option StringMap := none
  creationTimestamp : Option Nat := none
  type : String := ""
  source : String := ""
  sourceRequests : Option ResourceList := none
  success : Bool := false
  deriving DecidableEq, Repr

structure VolumeRemoteRestore where
  ns : String
  name : String
  type : String := ""
  fromRef : String := ""
  success : Bool := false
  deriving DecidableEq, Repr

/-- A Harvester setting. Its two texts are kept as what they unmarshal to, the
snapshot class of each provisioner, or as the text of the JSON error. -/
structure Setting where
  name : String
  default : Except String StringMap := .ok []
  value : Except String StringMap := .ok []

-- ---------------------------------------------------------------------------
-- Virtual machines and guest nodes
-- ---------------------------------------------------------------------------

inductive VolumeSource
  | persistentVolumeClaim (claimName : String) (hotpluggable : Bool)
  | other (description : String)
  deriving DecidableEq, Repr

structure Volume where
  name : String
  source : VolumeSource
  deriving DecidableEq, Repr

inductive DiskDevice
  | disk (bus : String)
  | lun (bus : String)
  | cdrom (bus : String)
  deriving DecidableEq, Repr

structure Disk where
  name : String
  device : DiskDevice
  deriving DecidableEq, Repr

inductive ConditionStatus
  | true
  | false
  | unknown
  deriving DecidableEq, Repr

structure Condition where
  type : String
  status : ConditionStatus
  deriving DecidableEq, Repr

/-- `spec.template.spec.volumes` and `….domain.devices.disks` are dropped from
the stored object when they were never set, hence the `Option`. -/
structure VirtualMachine where
  ns : String
  name : String
  resourceVersion : Nat := 0
  volumes : Option (List Volume) := none
  disks : Option (List Disk) := none
  conditions : List Condition := []
  printableStatus : String := ""
  deriving DecidableEq, Repr

/-- An absent list reads as an empty one. -/
def VirtualMachine.volumeList (vm : VirtualMachine) : List Volume := vm.volumes.getD []

def VirtualMachine.diskList (vm : VirtualMachine) : List Disk := vm.disks.getD []

inductive VolumePhase
  | ready
  | other (text : String)
  deriving DecidableEq, Repr

/-- The phase and the target are the node's view of a hot-plugged volume. -/
structure VolumeStatus where
  name : String
  hotplugVolume : Bool
  phase : VolumePhase := .other ""
  target : String := ""
  deriving DecidableEq, Repr

structure VirtualMachineInstance where
  ns : String
  name : String
  nodeName : String := ""
  volumeStatus : List VolumeStatus := []
  /-- `Status.Interfaces`, by the texts of their MACs. -/
  interfaces : List String := []
  deriving DecidableEq, Repr

inductive TaintEffect
  | noSchedule
  | preferNoSchedule
  | noExecute
  deriving DecidableEq, Repr

structure Taint where
  key : String
  value : String := ""
  effect : TaintEffect
  deriving DecidableEq, Repr

structure Node where
  name : String
  resourceVersion : Nat := 0
  deletionTimestamp : Option Nat := none
  conditions : List Condition := []
  taints : List Taint := []
  deriving DecidableEq, Repr

end HarvesterCSI
