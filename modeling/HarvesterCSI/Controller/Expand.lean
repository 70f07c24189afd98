import HarvesterCSI.Controller.Server

/-!
# Expanding volumes
-/

namespace HarvesterCSI

open Calls Calls.Prog

structure ExpandRequest where
  volumeId : String
  volumeCapability : Option VolumeCapability
  requiredBytes : Option Int64
  deriving DecidableEq, Repr

structure ExpandResponse where
  capacityBytes : Int64
  nodeExpansionRequired : Bool
  deriving DecidableEq, Repr

def missingVolumeInfoErr : String := "Missing required volume information in request"

def validateCtrlExpandReq (req : ExpandRequest) : Api Unit :=
  if req.volumeId = "" ∨ req.volumeCapability = none then
    .error (.status .invalidArgument missingVolumeInfoErr)
  else .ok ()

def ctrlExpandRWX (req : ExpandRequest) : Bool :=
  (req.volumeCapability.getD {}).mode = .multiNodeMultiWriter

def shrinkErr : Err := .status .failedPrecondition "Volume shrink is not supported"

namespace ControllerServer
variable (cs : ControllerServer)

def isVolumeInUse (volumeID : String) : Api Bool := do
  match ← ask (.listPods cs.ns) with
  | .error e => .error (.wrapped "error listing pods" (.api e))
  | .ok pods => pure (pods.any (volumeID ∈ ·.claims))

/-- A volume in use needs the setting to exist. -/
def validateOnlineExpansion (pvc : PVC) : Api Unit := do
  if ← cs.isVolumeInUse pvc.name then
    match ← ask (.getSetting csiOnlineExpandValidation) with
    | .ok _ => pure ()
    | .error e =>
      .error (.status .internal ("Failed to retrieve online expansion setting: " ++ e.message))
  else pure ()

/-- One read at each tick; a failed read does not end the wait. -/
def waitForPVCState (name : String) (predicate : PVC → Bool) : Nat → Api Bool
  | 0 => .ok false
  | ticks + 1 => do
    match ← ask (.getPVC cs.ns name) with
    | .error _ => waitForPVCState name predicate ticks
    | .ok pvc => if predicate pvc then pure true else waitForPVCState name predicate ticks

def controllerExpandVolume (ticks : Nat) (req : ExpandRequest) : Api ExpandResponse := do
  validateCtrlExpandReq req
  if ctrlExpandRWX req then .error (.status .internal "rwx volume expansion is not supported")
  else
    match ← ask (.getPVC cs.ns req.volumeId) with
    | .error _ => missing
    | .ok pvc =>
      if pvc.volumeName = "" then missing
      else do
        cs.validateOnlineExpansion pvc
        match req.requiredBytes with
        | none => .error (.status .invalidArgument "Capacity range is missing in the request")
        | some reqSize =>
          if (pvc.requests.getD {}).storageValue > reqSize then .error shrinkErr
          else resize pvc reqSize
where
  missing : Api ExpandResponse :=
    .error (.status .notFound ("PersistentVolumeClaim " ++ req.volumeId ++ " not found"))
  -- the new size is written into the map of requests, which may be nil
  resize (pvc : PVC) (reqSize : Int64) : Api ExpandResponse :=
    if pvc.requests = none then .panic
    else do
      match ← ask (.updatePVC { pvc with requests := some { storage := some reqSize } }) with
      | .error e => .error (.status .internal ("Failed to update PVC size: " ++ e.message))
      | .ok _ =>
        if ← cs.waitForPVCState req.volumeId (·.capacity.storageValue ≥ reqSize) ticks then do
          let inUse ← (cs.isVolumeInUse req.volumeId).orElse fun e =>
            .error (.status .internal
              ("Failed to check if volume " ++ req.volumeId ++ " is in use: " ++ e.message))
          pure { capacityBytes := reqSize, nodeExpansionRequired := inUse }
        else .error (.status .deadlineExceeded "PVC expansion timed out")

end ControllerServer

end HarvesterCSI
