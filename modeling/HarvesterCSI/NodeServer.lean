import HarvesterCSI.Controller.Expand
import HarvesterCSI.Guest

/-!
# The node server

It runs on a guest node. A hot-plugged volume shows up there as a disk, which is
looked up by the ID of the volume and bound or mounted to the target path. The export
of a shared volume is mounted to a staging path first, which is bound to each target.
-/

namespace HarvesterCSI

open Calls Calls.Prog

structure NodeCapability extends VolumeCapability where
  fsType : String := ""
  mountFlags : List String := []
  deriving DecidableEq, Repr

/-- `GetMount().GetFsType()`, which is safe on an absent mount. -/
def NodeCapability.mountFsType (c : NodeCapability) : String := if c.mount then c.fsType else ""

structure NodePublishRequest where
  volumeId : String
  targetPath : String
  stagingTargetPath : String := ""
  volumeCapability : Option NodeCapability
  deriving DecidableEq, Repr

structure NodeStageRequest where
  volumeId : String
  stagingTargetPath : String
  volumeCapability : Option NodeCapability
  deriving DecidableEq, Repr

structure NodeUnstageRequest where
  volumeId : String
  stagingTargetPath : String
  deriving DecidableEq, Repr

structure NodeUnpublishRequest where
  volumeId : String
  targetPath : String
  deriving DecidableEq, Repr

structure NodeExpandRequest where
  volumeId : String
  volumePath : String
  volumeCapability : Option NodeCapability
  requiredBytes : Option Int64 := none
  deriving DecidableEq, Repr

/-- `%q`, of a text with nothing to escape in it. -/
def quoted (s : String) : String := "\"" ++ s ++ "\""

/-- `strings.Contains(s, sub)`. -/
def containsText (s sub : String) : Bool := sub.toList <:+: s.toList

def fsTypeExt4 : String := "ext4"
def fsTypeXFS : String := "xfs"
def resize2fsCmd : String := "resize2fs"
def xfsGrowfsCmd : String := "xfs_growfs"
def failedStatErr : String := "failed to stat volume path"
def failedMountCheckErr : String := "failed to check mount point"
def failedDevicePathErr : String := "failed to get device path for volume"
def failedResizeErr : String := "failed to resize fs on volume"

-- ---------------------------------------------------------------------------
-- Disks and mount points
-- ---------------------------------------------------------------------------

def getDevicePathByVolumeID (volumeID : String) : NodeApi String := do
  match ← sys (.readDir deviceByIDDirectory) with
  | .error e => .error (.text e.message)
  | .ok files =>
    match files.find? (containsText · volumeID) with
    | none => noMatch
    | some file =>
      match ← sys (.evalSymlinks (deviceByIDDirectory ++ file)) with
      | .error e => .error (.text e.message)
      | .ok target => if target = "" then noMatch else pure target
where
  noMatch : NodeApi String := .error (.text ("no matching disk for volume " ++ volumeID))

/-- Makes the directory if it is missing. -/
def isLikelyNotMountPointAttach (targetPath : String) : NodeApi Bool := do
  match ← sys (.isLikelyNotMountPoint targetPath) with
  | .ok notMnt => pure notMnt
  | .error e =>
    if e.notExist then
      match ← sys (.mkdirAll targetPath) with
      | .ok () => pure true
      | .error e => .error (.text e.message)
    else .error (.text e.message)

def resizeFilesystem (targetPath fsType : String) : NodeApi Unit :=
  if fsType = fsTypeExt4 then grow resize2fsCmd
  else if fsType = fsTypeXFS then grow xfsGrowfsCmd
  else .error (.text ("unsupported filesystem type: " ++ fsType))
where
  grow (cmd : String) : NodeApi Unit := do
    match ← sys (.command cmd targetPath) with
    | .ok () => pure ()
    | .error e => .error (.text (cmd ++ " failed: " ++ e.message ++ ", output: " ++ e.output))

def mountAndGrow (volumeName : String) (m : Mount) : NodeApi Unit := do
  match ← sys (.formatAndMount m) with
  | .error e => .error (.status .internal e.message)
  | .ok () => (resizeFilesystem m.source m.fsType).orElse fun e => .error (.status .internal
      ("Failed to resize filesystem for volume " ++ volumeName ++ " at " ++ m.source ++ ": " ++
        e.message))

def removePathIfNotMountPoint (mountPath : String) : NodeApi (Bool × Option OsError) := do
  match ← sys (.isLikelyNotMountPoint mountPath) with
  | .error e => if e.notExist then pure (true, none) else pure (true, some e)
  | .ok false => pure (false, none)
  | .ok true =>
    match ← sys (.remove mountPath) with
    | .ok () => pure (true, none)
    | .error e => pure (true, some e)

def removePath (mountPath : String) : NodeApi Unit := do
  match ← sys (.remove mountPath) with
  | .ok () => pure ()
  | .error e => if e.notExist then pure () else .error (.text e.message)

/-- `skipsCheck` is what the mounter says of `CanSafelySkipMountPointCheck`. -/
def doCleanupMountPoint (mountPath : String) (skipsCheck corruptedMnt : Bool) : NodeApi Unit := do
  if corruptedMnt || skipsCheck then
    match ← sys (.unmount mountPath) with
    | .error e => .error (.text e.message)
    | .ok () => removePath mountPath
  else
    match ← removePathIfNotMountPoint mountPath with
    | (_, some e) => .error (.text e.message)
    | (true, none) => pure ()
    | (false, none) =>
      match ← sys (.unmount mountPath) with
      | .error e => .error (.text e.message)
      | .ok () =>
        match ← removePathIfNotMountPoint mountPath with
        | (true, none) => pure ()
        | (true, some e) => .error (.text e.message)
        | (false, _) => .error (.text ("failed to cleanup mount point " ++ mountPath))

def cleanupMountPoint (mountPath : String) (skipsCheck : Bool) : NodeApi Unit := do
  match ← sys (.pathExists mountPath) with
  | .ok false => pure ()
  | .ok true => doCleanupMountPoint mountPath skipsCheck false
  | .error e =>
    if e.corrupted then doCleanupMountPoint mountPath skipsCheck true
    else .error (.text ("Error checking path: " ++ e.message))

structure NodeServer where
  ns : String
  nodeID : String
  deriving DecidableEq, Repr

namespace NodeServer
variable (ns : NodeServer)

-- ---------------------------------------------------------------------------
-- Staging
-- ---------------------------------------------------------------------------

/-- The export is mounted without a look at the path. -/
def nodeStageRWXVolume (req : NodeStageRequest) : NodeApi Unit :=
  if req.stagingTargetPath = "" then
    .error (.status .invalidArgument "staging target path missing in request")
  else if req.volumeCapability = none then
    .error (.status .invalidArgument "volume capability missing in request")
  else do
    match ← sys (.host (.getPVC ns.ns req.volumeId)) with
    | .error e =>
      .error (.status .internal ("Failed to get PVC " ++ req.volumeId ++ ": " ++ e.message))
    | .ok pvc =>
      match ← sys (.host (.getNetworkFS harvesterNS pvc.volumeName)) with
      | .error e =>
        .error (.status .internal
          ("Failed to get NetworkFS " ++ pvc.volumeName ++ ": " ++ e.message))
      | .ok networkfs =>
        if networkfs.status ≠ .ready then
          .error (.status .internal ("NetworkFS " ++ pvc.volumeName ++ " is not ready"))
        else
          mountExport (if networkfs.mountOpts ≠ "" then networkfs.mountOpts else "vers=4")
            (networkfs.endpoint ++ ":/" ++ pvc.volumeName)
where
  mountExport (mountOpts nfsExport : String) : NodeApi Unit := do
    match ← sys .newExecutor with
    | .error e => .error (.status .internal ("Could not create executor: " ++ e.message))
    | .ok () =>
      match ← sys (.execute (.mount "nfs" mountOpts nfsExport req.stagingTargetPath)) with
      | .ok _ => pure ()
      | .error e => .error (.status .internal
          ("Could not mount " ++ nfsExport ++ " for global path: " ++ e.message))

def nodeStageVolume (req : NodeStageRequest) : NodeApi Unit :=
  match req.volumeCapability with
  | none => .error (.status .invalidArgument "Missing volume capability in request")
  | some volCaps =>
    if volCaps.mode = .multiNodeMultiWriter then ns.nodeStageRWXVolume req else pure ()

/-- Whether the path is mounted is read off the texts of `mountpoint`. -/
def nodeUnstageVolume (_ : NodeServer) (req : NodeUnstageRequest) : NodeApi Unit :=
  if req.stagingTargetPath = "" then
    .error (.status .invalidArgument "staging target path missing in request")
  else do
    match ← sys .newExecutor with
    | .error e => .error (.status .internal ("Could not create executor: " ++ e.message))
    | .ok () =>
      match ← sys (.execute (.mountpoint req.stagingTargetPath)) with
      | .error e =>
        if containsText e.message "is not a mountpoint" then pure ()
        else .error (.status .internal
          ("Could not check mountpoint " ++ req.stagingTargetPath ++ ": " ++ e.message))
      | .ok out =>
        if !containsText out "is a mountpoint" then pure ()
        else
          match ← sys (.execute (.umount req.stagingTargetPath)) with
          | .ok _ => pure ()
          | .error e => .error (.status .internal
              ("Could not unmount " ++ req.stagingTargetPath ++ ": " ++ e.message))

-- ---------------------------------------------------------------------------
-- Publishing
-- ---------------------------------------------------------------------------

/-- The file is removed again if the device cannot be bound to it. -/
def nodePublishBlockVolume (_ : NodeServer) (devicePath targetPath : String) : NodeApi Unit := do
  match ← sys (.pathExists (filepathDir targetPath)) with
  | .error e => .error (.status .internal e.message)
  | .ok true => bindDevice
  | .ok false =>
    match ← sys (.mkdirAll (filepathDir targetPath)) with
    | .error e =>
      .error (.status .internal
        ("Could not create dir " ++ quoted (filepathDir targetPath) ++ ": " ++ e.message))
    | .ok () => bindDevice
where
  bindDevice : NodeApi Unit := do
    match ← sys (.makeFile targetPath) with
    | .error e => .error (.status .internal ("Error in making file " ++ e.message))
    | .ok () =>
      match ← sys (.mount { source := devicePath, target := targetPath, options := ["bind"] }) with
      | .ok () => pure ()
      | .error e =>
        match ← sys (.remove targetPath) with
        | .error _ => .error (.status .internal
            ("Could not remove mount target " ++ quoted targetPath ++ ": " ++ e.message))
        | .ok () => .error (.status .internal
            ("Could not mount " ++ quoted devicePath ++ " at " ++ quoted targetPath ++ ": " ++
              e.message))

/-- A path that is mounted already is taken for done. -/
def nodePublishMountVolume (_ : NodeServer) (volumeName devicePath targetPath fsType : String)
    (mountFlags : List String) : NodeApi Unit := do
  let notMnt ← (isLikelyNotMountPointAttach targetPath).orElse fun e =>
    .error (.status .internal e.message)
  if !notMnt then pure ()
  else mountAndGrow volumeName ⟨devicePath, targetPath, fsType, mountFlags⟩

/-- The instance says that the disk is ready. Its name on the node may be another one
than in the status. -/
def hotPlugDiskReady (vmi : VirtualMachineInstance) (volumeId : String) : Bool :=
  vmi.volumeStatus.any fun st =>
    st.name = volumeId ∧ st.hotplugVolume ∧ st.phase = .ready ∧ st.target ≠ ""

def readyDevice (volumeId : String) : NodeApi String := do
  match ← sys (.host (.getVMI ns.ns ns.nodeID)) with
  | .error e => .error (.status .internal ("Failed to get VMI " ++ ns.nodeID ++ ": " ++ e.message))
  | .ok vmi =>
    if !hotPlugDiskReady vmi volumeId then
      .error (.status .aborted ("The hot-plug volume " ++ volumeId ++ " is not ready"))
    else
      (getDevicePathByVolumeID volumeId).orElse fun e => .error (.status .internal
        ("Failed to get device path for volume " ++ volumeId ++ ": " ++ e.message))

def publishDevice (volumeId devicePath targetPath : String) (volCaps : NodeCapability) :
    NodeApi Unit :=
  if volCaps.block then ns.nodePublishBlockVolume devicePath targetPath
  else if volCaps.mount then
    ns.nodePublishMountVolume volumeId devicePath targetPath
      (if volCaps.mountFsType = "" then "ext4" else volCaps.mountFsType) volCaps.mountFlags
  else .error (.status .invalidArgument "Invalid volume capability, neither Mount nor Block")

def nodePublishRWOVolume (req : NodePublishRequest) (targetPath : String)
    (volCaps : NodeCapability) : NodeApi Unit := do
  let devicePath ← ns.readyDevice req.volumeId
  ns.publishDevice req.volumeId devicePath targetPath volCaps

/-- Only a missing target is an error of the check: any other is passed over. -/
def nodePublishRWXVolume (_ : NodeServer) (req : NodePublishRequest) (targetPath : String) :
    NodeApi Unit :=
  if req.stagingTargetPath = "" then
    .error (.status .invalidArgument "staging target path missing in request")
  else do
    match ← sys (.isMountPoint targetPath) with
    | .ok true => pure ()
    | .ok false => bindStaging
    | .error e =>
      if e.notExist then
        match ← sys (.mkdirAll targetPath) with
        | .error e =>
          .error (.status .internal
            ("Could not create target dir " ++ targetPath ++ ": " ++ e.message))
        | .ok () => bindStaging
      else bindStaging
where
  bindStaging : NodeApi Unit := do
    match ← sys (.mount
        { source := req.stagingTargetPath, target := targetPath, options := ["bind"] }) with
    | .ok () => pure ()
    | .error e => .error (.status .internal ("failed to bind mount volume " ++ req.volumeId ++
        " to target path " ++ targetPath ++ ": " ++ e.message))

def nodePublishVolume (req : NodePublishRequest) : NodeApi Unit :=
  if req.targetPath = "" then .error (.status .invalidArgument "Missing target path in request")
  else match req.volumeCapability with
    | none => .error (.status .invalidArgument "Missing volume capability in request")
    | some volumeCapability =>
      if volumeCapability.mode = .multiNodeMultiWriter then
        ns.nodePublishRWXVolume req req.targetPath
      else if volumeCapability.mode = .singleNodeWriter then
        ns.nodePublishRWOVolume req req.targetPath volumeCapability
      else .error (.status .invalidArgument "Invalid Access Mode, neither RWX nor RWO")

-- ---------------------------------------------------------------------------
-- Unpublishing
-- ---------------------------------------------------------------------------

/-- The loop of the source, as long as the fuel lasts. It is left when there is nothing
mounted, which the tool says with an error or the check after it; `false` is no fuel. -/
def unmountLayers (targetPath : String) : Nat → NodeApi Bool
  | 0 => pure false
  | fuel + 1 => do
    match ← sys (.unmount targetPath) with
    | .error e =>
      if containsText e.message "not mounted" ||
          containsText e.message "no mount point specified" then
        pure true
      else .error (.status .internal e.message)
    | .ok () =>
      match ← sys (.isLikelyNotMountPoint targetPath) with
      | .error e => .error (.status .internal e.message)
      | .ok true => pure true
      | .ok false => unmountLayers targetPath fuel

/-- `none` when the loop has not ended within the fuel. -/
def nodeUnpublishVolume (_ : NodeServer) (req : NodeUnpublishRequest) (fuel : Nat) :
    NodeApi (Option Unit) :=
  if req.volumeId = "" then .error (.status .invalidArgument "Missing volume ID in request")
  else if req.targetPath = "" then
    .error (.status .invalidArgument "Missing target path in request")
  else do
    let skipsCheck ← sys .newMounter
    if ← unmountLayers req.targetPath fuel then
      (cleanupMountPoint req.targetPath skipsCheck).orElse fun e =>
        .error (.status .internal e.message)
      pure (some ())
    else pure none

-- ---------------------------------------------------------------------------
-- Expanding
-- ---------------------------------------------------------------------------

def validateNodeExpandReq (req : NodeExpandRequest) : NodeApi Unit :=
  if req.volumeId = "" ∨ req.volumePath = "" ∨ req.volumeCapability = none then
    .error (.status .invalidArgument missingVolumeInfoErr)
  else .ok ()

def nodeExpandRWX (req : NodeExpandRequest) : Bool :=
  (req.volumeCapability.getD {}).mode = .multiNodeMultiWriter

def getNodeFsType (req : NodeExpandRequest) : NodeApi String :=
  if (req.volumeCapability.getD {}).block then
    .error (.status .invalidArgument "Volume capability is block")
  else if (req.volumeCapability.getD {}).mountFsType = "" then pure fsTypeExt4
  else pure (req.volumeCapability.getD {}).mountFsType

/-- A path that is not a directory is a block device and has no filesystem to grow. -/
def nodeExpandVolume (_ : NodeServer) (req : NodeExpandRequest) : NodeApi Int64 := do
  validateNodeExpandReq req
  if nodeExpandRWX req then .error (.status .internal "rwx volume expansion is not supported")
  else
    match ← sys (.host (.getSetting csiOnlineExpandValidation)) with
    | .error e =>
      .error (.status .internal ("Failed to get online expansion validation: " ++ e.message))
    | .ok _ =>
      match ← sys (.stat req.volumePath) with
      | .error e =>
        .error (.status .internal
          (failedStatErr ++ " " ++ quoted req.volumePath ++ ": " ++ e.message))
      | .ok false => pure (req.requiredBytes.getD 0)
      | .ok true => do
        let notMnt ← (isLikelyNotMountPointAttach req.volumePath).orElse fun e =>
          .error (.status .internal
            (failedMountCheckErr ++ " " ++ quoted req.volumePath ++ ": " ++ e.message))
        if notMnt then
          .error (.status .failedPrecondition
            ("volume " ++ req.volumeId ++ " is not mounted at " ++ quoted req.volumePath))
        else growVolume
where
  growVolume : NodeApi Int64 := do
    let devicePath ← (getDevicePathByVolumeID req.volumeId).orElse fun e =>
      .error (.status .internal (failedDevicePathErr ++ " " ++ req.volumeId ++ ": " ++ e.message))
    let fstype ← (getNodeFsType req).orElse fun e =>
      .error (.status .internal
        ("failed to get filesystem type for volume " ++ req.volumeId ++ ": " ++ e.message))
    (resizeFilesystem devicePath fstype).orElse fun e =>
      .error (.status .internal
        (failedResizeErr ++ " " ++ req.volumeId ++ " devPath " ++ devicePath ++ ": " ++ e.message))
    pure (req.requiredBytes.getD 0)

end NodeServer

end HarvesterCSI
