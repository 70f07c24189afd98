import HarvesterCSI.Controller.Volumes

/-!
# Snapshots

A snapshot is a VolumeSnapshot in the driver's namespace or, by the parameter
`type: backup`, a VolumeRemoteBackup. An existing object of the requested name is
taken for the snapshot asked for.
-/

namespace HarvesterCSI

open Calls Calls.Prog

structure CreateSnapshotRequest where
  name : String
  sourceVolumeId : String
  parameters : Option StringMap := none
  deriving DecidableEq, Repr

structure Snapshot where
  snapshotId : String
  sourceVolumeId : String
  sizeBytes : Int64
  creationTime : Option Nat
  readyToUse : Bool
  deriving DecidableEq, Repr

structure ListSnapshotsRequest where
  maxEntries : Int := 0
  startingToken : String := ""
  snapshotId : String := ""
  sourceVolumeId : String := ""
  deriving DecidableEq, Repr

structure ListSnapshotsResponse where
  entries : List Snapshot
  nextToken : String
  deriving DecidableEq, Repr

/-- The default text of the CSI driver setting, which the unmarshal errors quote. -/
def csiDriverConfigDefault : String :=
  "\x7b\"driver.longhorn.io\":\x7b\"volumeSnapshotClassName\":\"longhorn-snapshot\"," ++
    "\"backupVolumeSnapshotClassName\":\"longhorn\"\x7d\x7d"

namespace ControllerServer
variable (cs : ControllerServer)

-- ---------------------------------------------------------------------------
-- The host snapshot
-- ---------------------------------------------------------------------------

def snapClassOf (csiInfo : StringMap) (provisioner : String) : Option String :=
  (csiInfo.lookup provisioner).filter (· ≠ "")

/-- The default of the setting is looked at before its value. -/
def getHostSnapClass (_ : ControllerServer) (hostPVC : PVC) : Api String := do
  match ← ask (.getSetting csiDriverConfig) with
  | .error e => .error (.api e)
  | .ok csiConfig =>
    let provisioner := (hostPVC.annotations.lookup annStorageProvisioner).getD ""
    match csiConfig.default with
    | .error e => unmarshalFailed e
    | .ok csiInfo =>
      match snapClassOf csiInfo provisioner with
      | some name => pure name
      | none =>
        match csiConfig.value with
        | .error e => unmarshalFailed e
        | .ok csiInfo =>
          match snapClassOf csiInfo provisioner with
          | some name => pure name
          | none =>
            .error (.text ("no VolumeSnapshotClassName found for provisioner " ++ provisioner))
where
  unmarshalFailed (e : String) : Api String :=
    .error (.wrap ("unmarshal failed, error: " ++ e ++ ", value: " ++ csiDriverConfigDefault)
      (.text e))

def generateHostSnapManifest (name hostSnapClass : String) (hostPVC : PVC) : Api VolumeSnapshot :=
  match hostPVC.storageClassName with
  | none => .error (.text "host PVC is nil or does not have a StorageClassName")
  | some sc => .ok {
      ns := cs.ns
      name := name
      labels := some [(labelSnapHostSC, sc),
        (labelSnapHostVolumeMode, (hostPVC.volumeMode.getD .block).text)]
      persistentVolumeClaimName := some hostPVC.name
      volumeSnapshotClassName := some hostSnapClass }

def generateHostSnap (name : String) (hostPVC : PVC) : Api VolumeSnapshot := do
  let hostSnapClass ← cs.getHostSnapClass hostPVC
  let hostSnap ← cs.generateHostSnapManifest name hostSnapClass hostPVC
  match ← ask (.createSnapshot hostSnap) with
  | .ok snap => pure snap
  | .error e => .error (.api e)

/-- The checks come before the status is read through its pointer. -/
def convertVolumeSnapshotToCSI (_ : ControllerServer) (hostSnap : VolumeSnapshot) (vol : String) :
    Api Snapshot :=
  if hostSnap.name = "" then .error (.text "snapshot name cannot be empty")
  else if vol = "" then .error (.text "source volume ID cannot be empty")
  else match hostSnap.status with
    | none => .panic
    | some status => .ok {
        snapshotId := hostSnap.name
        sourceVolumeId := vol
        sizeBytes := status.restoreSize.getD 0
        creationTime := status.creationTime
        readyToUse := status.readyToUse.getD false }

def convertVolumeRemoteBackupToCSI (_ : ControllerServer) (vrb : VolumeRemoteBackup)
    (vol : String) : Api Snapshot :=
  if vrb.name = "" then .error (.text "VolumeRemoteBackup name cannot be empty")
  else if vol = "" then .error (.text "source volume ID cannot be empty")
  else .ok {
    snapshotId := formatBackupSnapshotID vrb.ns vrb.name
    sourceVolumeId := vol
    sizeBytes := (vrb.sourceRequests.getD {}).storageValue
    creationTime := vrb.creationTimestamp
    readyToUse := vrb.success }

-- ---------------------------------------------------------------------------
-- CreateSnapshot
-- ---------------------------------------------------------------------------

/-- The log lines read the error's message and the restore size through their
pointers. -/
def checkSnapsReadiness (hostSnap : String) : Api Bool := do
  match ← ask (.getSnapshot cs.ns hostSnap) with
  | .error _ => pure false
  | .ok snap =>
    match snap.status with
    | none => pure false
    | some status =>
      match status.error with
      | some err => if err.message = none then .panic else pure false
      | none =>
        if status.readyToUse = some true then
          if status.restoreSize = none then .panic else pure true
        else pure false

def prepareSnapshotResponse (hostSnap vol : String) : Api Snapshot := do
  if ← cs.checkSnapsReadiness hostSnap then
    match ← ask (.getSnapshot cs.ns hostSnap) with
    | .error e => .error (.api e)
    | .ok readyHostSnap => do
      cs.validateHostSnapLabels readyHostSnap
      cs.convertVolumeSnapshotToCSI readyHostSnap vol
  else .error (.status .internal ("host snap " ++ hostSnap ++ " is not ready"))

def validateCreateSnapshotRequest (req : CreateSnapshotRequest) : Api Unit :=
  if req.name = "" then .error (.status .invalidArgument "Snapshot name cannot be empty")
  else if req.sourceVolumeId = "" then
    .error (.status .invalidArgument "Source volume ID cannot be empty")
  else .ok ()

def checkVolumeRemoteBackupReadiness (name : String) : Api Bool := do
  match ← ask (.getBackup cs.ns name) with
  | .error _ => pure false
  | .ok vrb => pure vrb.success

def prepareBackupSnapResponse (name sourceVolumeID : String) : Api Snapshot := do
  if ← cs.checkVolumeRemoteBackupReadiness name then
    match ← ask (.getBackup cs.ns name) with
    | .error e => .error (.status .internal
      ("Failed to get VolumeRemoteBackup " ++ name ++ ": " ++ e.message))
    | .ok readyVrb => cs.convertVolumeRemoteBackupToCSI readyVrb sourceVolumeID
  else .error (.status .internal ("VolumeRemoteBackup " ++ name ++ " is not ready"))

def buildHostVolumeRemoteBackup (name sourceVolumeID backupType : String) : VolumeRemoteBackup where
  ns := cs.ns
  name := name
  labels := some [(labelBackupSrcVol, sourceVolumeID)]
  type := backupType
  source := sourceVolumeID

def generateHostVolumeRemoteBackup (name sourceVolumeID : String) : Api VolumeRemoteBackup := do
  match ← ask (.createBackup (cs.buildHostVolumeRemoteBackup name sourceVolumeID lhBackup)) with
  | .ok vrb => pure vrb
  | .error e => .error (.api e)

def createHostVolumeRemoteBackupFromReq (name sourceVolumeID : String) : Api Snapshot := do
  let createdVrb ← cs.generateHostVolumeRemoteBackup name sourceVolumeID
  cs.prepareBackupSnapResponse createdVrb.name sourceVolumeID

def handleExistingBackupSnap (name sourceVolumeID : String) : Api Snapshot := do
  match ← ask (.getBackup cs.ns name) with
  | .error e => .error (.api e)
  | .ok existingVrb => cs.prepareBackupSnapResponse existingVrb.name sourceVolumeID

def handleExistingLocalSnap (name vol : String) : Api Snapshot := do
  match ← ask (.getSnapshot cs.ns name) with
  | .error e => .error (.api e)
  | .ok existingHostSnap => do
    cs.validateHostSnapLabels existingHostSnap
    cs.prepareSnapshotResponse existingHostSnap.name vol

def createSnapFromVolume (name vol : String) : Api Snapshot := do
  match ← ask (.getPVC cs.ns vol) with
  | .error e => .error (.api e)
  | .ok hostPVC => do
    let createdHostSnap ← cs.generateHostSnap name hostPVC
    cs.prepareSnapshotResponse createdHostSnap.name vol

def handleBackupSnap (name sourceVolumeID : String) : Api Snapshot :=
  (cs.handleExistingBackupSnap name sourceVolumeID).orElse fun e =>
    if e.isNotFound then cs.createHostVolumeRemoteBackupFromReq name sourceVolumeID else .error e

/-- Here NotFound at any read of the existing snapshot, not only at the first,
leads to a create. -/
def handleLocalSnap (name sourceVolumeID : String) : Api Snapshot :=
  (cs.handleExistingLocalSnap name sourceVolumeID).orElse fun e =>
    if e.isNotFound then cs.createSnapFromVolume name sourceVolumeID else .error e

def isBackupSnapshot (req : CreateSnapshotRequest) : Bool :=
  (req.parameters.getD []).lookup paramSnapshotType = some snapshotTypeBackup

def createSnapshot (req : CreateSnapshotRequest) : Api Snapshot := do
  validateCreateSnapshotRequest req
  if isBackupSnapshot req then cs.handleBackupSnap req.name req.sourceVolumeId
  else cs.handleLocalSnap req.name req.sourceVolumeId

-- ---------------------------------------------------------------------------
-- DeleteSnapshot
-- ---------------------------------------------------------------------------

def handleBackupSnapDeletion (_ : ControllerServer) (ns name : String) : Api Unit := do
  match ← ask (.deleteBackup ns name) with
  | .ok () => pure ()
  | .error e =>
    if e.reason = .notFound then pure ()
    else .error (.status .internal
      ("Failed to delete VolumeRemoteBackup " ++ ns ++ "/" ++ name ++ ": " ++ e.message))

/-- Only a snapshot that is gone counts as deleted: a delete that went through is
answered with an error, for the caller to ask again. -/
def handleLocalSnapDeletion (name : String) : Api Unit := do
  match ← ask (.deleteSnapshot cs.ns name) with
  | .ok () => .error (.text ("host snapshot " ++ name ++ " deletion not confirmed"))
  | .error e => if e.reason = .notFound then pure () else .error (.api e)

def deleteSnapshot (snapshotId : String) : Api Unit :=
  if snapshotId = "" then .error (.status .invalidArgument "Snapshot ID cannot be empty")
  else match parseSnapshotID snapshotId with
    | (true, ns, name) => cs.handleBackupSnapDeletion ns name
    | (false, _, name) => cs.handleLocalSnapDeletion name

-- ---------------------------------------------------------------------------
-- ListSnapshots
-- ---------------------------------------------------------------------------

def validateListSnapshotsRequest (req : ListSnapshotsRequest) : Api ListOptions :=
  if req.maxEntries < 0 then .error (.status .invalidArgument "MaxEntries cannot be negative")
  else .ok { limit := req.maxEntries.toNat, continueToken := req.startingToken }

def shouldIncludeSnapshot (hostSnap : VolumeSnapshot) (req : ListSnapshotsRequest) : Bool :=
  match cs.validateHostSnapLabels hostSnap with
  | .ok () =>
    if req.snapshotId ≠ "" ∧ hostSnap.name ≠ req.snapshotId then false
    else if req.sourceVolumeId ≠ "" ∧
        hostSnap.persistentVolumeClaimName ≠ some req.sourceVolumeId then false
    else true
  | _ => false

def convertHostSnapshotToEntry (hostSnap : VolumeSnapshot) : Api Snapshot :=
  (cs.convertVolumeSnapshotToCSI hostSnap (hostSnap.persistentVolumeClaimName.getD "")).orElse
    fun e =>
      .error (.wrapped ("failed to convert snapshot " ++ hostSnap.name ++ " to CSI format") e)

def collect (keep : α → Bool) (toEntry : α → Api Snapshot) : List α → Api (List Snapshot)
  | [] => .ok []
  | a :: rest =>
    if !keep a then collect keep toEntry rest
    else do
      let entry ← (do pure (some (← toEntry a))).orElse fun _ => .ok none
      let entries ← collect keep toEntry rest
      pure (match entry with
        | some entry => entry :: entries
        | none => entries)

def processHostSnapshots (hostSnaps : List VolumeSnapshot) (req : ListSnapshotsRequest) :
    Api (List Snapshot) :=
  collect (cs.shouldIncludeSnapshot · req) cs.convertHostSnapshotToEntry hostSnaps

/-- Unlike its sibling this one has no filter by snapshot id. -/
def shouldIncludeBackupSnapshot (_ : ControllerServer) (vrb : VolumeRemoteBackup)
    (req : ListSnapshotsRequest) : Bool :=
  match vrb.labels with
  | none => false
  | some labels =>
    match labels.lookup labelBackupSrcVol with
    | none => false
    | some sourceVol =>
      if req.sourceVolumeId ≠ "" ∧ sourceVol ≠ req.sourceVolumeId then false else true

def convertVolumeRemoteBackupToEntry (vrb : VolumeRemoteBackup) : Api Snapshot :=
  (cs.convertVolumeRemoteBackupToCSI vrb
      (((vrb.labels.getD []).lookup labelBackupSrcVol).getD "")).orElse fun e =>
    .error (.wrapped ("failed to convert VolumeRemoteBackup " ++ vrb.name ++ " to CSI format") e)

def processHostVolumeRemoteBackups (req : ListSnapshotsRequest) : Api (List Snapshot) := do
  match ← ask (.listBackups
    (if req.sourceVolumeId ≠ "" then some (labelBackupSrcVol, req.sourceVolumeId) else none)) with
  | .error e => .error (.api e)
  | .ok vrbs =>
    collect (cs.shouldIncludeBackupSnapshot · req) cs.convertVolumeRemoteBackupToEntry vrbs

def listLocalSnaps (listOptions : ListOptions) (req : ListSnapshotsRequest) :
    Api (List Snapshot × String) := do
  match ← ask (.listSnapshots cs.ns listOptions) with
  | .error e =>
    .error (.status .internal ("Failed to list host VolumeSnapshots: " ++ e.message))
  | .ok (hostSnaps, next) => do
    let entries ← cs.processHostSnapshots hostSnaps req
    pure (entries, next)

def listBackupSnaps (req : ListSnapshotsRequest) : Api (List Snapshot) :=
  (cs.processHostVolumeRemoteBackups req).orElse fun e =>
    .error (.status .internal ("Failed to list host VolumeRemoteBackups: " ++ e.message))

/-- Backups that cannot be listed are left out. -/
def listSnapshots (req : ListSnapshotsRequest) : Api ListSnapshotsResponse := do
  let listOptions ← validateListSnapshotsRequest req
  let (localSnaps, nextToken) ← cs.listLocalSnaps listOptions req
  let backupSnaps ← (cs.listBackupSnaps req).orElse fun _ => .ok []
  pure { entries := localSnaps ++ backupSnaps, nextToken := nextToken }

end ControllerServer

end HarvesterCSI
