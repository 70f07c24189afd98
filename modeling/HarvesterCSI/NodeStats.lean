import HarvesterCSI.NodeServer

/-!
# The usage of a volume

NodeGetVolumeStats reads what the system knows of a path: whether it is a block device,
and how full the filesystem on it is. Numbers are those of Linux on amd64. The claim is
read from the host in either case.
-/

namespace HarvesterCSI

open Calls Calls.Prog

structure Statfs where
  bsize : Int64
  blocks : UInt64
  bfree : UInt64
  bavail : UInt64
  files : UInt64
  ffree : UInt64
  deriving DecidableEq, Repr

/-- An error of these says `notExist` when it is ENOENT. -/
inductive StatsOp
  | host (op : Op)
  /-- The mode of the path. -/
  | stat (path : String)
  | statfs (path : String)

@[reducible] def StatsOp.Res : StatsOp → Type
  | .host op => op.Res
  | .stat _ => Except OsError UInt32
  | .statfs _ => Except OsError Statfs

abbrev StatsApi := Prog StatsOp StatsOp.Res Err

abbrev query (op : StatsOp) : StatsApi op.Res := Prog.request op

inductive UsageUnit
  | bytes
  | inodes
  deriving DecidableEq, Repr

structure VolumeUsage where
  available : Int64 := 0
  total : Int64
  used : Int64 := 0
  unit : UsageUnit
  deriving DecidableEq, Repr

structure VolumeFilesystemStatistics where
  availableBytes : Int64
  totalBytes : Int64
  usedBytes : Int64
  availableInodes : Int64
  totalInodes : Int64
  usedInodes : Int64
  deriving DecidableEq, Repr

structure NodeGetVolumeStatsRequest where
  volumeId : String
  volumePath : String
  deriving DecidableEq, Repr

/-- `S_IFMT` and `S_IFBLK`. -/
def fileTypeMask : UInt32 := 0xf000
def blockDeviceMode : UInt32 := 0x6000

def isBlockDevice (volumePath : String) : StatsApi (Except OsError Bool) := do
  match ← query (.stat volumePath) with
  | .error e => pure (.error e)
  | .ok mode => pure (.ok (mode &&& fileTypeMask = blockDeviceMode : Bool))

/-- The counts are read as signed numbers before they are multiplied. -/
def Statfs.statistics (statfs : Statfs) : VolumeFilesystemStatistics where
  availableBytes := statfs.bavail.toInt64 * statfs.bsize
  totalBytes := statfs.blocks.toInt64 * statfs.bsize
  usedBytes := (statfs.blocks.toInt64 - statfs.bfree.toInt64) * statfs.bsize
  availableInodes := statfs.ffree.toInt64
  totalInodes := statfs.files.toInt64
  usedInodes := statfs.files.toInt64 - statfs.ffree.toInt64

def getFilesystemStatistics (volumePath : String) :
    StatsApi (Except OsError VolumeFilesystemStatistics) := do
  match ← query (.statfs volumePath) with
  | .error e => pure (.error e)
  | .ok statfs => pure (.ok statfs.statistics)

def VolumeFilesystemStatistics.bytes (stats : VolumeFilesystemStatistics) : VolumeUsage where
  available := stats.availableBytes
  total := stats.totalBytes
  used := stats.usedBytes
  unit := .bytes

def VolumeFilesystemStatistics.inodes (stats : VolumeFilesystemStatistics) : VolumeUsage where
  available := stats.availableInodes
  total := stats.totalInodes
  used := stats.usedInodes
  unit := .inodes

def NodeServer.nodeGetVolumeStats (ns : NodeServer) (req : NodeGetVolumeStatsRequest) :
    StatsApi (List VolumeUsage) :=
  if req.volumeId = "" then .error (.status .invalidArgument "Missing volume ID in request")
  else if req.volumePath = "" then
    .error (.status .invalidArgument "Missing volume path in request")
  else do
    match ← isBlockDevice req.volumePath with
    | .error e =>
      if e.notExist then notMounted
      else .error (.status .internal
        ("failed to check volume mode for volume path " ++ req.volumePath ++ ": " ++ e.message))
    | .ok isBlockVolume =>
      match ← query (.host (.getPVC ns.ns req.volumeId)) with
      | .error e =>
        .error (.status .internal ("Failed to get PVC " ++ req.volumeId ++ ":" ++ e.message))
      | .ok pvc =>
        if isBlockVolume then pure [{ total := pvc.capacity.storageValue, unit := .bytes }]
        else
          match ← getFilesystemStatistics req.volumePath with
          | .error e =>
            if e.notExist then notMounted
            else
              .error (.status .internal
                ("failed to retrieve capacity statistics for volume path " ++ req.volumePath ++
                  ": " ++ e.message))
          | .ok stats => pure [stats.bytes, stats.inodes]
where
  notMounted : StatsApi (List VolumeUsage) :=
    .error (.status .notFound ("volume path " ++ req.volumePath ++ " is not mounted"))

structure Inode where
  mode : UInt32
  fs : Statfs
  deriving DecidableEq, Repr

/-- A node and a host on which everything works. -/
def Inode.serve : (op : StatsOp) → Cluster × (String → Option Inode) →
    op.Res × (Cluster × (String → Option Inode))
  | .host op, (c, paths) => ((Cluster.serve op c).1, (Cluster.serve op c).2, paths)
  | .stat path, (c, paths) => ((match paths path with
    | some inode => .ok inode.mode
    | none => .error (Guest.noSuchFile path)), c, paths)
  | .statfs path, (c, paths) => ((match paths path with
    | some inode => .ok inode.fs
    | none => .error (Guest.noSuchFile path)), c, paths)

end HarvesterCSI
