import HarvesterCSI.Controller.Expand
import HarvesterCSI.Controller.Snapshots
import HarvesterCSI.NodeController
import HarvesterCSI.NodeServer

/-!
# The driver

The manager starts the controller server and the node controller in one process, with
one namespace and one way to hot-plug. What runs there side by side are calls of the
CSI controller service and reconciles of guest nodes. On each guest node a process of
its own serves the calls of the CSI node service.
-/

namespace HarvesterCSI

open Calls Calls.Prog

def ControllerServer.nodeController (cs : ControllerServer) : Controller :=
  ⟨cs.ns, cs.useDeclarativeHotplug⟩

inductive DriverCall
  | createVolume (ticks : Nat) (req : CreateVolumeRequest)
  | deleteVolume (volumeId : String)
  | validateVolumeCapabilities (req : ValidateVolumeCapabilitiesRequest)
  | controllerPublishVolume (settleTicks attachTicks : Nat) (req : PublishRequest)
  | controllerUnpublishVolume (req : UnpublishRequest)
  | controllerExpandVolume (ticks : Nat) (req : ExpandRequest)
  | createSnapshot (req : CreateSnapshotRequest)
  | deleteSnapshot (snapshotId : String)
  | listSnapshots (req : ListSnapshotsRequest)
  | onNodesChange (order : MapOrder) (node : Option Node)

def unanswered {Op : Type} {Res : Op → Type} (p : Prog Op Res Err α) : Prog Op Res Err Unit := do
  let _ ← p
  pure ()

def DriverCall.prog (cs : ControllerServer) : DriverCall → Api Unit
  | .createVolume ticks req => unanswered (cs.createVolume ticks req)
  | .deleteVolume volumeId => cs.deleteVolume volumeId
  | .validateVolumeCapabilities req => unanswered (cs.validateVolumeCapabilitiesRPC req)
  | .controllerPublishVolume settleTicks attachTicks req =>
    cs.controllerPublishVolume settleTicks attachTicks req
  | .controllerUnpublishVolume req => cs.controllerUnpublishVolume req
  | .controllerExpandVolume ticks req => unanswered (cs.controllerExpandVolume ticks req)
  | .createSnapshot req => unanswered (cs.createSnapshot req)
  | .deleteSnapshot snapshotId => cs.deleteSnapshot snapshotId
  | .listSnapshots req => unanswered (cs.listSnapshots req)
  | .onNodesChange order node => unanswered (cs.nodeController.onNodesChangeInOrder order node)

inductive NodeCall
  | nodeStageVolume (req : NodeStageRequest)
  | nodeUnstageVolume (req : NodeUnstageRequest)
  | nodePublishVolume (req : NodePublishRequest)
  | nodeUnpublishVolume (fuel : Nat) (req : NodeUnpublishRequest)
  | nodeExpandVolume (req : NodeExpandRequest)

def NodeCall.prog (ns : NodeServer) : NodeCall → NodeApi Unit
  | .nodeStageVolume req => ns.nodeStageVolume req
  | .nodeUnstageVolume req => ns.nodeUnstageVolume req
  | .nodePublishVolume req => ns.nodePublishVolume req
  | .nodeUnpublishVolume fuel req => unanswered (ns.nodeUnpublishVolume req fuel)
  | .nodeExpandVolume req => unanswered (ns.nodeExpandVolume req)

def onHost (p : Api α) : NodeApi α := p.translate NodeOp.host fun _ r => r

/-- What runs at a time, seen from one node. -/
inductive SystemCall
  | controller (rpc : DriverCall)
  | node (rpc : NodeCall)

def SystemCall.prog (cs : ControllerServer) (ns : NodeServer) : SystemCall → NodeApi Unit
  | .controller rpc => onHost (rpc.prog cs)
  | .node rpc => rpc.prog ns

end HarvesterCSI
