import HarvesterCSI.Controller.Attach

/-!
# The node controller

It watches guest nodes. A node and its virtual machine that are both down get the
out-of-service taint, and once the taint is there all hot-plugged volumes are
taken out of the machine, so that they can be attached elsewhere.
-/

namespace HarvesterCSI

open Calls Calls.Prog

def nonGracefulTaintKey : String := "node.kubernetes.io/out-of-service"

def getCondition (conditions : List Condition) (type : String) : Option Condition :=
  conditions.find? (·.type = type)

def getNodeTaint (taints : List Taint) (taintKey : String) : Option Taint :=
  taints.find? (·.key = taintKey)

def taintWithNoExecute : Option Taint → Bool
  | none => false
  | some taint => taint.effect = .noExecute

/-- Ready, by the first condition of that type. -/
def Node.ready (node : Node) : Bool :=
  match getCondition node.conditions "Ready" with
  | some cond => cond.status = .true
  | none => false

def Node.outOfService (node : Node) : Bool :=
  taintWithNoExecute (getNodeTaint node.taints nonGracefulTaintKey)

def VirtualMachine.healthy (vm : VirtualMachine) : Bool :=
  match getCondition vm.conditions "Ready" with
  | some cond => cond.status = .true ∧ vm.printableStatus = "Running"
  | none => false

def Volume.hotpluggable (v : Volume) : Bool :=
  match v.source with
  | .persistentVolumeClaim _ hotpluggable => hotpluggable
  | .other _ => false

/-- Whether some volume of this name is hot-pluggable: `hotplugNames[name]`. -/
def VirtualMachine.isHotplugName (vm : VirtualMachine) (name : String) : Bool :=
  vm.volumeList.any fun v => v.name = name && v.hotpluggable

/-- An order in which Go may visit the keys of a map. -/
structure MapOrder where
  visit : List String → List String
  perm : ∀ names, (visit names).Perm names

def MapOrder.listed : MapOrder := ⟨id, fun _ => .refl _⟩

structure Controller where
  ns : String
  useDeclarativeHotplug : Bool
  deriving DecidableEq, Repr

namespace Controller
variable (c : Controller)

def removeAllHotplugVolumesByPatch (vm : VirtualMachine) : Api Unit := do
  match ← ask (.patchVM c.ns vm.name (ControllerServer.removePatch vm vm.isHotplugName)) with
  | .ok () => pure ()
  | .error e => .error (.wrapped ("failed to patch VM " ++ vm.ns ++ "/" ++ vm.name ++
      " to remove hotplug volumes") (.api e))

/-- Go visits the names in no fixed order: `names` is one such order. -/
def removeAllHotplugVolumesBySubresource (vm : VirtualMachine) : List String → Api Unit
  | [] => .ok ()
  | name :: names => do
    match ← ask (.removeVolumeVM c.ns vm.name name) with
    | .ok () => removeAllHotplugVolumesBySubresource vm names
    | .error e =>
      .error (.wrapped ("failed to remove hotplug volume " ++ name ++ " from VM " ++ vm.ns ++
        "/" ++ vm.name) (.api e))

def hotplugNames (vm : VirtualMachine) : List String :=
  ((vm.volumeList.filter Volume.hotpluggable).map Volume.name).dedup

/-- Re-fetches the machine it was called for. The names come in the order that `order`
puts them in. -/
def removeAllHotplugVolumesInOrder (order : List String → List String) (vm : VirtualMachine) :
    Api Unit := do
  match ← ask (.getVM c.ns vm.name) with
  | .error e => .error (.wrapped ("failed to get latest VM " ++ vm.ns ++ "/" ++ vm.name) (.api e))
  | .ok latestVM =>
    if hotplugNames latestVM = [] then pure ()
    else if c.useDeclarativeHotplug then c.removeAllHotplugVolumesByPatch latestVM
    else c.removeAllHotplugVolumesBySubresource latestVM (order (hotplugNames latestVM))

def removeAllHotplugVolumes (vm : VirtualMachine) : Api Unit :=
  c.removeAllHotplugVolumesInOrder id vm

/-- Whether the node and its machine are healthy, and the machine. A node has no
namespace, so the text names the machine after a bare slash. -/
def getNodeAndVMHealth (node : Node) : Api (Bool × Bool × VirtualMachine) :=
  match getCondition node.conditions "Ready" with
  | none => .error (.text ("can't find Ready condition in node " ++ node.name))
  | some cond => do
    match ← ask (.getVM c.ns node.name) with
    | .error e => .error (.wrapped ("failed to get VM /" ++ node.name) (.api e))
    | .ok vm =>
      match getCondition vm.conditions "Ready" with
      | none => .error (.text ("can't find Ready condition in VM " ++ vm.ns ++ "/" ++ vm.name))
      | some vmCond =>
        pure (cond.status = .true, vmCond.status = .true ∧ vm.printableStatus = "Running", vm)

def removeTaint (_ : Controller) (node : Node) : Api (Option Node) := do
  match ← ask (.updateNode
      { node with taints := node.taints.filter (·.key ≠ nonGracefulTaintKey) }) with
  | .ok node => pure (some node)
  | .error e => .error (.api e)

def addTaint (_ : Controller) (node : Node) : Api (Option Node) := do
  match ← ask (.updateNode
    { node with
      taints := node.taints ++ [{ key := nonGracefulTaintKey, effect := .noExecute }] }) with
  | .ok node => pure (some node)
  | .error e => .error (.api e)

def handleNodeAndVMHealthInOrder (order : MapOrder) (node : Node) (vm : VirtualMachine)
    (nodeHealthy vmHealthy : Bool) : Api (Option Node) :=
  match nodeHealthy, vmHealthy, node.outOfService with
  | false, true, _ => .ok none
  | true, true, true => c.removeTaint node
  | false, false, false => c.addTaint node
  | false, false, true => do
    (c.removeAllHotplugVolumesInOrder order.visit vm).orElse fun e =>
      .error (.wrapped ("failed to remove all hotplug volumes from VM /" ++ node.name) e)
    pure none
  | _, _, _ => .ok none

/-- `none` is the call for a node that is gone. -/
def onNodesChangeInOrder (order : MapOrder) (node : Option Node) : Api (Option Node) :=
  match node with
  | none => .ok none
  | some node =>
    if node.deletionTimestamp ≠ none then .ok (some node)
    else do
      let (nodeHealthy, vmHealthy, vm) ← c.getNodeAndVMHealth node
      c.handleNodeAndVMHealthInOrder order node vm nodeHealthy vmHealthy

def handleNodeAndVMHealth (node : Node) (vm : VirtualMachine) (nodeHealthy vmHealthy : Bool) :
    Api (Option Node) :=
  c.handleNodeAndVMHealthInOrder .listed node vm nodeHealthy vmHealthy

def onNodesChange (node : Option Node) : Api (Option Node) := c.onNodesChangeInOrder .listed node

end Controller

end HarvesterCSI
