import HarvesterCSI.Calls.Pool
import HarvesterCSI.Objects

/-!
# The API servers

`Op` lists the calls the driver makes, `Cluster` is everything they read and
write on the host and in the guest, and `serve` is a healthy server: it answers
from the state and applies writes atomically, one at a time. Every write takes
the next revision as the object's `resourceVersion`.

`Answers` also lets any call fail, in which case nothing has changed.
-/

namespace HarvesterCSI

open Calls (Store Prog Outcome run Runs)

-- ---------------------------------------------------------------------------
-- Calls
-- ---------------------------------------------------------------------------

/-- One operation of a JSON patch on a virtual machine, by its path. -/
inductive PatchOp
  /-- `test /metadata/resourceVersion` -/
  | testResourceVersion (version : Nat)
  /-- `add`, at the end of `/spec/template/spec/volumes` -/
  | addVolume (volume : Volume)
  /-- `add`, at the end of `/spec/template/spec/domain/devices/disks` -/
  | addDisk (disk : Disk)
  /-- `replace /spec/template/spec/volumes` -/
  | replaceVolumes (volumes : List Volume)
  /-- `replace /spec/template/spec/domain/devices/disks` -/
  | replaceDisks (disks : List Disk)
  deriving DecidableEq, Repr

structure ListOptions where
  limit : Nat := 0
  continueToken : String := ""
  deriving DecidableEq, Repr

inductive Op
  | getPVC (ns name : String)
  | createPVC (pvc : PVC)
  | updatePVC (pvc : PVC)
  | deletePVC (ns name : String)
  | getStorageClass (name : String)
  | getNetworkFS (ns name : String)
  | createNetworkFS (fs : NetworkFilesystem)
  | updateNetworkFS (fs : NetworkFilesystem)
  | deleteNetworkFS (ns name : String)
  | getSnapshot (ns name : String)
  | createSnapshot (snap : VolumeSnapshot)
  | deleteSnapshot (ns name : String)
  | listSnapshots (ns : String) (opts : ListOptions)
  | getBackup (ns name : String)
  | createBackup (vrb : VolumeRemoteBackup)
  | deleteBackup (ns name : String)
  /-- All namespaces; the selector asks for one label to have one value. -/
  | listBackups (selector : Option (String × String))
  | getRestore (ns name : String)
  | createRestore (vrr : VolumeRemoteRestore)
  | deleteRestore (ns name : String)
  | getSetting (name : String)
  | listPods (ns : String)
  | getVM (ns name : String)
  | patchVM (ns name : String) (patch : List PatchOp)
  | addVolumeVM (ns name : String) (volume : Volume) (disk : Disk)
  | removeVolumeVM (ns name volume : String)
  | getVMI (ns name : String)
  | listVMIs (ns : String)
  | removeVolumeVMI (ns name volume : String)
  | listHostVAs
  | listGuestVAs
  | getLocalPV (name : String)
  | podsByIndex (key : String)
  | updateNode (node : Node)

@[reducible] def Op.Payload : Op → Type
  | .getPVC .. | .createPVC _ | .updatePVC _ => PVC
  | .getStorageClass _ => StorageClass
  | .getNetworkFS .. | .createNetworkFS _ | .updateNetworkFS _ => NetworkFilesystem
  | .getSnapshot .. | .createSnapshot _ => VolumeSnapshot
  | .listSnapshots .. => List VolumeSnapshot × String
  | .getBackup .. | .createBackup _ => VolumeRemoteBackup
  | .listBackups _ => List VolumeRemoteBackup
  | .getRestore .. | .createRestore _ => VolumeRemoteRestore
  | .getSetting _ => Setting
  | .listPods _ | .podsByIndex _ => List Pod
  | .getVM .. => VirtualMachine
  | .getVMI .. => VirtualMachineInstance
  | .listVMIs _ => List VirtualMachineInstance
  | .listHostVAs | .listGuestVAs => List VolumeAttachment
  | .getLocalPV _ => PersistentVolume
  | .updateNode _ => Node
  | _ => Unit

@[reducible] def Op.Res (op : Op) : Type := Except ApiError op.Payload

abbrev Api := Prog Op Op.Res Err

abbrev ask (op : Op) : Api op.Res := Prog.request op

-- ---------------------------------------------------------------------------
-- The state
-- ---------------------------------------------------------------------------

/-- How the server cuts a list into pages. A token stands for the number of
items already returned; a page is never empty and never over its limit. -/
structure Pager where
  token : Nat → String
  offset : String → Option Nat
  offset_token : ∀ n, offset (token n) = some n
  token_ne : ∀ n, token n ≠ ""
  pageLen : Nat → Nat → Nat
  pageLen_pos : ∀ limit start, 0 < limit → 0 < pageLen limit start
  pageLen_le : ∀ limit start, pageLen limit start ≤ limit

def Pager.full : Pager where
  token n := String.ofList (List.replicate (n + 1) 'x')
  offset s := some (s.length - 1)
  offset_token n := by simp
  token_ne n h := by simpa using congrArg String.length h
  pageLen limit _ := limit
  pageLen_pos _ _ h := h
  pageLen_le _ _ := Nat.le_refl _

structure Cluster where
  rev : Nat
  pvcs : Store fun p : PVC => (p.ns, p.name)
  storageClasses : Store StorageClass.name
  networkFSs : Store fun f : NetworkFilesystem => (f.ns, f.name)
  snapshots : Store fun s : VolumeSnapshot => (s.ns, s.name)
  backups : Store fun b : VolumeRemoteBackup => (b.ns, b.name)
  restores : Store fun r : VolumeRemoteRestore => (r.ns, r.name)
  settings : Store Setting.name
  hostPods : List Pod
  vms : Store fun v : VirtualMachine => (v.ns, v.name)
  vmis : Store fun v : VirtualMachineInstance => (v.ns, v.name)
  hostVAs : List VolumeAttachment
  guestVAs : List VolumeAttachment
  guestPVs : Store PersistentVolume.name
  guestPods : List Pod
  nodes : Store Node.name
  pager : Pager

-- ---------------------------------------------------------------------------
-- Answers
-- ---------------------------------------------------------------------------

def notFound (resource name : String) : ApiError :=
  ⟨.notFound, resource ++ " \"" ++ name ++ "\" not found"⟩

def alreadyExists (resource name : String) : ApiError :=
  ⟨.alreadyExists, resource ++ " \"" ++ name ++ "\" already exists"⟩

def conflict (resource name : String) : ApiError :=
  ⟨.conflict, "Operation cannot be fulfilled on " ++ resource ++ " \"" ++ name ++
    "\": the object has been modified; please apply your changes to the latest version and " ++
    "try again"⟩

/-- There is no such object. A request without a name never leaves the client. -/
def missing (resource name : String) : ApiError :=
  if name = "" then ⟨.unknown, "resource name may not be empty"⟩ else notFound resource name

theorem missing_of_ne (h : name ≠ "") : missing resource name = notFound resource name := if_neg h

theorem missing_reason (resource name : String) :
    (missing resource name).reason = .unknown ∨ (missing resource name).reason = .notFound := by
  unfold missing
  split
  · exact .inl rfl
  · exact .inr rfl

def found (resource name : String) : Option α → Except ApiError α
  | some a => .ok a
  | none => .error (missing resource name)

@[simp] theorem found_some : found resource name (some a) = .ok a := rfl

@[simp] theorem found_none :
    found resource name (none : Option α) = .error (missing resource name) := rfl

theorem found_eq_ok : found resource name o = .ok a ↔ o = some a := by
  cases o <;> simp

def PatchOp.apply (vm : VirtualMachine) : PatchOp → Except ApiError VirtualMachine
  | .testResourceVersion v =>
    if vm.resourceVersion = v then .ok vm
    else .error ⟨.invalid, "the server rejected our request due to an error in our request"⟩
  | .addVolume v => match vm.volumes with
    | some vs => .ok { vm with volumes := some (vs ++ [v]) }
    | none => .error ⟨.invalid, "add operation does not apply: doc is missing path"⟩
  | .addDisk d => match vm.disks with
    | some ds => .ok { vm with disks := some (ds ++ [d]) }
    | none => .error ⟨.invalid, "add operation does not apply: doc is missing path"⟩
  -- a key that is not there is set
  | .replaceVolumes vs => .ok { vm with volumes := some vs }
  | .replaceDisks ds => .ok { vm with disks := some ds }

/-- The operations in order; one that does not apply fails the patch. -/
def VirtualMachine.applyPatch (vm : VirtualMachine) (patch : List PatchOp) :
    Except ApiError VirtualMachine :=
  patch.foldlM PatchOp.apply vm

/-- `IndexPodByPVCFunc`: the keys under which a pod is found. -/
def indexPodByPVCFunc (pod : Pod) : List String :=
  if pod.running then pod.claims.map fun claim => pod.ns ++ "-" ++ claim else []

def page (pager : Pager) (items : List α) (opts : ListOptions) :
    Except ApiError (List α × String) :=
  match if opts.continueToken = "" then some 0 else pager.offset opts.continueToken with
  | none => .error ⟨.invalid, "continue key is not valid"⟩
  | some start =>
    if opts.limit = 0 then .ok (items.drop start, "")
    else
      let len := pager.pageLen opts.limit start
      .ok ((items.drop start).take len,
        if start + len < items.length then pager.token (start + len) else "")

namespace Cluster

def empty : Cluster where
  rev := 0
  pvcs := .empty
  storageClasses := .empty
  networkFSs := .empty
  snapshots := .empty
  backups := .empty
  restores := .empty
  settings := .empty
  hostPods := []
  vms := .empty
  vmis := .empty
  hostVAs := []
  guestVAs := []
  guestPVs := .empty
  guestPods := []
  nodes := .empty
  pager := .full

def setVM (s : Cluster) (vm : VirtualMachine) : Cluster :=
  { s with rev := s.rev + 1, vms := s.vms.put { vm with resourceVersion := s.rev + 1 } }

def setPVC (s : Cluster) (pvc : PVC) : Cluster :=
  { s with rev := s.rev + 1, pvcs := s.pvcs.put { pvc with resourceVersion := s.rev + 1 } }

def setNetworkFS (s : Cluster) (fs : NetworkFilesystem) : Cluster :=
  { s with
    rev := s.rev + 1
    networkFSs := s.networkFSs.put { fs with resourceVersion := s.rev + 1 } }

def setNode (s : Cluster) (node : Node) : Cluster :=
  { s with rev := s.rev + 1, nodes := s.nodes.put { node with resourceVersion := s.rev + 1 } }

theorem get_setPVC (s : Cluster) (pvc : PVC) :
    (s.setPVC pvc).pvcs.get (pvc.ns, pvc.name) =
      some { pvc with resourceVersion := s.rev + 1 } := by
  simp [setPVC]

theorem get_setNetworkFS (s : Cluster) (fs : NetworkFilesystem) :
    (s.setNetworkFS fs).networkFSs.get (fs.ns, fs.name) =
      some { fs with resourceVersion := s.rev + 1 } := by
  simp [setNetworkFS]

/-- A snapshot goes at once, or it is marked until its finalizers are gone. -/
def removeSnapshot (s : Cluster) (snap : VolumeSnapshot) : Cluster :=
  { s with
    rev := s.rev + 1
    snapshots :=
      if snap.finalizers = [] then s.snapshots.erase (snap.ns, snap.name)
      else
        s.snapshots.put { snap with
          deletionTimestamp := some (snap.deletionTimestamp.getD s.rev) } }

theorem get_removeSnapshot {s : Cluster} {snap : VolumeSnapshot} {key other : Key}
    (hfound : s.snapshots.get key = some snap) (hother : other ≠ key) :
    (s.removeSnapshot snap).snapshots.get other = s.snapshots.get other := by
  have hkey := Store.get_key hfound
  unfold removeSnapshot
  dsimp only at hkey ⊢
  split
  · rw [Store.get_erase, hkey, if_neg hother]
  · rw [Store.get_put, hkey, if_neg hother]

/-- A healthy server. -/
def serve : (op : Op) → Cluster → op.Res × Cluster
  | .getPVC ns name, s => (found "persistentvolumeclaims" name (s.pvcs.get (ns, name)), s)
  | .createPVC pvc, s =>
    match s.pvcs.get (pvc.ns, pvc.name) with
    | some _ => (.error (alreadyExists "persistentvolumeclaims" pvc.name), s)
    | none => (.ok { pvc with resourceVersion := s.rev + 1 }, s.setPVC pvc)
  | .updatePVC pvc, s =>
    match s.pvcs.get (pvc.ns, pvc.name) with
    | none => (.error (missing "persistentvolumeclaims" pvc.name), s)
    | some cur =>
      if cur.resourceVersion = pvc.resourceVersion then
        -- the status of a claim is not written through the claim itself
        let new := { pvc with phase := cur.phase, capacity := cur.capacity }
        (.ok { new with resourceVersion := s.rev + 1 }, s.setPVC new)
      else (.error (conflict "persistentvolumeclaims" pvc.name), s)
  | .deletePVC ns name, s =>
    match s.pvcs.get (ns, name) with
    | none => (.error (missing "persistentvolumeclaims" name), s)
    | some _ => (.ok (), { s with rev := s.rev + 1, pvcs := s.pvcs.erase (ns, name) })
  | .getStorageClass name, s =>
    (found "storageclasses.storage.k8s.io" name (s.storageClasses.get name), s)
  | .getNetworkFS ns name, s =>
    (found "networkfilesystems.harvesterhci.io" name (s.networkFSs.get (ns, name)), s)
  | .createNetworkFS fs, s =>
    match s.networkFSs.get (fs.ns, fs.name) with
    | some _ => (.error (alreadyExists "networkfilesystems.harvesterhci.io" fs.name), s)
    | none => (.ok { fs with resourceVersion := s.rev + 1 }, s.setNetworkFS fs)
  | .updateNetworkFS fs, s =>
    match s.networkFSs.get (fs.ns, fs.name) with
    | none => (.error (missing "networkfilesystems.harvesterhci.io" fs.name), s)
    | some cur =>
      if cur.resourceVersion = fs.resourceVersion then
        -- what is observed is a status subresource
        let new := { fs with
          state := cur.state, status := cur.status, endpoint := cur.endpoint,
          mountOpts := cur.mountOpts }
        (.ok { new with resourceVersion := s.rev + 1 }, s.setNetworkFS new)
      else (.error (conflict "networkfilesystems.harvesterhci.io" fs.name), s)
  | .deleteNetworkFS ns name, s =>
    match s.networkFSs.get (ns, name) with
    | none => (.error (missing "networkfilesystems.harvesterhci.io" name), s)
    | some _ => (.ok (), { s with rev := s.rev + 1, networkFSs := s.networkFSs.erase (ns, name) })
  | .getSnapshot ns name, s =>
    (found "volumesnapshots.snapshot.storage.k8s.io" name (s.snapshots.get (ns, name)), s)
  | .createSnapshot snap, s =>
    match s.snapshots.get (snap.ns, snap.name) with
    | some _ => (.error (alreadyExists "volumesnapshots.snapshot.storage.k8s.io" snap.name), s)
    | none => (.ok snap, { s with rev := s.rev + 1, snapshots := s.snapshots.put snap })
  | .deleteSnapshot ns name, s =>
    match s.snapshots.get (ns, name) with
    | none => (.error (missing "volumesnapshots.snapshot.storage.k8s.io" name), s)
    | some snap => (.ok (), s.removeSnapshot snap)
  | .listSnapshots ns opts, s =>
    (page s.pager (s.snapshots.items.filter (·.ns = ns)) opts, s)
  | .getBackup ns name, s =>
    (found "volumeremotebackups.harvesterhci.io" name (s.backups.get (ns, name)), s)
  | .createBackup vrb, s =>
    match s.backups.get (vrb.ns, vrb.name) with
    | some _ => (.error (alreadyExists "volumeremotebackups.harvesterhci.io" vrb.name), s)
    | none => (.ok vrb, { s with rev := s.rev + 1, backups := s.backups.put vrb })
  | .deleteBackup ns name, s =>
    match s.backups.get (ns, name) with
    | none => (.error (missing "volumeremotebackups.harvesterhci.io" name), s)
    | some _ => (.ok (), { s with rev := s.rev + 1, backups := s.backups.erase (ns, name) })
  | .listBackups selector, s =>
    (.ok (s.backups.items.filter fun vrb => match selector with
      | none => true
      | some (label, value) => (vrb.labels.getD []).lookup label = some value), s)
  | .getRestore ns name, s =>
    (found "volumeremoterestores.harvesterhci.io" name (s.restores.get (ns, name)), s)
  | .createRestore vrr, s =>
    match s.restores.get (vrr.ns, vrr.name) with
    | some _ => (.error (alreadyExists "volumeremoterestores.harvesterhci.io" vrr.name), s)
    | none => (.ok vrr, { s with rev := s.rev + 1, restores := s.restores.put vrr })
  | .deleteRestore ns name, s =>
    match s.restores.get (ns, name) with
    | none => (.error (missing "volumeremoterestores.harvesterhci.io" name), s)
    | some _ => (.ok (), { s with rev := s.rev + 1, restores := s.restores.erase (ns, name) })
  | .getSetting name, s => (found "settings.harvesterhci.io" name (s.settings.get name), s)
  | .listPods ns, s => (.ok (s.hostPods.filter (·.ns = ns)), s)
  | .getVM ns name, s => (found "virtualmachines.kubevirt.io" name (s.vms.get (ns, name)), s)
  | .patchVM ns name patch, s =>
    match s.vms.get (ns, name) with
    | none => (.error (missing "virtualmachines.kubevirt.io" name), s)
    | some vm =>
      match vm.applyPatch patch with
      | .error e => (.error e, s)
      | .ok new => (.ok (), s.setVM new)
  | .addVolumeVM ns name volume disk, s =>
    match s.vms.get (ns, name) with
    | none => (.error (missing "virtualmachines.kubevirt.io" name), s)
    | some vm =>
      if vm.volumeList.any (·.name = volume.name) then
        (.error ⟨.invalid, "Unable to add volume [" ++ volume.name ++
          "] because volume with that name already exists"⟩, s)
      else
        (.ok (), s.setVM { vm with
          volumes := some (vm.volumeList ++ [volume])
          disks := some (vm.diskList ++ [disk]) })
  | .removeVolumeVM ns name volume, s =>
    match s.vms.get (ns, name) with
    | none => (.error (missing "virtualmachines.kubevirt.io" name), s)
    | some vm =>
      if vm.volumeList.any (·.name = volume) then
        (.ok (), s.setVM { vm with
          volumes := vm.volumes.map (·.filter (·.name ≠ volume))
          disks := vm.disks.map (·.filter (·.name ≠ volume)) })
      else
        (.error
          ⟨.invalid, "Unable to remove volume [" ++ volume ++ "] because it does not exist"⟩, s)
  | .getVMI ns name, s =>
    (found "virtualmachineinstances.kubevirt.io" name (s.vmis.get (ns, name)), s)
  | .listVMIs ns, s => (.ok (s.vmis.items.filter (·.ns = ns)), s)
  -- the request is taken here; the status of the instance follows in its own time
  | .removeVolumeVMI ns name _, s =>
    match s.vmis.get (ns, name) with
    | none => (.error (missing "virtualmachineinstances.kubevirt.io" name), s)
    | some _ => (.ok (), s)
  | .listHostVAs, s => (.ok s.hostVAs, s)
  | .listGuestVAs, s => (.ok s.guestVAs, s)
  | .getLocalPV name, s => (found "persistentvolumes" name (s.guestPVs.get name), s)
  | .podsByIndex key, s => (.ok (s.guestPods.filter fun pod => key ∈ indexPodByPVCFunc pod), s)
  | .updateNode node, s =>
    match s.nodes.get node.name with
    | none => (.error (missing "nodes" node.name), s)
    | some cur =>
      if cur.resourceVersion ≠ node.resourceVersion then (.error (conflict "nodes" node.name), s)
      else if (node.taints.map fun t => (t.key, t.effect)).Nodup then
        (.ok { node with resourceVersion := s.rev + 1 }, s.setNode node)
      else (.error ⟨.invalid, "taints must be unique by key and effect pair"⟩, s)

/-- A server that may also fail, and then has done nothing. -/
def Answers (op : Op) (s : Cluster) (r : op.Res) (t : Cluster) : Prop :=
  serve op s = (r, t) ∨ t = s ∧ ∃ e, r = .error e

def Serves (op : Op) (s : Cluster) (r : op.Res) (t : Cluster) : Prop := serve op s = (r, t)

theorem Serves.answers (h : Serves op s r t) : Answers op s r t := .inl h

theorem runs_of_run {p : Api α} (h : run serve p s = (o, t)) : Runs Eq Serves p s o t := by
  have hruns : Runs Eq Serves p s (run serve p s).1 (run serve p s).2 :=
    Runs.of_run (fun _ => rfl) (fun _ _ => rfl) p s
  rwa [h] at hruns

-- ---------------------------------------------------------------------------
-- What an answer says
-- ---------------------------------------------------------------------------

theorem found_answer {r : Except ApiError α} {s t : Cluster}
    (h : (found resource name o, s) = (r, t) ∨ t = s ∧ ∃ e, r = .error e) :
    t = s ∧ ∀ a, r = .ok a → o = some a := by
  rcases h with h | ⟨rfl, e, rfl⟩
  · obtain ⟨rfl, rfl⟩ := Prod.mk.inj h
    exact ⟨rfl, fun a => found_eq_ok.mp⟩
  · exact ⟨rfl, fun a h => by cases h⟩

theorem Answers.getPVC (h : Answers (.getPVC ns name) s r t) :
    t = s ∧ ∀ pvc, r = .ok pvc → s.pvcs.get (ns, name) = some pvc := found_answer h

theorem Answers.getStorageClass (h : Answers (.getStorageClass name) s r t) :
    t = s ∧ ∀ sc, r = .ok sc → s.storageClasses.get name = some sc := found_answer h

theorem Answers.getNetworkFS (h : Answers (.getNetworkFS ns name) s r t) :
    t = s ∧ ∀ fs, r = .ok fs → s.networkFSs.get (ns, name) = some fs := found_answer h

theorem Answers.getVM (h : Answers (.getVM ns name) s r t) :
    t = s ∧ ∀ vm, r = .ok vm → s.vms.get (ns, name) = some vm := found_answer h

theorem Answers.getSnapshot (h : Answers (.getSnapshot ns name) s r t) :
    t = s ∧ ∀ snap, r = .ok snap → s.snapshots.get (ns, name) = some snap := found_answer h

theorem Answers.getBackup (h : Answers (.getBackup ns name) s r t) :
    t = s ∧ ∀ vrb, r = .ok vrb → s.backups.get (ns, name) = some vrb := found_answer h

theorem Answers.getRestore (h : Answers (.getRestore ns name) s r t) :
    t = s ∧ ∀ vrr, r = .ok vrr → s.restores.get (ns, name) = some vrr := found_answer h

theorem Answers.served (h : Answers op s (.ok a) t) : serve op s = (.ok a, t) := by
  rcases h with h | ⟨-, e, he⟩
  · exact h
  · cases he

theorem Answers.createPVC_ok (h : Answers (.createPVC pvc) s (.ok res) t) :
    s.pvcs.get (pvc.ns, pvc.name) = none ∧ res = { pvc with resourceVersion := s.rev + 1 } ∧
      t = s.setPVC pvc := by
  have h := h.served
  dsimp only [serve] at h
  split at h
  · cases h
  · rename_i hnone
    cases h
    exact ⟨hnone, rfl, rfl⟩

theorem Answers.createSnapshot_ok (h : Answers (.createSnapshot snap) s (.ok res) t) :
    res = snap := by
  have h := h.served
  dsimp only [serve] at h
  split at h <;> cases h
  rfl

theorem Answers.createBackup_ok (h : Answers (.createBackup vrb) s (.ok res) t) : res = vrb := by
  have h := h.served
  dsimp only [serve] at h
  split at h <;> cases h
  rfl

theorem Answers.createRestore_ok (h : Answers (.createRestore vrr) s (.ok res) t) :
    res = vrr ∧ t.restores.get (vrr.ns, vrr.name) = some vrr := by
  have h := h.served
  dsimp only [serve] at h
  split at h <;> cases h
  exact ⟨rfl, by simp⟩

theorem Answers.updateNetworkFS_ok (h : Answers (.updateNetworkFS fs) s (.ok res) t) :
    s.networkFSs.get (fs.ns, fs.name) ≠ none ∧
      ∃ new, t.networkFSs.get (fs.ns, fs.name) = some new ∧ new.desiredState = fs.desiredState := by
  have h := h.served
  dsimp only [serve] at h
  split at h
  · cases h
  · rename_i cur hcur
    split at h <;> cases h
    exact ⟨by simp [hcur], _, get_setNetworkFS _ _, rfl⟩

theorem Answers.updateNetworkFS_error (h : Answers (.updateNetworkFS fs) s (.error e) t) :
    t = s := by
  rcases h with h | ⟨rfl, -⟩
  · dsimp only [serve] at h
    (repeat' split at h) <;> cases h <;> rfl
  · rfl

theorem serve_answers (op : Op) (s : Cluster) : Answers op s (serve op s).1 (serve op s).2 :=
  .inl rfl

end Cluster

/-- A server whose calls may fail before or after they have been carried out. -/
def Wavers (op : Op) (s : Cluster) (r : op.Res) (t : Cluster) : Prop :=
  Cluster.serve op s = (r, t) ∨ (t = s ∨ t = (Cluster.serve op s).2) ∧ ∃ e, r = .error e

theorem Wavers.state (h : Wavers op s r t) : t = s ∨ t = (Cluster.serve op s).2 := by
  rcases h with h | ⟨h, -⟩
  · exact .inr (congrArg Prod.snd h).symm
  · exact h

theorem Wavers.served (h : Wavers op s (.ok a) t) : Cluster.serve op s = (.ok a, t) := by
  rcases h with h | ⟨-, e, he⟩
  · exact h
  · cases he

theorem Wavers.answers (h : Wavers op s r t) (hkeeps : (Cluster.serve op s).2 = s) :
    Cluster.Answers op s r t :=
  h.imp_right fun hfails => ⟨hfails.1.elim id fun h => h.trans hkeeps, hfails.2⟩

end HarvesterCSI
