import HarvesterCSI.Calls.Rely
import HarvesterCSI.Driver
import HarvesterCSI.Laws.Capabilities
import HarvesterCSI.Laws.Deletion
import HarvesterCSI.Laws.Expansion
import HarvesterCSI.Laws.SnapshotIds
import HarvesterCSI.Laws.Unplug

/-!
# What the driver does to the clusters

Any number of calls and reconciles run side by side, among others who change anything
as long as every write takes a new version, and on servers whose calls may fail before
or after they have been carried out. `Effect` lists what one step of a call may do
then. Machines, exports and claims are written as they are at that step, not as
they were when the call read them. Only the names of an export and of a volume that is
removed alone are from an earlier read, and so they are names that were read in the run.
-/

namespace HarvesterCSI

open Calls Calls.Prog

-- ---------------------------------------------------------------------------
-- Versions
-- ---------------------------------------------------------------------------

def networkFSClock (ns name : String) : Clock Cluster NetworkFilesystem where
  latest := Cluster.rev
  object := fun s => s.networkFSs.get (ns, name)
  version := NetworkFilesystem.resourceVersion

/-- Every write to a machine, a claim or an export takes a new version. -/
structure VersionMoves (s t : Cluster) : Prop where
  vm : ∀ ns name, (vmClock ns name).Moves s t
  pvc : ∀ ns name, (pvcClock ns name).Moves s t
  networkFS : ∀ ns name, (networkFSClock ns name).Moves s t

/-- All versions are ones that were given out, and none is the zero of an object that
was never stored. -/
structure Versioned (s : Cluster) : Prop where
  vm : ∀ ns name, (vmClock ns name).Bounded s
  pvc : ∀ ns name, (pvcClock ns name).Bounded s
  networkFS : ∀ ns name, (networkFSClock ns name).Bounded s
  positive : ∀ key fs, s.networkFSs.get key = some fs → 0 < fs.resourceVersion

def versions : Rely Cluster where
  moves := VersionMoves
  refl s := ⟨fun _ _ => .refl _ s, fun _ _ => .refl _ s, fun _ _ => .refl _ s⟩
  trans h₁ h₂ := ⟨fun ns name => (h₁.vm ns name).trans _ (h₂.vm ns name),
    fun ns name => (h₁.pvc ns name).trans _ (h₂.pvc ns name),
    fun ns name => (h₁.networkFS ns name).trans _ (h₂.networkFS ns name)⟩

theorem VersionMoves.versioned (h : VersionMoves s t) (hs : Versioned s) : Versioned t where
  vm ns name := (h.vm ns name).bounded _ (hs.vm ns name)
  pvc ns name := (h.pvc ns name).bounded _ (hs.pvc ns name)
  networkFS ns name := (h.networkFS ns name).bounded _ (hs.networkFS ns name)
  positive := by
    rintro ⟨ns, name⟩ fs hfs
    rcases (h.networkFS ns name).2 with hsame | hnew
    · exact hs.positive _ fs (hsame.symm.trans hfs)
    · exact Nat.zero_lt_of_lt (hnew fs hfs).1

namespace Cluster

theorem serve_networkFSs (op : Op) (s : Cluster) :
    s.rev ≤ (serve op s).2.rev ∧ ((serve op s).2.networkFSs = s.networkFSs ∨
      (∃ fs, (serve op s).2 = s.setNetworkFS fs) ∨
      ∃ k, (serve op s).2.networkFSs = s.networkFSs.erase k) := by
  cases op <;> dsimp only [serve] <;> (repeat' split) <;>
    first
    | exact ⟨Nat.le_refl _, .inl rfl⟩
    | exact ⟨Nat.le_succ _, .inl rfl⟩
    | exact ⟨Nat.le_succ _, .inr (.inl ⟨_, rfl⟩)⟩
    | exact ⟨Nat.le_succ _, .inr (.inr ⟨_, rfl⟩)⟩

theorem serve_networkFS_moves (op : Op) (s : Cluster) :
    (networkFSClock ns name).Moves s (serve op s).2 := by
  obtain ⟨hrev, hsame | ⟨fs, hset⟩ | ⟨k, herase⟩⟩ := serve_networkFSs op s
  · exact ⟨hrev, .inl (congrArg (Store.get · (ns, name)) hsame)⟩
  · rw [hset]
    exact Clock.Moves.of_put rfl rfl rfl (Nat.lt_succ_self _)
  · exact Clock.Moves.of_erase rfl (congrArg (Store.get · (ns, name)) herase) hrev

end Cluster

theorem Wavers.versionMoves (h : Wavers op s r t) : VersionMoves s t := by
  rcases h.state with rfl | rfl
  · exact versions.refl _
  · have hserved := Cluster.serve_answers op s
    exact ⟨fun _ _ => hserved.moves, fun _ _ => hserved.pvc_moves,
      fun _ _ => Cluster.serve_networkFS_moves op s⟩

-- ---------------------------------------------------------------------------
-- Calls that change nothing
-- ---------------------------------------------------------------------------

/-- Reads, and the request to an instance, which acts on it in its own time. -/
def Op.Keeps : Op → Prop
  | .createPVC _ | .updatePVC _ | .deletePVC .. | .createNetworkFS _ | .updateNetworkFS _
  | .deleteNetworkFS .. | .createSnapshot _ | .deleteSnapshot .. | .createBackup _
  | .deleteBackup .. | .createRestore _ | .deleteRestore .. | .patchVM .. | .addVolumeVM ..
  | .removeVolumeVM .. | .updateNode _ => False
  | _ => True

theorem Op.Keeps.serve (hop : Op.Keeps op) (s : Cluster) : (Cluster.serve op s).2 = s := by
  cases op <;> first | exact hop.elim | rfl | skip
  dsimp only [Cluster.serve]
  split <;> rfl

theorem Op.Keeps.state (hop : Op.Keeps op) (h : Wavers op s r t) : t = s :=
  h.state.elim id fun h => h.trans (hop.serve s)

-- ---------------------------------------------------------------------------
-- Effects
-- ---------------------------------------------------------------------------

inductive ControllerServer.Builds (cs : ControllerServer) (req : CreateVolumeRequest) : PVC → Prop
  | scratch (provisioner : String) :
      Builds cs req (cs.scratchPVC req.name req.volumeCapabilities (req.parameters.getD [])
        (cs.volSize req) (cs.targetSC (req.parameters.getD [])) provisioner)
  | snapshot (mode : VolumeMode) (storageClassName snapshot : String) :
      Builds cs req {
        ns := cs.ns
        name := req.name
        accessModes := [.readWriteMany]
        volumeMode := some mode
        storageClassName := some storageClassName
        requests := some { storage := some (cs.volSize req) }
        dataSource := some ⟨snapshotGroupName, volumeSnapshotKind, snapshot⟩ }

def newNetworkFilesystem (volumeName : String) : NetworkFilesystem where
  ns := harvesterNS
  name := volumeName
  networkFSName := volumeName
  desiredState := .disabled
  provisioner := lhName

def DriverCall.claim : DriverCall → Option String
  | .createVolume _ req => some req.name
  | .deleteVolume volumeId => some volumeId
  | .controllerPublishVolume _ _ req => some req.volumeId
  | .controllerUnpublishVolume req => some req.volumeId
  | .controllerExpandVolume _ req => some req.volumeId
  | _ => none

def DriverCall.Exports : DriverCall → Prop
  | .createVolume .. | .controllerPublishVolume .. => True
  | _ => False

/-- What calls may have read: the volumes of a claim, by its name, and the hot-pluggable
volumes of a machine. -/
structure Reads where
  volumes : String → String → Prop
  plugged : String → String → Prop

def Reads.any : Reads := ⟨fun _ _ => True, fun _ _ => True⟩

structure Reads.Cover (known : Reads) (cs : ControllerServer) (s : Cluster) : Prop where
  volumes : ∀ name pvc, s.pvcs.get (cs.ns, name) = some pvc → known.volumes name pvc.volumeName
  plugged : ∀ name vm v, s.vms.get (cs.ns, name) = some vm → vm.isHotplugName v = true →
    known.plugged name v

theorem Reads.any_cover (cs : ControllerServer) (s : Cluster) : Reads.any.Cover cs s :=
  ⟨fun _ _ _ => trivial, fun _ _ _ _ _ => trivial⟩

/-- What one step of a call may do. A node is written as the reconcile was given it, if
that is of the stored version; all else is computed from what is stored. -/
inductive Effect (cs : ControllerServer) (known : Reads) : DriverCall → Cluster → Cluster → Prop
  | keep {call : DriverCall} {s : Cluster} : Effect cs known call s s
  | createClaim (hbuilds : cs.Builds req pvc) (hnew : s.pvcs.get (cs.ns, req.name) = none) :
      Effect cs known (.createVolume ticks req) s (s.setPVC pvc)
  | createRestore (hkey : (vrr.ns, vrr.name) = (cs.ns, req.name))
      (hnew : s.restores.get (cs.ns, req.name) = none) :
      Effect cs known (.createVolume ticks req) s
        { s with rev := s.rev + 1, restores := s.restores.put vrr }
  | createExport {call : DriverCall} (hcall : call.Exports) (hclaim : call.claim = some name)
      (hvolume : known.volumes name volume)
      (hnew : s.networkFSs.get (harvesterNS, volume) = none) :
      Effect cs known call s (s.setNetworkFS (newNetworkFilesystem volume))
  | deleteRestore (hfound : s.restores.get (cs.ns, volumeId) = some vrr) :
      Effect cs known (.deleteVolume volumeId) s
        { s with rev := s.rev + 1, restores := s.restores.erase (cs.ns, volumeId) }
  | deleteExport (hvolume : known.volumes volumeId volume)
      (hfound : s.networkFSs.get (harvesterNS, volume) = some fs) :
      Effect cs known (.deleteVolume volumeId) s
        { s with rev := s.rev + 1, networkFSs := s.networkFSs.erase (harvesterNS, volume) }
  | deleteClaim (hfound : s.pvcs.get (cs.ns, volumeId) = some pvc) :
      Effect cs known (.deleteVolume volumeId) s
        { s with rev := s.rev + 1, pvcs := s.pvcs.erase (cs.ns, volumeId) }
  | enableExport (hvolume : known.volumes req.volumeId volume)
      (hfound : s.networkFSs.get (harvesterNS, volume) = some fs) :
      Effect cs known (.controllerPublishVolume settleTicks attachTicks req) s
        (s.setNetworkFS { fs with desiredState := .enabled })
  | disableExport (hvolume : known.volumes req.volumeId volume)
      (hfound : s.networkFSs.get (harvesterNS, volume) = some fs) :
      Effect cs known (.controllerUnpublishVolume req) s
        (s.setNetworkFS { fs with desiredState := .disabled })
  | plug (hdecl : cs.useDeclarativeHotplug = true)
      (hfound : s.vms.get (cs.ns, req.nodeId) = some vm) :
      Effect cs known (.controllerPublishVolume settleTicks attachTicks req) s
        (s.setVM (vm.plug req.volumeId))
  | plugLegacy (hdecl : cs.useDeclarativeHotplug = false)
      (hfound : s.vms.get (cs.ns, req.nodeId) = some vm)
      (hnew : vm.hasVolume req.volumeId = false) :
      Effect cs known (.controllerPublishVolume settleTicks attachTicks req) s
        (s.setVM (vm.plugLegacy req.volumeId))
  | unplug (hdecl : cs.useDeclarativeHotplug = true)
      (hfound : s.vms.get (cs.ns, req.nodeId) = some vm) :
      Effect cs known (.controllerUnpublishVolume req) s (s.setVM (vm.unplug (· = req.volumeId)))
  | unplugLegacy (hdecl : cs.useDeclarativeHotplug = false)
      (hfound : s.vms.get (cs.ns, req.nodeId) = some vm) (hin : vm.hasVolume req.volumeId = true) :
      Effect cs known (.controllerUnpublishVolume req) s (s.setVM (vm.unplugLegacy req.volumeId))
  | grow (hfound : s.pvcs.get (cs.ns, req.volumeId) = some pvc)
      (hsize : req.requiredBytes = some size) (hle : pvc.requested ≤ size) :
      Effect cs known (.controllerExpandVolume ticks req) s
        (s.setPVC { pvc with requests := some { storage := some size } })
  | createSnapshot (hlocal : ControllerServer.isBackupSnapshot req = false)
      (hkey : (snap.ns, snap.name) = (cs.ns, req.name))
      (hsource : snap.persistentVolumeClaimName = some req.sourceVolumeId)
      (hfresh : snap.status = none ∧ snap.finalizers = [])
      (hnew : s.snapshots.get (cs.ns, req.name) = none) :
      Effect cs known (.createSnapshot req) s
        { s with rev := s.rev + 1, snapshots := s.snapshots.put snap }
  | createBackup (hbackup : ControllerServer.isBackupSnapshot req = true)
      (hnew : s.backups.get (cs.ns, req.name) = none) :
      Effect cs known (.createSnapshot req) s
        { s with
          rev := s.rev + 1
          backups := s.backups.put
            (cs.buildHostVolumeRemoteBackup req.name req.sourceVolumeId lhBackup) }
  | deleteSnapshot (hid : parseSnapshotID snapshotId = (false, ns, name))
      (hfound : s.snapshots.get (cs.ns, name) = some snap) :
      Effect cs known (.deleteSnapshot snapshotId) s (s.removeSnapshot snap)
  | deleteBackup (hid : parseSnapshotID snapshotId = (true, ns, name))
      (hfound : s.backups.get (ns, name) = some vrb) :
      Effect cs known (.deleteSnapshot snapshotId) s
        { s with rev := s.rev + 1, backups := s.backups.erase (ns, name) }
  | removeTaint (hready : node.ready = true) (hout : node.outOfService = true)
      (hfound : s.nodes.get node.name = some cur)
      (hversion : cur.resourceVersion = node.resourceVersion) :
      Effect cs known (.onNodesChange order (some node)) s
        (s.setNode { node with taints := node.taints.filter (·.key ≠ nonGracefulTaintKey) })
  | addTaint (hready : node.ready = false) (hout : node.outOfService = false)
      (hfound : s.nodes.get node.name = some cur)
      (hversion : cur.resourceVersion = node.resourceVersion) :
      Effect cs known (.onNodesChange order (some node)) s
        (s.setNode { node with
          taints := node.taints ++ [{ key := nonGracefulTaintKey, effect := .noExecute }] })
  | strip (hdecl : cs.useDeclarativeHotplug = true) (hready : node.ready = false)
      (hout : node.outOfService = true) (hfound : s.vms.get (cs.ns, node.name) = some vm) :
      Effect cs known (.onNodesChange order (some node)) s (s.setVM (vm.unplug vm.isHotplugName))
  | stripOne (hdecl : cs.useDeclarativeHotplug = false) (hready : node.ready = false)
      (hout : node.outOfService = true) (hplugged : known.plugged node.name volume)
      (hfound : s.vms.get (cs.ns, node.name) = some vm) (hin : vm.hasVolume volume = true) :
      Effect cs known (.onNodesChange order (some node)) s (s.setVM (vm.unplugLegacy volume))

-- ---------------------------------------------------------------------------
-- Guarded writes
-- ---------------------------------------------------------------------------

section
variable {s t : Cluster}

/-- A patch that is carried out finds the machine that was read. -/
theorem serve_patchVM_read (hs : Versioned s) (hread : s.vms.get (ns, node) = some vm)
    (hmove : VersionMoves s t) (ops : List PatchOp) :
    let patch := .testResourceVersion vm.resourceVersion :: ops
    (Cluster.serve (.patchVM ns node patch) t).2 = t ∨ t.vms.get (ns, node) = some vm ∧
      ∃ new, vm.applyPatch patch = .ok new ∧
        (Cluster.serve (.patchVM ns node patch) t).2 = t.setVM new := by
  intro patch
  have hanswer := Cluster.serve_answers (.patchVM ns node patch) t
  cases hr : (Cluster.serve (.patchVM ns node patch) t).1 with
  | error e =>
    rw [hr] at hanswer
    exact .inl hanswer.patchVM_error
  | ok u =>
    rw [hr] at hanswer
    obtain ⟨hserve, vm', hvm', hversion⟩ := hanswer.patchVM_ok
    obtain rfl : vm' = vm := (hmove.vm ns node).same _ (hs.vm ns node) hread hvm' hversion
    refine .inr ⟨hvm', ?_⟩
    simp only [Cluster.serve, hvm'] at hserve ⊢
    cases hnew : vm'.applyPatch patch with
    | error e =>
      rw [hnew] at hserve
      cases hserve
    | ok new => exact ⟨new, rfl, rfl⟩

theorem serve_addPatch_read (hs : Versioned s) (hread : s.vms.get (ns, node) = some vm)
    (hmove : VersionMoves s t) (v : String) :
    (Cluster.serve (.patchVM ns node (ControllerServer.addPatch vm v)) t).2 = t ∨
      t.vms.get (ns, node) = some vm ∧
        (Cluster.serve (.patchVM ns node (ControllerServer.addPatch vm v)) t).2 =
          t.setVM (vm.plug v) := by
  refine (serve_patchVM_read hs hread hmove _).imp_right fun ⟨hfound, new, hnew, hset⟩ =>
    ⟨hfound, ?_⟩
  exact hset.trans (congrArg _ (vm.eq_plug hnew))

theorem serve_removePatch_read (hs : Versioned s) (hread : s.vms.get (ns, node) = some vm)
    (hmove : VersionMoves s t) (drop : String → Bool) :
    (Cluster.serve (.patchVM ns node (ControllerServer.removePatch vm drop)) t).2 = t ∨
      t.vms.get (ns, node) = some vm ∧
        (Cluster.serve (.patchVM ns node (ControllerServer.removePatch vm drop)) t).2 =
          t.setVM (vm.unplug drop) := by
  refine (serve_patchVM_read hs hread hmove _).imp_right fun ⟨hfound, new, hnew, hset⟩ =>
    ⟨hfound, ?_⟩
  cases hnew.symm.trans (vm.applyPatch_unplug drop)
  exact hset

theorem serve_removeVolumeVM_cases (ns node v : String) (s : Cluster) :
    (Cluster.serve (.removeVolumeVM ns node v) s).2 = s ∨
      ∃ vm, s.vms.get (ns, node) = some vm ∧ vm.hasVolume v = true ∧
        (Cluster.serve (.removeVolumeVM ns node v) s).2 = s.setVM (vm.unplugLegacy v) := by
  dsimp only [Cluster.serve]
  split
  · exact .inl rfl
  · rename_i vm hfound
    split
    · rename_i hin
      exact .inr ⟨vm, hfound, hin, rfl⟩
    · exact .inl rfl

theorem serve_updatePVC_read (hs : Versioned s) (hread : s.pvcs.get (ns, name) = some pvc)
    (hmove : VersionMoves s t) (requests : Option ResourceList) :
    (Cluster.serve (.updatePVC { pvc with requests := requests }) t).2 = t ∨
      t.pvcs.get (ns, name) = some pvc ∧
        (Cluster.serve (.updatePVC { pvc with requests := requests }) t).2 =
          t.setPVC { pvc with requests := requests } := by
  have hkey := Store.get_key hread
  have hanswer := Cluster.serve_answers (.updatePVC { pvc with requests := requests }) t
  cases hr : (Cluster.serve (.updatePVC { pvc with requests := requests }) t).1 with
  | error e =>
    rw [hr] at hanswer
    exact .inl hanswer.updatePVC_error
  | ok res =>
    rw [hr] at hanswer
    obtain ⟨cur, hcur, hversion, ht⟩ := hanswer.updatePVC_ok
    have hcur' : t.pvcs.get (ns, name) = some cur := hkey ▸ hcur
    obtain rfl : cur = pvc := (hmove.pvc ns name).same _ (hs.pvc ns name) hread hcur' hversion
    exact .inr ⟨hcur', ht⟩

theorem serve_updateNetworkFS_read (hs : Versioned s)
    (hread : s.networkFSs.get (ns, name) = some fs) (hmove : VersionMoves s t)
    (state : NetworkFSState) :
    (Cluster.serve (.updateNetworkFS { fs with desiredState := state }) t).2 = t ∨
      t.networkFSs.get (ns, name) = some fs ∧
        (Cluster.serve (.updateNetworkFS { fs with desiredState := state }) t).2 =
          t.setNetworkFS { fs with desiredState := state } := by
  have hkey := Store.get_key hread
  dsimp only [Cluster.serve]
  split
  · exact .inl rfl
  · rename_i cur hcur
    split
    · rename_i hversion
      have hcur' : t.networkFSs.get (ns, name) = some cur := hkey ▸ hcur
      obtain rfl : cur = fs :=
        (hmove.networkFS ns name).same _ (hs.networkFS ns name) hread hcur' hversion
      exact .inr ⟨hcur', rfl⟩
    · exact .inl rfl

/-- No stored export has the version of the object that a failed get leaves behind. -/
theorem serve_updateNetworkFS_empty (hs : Versioned s) (state : NetworkFSState) :
    (Cluster.serve (.updateNetworkFS { ns := "", name := "", desiredState := state }) s).2 = s := by
  dsimp only [Cluster.serve]
  split
  · rfl
  · rename_i cur hcur
    split
    · rename_i hversion
      exact absurd (hs.positive _ cur hcur) (by simp [hversion])
    · rfl

end

-- ---------------------------------------------------------------------------
-- Programs by their effects
-- ---------------------------------------------------------------------------

/-- A wavering server, as long as all that can be read is known. -/
def Recalls (cs : ControllerServer) (known : Reads) (op : Op) (s : Cluster) (r : op.Res)
    (t : Cluster) : Prop :=
  known.Cover cs s ∧ Wavers op s r t

/-- Every step of the program is an effect of this call, whoever else is at work. -/
abbrev Acts (cs : ControllerServer) (known : Reads) (call : DriverCall) (p : Api α) (s : Cluster) :
    Prop :=
  Guarantees versions (Recalls cs known) (Effect cs known call) p s

section
variable {cs : ControllerServer} {known : Reads} {call : DriverCall} {s : Cluster}

theorem acts_of_keeps {p : Api α} (hp : p.Uses Op.Keeps) (s : Cluster) : Acts cs known call p s :=
  .of_uses hp (fun _ _ _ _ hop h => ⟨h.2.versionMoves, hop.state h.2 ▸ .keep⟩) s

theorem acts_read {k : op.Res → Api α} (hop : Op.Keeps op)
    (hrest : ∀ r t, VersionMoves s t → known.Cover cs t → Cluster.Answers op t r t →
      Acts cs known call (k r) t) :
    Acts cs known call (ask op >>= k) s := by
  refine .request fun s₁ r s₂ hmove hrecalls => ?_
  obtain ⟨hcover, h⟩ := hrecalls
  obtain rfl := hop.state h
  exact ⟨⟨h.versionMoves, .keep⟩, hrest r s₂ hmove hcover (h.answers (hop.serve s₂))⟩

theorem acts_write {k : op.Res → Api α}
    (heffect : ∀ t, VersionMoves s t → Effect cs known call t (Cluster.serve op t).2)
    (hrest : ∀ r t, VersionMoves s t → (∃ u, Wavers op u r t) → Acts cs known call (k r) t) :
    Acts cs known call (ask op >>= k) s := by
  refine .request fun s₁ r s₂ hmove hrecalls => ?_
  have h := hrecalls.2
  refine ⟨⟨h.versionMoves, ?_⟩, hrest r s₂ ?_ ⟨s₁, h⟩⟩
  · rcases h.state with rfl | rfl
    · exact .keep
    · exact heffect s₁ hmove
  · exact versions.trans hmove h.versionMoves

theorem acts_unanswered {p : Api α} (hp : Acts cs known call p s) :
    Acts cs known call (unanswered p) s :=
  hp.seq fun _ _ _ => trivial

end

namespace ControllerServer
variable {cs : ControllerServer} {known : Reads} {s : Cluster}

-- ---------------------------------------------------------------------------
-- CreateVolume
-- ---------------------------------------------------------------------------

theorem buildHostPVC_returns (req : CreateVolumeRequest) :
    (cs.buildHostPVC req (req.parameters.getD []) (cs.volSize req)).Returns (cs.Builds req) := by
  unfold buildHostPVC
  split
  · refine (getStorageClass_returns cs _).bind ?_
    rintro ⟨sc, provisioner⟩ rfl
    exact .scratch provisioner
  · simp only [buildHostPVCFromSnap, request_bind]
    intro r
    cases r with
    | error e => trivial
    | ok hostSnap =>
      refine (returns_true _).bind fun _ _ => fun r => ?_
      cases r with
      | error e => trivial
      | ok sc =>
        dsimp only
        split
        · trivial
        · exact .snapshot _ _ _
  · trivial

theorem Builds.key (h : cs.Builds req pvc) : (pvc.ns, pvc.name) = (cs.ns, req.name) := by
  cases h <;> rfl

theorem BuildOp.keeps (op : Op) (hop : BuildOp op) : op.Keeps := by
  cases op <;> first | exact hop.elim | trivial

theorem LookupOp.keeps (op : Op) (hop : LookupOp op) : op.Keeps := by
  cases op <;> first | exact hop.elim | trivial

theorem LookOp.keeps (op : Op) (hop : LookOp op) : op.Keeps := by
  cases op <;> first | exact hop.elim | trivial

theorem waitForLHVolumeName_keeps (name : String) (ticks : Nat) :
    (cs.waitForLHVolumeName name ticks).Uses Op.Keeps := by
  induction ticks with
  | zero => trivial
  | succ ticks ih =>
    refine Uses.request trivial fun r => ?_
    cases r with
    | error e => trivial
    | ok pvc =>
      dsimp only
      split
      · exact ih
      · trivial

theorem createNetworkFilesystem_acts {call : DriverCall} (hcall : call.Exports)
    (hclaim : call.claim = some name) (hvolume : known.volumes name volumeName) :
    Acts cs known call (cs.createNetworkFilesystem volumeName) s := by
  refine acts_write (fun t _ => ?_) fun r t _ _ => ?_
  · dsimp only [Cluster.serve]
    split
    · exact .keep
    · rename_i hnew
      exact .createExport hcall hclaim hvolume hnew
  · cases r with
    | ok fs => trivial
    | error e =>
      dsimp only
      split <;> trivial

theorem exportVolume_acts (hname : resHostPVC.name = req.name) :
    Acts cs known (.createVolume ticks req) (createVolume.exportVolume cs ticks resHostPVC) s := by
  unfold createVolume.exportVolume
  refine (acts_of_keeps ((isLHRWXVolume_uses cs resHostPVC).mono LookupOp.keeps) s).seq
    fun shared t _ => ?_
  split
  · refine (acts_of_keeps (waitForLHVolumeName_keeps _ _) t).seq fun named t _ => ?_
    split
    · refine acts_read trivial fun r t _ hcover hread => ?_
      cases r with
      | error e => trivial
      | ok resPVC =>
        rw [hname] at hread
        refine Guarantees.orElse ?_ fun _ _ _ => trivial
        exact createNetworkFilesystem_acts trivial rfl
          (hcover.volumes req.name resPVC (hread.getPVC.2 resPVC rfl))
    · trivial
  · trivial

theorem buildHostVolumeRemoteRestore_acts (vp : StringMap) :
    Acts cs known (.createVolume ticks req) (cs.buildHostVolumeRemoteRestore req vp) s := by
  unfold buildHostVolumeRemoteRestore
  split
  · trivial
  · refine acts_read trivial fun r t _ _ _ => ?_
    cases r with
    | error e => trivial
    | ok vrb =>
      refine Guarantees.seq (Guarantees.seq ?_ fun vrr t _ => ?_) fun _ _ _ => trivial
      · refine acts_read trivial fun r t _ _ _ => ?_
        cases r with
        | ok vrr => trivial
        | error e =>
          dsimp only
          split
          · trivial
          · refine acts_write (fun t _ => ?_) fun r t _ _ => ?_
            · dsimp only [Cluster.serve]
              split
              · exact .keep
              · rename_i hnew
                exact .createRestore rfl hnew
            · cases r <;> trivial
      · refine Guarantees.seq (acts_read trivial fun r t _ _ _ => ?_) fun ready t _ => ?_
        · cases r <;> trivial
        · split <;> trivial

theorem createPVC_name (h : Cluster.serve (.createPVC pvc) s = (.ok res, t)) :
    res.name = pvc.name := by
  simp only [Cluster.serve] at h
  cases hget : s.pvcs.get (pvc.ns, pvc.name) with
  | some old =>
    rw [hget] at h
    cases h
  | none =>
    rw [hget] at h
    cases h
    rfl

theorem createVolume_acts :
    Acts cs known (.createVolume ticks req) (cs.createVolume ticks req) s := by
  by_cases haccepts : cs.Accepts req
  · rw [createVolume_eq haccepts]
    split
    · exact buildHostVolumeRemoteRestore_acts _
    · refine Guarantees.bind (acts_of_keeps ?_ s) (buildHostPVC_returns req)
        fun hostPVC t hbuilds _ => ?_
      · exact (buildHostPVC_uses _ _ _).mono BuildOp.keeps
      refine acts_write (fun t _ => ?_) fun r t _ hmade => ?_
      · dsimp only [Cluster.serve]
        rw [hbuilds.key]
        split
        · exact .keep
        · rename_i hnew
          exact .createClaim hbuilds hnew
      · cases r with
        | error e => trivial
        | ok resHostPVC =>
          obtain ⟨u, hmade⟩ := hmade
          have hname : resHostPVC.name = req.name :=
            (createPVC_name hmade.served).trans (congrArg Prod.snd hbuilds.key)
          exact (exportVolume_acts hname).seq fun _ _ _ => trivial
  · -- a request that is turned down makes no call
    have hpure := validateCreateVolReq_pure cs req
    unfold createVolume
    cases hv : cs.validateCreateVolReq req with
    | ok r => exact absurd ⟨r, hv⟩ haccepts
    | error e => trivial
    | panic => trivial
    | call op k =>
      rw [hv] at hpure
      exact hpure.1.elim

-- ---------------------------------------------------------------------------
-- DeleteVolume
-- ---------------------------------------------------------------------------

theorem deleteClaim_acts : Acts cs known (.deleteVolume volumeId) (cs.deleteClaim volumeId) s := by
  refine acts_write (fun t _ => ?_) fun r t _ _ => ?_
  · dsimp only [Cluster.serve]
    split
    · exact .keep
    · rename_i pvc hfound
      exact .deleteClaim hfound
  · cases r with
    | ok => trivial
    | error e =>
      dsimp only
      split <;> trivial

theorem deleteExport_acts (hvolume : known.volumes volumeId volumeName) :
    Acts cs known (.deleteVolume volumeId) (deleteVolume.deleteExport volumeName) s := by
  refine acts_read trivial fun r t _ _ _ => ?_
  cases r with
  | error e =>
    dsimp only
    split <;> trivial
  | ok fs =>
    refine acts_write (fun t _ => ?_) fun r t _ _ => ?_
    · dsimp only [Cluster.serve]
      split
      · exact .keep
      · rename_i fs hfound
        exact .deleteExport hvolume hfound
    · cases r <;> trivial

theorem deleteVolume_acts :
    Acts cs known (.deleteVolume volumeId) (cs.deleteVolume volumeId) s := by
  by_cases hid : volumeId = ""
  · rw [deleteVolume, if_pos hid]
    trivial
  · rw [deleteVolume_eq cs hid]
    refine Guarantees.seq (acts_read trivial fun r t _ _ _ => ?_) fun deleted t _ => ?_
    · cases r with
      | error e =>
        dsimp only
        split <;> trivial
      | ok vrr =>
        refine acts_write (fun t _ => ?_) fun r t _ _ => ?_
        · dsimp only [Cluster.serve]
          split
          · exact .keep
          · rename_i vrr hfound
            exact .deleteRestore hfound
        · cases r <;> trivial
    · split
      · trivial
      · refine acts_read trivial fun r t _ hcover hread => ?_
        cases r with
        | error e =>
          dsimp only
          split <;> trivial
        | ok pvc =>
          have hvolume := hcover.volumes volumeId pvc (hread.getPVC.2 pvc rfl)
          refine (acts_of_keeps ((isLHRWXVolume_uses cs pvc).mono LookupOp.keeps) t).seq
            fun shared t _ => ?_
          split
          · exact (deleteExport_acts hvolume).seq fun _ _ _ => deleteClaim_acts
          · exact deleteClaim_acts

-- ---------------------------------------------------------------------------
-- ControllerPublishVolume
-- ---------------------------------------------------------------------------

theorem publishRWXVolume_acts (hs : Versioned s)
    (hvolume : known.volumes req.volumeId pvc.volumeName) :
    Acts cs known (.controllerPublishVolume settleTicks attachTicks req) (cs.publishRWXVolume pvc)
      s := by
  refine acts_read trivial fun r t hmove hcover hread => ?_
  have ht := hmove.versioned hs
  cases r with
  | ok fs =>
    have hfs := hread.getNetworkFS.2 fs rfl
    dsimp only [publishRWXVolume.enable]
    split
    · trivial
    · refine acts_write (fun u hmove => ?_) fun r u _ _ => ?_
      · rcases serve_updateNetworkFS_read ht hfs hmove .enabled with hkeep | ⟨hfound, hset⟩
        · exact hkeep.symm ▸ .keep
        · exact hset.symm ▸ .enableExport hvolume hfound
      · cases r <;> trivial
  | error e =>
    dsimp only
    split
    · trivial
    · split
      · refine Guarantees.seq (Guarantees.orElse ?_ fun _ _ _ => trivial) fun _ _ _ => trivial
        exact createNetworkFilesystem_acts trivial rfl hvolume
      · unfold publishRWXVolume.enable
        split
        · trivial
        · refine acts_write (fun u hmove => ?_) fun r u _ _ => ?_
          · rw [serve_updateNetworkFS_empty (hmove.versioned ht)]
            exact .keep
          · cases r <;> trivial

theorem hotplugVolumeToVM_acts (hs : Versioned s) :
    Acts cs known (.controllerPublishVolume settleTicks attachTicks req)
      (cs.hotplugVolumeToVM req.nodeId req.volumeId) s := by
  unfold hotplugVolumeToVM
  split
  · rename_i hdecl
    refine acts_read trivial fun r t hmove hcover hread => ?_
    cases r with
    | error e => trivial
    | ok vm =>
      have hvm := hread.getVM.2 vm rfl
      dsimp only
      split
      · trivial
      · refine acts_write (fun u hmove' => ?_) fun r u _ _ => ?_
        · rcases serve_addPatch_read (hmove.versioned hs) hvm hmove' _ with hkeep | ⟨hfound, hset⟩
          · exact hkeep.symm ▸ .keep
          · exact hset.symm ▸ .plug hdecl hfound
        · cases r <;> trivial
  · rename_i hdecl
    refine acts_write (fun u _ => ?_) fun r u _ _ => ?_
    · dsimp only [Cluster.serve]
      split
      · exact .keep
      · rename_i vm hfound
        split
        · exact .keep
        · rename_i hnew
          exact .plugLegacy (by simpa using hdecl) hfound (Bool.not_eq_true _ ▸ hnew)
    · cases r <;> trivial

theorem waitForVASettled_keeps (pvc : PVC) (nodeID : String) :
    (cs.waitForVASettled pvc nodeID).Uses Op.Keeps :=
  waitForVASettled_looks cs pvc nodeID trivial trivial trivial

theorem attachVolume_acts (hs : Versioned s) (pvc : PVC) :
    Acts cs known (.controllerPublishVolume settleTicks attachTicks req)
      (cs.attachVolume settleTicks attachTicks pvc req.nodeId req.volumeId) s := by
  have hsettle : (pollUntilContextTimeout true settleTicks
      (cs.waitForVASettled pvc req.nodeId)).Uses Op.Keeps := by
    refine ((waitForVASettled_keeps pvc req.nodeId).poll _).bind fun done => ?_
    split <;> trivial
  have hlook := (isVolAttached_uses cs req.nodeId req.volumeId).mono LookOp.keeps
  have hwait :=
    (waitForVolumeAttached_uses cs attachTicks req.nodeId req.volumeId).mono LookOp.keeps
  refine (acts_of_keeps (hsettle.orElse fun _ => uses_error) s).seq fun _ t hmove => ?_
  refine (acts_of_keeps (hlook.orElse fun _ => uses_error) t).seq fun attached u hmove' => ?_
  split
  · trivial
  · refine Guarantees.seq (Guarantees.orElse ?_ fun _ _ _ => trivial) fun _ u _ =>
      acts_of_keeps hwait u
    exact hotplugVolumeToVM_acts (hmove'.versioned (hmove.versioned hs))

theorem controllerPublishVolume_acts (hs : Versioned s) :
    Acts cs known (.controllerPublishVolume settleTicks attachTicks req)
      (cs.controllerPublishVolume settleTicks attachTicks req) s := by
  unfold controllerPublishVolume
  split
  · trivial
  · split
    · trivial
    · refine acts_read trivial fun r t hmove hcover hread => ?_
      have ht := hmove.versioned hs
      cases r with
      | error e => trivial
      | ok pvc =>
        have hvolume := hcover.volumes req.volumeId pvc (hread.getPVC.2 pvc rfl)
        dsimp only
        split
        · trivial
        · split
          · refine (acts_of_keeps ((isLHRWXVolume_uses cs pvc).mono LookupOp.keeps) t).seq
              fun shared u hmove' => ?_
            split
            · exact publishRWXVolume_acts (hmove'.versioned ht) hvolume
            · trivial
          · exact attachVolume_acts ht pvc

-- ---------------------------------------------------------------------------
-- ControllerUnpublishVolume
-- ---------------------------------------------------------------------------

theorem unpublishRWXVolume_acts (hs : Versioned s)
    (hvolume : known.volumes req.volumeId pvc.volumeName) :
    Acts cs known (.controllerUnpublishVolume req) (cs.unpublishRWXVolume pvc) s := by
  refine acts_read trivial fun r t hmove hcover hread => ?_
  cases r with
  | error e => trivial
  | ok fs =>
    have hfs := hread.getNetworkFS.2 fs rfl
    have hdisable {u : Cluster} (hmove' : VersionMoves t u) :
        Acts cs known (.controllerUnpublishVolume req) (unpublishRWXVolume.disable pvc fs) u := by
      refine acts_write (fun w hmove'' => ?_) fun r w _ _ => ?_
      · rcases serve_updateNetworkFS_read (hmove.versioned hs) hfs (versions.trans hmove' hmove'')
          .disabled with hkeep | ⟨hfound, hset⟩
        · exact hkeep.symm ▸ .keep
        · exact hset.symm ▸ .disableExport hvolume hfound
      · cases r <;> trivial
    dsimp only
    split
    · trivial
    · refine acts_read trivial fun r u hmove' _ _ => ?_
      cases r with
      | error e => trivial
      | ok localPV =>
        dsimp only
        split
        · trivial
        · refine acts_read trivial fun r w hmove'' _ _ => ?_
          rcases r with e | ⟨_ | ⟨pod, pods⟩⟩
          · exact hdisable (versions.trans hmove' hmove'')
          · exact hdisable (versions.trans hmove' hmove'')
          · trivial

theorem unplugVolumeFromVM_acts (hs : Versioned s) (volumeInVM volumeInVMI : Bool) :
    Acts cs known (.controllerUnpublishVolume req)
      (cs.unplugVolumeFromVM req.nodeId req.volumeId volumeInVM volumeInVMI) s := by
  unfold unplugVolumeFromVM
  split
  · rename_i hdecl
    refine Guarantees.seq (Guarantees.orElse ?_ fun _ _ _ => trivial) fun _ _ _ => trivial
    refine acts_read trivial fun r t hmove hcover hread => ?_
    cases r with
    | error e => trivial
    | ok vm =>
      refine acts_write (fun u hmove' => ?_) fun r u _ _ => ?_
      · rcases serve_removePatch_read (hmove.versioned hs) (hread.getVM.2 vm rfl) hmove'
          (· = req.volumeId) with hkeep | ⟨hfound, hset⟩
        · exact hkeep.symm ▸ .keep
        · exact hset.symm ▸ .unplug hdecl hfound
      · cases r <;> trivial
  · rename_i hdecl
    unfold unplugVolumeFromVMLegacy
    split
    · refine acts_read trivial fun r t _ _ _ => ?_
      cases r <;> trivial
    · split
      · refine acts_write (fun u _ => ?_) fun r u _ _ => ?_
        · rcases serve_removeVolumeVM_cases cs.ns req.nodeId req.volumeId u with
            hkeep | ⟨vm, hfound, hin, hset⟩
          · exact hkeep.symm ▸ .keep
          · exact hset.symm ▸ .unplugLegacy (by simpa using hdecl) hfound hin
        · cases r <;> trivial
      · trivial

theorem controllerUnpublishVolume_acts (hs : Versioned s) :
    Acts cs known (.controllerUnpublishVolume req) (cs.controllerUnpublishVolume req) s := by
  unfold controllerUnpublishVolume
  split
  · trivial
  · refine acts_read trivial fun r t hmove hcover hread => ?_
    have ht := hmove.versioned hs
    cases r with
    | error e => trivial
    | ok pvc =>
      have hvolume := hcover.volumes req.volumeId pvc (hread.getPVC.2 pvc rfl)
      dsimp only
      split
      · trivial
      · refine (acts_of_keeps ((isLHRWXVolume_uses cs pvc).mono LookupOp.keeps) t).seq
          fun shared u hmove' => ?_
        have hu := hmove'.versioned ht
        split
        · exact unpublishRWXVolume_acts hu hvolume
        · have hlook := (checkVolumeExistsInVMI_uses cs req.nodeId req.volumeId).mono LookOp.keeps
          have hlook' := (checkVolumeExistsInVM_uses cs req.nodeId req.volumeId).mono LookOp.keeps
          refine Guarantees.seq (Guarantees.orElse ?_ fun _ _ _ => trivial) fun removing w _ => ?_
          · refine (acts_of_keeps hlook u).seq fun inVMI w hmove₁ => ?_
            refine (acts_of_keeps hlook' w).seq fun inVM w hmove₂ => ?_
            split
            · trivial
            · exact
                (unplugVolumeFromVM_acts (hmove₂.versioned (hmove₁.versioned hu)) inVM inVMI).seq
                fun _ _ _ => trivial
          · split <;> trivial

-- ---------------------------------------------------------------------------
-- ControllerExpandVolume
-- ---------------------------------------------------------------------------

end ControllerServer

theorem ExpandRead.keeps (op : Op) (hop : ExpandRead op) : op.Keeps := by
  cases op <;> first | exact hop.elim | trivial

namespace ControllerServer
variable {cs : ControllerServer} {known : Reads} {s : Cluster}

theorem resize_acts (hs : Versioned s) (hread : s.pvcs.get (cs.ns, req.volumeId) = some pvc)
    (hsize : req.requiredBytes = some size) (hle : pvc.requested ≤ size)
    (hmove : VersionMoves s t) :
    Acts cs known (.controllerExpandVolume ticks req)
      (controllerExpandVolume.resize cs ticks req pvc size) t := by
  unfold controllerExpandVolume.resize
  split
  · trivial
  · refine acts_write (fun u hmove' => ?_) fun r u _ _ => ?_
    · rcases serve_updatePVC_read hs hread (versions.trans hmove hmove') _ with
        hkeep | ⟨hfound, hset⟩
      · exact hkeep.symm ▸ .keep
      · exact hset.symm ▸ .grow hfound hsize hle
    · cases r with
      | error e => trivial
      | ok res =>
        refine Guarantees.seq (acts_of_keeps ?_ u) fun expanded w _ => ?_
        · exact (waitForPVCState_uses _ _ _).mono ExpandRead.keeps
        · split
          · refine Guarantees.seq (acts_of_keeps (Uses.orElse ?_ fun _ => uses_error) w)
              fun _ _ _ => trivial
            exact (isVolumeInUse_uses _).mono ExpandRead.keeps
          · trivial

theorem controllerExpandVolume_acts (hs : Versioned s) :
    Acts cs known (.controllerExpandVolume ticks req) (cs.controllerExpandVolume ticks req) s := by
  unfold controllerExpandVolume validateCtrlExpandReq
  split
  · trivial
  · rw [ok_bind]
    split
    · trivial
    · refine acts_read trivial fun r t hmove hcover hread => ?_
      cases r with
      | error e => trivial
      | ok pvc =>
        dsimp only
        split
        · trivial
        · refine Guarantees.seq (acts_of_keeps ?_ t) fun _ u hmove' => ?_
          · exact (validateOnlineExpansion_uses _).mono ExpandRead.keeps
          split
          · trivial
          · rename_i size hsize
            split
            · trivial
            · rename_i hle
              exact resize_acts (hmove.versioned hs) (hread.getPVC.2 pvc rfl) hsize
                (Int64.not_lt.mp hle) hmove'

-- ---------------------------------------------------------------------------
-- Snapshots
-- ---------------------------------------------------------------------------

theorem convertVolumeSnapshotToCSI_pure (hostSnap : VolumeSnapshot) (vol : String) :
    (cs.convertVolumeSnapshotToCSI hostSnap vol).Uses P := by
  unfold convertVolumeSnapshotToCSI
  repeat' split
  all_goals trivial

theorem convertVolumeRemoteBackupToCSI_pure (vrb : VolumeRemoteBackup) (vol : String) :
    (cs.convertVolumeRemoteBackupToCSI vrb vol).Uses P := by
  unfold convertVolumeRemoteBackupToCSI
  repeat' split
  all_goals trivial

theorem prepareSnapshotResponse_keeps (hostSnap vol : String) :
    (cs.prepareSnapshotResponse hostSnap vol).Uses Op.Keeps := by
  refine Uses.bind (Uses.request trivial fun r => ?_) fun ready => ?_
  · cases r with
    | error e => trivial
    | ok snap =>
      dsimp only
      repeat' split
      all_goals trivial
  · split
    · refine Uses.request trivial fun r => ?_
      cases r with
      | error e => trivial
      | ok snap =>
        exact (validateHostSnapLabels_pure cs snap).bind fun _ =>
          convertVolumeSnapshotToCSI_pure snap vol
    · trivial

theorem prepareBackupSnapResponse_keeps (name sourceVolumeID : String) :
    (cs.prepareBackupSnapResponse name sourceVolumeID).Uses Op.Keeps := by
  refine Uses.bind (Uses.request trivial fun r => ?_) fun ready => ?_
  · cases r <;> trivial
  · split
    · refine Uses.request trivial fun r => ?_
      cases r with
      | error e => trivial
      | ok vrb => exact convertVolumeRemoteBackupToCSI_pure vrb sourceVolumeID
    · trivial

theorem handleBackupSnap_acts (hbackup : isBackupSnapshot req = true) :
    Acts cs known (.createSnapshot req) (cs.handleBackupSnap req.name req.sourceVolumeId) s := by
  refine Guarantees.orElse (acts_read trivial fun r t _ _ _ => ?_) fun e t _ => ?_
  · cases r with
    | error e => trivial
    | ok vrb => exact acts_of_keeps (prepareBackupSnapResponse_keeps _ _) t
  · split
    · refine Guarantees.seq (acts_write (fun u _ => ?_) fun r u _ _ => ?_) fun vrb u _ => ?_
      · dsimp only [Cluster.serve]
        split
        · exact .keep
        · rename_i hnew
          exact .createBackup hbackup hnew
      · cases r <;> trivial
      · exact acts_of_keeps (prepareBackupSnapResponse_keeps _ _) u
    · trivial

theorem getHostSnapClass_keeps (hostPVC : PVC) : (cs.getHostSnapClass hostPVC).Uses Op.Keeps := by
  refine Uses.request trivial fun r => ?_
  cases r with
  | error e => trivial
  | ok csiConfig =>
    dsimp only [getHostSnapClass.unmarshalFailed]
    repeat' split
    all_goals trivial

theorem generateHostSnap_acts (hlocal : isBackupSnapshot req = false)
    (hname : hostPVC.name = req.sourceVolumeId) :
    Acts cs known (.createSnapshot req) (cs.generateHostSnap req.name hostPVC) s := by
  refine (acts_of_keeps (getHostSnapClass_keeps hostPVC) s).seq fun hostSnapClass t _ => ?_
  unfold generateHostSnapManifest
  split
  · trivial
  · refine acts_write (fun u _ => ?_) fun r u _ _ => ?_
    · dsimp only [Cluster.serve]
      split
      · exact .keep
      · rename_i hnew
        exact .createSnapshot hlocal rfl (congrArg some hname) ⟨rfl, rfl⟩ hnew
    · cases r <;> trivial

theorem handleLocalSnap_acts (hlocal : isBackupSnapshot req = false) :
    Acts cs known (.createSnapshot req) (cs.handleLocalSnap req.name req.sourceVolumeId) s := by
  refine Guarantees.orElse (acts_read trivial fun r t _ _ _ => ?_) fun e t _ => ?_
  · cases r with
    | error e => trivial
    | ok snap =>
      refine (acts_of_keeps (validateHostSnapLabels_pure cs snap) t).seq fun _ t _ => ?_
      exact acts_of_keeps (prepareSnapshotResponse_keeps _ _) t
  · split
    · refine acts_read trivial fun r u _ _ hread => ?_
      cases r with
      | error e => trivial
      | ok hostPVC =>
        have hname : hostPVC.name = req.sourceVolumeId :=
          congrArg Prod.snd (Store.get_key (hread.getPVC.2 hostPVC rfl))
        refine (generateHostSnap_acts hlocal hname).seq fun snap u _ => ?_
        exact acts_of_keeps (prepareSnapshotResponse_keeps _ _) u
    · trivial

theorem createSnapshot_acts : Acts cs known (.createSnapshot req) (cs.createSnapshot req) s := by
  have hvalid : (validateCreateSnapshotRequest req).Uses Op.Keeps := by
    unfold validateCreateSnapshotRequest
    repeat' split
    all_goals trivial
  refine (acts_of_keeps hvalid s).seq fun _ t _ => ?_
  split
  · rename_i hbackup
    exact handleBackupSnap_acts hbackup
  · rename_i hlocal
    exact handleLocalSnap_acts (by simpa using hlocal)

theorem deleteSnapshot_acts :
    Acts cs known (.deleteSnapshot snapshotId) (cs.deleteSnapshot snapshotId) s := by
  unfold deleteSnapshot
  split
  · trivial
  · split
    · rename_i ns name hid
      refine acts_write (fun u _ => ?_) fun r u _ _ => ?_
      · dsimp only [Cluster.serve]
        split
        · exact .keep
        · rename_i vrb hfound
          exact .deleteBackup hid hfound
      · cases r with
        | ok => trivial
        | error e =>
          dsimp only
          split <;> trivial
    · rename_i ns name hid
      refine acts_write (fun u _ => ?_) fun r u _ _ => ?_
      · dsimp only [Cluster.serve]
        split
        · exact .keep
        · rename_i snap hfound
          exact .deleteSnapshot hid hfound
      · cases r with
        | ok => trivial
        | error e =>
          dsimp only
          split <;> trivial

end ControllerServer

theorem ListOp.keeps (op : Op) (hop : ListOp op) : op.Keeps := by
  cases op <;> first | exact hop.elim | trivial

namespace ControllerServer
variable {cs : ControllerServer} {known : Reads} {s : Cluster}

theorem listSnapshots_keeps (req : ListSnapshotsRequest) :
    (cs.listSnapshots req).Uses Op.Keeps := by
  have hvalid : (validateListSnapshotsRequest req).Uses Op.Keeps := by
    unfold validateListSnapshotsRequest
    split <;> trivial
  refine hvalid.bind fun opts => Uses.bind (Uses.request trivial fun r => ?_) fun localSnaps => ?_
  · cases r with
    | error e => trivial
    | ok answer =>
      exact ((processHostSnapshots_uses cs answer.1 req).mono ListOp.keeps).bind fun _ => trivial
  · exact (((listBackupSnaps_uses cs req).mono ListOp.keeps).orElse fun _ => uses_ok).bind
      fun _ => trivial

theorem validateVolumeCapabilitiesRPC_keeps (req : ValidateVolumeCapabilitiesRequest) :
    (cs.validateVolumeCapabilitiesRPC req).Uses Op.Keeps := by
  refine Uses.request trivial fun r => ?_
  cases r with
  | error e =>
    dsimp only
    split <;> trivial
  | ok pvc =>
    exact ((validateVolumeCapabilities_pure req.volumeCapabilities).mono fun _ => False.elim).bind
      fun _ => trivial

end ControllerServer

-- ---------------------------------------------------------------------------
-- Reconciles
-- ---------------------------------------------------------------------------

section
variable {cs : ControllerServer} {known : Reads} {order : MapOrder} {node : Node} {s : Cluster}

theorem removeAllHotplugVolumesBySubresource_acts (hdecl : cs.useDeclarativeHotplug = false)
    (hready : node.ready = false) (hout : node.outOfService = true) (hname : vm.name = node.name)
    {names : List String} (hplugged : ∀ v ∈ names, known.plugged node.name v) :
    Acts cs known (.onNodesChange order (some node))
      (cs.nodeController.removeAllHotplugVolumesBySubresource vm names) s := by
  induction names generalizing s with
  | nil => trivial
  | cons name names ih =>
    obtain ⟨hfirst, hrest⟩ := List.forall_mem_cons.mp hplugged
    refine acts_write (fun u _ => ?_) fun r u _ _ => ?_
    · rw [hname]
      rcases serve_removeVolumeVM_cases cs.ns node.name name u with hkeep | ⟨vm, hfound, hin, hset⟩
      · exact hkeep.symm ▸ .keep
      · exact hset.symm ▸ .stripOne hdecl hready hout hfirst hfound hin
    · cases r with
      | error e => trivial
      | ok => exact ih hrest

theorem removeAllHotplugVolumesInOrder_acts (hs : Versioned s) (hready : node.ready = false)
    (hout : node.outOfService = true) (hname : vm.name = node.name) :
    Acts cs known (.onNodesChange order (some node))
      (cs.nodeController.removeAllHotplugVolumesInOrder order.visit vm) s := by
  refine acts_read trivial fun r t hmove hcover hread => ?_
  cases r with
  | error e => trivial
  | ok latestVM =>
    have hfound := hread.getVM.2 latestVM rfl
    rw [hname] at hfound
    have hlatest : latestVM.name = node.name := congrArg Prod.snd (Store.get_key hfound)
    dsimp only
    split
    · trivial
    · split
      · rename_i hdecl
        refine acts_write (fun u hmove' => ?_) fun r u _ _ => ?_
        · rw [hlatest]
          rcases serve_removePatch_read (hmove.versioned hs) hfound hmove' latestVM.isHotplugName
            with hkeep | ⟨hfound', hset⟩
          · exact hkeep.symm ▸ .keep
          · exact hset.symm ▸ .strip hdecl hready hout hfound'
        · cases r <;> trivial
      · rename_i hdecl
        refine removeAllHotplugVolumesBySubresource_acts (Bool.not_eq_true _ ▸ hdecl) hready hout
          hlatest fun v hv => ?_
        exact hcover.plugged node.name latestVM v hfound
          (mem_hotplugNames.mp ((order.perm _).mem_iff.mp hv))

theorem serve_updateNode_effect {call : DriverCall} {new : Node}
    (heffect : ∀ cur, s.nodes.get new.name = some cur → cur.resourceVersion = new.resourceVersion →
      Effect cs known call s (s.setNode new)) :
    Effect cs known call s (Cluster.serve (.updateNode new) s).2 := by
  dsimp only [Cluster.serve]
  split
  · exact .keep
  · rename_i cur hfound
    split
    · exact .keep
    · rename_i hversion
      split
      · exact heffect cur hfound (not_not.mp hversion)
      · exact .keep

theorem handleNodeAndVMHealthInOrder_acts (hs : Versioned s) (hname : vm.name = node.name)
    (hready : node.ready = nodeHealthy) (vmHealthy : Bool) :
    Acts cs known (.onNodesChange order (some node))
      (cs.nodeController.handleNodeAndVMHealthInOrder order node vm nodeHealthy vmHealthy) s := by
  cases hout : node.outOfService with
  | true =>
    cases nodeHealthy <;> cases vmHealthy <;>
      simp only [Controller.handleNodeAndVMHealthInOrder, hout]
    case false.false =>
      refine Guarantees.seq (Guarantees.orElse ?_ fun _ _ _ => trivial) fun _ _ _ => trivial
      exact removeAllHotplugVolumesInOrder_acts hs hready hout hname
    case true.true =>
      refine acts_write (fun u _ => serve_updateNode_effect fun cur => .removeTaint hready hout)
        fun r u _ _ => ?_
      cases r <;> trivial
    all_goals trivial
  | false =>
    cases nodeHealthy <;> cases vmHealthy <;>
      simp only [Controller.handleNodeAndVMHealthInOrder, hout]
    case false.false =>
      refine acts_write (fun u _ => serve_updateNode_effect fun cur => .addTaint hready hout)
        fun r u _ _ => ?_
      cases r <;> trivial
    all_goals trivial

theorem onNodesChangeInOrder_acts (hs : Versioned s) (node : Option Node) :
    Acts cs known (.onNodesChange order node)
      (cs.nodeController.onNodesChangeInOrder order node) s := by
  unfold Controller.onNodesChangeInOrder
  split
  · trivial
  · rename_i node
    split
    · trivial
    · unfold Controller.getNodeAndVMHealth
      split
      · trivial
      · rename_i cond hcond
        have hready : node.ready = decide (cond.status = .true) := by
          rw [Node.ready, hcond]
        rw [bind_assoc]
        refine acts_read trivial fun r t hmove hcover hread => ?_
        cases r with
        | error e => trivial
        | ok vm =>
          have hname : vm.name = node.name :=
            congrArg Prod.snd (Store.get_key (hread.getVM.2 vm rfl))
          dsimp only
          split
          · trivial
          · exact handleNodeAndVMHealthInOrder_acts (hmove.versioned hs) hname hready _

end

theorem DriverCall.acts (cs : ControllerServer) (call : DriverCall) (hs : Versioned s) :
    Acts cs known call (call.prog cs) s := by
  cases call with
  | createVolume ticks req => exact acts_unanswered ControllerServer.createVolume_acts
  | deleteVolume volumeId => exact ControllerServer.deleteVolume_acts
  | validateVolumeCapabilities req =>
    exact acts_unanswered
      (acts_of_keeps (ControllerServer.validateVolumeCapabilitiesRPC_keeps req) s)
  | controllerPublishVolume settleTicks attachTicks req =>
    exact ControllerServer.controllerPublishVolume_acts hs
  | controllerUnpublishVolume req => exact ControllerServer.controllerUnpublishVolume_acts hs
  | controllerExpandVolume ticks req =>
    exact acts_unanswered (ControllerServer.controllerExpandVolume_acts hs)
  | createSnapshot req => exact acts_unanswered ControllerServer.createSnapshot_acts
  | deleteSnapshot snapshotId => exact ControllerServer.deleteSnapshot_acts
  | listSnapshots req =>
    exact acts_unanswered (acts_of_keeps (ControllerServer.listSnapshots_keeps req) s)
  | onNodesChange order node => exact acts_unanswered (onNodesChangeInOrder_acts hs node)

def driverCalls (cs : ControllerServer) (calls : ι → DriverCall) (s₀ : Cluster) : CallPool ι where
  state := s₀
  procs i := (calls i).prog cs

theorem DriverCall.acts_any (cs : ControllerServer) (hs : Versioned s) (call : DriverCall) :
    Guarantees versions Wavers (Effect cs .any call) (call.prog cs) s :=
  (call.acts cs hs).of_api fun _ _ _ _ h => ⟨Reads.any_cover cs _, h⟩

theorem driver_guarantees (cs : ControllerServer) (calls : ι → DriverCall) (hs : Versioned s₀)
    (i : ι) :
    Guarantees versions Wavers (Effect cs .any (calls i)) ((driverCalls cs calls s₀).procs i)
      (driverCalls cs calls s₀).state :=
  (calls i).acts_any cs hs

theorem Versioned.empty : Versioned Cluster.empty where
  vm _ _ := by rintro _ ⟨⟩
  pvc _ _ := by rintro _ ⟨⟩
  networkFS _ _ := by rintro _ ⟨⟩
  positive _ _ := by rintro ⟨⟩

theorem VersionMoves.setVM (s : Cluster) (vm : VirtualMachine) : VersionMoves s (s.setVM vm) :=
  ⟨fun _ _ => Cluster.setVM_moves s vm, fun _ _ => ⟨Nat.le_succ _, .inl rfl⟩,
    fun _ _ => ⟨Nat.le_succ _, .inl rfl⟩⟩

theorem VersionMoves.setPVC (s : Cluster) (pvc : PVC) : VersionMoves s (s.setPVC pvc) :=
  ⟨fun _ _ => ⟨Nat.le_succ _, .inl rfl⟩, fun _ _ => Cluster.setPVC_moves s pvc,
    fun _ _ => ⟨Nat.le_succ _, .inl rfl⟩⟩

/-- A machine that boots from a volume of its own and has the volume `w` plugged in, and
the claims of `v` and `w`. -/
def pluggedCluster : Cluster :=
  ((Cluster.empty.setVM {
      ns := "ns"
      name := "n"
      volumes := some [⟨"root", .other "containerDisk"⟩, hotplugVolume "w"]
      disks := some [⟨"root", .disk "virtio"⟩, hotplugDisk "w"] }).setPVC
    { ns := "ns", name := "v", volumeMode := some .filesystem, volumeName := "pvc-1",
      phase := .bound }).setPVC
    { ns := "ns", name := "w", volumeMode := some .block, volumeName := "pvc-2", phase := .bound }

theorem pluggedCluster_versioned : Versioned pluggedCluster :=
  (VersionMoves.setPVC _ _).versioned ((VersionMoves.setPVC _ _).versioned
    ((VersionMoves.setVM _ _).versioned .empty))

def plugAndUnplug (i : Bool) : DriverCall :=
  if i then .controllerUnpublishVolume ⟨"w", "n"⟩
  else .controllerPublishVolume 0 0 ⟨"v", "n", some singleWriter⟩

/-- Both have read the machine before either patches it. -/
def plugBeforeUnplug : CallPool Bool :=
  (driverCalls exampleServer plugAndUnplug pluggedCluster).turns Cluster.serve
    [true, true, true, true, false, false, false, false, false, false, true]

theorem plugBeforeUnplug_reach {env : Cluster → Cluster → Prop} :
    Reach env Wavers anyStep (driverCalls exampleServer plugAndUnplug pluggedCluster)
      plugBeforeUnplug :=
  Reach.start.turns (fun _ _ => .inl rfl) _

def DriverCall.machine : DriverCall → Option String
  | .controllerPublishVolume _ _ req => some req.nodeId
  | .controllerUnpublishVolume req => some req.nodeId
  | .onNodesChange _ node => node.map Node.name
  | _ => none

def DriverCall.snapRef (cs : ControllerServer) : DriverCall → Option SnapRef
  | .createSnapshot req => some (req.ref cs)
  | .deleteSnapshot snapshotId => some (.ofId cs snapshotId)
  | _ => none

def DriverCall.reconciled : DriverCall → Option String
  | .onNodesChange _ node => node.map Node.name
  | _ => none

/-- A step of a call leaves alone all that its request does not name. An export goes by
the volume of the claim that it names. -/
structure Confined (cs : ControllerServer) (known : Reads) (call : DriverCall) (s t : Cluster) :
    Prop where
  pvcs : s.pvcs.SameBut (fun key => key.1 = cs.ns ∧ call.claim = some key.2) t.pvcs
  restores : s.restores.SameBut (fun key => key.1 = cs.ns ∧ call.claim = some key.2) t.restores
  vms : s.vms.SameBut (fun key => key.1 = cs.ns ∧ call.machine = some key.2) t.vms
  snapshots : s.snapshots.SameBut (fun key => call.snapRef cs = some (.snapshot key.1 key.2))
    t.snapshots
  backups : s.backups.SameBut (fun key => call.snapRef cs = some (.backup key.1 key.2)) t.backups
  networkFSs : s.networkFSs.SameBut (fun key => key.1 = harvesterNS ∧
    ∃ name, call.claim = some name ∧ known.volumes name key.2) t.networkFSs
  nodes : s.nodes.SameBut (fun name => call.reconciled = some name) t.nodes
  hostUnchanged : t.storageClasses = s.storageClasses ∧ t.settings = s.settings ∧
    t.hostPods = s.hostPods ∧ t.vmis = s.vmis ∧ t.hostVAs = s.hostVAs
  guestUnchanged : t.guestVAs = s.guestVAs ∧ t.guestPVs = s.guestPVs ∧ t.guestPods = s.guestPods

section
variable {cs : ControllerServer} {known : Reads} {call : DriverCall} {s t : Cluster}

theorem Confined.refl (known : Reads) : Confined cs known call s s := by
  constructor <;> first | exact Store.SameBut.refl _ | simp

theorem Confined.setVM (hfound : s.vms.get (cs.ns, node) = some vm)
    (hmachine : call.machine = some node) {new : VirtualMachine}
    (hkey : (new.ns, new.name) = (vm.ns, vm.name)) : Confined cs known call s (s.setVM new) := by
  obtain ⟨hns, hname⟩ : new.ns = cs.ns ∧ new.name = node := by
    simpa using hkey.trans (Store.get_key hfound :)
  exact { Confined.refl known with vms := .put _ ⟨hns, hmachine.trans (congrArg some hname.symm)⟩ }

theorem Confined.setNetworkFS (hfound : s.networkFSs.get (harvesterNS, volume) = some fs)
    (hclaim : call.claim = some name) (hvolume : known.volumes name volume)
    {new : NetworkFilesystem} (hkey : (new.ns, new.name) = (fs.ns, fs.name)) :
    Confined cs known call s (s.setNetworkFS new) := by
  obtain ⟨hns, hname⟩ : new.ns = harvesterNS ∧ new.name = volume := by
    simpa using hkey.trans (Store.get_key hfound :)
  exact { Confined.refl known with networkFSs := .put _ ⟨hns, name, hclaim, hname ▸ hvolume⟩ }

theorem Effect.confined (h : Effect cs known call s t) : Confined cs known call s t := by
  cases h with
  | keep => exact .refl known
  | createClaim hbuilds =>
    obtain ⟨hns, hname⟩ := Prod.mk.inj hbuilds.key
    exact { Confined.refl known with pvcs := .put _ ⟨hns, congrArg some hname.symm⟩ }
  | createRestore hkey =>
    obtain ⟨hns, hname⟩ := Prod.mk.inj hkey
    exact { Confined.refl known with restores := .put _ ⟨hns, congrArg some hname.symm⟩ }
  | createExport _ hclaim hvolume =>
    exact { Confined.refl known with networkFSs := .put _ ⟨rfl, _, hclaim, hvolume⟩ }
  | deleteRestore => exact { Confined.refl known with restores := .erase _ ⟨rfl, rfl⟩ }
  | deleteExport hvolume =>
    exact { Confined.refl known with networkFSs := .erase _ ⟨rfl, _, rfl, hvolume⟩ }
  | deleteClaim => exact { Confined.refl known with pvcs := .erase _ ⟨rfl, rfl⟩ }
  | enableExport hvolume hfound | disableExport hvolume hfound =>
    exact .setNetworkFS hfound rfl hvolume rfl
  | plug _ hfound | plugLegacy _ hfound | unplug _ hfound | unplugLegacy _ hfound
  | strip _ _ _ hfound | stripOne _ _ _ _ hfound => exact .setVM hfound rfl rfl
  | grow hfound =>
    have hkey := Store.get_key hfound
    obtain ⟨hns, hname⟩ := Prod.mk.inj hkey
    exact { Confined.refl known with pvcs := .put _ ⟨hns, congrArg some hname.symm⟩ }
  | createSnapshot hlocal hkey =>
    obtain ⟨hns, hname⟩ := Prod.mk.inj hkey
    refine { Confined.refl known with snapshots := .put _ (congrArg some ?_) }
    rw [CreateSnapshotRequest.ref, hlocal, if_neg Bool.false_ne_true]
    exact congrArg₂ SnapRef.snapshot hns.symm hname.symm
  | createBackup hbackup =>
    exact { Confined.refl known with backups := .put _ (congrArg some (if_pos hbackup)) }
  | deleteSnapshot hid hfound =>
    refine { Confined.refl known with
      snapshots := fun key hother => Cluster.get_removeSnapshot hfound ?_ }
    rintro rfl
    exact hother (by rw [DriverCall.snapRef, SnapRef.ofId, hid])
  | deleteBackup hid =>
    refine { Confined.refl known with backups := .erase _ ?_ }
    rw [DriverCall.snapRef, SnapRef.ofId, hid]
  | removeTaint | addTaint => exact { Confined.refl known with nodes := .put _ rfl }

end

end HarvesterCSI
