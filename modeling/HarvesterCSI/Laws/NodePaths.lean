import HarvesterCSI.Driver
import HarvesterCSI.Laws.Mounts
import HarvesterCSI.Calls.Rely

/-!
# What a call may do to a node

Each call of the node service is about one path. Whatever the system answers, and be it
wrong, the call writes nothing to the host, mounts and unmounts at its path only, and
makes and removes that path only, apart from missing directories that the path lies in.
-/

namespace HarvesterCSI

open Calls Calls.Prog

def NodeCall.path : NodeCall → String
  | .nodeStageVolume req => req.stagingTargetPath
  | .nodeUnstageVolume req => req.stagingTargetPath
  | .nodePublishVolume req => req.targetPath
  | .nodeUnpublishVolume _ req => req.targetPath
  | .nodeExpandVolume req => req.volumePath

def LiesIn (path dir : String) : Prop := dir = filepathDir path ∨ below dir path

/-- The directories that a call may make beside its path. -/
def NodeCall.Parent (dir : String) : NodeCall → Prop
  | .nodePublishVolume req => LiesIn req.targetPath dir
  | .nodeExpandVolume req => LiesIn req.volumePath dir
  | _ => False

def HostCommand.path : HostCommand → String
  | .mount _ _ _ target => target
  | .mountpoint path => path
  | .umount path => path

def Op.Reads : Op → Prop
  | .getPVC .. | .getNetworkFS .. | .getVMI .. | .getSetting _ => True
  | _ => False

def NodeOp.Within (path : String) (parent : String → Prop) : NodeOp → Prop
  | .host op => op.Reads
  | .mkdirAll p => (p = path ∨ parent p) ∧ ∀ dir ∈ ancestors p, parent dir
  | .makeFile p | .remove p | .unmount p => p = path
  | .mount m | .formatAndMount m => m.target = path
  | .execute cmd => cmd.path = path
  | _ => True

/-- The host, the disks, and all paths and mounts but those of one path stay as they are;
directories may be added. -/
structure KeepsOtherPaths (path : String) (parent : String → Prop) (s t : Cluster × Guest) :
    Prop where
  host : t.1 = s.1
  links : t.2.links = s.2.links
  tools : t.2.tools = s.2.tools
  mounts : t.2.mounts.filter (·.target ≠ path) = s.2.mounts.filter (·.target ≠ path)
  files : ∀ p, p ≠ path → (p ∈ t.2.files ↔ p ∈ s.2.files)
  dirs : ∀ p, p ≠ path → (p ∈ t.2.dirs ↔ p ∈ s.2.dirs ∨ parent p ∧ p ∈ t.2.dirs)

/-- The system answers anything; the call has its effect or none. -/
def Falters (op : NodeOp) (s : Cluster × Guest) (_ : op.Res) (t : Cluster × Guest) : Prop :=
  t = s ∨ t = (Guest.serve op s).2

-- ---------------------------------------------------------------------------
-- One request
-- ---------------------------------------------------------------------------

section
variable {path : String} {parent : String → Prop} {s t : Cluster × Guest}

theorem KeepsOtherPaths.refl (s : Cluster × Guest) : KeepsOtherPaths path parent s s :=
  ⟨rfl, rfl, rfl, rfl, fun _ _ => Iff.rfl, fun _ _ => ⟨.inl, fun h => h.elim id And.right⟩⟩

theorem KeepsOtherPaths.remounted {c : Cluster} {g : Guest} {mounts : List Mount}
    (h : mounts.filter (·.target ≠ path) = g.mounts.filter (·.target ≠ path)) :
    KeepsOtherPaths path parent (c, g) (c, { g with mounts := mounts }) :=
  { KeepsOtherPaths.refl (c, g) with mounts := h }

theorem filter_mount {m : Mount} (h : m.target = path) (mounts : List Mount) :
    (m :: mounts).filter (·.target ≠ path) = mounts.filter (·.target ≠ path) :=
  List.filter_cons_of_neg (by simp [h])

theorem filter_unmount (mounts : List Mount) :
    (mounts.eraseP (·.target = path)).filter (·.target ≠ path) =
      mounts.filter (·.target ≠ path) := by
  induction mounts with
  | nil => rfl
  | cons m rest ih =>
    by_cases h : m.target = path
    · rw [List.eraseP_cons_of_pos (by simpa using h), filter_mount h]
    · rw [List.eraseP_cons_of_neg (by simpa using h), List.filter_cons_of_pos (by simpa using h),
        List.filter_cons_of_pos (by simpa using h), ih]

theorem Guest.execute_within (c : Cluster) (g : Guest) {cmd : HostCommand} (h : cmd.path = path) :
    KeepsOtherPaths path parent (c, g) (c, (g.execute cmd).2) := by
  cases cmd with
  | mount fsType options source target =>
    simp only [Guest.execute]
    split
    · exact .refl _
    · split
      · exact .refl _
      · exact .remounted (filter_mount h _)
  | mountpoint =>
    simp only [Guest.execute]
    split
    · exact .refl _
    · split <;> exact .refl _
  | umount p =>
    obtain rfl : p = path := h
    simp only [Guest.execute]
    split
    · exact .refl _
    · split
      · exact .remounted (filter_unmount _)
      · exact .refl _

theorem Guest.attach_within (c : Cluster) (g : Guest) {m : Mount} (h : m.target = path) :
    KeepsOtherPaths path parent (c, g) (c, (g.attach m).2) := by
  unfold Guest.attach
  split
  · exact .refl _
  · split
    · exact .refl _
    · exact .remounted (filter_mount h _)

theorem NodeOp.Within.serve {op : NodeOp} (hop : op.Within path parent) (s : Cluster × Guest) :
    KeepsOtherPaths path parent s (Guest.serve op s).2 := by
  obtain ⟨c, g⟩ := s
  have hrefl : KeepsOtherPaths path parent (c, g) (c, g) := .refl _
  cases op with
  | host op => cases op <;> first | exact hrefl | exact hop.elim
  | mkdirAll p =>
    refine { hrefl with dirs := fun q hq => ⟨fun hmade => ?_, fun hdir => ?_⟩ }
    · rcases List.mem_union_iff.mp hmade with hnew | hold
      · rcases List.mem_cons.mp hnew with rfl | hparent
        · exact .inr ⟨hop.1.resolve_left hq, hmade⟩
        · exact .inr ⟨hop.2 q hparent, hmade⟩
      · exact .inl hold
    · exact hdir.elim (fun hold => List.mem_union_iff.mpr (.inr hold)) And.right
  | makeFile p =>
    obtain rfl : p = path := hop
    simp only [Guest.serve]
    split
    · exact .refl _
    · split
      · exact .refl _
      · exact { hrefl with files := fun q hq => by simp [hq] }
  | remove p =>
    obtain rfl : p = path := hop
    simp only [Guest.serve]
    split
    · exact .refl _
    · split
      · exact .refl _
      · split
        · exact .refl _
        · exact { hrefl with
            files := fun q hq => by simp [hq]
            dirs := fun q hq => by simp [hq] }
  | mount m => exact Guest.attach_within c g hop
  | formatAndMount m => exact Guest.attach_within c g hop
  | unmount p =>
    obtain rfl : p = path := hop
    simp only [Guest.serve]
    split
    · exact .refl _
    · split
      · exact .remounted (filter_unmount _)
      · split
        · exact .refl _
        · split <;> exact .refl _
  | execute cmd => exact Guest.execute_within c g hop
  | _ => exact .refl _

theorem Falters.within {op : NodeOp} {r : op.Res} (h : Falters op s r t)
    (hop : op.Within path parent) :
    KeepsOtherPaths path parent s t := by
  rcases h with rfl | rfl
  · exact .refl _
  · exact hop.serve s

end

-- ---------------------------------------------------------------------------
-- Every call
-- ---------------------------------------------------------------------------

/-- The path is made, or the directory it lies in, with all that this lies in. -/
theorem within_mkdirAll {path p : String} (hparent : ∀ dir, LiesIn path dir → parent dir)
    (hp : p = path ∨ p = filepathDir path) : NodeOp.Within path parent (.mkdirAll p) := by
  rcases hp with rfl | rfl
  · exact ⟨.inl rfl, fun dir hdir => hparent dir (.inr (mem_ancestors hdir))⟩
  · exact ⟨.inr (hparent _ (.inl rfl)),
      fun dir hdir => hparent dir (.inr (below_of_filepathDir (mem_ancestors hdir)))⟩

namespace NodeServer
variable (ns : NodeServer) {parent : String → Prop}

theorem nodeStageVolume_within (req : NodeStageRequest) :
    (ns.nodeStageVolume req).Uses (NodeOp.Within req.stagingTargetPath parent) := by
  have hmount (mountOpts nfsExport : String) :
      (nodeStageRWXVolume.mountExport req mountOpts nfsExport).Uses
      (NodeOp.Within req.stagingTargetPath parent) := by
    refine Uses.request trivial fun r => ?_
    cases r with
    | error e => exact uses_error
    | ok _ =>
      refine Uses.request rfl fun r => ?_
      cases r <;> trivial
  unfold nodeStageVolume nodeStageRWXVolume
  split
  · exact uses_error
  · split
    · split
      · exact uses_error
      · split
        · exact uses_error
        · refine Uses.request trivial fun r => ?_
          cases r with
          | error e => exact uses_error
          | ok pvc =>
            refine Uses.request trivial fun r => ?_
            cases r with
            | error e => exact uses_error
            | ok networkfs =>
              dsimp only
              split
              · exact uses_error
              · exact hmount _ _
    · exact uses_ok

theorem nodeUnstageVolume_within (req : NodeUnstageRequest) :
    (ns.nodeUnstageVolume req).Uses (NodeOp.Within req.stagingTargetPath parent) := by
  unfold nodeUnstageVolume
  split
  · exact uses_error
  · refine Uses.request trivial fun r => ?_
    cases r with
    | error e => exact uses_error
    | ok _ =>
      refine Uses.request rfl fun r => ?_
      cases r with
      | error e =>
        dsimp only
        split
        · exact uses_ok
        · exact uses_error
      | ok out =>
        dsimp only
        split
        · exact uses_ok
        · refine Uses.request rfl fun r => ?_
          cases r <;> trivial

theorem nodePublishBlockVolume_within (devicePath targetPath : String)
    (hparent : ∀ dir, LiesIn targetPath dir → parent dir) :
    (ns.nodePublishBlockVolume devicePath targetPath).Uses (NodeOp.Within targetPath parent) := by
  have hbind : (nodePublishBlockVolume.bindDevice devicePath targetPath).Uses
      (NodeOp.Within targetPath parent) := by
    refine Uses.request rfl fun r => ?_
    cases r with
    | error e => exact uses_error
    | ok _ =>
      refine Uses.request rfl fun r => ?_
      cases r with
      | ok _ => exact uses_ok
      | error e =>
        refine Uses.request rfl fun r => ?_
        cases r <;> trivial
  refine Uses.request trivial fun r => ?_
  rcases r with e | (_ | _)
  · exact uses_error
  · refine Uses.request (within_mkdirAll hparent (.inr rfl)) fun r => ?_
    cases r with
    | error e => exact uses_error
    | ok _ => exact hbind
  · exact hbind

theorem nodePublishMountVolume_within (volumeName devicePath targetPath fsType : String)
    (mountFlags : List String) (hparent : ∀ dir, LiesIn targetPath dir → parent dir) :
    (ns.nodePublishMountVolume volumeName devicePath targetPath fsType mountFlags).Uses
      (NodeOp.Within targetPath parent) := by
  have hattach : (isLikelyNotMountPointAttach targetPath).Uses (NodeOp.Within targetPath parent) :=
    isLikelyNotMountPointAttach_uses trivial (within_mkdirAll hparent (.inl rfl))
  refine (hattach.orElse fun _ => uses_error).bind fun notMnt => ?_
  split
  · exact uses_ok
  · refine Uses.request rfl fun r => ?_
    cases r with
    | error e => exact uses_error
    | ok _ => exact (resizeFilesystem_uses (fun _ => trivial) fsType).orElse fun _ => uses_error

theorem nodePublishRWXVolume_within (req : NodePublishRequest) (targetPath : String)
    (hparent : ∀ dir, LiesIn targetPath dir → parent dir) :
    (ns.nodePublishRWXVolume req targetPath).Uses (NodeOp.Within targetPath parent) := by
  have hbind : (nodePublishRWXVolume.bindStaging req targetPath).Uses
    (NodeOp.Within targetPath parent) := by
    refine Uses.request rfl fun r => ?_
    cases r <;> trivial
  unfold nodePublishRWXVolume
  split
  · exact uses_error
  · refine Uses.request trivial fun r => ?_
    rcases r with e | (_ | _)
    · dsimp only
      split
      · refine Uses.request (within_mkdirAll hparent (.inl rfl)) fun r => ?_
        cases r with
        | error e => exact uses_error
        | ok _ => exact hbind
      · exact hbind
    · exact hbind
    · exact uses_ok

theorem publishDevice_within (volumeId devicePath targetPath : String) (volCaps : NodeCapability)
    (hparent : ∀ dir, LiesIn targetPath dir → parent dir) :
    (ns.publishDevice volumeId devicePath targetPath volCaps).Uses
      (NodeOp.Within targetPath parent) := by
  unfold publishDevice
  split
  · exact ns.nodePublishBlockVolume_within devicePath targetPath hparent
  · split
    · exact ns.nodePublishMountVolume_within _ _ _ _ _ hparent
    · exact uses_error

theorem nodePublishVolume_within (req : NodePublishRequest)
    (hparent : ∀ dir, LiesIn req.targetPath dir → parent dir) :
    (ns.nodePublishVolume req).Uses (NodeOp.Within req.targetPath parent) := by
  unfold nodePublishVolume nodePublishRWOVolume
  split
  · exact uses_error
  · split
    · exact uses_error
    · split
      · exact ns.nodePublishRWXVolume_within req req.targetPath hparent
      · split
        · have hready := readyDevice_uses (P := NodeOp.Within req.targetPath parent) ns trivial
            (fun _ => trivial) (fun _ => trivial) req.volumeId
          exact hready.bind fun devicePath => ns.publishDevice_within _ devicePath _ _ hparent
        · exact uses_error

theorem unmountLayers_within (targetPath : String) (fuel : Nat) :
    (unmountLayers targetPath fuel).Uses (NodeOp.Within targetPath parent) := by
  induction fuel with
  | zero => exact uses_ok
  | succ fuel ih =>
    refine Uses.request rfl fun r => ?_
    cases r with
    | error e =>
      dsimp only
      split
      · exact uses_ok
      · exact uses_error
    | ok _ =>
      refine Uses.request trivial fun r => ?_
      rcases r with e | (_ | _)
      · exact uses_error
      · exact ih
      · exact uses_ok

end NodeServer

theorem removePathIfNotMountPoint_within (mountPath : String) :
    (removePathIfNotMountPoint mountPath).Uses (NodeOp.Within mountPath parent) := by
  refine Uses.request trivial fun r => ?_
  rcases r with e | (_ | _)
  · dsimp only
    split <;> trivial
  · exact uses_ok
  · refine Uses.request rfl fun r => ?_
    cases r <;> trivial

theorem doCleanupMountPoint_within (mountPath : String) (skipsCheck corruptedMnt : Bool) :
    (doCleanupMountPoint mountPath skipsCheck corruptedMnt).Uses
      (NodeOp.Within mountPath parent) := by
  unfold doCleanupMountPoint
  split
  · refine Uses.request rfl fun r => ?_
    cases r with
    | error e => exact uses_error
    | ok _ =>
      refine Uses.request rfl fun r => ?_
      cases r with
      | ok _ => exact uses_ok
      | error e =>
        dsimp only
        split <;> trivial
  · refine (removePathIfNotMountPoint_within mountPath).bind fun r => ?_
    rcases r with ⟨removed, e | e⟩
    · cases removed with
      | true => exact uses_ok
      | false =>
        refine Uses.request rfl fun r => ?_
        cases r with
        | error e => exact uses_error
        | ok _ =>
          refine (removePathIfNotMountPoint_within mountPath).bind fun r => ?_
          rcases r with ⟨_ | _, _ | e⟩ <;> trivial
    · exact uses_error

theorem cleanupMountPoint_within (mountPath : String) (skipsCheck : Bool) :
    (cleanupMountPoint mountPath skipsCheck).Uses (NodeOp.Within mountPath parent) := by
  refine Uses.request trivial fun r => ?_
  rcases r with e | (_ | _)
  · dsimp only
    split
    · exact doCleanupMountPoint_within ..
    · exact uses_error
  · exact uses_ok
  · exact doCleanupMountPoint_within ..

namespace NodeServer
variable (ns : NodeServer) {parent : String → Prop}

theorem nodeUnpublishVolume_within (req : NodeUnpublishRequest) (fuel : Nat) :
    (ns.nodeUnpublishVolume req fuel).Uses (NodeOp.Within req.targetPath parent) := by
  unfold nodeUnpublishVolume
  split
  · exact uses_error
  · split
    · exact uses_error
    · refine Uses.request trivial fun skipsCheck => ?_
      refine (unmountLayers_within req.targetPath fuel).bind fun done => ?_
      split
      · exact ((cleanupMountPoint_within req.targetPath skipsCheck).orElse fun _ =>
          uses_error).bind fun _ => uses_ok
      · exact uses_ok

theorem nodeExpandVolume_within (req : NodeExpandRequest)
    (hparent : ∀ dir, LiesIn req.volumePath dir → parent dir) :
    (ns.nodeExpandVolume req).Uses (NodeOp.Within req.volumePath parent) := by
  have hgrow : (nodeExpandVolume.growVolume req).Uses (NodeOp.Within req.volumePath parent) := by
    have hdevice :
        (getDevicePathByVolumeID req.volumeId).Uses (NodeOp.Within req.volumePath parent) :=
      getDevicePathByVolumeID_uses (fun _ => trivial) (fun _ => trivial) req.volumeId
    have hfsType : (getNodeFsType req).Uses (NodeOp.Within req.volumePath parent) := by
      unfold getNodeFsType
      split
      · exact uses_error
      · split <;> exact uses_ok
    refine (hdevice.orElse fun _ => uses_error).bind fun devicePath => ?_
    refine (hfsType.orElse fun _ => uses_error).bind fun fsType => ?_
    exact ((resizeFilesystem_uses (fun _ => trivial) fsType).orElse fun _ => uses_error).bind
      fun _ => uses_ok
  unfold nodeExpandVolume validateNodeExpandReq
  split
  · exact uses_error
  · rw [ok_bind]
    split
    · exact uses_error
    · refine Uses.request trivial fun r => ?_
      cases r with
      | error e => exact uses_error
      | ok _ =>
        refine Uses.request trivial fun r => ?_
        rcases r with e | (_ | _)
        · exact uses_error
        · exact uses_ok
        · have hattach : (isLikelyNotMountPointAttach req.volumePath).Uses
              (NodeOp.Within req.volumePath parent) :=
            isLikelyNotMountPointAttach_uses trivial (within_mkdirAll hparent (.inl rfl))
          refine (hattach.orElse fun _ => uses_error).bind fun notMnt => ?_
          split
          · exact uses_error
          · exact hgrow

end NodeServer

theorem NodeCall.within (ns : NodeServer) (call : NodeCall) :
    (call.prog ns).Uses (NodeOp.Within call.path call.Parent) := by
  cases call with
  | nodeStageVolume req => exact ns.nodeStageVolume_within req
  | nodeUnstageVolume req => exact ns.nodeUnstageVolume_within req
  | nodePublishVolume req => exact ns.nodePublishVolume_within req fun _ => id
  | nodeUnpublishVolume fuel req =>
    exact (ns.nodeUnpublishVolume_within req fuel).bind fun _ => uses_ok
  | nodeExpandVolume req => exact (ns.nodeExpandVolume_within req fun _ => id).bind fun _ => uses_ok

/-- The requests of a call: those of the controller all go to the host. -/
def SystemCall.Asks (op : NodeOp) : SystemCall → Prop
  | .controller _ => ∃ hostOp, op = .host hostOp
  | .node rpc => op.Within rpc.path rpc.Parent

theorem SystemCall.asks (cs : ControllerServer) (ns : NodeServer) (rpc : SystemCall) :
    (rpc.prog cs ns).Uses (rpc.Asks ·) := by
  cases rpc with
  | controller rpc => exact translate_uses (fun op => ⟨op, rfl⟩) _
  | node rpc => exact rpc.within ns

/-- Calls of the controller and of a node, on a state that has more to it or less. -/
abbrev SystemPool (ι σ : Type) := Pool ι NodeOp.Res Err Unit σ

def systemCalls (cs : ControllerServer) (ns : NodeServer) (calls : ι → SystemCall) (s₀ : σ) :
    SystemPool ι σ where
  state := s₀
  procs i := (calls i).prog cs ns

abbrev NodePool (ι : Type) := Pool ι NodeOp.Res Err Unit (Cluster × Guest)

def nodeCalls (ns : NodeServer) (calls : ι → NodeCall) (s₀ : Cluster × Guest) : NodePool ι where
  state := s₀
  procs i := (calls i).prog ns

/-- In any run of calls on a node, whoever else changes anything there and however the
system answers, a step of a call touches only what is at the call's path, and makes at
most directories that the path lies in. -/
theorem node_confined [DecidableEq ι] (ns : NodeServer) (calls : ι → NodeCall)
    (s₀ : Cluster × Guest) (env : Cluster × Guest → Cluster × Guest → Prop)
    (h : Reach env Falters anyStep (nodeCalls ns calls s₀) c) :
    ∀ e ∈ c.history,
      e.All fun i _ s _ t _ => KeepsOtherPaths (calls i).path (calls i).Parent s t := by
  let anything : Rely (Cluster × Guest) := ⟨fun _ _ => True, fun _ => trivial, fun _ _ => trivial⟩
  have hstart (i : ι) :
      Guarantees anything Falters (KeepsOtherPaths (calls i).path (calls i).Parent)
      ((nodeCalls ns calls s₀).procs i) s₀ :=
    Guarantees.of_uses ((calls i).within ns)
      (fun _ _ _ _ hop hfalters => ⟨trivial, hfalters.within hop⟩) s₀
  intro e he
  have hstep := h.guaranteed (fun _ _ _ => trivial) hstart rfl e he
  cases e with
  | env => trivial
  | call => exact hstep.2

theorem Falters.served (op : NodeOp) (s : Cluster × Guest) :
    Falters op s (Guest.serve op s).1 (Guest.serve op s).2 := .inr rfl

def publishAndUnpublish (i : Bool) : NodeCall :=
  if i then .nodeUnpublishVolume 2 ⟨"old", "/pods/old"⟩ else .nodePublishVolume blockRequest

def busyGuest : Guest :=
  { diskGuest with
    dirs := ["/pods", "/pods/old"], mounts := [{ source := "/dev/sdb", target := "/pods/old" }] }

def publishDuringUnpublish : NodePool Bool :=
  (nodeCalls ⟨"guest", "node"⟩ publishAndUnpublish (diskHost, busyGuest)).turns Guest.serve
    [false, true, false, true, false, true, false, true, false, true, false, true]

theorem node_confined_to_two_paths :
    publishDuringUnpublish.state.2.mounts =
        [{ source := "/dev/sda", target := "/pods/vol", options := ["bind"] }] ∧
      ∀ e ∈ publishDuringUnpublish.history, e.All fun i _ s _ t _ =>
        KeepsOtherPaths (publishAndUnpublish i).path (publishAndUnpublish i).Parent s t :=
  ⟨by decide +kernel, node_confined ⟨"guest", "node"⟩ publishAndUnpublish (diskHost, busyGuest)
    (fun _ _ => False) (Reach.start.turns Falters.served _)⟩

end HarvesterCSI
