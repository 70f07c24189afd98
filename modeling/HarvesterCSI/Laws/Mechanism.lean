import HarvesterCSI.Laws.Attach
import HarvesterCSI.Laws.Create

/-!
# The way in and the way out

Publishing goes by the access mode of the capability, unpublishing by the claim
and its storage class. A volume comes out of a machine the way it went in only
where the two agree.
-/

namespace HarvesterCSI

open Calls Calls.Prog
open Cluster (Serves)

-- ---------------------------------------------------------------------------
-- The volume and its life
-- ---------------------------------------------------------------------------

/-- An accepted request for a volume without a content source and with one
capability, and a node. -/
structure Scratch where
  cs : ControllerServer
  req : CreateVolumeRequest
  cap : VolumeCapability
  node : String
  scratch : req.volumeContentSource = none
  single : req.volumeCapabilities = [cap]
  accepted : cs.Accepts req

namespace Scratch

section
variable (x : Scratch)

def params : StringMap := x.req.parameters.getD []

def storageClass : String := (x.params.lookup paramHostSC).getD x.cs.hostStorageClass

def volumeMode : VolumeMode := ControllerServer.scratchVolumeMode [x.cap] x.params

def create (ticks : Nat) : Api CreateVolumeResponse := x.cs.createVolume ticks x.req

def publish (settleTicks attachTicks : Nat) : Api Unit :=
  x.cs.controllerPublishVolume settleTicks attachTicks ⟨x.req.name, x.node, some x.cap⟩

def unpublish : Api Unit := x.cs.controllerUnpublishVolume ⟨x.req.name, x.node⟩

def InVM (s : Cluster) : Prop :=
  ∃ vm, s.vms.get (x.cs.ns, x.node) = some vm ∧ vm.hasVolume x.req.name = true

def InVMI (s : Cluster) : Prop :=
  ∃ vmi, s.vmis.get (x.cs.ns, x.node) = some vmi ∧ vmi.hasVolume x.req.name = true

def Absent (s : Cluster) : Prop := ¬ x.InVM s ∧ ¬ x.InVMI s

/-- What others do: anything that leaves the spec of the claim, the storage
classes and the template of the machine's volumes as they are. The instance takes
up a volume that its machine has. -/
structure Moves (s t : Cluster) : Prop where
  claim : ∀ pvc, s.pvcs.get (x.cs.ns, x.req.name) = some pvc →
    ∃ pvc', t.pvcs.get (x.cs.ns, x.req.name) = some pvc' ∧ pvc'.volumeMode = pvc.volumeMode ∧
      pvc'.accessModes = pvc.accessModes ∧ pvc'.storageClassName = pvc.storageClassName
  storageClasses : t.storageClasses = s.storageClasses
  vm : x.InVM t ↔ x.InVM s
  vmi : x.InVMI t → x.InVMI s ∨ x.InVM s

inductive Later : Cluster → Cluster → Prop
  | refl (s : Cluster) : Later s s
  | publish (h : Later s t) (hrun : Runs x.Moves Serves (x.publish settleTicks attachTicks) t o u) :
      Later s u
  | unpublish (h : Later s t) (hrun : Runs x.Moves Serves x.unpublish t o u) : Later s u

/-- The volume is created, published and later unpublished, and these three calls
return OK. -/
inductive Unpublished (s t : Cluster) : Prop
  | intro (hcreate : Runs x.Moves Serves (x.create ticks) s (.ok resp) s₁)
      (hearlier : x.Later s₁ s₂)
      (hpublish : Runs x.Moves Serves (x.publish settleTicks attachTicks) s₂ (.ok ()) s₃)
      (hlater : x.Later s₃ s₄)
      (hunpublish : Runs x.Moves Serves x.unpublish s₄ (.ok ()) t)

def OnLonghorn (classes : Store StorageClass.name) : Prop :=
  x.storageClass ≠ "" ∧
    ∃ sc, classes.get x.storageClass = some sc ∧ sc.provisioner = longhornProvisioner

/-- Hot-plugged on the way in, taken for an export on the way out: one writer, but
a filesystem by parameter, on Longhorn. -/
def Crossed (classes : Store StorageClass.name) : Prop :=
  x.node ≠ "" ∧ x.cap.mode = .singleNodeWriter ∧
    x.params.lookup paramHostVolMode = some "filesystem" ∧ x.OnLonghorn classes

end

variable {x : Scratch}

theorem Moves.refl (s : Cluster) : x.Moves s s :=
  ⟨fun pvc h => ⟨pvc, h, rfl, rfl, rfl⟩, rfl, Iff.rfl, .inl⟩

theorem Moves.trans (s t u : Cluster) (h₁ : x.Moves s t) (h₂ : x.Moves t u) : x.Moves s u where
  claim pvc h := by
    obtain ⟨pvc₁, hget₁, hmode₁, hmodes₁, hsc₁⟩ := h₁.claim pvc h
    obtain ⟨pvc₂, hget₂, hmode₂, hmodes₂, hsc₂⟩ := h₂.claim pvc₁ hget₁
    exact ⟨pvc₂, hget₂, hmode₂.trans hmode₁, hmodes₂.trans hmodes₁, hsc₂.trans hsc₁⟩
  storageClasses := h₂.storageClasses.trans h₁.storageClasses
  vm := h₂.vm.trans h₁.vm
  vmi h := (h₂.vmi h).elim h₁.vmi fun h => .inr (h₁.vm.mp h)

theorem Moves.runs {p : Api α} (h : x.Moves s s') (hrun : run Cluster.serve p s' = (o, t)) :
    Runs x.Moves Serves p s o t :=
  Runs.of_run_after Moves.refl Moves.trans (fun _ _ => rfl) h hrun

theorem Moves.absent (h : x.Moves s t) (hs : x.Absent s) : x.Absent t :=
  ⟨fun ht => hs.1 (h.vm.mp ht), fun ht => (h.vmi ht).elim hs.2 hs.1⟩

def Built (x : Scratch) (s : Cluster) : Prop :=
  ∃ pvc, s.pvcs.get (x.cs.ns, x.req.name) = some pvc ∧ pvc.volumeMode = some x.volumeMode ∧
    pvc.accessModes = [.readWriteMany] ∧
    pvc.storageClassName = if x.storageClass ≠ "" then some x.storageClass else none

theorem Moves.built (h : x.Moves s t) (hs : x.Built s) : x.Built t := by
  obtain ⟨pvc, hget, hmode, hmodes, hsc⟩ := hs
  obtain ⟨pvc', hget', hmode', hmodes', hsc'⟩ := h.claim pvc hget
  exact ⟨pvc', hget', hmode'.trans hmode, hmodes'.trans hmodes, hsc'.trans hsc⟩

end Scratch

-- ---------------------------------------------------------------------------
-- Calls that put nothing into a machine
-- ---------------------------------------------------------------------------

def LeavesClaims : Op → Prop
  | .createPVC _ | .updatePVC _ | .deletePVC .. => False
  | _ => True

def Quiet (volumeID : String) : Op → Prop
  | .createPVC _ | .updatePVC _ | .deletePVC .. | .addVolumeVM .. => False
  | .patchVM _ _ patch => ∃ vm, patch = ControllerServer.removePatch vm (· = volumeID)
  | _ => True

theorem Quiet.leavesClaims (volumeID : String) (op : Op) (hop : Quiet volumeID op) :
    LeavesClaims op := by
  cases op <;> first | exact hop.elim | trivial

theorem LeavesClaims.effect (hop : LeavesClaims op) (h : Serves op s r t) :
    t.pvcs = s.pvcs ∧ t.storageClasses = s.storageClasses ∧ t.vmis = s.vmis := by
  obtain rfl := (congrArg Prod.snd h).symm
  cases op <;> first | exact hop.elim | exact ⟨rfl, rfl, rfl⟩ | skip
  all_goals
    dsimp only [Cluster.serve]
    (repeat' split) <;> exact ⟨rfl, rfl, rfl⟩

theorem hasVolume_removePatch {vm cur new : VirtualMachine}
    (h : cur.applyPatch (ControllerServer.removePatch vm (· = v)) = .ok new) :
    new.hasVolume v = false := by
  rw [VirtualMachine.applyPatch_removePatch] at h
  split at h
  · cases h
    have hgone : (vm.unplug (· = v)).hasVolume v = false := by simp [(vm.unplug_lacks _).hasVolume]
    exact hgone
  · cases h

namespace Scratch
variable {x : Scratch}

theorem inVM_setVM (h : x.InVM (s.setVM new)) :
    x.InVM s ∨ (new.ns, new.name) = (x.cs.ns, x.node) ∧ new.hasVolume x.req.name = true := by
  obtain ⟨vm, hget, hvm⟩ := h
  rw [Cluster.setVM, Store.get_put] at hget
  split at hget
  · rename_i hkey
    cases hget
    exact .inr ⟨hkey.symm, hvm⟩
  · exact .inl ⟨vm, hget, hvm⟩

theorem inVM_of_quiet (hop : Quiet x.req.name op) (h : Serves op s r t)
    (ht : x.InVM t) : x.InVM s := by
  obtain rfl := (congrArg Prod.snd h).symm
  cases op <;> first | exact hop.elim | exact ht | skip
  all_goals
    dsimp only [Cluster.serve] at ht
    (repeat' split at ht) <;> first | exact ht | skip
  · rename_i hnew
    obtain ⟨vm, rfl⟩ := hop
    refine (inVM_setVM ht).resolve_right fun hin => ?_
    rw [hasVolume_removePatch hnew] at hin
    cases hin.2
  · rename_i vm hvm _
    rcases inVM_setVM ht with hs | ⟨hkey, hin⟩
    · exact hs
    · have hstored := Store.get_key hvm
      have hget : s.vms.get (x.cs.ns, x.node) = some vm := by rw [← hkey, hstored, hvm]
      refine ⟨vm, hget, ?_⟩
      simp only [VirtualMachine.hasVolume, VirtualMachine.volumeList, List.any_eq_true] at hin ⊢
      obtain ⟨volume, hmem, hname⟩ := hin
      cases hvolumes : vm.volumes with
      | none =>
        rw [hvolumes] at hmem
        cases hmem
      | some volumes =>
        rw [hvolumes] at hmem
        exact ⟨volume, (List.mem_filter.mp hmem).1, hname⟩

theorem built_of_leavesClaims (hop : LeavesClaims op) (h : Serves op s r t) (hs : x.Built s) :
    x.Built t := by
  unfold Built
  rw [(hop.effect h).1]
  exact hs

theorem absent_of_quiet (hop : Quiet x.req.name op) (h : Serves op s r t) (hs : x.Absent s) :
    x.Absent t := by
  refine ⟨fun ht => hs.1 (inVM_of_quiet hop h ht), ?_⟩
  unfold InVMI
  rw [(Quiet.leavesClaims _ _ hop).effect h |>.2.2]
  exact hs.2

end Scratch

-- ---------------------------------------------------------------------------
-- Which calls are made
-- ---------------------------------------------------------------------------

namespace ControllerServer
variable (cs : ControllerServer)

theorem LookupOp.quiet (volumeID : String) (op : Op) (hop : LookupOp op) : Quiet volumeID op := by
  cases op <;> first | exact hop.elim | trivial

theorem BuildOp.quiet (volumeID : String) (op : Op) (hop : BuildOp op) : Quiet volumeID op := by
  cases op <;> first | exact hop.elim | trivial

theorem ExportOp.quiet (volumeID : String) (op : Op) (hop : ExportOp op) : Quiet volumeID op := by
  cases op <;> first | exact hop.elim | trivial

theorem DetachOp.quiet (volumeID : String) (op : Op) (hop : DetachOp volumeID op) :
    Quiet volumeID op := by
  cases op <;> first | exact hop.elim | exact hop

theorem AttachOp.leavesClaims (nodeID : String) (op : Op) (hop : cs.AttachOp nodeID op) :
    LeavesClaims op := by
  cases op <;> first | exact hop.elim | trivial

theorem publishRWXVolume_uses (volumeID : String) (pvc : PVC) :
    (cs.publishRWXVolume pvc).Uses (Quiet volumeID) := by
  have henable (fs : NetworkFilesystem) :
      (publishRWXVolume.enable pvc fs).Uses (Quiet volumeID) := by
    unfold publishRWXVolume.enable
    split
    · trivial
    · refine Uses.request trivial fun r => ?_
      cases r <;> trivial
  refine Uses.request trivial fun r => ?_
  cases r with
  | ok fs => exact henable fs
  | error e =>
    dsimp only
    split
    · trivial
    · split
      · refine Uses.bind (Uses.orElse ?_ fun _ => trivial) fun _ => trivial
        exact (createNetworkFilesystem_uses cs _).mono (ExportOp.quiet volumeID)
      · exact henable _

theorem DisableOp.quiet (volumeID : String) (op : Op) (hop : DisableOp op) : Quiet volumeID op := by
  cases op <;> first | exact hop.elim | trivial

end ControllerServer

namespace Scratch
variable {x : Scratch}

theorem isLHRWXVolume_quiet (x : Scratch) (pvc : PVC) :
    (x.cs.isLHRWXVolume pvc).Uses (Quiet x.req.name) :=
  (ControllerServer.isLHRWXVolume_uses x.cs pvc).mono (ControllerServer.LookupOp.quiet x.req.name)

theorem publish_uses (x : Scratch) (settleTicks attachTicks : Nat) :
    (x.publish settleTicks attachTicks).Uses LeavesClaims := by
  have hquiet := Quiet.leavesClaims x.req.name
  refine ControllerServer.controllerPublishVolume_uses x.cs _ trivial ?_ ?_
  · intro cap _ _ pvc
    exact ⟨(x.isLHRWXVolume_quiet pvc).mono hquiet,
      (x.cs.publishRWXVolume_uses x.req.name pvc).mono hquiet⟩
  · intro cap _ _ _ pvc
    exact (x.cs.attachVolume_uses _ _ _ _ _).mono (ControllerServer.AttachOp.leavesClaims x.cs
      x.node)

theorem publish_quiet (h : x.node = "" ∨ x.cap.mode = .multiNodeMultiWriter)
    (settleTicks attachTicks : Nat) :
    (x.publish settleTicks attachTicks).Uses (Quiet x.req.name) := by
  refine ControllerServer.controllerPublishVolume_uses x.cs _ trivial ?_ ?_
  · intro cap _ _ pvc
    exact ⟨x.isLHRWXVolume_quiet pvc, x.cs.publishRWXVolume_uses x.req.name pvc⟩
  · rintro cap hnode ⟨⟩ hmode pvc
    exact (h.elim hnode hmode).elim

theorem unpublish_quiet (x : Scratch) : x.unpublish.Uses (Quiet x.req.name) := by
  unfold unpublish ControllerServer.controllerUnpublishVolume
  split
  · trivial
  · refine Uses.request trivial fun r => ?_
    cases r with
    | error e => trivial
    | ok pvc =>
      dsimp only
      split
      · trivial
      · refine (x.isLHRWXVolume_quiet pvc).bind fun shared => ?_
        split
        · exact (x.cs.unpublishRWXVolume_uses pvc).mono (ControllerServer.DisableOp.quiet
            x.req.name)
        · exact (x.cs.detachVolume_uses _ _).mono (ControllerServer.DetachOp.quiet x.req.name)

-- ---------------------------------------------------------------------------
-- Whole calls
-- ---------------------------------------------------------------------------

section
variable {p : Api α}

theorem absent_of_runs (hp : p.Uses (Quiet x.req.name)) (h : Runs x.Moves Serves p s o t)
    (hs : x.Absent s) : x.Absent t :=
  h.invariant hp (fun _ _ hs hmove => hmove.absent hs)
    (fun _ _ _ _ hop hs h => absent_of_quiet hop h hs) hs

theorem built_of_runs (hp : p.Uses LeavesClaims) (h : Runs x.Moves Serves p s o t)
    (hs : x.Built s) : x.Built t :=
  h.invariant hp (fun _ _ hs hmove => hmove.built hs)
    (fun _ _ _ _ hop hs h => built_of_leavesClaims hop h hs) hs

theorem storageClasses_of_runs (hp : p.Uses LeavesClaims) (h : Runs x.Moves Serves p s o t) :
    t.storageClasses = s.storageClasses := by
  let same (u : Cluster) : Prop := u.storageClasses = s.storageClasses
  have hsame : same t := h.invariant hp (fun _ _ hs hmove => hmove.storageClasses.trans hs)
    (fun _ _ _ _ hop hs h => (hop.effect h).2.1.trans hs) rfl
  exact hsame

end

-- ---------------------------------------------------------------------------
-- Creating
-- ---------------------------------------------------------------------------

theorem getStorageClass_ok (h : Runs x.Moves Serves (x.cs.getStorageClass x.params) s
    (.ok (sc, provisioner)) t) : sc = x.storageClass := by
  unfold ControllerServer.getStorageClass at h
  unfold storageClass
  cases hparam : x.params.lookup paramHostSC with
  | none =>
    rw [hparam] at h
    exact (Prod.mk.inj (Outcome.ok.inj h.1)).1
  | some val =>
    rw [hparam] at h
    obtain ⟨_, _, _, h⟩ := h.bind_ok Moves.refl
    exact (Prod.mk.inj (Outcome.ok.inj h.1)).1

theorem create_ok (h : Runs x.Moves Serves (x.create ticks) s (.ok resp) t) (hs : x.Absent s) :
    x.Built t ∧ t.storageClasses = s.storageClasses ∧ x.Absent t := by
  have hbackup : x.cs.isBackupSnapshotRestore x.req = false := by
    simp [ControllerServer.isBackupSnapshotRestore, x.scratch]
  obtain ⟨pvc, s₁, s₂, res, s₃, hbuild, hmove, hcreate, hexport, -⟩ :=
    ControllerServer.createVolume_ok Moves.refl Moves.trans hbackup h
  obtain ⟨sc, provisioner, u, hsc, -, hpvc⟩ :=
    ControllerServer.buildHostPVC_scratch_ok Moves.refl x.scratch hbuild
  obtain rfl := getStorageClass_ok hsc
  obtain ⟨-, -, rfl⟩ := hcreate.answers.createPVC_ok
  have hquiet := Quiet.leavesClaims x.req.name
  have hbuilds : (x.cs.buildHostPVC x.req x.params (x.cs.volSize x.req)).Uses (Quiet x.req.name) :=
    (ControllerServer.buildHostPVC_uses _ _ _).mono (ControllerServer.BuildOp.quiet x.req.name)
  have hexports : (ControllerServer.createVolume.exportVolume x.cs ticks res).Uses
      (Quiet x.req.name) :=
    (ControllerServer.exportVolume_uses _).mono (ControllerServer.ExportOp.quiet x.req.name)
  have hnew : x.Built (s₂.setPVC pvc) := by
    subst hpvc
    exact ⟨_, Cluster.get_setPVC s₂ _, by rw [volumeMode, ← x.single]; rfl, rfl, rfl⟩
  refine ⟨built_of_runs (hexports.mono hquiet) hexport hnew, ?_, ?_⟩
  · calc t.storageClasses
      _ = (s₂.setPVC pvc).storageClasses := storageClasses_of_runs (hexports.mono hquiet) hexport
      _ = s₁.storageClasses := hmove.storageClasses
      _ = s.storageClasses := storageClasses_of_runs (hbuilds.mono hquiet) hbuild
  · have hbefore : x.Absent s₂ := hmove.absent (absent_of_runs hbuilds hbuild hs)
    exact absent_of_runs hexports hexport hbefore

-- ---------------------------------------------------------------------------
-- Unpublishing
-- ---------------------------------------------------------------------------

/-- Unpublishing takes the volume for an export. -/
def Shared (x : Scratch) (classes : Store StorageClass.name) : Prop :=
  x.volumeMode = .filesystem ∧ x.OnLonghorn classes

theorem isLHRWXVolume_true (hmode : pvc.volumeMode = some x.volumeMode)
    (hmodes : pvc.accessModes = [.readWriteMany])
    (hsc : pvc.storageClassName = if x.storageClass ≠ "" then some x.storageClass else none)
    (h : Runs x.Moves Serves (x.cs.isLHRWXVolume pvc) s (.ok true) t) :
    x.Shared s.storageClasses := by
  simp only [ControllerServer.isLHRWXVolume, hmode, hmodes, ControllerServer.isLHRWXVolume.go,
    hsc, ne_eq, not_true, if_false] at h
  split at h
  · rename_i hfs
    refine ⟨Option.some.inj hfs, ?_⟩
    by_cases hname : x.storageClass = ""
    · rw [if_neg (not_not_intro hname)] at h
      cases h.1
    · rw [if_pos hname] at h
      obtain ⟨s₁, r, s₂, hmove, hget, h⟩ := h.request
      cases r with
      | error e => cases h.1
      | ok sc =>
        have hstored := hget.answers.getStorageClass.2 sc rfl
        refine ⟨hname, sc, hmove.storageClasses ▸ hstored, ?_⟩
        dsimp only at h
        split at h
        · assumption
        · cases h.1
  · cases h.1

theorem checkVolumeExistsInVM_false
    (h : Runs x.Moves Serves (x.cs.checkVolumeExistsInVM x.node x.req.name) s (.ok false) t) :
    ∃ u, x.Moves s u ∧ ¬ x.InVM u ∧ x.Moves u t := by
  obtain ⟨u, r, _, hmove, hget, h⟩ := h.request
  obtain ⟨rfl, rfl⟩ := Prod.mk.inj hget
  cases hvm : u.vms.get (x.cs.ns, x.node) with
  | none =>
    simp only [hvm, found_none] at h
    split at h
    · exact ⟨u, hmove, by simp [InVM, hvm], h.2⟩
    · cases h.1
  | some vm =>
    rw [hvm] at h
    exact ⟨u, hmove, by simp [InVM, hvm, ← Outcome.ok.inj h.1], h.2⟩

theorem checkVolumeExistsInVMI_false
    (h : Runs x.Moves Serves (x.cs.checkVolumeExistsInVMI x.node x.req.name) s (.ok false) t) :
    ∃ u, x.Moves s u ∧ ¬ x.InVMI u ∧ x.Moves u t := by
  obtain ⟨u, r, _, hmove, hget, h⟩ := h.request
  obtain ⟨rfl, rfl⟩ := Prod.mk.inj hget
  cases hvmi : u.vmis.get (x.cs.ns, x.node) with
  | none =>
    simp only [hvmi, found_none] at h
    split at h
    · exact ⟨u, hmove, by simp [InVMI, hvmi], h.2⟩
    · cases h.1
  | some vmi =>
    rw [hvmi] at h
    exact ⟨u, hmove, by simp [InVMI, hvmi, ← Outcome.ok.inj h.1], h.2⟩

theorem detachVolume_absent
    (h : Runs x.Moves Serves (x.cs.detachVolume x.node x.req.name) s (.ok ()) t) : x.Absent t := by
  obtain ⟨removing, u, hremove, h⟩ := h.bind_ok Moves.refl
  cases removing with
  | true => cases h.1
  | false =>
    refine h.2.absent ?_
    rcases hremove.orElse_ok Moves.refl with hremove | ⟨_, _, _, herr⟩
    · obtain ⟨inVMI, u₁, hvmi, hrest⟩ := hremove.bind_ok Moves.refl
      obtain ⟨inVM, u₂, hvm, hunplug⟩ := hrest.bind_ok Moves.refl
      split at hunplug
      · rename_i hnone
        obtain ⟨rfl, rfl⟩ : inVM = false ∧ inVMI = false := by simpa using hnone
        obtain ⟨a, -, ha, hmove₁⟩ := checkVolumeExistsInVMI_false hvmi
        obtain ⟨b, hmove₂, hb, hmove₃⟩ := checkVolumeExistsInVM_false hvm
        -- the template did not have it at the first read either
        have hab := Moves.trans _ _ _ hmove₁ hmove₂
        have hmove := Moves.trans _ _ _ (Moves.trans _ _ _ hab hmove₃) hunplug.2
        exact hmove.absent ⟨fun h => hb (hab.vm.mpr h), ha⟩
      · obtain ⟨_, _, _, hsent⟩ := hunplug.bind_ok Moves.refl
        cases hsent.1
    · cases herr.1

theorem unpublish_ok (hs : x.Built s) (h : Runs x.Moves Serves x.unpublish s (.ok ()) t) :
    x.Shared s.storageClasses ∨ x.Absent t := by
  unfold unpublish ControllerServer.controllerUnpublishVolume at h
  split at h
  · cases h.1
  · obtain ⟨s₁, r, _, hmove, hget, h⟩ := h.request
    obtain ⟨rfl, hfound⟩ := hget.answers.getPVC
    cases r with
    | error e => cases h.1
    | ok pvc =>
      obtain ⟨pvc', hpvc, hmode, hmodes, hsc⟩ := hmove.built hs
      obtain rfl : pvc' = pvc := Option.some.inj (hpvc.symm.trans (hfound pvc rfl))
      dsimp only at h
      split at h
      · cases h.1
      · obtain ⟨shared, u, hlookup, h⟩ := h.bind_ok Moves.refl
        cases shared with
        | true => exact .inl (hmove.storageClasses ▸ isLHRWXVolume_true hmode hmodes hsc hlookup)
        | false => exact .inr (detachVolume_absent h)

-- ---------------------------------------------------------------------------
-- Where the two ways agree
-- ---------------------------------------------------------------------------

theorem cap_mode (x : Scratch) :
    x.cap.mode = .singleNodeWriter ∨ x.cap.mode = .multiNodeMultiWriter := by
  have hcaps := x.accepted.checks.2.1
  rw [x.single] at hcaps
  obtain ⟨_, hcap, -⟩ := bind_eq_ok.mp hcaps
  exact ControllerServer.validateVolumeCapability_ok hcap

/-- A volume that unpublishing takes for an export is published as one. -/
theorem Shared.exported (h : x.Shared classes) (hx : ¬ x.Crossed classes) :
    x.node = "" ∨ x.cap.mode = .multiNodeMultiWriter := by
  refine Decidable.or_iff_not_imp_left.mpr fun hnode => ?_
  refine x.cap_mode.resolve_left fun hmode => hx ⟨hnode, hmode, ?_, h.2⟩
  have hfs := h.1
  unfold volumeMode ControllerServer.scratchVolumeMode at hfs
  split at hfs
  · assumption
  · simp [ControllerServer.getVolumeMode, hmode] at hfs

theorem Later.kept (h : x.Later s t) (hx : ¬ x.Crossed s.storageClasses) (hs : x.Built s)
    (habsent : x.Absent s) :
    x.Built t ∧ t.storageClasses = s.storageClasses ∧ (x.Shared s.storageClasses → x.Absent t) := by
  induction h with
  | refl => exact ⟨hs, rfl, fun _ => habsent⟩
  | publish h hrun ih =>
    obtain ⟨hbuilt, hclasses, hkept⟩ := ih
    refine ⟨built_of_runs (x.publish_uses _ _) hrun hbuilt,
      (storageClasses_of_runs (x.publish_uses _ _) hrun).trans hclasses, ?_⟩
    intro hshared
    exact absent_of_runs (publish_quiet (hshared.exported hx) _ _) hrun (hkept hshared)
  | unpublish h hrun ih =>
    obtain ⟨hbuilt, hclasses, hkept⟩ := ih
    have huses := x.unpublish_quiet.mono (Quiet.leavesClaims x.req.name)
    refine ⟨built_of_runs huses hrun hbuilt, (storageClasses_of_runs huses hrun).trans hclasses, ?_⟩
    intro hshared
    exact absent_of_runs x.unpublish_quiet hrun (hkept hshared)

theorem Later.trans (h₁ : x.Later s t) (h₂ : x.Later t u) : x.Later s u := by
  induction h₂ with
  | refl => exact h₁
  | publish _ hrun ih => exact ih.publish hrun
  | unpublish _ hrun ih => exact ih.unpublish hrun

theorem Unpublished.absent (h : x.Unpublished s t) (hx : ¬ x.Crossed s.storageClasses)
    (hs : x.Absent s) : x.Absent t := by
  obtain ⟨hcreate, hearlier, hpublish, hlater, hunpublish⟩ := h
  obtain ⟨hbuilt, hclasses, habsent⟩ := create_ok hcreate hs
  rw [← hclasses] at hx
  obtain ⟨hbuilt', hclasses', hkept⟩ :=
    ((hearlier.publish hpublish).trans hlater).kept hx hbuilt habsent
  rcases unpublish_ok hbuilt' hunpublish with hshared | habsent'
  · rw [hclasses'] at hshared
    exact absent_of_runs x.unpublish_quiet hunpublish (hkept hshared)
  · exact habsent'

-- ---------------------------------------------------------------------------
-- Where they do not
-- ---------------------------------------------------------------------------

def unusedExport : NetworkFilesystem where
  ns := harvesterNS
  name := "pv"
  networkFSName := "pv"
  desiredState := .disabled
  provisioner := lhName

section
variable (x : Scratch) (classes : Store StorageClass.name)

def machine : VirtualMachine where
  ns := x.cs.ns
  name := x.node
  volumes := some []
  disks := some []

def runningInstance : VirtualMachineInstance where
  ns := x.cs.ns
  name := x.node

def start : Cluster :=
  { Cluster.empty with
    storageClasses := classes
    vms := Store.empty.put x.machine
    vmis := Store.empty.put x.runningInstance }

def claim : PVC :=
  x.cs.scratchPVC x.req.name x.req.volumeCapabilities x.params (x.cs.volSize x.req) x.storageClass
    longhornProvisioner

def bound : Cluster :=
  let s := (x.start classes).setPVC x.claim
  { s with pvcs := s.pvcs.put { x.claim with phase := .bound, volumeName := "pv" } }

def exported : Cluster := (x.bound classes).setNetworkFS unusedExport

def plugged : Cluster :=
  (x.exported classes).setVM { x.machine with
    volumes := some [hotplugVolume x.req.name]
    disks := some [hotplugDisk x.req.name] }

def attached : Cluster :=
  { x.plugged classes with
    vmis := Store.empty.put { x.runningInstance with
      volumeStatus := [{ name := x.req.name, hotplugVolume := true }] } }

end

theorem start_absent (x : Scratch) : x.Absent (x.start classes) := by
  have hvm : x.machine.hasVolume x.req.name = false := rfl
  have hvmi : x.runningInstance.hasVolume x.req.name = false := rfl
  simp [Absent, InVM, InVMI, start, hvm, hvmi]

theorem Crossed.volumeMode (h : x.Crossed classes) : x.volumeMode = .filesystem := by
  simp [Scratch.volumeMode, ControllerServer.scratchVolumeMode, h.2.2.1]

theorem Crossed.claim_volumeMode (h : x.Crossed classes) :
    x.claim.volumeMode = some .filesystem := by
  rw [claim, ControllerServer.scratchPVC, x.single, ← h.volumeMode]
  rfl

theorem build_claim (h : x.Crossed classes) :
    run Cluster.serve (x.cs.buildHostPVC x.req x.params (x.cs.volSize x.req)) (x.start classes) =
      (.ok x.claim, x.start classes) := by
  obtain ⟨-, -, -, -, sc, hget, hprov⟩ := h
  unfold claim
  unfold storageClass at hget ⊢
  simp only [ControllerServer.buildHostPVC, x.scratch, ControllerServer.buildHostPVCFromScratch,
    ControllerServer.getStorageClass]
  cases hparam : x.params.lookup paramHostSC with
  | none => rfl
  | some val =>
    rw [hparam] at hget
    replace hget : classes.get val = some sc := hget
    simp [ControllerServer.validStorageClass, Cluster.serve, start, hget, hprov]

theorem get_bound (x : Scratch) (classes : Store StorageClass.name) :
    (x.bound classes).pvcs.get (x.cs.ns, x.req.name) =
      some { x.claim with phase := .bound, volumeName := "pv" } := by
  simp [bound, claim, ControllerServer.scratchPVC]

theorem isLHRWXVolume_crossed (h : x.Crossed classes) (hs : s.storageClasses = classes)
    (hmode : pvc.volumeMode = x.claim.volumeMode) (hmodes : pvc.accessModes = x.claim.accessModes)
    (hsc : pvc.storageClassName = x.claim.storageClassName) :
    run Cluster.serve (x.cs.isLHRWXVolume pvc) s = (.ok true, s) := by
  have hfs := h.claim_volumeMode
  obtain ⟨-, -, -, hname, sc, hget, hprov⟩ := h
  obtain ⟨k, hprog, hk⟩ := ControllerServer.isLHRWXVolume_shared x.cs (hmode.trans hfs)
    (hmodes ▸ List.mem_singleton.mpr rfl) (hsc.trans (if_pos hname))
  subst hs
  rw [hprog, run_call]
  dsimp only [Cluster.serve]
  rw [hget, found_some, hk sc hprov, run_ok]

theorem export_claim (h : x.Crossed classes) :
    run Cluster.serve (ControllerServer.createVolume.exportVolume x.cs 1
      { x.claim with resourceVersion := n }) (x.bound classes) = (.ok (), x.exported classes) := by
  have hshared : run Cluster.serve (x.cs.isLHRWXVolume { x.claim with resourceVersion := n })
      (x.bound classes) = (.ok true, x.bound classes) := isLHRWXVolume_crossed h rfl rfl rfl rfl
  rw [ControllerServer.createVolume.exportVolume, run_bind, hshared]
  have hget := get_bound x classes
  have hname : x.claim.name = x.req.name := rfl
  have hnone : (x.bound classes).networkFSs.get (harvesterNS, "pv") = none := rfl
  simp [ControllerServer.waitForLHVolumeName, ControllerServer.createNetworkFilesystem,
    Cluster.serve, hname, hget, hnone, exported, unusedExport]

theorem create_crossed (h : x.Crossed classes) :
    ∃ resp, Runs x.Moves Serves (x.create 1) (x.start classes) (.ok resp) (x.exported classes) := by
  have hbackup : x.cs.isBackupSnapshotRestore x.req = false := by
    simp [ControllerServer.isBackupSnapshotRestore, x.scratch]
  have hbuild : Runs x.Moves Serves (x.cs.buildHostPVC x.req x.params (x.cs.volSize x.req))
      (x.start classes) (.ok x.claim) (x.start classes) :=
    (Moves.refl _).runs (build_claim h)
  have hbind : x.Moves ((x.start classes).setPVC x.claim) (x.bound classes) := by
    refine ⟨fun pvc hpvc => ⟨_, get_bound x classes, ?_⟩, rfl, Iff.rfl, .inl⟩
    cases (Cluster.get_setPVC (x.start classes) x.claim).symm.trans hpvc
    exact ⟨rfl, rfl, rfl⟩
  have hexport : Runs x.Moves Serves (ControllerServer.createVolume.exportVolume x.cs 1
      { x.claim with resourceVersion := (x.start classes).rev + 1 })
      ((x.start classes).setPVC x.claim) (.ok ()) (x.exported classes) :=
    hbind.runs (export_claim h)
  unfold create
  rw [ControllerServer.createVolume_eq x.accepted, if_neg (by simp [hbackup])]
  refine ⟨⟨x.req.name, x.cs.volSize x.req, x.params, x.req.volumeContentSource⟩,
    hbuild.bind Moves.trans ⟨_, _, _, Moves.refl _, rfl, ?_⟩⟩
  exact hexport.bind Moves.trans ⟨rfl, Moves.refl _⟩

theorem publish_crossed (h : x.Crossed classes) (s : Cluster) (attachTicks : Nat)
    (hclaim : s.pvcs.get (x.cs.ns, x.req.name) =
      some { x.claim with phase := .bound, volumeName := "pv" }) :
    run Cluster.serve (x.publish 0 attachTicks) s =
      run Cluster.serve (x.cs.plugVolume attachTicks x.node x.req.name) s := by
  have hmode := h.claim_volumeMode
  obtain ⟨hnode, hsingle, -⟩ := h
  simp [publish, ControllerServer.controllerPublishVolume, hnode, Cluster.serve, hclaim, hsingle,
    ControllerServer.attachVolume, pollUntilContextTimeout, poll, ControllerServer.waitForVASettled,
    hmode]

theorem hotplugVolumeToVM_plugs (x : Scratch) (classes : Store StorageClass.name)
    (hvm : (x.exported classes).vms.get (x.cs.ns, x.node) = some x.machine) :
    run Cluster.serve (x.cs.hotplugVolumeToVM x.node x.req.name) (x.exported classes) =
      (.ok (), x.plugged classes) := by
  have hpatch : x.machine.applyPatch (ControllerServer.addPatch x.machine x.req.name) =
      .ok { x.machine with
        volumes := some [hotplugVolume x.req.name]
        disks := some [hotplugDisk x.req.name] } := rfl
  have hnone : x.machine.hasVolume x.req.name = false := rfl
  unfold ControllerServer.hotplugVolumeToVM
  split
  · simp [ControllerServer.addVolumeToVM, Cluster.serve, hvm, hnone, hpatch, plugged]
  · simp [ControllerServer.addVolumeToVMLegacy, Cluster.serve, hvm, plugged, machine,
      VirtualMachine.volumeList, VirtualMachine.diskList]

/-- The first publish changes the template and does not wait for the instance. -/
theorem publish_plugs (h : x.Crossed classes) :
    ∃ e, run Cluster.serve (x.publish 0 0) (x.exported classes) =
      (.error e, x.plugged classes) := by
  have hvm : (x.exported classes).vms.get (x.cs.ns, x.node) = some x.machine := by
    simp [exported, Cluster.setNetworkFS, bound, Cluster.setPVC, start, machine]
  have hvmi : (x.exported classes).vmis.get (x.cs.ns, x.node) = some x.runningInstance := by
    simp [exported, Cluster.setNetworkFS, bound, Cluster.setPVC, start, runningInstance]
  have hnone : x.machine.hasVolume x.req.name = false := rfl
  have hplug := hotplugVolumeToVM_plugs x classes hvm
  rw [publish_crossed h (x.exported classes) 0 (get_bound x classes)]
  simp [ControllerServer.plugVolume, ControllerServer.isVolAttached,
    ControllerServer.checkVolumeExistsInVM, ControllerServer.checkVolumeExistsInVMI, Cluster.serve,
    hvm, hvmi, hnone, run_bind, run_orElse, hplug, ControllerServer.waitForVolumeAttached,
    pollUntilContextTimeout, poll]

theorem inVM_attached (x : Scratch) (classes : Store StorageClass.name) :
    ∃ vm, (x.attached classes).vms.get (x.cs.ns, x.node) = some vm ∧
      vm.hasVolume x.req.name = true := by
  refine ⟨_, Store.get_overwrite (a := x.machine) ?_ rfl, ?_⟩
  · simp [exported, Cluster.setNetworkFS, bound, Cluster.setPVC, start, machine]
  · simp [VirtualMachine.hasVolume, VirtualMachine.volumeList, hotplugVolume]

theorem publish_attached (h : x.Crossed classes) :
    run Cluster.serve (x.publish 0 0) (x.attached classes) = (.ok (), x.attached classes) := by
  obtain ⟨vm, hvm, hhas⟩ := inVM_attached x classes
  have hvmi : (x.attached classes).vmis.get (x.cs.ns, x.node) =
      some { x.runningInstance with
        volumeStatus := [{ name := x.req.name, hotplugVolume := true }] } := by
    simp [attached, runningInstance]
  rw [publish_crossed h (x.attached classes) 0 (get_bound x classes)]
  simp [ControllerServer.plugVolume, ControllerServer.isVolAttached,
    ControllerServer.checkVolumeExistsInVM, ControllerServer.checkVolumeExistsInVMI, Cluster.serve,
    hvm, hvmi, hhas, VirtualMachineInstance.hasVolume]

/-- The export is not in use, so there is nothing to do. -/
theorem unpublish_crossed (h : x.Crossed classes) :
    run Cluster.serve x.unpublish (x.attached classes) = (.ok (), x.attached classes) := by
  have hname := x.accepted.checks.1
  have hclaim : (x.attached classes).pvcs.get (x.cs.ns, x.req.name) = _ := get_bound x classes
  have hshared : run Cluster.serve
      (x.cs.isLHRWXVolume { x.claim with phase := .bound, volumeName := "pv" })
      (x.attached classes) = (.ok true, x.attached classes) := isLHRWXVolume_crossed h rfl rfl rfl
      rfl
  have hfs : (x.attached classes).networkFSs.get (harvesterNS, "pv") =
      some { unusedExport with resourceVersion := (x.bound classes).rev + 1 } :=
    Cluster.get_setNetworkFS (x.bound classes) unusedExport
  simp only [unpublish, ControllerServer.controllerUnpublishVolume, if_neg hname, request_bind,
    run_call, Cluster.serve, hclaim, found_some, ne_eq, not_true, if_false]
  rw [run_bind, hshared]
  simp only [if_true, ControllerServer.unpublishRWXVolume, request_bind, run_call, Cluster.serve,
    hfs, found_some]
  rfl

theorem Crossed.stays (h : x.Crossed classes) :
    x.Unpublished (x.start classes) (x.attached classes) ∧ x.InVM (x.attached classes) := by
  have hinVM : x.InVM (x.plugged classes) := inVM_attached x classes
  have hplug : x.Moves (x.plugged classes) (x.attached classes) :=
    ⟨fun pvc h => ⟨pvc, h, rfl, rfl, rfl⟩, rfl, Iff.rfl, fun _ => .inr hinVM⟩
  obtain ⟨resp, hcreate⟩ := create_crossed h
  obtain ⟨e, hrun⟩ := publish_plugs h
  have hfirst := (Moves.refl (x := x) _).runs hrun
  have hsecond := hplug.runs (publish_attached h)
  have hlast := (Moves.refl (x := x) _).runs (unpublish_crossed h)
  exact ⟨⟨hcreate, (Later.refl _).publish hfirst, hsecond, .refl _, hlast⟩, hinVM⟩

end Scratch

/-- An unpublished volume is out of its machine, whatever happens in between, if
and only if the two ways agree on it. -/
theorem unpublished_absent_iff (x : Scratch) (classes : Store StorageClass.name) :
    (∀ s t, s.storageClasses = classes → x.Absent s → x.Unpublished s t → x.Absent t) ↔
      ¬ x.Crossed classes := by
  constructor
  · intro hall hx
    obtain ⟨hrun, hin⟩ := hx.stays
    exact (hall _ _ rfl x.start_absent hrun).1 hin
  · rintro hx s t rfl hs h
    exact h.absent hx hs

def filesystemWriter : Scratch where
  cs := exampleServer
  req := {
    name := "vol"
    volumeCapabilities := [singleWriter]
    parameters := some [("hostVolumeMode", "filesystem")] }
  cap := singleWriter
  node := "vm"
  scratch := rfl
  single := rfl
  accepted := ⟨_, rfl⟩

def longhornOnly : Store StorageClass.name := Store.empty.put ⟨"longhorn", "driver.longhorn.io"⟩

/-- It is created, published and unpublished, each with an OK, and still in the
template of the machine. -/
theorem unpublished_in_vm :
    filesystemWriter.Absent (filesystemWriter.start longhornOnly) ∧
      filesystemWriter.Unpublished (filesystemWriter.start longhornOnly)
        (filesystemWriter.attached longhornOnly) ∧
      filesystemWriter.InVM (filesystemWriter.attached longhornOnly) := by
  have hcrossed : filesystemWriter.Crossed longhornOnly :=
    ⟨by decide, rfl, rfl, by decide, _, rfl, rfl⟩
  exact ⟨filesystemWriter.start_absent, hcrossed.stays⟩

end HarvesterCSI
