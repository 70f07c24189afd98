import HarvesterCSI.NodeController
import Mathlib.Data.List.Dedup

/-!
# Edits of a machine

What the patches and the subresources of a virtual machine make of its volumes and
disks. A patch that removes volumes sets both lists, also one that was never set; one
that adds needs the list that it adds to.
-/

namespace HarvesterCSI

theorem mem_hotplugNames {vm : VirtualMachine} :
    name ∈ Controller.hotplugNames vm ↔ vm.isHotplugName name = true := by
  simp only [Controller.hotplugNames, VirtualMachine.isHotplugName, List.mem_dedup, List.mem_map,
    List.mem_filter, List.any_eq_true, Bool.and_eq_true, decide_eq_true_eq]
  constructor
  · rintro ⟨v, ⟨hv, hplug⟩, rfl⟩
    exact ⟨v, hv, rfl, hplug⟩
  · rintro ⟨v, hv, rfl, hplug⟩
    exact ⟨v, ⟨hv, hplug⟩, rfl⟩

theorem isHotplugName_eq_false (h : Controller.hotplugNames vm = []) (name : String) :
    vm.isHotplugName name = false := by
  rw [← Bool.not_eq_true, ← mem_hotplugNames, h]
  exact List.not_mem_nil

-- ---------------------------------------------------------------------------
-- What a patch leaves alone
-- ---------------------------------------------------------------------------

theorem PatchOp.apply_key {op : PatchOp} (h : op.apply vm = .ok new) :
    (new.ns, new.name) = (vm.ns, vm.name) := by
  cases op <;> dsimp only [PatchOp.apply] at h <;> (try split at h) <;> cases h <;> rfl

namespace VirtualMachine

theorem applyPatch_key {vm new : VirtualMachine} {patch : List PatchOp}
    (h : vm.applyPatch patch = .ok new) : (new.ns, new.name) = (vm.ns, vm.name) := by
  induction patch generalizing vm with
  | nil =>
    cases h
    rfl
  | cons op patch ih =>
    rw [VirtualMachine.applyPatch, List.foldlM_cons] at h
    cases hop : op.apply vm with
    | error e =>
      rw [hop] at h
      cases h
    | ok mid =>
      rw [hop] at h
      exact (ih h).trans (PatchOp.apply_key hop)

-- ---------------------------------------------------------------------------
-- The edits
-- ---------------------------------------------------------------------------

/-- What the patch adds: the volume and its disk, each unless it is there. -/
def plug (vm : VirtualMachine) (v : String) : VirtualMachine :=
  { vm with
    volumes := if vm.hasVolume v then vm.volumes else some (vm.volumeList ++ [hotplugVolume v])
    disks := if vm.hasDisk v then vm.disks else some (vm.diskList ++ [hotplugDisk v]) }

/-- What the subresource adds: both, when there is no such volume. -/
def plugLegacy (vm : VirtualMachine) (v : String) : VirtualMachine :=
  { vm with
    volumes := some (vm.volumeList ++ [hotplugVolume v])
    disks := some (vm.diskList ++ [hotplugDisk v]) }

def unplug (vm : VirtualMachine) (drop : String → Bool) : VirtualMachine :=
  { vm with
    volumes := some (vm.volumeList.filter fun v => !drop v.name)
    disks := some (vm.diskList.filter fun d => !drop d.name) }

def unplugLegacy (vm : VirtualMachine) (v : String) : VirtualMachine :=
  { vm with
    volumes := vm.volumes.map (·.filter (·.name ≠ v))
    disks := vm.disks.map (·.filter (·.name ≠ v)) }

structure Lacks (drop : String → Bool) (vm new : VirtualMachine) : Prop where
  key : (new.ns, new.name) = (vm.ns, vm.name)
  volumes : new.volumeList = vm.volumeList.filter fun v => !drop v.name
  disks : new.diskList = vm.diskList.filter fun d => !drop d.name

variable (vm : VirtualMachine)

theorem unplug_lacks (drop : String → Bool) : Lacks drop vm (vm.unplug drop) := ⟨rfl, rfl, rfl⟩

theorem unplugLegacy_lacks (v : String) : Lacks (· = v) vm (vm.unplugLegacy v) where
  key := rfl
  volumes := by
    simp only [unplugLegacy, volumeList]
    cases vm.volumes <;> simp
  disks := by
    simp only [unplugLegacy, diskList]
    cases vm.disks <;> simp

-- ---------------------------------------------------------------------------
-- The patches make them
-- ---------------------------------------------------------------------------

theorem applyPatch_addPatch (v : String) :
    vm.applyPatch (ControllerServer.addPatch vm v) = .ok (vm.plug v) ∨
      (vm.volumes = none ∨ vm.disks = none) ∧
        ∃ e, vm.applyPatch (ControllerServer.addPatch vm v) = .error e := by
  obtain ⟨ns, name, version, volumes, disks, conditions, status⟩ := vm
  simp only [applyPatch, ControllerServer.addPatch, plug, List.foldlM_cons, PatchOp.apply, if_true]
  split <;> split <;> cases volumes <;> cases disks <;>
    simp [PatchOp.apply, Bind.bind, Except.bind, Pure.pure, Except.pure, volumeList, diskList]

theorem applyPatch_plug (hvolumes : vm.volumes ≠ none) (hdisks : vm.disks ≠ none) (v : String) :
    vm.applyPatch (ControllerServer.addPatch vm v) = .ok (vm.plug v) := by
  refine (vm.applyPatch_addPatch v).resolve_right ?_
  rintro ⟨hvolumes' | hdisks', -⟩
  · exact hvolumes hvolumes'
  · exact hdisks hdisks'

theorem eq_plug {new : VirtualMachine}
    (h : vm.applyPatch (ControllerServer.addPatch vm v) = .ok new) : new = vm.plug v := by
  rcases vm.applyPatch_addPatch v with hok | ⟨-, e, he⟩
  · exact Except.ok.inj (h.symm.trans hok)
  · cases h.symm.trans he

/-- The patch made from `vm` puts the lists of `vm` into the machine that it finds, if
that is of the same version. -/
theorem applyPatch_removePatch (cur : VirtualMachine) (drop : String → Bool) :
    cur.applyPatch (ControllerServer.removePatch vm drop) =
      if cur.resourceVersion = vm.resourceVersion then
        .ok { cur with volumes := (vm.unplug drop).volumes, disks := (vm.unplug drop).disks }
      else .error ⟨.invalid, "the server rejected our request due to an error in our request"⟩ := by
  simp only [applyPatch, ControllerServer.removePatch, List.foldlM_cons, PatchOp.apply, unplug]
  split <;> rfl

theorem applyPatch_unplug (drop : String → Bool) :
    vm.applyPatch (ControllerServer.removePatch vm drop) = .ok (vm.unplug drop) := by
  rw [applyPatch_removePatch, if_pos rfl]
  rfl

-- ---------------------------------------------------------------------------
-- One volume
-- ---------------------------------------------------------------------------

theorem hasVolume_plug (w v : String) :
    (vm.plug w).hasVolume v = (vm.hasVolume v || decide (w = v)) := by
  unfold plug
  by_cases hw : vm.hasVolume w = true
  · rw [if_pos hw]
    by_cases h : w = v
    · subst h
      simpa [hasVolume, volumeList] using hw
    · simp [hasVolume, volumeList, h]
  · rw [if_neg hw]
    simp [hasVolume, volumeList, hotplugVolume]

theorem hasVolume_plugLegacy (w v : String) :
    (vm.plugLegacy w).hasVolume v = (vm.hasVolume v || decide (w = v)) := by
  simp [plugLegacy, hasVolume, volumeList, hotplugVolume]

variable {vm} in
theorem Lacks.hasVolume {new : VirtualMachine} {drop : String → Bool} (h : Lacks drop vm new)
    (v : String) :
    new.hasVolume v = (vm.hasVolume v && !drop v) := by
  rw [VirtualMachine.hasVolume, VirtualMachine.hasVolume, h.volumes, Bool.eq_iff_iff]
  simp only [List.any_eq_true, List.mem_filter, decide_eq_true_eq, Bool.and_eq_true]
  constructor
  · rintro ⟨x, ⟨hx, hkeep⟩, rfl⟩
    exact ⟨⟨x, hx, rfl⟩, hkeep⟩
  · rintro ⟨⟨x, hx, rfl⟩, hkeep⟩
    exact ⟨x, ⟨hx, hkeep⟩, rfl⟩

end VirtualMachine

end HarvesterCSI
