import HarvesterCSI.Laws.Create
import HarvesterCSI.Laws.Patches
import HarvesterCSI.Laws.VMSpec
import Mathlib.Data.List.Dedup
import Mathlib.Logic.Relation

/-!
# The volumes and disks of a virtual machine

A hot-plugged volume is an entry in each of two lists of the machine. Abstractly
the lists are stores keyed by name, and the three calls that edit them are edits of
both stores at once.
-/

namespace HarvesterCSI

open Calls

-- ---------------------------------------------------------------------------
-- The lists and their edits
-- ---------------------------------------------------------------------------

/-- The two lists of a machine, no name twice in either. -/
structure VMLists where
  volumes : Store Volume.name
  disks : Store Disk.name

namespace VMLists

def add (l : VMLists) (v : String) : VMLists :=
  ⟨l.volumes.addNew (hotplugVolume v), l.disks.addNew (hotplugDisk v)⟩

def drop (l : VMLists) (p : String → Bool) : VMLists := ⟨l.volumes.drop p, l.disks.drop p⟩

def hotplug (l : VMLists) (name : String) : Bool :=
  l.volumes.items.any fun v => v.name = name && v.hotpluggable

theorem drop_add (hvolume : l.volumes.has v = false) (hdisk : l.disks.has v = false) :
    (add l v).drop (· = v) = l := by
  have hvolumes : (l.volumes.addNew (hotplugVolume v)).drop (· = v) = l.volumes :=
    Store.drop_addNew (a := hotplugVolume v) hvolume
  have hdisks : (l.disks.addNew (hotplugDisk v)).drop (· = v) = l.disks :=
    Store.drop_addNew (a := hotplugDisk v) hdisk
  rw [add, drop, hvolumes, hdisks]

/-- As names are not shared, leaving out the names of hot-pluggable volumes leaves
out these volumes and no others. -/
theorem drop_hotplug_volumes (l : VMLists) :
    (l.drop l.hotplug).volumes.items = l.volumes.items.filter (!·.hotpluggable) := by
  refine List.filter_congr fun v hv => ?_
  have hname : l.hotplug v.name = v.hotpluggable := by
    cases hplug : v.hotpluggable with
    | true => exact List.any_eq_true.mpr ⟨v, hv, by simp [hplug]⟩
    | false =>
      simp only [hotplug, List.any_eq_false, Bool.and_eq_true, decide_eq_true_eq, not_and]
      intro w hw hsame
      have hwv : w = v := List.inj_on_of_nodup_map l.volumes.nodup hw hv hsame
      simp [hwv, hplug]
  rw [hname]

theorem drop_of_none (l : VMLists) (h : ∀ name, p name = false) : l.drop p = l := by
  rw [drop, Store.drop_of_none fun v _ => h v.name, Store.drop_of_none fun d _ => h d.name]

theorem drop_hotplug_of_none (h : l.volumes.items.filter Volume.hotpluggable = []) :
    drop l l.hotplug = l := by
  refine drop_of_none l fun name => ?_
  simp only [hotplug, List.any_eq_false, Bool.and_eq_true, not_and]
  intro v hv _
  exact List.filter_eq_nil_iff.mp h v hv

end VMLists

def VMCall.edit : VMCall ns node → VMLists → VMLists
  | .addVolumeToVM _ _ v, l => l.add v
  | .removeVolumeFromVM _ _ v, l => l.drop (· = v)
  | .removeAllHotplugVolumes .., l => l.drop l.hotplug

def VirtualMachine.Has (vm : VirtualMachine) (l : VMLists) : Prop :=
  vm.volumes = some l.volumes.items ∧ vm.disks = some l.disks.items

namespace VirtualMachine

variable {vm : VirtualMachine}

theorem Has.volumeList (h : vm.Has l) : vm.volumeList = l.volumes.items := by
  simp [VirtualMachine.volumeList, h.1]

theorem Has.diskList (h : vm.Has l) : vm.diskList = l.disks.items := by
  simp [VirtualMachine.diskList, h.2]

theorem Has.hasVolume (h : vm.Has l) (v : String) : vm.hasVolume v = l.volumes.has v := by
  rw [VirtualMachine.hasVolume, h.volumeList, Store.has]

theorem Has.hasDisk (h : vm.Has l) (v : String) : vm.hasDisk v = l.disks.has v := by
  rw [VirtualMachine.hasDisk, h.diskList, Store.has]

theorem Has.isHotplugName (h : vm.Has l) : vm.isHotplugName = l.hotplug := by
  funext name
  rw [VirtualMachine.isHotplugName, h.volumeList, VMLists.hotplug]

-- ---------------------------------------------------------------------------
-- The patches
-- ---------------------------------------------------------------------------

theorem Has.plug (h : vm.Has l) (v : String) : (vm.plug v).Has (l.add v) := by
  have hvolume := h.hasVolume v
  have hdisk := h.hasDisk v
  cases hv : l.volumes.has v <;> cases hd : l.disks.has v <;>
    simp [Has, VirtualMachine.plug, hvolume, hdisk, hv, hd, h.1, h.2, h.volumeList, h.diskList,
      VMLists.add, Store.addNew, hotplugVolume, hotplugDisk]

theorem Has.unplug (h : vm.Has l) (p : String → Bool) : (vm.unplug p).Has (l.drop p) := by
  simp [Has, VirtualMachine.unplug, h.volumeList, h.diskList, VMLists.drop, Store.drop]

end VirtualMachine

-- ---------------------------------------------------------------------------
-- The calls
-- ---------------------------------------------------------------------------

def HasLists (ns node : String) (s : Cluster) (l : VMLists) : Prop :=
  ∃ vm, s.vms.get (ns, node) = some vm ∧ vm.Has l

theorem serve_patchVM (hget : s.vms.get (ns, node) = some vm)
    (hpatch : vm.applyPatch patch = .ok new) (hnew : new.Has l) :
    ∃ t, Cluster.serve (.patchVM ns node patch) s = (.ok (), t) ∧ HasLists ns node t l := by
  have hserve : Cluster.serve (.patchVM ns node patch) s = (.ok (), s.setVM new) := by
    simp only [Cluster.serve, hget, hpatch]
  have hkey := VirtualMachine.applyPatch_key hpatch
  refine ⟨s.setVM new, hserve, { new with resourceVersion := s.rev + 1 }, ?_, hnew⟩
  exact Store.get_overwrite hget hkey

theorem VMCall.run_prog (call : VMCall ns node) (h : HasLists ns node s l) :
    ∃ t, run Cluster.serve call.prog s = (.ok (), t) ∧ HasLists ns node t (call.edit l) := by
  obtain ⟨vm, hget, hlists⟩ := h
  have hread : Cluster.serve (.getVM ns node) s = (.ok vm, s) := by simp [Cluster.serve, hget]
  rcases call with ⟨cs, rfl, v⟩ | ⟨cs, rfl, v⟩ | ⟨c, rfl, hdecl, old, rfl⟩
  · simp only [VMCall.prog, ControllerServer.addVolumeToVM, Prog.request_bind, run_call, hread]
    split
    · -- nothing is missing
      rename_i hboth
      rw [Bool.and_eq_true, hlists.hasVolume, hlists.hasDisk] at hboth
      have hsame : l.add v = l := by
        rw [VMLists.add, Store.addNew_of_has hboth.1, Store.addNew_of_has hboth.2]
      exact ⟨s, rfl, vm, hget, by rwa [VMCall.edit, hsame]⟩
    · have hpatch := vm.applyPatch_plug (by simp [hlists.1]) (by simp [hlists.2]) v
      obtain ⟨t, hserve, ht⟩ := serve_patchVM hget hpatch (hlists.plug v)
      refine ⟨t, ?_, ht⟩
      rw [run_call, hserve]
      rfl
  · obtain ⟨t, hserve, ht⟩ := serve_patchVM hget (vm.applyPatch_unplug (· = v)) (hlists.unplug _)
    refine ⟨t, ?_, ht⟩
    simp only [VMCall.prog, ControllerServer.removeVolumeFromVM, Prog.request_bind, run_call,
      hread, hserve]
    rfl
  · simp only [VMCall.prog, Controller.removeAllHotplugVolumes,
      Controller.removeAllHotplugVolumesInOrder, Prog.request_bind, run_call, hread, hdecl, if_true]
    split
    · -- there is nothing to remove
      rename_i hnone
      rw [Controller.hotplugNames, List.dedup_eq_nil, List.map_eq_nil_iff,
        hlists.volumeList] at hnone
      have hsame : l.drop l.hotplug = l := VMLists.drop_hotplug_of_none hnone
      exact ⟨s, rfl, vm, hget, by rwa [VMCall.edit, hsame]⟩
    · obtain ⟨t, hserve, ht⟩ := serve_patchVM hget (vm.applyPatch_unplug l.hotplug)
        (hlists.unplug _)
      refine ⟨t, ?_, ht⟩
      have hname : vm.name = old.name := congrArg Prod.snd (Store.get_key hget)
      rw [Controller.removeAllHotplugVolumesByPatch, hname, hlists.isHotplugName,
        Prog.request_bind, run_call, hserve]
      rfl

-- ---------------------------------------------------------------------------
-- Any sequence of calls
-- ---------------------------------------------------------------------------

def VirtualMachine.WellFormed (vm : VirtualMachine) : Prop :=
  ∃ volumes disks, vm.volumes = some volumes ∧ vm.disks = some disks ∧
    (volumes.map Volume.name).Nodup ∧ (disks.map Disk.name).Nodup

theorem VirtualMachine.wellFormed_iff {vm : VirtualMachine} : vm.WellFormed ↔ ∃ l, vm.Has l := by
  constructor
  · rintro ⟨volumes, disks, hvolumes, hdisks, hnames, hnames'⟩
    exact ⟨⟨⟨volumes, hnames⟩, ⟨disks, hnames'⟩⟩, hvolumes, hdisks⟩
  · rintro ⟨l, hvolumes, hdisks⟩
    exact ⟨_, _, hvolumes, hdisks, l.volumes.nodup, l.disks.nodup⟩

def VMStep (ns node : String) (s t : Cluster) : Prop :=
  ∃ call : VMCall ns node, run Cluster.serve call.prog s = (.ok (), t)

/-- Entries of other names keep their content and their order. -/
def KeepsOthers (v : String) (vm vm' : VirtualMachine) : Prop :=
  vm'.volumeList.filter (·.name ≠ v) = vm.volumeList.filter (·.name ≠ v) ∧
    vm'.diskList.filter (·.name ≠ v) = vm.diskList.filter (·.name ≠ v)

def VMCall.Done : VMCall ns node → VirtualMachine → VirtualMachine → Prop
  | .addVolumeToVM _ _ v, vm, vm' =>
    (vm'.volumeList.map Volume.name).count v = 1 ∧ (vm'.diskList.map Disk.name).count v = 1 ∧
      KeepsOthers v vm vm'
  | .removeVolumeFromVM _ _ v, vm, vm' =>
    v ∉ vm'.volumeList.map Volume.name ∧ v ∉ vm'.diskList.map Disk.name ∧ KeepsOthers v vm vm'
  | .removeAllHotplugVolumes .., vm, vm' =>
    vm'.volumeList = vm.volumeList.filter (!·.hotpluggable) ∧
      vm'.diskList = vm.diskList.filter fun d => !vm.isHotplugName d.name

theorem VMCall.done (call : VMCall ns node) {vm vm' : VirtualMachine} (h : vm.Has l)
    (h' : vm'.Has (call.edit l)) : call.Done vm vm' := by
  rcases call with ⟨cs, rfl, v⟩ | ⟨cs, rfl, v⟩ | ⟨c, rfl, hdecl, old, rfl⟩
  · refine ⟨?_, ?_, ?_, ?_⟩
    · rw [h'.volumeList]
      exact l.volumes.count_addNew (hotplugVolume v)
    · rw [h'.diskList]
      exact l.disks.count_addNew (hotplugDisk v)
    · rw [h'.volumeList, h.volumeList]
      exact l.volumes.addNew_others (hotplugVolume v)
    · rw [h'.diskList, h.diskList]
      exact l.disks.addNew_others (hotplugDisk v)
  · simp [VMCall.Done, KeepsOthers, h'.volumeList, h'.diskList, h.volumeList, h.diskList,
      VMCall.edit, VMLists.drop, Store.drop]
  · refine ⟨?_, ?_⟩
    · rw [h'.volumeList, h.volumeList]
      exact l.drop_hotplug_volumes
    · rw [h'.diskList, h.diskList, h.isHotplugName]
      rfl

/-- What holds of a machine that the calls of a sequence have been made on. -/
structure ListLaws (ns node : String) (s : Cluster) (vm : VirtualMachine) : Prop where
  wellFormed : vm.WellFormed
  /-- The next call goes through, whichever it is, and does its own work only. -/
  next : ∀ call : VMCall ns node, ∃ t vm', run Cluster.serve call.prog s = (.ok (), t) ∧
    t.vms.get (ns, node) = some vm' ∧ vm'.WellFormed ∧ call.Done vm vm'
  /-- Taking out what was just put in gives back the lists. -/
  undo : ∀ (cs : ControllerServer) (v : String), cs.ns = ns →
    vm.hasVolume v = false → vm.hasDisk v = false →
    ∃ t u vm', run Cluster.serve (cs.addVolumeToVM node v) s = (.ok (), t) ∧
      run Cluster.serve (cs.removeVolumeFromVM node v) t = (.ok (), u) ∧
      u.vms.get (ns, node) = some vm' ∧ vm'.volumes = vm.volumes ∧ vm'.disks = vm.disks

theorem HasLists.laws (hget : s.vms.get (ns, node) = some vm) (h : vm.Has l) :
    ListLaws ns node s vm where
  wellFormed := VirtualMachine.wellFormed_iff.mpr ⟨l, h⟩
  next := by
    intro call
    obtain ⟨t, hrun, vm', hget', h'⟩ := call.run_prog ⟨vm, hget, h⟩
    exact ⟨t, vm', hrun, hget', VirtualMachine.wellFormed_iff.mpr ⟨_, h'⟩, call.done h h'⟩
  undo := by
    intro cs v hns hvolume hdisk
    rw [h.hasVolume] at hvolume
    rw [h.hasDisk] at hdisk
    let add : VMCall ns node := .addVolumeToVM cs hns v
    let remove : VMCall ns node := .removeVolumeFromVM cs hns v
    obtain ⟨t, hadd, ht⟩ := add.run_prog ⟨vm, hget, h⟩
    obtain ⟨u, hremove, vm', hget', h'⟩ := remove.run_prog ht
    have hback : vm'.Has l := by
      have hedit : remove.edit (add.edit l) = l := VMLists.drop_add hvolume hdisk
      rwa [hedit] at h'
    exact ⟨t, u, vm', hadd, hremove, hget', hback.1.trans h.1.symm, hback.2.trans h.2.symm⟩

theorem VMStep.hasLists (h : VMStep ns node s t) (hs : ∃ l, HasLists ns node s l) :
    ∃ l, HasLists ns node t l := by
  obtain ⟨call, hrun⟩ := h
  obtain ⟨l, hs⟩ := hs
  obtain ⟨u, hrun', hu⟩ := call.run_prog hs
  cases hrun.symm.trans hrun'
  exact ⟨_, hu⟩

/-- After any sequence of calls on a well-formed machine. -/
theorem vm_lists_well_formed (hget : s.vms.get (ns, node) = some vm₀) (hwf : vm₀.WellFormed)
    (h : Relation.ReflTransGen (VMStep ns node) s t) :
    ∃ vm, t.vms.get (ns, node) = some vm ∧ ListLaws ns node t vm := by
  have hlists : ∃ l, HasLists ns node t l := by
    induction h with
    | refl =>
      obtain ⟨l, hl⟩ := VirtualMachine.wellFormed_iff.mp hwf
      exact ⟨l, vm₀, hget, hl⟩
    | tail _ hstep ih => exact hstep.hasLists ih
  obtain ⟨l, vm, hget', hl⟩ := hlists
  exact ⟨vm, hget', HasLists.laws hget' hl⟩

/-- A machine that boots from a volume of its own, and in which a retry finds the
volume `v` without its disk. -/
def halfPlugged : VirtualMachine where
  ns := "ns"
  name := "n"
  volumes := some [⟨"root", .other "containerDisk"⟩, hotplugVolume "v"]
  disks := some [⟨"root", .disk "virtio"⟩]

/-- The retry has added the disk. -/
theorem vm_lists_after_retry :
    let s := Cluster.empty.setVM halfPlugged
    let t := (run Cluster.serve (exampleServer.addVolumeToVM "n" "v") s).2
    ∃ vm, t.vms.get ("ns", "n") = some vm ∧
      vm.diskList = [⟨"root", .disk "virtio"⟩, hotplugDisk "v"] ∧ ListLaws "ns" "n" t vm := by
  intro s t
  have hget : s.vms.get ("ns", "n") = some { halfPlugged with resourceVersion := 1 } := rfl
  have hwf : ({ halfPlugged with resourceVersion := 1 } : VirtualMachine).WellFormed :=
    ⟨_, _, rfl, rfl, by decide, by decide⟩
  have hstep : VMStep "ns" "n" s t := ⟨.addVolumeToVM exampleServer rfl "v", rfl⟩
  obtain ⟨vm, hvm, hlaws⟩ := vm_lists_well_formed hget hwf (.single hstep)
  cases hvm.symm.trans (rfl : t.vms.get ("ns", "n") = some _)
  exact ⟨_, rfl, rfl, hlaws⟩

end HarvesterCSI
