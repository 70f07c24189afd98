import HarvesterCSI.Laws.Effects

/-!
# Volumes that are not the driver's

A machine has volumes and disks of its own beside those that the driver plugs in. Let
`mine` be the names of the volumes that the driver is asked for on the machine and of
those that are hot-pluggable there. Everything else in the two lists stays as it is and
in its order, as long as others leave it alone.
-/

namespace HarvesterCSI

open Calls Calls.Prog

namespace VirtualMachine

def besides (vm : VirtualMachine) (mine : String → Bool) : List Volume × List Disk :=
  (vm.volumeList.filter fun v => !mine v.name, vm.diskList.filter fun d => !mine d.name)

def PluggedOnly (vm : VirtualMachine) (mine : String → Bool) : Prop :=
  ∀ v ∈ vm.volumeList, v.hotpluggable = true → mine v.name = true

instance (vm : VirtualMachine) (mine : String → Bool) : Decidable (vm.PluggedOnly mine) :=
  inferInstanceAs (Decidable (∀ v ∈ vm.volumeList, v.hotpluggable = true → mine v.name = true))

/-- An edit that changes nothing but volumes and disks of these names. -/
structure KeepsBesides (mine : String → Bool) (vm new : VirtualMachine) : Prop where
  key : (new.ns, new.name) = (vm.ns, vm.name)
  plugged : vm.PluggedOnly mine → new.PluggedOnly mine
  same : new.besides mine = vm.besides mine

variable {vm : VirtualMachine} {mine : String → Bool}

theorem Lacks.keepsBesides {new : VirtualMachine} (h : Lacks drop vm new)
    (hdrop : ∀ name, drop name = true → mine name = true) : KeepsBesides mine vm new where
  key := h.key
  plugged hplugged v hv := by
    rw [h.volumes] at hv
    exact hplugged v (List.mem_of_mem_filter hv)
  same := by
    have hmine (name : String) : (!mine name && !drop name) = !mine name := by
      cases hd : drop name with
      | true => simp [hdrop name hd]
      | false => simp
    simp only [besides, h.volumes, h.disks, List.filter_filter, hmine]

theorem Lacks.keepsBesides_of_one {new : VirtualMachine} (h : Lacks (· = v) vm new)
    (hv : mine v = true) : KeepsBesides mine vm new := by
  refine h.keepsBesides fun name hname => ?_
  rw [of_decide_eq_true hname]
  exact hv

theorem append_volume_pluggedOnly (hv : mine v = true) (h : vm.PluggedOnly mine) :
    ∀ w ∈ vm.volumeList ++ [hotplugVolume v], w.hotpluggable = true → mine w.name = true := by
  intro w hw hplug
  rcases List.mem_append.mp hw with hw | hw
  · exact h w hw hplug
  · rw [List.mem_singleton.mp hw]
    exact hv

theorem plugLegacy_keepsBesides (hv : mine v = true) : KeepsBesides mine vm (vm.plugLegacy v) where
  key := rfl
  plugged h := append_volume_pluggedOnly hv h
  same := by
    have hvolume : mine (hotplugVolume v).name = true := hv
    have hdisk : mine (hotplugDisk v).name = true := hv
    simp [besides, plugLegacy, volumeList, diskList, hvolume, hdisk]

theorem plug_keepsBesides (hv : mine v = true) : KeepsBesides mine vm (vm.plug v) where
  key := rfl
  plugged h := by
    unfold PluggedOnly plug volumeList
    split
    · exact h
    · exact append_volume_pluggedOnly hv h
  same := by
    have hvolume : mine (hotplugVolume v).name = true := hv
    have hdisk : mine (hotplugDisk v).name = true := hv
    simp only [besides, plug, volumeList, diskList]
    split <;> split <;> simp [hvolume, hdisk]

theorem isHotplugName_mine {name : String} (h : vm.PluggedOnly mine)
    (hname : vm.isHotplugName name = true) : mine name = true := by
  obtain ⟨v, hv, hplug⟩ := List.any_eq_true.mp hname
  simp only [Bool.and_eq_true, decide_eq_true_eq] at hplug
  exact hplug.1 ▸ h v hv hplug.2

end VirtualMachine

-- ---------------------------------------------------------------------------
-- One machine
-- ---------------------------------------------------------------------------

def KeepsRest (ns node : String) (mine : String → Bool) (s t : Cluster) : Prop :=
  ∀ vm, s.vms.get (ns, node) = some vm → vm.PluggedOnly mine →
    ∃ new, t.vms.get (ns, node) = some new ∧ new.PluggedOnly mine ∧
    new.besides mine = vm.besides mine

theorem KeepsRest.of_same (h : t.vms = s.vms) : KeepsRest ns node mine s t :=
  fun vm hvm hplugged => ⟨vm, h ▸ hvm, hplugged, rfl⟩

theorem KeepsRest.setVM (hfound : s.vms.get (ns, other) = some vm)
    (h : other = node → vm.PluggedOnly mine → vm.KeepsBesides mine new)
    (hkey : (new.ns, new.name) = (vm.ns, vm.name)) : KeepsRest ns node mine s (s.setVM new) := by
  intro vm' hvm' hplugged
  have hvm := Store.get_key hfound
  by_cases hother : other = node
  · subst hother
    cases hfound.symm.trans hvm'
    refine ⟨{ new with resourceVersion := s.rev + 1 }, Store.get_overwrite hfound hkey, ?_, ?_⟩
    · exact (h rfl hplugged).plugged hplugged
    · exact (h rfl hplugged).same
  · refine ⟨vm', ?_, hplugged, rfl⟩
    rw [Cluster.setVM, Store.get_put, if_neg, hvm']
    intro hnode
    exact hother (congrArg Prod.snd (hnode.trans (hkey.trans hvm))).symm

/-- What others may do: anything, under new versions, but to the rest of the machine. -/
def restKept (ns node : String) (mine : String → Bool) : Rely Cluster where
  moves s t := VersionMoves s t ∧ KeepsRest ns node mine s t
  refl s := ⟨versions.refl s, .of_same rfl⟩
  trans h₁ h₂ := by
    refine ⟨versions.trans h₁.1 h₂.1, fun vm hvm hplugged => ?_⟩
    obtain ⟨mid, hmid, hplugged', hsame⟩ := h₁.2 vm hvm hplugged
    obtain ⟨new, hnew, hplugged'', hsame'⟩ := h₂.2 mid hmid hplugged'
    exact ⟨new, hnew, hplugged'', hsame'.trans hsame⟩

def DriverCall.AsksFor (node : String) (mine : String → Bool) : DriverCall → Prop
  | .controllerPublishVolume _ _ req => req.nodeId = node → mine req.volumeId = true
  | .controllerUnpublishVolume req => req.nodeId = node → mine req.volumeId = true
  | _ => True

section
variable {cs : ControllerServer} {node : String} {mine : String → Bool} {s t : Cluster}

def HasOnly (ns node : String) (mine : String → Bool) (s : Cluster) : Prop :=
  ∃ vm, s.vms.get (ns, node) = some vm ∧ vm.PluggedOnly mine

theorem HasOnly.move (h : (restKept ns node mine).moves s t) (hs : HasOnly ns node mine s) :
    HasOnly ns node mine t := by
  obtain ⟨vm, hvm, hplugged⟩ := hs
  obtain ⟨new, hnew, hplugged', -⟩ := h.2 vm hvm hplugged
  exact ⟨new, hnew, hplugged'⟩

def readsMine (node : String) (mine : String → Bool) : Reads where
  volumes _ _ := True
  plugged name v := name = node → mine v = true

theorem HasOnly.cover (hs : HasOnly cs.ns node mine s) : (readsMine node mine).Cover cs s where
  volumes _ _ _ := trivial
  plugged name vm v hvm hv := by
    rintro rfl
    obtain ⟨vm', hvm', hplugged⟩ := hs
    cases hvm.symm.trans hvm'
    exact VirtualMachine.isHotplugName_mine hplugged hv

theorem Effect.keepsRest {call : DriverCall} (hasks : call.AsksFor node mine)
    (h : Effect cs (readsMine node mine) call s t) : KeepsRest cs.ns node mine s t := by
  cases h with
  | plug _ hfound =>
    exact .setVM hfound (fun hnode _ => VirtualMachine.plug_keepsBesides (hasks hnode)) rfl
  | plugLegacy _ hfound =>
    exact .setVM hfound (fun hnode _ => VirtualMachine.plugLegacy_keepsBesides (hasks hnode)) rfl
  | unplug _ hfound =>
    refine .setVM hfound (fun hnode _ => ?_) rfl
    exact (VirtualMachine.unplug_lacks _ _).keepsBesides_of_one (hasks hnode)
  | unplugLegacy _ hfound =>
    refine .setVM hfound (fun hnode _ => ?_) rfl
    exact (VirtualMachine.unplugLegacy_lacks _ _).keepsBesides_of_one (hasks hnode)
  | strip _ _ _ hfound =>
    refine .setVM hfound (fun _ hplugged => ?_) rfl
    exact (VirtualMachine.unplug_lacks _ _).keepsBesides fun _ =>
      VirtualMachine.isHotplugName_mine hplugged
  | stripOne _ _ _ hread hfound =>
    refine .setVM hfound (fun hnode _ => ?_) rfl
    exact (VirtualMachine.unplugLegacy_lacks _ _).keepsBesides_of_one (hread hnode)
  | _ => exact .of_same rfl

end

-- ---------------------------------------------------------------------------
-- Any number of calls
-- ---------------------------------------------------------------------------

/-- The names that a reconcile removes one by one were read while the machine had no
hot-pluggable volumes but these. -/
theorem DriverCall.spares (cs : ControllerServer) (call : DriverCall)
    (hasks : call.AsksFor node mine) (hversioned : Versioned s)
    (hs : HasOnly cs.ns node mine s) :
    Guarantees (restKept cs.ns node mine) Wavers (fun _ _ => True) (call.prog cs) s := by
  have hacts : Acts cs (readsMine node mine) call (call.prog cs) s := call.acts cs hversioned
  have hasked : Guarantees versions
      (fun op s r t => HasOnly cs.ns node mine s ∧ Wavers op s r t)
      (Effect cs (readsMine node mine) call) (call.prog cs) s :=
    hacts.of_api fun _ _ _ _ h => ⟨h.1.cover, h.2⟩
  refine hasked.assuming ?_ (fun _ _ => HasOnly.move) ?_ hs
  · exact fun _ _ hmove => hmove.1
  · exact fun _ _ hmove heffect => ⟨⟨hmove, heffect.keepsRest hasks⟩, trivial⟩

/-- In every run, whatever the calls and whichever way of hot-plugging, the volumes and
disks of a machine that the driver was not asked for stay as they were. -/
theorem foreign_volumes_kept [DecidableEq ι] (cs : ControllerServer) (calls : ι → DriverCall)
    (node : String) (mine : String → Bool) (hasks : ∀ i, (calls i).AsksFor node mine) (s₀ : Cluster)
    (hs : Versioned s₀) (hvm : s₀.vms.get (cs.ns, node) = some vm₀)
    (hplugged : vm₀.PluggedOnly mine)
    (h : Reach (restKept cs.ns node mine).moves Wavers anyStep (driverCalls cs calls s₀) c) :
    ∃ vm, c.state.vms.get (cs.ns, node) = some vm ∧ vm.besides mine = vm₀.besides mine := by
  have hstart (i : ι) : Guarantees (restKept cs.ns node mine) Wavers (fun _ _ => True)
      ((driverCalls cs calls s₀).procs i) (driverCalls cs calls s₀).state :=
    (calls i).spares cs (hasks i) hs ⟨vm₀, hvm, hplugged⟩
  obtain ⟨vm, hvm', -, hsame⟩ := (h.relies (fun _ _ hmove => hmove) hstart rfl).2 vm₀ hvm hplugged
  exact ⟨vm, hvm', hsame⟩

/-- The machine still boots from its own volume when `v` has been plugged in. -/
theorem foreign_volumes_kept_of_two :
    let mine (name : String) : Bool := name = "v" || name = "w"
    ∃ vm, plugBeforeUnplug.state.vms.get ("ns", "n") = some vm ∧ vm.hasVolume "v" = true ∧
      vm.besides mine = ([⟨"root", .other "containerDisk"⟩], [⟨"root", .disk "virtio"⟩]) := by
  intro mine
  have hasks (i : Bool) : (plugAndUnplug i).AsksFor "n" mine := by
    cases i <;> exact fun _ => rfl
  have hvm : pluggedCluster.vms.get ("ns", "n") = some _ := rfl
  obtain ⟨vm, hget, hsame⟩ := foreign_volumes_kept exampleServer plugAndUnplug "n" mine hasks
    pluggedCluster pluggedCluster_versioned hvm (by decide) plugBeforeUnplug_reach
  cases hget.symm.trans (rfl : plugBeforeUnplug.state.vms.get ("ns", "n") = some _)
  exact ⟨_, rfl, rfl, hsame⟩

end HarvesterCSI
