import HarvesterCSI.Laws.VMLists

/-!
# Two ways to take out all hot-plugged volumes

One patch takes them all out at once. The older subresource takes out one volume
at a time, in the order of a Go map, and may fail on the way; the names are then
read again. What is taken out so far is described by the set of its names.
-/

namespace HarvesterCSI

open Calls

-- ---------------------------------------------------------------------------
-- What is in the lists
-- ---------------------------------------------------------------------------

namespace VMLists

theorem drop_drop (l : VMLists) (p q : String → Bool) :
    (l.drop p).drop q = l.drop fun name => p name || q name := by
  simp only [drop, Store.drop_drop]

theorem hotplug_drop (l : VMLists) (p : String → Bool) (name : String) :
    (l.drop p).hotplug name = (l.hotplug name && !p name) := by
  rw [Bool.eq_iff_iff]
  simp only [hotplug, drop, Store.drop, List.any_filter, List.any_eq_true, Bool.and_eq_true,
    decide_eq_true_eq]
  constructor
  · rintro ⟨v, hv, hp, rfl, hplug⟩
    exact ⟨⟨v, hv, rfl, hplug⟩, hp⟩
  · rintro ⟨⟨v, hv, rfl, hplug⟩, hp⟩
    exact ⟨v, hv, hp, rfl, hplug⟩

theorem drop_rest (l : VMLists) {p : String → Bool}
    (hp : ∀ name, p name = true → l.hotplug name = true) :
    (l.drop p).drop (l.drop p).hotplug = l.drop l.hotplug := by
  rw [drop_drop]
  congr 1
  funext name
  rw [hotplug_drop]
  cases hname : p name with
  | true => simp [hp name hname]
  | false => simp

theorem has_of_hotplug {l : VMLists} (h : l.hotplug name = true) : l.volumes.has name = true := by
  obtain ⟨v, hv, hname⟩ := List.any_eq_true.mp h
  exact List.any_eq_true.mpr ⟨v, hv, (Bool.and_eq_true _ _ ▸ hname).1⟩

end VMLists

/-- The volumes and disks of a machine, one that is absent read as empty. -/
def listsIn (ns node : String) (s : Cluster) : Option (List Volume × List Disk) :=
  (s.vms.get (ns, node)).map fun vm => (vm.volumeList, vm.diskList)

def ReadsLists (ns node : String) (s : Cluster) (l : VMLists) : Prop :=
  listsIn ns node s = some (l.volumes.items, l.disks.items)

theorem ReadsLists.get (h : ReadsLists ns node s l) :
    ∃ vm, s.vms.get (ns, node) = some vm ∧ vm.volumeList = l.volumes.items ∧
      vm.diskList = l.disks.items := by
  obtain ⟨vm, hvm, hlists⟩ := Option.map_eq_some_iff.mp h
  exact ⟨vm, hvm, congrArg Prod.fst hlists, congrArg Prod.snd hlists⟩

theorem ReadsLists.of_nodup (hget : s.vms.get (ns, node) = some vm)
    (hvolumes : (vm.volumeList.map Volume.name).Nodup)
    (hdisks : (vm.diskList.map Disk.name).Nodup) :
    ReadsLists ns node s ⟨⟨vm.volumeList, hvolumes⟩, ⟨vm.diskList, hdisks⟩⟩ := by
  simp [ReadsLists, listsIn, hget]

theorem ReadsLists.setVM {s : Cluster} {vm new : VirtualMachine} {l : VMLists}
    (hget : s.vms.get (ns, node) = some vm) (hvolumes : vm.volumeList = l.volumes.items)
    (hdisks : vm.diskList = l.disks.items) (hnew : vm.Lacks p new) :
    ReadsLists ns node (s.setVM new) (l.drop p) := by
  have hget' : (s.setVM new).vms.get (ns, node) = some { new with resourceVersion := s.rev + 1 } :=
    Store.get_overwrite hget hnew.key
  have hnewVolumes : new.volumeList = (l.drop p).volumes.items := by
    rw [hnew.volumes, hvolumes]; rfl
  have hnewDisks : new.diskList = (l.drop p).disks.items := by rw [hnew.disks, hdisks]; rfl
  rw [ReadsLists, listsIn, hget', Option.map_some, ← hnewVolumes, ← hnewDisks]
  rfl

/-- The lists still have all volumes and disks but some that `P` names. -/
def LacksOnly (P : String → Prop) (ns node : String) (l : VMLists) (s : Cluster) : Prop :=
  ∃ p : String → Bool, (∀ name, p name = true → P name) ∧ ReadsLists ns node s (l.drop p)

theorem ReadsLists.lacksOnly {P : String → Prop} (h : ReadsLists ns node s l) :
    LacksOnly P ns node l s := by
  refine ⟨fun _ => false, ?_, ?_⟩
  · rintro name ⟨⟩
  · rwa [VMLists.drop_of_none _ fun _ => rfl]

theorem LacksOnly.of_drop {P Q : String → Prop} {p : String → Bool}
    (hp : ∀ name, p name = true → P name) (hQ : ∀ name, Q name → P name)
    (h : LacksOnly Q ns node (l.drop p) s) : LacksOnly P ns node l s := by
  obtain ⟨q, hq, hs⟩ := h
  rw [VMLists.drop_drop] at hs
  refine ⟨_, ?_, hs⟩
  intro name hname
  rcases Bool.or_eq_true_iff.mp hname with hname | hname
  · exact hp name hname
  · exact hQ name (hq name hname)

theorem isHotplugName_eq {vm : VirtualMachine} {l : VMLists}
    (hvolumes : vm.volumeList = l.volumes.items) :
    vm.isHotplugName = l.hotplug := by
  funext name
  rw [VirtualMachine.isHotplugName, hvolumes, VMLists.hotplug]

theorem mem_hotplugNames_iff {vm : VirtualMachine} {l : VMLists}
    (hvolumes : vm.volumeList = l.volumes.items) :
    name ∈ Controller.hotplugNames vm ↔ l.hotplug name = true := by
  rw [mem_hotplugNames, isHotplugName_eq hvolumes]

-- ---------------------------------------------------------------------------
-- One volume
-- ---------------------------------------------------------------------------

theorem serve_removeVolumeVM (h : ReadsLists ns node s l) (hname : l.volumes.has name = true) :
    ∃ t, Cluster.serve (.removeVolumeVM ns node name) s = (.ok (), t) ∧
      ReadsLists ns node t (l.drop (· = name)) := by
  obtain ⟨vm, hget, hvolumes, hdisks⟩ := h.get
  have hany : (vm.volumeList.any (·.name = name)) = true := by rwa [hvolumes]
  have hserve : Cluster.serve (.removeVolumeVM ns node name) s =
    (.ok (), s.setVM (vm.unplugLegacy name)) := by
    simp only [Cluster.serve, hget, hany, if_true]
    rfl
  exact ⟨_, hserve, .setVM hget hvolumes hdisks (vm.unplugLegacy_lacks name)⟩

theorem serve_removeVolumeVM_absent (h : ReadsLists ns node s l)
    (hname : l.volumes.has name = false) :
    (Cluster.serve (.removeVolumeVM ns node name) s).2 = s := by
  obtain ⟨vm, hget, hvolumes, -⟩ := h.get
  have hany : (vm.volumeList.any (·.name = name)) = false := by rwa [hvolumes]
  simp only [Cluster.serve, hget, hany, Bool.false_eq_true, if_false]

/-- However the call ends, the volume is out, or nothing is. -/
theorem Wavers.removeVolumeVM (h : Wavers (.removeVolumeVM ns node name) s r t)
    (hs : ReadsLists ns node s l) :
    ReadsLists ns node t l ∨ ReadsLists ns node t (l.drop (· = name)) := by
  rcases h.state with rfl | rfl
  · exact .inl hs
  · cases hname : l.volumes.has name with
    | true =>
      obtain ⟨t, hserve, ht⟩ := serve_removeVolumeVM hs hname
      exact .inr (by rwa [hserve])
    | false => exact .inl (by rwa [serve_removeVolumeVM_absent hs hname])

-- ---------------------------------------------------------------------------
-- All volumes
-- ---------------------------------------------------------------------------

section
variable {c : Controller} {vm : VirtualMachine}

theorem run_removeBySubresource (names : List String) (hnodup : names.Nodup)
    (hs : ReadsLists c.ns vm.name s l) (hnames : ∀ name ∈ names, l.volumes.has name = true) :
    ∃ t, run Cluster.serve (c.removeAllHotplugVolumesBySubresource vm names) s = (.ok (), t) ∧
      ReadsLists c.ns vm.name t (l.drop (· ∈ names)) := by
  induction names generalizing s l with
  | nil => exact ⟨s, rfl, by rwa [VMLists.drop_of_none l (by simp)]⟩
  | cons name names ih =>
    obtain ⟨hname, hnodup⟩ := List.nodup_cons.mp hnodup
    obtain ⟨s₁, hserve, hs₁⟩ := serve_removeVolumeVM hs (hnames name List.mem_cons_self)
    have hrest : ∀ other ∈ names, (l.drop (· = name)).volumes.has other = true := by
      intro other hother
      have hne : other ≠ name := fun he => hname (he ▸ hother)
      rw [VMLists.drop, Store.has_drop, hnames other (List.mem_cons_of_mem _ hother)]
      simp [hne]
    obtain ⟨t, hrun, ht⟩ := ih hnodup hs₁ hrest
    refine ⟨t, ?_, ?_⟩
    · simp only [Controller.removeAllHotplugVolumesBySubresource, Prog.request_bind, run_call,
        hserve, hrun]
    · rw [VMLists.drop_drop] at ht
      simpa [Bool.decide_or] using ht

theorem run_removeBySubresource_all (hvolumes : vm.volumeList = l.volumes.items)
    (hnames : names.Perm (Controller.hotplugNames vm)) (hs : ReadsLists c.ns vm.name s l) :
    ∃ t, run Cluster.serve (c.removeAllHotplugVolumesBySubresource vm names) s = (.ok (), t) ∧
      ReadsLists c.ns vm.name t (l.drop l.hotplug) := by
  have hmem (name : String) : name ∈ names ↔ l.hotplug name = true :=
    hnames.mem_iff.trans (mem_hotplugNames_iff hvolumes)
  have hdrop : l.drop (· ∈ names) = l.drop l.hotplug := by
    congr 1
    funext name
    rw [Bool.eq_iff_iff, decide_eq_true_iff]
    exact hmem name
  rw [← hdrop]
  refine run_removeBySubresource names (hnames.nodup_iff.mpr (List.nodup_dedup _)) hs ?_
  intro name hin
  exact VMLists.has_of_hotplug ((hmem name).mp hin)

theorem runs_removeBySubresource (names : List String) (hs : ReadsLists c.ns vm.name s l)
    (h : Runs Eq Wavers (c.removeAllHotplugVolumesBySubresource vm names) s o t) :
    LacksOnly (· ∈ names) c.ns vm.name l t := by
  induction names generalizing s l with
  | nil =>
    obtain ⟨-, rfl⟩ := h
    exact hs.lacksOnly
  | cons name names ih =>
    obtain ⟨_, r, s₁, rfl, hcall, h⟩ := h.request
    -- what this call has taken out, whatever it answered
    obtain ⟨p, hp, hs₁⟩ : LacksOnly (· = name) c.ns vm.name l s₁ := by
      rcases hcall.removeVolumeVM hs with hs₁ | hs₁
      · exact hs₁.lacksOnly
      · exact ⟨(· = name), by simp, hs₁⟩
    have hfirst (other : String) (ho : p other = true) : other ∈ name :: names :=
      hp other ho ▸ List.mem_cons_self
    cases r with
    | error e =>
      obtain ⟨-, rfl⟩ := h
      exact ⟨p, hfirst, hs₁⟩
    | ok u => exact (ih hs₁ h).of_drop hfirst fun other ho => List.mem_cons_of_mem _ ho

/-- One try: the machine is read again and the names are visited in some order,
on a server that may waver. -/
def Try (c : Controller) (vm : VirtualMachine) (s t : Cluster) : Prop :=
  ∃ (order : List String → List String) (o : Outcome Err Unit),
  (∀ names, (order names).Perm names) ∧
    Runs Eq Wavers (c.removeAllHotplugVolumesInOrder order vm) s o t

theorem Try.lists (hlegacy : c.useDeclarativeHotplug = false) (h : Try c vm s t)
    (hs : ReadsLists c.ns vm.name s l) : LacksOnly (l.hotplug · = true) c.ns vm.name l t := by
  obtain ⟨order, o, horder, h⟩ := h
  obtain ⟨vm', hget, hvolumes, -⟩ := hs.get
  have hread : Cluster.serve (.getVM c.ns vm.name) s = (.ok vm', s) := by simp [Cluster.serve, hget]
  obtain ⟨_, r, s₁, rfl, hcall, h⟩ := h.request
  obtain rfl : s₁ = s := by simpa [hread] using hcall.state
  cases r with
  | error e =>
    obtain ⟨-, rfl⟩ := h
    exact hs.lacksOnly
  | ok latestVM =>
    obtain rfl : latestVM = vm' := by
      rcases hcall with hserve | ⟨-, e, he⟩
      · simpa using (hserve.symm.trans hread)
      · cases he
    dsimp only at h
    split at h
    · obtain ⟨-, rfl⟩ := h
      exact hs.lacksOnly
    · rw [hlegacy, if_neg Bool.false_ne_true] at h
      have hname : latestVM.name = vm.name := congrArg Prod.snd (Store.get_key hget)
      rw [← hname] at hs ⊢
      obtain ⟨p, hp, ht⟩ := runs_removeBySubresource _ hs h
      refine ⟨p, fun name hpn => ?_, ht⟩
      exact (mem_hotplugNames_iff hvolumes).mp ((horder _).mem_iff.mp (hp name hpn))

/-- Any number of tries takes out some of the hot-plugged volumes and nothing else. -/
theorem tries_lists (hlegacy : c.useDeclarativeHotplug = false)
    (h : Relation.ReflTransGen (Try c vm) s t) (hs : ReadsLists c.ns vm.name s l) :
    LacksOnly (l.hotplug · = true) c.ns vm.name l t := by
  induction h with
  | refl => exact hs.lacksOnly
  | tail _ htry ih =>
    obtain ⟨p, hp, ht⟩ := ih
    refine (htry.lists hlegacy ht).of_drop hp fun name hname => ?_
    rw [VMLists.hotplug_drop, Bool.and_eq_true] at hname
    exact hname.1

theorem run_removeAllInOrder (hlegacy : c.useDeclarativeHotplug = false)
    {order : List String → List String} (horder : ∀ names, (order names).Perm names)
    (hs : ReadsLists c.ns vm.name s l) :
    ∃ t, run Cluster.serve (c.removeAllHotplugVolumesInOrder order vm) s = (.ok (), t) ∧
      ReadsLists c.ns vm.name t (l.drop l.hotplug) := by
  obtain ⟨vm', hget, hvolumes, -⟩ := hs.get
  have hread : Cluster.serve (.getVM c.ns vm.name) s = (.ok vm', s) := by simp [Cluster.serve, hget]
  simp only [Controller.removeAllHotplugVolumesInOrder, Prog.request_bind, run_call, hread, hlegacy,
    Bool.false_eq_true, if_false]
  split
  · rename_i hnone
    have hplugged (name) : l.hotplug name = false := by
      rw [← isHotplugName_eq hvolumes]
      exact isHotplugName_eq_false hnone name
    exact ⟨s, rfl, by rwa [VMLists.drop_of_none l hplugged]⟩
  · have hname : vm'.name = vm.name := congrArg Prod.snd (Store.get_key hget)
    rw [← hname] at hs ⊢
    exact run_removeBySubresource_all hvolumes (horder _) hs

-- ---------------------------------------------------------------------------
-- The patch
-- ---------------------------------------------------------------------------

/-- Also when a list was never set: the patch sets it. -/
theorem run_removeByPatch_all {l : VMLists} (hget : s.vms.get (c.ns, vm.name) = some vm)
    (hvolumes : vm.volumeList = l.volumes.items) (hdisks : vm.diskList = l.disks.items) :
    ReadsLists c.ns vm.name (run Cluster.serve (c.removeAllHotplugVolumesByPatch vm) s).2
      (l.drop l.hotplug) := by
  have hserve :
      Cluster.serve (.patchVM c.ns vm.name (ControllerServer.removePatch vm vm.isHotplugName)) s =
      (.ok (), s.setVM (vm.unplug vm.isHotplugName)) := by
    simp only [Cluster.serve, hget, vm.applyPatch_unplug]
  rw [Controller.removeAllHotplugVolumesByPatch, Prog.request_bind, run_call, hserve,
    ← isHotplugName_eq hvolumes]
  exact .setVM hget hvolumes hdisks (vm.unplug_lacks _)

-- ---------------------------------------------------------------------------
-- The comparison
-- ---------------------------------------------------------------------------

/-- The two ways leave the same volumes and disks, the one by one way in every order
and also when it takes several tries. -/
structure UnplugAgrees (c : Controller) (vm : VirtualMachine) (s : Cluster) : Prop where
  orders : ∀ names, names.Perm (Controller.hotplugNames vm) → ∃ t,
    run Cluster.serve (c.removeAllHotplugVolumesBySubresource vm names) s = (.ok (), t) ∧
      listsIn c.ns vm.name t =
        listsIn c.ns vm.name (run Cluster.serve (c.removeAllHotplugVolumesByPatch vm) s).2
  again : ∀ (order : List String → List String) (s' : Cluster),
    (∀ names, (order names).Perm names) → Relation.ReflTransGen (Try c vm) s s' → ∃ t,
      run Cluster.serve (c.removeAllHotplugVolumesInOrder order vm) s' = (.ok (), t) ∧
        listsIn c.ns vm.name t =
          listsIn c.ns vm.name (run Cluster.serve (c.removeAllHotplugVolumesByPatch vm) s).2

end

/-- The two ways agree on every machine, whatever was taken out on the way. -/
theorem unplugAgrees {c : Controller} (hlegacy : c.useDeclarativeHotplug = false)
    (hget : s.vms.get (c.ns, vm.name) = some vm) (hvolumes : (vm.volumeList.map Volume.name).Nodup)
    (hdisks : (vm.diskList.map Disk.name).Nodup) : UnplugAgrees c vm s := by
  let l : VMLists := ⟨⟨vm.volumeList, hvolumes⟩, ⟨vm.diskList, hdisks⟩⟩
  have hs : ReadsLists c.ns vm.name s l := .of_nodup hget hvolumes hdisks
  have hpatch := run_removeByPatch_all (l := l) hget rfl rfl
  constructor
  · intro names hnames
    obtain ⟨t, hrun, ht⟩ := run_removeBySubresource_all (l := l) rfl hnames hs
    exact ⟨t, hrun, ht.trans hpatch.symm⟩
  · intro order s' horder htries
    obtain ⟨p, hp, hs'⟩ := tries_lists hlegacy htries hs
    obtain ⟨t, hrun, ht⟩ := run_removeAllInOrder hlegacy horder hs'
    rw [l.drop_rest hp] at ht
    exact ⟨t, hrun, ht.trans hpatch.symm⟩

def legacyController : Controller := ⟨"ns", false⟩

/-- A machine with a volume of its own and two hot-plugged ones, whose disks were never
set. -/
def disklessMachine : VirtualMachine where
  ns := "ns"
  name := "n"
  resourceVersion := 1
  volumes := some [⟨"root", .other "containerDisk"⟩, hotplugVolume "v", hotplugVolume "w"]
  disks := none

theorem unplugAgrees_diskless :
    let s := Cluster.empty.setVM disklessMachine
    UnplugAgrees legacyController disklessMachine s ∧
      listsIn "ns" "n" (run Cluster.serve
          (legacyController.removeAllHotplugVolumesByPatch disklessMachine) s).2 =
        some ([⟨"root", .other "containerDisk"⟩], []) :=
  ⟨unplugAgrees rfl rfl (by decide) (by decide), by decide⟩

end HarvesterCSI
