import HarvesterCSI.Driver
import HarvesterCSI.Laws.Growth
import HarvesterCSI.Laws.Hotplug
import HarvesterCSI.Laws.Staging

/-!
# A node as a table of mounts

For each path there are the number of mounts on it and whether it is a directory or a
file. The calls that put volumes on paths and take them off, for all kinds of volumes and
on any number of paths, come to a few edits of this table. None of the paths lies in
another one.
-/

namespace HarvesterCSI

open Calls Calls.Prog

-- ---------------------------------------------------------------------------
-- The table
-- ---------------------------------------------------------------------------

@[ext] structure MountTable where
  layers : String → Nat
  dir : String → Bool
  file : String → Bool

namespace MountTable

def there (a : MountTable) (p : String) : Bool := a.dir p || a.file p

def mount (a : MountTable) (p : String) : MountTable :=
  { a with layers := Function.update a.layers p (a.layers p + 1) }

def unmount (a : MountTable) (p : String) : MountTable :=
  { a with layers := Function.update a.layers p (a.layers p - 1) }

def mkdir (a : MountTable) (p : String) : MountTable :=
  { a with dir := fun q => q ∈ p :: ancestors p || a.dir q }

def ensure (a : MountTable) (p : String) : MountTable := if a.there p then a else a.mkdir p

def touch (a : MountTable) (p : String) : MountTable :=
  { a with file := Function.update a.file p true }

def clear (a : MountTable) (p : String) : MountTable where
  layers := Function.update a.layers p 0
  dir := Function.update a.dir p false
  file := Function.update a.file p false

def mountOnce (a : MountTable) (p : String) : MountTable :=
  if a.layers p = 0 then (a.ensure p).mount p else a

end MountTable

/-- Staging paths are made by others, and stay. Target paths are made and removed. -/
inductive PathUse
  | staging
  | target
  deriving DecidableEq, Repr

/-- The paths that the calls on a node are about. None lies in another one. -/
structure Layout where
  use : String → Option PathUse
  apart : ∀ {p q u v}, use p = some u → use q = some v → below p q = false

inductive DiskState
  | noInstance
  | notReady
  | notFound
  | device (path : String)
  deriving DecidableEq, Repr

def DiskState.refusal : DiskState → Option Code
  | .noInstance | .notFound => some .internal
  | .notReady => some .aborted
  | .device _ => none

/-- A node: the volumes whose export can be mounted, their disks, whether the kernel
refuses to mount an export twice on one path, and the paths. -/
structure NodeSite where
  exported : String → Bool
  disk : String → DiskState
  refuses : Bool
  layout : Layout

inductive MountStep
  | stage (req : NodeStageRequest)
  | unstage (req : NodeUnstageRequest)
  | publish (req : NodePublishRequest)
  | unpublish (req : NodeUnpublishRequest)

def growable (fsType : String) : Bool := fsType = fsTypeExt4 || fsType = fsTypeXFS

/-- A block device is bound each time, a file system is mounted only once. One that cannot
be grown is mounted all the same. -/
def MountTable.publishDevice (a : MountTable) (cap : NodeCapability) (p : String) :
    Verdict × MountTable :=
  if cap.block then
    let b := a.ensure (filepathDir p)
    if b.dir p || !b.dir (filepathDir p) then (.code .internal, b) else (.ok, (b.touch p).mount p)
  else if cap.mount then
    (if a.layers p = 0 ∧ growable (if cap.mountFsType = "" then "ext4" else cap.mountFsType) = false
      then .code .internal else .ok, a.mountOnce p)
  else (.code .invalidArgument, a)

namespace NodeSite
variable (site : NodeSite)

def publish (req : NodePublishRequest) (cap : NodeCapability) (a : MountTable) :
    Verdict × MountTable :=
  if cap.mode = .multiNodeMultiWriter then
    if req.stagingTargetPath = "" then (.code .invalidArgument, a)
    else (.ok, a.mountOnce req.targetPath)
  else if cap.mode = .singleNodeWriter then
    match (site.disk req.volumeId).refusal with
    | some code => (.code code, a)
    | none => a.publishDevice cap req.targetPath
  else (.code .invalidArgument, a)

def spec : MountStep → MountTable → Verdict × MountTable
  | .stage req, a =>
    match req.volumeCapability with
    | none => (.code .invalidArgument, a)
    | some cap =>
      if cap.mode ≠ .multiNodeMultiWriter then (.ok, a)
      else if req.stagingTargetPath = "" then (.code .invalidArgument, a)
      else if !site.exported req.volumeId ||
          (site.refuses && a.layers req.stagingTargetPath ≠ 0) then
        (.code .internal, a)
      else (.ok, a.mount req.stagingTargetPath)
  | .unstage req, a =>
    if req.stagingTargetPath = "" then (.code .invalidArgument, a)
    else (.ok, a.unmount req.stagingTargetPath)
  | .publish req, a =>
    if req.targetPath = "" then (.code .invalidArgument, a)
    else match req.volumeCapability with
      | none => (.code .invalidArgument, a)
      | some cap => site.publish req cap a
  | .unpublish req, a =>
    if req.volumeId = "" ∨ req.targetPath = "" then (.code .invalidArgument, a)
    else (.ok, a.clear req.targetPath)

end NodeSite

namespace Layout
variable (l : Layout)

def Fits : MountStep → Prop
  | .stage req => req.stagingTargetPath = "" ∨ l.use req.stagingTargetPath = some .staging
  | .unstage req => req.stagingTargetPath = "" ∨ l.use req.stagingTargetPath = some .staging
  | .publish req => (req.targetPath = "" ∨ l.use req.targetPath = some .target) ∧
      (req.stagingTargetPath = "" ∨ l.use req.stagingTargetPath = some .staging)
  | .unpublish req => req.targetPath = "" ∨ l.use req.targetPath = some .target

/-- What is mounted on is there, and so are the staging paths. There is nothing in a target
path, and nothing is mounted in a staging path. A file among these paths is one that a
device is on, and no target path lies in a file. -/
structure Kept (a : MountTable) : Prop where
  sound : ∀ p, a.layers p ≠ 0 → a.there p = true
  staging : ∀ p, l.use p = some .staging → a.dir p = true
  empty : ∀ p q, l.use p = some .target → below p q = true → a.there q = false
  free : ∀ p q, l.use p = some .staging → below p q = true → a.layers q = 0
  files : ∀ p u, l.use p = some u → a.file p = true → u = .target ∧ a.layers p ≠ 0
  above : ∀ p q, l.use p = some .target → below q p = true → a.file q = false

end Layout

-- ---------------------------------------------------------------------------
-- What the edits keep
-- ---------------------------------------------------------------------------

namespace MountTable
variable {l : Layout} {a : MountTable} {p q : String}

theorem there_mkdir (a : MountTable) (p q : String) :
    (a.mkdir p).there q = (decide (q ∈ p :: ancestors p) || a.there q) := by
  simp only [there, mkdir, Bool.or_assoc]

theorem there_ensure (a : MountTable) (p : String) : (a.ensure p).there p = true := by
  unfold ensure
  split
  · assumption
  · simp [there_mkdir]

theorem mkdir_kept (h : l.Kept a) (hp : ∀ t, l.use t = some .target → below t p = false) :
    l.Kept (a.mkdir p) where
  sound q hq := by simp [there_mkdir, h.sound q hq]
  staging q hq := by simp [mkdir, h.staging q hq]
  empty t q ht hbelow := by
    have hnew : q ∉ p :: ancestors p := by
      intro hq
      rcases List.mem_cons.mp hq with rfl | hq
      · simp [hp t ht] at hbelow
      · exact absurd (below_trans hbelow (mem_ancestors hq)) (by simp [hp t ht])
    simp [there_mkdir, hnew, h.empty t q ht hbelow]
  free := h.free
  files := h.files
  above := h.above

theorem ensure_kept (h : l.Kept a) (hp : ∀ t, l.use t = some .target → below t p = false) :
    l.Kept (a.ensure p) := by
  unfold ensure
  split
  · exact h
  · exact mkdir_kept h hp

theorem mount_kept (h : l.Kept a) (hthere : a.there p = true) (hp : l.use p = some u) :
    l.Kept (a.mount p) where
  sound q hq := by
    by_cases hqp : q = p
    · exact hqp ▸ hthere
    · exact h.sound q (by simpa [mount, hqp] using hq)
  staging := h.staging
  empty := h.empty
  free t q ht hbelow := by
    by_cases hqp : q = p
    · simp [hqp, l.apart ht hp] at hbelow
    · simp [mount, hqp, h.free t q ht hbelow]
  files q v hv hfile := by
    obtain ⟨rfl, hlayers⟩ := h.files q v hv hfile
    refine ⟨rfl, ?_⟩
    by_cases hqp : q = p
    · simp [mount, hqp]
    · simpa [mount, hqp] using hlayers
  above := h.above

theorem unmount_kept (h : l.Kept a) (hp : l.use p = some .staging) : l.Kept (a.unmount p) where
  sound q hq := by
    refine h.sound q fun hnone => hq ?_
    by_cases hqp : q = p
    · subst hqp
      simp [unmount, hnone]
    · simpa [unmount, hqp] using hnone
  staging := h.staging
  empty := h.empty
  free t q ht hbelow := by
    have hnone := h.free t q ht hbelow
    by_cases hqp : q = p
    · simp [unmount, hqp, hqp ▸ hnone]
    · simpa [unmount, hqp] using hnone
  files q u hu hfile := by
    obtain ⟨rfl, hlayers⟩ := h.files q u hu hfile
    have hqp : q ≠ p := by
      rintro rfl
      simp [hp] at hu
    exact ⟨rfl, by simpa [unmount, hqp] using hlayers⟩
  above := h.above

theorem bind_kept (h : l.Kept a) (hp : l.use p = some .target) : l.Kept ((a.touch p).mount p) where
  sound q hq := by
    by_cases hqp : q = p
    · simp [there, touch, mount, hqp]
    · have hthere := h.sound q (by simpa [touch, mount, hqp] using hq)
      simpa [there, touch, mount, hqp] using hthere
  staging := h.staging
  empty t q ht hbelow := by
    by_cases hqp : q = p
    · simp [hqp, l.apart ht hp] at hbelow
    · simpa [there, touch, mount, hqp] using h.empty t q ht hbelow
  free t q ht hbelow := by
    by_cases hqp : q = p
    · simp [hqp, l.apart ht hp] at hbelow
    · simp [touch, mount, hqp, h.free t q ht hbelow]
  files q u hu hfile := by
    by_cases hqp : q = p
    · subst hqp
      exact ⟨Option.some.inj (hu.symm.trans hp), by simp [mount]⟩
    · simpa [touch, mount, hqp] using h.files q u hu (by simpa [touch, mount, hqp] using hfile)
  above t q ht hbelow := by
    have hqp : q ≠ p := by
      rintro rfl
      simp [l.apart hp ht] at hbelow
    simpa [touch, mount, hqp] using h.above t q ht hbelow

theorem clear_kept (h : l.Kept a) (hp : l.use p = some .target) : l.Kept (a.clear p) where
  sound q hq := by
    have hqp : q ≠ p := by
      rintro rfl
      simp [clear] at hq
    simpa [there, clear, hqp] using h.sound q (by simpa [clear, hqp] using hq)
  staging q hq := by
    have hqp : q ≠ p := by
      rintro rfl
      simp [hp] at hq
    simpa [clear, hqp] using h.staging q hq
  empty t q ht hbelow := by
    by_cases hqp : q = p
    · simp [there, clear, hqp]
    · simpa [there, clear, hqp] using h.empty t q ht hbelow
  free t q ht hbelow := by
    by_cases hqp : q = p
    · simp [clear, hqp]
    · simpa [clear, hqp] using h.free t q ht hbelow
  files q u hu hfile := by
    by_cases hqp : q = p
    · simp [clear, hqp] at hfile
    · simpa [clear, hqp] using h.files q u hu (by simpa [clear, hqp] using hfile)
  above t q ht hbelow := by
    by_cases hqp : q = p
    · simp [clear, hqp]
    · simpa [clear, hqp] using h.above t q ht hbelow

theorem mountOnce_kept (h : l.Kept a) (hp : l.use p = some .target) : l.Kept (a.mountOnce p) := by
  unfold mountOnce
  split
  · exact mount_kept (ensure_kept h fun t ht => l.apart ht hp) (a.there_ensure p) hp
  · exact h

theorem publishDevice_kept (h : l.Kept a) (cap : NodeCapability) (hp : l.use p = some .target) :
    l.Kept (a.publishDevice cap p).2 := by
  unfold publishDevice
  have houtside (t : String) (ht : l.use t = some .target) : below t (filepathDir p) = false := by
    refine Bool.eq_false_iff.mpr fun hbelow => ?_
    exact absurd (below_of_filepathDir hbelow) (by simp [l.apart ht hp])
  have hparent := ensure_kept h houtside
  split
  · dsimp only
    split
    · exact hparent
    · exact bind_kept hparent hp
  · split
    · exact mountOnce_kept h hp
    · exact h

end MountTable

theorem NodeSite.publish_kept {site : NodeSite} {a : MountTable} (h : site.layout.Kept a)
    {req : NodePublishRequest} (hp : site.layout.use req.targetPath = some .target)
    (cap : NodeCapability) :
    site.layout.Kept (site.publish req cap a).2 := by
  unfold NodeSite.publish
  split
  · split
    · exact h
    · exact MountTable.mountOnce_kept h hp
  · split
    · split
      · exact h
      · exact MountTable.publishDevice_kept h cap hp
    · exact h

theorem NodeSite.spec_kept {site : NodeSite} {a : MountTable} (h : site.layout.Kept a)
    {i : MountStep} (hi : site.layout.Fits i) : site.layout.Kept (site.spec i a).2 := by
  cases i with
  | stage req =>
    simp only [spec]
    split
    · exact h
    · split
      · exact h
      · split
        · exact h
        · split
          · exact h
          · next hpath _ =>
            have hstaging := hi.resolve_left hpath
            exact MountTable.mount_kept h (by simp [MountTable.there, h.staging _ hstaging])
              hstaging
  | unstage req =>
    simp only [spec]
    split
    · exact h
    · next hpath => exact MountTable.unmount_kept h (hi.resolve_left hpath)
  | publish req =>
    simp only [spec]
    split
    · exact h
    · next hpath =>
      split
      · exact h
      · exact NodeSite.publish_kept h (hi.1.resolve_left hpath) _
  | unpublish req =>
    simp only [spec]
    split
    · exact h
    · next hpath => exact MountTable.clear_kept h (hi.resolve_left (not_or.mp hpath).2)

-- ---------------------------------------------------------------------------
-- The node
-- ---------------------------------------------------------------------------

/-- The loop of an unpublish is given a round more than there are mounts. -/
def MountStep.step (ns : NodeServer) :
    MountStep → Cluster × Guest → Outcome Err Unit × (Cluster × Guest)
  | .stage req, s => run Guest.serve (ns.nodeStageVolume req) s
  | .unstage req, s => run Guest.serve (ns.nodeUnstageVolume req) s
  | .publish req, s => run Guest.serve (ns.nodePublishVolume req) s
  | .unpublish req, s =>
    run Guest.serve (unanswered (ns.nodeUnpublishVolume req (s.2.layers req.targetPath + 1))) s

def Guest.table (g : Guest) : MountTable where
  layers := g.layers
  dir p := p ∈ g.dirs
  file p := p ∈ g.files

def NodeSite.DiskAt (site : NodeSite) (ns : NodeServer) (s : Cluster × Guest) (v : String) : Prop :=
  match site.disk v with
  | .noInstance => s.1.vmis.get (ns.ns, ns.nodeID) = none
  | .notReady => ∃ vmi, s.1.vmis.get (ns.ns, ns.nodeID) = some vmi ∧
      NodeServer.hotPlugDiskReady vmi v = false
  | .notFound => (∃ vmi, s.1.vmis.get (ns.ns, ns.nodeID) = some vmi ∧
      NodeServer.hotPlugDiskReady vmi v = true) ∧
      ∃ e, run Guest.serve (getDevicePathByVolumeID v) s = (.error e, s)
  | .device device => PluggedIn ns v device s

structure NodeSite.Follows (site : NodeSite) (ns : NodeServer) (s : Cluster × Guest)
    (a : MountTable) : Prop where
  table : s.2.table = a
  kept : site.layout.Kept a
  refuses : s.2.tools.refusesRemount = site.refuses
  exported : ∀ v, site.exported v = true ↔ ns.ExportReady v s.1
  disks : ∀ v, site.DiskAt ns s v

namespace Guest
variable {g : Guest} {p : String}

theorem present_iff_there : g.present p ↔ g.table.there p = true := by
  simp [present, table, MountTable.there]

theorem mounted_eq (g : Guest) (p : String) : g.mounted p = decide (g.table.layers p ≠ 0) := by
  rw [Bool.eq_iff_iff, mounted_iff, decide_eq_true_eq, Nat.pos_iff_ne_zero]
  rfl

theorem table_mount (g : Guest) (m : Mount) :
    ({ g with mounts := m :: g.mounts } : Guest).table = g.table.mount m.target := by
  refine MountTable.ext (funext fun q => ?_) rfl rfl
  by_cases h : q = m.target
  · subst h
    simp [table, MountTable.mount, layers]
  · simp [table, MountTable.mount, layers, h, Ne.symm h]

theorem countP_unmount (mounts : List Mount) (p q : String) :
    (mounts.eraseP (·.target = p)).countP (·.target = q) =
      if q = p then mounts.countP (·.target = p) - 1 else mounts.countP (·.target = q) := by
  induction mounts with
  | nil => simp
  | cons m rest ih =>
    by_cases hm : m.target = p
    · rw [List.eraseP_cons_of_pos (by simpa using hm)]
      by_cases hq : q = p
      · simp [hq, hm]
      · simp [hq, hm, Ne.symm hq]
    · rw [List.eraseP_cons_of_neg (by simpa using hm), List.countP_cons, ih]
      by_cases hq : q = p
      · simp [hq, hm]
      · simp [hq, List.countP_cons]

theorem table_unmounted (g : Guest) (p : String) : (g.unmounted p).table = g.table.unmount p := by
  refine MountTable.ext (funext fun q => ?_) rfl rfl
  simp only [table, layers, unmounted, countP_unmount, MountTable.unmount, Function.update_apply]

theorem table_madeDir (g : Guest) (p : String) : (g.madeDir p).table = g.table.mkdir p := by
  refine MountTable.ext rfl (funext fun q => ?_) rfl
  simp only [table, madeDir, MountTable.mkdir, List.mem_union_iff, Bool.decide_or]

theorem table_touch (g : Guest) (p : String) :
    ({ g with files := g.files.insert p } : Guest).table = g.table.touch p := by
  refine MountTable.ext rfl rfl (funext fun q => ?_)
  by_cases h : q = p <;> simp [table, MountTable.touch, h]

theorem table_without (g : Guest) (p : String) : (g.without p).table = g.table.clear p := by
  refine MountTable.ext (funext fun q => ?_) (funext fun q => ?_) (funext fun q => ?_)
  · by_cases h : q = p
    · subst h
      simp [table, MountTable.clear]
    · simp only [table, MountTable.clear, Function.update_of_ne h, layers, without, removed,
        cleared, List.countP_filter]
      refine List.countP_congr fun m _ => ?_
      simp only [Bool.and_eq_true, decide_eq_true_eq, and_iff_left_iff_imp]
      rintro rfl
      exact h
  · by_cases h : q = p <;> simp [table, MountTable.clear, without, removed, cleared, h]
  · by_cases h : q = p <;> simp [table, MountTable.clear, without, removed, cleared, h]

end Guest

theorem NodeSite.DiskAt.congr {site site' : NodeSite} {c c' : Cluster} {g g' : Guest}
    (h : site.DiskAt ns (c, g) v) (hdisk : site'.disk = site.disk) (hvmis : c'.vmis = c.vmis)
    (hlinks : g'.links = g.links) : site'.DiskAt ns (c', g') v := by
  have hfound := run_getDevicePathByVolumeID_of_links c c' hlinks v
  unfold NodeSite.DiskAt at h ⊢
  rw [hdisk, hvmis]
  split at h
  · exact h
  · exact h
  · obtain ⟨hready, e, he⟩ := h
    exact ⟨hready, e, by rw [hfound, he]⟩
  · exact ⟨by rw [hvmis]; exact h.ready, by rw [hfound, h.found]⟩

theorem NodeSite.Follows.edit {site : NodeSite} {ns : NodeServer} {c : Cluster} {g g' : Guest}
    {a b : MountTable} (h : site.Follows ns (c, g) a) (htable : g'.table = b)
    (hkept : site.layout.Kept b) (hlinks : g'.links = g.links) (htools : g'.tools = g.tools) :
    site.Follows ns (c, g') b where
  table := htable
  kept := hkept
  refuses := by rw [htools]; exact h.refuses
  exported := h.exported
  disks v := (h.disks v).congr rfl rfl hlinks

theorem Guest.layers_of_mem {g : Guest} {m : Mount} (h : m ∈ g.mounts) : g.layers m.target ≠ 0 :=
  Nat.pos_iff_ne_zero.mp (List.countP_pos_iff.mpr ⟨m, h, by simp⟩)

section
variable {l : Layout} {g : Guest} {p : String}

theorem Layout.Kept.sound_guest (h : l.Kept g.table) (p : String) : g.Sound p :=
  fun hlayers => Guest.present_iff_there.mpr (h.sound p hlayers)

theorem Layout.Kept.present (h : l.Kept g.table) (hp : l.use p = some .staging) : g.present p :=
  .inl (by simpa [Guest.table] using h.staging p hp)

theorem Layout.Kept.not_busy (h : l.Kept g.table) (hp : l.use p = some .staging) :
    g.busy p = false := by
  refine Guest.not_busy_of_free fun m hm => Bool.eq_false_iff.mpr fun hbelow => ?_
  exact Guest.layers_of_mem hm (h.free p m.target hp hbelow)

theorem Layout.Kept.leaf (h : l.Kept g.table) (hp : l.use p = some .target) : g.Leaf p := by
  have hempty (q : String) (hq : g.present q) : below p q = false := by
    refine Bool.eq_false_iff.mpr fun hbelow => ?_
    exact absurd (Guest.present_iff_there.mp hq) (by simp [h.empty p q hp hbelow])
  refine ⟨List.any_eq_false.mpr fun q hq => ?_, fun m hm => ?_⟩
  · simp [hempty q (List.mem_append.mp hq)]
  · exact hempty m.target (h.sound_guest _ (Guest.layers_of_mem hm))

end

def MountStep.Edits (site : NodeSite) (ns : NodeServer) (i : MountStep) (c : Cluster) (g : Guest) :
    Prop :=
  ∃ o g', i.step ns (c, g) = (o, c, g') ∧ verdict o = (site.spec i g.table).1 ∧
    g'.table = (site.spec i g.table).2 ∧ g'.links = g.links ∧ g'.tools = g.tools

-- ---------------------------------------------------------------------------
-- Staging
-- ---------------------------------------------------------------------------

section
variable {site : NodeSite} {ns : NodeServer} {c : Cluster} {g : Guest} {a : MountTable}

theorem MountTable.unmount_bare (h : a.layers p = 0) : a.unmount p = a := by
  refine MountTable.ext ?_ rfl rfl
  simp only [unmount, h, Nat.zero_sub]
  rw [← h, Function.update_eq_self]

theorem run_nodeStageRWXVolume_unexported {req : NodeStageRequest}
    (hpath : req.stagingTargetPath ≠ "") (hcap : req.volumeCapability ≠ none)
    (hexport : ¬ ns.ExportReady req.volumeId c) :
    ∃ msg, run Guest.serve (ns.nodeStageRWXVolume req) (c, g) =
      (.error (.status .internal msg), c, g) := by
  unfold NodeServer.nodeStageRWXVolume
  simp only [hpath, hcap, if_false, request_bind, run_call, Guest.serve, Cluster.serve]
  cases hpvc : c.pvcs.get (ns.ns, req.volumeId) with
  | none => exact ⟨_, rfl⟩
  | some pvc =>
    simp only [found_some, run_call, Guest.serve, Cluster.serve]
    cases hfs : c.networkFSs.get (harvesterNS, pvc.volumeName) with
    | none => exact ⟨_, rfl⟩
    | some fs =>
      have hready : fs.status ≠ .ready := fun hready => hexport ⟨pvc, fs, hpvc, hfs, hready⟩
      simp only [found_some, ne_eq, hready, not_false_eq_true, if_true]
      exact ⟨_, rfl⟩

theorem MountStep.stage_edits (h : site.Follows ns (c, g) g.table) {req : NodeStageRequest}
    (hfits : site.layout.Fits (.stage req)) : (MountStep.stage req).Edits site ns c g := by
  simp only [Edits, step, NodeSite.spec, NodeServer.nodeStageVolume]
  cases hcap : req.volumeCapability with
  | none => exact ⟨_, g, rfl, rfl, rfl, rfl, rfl⟩
  | some cap =>
    by_cases hmode : cap.mode = .multiNodeMultiWriter
    · simp only [hmode, ne_eq, not_true_eq_false, if_false, if_true]
      by_cases hpath : req.stagingTargetPath = ""
      · rw [NodeServer.nodeStageRWXVolume, if_pos hpath, if_pos hpath]
        exact ⟨_, g, rfl, rfl, rfl, rfl, rfl⟩
      · simp only [hpath, if_false]
        have hpresent : g.present req.stagingTargetPath := h.kept.present (hfits.resolve_left hpath)
        cases hexported : site.exported req.volumeId with
        | false =>
          have hexport : ¬ ns.ExportReady req.volumeId c := fun hready => by
            simp [(h.exported _).mpr hready] at hexported
          obtain ⟨msg, hrun⟩ := run_nodeStageRWXVolume_unexported (g := g) hpath (by simp [hcap])
            hexport
          exact ⟨_, g, hrun, rfl, rfl, rfl, rfl⟩
        | true =>
          have hon : (StagingCall.stage req).On ns c req.stagingTargetPath :=
            ⟨rfl, (h.exported _).mp hexported, cap, hcap, hmode⟩
          obtain ⟨options, nfsExport, hrun⟩ := ns.run_nodeStageVolume (g := g) hon hpath
          simp only [NodeServer.nodeStageVolume, hcap, hmode, if_true] at hrun
          rw [hrun]
          have hbusy : (g.mounted req.stagingTargetPath = true ∧ g.tools.refusesRemount = true) ↔
              (site.refuses && g.table.layers req.stagingTargetPath ≠ 0) = true := by
            rw [g.mounted_eq, h.refuses, Bool.and_eq_true, and_comm]
          by_cases hrefused : g.mounted req.stagingTargetPath = true ∧ g.tools.refusesRemount = true
          · rw [if_pos (by simpa using hbusy.mp hrefused)]
            simp only [Guest.execute, hpresent, not_true_eq_false, if_false, if_pos hrefused]
            exact ⟨_, g, rfl, rfl, rfl, rfl, rfl⟩
          · rw [if_neg (by simpa using mt hbusy.mpr hrefused)]
            simp only [Guest.execute, hpresent, not_true_eq_false, if_false, if_neg hrefused]
            exact ⟨_, _, rfl, rfl, g.table_mount _, rfl, rfl⟩
    · simp only [hmode, ne_eq, not_false_eq_true, if_true, if_false]
      exact ⟨_, g, rfl, rfl, rfl, rfl, rfl⟩

theorem MountStep.unstage_edits (h : site.Follows ns (c, g) g.table) {req : NodeUnstageRequest}
    (hfits : site.layout.Fits (.unstage req)) : (MountStep.unstage req).Edits site ns c g := by
  simp only [Edits, step, NodeSite.spec]
  by_cases hpath : req.stagingTargetPath = ""
  · rw [NodeServer.nodeUnstageVolume, if_pos hpath, if_pos hpath]
    exact ⟨_, g, rfl, rfl, rfl, rfl, rfl⟩
  · simp only [hpath, if_false]
    have hstaging := hfits.resolve_left hpath
    have hon : (StagingCall.unstage req).On ns c req.stagingTargetPath := rfl
    rw [NodeServer.run_nodeUnstageVolume hon hpath (h.kept.present hstaging)
      (h.kept.not_busy hstaging)]
    refine ⟨_, _, rfl, rfl, ?_, ?_, ?_⟩
    · cases hmounted : g.mounted req.stagingTargetPath with
      | true => exact g.table_unmounted _
      | false => exact (MountTable.unmount_bare (Guest.not_mounted_iff.mp hmounted)).symm
    · split <;> rfl
    · split <;> rfl

-- ---------------------------------------------------------------------------
-- Publishing
-- ---------------------------------------------------------------------------

def Guest.ensured (g : Guest) (p : String) : Guest := if g.present p then g else g.madeDir p

theorem Guest.table_ensured (g : Guest) (p : String) : (g.ensured p).table = g.table.ensure p := by
  unfold Guest.ensured MountTable.ensure
  simp only [Guest.present_iff_there]
  split
  · rfl
  · exact g.table_madeDir p

theorem Guest.ensured_links (g : Guest) (p : String) : (g.ensured p).links = g.links := by
  unfold Guest.ensured
  split <;> rfl

theorem Guest.ensured_tools (g : Guest) (p : String) : (g.ensured p).tools = g.tools := by
  unfold Guest.ensured
  split <;> rfl

def Guest.boundAt (g : Guest) (m : Mount) : Guest :=
  { g.ensured m.target with mounts := m :: (g.ensured m.target).mounts }

theorem Guest.table_boundAt (g : Guest) (m : Mount) :
    (g.boundAt m).table = (g.table.ensure m.target).mount m.target := by
  rw [Guest.boundAt, Guest.table_mount, Guest.table_ensured]

theorem Guest.attach_ensured {m : Mount} (h : g.hasSource m.source) :
    (g.ensured m.target).attach m = (.ok (), g.boundAt m) := by
  unfold Guest.boundAt Guest.ensured
  split
  · next hpresent => exact Guest.attach_eq hpresent h
  · exact Guest.attach_eq (g.present_madeDir m.target)
      (h.imp_left (Guest.madeDir_present · m.target))

def Guest.boundOnce (g : Guest) (m : Mount) : Guest :=
  if g.layers m.target = 0 then g.boundAt m else g

theorem Guest.boundOnce_edits (g : Guest) (m : Mount) :
    (g.boundOnce m).table = g.table.mountOnce m.target ∧ (g.boundOnce m).links = g.links ∧
      (g.boundOnce m).tools = g.tools := by
  unfold Guest.boundOnce MountTable.mountOnce
  by_cases hbare : g.layers m.target = 0
  · have htable : g.table.layers m.target = 0 := hbare
    rw [if_pos hbare, if_pos htable]
    exact ⟨g.table_boundAt m, g.ensured_links m.target, g.ensured_tools m.target⟩
  · have htable : g.table.layers m.target ≠ 0 := hbare
    rw [if_neg hbare, if_neg htable]
    exact ⟨rfl, rfl, rfl⟩

theorem run_nodePublishRWXVolume {req : NodePublishRequest} (hstaging : req.stagingTargetPath ≠ "")
    (hsource : g.present req.stagingTargetPath) (hsound : g.Sound target) :
    run Guest.serve (ns.nodePublishRWXVolume req target) (c, g) =
      (.ok (), c, g.boundOnce
        { source := req.stagingTargetPath, target := target, options := ["bind"] }) := by
  let m : Mount := { source := req.stagingTargetPath, target := target, options := ["bind"] }
  have hattach : (g.ensured target).attach m = (.ok (), g.boundAt m) :=
    Guest.attach_ensured (.inl hsource)
  by_cases hpresent : g.present target
  · have hpath : target ∈ g.dirs ∨ target ∈ g.files := hpresent
    have hensured : g.ensured target = g := if_pos hpresent
    rw [hensured] at hattach
    cases hmounted : g.mounted target with
    | true =>
      have hlayers := Guest.mounted_iff.mp hmounted
      simp [NodeServer.nodePublishRWXVolume, hstaging, Guest.serve, hpath, hmounted,
        Guest.boundOnce, Nat.pos_iff_ne_zero.mp hlayers]
    | false =>
      simp [NodeServer.nodePublishRWXVolume, NodeServer.nodePublishRWXVolume.bindStaging, hstaging,
        Guest.serve, hpath, hmounted, Guest.boundOnce, Guest.not_mounted_iff.mp hmounted, hattach,
        m]
  · have hmissing : ¬ (target ∈ g.dirs ∨ target ∈ g.files) := hpresent
    have hensured : g.ensured target = g.madeDir target := if_neg hpresent
    rw [hensured] at hattach
    have hbare := Guest.not_mounted_iff.mp (hsound.bare hpresent)
    simp [NodeServer.nodePublishRWXVolume, NodeServer.nodePublishRWXVolume.bindStaging, hstaging,
      Guest.serve, hmissing, Guest.noSuchFile, Guest.boundOnce, hbare, hattach, m]

theorem run_attach (hsound : g.Sound target) :
    run Guest.serve (isLikelyNotMountPointAttach target) (c, g) =
      (.ok (!g.mounted target), c, g.ensured target) := by
  by_cases hpresent : g.present target
  · simp [isLikelyNotMountPointAttach, serve_isLikelyNotMountPoint hpresent, Guest.ensured,
      hpresent]
  · have hmissing : ¬ (target ∈ g.dirs ∨ target ∈ g.files) := hpresent
    simp [isLikelyNotMountPointAttach, Guest.serve, hmissing, Guest.noSuchFile,
      hsound.bare hpresent, Guest.ensured, hpresent]

theorem run_resizeFilesystem (device fsType : String) (s : Cluster × Guest) :
    (growable fsType = true ∧ run Guest.serve (resizeFilesystem device fsType) s = (.ok (), s)) ∨
      (growable fsType = false ∧
        ∃ e, run Guest.serve (resizeFilesystem device fsType) s = (.error e, s)) := by
  unfold resizeFilesystem growable
  by_cases hext4 : fsType = fsTypeExt4
  · exact .inl ⟨by simp [hext4], by simp [hext4, resizeFilesystem.grow, Guest.serve]⟩
  · by_cases hxfs : fsType = fsTypeXFS
    · have hne : fsTypeXFS ≠ fsTypeExt4 := hxfs ▸ hext4
      exact .inl ⟨by simp [hxfs], by simp [hxfs, hne, resizeFilesystem.grow, Guest.serve]⟩
    · exact .inr ⟨by simp [hext4, hxfs], by simp [hext4, hxfs]⟩

variable (ns c) in
theorem run_nodePublishMountVolume (hsound : g.Sound target) (volume device fsType : String)
    (hsource : g.hasSource device) (flags : List String) :
    ∃ o, run Guest.serve (ns.nodePublishMountVolume volume device target fsType flags) (c, g) =
        (o, c, g.boundOnce ⟨device, target, fsType, flags⟩) ∧
      verdict o =
        if g.layers target = 0 ∧ growable fsType = false then .code .internal else .ok := by
  simp only [NodeServer.nodePublishMountVolume, run_bind, run_orElse, run_attach hsound,
    Guest.boundOnce]
  cases hmounted : g.mounted target with
  | true =>
    have hlayers := Nat.pos_iff_ne_zero.mp (Guest.mounted_iff.mp hmounted)
    have hensured : g.ensured target = g := if_pos (hsound hlayers)
    simp only [Bool.not_true, Bool.not_false, if_true, hlayers, if_false, false_and, hensured]
    exact ⟨_, rfl, rfl⟩
  | false =>
    let m : Mount := ⟨device, target, fsType, flags⟩
    have hlayers := Guest.not_mounted_iff.mp hmounted
    have hattach : (g.ensured target).attach m = (.ok (), g.boundAt m) :=
      Guest.attach_ensured hsource
    simp only [Bool.not_false, Bool.not_true, if_true, if_false, hlayers, true_and, mountAndGrow,
      request_bind, run_call, Guest.serve, m, hattach, run_orElse, Bool.false_eq_true]
    rcases run_resizeFilesystem device fsType (c, g.boundAt m) with ⟨hgrow, hrun⟩ | ⟨hgrow, e, hrun⟩
    · simp only [m, hrun, hgrow, Bool.true_eq_false, if_false]
      exact ⟨_, rfl, rfl⟩
    · simp only [m, hrun, hgrow, if_true]
      exact ⟨_, rfl, rfl⟩

theorem run_nodePublishBlockVolume_ensured (device target : String) :
    run Guest.serve (ns.nodePublishBlockVolume device target) (c, g) =
      run Guest.serve (NodeServer.nodePublishBlockVolume.bindDevice device target)
        (c, g.ensured (filepathDir target)) := by
  by_cases hpresent : g.present (filepathDir target)
  · have hpath : filepathDir target ∈ g.dirs ∨ filepathDir target ∈ g.files := hpresent
    simp [NodeServer.nodePublishBlockVolume, Guest.serve, hpath, Guest.ensured, hpresent]
  · have hpath : ¬ (filepathDir target ∈ g.dirs ∨ filepathDir target ∈ g.files) := hpresent
    simp [NodeServer.nodePublishBlockVolume, Guest.serve, hpath, Guest.ensured, hpresent]

variable (c) in
theorem run_bindDevice (target : String) (hdevice : device ∈ g.links.map DeviceLink.target) :
    ∃ o g', run Guest.serve (NodeServer.nodePublishBlockVolume.bindDevice device target) (c, g) =
        (o, c, g') ∧ g'.links = g.links ∧ g'.tools = g.tools ∧
      if g.table.dir target || !g.table.dir (filepathDir target) then
        verdict o = .code .internal ∧ g'.table = g.table
      else verdict o = .ok ∧ g'.table = (g.table.touch target).mount target := by
  by_cases hdir : target ∈ g.dirs
  · have htable : g.table.dir target = true := by simpa [Guest.table] using hdir
    simp [NodeServer.nodePublishBlockVolume.bindDevice, Guest.serve, hdir, htable, verdict]
  · have htable : g.table.dir target = false := by simpa [Guest.table] using hdir
    by_cases hparent : filepathDir target ∈ g.dirs
    · have hin : g.table.dir (filepathDir target) = true := by simpa [Guest.table] using hparent
      let made : Guest := { g with files := g.files.insert target }
      let m : Mount := { source := device, target := target, options := ["bind"] }
      have hattach : made.attach m = (.ok (), { made with mounts := m :: made.mounts }) :=
        Guest.attach_eq (.inr (by simp [made, m])) (.inr hdevice)
      simp only [NodeServer.nodePublishBlockVolume.bindDevice, request_bind, run_call, Guest.serve,
        hdir, hparent, not_true_eq_false, if_false, made, m, hattach, htable, hin, Bool.not_true,
        Bool.or_self, Bool.false_eq_true]
      refine ⟨_, _, rfl, rfl, rfl, rfl, ?_⟩
      rw [← Guest.table_touch]
      exact Guest.table_mount made m
    · have hin : g.table.dir (filepathDir target) = false := by simpa [Guest.table] using hparent
      simp [NodeServer.nodePublishBlockVolume.bindDevice, Guest.serve, hdir, hparent, htable, hin,
        verdict]

theorem run_publishDevice {cap : NodeCapability} (hsound : g.Sound target) (volume : String)
    (hdevice : device ∈ g.links.map DeviceLink.target) :
    ∃ o g', run Guest.serve (ns.publishDevice volume device target cap) (c, g) = (o, c, g') ∧
      verdict o = (g.table.publishDevice cap target).1 ∧
      g'.table = (g.table.publishDevice cap target).2 ∧ g'.links = g.links ∧
        g'.tools = g.tools := by
  unfold NodeServer.publishDevice MountTable.publishDevice
  by_cases hblock : cap.block = true
  · rw [if_pos hblock, if_pos hblock, run_nodePublishBlockVolume_ensured, ← g.table_ensured,
      ← g.ensured_links (filepathDir target), ← g.ensured_tools (filepathDir target)]
    rw [← g.ensured_links (filepathDir target)] at hdevice
    obtain ⟨o, g', hrun, hlinks, htools, hedit⟩ := run_bindDevice c target hdevice
    refine ⟨o, g', hrun, ?_⟩
    dsimp only
    split at hedit
    · next hdir => rw [if_pos hdir]; exact ⟨hedit.1, hedit.2, hlinks, htools⟩
    · next hdir => rw [if_neg hdir]; exact ⟨hedit.1, hedit.2, hlinks, htools⟩
  · rw [if_neg hblock, if_neg hblock]
    by_cases hmount : cap.mount = true
    · rw [if_pos hmount, if_pos hmount]
      obtain ⟨o, hrun, hverdict⟩ := run_nodePublishMountVolume ns c hsound volume device
        (if cap.mountFsType = "" then "ext4" else cap.mountFsType) (.inr hdevice) cap.mountFlags
      exact ⟨o, _, hrun, hverdict, g.boundOnce_edits _⟩
    · rw [if_neg hmount, if_neg hmount]
      exact ⟨_, g, rfl, rfl, rfl, rfl, rfl⟩

theorem NodeSite.DiskAt.refused (h : site.DiskAt ns (c, g) v)
    (hcode : (site.disk v).refusal = some code) :
    ∃ msg, run Guest.serve (ns.readyDevice v) (c, g) = (.error (.status code msg), c, g) := by
  unfold NodeSite.DiskAt at h
  cases hdisk : site.disk v with
  | noInstance =>
    simp only [hdisk, DiskState.refusal, Option.some.injEq] at h hcode
    simp [← hcode, NodeServer.readyDevice, Guest.serve, Cluster.serve, h]
  | notReady =>
    simp only [hdisk, DiskState.refusal, Option.some.injEq] at h hcode
    obtain ⟨vmi, hvmi, hready⟩ := h
    simp [← hcode, NodeServer.readyDevice, Guest.serve, Cluster.serve, hvmi, hready]
  | notFound =>
    simp only [hdisk, DiskState.refusal, Option.some.injEq] at h hcode
    obtain ⟨⟨vmi, hvmi, hready⟩, e, he⟩ := h
    simp [← hcode, NodeServer.readyDevice, Guest.serve, Cluster.serve, hvmi, hready, run_orElse, he]
  | device => simp [hdisk, DiskState.refusal] at hcode

theorem NodeSite.DiskAt.pluggedIn (h : site.DiskAt ns (c, g) v)
    (hcode : (site.disk v).refusal = none) :
    ∃ device, PluggedIn ns v device (c, g) := by
  unfold NodeSite.DiskAt at h
  cases hdisk : site.disk v with
  | noInstance | notReady | notFound => simp [hdisk, DiskState.refusal] at hcode
  | device d => exact ⟨d, by simpa only [hdisk] using h⟩

theorem MountStep.publish_edits (h : site.Follows ns (c, g) g.table) {req : NodePublishRequest}
    (hfits : site.layout.Fits (.publish req)) : (MountStep.publish req).Edits site ns c g := by
  have hsound := h.kept.sound_guest req.targetPath
  simp only [Edits, step, NodeSite.spec, NodeServer.nodePublishVolume]
  by_cases htarget : req.targetPath = ""
  · rw [if_pos htarget, if_pos htarget]
    exact ⟨_, g, rfl, rfl, rfl, rfl, rfl⟩
  · rw [if_neg htarget, if_neg htarget]
    cases hcap : req.volumeCapability with
    | none => exact ⟨_, g, rfl, rfl, rfl, rfl, rfl⟩
    | some cap =>
      dsimp only [NodeSite.publish]
      by_cases hmulti : cap.mode = .multiNodeMultiWriter
      · rw [if_pos hmulti, if_pos hmulti]
        by_cases hstaging : req.stagingTargetPath = ""
        · rw [if_pos hstaging, NodeServer.nodePublishRWXVolume, if_pos hstaging]
          exact ⟨_, g, rfl, rfl, rfl, rfl, rfl⟩
        · have hsource := h.kept.present (hfits.2.resolve_left hstaging)
          rw [if_neg hstaging, run_nodePublishRWXVolume hstaging hsource hsound]
          exact ⟨_, _, rfl, rfl, g.boundOnce_edits _⟩
      · rw [if_neg hmulti, if_neg hmulti]
        by_cases hsingle : cap.mode = .singleNodeWriter
        · rw [if_pos hsingle, if_pos hsingle, NodeServer.nodePublishRWOVolume, run_bind]
          have hdisk := h.disks req.volumeId
          cases hcode : (site.disk req.volumeId).refusal with
          | some code =>
            obtain ⟨msg, hrun⟩ := hdisk.refused hcode
            rw [hrun]
            exact ⟨_, g, rfl, rfl, rfl, rfl, rfl⟩
          | none =>
            obtain ⟨device, hplugged⟩ := hdisk.pluggedIn hcode
            rw [run_readyDevice hplugged]
            exact run_publishDevice hsound req.volumeId hplugged.device_mem
        · rw [if_neg hsingle, if_neg hsingle]
          exact ⟨_, g, rfl, rfl, rfl, rfl, rfl⟩

theorem MountStep.unpublish_edits (h : site.Follows ns (c, g) g.table) {req : NodeUnpublishRequest}
    (hfits : site.layout.Fits (.unpublish req)) : (MountStep.unpublish req).Edits site ns c g := by
  simp only [Edits, step, NodeSite.spec, unanswered]
  by_cases hid : req.volumeId = ""
  · rw [if_pos (.inl hid), NodeServer.nodeUnpublishVolume, if_pos hid]
    exact ⟨_, g, rfl, rfl, rfl, rfl, rfl⟩
  · by_cases htarget : req.targetPath = ""
    · rw [if_pos (.inr htarget), NodeServer.nodeUnpublishVolume, if_neg hid, if_pos htarget]
      exact ⟨_, g, rfl, rfl, rfl, rfl, rfl⟩
    · have hleaf := h.kept.leaf (hfits.resolve_left htarget)
      rw [if_neg (not_or.mpr ⟨hid, htarget⟩), run_bind,
        ns.run_nodeUnpublishVolume hid htarget (h.kept.sound_guest _) hleaf (Nat.lt_succ_self _) c]
      exact ⟨_, _, rfl, rfl, g.table_without _, rfl, rfl⟩

theorem MountStep.edits (h : site.Follows ns (c, g) g.table) (hi : site.layout.Fits i) :
    i.Edits site ns c g := by
  cases i with
  | stage req => exact MountStep.stage_edits h hi
  | unstage req => exact MountStep.unstage_edits h hi
  | publish req => exact MountStep.publish_edits h hi
  | unpublish req => exact MountStep.unpublish_edits h hi

end

-- ---------------------------------------------------------------------------
-- Whole histories
-- ---------------------------------------------------------------------------

theorem NodeSite.refines (site : NodeSite) (ns : NodeServer) :
    Refines (MountStep.step ns) site.spec site.layout.Fits verdict (site.Follows ns) := by
  have hstep (i : MountStep) (s a) (hi : site.layout.Fits i) (h : site.Follows ns s a) :
      verdict (i.step ns s).1 = (site.spec i a).1 ∧
      site.Follows ns (i.step ns s).2 (site.spec i a).2 := by
    obtain ⟨c, g⟩ := s
    obtain rfl : g.table = a := h.table
    obtain ⟨o, g', hrun, hverdict, htable, hlinks, htools⟩ := MountStep.edits h hi
    rw [hrun]
    exact ⟨hverdict, h.edit htable (NodeSite.spec_kept h.kept hi) hlinks htools⟩
  exact ⟨fun i s a hi h => (hstep i s a hi h).1, fun i s a hi h => (hstep i s a hi h).2⟩

/-- A target path that is not there, in a directory that is. -/
structure Layout.Fresh (l : Layout) (a : MountTable) (p : String) : Prop where
  named : p ≠ ""
  target : l.use p = some .target
  absent : a.there p = false
  parent : a.dir (filepathDir p) = true
  parents : ∀ dir ∈ ancestors p, a.dir dir = true

/-- A path that was not there at first is published or unpublished. It is used for block
devices, when it is `raw`, or for file systems. -/
inductive Visits (l : Layout) (disk : String → DiskState) (raw : String → Bool) (a : MountTable) :
    MountStep → Prop
  | shared {req : NodePublishRequest} {cap : NodeCapability} (hfresh : l.Fresh a req.targetPath)
      (hraw : raw req.targetPath = false) (hcap : req.volumeCapability = some cap)
      (hmode : cap.mode = .multiNodeMultiWriter) (hnamed : req.stagingTargetPath ≠ "")
      (hstaging : l.use req.stagingTargetPath = some .staging) : Visits l disk raw a (.publish req)
  | filesystem {req : NodePublishRequest} {cap : NodeCapability} (hfresh : l.Fresh a req.targetPath)
      (hraw : raw req.targetPath = false) (hcap : req.volumeCapability = some cap)
      (hmode : cap.mode = .singleNodeWriter)
      (hstaging : req.stagingTargetPath = "" ∨ l.use req.stagingTargetPath = some .staging)
      (hdisk : (disk req.volumeId).refusal = none) (hblock : cap.block = false)
      (hmount : cap.mount = true)
      (hgrow : growable (if cap.mountFsType = "" then "ext4" else cap.mountFsType) = true) :
      Visits l disk raw a (.publish req)
  | device {req : NodePublishRequest} {cap : NodeCapability} (hfresh : l.Fresh a req.targetPath)
      (hraw : raw req.targetPath = true) (hcap : req.volumeCapability = some cap)
      (hmode : cap.mode = .singleNodeWriter)
      (hstaging : req.stagingTargetPath = "" ∨ l.use req.stagingTargetPath = some .staging)
      (hdisk : (disk req.volumeId).refusal = none) (hblock : cap.block = true) :
      Visits l disk raw a (.publish req)
  | unpublish {req : NodeUnpublishRequest} (hid : req.volumeId ≠ "")
      (hfresh : l.Fresh a req.targetPath) :
      Visits l disk raw a (.unpublish req)

def Unpublishes (p : String) (steps : List MountStep) : Prop :=
  ∃ req, .unpublish req ∈ steps ∧ req.targetPath = p

/-- Every path that is published is unpublished later. -/
def Ends : List MountStep → Prop
  | [] => True
  | .publish req :: rest => Unpublishes req.targetPath rest ∧ Ends rest
  | _ :: rest => Ends rest

def MountTable.SameAt (a b : MountTable) (p : String) : Prop :=
  b.layers p = a.layers p ∧ b.dir p = a.dir p ∧ b.file p = a.file p

/-- The table is still `a`, but for paths that will be unpublished. -/
structure MountTable.Open (a : MountTable) (raw : String → Bool) (rest : List MountStep)
    (b : MountTable) : Prop where
  same : ∀ p, a.SameAt b p ∨ (a.there p = false ∧ Unpublishes p rest)
  raw : ∀ p, raw p = true → a.there p = false → b.dir p = false

namespace MountTable
variable {a b c : MountTable} {raw : String → Bool} {rest : List MountStep} {p : String}
  {site : NodeSite} {l : Layout}

theorem Open.start (a : MountTable) (raw : String → Bool) (rest : List MountStep) :
    a.Open raw rest a where
  same _ := .inl ⟨rfl, rfl, rfl⟩
  raw p _ hfresh := by
    simp only [MountTable.there, Bool.or_eq_false_iff] at hfresh
    exact hfresh.1

theorem Open.done (h : a.Open raw [] b) : b = a := by
  have hsame (p : String) : a.SameAt b p :=
    (h.same p).resolve_right fun ⟨_, req, hmem, _⟩ => by simp at hmem
  exact MountTable.ext (funext fun p => (hsame p).1) (funext fun p => (hsame p).2.1)
    (funext fun p => (hsame p).2.2)

theorem Open.dir (h : a.Open raw rest b) (hp : a.dir p = true) : b.dir p = true := by
  rcases h.same p with hsame | ⟨hfresh, -⟩
  · rw [hsame.2.1, hp]
  · simp [MountTable.there, hp] at hfresh

theorem Open.edit (h : a.Open raw (i :: rest) b)
    (hi : ∀ req, i = .unpublish req → req.targetPath = p) (hother : ∀ q, q ≠ p → b.SameAt c q)
    (hsame : a.SameAt c p ∨ (a.there p = false ∧ Unpublishes p rest))
    (hraw : raw p = true → c.dir p = false) : a.Open raw rest c where
  same q := by
    by_cases hq : q = p
    · exact hq ▸ hsame
    · obtain ⟨hlayers, hdir, hfile⟩ := hother q hq
      rcases h.same q with ⟨hl, hd, hf⟩ | ⟨hfresh, req, hmem, htarget⟩
      · exact .inl ⟨hlayers.trans hl, hdir.trans hd, hfile.trans hf⟩
      · rcases List.mem_cons.mp hmem with rfl | hmem
        · exact absurd (htarget.symm.trans (hi req rfl)) hq
        · exact .inr ⟨hfresh, req, hmem, htarget⟩
  raw q hrawq hfresh := by
    by_cases hq : q = p
    · exact hq ▸ hraw (hq ▸ hrawq)
    · rw [(hother q hq).2.1]
      exact h.raw q hrawq hfresh

theorem mount_other (b : MountTable) (hq : q ≠ p) : b.SameAt (b.mount p) q := by
  simp [SameAt, mount, hq]

theorem ensure_other (b : MountTable) (hparents : ∀ dir ∈ ancestors p, b.dir dir = true)
    (hq : q ≠ p) :
    b.SameAt (b.ensure p) q := by
  unfold ensure
  split
  · exact ⟨rfl, rfl, rfl⟩
  · refine ⟨rfl, ?_, rfl⟩
    by_cases hparent : q ∈ ancestors p
    · simp [mkdir, hparents q hparent]
    · simp [mkdir, hq, hparent]

theorem mountOnce_other (b : MountTable) (hparents : ∀ dir ∈ ancestors p, b.dir dir = true)
    (hq : q ≠ p) :
    b.SameAt (b.mountOnce p) q := by
  unfold mountOnce
  split
  · obtain ⟨hl, hd, hf⟩ := b.ensure_other hparents hq
    obtain ⟨hl', hd', hf'⟩ := (b.ensure p).mount_other hq
    exact ⟨hl'.trans hl, hd'.trans hd, hf'.trans hf⟩
  · exact ⟨rfl, rfl, rfl⟩

theorem Open.mountOnce {req : NodePublishRequest} (h : a.Open raw (.publish req :: rest) b)
    (hfresh : l.Fresh a req.targetPath) (hraw : raw req.targetPath = false)
    (hends : Unpublishes req.targetPath rest) : a.Open raw rest (b.mountOnce req.targetPath) := by
  have hparents (dir : String) (hdir : dir ∈ ancestors req.targetPath) : b.dir dir = true :=
    h.dir (hfresh.parents dir hdir)
  refine h.edit (p := req.targetPath) (by simp) (fun q hq => b.mountOnce_other hparents hq)
    (.inr ⟨hfresh.absent, hends⟩) ?_
  simp [hraw]

/-- What a visit does on its way: it goes well, and leaves its path to be unpublished. -/
theorem Open.step (hsound : ∀ p, a.layers p ≠ 0 → a.there p = true) (h : a.Open raw (i :: rest) b)
    (hvisit : Visits l site.disk raw a i) (hends : Ends (i :: rest)) :
    (site.spec i b).1 = .ok ∧ a.Open raw rest (site.spec i b).2 := by
  cases hvisit with
  | @shared req cap hfresh hraw hcap hmode hnamed hstaging =>
    simp only [NodeSite.spec, NodeSite.publish, hfresh.named, hcap, hmode, hnamed, if_true,
      if_false]
    exact ⟨trivial, h.mountOnce hfresh hraw hends.1⟩
  | @filesystem req cap hfresh hraw hcap hmode hstaging hdisk hblock hmount hgrow =>
    simp only [NodeSite.spec, NodeSite.publish, publishDevice, hfresh.named, hcap, hmode, hdisk,
      hblock, hmount, hgrow, if_true, if_false, reduceCtorEq, Bool.false_eq_true,
      Bool.true_eq_false, and_false]
    exact ⟨trivial, h.mountOnce hfresh hraw hends.1⟩
  | @device req cap hfresh hraw hcap hmode hstaging hdisk hblock =>
    have hparent := h.dir hfresh.parent
    have hensure : b.ensure (filepathDir req.targetPath) = b :=
      if_pos (by simp [MountTable.there, hparent])
    have hdir := h.raw _ hraw hfresh.absent
    simp only [NodeSite.spec, NodeSite.publish, publishDevice, hfresh.named, hcap, hmode, hdisk,
      hblock, hensure, hdir, hparent, if_true, if_false, reduceCtorEq, Bool.false_eq_true,
      Bool.not_true, Bool.or_self]
    refine ⟨trivial, h.edit (p := req.targetPath) (by simp) (fun q hq => ?_)
      (.inr ⟨hfresh.absent, hends.1⟩) fun _ => hdir⟩
    simp [SameAt, mount, touch, hq]
  | @unpublish req hid hfresh =>
    have habsent := hfresh.absent
    have hbare : a.layers req.targetPath = 0 := by
      by_contra hlayers
      simp [hsound _ hlayers] at habsent
    simp only [NodeSite.spec, hid, hfresh.named, or_self, if_false]
    refine ⟨trivial, h.edit (p := req.targetPath) ?_ (fun q hq => ?_) (.inl ?_) fun _ => ?_⟩
    · rintro _ ⟨⟩
      rfl
    · simp [SameAt, clear, hq]
    · simp only [MountTable.there, Bool.or_eq_false_iff] at habsent
      simp [SameAt, clear, hbare, habsent.1, habsent.2]
    · simp [clear]

end MountTable

theorem Ends.tail (h : Ends (i :: rest)) : Ends rest := by
  cases i with
  | publish req => exact h.2
  | stage | unstage | unpublish => exact h

theorem MountTable.Open.trace {site : NodeSite} {l : Layout} {a b : MountTable}
    {raw : String → Bool} {visits : List MountStep}
    (hsound : ∀ p, a.layers p ≠ 0 → a.there p = true) (h : a.Open raw visits b)
    (hvisits : ∀ i ∈ visits, Visits l site.disk raw a i) (hends : Ends visits) :
    (∀ v ∈ (Calls.trace site.spec visits b).1, v = .ok) ∧
      (Calls.trace site.spec visits b).2 = a := by
  induction visits generalizing b with
  | nil => exact ⟨by simp [Calls.trace], h.done⟩
  | cons i rest ih =>
    obtain ⟨hi, hrest⟩ := List.forall_mem_cons.mp hvisits
    obtain ⟨hok, hopen⟩ := h.step hsound hi hends
    obtain ⟨hanswers, hlast⟩ := ih hopen hrest hends.tail
    exact ⟨List.forall_mem_cons.mpr ⟨hok, hanswers⟩, hlast⟩

theorem Visits.fits {l : Layout} (h : Visits l disk raw a i) : l.Fits i := by
  cases h with
  | shared hfresh _ _ _ _ hstaging => exact ⟨.inr hfresh.target, .inr hstaging⟩
  | filesystem hfresh _ _ _ hstaging => exact ⟨.inr hfresh.target, hstaging⟩
  | device hfresh _ _ _ hstaging => exact ⟨.inr hfresh.target, hstaging⟩
  | unpublish _ hfresh => exact .inr hfresh.target

theorem Visits.mount {l : Layout} {a : MountTable} (h : Visits l disk raw a i) (p : String) :
    Visits l disk raw (a.mount p) i := by
  have hfresh {q : String} (h : l.Fresh a q) : l.Fresh (a.mount p) q :=
    ⟨h.named, h.target, h.absent, h.parent, h.parents⟩
  cases h with
  | shared h hraw hcap hmode hnamed hstaging =>
    exact .shared (hfresh h) hraw hcap hmode hnamed hstaging
  | filesystem h hraw hcap hmode hstaging hdisk hblock hmount hgrow =>
    exact .filesystem (hfresh h) hraw hcap hmode hstaging hdisk hblock hmount hgrow
  | device h hraw hcap hmode hstaging hdisk hblock =>
    exact .device (hfresh h) hraw hcap hmode hstaging hdisk hblock
  | unpublish hid h => exact .unpublish hid (hfresh h)

theorem MountTable.unmount_mount (a : MountTable) (p : String) : (a.mount p).unmount p = a := by
  refine MountTable.ext ?_ rfl rfl
  simp [mount, unmount]

/-- A shared volume is staged on a path with nothing on it, and unstaged later. -/
structure Layout.Stay (l : Layout) (a : MountTable) (v : String) (stage : NodeStageRequest)
    (unstage : NodeUnstageRequest) : Prop where
  volume : stage.volumeId = v
  shared : ∃ cap, stage.volumeCapability = some cap ∧ cap.mode = .multiNodeMultiWriter
  named : stage.stagingTargetPath ≠ ""
  staging : l.use stage.stagingTargetPath = some .staging
  bare : a.layers stage.stagingTargetPath = 0
  unstage : unstage.stagingTargetPath = stage.stagingTargetPath

theorem NodeSite.trace_stay (site : NodeSite) {a : MountTable} {stage : NodeStageRequest}
    {unstage : NodeUnstageRequest} (hkept : site.layout.Kept a)
    (hstay : site.layout.Stay a v stage unstage) (hexported : site.exported v = true)
    (hvisits : ∀ i ∈ visits, Visits site.layout site.disk raw a i) (hends : Ends visits) :
    (∀ v ∈ (trace site.spec (.stage stage :: (visits ++ [.unstage unstage])) a).1, v = .ok) ∧
      (trace site.spec (.stage stage :: (visits ++ [.unstage unstage])) a).2 = a := by
  obtain ⟨rfl, ⟨cap, hcap, hmode⟩, hpath, hstaging, hbare, hunstage⟩ := hstay
  have hstaged : site.spec (.stage stage) a = (.ok, a.mount stage.stagingTargetPath) := by
    simp [NodeSite.spec, hcap, hmode, hpath, hexported, hbare]
  have hmounted : site.layout.Kept (a.mount stage.stagingTargetPath) :=
    MountTable.mount_kept hkept (by simp [MountTable.there, hkept.staging _ hstaging]) hstaging
  obtain ⟨hok, hback⟩ := MountTable.Open.trace hmounted.sound (.start _ raw visits)
    (fun i hi => (hvisits i hi).mount stage.stagingTargetPath) hends
  rw [trace, hstaged, trace_append, hback]
  simp only [trace, NodeSite.spec, hunstage, hpath, if_false, MountTable.unmount_mount, and_true]
  intro v hv
  rcases List.mem_cons.mp hv with rfl | hv
  · rfl
  · rcases List.mem_append.mp hv with hv | hv
    · exact hok v hv
    · exact List.mem_singleton.mp hv

end HarvesterCSI
