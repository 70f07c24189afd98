import HarvesterCSI.NodeServer
import Mathlib.Data.List.Infix
import Mathlib.Data.String.Basic

/-!
# The disk of a volume

A node finds the disk of a volume by looking for the volume's ID in the names of
links. The names have the IDs of all attached volumes in them, so whether the disk
found is the right one depends on how the IDs and the names relate.
-/

namespace HarvesterCSI

open Calls Calls.Prog

-- ---------------------------------------------------------------------------
-- The links on a node
-- ---------------------------------------------------------------------------

/-- A link as it is named on a node: some text, the ID of the volume it belongs to,
and the number of the partition if it is not the whole disk. -/
structure DiskName where
  lead : String
  volume : String
  part : Option Nat
  deriving DecidableEq, Repr

namespace DiskName

def suffix (n : DiskName) : String :=
  match n.part with
  | none => ""
  | some i => "-part" ++ toString i

def name (n : DiskName) : String := n.lead ++ n.volume ++ n.suffix

def whole (n : DiskName) : DiskName := { n with part := none }

end DiskName

structure AttachedDisks where
  volumes : List String
  names : List DiskName
  disk : String → String
  partition : String → Nat → String
  ids : ∀ v ∈ volumes, v ≠ ""
  sorted : (names.map DiskName.name).Pairwise (· < ·)
  attached : ∀ n ∈ names, n.volume ∈ volumes
  present : ∀ v ∈ volumes, ∃ n ∈ names, n.volume = v
  /-- The text before the ID has no ID of an attached volume in it. -/
  lead : ∀ n ∈ names, ∀ v ∈ volumes, containsText n.lead v = false
  whole : ∀ n ∈ names, n.whole ∈ names
  /-- Links lead somewhere, and a disk is a device of its own. -/
  target_ne : ∀ v ∈ volumes, disk v ≠ ""
  disk_ne : ∀ v ∈ volumes, ∀ w ∈ volumes, w ≠ v → disk w ≠ disk v ∧ ∀ i, partition w i ≠ disk v

namespace AttachedDisks
variable (d : AttachedDisks)

def target (n : DiskName) : String :=
  match n.part with
  | none => d.disk n.volume
  | some i => d.partition n.volume i

def links : List DeviceLink := d.names.map fun n => ⟨n.name, d.target n⟩

theorem map_name_links : d.links.map DeviceLink.name = d.names.map DiskName.name := by
  simp [links]

def guest : Guest where
  links := d.links
  sorted := d.map_name_links ▸ d.sorted

/-- Every link of another volume that has this ID in its name comes after a link of
the volume itself. -/
def ComesFirst (v : String) : Prop :=
  ∀ n ∈ d.names, n.volume ≠ v → containsText n.name v = true →
    ∃ own ∈ d.names, own.volume = v ∧ own.name < n.name

end AttachedDisks

-- ---------------------------------------------------------------------------
-- The first link
-- ---------------------------------------------------------------------------

theorem find?_le {r : α → α → Prop} {p : α → Bool} {l : List α} (hl : l.Pairwise r)
    (hfind : l.find? p = some a) (hb : b ∈ l) (hp : p b = true) : b = a ∨ r a b := by
  induction l with
  | nil => cases hb
  | cons c l ih =>
    obtain ⟨hc, hl⟩ := List.pairwise_cons.mp hl
    cases hpc : p c with
    | true =>
      rw [List.find?_cons_of_pos hpc] at hfind
      cases hfind
      exact (List.mem_cons.mp hb).imp_right fun hmem => hc b hmem
    | false =>
      rw [List.find?_cons_of_neg (by simp [hpc])] at hfind
      rcases List.mem_cons.mp hb with rfl | hmem
      · simp [hpc] at hp
      · exact ih hl hfind hmem

theorem lt_append (s : String) {t : String} (ht : t ≠ "") : s < s ++ t := by
  rw [String.lt_iff_toList_lt, String.toList_append]
  have htail : t.toList ≠ [] := by simpa using ht
  generalize t.toList = tail at htail
  induction s.toList with
  | nil =>
    cases tail with
    | nil => exact absurd rfl htail
    | cons c tail => exact List.nil_lt_cons c tail
  | cons c l ih => exact List.cons_lt_cons_iff.mpr (.inr ⟨rfl, ih⟩)

theorem DiskName.contains_volume (n : DiskName) : containsText n.name n.volume = true := by
  simp only [containsText, DiskName.name, String.toList_append, decide_eq_true_eq]
  exact ⟨n.lead.toList, n.suffix.toList, rfl⟩

theorem DiskName.whole_lt (n : DiskName) (hpart : n.part = some i) : n.whole.name < n.name := by
  have hname : n.whole.name = n.lead ++ n.volume := by
    simp [DiskName.name, DiskName.whole, DiskName.suffix]
  rw [hname]
  refine lt_append _ ?_
  rw [DiskName.suffix, hpart]
  simp

namespace AttachedDisks
variable {d : AttachedDisks}

theorem pairwise (d : AttachedDisks) : d.names.Pairwise fun m n => m.name < n.name :=
  List.pairwise_map.mp d.sorted

def first (d : AttachedDisks) (v : String) : Option DiskName :=
  d.names.find? (containsText ·.name v)

theorem first_le (h : d.first v = some n) (hm : m ∈ d.names) (hv : containsText m.name v = true) :
    m = n ∨ n.name < m.name := find?_le d.pairwise h hm hv

theorem exists_first (hv : v ∈ d.volumes) : ∃ n ∈ d.names, d.first v = some n := by
  obtain ⟨own, hown, rfl⟩ := d.present v hv
  have hsome : (d.first own.volume).isSome := List.find?_isSome.mpr ⟨own, hown, own.contains_volume⟩
  obtain ⟨n, hn⟩ := Option.isSome_iff_exists.mp hsome
  exact ⟨n, List.mem_of_find?_eq_some hn, hn⟩

theorem first_own_iff (h : d.first v = some n) : n.volume = v ↔ d.ComesFirst v := by
  have hn := List.mem_of_find?_eq_some h
  constructor
  · rintro rfl m hm hne hv
    rcases first_le h hm hv with rfl | hlt
    · exact absurd rfl hne
    · exact ⟨n, hn, rfl, hlt⟩
  · intro hfirst
    by_contra hne
    have hv := List.find?_some h
    obtain ⟨own, hown, rfl, hlt⟩ := hfirst n hn hne hv
    rcases first_le h hown own.contains_volume with rfl | hlt'
    · exact hne rfl
    · exact lt_asymm hlt hlt'

theorem first_whole (h : d.first v = some n) (hown : n.volume = v) : n.part = none := by
  rcases hpart : n.part with _ | i
  · rfl
  · have hlt := n.whole_lt hpart
    have hwhole := d.whole n (List.mem_of_find?_eq_some h)
    have hv : containsText n.whole.name v = true := hown ▸ n.whole.contains_volume
    rcases first_le h hwhole hv with heq | hlt'
    · rw [heq] at hlt
      exact absurd hlt (lt_irrefl _)
    · exact absurd hlt' (lt_asymm hlt)

theorem target_first_iff (hv : v ∈ d.volumes) (h : d.first v = some n) :
    d.target n = d.disk v ↔ d.ComesFirst v := by
  rw [← first_own_iff h]
  constructor
  · intro htarget
    by_contra hne
    have hdisk := d.disk_ne v hv n.volume (d.attached n (List.mem_of_find?_eq_some h)) hne
    unfold target at htarget
    split at htarget
    · exact hdisk.1 htarget
    · exact hdisk.2 _ htarget
  · intro hown
    rw [target, first_whole h hown, hown]

-- ---------------------------------------------------------------------------
-- Looking it up
-- ---------------------------------------------------------------------------

theorem find?_link (hn : n ∈ d.names) :
    d.links.find? (deviceByIDDirectory ++ ·.name = deviceByIDDirectory ++ n.name) =
      some ⟨n.name, d.target n⟩ := by
  have hmem : (⟨n.name, d.target n⟩ : DeviceLink) ∈ d.links := List.mem_map_of_mem hn
  have hsorted : d.links.Pairwise fun a b => a.name < b.name := List.pairwise_map.mpr d.pairwise
  cases hfind : d.links.find? (deviceByIDDirectory ++ ·.name = deviceByIDDirectory ++ n.name) with
  | none => simpa using List.find?_eq_none.mp hfind _ hmem
  | some a =>
    have hname : a.name = n.name := by simpa using List.find?_some hfind
    rcases find?_le hsorted hfind hmem (by simp) with heq | hlt
    · rw [heq]
    · exact absurd (hname ▸ hlt) (lt_irrefl _)

theorem find?_names (d : AttachedDisks) (v : String) :
    (d.links.map DeviceLink.name).find? (containsText · v) = (d.first v).map DiskName.name := by
  rw [map_name_links, List.find?_map]
  rfl

theorem run_getDevicePathByVolumeID (hg : g.links = d.links) (h : d.first v = some n) :
    run Guest.serve (getDevicePathByVolumeID v) (c, g) =
      (if d.target n = "" then .error (.text ("no matching disk for volume " ++ v))
        else .ok (d.target n), c, g) := by
  have hfind := d.find?_names v
  rw [h, Option.map_some] at hfind
  have hlink := find?_link (List.mem_of_find?_eq_some h)
  simp only [getDevicePathByVolumeID, request_bind, run_call, Guest.serve, hg, if_true, hfind,
    hlink]
  split <;> rfl

end AttachedDisks

-- ---------------------------------------------------------------------------
-- The calls that touch a device
-- ---------------------------------------------------------------------------

def NodeOp.device : NodeOp → Option String
  | .mount m | .formatAndMount m => some m.source
  | .command _ arg => some arg
  | _ => none

def NodeOp.Spares (path : String) (op : NodeOp) : Prop := ∀ dev, op.device = some dev → dev = path

def SameLinks (s t : Cluster × Guest) : Prop := t.2.links = s.2.links

def NodeOp.readsLinks : NodeOp → Prop
  | .readDir _ | .evalSymlinks _ => True
  | _ => False

/-- The links stay and resolve. Any other call may be answered in any way. -/
def LinksResolve (op : NodeOp) (s : Cluster × Guest) (r : op.Res) (t : Cluster × Guest) : Prop :=
  SameLinks s t ∧ (op.readsLinks → Guest.serve op s = (r, t))

/-- Whatever goes wrong, the program touches no other device. -/
def SparesOthers (path : String) (p : NodeApi α) (s : Cluster × Guest) : Prop :=
  Safe SameLinks LinksResolve (fun _ _ _ _ _ => True) (fun op _ _ _ _ => op.Spares path) p s

section
variable {path : String}

theorem spares_of_none {op : NodeOp} (h : op.device = none) : op.Spares path := by
  intro dev hdev
  rw [h] at hdev
  cases hdev

theorem spares_of_some {op : NodeOp} (h : op.device = some path) : op.Spares path := by
  intro dev hdev
  rw [h] at hdev
  cases hdev
  rfl

theorem SparesOthers.of_uses {p : NodeApi α} (hp : p.Uses (NodeOp.Spares path))
    (s : Cluster × Guest) :
    SparesOthers path p s :=
  Safe.of_uses (fun _ _ _ _ _ hop _ _ => hop) hp s

theorem SparesOthers.bind {p : NodeApi α} {f : α → NodeApi β} (hp : p.Uses (NodeOp.Spares path))
    (hf : ∀ a t, SameLinks s t → SparesOthers path (f a) t) : SparesOthers path (p >>= f) s := by
  have htrans (a b c : Cluster × Guest) (h₁ : SameLinks a b) (h₂ : SameLinks b c) : SameLinks a c :=
    h₂.trans h₁
  exact Safe.bind_of_moves htrans (fun _ => rfl) (fun _ _ _ _ _ h => h.1)
    (fun _ _ _ _ _ hop _ _ => hop) hf hp

theorem isLikelyNotMountPointAttach_uses {P : NodeOp → Prop}
    (hcheck : P (.isLikelyNotMountPoint target)) (hdir : P (.mkdirAll target)) :
    (isLikelyNotMountPointAttach target).Uses P := by
  refine Uses.request hcheck fun r => ?_
  cases r with
  | ok notMnt => exact uses_ok
  | error e =>
    dsimp only
    split
    · refine Uses.request hdir fun r => ?_
      cases r <;> trivial
    · exact uses_error

theorem getDevicePathByVolumeID_uses {P : NodeOp → Prop} (hdir : ∀ dir, P (.readDir dir))
    (hlink : ∀ file, P (.evalSymlinks file)) (volume : String) :
    (getDevicePathByVolumeID volume).Uses P := by
  refine Uses.request (hdir _) fun r => ?_
  cases r with
  | error e => exact uses_error
  | ok files =>
    dsimp only
    split
    · exact uses_error
    · refine Uses.request (hlink _) fun r => ?_
      cases r with
      | error e => exact uses_error
      | ok path =>
        dsimp only
        split
        · exact uses_error
        · exact uses_ok

theorem resizeFilesystem_uses {P : NodeOp → Prop} (hcmd : ∀ cmd, P (.command cmd path))
    (fsType : String) :
    (resizeFilesystem path fsType).Uses P := by
  have hgrow (cmd : String) : (resizeFilesystem.grow path cmd).Uses P := by
    refine Uses.request (hcmd cmd) fun r => ?_
    cases r <;> trivial
  unfold resizeFilesystem
  split
  · exact hgrow _
  · split
    · exact hgrow _
    · exact uses_error

theorem nodePublishBlockVolume_uses (ns : NodeServer) (path target : String) :
    (ns.nodePublishBlockVolume path target).Uses (NodeOp.Spares path) := by
  have hbind :
      (NodeServer.nodePublishBlockVolume.bindDevice path target).Uses (NodeOp.Spares path) := by
    refine Uses.request (spares_of_none rfl) fun r => ?_
    cases r with
    | error e => exact uses_error
    | ok _ =>
      refine Uses.request (spares_of_some rfl) fun r => ?_
      cases r with
      | ok _ => exact uses_ok
      | error e =>
        refine Uses.request (spares_of_none rfl) fun r => ?_
        cases r <;> trivial
  refine Uses.request (spares_of_none rfl) fun r => ?_
  rcases r with e | (_ | _)
  · exact uses_error
  · refine Uses.request (spares_of_none rfl) fun r => ?_
    cases r with
    | error e => exact uses_error
    | ok _ => exact hbind
  · exact hbind

theorem nodePublishMountVolume_uses (ns : NodeServer) (volume path target fsType : String)
    (flags : List String) :
    (ns.nodePublishMountVolume volume path target fsType flags).Uses (NodeOp.Spares path) := by
  have hattach : (isLikelyNotMountPointAttach target).Uses (NodeOp.Spares path) :=
    isLikelyNotMountPointAttach_uses (spares_of_none rfl) (spares_of_none rfl)
  refine (hattach.orElse fun _ => uses_error).bind fun notMnt => ?_
  split
  · exact uses_ok
  · refine Uses.request (spares_of_some rfl) fun r => ?_
    cases r with
    | error e => exact uses_error
    | ok _ =>
      exact (resizeFilesystem_uses (fun _ => spares_of_some rfl) fsType).orElse fun _ => uses_error

theorem publishDevice_uses (ns : NodeServer) (volume path target : String) (caps : NodeCapability) :
    (ns.publishDevice volume path target caps).Uses (NodeOp.Spares path) := by
  unfold NodeServer.publishDevice
  split
  · exact nodePublishBlockVolume_uses ns _ target
  · split
    · exact nodePublishMountVolume_uses ns _ _ target _ _
    · exact uses_error

end

namespace AttachedDisks
variable {d : AttachedDisks}

/-- What goes on with the device that is found goes on with the volume's own. -/
theorem lookup_spares (hv : v ∈ d.volumes) (hfirst : d.ComesFirst v) (hs : s.2.links = d.links)
    {handler : Err → NodeApi String} {rest : String → NodeApi α}
    (hrest : (rest (d.disk v)).Uses (NodeOp.Spares (d.disk v))) :
    SparesOthers (d.disk v) ((getDevicePathByVolumeID v).orElse handler >>= rest) s := by
  obtain ⟨n, hn, hfound⟩ := exists_first hv
  have htarget := (target_first_iff hv hfound).mpr hfirst
  have hfind := d.find?_names v
  rw [hfound, Option.map_some] at hfind
  simp only [getDevicePathByVolumeID, request_bind, call_orElse, call_bind]
  rintro ⟨c₁, g₁⟩ r ⟨c₂, g₂⟩ hmove hread _
  have hlinks : g₁.links = d.links := hmove.trans hs
  obtain ⟨rfl, -, rfl⟩ : .ok (g₁.links.map DeviceLink.name) = r ∧ c₁ = c₂ ∧ g₁ = g₂ := by
    simpa [Guest.serve] using hread.2 trivial
  refine ⟨spares_of_none rfl, ?_⟩
  simp only [hlinks, hfind, call_orElse, call_bind]
  rintro ⟨c₃, g₃⟩ r ⟨c₄, g₄⟩ hmove' hresolve _
  have hlinks' : g₃.links = d.links := hmove'.trans hlinks
  have hserve := hresolve.2 trivial
  simp only [Guest.serve, hlinks', find?_link hn, htarget, Prod.mk.injEq] at hserve
  obtain ⟨rfl, -, rfl⟩ := hserve
  refine ⟨spares_of_none rfl, ?_⟩
  simp only [if_neg (d.target_ne v hv), pure_eq, ok_orElse, ok_bind]
  exact SparesOthers.of_uses hrest _

structure OwnDevice (d : AttachedDisks) (v : String) : Prop where
  found : ∀ c g, g.links = d.links →
    run Guest.serve (getDevicePathByVolumeID v) (c, g) = (.ok (d.disk v), c, g)
  publishes : ∀ (ns : NodeServer) (req : NodePublishRequest) targetPath caps s, req.volumeId = v →
    s.2.links = d.links → SparesOthers (d.disk v) (ns.nodePublishRWOVolume req targetPath caps) s
  expands : ∀ (ns : NodeServer) (req : NodeExpandRequest) s, req.volumeId = v →
    s.2.links = d.links → SparesOthers (d.disk v) (ns.nodeExpandVolume req) s

theorem publish_spares (hv : req.volumeId ∈ d.volumes) (hfirst : d.ComesFirst req.volumeId)
    (hs : s.2.links = d.links) :
    SparesOthers (d.disk req.volumeId)
      (NodeServer.nodePublishRWOVolume ns req targetPath caps) s := by
  simp only [NodeServer.nodePublishRWOVolume, NodeServer.readyDevice, request_bind, call_bind]
  intro s₁ r s₂ hmove hget _
  have hs₂ : s₂.2.links = d.links := hget.1.trans (hmove.trans hs)
  refine ⟨spares_of_none rfl, ?_⟩
  cases r with
  | error e => trivial
  | ok vmi =>
    dsimp only
    split
    · trivial
    · exact lookup_spares hv hfirst hs₂ (publishDevice_uses ns _ _ targetPath caps)

theorem expand_spares (hv : req.volumeId ∈ d.volumes) (hfirst : d.ComesFirst req.volumeId)
    (hs : s.2.links = d.links) :
    SparesOthers (d.disk req.volumeId) (NodeServer.nodeExpandVolume ns req) s := by
  have hgrow (t : Cluster × Guest) (ht : t.2.links = d.links) :
      SparesOthers (d.disk req.volumeId) (NodeServer.nodeExpandVolume.growVolume req) t := by
    refine lookup_spares hv hfirst ht ?_
    refine Uses.bind (Uses.orElse ?_ fun _ => uses_error) fun fsType => ?_
    · unfold NodeServer.getNodeFsType
      repeat' split
      all_goals trivial
    · exact ((resizeFilesystem_uses (fun _ => spares_of_some rfl) fsType).orElse
        fun _ => uses_error).bind fun _ => uses_ok
  simp only [NodeServer.nodeExpandVolume, NodeServer.validateNodeExpandReq, request_bind]
  split
  · trivial
  · rw [ok_bind]
    split
    · trivial
    · intro s₁ r s₂ hmove hget _
      have hs₂ : s₂.2.links = d.links := hget.1.trans (hmove.trans hs)
      refine ⟨spares_of_none rfl, ?_⟩
      cases r with
      | error e => trivial
      | ok setting =>
        intro s₃ r s₄ hmove' hstat _
        have hs₄ : s₄.2.links = d.links := hstat.1.trans (hmove'.trans hs₂)
        refine ⟨spares_of_none rfl, ?_⟩
        rcases r with e | (_ | _)
        · trivial
        · trivial
        · have hattach : (isLikelyNotMountPointAttach req.volumePath).Uses
            (NodeOp.Spares (d.disk req.volumeId)) :=
            isLikelyNotMountPointAttach_uses (spares_of_none rfl) (spares_of_none rfl)
          refine SparesOthers.bind (hattach.orElse fun _ => uses_error) ?_
          intro notMnt t ht
          split
          · trivial
          · exact hgrow t (ht.trans hs₄)

/-- The disk found for an attached volume is its own, and nothing is done to another
disk, exactly if no link of another volume gets in first. -/
theorem own_device_iff (d : AttachedDisks) (hv : v ∈ d.volumes) :
    d.OwnDevice v ↔ d.ComesFirst v := by
  obtain ⟨n, -, hfirst⟩ := exists_first hv
  rw [← target_first_iff hv hfirst]
  constructor
  · intro h
    have hfound := h.found .empty d.guest rfl
    rw [run_getDevicePathByVolumeID rfl hfirst] at hfound
    split at hfound
    · simp at hfound
    · simpa using hfound
  · intro htarget
    have hcomes := (target_first_iff hv hfirst).mp htarget
    refine ⟨?_, ?_, ?_⟩
    · intro c g hg
      rw [run_getDevicePathByVolumeID hg hfirst, htarget, if_neg (d.target_ne v hv)]
    · rintro ns req targetPath caps s rfl hs
      exact publish_spares hv hcomes hs
    · rintro ns req s rfl hs
      exact expand_spares hv hcomes hs

end AttachedDisks

def nestedIDs : AttachedDisks where
  volumes := ["data-1", "app-data-1"]
  names := [⟨"scsi-0HC_", "app-data-1", none⟩, ⟨"scsi-0HC_", "data-1", none⟩]
  disk v := if v = "data-1" then "/dev/sdb" else "/dev/sdc"
  partition v i := (if v = "data-1" then "/dev/sdb" else "/dev/sdc") ++ toString i
  ids := by decide
  sorted := by decide +kernel
  attached := by decide
  present := by decide
  lead := by decide +kernel
  whole := by decide
  target_ne := by decide
  disk_ne := by
    intro v hv w hw hne
    simp only [List.mem_cons, List.not_mem_nil, or_false] at hv hw
    rcases hv with rfl | rfl <;> rcases hw with rfl | rfl
    · exact absurd rfl hne
    · simp [String.ext_iff]
    · simp [String.ext_iff]
    · exact absurd rfl hne

theorem own_device_longer : nestedIDs.OwnDevice "app-data-1" := by
  refine (AttachedDisks.own_device_iff nestedIDs (by decide)).mpr ?_
  unfold AttachedDisks.ComesFirst
  decide +kernel

def readyHost : Cluster :=
  { Cluster.empty with
    vmis := Cluster.empty.vmis.put
      { ns := "ns", name := "n", volumeStatus := [⟨"data-1", true, .ready, "sda"⟩] } }

def publishData : NodeApi Unit :=
  NodeServer.nodePublishRWOVolume ⟨"ns", "n"⟩ ⟨"data-1", "/mnt", "", none⟩ "/mnt" { mount := true }

/-- The ID of one volume is found in the name of the other's link, and the disk of the
other volume is formatted and mounted. -/
theorem formats_other_disk :
    nestedIDs.disk "data-1" = "/dev/sdb" ∧ nestedIDs.disk "app-data-1" = "/dev/sdc" ∧
      run Guest.serve (getDevicePathByVolumeID "data-1") (readyHost, nestedIDs.guest) =
        (.ok "/dev/sdc", readyHost, nestedIDs.guest) ∧
      (run Guest.serve publishData (readyHost, nestedIDs.guest)).1 = .ok () ∧
      (run Guest.serve publishData (readyHost, nestedIDs.guest)).2.2.mounts =
        [{ source := "/dev/sdc", target := "/mnt", fsType := "ext4" }] ∧
      ¬ nestedIDs.OwnDevice "data-1" := by
  have hfirst : nestedIDs.first "data-1" = some ⟨"scsi-0HC_", "app-data-1", none⟩ := by
    decide +kernel
  have hrun : run Guest.serve (getDevicePathByVolumeID "data-1") (readyHost, nestedIDs.guest) =
      (.ok "/dev/sdc", readyHost, nestedIDs.guest) :=
    AttachedDisks.run_getDevicePathByVolumeID rfl hfirst
  refine ⟨rfl, rfl, hrun, by decide +kernel, by decide +kernel, ?_⟩
  intro h
  rw [h.found readyHost nestedIDs.guest rfl] at hrun
  simp [nestedIDs] at hrun

end HarvesterCSI
