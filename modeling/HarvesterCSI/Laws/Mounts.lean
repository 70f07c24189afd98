import HarvesterCSI.Calls.Series
import HarvesterCSI.Laws.Devices
import HarvesterCSI.Laws.Unmounting

/-!
# Publishing a volume more than once

A publish that is repeated should find its own mount and leave it alone. Each kind of
volume has its own check for that, and a block device has none.
-/

namespace HarvesterCSI

open Calls Calls.Prog

-- ---------------------------------------------------------------------------
-- A node on which calls may fail
-- ---------------------------------------------------------------------------

/-- No path is made or removed, and nothing is mounted or unmounted. The host and the
disks may change. -/
structure SamePaths (s t : Cluster × Guest) : Prop where
  dirs : t.2.dirs = s.2.dirs
  files : t.2.files = s.2.files
  mounts : t.2.mounts = s.2.mounts

def NodeOp.isCheck : NodeOp → Bool
  | .isMountPoint _ | .isLikelyNotMountPoint _ => true
  | _ => false

def NodeOp.Failed : (op : NodeOp) → op.Res → Prop
  | .host _, _ => True
  | .readDir _, .error _ | .evalSymlinks _, .error _ | .pathExists _, .error _
  | .mkdirAll _, .error _
  | .makeFile _, .error _ | .remove _, .error _ | .stat _, .error _ | .mount _, .error _
  | .formatAndMount _, .error _ | .unmount _, .error _ | .command .., .error _
  | .newExecutor, .error _ | .execute _, .error _ => True
  | _, _ => False

/-- A check of a mount point answers correctly. Another call does what it should, or
fails and does nothing. -/
def MayFail (op : NodeOp) (s : Cluster × Guest) (r : op.Res) (t : Cluster × Guest) : Prop :=
  Guest.serve op s = (r, t) ∨ (op.isCheck = false ∧ op.Failed r ∧ t = s)

-- ---------------------------------------------------------------------------
-- What happens to a path
-- ---------------------------------------------------------------------------

/-- The path gets `k` more mounts, and stays if it was there. -/
structure Gains (path : String) (k : Nat) (s t : Cluster × Guest) : Prop where
  layers : t.2.layers path = s.2.layers path + k
  present : s.2.present path → t.2.present path

def Guest.Sound (g : Guest) (path : String) : Prop := g.layers path ≠ 0 → g.present path

/-- The path is mounted, by a new mount only if there was none. -/
structure Published (path : String) (s t : Cluster × Guest) : Prop where
  layers : t.2.layers path = max 1 (s.2.layers path)
  present : t.2.present path

def NodeOp.quiet : NodeOp → Bool
  | .mount _ | .formatAndMount _ | .remove _ | .unmount _ | .execute _ => false
  | _ => true

section
variable {path : String} {s t u : Cluster × Guest}

theorem Gains.trans (h₁ : Gains path k s u) (h₂ : Gains path l u t) : Gains path (k + l) s t :=
  ⟨by rw [h₂.layers, h₁.layers, Nat.add_assoc], fun h => h₂.present (h₁.present h)⟩

theorem SamePaths.refl (s : Cluster × Guest) : SamePaths s s := ⟨rfl, rfl, rfl⟩

theorem SamePaths.gains (h : SamePaths s t) : Gains path 0 s t :=
  ⟨by simp [Guest.layers, h.mounts], by simp [Guest.present, h.dirs, h.files]⟩

theorem SamePaths.present_iff (h : SamePaths s t) : t.2.present path ↔ s.2.present path := by
  simp [Guest.present, h.dirs, h.files]

theorem SamePaths.mounted_eq (h : SamePaths s t) : t.2.mounted path = s.2.mounted path := by
  simp [Guest.mounted, h.mounts]

theorem Guest.Sound.bare {g : Guest} (hsound : g.Sound path) (hmissing : ¬ g.present path) :
    g.mounted path = false := by
  rw [Guest.not_mounted_iff]
  by_contra hlayers
  exact hmissing (hsound hlayers)

theorem Gains.published (h : Gains path k s t) (hpresent : t.2.present path)
    (hk : k = if s.2.mounted path then 0 else 1) : Published path s t := by
  refine ⟨?_, hpresent⟩
  rw [h.layers, hk]
  split
  next hmounted =>
    have hpos := Guest.mounted_iff.mp hmounted
    omega
  next hbare =>
    have hnone := Guest.not_mounted_iff.mp (by simpa using hbare)
    omega

theorem Guest.madeDir_present {g : Guest} (h : g.present path) (p : String) :
    (g.madeDir p).present path :=
  h.imp_left fun hmem => List.mem_union_iff.mpr (.inr hmem)

theorem Guest.present_madeDir (g : Guest) (path : String) : (g.madeDir path).present path :=
  .inl (List.mem_union_iff.mpr (.inl List.mem_cons_self))

theorem Guest.attach_eq {g : Guest} {m : Mount} (htarget : g.present m.target)
    (hsource : g.hasSource m.source) :
    g.attach m = (.ok (), { g with mounts := m :: g.mounts }) := by
  rw [Guest.attach, if_neg (not_not.mpr htarget), if_neg (not_not.mpr hsource)]

theorem Guest.attach_ok {g : Guest} {m : Mount} (h : (g.attach m).1 = .ok ()) :
    (g.attach m).2 = { g with mounts := m :: g.mounts } := by
  unfold Guest.attach at h ⊢
  split
  · rename_i hmissing
    rw [if_pos hmissing] at h
    cases h
  · split
    · rename_i hpresent hmissing
      rw [if_neg hpresent, if_pos hmissing] at h
      cases h
    · rfl

theorem serve_gains (path : String) (op : NodeOp) (s : Cluster × Guest) (hquiet : op.quiet = true) :
    Gains path 0 s (Guest.serve op s).2 := by
  obtain ⟨c, g⟩ := s
  cases op with
  | mount | formatAndMount | remove | unmount | execute => cases hquiet
  | mkdirAll p => exact ⟨rfl, fun h => Guest.madeDir_present h p⟩
  | makeFile p =>
    simp only [Guest.serve]
    split
    · exact ⟨rfl, id⟩
    · split
      · exact ⟨rfl, id⟩
      · exact ⟨rfl, fun h => h.imp_right List.mem_insert_of_mem⟩
  | _ => exact ⟨rfl, id⟩

theorem MayFail.served (op : NodeOp) (s : Cluster × Guest) :
    MayFail op s (Guest.serve op s).1 (Guest.serve op s).2 := .inl rfl

theorem MayFail.gains (h : MayFail op s r t) (hquiet : op.quiet = true) : Gains path 0 s t := by
  rcases h with h | ⟨-, -, rfl⟩
  · have hserve := serve_gains path op s hquiet
    rwa [h] at hserve
  · exact (SamePaths.refl t).gains

theorem MayFail.serve_eq (h : MayFail op s r t) (hr : op.isCheck = true ∨ ¬ op.Failed r) :
    Guest.serve op s = (r, t) := by
  rcases h with h | ⟨hcheck, hfailed, -⟩
  · exact h
  · rcases hr with hr | hr
    · rw [hcheck] at hr
      cases hr
    · exact absurd hfailed hr

theorem attach_gains {c : Cluster} {g : Guest} {m : Mount}
    (h : ((g.attach m).1, c, (g.attach m).2) = (.ok (), t)) (hm : m.target = path) :
    Gains path 1 (c, g) t := by
  obtain ⟨hok, rfl⟩ := Prod.mk.inj h
  rw [Guest.attach_ok hok]
  exact ⟨Guest.layers_mount hm, id⟩

theorem MayFail.mount (h : MayFail (.mount m) s (.ok ()) t) (hm : m.target = path) :
    Gains path 1 s t :=
  attach_gains (h.serve_eq (.inr id)) hm

theorem MayFail.formatAndMount (h : MayFail (.formatAndMount m) s (.ok ()) t)
    (hm : m.target = path) :
    Gains path 1 s t :=
  attach_gains (h.serve_eq (.inr id)) hm

theorem MayFail.mkdirAll (h : MayFail (.mkdirAll path) s (.ok ()) t) : t.2.present path := by
  cases h.serve_eq (.inr id)
  exact s.2.present_madeDir path

theorem MayFail.makeFile (h : MayFail (.makeFile path) s (.ok ()) t) : t.2.present path := by
  have hserve := h.serve_eq (.inr id)
  obtain ⟨c, g⟩ := s
  simp only [Guest.serve] at hserve
  split at hserve
  · cases hserve
  · split at hserve
    · cases hserve
    · cases hserve
      exact .inr List.mem_insert_self

theorem MayFail.isMountPoint (h : MayFail (.isMountPoint path) s r t) :
    t = s ∧ r =
      if s.2.present path then .ok (s.2.mounted path) else .error (Guest.noSuchFile path) := by
  cases h.serve_eq (.inl rfl)
  exact ⟨rfl, rfl⟩

theorem MayFail.isLikelyNotMountPoint (h : MayFail (.isLikelyNotMountPoint path) s r t) :
    t = s ∧ r =
      if s.2.present path then .ok (!s.2.mounted path) else .error (Guest.noSuchFile path) := by
  cases h.serve_eq (.inl rfl)
  exact ⟨rfl, rfl⟩

theorem Runs.gains {p : NodeApi α} (hp : p.Uses (·.quiet = true))
    (h : Runs SamePaths MayFail p s o t) :
    Gains path 0 s t :=
  Runs.invariant hp (fun _ _ h hsame => h.trans hsame.gains)
    (fun _ _ _ _ hop h hcall => h.trans (hcall.gains hop)) h (SamePaths.refl s).gains

end

-- ---------------------------------------------------------------------------
-- One call
-- ---------------------------------------------------------------------------

section
variable {ns : NodeServer} {req : NodePublishRequest} {target : String} {s t : Cluster × Guest}

theorem bindStaging_gains
    (h : Runs SamePaths MayFail (NodeServer.nodePublishRWXVolume.bindStaging req target) s
      (.ok ()) t) :
    Gains target 1 s t := by
  obtain ⟨s₁, r, s₂, h₁, hmount, h⟩ := h.request
  cases r with
  | error e => cases h.1
  | ok _ => exact (h₁.gains.trans (hmount.mount rfl)).trans h.2.gains

theorem nodePublishRWXVolume_published (hsound : s.2.Sound target)
    (h : Runs SamePaths MayFail (ns.nodePublishRWXVolume req target) s (.ok ()) t) :
    Published target s t := by
  unfold NodeServer.nodePublishRWXVolume at h
  split at h
  · cases h.1
  · obtain ⟨s₁, r, s₂, h₁, hcheck, h⟩ := h.request
    obtain ⟨rfl, rfl⟩ := hcheck.isMountPoint
    rw [h₁.mounted_eq] at h
    by_cases hpresent : s₂.2.present target
    · rw [if_pos hpresent] at h
      cases hmounted : s.2.mounted target with
      | true =>
        rw [hmounted] at h
        exact (h₁.gains.trans h.2.gains).published (h.2.gains.present hpresent) (by simp [hmounted])
      | false =>
        rw [hmounted] at h
        have hbind := bindStaging_gains h
        exact (h₁.gains.trans hbind).published (hbind.present hpresent) (by simp [hmounted])
    · rw [if_neg hpresent] at h
      have hbare := hsound.bare (h₁.present_iff.not.mp hpresent)
      obtain ⟨s₃, r, s₄, h₃, hdir, h⟩ := h.request
      cases r with
      | error e => cases h.1
      | ok _ =>
        have hbind := bindStaging_gains h
        exact (((h₁.gains.trans h₃.gains).trans (hdir.gains rfl)).trans hbind).published
          (hbind.present hdir.mkdirAll) (by simp [hbare])

/-- The check makes the path, and says whether it was mounted. -/
theorem isLikelyNotMountPointAttach_checked (hsound : s.2.Sound target)
    (h : Runs SamePaths MayFail (isLikelyNotMountPointAttach target) s (.ok notMnt) t) :
    notMnt = !s.2.mounted target ∧ Gains target 0 s t ∧ t.2.present target := by
  obtain ⟨s₁, r, s₂, h₁, hcheck, h⟩ := h.request
  obtain ⟨rfl, rfl⟩ := hcheck.isLikelyNotMountPoint
  rw [h₁.mounted_eq] at h
  by_cases hpresent : s₂.2.present target
  · rw [if_pos hpresent] at h
    obtain ⟨hnot, hsame⟩ := h
    cases hnot
    exact ⟨rfl, h₁.gains.trans hsame.gains, hsame.gains.present hpresent⟩
  · rw [if_neg hpresent] at h
    have hbare := hsound.bare (h₁.present_iff.not.mp hpresent)
    obtain ⟨s₃, r, s₄, h₃, hdir, h⟩ := h.request
    cases r with
    | error e => cases h.1
    | ok _ =>
      obtain ⟨hnot, hsame⟩ := h
      cases hnot
      exact ⟨by simp [hbare], ((h₁.gains.trans h₃.gains).trans (hdir.gains rfl)).trans hsame.gains,
        hsame.gains.present hdir.mkdirAll⟩

theorem nodePublishMountVolume_published (hsound : s.2.Sound target)
    (h : Runs SamePaths MayFail (ns.nodePublishMountVolume volume dev target fsType flags) s
      (.ok ()) t) :
    Published target s t := by
  obtain ⟨notMnt, u, hcheck, h⟩ := h.bind_ok SamePaths.refl
  rcases hcheck.orElse_ok SamePaths.refl with hcheck | ⟨e, v, -, hfailed⟩
  · obtain ⟨rfl, hu, hpresent⟩ := isLikelyNotMountPointAttach_checked hsound hcheck
    cases hmounted : s.2.mounted target with
    | true =>
      simp only [hmounted] at h
      exact (hu.trans h.2.gains).published (h.2.gains.present hpresent) (by simp [hmounted])
    | false =>
      simp only [hmounted] at h
      obtain ⟨s₁, r, s₂, h₁, hmount, h⟩ := h.request
      cases r with
      | error e => cases h.1
      | ok _ =>
        have hgrow : Gains target 0 s₂ t :=
          Runs.gains ((resizeFilesystem_uses (fun _ => rfl) fsType).orElse fun _ => uses_error) h
        have hall := (h₁.gains.trans (hmount.formatAndMount rfl)).trans hgrow
        exact (hu.trans hall).published (hall.present hpresent) (by simp [hmounted])
  · cases hfailed.1

/-- There is no check for a block device: whatever is mounted, one more mount is made. -/
theorem nodePublishBlockVolume_gains
    (h : Runs SamePaths MayFail (ns.nodePublishBlockVolume dev target) s (.ok ()) t) :
    Gains target 1 s t ∧ t.2.present target := by
  have hbind {u : Cluster × Guest}
      (h : Runs SamePaths MayFail (NodeServer.nodePublishBlockVolume.bindDevice dev target) u
        (.ok ()) t) :
      Gains target 1 u t ∧ t.2.present target := by
    obtain ⟨s₁, r, s₂, h₁, hfile, h⟩ := h.request
    cases r with
    | error e => cases h.1
    | ok _ =>
      obtain ⟨s₃, r, s₄, h₃, hmount, h⟩ := h.request
      cases r with
      | ok _ =>
        have hlast := (h₃.gains.trans (hmount.mount rfl)).trans h.2.gains
        exact ⟨(h₁.gains.trans (hfile.gains rfl)).trans hlast, hlast.present hfile.makeFile⟩
      | error e =>
        obtain ⟨s₅, r, s₆, -, -, h⟩ := h.request
        cases r <;> cases h.1
  obtain ⟨s₁, r, s₂, h₁, hexists, h⟩ := h.request
  rcases r with e | (_ | _)
  · cases h.1
  · obtain ⟨s₃, r, s₄, h₃, hdir, h⟩ := h.request
    cases r with
    | error e => cases h.1
    | ok _ =>
      obtain ⟨hgains, hpresent⟩ := hbind h
      exact ⟨(((h₁.gains.trans (hexists.gains rfl)).trans h₃.gains).trans (hdir.gains rfl)).trans
        hgains, hpresent⟩
  · obtain ⟨hgains, hpresent⟩ := hbind h
    exact ⟨(h₁.gains.trans (hexists.gains rfl)).trans hgains, hpresent⟩

theorem readyDevice_uses {P : NodeOp → Prop} (ns : NodeServer)
    (hvmi : P (.host (.getVMI ns.ns ns.nodeID))) (hdir : ∀ dir, P (.readDir dir))
    (hlink : ∀ file, P (.evalSymlinks file)) (volume : String) :
    (ns.readyDevice volume).Uses P := by
  refine Uses.request hvmi fun r => ?_
  cases r with
  | error e => exact uses_error
  | ok vmi =>
    dsimp only
    split
    · exact uses_error
    · exact (getDevicePathByVolumeID_uses hdir hlink volume).orElse fun _ => uses_error

theorem nodePublishRWOVolume_device {cap : NodeCapability}
    (h : Runs SamePaths MayFail (ns.nodePublishRWOVolume req target cap) s (.ok ()) t) :
    ∃ dev u, Gains target 0 s u ∧
      if cap.block then Runs SamePaths MayFail (ns.nodePublishBlockVolume dev target) u (.ok ()) t
      else ∃ fsType, Runs SamePaths MayFail
        (ns.nodePublishMountVolume req.volumeId dev target fsType cap.mountFlags) u (.ok ()) t := by
  obtain ⟨dev, u, hdev, h⟩ := h.bind_ok SamePaths.refl
  have hquiet :=
    readyDevice_uses (P := (·.quiet = true)) ns rfl (fun _ => rfl) (fun _ => rfl) req.volumeId
  refine ⟨dev, u, Runs.gains hquiet hdev, ?_⟩
  unfold NodeServer.publishDevice at h
  split at h
  next hblock =>
    rw [if_pos hblock]
    exact h
  next hblock =>
    rw [if_neg hblock]
    split at h
    · exact ⟨_, h⟩
    · cases h.1

end

-- ---------------------------------------------------------------------------
-- Every number of calls
-- ---------------------------------------------------------------------------

def NodePublishRequest.RawBlock (req : NodePublishRequest) : Prop :=
  ∃ cap, req.volumeCapability = some cap ∧ cap.mode = .singleNodeWriter ∧ cap.block = true

section
variable {ns : NodeServer} {req : NodePublishRequest} {s t : Cluster × Guest}

theorem Gains.sound (h : Gains path 0 s t) (hs : s.2.Sound path) : t.2.Sound path :=
  fun hlayers => h.present (hs (by rwa [h.layers] at hlayers))

theorem nodePublishVolume_published (hraw : ¬ req.RawBlock) (hsound : s.2.Sound req.targetPath)
    (h : Runs SamePaths MayFail (ns.nodePublishVolume req) s (.ok ()) t) :
    Published req.targetPath s t := by
  unfold NodeServer.nodePublishVolume at h
  split at h
  · cases h.1
  · split at h
    · cases h.1
    next cap hcap =>
      split at h
      · exact nodePublishRWXVolume_published hsound h
      · split at h
        next hmode =>
          obtain ⟨dev, u, hu, h⟩ := nodePublishRWOVolume_device h
          rw [if_neg fun hblock => hraw ⟨cap, hcap, hmode, hblock⟩] at h
          obtain ⟨fsType, h⟩ := h
          obtain ⟨hlayers, hpresent⟩ := nodePublishMountVolume_published (hu.sound hsound) h
          exact ⟨by rw [hlayers, hu.layers, Nat.add_zero], hpresent⟩
        · cases h.1

theorem nodePublishVolume_gains (hraw : req.RawBlock)
    (h : Runs SamePaths MayFail (ns.nodePublishVolume req) s (.ok ()) t) :
    Gains req.targetPath 1 s t := by
  obtain ⟨cap, hcap, hmode, hblock⟩ := hraw
  unfold NodeServer.nodePublishVolume at h
  rw [hcap] at h
  simp only [hmode] at h
  split at h
  · cases h.1
  · obtain ⟨dev, u, hu, h⟩ := nodePublishRWOVolume_device h
    rw [if_pos hblock] at h
    have hgains := hu.trans (nodePublishBlockVolume_gains h).1
    rwa [Nat.zero_add] at hgains

theorem repeats_layers (hbare : s.2.layers req.targetPath = 0)
    (h : Repeats SamePaths MayFail (ns.nodePublishVolume req) n s t) :
    (req.RawBlock → t.2.layers req.targetPath = n) ∧
      (¬ req.RawBlock → t.2.layers req.targetPath = min n 1 ∧ t.2.Sound req.targetPath) := by
  induction h with
  | zero =>
    exact ⟨fun _ => hbare, fun _ => ⟨by simpa using hbare, fun hlayers => absurd hbare hlayers⟩⟩
  | succ _ hrun ih =>
    obtain ⟨hblock, hother⟩ := ih hbare
    refine ⟨fun hraw => ?_, fun hraw => ?_⟩
    · rw [(nodePublishVolume_gains hraw hrun).layers, hblock hraw]
    · obtain ⟨hlayers, hsound⟩ := hother hraw
      obtain ⟨hmore, hpresent⟩ := nodePublishVolume_published hraw hsound hrun
      exact ⟨by omega, fun _ => hpresent⟩

end

/-- Repeated publishes leave one mount, except those of a block device: each of them adds
a mount of its own. -/
theorem publish_one_layer_iff (ns : NodeServer) (req : NodePublishRequest) (s t : Cluster × Guest)
    (n : Nat) (hn : 1 ≤ n) (hbare : s.2.layers req.targetPath = 0)
    (h : Repeats SamePaths MayFail (ns.nodePublishVolume req) n s t) :
    t.2.layers req.targetPath = 1 ↔ (req.RawBlock → n = 1) := by
  obtain ⟨hblock, hother⟩ := repeats_layers hbare h
  by_cases hraw : req.RawBlock
  · simp [hblock hraw, hraw]
  · have hone := (hother hraw).1
    exact iff_of_true (by omega) fun hraw' => absurd hraw' hraw

theorem runs_of_run {p : NodeApi Unit} {s : Cluster × Guest}
    (h : (run Guest.serve p s).1 = .ok ()) :
    Runs SamePaths MayFail p s (.ok ()) (run Guest.serve p s).2 := by
  have hruns := Runs.of_run SamePaths.refl MayFail.served p s
  rwa [h] at hruns

def diskHost : Cluster :=
  { Cluster.empty with
    vmis := Cluster.empty.vmis.put
      { ns := "guest", name := "node", volumeStatus := [⟨"vol", true, .ready, "sda"⟩] } }

def diskGuest : Guest where
  links := [⟨"scsi-vol", "/dev/sda"⟩]
  sorted := List.pairwise_singleton ..
  dirs := ["/pods"]

def afterPublishes (req : NodePublishRequest) : Nat → Cluster × Guest
  | 0 => (diskHost, diskGuest)
  | n + 1 =>
    (run Guest.serve (NodeServer.nodePublishVolume ⟨"guest", "node"⟩ req) (afterPublishes req n)).2

def mountRequest : NodePublishRequest :=
  ⟨"vol", "/pods/vol", "", some { mount := true, accessMode := some .singleNodeWriter }⟩

def blockRequest : NodePublishRequest :=
  ⟨"vol", "/pods/vol", "", some { block := true, accessMode := some .singleNodeWriter }⟩

theorem mountRequest_twice :
    Repeats SamePaths MayFail (NodeServer.nodePublishVolume ⟨"guest", "node"⟩ mountRequest)
    2 (diskHost, diskGuest) (afterPublishes mountRequest 2) :=
  .succ (.succ .zero (runs_of_run (by decide +kernel))) (runs_of_run (by decide +kernel))

theorem publish_one_layer_mount : (afterPublishes mountRequest 2).2.layers "/pods/vol" = 1 :=
  (publish_one_layer_iff ⟨"guest", "node"⟩ mountRequest (diskHost, diskGuest)
    (afterPublishes mountRequest 2) 2 (by decide) (by decide) mountRequest_twice).mpr
    (by rintro ⟨cap, hcap, -, hblock⟩; cases hcap; cases hblock)

/-- The second publish of a block device binds it over the first. -/
theorem block_publish_stacks :
    Repeats SamePaths MayFail (NodeServer.nodePublishVolume ⟨"guest", "node"⟩ blockRequest)
      2 (diskHost, diskGuest) (afterPublishes blockRequest 2) ∧
    diskGuest.layers "/pods/vol" = 0 ∧ (afterPublishes blockRequest 2).2.layers "/pods/vol" = 2 :=
  ⟨.succ (.succ .zero (runs_of_run (by decide +kernel))) (runs_of_run (by decide +kernel)),
    by decide, by decide +kernel⟩

end HarvesterCSI
