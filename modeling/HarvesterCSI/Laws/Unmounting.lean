import HarvesterCSI.NodeServer

/-!
# Taking a volume off its path

A path may carry several mounts, one on top of the other. To unpublish a volume is to
take them all off and to remove the path, and doing it again is harmless. A directory
that is not empty under its mounts is not removed.
-/

namespace HarvesterCSI

open Calls Calls.Prog

-- ---------------------------------------------------------------------------
-- Texts of errors
-- ---------------------------------------------------------------------------

theorem containsText_append_right (s : String) (h : containsText t sub = true) :
    containsText (s ++ t) sub = true := by
  simp only [containsText, decide_eq_true_eq, String.toList_append] at h ⊢
  exact h.trans (List.suffix_append _ _).isInfix

theorem containsText_append_left (t : String) (h : containsText s sub = true) :
    containsText (s ++ t) sub = true := by
  simp only [containsText, decide_eq_true_eq, String.toList_append] at h ⊢
  exact h.trans (List.prefix_append _ _).isInfix

theorem containsText_self (s : String) : containsText s s = true := by
  simp [containsText]

-- ---------------------------------------------------------------------------
-- Layers
-- ---------------------------------------------------------------------------

namespace Guest
variable {g : Guest} {path : String}

def layers (g : Guest) (path : String) : Nat := g.mounts.countP (·.target = path)

def cleared (g : Guest) (path : String) : Guest :=
  { g with mounts := g.mounts.filter (·.target ≠ path) }

def removed (g : Guest) (path : String) : Guest :=
  { g with dirs := g.dirs.filter (· ≠ path), files := g.files.filter (· ≠ path) }

def without (g : Guest) (path : String) : Guest := (g.cleared path).removed path

theorem mounted_iff : g.mounted path = true ↔ 0 < g.layers path := by
  simp [mounted, layers, List.countP_pos_iff]

theorem not_mounted_iff : g.mounted path = false ↔ g.layers path = 0 := by
  rw [← Bool.not_eq_true, mounted_iff]
  omega

theorem layers_mount {m : Mount} (h : m.target = path) :
    ({ g with mounts := m :: g.mounts } : Guest).layers path = g.layers path + 1 := by
  simp [layers, h]

theorem unmounted_split (h : g.mounted path = true) :
    ∃ before m after, m.target = path ∧ g.mounts = before ++ m :: after ∧
      (g.unmounted path).mounts = before ++ after := by
  simp only [mounted, List.any_eq_true, decide_eq_true_eq] at h
  obtain ⟨m, hm, htarget⟩ := h
  obtain ⟨m, before, after, -, hp, hsplit, herase⟩ :=
    List.exists_of_eraseP (p := (·.target = path)) hm (by simpa using htarget)
  exact ⟨before, m, after, by simpa using hp, hsplit, herase⟩

theorem layers_unmounted (h : g.mounted path = true) :
    (g.unmounted path).layers path + 1 = g.layers path := by
  obtain ⟨before, m, after, htarget, hsplit, herase⟩ := unmounted_split h
  simp only [layers, hsplit, herase, List.countP_append, List.countP_cons, htarget]
  simp
  omega

theorem cleared_unmounted (h : g.mounted path = true) :
    (g.unmounted path).cleared path = g.cleared path := by
  obtain ⟨before, m, after, htarget, hsplit, herase⟩ := unmounted_split h
  have hmounts :
      (g.unmounted path).mounts.filter (·.target ≠ path) = g.mounts.filter (·.target ≠ path) := by
    simp [hsplit, herase, htarget]
  simp only [cleared, hmounts]
  rfl

theorem cleared_of_not_mounted (h : g.mounted path = false) : g.cleared path = g := by
  have hall : ∀ m ∈ g.mounts, m.target ≠ path := by simpa [mounted] using h
  have hmounts : g.mounts.filter (·.target ≠ path) = g.mounts :=
    List.filter_eq_self.mpr fun m hm => by simpa using hall m hm
  simp only [cleared, hmounts]

theorem removed_of_not_present (h : ¬ g.present path) : g.removed path = g := by
  simp only [present, not_or] at h
  have hdirs : g.dirs.filter (· ≠ path) = g.dirs :=
    List.filter_eq_self.mpr fun d hd => by simpa using (ne_of_mem_of_not_mem hd h.1)
  have hfiles : g.files.filter (· ≠ path) = g.files :=
    List.filter_eq_self.mpr fun f hf => by simpa using (ne_of_mem_of_not_mem hf h.2)
  simp only [removed, hdirs, hfiles]

@[simp] theorem layers_without : (g.without path).layers path = 0 := by
  simp [layers, without, removed, cleared]

@[simp] theorem not_present_without : ¬ (g.without path).present path := by
  simp [present, without, removed]

/-- There is nothing in the directory, and nothing is mounted in it. -/
structure Leaf (g : Guest) (path : String) : Prop where
  empty : g.occupied path = false
  free : ∀ m ∈ g.mounts, below path m.target = false

theorem not_busy_of_free (h : ∀ m ∈ g.mounts, below path m.target = false) :
    g.busy path = false := by
  rw [busy, Bool.and_eq_false_iff]
  refine .inr (List.any_eq_false.mpr fun m hm => ?_)
  simp [h m (List.takeWhile_sublist _ |>.subset hm)]

theorem not_busy_of_not_mounted (h : g.mounted path = false) : g.busy path = false := by
  rw [busy, h, Bool.false_and]

theorem Leaf.cleared (h : g.Leaf path) : (g.cleared path).Leaf path :=
  ⟨h.empty, fun m hm => h.free m (List.mem_of_mem_filter hm)⟩

theorem Leaf.without (h : g.Leaf path) : (g.without path).Leaf path := by
  refine ⟨List.any_eq_false.mpr fun p hp => ?_, h.cleared.free⟩
  have hmem : p ∈ g.dirs ++ g.files :=
    List.mem_append.mpr ((List.mem_append.mp hp).imp List.mem_of_mem_filter List.mem_of_mem_filter)
  exact List.any_eq_false.mp h.empty p hmem

theorem without_without : (g.without path).without path = g.without path := by
  have hmounted : (g.without path).mounted path = false := not_mounted_iff.mpr layers_without
  rw [without, cleared_of_not_mounted hmounted, removed_of_not_present not_present_without]

end Guest

-- ---------------------------------------------------------------------------
-- Unpublishing
-- ---------------------------------------------------------------------------

section
variable {c : Cluster} {g : Guest} {path : String}

theorem serve_isLikelyNotMountPoint (h : g.present path) :
    Guest.serve (.isLikelyNotMountPoint path) (c, g) = (.ok (!g.mounted path), c, g) := by
  have h' : path ∈ g.dirs ∨ path ∈ g.files := h
  simp [Guest.serve, h']

theorem serve_unmount (h : g.mounted path = true) (hfree : g.busy path = false) :
    Guest.serve (.unmount path) (c, g) = (.ok (), c, g.unmounted path) := by
  simp [Guest.serve, h, hfree]

theorem serve_unmount_silent (hbare : g.mounted path = false) (hpresent : g.present path)
    (hsilent : g.tools.unmountReports = false) :
    Guest.serve (.unmount path) (c, g) = (.ok (), c, g) := by
  simp [Guest.serve, Guest.not_busy_of_not_mounted hbare, hbare, hpresent, hsilent]

/-- Nothing is mounted: the tool reports it, or it reports nothing and the check says so. -/
theorem run_unmountLayers_bare (hbare : g.mounted path = false) :
    run Guest.serve (NodeServer.unmountLayers path (fuel + 1)) (c, g) = (.ok true, c, g) := by
  have hfree := Guest.not_busy_of_not_mounted hbare
  by_cases hpresent : g.present path
  · cases hreports : g.tools.unmountReports with
    | true =>
      have htext :
          containsText (Guest.unmountFailed path "not mounted").message "not mounted" = true :=
        containsText_append_left _ (containsText_append_right _ (containsText_self _))
      simp [NodeServer.unmountLayers, Guest.serve, hfree, hbare, hpresent, hreports, htext]
    | false =>
      simp [NodeServer.unmountLayers, serve_unmount_silent hbare hpresent hreports,
        serve_isLikelyNotMountPoint hpresent, hbare]
  · have htext : containsText (Guest.unmountFailed path "no mount point specified").message
        "no mount point specified" = true :=
      containsText_append_left _ (containsText_append_right _ (containsText_self _))
    simp [NodeServer.unmountLayers, Guest.serve, hfree, hbare, hpresent, htext]

/-- The loop ends within one round more than there are layers. -/
theorem run_unmountLayers (hpresent : g.layers path ≠ 0 → g.present path)
    (hfree : ∀ m ∈ g.mounts, below path m.target = false) (hfuel : g.layers path < fuel) :
    run Guest.serve (NodeServer.unmountLayers path fuel) (c, g) =
      (.ok true, c, g.cleared path) := by
  induction fuel generalizing g with
  | zero => omega
  | succ fuel ih =>
    cases hmounted : g.mounted path with
    | false => rw [run_unmountLayers_bare hmounted, Guest.cleared_of_not_mounted hmounted]
    | true =>
      have hlayers := Guest.layers_unmounted hmounted
      have hpath : (g.unmounted path).present path := hpresent (by omega)
      have hround : run Guest.serve (NodeServer.unmountLayers path (fuel + 1)) (c, g) =
          if (g.unmounted path).mounted path then
            run Guest.serve (NodeServer.unmountLayers path fuel) (c, g.unmounted path)
          else (.ok true, c, g.unmounted path) := by
        cases hmore : (g.unmounted path).mounted path <;>
          simp [NodeServer.unmountLayers, serve_unmount hmounted (Guest.not_busy_of_free hfree),
            serve_isLikelyNotMountPoint hpath, hmore]
      rw [hround, ← Guest.cleared_unmounted hmounted]
      split
      next => exact ih (fun _ => hpath) (fun m hm => hfree m (List.mem_of_mem_eraseP hm)) (by omega)
      next hbare => rw [Guest.cleared_of_not_mounted (by simpa using hbare)]

theorem serve_remove (hbare : g.mounted path = false) (hpresent : g.present path)
    (hempty : g.occupied path = false) :
    Guest.serve (.remove path) (c, g) = (.ok (), c, g.removed path) := by
  simp [Guest.serve, hpresent, hbare, hempty, Guest.removed]

theorem run_cleanupMountPoint (hbare : g.mounted path = false) (hempty : g.occupied path = false) :
    run Guest.serve (cleanupMountPoint path g.tools.skipsCheck) (c, g) =
      (.ok (), c, g.removed path) := by
  by_cases hpresent : g.present path
  · have hexists : Guest.serve (.pathExists path) (c, g) = (.ok true, c, g) := by
      have hpath : path ∈ g.dirs ∨ path ∈ g.files := hpresent
      simp [Guest.serve, hpath]
    cases hskips : g.tools.skipsCheck with
    | true =>
      have hsilent := g.tools.passesOver hskips
      simp [cleanupMountPoint, doCleanupMountPoint, removePath, hexists,
        serve_unmount_silent hbare hpresent hsilent, serve_remove hbare hpresent hempty]
    | false =>
      simp [cleanupMountPoint, doCleanupMountPoint, removePathIfNotMountPoint, hexists,
        serve_isLikelyNotMountPoint hpresent, hbare, serve_remove hbare hpresent hempty]
  · have hmissing : Guest.serve (.pathExists path) (c, g) = (.ok false, c, g) := by
      have hpath : ¬ (path ∈ g.dirs ∨ path ∈ g.files) := hpresent
      simp [Guest.serve, hpath]
    rw [Guest.removed_of_not_present hpresent]
    simp [cleanupMountPoint, hmissing]

end

theorem NodeServer.run_nodeUnpublishVolume (ns : NodeServer) (hid : req.volumeId ≠ "")
    (htarget : req.targetPath ≠ "")
    (hpresent : g.layers req.targetPath ≠ 0 → g.present req.targetPath)
    (hleaf : g.Leaf req.targetPath) (hfuel : g.layers req.targetPath < fuel) (c : Cluster) :
    run Guest.serve (ns.nodeUnpublishVolume req fuel) (c, g) =
      (.ok (some ()), c, g.without req.targetPath) := by
  have hbare : (g.cleared req.targetPath).mounted req.targetPath = false := by
    simp [Guest.mounted, Guest.cleared]
  have hnew :
      Guest.serve .newMounter (c, g) = ((g.cleared req.targetPath).tools.skipsCheck, c, g) := rfl
  simp [nodeUnpublishVolume, hid, htarget, hnew, run_bind, run_orElse,
    run_unmountLayers hpresent hleaf.free hfuel, run_cleanupMountPoint hbare hleaf.cleared.empty,
    Guest.without]

/-- Unpublishing ends, whatever is stacked on the path and however the tools answer. It
leaves neither a mount nor the path if the directory under the mounts is empty, and
nothing else changes. Once more changes nothing. -/
theorem unpublish_cleans_up (ns : NodeServer) (req : NodeUnpublishRequest) (c : Cluster) (g : Guest)
    (hid : req.volumeId ≠ "") (htarget : req.targetPath ≠ "") (k : Nat)
    (hlayers : g.layers req.targetPath = k) (hpresent : k ≠ 0 → g.present req.targetPath)
    (hleaf : g.Leaf req.targetPath) :
    (∀ fuel, k < fuel → run Guest.serve (ns.nodeUnpublishVolume req fuel) (c, g) =
      (.ok (some ()), c, g.without req.targetPath)) ∧
    (g.without req.targetPath).layers req.targetPath = 0 ∧
    ¬ (g.without req.targetPath).present req.targetPath ∧
    ∀ fuel, 0 < fuel →
      run Guest.serve (ns.nodeUnpublishVolume req fuel) (c, g.without req.targetPath) =
      (.ok (some ()), c, g.without req.targetPath) := by
  subst hlayers
  refine ⟨fun fuel hfuel => ?_, Guest.layers_without, Guest.not_present_without,
    fun fuel hfuel => ?_⟩
  · exact ns.run_nodeUnpublishVolume hid htarget hpresent hleaf hfuel c
  · have hnone : (g.without req.targetPath).layers req.targetPath < fuel := by simpa using hfuel
    have hagain :=
      ns.run_nodeUnpublishVolume hid htarget (absurd Guest.layers_without) hleaf.without hnone c
    rwa [Guest.without_without] at hagain

def stackedGuest : Guest :=
  { Guest.empty with
    dirs := ["/pods/a", "/pods/b"]
    mounts := [⟨"/stage", "/pods/a", "", ["bind"]⟩, ⟨"/stage", "/pods/b", "", ["bind"]⟩,
      ⟨"/stage", "/pods/a", "", ["bind"]⟩]
    tools := { unmountReports := true } }

theorem stackedGuest_leaf : stackedGuest.Leaf "/pods/a" := ⟨by decide +kernel, by decide +kernel⟩

theorem unpublish_cleans_up_stacked :
    run Guest.serve (NodeServer.nodeUnpublishVolume ⟨"ns", "node"⟩ ⟨"vol", "/pods/a"⟩ 3)
        (.empty, stackedGuest) = (.ok (some ()), .empty, stackedGuest.without "/pods/a") ∧
      (stackedGuest.without "/pods/a").mounts = [⟨"/stage", "/pods/b", "", ["bind"]⟩] :=
  ⟨(unpublish_cleans_up ⟨"ns", "node"⟩ ⟨"vol", "/pods/a"⟩ .empty stackedGuest (by decide)
      (by decide) 2 (by decide) (fun _ => by decide) stackedGuest_leaf).1 3 (by decide),
    by decide⟩

def occupiedGuest : Guest :=
  { Guest.empty with
    dirs := ["/pods/a", "/pods/a/data"]
    mounts := [⟨"/stage", "/pods/a", "", ["bind"]⟩] }

/-- The mount is taken off, and the directory stays. -/
theorem unpublish_leaves_occupied :
    let r := run Guest.serve (NodeServer.nodeUnpublishVolume ⟨"ns", "node"⟩ ⟨"vol", "/pods/a"⟩ 2)
      (.empty, occupiedGuest)
    r.1 = .error (.status .internal "remove /pods/a: directory not empty") ∧
      r.2.2.layers "/pods/a" = 0 ∧ r.2.2.present "/pods/a" := by
  decide +kernel

end HarvesterCSI
