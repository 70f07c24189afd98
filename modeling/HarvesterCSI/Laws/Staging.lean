import HarvesterCSI.Calls.Series
import HarvesterCSI.Laws.Unmounting

/-!
# Staging a shared volume

The export of a shared volume is mounted to a staging path, and one unstage takes one
mount off. Staging does not look at the path: a second call on a staged volume puts a
second mount on it, or fails when the node refuses that.
-/

namespace HarvesterCSI

open Calls Calls.Prog

-- ---------------------------------------------------------------------------
-- Series of calls
-- ---------------------------------------------------------------------------

inductive StagingCall
  | stage (req : NodeStageRequest)
  | unstage (req : NodeUnstageRequest)
  deriving DecidableEq, Repr

def NodeServer.ExportReady (ns : NodeServer) (volume : String) (c : Cluster) : Prop :=
  ∃ pvc fs, c.pvcs.get (ns.ns, volume) = some pvc ∧
    c.networkFSs.get (harvesterNS, pvc.volumeName) = some fs ∧ fs.status = .ready

namespace StagingCall

def isStage : StagingCall → Bool
  | stage _ => true
  | unstage _ => false

def run (ns : NodeServer) : StagingCall → Cluster × Guest → Outcome Err Unit × (Cluster × Guest)
  | stage req => Calls.run Guest.serve (ns.nodeStageVolume req)
  | unstage req => Calls.run Guest.serve (ns.nodeUnstageVolume req)

/-- The call is about the path, and a volume that is staged there is shared and exported. -/
def On (ns : NodeServer) (c : Cluster) (path : String) : StagingCall → Prop
  | stage req => req.stagingTargetPath = path ∧ ns.ExportReady req.volumeId c ∧
      ∃ cap, req.volumeCapability = some cap ∧ cap.mode = .multiNodeMultiWriter
  | unstage req => req.stagingTargetPath = path

/-- The call is answered with OK and leaves one mount if it stages, none otherwise. -/
def Done (path : String) (call : StagingCall) (o : Outcome Err Unit) (s : Cluster × Guest) : Prop :=
  o = .ok () ∧ s.2.layers path = if call.isStage then 1 else 0

end StagingCall

/-- Whether the path is staged. A staged path is to be unstaged first. -/
def staging : Machine StagingCall Bool where
  allows call staged := call.isStage = true → staged = false
  next call _ := call.isStage

theorem staging_accepts_iff {calls : List StagingCall} {staged : Bool} :
    staging.Accepts calls staged ↔
      (∀ call ∈ calls.head?, call.isStage = true → staged = false) ∧
        calls.IsChain fun a b => ¬ (a.isStage ∧ b.isStage) := by
  induction calls generalizing staged with
  | nil => simp [Machine.Accepts]
  | cons call rest ih =>
    have hcons : staging.Accepts (call :: rest) staged ↔
        (call.isStage = true → staged = false) ∧ staging.Accepts rest call.isStage := Iff.rfl
    rw [hcons, ih, List.isChain_cons]
    cases hcall : call.isStage <;> simp [hcall]

-- ---------------------------------------------------------------------------
-- One call
-- ---------------------------------------------------------------------------

section
variable {ns : NodeServer} {c : Cluster} {g : Guest} {path : String}

theorem NodeServer.run_nodeStageVolume {req : NodeStageRequest}
    (hon : (StagingCall.stage req).On ns c path) (hpath : path ≠ "") :
    ∃ options nfsExport, run Guest.serve (ns.nodeStageVolume req) (c, g) =
      (match (g.execute (.mount "nfs" options nfsExport path)).1 with
        | .ok _ => .ok ()
        | .error e => .error (.status .internal
            ("Could not mount " ++ nfsExport ++ " for global path: " ++ e.message)),
      c, (g.execute (.mount "nfs" options nfsExport path)).2) := by
  obtain ⟨rfl, ⟨pvc, fs, hpvc, hfs, hready⟩, cap, hcap, hmode⟩ := hon
  refine ⟨if fs.mountOpts ≠ "" then fs.mountOpts else "vers=4",
    fs.endpoint ++ ":/" ++ pvc.volumeName, ?_⟩
  simp [nodeStageVolume, nodeStageRWXVolume, nodeStageRWXVolume.mountExport, hcap, hmode, hpath,
    Guest.serve, Cluster.serve, hpvc, hfs, hready]
  cases (g.execute (.mount "nfs" (if fs.mountOpts = "" then "vers=4" else fs.mountOpts)
    (fs.endpoint ++ ":/" ++ pvc.volumeName) req.stagingTargetPath)).1 <;> rfl

theorem executeFailed_contains (h : containsText output sub = true) :
    containsText (Guest.executeFailed cmd status output stderr).message sub = true :=
  containsText_append_left _ (containsText_append_left _ (containsText_append_left _
    (containsText_append_left _ (containsText_append_right _ h))))

theorem NodeServer.run_nodeUnstageVolume {req : NodeUnstageRequest}
    (hon : (StagingCall.unstage req).On ns c path) (hpath : path ≠ "") (hpresent : g.present path)
    (hfree : g.busy path = false) :
    run Guest.serve (ns.nodeUnstageVolume req) (c, g) =
      (.ok (), c, if g.mounted path then g.unmounted path else g) := by
  have hon : req.stagingTargetPath = path := hon
  cases hmounted : g.mounted path with
  | true =>
    have htext : containsText (path ++ " is a mountpoint\n") "is a mountpoint" = true :=
      containsText_append_right _ (by decide +kernel)
    simp [nodeUnstageVolume, hon, hpath, Guest.serve, Guest.execute, hmounted, hfree, htext]
  | false =>
    have htext : containsText (Guest.executeFailed (.mountpoint path) "exit status 32"
        (path ++ " is not a mountpoint\n") "").message "is not a mountpoint" = true :=
      executeFailed_contains (containsText_append_right _ (by decide +kernel))
    simp [nodeUnstageVolume, hon, hpath, Guest.serve, Guest.execute, hmounted, hpresent, htext]

theorem Guest.not_busy_after_mount {m : Mount} (h : m.target = path) :
    ({ g with mounts := m :: g.mounts } : Guest).busy path = false := by
  simp [Guest.busy, h]

/-- The export is mounted once more, unless the node refuses it on a mounted path. -/
theorem StagingCall.stage_cases {req : NodeStageRequest} (hon : (stage req).On ns c path)
    (hpath : path ≠ "") (hpresent : g.present path) :
    (∃ m : Mount, m.target = path ∧
      (stage req).run ns (c, g) = (.ok (), c, { g with mounts := m :: g.mounts })) ∨
    (g.mounted path = true ∧ ((stage req).run ns (c, g)).1 ≠ .ok ()) := by
  obtain ⟨options, nfsExport, hrun⟩ := ns.run_nodeStageVolume (g := g) hon hpath
  rw [StagingCall.run, hrun]
  by_cases hrefused : g.mounted path = true ∧ g.tools.refusesRemount = true
  · exact .inr ⟨hrefused.1, by simp [Guest.execute, hpresent, hrefused]⟩
  · exact .inl ⟨⟨nfsExport, path, "nfs", [options]⟩, rfl,
      by simp [Guest.execute, hpresent, hrefused]⟩

theorem StagingCall.stage_done_iff {req : NodeStageRequest} (hon : (stage req).On ns c path)
    (hpath : path ≠ "") (hpresent : g.present path) :
    (stage req).Done path ((stage req).run ns (c, g)).1 ((stage req).run ns (c, g)).2 ↔
      g.layers path = 0 := by
  obtain ⟨m, hm, hrun⟩ | ⟨hmounted, hfailed⟩ := stage_cases hon hpath hpresent
  · simp [Done, isStage, hrun, Guest.layers_mount hm]
  · have hlayers := Guest.mounted_iff.mp hmounted
    exact iff_of_false (fun hdone => hfailed hdone.1) (by omega)

theorem StagingCall.unstage_done {req : NodeUnstageRequest} (hon : (unstage req).On ns c path)
    (hpath : path ≠ "") (hpresent : g.present path) (hfree : g.busy path = false)
    (hlayers : g.layers path ≤ 1) :
    (unstage req).Done path ((unstage req).run ns (c, g)).1 ((unstage req).run ns (c, g)).2 := by
  rw [StagingCall.run, NodeServer.run_nodeUnstageVolume hon hpath hpresent hfree]
  refine ⟨rfl, ?_⟩
  dsimp only [isStage]
  split
  next hmounted =>
    have hless := Guest.layers_unmounted hmounted
    simp
    omega
  next hbare => exact Guest.not_mounted_iff.mp (by simpa using hbare)

end

-- ---------------------------------------------------------------------------
-- Every series
-- ---------------------------------------------------------------------------

/-- The path is there, and carries one mount exactly if it is staged. Nothing is mounted in
what that mount shows. -/
structure Staged (c : Cluster) (path : String) (s : Cluster × Guest) (staged : Bool) : Prop where
  host : s.1 = c
  present : s.2.present path
  free : s.2.busy path = false
  layers : s.2.layers path = if staged then 1 else 0

section
variable {ns : NodeServer} {c : Cluster} {path : String}

theorem StagingCall.done_iff (hpath : path ≠ "") (call : StagingCall) (s : Cluster × Guest)
    (staged : Bool) (hon : call.On ns c path) (h : Staged c path s staged) :
    call.Done path (call.run ns s).1 (call.run ns s).2 ↔ staging.allows call staged := by
  obtain ⟨c, g⟩ := s
  obtain ⟨rfl, hpresent, hfree, hlayers⟩ := h
  cases call with
  | stage req =>
    rw [stage_done_iff hon hpath hpresent, hlayers]
    cases staged <;> simp [staging, isStage]
  | unstage req =>
    refine iff_of_true (unstage_done hon hpath hpresent hfree ?_) (by simp [staging, isStage])
    rw [hlayers]
    split <;> omega

theorem StagingCall.run_staged (hpath : path ≠ "") (call : StagingCall) (s : Cluster × Guest)
    (staged : Bool) (hon : call.On ns c path) (h : Staged c path s staged)
    (hallows : staging.allows call staged) :
    Staged c path (call.run ns s).2 (staging.next call staged) := by
  have hdone := (call.done_iff hpath s staged hon h).mpr hallows
  obtain ⟨c, g⟩ := s
  obtain ⟨rfl, hpresent, hfree, hlayers⟩ := h
  cases call with
  | stage req =>
    obtain ⟨m, hm, hrun⟩ | ⟨-, hfailed⟩ := stage_cases hon hpath hpresent
    · refine ⟨by rw [hrun], ?_, ?_, hdone.2⟩
      · rw [hrun]
        exact hpresent
      · rw [hrun]
        exact Guest.not_busy_after_mount hm
    · exact absurd hdone.1 hfailed
  | unstage req =>
    have hrun : (unstage req).run ns (c, g) = _ :=
      NodeServer.run_nodeUnstageVolume hon hpath hpresent hfree
    refine ⟨by rw [hrun], ?_, Guest.not_busy_of_not_mounted (Guest.not_mounted_iff.mpr hdone.2),
      hdone.2⟩
    rw [hrun]
    split
    · exact hpresent
    · exact hpresent

end

/-- Staging is idempotent, and undone by one unstage, in exactly those series in which no
stage follows directly on another. -/
theorem staging_idempotent_iff (ns : NodeServer) (c : Cluster) (g : Guest) (path : String)
    (calls : List StagingCall) (hpath : path ≠ "") (hon : ∀ call ∈ calls, call.On ns c path)
    (hpresent : g.present path) (hbare : g.layers path = 0) :
    Along (StagingCall.run ns) (StagingCall.Done path) calls (c, g) ↔
      calls.IsChain fun a b => ¬ (a.isStage ∧ b.isStage) := by
  have hstart : Staged c path (c, g) false :=
    ⟨rfl, hpresent, Guest.not_busy_of_not_mounted (Guest.not_mounted_iff.mpr hbare), hbare⟩
  have haccepts : Along (StagingCall.run ns) (StagingCall.Done path) calls (c, g) ↔
      staging.Accepts calls false :=
    along_iff_accepts staging (StagingCall.done_iff hpath) (StagingCall.run_staged hpath) hon hstart
  rw [haccepts, staging_accepts_iff]
  simp

def exportHost : Cluster :=
  { Cluster.empty with
    pvcs := Cluster.empty.pvcs.put { ns := "guest", name := "vol", volumeName := "pvc-1" }
    networkFSs := Cluster.empty.networkFSs.put
      { ns := harvesterNS, name := "pvc-1", status := .ready, endpoint := "10.0.0.9" } }

def stagingGuest (refuses : Bool) : Guest :=
  { Guest.empty with dirs := ["/staging"], tools := { refusesRemount := refuses } }

def stageVol : StagingCall :=
  .stage ⟨"vol", "/staging", some { accessMode := some .multiNodeMultiWriter }⟩

def unstageVol : StagingCall := .unstage ⟨"vol", "/staging"⟩

theorem exportHost_ready : NodeServer.ExportReady ⟨"guest", "node"⟩ "vol" exportHost :=
  ⟨{ ns := "guest", name := "vol", volumeName := "pvc-1" },
    { ns := harvesterNS, name := "pvc-1", status := .ready, endpoint := "10.0.0.9" },
    by decide +kernel, by decide +kernel, rfl⟩

theorem paired_on : ∀ call ∈ [stageVol, unstageVol, unstageVol, stageVol],
    call.On ⟨"guest", "node"⟩ exportHost "/staging" := by
  simp [stageVol, unstageVol, StagingCall.On, exportHost_ready, VolumeCapability.mode]

theorem staging_idempotent_paired :
    Along (StagingCall.run ⟨"guest", "node"⟩) (StagingCall.Done "/staging")
      [stageVol, unstageVol, unstageVol, stageVol] (exportHost, stagingGuest true) :=
  (staging_idempotent_iff ⟨"guest", "node"⟩ exportHost (stagingGuest true) "/staging"
    [stageVol, unstageVol, unstageVol, stageVol] (by decide) paired_on (by decide) (by decide)).mpr
    (by decide)

/-- The second of two calls fails, or it leaves a second mount, and then one unstage
leaves the export mounted. -/
theorem repeated_stage_breaks :
    ¬ Along (StagingCall.run ⟨"guest", "node"⟩) (StagingCall.Done "/staging")
      [stageVol, stageVol] (exportHost, stagingGuest true) ∧
    ¬ Along (StagingCall.run ⟨"guest", "node"⟩) (StagingCall.Done "/staging")
      [stageVol, stageVol] (exportHost, stagingGuest false) ∧
    (unstageVol.run ⟨"guest", "node"⟩ (stageVol.run ⟨"guest", "node"⟩
      (stageVol.run ⟨"guest", "node"⟩ (exportHost, stagingGuest false)).2).2).2.2.layers
      "/staging" = 1 :=
  ⟨fun h => absurd h.2.1.1 (by decide +kernel), fun h => absurd h.2.1.2 (by decide +kernel),
    by decide +kernel⟩

end HarvesterCSI
