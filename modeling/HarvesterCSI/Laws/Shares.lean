import HarvesterCSI.Laws.MountTable
import HarvesterCSI.Laws.Unpublishing

/-!
# Shared volumes on many nodes

The export of a shared volume is a switch: the controller turns it on and off, the host
follows and reports, and the nodes mount what is ready. The machine here puts the
switches and the mount tables of all nodes together. It says what each call answers,
whatever happened before on the controller, on the host and on the other nodes.
-/

namespace HarvesterCSI

open Calls Calls.Prog

-- ---------------------------------------------------------------------------
-- The machine
-- ---------------------------------------------------------------------------

/-- What is asked of an export, what the host reports, and whether it can be mounted. -/
structure Export where
  desired : NetworkFSState
  state : NetworkFSState
  ready : Bool
  deriving DecidableEq, Repr

/-- The exports by volume, the volumes of running pods, and the mounts of each node. -/
structure Shares (ι : Type) where
  exports : String → Option Export
  used : String → Bool
  tables : ι → MountTable

/-- Besides the calls: the host reports on an export, somebody deletes one, and pods start
and end. -/
inductive ShareStep (ι : Type)
  | publish (settleTicks attachTicks : Nat) (req : PublishRequest)
  | unpublish (req : UnpublishRequest)
  | node (i : ι) (rpc : MountStep)
  | report (volume : String) (state : NetworkFSState) (status : EndpointStatus)
      (endpoint mountOpts : String)
  | lose (volume : String)
  | pods (running : List Pod)

/-- The controller, a server on each node, and the shared volumes: the guest claim each is
bound to, and whether its host claim is being deleted. -/
structure ShareSite (ι : Type) where
  cs : ControllerServer
  server : ι → NodeServer
  same : ∀ i, (server i).ns = cs.ns
  site : ι → NodeSite
  shared : String → Bool
  claim : String → Key
  leaving : String → Bool

def Shares.switch (a : Shares ι) (v : String) (e : Option Export) : Shares ι :=
  { a with exports := Function.update a.exports v e }

theorem Shares.switch_self {a : Shares ι} (h : a.exports v = e) : a.switch v e = a := by
  subst h
  simp [Shares.switch]

section
variable [DecidableEq ι] (w : ShareSite ι)

def ShareSite.holds (pods : List Pod) (v : String) : Bool :=
  pods.any fun pod => (w.claim v).1 ++ "-" ++ (w.claim v).2 ∈ indexPodByPVCFunc pod

def ShareSite.at (exports : String → Option Export) (i : ι) : NodeSite :=
  { w.site i with exported := fun v => (exports v).any (·.ready) }

/-- An export that is gone is made again, and the call fails. -/
def ShareSite.turnOn (v : String) (a : Shares ι) : Verdict × Shares ι :=
  match a.exports v with
  | none =>
    (.code .internal, if w.leaving v then a else a.switch v (some ⟨.disabled, .empty, false⟩))
  | some e =>
    (.ok, if e.desired = .enabled ∨ e.state = .enabling then a
      else a.switch v (some { e with desired := .enabled }))

/-- The export is left on while pods use the volume. -/
def Shares.turnOff (v : String) (a : Shares ι) : Verdict × Shares ι :=
  match a.exports v with
  | none => (.code .internal, a)
  | some e =>
    (.ok, if (e.desired = .disabled ∨ e.state = .disabling) ∨ a.used v then a
      else a.switch v (some { e with desired := .disabled }))

def ShareSite.spec : ShareStep ι → Shares ι → Verdict × Shares ι
  | .publish _ _ req, a =>
    if req.nodeId = "" ∨ req.volumeCapability = none then (.code .invalidArgument, a)
    else w.turnOn req.volumeId a
  | .unpublish req, a =>
    if req.volumeId = "" then (.code .invalidArgument, a) else a.turnOff req.volumeId
  | .node i rpc, a =>
    (((w.at a.exports i).spec rpc (a.tables i)).1,
      { a with tables := Function.update a.tables i ((w.at a.exports i).spec rpc (a.tables i)).2 })
  | .report v state status _ _, a =>
    (.ok, a.switch v ((a.exports v).map fun e => ⟨e.desired, state, status = .ready⟩))
  | .lose v, a => (.ok, a.switch v none)
  | .pods running, a => (.ok, { a with used := w.holds running })

end

-- ---------------------------------------------------------------------------
-- The driver, the host and the nodes
-- ---------------------------------------------------------------------------

namespace Cluster

def networkFS (c : Cluster) (ns v : String) : Option NetworkFilesystem :=
  (c.pvcs.get (ns, v)).bind fun pvc => c.networkFSs.get (harvesterNS, pvc.volumeName)

def reportExport (c : Cluster) (ns v : String) (state : NetworkFSState) (status : EndpointStatus)
    (endpoint mountOpts : String) : Cluster :=
  match c.networkFS ns v with
  | none => c
  | some fs => c.setNetworkFS { fs with
      state := state, status := status, endpoint := endpoint, mountOpts := mountOpts }

def loseExport (c : Cluster) (ns v : String) : Cluster :=
  match c.networkFS ns v with
  | none => c
  | some fs => { c with rev := c.rev + 1, networkFSs := c.networkFSs.erase (fs.ns, fs.name) }

end Cluster

def NetworkFilesystem.view (fs : NetworkFilesystem) : Export :=
  ⟨fs.desiredState, fs.state, fs.status = .ready⟩

def Cluster.exports (c : Cluster) (ns v : String) : Option Export := (c.networkFS ns v).map (·.view)

def ShareStep.step [DecidableEq ι] (w : ShareSite ι) :
    ShareStep ι → Cluster × (ι → Guest) → Outcome Err Unit × (Cluster × (ι → Guest))
  | .publish settleTicks attachTicks req, (c, gs) =>
    let r := run Cluster.serve (w.cs.controllerPublishVolume settleTicks attachTicks req) c
    (r.1, r.2, gs)
  | .unpublish req, (c, gs) =>
    let r := run Cluster.serve (w.cs.controllerUnpublishVolume req) c
    (r.1, r.2, gs)
  | .node i rpc, (c, gs) =>
    let r := rpc.step (w.server i) (c, gs i)
    (r.1, r.2.1, Function.update gs i r.2.2)
  | .report v state status endpoint mountOpts, (c, gs) =>
    (.ok (), c.reportExport w.cs.ns v state status endpoint mountOpts, gs)
  | .lose v, (c, gs) => (.ok (), c.loseExport w.cs.ns v, gs)
  | .pods running, (c, gs) => (.ok (), { c with guestPods := running }, gs)

section
variable (w : ShareSite ι)

def ShareSite.Fits : ShareStep ι → Prop
  | .publish _ _ req => w.shared req.volumeId = true ∧
      ∀ cap, req.volumeCapability = some cap → cap.mode = .multiNodeMultiWriter
  | .unpublish req => req.volumeId = "" ∨ w.shared req.volumeId = true
  | .node i rpc => (w.site i).layout.Fits rpc
  | .report v .. | .lose v => w.shared v = true
  | .pods _ => True

/-- A bound claim on Longhorn for many writers. No other claim has its volume. -/
structure ShareSite.Stored (v : String) (c : Cluster) (pvc : PVC) : Prop where
  stored : c.pvcs.get (w.cs.ns, v) = some pvc
  bound : pvc.phase = .bound
  volume : pvc.volumeName ≠ ""
  filesystem : pvc.volumeMode = some .filesystem
  modes : .readWriteMany ∈ pvc.accessModes
  longhorn : ∃ name sc, pvc.storageClassName = some name ∧ c.storageClasses.get name = some sc ∧
    sc.provisioner = longhornProvisioner
  leaving : w.leaving v = false ↔ pvc.deletionTimestamp = none
  guest : ∃ pv, c.guestPVs.get v = some pv ∧ pv.claimRef = some (w.claim v)
  apart : ∀ v' pvc', c.pvcs.get (w.cs.ns, v') = some pvc' → pvc'.volumeName = pvc.volumeName →
    v' = v

structure ShareSite.Follows (s : Cluster × (ι → Guest)) (a : Shares ι) : Prop where
  claims : ∀ v, w.shared v = true → ∃ pvc, w.Stored v s.1 pvc
  named : s.1.networkFSs.get ("", "") = none
  exports : s.1.exports w.cs.ns = a.exports
  used : w.holds s.1.guestPods = a.used
  nodes : ∀ i, (w.at a.exports i).Follows (w.server i) (s.1, s.2 i) (a.tables i)

end

-- ---------------------------------------------------------------------------
-- Turning a switch
-- ---------------------------------------------------------------------------

section
variable {w : ShareSite ι} {c c' : Cluster} {gs : ι → Guest} {a b : Shares ι} {pvc : PVC}

theorem ShareSite.exported_iff (hexports : c.exports w.cs.ns = exports) (i : ι) (v : String) :
    (w.at exports i).exported v = true ↔ (w.server i).ExportReady v c := by
  subst hexports
  simp only [ShareSite.at, Cluster.exports, Cluster.networkFS, NodeServer.ExportReady, w.same i]
  cases hpvc : c.pvcs.get (w.cs.ns, v) with
  | none => simp
  | some pvc =>
    cases hfs : c.networkFSs.get (harvesterNS, pvc.volumeName) with
    | none => simp [hfs]
    | some fs => simp [hfs, NetworkFilesystem.view]

theorem ShareSite.Follows.on_node (h : w.Follows (c, gs) a) (hvmis : c'.vmis = c.vmis)
    (hexports : c'.exports w.cs.ns = b.exports) (i : ι) :
    (w.at b.exports i).Follows (w.server i) (c', gs i) (a.tables i) where
  table := (h.nodes i).table
  kept := (h.nodes i).kept
  refuses := (h.nodes i).refuses
  exported := exported_iff hexports i
  disks v := ((h.nodes i).disks v).congr rfl hvmis rfl

theorem ShareSite.Stored.keep (h : w.Stored v c pvc) (hpvcs : c'.pvcs = c.pvcs)
    (hclasses : c'.storageClasses = c.storageClasses) (hguest : c'.guestPVs = c.guestPVs) :
    w.Stored v c' pvc where
  stored := hpvcs ▸ h.stored
  bound := h.bound
  volume := h.volume
  filesystem := h.filesystem
  modes := h.modes
  longhorn := hclasses ▸ h.longhorn
  leaving := h.leaving
  guest := hguest ▸ h.guest
  apart := hpvcs ▸ h.apart

theorem ShareSite.Stored.exports_switch (h : w.Stored v c pvc) (hpvcs : c'.pvcs = c.pvcs)
    (hget : ∀ key, c'.networkFSs.get key =
      if key = (harvesterNS, pvc.volumeName) then o else c.networkFSs.get key) :
    c'.exports w.cs.ns = Function.update (c.exports w.cs.ns) v (o.map (·.view)) := by
  funext v'
  by_cases hv : v' = v
  · subst hv
    simp [Cluster.exports, Cluster.networkFS, hpvcs, h.stored, hget]
  · rw [Function.update_of_ne hv]
    simp only [Cluster.exports, Cluster.networkFS, hpvcs]
    cases hpvc : c.pvcs.get (w.cs.ns, v') with
    | none => rfl
    | some pvc' =>
      have hname : pvc'.volumeName ≠ pvc.volumeName := fun hsame => hv (h.apart v' pvc' hpvc hsame)
      simp [hget, hname]

theorem ShareSite.Follows.switch (h : w.Follows (c, gs) a) (hstored : w.Stored v c pvc) {rev : Nat}
    {fss} (hget : ∀ key, ({ c with rev := rev, networkFSs := fss } : Cluster).networkFSs.get key =
      if key = (harvesterNS, pvc.volumeName) then o else c.networkFSs.get key) :
    w.Follows ({ c with rev := rev, networkFSs := fss }, gs) (a.switch v (o.map (·.view))) := by
  have hexports : ({ c with rev := rev, networkFSs := fss } : Cluster).exports w.cs.ns =
      (a.switch v (o.map (·.view))).exports := by
    refine (hstored.exports_switch ?_ hget).trans ?_
    · rfl
    · rw [h.exports]
      rfl
  refine ⟨fun v' hv' => ?_, ?_, hexports, h.used, h.on_node rfl hexports⟩
  · obtain ⟨pvc', hstored'⟩ := h.claims v' hv'
    exact ⟨pvc', hstored'.keep rfl rfl rfl⟩
  · rw [hget, if_neg (by simp [harvesterNS])]
    exact h.named

theorem ShareSite.Follows.write (h : w.Follows (c, gs) a) (hstored : w.Stored v c pvc)
    (fs : NetworkFilesystem) (hkey : (fs.ns, fs.name) = (harvesterNS, pvc.volumeName)) :
    w.Follows (c.setNetworkFS fs, gs) (a.switch v (some fs.view)) := by
  refine h.switch hstored (o := some { fs with resourceVersion := c.rev + 1 }) fun key => ?_
  rw [Store.get_put, ← hkey]

-- ---------------------------------------------------------------------------
-- The calls
-- ---------------------------------------------------------------------------

theorem ShareSite.Stored.networkFS_eq (h : w.Stored v c pvc) :
    c.networkFS w.cs.ns v = c.networkFSs.get (harvesterNS, pvc.volumeName) := by
  simp [Cluster.networkFS, h.stored]

theorem ShareSite.Follows.exports_eq (h : w.Follows (c, gs) a) (hstored : w.Stored v c pvc) :
    a.exports v = (c.networkFSs.get (harvesterNS, pvc.volumeName)).map (·.view) := by
  rw [← hstored.networkFS_eq]
  exact (congrFun h.exports v).symm

theorem ShareSite.Stored.run_isLHRWXVolume (h : w.Stored v c pvc) :
    run Cluster.serve (w.cs.isLHRWXVolume pvc) c = (.ok true, c) := by
  obtain ⟨name, sc, hname, hsc, hprovisioner⟩ := h.longhorn
  obtain ⟨k, hlookup, hk⟩ := ControllerServer.isLHRWXVolume_shared w.cs h.filesystem h.modes hname
  simp [hlookup, Cluster.serve, hsc, hk sc hprovisioner]

def ShareSite.Matches (w : ShareSite ι) (gs : ι → Guest) (r : Outcome Err Unit × Cluster)
    (m : Verdict × Shares ι) : Prop :=
  verdict r.1 = m.1 ∧ w.Follows (r.2, gs) m.2

theorem ShareSite.Follows.publishRWX (h : w.Follows (c, gs) a) (hstored : w.Stored v c pvc) :
    w.Matches gs (run Cluster.serve (w.cs.publishRWXVolume pvc) c) (w.turnOn v a) := by
  have hexport := h.exports_eq hstored
  unfold ShareSite.turnOn ControllerServer.publishRWXVolume
  simp only [request_bind, run_call, Cluster.serve]
  cases hfs : c.networkFSs.get (harvesterNS, pvc.volumeName) with
  | none =>
    simp only [hexport, hfs, Option.map_none, found_none, missing_of_ne hstored.volume, notFound,
      ne_eq, not_true_eq_false, if_false]
    cases hleaving : w.leaving v with
    | false =>
      have hmade := h.write hstored
        { ns := harvesterNS, name := pvc.volumeName, networkFSName := pvc.volumeName,
          desiredState := .disabled, provisioner := lhName } rfl
      simp only [hstored.leaving.mp hleaving, if_true, Bool.false_eq_true, if_false,
        ControllerServer.createNetworkFilesystem, request_bind, call_orElse, call_bind, run_call,
        Cluster.serve, hfs]
      exact ⟨rfl, hmade⟩
    | true =>
      -- what is updated has no name
      have hkept : pvc.deletionTimestamp ≠ none := mt hstored.leaving.mpr (by simp [hleaving])
      simp only [hkept, if_true, if_false, ControllerServer.publishRWXVolume.enable, request_bind,
        run_call, Cluster.serve, h.named, reduceCtorEq, or_self]
      exact ⟨rfl, h⟩
  | some fs =>
    have hkey := Store.get_key hfs
    simp only [hexport, hfs, Option.map_some, found_some, ControllerServer.publishRWXVolume.enable]
    by_cases hon : fs.view.desired = .enabled ∨ fs.view.state = .enabling
    · rw [if_pos hon, if_pos (by exact hon)]
      exact ⟨rfl, h⟩
    · have hturned := h.write hstored { fs with desiredState := .enabled } hkey
      rw [if_neg hon, if_neg (by exact hon)]
      simp only [request_bind, run_call, Cluster.serve, hkey, hfs, if_true]
      exact ⟨rfl, hturned⟩

theorem ShareSite.Follows.used_iff (h : w.Follows (c, gs) a) (v : String) :
    a.used v = true ↔ c.Indexed ((w.claim v).1 ++ "-" ++ (w.claim v).2) := by
  rw [← h.used]
  simp [ShareSite.holds, Cluster.Indexed, mem_indexPodByPVCFunc]

theorem ShareSite.Follows.unpublishRWX (h : w.Follows (c, gs) a) (hstored : w.Stored v c pvc) :
    w.Matches gs (run Cluster.serve (w.cs.unpublishRWXVolume pvc) c) (a.turnOff v) := by
  have hexport := h.exports_eq hstored
  have hname : pvc.name = v := congrArg Prod.snd (Store.get_key hstored.stored)
  obtain ⟨pv, hpv, hclaim⟩ := hstored.guest
  rw [← hname] at hpv
  unfold Shares.turnOff
  cases hfs : c.networkFSs.get (harvesterNS, pvc.volumeName) with
  | none =>
    obtain ⟨msg, hrun⟩ := run_unpublishRWX_absent w.cs hfs
    rw [hrun]
    simp only [hexport, hfs, Option.map_none]
    exact ⟨rfl, h⟩
  | some fs =>
    simp only [hexport, hfs, Option.map_some]
    by_cases hoff : fs.view.desired = .disabled ∨ fs.view.state = .disabling
    · rw [run_unpublishRWX_idle w.cs hfs hoff, if_pos (.inl hoff)]
      exact ⟨rfl, h⟩
    · by_cases hused : a.used v = true
      · rw [run_unpublishRWX_used w.cs hfs hpv hclaim ((h.used_iff v).mp hused),
          if_pos (.inr hused)]
        exact ⟨rfl, h⟩
      · rw [run_unpublishRWX_disables w.cs hfs hoff hpv hclaim (mt (h.used_iff v).mpr hused),
          if_neg (not_or.mpr ⟨hoff, hused⟩)]
        have hkey := Store.get_key hfs
        exact ⟨rfl, h.write hstored { fs with desiredState := .disabled } hkey⟩

theorem ShareSite.Follows.lose (h : w.Follows (c, gs) a) (hv : w.shared v = true) :
    w.Follows (c.loseExport w.cs.ns v, gs) (a.switch v none) := by
  obtain ⟨pvc, hstored⟩ := h.claims v hv
  simp only [Cluster.loseExport, hstored.networkFS_eq]
  cases hfs : c.networkFSs.get (harvesterNS, pvc.volumeName) with
  | none =>
    have hnone : a.exports v = none := by simp [h.exports_eq hstored, hfs]
    rw [Shares.switch_self hnone]
    exact h
  | some fs =>
    refine h.switch hstored (o := none) fun key => ?_
    rw [Store.get_erase, ← Store.get_key hfs]

variable [DecidableEq ι]

theorem ShareSite.Follows.publish (h : w.Follows (c, gs) a) {req : PublishRequest}
    (hi : w.Fits (.publish settleTicks attachTicks req)) :
    w.Matches gs (run Cluster.serve (w.cs.controllerPublishVolume settleTicks attachTicks req) c)
      (w.spec (.publish settleTicks attachTicks req) a) := by
  simp only [ShareSite.spec, ControllerServer.controllerPublishVolume]
  by_cases hnode : req.nodeId = ""
  · rw [if_pos hnode, if_pos (.inl hnode)]
    exact ⟨rfl, h⟩
  · rw [if_neg hnode]
    cases hcap : req.volumeCapability with
    | none =>
      simp only [or_true, if_true]
      exact ⟨rfl, h⟩
    | some cap =>
      obtain ⟨pvc, hstored⟩ := h.claims _ hi.1
      simp only [hnode, reduceCtorEq, or_self, if_false, request_bind, run_call, Cluster.serve,
        hstored.stored, found_some, hstored.bound, ne_eq, not_true_eq_false, hi.2 cap hcap,
        if_true, run_bind, hstored.run_isLHRWXVolume]
      exact h.publishRWX hstored

theorem ShareSite.Follows.unpublish (h : w.Follows (c, gs) a) {req : UnpublishRequest}
    (hi : w.Fits (.unpublish req)) :
    w.Matches gs (run Cluster.serve (w.cs.controllerUnpublishVolume req) c)
      (w.spec (.unpublish req) a) := by
  simp only [ShareSite.spec, ControllerServer.controllerUnpublishVolume]
  by_cases hid : req.volumeId = ""
  · rw [if_pos hid, if_pos hid]
    exact ⟨rfl, h⟩
  · obtain ⟨pvc, hstored⟩ := h.claims _ (hi.resolve_left hid)
    simp only [hid, if_false, request_bind, run_call, Cluster.serve, hstored.stored, found_some,
      hstored.bound, ne_eq, not_true_eq_false, run_bind, hstored.run_isLHRWXVolume, if_true]
    exact h.unpublishRWX hstored

-- ---------------------------------------------------------------------------
-- What others do
-- ---------------------------------------------------------------------------

theorem ShareSite.Follows.report (h : w.Follows (c, gs) a) (hv : w.shared v = true)
    (state : NetworkFSState) (status : EndpointStatus) (endpoint mountOpts : String) :
    w.Follows (c.reportExport w.cs.ns v state status endpoint mountOpts, gs)
      (w.spec (.report v state status endpoint mountOpts) a).2 := by
  obtain ⟨pvc, hstored⟩ := h.claims v hv
  simp only [ShareSite.spec, Cluster.reportExport, h.exports_eq hstored, hstored.networkFS_eq]
  cases hfs : c.networkFSs.get (harvesterNS, pvc.volumeName) with
  | none =>
    have hnone : a.exports v = none := by simp [h.exports_eq hstored, hfs]
    rw [Option.map_none, Option.map_none, Shares.switch_self hnone]
    exact h
  | some fs =>
    have hkey := Store.get_key hfs
    exact h.write hstored _ hkey

theorem ShareSite.Follows.pods (h : w.Follows (c, gs) a) (running : List Pod) :
    w.Follows ({ c with guestPods := running }, gs) (w.spec (.pods running) a).2 := by
  have hexports : ({ c with guestPods := running } : Cluster).exports w.cs.ns = a.exports :=
    h.exports
  refine ⟨fun v hv => ?_, h.named, h.exports, rfl, h.on_node (b := a) rfl hexports⟩
  obtain ⟨pvc, hstored⟩ := h.claims v hv
  exact ⟨pvc, hstored.keep rfl rfl rfl⟩

theorem ShareSite.Follows.node (h : w.Follows (c, gs) a) {i : ι} {rpc : MountStep}
    (hi : w.Fits (.node i rpc)) :
    verdict ((ShareStep.node i rpc).step w (c, gs)).1 = (w.spec (.node i rpc) a).1 ∧
      w.Follows ((ShareStep.node i rpc).step w (c, gs)).2 (w.spec (.node i rpc) a).2 := by
  have hfits : (w.at a.exports i).layout.Fits rpc := hi
  have hnode := h.nodes i
  have htable : (gs i).table = a.tables i := hnode.table
  rw [← htable] at hnode
  obtain ⟨o, g', hrun, hverdict, hedited, hlinks, htools⟩ := MountStep.edits hnode hfits
  simp only [ShareStep.step, ShareSite.spec, hrun, ← htable]
  refine ⟨hverdict, ⟨h.claims, h.named, h.exports, h.used, fun j => ?_⟩⟩
  by_cases hj : j = i
  · subst hj
    simp only [Function.update_self]
    exact hnode.edit hedited (NodeSite.spec_kept hnode.kept hfits) hlinks htools
  · simp only [Function.update_of_ne hj]
    exact h.nodes j

-- ---------------------------------------------------------------------------
-- Whole histories
-- ---------------------------------------------------------------------------

theorem ShareSite.refines (w : ShareSite ι) :
    Refines (ShareStep.step w) w.spec w.Fits verdict w.Follows := by
  have hstep (i : ShareStep ι) (s a) (hi : w.Fits i) (h : w.Follows s a) :
      verdict (i.step w s).1 = (w.spec i a).1 ∧ w.Follows (i.step w s).2 (w.spec i a).2 := by
    obtain ⟨c, gs⟩ := s
    cases i with
    | publish settleTicks attachTicks req => exact h.publish hi
    | unpublish req => exact h.unpublish hi
    | node i rpc => exact h.node hi
    | report v state status endpoint mountOpts =>
      exact ⟨rfl, h.report hi state status endpoint mountOpts⟩
    | lose v => exact ⟨rfl, h.lose hi⟩
    | pods running => exact ⟨rfl, h.pods running⟩
  exact ⟨fun i s a hi h => (hstep i s a hi h).1, fun i s a hi h => (hstep i s a hi h).2⟩

def stepsAt (i : ι) : List (ShareStep ι) → List MountStep
  | [] => []
  | .node j rpc :: rest => if j = i then rpc :: stepsAt i rest else stepsAt i rest
  | _ :: rest => stepsAt i rest

/-- While pods use the volume there are calls on the nodes, more nodes for which it is
published or unpublished, and other pods. -/
def ShareSite.Busy (w : ShareSite ι) (v : String) : ShareStep ι → Prop
  | .publish _ _ req => req.volumeId = v ∧ req.nodeId ≠ "" ∧
      ∃ cap, req.volumeCapability = some cap ∧ cap.mode = .multiNodeMultiWriter
  | .unpublish req => req.volumeId = v
  | .node i rpc => (w.site i).layout.Fits rpc
  | .pods running => w.holds running v = true
  | .report .. | .lose _ => False

/-- On a node the volume is staged, pods come and go, and it is unstaged; or pods come and
go with other volumes. -/
inductive NodeSite.Hosts (site : NodeSite) (v : String) (a : MountTable) : List MountStep → Prop
  | other (raw : String → Bool) {visits : List MountStep}
      (hvisits : ∀ i ∈ visits, Visits site.layout site.disk raw a i) (hends : Ends visits) :
      Hosts site v a visits
  | stay (raw : String → Bool) {visits : List MountStep} {stage : NodeStageRequest}
      {unstage : NodeUnstageRequest} (hstay : site.layout.Stay a v stage unstage)
      (hvisits : ∀ i ∈ visits, Visits site.layout site.disk raw a i) (hends : Ends visits) :
      Hosts site v a (.stage stage :: (visits ++ [.unstage unstage]))

omit [DecidableEq ι] in
theorem ShareSite.Busy.fits (h : w.Busy v i) (hv : w.shared v = true) : w.Fits i := by
  cases i with
  | publish settleTicks attachTicks req =>
    obtain ⟨rfl, -, cap, hcap, hmode⟩ := h
    refine ⟨hv, fun cap' hcap' => ?_⟩
    cases hcap.symm.trans hcap'
    exact hmode
  | unpublish req => exact .inr ((show req.volumeId = v from h) ▸ hv)
  | node => exact h
  | report | lose => exact h.elim
  | pods => trivial

/-- The exports stay, each node goes through its own steps, and all else is answered with
OK. -/
structure ShareSite.ByNode (w : ShareSite ι) (steps : List (ShareStep ι)) (a : Shares ι) :
    Prop where
  exports : (trace w.spec steps a).2.exports = a.exports
  tables : ∀ i, (trace w.spec steps a).2.tables i =
    (trace (w.at a.exports i).spec (stepsAt i steps) (a.tables i)).2
  answers : ∀ o ∈ (trace w.spec steps a).1,
    o = .ok ∨ ∃ i, o ∈ (trace (w.at a.exports i).spec (stepsAt i steps) (a.tables i)).1

theorem ShareSite.ByNode.quiet (hspec : w.spec i a = (.ok, { a with used := used }))
    (hnode : ∀ j, stepsAt j (i :: rest) = stepsAt j rest)
    (h : w.ByNode rest { a with used := used }) :
    w.ByNode (i :: rest) a where
  exports := by
    simp only [trace, hspec]
    exact h.exports
  tables j := by
    simp only [trace, hspec, hnode]
    exact h.tables j
  answers o ho := by
    simp only [trace, hspec, hnode] at ho ⊢
    rcases List.mem_cons.mp ho with rfl | ho
    · exact .inl rfl
    · exact h.answers o ho

theorem ShareSite.ByNode.node (h : w.ByNode rest (w.spec (.node i rpc) a).2) :
    w.ByNode (.node i rpc :: rest) a where
  exports := h.exports
  tables j := by
    refine (h.tables j).trans ?_
    by_cases hj : i = j
    · subst hj
      simp [stepsAt, trace, ShareSite.spec]
    · simp [stepsAt, ShareSite.spec, hj, Ne.symm hj]
  answers o ho := by
    rcases List.mem_cons.mp ho with rfl | ho
    · exact .inr ⟨i, by simp [stepsAt, trace, ShareSite.spec]⟩
    · rcases h.answers o ho with hok | ⟨j, hj⟩
      · exact .inl hok
      · refine .inr ⟨j, ?_⟩
        by_cases hij : i = j
        · subst hij
          simp only [ShareSite.spec, Function.update_self] at hj
          simp [stepsAt, trace, hj]
        · simpa [stepsAt, ShareSite.spec, hij, Ne.symm hij] using hj

omit [DecidableEq ι] in
theorem NodeSite.Hosts.trace {exports : String → Option Export} {m : MountTable}
    (h : (w.site i).Hosts v m steps) (hkept : (w.site i).layout.Kept m)
    (hready : (w.at exports i).exported v = true) :
    (∀ o ∈ (Calls.trace (w.at exports i).spec steps m).1, o = .ok) ∧
      (Calls.trace (w.at exports i).spec steps m).2 = m := by
  cases h with
  | other raw hvisits hends => exact MountTable.Open.trace hkept.sound (.start ..) hvisits hends
  | stay raw hstay hvisits hends =>
    exact (w.at exports i).trace_stay hkept hstay hready hvisits hends

end

end HarvesterCSI
