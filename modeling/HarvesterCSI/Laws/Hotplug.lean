import HarvesterCSI.Calls.Series
import HarvesterCSI.Laws.Attachments
import HarvesterCSI.Laws.Plugged

/-!
# Hot-plugging as a small machine

For each node and volume there are two bits: whether the volume is wanted there, which
is the spec, and whether it is live, which is the status. A publish wants the volume
and answers OK once it is live; an unpublish stops wanting it and answers OK once it is
neither; the host makes live what is wanted. A node that is down for good loses all that
is wanted there, and a volume is not published as long as an older attachment elsewhere
is left. The driver with declarative hot-plugging refines this machine.
-/

namespace HarvesterCSI

open Calls Calls.Prog

inductive Verdict
  | ok
  | code (c : Code)
  | other
  deriving DecidableEq, Repr

def verdict : Outcome Err α → Verdict
  | .ok _ => .ok
  | .error (.status c _) => .code c
  | _ => .other

-- ---------------------------------------------------------------------------
-- The machine
-- ---------------------------------------------------------------------------

/-- Guest nodes and block volumes, the host each node runs on and the name that the host
gives each volume. -/
structure Fleet where
  nodes : List String
  volumes : List String
  host : String → String
  pv : String → String
  nodes_named : "" ∉ nodes
  volumes_named : "" ∉ volumes

inductive HotplugStep
  | publish (settleTicks attachTicks : Nat) (req : PublishRequest)
  | unpublish (req : UnpublishRequest)
  | reconcile (order : MapOrder) (node : Node)
  /-- The host brings the status of a volume after the spec. -/
  | sync (node v : String)
  /-- A machine fails or recovers. -/
  | health (node : String) (down : Bool)
  /-- Attachments come and go. -/
  | attachments (hostVAs guestVAs : List VolumeAttachment)

structure Plugs where
  wanted : String → String → Bool
  live : String → String → Bool
  settled : String → String → Bool
  down : String → Bool

namespace Plugs

def setWanted (a : Plugs) (n : String) (row : String → Bool) : Plugs :=
  { a with wanted := Function.update a.wanted n row }

theorem wanted_setWanted (a : Plugs) (n : String) (row : String → Bool) :
    (a.setWanted n row).wanted n = row := Function.update_self ..

theorem wanted_setWanted_of_ne (a : Plugs) (row : String → Bool) (h : m ≠ n) :
    (a.setWanted n row).wanted m = a.wanted m := Function.update_of_ne h ..

def want (a : Plugs) (n v : String) (b : Bool) : Plugs :=
  a.setWanted n (Function.update (a.wanted n) v b)

def setLive (a : Plugs) (n v : String) (b : Bool) : Plugs :=
  { a with live := Function.update a.live n (Function.update (a.live n) v b) }

end Plugs

/-- No attachment of the volume to another node is left. -/
def Fleet.settled (f : Fleet) (hostVAs guestVAs : List VolumeAttachment) (n v : String) : Bool :=
  decide (∀ va ∈ hostVAs, ¬ va.Foreign (f.pv v) (f.host n)) &&
    decide (∀ va ∈ guestVAs, va.attached = true → ¬ va.Foreign v n)

def Fleet.spec (f : Fleet) : HotplugStep → Plugs → Verdict × Plugs
  | .publish _ _ req, a =>
    if a.settled req.nodeId req.volumeId then
      (if a.live req.nodeId req.volumeId then .ok else .code .aborted,
        a.want req.nodeId req.volumeId true)
    else (.code .deadlineExceeded, a)
  | .unpublish req, a =>
    if a.wanted req.nodeId req.volumeId || a.live req.nodeId req.volumeId then
      (.code .aborted, a.want req.nodeId req.volumeId false)
    else (.ok, a)
  | .reconcile _ node, a =>
    (.ok, if a.down node.name then a.setWanted node.name fun _ => false else a)
  | .sync n v, a => (.ok, a.setLive n v (a.wanted n v))
  | .health n down, a => (.ok, { a with down := Function.update a.down n down })
  | .attachments hostVAs guestVAs, a => (.ok, { a with settled := f.settled hostVAs guestVAs })

-- ---------------------------------------------------------------------------
-- The driver and the host
-- ---------------------------------------------------------------------------

def VirtualMachineInstance.sync (vmi : VirtualMachineInstance) (v : String) (wanted : Bool) :
    VirtualMachineInstance :=
  { vmi with
    volumeStatus := vmi.volumeStatus.filter (·.name ≠ v) ++
      if wanted then [⟨v, true, .ready, ""⟩] else [] }

def Cluster.sync (ns n v : String) (s : Cluster) : Cluster :=
  match s.vmis.get (ns, n) with
  | some vmi => s.setVMI (vmi.sync v (s.inVM ns n v))
  | none => s

def VirtualMachine.health (vm : VirtualMachine) (down : Bool) : VirtualMachine :=
  { vm with
    conditions := [⟨"Ready", if down then .false else .true⟩]
    printableStatus := if down then "Stopped" else "Running" }

def Cluster.health (ns n : String) (down : Bool) (s : Cluster) : Cluster :=
  match s.vms.get (ns, n) with
  | some vm => s.setVM (vm.health down)
  | none => s

def HotplugStep.step (cs : ControllerServer) : HotplugStep → Cluster → Outcome Err Unit × Cluster
  | .publish settleTicks attachTicks req, s =>
    run Cluster.serve (cs.controllerPublishVolume settleTicks attachTicks req) s
  | .unpublish req, s => run Cluster.serve (cs.controllerUnpublishVolume req) s
  | .reconcile order node, s =>
    run Cluster.serve (unanswered (cs.nodeController.onNodesChangeInOrder order (some node))) s
  | .sync n v, s => (.ok (), s.sync cs.ns n v)
  | .health n down, s => (.ok (), s.health cs.ns n down)
  | .attachments hostVAs guestVAs, s =>
    (.ok (), { s with hostVAs := hostVAs, guestVAs := guestVAs })

structure Node.Lost (node : Node) : Prop where
  alive : node.deletionTimestamp = none
  condition : ∃ cond, getCondition node.conditions "Ready" = some cond ∧ cond.status ≠ .true
  marked : node.outOfService = true

structure Readable (hostVAs guestVAs : List VolumeAttachment) : Prop where
  host : ∀ va ∈ hostVAs, va.persistentVolumeName ≠ none
  guest : ∀ va ∈ guestVAs, va.attached = true → va.persistentVolumeName ≠ none

/-- The steps that are looked at: about nodes and volumes of the fleet, by single writers
that wait for at least one look, and reconciles of nodes that are lost. -/
def Fleet.Fits (f : Fleet) : HotplugStep → Prop
  | .publish _ attachTicks req =>
    req.nodeId ∈ f.nodes ∧ req.volumeId ∈ f.volumes ∧ 0 < attachTicks ∧
      ∃ cap, req.volumeCapability = some cap ∧ cap.mode ≠ .multiNodeMultiWriter
  | .unpublish req => req.nodeId ∈ f.nodes ∧ req.volumeId ∈ f.volumes
  | .reconcile _ node => node.name ∈ f.nodes ∧ node.Lost
  | .sync n v => n ∈ f.nodes ∧ v ∈ f.volumes
  | .health n _ => n ∈ f.nodes
  | .attachments hostVAs guestVAs => Readable hostVAs guestVAs

/-- A machine that can be hot-plugged, and what is wanted there. What carries the name of
a volume of the fleet is hot-pluggable. -/
structure Fleet.Machine (f : Fleet) (wanted : String → Bool) (down : Bool) (vm : VirtualMachine) :
    Prop where
  volumes : vm.volumes ≠ none
  disks : vm.disks ≠ none
  condition : getCondition vm.conditions "Ready" ≠ none
  healthy : vm.healthy = !down
  has : ∀ v ∈ f.volumes, vm.hasVolume v = wanted v
  plugged : ∀ x ∈ vm.volumeList, x.name ∈ f.volumes → x.hotpluggable = true

structure Fleet.Follows (f : Fleet) (cs : ControllerServer) (s : Cluster) (a : Plugs) : Prop where
  claim : ∀ v ∈ f.volumes, ∃ pvc, s.pvcs.get (cs.ns, v) = some pvc ∧ pvc.phase = .bound ∧
    pvc.volumeMode = some .block ∧ pvc.volumeName = f.pv v
  machine : ∀ n ∈ f.nodes, ∃ vm, s.vms.get (cs.ns, n) = some vm ∧
    f.Machine (a.wanted n) (a.down n) vm
  instances : ∀ n ∈ f.nodes, ∃ vmi, s.vmis.get (cs.ns, n) = some vmi ∧ vmi.nodeName = f.host n ∧
    ∀ v ∈ f.volumes, vmi.hasVolume v = a.live n v
  readable : Readable s.hostVAs s.guestVAs
  settled : a.settled = f.settled s.hostVAs s.guestVAs

-- ---------------------------------------------------------------------------
-- Runs of the parts
-- ---------------------------------------------------------------------------

namespace ControllerServer
variable (cs : ControllerServer) {n : String} (hn : n ≠ "") (v : String) (s : Cluster)
include hn

theorem run_checkVolumeExistsInVM :
    run Cluster.serve (cs.checkVolumeExistsInVM n v) s = (.ok (s.inVM cs.ns n v), s) := by
  cases h : s.vms.get (cs.ns, n) <;>
    simp [checkVolumeExistsInVM, Cluster.serve, Cluster.inVM, h, missing_of_ne hn, notFound]

theorem run_checkVolumeExistsInVMI :
    run Cluster.serve (cs.checkVolumeExistsInVMI n v) s = (.ok (s.inVMI cs.ns n v), s) := by
  cases h : s.vmis.get (cs.ns, n) <;>
    simp [checkVolumeExistsInVMI, Cluster.serve, Cluster.inVMI, h, missing_of_ne hn, notFound]

theorem run_isVolAttached :
    run Cluster.serve (cs.isVolAttached n v) s =
      (.ok (s.inVM cs.ns n v && s.inVMI cs.ns n v), s) := by
  simp only [isVolAttached, run_bind, run_checkVolumeExistsInVM cs hn,
    run_checkVolumeExistsInVMI cs hn, pure_eq, run_ok]

omit hn in
theorem run_pollUntilContextTimeout {cond : Api Bool} (h : run Cluster.serve cond s = (.ok done, s))
    (immediate : Bool) (ticks : Nat) :
    run Cluster.serve (pollUntilContextTimeout immediate ticks cond) s =
      (if done && (immediate || decide (0 < ticks)) then .ok ()
        else .error (.text "context deadline exceeded"), s) := by
  simp only [pollUntilContextTimeout, run_bind, run_poll h]
  cases immediate <;> cases done <;> simp
  all_goals split <;> simp_all

theorem run_waitForVolumeAttached (hticks : 0 < ticks) :
    ∃ o, run Cluster.serve (cs.waitForVolumeAttached ticks n v) s = (o, s) ∧
      verdict o = if s.inVM cs.ns n v && s.inVMI cs.ns n v then .ok else .code .aborted := by
  have hcheck : run Cluster.serve (cs.volumeAttachedCheck n v) s =
      (.ok (s.inVM cs.ns n v && s.inVMI cs.ns n v), s) := by
    rw [volumeAttachedCheck, run_orElse, run_isVolAttached cs hn]
  rw [waitForVolumeAttached, run_orElse, run_pollUntilContextTimeout s hcheck]
  cases s.inVM cs.ns n v && s.inVMI cs.ns n v with
  | true => exact ⟨.ok (), by simp [hticks], rfl⟩
  | false => exact ⟨_, rfl, rfl⟩

end ControllerServer

-- ---------------------------------------------------------------------------
-- What a write leaves of the machine
-- ---------------------------------------------------------------------------

section
variable {f : Fleet} {cs : ControllerServer} {s : Cluster} {a : Plugs} {n v : String}

theorem Fleet.Follows.inVM (h : f.Follows cs s a) (hn : n ∈ f.nodes) (hv : v ∈ f.volumes) :
    s.inVM cs.ns n v = a.wanted n v := by
  obtain ⟨vm, hvm, hmachine⟩ := h.machine n hn
  exact (Cluster.inVM_found hvm v).trans (hmachine.has v hv)

theorem Fleet.Follows.inVMI (h : f.Follows cs s a) (hn : n ∈ f.nodes) (hv : v ∈ f.volumes) :
    s.inVMI cs.ns n v = a.live n v := by
  obtain ⟨vmi, hvmi, -, hlive⟩ := h.instances n hn
  rw [Cluster.inVMI, hvmi]
  exact hlive v hv

theorem Fleet.Follows.setVM (h : f.Follows cs s a) (hfound : s.vms.get (cs.ns, n) = some vm)
    (hkey : (new.ns, new.name) = (vm.ns, vm.name)) {b : Plugs}
    (hnew : f.Machine (b.wanted n) (b.down n) new)
    (hothers : ∀ m, m ≠ n → b.wanted m = a.wanted m ∧ b.down m = a.down m)
    (hlive : b.live = a.live) (hsettled : b.settled = a.settled) :
    f.Follows cs (s.setVM new) b where
  claim := h.claim
  machine m hm := by
    have hget : (s.setVM new).vms.get (cs.ns, m) =
        if m = n then some { new with resourceVersion := s.rev + 1 } else s.vms.get (cs.ns, m) := by
      have hvm := Store.get_key hfound
      simp only [Cluster.setVM, Store.get_put, hkey, hvm, Prod.mk.injEq, true_and]
    rw [hget]
    by_cases hmn : m = n
    · subst hmn
      refine ⟨_, if_pos rfl, ?_⟩
      exact ⟨hnew.volumes, hnew.disks, hnew.condition, hnew.healthy, hnew.has, hnew.plugged⟩
    · rw [if_neg hmn, (hothers m hmn).1, (hothers m hmn).2]
      exact h.machine m hm
  instances := hlive.symm ▸ h.instances
  readable := h.readable
  settled := hsettled.trans h.settled

theorem Fleet.Follows.setVM_wanted (h : f.Follows cs s a)
    (hfound : s.vms.get (cs.ns, n) = some vm) (hkey : (new.ns, new.name) = (vm.ns, vm.name))
    (hnew : f.Machine row (a.down n) new) : f.Follows cs (s.setVM new) (a.setWanted n row) := by
  refine h.setVM hfound hkey ?_ (fun m hm => ⟨a.wanted_setWanted_of_ne row hm, rfl⟩) rfl rfl
  rwa [Plugs.wanted_setWanted]

theorem Fleet.Follows.setWanted (h : f.Follows cs s a)
    (hrow : ∀ w ∈ f.volumes, row w = a.wanted n w) :
    f.Follows cs s (a.setWanted n row) where
  claim := h.claim
  machine m hm := by
    obtain ⟨vm, hvm, hmachine⟩ := h.machine m hm
    refine ⟨vm, hvm, ?_⟩
    by_cases hmn : m = n
    · subst hmn
      rw [Plugs.wanted_setWanted]
      exact { hmachine with has := fun w hw => (hmachine.has w hw).trans (hrow w hw).symm }
    · rw [Plugs.wanted_setWanted_of_ne a row hmn]
      exact hmachine
  instances := h.instances
  readable := h.readable
  settled := h.settled

theorem Fleet.Machine.plug (h : f.Machine row down vm) (v : String) :
    f.Machine (Function.update row v true) down (vm.plug v) where
  volumes := by
    dsimp only [VirtualMachine.plug]
    split
    · exact h.volumes
    · exact Option.some_ne_none _
  disks := by
    dsimp only [VirtualMachine.plug]
    split
    · exact h.disks
    · exact Option.some_ne_none _
  condition := h.condition
  healthy := h.healthy
  has w hw := by
    rw [VirtualMachine.hasVolume_plug, h.has w hw]
    by_cases hwv : v = w
    · subst hwv
      simp
    · simp [hwv, Function.update_of_ne (Ne.symm hwv)]
  plugged x hx := by
    have hmem : x ∈ vm.volumeList ∨ x = hotplugVolume v := by
      unfold VirtualMachine.plug at hx
      split at hx
      · exact .inl hx
      · simpa [VirtualMachine.volumeList] using hx
    rcases hmem with hmem | rfl
    · exact h.plugged x hmem
    · exact fun _ => rfl

theorem Fleet.Machine.unplug (h : f.Machine row down vm) {drop : String → Bool}
    (hrow' : ∀ w ∈ f.volumes, row' w = (row w && !drop w)) :
    f.Machine row' down (vm.unplug drop) where
  volumes := Option.some_ne_none _
  disks := Option.some_ne_none _
  condition := h.condition
  healthy := h.healthy
  has w hw := by rw [(vm.unplug_lacks drop).hasVolume, h.has w hw, hrow' w hw]
  plugged x hx := h.plugged x (List.mem_of_mem_filter hx)

theorem Fleet.Machine.health (h : f.Machine row down vm) (down' : Bool) :
    f.Machine row down' (vm.health down') where
  volumes := h.volumes
  disks := h.disks
  condition := by simp [VirtualMachine.health, getCondition]
  healthy := by cases down' <;> rfl
  has := h.has
  plugged := h.plugged

theorem Plugs.want_self (h : a.wanted n v = b) : a.want n v b = a := by
  subst h
  simp [want, setWanted]

-- ---------------------------------------------------------------------------
-- Runs of the calls
-- ---------------------------------------------------------------------------

theorem Fleet.Follows.run_hotplugVolumeToVM (h : f.Follows cs s a)
    (hdecl : cs.useDeclarativeHotplug = true) (hn : n ∈ f.nodes) (hv : v ∈ f.volumes) :
    ∃ t, run Cluster.serve (cs.hotplugVolumeToVM n v) s = (.ok (), t) ∧
      f.Follows cs t (a.want n v true) := by
  obtain ⟨vm, hvm, hmachine⟩ := h.machine n hn
  rw [ControllerServer.hotplugVolumeToVM, if_pos hdecl, ControllerServer.addVolumeToVM,
    request_bind, run_call]
  simp only [Cluster.serve, hvm, found_some]
  split
  · rename_i hboth
    have hwanted : a.wanted n v = true := by
      rw [← hmachine.has v hv]
      exact (Bool.and_eq_true_iff.mp hboth).1
    exact ⟨s, rfl, (Plugs.want_self hwanted).symm ▸ h⟩
  · refine ⟨s.setVM (vm.plug v), ?_, h.setVM_wanted hvm rfl (hmachine.plug v)⟩
    have hpatch := vm.applyPatch_plug hmachine.volumes hmachine.disks v
    simp [Cluster.serve, hvm, hpatch]

theorem Fleet.Follows.run_removeVolumeFromVM (h : f.Follows cs s a) (hn : n ∈ f.nodes) :
    ∃ t, run Cluster.serve (cs.removeVolumeFromVM n v) s = (.ok (), t) ∧
      f.Follows cs t (a.want n v false) := by
  obtain ⟨vm, hvm, hmachine⟩ := h.machine n hn
  have hpatch := vm.applyPatch_unplug fun w => decide (w = v)
  refine ⟨s.setVM (vm.unplug (· = v)), ?_, h.setVM_wanted hvm rfl (hmachine.unplug fun w hw => ?_)⟩
  · simp [ControllerServer.removeVolumeFromVM, Cluster.serve, hvm, hpatch]
  · by_cases hwv : w = v
    · subst hwv
      simp
    · simp [hwv]

theorem not_inlineFirst (h : ∀ va ∈ vas, va.persistentVolumeName ≠ none) :
    ¬ InlineFirst volume node vas := by
  rintro ⟨before, va, after, rfl, hnone, -⟩
  exact h va (by simp) hnone

theorem Fleet.Follows.run_waitForVASettled (h : f.Follows cs s a) (hn : n ∈ f.nodes)
    (hpvc : s.pvcs.get (cs.ns, v) = some pvc) (hmode : pvc.volumeMode = some .block)
    (hpv : pvc.volumeName = f.pv v) :
    run Cluster.serve (cs.waitForVASettled pvc n) s = (.ok (a.settled n v), s) := by
  obtain ⟨vmi, hvmi, hhost, -⟩ := h.instances n hn
  have hname : pvc.name = v := congrArg Prod.snd (Store.get_key hpvc)
  have hguestNamed : ∀ va ∈ s.guestVAs.filter (·.attached), va.persistentVolumeName ≠ none := by
    intro va hva
    obtain ⟨hmem, hattached⟩ := List.mem_filter.mp hva
    exact h.readable.guest va hmem hattached
  rw [ControllerServer.waitForVASettled_run hmode hvmi, h.settled]
  rcases ControllerServer.checkHostVA_go_cases pvc vmi.nodeName s.hostVAs with
    ⟨hinline, -⟩ | ⟨-, hostSettled, hgo, hhostIff⟩
  · exact absurd hinline (not_inlineFirst h.readable.host)
  rcases ControllerServer.checkGuestVA_go_cases pvc n s.guestVAs with
    ⟨hinline, -⟩ | ⟨-, guestSettled, hgo', hguestIff⟩
  · exact absurd hinline (not_inlineFirst hguestNamed)
  rw [hhost, hpv] at hhostIff
  rw [hname] at hguestIff
  have hsettled : f.settled s.hostVAs s.guestVAs n v = (hostSettled && guestSettled) := by
    rw [Bool.eq_iff_iff, Fleet.settled, Bool.and_eq_true, Bool.and_eq_true, decide_eq_true_iff,
      decide_eq_true_iff, hhostIff, hguestIff]
  rw [hgo, ok_bind, hsettled]
  cases hostSettled with
  | true => simp [hgo']
  | false => simp

theorem Fleet.Follows.run_publish (h : f.Follows cs s a) (hdecl : cs.useDeclarativeHotplug = true)
    {req : PublishRequest} (hn : req.nodeId ∈ f.nodes) (hv : req.volumeId ∈ f.volumes)
    (hticks : 0 < attachTicks) (hcap : req.volumeCapability = some cap)
    (hmode : cap.mode ≠ .multiNodeMultiWriter) :
    ∃ o t, run Cluster.serve (cs.controllerPublishVolume settleTicks attachTicks req) s = (o, t) ∧
      verdict o = (f.spec (.publish settleTicks attachTicks req) a).1 ∧
      f.Follows cs t (f.spec (.publish settleTicks attachTicks req) a).2 := by
  obtain ⟨pvc, hpvc, hphase, hblock, hpv⟩ := h.claim req.volumeId hv
  have hnode : req.nodeId ≠ "" := fun hempty => f.nodes_named (hempty ▸ hn)
  have hrun : run Cluster.serve (cs.controllerPublishVolume settleTicks attachTicks req) s =
      run Cluster.serve
        (cs.attachVolume settleTicks attachTicks pvc req.nodeId req.volumeId) s := by
    simp [ControllerServer.controllerPublishVolume, hnode, hcap, hmode, hphase, Cluster.serve, hpvc]
  have hwait := ControllerServer.run_pollUntilContextTimeout s
    (h.run_waitForVASettled hn hpvc hblock hpv) true settleTicks
  rw [Bool.true_or, Bool.and_true] at hwait
  rw [hrun, ControllerServer.attachVolume, run_bind, run_orElse, hwait, Fleet.spec]
  cases hsettled : a.settled req.nodeId req.volumeId with
  | false => exact ⟨_, _, rfl, rfl, h⟩
  | true =>
    simp only [if_true, ControllerServer.plugVolume, run_bind, run_orElse,
      ControllerServer.run_isVolAttached cs hnode, h.inVM hn hv, h.inVMI hn hv]
    cases hattached : a.wanted req.nodeId req.volumeId && a.live req.nodeId req.volumeId with
    | true =>
      obtain ⟨hwanted, hlive⟩ := Bool.and_eq_true_iff.mp hattached
      refine ⟨.ok (), s, rfl, ?_, ?_⟩
      · rw [hlive]
        rfl
      · rwa [Plugs.want_self hwanted]
    | false =>
      obtain ⟨t, hplug, ht⟩ := h.run_hotplugVolumeToVM hdecl hn hv
      obtain ⟨o, hwait, hverdict⟩ := cs.run_waitForVolumeAttached hnode req.volumeId t hticks
      refine ⟨o, t, ?_, ?_, ht⟩
      · simp [run_bind, run_orElse, hplug, hwait]
      · rw [hverdict, ht.inVM hn hv, ht.inVMI hn hv]
        simp [Plugs.want, Plugs.setWanted]

theorem Fleet.Follows.run_unpublish (h : f.Follows cs s a) (hdecl : cs.useDeclarativeHotplug = true)
    {req : UnpublishRequest} (hn : req.nodeId ∈ f.nodes) (hv : req.volumeId ∈ f.volumes) :
    ∃ o t, run Cluster.serve (cs.controllerUnpublishVolume req) s = (o, t) ∧
      verdict o = (f.spec (.unpublish req) a).1 ∧ f.Follows cs t (f.spec (.unpublish req) a).2 := by
  obtain ⟨pvc, hpvc, hphase, hblock, -⟩ := h.claim req.volumeId hv
  have hvolume : req.volumeId ≠ "" := fun hempty => f.volumes_named (hempty ▸ hv)
  have hnode : req.nodeId ≠ "" := fun hempty => f.nodes_named (hempty ▸ hn)
  have hrun : run Cluster.serve (cs.controllerUnpublishVolume req) s =
      run Cluster.serve (cs.detachVolume req.nodeId req.volumeId) s := by
    simp [ControllerServer.controllerUnpublishVolume, hvolume, hphase, Cluster.serve, hpvc,
      ControllerServer.isLHRWXVolume, hblock]
  obtain ⟨t, hremove, ht⟩ := h.run_removeVolumeFromVM (v := req.volumeId) hn
  rw [hrun, Fleet.spec]
  simp only [ControllerServer.detachVolume, ControllerServer.removeVolumeFromHostVM, run_bind,
    run_orElse, ControllerServer.run_checkVolumeExistsInVM cs hnode,
    ControllerServer.run_checkVolumeExistsInVMI cs hnode, h.inVM hn hv, h.inVMI hn hv,
    ← Bool.not_or]
  cases a.wanted req.nodeId req.volumeId || a.live req.nodeId req.volumeId with
  | false => exact ⟨_, _, rfl, rfl, h⟩
  | true =>
    have hunplug : run Cluster.serve (cs.unplugVolumeFromVM req.nodeId req.volumeId
        (a.wanted req.nodeId req.volumeId) (a.live req.nodeId req.volumeId)) s = (.ok true, t) := by
      simp [ControllerServer.unplugVolumeFromVM, hdecl, run_bind, run_orElse, hremove]
    rw [Bool.not_true, if_neg Bool.false_ne_true, run_bind, hunplug]
    exact ⟨_, t, rfl, rfl, ht⟩

theorem Fleet.Machine.isHotplugName (h : f.Machine row down vm) (hv : v ∈ f.volumes)
    (hhas : vm.hasVolume v = true) : vm.isHotplugName v = true := by
  obtain ⟨x, hx, hname⟩ := List.any_eq_true.mp hhas
  refine List.any_eq_true.mpr ⟨x, hx, ?_⟩
  have hxv : x.name = v := of_decide_eq_true hname
  rw [hname, Bool.true_and]
  exact h.plugged x hx (hxv ▸ hv)

theorem Fleet.Follows.run_removeAllHotplugVolumes (h : f.Follows cs s a)
    (hdecl : cs.useDeclarativeHotplug = true) (hn : n ∈ f.nodes) (hname : vm.name = n)
    (order : MapOrder) :
    ∃ t, run Cluster.serve (cs.nodeController.removeAllHotplugVolumesInOrder order.visit vm) s =
      (.ok (), t) ∧
      f.Follows cs t (a.setWanted n fun _ => false) := by
  subst hname
  obtain ⟨latestVM, hlatest, hmachine⟩ := h.machine vm.name hn
  have hrow (w) (hw : w ∈ f.volumes) :
      false = (a.wanted vm.name w && !latestVM.isHotplugName w) := by
    cases hwanted : a.wanted vm.name w with
    | false => rfl
    | true =>
      rw [hmachine.isHotplugName hw ((hmachine.has w hw).trans hwanted), Bool.not_true,
        Bool.and_false]
  have hkey : latestVM.name = vm.name := congrArg Prod.snd (Store.get_key hlatest)
  simp only [Controller.removeAllHotplugVolumesInOrder, ControllerServer.nodeController,
    request_bind, run_call, Cluster.serve, hlatest, found_some]
  split
  · -- nothing is hot-plugged, so nothing of the fleet was wanted
    rename_i hnone
    refine ⟨s, rfl, h.setWanted fun w hw => ?_⟩
    rw [hrow w hw, isHotplugName_eq_false hnone, Bool.not_false, Bool.and_true]
  · have hpatch := latestVM.applyPatch_unplug latestVM.isHotplugName
    refine ⟨s.setVM (latestVM.unplug latestVM.isHotplugName), ?_,
      h.setVM_wanted hlatest rfl (hmachine.unplug hrow)⟩
    simp [hdecl, Controller.removeAllHotplugVolumesByPatch, Cluster.serve, hkey, hlatest, hpatch]

theorem Fleet.Follows.run_reconcile (h : f.Follows cs s a) (hdecl : cs.useDeclarativeHotplug = true)
    {node : Node} (hn : node.name ∈ f.nodes) (hlost : node.Lost) (order : MapOrder) :
    ∃ o t,
      run Cluster.serve (unanswered (cs.nodeController.onNodesChangeInOrder order (some node))) s =
        (o, t) ∧
      verdict o = .ok ∧ f.Follows cs t (f.spec (.reconcile order node) a).2 := by
  obtain ⟨cond, hcond, hstatus⟩ := hlost.condition
  obtain ⟨vm, hvm, hmachine⟩ := h.machine node.name hn
  obtain ⟨vmCond, hvmCond⟩ := Option.ne_none_iff_exists'.mp hmachine.condition
  have hkey : vm.name = node.name := congrArg Prod.snd (Store.get_key hvm)
  have hhealthy := hmachine.healthy
  simp only [VirtualMachine.healthy, hvmCond] at hhealthy
  have hhealth : run Cluster.serve (cs.nodeController.getNodeAndVMHealth node) s =
      (.ok (false, !a.down node.name, vm), s) := by
    simp [Controller.getNodeAndVMHealth, ControllerServer.nodeController, hcond, hstatus,
      Cluster.serve, hvm, hvmCond, ← hhealthy]
  simp only [unanswered, Controller.onNodesChangeInOrder, hlost.alive, ne_eq, not_true_eq_false,
    if_false, run_bind, hhealth, Fleet.spec]
  cases hdown : a.down node.name with
  | false =>
    refine ⟨.ok (), s, ?_, rfl, h⟩
    simp [Controller.handleNodeAndVMHealthInOrder]
  | true =>
    obtain ⟨t, hremove, ht⟩ := h.run_removeAllHotplugVolumes hdecl hn hkey order
    refine ⟨.ok (), t, ?_, rfl, ht⟩
    simp [Controller.handleNodeAndVMHealthInOrder, hlost.marked, run_bind, run_orElse, hremove]

theorem VirtualMachineInstance.hasVolume_sync (vmi : VirtualMachineInstance) (v w : String)
    (wanted : Bool) :
    (vmi.sync v wanted).hasVolume w = if w = v then wanted else vmi.hasVolume w := by
  by_cases hwv : w = v
  · subst hwv
    cases wanted with
    | true => simp [sync, hasVolume]
    | false =>
      simp only [sync, hasVolume, Bool.false_eq_true, if_false, List.append_nil, if_true]
      rw [List.any_eq_false]
      intro st hst hplugged
      exact of_decide_eq_true (List.mem_filter.mp hst).2 (of_decide_eq_true hplugged).1
  · have hvw : v ≠ w := Ne.symm hwv
    have hfilter :
        (vmi.volumeStatus.filter (·.name ≠ v)).any (fun st => st.name = w ∧ st.hotplugVolume) =
        vmi.hasVolume w := by
      rw [hasVolume, Bool.eq_iff_iff]
      simp only [List.any_eq_true, List.mem_filter, decide_eq_true_eq]
      constructor
      · rintro ⟨st, ⟨hst, -⟩, hname, hplugged⟩
        exact ⟨st, hst, hname, hplugged⟩
      · rintro ⟨st, hst, hname, hplugged⟩
        exact ⟨st, ⟨hst, hname ▸ hwv⟩, hname, hplugged⟩
    rw [if_neg hwv, ← hfilter, hasVolume, sync, List.any_append]
    cases wanted <;> simp [hvw]

theorem Fleet.Follows.sync (h : f.Follows cs s a) (hn : n ∈ f.nodes) (hv : v ∈ f.volumes) :
    f.Follows cs (s.sync cs.ns n v) (a.setLive n v (a.wanted n v)) := by
  obtain ⟨vmi, hvmi, hhost, hlive⟩ := h.instances n hn
  have hkey := Store.get_key hvmi
  rw [Cluster.sync, hvmi]
  refine ⟨h.claim, h.machine, fun m hm => ?_, h.readable, h.settled⟩
  have hget : (s.setVMI (vmi.sync v (s.inVM cs.ns n v))).vmis.get (cs.ns, m) =
      if m = n then some (vmi.sync v (s.inVM cs.ns n v)) else s.vmis.get (cs.ns, m) := by
    simp only [Cluster.setVMI, Store.get_put, VirtualMachineInstance.sync, hkey, Prod.mk.injEq,
      true_and]
  rw [hget]
  by_cases hmn : m = n
  · subst hmn
    refine ⟨_, if_pos rfl, hhost, fun w hw => ?_⟩
    rw [VirtualMachineInstance.hasVolume_sync, h.inVM hn hv, Plugs.setLive]
    by_cases hwv : w = v
    · simp [hwv]
    · simp [hwv, hlive w hw]
  · obtain ⟨vmi', hvmi', hhost', hlive'⟩ := h.instances m hm
    refine ⟨vmi', (if_neg hmn).trans hvmi', hhost', fun w hw => ?_⟩
    simpa [Plugs.setLive, hmn] using hlive' w hw

theorem Fleet.Follows.health (h : f.Follows cs s a) (hn : n ∈ f.nodes) (down : Bool) :
    f.Follows cs (s.health cs.ns n down) { a with down := Function.update a.down n down } := by
  obtain ⟨vm, hvm, hmachine⟩ := h.machine n hn
  simp only [Cluster.health, hvm]
  have hkey : ((vm.health down).ns, (vm.health down).name) = (vm.ns, vm.name) := rfl
  refine h.setVM hvm hkey ?_ (fun m hm => ⟨rfl, Function.update_of_ne hm ..⟩) rfl rfl
  simp only [Function.update_self]
  exact hmachine.health down

theorem Fleet.refines (f : Fleet) (hdecl : cs.useDeclarativeHotplug = true) :
    Refines (HotplugStep.step cs) f.spec f.Fits verdict (f.Follows cs) := by
  have hstep (i : HotplugStep) (s : Cluster) (a : Plugs) (hi : f.Fits i) (h : f.Follows cs s a) :
      verdict (i.step cs s).1 = (f.spec i a).1 ∧ f.Follows cs (i.step cs s).2 (f.spec i a).2 := by
    cases i with
    | publish settleTicks attachTicks req =>
      obtain ⟨hn, hv, hticks, cap, hcap, hmode⟩ := hi
      obtain ⟨o, t, hrun, hverdict, ht⟩ := h.run_publish hdecl hn hv hticks hcap hmode
      rw [HotplugStep.step, hrun]
      exact ⟨hverdict, ht⟩
    | unpublish req =>
      obtain ⟨o, t, hrun, hverdict, ht⟩ := h.run_unpublish hdecl hi.1 hi.2
      rw [HotplugStep.step, hrun]
      exact ⟨hverdict, ht⟩
    | reconcile order node =>
      obtain ⟨o, t, hrun, hverdict, ht⟩ := h.run_reconcile hdecl hi.1 hi.2 order
      rw [HotplugStep.step, hrun]
      exact ⟨hverdict, ht⟩
    | sync n v => exact ⟨rfl, h.sync hi.1 hi.2⟩
    | health n down => exact ⟨rfl, h.health hi down⟩
    | attachments hostVAs guestVAs =>
      exact ⟨rfl, { h with readable := hi, settled := rfl }⟩
  exact ⟨fun i s a hi h => (hstep i s a hi h).1, fun i s a hi h => (hstep i s a hi h).2⟩

end

end HarvesterCSI
