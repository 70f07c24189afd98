import HarvesterCSI.Laws.Effects

/-!
# What an answer about a hot-plugged volume is worth

A volume is plugged in once it is in the spec of the machine and in the status of the
instance. The host brings the status after the spec, in its own time. A publish answers
after it has seen both; whatever else the driver does, the volume stays there until
someone takes it out. An unpublish answers after it has seen neither, and looks at the
status first. That order is right as long as nobody else takes the volume out: a
second unpublish between the two looks could make the first one answer too early.
-/

namespace HarvesterCSI

open Calls Calls.Prog

namespace Cluster

def inVM (s : Cluster) (ns node v : String) : Bool := (s.vms.get (ns, node)).any (·.hasVolume v)

def inVMI (s : Cluster) (ns node v : String) : Bool := (s.vmis.get (ns, node)).any (·.hasVolume v)

theorem inVM_found {s : Cluster} {vm : VirtualMachine} (h : s.vms.get (ns, node) = some vm)
    (v : String) :
    s.inVM ns node v = vm.hasVolume v := by
  rw [inVM, h]
  rfl

theorem inVM_setVM {s : Cluster} {vm : VirtualMachine} (new : VirtualMachine)
    (hfound : s.vms.get (ns, other) = some vm) (hkey : (new.ns, new.name) = (vm.ns, vm.name))
    (node v : String) :
    (s.setVM new).inVM ns node v = if node = other then new.hasVolume v else s.inVM ns node v := by
  have hvm := Store.get_key hfound
  simp only [inVM, setVM, Store.get_put, hkey, hvm, Prod.mk.injEq, true_and]
  split <;> rfl

section
variable {s : Cluster} {vm new : VirtualMachine}

theorem inVM_added (hfound : s.vms.get (ns, other) = some vm)
    (hnew : ∀ v, new.hasVolume v = (vm.hasVolume v || decide (w = v)))
    (hkey : (new.ns, new.name) = (vm.ns, vm.name)) (node v : String) :
    (s.setVM new).inVM ns node v = s.inVM ns node v ∨
      (other = node ∧ w = v) ∧ (s.setVM new).inVM ns node v = true := by
  rw [inVM_setVM new hfound hkey]
  by_cases hnode : node = other
  · subst hnode
    rw [if_pos rfl, hnew, inVM_found hfound]
    by_cases hv : w = v
    · exact .inr ⟨⟨rfl, hv⟩, by simp [hv]⟩
    · exact .inl (by simp [hv])
  · exact .inl (if_neg hnode)

theorem inVM_lacks (hfound : s.vms.get (ns, other) = some vm) {drop : String → Bool}
    (hnew : vm.Lacks drop new) (node v : String) :
    (s.setVM new).inVM ns node v = s.inVM ns node v ∨
      other = node ∧ drop v = true ∧ (s.setVM new).inVM ns node v = false := by
  rw [inVM_setVM new hfound hnew.key]
  by_cases hnode : node = other
  · subst hnode
    rw [if_pos rfl, hnew.hasVolume, inVM_found hfound]
    cases hv : drop v with
    | false => exact .inl (by simp)
    | true => exact .inr ⟨rfl, rfl, by simp⟩
  · exact .inl (if_neg hnode)

end
end Cluster

-- ---------------------------------------------------------------------------
-- Who plugs and who unplugs
-- ---------------------------------------------------------------------------

namespace DriverCall

def Plugs (node v : String) : DriverCall → Prop
  | .controllerPublishVolume _ _ req => req.nodeId = node ∧ req.volumeId = v
  | _ => False

/-- A reconcile of the node takes out whatever is plugged in there. -/
def Unplugs (node v : String) : DriverCall → Prop
  | .controllerUnpublishVolume req => req.nodeId = node ∧ req.volumeId = v
  | .onNodesChange _ (some n) => n.name = node
  | _ => False

end DriverCall

section
variable {cs : ControllerServer} {known : Reads} {call : DriverCall} {s t : Cluster}

theorem Effect.vmis (h : Effect cs known call s t) : t.vmis = s.vmis := by
  cases h <;> rfl

theorem Effect.inVMI (h : Effect cs known call s t) (ns node v : String) :
    t.inVMI ns node v = s.inVMI ns node v := by
  rw [Cluster.inVMI, h.vmis, Cluster.inVMI]

theorem Effect.inVM_cases (h : Effect cs known call s t) (node v : String) :
    t.inVM cs.ns node v = s.inVM cs.ns node v ∨
      call.Plugs node v ∧ t.inVM cs.ns node v = true ∨
      call.Unplugs node v ∧ t.inVM cs.ns node v = false := by
  cases h with
  | plug _ hfound =>
    exact (Cluster.inVM_added hfound (VirtualMachine.hasVolume_plug _ _) rfl node v).imp_right .inl
  | plugLegacy _ hfound =>
    exact (Cluster.inVM_added hfound (VirtualMachine.hasVolume_plugLegacy _ _) rfl node
      v).imp_right .inl
  | unplug _ hfound =>
    refine (Cluster.inVM_lacks hfound (VirtualMachine.unplug_lacks _ _) node v).imp_right ?_
    rintro ⟨hnode, hdrop, hgone⟩
    exact .inr ⟨⟨hnode, (of_decide_eq_true hdrop).symm⟩, hgone⟩
  | unplugLegacy _ hfound =>
    refine (Cluster.inVM_lacks hfound (VirtualMachine.unplugLegacy_lacks _ _) node v).imp_right ?_
    rintro ⟨hnode, hdrop, hgone⟩
    exact .inr ⟨⟨hnode, (of_decide_eq_true hdrop).symm⟩, hgone⟩
  | strip _ _ _ hfound =>
    refine (Cluster.inVM_lacks hfound (VirtualMachine.unplug_lacks _ _) node v).imp_right ?_
    rintro ⟨hnode, -, hgone⟩
    exact .inr ⟨hnode, hgone⟩
  | stripOne _ _ _ _ hfound =>
    refine (Cluster.inVM_lacks hfound (VirtualMachine.unplugLegacy_lacks _ _) node v).imp_right ?_
    rintro ⟨hnode, -, hgone⟩
    exact .inr ⟨hnode, hgone⟩
  | _ => exact .inl rfl

end

-- ---------------------------------------------------------------------------
-- Publishing
-- ---------------------------------------------------------------------------

/-- Others leave the volume in the spec, and then also in the status. -/
def pluggedKept (ns node v : String) : Rely Cluster where
  moves s t := VersionMoves s t ∧ (s.inVM ns node v = true → t.inVM ns node v = true) ∧
    (s.inVM ns node v = true → s.inVMI ns node v = true → t.inVMI ns node v = true)
  refl s := ⟨versions.refl s, id, fun _ => id⟩
  trans h₁ h₂ := ⟨versions.trans h₁.1 h₂.1, fun hs => h₂.2.1 (h₁.2.1 hs),
    fun hs hlive => h₂.2.2 (h₁.2.1 hs) (h₁.2.2 hs hlive)⟩

theorem Effect.pluggedKept {call : DriverCall} (h : Effect cs known call s t)
    (hcall : ¬ call.Unplugs node v) (hmove : VersionMoves s t) :
    (pluggedKept cs.ns node v).moves s t := by
  refine ⟨hmove, fun hs => ?_, fun _ hlive => (h.inVMI _ _ _).trans hlive⟩
  rcases h.inVM_cases node v with hsame | ⟨-, hin⟩ | ⟨hunplugs, -⟩
  · exact hsame.trans hs
  · exact hin
  · exact absurd hunplugs hcall

namespace ControllerServer
variable {cs : ControllerServer} {node v : String} {s : Cluster}

theorem checkVolumeExistsInVM_plugged (s : Cluster) :
    Attains (pluggedKept cs.ns node v) Wavers
      (fun found t => found = true → t.inVM cs.ns node v = true)
      (cs.checkVolumeExistsInVM node v) s := by
  refine .request fun s₁ r s₂ _ h => ?_
  have hkeeps : Op.Keeps (.getVM cs.ns node) := trivial
  obtain rfl := hkeeps.state h
  cases r with
  | ok vm =>
    have hread : s₂.vms.get (cs.ns, node) = some vm := found_eq_ok.mp (congrArg Prod.fst h.served)
    intro t hmove hfound
    exact hmove.2.1 ((Cluster.inVM_found hread v).trans hfound)
  | error e =>
    dsimp only
    split
    · intro _ _ hfound
      cases hfound
    · trivial

theorem checkVolumeExistsInVMI_plugged
    (hin : ∀ t, (pluggedKept cs.ns node v).moves s t → t.inVM cs.ns node v = true) :
    Attains (pluggedKept cs.ns node v) Wavers
      (fun found t => t.inVM cs.ns node v = true ∧ (found = true → t.inVMI cs.ns node v = true))
      (cs.checkVolumeExistsInVMI node v) s := by
  refine .request fun s₁ r s₂ hmove h => ?_
  have hkeeps : Op.Keeps (.getVMI cs.ns node) := trivial
  obtain rfl := hkeeps.state h
  have hin := hin s₂ hmove
  cases r with
  | ok vmi =>
    have hread : s₂.vmis.get (cs.ns, node) = some vmi := found_eq_ok.mp (congrArg Prod.fst h.served)
    intro t hmove
    refine ⟨hmove.2.1 hin, fun hfound => hmove.2.2 hin ?_⟩
    rw [Cluster.inVMI, hread]
    exact hfound
  | error e =>
    dsimp only
    split
    · intro t hmove
      refine ⟨hmove.2.1 hin, fun hfound => ?_⟩
      cases hfound
    · trivial

theorem isVolAttached_plugged (s : Cluster) :
    Attains (pluggedKept cs.ns node v) Wavers
      (fun attached t => attached = true → t.inVM cs.ns node v = true ∧ t.inVMI cs.ns node v = true)
      (cs.isVolAttached node v) s := by
  refine (checkVolumeExistsInVM_plugged s).bind fun volInVM t hin => ?_
  cases volInVM with
  | false =>
    refine .after (fun volInVMI u => ?_) t
    intro _ _ hattached
    cases hattached
  | true =>
    refine (checkVolumeExistsInVMI_plugged fun u hu => hin u hu rfl).bind fun volInVMI u hlive => ?_
    intro w hw hattached
    exact ⟨(hlive w hw).1, (hlive w hw).2 hattached⟩

theorem waitForVolumeAttached_plugged (ticks : Nat) (s : Cluster) :
    Attains (pluggedKept cs.ns node v) Wavers
      (fun _ t => t.inVM cs.ns node v = true ∧ t.inVMI cs.ns node v = true)
      (cs.waitForVolumeAttached ticks node v) s := by
  have hcheck (s : Cluster) : Attains (pluggedKept cs.ns node v) Wavers
      (fun attached t => attached = true → t.inVM cs.ns node v = true ∧ t.inVMI cs.ns node v = true)
      (cs.volumeAttachedCheck node v) s := by
    refine (isVolAttached_plugged s).orElse fun _ t => ?_
    intro _ _ hattached
    cases hattached
  refine Attains.orElse ((Attains.poll hcheck ticks s).bind fun attached t hplugged => ?_)
    fun _ _ => trivial
  cases attached with
  | true => exact fun u hu => hplugged u hu rfl
  | false => trivial

theorem controllerPublishVolume_plugged {req : PublishRequest}
    (hcap : req.volumeCapability = some cap) (hmode : cap.mode ≠ .multiNodeMultiWriter)
    (s : Cluster) :
    Attains (pluggedKept cs.ns req.nodeId req.volumeId) Wavers
      (fun _ t => t.inVM cs.ns req.nodeId req.volumeId = true ∧
        t.inVMI cs.ns req.nodeId req.volumeId = true)
      (cs.controllerPublishVolume settleTicks attachTicks req) s := by
  unfold controllerPublishVolume
  rw [hcap]
  split
  · trivial
  · refine .request fun _ r t _ _ => ?_
    cases r with
    | error e => trivial
    | ok pvc =>
      dsimp only
      rw [if_neg hmode]
      split
      · trivial
      · refine .after (fun _ t => ?_) t
        refine ((isVolAttached_plugged t).orElse fun _ _ => attains_error).bind
          fun attached t hplugged => ?_
        split
        · rename_i hattached
          exact fun u hu => hplugged u hu hattached
        · exact .after (fun _ t => waitForVolumeAttached_plugged attachTicks t) t

end ControllerServer

/-- In any run of calls that do not take the volume out of the node's machine, whatever
fails and whoever else writes: once a publish of it there has returned, the volume is in
the spec and in the status, and stays there. -/
theorem published_stays_plugged [DecidableEq ι] (cs : ControllerServer) (calls : ι → DriverCall)
    (req : PublishRequest) (hcalls : ∀ j, ¬ (calls j).Unplugs req.nodeId req.volumeId)
    (s₀ : Cluster) (hs : Versioned s₀)
    (h : Reach (pluggedKept cs.ns req.nodeId req.volumeId).moves Wavers anyStep
      (driverCalls cs calls s₀) c)
    (hcall : calls i = .controllerPublishVolume settleTicks attachTicks req)
    (hcap : req.volumeCapability = some cap) (hmode : cap.mode ≠ .multiNodeMultiWriter)
    (hreturned : c.procs i = .ok ()) :
    c.state.inVM cs.ns req.nodeId req.volumeId = true ∧
      c.state.inVMI cs.ns req.nodeId req.volumeId = true := by
  have hothers (c) (hc : Reach (pluggedKept cs.ns req.nodeId req.volumeId).moves Wavers anyStep
      (driverCalls cs calls s₀) c) (e) (he : e ∈ c.history) :
      e.All fun j _ s _ t _ => j ≠ i → (pluggedKept cs.ns req.nodeId req.volumeId).moves s t := by
    have hstep := hc.guaranteed (fun _ _ hmove => hmove.1) (driver_guarantees cs calls hs) rfl e he
    cases e with
    | env => trivial
    | call j => exact fun _ => hstep.2.pluggedKept (hcalls j) hstep.1
  have hstart : Attains (pluggedKept cs.ns req.nodeId req.volumeId) Wavers
      (fun _ t => t.inVM cs.ns req.nodeId req.volumeId = true ∧
        t.inVMI cs.ns req.nodeId req.volumeId = true)
      ((driverCalls cs calls s₀).procs i) s₀ := by
    simp only [driverCalls, hcall]
    exact ControllerServer.controllerPublishVolume_plugged hcap hmode s₀
  have hattains := h.attains (fun _ _ hmove => hmove) hothers hstart
  rw [hreturned] at hattains
  exact hattains c.state (Rely.refl _ _)

def Cluster.setVMI (s : Cluster) (vmi : VirtualMachineInstance) : Cluster :=
  { s with vmis := s.vmis.put vmi }

theorem VersionMoves.setVMI (s : Cluster) (vmi : VirtualMachineInstance) :
    VersionMoves s (s.setVMI vmi) :=
  ⟨fun _ _ => ⟨Nat.le_refl _, .inl rfl⟩, fun _ _ => ⟨Nat.le_refl _, .inl rfl⟩,
    fun _ _ => ⟨Nat.le_refl _, .inl rfl⟩⟩

def liveVolumes (vs : List String) : VirtualMachineInstance where
  ns := "ns"
  name := "n"
  volumeStatus := vs.map fun v => ⟨v, true, .ready, ""⟩

def hostWrites (vs : List String) (c : CallPool Bool) : CallPool Bool :=
  { c with
    state := c.state.setVMI (liveVolumes vs)
    history := .env c.state (c.state.setVMI (liveVolumes vs)) :: c.history }

def plugAndWait (i : Bool) : DriverCall :=
  if i then .controllerUnpublishVolume ⟨"w", "n"⟩
  else .controllerPublishVolume 0 1 ⟨"v", "n", some singleWriter⟩

def plugSeen : CallPool Bool :=
  (hostWrites ["v"]
    ((driverCalls exampleServer plugAndWait (pluggedCluster.setVMI (liveVolumes ["w"]))).turns
      Cluster.serve
      [true, false, true, false, true, false, true, false, true, false, false])).turns
    Cluster.serve [false, false]

theorem published_stays_plugged_of_two :
    plugSeen.procs false = .ok () ∧ plugSeen.state.inVM "ns" "n" "v" = true ∧
      plugSeen.state.inVMI "ns" "n" "v" = true := by
  have hreturned : plugSeen.procs false = .ok () := rfl
  refine ⟨hreturned, published_stays_plugged exampleServer plugAndWait ⟨"v", "n",
    some singleWriter⟩ ?_ _
    ((VersionMoves.setVMI _ _).versioned pluggedCluster_versioned)
    (.turns (fun _ _ => .inl rfl) _ (.env
      (.turns (fun _ _ => .inl rfl) _ .start) ⟨VersionMoves.setVMI _ _, id, fun _ _ => ?_⟩)) rfl rfl
    (by decide) hreturned⟩
  · intro j hunplugs
    cases j with
    | false => exact hunplugs
    | true => exact absurd hunplugs.2 (by decide)
  · decide +kernel

-- ---------------------------------------------------------------------------
-- Unpublishing
-- ---------------------------------------------------------------------------

/-- A server that may fail in any way, but says NotFound only of what is not there. -/
def Honest (op : Op) (s : Cluster) (r : op.Res) (t : Cluster) : Prop :=
  Wavers op s r t ∧ ∀ e, r = .error e → e.reason = .notFound → (Cluster.serve op s).1 = r

theorem found_eq_error (h : found resource name o = .error e) : o = none := by
  cases o with
  | none => rfl
  | some a => cases h

def Cluster.OnBlock (ns v : String) (s : Cluster) : Prop :=
  ∀ pvc, s.pvcs.get (ns, v) = some pvc → pvc.volumeMode ≠ some .filesystem

/-- Others neither plug the volume in nor take it out, and the host does not plug in what
is not in the spec. -/
def unpluggedKept (ns node v : String) : Rely Cluster where
  moves s t := VersionMoves s t ∧ t.inVM ns node v = s.inVM ns node v ∧
    (s.inVM ns node v = false → s.inVMI ns node v = false → t.inVMI ns node v = false) ∧
    (s.OnBlock ns v → t.OnBlock ns v)
  refl s := ⟨versions.refl s, rfl, fun _ => id, id⟩
  trans h₁ h₂ := ⟨versions.trans h₁.1 h₂.1, h₂.2.1.trans h₁.2.1,
    fun hs hout => h₂.2.2.1 (h₁.2.1.trans hs) (h₁.2.2.1 hs hout), fun hs => h₂.2.2.2 (h₁.2.2.2 hs)⟩

def DriverCall.Creates (v : String) : DriverCall → Prop
  | .createVolume _ req => req.name = v
  | _ => False

theorem Effect.onBlock {call : DriverCall} (h : Effect cs known call s t) (hcall : ¬ call.Creates v)
    (hs : s.OnBlock cs.ns v) : t.OnBlock cs.ns v := by
  cases h with
  | createClaim hbuilds =>
    intro pvc hget
    simp only [Cluster.setPVC, Store.get_put, hbuilds.key] at hget
    split at hget
    · rename_i hkey
      exact absurd (congrArg Prod.snd hkey).symm hcall
    · exact hs pvc hget
  | grow hfound =>
    intro pvc hget
    have hkey := Store.get_key hfound
    simp only [Cluster.setPVC, Store.get_put] at hget
    split at hget
    · rename_i hv
      rw [hkey] at hv
      have hmode := hs _ ((congrArg s.pvcs.get hv).trans hfound)
      cases hget
      exact hmode
    · exact hs pvc hget
  | deleteClaim =>
    intro pvc hget
    simp only [Store.get_erase] at hget
    split at hget
    · cases hget
    · exact hs pvc hget
  | _ => exact hs

theorem Effect.unpluggedKept {call : DriverCall} (h : Effect cs known call s t)
    (hplugs : ¬ call.Plugs node v) (hunplugs : ¬ call.Unplugs node v) (hcreates : ¬ call.Creates v)
    (hmove : VersionMoves s t) :
    (unpluggedKept cs.ns node v).moves s t := by
  refine ⟨hmove, ?_, fun _ hout => (h.inVMI _ _ _).trans hout, h.onBlock hcreates⟩
  rcases h.inVM_cases node v with hsame | ⟨hcall, -⟩ | ⟨hcall, -⟩
  · exact hsame
  · exact absurd hcall hplugs
  · exact absurd hcall hunplugs

namespace ControllerServer
variable {cs : ControllerServer} {node v : String} {s : Cluster}

/-- What is not in the status was not in the spec either, or still is there. -/
theorem checkVolumeExistsInVMI_unplugged (s : Cluster) :
    Attains (unpluggedKept cs.ns node v) Honest
      (fun found t => found = false → t.inVM cs.ns node v = false → t.inVMI cs.ns node v = false)
      (cs.checkVolumeExistsInVMI node v) s := by
  refine .request fun s₁ r s₂ _ h => ?_
  have hkeeps : Op.Keeps (.getVMI cs.ns node) := trivial
  obtain rfl := hkeeps.state h.1
  have hout (hread : s₂.inVMI cs.ns node v = false) (t)
      (hmove : (unpluggedKept cs.ns node v).moves s₂ t)
      (hspec : t.inVM cs.ns node v = false) : t.inVMI cs.ns node v = false :=
    hmove.2.2.1 (hmove.2.1.symm.trans hspec) hread
  cases r with
  | ok vmi =>
    have hread : s₂.vmis.get (cs.ns, node) = some vmi :=
      found_eq_ok.mp (congrArg Prod.fst h.1.served)
    intro t hmove hfound
    refine hout ?_ t hmove
    rw [Cluster.inVMI, hread]
    exact hfound
  | error e =>
    dsimp only
    split
    · rename_i hreason
      have hread : s₂.vmis.get (cs.ns, node) = none := found_eq_error (h.2 e rfl hreason)
      intro t hmove _
      refine hout ?_ t hmove
      rw [Cluster.inVMI, hread]
      rfl
    · trivial

theorem checkVolumeExistsInVM_unplugged
    (hout : ∀ t, (unpluggedKept cs.ns node v).moves s t →
      t.inVM cs.ns node v = false → t.inVMI cs.ns node v = false) :
    Attains (unpluggedKept cs.ns node v) Honest
      (fun found t => found = false → t.inVM cs.ns node v = false ∧ t.inVMI cs.ns node v = false)
      (cs.checkVolumeExistsInVM node v) s := by
  refine .request fun s₁ r s₂ hmove h => ?_
  have hkeeps : Op.Keeps (.getVM cs.ns node) := trivial
  obtain rfl := hkeeps.state h.1
  have hboth (hread : s₂.inVM cs.ns node v = false) (t)
      (ht : (unpluggedKept cs.ns node v).moves s₂ t) :
      t.inVM cs.ns node v = false ∧ t.inVMI cs.ns node v = false :=
    ⟨ht.2.1.trans hread, ht.2.2.1 hread (hout s₂ hmove hread)⟩
  cases r with
  | ok vm =>
    have hread : s₂.vms.get (cs.ns, node) = some vm := found_eq_ok.mp (congrArg Prod.fst h.1.served)
    intro t ht hfound
    exact hboth ((Cluster.inVM_found hread v).trans hfound) t ht
  | error e =>
    dsimp only
    split
    · rename_i hreason
      have hread : s₂.vms.get (cs.ns, node) = none := found_eq_error (h.2 e rfl hreason)
      intro t ht _
      refine hboth ?_ t ht
      rw [Cluster.inVM, hread]
      rfl
    · trivial

theorem detachVolume_unplugged (s : Cluster) :
    Attains (unpluggedKept cs.ns node v) Honest
      (fun _ t => t.inVM cs.ns node v = false ∧ t.inVMI cs.ns node v = false)
      (cs.detachVolume node v) s := by
  have hremove : Attains (unpluggedKept cs.ns node v) Honest
      (fun removing t => removing = false →
        t.inVM cs.ns node v = false ∧ t.inVMI cs.ns node v = false)
      (cs.removeVolumeFromHostVM node v) s := by
    refine (checkVolumeExistsInVMI_unplugged s).bind fun volumeInVMI t hstatus => ?_
    cases volumeInVMI with
    | true =>
      refine .after (fun volumeInVM u => ?_) t
      rw [Bool.not_true, Bool.and_false]
      refine .after (fun _ w => ?_) u
      intro _ _ hremoving
      cases hremoving
    | false =>
      refine (checkVolumeExistsInVM_unplugged fun u hu => hstatus u hu rfl).bind
        fun volumeInVM u hboth => ?_
      cases volumeInVM with
      | true =>
        refine .after (fun _ w => ?_) u
        intro _ _ hremoving
        cases hremoving
      | false => exact fun w hw _ => hboth w hw rfl
  refine (hremove.orElse fun _ _ => attains_error).bind fun removing t hboth => ?_
  cases removing with
  | true => trivial
  | false => exact fun u hu => hboth u hu rfl

theorem controllerUnpublishVolume_unplugged (req : UnpublishRequest)
    (hs : s.OnBlock cs.ns req.volumeId) :
    Attains (unpluggedKept cs.ns req.nodeId req.volumeId) Honest
      (fun _ t => t.inVM cs.ns req.nodeId req.volumeId = false ∧
        t.inVMI cs.ns req.nodeId req.volumeId = false)
      (cs.controllerUnpublishVolume req) s := by
  unfold controllerUnpublishVolume
  split
  · trivial
  · refine .request fun s₁ r s₂ hmove h => ?_
    have hkeeps : Op.Keeps (.getPVC cs.ns req.volumeId) := trivial
    obtain rfl := hkeeps.state h.1
    cases r with
    | error e => trivial
    | ok pvc =>
      have hread : s₂.pvcs.get (cs.ns, req.volumeId) = some pvc :=
        found_eq_ok.mp (congrArg Prod.fst h.1.served)
      dsimp only
      split
      · trivial
      · rw [isLHRWXVolume, if_neg (hmove.2.2.2 hs pvc hread)]
        exact detachVolume_unplugged s₂

end ControllerServer

/-- In any run in which nobody else moves the block volume into or out of the node's
machine: once an unpublish of it there has returned, the volume is neither in the spec
nor in the status, and stays out. -/
theorem unpublished_stays_out [DecidableEq ι] (cs : ControllerServer) (calls : ι → DriverCall)
    (req : UnpublishRequest) (hcall : calls i = .controllerUnpublishVolume req)
    (hothers : ∀ j, j ≠ i → ¬ (calls j).Plugs req.nodeId req.volumeId ∧
      ¬ (calls j).Unplugs req.nodeId req.volumeId ∧ ¬ (calls j).Creates req.volumeId) (s₀ : Cluster)
    (hs : Versioned s₀) (hblock : s₀.OnBlock cs.ns req.volumeId)
    (h : Reach (unpluggedKept cs.ns req.nodeId req.volumeId).moves Honest anyStep
      (driverCalls cs calls s₀) c) (hreturned : c.procs i = .ok ()) :
    c.state.inVM cs.ns req.nodeId req.volumeId = false ∧
      c.state.inVMI cs.ns req.nodeId req.volumeId = false := by
  have hmoves (c) (hc : Reach (unpluggedKept cs.ns req.nodeId req.volumeId).moves Honest anyStep
      (driverCalls cs calls s₀) c) (e) (he : e ∈ c.history) :
      e.All fun j _ s _ t _ => j ≠ i → (unpluggedKept cs.ns req.nodeId req.volumeId).moves s t := by
    have hwavers := hc.mono (fun _ _ _ _ hanswer => hanswer.1)
    have hstep :=
      hwavers.guaranteed (fun _ _ hmove => hmove.1) (driver_guarantees cs calls hs) rfl e he
    cases e with
    | env => trivial
    | call j =>
      intro hj
      obtain ⟨hplugs, hunplugs, hcreates⟩ := hothers j hj
      exact hstep.2.unpluggedKept hplugs hunplugs hcreates hstep.1
  have hstart : Attains (unpluggedKept cs.ns req.nodeId req.volumeId) Honest
      (fun _ t => t.inVM cs.ns req.nodeId req.volumeId = false ∧
        t.inVMI cs.ns req.nodeId req.volumeId = false)
      ((driverCalls cs calls s₀).procs i) s₀ := by
    simp only [driverCalls, hcall]
    exact ControllerServer.controllerUnpublishVolume_unplugged req hblock
  have hattains := h.attains (fun _ _ hmove => hmove) hmoves hstart
  rw [hreturned] at hattains
  exact hattains c.state (Rely.refl _ _)

def unplugSeen : CallPool Bool :=
  (hostWrites [] ((driverCalls exampleServer plugAndWait ((pluggedCluster.setVM
      { ns := "ns", name := "n", volumes := some [], disks := some [] }).setVMI
      (liveVolumes ["w"]))).turns
    Cluster.serve [true, false])).turns Cluster.serve [false, true, false, true]

theorem unpublished_stays_out_of_two :
    unplugSeen.procs true = .ok () ∧ unplugSeen.state.inVM "ns" "n" "w" = false ∧
      unplugSeen.state.inVMI "ns" "n" "w" = false := by
  have hreturned : unplugSeen.procs true = .ok () := rfl
  have hserve (op : Op) (s : Cluster) : Honest op s (Cluster.serve op s).1 (Cluster.serve op s).2 :=
    ⟨.inl rfl, fun _ _ _ => rfl⟩
  refine ⟨hreturned, unpublished_stays_out exampleServer plugAndWait ⟨"w", "n"⟩ rfl ?_ _ ?_ ?_
    (.turns hserve _ (.env (.turns hserve _ .start)
      ⟨VersionMoves.setVMI _ _, rfl, fun _ _ => ?_, id⟩)) hreturned⟩
  · intro j hj
    cases j with
    | false => exact ⟨fun hplugs => absurd hplugs.2 (by decide), id, id⟩
    | true => exact absurd rfl hj
  · exact (VersionMoves.setVMI _ _).versioned ((VersionMoves.setVM _ _).versioned
      pluggedCluster_versioned)
  · intro pvc hget
    cases hget
    decide
  · decide +kernel

end HarvesterCSI
