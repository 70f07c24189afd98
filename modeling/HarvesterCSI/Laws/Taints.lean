import HarvesterCSI.NodeController
import Mathlib.Logic.Relation

/-!
# The out-of-service taint

Reconciles of one node, one after the other. Between two of them the health of
the node and of its machine may change in any way; only the reconciles write the
taints. The controller looks at the first taint of its key and at no other.
-/

namespace HarvesterCSI

open Calls

-- ---------------------------------------------------------------------------
-- Taints
-- ---------------------------------------------------------------------------

def outOfServiceTaint : Taint := { key := nonGracefulTaintKey, effect := .noExecute }

def isOutOfService (taint : Taint) : Bool :=
  taint.key = nonGracefulTaintKey ∧ taint.effect = .noExecute

def outOfServiceCount (taints : List Taint) : Nat := taints.countP isOutOfService

def otherTaints (taints : List Taint) : List Taint := taints.filter (·.key ≠ nonGracefulTaintKey)

def UniqueTaints (taints : List Taint) : Prop := (taints.map fun t => (t.key, t.effect)).Nodup

instance (taints : List Taint) : Decidable (UniqueTaints taints) :=
  inferInstanceAs (Decidable (List.Nodup _))

def FirstIsNoExecute (taints : List Taint) : Prop :=
  ∀ taint, getNodeTaint taints nonGracefulTaintKey = some taint → taint.effect = .noExecute

def wantedTaints (taints : List Taint) : Bool → Bool → List Taint
  | true, true =>
    if taintWithNoExecute (getNodeTaint taints nonGracefulTaintKey) then otherTaints taints
    else taints
  | false, false =>
    if taintWithNoExecute (getNodeTaint taints nonGracefulTaintKey) then taints
    else taints ++ [outOfServiceTaint]
  | _, _ => taints

theorem getNodeTaint_none : getNodeTaint taints nonGracefulTaintKey = none ↔
    ∀ t ∈ taints, t.key ≠ nonGracefulTaintKey := by
  simp [getNodeTaint]

theorem count_of_none (h : getNodeTaint taints nonGracefulTaintKey = none) :
    outOfServiceCount taints = 0 := by
  simp only [outOfServiceCount, List.countP_eq_zero, isOutOfService, decide_eq_true_eq, not_and]
  exact fun t ht hkey => absurd hkey (getNodeTaint_none.mp h t ht)

theorem otherTaints_none (taints : List Taint) :
    getNodeTaint (otherTaints taints) nonGracefulTaintKey = none := by
  simp [getNodeTaint_none, otherTaints]

theorem outOfServiceCount_eq (taints : List Taint) :
    outOfServiceCount taints =
      (taints.map fun t => (t.key, t.effect)).count (nonGracefulTaintKey, .noExecute) := by
  rw [outOfServiceCount, List.count, List.countP_map]
  congr 1
  funext t
  simp [isOutOfService, Bool.beq_eq_decide_eq]

theorem UniqueTaints.count_le_one (h : UniqueTaints taints) : outOfServiceCount taints ≤ 1 := by
  rw [outOfServiceCount_eq]
  exact List.nodup_iff_count_le_one.mp h _

theorem outOfService_iff : taintWithNoExecute (getNodeTaint taints nonGracefulTaintKey) = true ↔
    ∃ t, getNodeTaint taints nonGracefulTaintKey = some t ∧ t.effect = .noExecute := by
  cases getNodeTaint taints nonGracefulTaintKey <;> simp [taintWithNoExecute]

theorem count_of_outOfService (h : UniqueTaints taints)
    (hout : taintWithNoExecute (getNodeTaint taints nonGracefulTaintKey) = true) :
    outOfServiceCount taints = 1 := by
  obtain ⟨t, hfirst, heffect⟩ := outOfService_iff.mp hout
  have hmem : t ∈ taints := List.mem_of_find?_eq_some hfirst
  have hkey : t.key = nonGracefulTaintKey := by simpa using List.find?_some hfirst
  have hpos : 0 < outOfServiceCount taints :=
    List.countP_pos_iff.mpr ⟨t, hmem, by simp [isOutOfService, hkey, heffect]⟩
  have hle := h.count_le_one
  omega

theorem FirstIsNoExecute.none_of_not (h : FirstIsNoExecute taints)
    (hout : ¬ taintWithNoExecute (getNodeTaint taints nonGracefulTaintKey) = true) :
    getNodeTaint taints nonGracefulTaintKey = none := by
  rw [Option.eq_none_iff_forall_ne_some]
  exact fun t ht => hout (outOfService_iff.mpr ⟨t, ht, h t ht⟩)

theorem UniqueTaints.append (h : UniqueTaints taints) (hcount : outOfServiceCount taints = 0) :
    UniqueTaints (taints ++ [outOfServiceTaint]) := by
  rw [outOfServiceCount_eq, List.count_eq_zero] at hcount
  rw [UniqueTaints, List.map_append, List.nodup_append]
  refine ⟨h, by simp, ?_⟩
  simp only [List.map_cons, List.map_nil, List.mem_singleton]
  rintro a ha b rfl rfl
  exact hcount ha

-- ---------------------------------------------------------------------------
-- What a reconcile wants
-- ---------------------------------------------------------------------------

section
variable {taints : List Taint} {nodeHealthy vmHealthy : Bool}

theorem otherTaints_wantedTaints (taints : List Taint) (nodeHealthy vmHealthy : Bool) :
    otherTaints (wantedTaints taints nodeHealthy vmHealthy) = otherTaints taints := by
  unfold wantedTaints
  split
  · split
    · simp [otherTaints]
    · rfl
  · split
    · rfl
    · simp [otherTaints, outOfServiceTaint]
  · rfl

theorem UniqueTaints.wanted (h : UniqueTaints taints) (hfirst : FirstIsNoExecute taints)
    (nodeHealthy vmHealthy : Bool) : UniqueTaints (wantedTaints taints nodeHealthy vmHealthy) := by
  unfold wantedTaints
  split
  · split
    · exact (List.filter_sublist.map _).nodup h
    · exact h
  · split
    · exact h
    · rename_i hout
      exact h.append (count_of_none (hfirst.none_of_not hout))
  · exact h

theorem FirstIsNoExecute.wanted (hfirst : FirstIsNoExecute taints) (nodeHealthy vmHealthy : Bool) :
    FirstIsNoExecute (wantedTaints taints nodeHealthy vmHealthy) := by
  unfold wantedTaints
  split
  · split
    · simp [FirstIsNoExecute, otherTaints_none]
    · exact hfirst
  · split
    · exact hfirst
    · rename_i hout
      have hnone := hfirst.none_of_not hout
      intro t ht
      rw [getNodeTaint] at hnone ht
      rw [List.find?_append, hnone] at ht
      simp only [outOfServiceTaint, List.find?_cons, List.find?_nil] at ht
      cases ht
      rfl
  · exact hfirst

theorem count_wanted_healthy (hfirst : FirstIsNoExecute taints) :
    outOfServiceCount (wantedTaints taints true true) = 0 := by
  unfold wantedTaints
  dsimp only
  split
  · exact count_of_none (otherTaints_none _)
  · rename_i hout
    exact count_of_none (hfirst.none_of_not hout)

theorem count_wanted_unhealthy (h : UniqueTaints taints) (hfirst : FirstIsNoExecute taints) :
    outOfServiceCount (wantedTaints taints false false) = 1 := by
  unfold wantedTaints
  dsimp only
  split
  · rename_i hout
    exact count_of_outOfService h hout
  · rename_i hout
    have hcount := count_of_none (hfirst.none_of_not hout)
    rw [outOfServiceCount] at hcount ⊢
    rw [List.countP_append, hcount]
    rfl

end

-- ---------------------------------------------------------------------------
-- One reconcile
-- ---------------------------------------------------------------------------

def NoNodeOp (op : Op) : Prop := ∀ node, op ≠ .updateNode node

theorem NoNodeOp.nodes (hop : NoNodeOp op) (h : Cluster.Serves op s r t) : t.nodes = s.nodes := by
  obtain rfl := (congrArg Prod.snd h).symm
  cases op <;> dsimp only [Cluster.serve] <;> (repeat' split) <;>
    first
    | rfl
    | exact absurd rfl (hop _)

namespace Controller
variable {c : Controller} {node : Node} {s : Cluster}

theorem removeAllHotplugVolumes_uses (c : Controller) (order : List String → List String)
    (vm : VirtualMachine) : (c.removeAllHotplugVolumesInOrder order vm).Uses NoNodeOp := by
  have hsub (vm : VirtualMachine) (names : List String) :
      (c.removeAllHotplugVolumesBySubresource vm names).Uses NoNodeOp := by
    induction names with
    | nil => trivial
    | cons name names ih =>
      refine .request (by rintro _ ⟨⟩) fun r => ?_
      cases r with
      | ok => exact ih
      | error => trivial
  refine .request (by rintro _ ⟨⟩) fun r => ?_
  cases r with
  | error => trivial
  | ok latestVM =>
    dsimp only
    split
    · trivial
    · split
      · refine .request (by rintro _ ⟨⟩) fun r => ?_
        cases r <;> trivial
      · exact hsub _ _

theorem getNodeAndVMHealth_state (c : Controller) (node : Node) (s : Cluster) :
    (run Cluster.serve (c.getNodeAndVMHealth node) s).2 = s := by
  unfold getNodeAndVMHealth
  split
  · rfl
  · simp only [Prog.request_bind, run_call, Cluster.serve]
    split
    · rfl
    · split <;> rfl

/-- What a reconcile of the node sees: whether the node and its machine are
healthy. It sees nothing of a node that is being deleted, or if a condition or
the machine is missing. -/
def sees (c : Controller) (node : Node) (s : Cluster) : Option (Bool × Bool) :=
  if node.deletionTimestamp ≠ none then none
  else match (run Cluster.serve (c.getNodeAndVMHealth node) s).1 with
    | .ok (nodeHealthy, vmHealthy, _) => some (nodeHealthy, vmHealthy)
    | _ => none

theorem updateNode_taints (hnode : s.nodes.get node.name = some node) (taints : List Taint) :
    ((Cluster.serve (.updateNode { node with taints := taints }) s).2.nodes.get node.name).map
      Node.taints = some (if UniqueTaints taints then taints else node.taints) := by
  simp only [Cluster.serve, hnode, ne_eq, not_true_eq_false, if_false, UniqueTaints]
  by_cases hunique : (taints.map fun t => (t.key, t.effect)).Nodup
  · simp [hunique, Cluster.setNode]
  · simp [hunique, hnode]

theorem removeTaint_state (c : Controller) (node : Node) (s : Cluster) :
    (run Cluster.serve (c.removeTaint node) s).2 =
      (Cluster.serve (.updateNode { node with taints := otherTaints node.taints }) s).2 := by
  simp only [removeTaint, Prog.request_bind, run_call, otherTaints]
  generalize Cluster.serve _ s = answer
  obtain ⟨_ | _, t⟩ := answer <;> rfl

theorem addTaint_state (c : Controller) (node : Node) (s : Cluster) :
    (run Cluster.serve (c.addTaint node) s).2 =
      (Cluster.serve
        (.updateNode { node with taints := node.taints ++ [outOfServiceTaint] }) s).2 := by
  simp only [addTaint, Prog.request_bind, run_call, outOfServiceTaint]
  generalize Cluster.serve _ s = answer
  obtain ⟨_ | _, t⟩ := answer <;> rfl

theorem removeAllHotplugVolumes_nodes (c : Controller) (order : List String → List String)
    (vm : VirtualMachine) (f : Err → Err) :
    (run Cluster.serve
      ((c.removeAllHotplugVolumesInOrder order vm).orElse (fun e => .error (f e)) >>=
        fun _ => (.ok none : Api (Option Node))) s).2.nodes = s.nodes := by
  rcases hrun : run Cluster.serve ((c.removeAllHotplugVolumesInOrder order vm).orElse
    (fun e => .error (f e)) >>= fun _ => (.ok none : Api (Option Node))) s with ⟨o, t⟩
  let inv (u : Cluster) : Prop := u.nodes = s.nodes
  have huses := ((removeAllHotplugVolumes_uses c order vm).orElse
    fun e => (Prog.uses_error : (Prog.error (f e) : Api Unit).Uses NoNodeOp)).bind
    fun _ => (Prog.uses_ok : (.ok none : Api (Option Node)).Uses NoNodeOp)
  have hinv : inv t := (Cluster.runs_of_run hrun).invariant huses (by rintro _ _ h rfl; exact h)
    (fun _ _ _ _ hop h hserve => (hop.nodes hserve).trans h) rfl
  exact hinv

theorem handleNodeAndVMHealth_taints (hnode : s.nodes.get node.name = some node)
    (vm : VirtualMachine) (nodeHealthy vmHealthy : Bool) :
    ((run Cluster.serve (c.handleNodeAndVMHealth node vm nodeHealthy vmHealthy) s).2.nodes.get
      node.name).map Node.taints =
      some (if UniqueTaints (wantedTaints node.taints nodeHealthy vmHealthy) then
        wantedTaints node.taints nodeHealthy vmHealthy else node.taints) := by
  unfold handleNodeAndVMHealth handleNodeAndVMHealthInOrder wantedTaints
  generalize hout : node.outOfService = out
  rw [show taintWithNoExecute (getNodeTaint node.taints nonGracefulTaintKey) = out from hout]
  cases nodeHealthy with
  | true =>
    cases vmHealthy with
    | false => simp [hnode]
    | true =>
      cases out with
      | false => simp [hnode]
      | true =>
        rw [removeTaint_state, updateNode_taints hnode]
        rfl
  | false =>
    cases vmHealthy with
    | true => simp [hnode]
    | false =>
      cases out with
      | false =>
        rw [addTaint_state, updateNode_taints hnode]
        rfl
      | true =>
        rw [Prog.pure_eq, removeAllHotplugVolumes_nodes, hnode]
        simp

theorem onNodesChange_taints (hnode : s.nodes.get node.name = some node) :
    ((run Cluster.serve (c.onNodesChange (some node)) s).2.nodes.get node.name).map Node.taints =
      some (match c.sees node s with
        | some (nodeHealthy, vmHealthy) =>
          if UniqueTaints (wantedTaints node.taints nodeHealthy vmHealthy) then
            wantedTaints node.taints nodeHealthy vmHealthy
          else node.taints
        | none => node.taints) := by
  unfold onNodesChange onNodesChangeInOrder sees
  dsimp only
  split
  · simp [hnode]
  · have hstate := c.getNodeAndVMHealth_state node s
    rw [run_bind]
    rcases hrun : run Cluster.serve (c.getNodeAndVMHealth node) s with ⟨_ | _ | _, t⟩
    all_goals
      rw [hrun] at hstate
      obtain rfl : t = s := hstate
    · exact handleNodeAndVMHealth_taints hnode _ _ _
    · simp [hnode]
    · simp [hnode]

def WritesOnce (op : Op) : Prop := ∀ node, op = .updateNode node → outOfServiceCount node.taints ≤ 1

theorem NoNodeOp.writesOnce (op : Op) (h : NoNodeOp op) : WritesOnce op :=
  fun node he => absurd he (h node)

theorem handleNodeAndVMHealth_writesOnce (hunique : UniqueTaints node.taints)
    (hfirst : FirstIsNoExecute node.taints) (vm : VirtualMachine) (nodeHealthy vmHealthy : Bool) :
    (c.handleNodeAndVMHealth node vm nodeHealthy vmHealthy).Uses WritesOnce := by
  unfold handleNodeAndVMHealth handleNodeAndVMHealthInOrder
  generalize hout : node.outOfService = out
  split
  · trivial
  · refine .request ?_ fun r => by cases r <;> trivial
    rintro _ ⟨⟩
    have hcount := count_of_none (otherTaints_none node.taints)
    exact Nat.le_trans (Nat.le_of_eq hcount) (Nat.zero_le 1)
  · refine .request ?_ fun r => by cases r <;> trivial
    rintro _ ⟨⟩
    have hcount := count_wanted_unhealthy hunique hfirst
    rw [wantedTaints, if_neg (by simpa [Node.outOfService] using hout)] at hcount
    exact Nat.le_of_eq hcount
  · have huses := (removeAllHotplugVolumes_uses c id vm).mono NoNodeOp.writesOnce
    exact (huses.orElse fun _ => Prog.uses_error).bind fun _ => Prog.uses_ok
  · trivial

theorem onNodesChange_writesOnce (hunique : UniqueTaints node.taints)
    (hfirst : FirstIsNoExecute node.taints) : (c.onNodesChange (some node)).Uses WritesOnce := by
  unfold onNodesChange onNodesChangeInOrder getNodeAndVMHealth
  dsimp only
  split
  · trivial
  · split
    · trivial
    · refine Prog.Uses.bind (.request (by rintro _ ⟨⟩) fun r => ?_) fun _ =>
        handleNodeAndVMHealth_writesOnce hunique hfirst _ _ _
      cases r with
      | error => trivial
      | ok vm =>
        dsimp only
        split <;> trivial

-- ---------------------------------------------------------------------------
-- Runs of reconciles
-- ---------------------------------------------------------------------------

def SameTaints (name : String) (s t : Cluster) : Prop :=
  (t.nodes.get name).map Node.taints = (s.nodes.get name).map Node.taints

/-- The health changes in some way, and the node is reconciled. -/
def Reconcile (c : Controller) (name : String) (s t : Cluster) : Prop :=
  ∃ u node, SameTaints name s u ∧ u.nodes.get name = some node ∧
    t = (run Cluster.serve (c.onNodesChange (some node)) u).2

/-- What is asked of a reconcile, where `taints` are those the run began with. -/
structure Reconciled (c : Controller) (taints : List Taint) (node : Node) (s : Cluster) : Prop where
  writesOnce : (c.onNodesChange (some node)).Uses WritesOnce
  after : ∃ new,
    (run Cluster.serve (c.onNodesChange (some node)) s).2.nodes.get node.name = some new ∧
    otherTaints new.taints = otherTaints taints ∧ outOfServiceCount new.taints ≤ 1 ∧
    (c.sees node s = some (true, true) → outOfServiceCount new.taints = 0) ∧
    (c.sees node s = some (false, false) → outOfServiceCount new.taints = 1)

structure TaintInv (taints₀ taints : List Taint) : Prop where
  unique : UniqueTaints taints
  first : FirstIsNoExecute taints
  others : otherTaints taints = otherTaints taints₀

theorem TaintInv.wanted (h : TaintInv taints₀ taints) (nodeHealthy vmHealthy : Bool) :
    TaintInv taints₀ (wantedTaints taints nodeHealthy vmHealthy) where
  unique := h.unique.wanted h.first _ _
  first := h.first.wanted _ _
  others := (otherTaints_wantedTaints _ _ _).trans h.others

theorem TaintInv.reconciled (h : TaintInv taints₀ node.taints)
    (hnode : s.nodes.get node.name = some node) : c.Reconciled taints₀ node s := by
  refine ⟨onNodesChange_writesOnce h.unique h.first, ?_⟩
  have htaints := onNodesChange_taints (c := c) hnode
  obtain ⟨new, hnew, heq⟩ := Option.map_eq_some_iff.mp htaints
  refine ⟨new, hnew, ?_⟩
  rw [heq]
  rcases hsees : c.sees node s with _ | ⟨nodeHealthy, vmHealthy⟩
  · simp [h.others, h.unique.count_le_one]
  · have hw := h.wanted nodeHealthy vmHealthy
    simp only [if_pos hw.unique, Option.some.injEq, Prod.mk.injEq]
    refine ⟨hw.others, hw.unique.count_le_one, ?_, ?_⟩
    · rintro ⟨rfl, rfl⟩
      exact count_wanted_healthy h.first
    · rintro ⟨rfl, rfl⟩
      exact count_wanted_unhealthy h.unique h.first

theorem TaintInv.reconcile (h : TaintInv taints₀ node.taints)
    (hnode : s.nodes.get node.name = some node) :
    ∃ new, (run Cluster.serve (c.onNodesChange (some node)) s).2.nodes.get node.name = some new ∧
      TaintInv taints₀ new.taints := by
  have htaints := onNodesChange_taints (c := c) hnode
  obtain ⟨new, hnew, heq⟩ := Option.map_eq_some_iff.mp htaints
  refine ⟨new, hnew, ?_⟩
  rw [heq]
  rcases c.sees node s with _ | ⟨nodeHealthy, vmHealthy⟩
  · exact h
  · have hw := h.wanted nodeHealthy vmHealthy
    simpa only [if_pos hw.unique] using hw

theorem SameTaints.taints (h : SameTaints name s t) (hs : s.nodes.get name = some old)
    (ht : t.nodes.get name = some new) : new.taints = old.taints := by
  simpa [SameTaints, hs, ht] using h

theorem TaintInv.run (h : TaintInv taints₀ node.taints) (hnode : s.nodes.get name = some node)
    (hrun : Relation.ReflTransGen (c.Reconcile name) s t) :
    ∃ cur, t.nodes.get name = some cur ∧ TaintInv taints₀ cur.taints := by
  induction hrun with
  | refl => exact ⟨node, hnode, h⟩
  | tail _ hstep ih =>
    obtain ⟨old, hold, hinv⟩ := ih
    obtain ⟨u, cur, hsame, hcur, rfl⟩ := hstep
    have hname : cur.name = name := Store.get_key hcur
    rw [← hsame.taints hold hcur] at hinv
    rw [← hname] at hcur ⊢
    exact hinv.reconcile hcur

-- ---------------------------------------------------------------------------
-- A first taint of another effect
-- ---------------------------------------------------------------------------

def withReady (node : Node) (status : ConditionStatus) : Node :=
  { node with conditions := [⟨"Ready", status⟩], deletionTimestamp := none }

def withHealth (c : Controller) (node : Node) (status : ConditionStatus) (s : Cluster) : Cluster :=
  { s with
    nodes := s.nodes.put (withReady node status)
    vms := s.vms.put
      { ns := c.ns, name := node.name, conditions := [⟨"Ready", status⟩],
        printableStatus := "Running" } }

theorem get_withHealth (c : Controller) (node : Node) (status : ConditionStatus) (s : Cluster) :
    (c.withHealth node status s).nodes.get node.name = some (withReady node status) := by
  simp [withHealth, withReady]

theorem sees_withHealth (c : Controller) (node : Node) (status : ConditionStatus) (s : Cluster) :
    c.sees (withReady node status) (c.withHealth node status s) =
      some (decide (status = .true), decide (status = .true)) := by
  simp [sees, withHealth, withReady, getNodeAndVMHealth, getCondition, Cluster.serve]

theorem sameTaints_withHealth (hnode : s.nodes.get node.name = some node) (c : Controller)
    (status : ConditionStatus) : SameTaints node.name s (c.withHealth node status s) := by
  simp [SameTaints, get_withHealth, hnode, withReady]

theorem writes_twice (hout : node.outOfService = false)
    (hcount : 0 < outOfServiceCount node.taints) :
    ¬ (c.onNodesChange (some (withReady node .false))).Uses WritesOnce := by
  intro huses
  have hdown (vm : VirtualMachine) :
      c.handleNodeAndVMHealth (withReady node .false) vm false false =
      c.addTaint (withReady node .false) := by
    unfold handleNodeAndVMHealth handleNodeAndVMHealthInOrder
    rw [show (withReady node .false).outOfService = false from hout]
  -- the machine is found, and is not healthy
  let vm : VirtualMachine := { ns := c.ns, name := node.name, conditions := [⟨"Ready", .false⟩] }
  have hwrite : (c.handleNodeAndVMHealth (withReady node .false) vm false false).Uses WritesOnce :=
    huses.2 (.ok vm)
  rw [hdown] at hwrite
  have hle := hwrite.1 _ rfl
  simp only [outOfServiceCount, withReady, List.countP_append] at hle hcount
  have hone : [outOfServiceTaint].countP isOutOfService = 1 := rfl
  rw [outOfServiceTaint] at hone
  omega

theorem taints_withHealth (c : Controller) (node : Node) (status : ConditionStatus) (s : Cluster) :
    ((run Cluster.serve (c.onNodesChange (some (withReady node status)))
      (c.withHealth node status s)).2.nodes.get node.name).map Node.taints =
      some (if UniqueTaints (wantedTaints node.taints (status = .true) (status = .true)) then
        wantedTaints node.taints (status = .true) (status = .true) else node.taints) := by
  have hget : (c.withHealth node status s).nodes.get (withReady node status).name =
      some (withReady node status) := get_withHealth c node status s
  have htaints := onNodesChange_taints (c := c) hget
  rw [sees_withHealth] at htaints
  exact htaints

/-- With another NoExecute taint further on, a healthy node keeps it. -/
theorem not_reconciled_healthy (hout : node.outOfService = false)
    (hcount : 0 < outOfServiceCount node.taints) :
    ¬ c.Reconciled node.taints (withReady node .true) (c.withHealth node .true s) := by
  intro h
  obtain ⟨new, hnew, -, -, hhealthy, -⟩ := h.after
  have hwanted : wantedTaints node.taints true true = node.taints :=
    if_neg (by simpa [Node.outOfService] using hout)
  have htaints := taints_withHealth c node .true s
  rw [show Store.get _ node.name = some new from hnew] at htaints
  simp only [decide_true, hwanted, Option.map_some, ite_self, Option.some.injEq] at htaints
  have hzero := hhealthy (sees_withHealth c node .true s)
  rw [htaints] at hzero
  omega

/-- Without one, the first reconcile of an unhealthy node adds the taint and the
second one adds it again. -/
theorem added_behind_first (c : Controller) (s : Cluster) (hunique : UniqueTaints node.taints)
    (hout : node.outOfService = false)
    (htaint : getNodeTaint node.taints nonGracefulTaintKey = some taint)
    (hcount : outOfServiceCount node.taints = 0) :
    ∃ new, (run Cluster.serve (c.onNodesChange (some (withReady node .false)))
        (c.withHealth node .false s)).2.nodes.get node.name = some new ∧
      new.outOfService = false ∧ 0 < outOfServiceCount new.taints := by
  have hwanted : wantedTaints node.taints false false = node.taints ++ [outOfServiceTaint] :=
    if_neg (by simpa [Node.outOfService] using hout)
  have htaints := taints_withHealth c node .false s
  simp only [reduceCtorEq, decide_false, hwanted, if_pos (hunique.append hcount)] at htaints
  obtain ⟨new, hnew, heq⟩ := Option.map_eq_some_iff.mp htaints
  refine ⟨new, hnew, ?_, ?_⟩
  · rw [getNodeTaint] at htaint
    rw [Node.outOfService, heq, getNodeTaint, List.find?_append, htaint]
    simpa [Node.outOfService, getNodeTaint, htaint] using hout
  · rw [heq, outOfServiceCount, List.countP_append]
    exact Nat.lt_add_left _ (by decide)

/-- For every node whose taints are unique: all reconciles of all runs are right
exactly when the first taint of the key, if there is one, is NoExecute. -/
theorem taints_reconciled_iff (c : Controller) (hnode : s.nodes.get name = some node)
    (hunique : UniqueTaints node.taints) :
    (∀ t u cur, Relation.ReflTransGen (c.Reconcile name) s t → SameTaints name t u →
      u.nodes.get name = some cur → c.Reconciled node.taints cur u) ↔
      FirstIsNoExecute node.taints := by
  constructor
  · intro hall taint htaint
    by_contra heffect
    obtain rfl : node.name = name := Store.get_key hnode
    have hout : node.outOfService = false := by
      simp [Node.outOfService, htaint, taintWithNoExecute, heffect]
    rcases Nat.eq_zero_or_pos (outOfServiceCount node.taints) with hcount | hcount
    · obtain ⟨new, hnew, hout', hcount'⟩ := added_behind_first c s hunique hout htaint hcount
      have hname : new.name = node.name := Store.get_key hnew
      have hstep := Relation.ReflTransGen.single (r := c.Reconcile node.name)
        ⟨_, _, sameTaints_withHealth hnode c .false, get_withHealth c node .false s, rfl⟩
      rw [← hname] at hnew hstep hall
      exact writes_twice hout' hcount'
        (hall _ _ _ hstep (sameTaints_withHealth hnew c .false)
          (get_withHealth c new .false _)).writesOnce
    · exact not_reconciled_healthy hout hcount
        (hall s _ _ .refl (sameTaints_withHealth hnode c .true) (get_withHealth c node .true s))
  · intro hfirst t u cur hrun hsame hcur
    have hname : cur.name = name := Store.get_key hcur
    obtain ⟨old, hold, hinv⟩ := TaintInv.run ⟨hunique, hfirst, rfl⟩ hnode hrun
    rw [← hsame.taints hold hcur] at hinv
    rw [← hname] at hcur
    exact hinv.reconciled hcur

end Controller

def exampleController : Controller := ⟨"ns", true⟩

def downCluster (node : Node) : Cluster :=
  (Cluster.empty.setVM
    { ns := "ns", name := "n", volumes := some [], disks := some [],
      conditions := [⟨"Ready", .false⟩] }).setNode
    node

theorem taints_reconciled_noExecute :
    let node : Node := { name := "n", conditions := [⟨"Ready", .unknown⟩],
                         taints := [⟨"a", "", .noSchedule⟩, outOfServiceTaint] }
    UniqueTaints node.taints ∧ FirstIsNoExecute node.taints ∧
      ∀ t u cur, Relation.ReflTransGen (exampleController.Reconcile "n") (downCluster node) t →
        Controller.SameTaints "n" t u → u.nodes.get "n" = some cur →
        exampleController.Reconciled node.taints cur u := by
  intro node
  have hunique : UniqueTaints node.taints := by decide
  have hfirst : FirstIsNoExecute node.taints := by
    rintro taint ⟨⟩
    rfl
  have hnode : (downCluster node).nodes.get "n" = some { node with resourceVersion := 2 } := rfl
  exact ⟨hunique, hfirst,
    (Controller.taints_reconciled_iff exampleController hnode hunique).mpr hfirst⟩

/-- A node with the key at effect NoSchedule. It goes down and gets the taint, and
the next reconcile tries to write the taint a second time. -/
theorem taint_written_twice :
    let node : Node := { name := "n", conditions := [⟨"Ready", .unknown⟩],
                         taints := [⟨nonGracefulTaintKey, "", .noSchedule⟩] }
    let s := downCluster node
    let cur := { node with resourceVersion := 2 }
    let t := (run Cluster.serve (exampleController.onNodesChange (some cur)) s).2
    let new := { cur with resourceVersion := 3, taints := node.taints ++ [outOfServiceTaint] }
    UniqueTaints node.taints ∧ s.nodes.get "n" = some cur ∧ t.nodes.get "n" = some new ∧
      (run Cluster.serve (exampleController.onNodesChange (some new)) t).1 =
        .error (.api ⟨.invalid, "taints must be unique by key and effect pair"⟩) ∧
      exampleController.Reconcile "n" s t ∧ ¬ exampleController.Reconciled node.taints new t := by
  intro node s cur t new
  have hnew : t.nodes.get "n" = some new := by decide +kernel
  refine ⟨by decide, rfl, hnew, by decide +kernel, ⟨s, cur, rfl, rfl, rfl⟩, fun h => ?_⟩
  -- the machine is still down
  have hwrite := h.writesOnce.2 (.ok { ns := "ns", name := "n", conditions := [⟨"Ready", .false⟩] })
  have hle := hwrite.1 _ rfl
  revert hle
  decide

end HarvesterCSI
