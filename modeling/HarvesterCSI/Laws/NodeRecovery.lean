import HarvesterCSI.Laws.VMSpec

/-!
# Stripping the volumes of a machine that is down

The node controller takes all hot-plugged volumes out of a machine whose node is
out of service. It decides on one read of the machine and patches the version of
another.
-/

namespace HarvesterCSI

open Calls

/-- Any machine may change, each time to a version that is new. -/
def VMsMove (s t : Cluster) : Prop := ∀ ns node, (vmClock ns node).Moves s t

theorem VMsMove.refl (s : Cluster) : VMsMove s s := fun _ _ => Clock.Moves.refl _ _

theorem VMsMove.trans (s t u : Cluster) (h₁ : VMsMove s t) (h₂ : VMsMove t u) : VMsMove s u :=
  fun ns node => (h₁ ns node).trans _ (h₂ ns node)

def VMsBounded (s : Cluster) : Prop := ∀ ns node, (vmClock ns node).Bounded s

def reconciles (c : Controller) (nodes : ι → Option Node) (s₀ : Cluster) :
    Pool ι Op.Res Err (Option Node) Cluster where
  state := s₀
  procs := fun i => c.onNodesChange (nodes i)

/-- A removal patch that commits finds the machine not healthy, and was sent for
a node that was not ready and out of service. -/
def stripsUnhealthy (nodes : ι → Option Node) (i : ι) :
    (op : Op) → Cluster → op.Res → Cluster → Api (Option Node) → Prop
  | .patchVM ns name _, s, .ok _, _, _ =>
    (∃ vm, s.vms.get (ns, name) = some vm ∧ vm.healthy = false) ∧
      ∃ node, nodes i = some node ∧ node.ready = false ∧ node.outOfService = true
  | _, _, _, _, _ => True

/-- The read that comes just before the patch finds the machine not healthy. -/
def rereadsUnhealthy (_ : ι) : (op : Op) → Cluster → op.Res → Cluster → Api (Option Node) → Prop
  | .getVM .., _, .ok vm, _, .call (.patchVM ..) _ => vm.healthy = false
  | _, _, _, _, _ => True

-- ---------------------------------------------------------------------------
-- One reconcile
-- ---------------------------------------------------------------------------

section
variable {nodes : ι → Option Node} {i : ι}

theorem removeBySubresource_safe (c : Controller) (vm : VirtualMachine) (f : Err → Err)
    (names : List String) :
    Safe VMsMove Cluster.Answers (rereadsUnhealthy i) (stripsUnhealthy nodes i)
      ((c.removeAllHotplugVolumesBySubresource vm names).orElse (fun e => .error (f e)) >>=
        fun _ => .ok none) s := by
  induction names generalizing s with
  | nil => trivial
  | cons name names ih =>
    intro s₁ r s₂ _ _ _
    refine ⟨trivial, ?_⟩
    cases r with
    | ok => exact ih
    | error => trivial

theorem removeAllHotplugVolumes_safe (c : Controller) (order : List String → List String)
    (vm : VirtualMachine) (f : Err → Err)
    (hnode : nodes i = some node) (hready : node.ready = false) (htaint : node.outOfService = true)
    (hs : VMsBounded s) :
    Safe VMsMove Cluster.Answers (rereadsUnhealthy i) (stripsUnhealthy nodes i)
      ((c.removeAllHotplugVolumesInOrder order vm).orElse (fun e => .error (f e)) >>= fun _ =>
        .ok none) s := by
  simp only [Controller.removeAllHotplugVolumesInOrder, Prog.request_bind, Prog.call_orElse,
    Prog.call_bind]
  intro s₁ r s₂ hmove hget hmay
  obtain ⟨rfl, hread⟩ := hget.getVM
  refine ⟨trivial, ?_⟩
  cases r with
  | error => trivial
  | ok latestVM =>
    have hvm := hread latestVM rfl
    have hname : latestVM.name = vm.name := congrArg Prod.snd (Store.get_key hvm)
    dsimp only at hmay ⊢
    split
    · trivial
    · rename_i hsome
      rw [if_neg hsome] at hmay
      split
      · rename_i hdecl
        rw [if_pos hdecl] at hmay
        have hunhealthy : latestVM.healthy = false := hmay
        intro s₃ r' s₄ hmove' hpatch _
        cases r' with
        | error => exact ⟨trivial, trivial⟩
        | ok u =>
          rw [hname] at hpatch
          obtain ⟨-, vm', hvm', hver⟩ := hpatch.patchVM_ok
          have hsame : vm' = latestVM :=
            (hmove' _ _).same _ ((hmove _ _).bounded _ (hs _ _)) hvm hvm' hver
          refine ⟨⟨⟨vm', ?_, hsame ▸ hunhealthy⟩, node, hnode, hready, htaint⟩, trivial⟩
          rw [hname]
          exact hvm'
      · exact removeBySubresource_safe c latestVM f _

theorem updateNode_safe {k : Op.Res (.updateNode node) → Api (Option Node)}
    (hk : ∀ r, (∃ a, k r = .ok a) ∨ ∃ e, k r = .error e) :
    Safe VMsMove Cluster.Answers (rereadsUnhealthy i) (stripsUnhealthy nodes i)
      (.call (.updateNode node) k) s := by
  intro s₁ r s₂ _ _ _
  refine ⟨trivial, ?_⟩
  rcases hk r with ⟨a, ha⟩ | ⟨e, he⟩
  · simp [ha]
  · simp [he]

theorem handleNodeAndVMHealth_safe (c : Controller) (vm : VirtualMachine) (vmHealthy : Bool)
    (hnode : nodes i = some node) (hs : VMsBounded s) :
    Safe VMsMove Cluster.Answers (rereadsUnhealthy i) (stripsUnhealthy nodes i)
      (c.handleNodeAndVMHealth node vm node.ready vmHealthy) s := by
  unfold Controller.handleNodeAndVMHealth Controller.handleNodeAndVMHealthInOrder
  generalize hready : node.ready = ready
  generalize htaint : node.outOfService = taint
  split
  · trivial
  · exact updateNode_safe fun r => by cases r with
      | ok a => exact .inl ⟨_, rfl⟩
      | error e => exact .inr ⟨_, rfl⟩
  · exact updateNode_safe fun r => by cases r with
      | ok a => exact .inl ⟨_, rfl⟩
      | error e => exact .inr ⟨_, rfl⟩
  · exact removeAllHotplugVolumes_safe c _ vm _ hnode hready htaint hs
  · trivial

theorem onNodesChange_safe (c : Controller) (hs : VMsBounded s) :
    Safe VMsMove Cluster.Answers (rereadsUnhealthy i) (stripsUnhealthy nodes i)
      (c.onNodesChange (nodes i)) s := by
  unfold Controller.onNodesChange Controller.onNodesChangeInOrder
  split
  · trivial
  · rename_i node hnode
    split
    · trivial
    · unfold Controller.getNodeAndVMHealth
      split
      · trivial
      · rename_i cond hcond
        simp only [Prog.request_bind, Prog.call_bind]
        intro s₁ r s₂ hmove hget _
        obtain ⟨rfl, -⟩ := hget.getVM
        refine ⟨trivial, ?_⟩
        cases r with
        | error => trivial
        | ok vm =>
          have hready : decide (cond.status = .true) = node.ready := by
            simp only [Node.ready, hcond]
          dsimp only
          split
          · trivial
          · simp only [Prog.pure_eq, Prog.ok_bind, hready]
            exact handleNodeAndVMHealth_safe c vm _ hnode fun ns n =>
              (hmove ns n).bounded _ (hs ns n)

end

-- ---------------------------------------------------------------------------
-- Runs
-- ---------------------------------------------------------------------------

/-- In a run in which no re-read finds a healthy machine, volumes are taken only
out of machines that are not healthy, for nodes that are out of service. -/
theorem strips_unhealthy_of_rereads_unhealthy [DecidableEq ι] (c : Controller)
    (nodes : ι → Option Node) (s₀ : Cluster) (hs : VMsBounded s₀)
    (h : Reach VMsMove Cluster.Answers (fun _ e => e.All rereadsUnhealthy)
      (reconciles c nodes s₀) p) :
    ∀ e ∈ p.history, e.All (stripsUnhealthy nodes) := by
  refine (h.good VMsMove.trans VMsMove.refl (fun _ _ h => h) ?_ (fun _ _ h => h) ?_ rfl).2
  · intro _ _ _ _ _ _ hanswer _ ns node
    exact hanswer.moves
  · exact fun _ => onNodesChange_safe c hs

def downVM : VirtualMachine where
  ns := "ns"
  name := "n"
  volumes := some [hotplugVolume "v"]
  disks := some [hotplugDisk "v"]
  conditions := [⟨"Ready", .false⟩]
  printableStatus := "Stopped"

def downNode : Node where
  name := "n"
  conditions := [⟨"Ready", .unknown⟩]
  taints := [{ key := nonGracefulTaintKey, effect := .noExecute }]

theorem setVM_empty_bounded (vm : VirtualMachine) : VMsBounded (Cluster.empty.setVM vm) :=
  fun _ _ => (Cluster.setVM_moves _ vm).bounded _ (by rintro _ ⟨⟩)

theorem strips_down_machine :
    let s₀ := Cluster.empty.setVM downVM
    let p := (reconciles ⟨"ns", true⟩ (fun _ : Unit => some downNode) s₀).turns Cluster.serve
      [(), (), ()]
    (p.state.vms.get ("ns", "n")).map (·.volumes) = some (some []) ∧
      ∀ e ∈ p.history, e.All (stripsUnhealthy fun _ : Unit => some downNode) := by
  intro s₀ p
  have h₀ : Reach VMsMove Cluster.Answers (fun _ e => e.All rereadsUnhealthy)
    (reconciles ⟨"ns", true⟩ (fun _ : Unit => some downNode) s₀) _ := .start
  have h₁ := h₀.call (i := ()) rfl (Cluster.serve_answers _ _) trivial
  have h₂ := h₁.call (i := ()) rfl (Cluster.serve_answers _ _) rfl
  have h₃ := h₂.call (i := ()) rfl (Cluster.serve_answers _ _) trivial
  exact ⟨rfl, strips_unhealthy_of_rereads_unhealthy _ _ s₀ (setVM_empty_bounded _) h₃⟩

/-- The machine comes back between the two reads, and its volumes are taken out
of it all the same. -/
theorem strips_recovered_machine :
    let nodes := fun _ : Unit => some downNode
    let recovered := { downVM with conditions := [⟨"Ready", .true⟩], printableStatus := "Running" }
    let s₀ := Cluster.empty.setVM downVM
    ∃ p, Reach VMsMove Cluster.Answers anyStep (reconciles ⟨"ns", true⟩ nodes s₀) p ∧
      Event.env s₀ (s₀.setVM recovered) ∈ p.history ∧
      ¬ ∀ e ∈ p.history, e.All (stripsUnhealthy nodes) := by
  intro nodes recovered s₀
  have h₀ : Reach VMsMove Cluster.Answers anyStep (reconciles ⟨"ns", true⟩ nodes s₀) _ := .start
  have h₁ := (h₀.turns Cluster.serve_answers [()]).env fun _ _ => Cluster.setVM_moves s₀ recovered
  have h₂ := h₁.turns Cluster.serve_answers [(), ()]
  refine ⟨_, h₂, .tail _ (.tail _ (.head _)), fun hall => ?_⟩
  obtain ⟨⟨vm, hvm, hunhealthy⟩, -⟩ := hall _ (.head _)
  cases hvm
  cases hunhealthy

end HarvesterCSI
