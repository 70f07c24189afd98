import HarvesterCSI.NodeController

/-!
# Writers of a virtual machine's spec

The controller server and the node controller read a machine, compute a patch
and send it, guarded by the version they read. Between the two calls anything
may happen to the machine, as long as each write takes a new version. Such a run
is as good as one in which every call that committed ran alone at its commit.
-/

namespace HarvesterCSI

open Calls

def vmClock (ns node : String) : Clock Cluster VirtualMachine where
  latest := Cluster.rev
  object := fun s => s.vms.get (ns, node)
  version := VirtualMachine.resourceVersion

namespace Cluster

theorem serve_vms (op : Op) (s : Cluster) :
    s.rev ≤ (serve op s).2.rev ∧
      ((serve op s).2.vms = s.vms ∨ ∃ vm, (serve op s).2 = s.setVM vm) := by
  cases op <;> dsimp only [serve] <;> (repeat' split) <;>
    first
    | exact ⟨Nat.le_refl _, .inl rfl⟩
    | exact ⟨Nat.le_succ _, .inl rfl⟩
    | exact ⟨Nat.le_succ _, .inr ⟨_, rfl⟩⟩

theorem setVM_moves (s : Cluster) (vm : VirtualMachine) : (vmClock ns node).Moves s (s.setVM vm) :=
  Clock.Moves.of_put rfl rfl rfl (Nat.lt_succ_self _)

theorem Answers.moves (h : Answers op s r t) : (vmClock ns node).Moves s t := by
  rcases h with h | ⟨rfl, -⟩
  · obtain ⟨hrev, hvms⟩ := serve_vms op s
    rw [h] at hrev hvms
    rcases hvms with hvms | ⟨vm, rfl⟩
    · exact ⟨hrev, .inl (congrArg (Store.get · (ns, node)) hvms)⟩
    · exact setVM_moves s vm
  · exact Clock.Moves.refl _ _

theorem Answers.patchVM_ok
    (h : Answers (.patchVM ns node (.testResourceVersion v :: ops)) s (.ok u) t) :
    serve (.patchVM ns node (.testResourceVersion v :: ops)) s = (.ok u, t) ∧
      ∃ vm, s.vms.get (ns, node) = some vm ∧ vm.resourceVersion = v := by
  rcases h with h | ⟨-, e, he⟩
  swap
  · cases he
  refine ⟨h, ?_⟩
  simp only [serve] at h
  split at h
  · cases h
  · rename_i vm hvm
    refine ⟨vm, hvm, ?_⟩
    split at h
    · cases h
    · rename_i new hnew
      simp only [VirtualMachine.applyPatch, List.foldlM_cons, PatchOp.apply] at hnew
      split at hnew
      · assumption
      · cases hnew

theorem Answers.patchVM_error (h : Answers (.patchVM ns node patch) s (.error e) t) : t = s := by
  rcases h with h | ⟨rfl, -⟩
  · simp only [serve] at h
    repeat' split at h
    all_goals cases h
    all_goals rfl
  · rfl

end Cluster

-- ---------------------------------------------------------------------------
-- The calls
-- ---------------------------------------------------------------------------

/-- A call that edits the spec of machine `node` in `ns` by a patch. -/
inductive VMCall (ns node : String)
  | addVolumeToVM (cs : ControllerServer) (hns : cs.ns = ns) (volumeID : String)
  | removeVolumeFromVM (cs : ControllerServer) (hns : cs.ns = ns) (volumeID : String)
  | removeAllHotplugVolumes (c : Controller) (hns : c.ns = ns)
      (hdecl : c.useDeclarativeHotplug = true) (vm : VirtualMachine) (hname : vm.name = node)

def VMCall.prog : VMCall ns node → Api Unit
  | .addVolumeToVM cs _ volumeID => cs.addVolumeToVM node volumeID
  | .removeVolumeFromVM cs _ volumeID => cs.removeVolumeFromVM node volumeID
  | .removeAllHotplugVolumes c _ _ vm _ => c.removeAllHotplugVolumes vm

def commits : (op : Op) → op.Res → Prop
  | .patchVM .., .ok _ => True
  | _, _ => False

/-- Reads the machine, and then ends or sends one patch that tests for the
version of the machine it was given. -/
def ReadPatch (ns node : String) (p : Api Unit) : Prop :=
  ∃ k, p = .call (.getVM ns node) k ∧ (∀ e, ∃ e', k (.error e) = .error e') ∧
    ∀ vm : VirtualMachine, vm.name = node → k (.ok vm) = .ok () ∨
      ∃ ops k', k (.ok vm) =
          .call (.patchVM ns node (.testResourceVersion vm.resourceVersion :: ops)) k' ∧
        k' (.ok ()) = .ok () ∧ ∀ e, ∃ e', k' (.error e) = .error e'

theorem VMCall.readPatch (call : VMCall ns node) : ReadPatch ns node call.prog := by
  rcases call with ⟨cs, rfl, v⟩ | ⟨cs, rfl, v⟩ | ⟨c, rfl, hdecl, vm, rfl⟩
  · simp only [VMCall.prog, ControllerServer.addVolumeToVM, Prog.request_bind]
    refine ⟨_, rfl, fun e => ⟨_, rfl⟩, ?_⟩
    intro vm _
    dsimp only
    split
    · exact .inl rfl
    · exact .inr ⟨_, _, rfl, rfl, fun e => ⟨_, rfl⟩⟩
  · exact ⟨_, rfl, fun e => ⟨_, rfl⟩, fun vm _ => .inr ⟨_, _, rfl, rfl, fun e => ⟨_, rfl⟩⟩⟩
  · simp only [VMCall.prog, Controller.removeAllHotplugVolumes,
      Controller.removeAllHotplugVolumesInOrder, Prog.request_bind, hdecl]
    refine ⟨_, rfl, fun e => ⟨_, rfl⟩, ?_⟩
    intro latestVM hlatest
    dsimp only
    split
    · exact .inl rfl
    · rw [if_pos trivial, Controller.removeAllHotplugVolumesByPatch, hlatest]
      exact .inr ⟨_, _, rfl, rfl, fun e => ⟨_, rfl⟩⟩

/-- Whatever moves the machine between the read and the patch, a patch that goes
through has done what the whole call would do alone, there and then. -/
theorem ReadPatch.safe (hp : ReadPatch ns node p) (hs : (vmClock ns node).Bounded s) :
    Safe (vmClock ns node).Moves Cluster.Answers (fun _ _ _ _ _ => True)
      (Atomic Cluster.serve commits p) p s := by
  obtain ⟨k, rfl, herr, hok⟩ := hp
  intro s₁ r s₂ hmove hget _
  have hs₁ := hmove.bounded _ hs
  obtain ⟨rfl, hread⟩ := hget.getVM
  refine ⟨.inl ⟨id, rfl⟩, ?_⟩
  cases r with
  | error e =>
    obtain ⟨e', he⟩ := herr e
    simp [he]
  | ok vm =>
    have hvm := hread vm rfl
    have hname : vm.name = node := congrArg Prod.snd (Store.get_key hvm)
    rcases hok vm hname with hk | ⟨ops, k', hk, hdone, hfail⟩
    · simp [hk]
    · rw [hk]
      intro s₃ r' s₄ hmove' hpatch _
      cases r' with
      | error e =>
        obtain ⟨e', he⟩ := hfail e
        exact ⟨.inl ⟨id, hpatch.patchVM_error⟩, by simp [he]⟩
      | ok u =>
        obtain ⟨hserve, vm', hvm', hver⟩ := hpatch.patchVM_ok
        have hvv : vm' = vm := hmove'.same _ hs₁ hvm hvm' hver
        subst hvv
        refine ⟨.inr ⟨trivial, (), hdone, ?_⟩, by simp [hdone]⟩
        have hagain : Cluster.serve (.getVM ns node) s₃ = (.ok vm', s₃) := by
          simp [Cluster.serve, hvm']
        rw [run_call, hagain, hk, run_call, hserve, hdone, run_ok]

-- ---------------------------------------------------------------------------
-- No lost update
-- ---------------------------------------------------------------------------

/-- However the reads and patches of any number of calls interleave with each
other, with failing calls and with writes of others, the state reached is the
one of the serial run: each commit is its whole call run alone from the state
just before, and no other call changes anything. -/
theorem vm_calls_serializable [DecidableEq ι] (calls : ι → VMCall ns node) (s₀ : Cluster)
    (hs : (vmClock ns node).Bounded s₀)
    (h : Reach (vmClock ns node).Moves Cluster.Answers anyStep
      { state := s₀, procs := fun i => (calls i).prog } c) :
    Serial (vmClock ns node).Moves Cluster.serve commits (fun i => (calls i).prog) s₀
      c.history c.state :=
  h.serial (fun _ _ _ h₁ h₂ => h₁.trans _ h₂) (Clock.Moves.refl _) (fun _ _ h => h)
    (fun _ _ _ _ h => h.moves) (fun i => (calls i).readPatch.safe hs) rfl

/-- Two volumes are added to one machine by calls that both read it before
either patches it. -/
theorem two_adds_serializable :
    let cs : ControllerServer := ⟨"ns", "", true, true⟩
    let s₀ := Cluster.empty.setVM { ns := "ns", name := "n", volumes := some [], disks := some [] }
    let calls : Bool → VMCall "ns" "n" := fun i => .addVolumeToVM cs rfl (if i then "v" else "w")
    let c := Pool.turns Cluster.serve { state := s₀, procs := fun i => (calls i).prog }
      [true, false, true, false]
    c.history.length = 4 ∧
      Serial (vmClock "ns" "n").Moves Cluster.serve commits (fun i => (calls i).prog) s₀
        c.history c.state := by
  intro cs s₀ calls c
  have hs : (vmClock "ns" "n").Bounded s₀ := by
    rintro _ ⟨⟩
    exact Nat.le_refl _
  exact ⟨rfl, vm_calls_serializable calls s₀ hs (Reach.start.turns Cluster.serve_answers _)⟩

end HarvesterCSI
