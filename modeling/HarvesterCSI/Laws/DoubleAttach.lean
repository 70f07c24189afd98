import HarvesterCSI.Laws.Attach
import HarvesterCSI.Laws.Attachments

/-!
# One volume in two machines

A volume with one writer is published on several nodes at once. Each call checks
the attachments there are and then writes its own machine, and nothing ties the
check to the write.
-/

namespace HarvesterCSI

open Calls Calls.Prog
open Cluster (Answers)

-- ---------------------------------------------------------------------------
-- The calls and the machines
-- ---------------------------------------------------------------------------

structure Attaching (ι : Type) where
  cs : ControllerServer
  volume : String
  node : ι → String

namespace Attaching
variable (a : Attaching ι)

def calls (settleTicks attachTicks : Nat) (mount block : Bool) (s₀ : Cluster) : CallPool ι where
  state := s₀
  procs := fun i => a.cs.controllerPublishVolume settleTicks attachTicks
    ⟨a.volume, a.node i, some ⟨mount, block, some .singleNodeWriter⟩⟩

def Has (s : Cluster) (i : ι) : Prop :=
  ∃ vm, s.vms.get (a.cs.ns, a.node i) = some vm ∧ vm.hasVolume a.volume = true

def IsBlock (s : Cluster) : Prop :=
  ∀ pvc, s.pvcs.get (a.cs.ns, a.volume) = some pvc → pvc.volumeMode = some .block

def AttachedAt (s : Cluster) (i : ι) : Prop :=
  ∃ va ∈ s.guestVAs, va.attached = true ∧ va.persistentVolumeName = some a.volume ∧
    va.nodeName = a.node i

/-- What others do: anything that leaves the mode of the claim and adds the volume
to no machine. -/
structure Moves (s t : Cluster) : Prop where
  block : a.IsBlock s → a.IsBlock t
  machines : ∀ i, a.Has t i → a.Has s i

end Attaching

-- ---------------------------------------------------------------------------
-- When it goes well
-- ---------------------------------------------------------------------------

/-- With this call the wait for older attachments is over: the machine is next. -/
def Passes : Op → Api Unit → Prop
  | .listHostVAs, .call (.getVM ..) _ | .listGuestVAs, .call (.getVM ..) _ => True
  | _, _ => False

def Passed (history : List (CallEvent ι)) (i : ι) : Prop :=
  ∃ op r s t rest, Event.call i op r s t rest ∈ history ∧ Passes op rest

def Running : Api Unit → Prop
  | .call _ _ => True
  | _ => False

def Listable : (op : Op) → op.Res → Prop
  | .listHostVAs, .error _ => False
  | _, _ => True

/-- When a check passes, no other call that has passed its own is still under way,
and every other machine that has the volume has a guest attachment to show for it. -/
def Attaching.Orderly (a : Attaching ι) (c : CallPool ι) (i : ι) (op : Op) (s : Cluster)
    (r : op.Res) (_ : Cluster) (rest : Api Unit) : Prop :=
  Listable op r ∧ (Passes op rest → ∀ j, j ≠ i →
    ¬ (Passed c.history j ∧ Running (c.procs j)) ∧ (a.Has s j → a.AttachedAt s j))

-- ---------------------------------------------------------------------------
-- One publish
-- ---------------------------------------------------------------------------

section
variable {a : Attaching ι} {i : ι}

/-- Up to the check nothing is written, and the check that passes has seen no
attachment to another node. -/
def Attaching.GoodSettle (a : Attaching ι) (i : ι) (op : Op) (s : Cluster) (_ : op.Res)
    (_ : Cluster) (rest : Api Unit) : Prop :=
  ¬ WritesVM op ∧ (Passes op rest → ∀ va ∈ s.guestVAs, va.attached = true →
    va.persistentVolumeName = some a.volume → va.nodeName = a.node i)

abbrev Attaching.GuardedPublish (a : Attaching ι) (i : ι) : Api Unit → Cluster → Prop :=
  Guarded (fun s t => a.IsBlock s → a.IsBlock t) Answers (fun op _ r _ _ => Listable op r)
    (a.GoodSettle i) Passes

theorem settle_guarded (cs : ControllerServer) (hmode : pvc.volumeMode = some .block)
    (hname : pvc.name = a.volume)
    (f : Err → Err) (e : Err) (k : Op.Res (.getVM ns name) → Api Unit) (ticks : Nat) (s : Cluster) :
    a.GuardedPublish i (((poll (cs.waitForVASettled pvc (a.node i)) ticks >>=
      fun done => if done then pure () else .error e).orElse fun e => .error (f e)) >>=
        fun _ => .call (.getVM ns name) k) s := by
  induction ticks generalizing s with
  | zero => trivial
  | succ ticks ih =>
    simp only [poll, ControllerServer.waitForVASettled, ControllerServer.checkHostVA,
      ControllerServer.checkGuestVA, request_bind, call_bind, call_orElse]
    intro s₁ r s₂ _ _ hlist
    cases r with
    | error e => exact hlist.elim
    | ok hostVAs =>
      dsimp only
      rw [if_neg (by simp [hmode])]
      refine ⟨⟨by rintro ⟨⟩, by rintro ⟨⟩⟩, .inr ?_⟩
      intro s₃ r s₄ _ _ _
      cases r with
      | error e => exact ⟨⟨by rintro ⟨⟩, by rintro ⟨⟩⟩, .inr trivial⟩
      | ok vmi =>
        dsimp only
        rcases ControllerServer.checkHostVA_go_cases pvc vmi.nodeName hostVAs with
          ⟨-, hgo⟩ | ⟨-, _ | _, hgo, -⟩
        · rw [hgo]
          exact ⟨⟨by rintro ⟨⟩, by rintro ⟨⟩⟩, .inr trivial⟩
        · rw [hgo]
          exact ⟨⟨by rintro ⟨⟩, by rintro ⟨⟩⟩, .inr (ih s₄)⟩
        · rw [hgo]
          refine ⟨⟨by rintro ⟨⟩, by rintro ⟨⟩⟩, .inr ?_⟩
          intro s₅ r s₆ _ hguest _
          cases r with
          | error e => exact ⟨⟨by rintro ⟨⟩, by rintro ⟨⟩⟩, .inr trivial⟩
          | ok guestVAs =>
            dsimp only
            rcases ControllerServer.checkGuestVA_go_cases pvc (a.node i) guestVAs with
              ⟨-, hgo'⟩ | ⟨-, _ | _, hgo', hforeign⟩
            · rw [hgo']
              exact ⟨⟨by rintro ⟨⟩, by rintro ⟨⟩⟩, .inr trivial⟩
            · rw [hgo']
              refine ⟨⟨by rintro ⟨⟩, ?_⟩, .inr (ih s₆)⟩
              cases ticks <;> rintro ⟨⟩
            · rw [hgo']
              have hstate : s₅.guestVAs = guestVAs := by
                cases hguest.served
                rfl
              have hnone : ∀ va ∈ s₅.guestVAs, va.attached = true →
                  va.persistentVolumeName = some a.volume → va.nodeName = a.node i := by
                intro va hva hattached hvolume
                by_contra hnode
                exact hforeign.mp rfl va (hstate ▸ hva) hattached ⟨hname ▸ hvolume, hnode⟩
              exact ⟨⟨by rintro ⟨⟩, fun _ => hnone⟩, .inl trivial⟩

theorem publish_guarded (hs : a.IsBlock s) :
    a.GuardedPublish i ((a.calls settleTicks attachTicks mount block s₀).procs i) s := by
  simp only [Attaching.calls, ControllerServer.controllerPublishVolume, request_bind]
  split
  · trivial
  · intro s₁ r s₂ hmove hget _
    obtain ⟨rfl, hfound⟩ := hget.getPVC
    cases r with
    | error e => exact ⟨⟨by rintro ⟨⟩, by rintro ⟨⟩⟩, .inr trivial⟩
    | ok pvc =>
      have hpvc := hfound pvc rfl
      have hname : pvc.name = a.volume := congrArg Prod.snd (Store.get_key hpvc)
      dsimp only
      split
      · exact ⟨⟨by rintro ⟨⟩, by rintro ⟨⟩⟩, .inr trivial⟩
      · refine ⟨⟨by rintro ⟨⟩, by rintro ⟨⟩⟩, .inr ?_⟩
        exact settle_guarded a.cs (hmove hs pvc hpvc) hname _ _ _ _ s₂

theorem publish_uses (i : ι) :
    ((a.calls settleTicks attachTicks mount block s₀).procs i).Uses (a.cs.AttachOp (a.node i)) := by
  refine ControllerServer.controllerPublishVolume_uses a.cs _ trivial ?_ ?_
  · rintro cap ⟨⟩ ⟨⟩
  · intro cap _ _ _ pvc
    exact ControllerServer.attachVolume_uses a.cs _ _ _ _ _

end

-- ---------------------------------------------------------------------------
-- Runs
-- ---------------------------------------------------------------------------

/-- The call has passed its check and is not done, or its machine has the volume. -/
def Attaching.Busy (a : Attaching ι) (c : CallPool ι) (i : ι) : Prop :=
  Passed c.history i ∧ Running (c.procs i) ∨ a.Has c.state i

structure Attaching.Inv (a : Attaching ι) (c : CallPool ι) : Prop where
  block : a.IsBlock c.state
  uses : ∀ i, (c.procs i).Uses (a.cs.AttachOp (a.node i))
  guarded : ∀ i, Passed c.history i ∨ a.GuardedPublish i (c.procs i) c.state
  single : ∀ i j, i ≠ j → ¬ (a.Busy c i ∧ a.Busy c j)

section
variable {a : Attaching ι} {c : CallPool ι}

theorem passed_env : Passed (.env s t :: history) j ↔ Passed history j := by
  simp [Passed]

theorem passed_call : Passed (.call i op r s t rest :: history) j ↔
    j = i ∧ Passes op rest ∨ Passed history j := by
  constructor
  · rintro ⟨op', r', s', t', rest', hmem, hpasses⟩
    rcases List.mem_cons.mp hmem with heq | hmem
    · cases heq
      exact .inl ⟨rfl, hpasses⟩
    · exact .inr ⟨op', r', s', t', rest', hmem, hpasses⟩
  · rintro (⟨rfl, hpasses⟩ | ⟨op', r', s', t', rest', hmem, hpasses⟩)
    · exact ⟨op, r, s, t, rest, List.mem_cons_self, hpasses⟩
    · exact ⟨op', r', s', t', rest', List.mem_cons_of_mem _ hmem, hpasses⟩

theorem guarded_move {p : Api Unit} (h : a.GuardedPublish i p s) (hblock : a.IsBlock t) :
    a.GuardedPublish i p t :=
  h.move (fun _ _ _ h₁ h₂ h => h₂ (h₁ h)) fun _ => hblock

theorem Attaching.Inv.env (hinv : a.Inv c) (hmove : a.Moves c.state s) :
    a.Inv { c with state := s, history := .env c.state s :: c.history } where
  block := hmove.block hinv.block
  uses := hinv.uses
  guarded i := (hinv.guarded i).imp passed_env.mpr (guarded_move · (hmove.block hinv.block))
  single i j hij := by
    have hbusy (i : ι)
        (h : a.Busy { c with state := s, history := .env c.state s :: c.history } i) :
        a.Busy c i := h.imp (And.imp_left passed_env.mp) (hmove.machines i)
    exact fun h => hinv.single i j hij ⟨hbusy i h.1, hbusy j h.2⟩

/-- When a check passes for the first time, nobody else is busy. -/
theorem Attaching.Inv.alone (hnode : Function.Injective a.node) (hinv : a.Inv c)
    (hp : c.procs i = .call op k) (ha : Answers op c.state r s)
    (horderly : a.Orderly c i op c.state r s (k r)) (hpasses : Passes op (k r))
    (hfirst : ¬ Passed c.history i) (hj : j ≠ i) : ¬ a.Busy c j := by
  obtain ⟨hwaiting, hshown⟩ := horderly.2 hpasses j hj
  have hguarded := (hinv.guarded i).resolve_left hfirst
  rw [hp] at hguarded
  have hnone := (hguarded _ r s id ha horderly.1).1.2 hpasses
  rintro (h | h)
  · exact hwaiting h
  · obtain ⟨va, hmem, hattached, hname, hva⟩ := hshown h
    exact hj (hnode (hva.symm.trans (hnone va hmem hattached hname)))

section
variable [DecidableEq ι]

abbrev afterCall (c : CallPool ι) (i : ι) (op : Op) (r : op.Res) (s : Cluster) (rest : Api Unit) :
    CallPool ι where
  state := s
  procs := Function.update c.procs i rest
  history := .call i op r c.state s rest :: c.history

theorem Attaching.Inv.other (hnode : Function.Injective a.node) (hinv : a.Inv c)
    (hp : c.procs i = .call op k) (ha : Answers op c.state r s) (hj : j ≠ i)
    (h : a.Busy (afterCall c i op r s (k r)) j) : a.Busy c j := by
  have huses := hinv.uses i
  rw [hp] at huses
  obtain ⟨-, hframe, -⟩ := huses.1.effect ha
  refine h.imp (fun h => ⟨?_, ?_⟩) ?_
  · exact (passed_call.mp h.1).resolve_left fun h => hj h.1
  · simpa [Function.update_of_ne hj] using h.2
  · rintro ⟨vm, hget, hvol⟩
    refine ⟨vm, ?_, hvol⟩
    rw [← hframe _ fun hkey => hj (hnode (congrArg Prod.snd hkey))]
    exact hget

theorem Attaching.Inv.self (hinv : a.Inv c) (hp : c.procs i = .call op k)
    (ha : Answers op c.state r s) (hlist : Listable op r)
    (hpassed : Passes op (k r) → Passed c.history i)
    (h : a.Busy (afterCall c i op r s (k r)) i) : a.Busy c i := by
  have huses := hinv.uses i
  rw [hp] at huses
  have hrunning : Running (c.procs i) := by
    rw [hp]
    trivial
  rcases h with ⟨h, -⟩ | ⟨vm, hget, hvol⟩
  · exact .inl ⟨(passed_call.mp h).elim (fun h => hpassed h.2) id, hrunning⟩
  · by_cases hwrites : WritesVM op
    · -- only a call that has passed its check writes
      rcases hinv.guarded i with hdone | hguarded
      · exact .inl ⟨hdone, hrunning⟩
      · rw [hp] at hguarded
        exact absurd hwrites (hguarded _ r s id ha hlist).1.1
    · rw [(huses.1.effect ha).2.2 hwrites] at hget
      exact .inr ⟨vm, hget, hvol⟩

theorem Attaching.Inv.call (hnode : Function.Injective a.node) (hinv : a.Inv c)
    (hp : c.procs i = .call op k) (ha : Answers op c.state r s)
    (horderly : a.Orderly c i op c.state r s (k r)) : a.Inv (afterCall c i op r s (k r)) := by
  have huses := hinv.uses i
  rw [hp] at huses
  have hblock : a.IsBlock s := by
    rw [Attaching.IsBlock, (huses.1.effect ha).1]
    exact hinv.block
  refine ⟨hblock, fun j => ?_, fun j => ?_, ?_⟩
  · by_cases hj : j = i
    · subst hj
      simpa using huses.2 r
    · simpa [hj] using hinv.uses j
  · by_cases hj : j = i
    · subst hj
      rcases hinv.guarded j with hpassed | hguarded
      · exact .inl (passed_call.mpr (.inr hpassed))
      · rw [hp] at hguarded
        refine (hguarded _ r s id ha horderly.1).2.imp (fun h => passed_call.mpr (.inl ⟨rfl, h⟩)) ?_
        simp
    · refine (hinv.guarded j).imp (fun h => passed_call.mpr (.inr h)) fun h => ?_
      simpa [hj] using guarded_move h hblock
  · -- of two busy calls one at least is not `i`, and that one was busy before
    have hsingle {j : ι} (hj : j ≠ i) :
        ¬ (a.Busy (afterCall c i op r s (k r)) i ∧ a.Busy (afterCall c i op r s (k r)) j) := by
      rintro ⟨hi, hbusy⟩
      have hbusy := hinv.other hnode hp ha hj hbusy
      by_cases hpassed : Passes op (k r) → Passed c.history i
      · exact hinv.single i j hj.symm ⟨hinv.self hp ha horderly.1 hpassed hi, hbusy⟩
      · refine hpassed fun hpasses => Classical.byContradiction fun hfirst => ?_
        exact hinv.alone hnode hp ha horderly hpasses hfirst hj hbusy
    intro j l hjl h
    by_cases hj : j = i
    · subst hj
      exact hsingle hjl.symm h
    · by_cases hl : l = i
      · subst hl
        exact hsingle hj h.symm
      · exact hinv.single j l hjl
          ⟨hinv.other hnode hp ha hj h.1, hinv.other hnode hp ha hl h.2⟩

/-- Of a block volume in no machine, in a run in which every call is orderly, no
two machines come to have the volume. -/
theorem no_double_attach (hnode : Function.Injective a.node) (hblock : a.IsBlock s₀)
    (hnone : ∀ i, ¬ a.Has s₀ i)
    (h : Reach a.Moves Answers (fun c e => e.All (a.Orderly c))
      (a.calls settleTicks attachTicks mount block s₀) c) (hij : i ≠ j) :
    ¬ (a.Has c.state i ∧ a.Has c.state j) := by
  have hinv : a.Inv c := by
    refine h.invariant (fun _ _ e _ => e.all_true) ?_ (fun _ _ => Attaching.Inv.env) ?_
    · refine ⟨hblock, publish_uses, fun i => .inr (publish_guarded hblock), ?_⟩
      rintro i j - ⟨⟨hpassed, -⟩ | h, -⟩
      · obtain ⟨_, _, _, _, _, hmem, _⟩ := hpassed
        cases hmem
      · exact hnone i h
    · intro c i op k r s hinv hp ha horderly _
      exact hinv.call hnode hp ha horderly
  exact fun h => hinv.single i j hij ⟨.inr h.1, .inr h.2⟩

end

end

def emptyMachine (name : String) : VirtualMachine where
  ns := "ns"
  name := name
  volumes := some []
  disks := some []

def twoMachines : Cluster :=
  { ((Cluster.empty.setPVC
      { ns := "ns", name := "v", volumeMode := some .block, volumeName := "pvc-1",
        phase := .bound }).setVM (emptyMachine "n1")).setVM (emptyMachine "n2") with
    vmis := (Cluster.empty.vmis.put { ns := "ns", name := "n1", nodeName := "h1" }).put
      { ns := "ns", name := "n2", nodeName := "h2" } }

def twoNodes : Attaching Bool where
  cs := exampleServer
  volume := "v"
  node := fun first => if first then "n1" else "n2"

theorem twoNodes_block : twoNodes.IsBlock twoMachines := by
  rintro pvc ⟨⟩
  rfl

theorem twoNodes_none (first : Bool) : ¬ twoNodes.Has twoMachines first := by
  cases first <;> (rintro ⟨vm, ⟨⟩, hvol⟩; cases hvol)

theorem twoNodes_injective : Function.Injective twoNodes.node := by
  intro first second
  cases first <;> cases second <;> decide

theorem has_iff {a : Attaching ι} :
    a.Has s i ↔ (s.vms.get (a.cs.ns, a.node i)).map (·.hasVolume a.volume) = some true :=
  Option.map_eq_some_iff.symm

def passes : Op → Api Unit → Bool
  | .listHostVAs, .call (.getVM ..) _ | .listGuestVAs, .call (.getVM ..) _ => true
  | _, _ => false

theorem passes_of {rest : Api Unit} (h : Passes op rest) : passes op rest = true := by
  unfold Passes at h
  split at h
  · rfl
  · rfl
  · exact h.elim

def passed (history : List (CallEvent Bool)) (i : Bool) : Bool :=
  history.any fun e => match e with
    | .call j op _ _ _ rest => j = i && passes op rest
    | .env .. => false

theorem passed_of (h : Passed history i) : passed history i = true := by
  obtain ⟨op, r, s, t, rest, hmem, hpasses⟩ := h
  exact List.any_eq_true.mpr ⟨_, hmem, by simp [passes_of hpasses]⟩

/-- When a call is past its check, the other one is not, and has not written. -/
def orderlyTurn (c : CallPool Bool) (i : Bool) : Bool :=
  match c.procs i with
  | .call op k => !passes op (k (Cluster.serve op c.state).1) || (!passed c.history (!i) &&
      (c.state.vms.get ("ns", twoNodes.node !i)).map (·.hasVolume "v") ≠ some true)
  | _ => true

theorem orderly_of_turn {c : CallPool Bool} (hp : c.procs i = .call op k)
    (h : orderlyTurn c i = true) :
    twoNodes.Orderly c i op c.state (Cluster.serve op c.state).1 (Cluster.serve op c.state).2
      (k (Cluster.serve op c.state).1) := by
  simp only [orderlyTurn, hp] at h
  refine ⟨by cases op <;> trivial, fun hpasses j hj => ?_⟩
  simp only [passes_of hpasses, Bool.not_true, Bool.false_or, Bool.and_eq_true, Bool.not_eq_true',
    decide_eq_true_eq] at h
  obtain rfl : j = !i := Bool.eq_not.mpr hj
  exact ⟨fun hother => by simp [passed_of hother.1] at h, fun hhas => absurd (has_iff.mp hhas) h.2⟩

def firstPatched : CallPool Bool :=
  (twoNodes.calls 0 1 true false twoMachines).turns Cluster.serve
    [false, true, false, true, true, true, true, true, true, true]

def firstPlugged : Cluster :=
  { firstPatched.state with
    vmis := firstPatched.state.vmis.put
      { ns := "ns", name := "n1", nodeName := "h1", volumeStatus := [⟨"v", true, .ready, "sda"⟩] } }

def firstReturned : CallPool Bool :=
  Pool.turns Cluster.serve
    { firstPatched with
      state := firstPlugged
      history := .env firstPatched.state firstPlugged :: firstPatched.history } [true, true]

def firstAttached : Cluster := { firstReturned.state with guestVAs := [⟨some "v", "n1", true⟩] }

def secondRefused : CallPool Bool :=
  Pool.turns Cluster.serve
    { firstReturned with
      state := firstAttached
      history := .env firstReturned.state firstAttached :: firstReturned.history } [false, false]

theorem no_double_attach_in_turn :
    secondRefused.procs true = .ok () ∧ (∃ e, secondRefused.procs false = .error e) ∧
      ¬ (twoNodes.Has secondRefused.state true ∧ twoNodes.Has secondRefused.state false) := by
  let reach := Reach twoNodes.Moves Answers (fun c e => e.All (twoNodes.Orderly c))
    (twoNodes.calls 0 1 true false twoMachines)
  have hserved (c : CallPool Bool) (i op k) (hp : c.procs i = .call op k)
      (h : orderlyTurn c i = true) :=
    And.intro (Cluster.serve_answers op c.state) (orderly_of_turn hp h)
  have hpatched : reach firstPatched := Reach.start.turns_checked hserved (by decide +kernel)
  have hplugged := hpatched.env (s := firstPlugged) ⟨id, fun _ => id⟩
  have hreturned : reach firstReturned := hplugged.turns_checked hserved (by decide +kernel)
  have hattached := hreturned.env (s := firstAttached) ⟨id, fun _ => id⟩
  have hrefused : reach secondRefused := hattached.turns_checked hserved (by decide +kernel)
  exact ⟨rfl, ⟨_, rfl⟩,
    no_double_attach twoNodes_injective twoNodes_block twoNodes_none hrefused (by decide)⟩

/-- Both calls check, both find nothing, and both write. -/
theorem double_attach :
    let start := twoNodes.calls 0 0 true false twoMachines
    let p := start.turns Cluster.serve
      (.replicate 4 true ++ .replicate 4 false ++ .replicate 4 true ++ .replicate 4 false)
    Reach twoNodes.Moves Answers anyStep start p ∧ (∀ first, ¬ twoNodes.Has start.state first) ∧
      twoNodes.Has p.state true ∧ twoNodes.Has p.state false := by
  intro start p
  refine ⟨Reach.start.turns Cluster.serve_answers _, twoNodes_none, ?_, ?_⟩
  all_goals
    rw [has_iff]
    decide +kernel

end HarvesterCSI
