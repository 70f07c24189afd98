import HarvesterCSI.Calls.Pool
import HarvesterCSI.Controller.Expand
import HarvesterCSI.Laws.Create

/-!
# Expansions of one volume, side by side

An expansion reads the claim, compares the sizes and writes the claim it has read
with the new size in it. The host fills in the status meanwhile. That no size gets
lost rests on the version that the written object carries.
-/

namespace HarvesterCSI

open Calls Calls.Prog
open Cluster (Answers)

def pvcClock (ns name : String) : Clock Cluster PVC where
  latest := Cluster.rev
  object := fun s => s.pvcs.get (ns, name)
  version := PVC.resourceVersion

def PVC.withoutStatus (pvc : PVC) : PVC :=
  { pvc with resourceVersion := 0, phase := .pending, capacity := {} }

/-- The host changes the status of the claim, under a new version, and anything else
but this claim. -/
structure ClaimStatusMoves (ns name : String) (s t : Cluster) : Prop where
  version : (pvcClock ns name).Moves s t
  spec : (t.pvcs.get (ns, name)).map PVC.withoutStatus =
    (s.pvcs.get (ns, name)).map PVC.withoutStatus

def PVC.requested (pvc : PVC) : Int64 := (pvc.requests.getD {}).storageValue

def Grows (ns name : String) (s t : Cluster) : Prop :=
  ∀ pvc, s.pvcs.get (ns, name) = some pvc →
    ∃ pvc', t.pvcs.get (ns, name) = some pvc' ∧ pvc.requested ≤ pvc'.requested

theorem Grows.of_eq (h : t.pvcs = s.pvcs) : Grows ns name s t :=
  fun pvc hpvc => ⟨pvc, h ▸ hpvc, Int64.le_refl _⟩

theorem ClaimStatusMoves.grows (h : ClaimStatusMoves ns name s t) : Grows ns name s t := by
  intro pvc hpvc
  have hspec := h.spec
  rw [hpvc, Option.map_some] at hspec
  obtain ⟨pvc', hpvc', hsame⟩ := Option.map_eq_some_iff.mp hspec
  have hrequests : pvc'.withoutStatus.requests = pvc.withoutStatus.requests :=
    congrArg PVC.requests hsame
  have hrequested : pvc'.requested = pvc.requested :=
    congrArg (fun r : Option ResourceList => (r.getD {}).storageValue) hrequests
  exact ⟨pvc', hpvc', Int64.le_of_eq hrequested.symm⟩

-- ---------------------------------------------------------------------------
-- What a call does to the claim
-- ---------------------------------------------------------------------------

namespace Cluster

theorem serve_pvcs (op : Op) (s : Cluster) :
    s.rev ≤ (serve op s).2.rev ∧ ((serve op s).2.pvcs = s.pvcs ∨
      (∃ pvc, (serve op s).2 = s.setPVC pvc) ∨ ∃ k, (serve op s).2.pvcs = s.pvcs.erase k) := by
  cases op <;> dsimp only [serve] <;> (repeat' split) <;>
    first
    | exact ⟨Nat.le_refl _, .inl rfl⟩
    | exact ⟨Nat.le_succ _, .inl rfl⟩
    | exact ⟨Nat.le_succ _, .inr (.inl ⟨_, rfl⟩)⟩
    | exact ⟨Nat.le_succ _, .inr (.inr ⟨_, rfl⟩)⟩

theorem setPVC_moves (s : Cluster) (pvc : PVC) : (pvcClock ns name).Moves s (s.setPVC pvc) :=
  Clock.Moves.of_put rfl rfl rfl (Nat.lt_succ_self _)

theorem Answers.pvc_moves (h : Answers op s r t) : (pvcClock ns name).Moves s t := by
  rcases h with h | ⟨rfl, -⟩
  · obtain ⟨hrev, hpvcs⟩ := serve_pvcs op s
    rw [h] at hrev hpvcs
    rcases hpvcs with hsame | ⟨pvc, rfl⟩ | ⟨k, herase⟩
    · exact ⟨hrev, .inl (congrArg (Store.get · (ns, name)) hsame)⟩
    · exact setPVC_moves s pvc
    · exact Clock.Moves.of_erase rfl (congrArg (Store.get · (ns, name)) herase) hrev
  · exact Clock.Moves.refl _ _

/-- An update that goes through found the version of the object it was given. -/
theorem Answers.updatePVC_ok (h : Answers (.updatePVC pvc) s (.ok res) t) :
    ∃ cur, s.pvcs.get (pvc.ns, pvc.name) = some cur ∧ cur.resourceVersion = pvc.resourceVersion ∧
      t = s.setPVC { pvc with phase := cur.phase, capacity := cur.capacity } := by
  have h := h.served
  dsimp only [serve] at h
  split at h
  · cases h
  · rename_i cur hcur
    split at h
    · cases h
      exact ⟨cur, hcur, by assumption, rfl⟩
    · cases h

theorem Answers.updatePVC_error (h : Answers (.updatePVC pvc) s (.error e) t) : t = s := by
  rcases h with h | ⟨rfl, -⟩
  · dsimp only [serve] at h
    repeat' split at h
    all_goals cases h
    all_goals rfl
  · rfl

end Cluster

def Writes : (op : Op) → op.Res → Prop
  | .updatePVC _, .ok _ => True
  | _, _ => False

def ExpandRead : Op → Prop
  | .getPVC .. | .listPods _ | .getSetting _ => True
  | _ => False

theorem ExpandRead.unchanged (hop : ExpandRead op) (h : Answers op s r t) : t = s := by
  cases op <;> cases hop
  all_goals
    rcases h with h | ⟨rfl, -⟩
    · exact (congrArg Prod.snd h).symm
    · rfl

/-- A call that keeps the claim from shrinking, and changes no claim otherwise than by
an update. -/
structure GoodExpand (ns name : String) (op : Op) (s : Cluster) (r : op.Res) (t : Cluster)
    (_ : Api ExpandResponse) : Prop where
  answers : Answers op s r t
  grows : Grows ns name s t
  unchanged : Writes op r ∨ t.pvcs = s.pvcs

theorem ExpandRead.good (hop : ExpandRead op) (h : Answers op s r t) :
    GoodExpand ns name op s r t rest := by
  have hsame := hop.unchanged h
  exact ⟨h, .of_eq (congrArg Cluster.pvcs hsame), .inr (congrArg Cluster.pvcs hsame)⟩

-- ---------------------------------------------------------------------------
-- The call
-- ---------------------------------------------------------------------------

section
variable {cs : ControllerServer}

theorem isVolumeInUse_uses (name : String) : (cs.isVolumeInUse name).Uses ExpandRead := by
  refine Uses.request trivial fun r => ?_
  cases r <;> trivial

theorem validateOnlineExpansion_uses (pvc : PVC) :
    (cs.validateOnlineExpansion pvc).Uses ExpandRead := by
  refine (isVolumeInUse_uses _).bind fun inUse => ?_
  split
  · refine Uses.request trivial fun r => ?_
    cases r <;> trivial
  · trivial

theorem waitForPVCState_uses (name : String) (predicate : PVC → Bool) (ticks : Nat) :
    (cs.waitForPVCState name predicate ticks).Uses ExpandRead := by
  induction ticks with
  | zero => trivial
  | succ ticks ih =>
    refine Uses.request trivial fun r => ?_
    cases r with
    | error e => exact ih
    | ok pvc =>
      dsimp only
      split
      · trivial
      · exact ih

theorem safe_of_reads {p : Api ExpandResponse} (hp : p.Uses ExpandRead) (s : Cluster) :
    Safe (pvcClock ns name).Moves Answers (fun _ _ _ _ _ => True) (GoodExpand ns name) p s :=
  Safe.of_uses (fun _ _ _ _ _ hop _ h => hop.good h) hp s

/-- The update is accepted only if the claim is still the one that was read, and so
the size that was compared is the size that is replaced. -/
theorem resize_safe (hs : (pvcClock cs.ns req.volumeId).Bounded s)
    (hread : s.pvcs.get (cs.ns, req.volumeId) = some pvc) (hle : pvc.requested ≤ size)
    (hmove : (pvcClock cs.ns req.volumeId).Moves s t) :
    Safe (pvcClock cs.ns req.volumeId).Moves Answers (fun _ _ _ _ _ => True)
      (GoodExpand cs.ns req.volumeId)
      (ControllerServer.controllerExpandVolume.resize cs ticks req pvc size) t := by
  have hkey := Store.get_key hread
  unfold ControllerServer.controllerExpandVolume.resize
  split
  · trivial
  · rw [request_bind]
    intro s₁ r s₂ hmove' hupdate _
    cases r with
    | error e =>
      have hsame := hupdate.updatePVC_error
      exact ⟨⟨hupdate, .of_eq (congrArg Cluster.pvcs hsame), .inr (congrArg Cluster.pvcs hsame)⟩,
        trivial⟩
    | ok res =>
      obtain ⟨cur, hcur, hversion, ht⟩ := hupdate.updatePVC_ok
      have hcur' : s₁.pvcs.get (cs.ns, req.volumeId) = some cur := hkey ▸ hcur
      have hsame : cur = pvc := (hmove.trans _ hmove').same _ hs hread hcur' hversion
      subst hsame
      refine ⟨⟨hupdate, ?_, .inl trivial⟩, safe_of_reads ?_ s₂⟩
      · intro pvc' hpvc'
        cases hcur'.symm.trans hpvc'
        refine ⟨{ cur with
          requests := some { storage := some size }, resourceVersion := s₁.rev + 1 }, ?_, hle⟩
        rw [ht, ← hkey]
        exact Cluster.get_setPVC _ _
      · refine (waitForPVCState_uses _ _ _).bind fun expanded => ?_
        split
        · exact ((isVolumeInUse_uses _).orElse fun _ => uses_error).bind fun _ => uses_ok
        · trivial

theorem controllerExpandVolume_safe (hs : (pvcClock cs.ns req.volumeId).Bounded s) :
    Safe (pvcClock cs.ns req.volumeId).Moves Answers (fun _ _ _ _ _ => True)
      (GoodExpand cs.ns req.volumeId) (cs.controllerExpandVolume ticks req) s := by
  simp only [ControllerServer.controllerExpandVolume, validateCtrlExpandReq, request_bind]
  split
  · trivial
  · rw [ok_bind]
    split
    · trivial
    · intro s₁ r s₂ hmove hget _
      have hs₁ := hmove.bounded _ hs
      obtain ⟨rfl, hread⟩ := hget.getPVC
      refine ⟨ExpandRead.good trivial hget, ?_⟩
      cases r with
      | error e => trivial
      | ok pvc =>
        dsimp only
        split
        · trivial
        · refine Safe.bind_of_moves (fun _ _ _ h₁ h₂ => h₁.trans _ h₂) (Clock.Moves.refl _)
            (fun _ _ _ _ _ h => h.pvc_moves) (fun _ _ _ _ _ hop _ h => hop.good h) ?_
            (validateOnlineExpansion_uses pvc)
          intro _ t hmove'
          split
          · trivial
          · split
            · trivial
            · rename_i hle
              exact resize_safe hs₁ (hread pvc rfl) (Int64.not_lt.mp hle) hmove'

end

-- ---------------------------------------------------------------------------
-- What a returned call has seen
-- ---------------------------------------------------------------------------

def Observes (ns name : String) (size : Int64) : (op : Op) → op.Res → Prop
  | .getPVC ns' name', .ok pvc => ns' = ns ∧ name' = name ∧ size ≤ pvc.capacity.storageValue
  | _, _ => False

section
variable {cs : ControllerServer}

theorem waitForPVCState_awaits (name : String) (size : Int64) (ticks : Nat) :
    (cs.waitForPVCState name (·.capacity.storageValue ≥ size) ticks).Awaits
      (Observes cs.ns name size) (· = false) := by
  induction ticks with
  | zero => rfl
  | succ ticks ih =>
    simp only [ControllerServer.waitForPVCState, request_bind]
    intro r
    cases r with
    | error e => exact .inr ih
    | ok pvc =>
      by_cases hsize : pvc.capacity.storageValue ≥ size
      · exact .inl ⟨rfl, rfl, hsize⟩
      · exact .inr (by simpa [hsize] using ih)

theorem resize_awaits (pvc : PVC) (size : Int64) :
    (ControllerServer.controllerExpandVolume.resize cs ticks req pvc size).Awaits
      (Observes cs.ns req.volumeId size) fun _ => False := by
  unfold ControllerServer.controllerExpandVolume.resize
  split
  · trivial
  · rw [request_bind]
    intro r
    right
    cases r with
    | error e => trivial
    | ok res =>
      refine (waitForPVCState_awaits req.volumeId size ticks).bind ?_
      rintro _ rfl
      trivial

theorem resize_returns (pvc : PVC) (size : Int64) :
    (ControllerServer.controllerExpandVolume.resize cs ticks req pvc size).Returns
      (·.capacityBytes = size) := by
  unfold ControllerServer.controllerExpandVolume.resize
  split
  · trivial
  · rw [request_bind]
    intro r
    cases r with
    | error e => trivial
    | ok res =>
      refine (returns_true _).bind fun expanded _ => ?_
      split
      · exact (returns_true _).bind fun inUse _ => Eq.refl size
      · trivial

theorem controllerExpandVolume_returns :
    (cs.controllerExpandVolume ticks req).Returns (req.requiredBytes = some ·.capacityBytes) := by
  unfold ControllerServer.controllerExpandVolume
  refine (returns_true _).bind fun _ _ => ?_
  split
  · trivial
  · rw [request_bind]
    intro r
    cases r with
    | error e => trivial
    | ok pvc =>
      dsimp only
      split
      · trivial
      · refine (returns_true _).bind fun _ _ => ?_
        split
        · trivial
        · rename_i size hsize
          split
          · trivial
          · refine (resize_returns pvc size).mono fun resp hresp => ?_
            rw [hsize, hresp]

theorem controllerExpandVolume_awaits (hsize : req.requiredBytes = some size) :
    (cs.controllerExpandVolume ticks req).Awaits (Observes cs.ns req.volumeId size)
      fun _ => False := by
  unfold ControllerServer.controllerExpandVolume
  refine (awaits_true _).bind fun _ _ => ?_
  split
  · trivial
  · rw [request_bind]
    intro r
    right
    cases r with
    | error e => trivial
    | ok pvc =>
      dsimp only
      split
      · trivial
      · refine (awaits_true _).bind fun _ _ => ?_
        rw [hsize]
        dsimp only
        split
        · trivial
        · exact resize_awaits pvc size

end

-- ---------------------------------------------------------------------------
-- Any number of calls
-- ---------------------------------------------------------------------------

structure ExpandsSafely (cs : ControllerServer) (volume : String) (reqs : ι → ExpandRequest)
    (c : Pool ι Op.Res Err ExpandResponse Cluster) : Prop where
  grows : ∀ e ∈ c.history, e.Moves (Grows cs.ns volume)
  /-- A call that has had no update accepted has left all claims as they were. -/
  unchanged : ∀ i, (∀ e ∈ c.history, e.All fun j op _ r _ _ => j = i → ¬ Writes op r) →
    ∀ e ∈ c.history, e.All fun j _ s _ t _ => j = i → t.pvcs = s.pvcs
  /-- A call that has returned reports its own size, and has read the claim with a capacity of
  that size. -/
  returned : ∀ i resp, c.procs i = .ok resp → (reqs i).requiredBytes = some resp.capacityBytes ∧
    ∃ pvc s t rest, .call i (.getPVC cs.ns volume) (.ok pvc) s t rest ∈ c.history ∧
      s.pvcs.get (cs.ns, volume) = some pvc ∧ resp.capacityBytes ≤ pvc.capacity.storageValue

theorem expansions_monotone [DecidableEq ι] (cs : ControllerServer) (volume : String)
    (ticks : ι → Nat) (reqs : ι → ExpandRequest) (hreqs : ∀ i, (reqs i).volumeId = volume)
    (s₀ : Cluster) (hs : (pvcClock cs.ns volume).Bounded s₀)
    (h : Reach (ClaimStatusMoves cs.ns volume) Answers anyStep
      { state := s₀, procs := fun i => cs.controllerExpandVolume (ticks i) (reqs i) } c) :
    ExpandsSafely cs volume reqs c := by
  have hsafe (i : ι) : Safe (pvcClock cs.ns volume).Moves Answers (fun _ _ _ _ _ => True)
      (GoodExpand cs.ns volume) (cs.controllerExpandVolume (ticks i) (reqs i)) s₀ := by
    obtain rfl := hreqs i
    exact controllerExpandVolume_safe hs
  have hgood :=
    (h.good (fun _ _ _ h₁ h₂ => h₁.trans _ h₂) (Clock.Moves.refl _) (fun _ _ h => h.version)
    (fun _ _ _ _ _ _ h _ => h.pvc_moves) (fun _ e _ => e.all_true) hsafe rfl).2
  constructor
  case grows =>
    intro e he
    refine h.moves (fun _ _ h => h.grows) rfl e he ?_
    cases e with
    | env => trivial
    | call => exact (hgood _ he).grows
  case unchanged =>
    intro i hnone e he
    have hkept := hnone e he
    cases e with
    | env => trivial
    | call j op r s t rest =>
      intro hj
      exact (hgood _ he).unchanged.resolve_left (hkept hj)
  case returned =>
    intro i resp hresp
    have hsize := h.returns (i := i) controllerExpandVolume_returns
    rw [hresp] at hsize
    have hawaits := h.awaits (i := i) (controllerExpandVolume_awaits hsize)
    rw [hresp, hreqs i] at hawaits
    rcases hawaits with hnever | ⟨op, r, s, t, rest, hmem, hseen⟩
    · exact hnever.elim
    · refine ⟨hsize, ?_⟩
      have hanswers := (hgood _ hmem).answers
      unfold Observes at hseen
      split at hseen
      · rename_i ns' name' pvc
        obtain ⟨rfl, rfl, hcapacity⟩ := hseen
        exact ⟨pvc, s, t, rest, hmem, hanswers.getPVC.2 pvc rfl, hcapacity⟩
      · exact hseen.elim

def smallClaim : PVC where
  ns := "ns"
  name := "v"
  volumeName := "pvc-1"
  requests := some { storage := some 1073741824 }
  phase := .bound
  capacity := { storage := some 1073741824 }

def expandTo (size : Int64) : ExpandRequest where
  volumeId := "v"
  volumeCapability := some {}
  requiredBytes := some size

def twoSizes (i : Bool) : ExpandRequest := expandTo (if i then 2147483648 else 3221225472)

def twoExpansions : Pool Bool Op.Res Err ExpandResponse Cluster where
  state := Cluster.empty.setPVC smallClaim
  procs := fun i => exampleServer.controllerExpandVolume 1 (twoSizes i)

/-- Both have read the claim before either writes it. -/
def twoUpdates : Pool Bool Op.Res Err ExpandResponse Cluster :=
  twoExpansions.turns Cluster.serve [true, false, true, false, true, false]

def grownState : Cluster := twoUpdates.state.setPVC
  { smallClaim with
    requests := some { storage := some 2147483648 }, capacity := { storage := some 2147483648 } }

/-- One expansion is turned down with a conflict, and the other returns. -/
theorem expansions_monotone_two :
    ∃ c, Reach (ClaimStatusMoves "ns" "v") Answers anyStep twoExpansions c ∧
      c.procs true = .ok ⟨2147483648, false⟩ ∧ (∃ e, c.procs false = .error e) ∧
      ExpandsSafely exampleServer "v" twoSizes c := by
  have h₁ : Reach (ClaimStatusMoves "ns" "v") Answers anyStep twoExpansions twoUpdates :=
    Reach.start.turns Cluster.serve_answers _
  have hspec : (grownState.pvcs.get ("ns", "v")).map PVC.withoutStatus =
      (twoUpdates.state.pvcs.get ("ns", "v")).map PVC.withoutStatus := by decide +kernel
  have h := (h₁.env ⟨Cluster.setPVC_moves _ _, hspec⟩).turns Cluster.serve_answers [true, true]
  have hs : (pvcClock "ns" "v").Bounded twoExpansions.state := by
    rintro _ ⟨⟩
    exact Nat.le_refl _
  refine ⟨_, h, ?_, ?_,
    expansions_monotone exampleServer "v" (fun _ => 1) twoSizes (fun _ => rfl) _ hs h⟩
  · rfl
  · exact ⟨_, rfl⟩

end HarvesterCSI
