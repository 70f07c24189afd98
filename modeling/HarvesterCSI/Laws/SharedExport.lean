import HarvesterCSI.Laws.Attach
import HarvesterCSI.Laws.Create

/-!
# The export of a shared volume

Publishing enables the NetworkFilesystem of a shared Longhorn volume and
unpublishing disables it. There is no count of the nodes: a node that is still
published is seen only through the pods that run.
-/

namespace HarvesterCSI

open Calls Calls.Prog
open Cluster (Answers)

-- ---------------------------------------------------------------------------
-- The volume and the calls
-- ---------------------------------------------------------------------------

/-- A shared Longhorn volume: its claim `claim`, its host volume `volume`, its
storage class `sc`. -/
structure SharedVolume where
  claim : String
  volume : String
  sc : String

/-- The claim is there and makes `isLHRWXVolume` true. No NetworkFilesystem is
without a name. -/
structure SharedVolume.Stored (v : SharedVolume) (cs : ControllerServer) (s : Cluster) : Prop where
  claim : ∃ pvc, s.pvcs.get (cs.ns, v.claim) = some pvc ∧ pvc.volumeMode = some .filesystem ∧
    .readWriteMany ∈ pvc.accessModes ∧ pvc.volumeName = v.volume ∧ pvc.storageClassName = some v.sc
  storageClass : ∃ sc, s.storageClasses.get v.sc = some sc ∧ sc.provisioner = longhornProvisioner
  named : s.networkFSs.get ("", "") = none

def SharedVolume.Enabled (v : SharedVolume) (s : Cluster) : Prop :=
  ∃ fs, s.networkFSs.get (harvesterNS, v.volume) = some fs ∧ fs.desiredState = .enabled

/-- What others do: anything that leaves the volume in place and the desired
state to the driver. -/
structure SharedVolume.Moves (v : SharedVolume) (cs : ControllerServer) (s t : Cluster) : Prop where
  stored : v.Stored cs s → v.Stored cs t
  desired : (t.networkFSs.get (harvesterNS, v.volume)).map (·.desiredState) =
    (s.networkFSs.get (harvesterNS, v.volume)).map (·.desiredState)

inductive ShareCall
  | publish (node : String) (mount block : Bool)
  | unpublish (node : String)

def ShareCall.node : ShareCall → String
  | .publish node _ _ | .unpublish node => node

def ShareCall.isPublish : ShareCall → Bool
  | .publish .. => true
  | .unpublish _ => false

def ShareCall.prog (cs : ControllerServer) (settleTicks attachTicks : Nat) (v : SharedVolume) :
    ShareCall → Api Unit
  | .publish node mount block => cs.controllerPublishVolume settleTicks attachTicks
      ⟨v.claim, node, some ⟨mount, block, some .multiNodeMultiWriter⟩⟩
  | .unpublish node => cs.controllerUnpublishVolume ⟨v.claim, node⟩

def shareCalls (cs : ControllerServer) (settleTicks attachTicks : Nat) (v : SharedVolume)
    (calls : ι → ShareCall) (s₀ : Cluster) : CallPool ι where
  state := s₀
  procs := fun i => (calls i).prog cs settleTicks attachTicks v

/-- The last call for the node that returned OK is a publish. -/
def published (calls : ι → ShareCall) : List (CallEvent ι) → String → Bool
  | [], _ => false
  | e :: history, node =>
    match e.returned with
    | some i => if (calls i).node = node then (calls i).isPublish else published calls history node
    | none => published calls history node

-- ---------------------------------------------------------------------------
-- When it goes well
-- ---------------------------------------------------------------------------

def AtUpdate : Api Unit → Prop
  | .call (.updateNetworkFS _) _ => True
  | _ => False

def NoPods : (op : Op) → op.Res → Prop
  | .podsByIndex _, .ok (_ :: _) => False
  | .podsByIndex _, _ => True
  | _, _ => False

/-- What a publish reads: the storage class is found, and an export that is being
enabled is one that is meant to be. -/
def ReadsWell : (op : Op) → op.Res → Prop
  | .getStorageClass _, .error _ => False
  | .getNetworkFS .., .ok fs => fs.state = .enabling → fs.desiredState = .enabled
  | _, _ => True

/-- A publish reads well and does not return between the read of the pods and the
write of an unpublish of another node. An unpublish that finds no pods is of the
only node that is published. -/
def Steady (calls : ι → ShareCall) (c : CallPool ι) (i : ι) (op : Op) (_ : Cluster) (r : op.Res)
    (_ : Cluster) (rest : Api Unit) : Prop :=
  match calls i with
  | .publish node _ _ => ReadsWell op r ∧
      ((∃ a, rest = .ok a) → ∀ j other, calls j = .unpublish other → AtUpdate (c.procs j) →
        other = node)
  | .unpublish node => NoPods op r → ∀ other, published calls c.history other → other = node

-- ---------------------------------------------------------------------------
-- One call to the server
-- ---------------------------------------------------------------------------

def ShareOp : Op → Prop
  | .getPVC .. | .getStorageClass _ | .getNetworkFS .. | .updateNetworkFS _ | .getLocalPV _
  | .podsByIndex _ | .getVM .. | .getVMI .. | .patchVM .. | .removeVolumeVM ..
  | .removeVolumeVMI .. => True
  | .createNetworkFS fs => fs.ns = harvesterNS
  | _ => False

/-- An export is changed by an update of one that is there or by the creation of
one that is not. Claims and storage classes stay. -/
theorem ShareOp.effect (hop : ShareOp op) (h : Answers op s r t) :
    t.pvcs = s.pvcs ∧ t.storageClasses = s.storageClasses ∧
      (t.networkFSs = s.networkFSs ∨ ∃ new, t.networkFSs = s.networkFSs.put new ∧
        ((∃ fs, op = .updateNetworkFS fs ∧ new.desiredState = fs.desiredState) ∧
            s.networkFSs.get (new.ns, new.name) ≠ none ∨
          new.ns = harvesterNS ∧ s.networkFSs.get (new.ns, new.name) = none)) := by
  rcases h with h | ⟨rfl, -⟩
  · obtain rfl := (congrArg Prod.snd h).symm
    cases op <;> first | exact hop.elim | exact ⟨rfl, rfl, .inl rfl⟩ | skip
    all_goals
      dsimp only [Cluster.serve, Cluster.setNetworkFS, Cluster.setVM]
      (repeat' split) <;> first | exact ⟨rfl, rfl, .inl rfl⟩ | skip
    · rename_i hnone
      exact ⟨rfl, rfl, .inr ⟨_, rfl, .inr ⟨hop, hnone⟩⟩⟩
    · rename_i hsome _
      exact ⟨rfl, rfl, .inr ⟨_, rfl, .inl ⟨⟨_, rfl, rfl⟩, by simp [hsome]⟩⟩⟩
  · exact ⟨rfl, rfl, .inl rfl⟩

section
variable {v : SharedVolume} {cs : ControllerServer}

theorem ShareOp.stored (hop : ShareOp op) (h : Answers op s r t) (hs : v.Stored cs s) :
    v.Stored cs t := by
  obtain ⟨hpvcs, hscs, hfs⟩ := hop.effect h
  refine ⟨hpvcs ▸ hs.claim, hscs ▸ hs.storageClass, ?_⟩
  rcases hfs with hsame | ⟨new, hput, ⟨-, hsome⟩ | ⟨hns, -⟩⟩
  · rw [hsame]
    exact hs.named
  · rw [hput, Store.get_put, if_neg]
    · exact hs.named
    · intro hkey
      exact hsome (hkey ▸ hs.named)
  · rw [hput, Store.get_put, if_neg]
    · exact hs.named
    · intro hkey
      rw [Prod.mk.injEq, hns] at hkey
      exact absurd hkey.1 (by decide)

theorem ShareOp.enabled (hop : ShareOp op) (h : Answers op s r t)
    (hupdate : ∀ fs, op = .updateNetworkFS fs → fs.desiredState = .enabled) (hs : v.Enabled s) :
    v.Enabled t := by
  obtain ⟨fs, hget, hdesired⟩ := hs
  rcases (hop.effect h).2.2 with hsame | ⟨new, hput, hnew⟩
  · exact ⟨fs, hsame ▸ hget, hdesired⟩
  · by_cases hkey : (harvesterNS, v.volume) = (new.ns, new.name)
    · refine ⟨new, by rw [hput, Store.get_put, if_pos hkey], ?_⟩
      rcases hnew with ⟨⟨fs', hfs, hsame⟩, -⟩ | ⟨-, hnone⟩
      · exact hsame.trans (hupdate fs' hfs)
      · rw [← hkey, hget] at hnone
        cases hnone
    · exact ⟨fs, by rw [hput, Store.get_put, if_neg hkey, hget], hdesired⟩

-- ---------------------------------------------------------------------------
-- Publishing
-- ---------------------------------------------------------------------------

def SharedVolume.Keeps (v : SharedVolume) (cs : ControllerServer) (s t : Cluster) : Prop :=
  v.Stored cs s → v.Stored cs t

/-- A publish that returns leaves the export enabled, and never disables it. -/
def GoodPublish (v : SharedVolume) (op : Op) (_ : Cluster) (_ : op.Res) (t : Cluster)
    (rest : Api Unit) : Prop :=
  ShareOp op ∧ (∀ a, rest = .ok a → v.Enabled t) ∧
    ∀ fs, op = .updateNetworkFS fs → fs.desiredState = .enabled

abbrev SafePublish (v : SharedVolume) (cs : ControllerServer) : Api Unit → Cluster → Prop :=
  Safe (v.Keeps cs) Answers (fun op _ r _ _ => ReadsWell op r) (GoodPublish v)

theorem publishRWXVolume_safe (hvolume : pvc.volumeName = v.volume) (hs : v.Stored cs s) :
    SafePublish v cs (cs.publishRWXVolume pvc) s := by
  simp only [ControllerServer.publishRWXVolume, request_bind]
  intro s₁ r s₂ hmove hget hread
  obtain ⟨rfl, hfound⟩ := hget.getNetworkFS
  cases r with
  | ok fs =>
    have hfs := hfound fs rfl
    rw [hvolume] at hfs
    have hkey := Store.get_key hfs
    simp only [ControllerServer.publishRWXVolume.enable, request_bind]
    split
    · rename_i hskip
      exact ⟨⟨trivial, fun _ _ => ⟨fs, hfs, hskip.elim id hread⟩, by rintro _ ⟨⟩⟩, trivial⟩
    · refine ⟨⟨trivial, by rintro _ ⟨⟩, by rintro _ ⟨⟩⟩, ?_⟩
      intro s₃ r s₄ _ hupdate _
      cases r with
      | error e => exact ⟨⟨trivial, by rintro _ ⟨⟩, fun fs h => by cases h; rfl⟩, trivial⟩
      | ok res =>
        obtain ⟨-, new, hnew, hdesired⟩ := hupdate.updateNetworkFS_ok
        rw [show (fs.ns, fs.name) = _ from hkey] at hnew
        exact ⟨⟨trivial, fun _ _ => ⟨new, hnew, hdesired⟩, fun fs h => by cases h; rfl⟩, trivial⟩
  | error e =>
    dsimp only
    split
    · exact ⟨⟨trivial, by rintro _ ⟨⟩, by rintro _ ⟨⟩⟩, trivial⟩
    · split
      · -- whether or not an export is made, the call fails
        simp only [ControllerServer.createNetworkFilesystem, request_bind, call_orElse, call_bind]
        refine ⟨⟨trivial, by rintro _ ⟨⟩, by rintro _ ⟨⟩⟩, ?_⟩
        intro s₃ r s₄ _ _ _
        cases r with
        | ok res => exact ⟨⟨rfl, by rintro _ ⟨⟩, by rintro _ ⟨⟩⟩, trivial⟩
        | error e =>
          dsimp only
          split
          · exact ⟨⟨rfl, by rintro _ ⟨⟩, by rintro _ ⟨⟩⟩, trivial⟩
          · exact ⟨⟨rfl, by rintro _ ⟨⟩, by rintro _ ⟨⟩⟩, trivial⟩
      · -- the code goes on with an object that has no name, and no such object is there
        simp only [ControllerServer.publishRWXVolume.enable, request_bind]
        rw [if_neg (by decide)]
        refine ⟨⟨trivial, by rintro _ ⟨⟩, by rintro _ ⟨⟩⟩, ?_⟩
        intro s₃ r s₄ hmove' hupdate _
        cases r with
        | error e => exact ⟨⟨trivial, by rintro _ ⟨⟩, fun fs h => by cases h; rfl⟩, trivial⟩
        | ok res => exact absurd (hmove' (hmove hs)).named hupdate.updateNetworkFS_ok.1

theorem publish_safe (hs : v.Stored cs s) :
    SafePublish v cs
      (ShareCall.prog cs settleTicks attachTicks v (.publish node mount block)) s := by
  simp only [ShareCall.prog, ControllerServer.controllerPublishVolume, request_bind]
  split
  · trivial
  · intro s₁ r s₂ hmove hget _
    obtain ⟨rfl, hfound⟩ := hget.getPVC
    cases r with
    | error e => exact ⟨⟨trivial, by rintro _ ⟨⟩, by rintro _ ⟨⟩⟩, trivial⟩
    | ok pvc =>
      have hs := hmove hs
      obtain ⟨pvc', hget', hmode, hmodes, hvolume, hsc⟩ := hs.claim
      have hfound := hfound pvc rfl
      rw [hget'] at hfound
      cases hfound
      obtain ⟨k, hcall, hk⟩ := ControllerServer.isLHRWXVolume_shared cs hmode hmodes hsc
      dsimp only
      split
      · exact ⟨⟨trivial, by rintro _ ⟨⟩, by rintro _ ⟨⟩⟩, trivial⟩
      · rw [if_pos (by rfl), hcall, call_bind]
        refine ⟨⟨trivial, by rintro _ ⟨⟩, by rintro _ ⟨⟩⟩, ?_⟩
        intro s₃ r s₄ hmove' hlookup hread
        obtain ⟨rfl, hfound⟩ := hlookup.getStorageClass
        have hs := hmove' hs
        cases r with
        | error e => exact hread.elim
        | ok sc =>
          obtain ⟨sc', hget', hprov⟩ := hs.storageClass
          have hfound := hfound sc rfl
          rw [hget'] at hfound
          cases hfound
          dsimp only
          rw [hk sc hprov]
          exact ⟨⟨trivial, by rintro _ ⟨⟩, by rintro _ ⟨⟩⟩, publishRWXVolume_safe hvolume hs⟩

-- ---------------------------------------------------------------------------
-- Unpublishing
-- ---------------------------------------------------------------------------

/-- An unpublish writes the export only after it found no pods, and ends there. -/
def GoodUnpublish (op : Op) (s : Cluster) (r : op.Res) (t : Cluster) (rest : Api Unit) : Prop :=
  ShareOp op ∧ (AtUpdate rest → NoPods op r) ∧
    ∀ fs, op = .updateNetworkFS fs → (∃ a, rest = .ok a) ∨ t = s

variable {rel : Cluster → Cluster → Prop}
  {may : (op : Op) → Cluster → op.Res → Cluster → Api Unit → Prop}

theorem disable_safe (pvc : PVC) (fs : NetworkFilesystem) (s : Cluster) :
    Safe rel Answers may GoodUnpublish (ControllerServer.unpublishRWXVolume.disable pvc fs) s := by
  simp only [ControllerServer.unpublishRWXVolume.disable, request_bind]
  intro s₁ r s₂ _ hupdate _
  cases r with
  | ok res => exact ⟨⟨trivial, by rintro ⟨⟩, fun _ _ => .inl ⟨_, rfl⟩⟩, trivial⟩
  | error e =>
    exact ⟨⟨trivial, by rintro ⟨⟩, fun _ _ => .inr hupdate.updateNetworkFS_error⟩, trivial⟩

theorem unpublishRWXVolume_safe (cs : ControllerServer) (pvc : PVC) (s : Cluster) :
    Safe rel Answers may GoodUnpublish (cs.unpublishRWXVolume pvc) s := by
  simp only [ControllerServer.unpublishRWXVolume, request_bind]
  intro s₁ r s₂ _ _ _
  cases r with
  | error e => exact ⟨⟨trivial, by rintro ⟨⟩, by rintro _ ⟨⟩⟩, trivial⟩
  | ok fs =>
    dsimp only
    split
    · exact ⟨⟨trivial, by rintro ⟨⟩, by rintro _ ⟨⟩⟩, trivial⟩
    · refine ⟨⟨trivial, by rintro ⟨⟩, by rintro _ ⟨⟩⟩, ?_⟩
      intro s₃ r s₄ _ _ _
      cases r with
      | error e => exact ⟨⟨trivial, by rintro ⟨⟩, by rintro _ ⟨⟩⟩, trivial⟩
      | ok pv =>
        dsimp only
        split
        · exact ⟨⟨trivial, by rintro ⟨⟩, by rintro _ ⟨⟩⟩, trivial⟩
        · refine ⟨⟨trivial, by rintro ⟨⟩, by rintro _ ⟨⟩⟩, ?_⟩
          intro s₅ r s₆ _ _ _
          rcases r with e | (_ | ⟨pod, pods⟩)
          · exact ⟨⟨trivial, fun _ => trivial, by rintro _ ⟨⟩⟩, disable_safe pvc fs s₆⟩
          · exact ⟨⟨trivial, fun _ => trivial, by rintro _ ⟨⟩⟩, disable_safe pvc fs s₆⟩
          · exact ⟨⟨trivial, by rintro ⟨⟩, by rintro _ ⟨⟩⟩, trivial⟩

theorem detachVolume_safe (nodeId volumeId : String) (s : Cluster) :
    Safe rel Answers may GoodUnpublish (cs.detachVolume nodeId volumeId) s := by
  refine Safe.of_uses ?_ (ControllerServer.detachVolume_uses cs nodeId volumeId) s
  intro op s r t rest hop hrest _
  refine ⟨?_, fun hat => ?_, fun fs h => ?_⟩
  · cases op <;> first | exact hop.elim | trivial
  · unfold AtUpdate at hat
    split at hat
    · exact hrest.1.elim
    · exact hat.elim
  · subst h
    exact hop.elim

theorem not_atUpdate_of_lookup {q : Api Bool} {f : Bool → Api Unit}
    (hq : q.Uses ControllerServer.LookupOp) (hf : ∀ b, ¬ AtUpdate (f b)) :
    ¬ AtUpdate (q >>= f) := by
  cases q with
  | ok b => exact hf b
  | error | panic => rintro ⟨⟩
  | call op k =>
    cases op <;> first | exact hq.1.elim | rintro ⟨⟩

theorem unpublish_safe (s : Cluster) :
    Safe rel Answers may GoodUnpublish
      (ShareCall.prog cs settleTicks attachTicks v (.unpublish node)) s := by
  simp only [ShareCall.prog, ControllerServer.controllerUnpublishVolume, request_bind]
  split
  · trivial
  · intro s₁ r s₂ _ _ _
    cases r with
    | error e => exact ⟨⟨trivial, by rintro ⟨⟩, by rintro _ ⟨⟩⟩, trivial⟩
    | ok pvc =>
      dsimp only
      split
      · exact ⟨⟨trivial, by rintro ⟨⟩, by rintro _ ⟨⟩⟩, trivial⟩
      · have hlookup := ControllerServer.isLHRWXVolume_uses cs pvc
        have hf (shared : Bool) : ¬ AtUpdate (if shared then cs.unpublishRWXVolume pvc
            else cs.detachVolume node v.claim) := by
          cases shared <;> rintro ⟨⟩
        refine ⟨⟨trivial, fun hat => (not_atUpdate_of_lookup hlookup hf hat).elim,
          by rintro _ ⟨⟩⟩, ?_⟩
        refine Safe.bind_of_uses ?_ ?_ hlookup s₂
        · intro op s r t q hop hq _
          refine ⟨?_, fun hat => (not_atUpdate_of_lookup hq hf hat).elim, fun fs h => ?_⟩
          · cases op <;> first | exact hop.elim | trivial
          · subst h
            exact hop.elim
        · intro shared s
          cases shared with
          | true => exact unpublishRWXVolume_safe cs pvc s
          | false => exact detachVolume_safe node v.claim s

end

-- ---------------------------------------------------------------------------
-- Runs
-- ---------------------------------------------------------------------------

section
variable {v : SharedVolume} {cs : ControllerServer} {calls : ι → ShareCall}

def GoodShare (v : SharedVolume) (calls : ι → ShareCall) (i : ι) :
    (op : Op) → Cluster → op.Res → Cluster → Api Unit → Prop :=
  match calls i with
  | .publish .. => GoodPublish v
  | .unpublish _ => GoodUnpublish

def MayShare (calls : ι → ShareCall) (i : ι) (op : Op) (_ : Cluster) (r : op.Res) (_ : Cluster)
    (_ : Api Unit) : Prop :=
  (calls i).isPublish = true → ReadsWell op r

theorem GoodShare.shareOp (h : GoodShare v calls i op s r t rest) : ShareOp op := by
  unfold GoodShare at h
  revert h
  cases calls i <;> exact And.left

theorem prog_safe (hs : v.Stored cs s) (i : ι) :
    Safe (v.Keeps cs) Answers (MayShare calls i) (GoodShare v calls i)
      ((calls i).prog cs settleTicks attachTicks v) s := by
  unfold MayShare GoodShare
  cases calls i with
  | publish node mount block =>
    simp only [ShareCall.isPublish, forall_const]
    exact publish_safe hs
  | unpublish node => exact unpublish_safe s

theorem share_good [DecidableEq ι] (hs : v.Stored cs s₀)
    (h : Reach (v.Moves cs) Answers (fun c e => e.All (Steady calls c))
      (shareCalls cs settleTicks attachTicks v calls s₀) c) :
    ∀ e ∈ c.history, e.All (GoodShare v calls) := by
  refine (h.good (fun _ _ _ h₁ h₂ h => h₂ (h₁ h)) (fun _ h => h) (fun _ _ h => h.stored)
    (fun _ _ _ _ _ _ ha hg => hg.shareOp.stored ha) ?_ (fun i => prog_safe hs i) rfl).2
  intro c e hsteady
  cases e with
  | env => trivial
  | call i op r s t rest =>
    intro hpublish
    simp only [Event.All, Steady] at hsteady
    cases hcall : calls i with
    | publish node mount block =>
      rw [hcall] at hsteady
      exact hsteady.1
    | unpublish node =>
      rw [hcall] at hpublish
      cases hpublish

/-- While a node is published the export is enabled, and whoever is about to
disable it does so for the only node that is. -/
def ShareInv (v : SharedVolume) (calls : ι → ShareCall) (c : CallPool ι) : Prop :=
  (∀ node, published calls c.history node → v.Enabled c.state) ∧
    ∀ j node, calls j = .unpublish node → AtUpdate (c.procs j) →
      ∀ other, published calls c.history other → other = node

theorem published_returned {e : CallEvent ι} (he : e.returned = some i) :
    published calls (e :: history) node =
      if (calls i).node = node then (calls i).isPublish else published calls history node := by
  simp only [published, he]

theorem published_running {rest : Api Unit} (hrest : ∀ a, rest ≠ .ok a) :
    published calls (.call i op r s t rest :: history) node = published calls history node := by
  cases rest with
  | ok a => exact absurd rfl (hrest a)
  | error | panic | call => rfl

theorem ShareInv.env {c : CallPool ι} (hinv : ShareInv v calls c) (hmove : v.Moves cs c.state s) :
    ShareInv v calls { c with state := s, history := .env c.state s :: c.history } := by
  refine ⟨fun node hpub => ?_, hinv.2⟩
  obtain ⟨fs, hget, hdesired⟩ := hinv.1 node hpub
  have hsame := hmove.desired
  rw [hget, Option.map_some, hdesired] at hsame
  exact Option.map_eq_some_iff.mp hsame

theorem ShareInv.publish [DecidableEq ι] {c : CallPool ι} (hinv : ShareInv v calls c)
    (hcall : calls i = .publish node mount block) (ha : Answers op c.state r s)
    (hsteady : Steady calls c i op c.state r s rest) (hgood : GoodPublish v op c.state r s rest) :
    ShareInv v calls
      { state := s, procs := Function.update c.procs i rest,
        history := .call i op r c.state s rest :: c.history } := by
  obtain ⟨hop, hreturns, hupdate⟩ := hgood
  simp only [Steady, hcall] at hsteady
  -- the unpublishes are where they were
  have hother {j : ι} {n : String} (hj : calls j = .unpublish n) :
      Function.update c.procs i rest j = c.procs j := by
    refine Function.update_of_ne ?_ _ _
    rintro rfl
    rw [hcall] at hj
    cases hj
  by_cases hok : ∃ a, rest = .ok a
  · obtain ⟨a, rfl⟩ := hok
    refine ⟨fun _ _ => hreturns a rfl, fun j n hj hat m hpub => ?_⟩
    rw [published_returned rfl, hcall] at hpub
    dsimp only at hat
    rw [hother hj] at hat
    split at hpub
    · rename_i hnode
      exact hnode.symm.trans (hsteady.2 ⟨a, rfl⟩ j n hj hat).symm
    · exact hinv.2 j n hj hat m hpub
  · have hrunning : ∀ a, rest ≠ .ok a := fun a h => hok ⟨a, h⟩
    refine ⟨fun m hpub => ?_, fun j n hj hat m hpub => ?_⟩
    · exact hop.enabled ha hupdate (hinv.1 m ((published_running hrunning).symm.trans hpub))
    · dsimp only at hat
      rw [hother hj] at hat
      exact hinv.2 j n hj hat m ((published_running hrunning).symm.trans hpub)

theorem ShareInv.unpublish [DecidableEq ι] {c : CallPool ι} (hinv : ShareInv v calls c)
    (hcall : calls i = .unpublish node) (hp : c.procs i = .call op k) (ha : Answers op c.state r s)
    (hsteady : Steady calls c i op c.state r s (k r)) (hgood : GoodUnpublish op c.state r s (k r)) :
    ShareInv v calls
      { state := s, procs := Function.update c.procs i (k r),
        history := .call i op r c.state s (k r) :: c.history } := by
  obtain ⟨hop, hpods, hends⟩ := hgood
  simp only [Steady, hcall] at hsteady
  -- an update is for the only node that is published
  have hkeeps {m : String} (hpub : published calls c.history m)
      (hm : ∀ fs, op = .updateNetworkFS fs → m ≠ node ∨ s = c.state) : v.Enabled s := by
    by_cases hfs : ∃ fs, op = .updateNetworkFS fs
    · obtain ⟨fs, rfl⟩ := hfs
      rcases hm fs rfl with hm | hm
      · have hat : AtUpdate (c.procs i) := by
          rw [hp]
          trivial
        exact absurd (hinv.2 i node hcall hat m hpub) hm
      · rw [hm]
        exact hinv.1 m hpub
    · exact hop.enabled ha (fun fs h => absurd ⟨fs, h⟩ hfs) (hinv.1 m hpub)
  by_cases hok : ∃ a, k r = .ok a
  · obtain ⟨a, hka⟩ := hok
    rw [hka]
    have hpub' {m : String}
        (hpub : published calls (.call i op r c.state s (.ok a) :: c.history) m) :
        m ≠ node ∧ published calls c.history m := by
      rw [published_returned rfl, hcall] at hpub
      split at hpub
      · cases hpub
      · rename_i hne
        exact ⟨fun h => hne h.symm, hpub⟩
    refine ⟨fun m hpub => hkeeps (hpub' hpub).2 fun _ _ => .inl (hpub' hpub).1, ?_⟩
    intro j n hj hat m hpub
    by_cases hji : j = i
    · subst hji
      simp only [Function.update_self] at hat
      exact hat.elim
    · simp only [Function.update_of_ne hji] at hat
      exact hinv.2 j n hj hat m (hpub' hpub).2
  · have hrunning : ∀ a, k r ≠ .ok a := fun a h => hok ⟨a, h⟩
    refine ⟨fun m hpub => hkeeps ((published_running hrunning).symm.trans hpub) ?_, ?_⟩
    · exact fun fs hfs => .inr ((hends fs hfs).resolve_left hok)
    · intro j n hj hat m hpub
      have hbefore := (published_running hrunning).symm.trans hpub
      by_cases hji : j = i
      · subst hji
        simp only [Function.update_self] at hat
        rw [hcall] at hj
        cases hj
        exact hsteady (hpods hat) m hbefore
      · simp only [Function.update_of_ne hji] at hat
        exact hinv.2 j n hj hat m hbefore

/-- In a run in which every call is steady, the export is enabled while any node
is published. -/
theorem enabled_while_published [DecidableEq ι] (hs : v.Stored cs s₀)
    (h : Reach (v.Moves cs) Answers (fun c e => e.All (Steady calls c))
      (shareCalls cs settleTicks attachTicks v calls s₀) c)
    (hpub : published calls c.history node) : v.Enabled c.state := by
  have hinv : ShareInv v calls c := by
    refine h.invariant (fun _ h => share_good hs h) ?_ (fun _ _ => ShareInv.env) ?_
    · exact ⟨by rintro _ ⟨⟩, by rintro _ _ _ _ _ ⟨⟩⟩
    · intro c i op k r s hinv hp ha hsteady hgood
      simp only [GoodShare] at hgood
      cases hcall : calls i with
      | publish node mount block =>
        rw [hcall] at hgood
        exact hinv.publish hcall ha hsteady hgood
      | unpublish node =>
        rw [hcall] at hgood
        exact hinv.unpublish hcall hp ha hsteady hgood
  exact hinv.1 node hpub

end

def exampleShare : SharedVolume := ⟨"v", "pvc-1", "longhorn"⟩

def shareCluster : Cluster :=
  { (Cluster.empty.setPVC
      { ns := "ns", name := "v", accessModes := [.readWriteMany], volumeMode := some .filesystem,
        storageClassName := some "longhorn", volumeName := "pvc-1", phase := .bound }).setNetworkFS
      { ns := harvesterNS, name := "pvc-1", networkFSName := "pvc-1", desiredState := .disabled,
        provisioner := lhName, state := .disabled } with
    storageClasses := Cluster.empty.storageClasses.put ⟨"longhorn", longhornProvisioner⟩
    guestPVs := Cluster.empty.guestPVs.put ⟨"v", some ("default", "claim")⟩ }

theorem shareCluster_stored : exampleShare.Stored exampleServer shareCluster where
  claim := ⟨_, rfl, rfl, by decide, rfl, rfl⟩
  storageClass := ⟨_, rfl, rfl⟩
  named := by decide

def twoNodesCalls : Fin 3 → ShareCall
  | 0 => .publish "n1" true false
  | 1 => .publish "n2" true false
  | 2 => .unpublish "n2"

/-- The storage class is found, the export is not being enabled, and pods run. -/
def calmAnswer : (op : Op) → op.Res → Bool
  | .getStorageClass _, .error _ => false
  | .getNetworkFS .., .ok fs => fs.state ≠ .enabling
  | .podsByIndex _, .ok [] | .podsByIndex _, .error _ => false
  | _, _ => true

theorem readsWell_of_calm {r : op.Res} (h : calmAnswer op r = true) : ReadsWell op r := by
  unfold ReadsWell
  split
  · cases h
  · exact fun henabling => absurd henabling (by simpa [calmAnswer] using h)
  · trivial

theorem not_noPods_of_calm {r : op.Res} (h : calmAnswer op r = true) : ¬ NoPods op r := by
  unfold NoPods
  split
  · exact id
  · next hpods =>
    rename_i r
    rcases r with e | (_ | ⟨pod, pods⟩)
    · cases h
    · cases h
    · exact absurd rfl (hpods pod pods)
  · exact id

def calmTurn (j : ι) (c : CallPool ι) (i : ι) : Bool :=
  c.next (fun op s => calmAnswer op (Cluster.serve op s).1) i &&
    match c.procs j with
    | .call (.updateNetworkFS _) _ => false
    | _ => true

theorem steady_of_calmTurn {c : CallPool (Fin 3)} (hp : c.procs i = .call op k)
    (h : calmTurn 2 c i = true) :
    Steady twoNodesCalls c i op c.state (Cluster.serve op c.state).1 (Cluster.serve op c.state).2
      (k (Cluster.serve op c.state).1) := by
  obtain ⟨hnext, hwrite⟩ := Bool.and_eq_true_iff.mp h
  have hcalm := Pool.next_call hp hnext
  have hbefore : ¬ AtUpdate (c.procs 2) := by
    intro hat
    unfold AtUpdate at hat
    split at hat
    · next hupdate => simp [hupdate] at hwrite
    · exact hat
  have hunpublish (j : Fin 3) (other) (hj : twoNodesCalls j = .unpublish other) : j = 2 := by
    unfold twoNodesCalls at hj
    split at hj
    · cases hj
    · cases hj
    · rfl
  unfold Steady
  split
  · refine ⟨readsWell_of_calm hcalm, fun _ j other hj hat => ?_⟩
    rw [hunpublish j other hj] at hat
    exact absurd hat hbefore
  · exact fun hpods => absurd hpods (not_noPods_of_calm hcalm)

def busyShareCluster : Cluster :=
  { shareCluster with guestPods := [⟨"default", "pod", true, ["claim"]⟩] }

/-- Two nodes are published, and one of them is unpublished while a pod runs on the other. -/
theorem enabled_while_published_on_two :
    let p := (shareCalls exampleServer 0 0 exampleShare twoNodesCalls busyShareCluster).turns
      Cluster.serve [0, 0, 1, 0, 0, 1, 1, 2, 2, 2, 2, 2]
    p.procs 2 = .ok () ∧ published twoNodesCalls p.history "n1" ∧ exampleShare.Enabled p.state := by
  intro p
  have hcalm (c : CallPool (Fin 3)) (i op k) (hp : c.procs i = .call op k)
      (h : calmTurn 2 c i = true) :=
    And.intro (Cluster.serve_answers op c.state) (steady_of_calmTurn hp h)
  have hreach : Reach (exampleShare.Moves exampleServer) Answers
      (fun c e => e.All (Steady twoNodesCalls c))
      (shareCalls exampleServer 0 0 exampleShare twoNodesCalls busyShareCluster) p :=
    Reach.start.turns_checked hcalm (by decide +kernel)
  have hpub : published twoNodesCalls p.history "n1" = true := by decide +kernel
  have hstored : exampleShare.Stored exampleServer busyShareCluster :=
    ⟨shareCluster_stored.claim, shareCluster_stored.storageClass, shareCluster_stored.named⟩
  exact ⟨rfl, hpub, enabled_while_published hstored hreach hpub⟩

/-- Two nodes are published, no pod runs yet, and one of them is unpublished: the
export is disabled under the other. -/
theorem disabled_while_published :
    let start := shareCalls exampleServer 0 0 exampleShare twoNodesCalls shareCluster
    let p := start.turns Cluster.serve [0, 0, 0, 0, 1, 1, 1, 2, 2, 2, 2, 2, 2]
    Reach (exampleShare.Moves exampleServer) Answers anyStep start p ∧
      exampleShare.Stored exampleServer start.state ∧
      published twoNodesCalls p.history "n1" ∧ ¬ exampleShare.Enabled p.state := by
  intro start p
  have hpub : published twoNodesCalls p.history "n1" = true := by decide +kernel
  have hdisabled : (p.state.networkFSs.get (harvesterNS, "pvc-1")).map (·.desiredState) =
      some .disabled := by decide +kernel
  refine ⟨Reach.start.turns Cluster.serve_answers _, shareCluster_stored, hpub, ?_⟩
  rintro ⟨fs, hget, hdesired⟩
  rw [show p.state.networkFSs.get (harvesterNS, "pvc-1") = some fs from hget, Option.map_some,
    hdesired] at hdisabled
  cases hdisabled

end HarvesterCSI
