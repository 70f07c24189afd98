import HarvesterCSI.Laws.Deletion

/-!
# Unpublishing a shared volume

Unpublishing disables the export of a shared volume unless a pod still uses it. The
pods are found through an index whose keys join a namespace and a claim name with a
dash.
-/

namespace HarvesterCSI

open Calls Calls.Prog
open Cluster (Answers)

-- ---------------------------------------------------------------------------
-- The pods of a claim
-- ---------------------------------------------------------------------------

def Cluster.InUse (s : Cluster) (ns claim : String) : Prop :=
  ∃ pod ∈ s.guestPods, pod.running = true ∧ pod.ns = ns ∧ claim ∈ pod.claims

def Cluster.Indexed (s : Cluster) (key : String) : Prop :=
  ∃ pod ∈ s.guestPods, pod.running = true ∧ ∃ claim ∈ pod.claims, pod.ns ++ "-" ++ claim = key

theorem Cluster.InUse.indexed {s : Cluster} (h : s.InUse ns claim) :
    s.Indexed (ns ++ "-" ++ claim) := by
  obtain ⟨pod, hpod, hrunning, rfl, hclaim⟩ := h
  exact ⟨pod, hpod, hrunning, claim, hclaim, rfl⟩

theorem mem_indexPodByPVCFunc {pod : Pod} : key ∈ indexPodByPVCFunc pod ↔
    pod.running = true ∧ ∃ claim ∈ pod.claims, pod.ns ++ "-" ++ claim = key := by
  cases hrunning : pod.running <;> simp [indexPodByPVCFunc, hrunning]

theorem Cluster.podsByIndex_eq_nil {s : Cluster} :
    s.guestPods.filter (fun pod => key ∈ indexPodByPVCFunc pod) = [] ↔ ¬ s.Indexed key := by
  simp [List.filter_eq_nil_iff, mem_indexPodByPVCFunc, Indexed]

-- ---------------------------------------------------------------------------
-- The call alone
-- ---------------------------------------------------------------------------

section
variable (cs : ControllerServer) {pvc : PVC} {fs : NetworkFilesystem} {pv : PersistentVolume}
    {s : Cluster}

theorem run_unpublishRWX_absent (h : s.networkFSs.get (harvesterNS, pvc.volumeName) = none) :
    ∃ msg, run Cluster.serve (cs.unpublishRWXVolume pvc) s =
      (.error (.status .internal msg), s) := by
  simp [ControllerServer.unpublishRWXVolume, Cluster.serve, h]

theorem run_unpublishRWX_idle (hfs : s.networkFSs.get (harvesterNS, pvc.volumeName) = some fs)
    (hidle : fs.desiredState = .disabled ∨ fs.state = .disabling) :
    run Cluster.serve (cs.unpublishRWXVolume pvc) s = (.ok (), s) := by
  simp [ControllerServer.unpublishRWXVolume, Cluster.serve, hfs, hidle]

theorem run_unpublishRWX_used (hfs : s.networkFSs.get (harvesterNS, pvc.volumeName) = some fs)
    (hpv : s.guestPVs.get pvc.name = some pv) (href : pv.claimRef = some (ns, claim))
    (hpods : s.Indexed (ns ++ "-" ++ claim)) :
    run Cluster.serve (cs.unpublishRWXVolume pvc) s = (.ok (), s) := by
  by_cases hidle : fs.desiredState = .disabled ∨ fs.state = .disabling
  · exact run_unpublishRWX_idle cs hfs hidle
  · have hne := mt Cluster.podsByIndex_eq_nil.mp (not_not.mpr hpods)
    obtain ⟨pod, pods, hlist⟩ := List.exists_cons_of_ne_nil hne
    simp [ControllerServer.unpublishRWXVolume, Cluster.serve, hfs, hidle, hpv, href, hlist]

theorem run_unpublishRWX_disables (hfs : s.networkFSs.get (harvesterNS, pvc.volumeName) = some fs)
    (hidle : ¬ (fs.desiredState = .disabled ∨ fs.state = .disabling))
    (hpv : s.guestPVs.get pvc.name = some pv) (href : pv.claimRef = some (ns, claim))
    (hpods : ¬ s.Indexed (ns ++ "-" ++ claim)) :
    run Cluster.serve (cs.unpublishRWXVolume pvc) s =
      (.ok (), s.setNetworkFS { fs with desiredState := .disabled }) := by
  have hlist := Cluster.podsByIndex_eq_nil.mpr hpods
  have hkey := Store.get_key hfs
  simp [ControllerServer.unpublishRWXVolume, ControllerServer.unpublishRWXVolume.disable,
    Cluster.serve, hfs, hidle, hpv, href, hlist, hkey]

end

/-- The export is left as it is exactly if the claim is in use, and disabled otherwise. -/
def UseDecides (cs : ControllerServer) (pvc : PVC) (fs : NetworkFilesystem) (ns claim : String)
    (s : Cluster) : Prop :=
  ∃ t new, run Cluster.serve (cs.unpublishRWXVolume pvc) s = (.ok (), t) ∧
    t.networkFSs.get (harvesterNS, pvc.volumeName) = some new ∧
    (new.desiredState = fs.desiredState ↔ s.InUse ns claim) ∧
    (¬ s.InUse ns claim → new.desiredState = .disabled)

/-- The check of the pods is exact as long as what is found under the key of the claim
is not only pods of other claims. -/
theorem use_decides_iff {cs : ControllerServer} {pvc : PVC} {fs : NetworkFilesystem}
    {pv : PersistentVolume} {ns claim : String} {s : Cluster}
    (hfs : s.networkFSs.get (harvesterNS, pvc.volumeName) = some fs)
    (henabled : fs.desiredState = .enabled) (hstate : fs.state ≠ .disabling)
    (hpv : s.guestPVs.get pvc.name = some pv) (href : pv.claimRef = some (ns, claim)) :
    UseDecides cs pvc fs ns claim s ↔ (s.Indexed (ns ++ "-" ++ claim) → s.InUse ns claim) := by
  by_cases hpods : s.Indexed (ns ++ "-" ++ claim)
  · have hrun := run_unpublishRWX_used cs hfs hpv href hpods
    constructor
    · rintro ⟨t, new, hrun', hnew, hdecides, -⟩ _
      cases hrun.symm.trans hrun'
      rw [hfs] at hnew
      cases hnew
      exact hdecides.mp rfl
    · intro h
      have huse := h hpods
      exact ⟨s, fs, hrun, hfs, by simp [huse], fun hnot => absurd huse hnot⟩
  · have huse : ¬ s.InUse ns claim := mt Cluster.InUse.indexed hpods
    have hidle : ¬ (fs.desiredState = .disabled ∨ fs.state = .disabling) := by
      simp [henabled, hstate]
    have hkey := Store.get_key hfs
    have hnew := Cluster.get_setNetworkFS s { fs with desiredState := .disabled }
    rw [show (fs.ns, fs.name) = _ from hkey] at hnew
    refine ⟨fun _ h => absurd h hpods, fun _ => ?_⟩
    exact ⟨_, _, run_unpublishRWX_disables cs hfs hidle hpv href hpods, hnew, by simp [henabled,
      huse], fun _ => rfl⟩

def usedClaim : PVC where
  ns := "ns"
  name := "v"
  volumeName := "pvc-1"

def usedExport : NetworkFilesystem where
  ns := harvesterNS
  name := "pvc-1"
  resourceVersion := 1
  networkFSName := "pvc-1"
  desiredState := .enabled
  provisioner := lhName
  state := .enabled

def useCluster (ns claim : String) (pods : List Pod) : Cluster :=
  { Cluster.empty with
    rev := 1
    networkFSs := Cluster.empty.networkFSs.put usedExport
    guestPVs := Cluster.empty.guestPVs.put ⟨"v", some (ns, claim)⟩
    guestPods := pods }

theorem use_decides_mounted :
    UseDecides exampleServer usedClaim usedExport "default" "claim"
      (useCluster "default" "claim" [⟨"default", "pod", true, ["claim"]⟩]) := by
  have hpv : (useCluster "default" "claim" [⟨"default", "pod", true, ["claim"]⟩]).guestPVs.get "v" =
      some ⟨"v", some ("default", "claim")⟩ := rfl
  refine (use_decides_iff rfl rfl (by decide) hpv rfl).mpr fun _ => ?_
  exact ⟨_, List.mem_cons_self, rfl, rfl, List.mem_cons_self⟩

/-- The claim `b-c` of namespace `a` and the claim `c` of namespace `a-b` have the same
key. -/
theorem other_claim_keeps_export :
    let s := useCluster "a" "b-c" [⟨"a-b", "pod", true, ["c"]⟩]
    ¬ s.InUse "a" "b-c" ∧
      run Cluster.serve (exampleServer.unpublishRWXVolume usedClaim) s = (.ok (), s) ∧
      ¬ UseDecides exampleServer usedClaim usedExport "a" "b-c" s := by
  intro s
  have huse : ¬ s.InUse "a" "b-c" := by
    rintro ⟨pod, hpod, -, hns, -⟩
    cases List.mem_singleton.mp hpod
    exact absurd hns (by decide)
  have hrun : run Cluster.serve (exampleServer.unpublishRWXVolume usedClaim) s = (.ok (), s) := rfl
  refine ⟨huse, hrun, ?_⟩
  rintro ⟨t, new, hrun', hnew, hdecides, -⟩
  cases hrun.symm.trans hrun'
  cases hnew
  exact huse (hdecides.mp rfl)

-- ---------------------------------------------------------------------------
-- Unpublishing beside deletions
-- ---------------------------------------------------------------------------

inductive VolumeCall
  | unpublish (node : String)
  | delete
  deriving DecidableEq

def VolumeCall.prog (cs : ControllerServer) (v : SharedVolume) : VolumeCall → Api Unit
  | .unpublish node => cs.controllerUnpublishVolume ⟨v.claim, node⟩
  | .delete => cs.deleteVolume v.claim

def volumeCalls (cs : ControllerServer) (v : SharedVolume) (calls : ι → VolumeCall) (s₀ : Cluster) :
    CallPool ι where
  state := s₀
  procs := fun i => (calls i).prog cs v

namespace SharedVolume

structure IsClaim (v : SharedVolume) (pvc : PVC) : Prop where
  name : pvc.name = v.claim
  filesystem : pvc.volumeMode = some .filesystem
  shared : .readWriteMany ∈ pvc.accessModes
  volume : pvc.volumeName = v.volume
  onClass : pvc.storageClassName = some v.sc

/-- The claim, as long as there is one, is that of the shared volume; its storage class
is there, and the guest has `pv` for it. -/
structure Held (v : SharedVolume) (cs : ControllerServer) (pv : Option PersistentVolume)
    (s : Cluster) : Prop where
  claim : ∀ pvc, s.pvcs.get (cs.ns, v.claim) = some pvc → v.IsClaim pvc
  storageClass : ∃ sc, s.storageClasses.get v.sc = some sc ∧ sc.provisioner = longhornProvisioner
  guestPV : s.guestPVs.get v.claim = pv

/-- What others do: anything that leaves the volume what it is. The export may go. -/
def Leaves (v : SharedVolume) (cs : ControllerServer) (pv : Option PersistentVolume)
    (s t : Cluster) : Prop :=
  v.Held cs pv s → v.Held cs pv t

def Bound (v : SharedVolume) (cs : ControllerServer) (s : Cluster) : Prop :=
  ∃ pvc, s.pvcs.get (cs.ns, v.claim) = some pvc ∧ pvc.phase = .bound

end SharedVolume

def PodsFound (pv : Option PersistentVolume) (s : Cluster) : Prop :=
  ∃ p ns claim, pv = some p ∧ p.claimRef = some (ns, claim) ∧ s.Indexed (ns ++ "-" ++ claim)

namespace SharedVolume

/-- What an unpublish that returned leaves behind: an export, if there is one, that is
disabled, or that pods are found for. -/
def Settled (v : SharedVolume) (pv : Option PersistentVolume) (s : Cluster) : Prop :=
  ∀ fs, s.networkFSs.get (harvesterNS, v.volume) = some fs →
    (fs.desiredState = .disabled ∨ fs.state = .disabling) ∨ PodsFound pv s

/-- Of the export others do no more than remove it, and they end no pod that is found. -/
structure Removes (v : SharedVolume) (cs : ControllerServer) (pv : Option PersistentVolume)
    (s t : Cluster) : Prop where
  leaves : v.Leaves cs pv s t
  exports : t.networkFSs.get (harvesterNS, v.volume) = none ∨
    t.networkFSs.get (harvesterNS, v.volume) = s.networkFSs.get (harvesterNS, v.volume)
  pods : PodsFound pv s → PodsFound pv t

def FindsExport (v : SharedVolume) (op : Op) (s : Cluster) : Prop :=
  op = .getNetworkFS harvesterNS v.volume → s.networkFSs.get (harvesterNS, v.volume) ≠ none

end SharedVolume

def ClassRead : (op : Op) → op.Res → Prop
  | .getStorageClass _, .error _ => False
  | _, _ => True

def GoesOn : Api Unit → Prop
  | .ok _ | .call .. => True
  | .error _ | .panic => False

instance : DecidablePred GoesOn := fun p =>
  match p with
  | .ok _ | .call .. => isTrue trivial
  | .error _ | .panic => isFalse id

namespace SharedVolume
variable [DecidableEq ι]

/-- The runs of unpublishes and deletions of a volume in which storage classes can be
read. Any other call may fail, before or after it was carried out. -/
abbrev Run (v : SharedVolume) (cs : ControllerServer) (pv : Option PersistentVolume)
    (calls : ι → VolumeCall) (s₀ : Cluster) (c : CallPool ι) : Prop :=
  Reach (v.Leaves cs pv) Wavers (fun _ e => e.All fun _ op _ r _ _ => ClassRead op r)
    (volumeCalls cs v calls s₀) c

/-- How a run goes on from `c₁`, with a record of its own. No call of `j` fails, and the
claim is there and bound at each of them. -/
abbrev RunSince (v : SharedVolume) (cs : ControllerServer) (pv : Option PersistentVolume) (j : ι)
    (c₁ c₂ : CallPool ι) : Prop :=
  Reach (v.Removes cs pv) Wavers
    (fun _ e => e.All fun i op s r t _ => i = j → Cluster.serve op s = (r, t) ∧ v.Bound cs s)
    { c₁ with history := [] } c₂

omit [DecidableEq ι]

/-- The last step was the return of an unpublish, and no Running pod uses the volume. -/
def JustUnpublished (v : SharedVolume) (calls : ι → VolumeCall) (c : CallPool ι) : Prop :=
  ∃ i node op r s t earlier, calls i = .unpublish node ∧
    c.history = .call i op r s t (.ok ()) :: earlier ∧
    ∀ pv ns claim, c.state.guestPVs.get v.claim = some pv → pv.claimRef = some (ns, claim) →
      ¬ c.state.InUse ns claim

/-- The unpublish `j` is issued where the export is gone, or right after another one. -/
structure Issued (v : SharedVolume) (cs : ControllerServer) (calls : ι → VolumeCall) (j : ι)
    (c : CallPool ι) : Prop where
  call : ∃ node, c.procs j = cs.controllerUnpublishVolume ⟨v.claim, node⟩
  when : c.state.networkFSs.get (harvesterNS, v.volume) = none ∨ v.JustUnpublished calls c

structure NoOp (j : ι) (c : CallPool ι) : Prop where
  returns : GoesOn (c.procs j)
  unchanged : ∀ e ∈ c.history, e.All fun i _ s _ t _ => i = j → t = s

end SharedVolume

-- ---------------------------------------------------------------------------
-- What the calls do to the volume
-- ---------------------------------------------------------------------------

def TurnsOff : Op → Prop
  | .createPVC _ | .updatePVC _ | .createNetworkFS _ => False
  | .updateNetworkFS fs => fs.desiredState = .disabled
  | _ => True

structure Dwindles (s t : Cluster) : Prop where
  claims : ∀ key pvc, t.pvcs.get key = some pvc → s.pvcs.get key = some pvc
  exports : ∀ key new, t.networkFSs.get key = some new →
    new.desiredState = .disabled ∨ s.networkFSs.get key = some new
  storageClasses : t.storageClasses = s.storageClasses
  guestPVs : t.guestPVs = s.guestPVs
  guestPods : t.guestPods = s.guestPods

theorem Dwindles.refl (s : Cluster) : Dwindles s s :=
  ⟨fun _ _ => id, fun _ _ => .inr, rfl, rfl, rfl⟩

theorem TurnsOff.dwindles (hop : TurnsOff op) (h : Wavers op s r t) : Dwindles s t := by
  rcases h.state with rfl | rfl
  · exact .refl t
  cases op <;> first | exact hop.elim | exact .refl s | skip
  all_goals
    dsimp only [Cluster.serve, Cluster.setNetworkFS, Cluster.setVM, Cluster.setNode]
    (repeat' split) <;> first | exact ⟨fun _ _ => id, fun _ _ => .inr, rfl, rfl, rfl⟩ | skip
  · refine ⟨fun key pvc hget => ?_, fun _ _ => .inr, rfl, rfl, rfl⟩
    rw [Store.get_erase] at hget
    split at hget
    · cases hget
    · exact hget
  · refine ⟨fun _ _ => id, fun key new hget => ?_, rfl, rfl, rfl⟩
    rw [Store.get_put] at hget
    split at hget
    · cases hget
      exact .inl hop
    · exact .inr hget
  · refine ⟨fun _ _ => id, fun key new hget => ?_, rfl, rfl, rfl⟩
    rw [Store.get_erase] at hget
    split at hget
    · cases hget
    · exact .inr hget

section
variable {v : SharedVolume} {cs : ControllerServer} {pv : Option PersistentVolume} {s t : Cluster}
    {pvc : PVC}

theorem Dwindles.leaves (h : Dwindles s t) : v.Leaves cs pv s t := fun hs =>
  ⟨fun pvc hpvc => hs.claim pvc (h.claims _ _ hpvc), h.storageClasses ▸ hs.storageClass,
    h.guestPVs ▸ hs.guestPV⟩

/-- Once an export is settled, calls and removals leave it so. -/
structure SharedVolume.Calms (v : SharedVolume) (cs : ControllerServer)
    (pv : Option PersistentVolume) (s t : Cluster) : Prop where
  leaves : v.Leaves cs pv s t
  settled : v.Settled pv s → v.Settled pv t
  pods : PodsFound pv s → PodsFound pv t

theorem SharedVolume.Calms.trans (h : v.Calms cs pv s t) (h' : v.Calms cs pv t u) :
    v.Calms cs pv s u :=
  ⟨fun hs => h'.leaves (h.leaves hs), fun hs => h'.settled (h.settled hs),
    fun hs => h'.pods (h.pods hs)⟩

theorem Dwindles.calms (h : Dwindles s t) : v.Calms cs pv s t := by
  have hpods : PodsFound pv s → PodsFound pv t := by
    rintro ⟨p, ns, claim, hp, href, pod, hpod, hrest⟩
    exact ⟨p, ns, claim, hp, href, pod, h.guestPods ▸ hpod, hrest⟩
  refine ⟨h.leaves, fun hs fs hfs => ?_, hpods⟩
  rcases h.exports _ fs hfs with hoff | hsame
  · exact .inl (.inl hoff)
  · exact (hs fs hsame).imp_right hpods

theorem SharedVolume.Removes.calms (h : v.Removes cs pv s t) : v.Calms cs pv s t := by
  refine ⟨h.leaves, fun hs fs hfs => ?_, h.pods⟩
  rcases h.exports with hgone | hsame
  · cases hgone.symm.trans hfs
  · exact (hs fs (hsame ▸ hfs)).imp_right h.pods

end

-- ---------------------------------------------------------------------------
-- Which calls they make
-- ---------------------------------------------------------------------------

namespace ControllerServer

theorem LookupOp.turnsOff (op : Op) (hop : LookupOp op) : TurnsOff op := by
  cases op <;> first | exact hop.elim | trivial

theorem DisableOp.turnsOff (op : Op) (hop : DisableOp op) : TurnsOff op := by
  cases op <;> first | exact hop.elim | exact hop

theorem DetachOp.turnsOff (op : Op) (hop : DetachOp volumeID op) : TurnsOff op := by
  cases op <;> first | exact hop.elim | trivial

theorem deleteClaim_uses (cs : ControllerServer) (volumeId : String) :
    (cs.deleteClaim volumeId).Uses TurnsOff := by
  refine ⟨trivial, fun r => ?_⟩
  cases r with
  | ok _ => trivial
  | error e =>
    dsimp only
    split <;> trivial

theorem deleteExport_uses (volumeName : String) :
    (deleteVolume.deleteExport volumeName).Uses TurnsOff := by
  refine Uses.request trivial fun r => ?_
  cases r with
  | error e =>
    dsimp only
    split <;> trivial
  | ok fs =>
    refine Uses.request trivial fun r => ?_
    cases r <;> trivial

theorem deleteHostPVC_uses (cs : ControllerServer) (volumeId : String) :
    (cs.deleteHostPVC volumeId).Uses TurnsOff := by
  refine ⟨trivial, fun r => ?_⟩
  cases r with
  | error e =>
    dsimp only
    split <;> trivial
  | ok pvc =>
    refine ((isLHRWXVolume_uses cs pvc).mono LookupOp.turnsOff).bind fun shared => ?_
    split
    · exact (deleteExport_uses _).bind fun _ => deleteClaim_uses cs volumeId
    · exact deleteClaim_uses cs volumeId

theorem deleteVolume_uses (cs : ControllerServer) (hid : volumeId ≠ "") :
    (cs.deleteVolume volumeId).Uses TurnsOff := by
  rw [cs.deleteVolume_eq hid]
  refine Uses.bind (Uses.request trivial fun r => ?_) fun deleted => ?_
  · cases r with
    | error e =>
      dsimp only
      split <;> trivial
    | ok vrr =>
      refine Uses.request trivial fun r => ?_
      cases r <;> trivial
  · split
    · trivial
    · exact deleteHostPVC_uses cs volumeId

theorem controllerUnpublishVolume_uses (cs : ControllerServer) (req : UnpublishRequest) :
    (cs.controllerUnpublishVolume req).Uses TurnsOff := by
  unfold controllerUnpublishVolume
  split
  · trivial
  · refine Uses.request trivial fun r => ?_
    cases r with
    | error e => trivial
    | ok pvc =>
      dsimp only
      split
      · trivial
      · refine ((isLHRWXVolume_uses cs pvc).mono LookupOp.turnsOff).bind fun shared => ?_
        split
        · exact (unpublishRWXVolume_uses cs pvc).mono DisableOp.turnsOff
        · exact (detachVolume_uses cs _ _).mono DetachOp.turnsOff

end ControllerServer

theorem VolumeCall.prog_uses (cs : ControllerServer) {v : SharedVolume} (hid : v.claim ≠ "")
    (call : VolumeCall) : (call.prog cs v).Uses TurnsOff := by
  cases call with
  | unpublish node => exact cs.controllerUnpublishVolume_uses _
  | delete => exact cs.deleteVolume_uses hid

-- ---------------------------------------------------------------------------
-- An unpublish that returns
-- ---------------------------------------------------------------------------

section
variable {v : SharedVolume} {cs : ControllerServer} {pv : Option PersistentVolume} {s t : Cluster}
    {pvc : PVC}

abbrev Settles (v : SharedVolume) (cs : ControllerServer) (pv : Option PersistentVolume) :
    Api Unit → Cluster → Prop :=
  Safe (v.Leaves cs pv) Wavers (fun op _ r _ _ => ClassRead op r)
    fun _ _ _ t rest => ∀ a, rest = .ok a → v.Settled pv t

theorem disable_settles (cs : ControllerServer) (pv : Option PersistentVolume) (pvc : PVC)
    (hkey : (fs.ns, fs.name) = (harvesterNS, v.volume)) (s : Cluster) :
    Settles v cs pv (ControllerServer.unpublishRWXVolume.disable pvc fs) s := by
  simp only [ControllerServer.unpublishRWXVolume.disable, request_bind]
  intro s₁ r s₂ _ hupdate _
  cases r with
  | error e => exact ⟨by rintro _ ⟨⟩, trivial⟩
  | ok res =>
    obtain ⟨-, new, hnew, hdesired⟩ := Cluster.Answers.updateNetworkFS_ok (.inl hupdate.served)
    rw [show ((fs.ns, fs.name) : Key) = _ from hkey] at hnew
    refine ⟨fun _ _ fs' hfs' => ?_, trivial⟩
    cases hnew.symm.trans hfs'
    exact .inl (.inl hdesired)

theorem unpublishRWXVolume_settles (hpvc : v.IsClaim pvc) (hs : v.Held cs pv s) :
    Settles v cs pv (cs.unpublishRWXVolume pvc) s := by
  simp only [ControllerServer.unpublishRWXVolume, request_bind]
  intro s₁ r s₂ hmove hget _
  have hs := hmove hs
  obtain ⟨rfl, hfound⟩ := (hget.answers rfl).getNetworkFS
  cases r with
  | error e => exact ⟨by rintro _ ⟨⟩, trivial⟩
  | ok fs =>
    have hfs := hfound fs rfl
    rw [hpvc.volume] at hfs
    have hkey := Store.get_key hfs
    dsimp only
    split
    · rename_i hidle
      refine ⟨fun _ _ fs' hfs' => ?_, trivial⟩
      cases hfs.symm.trans hfs'
      exact .inl hidle
    · refine ⟨by rintro _ ⟨⟩, ?_⟩
      intro s₃ r s₄ hmove hread _
      have hs := hmove hs
      cases r with
      | error e => exact ⟨by rintro _ ⟨⟩, trivial⟩
      | ok p =>
        obtain ⟨hp, rfl⟩ := Prod.mk.inj hread.served
        rw [found_eq_ok, hpvc.name, hs.guestPV] at hp
        dsimp only
        split
        · exact ⟨by rintro _ ⟨⟩, trivial⟩
        · rename_i ns claim href
          refine ⟨by rintro _ ⟨⟩, ?_⟩
          intro s₅ r s₆ _ hpods _
          have hdisable := disable_settles cs pv pvc hkey s₆
          rcases r with e | (_ | ⟨pod, pods⟩)
          · exact ⟨by rintro _ ⟨⟩, hdisable⟩
          · exact ⟨by rintro _ ⟨⟩, hdisable⟩
          · obtain ⟨hlist, rfl⟩ := Prod.mk.inj hpods.served
            refine ⟨fun _ _ fs' _ => .inr ⟨p, ns, claim, hp, href, ?_⟩, trivial⟩
            by_contra hnone
            rw [Cluster.podsByIndex_eq_nil.mpr hnone] at hlist
            cases hlist

theorem unpublish_settles (hs : v.Held cs pv s) :
    Settles v cs pv (cs.controllerUnpublishVolume ⟨v.claim, node⟩) s := by
  simp only [ControllerServer.controllerUnpublishVolume, request_bind]
  split
  · trivial
  · intro s₁ r s₂ hmove hget _
    have hs := hmove hs
    obtain ⟨rfl, hfound⟩ := (hget.answers rfl).getPVC
    cases r with
    | error e => exact ⟨by rintro _ ⟨⟩, trivial⟩
    | ok pvc =>
      have hpvc := hs.claim pvc (hfound pvc rfl)
      dsimp only
      split
      · exact ⟨by rintro _ ⟨⟩, trivial⟩
      · obtain ⟨k, hcall, hk⟩ :=
          ControllerServer.isLHRWXVolume_shared cs hpvc.filesystem hpvc.shared hpvc.onClass
        rw [hcall, call_bind]
        refine ⟨by rintro _ ⟨⟩, ?_⟩
        intro s₃ r s₄ hmove hlookup hread
        have hs := hmove hs
        obtain ⟨rfl, hfound⟩ := (hlookup.answers rfl).getStorageClass
        cases r with
        | error e => exact hread.elim
        | ok sc =>
          obtain ⟨sc', hsc', hprov⟩ := hs.storageClass
          cases hsc'.symm.trans (hfound sc rfl)
          dsimp only
          rw [hk sc hprov, ok_bind, if_pos rfl]
          refine ⟨?_, unpublishRWXVolume_settles hpvc hs⟩
          intro a ha
          simp [ControllerServer.unpublishRWXVolume] at ha

variable [DecidableEq ι] {calls : ι → VolumeCall} {s₀ : Cluster} {c : CallPool ι}

theorem SharedVolume.Run.settled (hid : v.claim ≠ "") (hs : v.Held cs pv s₀)
    (h : v.Run cs pv calls s₀ c) (hlast : c.history = .call i op r s t (.ok ()) :: earlier)
    (hcall : calls i = .unpublish node) :
    v.Settled pv c.state := by
  have hsafe (i) : Safe (v.Leaves cs pv) Wavers (fun op _ r _ _ => ClassRead op r)
      (fun op _ _ t rest => TurnsOff op ∧
        ∀ node, calls i = .unpublish node → ∀ a, rest = .ok a → v.Settled pv t)
      ((calls i).prog cs v) s₀ := by
    refine Safe.and_uses ?_ ((calls i).prog_uses cs hid)
    cases hcall : calls i with
    | unpublish node => exact (unpublish_settles hs).mono fun _ _ _ _ _ hgood _ _ => hgood
    | delete =>
      exact Safe.of_uses (fun _ _ _ _ _ _ _ _ _ h => by cases h) (cs.deleteVolume_uses hid) s₀
  have hgood := (Reach.good (fun _ _ _ h₁ h₂ hs => h₂ (h₁ hs)) (fun _ => id) (fun _ _ => id)
    (fun i op s r t rest hanswer hgood => (hgood.1.dwindles hanswer).leaves)
    (fun _ _ => id) hsafe rfl h).2 _ (hlast ▸ List.mem_cons_self)
  rw [h.after_call rfl hlast]
  exact hgood.2 node hcall () rfl

theorem SharedVolume.Run.held (hid : v.claim ≠ "") (hs : v.Held cs pv s₀)
    (h : v.Run cs pv calls s₀ c) :
    v.Held cs pv c.state := by
  induction h with
  | start => exact hs
  | env _ hmove ih => exact hmove ih
  | @call c i op k r t hc hp hanswer _ ih =>
    have huses := hc.uses ((calls i).prog_uses cs hid)
    rw [hp] at huses
    exact (huses.1.dwindles hanswer).leaves ih

end

-- ---------------------------------------------------------------------------
-- The unpublish after it
-- ---------------------------------------------------------------------------

section
variable {v : SharedVolume} {cs : ControllerServer} {pv : Option PersistentVolume} {s : Cluster}
    {pvc : PVC}

/-- Where it is settled, a call that does not fail changes nothing, and goes on as long as
it finds the export. -/
abbrev Idles (v : SharedVolume) (cs : ControllerServer) (pv : Option PersistentVolume) :
    Api Unit → Cluster → Prop :=
  Safe (v.Calms cs pv) Wavers (fun op s r t _ => Cluster.serve op s = (r, t) ∧ v.Bound cs s)
    fun op s _ t rest => t = s ∧ (GoesOn rest ↔ v.FindsExport op s)

theorem unpublishRWXVolume_idles (hpvc : v.IsClaim pvc) (hs : v.Held cs pv s)
    (hsettled : v.Settled pv s) :
    Idles v cs pv (cs.unpublishRWXVolume pvc) s := by
  have hvolume := hpvc.volume
  simp only [ControllerServer.unpublishRWXVolume, request_bind]
  rintro s₁ r s₂ hmove - ⟨hserve, -⟩
  have hs := hmove.leaves hs
  have hsettled := hmove.settled hsettled
  obtain ⟨rfl, rfl⟩ := Prod.mk.inj hserve
  cases hfs : s₁.networkFSs.get (harvesterNS, v.volume) with
  | none =>
    simp only [hvolume, hfs, found_none]
    exact ⟨⟨trivial, iff_of_false id fun h => h (hvolume ▸ rfl) hfs⟩, trivial⟩
  | some fs =>
    have hfinds : v.FindsExport (.getNetworkFS harvesterNS v.volume) s₁ := fun _ => by simp [hfs]
    simp only [hvolume, hfs, found_some]
    split
    · exact ⟨⟨trivial, iff_of_true trivial hfinds⟩, trivial⟩
    · rename_i hidle
      have hfound := (hsettled fs hfs).resolve_left hidle
      refine ⟨⟨trivial, iff_of_true trivial hfinds⟩, ?_⟩
      -- the pods that the export was left to are found again
      rintro s₃ r s₄ hmove - ⟨hserve, -⟩
      have hs := hmove.leaves hs
      have hfound := hmove.pods hfound
      obtain ⟨p, ns, claim, rfl, href, -⟩ := id hfound
      have hpv := hs.guestPV
      rw [← hpvc.name] at hpv
      obtain ⟨rfl, rfl⟩ := Prod.mk.inj hserve
      simp only [hpv, found_some, href]
      refine ⟨⟨trivial, iff_of_true trivial fun h => by cases h⟩, ?_⟩
      rintro s₅ r s₆ hmove - ⟨hserve, -⟩
      obtain ⟨p', ns', claim', hp', href', hpods⟩ := hmove.pods hfound
      cases hp'
      cases href.symm.trans href'
      obtain ⟨rfl, rfl⟩ := Prod.mk.inj hserve
      obtain ⟨pod, pods, hlist⟩ :=
        List.exists_cons_of_ne_nil (mt Cluster.podsByIndex_eq_nil.mp (not_not.mpr hpods))
      simp only [hlist]
      exact ⟨⟨trivial, iff_of_true trivial fun h => by cases h⟩, trivial⟩

theorem unpublish_idles (hid : v.claim ≠ "") (hs : v.Held cs pv s) (hsettled : v.Settled pv s)
    (node : String) : Idles v cs pv (cs.controllerUnpublishVolume ⟨v.claim, node⟩) s := by
  simp only [ControllerServer.controllerUnpublishVolume, request_bind, hid, if_false]
  rintro s₁ r s₂ hmove - ⟨hserve, pvc, hpvc, hbound⟩
  have hs := hmove.leaves hs
  have hsettled := hmove.settled hsettled
  have hclaim := hs.claim pvc hpvc
  obtain ⟨rfl, rfl⟩ := Prod.mk.inj hserve
  obtain ⟨k, hcall, hk⟩ :=
    ControllerServer.isLHRWXVolume_shared cs hclaim.filesystem hclaim.shared hclaim.onClass
  simp only [hpvc, found_some, hbound, ne_eq, not_true_eq_false, if_false, hcall, call_bind]
  refine ⟨⟨trivial, iff_of_true trivial fun h => by cases h⟩, ?_⟩
  rintro s₃ r s₄ hmove - ⟨hserve, -⟩
  have hs := hmove.leaves hs
  have hsettled := hmove.settled hsettled
  obtain ⟨sc, hsc, hprov⟩ := hs.storageClass
  obtain ⟨rfl, rfl⟩ := Prod.mk.inj hserve
  simp only [hsc, found_some, hk sc hprov, ok_bind, if_true]
  exact ⟨⟨trivial, iff_of_true trivial fun h => by cases h⟩,
    unpublishRWXVolume_idles hclaim hs hsettled⟩

variable [DecidableEq ι] {calls : ι → VolumeCall} {s₀ : Cluster} {c₁ c₂ : CallPool ι} {j : ι}

/-- An unpublish that is issued where the export is gone, or right after another one, has
no effect and returns exactly if it finds the export at the step at which it reads it,
whatever unpublishes and deletions of the volume there are before and beside it. -/
theorem unpublish_idempotent_iff (hid : v.claim ≠ "") (hs : v.Held cs pv s₀)
    (h₁ : v.Run cs pv calls s₀ c₁) (hissued : v.Issued cs calls j c₁)
    (h₂ : v.RunSince cs pv j c₁ c₂) :
    SharedVolume.NoOp j c₂ ↔
      ∀ e ∈ c₂.history, e.All fun i op s _ _ _ => i = j → v.FindsExport op s := by
  obtain ⟨node, hcall⟩ := hissued.call
  have hsettled : v.Settled pv c₁.state := by
    rcases hissued.when with hgone | ⟨i, node, op, r, s, t, earlier, hunpublish, hlast, -⟩
    · intro fs hfs
      cases hgone.symm.trans hfs
    · exact SharedVolume.Run.settled hid hs h₁ hlast hunpublish
  let start : CallPool ι := { c₁ with history := [] }
  have hsafe (i) : Safe (v.Calms cs pv) Wavers
      (fun op s r t _ => i = j → Cluster.serve op s = (r, t) ∧ v.Bound cs s)
      (fun op s _ t rest => TurnsOff op ∧ (i = j → t = s ∧ (GoesOn rest ↔ v.FindsExport op s)))
      (start.procs i) start.state := by
    have huses : (c₁.procs i).Uses TurnsOff := h₁.uses ((calls i).prog_uses cs hid)
    refine Safe.and_uses ?_ huses
    by_cases hi : i = j
    · subst hi
      rw [show start.procs i = _ from hcall]
      have hidles := unpublish_idles hid (SharedVolume.Run.held hid hs h₁) hsettled node
      simpa only [forall_const] using hidles
    · exact Safe.of_uses (fun _ _ _ _ _ _ _ _ h => absurd h hi) huses _
  have hgood : ∀ e ∈ c₂.history, e.All fun i op s _ t rest =>
      TurnsOff op ∧ (i = j → t = s ∧ (GoesOn rest ↔ v.FindsExport op s)) := by
    refine (Reach.good ?_ ?_ ?_ ?_ (fun _ _ => id) hsafe rfl h₂).2
    · exact fun _ _ _ => SharedVolume.Calms.trans
    · exact fun s => (Dwindles.refl s).calms
    · exact fun _ _ => SharedVolume.Removes.calms
    · exact fun _ _ _ _ _ _ hanswer hgood => (hgood.1.dwindles hanswer).calms
  constructor
  · intro hnoop e he
    have hgood := hgood e he
    cases e with
    | env => trivial
    | call i op r s t rest =>
      rintro rfl
      refine (hgood.2 rfl).2.mp ?_
      have hreturns := hnoop.returns
      cases rest with
      | ok | call => trivial
      | error | panic =>
        rw [h₂.ended rfl he (by rintro _ _ ⟨⟩)] at hreturns
        exact hreturns
  · intro hfinds
    refine ⟨?_, fun e he => ?_⟩
    · rcases h₂.left_by_call j with hstart | ⟨op, r, s, t, hmem⟩
      · rw [hstart]
        simp [hcall, ControllerServer.controllerUnpublishVolume, hid, GoesOn]
      · exact ((hgood _ hmem).2 rfl).2.mpr (hfinds _ hmem rfl)
    · have hgood := hgood e he
      cases e with
      | env => trivial
      | call => exact fun hi => (hgood.2 hi).1

end

def exampleShare.pv : PersistentVolume := ⟨"v", some ("default", "claim")⟩

theorem shareCluster_held :
    exampleShare.Held exampleServer (some exampleShare.pv) shareCluster where
  claim pvc hpvc := by
    cases hpvc
    exact ⟨rfl, rfl, by decide, rfl, rfl⟩
  storageClass := ⟨_, rfl, rfl⟩
  guestPV := rfl

def classReadable : Op → Cluster → Bool
  | .getStorageClass name, s => (s.storageClasses.get name).isSome
  | _, _ => true

theorem classRead_of_readable (op : Op) (h : classReadable op s = true) :
    ClassRead op (Cluster.serve op s).1 := by
  cases op with
  | getStorageClass name =>
    obtain ⟨sc, hsc⟩ := Option.isSome_iff_exists.mp h
    simp only [Cluster.serve, hsc, found_some]
    trivial
  | _ => trivial

def shareBound (s : Cluster) : Bool := (s.pvcs.get ("ns", "v")).any (·.phase = .bound)

theorem bound_of_shareBound (h : shareBound s = true) : exampleShare.Bound exampleServer s := by
  unfold shareBound at h
  cases hpvc : s.pvcs.get ("ns", "v") with
  | none => simp [hpvc] at h
  | some pvc => exact ⟨pvc, hpvc, by simpa [hpvc] using h⟩

def unpublishedOnce : CallPool Bool :=
  (volumeCalls exampleServer exampleShare (fun _ => .unpublish "n1") shareCluster).turns
    Cluster.serve [true, true, true]

def unpublishedTwice : CallPool Bool :=
  Pool.turns Cluster.serve { unpublishedOnce with history := [] } [false, false, false]

theorem unpublish_idempotent_disabled :
    unpublishedTwice.procs false = .ok () ∧ SharedVolume.NoOp false unpublishedTwice := by
  have h₁ :
      exampleShare.Run exampleServer (some exampleShare.pv) (fun _ => .unpublish "n1") shareCluster
      unpublishedOnce :=
    Reach.start.turns_checked
      (fun _ _ op _ hp h => ⟨.inl rfl, classRead_of_readable op (Pool.next_call hp h)⟩)
      (by decide +kernel)
  have hissued :
      exampleShare.Issued exampleServer (fun _ => .unpublish "n1") false unpublishedOnce := by
    refine ⟨⟨"n1", rfl⟩, .inr ⟨true, "n1", _, _, _, _, _, rfl, rfl, ?_⟩⟩
    rintro pv ns claim - - ⟨pod, hpod, -⟩
    cases hpod
  have h₂ : exampleShare.RunSince exampleServer (some exampleShare.pv) false unpublishedOnce
      unpublishedTwice :=
    Reach.start.turns_checked
      (fun _ _ _ _ _ h => ⟨.inl rfl, fun _ => ⟨rfl, bound_of_shareBound h⟩⟩) (by decide +kernel)
  refine ⟨rfl, (unpublish_idempotent_iff (by decide) shareCluster_held h₁ hissued h₂).mpr ?_⟩
  have hlooks (op : Op) (hop : op ≠ .getNetworkFS harvesterNS exampleShare.volume) (s : Cluster) :
      exampleShare.FindsExport op s := fun h => absurd h hop
  refine List.forall_mem_cons.mpr ⟨fun _ _ => Option.some_ne_none _, List.forall_mem_cons.mpr
    ⟨fun _ => hlooks _ ?_ _, List.forall_mem_cons.mpr ⟨fun _ => hlooks _ ?_ _, by simp⟩⟩⟩
  · exact Op.noConfusion
  · exact Op.noConfusion

def deletingCalls : Bool → VolumeCall
  | true => .delete
  | false => .unpublish "n1"

def exportRemoved : CallPool Bool :=
  (volumeCalls exampleServer exampleShare deletingCalls shareCluster).turns Cluster.serve
    [true, true, true, true, true]

def unpublishedLate : CallPool Bool :=
  Pool.turns Cluster.serve { exportRemoved with history := [] } [false, false, false]

/-- The volume can no longer be unpublished. -/
theorem unpublish_fails_without_export :
    exampleShare.Run exampleServer (some exampleShare.pv) deletingCalls shareCluster exportRemoved ∧
      exampleShare.Issued exampleServer deletingCalls false exportRemoved ∧
      exampleShare.RunSince exampleServer (some exampleShare.pv) false exportRemoved
        unpublishedLate ∧
      ¬ SharedVolume.NoOp false unpublishedLate := by
  have hfails : ¬ GoesOn (unpublishedLate.procs false) := by decide +kernel
  refine ⟨?_, ⟨⟨"n1", rfl⟩, .inl (by decide +kernel)⟩, ?_, fun h => hfails h.returns⟩
  · exact Reach.start.turns_checked
      (fun _ _ op _ hp h => ⟨.inl rfl, classRead_of_readable op (Pool.next_call hp h)⟩)
      (by decide +kernel)
  · exact Reach.start.turns_checked
      (fun _ _ _ _ _ h => ⟨.inl rfl, fun _ => ⟨rfl, bound_of_shareBound h⟩⟩) (by decide +kernel)

end HarvesterCSI
