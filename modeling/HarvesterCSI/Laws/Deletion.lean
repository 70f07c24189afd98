import HarvesterCSI.Laws.SharedExport

/-!
# Deleting a volume

Two questions about DeleteVolume. What is left of a shared volume when some of
the calls fail, and what several deletions of one volume do to each other.
-/

namespace HarvesterCSI

open Calls Calls.Prog
open Cluster (Serves)

-- ---------------------------------------------------------------------------
-- The stages of the call
-- ---------------------------------------------------------------------------

namespace ControllerServer

def deleteClaim (cs : ControllerServer) (volumeId : String) : Api Unit :=
  .call (.deletePVC cs.ns volumeId) fun
    | .ok () => .ok ()
    | .error e =>
      if e.reason = .notFound then .ok ()
      else .error (.status .internal ("Failed to delete PVC " ++ volumeId ++ ": " ++ e.message))

def deleteHostPVC (cs : ControllerServer) (volumeId : String) : Api Unit :=
  .call (.getPVC cs.ns volumeId) fun
    | .error e =>
      if e.reason = .notFound then .ok ()
      else .error (.status .internal ("Failed to get PVC " ++ volumeId ++ ": " ++ e.message))
    | .ok pvc => cs.isLHRWXVolume pvc >>= fun shared =>
      if shared then deleteVolume.deleteExport pvc.volumeName >>= fun _ => cs.deleteClaim volumeId
      else cs.deleteClaim volumeId

theorem deleteVolume_eq (cs : ControllerServer) (hid : volumeId ≠ "") :
    cs.deleteVolume volumeId = cs.deleteVolumeRemoteRestoreIfExists volumeId >>= fun deleted =>
      if deleted then .ok () else cs.deleteHostPVC volumeId := by
  unfold deleteVolume
  rw [if_neg hid]
  rfl

/-- A claim as this driver builds it for a shared volume: one lookup decides. -/
theorem isLHRWXVolume_eq (cs : ControllerServer) (hmode : pvc.volumeMode = some .filesystem)
    (hmodes : pvc.accessModes = [.readWriteMany]) (hsc : pvc.storageClassName = some name) :
    cs.isLHRWXVolume pvc = .call (.getStorageClass name) fun
      | .ok sc => .ok (decide (sc.provisioner = longhornProvisioner))
      | .error _ => .ok false := by
  rw [isLHRWXVolume, if_pos hmode, hmodes]
  simp only [isLHRWXVolume.go, hsc, request_bind, ne_eq, not_true_eq_false, if_false]
  refine congrArg (Prog.call _) (funext fun r => ?_)
  cases r with
  | error e => rfl
  | ok sc => by_cases h : sc.provisioner = longhornProvisioner <;> simp [h]

end ControllerServer

-- ---------------------------------------------------------------------------
-- Calls that fail
-- ---------------------------------------------------------------------------

/-- What goes wrong with a call: it fails, before it is carried out or only after, or
another client has just removed the object that it is about, so that it is answered with
NotFound. -/
inductive Fault
  | fails (e : ApiError) (other : e.reason ≠ .notFound) (acts : Bool)
  | gone

namespace Cluster

def without (s : Cluster) : Op → Cluster
  | .getPVC ns name | .deletePVC ns name => { s with pvcs := s.pvcs.erase (ns, name) }
  | .getStorageClass name => { s with storageClasses := s.storageClasses.erase name }
  | .getNetworkFS ns name | .deleteNetworkFS ns name =>
    { s with networkFSs := s.networkFSs.erase (ns, name) }
  | .getRestore ns name | .deleteRestore ns name =>
    { s with restores := s.restores.erase (ns, name) }
  | _ => s

def faulty (faults : Op → Option Fault) (op : Op) (s : Cluster) : op.Res × Cluster :=
  match faults op with
  | none => serve op s
  | some (.fails e _ acts) => (.error e, if acts then (serve op s).2 else s)
  | some .gone => serve op (s.without op)

end Cluster

namespace SharedVolume

/-- The claim of a volume that CreateVolume has exported, with no restore. The
export and the storage class may be there or not. -/
structure Exported (v : SharedVolume) (cs : ControllerServer) (s : Cluster) : Prop where
  id : v.claim ≠ ""
  volume : v.volume ≠ ""
  claim : ∃ pvc, s.pvcs.get (cs.ns, v.claim) = some pvc ∧ pvc.volumeMode = some .filesystem ∧
    pvc.accessModes = [.readWriteMany] ∧ pvc.volumeName = v.volume ∧
    pvc.storageClassName = some v.sc
  restore : s.restores.get (cs.ns, v.claim) = none

def onLonghorn (v : SharedVolume) (s : Cluster) : Bool :=
  (s.storageClasses.get v.sc).any (·.provisioner = longhornProvisioner)

def Unexported (v : SharedVolume) (s : Cluster) : Prop :=
  s.networkFSs.get (harvesterNS, v.volume) = none

def Gone (v : SharedVolume) (cs : ControllerServer) (s : Cluster) : Prop :=
  s.pvcs.get (cs.ns, v.claim) = none ∧ v.Unexported s

/-- A deletion that returned has removed both, and after one that failed the next
deletion on a healthy server removes both. -/
def NoLeak (v : SharedVolume) (cs : ControllerServer) : Outcome Err Unit × Cluster → Prop
  | (.ok _, t) => v.Gone cs t
  | (.error _, t) => v.Gone cs (run Cluster.serve (cs.deleteVolume v.claim) t).2
  | (.panic, _) => False

section
variable {v : SharedVolume} {cs : ControllerServer} {s t : Cluster} {faults : Op → Option Fault}

theorem Exported.of_same (h : v.Exported cs s) (hpvcs : t.pvcs = s.pvcs)
    (hrestore : t.restores.get (cs.ns, v.claim) = none) : v.Exported cs t :=
  ⟨h.id, h.volume, hpvcs ▸ h.claim, hrestore⟩

theorem run_deleteVolume (h : v.Exported cs s) :
    run (Cluster.faulty faults) (cs.deleteVolume v.claim) s =
      match faults (.getRestore cs.ns v.claim) with
      | some (.fails e _ _) => (.error (.api e), s)
      | some .gone => run (Cluster.faulty faults) (cs.deleteHostPVC v.claim)
          { s with restores := s.restores.erase (cs.ns, v.claim) }
      | none => run (Cluster.faulty faults) (cs.deleteHostPVC v.claim) s := by
  rw [cs.deleteVolume_eq h.id, ControllerServer.deleteVolumeRemoteRestoreIfExists, request_bind,
    call_bind, run_call, Cluster.faulty]
  rcases faults (.getRestore cs.ns v.claim) with _ | (⟨e, he, acts⟩ | _)
  · simp [Cluster.serve, h.restore, missing_of_ne h.id, notFound]
  · simp [Cluster.serve, he]
  · simp [Cluster.serve, Cluster.without, missing_of_ne h.id, notFound]

theorem run_deleteHostPVC (h : v.Exported cs s) :
    run (Cluster.faulty faults) (cs.deleteHostPVC v.claim) s =
      match faults (.getPVC cs.ns v.claim) with
      | some (.fails e _ _) => (.error (.status .internal
          ("Failed to get PVC " ++ v.claim ++ ": " ++ e.message)), s)
      | some .gone => (.ok (), { s with pvcs := s.pvcs.erase (cs.ns, v.claim) })
      | none => match faults (.getStorageClass v.sc) with
        | some (.fails _ _ _) => run (Cluster.faulty faults) (cs.deleteClaim v.claim) s
        | some .gone => run (Cluster.faulty faults) (cs.deleteClaim v.claim)
            { s with storageClasses := s.storageClasses.erase v.sc }
        | none =>
          if v.onLonghorn s then
            run (Cluster.faulty faults)
              (ControllerServer.deleteVolume.deleteExport v.volume >>= fun _ =>
                cs.deleteClaim v.claim) s
          else run (Cluster.faulty faults) (cs.deleteClaim v.claim) s := by
  obtain ⟨pvc, hpvc, hmode, hmodes, hvolume, hsc⟩ := h.claim
  rw [ControllerServer.deleteHostPVC, run_call, Cluster.faulty]
  rcases hget : faults (.getPVC cs.ns v.claim) with _ | (⟨e, he, acts⟩ | _)
  · simp only [Cluster.serve, hpvc, found_some, cs.isLHRWXVolume_eq hmode hmodes hsc, call_bind,
      run_call, hvolume]
    rw [Cluster.faulty]
    rcases faults (.getStorageClass v.sc) with _ | (⟨e, he, acts⟩ | _)
    · rcases Option.eq_none_or_eq_some (s.storageClasses.get v.sc) with hclass | ⟨sc, hclass⟩
      · simp [Cluster.serve, onLonghorn, hclass]
      · by_cases hprov : sc.provisioner = longhornProvisioner <;>
          simp [Cluster.serve, onLonghorn, hclass, hprov]
    · simp [Cluster.serve]
    · simp [Cluster.serve, Cluster.without]
  · simp [Cluster.serve, he]
  · simp [Cluster.serve, Cluster.without, missing_of_ne h.id, notFound]

theorem run_deleteExport (v : SharedVolume) (hvolume : v.volume ≠ "") (faults : Op → Option Fault)
    (s : Cluster) :
    ∃ o t, run (Cluster.faulty faults) (ControllerServer.deleteVolume.deleteExport v.volume) s =
      (o, t) ∧
      (t.pvcs = s.pvcs ∧ t.restores = s.restores ∧ t.storageClasses = s.storageClasses) ∧
      (o = .ok () ∧ v.Unexported t ∨ (∃ e, o = .error e) ∧
        (faults (.getNetworkFS harvesterNS v.volume) ≠ none ∨
          faults (.deleteNetworkFS harvesterNS v.volume) ≠ none)) := by
  rw [ControllerServer.deleteVolume.deleteExport, request_bind, run_call, Cluster.faulty]
  rcases faults (.getNetworkFS harvesterNS v.volume) with _ | (⟨e, he, acts⟩ | _)
  · rcases Option.eq_none_or_eq_some (s.networkFSs.get (harvesterNS, v.volume)) with hfs | ⟨fs, hfs⟩
    · simp [Cluster.serve, Unexported, hfs, missing_of_ne hvolume, notFound]
    · simp only [Cluster.serve, hfs, found_some, request_bind, run_call]
      rw [Cluster.faulty]
      rcases faults (.deleteNetworkFS harvesterNS v.volume) with _ | (⟨e, he, acts⟩ | _)
      · simp [Cluster.serve, Unexported, hfs]
      · cases acts <;> simp [Cluster.serve, hfs]
      · simp [Cluster.serve, Cluster.without]
  · simp [Cluster.serve, he]
  · simp [Cluster.serve, Cluster.without, Unexported, missing_of_ne hvolume, notFound]

theorem run_deleteClaim (h : v.Exported cs s) :
    run (Cluster.faulty faults) (cs.deleteClaim v.claim) s =
      match faults (.deletePVC cs.ns v.claim) with
      | some (.fails e _ acts) => (.error (.status .internal
          ("Failed to delete PVC " ++ v.claim ++ ": " ++ e.message)),
          if acts then { s with rev := s.rev + 1, pvcs := s.pvcs.erase (cs.ns, v.claim) } else s)
      | some .gone => (.ok (), { s with pvcs := s.pvcs.erase (cs.ns, v.claim) })
      | none => (.ok (), { s with rev := s.rev + 1, pvcs := s.pvcs.erase (cs.ns, v.claim) }) := by
  obtain ⟨pvc, hpvc, -⟩ := h.claim
  rw [ControllerServer.deleteClaim, run_call, Cluster.faulty]
  rcases faults (.deletePVC cs.ns v.claim) with _ | (⟨e, he, acts⟩ | _)
  · simp [Cluster.serve, hpvc]
  · simp [Cluster.serve, hpvc, he]
  · simp [Cluster.serve, Cluster.without, missing_of_ne h.id, notFound]

theorem faulty_none : Cluster.faulty (fun _ => none) = Cluster.serve := rfl

theorem gone_later_iff (h : v.Exported cs s) :
    v.Gone cs (run Cluster.serve (cs.deleteVolume v.claim) s).2 ↔
      v.Unexported s ∨ v.onLonghorn s := by
  rw [← faulty_none, run_deleteVolume h]
  dsimp only
  rw [run_deleteHostPVC h]
  dsimp only
  split
  · rename_i hclass
    obtain ⟨o, t, hrun, ⟨hpvcs, hrestores, -⟩, ⟨rfl, hgone⟩ | ⟨-, hfault⟩⟩ :=
      run_deleteExport v h.volume (fun _ => none) s
    · rw [run_bind, hrun]
      dsimp only
      rw [run_deleteClaim (h.of_same hpvcs (hrestores ▸ h.restore))]
      simp only [Gone, Store.get_erase, if_true, hclass, or_true, true_and, iff_true]
      exact hgone
    · simp at hfault
  · rename_i hclass
    rw [run_deleteClaim h]
    simp [Gone, Unexported, hclass]

/-- Without the claim there is nothing to lead to the export. -/
theorem gone_later_claimless_iff (hid : v.claim ≠ "") (hclaim : s.pvcs.get (cs.ns, v.claim) = none)
    (hrestore : s.restores.get (cs.ns, v.claim) = none) :
    v.Gone cs (run Cluster.serve (cs.deleteVolume v.claim) s).2 ↔ v.Unexported s := by
  have hrun : run Cluster.serve (cs.deleteVolume v.claim) s = (.ok (), s) := by
    simp [cs.deleteVolume_eq hid, ControllerServer.deleteVolumeRemoteRestoreIfExists,
      ControllerServer.deleteHostPVC, Cluster.serve, hclaim, hrestore, missing_of_ne hid, notFound]
  simp [hrun, Gone, hclaim]

def failsAt (faults : Op → Option Fault) (op : Op) : Prop :=
  ∃ e other acts, faults op = some (.fails e other acts)

def failsBefore (faults : Op → Option Fault) (op : Op) : Prop :=
  ∃ e other, faults op = some (.fails e other false)

theorem noLeak_deleteClaim_iff (h : v.Exported cs s) :
    v.NoLeak cs (run (Cluster.faulty faults) (cs.deleteClaim v.claim) s) ↔
      v.Unexported s ∨ v.onLonghorn s ∧ failsBefore faults (.deletePVC cs.ns v.claim) := by
  rw [run_deleteClaim h, failsBefore]
  rcases faults (.deletePVC cs.ns v.claim) with _ | (⟨e, he, _ | _⟩ | _)
  · simp [NoLeak, Gone, Unexported]
  · simp [NoLeak, gone_later_iff h, he]
  · -- the claim is gone all the same
    simp [NoLeak, gone_later_claimless_iff h.id, h.restore, Unexported]
  · simp [NoLeak, Gone, Unexported]

theorem noLeak_deleteExport (h : v.Exported cs s) (hclass : v.onLonghorn s) :
    v.NoLeak cs (run (Cluster.faulty faults)
      (ControllerServer.deleteVolume.deleteExport v.volume >>= fun _ =>
        cs.deleteClaim v.claim) s) := by
  obtain ⟨o, t, hrun, ⟨hpvcs, hrestores, hclasses⟩, ⟨rfl, hgone⟩ | ⟨⟨e, rfl⟩, -⟩⟩ :=
    run_deleteExport v h.volume faults s
  all_goals
    have ht : v.Exported cs t := h.of_same hpvcs (hrestores ▸ h.restore)
    rw [run_bind, hrun]
    dsimp only
  · exact (noLeak_deleteClaim_iff ht).mpr (.inl hgone)
  · rw [onLonghorn, ← hclasses] at hclass
    exact (gone_later_iff ht).mpr (.inr hclass)

theorem noLeak_deleteHostPVC_iff (h : v.Exported cs s) :
    v.NoLeak cs (run (Cluster.faulty faults) (cs.deleteHostPVC v.claim) s) ↔
      v.Unexported s ∨ v.onLonghorn s ∧ faults (.getPVC cs.ns v.claim) ≠ some .gone ∧
        (faults (.getStorageClass v.sc) = none ∨ failsAt faults (.getPVC cs.ns v.claim) ∨
          failsBefore faults (.deletePVC cs.ns v.claim) ∧
            faults (.getStorageClass v.sc) ≠ some .gone) := by
  rw [run_deleteHostPVC h]
  rcases hget : faults (.getPVC cs.ns v.claim) with _ | (⟨e, he, acts⟩ | _)
  · have hnot : ¬ failsAt faults (.getPVC cs.ns v.claim) := by simp [failsAt, hget]
    rcases faults (.getStorageClass v.sc) with _ | (⟨e, he, acts⟩ | _)
    · dsimp only
      split
      · rename_i hclass
        simp [noLeak_deleteExport h hclass, hclass]
      · rename_i hclass
        simp [noLeak_deleteClaim_iff h, hclass]
    · simp [noLeak_deleteClaim_iff h, hnot]
    · -- nothing is left that says the volume is a shared one
      have hclass : ¬ v.onLonghorn { s with storageClasses := s.storageClasses.erase v.sc } := by
        simp [onLonghorn]
      simp [noLeak_deleteClaim_iff (h.of_same (t := { s with
        storageClasses := s.storageClasses.erase v.sc }) rfl h.restore), hclass, hnot, Unexported]
  · have hfails : failsAt faults (.getPVC cs.ns v.claim) := ⟨e, he, acts, hget⟩
    simp [NoLeak, gone_later_iff h, hfails]
  · simp [NoLeak, Gone, Unexported]

/-- For every state in which the volume is exported and every pattern of faults:
nothing is leaked exactly when the export is gone already, or the storage class is
there and its lookup goes through, or the deletion fails before the claim is gone.
Where the claim goes first, nothing leads to the export any more. -/
theorem deletion_leaks_nothing_iff (h : v.Exported cs s) :
    v.NoLeak cs (run (Cluster.faulty faults) (cs.deleteVolume v.claim) s) ↔
      v.Unexported s ∨ v.onLonghorn s ∧ (failsAt faults (.getRestore cs.ns v.claim) ∨
        faults (.getPVC cs.ns v.claim) ≠ some .gone ∧
          (faults (.getStorageClass v.sc) = none ∨ failsAt faults (.getPVC cs.ns v.claim) ∨
            failsBefore faults (.deletePVC cs.ns v.claim) ∧
              faults (.getStorageClass v.sc) ≠ some .gone)) := by
  rw [run_deleteVolume h]
  rcases hrestore : faults (.getRestore cs.ns v.claim) with _ | (⟨e, he, acts⟩ | _)
  · have hnot : ¬ failsAt faults (.getRestore cs.ns v.claim) := by simp [failsAt, hrestore]
    simp [noLeak_deleteHostPVC_iff h, hnot]
  · have hfails : failsAt faults (.getRestore cs.ns v.claim) := ⟨e, he, acts, hrestore⟩
    simp [NoLeak, gone_later_iff h, hfails]
  · have hnot : ¬ failsAt faults (.getRestore cs.ns v.claim) := by simp [failsAt, hrestore]
    have ht : v.Exported cs { s with restores := s.restores.erase (cs.ns, v.claim) } :=
      h.of_same rfl (by simp)
    simp only [hnot, false_or]
    exact noLeak_deleteHostPVC_iff ht

end

end SharedVolume

theorem deletion_leaks_nothing_when_healthy :
    exampleShare.Exported exampleServer shareCluster ∧
      exampleShare.NoLeak exampleServer
        (run (Cluster.faulty fun _ => none) (exampleServer.deleteVolume "v") shareCluster) := by
  have hstored : exampleShare.Exported exampleServer shareCluster :=
    ⟨by decide, by decide, ⟨_, rfl, rfl, rfl, rfl, rfl⟩, rfl⟩
  exact ⟨hstored, (SharedVolume.deletion_leaks_nothing_iff hstored).mpr
    (.inr ⟨by decide, .inr ⟨by simp, .inl rfl⟩⟩)⟩

def classReadFails : Op → Option Fault
  | .getStorageClass _ =>
    some (.fails ⟨.internalError, "etcdserver: request timed out"⟩ (by decide) false)
  | _ => none

/-- The deletion returns, the claim is gone and the export is left. -/
theorem deletion_leaks_export :
    let r := run (Cluster.faulty classReadFails) (exampleServer.deleteVolume "v") shareCluster
    exampleShare.Exported exampleServer shareCluster ∧ r.1 = .ok () ∧
      r.2.pvcs.get ("ns", "v") = none ∧ (r.2.networkFSs.get (harvesterNS, "pvc-1")).isSome ∧
      ¬ exampleShare.NoLeak exampleServer r := by
  intro r
  have hok : r.1 = .ok () := by decide +kernel
  have hleft : (r.2.networkFSs.get (harvesterNS, "pvc-1")).isSome = true := by decide +kernel
  refine ⟨⟨by decide, by decide, ⟨_, rfl, rfl, rfl, rfl, rfl⟩, rfl⟩, hok, by decide +kernel, hleft,
    ?_⟩
  rw [show r = (.ok (), r.2) from Prod.ext hok rfl]
  rintro ⟨-, hgone⟩
  rw [show r.2.networkFSs.get (harvesterNS, "pvc-1") = none from hgone] at hleft
  cases hleft

-- ---------------------------------------------------------------------------
-- Several deletions
-- ---------------------------------------------------------------------------

/-- A volume on the host: its claim, the volume the claim is bound to, and
whether a restore owns the claim. -/
structure HostVolume where
  claim : String
  volume : String
  restored : Bool

/-- What the choice between the stages of a deletion reads of a claim. -/
def PVC.shape (pvc : PVC) : Option VolumeMode × List PVCAccessMode × Option String × String :=
  (pvc.volumeMode, pvc.accessModes, pvc.storageClassName, pvc.volumeName)

namespace HostVolume

/-- The storage class of a stored claim is set, and a claim that may be a shared one is
bound. Only a volume that has a claim of its own is exported, and its storage class is
there. -/
structure Stored (v : HostVolume) (cs : ControllerServer) (s : Cluster) : Prop where
  claim : ∀ pvc, s.pvcs.get (cs.ns, v.claim) = some pvc →
    pvc.volumeName = v.volume ∧ pvc.storageClassName ≠ none
  bound : ∀ pvc, s.pvcs.get (cs.ns, v.claim) = some pvc → pvc.volumeMode = some .filesystem →
    .readWriteMany ∈ pvc.accessModes → v.volume ≠ ""
  exported : s.networkFSs.get (harvesterNS, v.volume) ≠ none → v.restored = false ∧
    ∃ pvc name sc, s.pvcs.get (cs.ns, v.claim) = some pvc ∧ pvc.volumeMode = some .filesystem ∧
      .readWriteMany ∈ pvc.accessModes ∧ pvc.storageClassName = some name ∧
      s.storageClasses.get name = some sc ∧ sc.provisioner = longhornProvisioner
  restore : s.restores.get (cs.ns, v.claim) ≠ none → v.restored = true

/-- The garbage collector: a claim goes with the restore that owns it. -/
def cascade (v : HostVolume) (cs : ControllerServer) (s : Cluster) : Cluster :=
  if v.restored ∧ s.restores.get (cs.ns, v.claim) = none then
    { s with rev := s.rev + 1, pvcs := s.pvcs.erase (cs.ns, v.claim) }
  else s

/-- What others do: nothing to the volume but change its status, and collect the
claim. -/
structure Others (v : HostVolume) (cs : ControllerServer) (s t : Cluster) : Prop where
  storageClasses : t.storageClasses = s.storageClasses
  restore : (t.restores.get (cs.ns, v.claim)).isSome = (s.restores.get (cs.ns, v.claim)).isSome
  exported : (t.networkFSs.get (harvesterNS, v.volume)).isSome =
    (s.networkFSs.get (harvesterNS, v.volume)).isSome
  claim : (t.pvcs.get (cs.ns, v.claim)).map PVC.shape =
      ((v.cascade cs s).pvcs.get (cs.ns, v.claim)).map PVC.shape ∨
    (t.pvcs.get (cs.ns, v.claim)).map PVC.shape = (s.pvcs.get (cs.ns, v.claim)).map PVC.shape

structure Removed (v : HostVolume) (cs : ControllerServer) (s : Cluster) : Prop where
  restore : s.restores.get (cs.ns, v.claim) = none
  exported : s.networkFSs.get (harvesterNS, v.volume) = none
  claim : s.pvcs.get (cs.ns, v.claim) = none

/-- A restore or an export that is to be deleted is there. -/
def Unraced : Op → Cluster → Prop
  | .deleteRestore ns name, s => s.restores.get (ns, name) ≠ none
  | .deleteNetworkFS ns name, s => s.networkFSs.get (ns, name) ≠ none
  | _, _ => True

def deleteCalls (v : HostVolume) (cs : ControllerServer) (ι : Type) (s₀ : Cluster) :
    CallPool ι where
  state := s₀
  procs := fun _ => cs.deleteVolume v.claim

structure Keeps (v : HostVolume) (cs : ControllerServer) (s t : Cluster) : Prop where
  stored : v.Stored cs t
  restore : s.restores.get (cs.ns, v.claim) = none → t.restores.get (cs.ns, v.claim) = none
  exported : s.networkFSs.get (harvesterNS, v.volume) = none →
    t.networkFSs.get (harvesterNS, v.volume) = none
  claim : ∀ pvc, t.pvcs.get (cs.ns, v.claim) = some pvc →
    ∃ old, s.pvcs.get (cs.ns, v.claim) = some old ∧ pvc.shape = old.shape

def Moves (v : HostVolume) (cs : ControllerServer) (s t : Cluster) : Prop :=
  v.Stored cs s → v.Keeps cs s t

/-- All that this deletion can do is done; the rest is for the garbage collector. -/
def Done (v : HostVolume) (cs : ControllerServer) (s : Cluster) : Prop :=
  s.restores.get (cs.ns, v.claim) = none ∧ s.networkFSs.get (harvesterNS, v.volume) = none ∧
    (v.restored = true ∨ s.pvcs.get (cs.ns, v.claim) = none)

def Ends (v : HostVolume) (cs : ControllerServer) (s : Cluster) : Api Unit → Prop
  | .ok _ => v.Done cs s
  | .error _ | .panic => False
  | .call _ _ => True

def GoodDelete (v : HostVolume) (cs : ControllerServer) (op : Op) (s : Cluster) (_ : op.Res)
    (t : Cluster) (rest : Api Unit) : Prop :=
  v.Stored cs s → v.Keeps cs s t ∧ v.Ends cs t rest

abbrev SafeDelete (v : HostVolume) (cs : ControllerServer) (p : Api Unit) (s : Cluster) : Prop :=
  Safe (v.Moves cs) Serves (fun op s _ _ _ => Unraced op s) (v.GoodDelete cs) p s

section
variable {v : HostVolume} {cs : ControllerServer} {s t u : Cluster}

theorem Keeps.refl (h : v.Stored cs s) : v.Keeps cs s s :=
  ⟨h, id, id, fun pvc hpvc => ⟨pvc, hpvc, rfl⟩⟩

theorem Keeps.trans (h₁ : v.Keeps cs s t) (h₂ : v.Keeps cs t u) : v.Keeps cs s u where
  stored := h₂.stored
  restore := h₂.restore ∘ h₁.restore
  exported := h₂.exported ∘ h₁.exported
  claim := by
    intro pvc hpvc
    obtain ⟨mid, hmid, hshape⟩ := h₂.claim pvc hpvc
    obtain ⟨old, hold, hshape'⟩ := h₁.claim mid hmid
    exact ⟨old, hold, hshape.trans hshape'⟩

theorem Keeps.gone (h : v.Keeps cs s t) (hs : s.pvcs.get (cs.ns, v.claim) = none) :
    t.pvcs.get (cs.ns, v.claim) = none := by
  rw [Option.eq_none_iff_forall_ne_some]
  intro pvc hpvc
  obtain ⟨old, hold, -⟩ := h.claim pvc hpvc
  rw [hs] at hold
  cases hold

theorem Done.keeps (h : v.Done cs s) (hk : v.Keeps cs s t) : v.Done cs t :=
  ⟨hk.restore h.1, hk.exported h.2.1, h.2.2.imp_right hk.gone⟩

theorem Others.shape (h : v.Others cs s t) :
    (t.pvcs.get (cs.ns, v.claim)).map PVC.shape = (s.pvcs.get (cs.ns, v.claim)).map PVC.shape ∨
      v.restored = true ∧ t.pvcs.get (cs.ns, v.claim) = none := by
  rcases h.claim with hclaim | hclaim
  · rw [cascade] at hclaim
    split at hclaim
    · rename_i hgone
      exact .inr ⟨hgone.1, by simpa using hclaim⟩
    · exact .inl hclaim
  · exact .inl hclaim

theorem Others.moves (h : v.Others cs s t) : v.Moves cs s t := by
  intro hs
  have hclaim (pvc : PVC) (hpvc : t.pvcs.get (cs.ns, v.claim) = some pvc) :
      ∃ old, s.pvcs.get (cs.ns, v.claim) = some old ∧ pvc.shape = old.shape := by
    rcases h.shape with hshape | ⟨-, hnone⟩
    · rw [hpvc, Option.map_some] at hshape
      obtain ⟨old, hold, heq⟩ := Option.map_eq_some_iff.mp hshape.symm
      exact ⟨old, hold, heq.symm⟩
    · rw [hnone] at hpvc
      cases hpvc
  have hexported : t.networkFSs.get (harvesterNS, v.volume) ≠ none →
      s.networkFSs.get (harvesterNS, v.volume) ≠ none := by
    simp only [← Option.isSome_iff_ne_none, h.exported, imp_self]
  have hrestore : t.restores.get (cs.ns, v.claim) ≠ none →
      s.restores.get (cs.ns, v.claim) ≠ none := by
    simp only [← Option.isSome_iff_ne_none, h.restore, imp_self]
  refine ⟨⟨?_, ?_, ?_, fun hne => hs.restore (hrestore hne)⟩, not_imp_not.mp hrestore,
    not_imp_not.mp hexported, hclaim⟩
  · intro pvc hpvc
    obtain ⟨old, hold, hshape⟩ := hclaim pvc hpvc
    simp only [PVC.shape, Prod.mk.injEq] at hshape
    rw [hshape.2.2.1, hshape.2.2.2]
    exact hs.claim old hold
  · intro pvc hpvc
    obtain ⟨old, hold, hshape⟩ := hclaim pvc hpvc
    simp only [PVC.shape, Prod.mk.injEq] at hshape
    rw [hshape.1, hshape.2.1]
    exact hs.bound old hold
  · intro hne
    obtain ⟨howned, pvc, name, sc, hpvc, hmode, hmodes, hname, hsc, hprov⟩ :=
      hs.exported (hexported hne)
    have hshape := h.shape.resolve_right (by simp [howned])
    rw [hpvc, Option.map_some] at hshape
    obtain ⟨new, hnew, heq⟩ := Option.map_eq_some_iff.mp hshape
    simp only [PVC.shape, Prod.mk.injEq] at heq
    rw [← heq.1] at hmode
    rw [← heq.2.1] at hmodes
    rw [← heq.2.2.1] at hname
    exact ⟨howned, new, name, sc, hnew, hmode, hmodes, hname, h.storageClasses ▸ hsc, hprov⟩

@[simp] theorem ends_ok : v.Ends cs s (.ok ()) ↔ v.Done cs s := Iff.rfl

theorem good_read (hends : v.Ends cs s rest) : GoodDelete v cs op s r s rest :=
  fun hs => ⟨.refl hs, hends⟩

theorem deleteClaim_safe (hid : v.claim ≠ "") (hs : v.Stored cs s)
    (hrestore : s.restores.get (cs.ns, v.claim) = none)
    (hexported : s.networkFSs.get (harvesterNS, v.volume) = none) :
    v.SafeDelete cs (cs.deleteClaim v.claim) s := by
  intro s₁ r s₂ hmove hserve _
  have hk := hmove hs
  have hrestore₁ := hk.restore hrestore
  have hexported₁ := hk.exported hexported
  simp only [Serves, Cluster.serve] at hserve
  split at hserve
  · rename_i hnone
    cases hserve
    have hdone : v.Done cs s₁ := ⟨hrestore₁, hexported₁, .inr hnone⟩
    simp only [missing_of_ne hid, notFound, if_true]
    exact ⟨good_read hdone, trivial⟩
  · cases hserve
    refine ⟨fun hs₁ => ⟨⟨⟨?_, ?_, ?_, ?_⟩, id, id, ?_⟩, ?_⟩, trivial⟩
    · simp
    · simp
    · exact fun hne => absurd hexported₁ hne
    · exact fun hne => absurd hrestore₁ hne
    · simp
    · exact ⟨hrestore₁, hexported₁, .inr (by simp)⟩

theorem deleteExport_safe (hid : v.claim ≠ "") (hvolume : v.volume ≠ "") (hs : v.Stored cs s)
    (hrestore : s.restores.get (cs.ns, v.claim) = none) :
    v.SafeDelete cs
      (ControllerServer.deleteVolume.deleteExport v.volume >>= fun _ =>
        cs.deleteClaim v.claim) s := by
  rw [ControllerServer.deleteVolume.deleteExport, request_bind, call_bind]
  intro s₁ r s₂ hmove hserve _
  have hk := hmove hs
  have hrestore₁ := hk.restore hrestore
  simp only [Serves, Cluster.serve, Prod.mk.injEq] at hserve
  obtain ⟨rfl, rfl⟩ := hserve
  rcases Option.eq_none_or_eq_some (s₁.networkFSs.get (harvesterNS, v.volume)) with hfs | ⟨fs, hfs⟩
  · rw [hfs]
    simp only [found_none, missing_of_ne hvolume, notFound, if_true, pure_eq, ok_bind]
    exact ⟨good_read trivial, deleteClaim_safe hid hk.stored hrestore₁ hfs⟩
  · rw [hfs]
    refine ⟨good_read trivial, ?_⟩
    intro s₃ r s₄ hmove₃ hserve₃ hthere
    have hk₃ := hmove₃ hk.stored
    have hrestore₃ := hk₃.restore hrestore₁
    obtain ⟨fs', hfs'⟩ := Option.ne_none_iff_exists'.mp hthere
    simp only [Serves, Cluster.serve, hfs', Prod.mk.injEq] at hserve₃
    obtain ⟨rfl, rfl⟩ := hserve₃
    -- the claim outlives the export, not the other way round
    have hstored (hs₃ : v.Stored cs s₃) : v.Stored cs { s₃ with
        rev := s₃.rev + 1, networkFSs := s₃.networkFSs.erase (harvesterNS, v.volume) } :=
      ⟨hs₃.claim, hs₃.bound, fun hne => absurd (by simp) hne, hs₃.restore⟩
    refine ⟨fun hs₃ => ⟨⟨hstored hs₃, id, fun _ => by simp, fun pvc hpvc => ⟨pvc, hpvc, rfl⟩⟩,
      trivial⟩, ?_⟩
    exact deleteClaim_safe hid (hstored hk₃.stored) hrestore₃ (by simp)

structure Read (v : HostVolume) (cs : ControllerServer) (pvc : PVC) (s : Cluster) : Prop where
  stored : v.Stored cs s
  bound : pvc.volumeMode = some .filesystem → .readWriteMany ∈ pvc.accessModes → v.volume ≠ ""
  restore : s.restores.get (cs.ns, v.claim) = none
  shape : ∀ cur, s.pvcs.get (cs.ns, v.claim) = some cur → cur.shape = pvc.shape

theorem Read.keeps (h : v.Read cs pvc s) (hk : v.Keeps cs s t) : v.Read cs pvc t where
  stored := hk.stored
  bound := h.bound
  restore := hk.restore h.restore
  shape := by
    intro cur hcur
    obtain ⟨old, hold, hshape⟩ := hk.claim cur hcur
    exact hshape.trans (h.shape old hold)

theorem Read.shared (h : v.Read cs pvc s) (hne : s.networkFSs.get (harvesterNS, v.volume) ≠ none) :
    pvc.volumeMode = some .filesystem ∧ .readWriteMany ∈ pvc.accessModes ∧
      ∃ name sc, pvc.storageClassName = some name ∧ s.storageClasses.get name = some sc ∧
        sc.provisioner = longhornProvisioner := by
  obtain ⟨-, cur, name, sc, hcur, hmode, hmodes, hname, hsc, hprov⟩ := h.stored.exported hne
  have hshape := h.shape cur hcur
  simp only [PVC.shape, Prod.mk.injEq] at hshape
  rw [← hshape.1, ← hshape.2.1, ← hshape.2.2.1]
  exact ⟨hmode, hmodes, name, sc, hname, hsc, hprov⟩

theorem Read.unexported (h : v.Read cs pvc s) (hname : pvc.storageClassName = some name)
    (hclass : ∀ sc, s.storageClasses.get name = some sc → sc.provisioner ≠ longhornProvisioner) :
    s.networkFSs.get (harvesterNS, v.volume) = none := by
  by_contra hne
  obtain ⟨-, -, name', sc, hname', hsc, hprov⟩ := h.shared hne
  rw [hname] at hname'
  cases hname'
  exact hclass sc hsc hprov

/-- What follows the lookups is safe for either answer, where only a volume that is
not exported may be taken for one that is not shared. -/
structure Continues (v : HostVolume) (cs : ControllerServer) (pvc : PVC) (f : Bool → Api Unit) :
    Prop where
  shared : ∀ u, v.Read cs pvc u → v.volume ≠ "" → v.SafeDelete cs (f true) u
  other : ∀ u, v.Read cs pvc u → u.networkFSs.get (harvesterNS, v.volume) = none →
    v.SafeDelete cs (f false) u
  ends : ∀ b u, v.Ends cs u (f b)

/-- From the middle of the loop over the access modes: of an exported volume one of the
modes that are left is ReadWriteMany. -/
theorem isLHRWXVolume_go_safe (hf : v.Continues cs pvc f) (hname : pvc.storageClassName = some name)
    (hmode : pvc.volumeMode = some .filesystem) (modes : List PVCAccessMode)
    (hsub : ∀ mode ∈ modes, mode ∈ pvc.accessModes) (hread : v.Read cs pvc s)
    (hmodes : s.networkFSs.get (harvesterNS, v.volume) ≠ none → .readWriteMany ∈ modes) :
    v.SafeDelete cs (ControllerServer.isLHRWXVolume.go pvc modes >>= f) s ∧
      v.Ends cs s (ControllerServer.isLHRWXVolume.go pvc modes >>= f) := by
  induction modes generalizing s with
  | nil => exact ⟨hf.other s hread (by simpa using hmodes), hf.ends _ _⟩
  | cons mode rest ih =>
    have hrest := fun m hm => hsub m (List.mem_cons_of_mem _ hm)
    simp only [ControllerServer.isLHRWXVolume.go, hname, request_bind]
    split
    · rename_i hne
      exact ih hrest hread fun h => (List.mem_cons.mp (hmodes h)).resolve_left fun h => hne h.symm
    · rename_i hmany
      have hvolume : v.volume ≠ "" :=
        hread.bound hmode (not_not.mp hmany ▸ hsub mode List.mem_cons_self)
      rw [call_bind]
      refine ⟨?_, trivial⟩
      intro s₁ r s₂ hmove hserve _
      have hread₁ := hread.keeps (hmove hread.stored)
      simp only [Serves, Cluster.serve, Prod.mk.injEq] at hserve
      obtain ⟨rfl, rfl⟩ := hserve
      rcases Option.eq_none_or_eq_some (s₁.storageClasses.get name) with hclass | ⟨sc, hclass⟩
      · have hnone := hread₁.unexported hname (by simp [hclass])
        obtain ⟨hsafe, hends⟩ := ih hrest hread₁ fun h => absurd hnone h
        rw [hclass]
        exact ⟨good_read hends, hsafe⟩
      · rw [hclass]
        by_cases hprov : sc.provisioner = longhornProvisioner
        · simp only [found_some, hprov, if_true, pure_eq, ok_bind]
          exact ⟨good_read (hf.ends _ _), hf.shared s₁ hread₁ hvolume⟩
        · have hnone := hread₁.unexported hname (by simpa [hclass] using hprov)
          obtain ⟨hsafe, hends⟩ := ih hrest hread₁ fun h => absurd hnone h
          simp only [found_some, hprov, if_false]
          exact ⟨good_read hends, hsafe⟩

theorem isLHRWXVolume_safe (hf : v.Continues cs pvc f) (hread : v.Read cs pvc s)
    (hsc : pvc.storageClassName ≠ none) :
    v.SafeDelete cs (cs.isLHRWXVolume pvc >>= f) s ∧ v.Ends cs s (cs.isLHRWXVolume pvc >>= f) := by
  obtain ⟨name, hname⟩ := Option.ne_none_iff_exists'.mp hsc
  unfold ControllerServer.isLHRWXVolume
  split
  · rename_i hmode
    exact isLHRWXVolume_go_safe hf hname hmode _ (fun _ => id) hread fun hne =>
      (hread.shared hne).2.1
  · rename_i hmode
    exact ⟨hf.other s hread (by_contra fun hne => hmode (hread.shared hne).1), hf.ends _ _⟩

theorem deleteStages_continues (hid : v.claim ≠ "") : v.Continues cs pvc fun shared =>
    if shared then
      ControllerServer.deleteVolume.deleteExport v.volume >>= fun _ => cs.deleteClaim v.claim
    else cs.deleteClaim v.claim where
  shared _ hu hvolume := deleteExport_safe hid hvolume hu.stored hu.restore
  other _ hu hnone := deleteClaim_safe hid hu.stored hu.restore hnone
  ends b _ := by cases b <;> trivial

theorem deleteHostPVC_safe (hid : v.claim ≠ "") (hs : v.Stored cs s)
    (hrestore : s.restores.get (cs.ns, v.claim) = none) :
    v.SafeDelete cs (cs.deleteHostPVC v.claim) s := by
  intro s₁ r s₂ hmove hserve _
  have hk := hmove hs
  have hrestore₁ := hk.restore hrestore
  simp only [Serves, Cluster.serve, Prod.mk.injEq] at hserve
  obtain ⟨rfl, rfl⟩ := hserve
  rcases Option.eq_none_or_eq_some (s₁.pvcs.get (cs.ns, v.claim)) with hpvc | ⟨pvc, hpvc⟩
  · rw [hpvc]
    -- an export would have kept its claim
    have hexported : s₁.networkFSs.get (harvesterNS, v.volume) = none := by
      by_contra hne
      obtain ⟨-, pvc, -, -, hpvc', -⟩ := hk.stored.exported hne
      rw [hpvc] at hpvc'
      cases hpvc'
    simp only [found_none, missing_of_ne hid, notFound, if_true]
    exact ⟨good_read ⟨hrestore₁, hexported, .inr hpvc⟩, trivial⟩
  · rw [hpvc]
    obtain ⟨hvolume, hsc⟩ := hk.stored.claim pvc hpvc
    simp only [found_some, hvolume]
    have hread : v.Read cs pvc s₁ := by
      refine ⟨hk.stored, hk.stored.bound pvc hpvc, hrestore₁, fun cur hcur => ?_⟩
      rw [hpvc] at hcur
      cases hcur
      rfl
    have hrest := isLHRWXVolume_safe (deleteStages_continues hid) hread hsc
    exact ⟨good_read hrest.2, hrest.1⟩

theorem deleteVolume_safe (hid : v.claim ≠ "") (hs : v.Stored cs s) :
    v.SafeDelete cs (cs.deleteVolume v.claim) s := by
  rw [cs.deleteVolume_eq hid, ControllerServer.deleteVolumeRemoteRestoreIfExists, request_bind,
    call_bind]
  intro s₁ r s₂ hmove hserve _
  have hk := hmove hs
  simp only [Serves, Cluster.serve, Prod.mk.injEq] at hserve
  obtain ⟨rfl, rfl⟩ := hserve
  rcases Option.eq_none_or_eq_some (s₁.restores.get (cs.ns, v.claim)) with hvrr | ⟨vrr, hvrr⟩
  · rw [hvrr]
    simp only [found_none, missing_of_ne hid, notFound, if_true, pure_eq, ok_bind,
      Bool.false_eq_true, if_false]
    exact ⟨good_read trivial, deleteHostPVC_safe hid hk.stored hvrr⟩
  · rw [hvrr]
    have hrestored : v.restored = true := hk.stored.restore (by simp [hvrr])
    refine ⟨good_read trivial, ?_⟩
    intro s₃ r s₄ hmove₃ hserve₃ hthere
    have hk₃ := hmove₃ hk.stored
    obtain ⟨vrr', hvrr'⟩ := Option.ne_none_iff_exists'.mp hthere
    simp only [Serves, Cluster.serve, hvrr', Prod.mk.injEq] at hserve₃
    obtain ⟨rfl, rfl⟩ := hserve₃
    -- a volume with a restore is not exported
    have hexported : s₃.networkFSs.get (harvesterNS, v.volume) = none := by
      by_contra hne
      have hfalse := (hk₃.stored.exported hne).1
      rw [hrestored] at hfalse
      cases hfalse
    refine ⟨fun hs₃ => ⟨⟨⟨hs₃.claim, hs₃.bound, hs₃.exported, fun _ => hrestored⟩,
      fun _ => by simp, id, fun pvc hpvc => ⟨pvc, hpvc, rfl⟩⟩, ?_⟩, trivial⟩
    exact ⟨by simp, hexported, .inl hrestored⟩

theorem Ends.keeps (h : v.Ends cs s p) (hk : v.Keeps cs s t) : v.Ends cs t p := by
  cases p with
  | ok a => exact Done.keeps h hk
  | error | panic => exact h.elim
  | call op k => trivial

theorem Done.removed (h : v.Done cs s) : v.Removed cs (v.cascade cs s) := by
  obtain ⟨hrestore, hexported, hclaim⟩ := h
  unfold cascade
  split
  · exact ⟨hrestore, hexported, by simp⟩
  · rename_i hnot
    exact ⟨hrestore, hexported, hclaim.resolve_left fun hrestored => hnot ⟨hrestored, hrestore⟩⟩

structure DeleteInv (v : HostVolume) (cs : ControllerServer) (c : CallPool ι) : Prop where
  stored : v.Stored cs c.state
  ends : ∀ i, v.Ends cs c.state (c.procs i)

theorem DeleteInv.start (hid : v.claim ≠ "") (hs : v.Stored cs s) :
    DeleteInv v cs (v.deleteCalls cs ι s) := by
  refine ⟨hs, fun _ => ?_⟩
  simp only [deleteCalls, cs.deleteVolume_eq hid]
  trivial

theorem DeleteInv.env {c : CallPool ι} (hinv : DeleteInv v cs c) (hother : v.Others cs c.state t) :
    DeleteInv v cs { c with state := t, history := .env c.state t :: c.history } := by
  have hk := hother.moves hinv.stored
  exact ⟨hk.stored, fun i => (hinv.ends i).keeps hk⟩

theorem DeleteInv.call [DecidableEq ι] {c : CallPool ι} (hinv : DeleteInv v cs c)
    (hgood : v.GoodDelete cs op c.state r t rest) :
    DeleteInv v cs { state := t, procs := Function.update c.procs i rest,
                     history := .call i op r c.state t rest :: c.history } := by
  obtain ⟨hk, hend⟩ := hgood hinv.stored
  refine ⟨hk.stored, fun j => ?_⟩
  by_cases hj : j = i
  · subst hj
    simpa using hend
  · simpa [hj] using (hinv.ends j).keeps hk

/-- In a run of any number of deletions in which no restore and no export is
removed between the read and the delete of another deletion: a call still has
calls to make, or it has returned, and then nothing of the volume is left but
what the garbage collector takes. -/
theorem deletions_return [DecidableEq ι] {c : CallPool ι} (hid : v.claim ≠ "") (hs : v.Stored cs s₀)
    (h : Reach (v.Others cs) Serves (fun _ e => e.All fun _ op s _ _ _ => Unraced op s)
      (v.deleteCalls cs ι s₀) c) (i : ι) :
    (∃ op k, c.procs i = .call op k) ∨
      c.procs i = .ok () ∧ v.Removed cs (v.cascade cs c.state) := by
  have hsafe (i : ι) : v.SafeDelete cs ((v.deleteCalls cs ι s₀).procs i) s₀ :=
    deleteVolume_safe hid hs
  have hinv : DeleteInv v cs c := by
    refine h.invariant (fun c h => (h.good ?_ ?_ ?_ ?_ ?_ hsafe rfl).2) (.start hid hs)
      (fun _ _ => DeleteInv.env) (fun _ _ _ _ _ _ hinv _ _ _ hgood => hinv.call hgood)
    · exact fun s t u hst htu hs => (hst hs).trans (htu (hst hs).stored)
    · exact fun s hs => .refl hs
    · exact fun s t hother => hother.moves
    · exact fun _ _ _ _ _ _ _ hgood hs => (hgood hs).1
    · exact fun _ _ hallowed => hallowed
  have hend := hinv.ends i
  cases hp : c.procs i with
  | call op k => exact .inl ⟨op, k, rfl⟩
  | ok a =>
    rw [hp] at hend
    exact .inr ⟨rfl, Done.removed hend⟩
  | error | panic =>
    rw [hp] at hend
    exact hend.elim

end

end HostVolume

-- ---------------------------------------------------------------------------
-- Two deletions of an exported volume
-- ---------------------------------------------------------------------------

def exampleVolume : HostVolume := ⟨"v", "pvc-1", false⟩

theorem shareCluster_hostVolume : exampleVolume.Stored exampleServer shareCluster where
  claim := by
    rintro pvc ⟨⟩
    exact ⟨rfl, by simp⟩
  bound _ _ _ _ := by decide
  exported _ := ⟨rfl, _, _, _, rfl, rfl, by decide, rfl, rfl, rfl⟩
  restore h := absurd rfl h

theorem deletions_return_in_turn :
    let p := (exampleVolume.deleteCalls exampleServer (Fin 2) shareCluster).turns Cluster.serve
      [0, 0, 0, 0, 0, 0, 1, 1]
    p.procs 0 = .ok () ∧ p.procs 1 = .ok () ∧
      exampleVolume.Removed exampleServer (exampleVolume.cascade exampleServer p.state) := by
  intro p
  have h₀ : Reach (exampleVolume.Others exampleServer) Serves
    (fun _ e => e.All fun _ op s _ _ _ => HostVolume.Unraced op s)
    (exampleVolume.deleteCalls exampleServer (Fin 2) shareCluster) _ := .start
  have h₁ := h₀.call (i := 0) rfl rfl trivial
  have h₂ := h₁.call (i := 0) rfl rfl trivial
  have h₃ := h₂.call (i := 0) rfl rfl trivial
  have h₄ := h₃.call (i := 0) rfl rfl trivial
  -- the export is deleted while it is there
  have h₅ := h₄.call (i := 0) rfl rfl (by rintro ⟨⟩)
  have h₆ := h₅.call (i := 0) rfl rfl trivial
  have h₇ := h₆.call (i := 1) rfl rfl trivial
  have h₈ : Reach _ _ _ _ p := h₇.call (i := 1) rfl rfl trivial
  rcases HostVolume.deletions_return (by decide) shareCluster_hostVolume h₈ 0 with ⟨_, _, ⟨⟩⟩ | hok
  exact ⟨hok.1, rfl, hok.2⟩

/-- Both read the export, and the one that deletes it second fails. -/
theorem deletion_fails_beside_twin :
    let start := exampleVolume.deleteCalls exampleServer (Fin 2) shareCluster
    let p := start.turns Cluster.serve [0, 0, 0, 0, 1, 1, 1, 1, 0, 1]
    Reach (exampleVolume.Others exampleServer) Serves anyStep start p ∧
      exampleVolume.Stored exampleServer shareCluster ∧
      p.procs 1 = .error (.status .internal ("Failed to delete NetworkFileSystem pvc-1: " ++
        "networkfilesystems.harvesterhci.io \"pvc-1\" not found")) :=
  ⟨Reach.start.turns (fun _ _ => rfl) _, shareCluster_hostVolume, rfl⟩

end HarvesterCSI
