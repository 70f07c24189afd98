import HarvesterCSI.Laws.Crashes

/-!
# From CreateVolume to DeleteVolume

A create may fail at any call, also after the call has done its work, and the volume may
be bound early, late or never. Whatever it leaves behind, one delete of that name takes
away: the restore, or the claim and its export. The claim of a restore is made by the
host, and the delete leaves it to the host.
-/

namespace HarvesterCSI

open Calls Calls.Prog

/-- What the host does meanwhile to what has these keys. It binds claims, once, and makes
the claim of a restore. -/
structure BindsWhere (P : Key → Prop) (s t : Cluster) : Prop where
  classes : t.storageClasses = s.storageClasses
  restores : ∀ key, P key → (t.restores.get key = none ↔ s.restores.get key = none)
  absent : ∀ key, P key → s.pvcs.get key = none → s.restores.get key = none → t.pvcs.get key = none
  claims : ∀ key pvc, P key → s.pvcs.get key = some pvc → ∃ pvc', t.pvcs.get key = some pvc' ∧
    pvc'.accessModes = pvc.accessModes ∧ pvc'.volumeMode = pvc.volumeMode ∧
    pvc'.storageClassName = pvc.storageClassName ∧
    (pvc.volumeName ≠ "" → pvc'.volumeName = pvc.volumeName)

structure Binds (s t : Cluster) : Prop where
  objects : BindsWhere (fun _ => True) s t
  exports : t.networkFSs = s.networkFSs

def PVC.Shared (s : Cluster) (pvc : PVC) : Prop :=
  pvc.volumeMode = some .filesystem ∧ ∃ sc, pvc.storageClassName = some sc.name ∧
    s.storageClasses.get sc.name = some sc ∧ sc.provisioner = longhornProvisioner

def BoundAs (key : Key) (volume : String) (s : Cluster) : Prop :=
  volume ≠ "" ∧ ∃ pvc, s.pvcs.get key = some pvc ∧ pvc.volumeName = volume

/-- Others leave storage classes and the names of bound volumes alone. -/
def boundKept (key : Key) : Rely Cluster where
  moves s t := t.storageClasses = s.storageClasses ∧
    (∀ volume, BoundAs key volume s → BoundAs key volume t) ∧
    ∀ pvc, s.pvcs.get key = some pvc → ∃ pvc', t.pvcs.get key = some pvc' ∧
      pvc'.volumeMode = pvc.volumeMode ∧ pvc'.storageClassName = pvc.storageClassName
  refl s := ⟨rfl, fun _ => id, fun pvc h => ⟨pvc, h, rfl, rfl⟩⟩
  trans h₁ h₂ := by
    refine ⟨h₂.1.trans h₁.1, fun volume h => h₂.2.1 volume (h₁.2.1 volume h), fun pvc h => ?_⟩
    obtain ⟨pvc₁, hget₁, hmode₁, hclass₁⟩ := h₁.2.2 pvc h
    obtain ⟨pvc₂, hget₂, hmode₂, hclass₂⟩ := h₂.2.2 pvc₁ hget₁
    exact ⟨pvc₂, hget₂, hmode₂.trans hmode₁, hclass₂.trans hclass₁⟩

section
variable {cs : ControllerServer} {req : CreateVolumeRequest} {s : Cluster}

theorem PVC.Shared.move (h : PVC.Shared s pvc) (hmove : (boundKept key).moves s t) :
    PVC.Shared t pvc := by
  obtain ⟨hmode, sc, hname, hget, hprovisioner⟩ := h
  exact ⟨hmode, sc, hname, hmove.1 ▸ hget, hprovisioner⟩

namespace ControllerServer

end ControllerServer

-- ---------------------------------------------------------------------------
-- What is left behind
-- ---------------------------------------------------------------------------

/-- What a create that started from `s₀` can have left: a claim that the driver can read,
and no export that is new but that of the claim. -/
structure LeftBy (cs : ControllerServer) (req : CreateVolumeRequest) (s₀ s : Cluster) : Prop where
  claim : s.restores.get (cs.ns, req.name) = none →
    ∀ pvc, s.pvcs.get (cs.ns, req.name) = some pvc → pvc.accessModes = [.readWriteMany] ∧
      (pvc.volumeMode = some .filesystem → pvc.storageClassName ≠ none)
  exports : ∀ volume fs, s.networkFSs.get (harvesterNS, volume) = some fs →
    s₀.networkFSs.get (harvesterNS, volume) = some fs ∨
      s.restores.get (cs.ns, req.name) = none ∧ volume ≠ "" ∧
        ∃ pvc, s.pvcs.get (cs.ns, req.name) = some pvc ∧ pvc.Shared s ∧ pvc.volumeName = volume
  kept : ∀ key fs, s₀.networkFSs.get key = some fs → s.networkFSs.get key = some fs
  /-- A restore is made only by a create that makes no claim. -/
  restore : cs.isBackupSnapshotRestore req = false → s.restores.get (cs.ns, req.name) = none
  backup : cs.isBackupSnapshotRestore req = true → s.restores.get (cs.ns, req.name) = none →
    s.pvcs.get (cs.ns, req.name) = none
  elsewhere : BindsWhere (· ≠ (cs.ns, req.name)) s₀ s

theorem BindsWhere.refl (P : Key → Prop) (s : Cluster) : BindsWhere P s s :=
  ⟨rfl, fun _ _ => Iff.rfl, fun _ _ h _ => h,
    fun _ pvc _ h => ⟨pvc, h, rfl, rfl, rfl, fun _ => rfl⟩⟩

theorem BindsWhere.trans {P : Key → Prop} (h : BindsWhere P r s) (h' : BindsWhere P s t) :
    BindsWhere P r t where
  classes := h'.classes.trans h.classes
  restores key hkey := (h'.restores key hkey).trans (h.restores key hkey)
  absent key hkey hpvc hrestore :=
    h'.absent key hkey (h.absent key hkey hpvc hrestore) ((h.restores key hkey).mpr hrestore)
  claims key pvc hkey hpvc := by
    obtain ⟨pvc₁, hpvc₁, hmodes₁, hmode₁, hclass₁, hname₁⟩ := h.claims key pvc hkey hpvc
    obtain ⟨pvc₂, hpvc₂, hmodes₂, hmode₂, hclass₂, hname₂⟩ := h'.claims key pvc₁ hkey hpvc₁
    refine ⟨pvc₂, hpvc₂, hmodes₂.trans hmodes₁, hmode₂.trans hmode₁, hclass₂.trans hclass₁, ?_⟩
    intro hne
    have hvolume := hname₁ hne
    exact (hname₂ (hvolume ▸ hne)).trans hvolume

theorem BindsWhere.mono {P : Key → Prop} (h : BindsWhere (fun _ => True) s t) : BindsWhere P s t :=
  ⟨h.classes, fun key _ => h.restores key trivial, fun key _ => h.absent key trivial,
    fun key pvc _ => h.claims key pvc trivial⟩

theorem BindsWhere.of_same {P : Key → Prop} (hclasses : t.storageClasses = s.storageClasses)
    (hpvcs : s.pvcs.SameBut (¬ P ·) t.pvcs) (hrestores : s.restores.SameBut (¬ P ·) t.restores) :
    BindsWhere P s t where
  classes := hclasses
  restores key hkey := by rw [hrestores key (not_not.mpr hkey)]
  absent key hkey hpvc _ := (hpvcs key (not_not.mpr hkey)).trans hpvc
  claims key pvc hkey hpvc :=
    ⟨pvc, (hpvcs key (not_not.mpr hkey)).trans hpvc, rfl, rfl, rfl, fun _ => rfl⟩

theorem Binds.boundKept (h : Binds s t) (key : Key) : (boundKept key).moves s t := by
  refine ⟨h.objects.classes, ?_, fun pvc hpvc => ?_⟩
  · rintro volume ⟨hne, pvc, hpvc, rfl⟩
    obtain ⟨pvc', hpvc', -, -, -, hname⟩ := h.objects.claims key pvc trivial hpvc
    exact ⟨hne, pvc', hpvc', hname hne⟩
  · obtain ⟨pvc', hpvc', -, hmode, hclass, -⟩ := h.objects.claims key pvc trivial hpvc
    exact ⟨pvc', hpvc', hmode, hclass⟩

def readAt (cs : ControllerServer) (s : Cluster) : Reads where
  volumes name volume := ∃ pvc, s.pvcs.get (cs.ns, name) = some pvc ∧ pvc.volumeName = volume
  plugged name v := ∃ vm, s.vms.get (cs.ns, name) = some vm ∧ vm.isHotplugName v = true

/-- The create that led from `s₀` to `s` and the delete that led on to `t` have together
left nothing: no restore, no new export, and the claim only where the host has made it for
a restore. All else is as it was, but for what the host has done. -/
structure Undone (cs : ControllerServer) (name : String) (s₀ s t : Cluster) : Prop where
  restore : t.restores.get (cs.ns, name) = none
  claim : s.restores.get (cs.ns, name) = none → t.pvcs.get (cs.ns, name) = none
  exports : ∀ volume fs, t.networkFSs.get (harvesterNS, volume) = some fs →
    s₀.networkFSs.get (harvesterNS, volume) = some fs
  exportsKept : ∀ key fs, s₀.networkFSs.get key = some fs → t.networkFSs.get key = some fs ∨
    ∃ pvc, s.pvcs.get (cs.ns, name) = some pvc ∧ pvc.Shared s ∧ key = (harvesterNS, pvc.volumeName)
  elsewhere : BindsWhere (· ≠ (cs.ns, name)) s₀ t
  confined : Confined cs (readAt cs s) (.deleteVolume name) s t

def ExportKey (cs : ControllerServer) (name : String) (s : Cluster) (key : Key) : Prop :=
  ∃ pvc, s.pvcs.get (cs.ns, name) = some pvc ∧ pvc.Shared s ∧ key = (harvesterNS, pvc.volumeName)

theorem LeftBy.undone_claim (h : LeftBy cs req s₀ s)
    (hrestore : s.restores.get (cs.ns, req.name) = none) (rev : Nat)
    {pvcs : Store fun pvc : PVC => (pvc.ns, pvc.name)}
    {networkFSs : Store fun fs : NetworkFilesystem => (fs.ns, fs.name)}
    (hpvcs : s.pvcs.SameBut (· = (cs.ns, req.name)) pvcs)
    (hgone : pvcs.get (cs.ns, req.name) = none)
    (hexports : s.networkFSs.SameBut (ExportKey cs req.name s) networkFSs)
    (hnone : ∀ key, ExportKey cs req.name s key → networkFSs.get key = none) :
    Undone cs req.name s₀ s { s with rev := rev, pvcs := pvcs, networkFSs := networkFSs } where
  restore := hrestore
  claim _ := hgone
  exports volume fs hfs := by
    by_cases hkey : ExportKey cs req.name s (harvesterNS, volume)
    · cases (hnone _ hkey).symm.trans hfs
    · refine (h.exports volume fs ((hexports _ hkey).symm.trans hfs)).resolve_right ?_
      rintro ⟨-, -, pvc, hpvc, hshared, rfl⟩
      exact hkey ⟨pvc, hpvc, hshared, rfl⟩
  exportsKept key fs hfs := by
    by_cases hkey : ExportKey cs req.name s key
    · exact .inr hkey
    · exact .inl ((hexports key hkey).trans (h.kept key fs hfs))
  elsewhere := h.elsewhere.trans
    (.of_same rfl (fun key hkey => hpvcs key (not_not.mp hkey)) (.refl _))
  confined := by
    refine { Confined.refl (readAt cs s) with pvcs := ?_, networkFSs := ?_ }
    · intro key hother
      refine hpvcs key ?_
      rintro rfl
      exact hother ⟨rfl, rfl⟩
    · intro key hother
      refine hexports key ?_
      rintro ⟨pvc, hpvc, -, rfl⟩
      exact hother ⟨rfl, req.name, rfl, pvc, hpvc, rfl⟩

theorem LeftBy.undone_restore (h : LeftBy cs req s₀ s)
    (hrestore : s.restores.get (cs.ns, req.name) ≠ none) :
    Undone cs req.name s₀ s
      { s with rev := s.rev + 1, restores := s.restores.erase (cs.ns, req.name) } where
  restore := by simp
  claim hnone := absurd hnone hrestore
  exports volume fs hfs := by
    refine (h.exports volume fs hfs).resolve_right ?_
    rintro ⟨hnone, -⟩
    exact hrestore hnone
  exportsKept key fs hfs := .inl (h.kept key fs hfs)
  elsewhere := h.elsewhere.trans (.of_same rfl (.refl _) (.erase _ (not_not.mpr rfl)))
  confined := { Confined.refl (readAt cs s) with restores := .erase _ ⟨rfl, rfl⟩ }

theorem run_deleteExport_served (hvolume : volume ≠ "") (s : Cluster) :
    ∃ rev networkFSs, run Cluster.serve (ControllerServer.deleteVolume.deleteExport volume) s =
        (.ok (), { s with rev := rev, networkFSs := networkFSs }) ∧
      networkFSs.get (harvesterNS, volume) = none ∧
      s.networkFSs.SameBut (· = (harvesterNS, volume)) networkFSs := by
  cases hfs : s.networkFSs.get (harvesterNS, volume) with
  | none =>
    refine ⟨s.rev, s.networkFSs, ?_, hfs, .refl _⟩
    simp [ControllerServer.deleteVolume.deleteExport, Cluster.serve, hfs, missing_of_ne hvolume,
      notFound]
  | some fs =>
    refine ⟨s.rev + 1, s.networkFSs.erase (harvesterNS, volume), ?_, by simp, .erase _ rfl⟩
    simp [ControllerServer.deleteVolume.deleteExport, Cluster.serve, hfs]

theorem run_isLHRWXVolume_other (cs : ControllerServer) {pvc : PVC}
    (hmodes : pvc.accessModes = [.readWriteMany])
    (hclass : pvc.volumeMode = some .filesystem → pvc.storageClassName ≠ none)
    (hother : ¬ pvc.Shared s) : run Cluster.serve (cs.isLHRWXVolume pvc) s = (.ok false, s) := by
  by_cases hmode : pvc.volumeMode = some .filesystem
  · obtain ⟨name, hname⟩ := Option.ne_none_iff_exists'.mp (hclass hmode)
    rw [cs.isLHRWXVolume_eq hmode hmodes hname, run_call]
    cases hget : s.storageClasses.get name with
    | none => simp [Cluster.serve, hget]
    | some sc =>
      have hkey : sc.name = name := Store.get_key hget
      have hprovisioner : sc.provisioner ≠ longhornProvisioner := fun hprovisioner =>
        hother ⟨hmode, sc, hkey ▸ hname, hkey ▸ hget, hprovisioner⟩
      simp [Cluster.serve, hget, hprovisioner]
  · rw [ControllerServer.isLHRWXVolume, if_neg hmode, run_ok]

theorem run_isLHRWXVolume_shared (cs : ControllerServer) {pvc : PVC}
    (hmodes : pvc.accessModes = [.readWriteMany]) (hshared : pvc.Shared s) :
    run Cluster.serve (cs.isLHRWXVolume pvc) s = (.ok true, s) := by
  obtain ⟨hmode, sc, hsc, hget, hprovisioner⟩ := hshared
  rw [cs.isLHRWXVolume_eq hmode hmodes hsc, run_call]
  simp [Cluster.serve, hget, hprovisioner]

/-- The claim of a shared volume that is not bound yet. Its export has no name. -/
def UnboundShare (cs : ControllerServer) (name : String) (s : Cluster) : Prop :=
  s.restores.get (cs.ns, name) = none ∧
    ∃ pvc, s.pvcs.get (cs.ns, name) = some pvc ∧ pvc.Shared s ∧ pvc.volumeName = ""

theorem run_noRestore (hname : name ≠ "") (hrestore : s.restores.get (cs.ns, name) = none) :
    run Cluster.serve (cs.deleteVolumeRemoteRestoreIfExists name) s = (.ok false, s) := by
  simp [ControllerServer.deleteVolumeRemoteRestoreIfExists, Cluster.serve, hrestore,
    missing_of_ne hname, notFound]

theorem LeftBy.run_deleteVolume (h : LeftBy cs req s₀ s) (hname : req.name ≠ "")
    (hbound : ¬ UnboundShare cs req.name s) :
    ∃ t, run Cluster.serve (cs.deleteVolume req.name) s = (.ok (), t) ∧
      Undone cs req.name s₀ s t := by
  rw [ControllerServer.deleteVolume_eq cs hname, run_bind]
  cases hrestore : s.restores.get (cs.ns, req.name) with
  | some vrr =>
    refine ⟨_, ?_, h.undone_restore (by simp [hrestore])⟩
    simp [ControllerServer.deleteVolumeRemoteRestoreIfExists, Cluster.serve, hrestore]
  | none =>
    rw [run_noRestore hname hrestore]
    cases hpvc : s.pvcs.get (cs.ns, req.name) with
    | none =>
      have hno (key) : ¬ ExportKey cs req.name s key := by
        rintro ⟨pvc, hthere, -⟩
        cases hpvc.symm.trans hthere
      refine ⟨s, ?_, h.undone_claim hrestore s.rev (.refl _) hpvc (.refl _) fun key hkey => ?_⟩
      · simp [ControllerServer.deleteHostPVC, Cluster.serve, hpvc, missing_of_ne hname, notFound]
      · exact absurd hkey (hno key)
    | some pvc =>
      obtain ⟨hmodes, hclass⟩ := h.claim hrestore pvc hpvc
      by_cases hshared : pvc.Shared s
      · -- its export goes first
        have hvolume : pvc.volumeName ≠ "" := fun hempty =>
          hbound ⟨hrestore, pvc, hpvc, hshared, hempty⟩
        obtain ⟨rev, networkFSs, hexport, hnone, hsame⟩ := run_deleteExport_served hvolume s
        have hkey (key) (hkey : ExportKey cs req.name s key) :
            key = (harvesterNS, pvc.volumeName) := by
          obtain ⟨pvc', hthere, -, rfl⟩ := hkey
          cases hpvc.symm.trans hthere
          rfl
        have hsame' : s.networkFSs.SameBut (ExportKey cs req.name s) networkFSs := by
          intro key hother
          refine hsame key ?_
          rintro rfl
          exact hother ⟨pvc, hpvc, hshared, rfl⟩
        refine ⟨_, ?_, h.undone_claim hrestore (rev + 1) (.erase _ rfl) (by simp) hsame'
          fun key hexport => (hkey key hexport).symm ▸ hnone⟩
        simp [ControllerServer.deleteHostPVC, ControllerServer.deleteClaim, Cluster.serve, hpvc,
          run_bind, run_isLHRWXVolume_shared cs hmodes hshared, hexport]
      · have hno (key) : ¬ ExportKey cs req.name s key := by
          rintro ⟨pvc', hthere, hshared', -⟩
          cases hpvc.symm.trans hthere
          exact hshared hshared'
        refine ⟨_, ?_, h.undone_claim hrestore (s.rev + 1) (.erase _ rfl) (by simp) (.refl _)
          fun key hkey => absurd hkey (hno key)⟩
        simp [ControllerServer.deleteHostPVC, ControllerServer.deleteClaim, Cluster.serve, hpvc,
          run_bind, run_isLHRWXVolume_other cs hmodes hclass hshared]

end

theorem Binds.refl (s : Cluster) : Binds s s := ⟨.refl _ s, rfl⟩

theorem Binds.trans (r s t : Cluster) (h : Binds r s) (h' : Binds s t) : Binds r t :=
  ⟨h.objects.trans h'.objects, h'.exports.trans h.exports⟩

theorem Binds.bind (hpvc : s.pvcs.get key = some pvc) (hunbound : pvc.volumeName = "")
    (volume : String) :
    Binds s { s with pvcs := s.pvcs.put { pvc with volumeName := volume } } := by
  have hkey := Store.get_key hpvc
  refine ⟨⟨rfl, fun _ _ => Iff.rfl, fun k _ hnone _ => ?_, fun k old _ hold => ?_⟩, rfl⟩
  · rw [Store.get_put, if_neg, hnone]
    rintro rfl
    cases (hkey ▸ hpvc).symm.trans hnone
  · rw [Store.get_put]
    split
    · rename_i hsame
      rw [hsame] at hold
      cases (hkey ▸ hpvc).symm.trans hold
      exact ⟨_, rfl, rfl, rfl, rfl, fun hne => absurd hunbound hne⟩
    · exact ⟨old, hold, rfl, rfl, rfl, fun _ => rfl⟩

def MadeClaim (key : Key) : (op : Op) → op.Res → Prop
  | .createPVC pvc, .ok _ => (pvc.ns, pvc.name) = key
  | _, _ => False

def claimKept (key : Key) : Rely Cluster where
  moves s t := VersionMoves s t ∧ (s.pvcs.get key ≠ none → t.pvcs.get key ≠ none)
  refl s := ⟨versions.refl s, id⟩
  trans h₁ h₂ := ⟨versions.trans h₁.1 h₂.1, fun hs => h₂.2 (h₁.2 hs)⟩

theorem MadeClaim.once (hseen : MadeClaim key op r) (h : Wavers op s r t) :
    ¬ s.pvcs.get key ≠ none ∧ t.pvcs.get key ≠ none := by
  cases op with
  | createPVC pvc =>
    cases r with
    | error e => exact hseen.elim
    | ok res =>
      obtain ⟨hnew, -, rfl⟩ := Cluster.Answers.createPVC_ok (.inl h.served)
      rw [← show (pvc.ns, pvc.name) = key from hseen, Cluster.get_setPVC]
      exact ⟨not_not.mpr hnew, Option.some_ne_none _⟩
  | _ => exact hseen.elim

theorem Effect.claimKept {call : DriverCall} (h : Effect cs known call s t)
    (hcall : call ≠ .deleteVolume name) (hs : s.pvcs.get (cs.ns, name) ≠ none) :
    t.pvcs.get (cs.ns, name) ≠ none := by
  cases h with
  | createClaim | grow =>
    simp only [Cluster.setPVC, Store.get_put]
    split
    · exact Option.some_ne_none _
    · exact hs
  | @deleteClaim volumeId =>
    simp only [Store.get_erase]
    split
    · rename_i hsame
      cases hsame
      exact absurd rfl hcall
    · exact hs
  | _ => exact hs

theorem createVolume_awaits (cs : ControllerServer) (req : CreateVolumeRequest)
    (hbackup : cs.isBackupSnapshotRestore req = false) :
    (cs.createVolume ticks req).Awaits (MadeClaim (cs.ns, req.name)) fun _ => False := by
  refine (ControllerServer.validateCreateVolReq_returns req).awaits.bind ?_
  rintro ⟨vp, size⟩ hr
  cases hr
  dsimp only
  rw [hbackup, if_neg Bool.false_ne_true]
  refine (ControllerServer.buildHostPVC_returns req).awaits.bind fun hostPVC hbuilds => ?_
  intro r
  cases r with
  | error e => exact .inr trivial
  | ok resHostPVC => exact .inl hbuilds.key

/-- Of any number of creates of one name at the same time, with whatever parameters, at
most one returns, as long as nobody deletes the volume. -/
theorem one_create_returns [DecidableEq ι] (cs : ControllerServer) (calls : ι → DriverCall)
    (name : String) (hcalls : ∀ k, calls k ≠ .deleteVolume name) (s₀ : Cluster) (hs : Versioned s₀)
    (h : Reach (claimKept (cs.ns, name)).moves Wavers anyStep (driverCalls cs calls s₀) c)
    (hi : calls i = .createVolume ticks req) (hj : calls j = .createVolume ticks' req')
    (hname : req.name = name) (hname' : req'.name = name)
    (hbackup : cs.isBackupSnapshotRestore req = false)
    (hbackup' : cs.isBackupSnapshotRestore req' = false) (hireturned : c.procs i = .ok ())
    (hjreturned : c.procs j = .ok ()) : i = j := by
  have hkeeps (c)
      (hc : Reach (claimKept (cs.ns, name)).moves Wavers anyStep (driverCalls cs calls s₀) c) (e)
      (he : e ∈ c.history) :
      e.All fun _ _ s _ t _ => s.pvcs.get (cs.ns, name) ≠ none →
        t.pvcs.get (cs.ns, name) ≠ none := by
    have hstep := hc.guaranteed (fun _ _ hmove => hmove.1) (driver_guarantees cs calls hs) rfl e he
    cases e with
    | env => trivial
    | call k => exact hstep.2.claimKept (hcalls k)
  have hawaits (k) {ticks} {req : CreateVolumeRequest} (hk : calls k = .createVolume ticks req)
      (hname : req.name = name) (hbackup : cs.isBackupSnapshotRestore req = false) :
      ((driverCalls cs calls s₀).procs k).Awaits (MadeClaim (cs.ns, name)) fun _ => False := by
    simp only [driverCalls, hk, DriverCall.prog, unanswered]
    refine (hname ▸ createVolume_awaits cs req hbackup).bind fun _ hnever => ?_
    exact hnever.elim
  have honce := h.saw_once (fun _ _ hmove => hmove.2) hkeeps
    (fun _ _ _ _ hanswer hseen => MadeClaim.once hseen hanswer) rfl
  exact honce.2 i j (h.saw (hawaits i hi hname hbackup) hireturned)
    (h.saw (hawaits j hj hname' hbackup') hjreturned)

def sameName (i : Bool) : CreateVolumeRequest where
  name := "v"
  requiredBytes := if i then some (20 * 1024 * 1024) else none
  volumeCapabilities := [singleWriter]

def createTwice : CallPool Bool :=
  (driverCalls exampleServer (fun i => .createVolume 0 (sameName i)) Cluster.empty).turns
    Cluster.serve [false, true]

theorem one_create_returns_of_two :
    createTwice.procs false = .ok () ∧ ∀ j, createTwice.procs j = .ok () → false = j := by
  have hreturned : createTwice.procs false = .ok () := rfl
  refine ⟨hreturned, fun j hj => ?_⟩
  refine one_create_returns exampleServer (fun i => .createVolume 0 (sameName i)) "v" ?_
    Cluster.empty .empty
    (Reach.start.turns (fun _ _ => .inl rfl) _) rfl rfl rfl rfl rfl rfl hreturned hj
  rintro k ⟨⟩

end HarvesterCSI
