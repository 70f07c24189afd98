import HarvesterCSI.Laws.Create

/-!
# The capabilities of a new volume

A request lists the ways in which its volume will be used. All of them are checked,
and then the first one that is known decides whether the claim is a block device or
a filesystem.
-/

namespace HarvesterCSI

open Calls Calls.Prog
open Cluster (Serves)

-- ---------------------------------------------------------------------------
-- Checking
-- ---------------------------------------------------------------------------

/-- One of mount and block, and an access mode that the server supports. -/
def VolumeCapability.Acceptable (cap : VolumeCapability) (cs : ControllerServer) : Prop :=
  cap.mount ≠ cap.block ∧ cap.mode ∈ cs.accessModes

instance (cap : VolumeCapability) (cs : ControllerServer) : Decidable (cap.Acceptable cs) :=
  inferInstanceAs (Decidable (_ ∧ _))

/-- The capability that the check ends with. -/
def firstRejected (cs : ControllerServer) (caps : List VolumeCapability) :
    Option VolumeCapability :=
  caps.find? fun cap => ¬ cap.Acceptable cs

structure CapabilitiesChecked (cs : ControllerServer) (caps : List VolumeCapability) : Prop where
  total : cs.validateVolumeCapabilities caps ≠ .panic
  accepts : cs.validateVolumeCapabilities caps = .ok () ↔ ∀ cap ∈ caps, cap.Acceptable cs
  rejects : (∃ cap ∈ caps, ¬ cap.Acceptable cs) →
    ∃ msg, cs.validateVolumeCapabilities caps = .error (.status .invalidArgument msg)
  mode : cs.validateVolumeCapabilities caps = .ok () →
    ControllerServer.getVolumeMode caps = .block ∨ ControllerServer.getVolumeMode caps = .filesystem

section
variable {cs : ControllerServer} {cap : VolumeCapability} {caps : List VolumeCapability}

theorem firstRejected_none : firstRejected cs caps = none ↔ ∀ cap ∈ caps, cap.Acceptable cs := by
  simp [firstRejected]

theorem firstRejected_some (h : firstRejected cs caps = some cap) :
    cap ∈ caps ∧ ¬ cap.Acceptable cs := by
  have hrejected := List.find?_some h
  exact ⟨List.mem_of_find?_eq_some h, by simpa using hrejected⟩

namespace ControllerServer

theorem validateVolumeCapability_acceptable (h : cap.Acceptable cs) :
    cs.validateVolumeCapability cap = .ok () := by
  obtain ⟨htype, hmode⟩ := h
  unfold validateVolumeCapability
  cases hmount : cap.mount <;> cases hblock : cap.block <;> simp_all

/-- The message is made from the access mode, so that there has to be one. -/
theorem validateVolumeCapability_rejected (h : ¬ cap.Acceptable cs) :
    (cap.mount ≠ cap.block ∧ cap.accessMode = none) ∧ cs.validateVolumeCapability cap = .panic ∨
      (cap.mount ≠ cap.block → cap.accessMode ≠ none) ∧
        ∃ msg, cs.validateVolumeCapability cap = .error (.status .invalidArgument msg) := by
  unfold validateVolumeCapability
  split
  · rename_i hneither
    refine .inr ⟨fun htype => absurd ?_ htype, _, rfl⟩
    simp only [Bool.and_eq_true, Bool.not_eq_true'] at hneither
    rw [hneither.1, hneither.2]
  · split
    · rename_i hboth
      refine .inr ⟨fun htype => absurd ?_ htype, _, rfl⟩
      simp only [Bool.and_eq_true] at hboth
      rw [hboth.1, hboth.2]
    · rename_i hneither hboth
      have htype : cap.mount ≠ cap.block := by
        cases hmount : cap.mount <;> cases hblock : cap.block <;> simp_all
      rw [if_neg fun hmode => h ⟨htype, hmode⟩]
      cases haccess : cap.accessMode with
      | none => exact .inl ⟨⟨htype, rfl⟩, rfl⟩
      | some mode => exact .inr ⟨fun _ => by simp, _, rfl⟩

theorem validateVolumeCapability_stops (h : ¬ cap.Acceptable cs) (p : Unit → Api Unit) :
    (cs.validateVolumeCapability cap >>= p) = cs.validateVolumeCapability cap := by
  rcases validateVolumeCapability_rejected h with ⟨-, hpanic⟩ | ⟨-, msg, hmsg⟩
  · rw [hpanic, panic_bind]
  · rw [hmsg, error_bind]

theorem validateVolumeCapabilities_eq (cs : ControllerServer) (hne : caps ≠ []) :
    cs.validateVolumeCapabilities caps =
      match firstRejected cs caps with
      | none => .ok ()
      | some cap => cs.validateVolumeCapability cap := by
  have hgo (caps : List VolumeCapability) : validateVolumeCapabilities.go cs caps =
      match firstRejected cs caps with
      | none => .ok ()
      | some cap => cs.validateVolumeCapability cap := by
    induction caps with
    | nil => rfl
    | cons cap rest ih =>
      by_cases hcap : cap.Acceptable cs
      · have hfirst : firstRejected cs (cap :: rest) = firstRejected cs rest := by
          simp [firstRejected, hcap]
        rw [validateVolumeCapabilities.go, validateVolumeCapability_acceptable hcap, ok_bind, ih,
          hfirst]
      · have hfirst : firstRejected cs (cap :: rest) = some cap := by simp [firstRejected, hcap]
        rw [validateVolumeCapabilities.go, hfirst]
        exact validateVolumeCapability_stops hcap _
  cases caps with
  | nil => exact absurd rfl hne
  | cons cap rest => exact hgo (cap :: rest)

theorem getVolumeMode_cons (h : cap.Acceptable cs) (rest : List VolumeCapability) :
    getVolumeMode (cap :: rest) =
      if cap.mode = .multiNodeMultiWriter then .filesystem else .block := by
  have hmode := validateVolumeCapability_ok (validateVolumeCapability_acceptable h)
  rcases hmode with hmode | hmode <;> simp [getVolumeMode, hmode]

end ControllerServer

end

/-- The check is right about a list exactly if the first capability that is not
acceptable does not lack just its access mode. -/
theorem capabilities_checked_iff {cs : ControllerServer} {req : CreateVolumeRequest}
    (hne : req.volumeCapabilities ≠ []) :
    CapabilitiesChecked cs req.volumeCapabilities ↔
      ∀ cap, firstRejected cs req.volumeCapabilities = some cap →
        cap.mount ≠ cap.block → cap.accessMode ≠ none := by
  have heq := cs.validateVolumeCapabilities_eq hne
  constructor
  · intro hchecked cap hfirst
    obtain ⟨hmem, hcap⟩ := firstRejected_some hfirst
    obtain ⟨msg, hmsg⟩ := hchecked.rejects ⟨cap, hmem, hcap⟩
    rw [heq, hfirst] at hmsg
    rcases ControllerServer.validateVolumeCapability_rejected hcap with ⟨-, hpanic⟩ | ⟨hmode, -⟩
    · exact absurd (hpanic.symm.trans hmsg) (by simp)
    · exact hmode
  · intro hmode
    cases hfirst : firstRejected cs req.volumeCapabilities with
    | none =>
      have hall := firstRejected_none.mp hfirst
      rw [hfirst] at heq
      refine ⟨by simp [heq], ⟨fun _ => hall, fun _ => heq⟩, ?_, fun _ => ?_⟩
      · rintro ⟨cap, hmem, hcap⟩
        exact absurd (hall cap hmem) hcap
      · cases hcaps : req.volumeCapabilities with
        | nil => exact absurd hcaps hne
        | cons cap rest =>
          rw [ControllerServer.getVolumeMode_cons (hall cap (hcaps ▸ List.mem_cons_self))]
          split
          · exact .inr rfl
          · exact .inl rfl
    | some cap =>
      obtain ⟨hmem, hcap⟩ := firstRejected_some hfirst
      rcases ControllerServer.validateVolumeCapability_rejected hcap with
        ⟨⟨htype, hnone⟩, -⟩ | ⟨-, msg, hmsg⟩
      · exact absurd hnone (hmode cap hfirst htype)
      · rw [hfirst] at heq
        replace heq := heq.trans hmsg
        have hnot : cs.validateVolumeCapabilities req.volumeCapabilities ≠ .ok () := by simp [heq]
        exact ⟨by simp [heq], ⟨fun hok => absurd hok hnot, fun hall => absurd (hall cap hmem) hcap⟩,
          fun _ => ⟨msg, heq⟩, fun hok => absurd hok hnot⟩

def multiWriter : VolumeCapability where
  mount := true
  accessMode := some .multiNodeMultiWriter

def mixedRequest : CreateVolumeRequest where
  name := "v"
  volumeCapabilities := [singleWriter, multiWriter]

theorem capabilities_checked_mixed :
    CapabilitiesChecked exampleServer mixedRequest.volumeCapabilities := by
  have hfirst : firstRejected exampleServer mixedRequest.volumeCapabilities = none := by decide
  exact (capabilities_checked_iff (by decide)).mpr (by simp [hfirst])

/-- The message about an access mode that is not supported is made from one that is
not there. -/
theorem capability_without_access_mode :
    exampleServer.validateVolumeCapabilities [{ mount := true }] = .panic ∧
      ¬ CapabilitiesChecked exampleServer [{ mount := true }] := by
  have hpanic : exampleServer.validateVolumeCapabilities [{ mount := true }] = .panic := rfl
  exact ⟨hpanic, fun h => h.total hpanic⟩

-- ---------------------------------------------------------------------------
-- The mode of the claim
-- ---------------------------------------------------------------------------

/-- The claim that is built is the same whatever the order of the capabilities. -/
def OrderFree (cs : ControllerServer) (req : CreateVolumeRequest) : Prop :=
  ∀ caps, caps.Perm req.volumeCapabilities → ∀ s,
    run Cluster.serve (cs.buildHostPVC { req with volumeCapabilities := caps }
        (req.parameters.getD []) (cs.volSize req)) s =
      run Cluster.serve (cs.buildHostPVC req (req.parameters.getD []) (cs.volSize req)) s

def ControllerServer.targetSC (cs : ControllerServer) (vp : StringMap) : String :=
  (vp.lookup paramHostSC).getD cs.hostStorageClass

/-- What the host does meanwhile: it binds claims. What a claim is bound to and its
mode stay, and so do storage classes and exports. -/
structure HostBinds (s t : Cluster) : Prop where
  classes : t.storageClasses = s.storageClasses
  claims : ∀ key pvc, s.pvcs.get key = some pvc → ∃ pvc', t.pvcs.get key = some pvc' ∧
    pvc'.volumeMode = pvc.volumeMode ∧ (pvc.volumeName ≠ "" → pvc'.volumeName = pvc.volumeName)
  exports : ∀ key, t.networkFSs.get key = none → s.networkFSs.get key = none

structure Stageable (ns volume : String) (s : Cluster) : Prop where
  claim : ∃ pvc, s.pvcs.get (ns, volume) = some pvc ∧ pvc.volumeMode = some .filesystem ∧
    s.networkFSs.get (harvesterNS, pvc.volumeName) ≠ none

/-- A volume that is also to be shared can be staged once its creation has returned. -/
def RWXHonoured (cs : ControllerServer) (req : CreateVolumeRequest) : Prop :=
  ∀ cap ∈ req.volumeCapabilities, cap.mode = .multiNodeMultiWriter →
    ∀ s sc ticks resp t, s.storageClasses.get (cs.targetSC (req.parameters.getD [])) = some sc →
      sc.provisioner = longhornProvisioner →
      Runs HostBinds Serves (cs.createVolume ticks req) s (.ok resp) t →
      Stageable cs.ns resp.volumeId t

def OneMode (req : CreateVolumeRequest) : Prop :=
  (req.parameters.getD []).lookup paramHostVolMode = some "filesystem" ∨
    ∀ a ∈ req.volumeCapabilities, ∀ b ∈ req.volumeCapabilities, a.mode = b.mode

def longhornHost (sc : String) : Cluster :=
  { Cluster.empty with
    storageClasses := Cluster.empty.storageClasses.put ⟨sc, longhornProvisioner⟩ }

theorem longhornHost_class (sc : String) :
    (longhornHost sc).storageClasses.get sc = some ⟨sc, longhornProvisioner⟩ := by
  simp [longhornHost]

theorem HostBinds.refl (s : Cluster) : HostBinds s s :=
  ⟨rfl, fun _ pvc h => ⟨pvc, h, rfl, fun _ => rfl⟩, fun _ => id⟩

theorem HostBinds.trans (s t u : Cluster) (h₁ : HostBinds s t) (h₂ : HostBinds t u) :
    HostBinds s u where
  classes := h₂.classes.trans h₁.classes
  claims key pvc hpvc := by
    obtain ⟨pvc₁, hpvc₁, hmode₁, hname₁⟩ := h₁.claims key pvc hpvc
    obtain ⟨pvc₂, hpvc₂, hmode₂, hname₂⟩ := h₂.claims key pvc₁ hpvc₁
    refine ⟨pvc₂, hpvc₂, hmode₂.trans hmode₁, fun hne => ?_⟩
    have hsame := hname₁ hne
    exact (hname₂ (hsame ▸ hne)).trans hsame
  exports key h := h₁.exports key (h₂.exports key h)

section
variable {cs : ControllerServer} {req : CreateVolumeRequest} {caps : List VolumeCapability}

namespace ControllerServer

theorem Accepts.acceptable (h : cs.Accepts req) :
    req.volumeCapabilities ≠ [] ∧ ∀ cap ∈ req.volumeCapabilities, cap.Acceptable cs := by
  obtain ⟨-, hcaps, -⟩ := h.checks
  have hne : req.volumeCapabilities ≠ [] := by
    intro hnil
    rw [hnil] at hcaps
    cases hcaps
  refine ⟨hne, firstRejected_none.mp ?_⟩
  rw [cs.validateVolumeCapabilities_eq hne] at hcaps
  cases hfirst : firstRejected cs req.volumeCapabilities with
  | none => rfl
  | some cap =>
    rw [hfirst] at hcaps
    rcases validateVolumeCapability_rejected (firstRejected_some hfirst).2 with ⟨-, h⟩ | ⟨-, msg, h⟩
    all_goals exact absurd (h.symm.trans hcaps) (by simp)

theorem run_getStorageClass {s : Cluster} {vp : StringMap}
    (h : s.storageClasses.get (cs.targetSC vp) = some sc) :
    ∃ provisioner, run Cluster.serve (cs.getStorageClass vp) s =
      (.ok (cs.targetSC vp, provisioner), s) := by
  unfold targetSC at h ⊢
  unfold getStorageClass
  cases hparam : vp.lookup paramHostSC with
  | none => exact ⟨_, rfl⟩
  | some val =>
    rw [hparam, Option.getD_some] at h
    exact ⟨sc.provisioner, by simp [validStorageClass, Cluster.serve, h]⟩

theorem getStorageClass_returns (cs : ControllerServer) (vp : StringMap) :
    (cs.getStorageClass vp).Returns fun r => r.1 = cs.targetSC vp := by
  unfold getStorageClass targetSC
  cases hparam : vp.lookup paramHostSC with
  | none => rfl
  | some val => exact (returns_true _).bind fun _ _ => rfl

theorem scratchPVC_congr {caps' : List VolumeCapability} {vp : StringMap}
    (h : scratchVolumeMode caps' vp = scratchVolumeMode caps vp) (name : String) (size : Int64)
    (sc provisioner : String) :
    cs.scratchPVC name caps' vp size sc provisioner =
      cs.scratchPVC name caps vp size sc provisioner := by
  simp only [scratchPVC, h]

theorem scratchVolumeMode_eq {vp : StringMap} (hcaps : ∀ cap ∈ caps, cap.Acceptable cs)
    (hone : vp.lookup paramHostVolMode = some "filesystem" ∨
      ∀ a ∈ caps, ∀ b ∈ caps, a.mode = b.mode) (hcap : cap ∈ caps) :
    scratchVolumeMode caps vp =
      if vp.lookup paramHostVolMode = some "filesystem" ∨ cap.mode = .multiNodeMultiWriter then
        .filesystem
      else .block := by
  unfold scratchVolumeMode
  by_cases hforced : vp.lookup paramHostVolMode = some "filesystem"
  · simp [hforced]
  · cases caps with
    | nil => cases hcap
    | cons first rest =>
      have hfirst := hcaps first List.mem_cons_self
      have hsame := hone.resolve_left hforced first List.mem_cons_self cap hcap
      simp [hforced, getVolumeMode_cons hfirst, hsame]

end ControllerServer

open ControllerServer (Accepts)

/-- Two capabilities with different modes, each of them brought to the front. -/
theorem OrderFree.oneMode (hfree : OrderFree cs req) (h : cs.Accepts req)
    (hscratch : req.volumeContentSource = none) : OneMode req := by
  obtain ⟨-, hcaps⟩ := h.acceptable
  by_cases hforced : (req.parameters.getD []).lookup paramHostVolMode = some "filesystem"
  · exact .inl hforced
  · obtain ⟨provisioner, hsc⟩ :=
      ControllerServer.run_getStorageClass
      (longhornHost_class (cs.targetSC (req.parameters.getD [])))
    have hfront (cap : VolumeCapability) (hcap : cap ∈ req.volumeCapabilities) :
        (if cap.mode = .multiNodeMultiWriter then VolumeMode.filesystem else .block) =
          ControllerServer.scratchVolumeMode req.volumeCapabilities (req.parameters.getD []) := by
      have hperm := (List.perm_cons_erase hcap).symm
      have hrun := hfree _ hperm (longhornHost (cs.targetSC (req.parameters.getD [])))
      simp only [ControllerServer.buildHostPVC, hscratch, ControllerServer.buildHostPVCFromScratch,
        run_bind, hsc, pure_eq, run_ok, Prod.mk.injEq, Outcome.ok.injEq, and_true] at hrun
      have hmode := congrArg PVC.volumeMode hrun
      simp only [ControllerServer.scratchPVC, Option.some.injEq] at hmode
      rw [← hmode, ControllerServer.scratchVolumeMode, if_neg hforced,
        ControllerServer.getVolumeMode_cons (hcaps cap hcap)]
    right
    intro a ha b hb
    have hsame := (hfront a ha).trans (hfront b hb).symm
    have hmodeA := ControllerServer.validateVolumeCapability_ok
      (ControllerServer.validateVolumeCapability_acceptable (hcaps a ha))
    have hmodeB := ControllerServer.validateVolumeCapability_ok
      (ControllerServer.validateVolumeCapability_acceptable (hcaps b hb))
    rcases hmodeA with hA | hA <;> rcases hmodeB with hB | hB <;> simp [hA, hB] at hsame ⊢

theorem OneMode.orderFree (hone : OneMode req) (h : cs.Accepts req)
    (hscratch : req.volumeContentSource = none) : OrderFree cs req := by
  obtain ⟨hne, hcaps⟩ := h.acceptable
  intro caps hperm s
  obtain ⟨cap, hcap⟩ := List.exists_mem_of_ne_nil _ hne
  have hmode : ControllerServer.scratchVolumeMode caps (req.parameters.getD []) =
      ControllerServer.scratchVolumeMode req.volumeCapabilities (req.parameters.getD []) := by
    rw [ControllerServer.scratchVolumeMode_eq hcaps hone hcap]
    refine ControllerServer.scratchVolumeMode_eq (fun c hc => hcaps c (hperm.mem_iff.mp hc)) ?_
      (hperm.mem_iff.mpr hcap)
    exact hone.imp_right fun hsame a ha b hb => hsame a (hperm.mem_iff.mp ha) b
      (hperm.mem_iff.mp hb)
  simp only [ControllerServer.buildHostPVC, hscratch, ControllerServer.buildHostPVCFromScratch,
    ControllerServer.scratchPVC_congr hmode]

-- ---------------------------------------------------------------------------
-- The export
-- ---------------------------------------------------------------------------

def BoundTo (key : Key) (volumeName : String) (s : Cluster) : Prop :=
  ∃ pvc, s.pvcs.get key = some pvc ∧ pvc.volumeMode = some .filesystem ∧ pvc.volumeName = volumeName

theorem BoundTo.move (hne : volumeName ≠ "") (h : BoundTo key volumeName s)
    (hbinds : HostBinds s t) :
    BoundTo key volumeName t := by
  obtain ⟨pvc, hpvc, hmode, rfl⟩ := h
  obtain ⟨pvc', hpvc', hmode', hname⟩ := hbinds.claims key pvc hpvc
  exact ⟨pvc', hpvc', hmode'.trans hmode, hname hne⟩

def IsFilesystem (key : Key) (s : Cluster) : Prop := ∃ volumeName, BoundTo key volumeName s

theorem IsFilesystem.move (h : IsFilesystem key s) (hbinds : HostBinds s t) :
    IsFilesystem key t := by
  obtain ⟨_, pvc, hpvc, hmode, -⟩ := h
  obtain ⟨pvc', hpvc', hmode', -⟩ := hbinds.claims key pvc hpvc
  exact ⟨_, pvc', hpvc', hmode'.trans hmode, rfl⟩

theorem BoundTo.read (h : BoundTo (ns, name) volumeName s) (hget : Serves (.getPVC ns name) s r t) :
    t = s ∧ ∃ pvc, r = .ok pvc ∧ pvc.volumeName = volumeName := by
  obtain ⟨pvc, hpvc, -, hname⟩ := h
  obtain ⟨rfl, rfl⟩ := Prod.mk.inj hget
  exact ⟨rfl, pvc, by rw [hpvc, found_some], hname⟩

theorem waitForLHVolumeName_bound
    (h : Runs HostBinds Serves (cs.waitForLHVolumeName name ticks) s (.ok true) t)
    (hpvc : IsFilesystem (cs.ns, name) s) :
    ∃ volumeName, volumeName ≠ "" ∧ BoundTo (cs.ns, name) volumeName t := by
  induction ticks generalizing s with
  | zero => exact absurd h.1 (by simp)
  | succ ticks ih =>
    simp only [ControllerServer.waitForLHVolumeName, request_bind] at h
    obtain ⟨s₁, r, s₂, hmove, hget, h⟩ := h
    obtain ⟨volumeName, hbound⟩ := hpvc.move hmove
    obtain ⟨rfl, pvc, rfl, rfl⟩ := hbound.read hget
    dsimp only at h
    split at h
    · exact ih h ⟨_, hbound⟩
    · rename_i hne
      exact ⟨_, hne, hbound.move hne h.2⟩

theorem createNetworkFilesystem_exists
    (h : Runs HostBinds Serves (cs.createNetworkFilesystem volumeName) s (.ok ()) t) :
    t.networkFSs.get (harvesterNS, volumeName) ≠ none := by
  simp only [ControllerServer.createNetworkFilesystem, request_bind] at h
  obtain ⟨s₁, r, s₂, -, hcreate, h⟩ := h
  have hmade : s₂.networkFSs.get (harvesterNS, volumeName) ≠ none := by
    simp only [Serves, Cluster.serve] at hcreate
    split at hcreate
    · rename_i fs hfs
      cases hcreate
      simp [hfs]
    · cases hcreate
      simp [Cluster.setNetworkFS]
  have hmove : HostBinds s₂ t := by
    cases r with
    | ok fs => exact h.2
    | error e =>
      dsimp only at h
      split at h
      · exact h.2
      · exact absurd h.1 (by simp)
  exact fun hnone => hmade (hmove.exports _ hnone)

theorem BoundTo.stageable (h : BoundTo (ns, name) volumeName s)
    (hfs : s.networkFSs.get (harvesterNS, volumeName) ≠ none) : Stageable ns name s := by
  obtain ⟨pvc, hpvc, hmode, rfl⟩ := h
  exact ⟨pvc, hpvc, hmode, hfs⟩

theorem exportVolume_stageable (hmode : pvc.volumeMode = some .filesystem)
    (hmodes : .readWriteMany ∈ pvc.accessModes) (hscName : pvc.storageClassName = some scName)
    (hsc : s.storageClasses.get scName = some sc) (hprov : sc.provisioner = longhornProvisioner)
    (hs : IsFilesystem (cs.ns, pvc.name) s)
    (h : Runs HostBinds Serves (ControllerServer.createVolume.exportVolume cs ticks pvc) s
      (.ok ()) t) :
    Stageable cs.ns pvc.name t := by
  obtain ⟨k, hk, hshared⟩ := ControllerServer.isLHRWXVolume_shared cs hmode hmodes hscName
  rw [ControllerServer.createVolume.exportVolume, hk, call_bind] at h
  obtain ⟨s₁, r, s₂, hmove, hread, h⟩ := h
  obtain ⟨rfl, rfl⟩ := Prod.mk.inj hread
  rw [hmove.classes, hsc, found_some] at h
  dsimp only at h
  rw [hshared sc hprov, ok_bind, if_pos rfl] at h
  obtain ⟨bound, u, hwait, h⟩ := h.bind_ok HostBinds.refl
  cases bound with
  | false => exact absurd h.1 (by simp)
  | true =>
    obtain ⟨volumeName, hne, hbound⟩ := waitForLHVolumeName_bound hwait (hs.move hmove)
    obtain ⟨u₁, r, u₂, hmove, hget, h⟩ := h
    have hbound := hbound.move hne hmove
    obtain ⟨rfl, resPVC, rfl, rfl⟩ := hbound.read hget
    rcases h.orElse_ok HostBinds.refl with h | ⟨e, v, -, herror, -⟩
    · refine BoundTo.stageable ?_ (createNetworkFilesystem_exists h)
      refine h.invariant (ControllerServer.createNetworkFilesystem_uses _ _)
        (fun _ _ hb => hb.move hne) ?_ hbound
      intro op v r w hop hb hserve
      have hpvcs := hop.pvcs hserve.answers
      simpa only [BoundTo, hpvcs] using hb
    · cases herror

def HasClasses (classes : Store StorageClass.name) (s : Cluster) : Prop :=
  s.storageClasses = classes

theorem buildHostPVC_classes (h : Runs HostBinds Serves (cs.buildHostPVC req vp size) s o t) :
    t.storageClasses = s.storageClasses := by
  have hclasses : HasClasses s.storageClasses t := by
    refine h.invariant (ControllerServer.buildHostPVC_uses _ _ _)
      (fun _ _ hu hbinds => hbinds.classes.trans hu) ?_ rfl
    intro op u r v hop hu hserve
    rwa [hop.state hserve]
  exact hclasses

theorem OneMode.honoured (hone : OneMode req) (h : cs.Accepts req)
    (hscratch : req.volumeContentSource = none) : RWXHonoured cs req := by
  intro cap hcap hshared s sc ticks resp t hsc hprov hrun
  obtain ⟨-, hcaps⟩ := h.acceptable
  have hmode : ControllerServer.scratchVolumeMode req.volumeCapabilities (req.parameters.getD []) =
      .filesystem := by
    rw [ControllerServer.scratchVolumeMode_eq hcaps hone hcap, if_pos (.inr hshared)]
  have hbackup : cs.isBackupSnapshotRestore req = false := by
    simp [ControllerServer.isBackupSnapshotRestore, hscratch]
  obtain ⟨hostPVC, s₁, s₂, resHostPVC, s₃, hbuild, hmove, hcreate, hexport, rfl⟩ :=
    ControllerServer.createVolume_ok HostBinds.refl HostBinds.trans hbackup hrun
  obtain ⟨targetSC, provisioner, u, hclass, -, rfl⟩ :=
    ControllerServer.buildHostPVC_scratch_ok HostBinds.refl hscratch hbuild
  have hname := Runs.returns (cs.getStorageClass_returns (req.parameters.getD [])) hclass
  dsimp only at hname
  subst hname
  have hclasses := buildHostPVC_classes hbuild
  obtain ⟨-, hres, rfl⟩ := hcreate.answers.createPVC_ok
  have hresMode : resHostPVC.volumeMode = some .filesystem := by
    rw [hres]
    exact congrArg some hmode
  have hresModes : resHostPVC.accessModes = [.readWriteMany] := by rw [hres]; rfl
  have hresName : resHostPVC.name = req.name := by rw [hres]; rfl
  have hresClass : resHostPVC.storageClassName =
      if cs.targetSC (req.parameters.getD []) ≠ "" then some (cs.targetSC (req.parameters.getD []))
      else none := by rw [hres]; rfl
  by_cases hnamed : cs.targetSC (req.parameters.getD []) = ""
  · -- the class of the claim is read through a pointer that is not there
    rw [if_neg (by simp [hnamed])] at hresClass
    rw [ControllerServer.createVolume.exportVolume, ControllerServer.isLHRWXVolume, if_pos hresMode,
      hresModes] at hexport
    simp only [ControllerServer.isLHRWXVolume.go, hresClass] at hexport
    exact absurd hexport.1 (by simp)
  · rw [if_pos hnamed] at hresClass
    refine exportVolume_stageable hresMode (by simp [hresModes]) hresClass ?_ hprov ?_ hexport
    · change s₂.storageClasses.get _ = some sc
      rw [hmove.classes, hclasses, hsc]
    · exact ⟨_, _, by rw [hresName]; exact Cluster.get_setPVC s₂ _, congrArg some hmode, rfl⟩

end

/-- A request from scratch that passes the checks: the order of its capabilities does
not matter, and sharing is honoured, exactly if its mode is forced or all of its
capabilities have the same. -/
theorem capabilities_honoured_iff {cs : ControllerServer} {req : CreateVolumeRequest}
    (h : cs.Accepts req) (hscratch : req.volumeContentSource = none) :
    OrderFree cs req ∧ RWXHonoured cs req ↔ OneMode req :=
  ⟨fun hboth => hboth.1.oneMode h hscratch,
    fun hone => ⟨hone.orderFree h hscratch, hone.honoured h hscratch⟩⟩

def sharedRequest : CreateVolumeRequest where
  name := "v"
  volumeCapabilities := [multiWriter, multiWriter]

theorem capabilities_honoured_shared :
    OneMode sharedRequest ∧ OrderFree exampleServer sharedRequest ∧
      RWXHonoured exampleServer sharedRequest := by
  have hone : OneMode sharedRequest := .inr (by decide)
  exact ⟨hone, (capabilities_honoured_iff ⟨_, rfl⟩ rfl).mpr hone⟩

def blockCreated : Cluster :=
  (longhornHost "longhorn").setPVC
    { ns := "ns", name := "v", accessModes := [.readWriteMany], volumeMode := some .block
      storageClassName := some "longhorn", requests := some { storage := some minimalVolumeSize } }

/-- The claim is a block device or a filesystem by which capability comes first, and
as a block device the volume has no export. -/
theorem mixed_capabilities_break :
    ¬ OrderFree exampleServer mixedRequest ∧ ¬ RWXHonoured exampleServer mixedRequest := by
  constructor
  · intro hfree
    have hswap := hfree [multiWriter, singleWriter] (.swap ..) .empty
    have hmode := congrArg (fun r => match r.1 with | .ok pvc => pvc.volumeMode | _ => none) hswap
    exact absurd hmode (by decide)
  · intro hhonoured
    have hrun :
        run Cluster.serve (exampleServer.createVolume 0 mixedRequest) (longhornHost "longhorn") =
        (.ok ⟨"v", minimalVolumeSize, [], none⟩, blockCreated) := rfl
    obtain ⟨pvc, hpvc, hmode, -⟩ := (hhonoured multiWriter (by decide) rfl _ _ 0 _ blockCreated
      (longhornHost_class "longhorn") rfl
      (Runs.of_run_after HostBinds.refl HostBinds.trans (fun _ _ => rfl) (.refl _) hrun)).claim
    cases hpvc
    cases hmode

end HarvesterCSI
