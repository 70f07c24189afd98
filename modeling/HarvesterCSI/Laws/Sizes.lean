import HarvesterCSI.Controller.Expand
import HarvesterCSI.Laws.Create

/-!
# The size of a volume at creation and expansion

CreateVolume reports the size that was asked for and creates a claim of that size
rounded up. An expansion is compared with the claim.
-/

namespace HarvesterCSI

open Calls Calls.Prog

/-- The claim of a volume stays, bound once it is, and nobody changes the size
requested for it. Everything else may change. -/
def KeepsRequest (ns volume : String) (s t : Cluster) : Prop :=
  ∀ pvc, s.pvcs.get (ns, volume) = some pvc → ∃ pvc', t.pvcs.get (ns, volume) = some pvc' ∧
    pvc'.requests = pvc.requests ∧ (pvc.volumeName ≠ "" → pvc'.volumeName = pvc.volumeName)

theorem KeepsRequest.refl (s : Cluster) : KeepsRequest ns volume s s :=
  fun pvc h => ⟨pvc, h, rfl, fun _ => rfl⟩

theorem KeepsRequest.trans (s t u : Cluster) (h₁ : KeepsRequest ns volume s t)
    (h₂ : KeepsRequest ns volume t u) : KeepsRequest ns volume s u := by
  intro pvc hs
  obtain ⟨pvc', ht, hreq, hname⟩ := h₁ pvc hs
  obtain ⟨pvc'', hu, hreq', hname'⟩ := h₂ pvc' ht
  refine ⟨pvc'', hu, hreq'.trans hreq, fun hne => ?_⟩
  have hsame := hname hne
  exact (hname' (hsame ▸ hne)).trans hsame

def HasRequest (ns volume : String) (size : Int64) (s : Cluster) : Prop :=
  ∃ pvc, s.pvcs.get (ns, volume) = some pvc ∧ pvc.requests = some { storage := some size }

theorem HasRequest.keep (h : HasRequest ns volume size s) (hkeep : KeepsRequest ns volume s t) :
    HasRequest ns volume size t := by
  obtain ⟨pvc, hget, hreq⟩ := h
  obtain ⟨pvc', hget', hreq', -⟩ := hkeep pvc hget
  exact ⟨pvc', hget', hreq'.trans hreq⟩

/-- The claim is there once it is created, and neither the export nor others take
it away or change its size. -/
theorem created_request {cs : ControllerServer} {rel : Cluster → Cluster → Prop}
    (hrefl : ∀ s, rel s s) (htrans : ∀ s t u, rel s t → rel t u → rel s u)
    (hkeep : ∀ s t, rel s t → KeepsRequest cs.ns req.name s t)
    (hbackup : cs.isBackupSnapshotRestore req = false)
    (hbuilt : ∀ pvc u,
      Runs rel Cluster.Answers (cs.buildHostPVC req (req.parameters.getD []) (cs.volSize req)) s
        (.ok pvc) u → pvc.requests = some { storage := some size })
    (h : Runs rel Cluster.Answers (cs.createVolume ticks req) s (.ok resp) t) :
    resp.volumeId = req.name ∧ resp.capacityBytes = cs.volSize req ∧
      HasRequest cs.ns req.name size t := by
  obtain ⟨hostPVC, s₁, s₂, res, s₃, hbuild, -, hcreate, hexport, rfl⟩ :=
    ControllerServer.createVolume_ok hrefl htrans hbackup h
  obtain ⟨hns, hname⟩ := ControllerServer.buildHostPVC_key hrefl hbuild
  obtain ⟨-, rfl, rfl⟩ := hcreate.createPVC_ok
  refine ⟨hname, rfl, ?_⟩
  refine hexport.invariant (ControllerServer.exportVolume_uses _)
    (fun _ _ hinv hrel => hinv.keep (hkeep _ _ hrel)) ?_ ?_
  · intro op s r t hop hinv hans
    rwa [HasRequest, hop.pvcs hans]
  · rw [← hns, ← hname]
    exact ⟨_, Cluster.get_setPVC _ _, hbuilt hostPVC s₁ hbuild⟩

theorem created_size {cs : ControllerServer} (hscratch : req.volumeContentSource = none)
    (h : Runs (KeepsRequest cs.ns req.name) Cluster.Answers (cs.createVolume ticks req) s
      (.ok resp) t) :
    resp.volumeId = req.name ∧ resp.capacityBytes = cs.volSize req ∧
      HasRequest cs.ns req.name (roundUpSize (cs.volSize req)) t := by
  refine created_request KeepsRequest.refl KeepsRequest.trans (fun _ _ hkeep => hkeep) ?_ ?_ h
  · simp [ControllerServer.isBackupSnapshotRestore, hscratch]
  · intro pvc u hbuild
    obtain ⟨sc, provisioner, u, -, -, rfl⟩ :=
      ControllerServer.buildHostPVC_scratch_ok KeepsRequest.refl hscratch hbuild
    rfl

-- ---------------------------------------------------------------------------
-- Expansion
-- ---------------------------------------------------------------------------

section
variable {cs : ControllerServer}

theorem validateOnlineExpansion_raises (pvc : PVC) :
    (cs.validateOnlineExpansion pvc).Raises (· ≠ shrinkErr) := by
  refine Raises.bind ?_ fun inUse => ?_
  · intro r
    cases r with
    | error e => rintro ⟨⟩
    | ok pods => trivial
  · split
    · intro r
      cases r with
      | error e => rintro ⟨⟩
      | ok setting => trivial
    · trivial

theorem waitForPVCState_raises (name : String) (predicate : PVC → Bool) (ticks : Nat) :
    (cs.waitForPVCState name predicate ticks).Raises (· ≠ shrinkErr) := by
  induction ticks with
  | zero => trivial
  | succ ticks ih =>
    simp only [ControllerServer.waitForPVCState, request_bind]
    intro r
    cases r with
    | error e => exact ih
    | ok pvc =>
      dsimp only
      split
      · trivial
      · exact ih

theorem resize_raises (pvc : PVC) :
    (ControllerServer.controllerExpandVolume.resize cs ticks req pvc size).Raises
      (· ≠ shrinkErr) := by
  unfold ControllerServer.controllerExpandVolume.resize
  split
  · trivial
  · intro r
    cases r with
    | error e => rintro ⟨⟩
    | ok pvc =>
      refine (waitForPVCState_raises _ _ _).bind fun expanded => ?_
      split
      · refine Raises.bind (Raises.orElse fun e => ?_) fun _ => trivial
        rintro ⟨⟩
      · rintro ⟨⟩

theorem expand_ne_shrink (hsize : HasRequest cs.ns req.volumeId size u)
    (hr : req.requiredBytes = some r) (hle : size ≤ r)
    (h : Runs (KeepsRequest cs.ns req.volumeId) Cluster.Answers
      (cs.controllerExpandVolume ticks req) u o w) : o ≠ .error shrinkErr := by
  rintro rfl
  simp only [ControllerServer.controllerExpandVolume, validateCtrlExpandReq, request_bind] at h
  split at h
  · cases h.1
  · rw [ok_bind] at h
    split at h
    · cases h.1
    · obtain ⟨s₁, r', s₂, hkeep, hget, h⟩ := h
      obtain ⟨-, hread⟩ := hget.getPVC
      cases r' with
      | error e => cases h.1
      | ok pvc =>
        obtain ⟨pvc', hpvc', hreq⟩ := hsize.keep hkeep
        obtain rfl : pvc' = pvc := Option.some.inj (hpvc'.symm.trans (hread pvc rfl))
        have hnot : ¬ r < (pvc'.requests.getD {}).storageValue := by
          simpa [hreq, ResourceList.storageValue] using hle
        simp only [hr, gt_iff_lt, hnot, if_false] at h
        split at h
        · cases h.1
        · exact h.raises ((validateOnlineExpansion_raises pvc').bind fun _ => resize_raises pvc')
            rfl

theorem run_expand_shrink (hvol : req.volumeId ≠ "") (hcap : req.volumeCapability = some cap)
    (hmode : cap.mode ≠ .multiNodeMultiWriter) (hget : u.pvcs.get (cs.ns, req.volumeId) = some pvc)
    (hname : pvc.volumeName ≠ "") (hreq : pvc.requests = some { storage := some size })
    (hpods : u.hostPods = []) (hr : req.requiredBytes = some r) (hlt : r < size) :
    (run Cluster.serve (cs.controllerExpandVolume ticks req) u).1 = .error shrinkErr := by
  simp [ControllerServer.controllerExpandVolume, validateCtrlExpandReq, ctrlExpandRWX, hvol, hcap,
    hmode, Cluster.serve, hget, hname, ControllerServer.validateOnlineExpansion,
    ControllerServer.isVolumeInUse, hpods, hr, hreq, ResourceList.storageValue, hlt]

end

-- ---------------------------------------------------------------------------
-- Create and expand
-- ---------------------------------------------------------------------------

/-- A volume was made from scratch and its claim is bound and was left alone. An
expansion to `r` is never taken for a shrink exactly if `r` is at least the
rounded size. -/
theorem expand_not_shrink_iff {cs : ControllerServer} (ereq : ExpandRequest)
    (hscratch : req.volumeContentSource = none)
    (hcreate : Runs (KeepsRequest cs.ns req.name) Cluster.Answers (cs.createVolume ticks req)
      s (.ok resp) t)
    (hlater : KeepsRequest cs.ns req.name t u)
    (hget : u.pvcs.get (cs.ns, resp.volumeId) = some pvc) (hbound : pvc.volumeName ≠ "")
    (hvol : ereq.volumeId = resp.volumeId) (hcap : ereq.volumeCapability = some cap)
    (hmode : cap.mode ≠ .multiNodeMultiWriter) (hr : ereq.requiredBytes = some r) :
    (∀ o w, Runs (KeepsRequest cs.ns req.name) Cluster.Answers
        (cs.controllerExpandVolume eticks ereq) u o w → o ≠ .error shrinkErr) ↔
      roundUpSize (cs.volSize req) ≤ r := by
  obtain ⟨hid, -, hsize⟩ := created_size hscratch hcreate
  have hsize := hsize.keep hlater
  rw [hid] at hvol hget
  rw [← hvol] at hsize hget ⊢
  constructor
  · intro hall
    by_contra hlt
    obtain ⟨pvc', hget', hreq⟩ := hsize
    obtain rfl : pvc' = pvc := Option.some.inj (hget'.symm.trans hget)
    have hname : ereq.volumeId ≠ "" := hvol ▸ (ControllerServer.Accepts.of_runs hcreate).checks.1
    -- the pods may all be gone by the time the call looks
    let idle : Cluster := { u with hostPods := [] }
    have hidle : KeepsRequest cs.ns ereq.volumeId u idle := KeepsRequest.refl u
    have hrun := (Runs.of_run KeepsRequest.refl Cluster.serve_answers
      (cs.controllerExpandVolume eticks ereq) idle).before KeepsRequest.trans hidle
    exact hall _ _ hrun (run_expand_shrink hname hcap hmode hget hbound hreq rfl hr
      (by simpa using hlt))
  · intro hle o w h
    exact expand_ne_shrink hsize hr hle h

/-- One byte more than the smallest volume. -/
def oddRequest : CreateVolumeRequest where
  name := "v"
  requiredBytes := some (minimalVolumeSize + 1)
  volumeCapabilities := [singleWriter]

def oddCreated : Cluster := (run Cluster.serve (exampleServer.createVolume 0 oddRequest) .empty).2

def oddPVC : PVC :=
  { exampleServer.scratchPVC "v" [singleWriter] [] (minimalVolumeSize + 1) "longhorn"
      longhornProvisioner with
    volumeName := "pvc-1", phase := .bound }

def oddBound : Cluster := oddCreated.setPVC oddPVC

def oddExpand (r : Int64) : ExpandRequest where
  volumeId := "v"
  volumeCapability := some singleWriter
  requiredBytes := some r

def oddResponse : CreateVolumeResponse := ⟨"v", minimalVolumeSize + 1, [], none⟩

theorem odd_created : Runs (KeepsRequest exampleServer.ns oddRequest.name) Cluster.Answers
    (exampleServer.createVolume 0 oddRequest) .empty (.ok oddResponse) oddCreated :=
  Runs.of_run KeepsRequest.refl Cluster.serve_answers _ _

theorem odd_keeps : KeepsRequest exampleServer.ns oddRequest.name oddCreated oddBound := by
  rintro _ ⟨⟩
  exact ⟨_, rfl, rfl, fun h => absurd rfl h⟩

theorem odd_bound : oddBound.pvcs.get ("ns", "v") = some { oddPVC with resourceVersion := 2 } := rfl

/-- Enough is two mebibytes more than the smallest volume. -/
theorem expand_odd_not_shrink :
    oddBound.pvcs.get ("ns", "v") = some { oddPVC with resourceVersion := 2 } ∧
      ∀ o w, Runs (KeepsRequest exampleServer.ns oddRequest.name) Cluster.Answers
        (exampleServer.controllerExpandVolume 0 (oddExpand (minimalVolumeSize + sizeAlignment)))
        oddBound o w → o ≠ .error shrinkErr := by
  refine ⟨odd_bound, ?_⟩
  refine Iff.mpr (expand_not_shrink_iff _ ?_ odd_created odd_keeps odd_bound ?_ ?_ rfl ?_ rfl) ?_
  all_goals decide

/-- The size that CreateVolume reported is turned down as a shrink. -/
theorem expand_odd_shrink :
    Runs (KeepsRequest exampleServer.ns oddRequest.name) Cluster.Answers
        (exampleServer.createVolume 0 oddRequest) .empty (.ok oddResponse) oddCreated ∧
      KeepsRequest exampleServer.ns oddRequest.name oddCreated oddBound ∧
      oddBound.pvcs.get ("ns", "v") = some { oddPVC with resourceVersion := 2 } ∧
      ∃ w, Runs (KeepsRequest exampleServer.ns oddRequest.name) Cluster.Answers
        (exampleServer.controllerExpandVolume 0 (oddExpand oddResponse.capacityBytes))
        oddBound (.error shrinkErr) w :=
  ⟨odd_created, odd_keeps, odd_bound, _, Runs.of_run KeepsRequest.refl Cluster.serve_answers _ _⟩

end HarvesterCSI
