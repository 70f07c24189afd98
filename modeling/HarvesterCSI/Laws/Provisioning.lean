import HarvesterCSI.Laws.Sizes
import Mathlib.Order.Bounds.Defs

/-!
# How much a new volume gets

A volume is asked for with a number of bytes. From scratch and from a local
snapshot the driver builds a claim of at least that size; a backup brings the
size it was taken with.
-/

namespace HarvesterCSI

open Calls Calls.Prog
open Cluster (Answers)

-- ---------------------------------------------------------------------------
-- Rounding
-- ---------------------------------------------------------------------------

/-- The least aligned size that is enough, wrapped around into an int64. -/
theorem roundUpSize_toInt (h : 0 < size) :
    (roundUpSize size).toInt =
      Int.bmod ((size.toInt + 2097151) / 2097152 * 2097152) 18446744073709551616 := by
  have hpos : 0 < size.toInt := Int64.lt_iff_toInt_lt.mp h
  have hlt := size.toInt_lt
  have hmod : (size % sizeAlignment).toInt = size.toInt % 2097152 := by
    rw [Int64.toInt_mod]
    exact Int.tmod_eq_emod_of_nonneg (Int.le_of_lt hpos)
  unfold roundUpSize
  rw [if_neg (Int64.not_le.mpr h)]
  dsimp only
  split
  · rename_i hr
    have hzero : size.toInt % 2097152 = 0 := by
      rw [← hmod, hr]
      rfl
    rw [Int.bmod_def]
    omega
  · rename_i hr
    have hne : size.toInt % 2097152 ≠ 0 := by
      intro hzero
      exact hr (Int64.toInt_inj.mp (hmod.trans hzero))
    have halign : sizeAlignment.toInt = 2097152 := rfl
    rw [Int64.toInt_add, Int64.toInt_sub, hmod, halign]
    simp only [Int.bmod_def]
    omega

def largestAligned : Int64 := Int64.maxValue - sizeAlignment + 1

theorem le_roundUpSize_iff (h : 0 < size) : size ≤ roundUpSize size ↔ size ≤ largestAligned := by
  have hpos : 0 < size.toInt := Int64.lt_iff_toInt_lt.mp h
  have hlt := size.toInt_lt
  have hlargest : largestAligned.toInt = 9223372036852678656 := rfl
  rw [Int64.le_iff_toInt_le, Int64.le_iff_toInt_le, roundUpSize_toInt h, hlargest, Int.bmod_def]
  omega

theorem roundUpSize_toInt_of_le (h : 0 < size) (hle : size ≤ largestAligned) :
    (roundUpSize size).toInt = (size.toInt + 2097151) / 2097152 * 2097152 := by
  have hpos : 0 < size.toInt := Int64.lt_iff_toInt_lt.mp h
  have hlargest : size.toInt ≤ 9223372036852678656 := Int64.le_iff_toInt_le.mp hle
  rw [roundUpSize_toInt h, Int.bmod_def]
  omega

/-- A size that `validateCreateVolReq` returns for some request. -/
def Requestable (size : Int64) : Prop :=
  ∃ (cs : ControllerServer) (req : CreateVolumeRequest) (vp : StringMap),
    cs.validateCreateVolReq req = .ok (vp, size)

theorem minimalVolumeSize_le_volSize (cs : ControllerServer) (req : CreateVolumeRequest) :
    minimalVolumeSize ≤ cs.volSize req := by
  unfold ControllerServer.volSize
  dsimp only
  split
  · exact Int64.le_refl _
  · rename_i hsize
    exact Int64.not_lt.mp hsize

theorem requestable_iff : Requestable size ↔ minimalVolumeSize ≤ size := by
  constructor
  · rintro ⟨cs, req, vp, hvalid⟩
    have haccepts : cs.Accepts req := ⟨_, hvalid⟩
    cases hvalid.symm.trans haccepts.checks.2.2
    exact minimalVolumeSize_le_volSize cs req
  · intro hsize
    let req : CreateVolumeRequest :=
      { name := "v", requiredBytes := some size, volumeCapabilities := [singleWriter] }
    have hvol : exampleServer.volSize req = size := if_neg (Int64.not_lt.mpr hsize)
    have hvalid : exampleServer.validateCreateVolReq req = .ok ([], exampleServer.volSize req) :=
      rfl
    exact ⟨exampleServer, req, [], hvol ▸ hvalid⟩

theorem Requestable.pos (h : Requestable size) : 0 < size := by
  have hmin := Int64.le_iff_toInt_le.mp (requestable_iff.mp h)
  have hten : minimalVolumeSize.toInt = 10485760 := rfl
  have hzero : (0 : Int64).toInt = 0 := rfl
  rw [Int64.lt_iff_toInt_lt]
  omega

/-- The rounded size is the least aligned one that is enough, rounding it again
changes nothing, and no smaller size is rounded to more. -/
structure RoundsUp (size : Int64) : Prop where
  least : IsLeast {m : Int | sizeAlignment.toInt ∣ m ∧ size.toInt ≤ m} (roundUpSize size).toInt
  idempotent : roundUpSize (roundUpSize size) = roundUpSize size
  monotone : ∀ smaller, Requestable smaller → smaller ≤ size →
  roundUpSize smaller ≤ roundUpSize size

theorem roundUpSize_isLeast (h : 0 < size) (hle : size ≤ largestAligned) :
    IsLeast {m : Int | sizeAlignment.toInt ∣ m ∧ size.toInt ≤ m} (roundUpSize size).toInt := by
  have halign : sizeAlignment.toInt = 2097152 := rfl
  rw [roundUpSize_toInt_of_le h hle, halign]
  refine ⟨⟨Int.dvd_mul_left _ _, by omega⟩, ?_⟩
  rintro m ⟨⟨k, rfl⟩, hm⟩
  omega

theorem roundUpSize_idempotent (h : 0 < size) (hle : size ≤ largestAligned) :
    roundUpSize (roundUpSize size) = roundUpSize size := by
  obtain ⟨⟨haligned, henough⟩, hleast⟩ := roundUpSize_isLeast h hle
  have hlargest : largestAligned.toInt = 9223372036852678656 := rfl
  have hpos' : 0 < roundUpSize size := Int64.lt_of_lt_of_le h (Int64.le_iff_toInt_le.mpr henough)
  have hle' : roundUpSize size ≤ largestAligned :=
    Int64.le_iff_toInt_le.mpr
      (hleast ⟨⟨4398046511103, by rw [hlargest]; rfl⟩, Int64.le_iff_toInt_le.mp hle⟩)
  obtain ⟨⟨-, hagain⟩, hleast'⟩ := roundUpSize_isLeast hpos' hle'
  exact Int64.toInt_inj.mp (Int.le_antisymm (hleast' ⟨haligned, Int.le_refl _⟩) hagain)

theorem roundUpSize_mono (h : 0 < smaller) (hsmaller : smaller ≤ size)
    (hle : size ≤ largestAligned) :
    roundUpSize smaller ≤ roundUpSize size := by
  have hpos : 0 < size := Int64.lt_of_lt_of_le h hsmaller
  obtain ⟨⟨haligned, henough⟩, -⟩ := roundUpSize_isLeast hpos hle
  have hleast := (roundUpSize_isLeast h (Int64.le_trans hsmaller hle)).2
  exact Int64.le_iff_toInt_le.mpr
    (hleast ⟨haligned, Int.le_trans (Int64.le_iff_toInt_le.mp hsmaller) henough⟩)

/-- Rounding a size that a request can have is right up to the largest aligned
size, and wrong for all sizes above it. -/
theorem roundsUp_iff (h : Requestable size) : RoundsUp size ↔ size ≤ largestAligned := by
  constructor
  · intro hrounds
    exact (le_roundUpSize_iff h.pos).mp (Int64.le_iff_toInt_le.mpr hrounds.least.1.2)
  · intro hle
    exact {
      least := roundUpSize_isLeast h.pos hle
      idempotent := roundUpSize_idempotent h.pos hle
      monotone := fun smaller hreq hsmaller => roundUpSize_mono hreq.pos hsmaller hle }

theorem roundsUp_odd : Requestable 10485761 ∧ RoundsUp 10485761 :=
  have hreq : Requestable 10485761 := requestable_iff.mpr (by decide)
  ⟨hreq, (roundsUp_iff hreq).mpr (by decide)⟩

/-- The largest size is rounded to the smallest int64. -/
theorem roundUpSize_wraps :
    Requestable Int64.maxValue ∧ roundUpSize Int64.maxValue = Int64.minValue ∧
      ¬ RoundsUp Int64.maxValue := by
  have hwraps : roundUpSize Int64.maxValue = Int64.minValue := by decide
  refine ⟨requestable_iff.mpr (by decide), hwraps, ?_⟩
  intro h
  have henough := h.least.1.2
  rw [hwraps] at henough
  exact absurd henough (by decide)

-- ---------------------------------------------------------------------------
-- The three sources
-- ---------------------------------------------------------------------------

/-- What others do: they leave the claim of the volume its size, and the backups
the sizes they were taken with. -/
structure KeepsSizes (ns volume : String) (s t : Cluster) : Prop where
  claim : KeepsRequest ns volume s t
  backups : ∀ key, (t.backups.get key).map (·.sourceRequests) =
    (s.backups.get key).map (·.sourceRequests)

theorem KeepsSizes.refl (s : Cluster) : KeepsSizes ns volume s s :=
  ⟨KeepsRequest.refl s, fun _ => rfl⟩

theorem KeepsSizes.trans (s t u : Cluster) (h₁ : KeepsSizes ns volume s t)
    (h₂ : KeepsSizes ns volume t u) : KeepsSizes ns volume s u :=
  ⟨KeepsRequest.trans s t u h₁.claim h₂.claim, fun key => (h₂.backups key).trans (h₁.backups key)⟩

/-- `GetCapacityRange().GetRequiredBytes()`. -/
def CreateVolumeRequest.required (req : CreateVolumeRequest) : Int64 := req.requiredBytes.getD 0

def VolumeRemoteBackup.sourceSize (vrb : VolumeRemoteBackup) : Int64 :=
  (vrb.sourceRequests.getD {}).storageValue

/-- The answer promises what was asked for, and a claim that the driver builds
asks for what the answer promises. -/
structure Provisioned (cs : ControllerServer) (req : CreateVolumeRequest)
    (resp : CreateVolumeResponse) (t : Cluster) : Prop where
  capacity : req.required ≤ resp.capacityBytes
  claim : cs.isBackupSnapshotRestore req = false → ∃ pvc,
    t.pvcs.get (cs.ns, resp.volumeId) = some pvc ∧
      resp.capacityBytes ≤ (pvc.requests.getD {}).storageValue

def EnoughFor (cs : ControllerServer) (req : CreateVolumeRequest) (s : Cluster) : Prop :=
  if cs.isBackupSnapshotRestore req then
    ∀ vrb, s.backups.get (parseSnapshotID req.snapshotId).2 = some vrb →
    req.required ≤ vrb.sourceSize
  else req.volumeContentSource = none → cs.volSize req ≤ largestAligned

section
variable {cs : ControllerServer}

theorem volSize_bounds (cs : ControllerServer) (req : CreateVolumeRequest) :
    req.required ≤ cs.volSize req ∧ 0 < cs.volSize req := by
  have hmin : minimalVolumeSize.toInt = 10485760 := rfl
  have hzero : (0 : Int64).toInt = 0 := rfl
  unfold CreateVolumeRequest.required ControllerServer.volSize
  simp only [Int64.lt_iff_toInt_lt, Int64.le_iff_toInt_le, hmin, hzero]
  cases req.requiredBytes with
  | none => simp [hmin]
  | some required =>
    simp only [Option.getD_some]
    split <;> omega

theorem restored_capacity {rel : Cluster → Cluster → Prop} (hrefl : ∀ s, rel s s)
    (hbackup : cs.isBackupSnapshotRestore req = true)
    (h : Runs rel Answers (cs.createVolume ticks req) s (.ok resp) t) :
    ∃ u vrb, rel s u ∧ u.backups.get (parseSnapshotID req.snapshotId).2 = some vrb ∧
      resp.capacityBytes = vrb.sourceSize := by
  rw [ControllerServer.createVolume_eq (.of_runs h), if_pos hbackup] at h
  rw [ControllerServer.isBackupSnapshotRestore_eq] at hbackup
  obtain ⟨ns, name, hparse⟩ : ∃ ns name, parseSnapshotID req.snapshotId = (true, ns, name) :=
    ⟨_, _, Prod.ext hbackup rfl⟩
  simp only [ControllerServer.buildHostVolumeRemoteRestore, hparse, request_bind] at h
  obtain ⟨u, r, u', hmove, hget, h⟩ := h
  cases r with
  | error e => exact absurd h.1 (by simp)
  | ok vrb =>
    obtain ⟨-, hread⟩ := hget.getBackup
    obtain ⟨vrr, _, -, hresp, -⟩ := h.bind_ok hrefl
    cases hresp
    exact ⟨u, vrb, hmove, by rw [hparse]; exact hread vrb rfl, rfl⟩

theorem provisioned_claim_iff (hbackup : cs.isBackupSnapshotRestore req = false)
    (hbuilt : ∀ pvc u, Runs (KeepsSizes cs.ns req.name) Answers
      (cs.buildHostPVC req (req.parameters.getD []) (cs.volSize req)) s (.ok pvc) u →
      pvc.requests = some { storage := some size })
    (h : Runs (KeepsSizes cs.ns req.name) Answers (cs.createVolume ticks req) s (.ok resp) t) :
    Provisioned cs req resp t ↔ cs.volSize req ≤ size := by
  obtain ⟨hid, hcapacity, pvc, hpvc, hrequests⟩ :=
    created_request KeepsSizes.refl KeepsSizes.trans (fun _ _ hkeep => hkeep.claim) hbackup hbuilt h
  rw [← hid] at hpvc
  have hvalue : (pvc.requests.getD {}).storageValue = size := by
    simp [hrequests, ResourceList.storageValue]
  constructor
  · intro hp
    obtain ⟨pvc', hpvc', hle⟩ := hp.claim hbackup
    obtain rfl : pvc = pvc' := Option.some.inj (hpvc.symm.trans hpvc')
    rwa [hvalue, hcapacity] at hle
  · intro hle
    refine ⟨hcapacity ▸ (volSize_bounds cs req).1, fun _ => ⟨pvc, hpvc, ?_⟩⟩
    rwa [hvalue, hcapacity]

/-- Of every CreateVolume that returns: it has provisioned enough exactly when the
backup was taken with enough, or the size of a new claim can be rounded up. -/
theorem provisioned_iff
    (h : Runs (KeepsSizes cs.ns req.name) Answers (cs.createVolume ticks req) s (.ok resp) t) :
    Provisioned cs req resp t ↔ EnoughFor cs req s := by
  cases hbackup : cs.isBackupSnapshotRestore req with
  | true =>
    obtain ⟨u, vrb, hkeep, hvrb, hcapacity⟩ := restored_capacity KeepsSizes.refl hbackup h
    have hsame := hkeep.backups (parseSnapshotID req.snapshotId).2
    rw [hvrb, Option.map_some] at hsame
    obtain ⟨vrb', hvrb', hrequests⟩ := Option.map_eq_some_iff.mp hsame.symm
    have hsize : vrb'.sourceSize = resp.capacityBytes := by
      rw [hcapacity, VolumeRemoteBackup.sourceSize, hrequests, VolumeRemoteBackup.sourceSize]
    simp only [EnoughFor, hbackup, if_true, hvrb', Option.some.injEq, forall_eq', hsize]
    exact ⟨fun hp => hp.capacity, fun hcap => ⟨hcap, fun hnot => by simp [hbackup] at hnot⟩⟩
  | false =>
    simp only [EnoughFor, hbackup, Bool.false_eq_true, if_false]
    rcases hsource : req.volumeContentSource with _ | (snapId | _ | _)
    · -- rounding is where a large size gets lost
      have hbuilt (pvc : PVC) (u : Cluster) (hbuild : Runs (KeepsSizes cs.ns req.name) Answers
          (cs.buildHostPVC req (req.parameters.getD []) (cs.volSize req)) s (.ok pvc) u) :
          pvc.requests = some { storage := some (roundUpSize (cs.volSize req)) } := by
        obtain ⟨sc, provisioner, v, -, -, rfl⟩ :=
          ControllerServer.buildHostPVC_scratch_ok KeepsSizes.refl hsource hbuild
        rfl
      rw [provisioned_claim_iff hbackup hbuilt h, le_roundUpSize_iff (volSize_bounds cs req).2]
      simp
    · have hbuilt (pvc : PVC) (u : Cluster) (hbuild : Runs (KeepsSizes cs.ns req.name) Answers
          (cs.buildHostPVC req (req.parameters.getD []) (cs.volSize req)) s (.ok pvc) u) :
          pvc.requests = some { storage := some (cs.volSize req) } :=
        ControllerServer.buildHostPVC_snapshot_requests KeepsSizes.refl hsource hbuild
      simp [provisioned_claim_iff hbackup hbuilt h]
    all_goals
      obtain ⟨hostPVC, s₁, -, -, -, hbuild, -⟩ :=
        ControllerServer.createVolume_ok KeepsSizes.refl KeepsSizes.trans hbackup h
      simp only [ControllerServer.buildHostPVC, hsource] at hbuild
      exact absurd hbuild.1 (by simp)

end

theorem provisioned_odd :
    EnoughFor exampleServer oddRequest .empty ∧
      Provisioned exampleServer oddRequest oddResponse oddCreated := by
  have henough : EnoughFor exampleServer oddRequest .empty := fun _ => by decide
  have hrun : Runs (KeepsSizes exampleServer.ns oddRequest.name) Answers
      (exampleServer.createVolume 0 oddRequest) .empty (.ok oddResponse) oddCreated :=
    Runs.of_run KeepsSizes.refl Cluster.serve_answers _ _
  exact ⟨henough, (provisioned_iff hrun).mpr henough⟩

def smallBackup : Cluster :=
  { Cluster.empty with
    backups := Cluster.empty.backups.put
      { ns := "ns", name := "b", sourceRequests := some { storage := some 1073741824 },
        success := true }
    restores := Cluster.empty.restores.put
      { ns := "ns", name := "v", type := lhBackup, fromRef := "ns/b", success := true } }

def largeRestore : CreateVolumeRequest where
  name := "v"
  requiredBytes := some 2147483648
  volumeCapabilities := [singleWriter]
  volumeContentSource := some (.snapshot "backup:ns/b")

/-- Of two gibibytes that are asked for, the answer is OK and promises one. -/
theorem restore_underprovisions :
    let resp : CreateVolumeResponse := ⟨"v", 1073741824, [], largeRestore.volumeContentSource⟩
    Runs (KeepsSizes exampleServer.ns largeRestore.name) Answers
        (exampleServer.createVolume 0 largeRestore) smallBackup (.ok resp) smallBackup ∧
      ¬ Provisioned exampleServer largeRestore resp smallBackup := by
  intro resp
  have hrun : run Cluster.serve (exampleServer.createVolume 0 largeRestore) smallBackup =
      (.ok resp, smallBackup) := by rfl
  refine ⟨Runs.of_run_after KeepsSizes.refl KeepsSizes.trans Cluster.serve_answers (.refl _) hrun,
    ?_⟩
  intro h
  exact absurd h.capacity (by decide)

end HarvesterCSI
