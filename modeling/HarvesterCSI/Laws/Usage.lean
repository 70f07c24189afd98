import HarvesterCSI.NodeStats
import Mathlib.Algebra.Group.Int.Defs
import Mathlib.Algebra.Group.Nat.Defs

/-!
# How full a volume is

The counts of `statfs` are multiplied as signed numbers of 64 bits. What is reported is
what there is exactly as long as the size of the filesystem is such a number; beyond that
the answer is still OK.
-/

namespace HarvesterCSI

open Calls Calls.Prog

/-- What is free is part of what there is, and what may be used is part of what is free. -/
structure Statfs.Sane (fs : Statfs) : Prop where
  bsize : 0 < fs.bsize.toInt
  bfree : fs.bfree ≤ fs.blocks
  bavail : fs.bavail ≤ fs.bfree
  ffree : fs.ffree ≤ fs.files

/-- The numbers are those of so many pieces of one size. -/
structure VolumeUsage.Shows (u : VolumeUsage) (piece : Int) (pieces free usable : UInt64) :
    Prop where
  total : u.total.toInt = pieces.toNat * piece
  used : u.used.toInt = (pieces.toNat - free.toNat) * piece
  available : u.available.toInt = usable.toNat * piece

-- ---------------------------------------------------------------------------
-- Signed numbers
-- ---------------------------------------------------------------------------

theorem toInt_toInt64 (n : UInt64) : n.toInt64.toInt = Int.bmod n.toNat (2 ^ 64) :=
  BitVec.toInt_eq_toNat_bmod n.toBitVec

theorem toInt_toInt64_mul (n : UInt64) (b : Int64) :
    (n.toInt64 * b).toInt = Int.bmod (n.toNat * b.toInt) (2 ^ 64) := by
  rw [Int64.toInt_mul, toInt_toInt64, Int.bmod_mul_bmod]

theorem toInt_toInt64_sub (m n : UInt64) :
    (m.toInt64 - n.toInt64).toInt = Int.bmod (m.toNat - n.toNat) (2 ^ 64) := by
  rw [Int64.toInt_sub, toInt_toInt64, toInt_toInt64, Int.bmod_sub_bmod, Int.sub_bmod_bmod]

theorem toInt_toInt64_sub_mul (m n : UInt64) (b : Int64) :
    ((m.toInt64 - n.toInt64) * b).toInt = Int.bmod ((m.toNat - n.toNat) * b.toInt) (2 ^ 64) := by
  rw [Int64.toInt_mul, toInt_toInt64_sub, Int.bmod_mul_bmod]

theorem bmod_eq_self_iff {x : Int} (hx : 0 ≤ x) : x.bmod (2 ^ 64) = x ↔ x < 2 ^ 63 := by
  rw [Int.bmod_def]
  split <;> omega

theorem shows_iff {u : VolumeUsage} {piece : Int64} {pieces free usable : UInt64}
    (hpiece : 0 < piece.toInt) (hfree : free ≤ pieces) (husable : usable ≤ pieces)
    (htotal : u.total = pieces.toInt64 * piece)
    (hused : u.used = (pieces.toInt64 - free.toInt64) * piece)
    (havailable : u.available = usable.toInt64 * piece) :
    u.Shows piece.toInt pieces free usable ↔ (pieces.toNat * piece.toInt : Int) < 2 ^ 63 := by
  have hpos (n : UInt64) : (0 : Int) ≤ n.toNat * piece.toInt :=
    Int.mul_nonneg (Int.natCast_nonneg _) (Int.le_of_lt hpiece)
  constructor
  · intro h
    have hwrapped := h.total
    rw [htotal, toInt_toInt64_mul] at hwrapped
    exact (bmod_eq_self_iff (hpos pieces)).mp hwrapped
  · intro hfits
    have hused' : (0 : Int) ≤ (pieces.toNat - free.toNat) * piece.toInt ∧
        ((pieces.toNat - free.toNat) * piece.toInt : Int) ≤ pieces.toNat * piece.toInt := by
      have hle : free.toNat ≤ pieces.toNat := UInt64.le_iff_toNat_le.mp hfree
      refine ⟨Int.mul_nonneg (by omega) (Int.le_of_lt hpiece), ?_⟩
      exact Int.mul_le_mul_of_nonneg_right (by omega) (Int.le_of_lt hpiece)
    have husable' : (usable.toNat * piece.toInt : Int) ≤ pieces.toNat * piece.toInt := by
      have hle : usable.toNat ≤ pieces.toNat := UInt64.le_iff_toNat_le.mp husable
      exact Int.mul_le_mul_of_nonneg_right (by omega) (Int.le_of_lt hpiece)
    refine ⟨?_, ?_, ?_⟩
    · rw [htotal, toInt_toInt64_mul, (bmod_eq_self_iff (hpos pieces)).mpr hfits]
    · rw [hused, toInt_toInt64_sub_mul, (bmod_eq_self_iff hused'.1).mpr (by omega)]
    · rw [havailable, toInt_toInt64_mul, (bmod_eq_self_iff (hpos usable)).mpr (by omega)]

theorem Statfs.Sane.bytes_iff {fs : Statfs} (h : fs.Sane) :
    fs.statistics.bytes.Shows fs.bsize.toInt fs.blocks fs.bfree fs.bavail ↔
      (fs.blocks.toNat * fs.bsize.toInt : Int) < 2 ^ 63 :=
  shows_iff h.bsize h.bfree (UInt64.le_trans h.bavail h.bfree) rfl rfl rfl

theorem Statfs.Sane.inodes_iff {fs : Statfs} (h : fs.Sane) :
    fs.statistics.inodes.Shows 1 fs.files fs.ffree fs.ffree ↔ fs.files.toNat < 2 ^ 63 := by
  have hone : (1 : Int64).toInt = 1 := rfl
  have hiff := shows_iff (u := fs.statistics.inodes) (hone ▸ Int.one_pos) h.ffree h.ffree
    (Int64.mul_one _).symm (Int64.mul_one _).symm (Int64.mul_one _).symm
  rw [hone, Int.mul_one] at hiff
  exact hiff.trans (by omega)

/-- The usage of a filesystem is reported as it is exactly if its size in bytes and the
number of its inodes are below 2^63. -/
theorem usage_exact_iff (ns : NodeServer) (req : NodeGetVolumeStatsRequest) (c : Cluster)
    (paths : String → Option Inode) (hid : req.volumeId ≠ "") (hpath : req.volumePath ≠ "")
    (hpvc : c.pvcs.get (ns.ns, req.volumeId) = some pvc)
    (hinode : paths req.volumePath = some inode)
    (hmount : inode.mode &&& fileTypeMask ≠ blockDeviceMode) (hsane : inode.fs.Sane) :
    (∃ bytes inodes,
      run Inode.serve (ns.nodeGetVolumeStats req) (c, paths) = (.ok [bytes, inodes], c, paths) ∧
      bytes.unit = .bytes ∧
        bytes.Shows inode.fs.bsize.toInt inode.fs.blocks inode.fs.bfree inode.fs.bavail ∧
      inodes.unit = .inodes ∧ inodes.Shows 1 inode.fs.files inode.fs.ffree inode.fs.ffree) ↔
    (inode.fs.blocks.toNat * inode.fs.bsize.toInt : Int) < 2 ^ 63 ∧
      inode.fs.files.toNat < 2 ^ 63 := by
  have hrun : run Inode.serve (ns.nodeGetVolumeStats req) (c, paths) =
      (.ok [inode.fs.statistics.bytes, inode.fs.statistics.inodes], c, paths) := by
    simp [NodeServer.nodeGetVolumeStats, isBlockDevice, getFilesystemStatistics, hid, hpath,
      Inode.serve, Cluster.serve, hpvc, hinode, hmount]
  rw [hrun]
  constructor
  · rintro ⟨bytes, inodes, hanswer, -, hbytes, -, hinodes⟩
    cases hanswer
    exact ⟨hsane.bytes_iff.mp hbytes, hsane.inodes_iff.mp hinodes⟩
  · rintro ⟨hbytes, hinodes⟩
    exact ⟨_, _, rfl, rfl, hsane.bytes_iff.mpr hbytes, rfl, hsane.inodes_iff.mpr hinodes⟩

def smallFilesystem : Inode where
  mode := 0x41ed
  fs := ⟨4096, 1000, 400, 300, 128, 100⟩

def usageHost : Cluster := Cluster.empty.setPVC { ns := "ns", name := "v" }

theorem usage_exact_small :
    ∃ bytes inodes, run Inode.serve (NodeServer.nodeGetVolumeStats ⟨"ns", "n"⟩ ⟨"v", "/pods/v"⟩)
        (usageHost, fun _ => some smallFilesystem) =
          (.ok [bytes, inodes], usageHost, fun _ => some smallFilesystem) ∧
      bytes.unit = .bytes ∧ bytes.Shows 4096 1000 400 300 ∧
      inodes.unit = .inodes ∧ inodes.Shows 1 128 100 100 :=
  (usage_exact_iff ⟨"ns", "n"⟩ ⟨"v", "/pods/v"⟩ usageHost (fun _ => some smallFilesystem)
    (by decide) (by decide) rfl rfl (by decide)
    ⟨by decide, by decide, by decide, by decide⟩).mpr (by decide)

end HarvesterCSI
