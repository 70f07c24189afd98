import HarvesterCSI.Manager
import HarvesterCSI.Text.Precedence

/-!
# The version gate

The gate compares the version with the first pre-release of a release line, which
is to compare release lines.
-/

namespace HarvesterCSI

open Semver (Version)

theorem target_text (major minor : Nat) :
    ("v" ++ toString major ++ "." ++ toString minor ++ ".0-0").toList =
      (Version.least major minor).text := by
  have hzero : Nat.toDigits 10 0 = ['0'] := Nat.toDigits_zero 10
  simp [Version.least, Version.text, Semver.decimal, Semver.suffix, hzero]

theorem isVersionAtLeast_text {V : Version} (h : version.toList = V.text) (major minor : Nat) :
    isVersionAtLeast version major minor = true ↔ toLex (major, minor) ≤ toLex V.line := by
  have hvalid : Semver.isValid version = true := (Semver.isValid_iff version).mpr ⟨V, h⟩
  rw [isVersionAtLeast, hvalid, ← V.compareParsed_least_iff,
    ← Semver.compare_eq h (target_text major minor)]
  simp

/-- The driver patches machines on servers from release line 1.8 on. -/
theorem useDeclarativeHotplug_iff {V : Version} (h : value.toList = V.text) :
    useDeclarativeHotplug (.ok value) = .ok true ↔ toLex (1, 8) ≤ toLex V.line := by
  rw [useDeclarativeHotplug, Except.ok.injEq]
  exact isVersionAtLeast_text h 1 8

/-- The gate goes by the release line of a version: whatever its patch, pre-release
and build are, it is open for a later version if it is open for an earlier one, and
open for an earlier line if it is open for a later one. -/
structure GatesByLine (version : String) : Prop where
  isText : ∃ V : Version, version.toList = V.text
  gate : ∀ V : Version, version.toList = V.text → ∀ major minor,
    isVersionAtLeast version major minor = true ↔ toLex (major, minor) ≤ toLex V.line
  monotone : ∀ later, Semver.isValid later = true → Semver.compare version later ≤ 0 →
  ∀ major minor,
    isVersionAtLeast version major minor = true → isVersionAtLeast later major minor = true
  antitone : ∀ major minor major' minor', toLex (major', minor') ≤ toLex (major, minor) →
    isVersionAtLeast version major minor = true → isVersionAtLeast version major' minor' = true

theorem gatesByLine_of_isValid (h : Semver.isValid version = true) : GatesByLine version := by
  obtain ⟨V, hV⟩ := (Semver.isValid_iff version).mp h
  refine ⟨⟨V, hV⟩, fun W hW => isVersionAtLeast_text hW, ?_, ?_⟩
  · intro later hlater hcompare major minor hopen
    obtain ⟨W, hW⟩ := (Semver.isValid_iff later).mp hlater
    rw [Semver.compare_eq hV hW] at hcompare
    rw [isVersionAtLeast_text hV] at hopen
    rw [isVersionAtLeast_text hW]
    exact le_trans hopen (Version.line_le_of_compareParsed hcompare)
  · intro major minor major' minor' hle hopen
    rw [isVersionAtLeast_text hV] at hopen ⊢
    exact le_trans hle hopen

theorem gatesByLine_candidate : Semver.isValid "v1.7.2-rc1" = true ∧ GatesByLine "v1.7.2-rc1" := by
  have hvalid : Semver.isValid "v1.7.2-rc1" = true := by decide +kernel
  exact ⟨hvalid, gatesByLine_of_isValid hvalid⟩

end HarvesterCSI
