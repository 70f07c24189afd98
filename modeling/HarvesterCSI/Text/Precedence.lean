import HarvesterCSI.Text.Semver
import Mathlib.Algebra.Group.Nat.Defs
import Mathlib.Data.Prod.Lex

/-!
# The precedence of versions

Numbers are compared by the length of their texts and then as texts, which is
their order as numbers. Two versions of different release lines are in the order
of these lines, and no pre-release comes before `-0`.
-/

namespace Semver

-- ---------------------------------------------------------------------------
-- Numbers
-- ---------------------------------------------------------------------------

/-- The number that digits stand for. -/
def value (t : List Char) : Nat := Nat.ofDigitChars 10 t 0

theorem value_decimal (n : Nat) : value (decimal n) = n := Nat.ofDigitChars_ten_toDigits

theorem decimal_inj : decimal a = decimal b ↔ a = b :=
  ⟨fun h => by rw [← value_decimal a, h, value_decimal], fun h => h ▸ rfl⟩

theorem value_cons (c : Char) (t : List Char) :
    value (c :: t) = 10 ^ t.length * (c.toNat - 48) + value t := by
  have hzero : '0'.toNat = 48 := rfl
  rw [value, Nat.ofDigitChars_cons, Nat.ofDigitChars_eq_ofDigitChars_zero, hzero, value]
  simp

theorem value_lt (ht : ∀ c ∈ t, c.isDigit = true) : value t < 10 ^ t.length := by
  induction t with
  | nil => simp [value]
  | cons c t ih =>
    obtain ⟨hc, ht⟩ := List.forall_mem_cons.mp ht
    have hrange := digit_range hc
    have hrest := ih ht
    rw [value_cons, List.length_cons, Nat.pow_succ]
    have hhead : 10 ^ t.length * (c.toNat - 48) ≤ 10 ^ t.length * 9 :=
      Nat.mul_le_mul_left _ (by omega)
    omega

theorem char_lt_iff {c d : Char} : c < d ↔ c.toNat < d.toNat := UInt32.lt_iff_toNat_lt

/-- Of texts of one length, the order of the texts is that of the numbers. -/
theorem lt_iff_value_lt (hx : ∀ c ∈ x, c.isDigit = true) (hy : ∀ c ∈ y, c.isDigit = true)
    (hlen : x.length = y.length) : x < y ↔ value x < value y := by
  induction x generalizing y with
  | nil =>
    obtain rfl : y = [] := List.length_eq_zero_iff.mp hlen.symm
    simp
  | cons c x ih =>
    cases y with
    | nil => simp at hlen
    | cons d y =>
      obtain ⟨hc, hx⟩ := List.forall_mem_cons.mp hx
      obtain ⟨hd, hy⟩ := List.forall_mem_cons.mp hy
      have hlen' : x.length = y.length := by simpa using hlen
      have hrec := ih hx hy hlen'
      have hxlt := value_lt hx
      have hylt := value_lt hy
      have hrc := digit_range hc
      have hrd := digit_range hd
      rw [List.cons_lt_cons_iff, char_lt_iff, value_cons, value_cons, hlen', hrec]
      rw [hlen'] at hxlt
      rcases Nat.lt_trichotomy c.toNat d.toNat with hlt | heq | hgt
      · have hstep : 10 ^ y.length * (c.toNat - 48 + 1) ≤ 10 ^ y.length * (d.toNat - 48) :=
          Nat.mul_le_mul_left _ (by omega)
        rw [Nat.mul_add] at hstep
        exact ⟨fun _ => by omega, fun _ => .inl hlt⟩
      · obtain rfl := Char.toNat_inj.mp heq
        simp
      · have hstep : 10 ^ y.length * (d.toNat - 48 + 1) ≤ 10 ^ y.length * (c.toNat - 48) :=
          Nat.mul_le_mul_left _ (by omega)
        rw [Nat.mul_add] at hstep
        have hne : c ≠ d := fun h => absurd (congrArg Char.toNat h) (by omega)
        simp only [hne, false_and, or_false]
        omega

theorem lt_of_length_lt (h : (decimal a).length < (decimal b).length) : a < b := by
  have hpos : 0 < (decimal a).length := Nat.length_toDigits_pos
  have ha : a < 10 ^ (decimal a).length :=
    (Nat.length_toDigits_le_iff (by decide) hpos).mp (Nat.le_refl _)
  have hb : ¬ b < 10 ^ (decimal a).length := fun hlt =>
    absurd ((Nat.length_toDigits_le_iff (by decide) hpos).mpr hlt) (Nat.not_le_of_lt h)
  omega

theorem compareInt_decimal (a b : Nat) :
    compareInt (decimal a) (decimal b) = if a = b then 0 else if a < b then -1 else 1 := by
  simp only [compareInt, decimal_inj]
  split
  · rfl
  · rename_i hne
    by_cases hlt : (decimal a).length < (decimal b).length
    · rw [if_pos hlt, if_pos (lt_of_length_lt hlt)]
    · by_cases hgt : (decimal b).length < (decimal a).length
      · have hle : ¬ a < b := Nat.not_lt_of_lt (lt_of_length_lt hgt)
        rw [if_neg hlt, if_pos hgt, if_neg hle]
      · have horder :=
          lt_iff_value_lt (fun _ => isDigit_of_mem_decimal) (fun _ => isDigit_of_mem_decimal)
          (show (decimal a).length = (decimal b).length by omega)
        rw [value_decimal, value_decimal] at horder
        simp only [hlt, hgt, if_false, horder]

-- ---------------------------------------------------------------------------
-- Pre-releases
-- ---------------------------------------------------------------------------

theorem nextIdent_append (i : Ident bad) (idents : List (Ident bad)) :
    nextIdent (i.val ++ dotted idents) = (i.val, dotted idents) := by
  have hchars : ∀ c ∈ i.val, decide (c ≠ '.') = true :=
    fun c hc => decide_eq_true (ne_dot_of_isIdentChar (i.property.2 c hc))
  rw [nextIdent, List.takeWhile_append_of_pos hchars, List.dropWhile_append_of_pos hchars]
  cases idents <;> simp

theorem zero_first (hident : ident ≠ []) (hne : ident ≠ ['0']) :
    (if isNum ident ≠ isNum ['0'] then if isNum ident then -1 else 1
      else if isNum ident ∧ ident.length < ['0'].length then -1
      else if isNum ident ∧ ['0'].length < ident.length then 1
      else if ident < ['0'] then -1
      else (1 : Int)) = 1 := by
  have hzero : isNum ['0'] = true := rfl
  have hpos : 0 < ident.length := List.length_pos_iff.mpr hident
  cases hnum : isNum ident with
  | false => simp [hzero]
  | true =>
    by_cases hlong : 1 < ident.length
    · have hshort : ¬ ident.length < 1 := by omega
      simp [hzero, hlong, hshort]
    · obtain ⟨c, rfl⟩ := List.length_eq_one_iff.mp (show ident.length = 1 by omega)
      have hc : c.isDigit = true := by simpa [isNum] using hnum
      have hrange := digit_range hc
      have hnlt : ¬ c < '0' := by
        rw [char_lt_iff]
        exact Nat.not_lt.mpr hrange.1
      simp [hzero, List.cons_lt_cons_iff, hnlt]

theorem comparePrerelease_zero (idents : List (Ident badPrerelease)) :
    0 ≤ comparePrerelease (suffix '-' idents) ['-', '0'] := by
  cases idents with
  | nil => decide
  | cons i idents =>
    have hi : i.val ≠ [] := by
      intro hnil
      have hbad := i.property.1
      rw [hnil] at hbad
      cases hbad
    rw [comparePrerelease]
    split
    · exact Int.le_refl _
    · rename_i hne
      rw [suffix, if_neg (List.cons_ne_nil _ _), if_neg (List.cons_ne_nil _ _), compareIdents,
        nextIdent_append]
      by_cases hzero : i.val = ['0']
      · -- the shorter one comes first
        cases idents with
        | nil => simp [suffix, hzero] at hne
        | cons j idents => simp [hzero, nextIdent, compareIdents]
      · have hnext : nextIdent ['0'] = (['0'], []) := rfl
        dsimp only
        rw [hnext, if_pos hzero, zero_first hi hzero]
        decide

-- ---------------------------------------------------------------------------
-- Versions
-- ---------------------------------------------------------------------------

namespace Version

theorem isIdent_zero : badPrerelease ['0'] = false ∧ ∀ c ∈ ['0'], isIdentChar c = true :=
  ⟨rfl, by simp [isIdentChar]⟩

/-- The first version of a release line. -/
def least (M m : Nat) : Version := .patch M m 0 [⟨['0'], isIdent_zero⟩] []

theorem parsed_line (V : Version) :
    V.parsed.major = decimal V.line.1 ∧ V.parsed.minor = decimal V.line.2 := by
  have hzero : decimal 0 = ['0'] := Nat.toDigits_zero 10
  cases V with
  | major M => exact ⟨rfl, hzero.symm⟩
  | minor M m => exact ⟨rfl, rfl⟩
  | patch M m p prerelease build => exact ⟨rfl, rfl⟩

theorem compareParsed_of_line_ne {V W : Version} (h : V.line ≠ W.line) :
    compareParsed V.parsed W.parsed = if toLex V.line < toLex W.line then -1 else 1 := by
  obtain ⟨hVM, hVm⟩ := V.parsed_line
  obtain ⟨hWM, hWm⟩ := W.parsed_line
  rw [compareParsed, hVM, hVm, hWM, hWm, compareInt_decimal, compareInt_decimal]
  simp only [Prod.Lex.toLex_lt_toLex]
  by_cases hM : V.line.1 = W.line.1
  · have hm : V.line.2 ≠ W.line.2 := fun hm => h (Prod.ext hM hm)
    by_cases hlt : V.line.2 < W.line.2 <;> simp [hM, hm, hlt]
  · by_cases hlt : V.line.1 < W.line.1 <;> simp [hM, hlt]

theorem line_le_of_compareParsed {V W : Version} (h : compareParsed V.parsed W.parsed ≤ 0) :
    toLex V.line ≤ toLex W.line := by
  by_contra hlt
  have hlt := lt_of_not_ge hlt
  have hne : V.line ≠ W.line := fun he => by rw [he] at hlt; exact lt_irrefl _ hlt
  rw [compareParsed_of_line_ne hne, if_neg (lt_asymm hlt)] at h
  exact absurd h (by decide)

theorem parsed_rest (V : Version) : ∃ (p : Nat) (idents : List (Ident badPrerelease)),
    V.parsed.patch = decimal p ∧ V.parsed.prerelease = suffix '-' idents := by
  have hzero : decimal 0 = ['0'] := Nat.toDigits_zero 10
  cases V with
  | major M => exact ⟨0, [], hzero.symm, rfl⟩
  | minor M m => exact ⟨0, [], hzero.symm, rfl⟩
  | patch M m p prerelease build => exact ⟨p, prerelease, rfl, rfl⟩

theorem compareParsed_least {V : Version} (h : V.line = (M, m)) :
    0 ≤ compareParsed V.parsed (least M m).parsed := by
  obtain ⟨hM, hm⟩ := V.parsed_line
  obtain ⟨p, idents, hp, hidents⟩ := V.parsed_rest
  rw [h] at hM hm
  have hleast : (least M m).parsed = ⟨decimal M, decimal m, decimal 0, [], ['-', '0'], []⟩ := rfl
  rw [compareParsed, hleast, hM, hm, hp, hidents]
  simp only [compareInt_decimal, if_true, ne_eq, not_true, if_false, Nat.not_lt_zero]
  by_cases hzero : p = 0
  · simpa [hzero] using comparePrerelease_zero idents
  · simp [hzero]

theorem compareParsed_least_iff (V : Version) (M m : Nat) :
    0 ≤ compareParsed V.parsed (least M m).parsed ↔ toLex (M, m) ≤ toLex V.line := by
  by_cases hline : V.line = (M, m)
  · rw [hline]
    exact ⟨fun _ => le_refl _, fun _ => compareParsed_least hline⟩
  · have hleast : (least M m).line = (M, m) := rfl
    rw [compareParsed_of_line_ne (hleast ▸ hline), hleast]
    by_cases hlt : toLex V.line < toLex (M, m)
    · rw [if_pos hlt]
      exact ⟨fun h => absurd h (by decide), fun h => absurd hlt (not_lt_of_ge h)⟩
    · rw [if_neg hlt]
      exact ⟨fun _ => le_of_not_gt hlt, fun _ => by decide⟩

end Version

theorem compare_eq {v w : String} {V W : Version} (hv : v.toList = V.text)
    (hw : w.toList = W.text) :
    compare v w = compareParsed V.parsed W.parsed := by
  rw [compare, hv, hw, parse_text, parse_text]

end Semver
