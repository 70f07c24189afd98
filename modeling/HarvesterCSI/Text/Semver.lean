import Mathlib.Data.List.Basic

/-!
# Semantic versions

Go's `golang.org/x/mod/semver`: versions are texts, parts of them are cut out and
compared as texts. What is accepted is `vMAJOR[.MINOR[.PATCH[-PRERELEASE][+BUILD]]]`,
the texts of a `Version`.
-/

namespace Semver

-- ---------------------------------------------------------------------------
-- Reading
-- ---------------------------------------------------------------------------

structure Parsed where
  major : List Char
  minor : List Char
  patch : List Char
  short : List Char
  prerelease : List Char
  build : List Char
  deriving DecidableEq, Repr

def isIdentChar (c : Char) : Bool := c.isUpper || c.isLower || c.isDigit || c = '-'

def isBadNum (v : List Char) : Bool := v.all Char.isDigit && 1 < v.length && v.head? = some '0'

def isNum (v : List Char) : Bool := v.all Char.isDigit

def parseInt : List Char → Option (List Char × List Char)
  | [] => none
  | c :: cs =>
    if !c.isDigit then none
    else if c = '0' ∧ cs.takeWhile Char.isDigit ≠ [] then none
    else some (c :: cs.takeWhile Char.isDigit, cs.dropWhile Char.isDigit)

/-- The loop of `parsePrerelease` and `parseBuild`, which end at different characters
and find different identifiers bad. The first argument is what there is already of
the current identifier. -/
def parseIdents (bad : List Char → Bool) (stop : Char → Bool) :
    List Char → List Char → Option (List Char × List Char)
  | ident, [] => if bad ident then none else some ([], [])
  | ident, c :: cs =>
    if stop c then if bad ident then none else some ([], c :: cs)
    else if !isIdentChar c && c ≠ '.' then none
    else if c = '.' then
      if bad ident then none else (parseIdents bad stop [] cs).map fun r => (c :: r.1, r.2)
    else (parseIdents bad stop (ident ++ [c]) cs).map fun r => (c :: r.1, r.2)

def badPrerelease (ident : List Char) : Bool := ident = [] || isBadNum ident

def badBuild (ident : List Char) : Bool := ident = []

def parseSuffix (start : Char) (bad : List Char → Bool) (stop : Char → Bool) :
    List Char → Option (List Char × List Char)
  | [] => none
  | c :: cs =>
    if c ≠ start then none
    else (parseIdents bad stop [] cs).map fun r => (c :: r.1, r.2)

def parsePrerelease : List Char → Option (List Char × List Char) :=
  parseSuffix '-' badPrerelease (· = '+')

def parseBuild : List Char → Option (List Char × List Char) :=
  parseSuffix '+' badBuild fun _ => false

def expect (c : Char) : List Char → Option (List Char)
  | [] => none
  | d :: v => if d ≠ c then none else some v

def optional (start : Char) (part : List Char → Option (List Char × List Char)) (v : List Char) :
    Option (List Char × List Char) :=
  if v.head? = some start then part v else some ([], v)

def parse (v : List Char) : Option Parsed := do
  let v ← expect 'v' v
  let (major, v) ← parseInt v
  if v = [] then return ⟨major, ['0'], ['0'], ['.', '0', '.', '0'], [], []⟩
  let v ← expect '.' v
  let (minor, v) ← parseInt v
  if v = [] then return ⟨major, minor, ['0'], ['.', '0'], [], []⟩
  let v ← expect '.' v
  let (patch, v) ← parseInt v
  let (prerelease, v) ← optional '-' parsePrerelease v
  let (build, v) ← optional '+' parseBuild v
  if v ≠ [] then none else return ⟨major, minor, patch, [], prerelease, build⟩

def isValid (v : String) : Bool := (parse v.toList).isSome

-- ---------------------------------------------------------------------------
-- Comparing
-- ---------------------------------------------------------------------------

def compareInt (x y : List Char) : Int :=
  if x = y then 0
  else if x.length < y.length then -1
  else if y.length < x.length then 1
  else if x < y then -1
  else 1

def nextIdent (x : List Char) : List Char × List Char :=
  (x.takeWhile (· ≠ '.'), x.dropWhile (· ≠ '.'))

/-- The loop of `comparePrerelease`. Each round skips one character, a hyphen or a
dot, and takes one identifier from either side. -/
def compareIdents : List Char → List Char → Int
  | [], _ => -1
  | _ :: _, [] => 1
  | _ :: x, _ :: y =>
    let dx := (nextIdent x).1
    let dy := (nextIdent y).1
    if dx ≠ dy then
      if isNum dx ≠ isNum dy then if isNum dx then -1 else 1
      else if isNum dx ∧ dx.length < dy.length then -1
      else if isNum dx ∧ dy.length < dx.length then 1
      else if dx < dy then -1
      else 1
    else compareIdents (nextIdent x).2 (nextIdent y).2
termination_by x => x.length
decreasing_by
  have hle : (x.dropWhile (· ≠ '.')).length ≤ x.length := (List.dropWhile_sublist _).length_le
  simp only [nextIdent, List.length_cons]
  omega

def comparePrerelease (x y : List Char) : Int :=
  if x = y then 0
  else if x = [] then 1
  else if y = [] then -1
  else compareIdents x y

def compareParsed (pv pw : Parsed) : Int :=
  if compareInt pv.major pw.major ≠ 0 then compareInt pv.major pw.major
  else if compareInt pv.minor pw.minor ≠ 0 then compareInt pv.minor pw.minor
  else if compareInt pv.patch pw.patch ≠ 0 then compareInt pv.patch pw.patch
  else comparePrerelease pv.prerelease pw.prerelease

def compare (v w : String) : Int :=
  match parse v.toList, parse w.toList with
  | none, none => 0
  | none, some _ => -1
  | some _, none => 1
  | some pv, some pw => compareParsed pv pw

-- ---------------------------------------------------------------------------
-- The grammar
-- ---------------------------------------------------------------------------

abbrev Ident (bad : List Char → Bool) : Type :=
  { ident : List Char // bad ident = false ∧ ∀ c ∈ ident, isIdentChar c = true }

/-- `%d` of a natural number. -/
def decimal (n : Nat) : List Char := Nat.toDigits 10 n

inductive Version
  | major (major : Nat)
  | minor (major minor : Nat)
  /-- With a pre-release and a build that may each be empty. -/
  | patch (major minor patch : Nat) (prerelease : List (Ident badPrerelease))
      (build : List (Ident badBuild))

def dotted (idents : List (Ident bad)) : List Char := idents.flatMap fun ident => '.' :: ident.val

@[simp] theorem dotted_nil : dotted ([] : List (Ident bad)) = [] := rfl

@[simp] theorem dotted_cons (ident : Ident bad) (idents : List (Ident bad)) :
    dotted (ident :: idents) = '.' :: (ident.val ++ dotted idents) := rfl

def suffix (start : Char) : List (Ident bad) → List Char
  | [] => []
  | ident :: idents => start :: (ident.val ++ dotted idents)

namespace Version

def text : Version → List Char
  | .major M => 'v' :: decimal M
  | .minor M m => 'v' :: (decimal M ++ '.' :: decimal m)
  | .patch M m p prerelease build =>
    'v' :: (decimal M ++ '.' :: (decimal m ++ '.' ::
      (decimal p ++ (suffix '-' prerelease ++ suffix '+' build))))

/-- The release line; a missing part is read as 0. -/
def line : Version → Nat × Nat
  | .major M => (M, 0)
  | .minor M m => (M, m)
  | .patch M m _ _ _ => (M, m)

def parsed : Version → Parsed
  | .major M => ⟨decimal M, ['0'], ['0'], ['.', '0', '.', '0'], [], []⟩
  | .minor M m => ⟨decimal M, decimal m, ['0'], ['.', '0'], [], []⟩
  | .patch M m p prerelease build =>
    ⟨decimal M, decimal m, decimal p, [], suffix '-' prerelease, suffix '+' build⟩

end Version

-- ---------------------------------------------------------------------------
-- Numbers
-- ---------------------------------------------------------------------------

theorem digit_range {c : Char} (h : c.isDigit = true) : 48 ≤ c.toNat ∧ c.toNat ≤ 57 :=
  Char.isDigit_iff_toNat.mp h

theorem decimal_digit {c : Char} (h : c.isDigit = true) : decimal (c.toNat - 48) = [c] := by
  have hrange := digit_range h
  have hchar : (c.toNat - 48).digitChar = c := by
    apply Char.toNat_inj.mp
    rw [Nat.toNat_digitChar_of_lt_ten (by omega)]
    omega
  rw [decimal, Nat.toDigits_of_lt_base (by omega), hchar]

theorem isDigit_of_mem_decimal (h : c ∈ decimal n) : c.isDigit = true :=
  Nat.isDigit_of_mem_toDigits (by decide) (by decide) h

theorem decimal_head_ne_zero (h : 0 < n) : (decimal n).head? ≠ some '0' := by
  induction n using Nat.strongRecOn with
  | ind n ih =>
    rw [decimal, Nat.toDigits_eq_if (by decide)]
    split
    · simp
      omega
    · rename_i hten
      have hrec := ih (n / 10) (by omega) (by omega)
      rw [decimal] at hrec
      rwa [List.head?_append_of_ne_nil _ Nat.toDigits_ne_nil]

/-- Digits, without a zero in front of others. -/
def IsNumeral (t : List Char) : Prop :=
  t ≠ [] ∧ (∀ c ∈ t, c.isDigit = true) ∧ (t.head? = some '0' → t = ['0'])

theorem isNumeral_decimal (n : Nat) : IsNumeral (decimal n) := by
  refine ⟨Nat.toDigits_ne_nil, fun c => isDigit_of_mem_decimal, fun hhead => ?_⟩
  cases n with
  | zero => rfl
  | succ n => exact absurd hhead (decimal_head_ne_zero (Nat.succ_pos n))

theorem decimal_append (h : 0 < n) {ds : List Char} (hds : ∀ d ∈ ds, d.isDigit = true) :
    decimal n ++ ds = decimal (Nat.ofDigitChars 10 ds n) := by
  induction ds generalizing n with
  | nil => simp
  | cons d ds ih =>
    obtain ⟨hd, hds⟩ := List.forall_mem_cons.mp hds
    have hrange := digit_range hd
    have hone : decimal n ++ [d] = decimal (10 * n + (d.toNat - 48)) := by
      rw [← decimal_digit hd]
      exact Nat.toDigits_append_toDigits (by decide) h (by omega)
    calc decimal n ++ d :: ds = decimal n ++ [d] ++ ds := by simp
      _ = decimal (10 * n + (d.toNat - 48)) ++ ds := by rw [hone]
      _ = decimal (Nat.ofDigitChars 10 ds (10 * n + (d.toNat - 48))) := ih (by omega) hds
      _ = decimal (Nat.ofDigitChars 10 (d :: ds) n) := by rw [Nat.ofDigitChars_cons]; rfl

theorem isNumeral_iff : IsNumeral t ↔ ∃ n, t = decimal n := by
  constructor
  · rintro ⟨hne, hdigits, hzero⟩
    cases t with
    | nil => exact absurd rfl hne
    | cons c cs =>
      obtain ⟨hc, hcs⟩ := List.forall_mem_cons.mp hdigits
      by_cases h0 : c = '0'
      · exact ⟨0, hzero (by simp [h0])⟩
      · have hrange := digit_range hc
        have hne0 : c.toNat ≠ 48 := fun h => h0 (Char.toNat_inj.mp h)
        exact ⟨_, decimal_digit hc ▸ decimal_append (n := c.toNat - 48) (by omega) hcs⟩
  · rintro ⟨n, rfl⟩
    exact isNumeral_decimal n

def Begins (p : Char → Bool) (rest : List Char) : Prop := ∀ c, rest.head? = some c → p c = true

theorem begins_nil {p : Char → Bool} : Begins p [] := by
  rintro c ⟨⟩

theorem parseInt_decimal (n : Nat) (hrest : Begins (!·.isDigit) rest) :
    parseInt (decimal n ++ rest) = some (decimal n, rest) := by
  obtain ⟨hne, hdigits, hzero⟩ := isNumeral_decimal n
  cases hn : decimal n with
  | nil => exact absurd hn hne
  | cons c cs =>
    rw [hn] at hdigits hzero
    obtain ⟨hc, hcs⟩ := List.forall_mem_cons.mp hdigits
    have hstop : rest.takeWhile Char.isDigit = [] ∧ rest.dropWhile Char.isDigit = rest := by
      cases rest with
      | nil => exact ⟨rfl, rfl⟩
      | cons r rest =>
        have hr : r.isDigit = false := by simpa using hrest r rfl
        simp [hr]
    have hlead : ¬ (c = '0' ∧ cs ≠ []) := by
      rintro ⟨rfl, hcs⟩
      exact hcs (List.cons.inj (hzero rfl)).2
    rw [List.cons_append, parseInt, List.takeWhile_append_of_pos hcs,
      List.dropWhile_append_of_pos hcs, hstop.1, hstop.2, List.append_nil, if_neg (by simp [hc]),
      if_neg hlead]

theorem parseInt_some (h : parseInt v = some (t, rest)) :
    ∃ n, t = decimal n ∧ v = decimal n ++ rest := by
  cases v with
  | nil => cases h
  | cons c cs =>
    rw [parseInt] at h
    split at h
    · cases h
    · rename_i hc
      split at h
      · cases h
      · rename_i hlead
        cases h
        have hnum : IsNumeral (c :: cs.takeWhile Char.isDigit) := by
          refine ⟨List.cons_ne_nil _ _, ?_, ?_⟩
          · refine List.forall_mem_cons.mpr ⟨by simpa using hc, fun d hd => ?_⟩
            exact List.all_eq_true.mp (List.all_takeWhile) d hd
          · intro h0
            have hc0 : c = '0' := by simpa using h0
            have hnil := not_and_not_right.mp hlead hc0
            rw [hc0, hnil]
        obtain ⟨n, hn⟩ := isNumeral_iff.mp hnum
        refine ⟨n, hn, ?_⟩
        rw [← hn, List.cons_append, List.takeWhile_append_dropWhile]

-- ---------------------------------------------------------------------------
-- Identifiers
-- ---------------------------------------------------------------------------

section
variable {bad : List Char → Bool} {stop : Char → Bool}

theorem ne_dot_of_isIdentChar (h : isIdentChar c = true) : c ≠ '.' := by
  rintro rfl
  exact absurd h (by decide)

theorem parseIdents_append (hstop : ∀ c, stop c = true → isIdentChar c = false) {first : List Char}
    (hfirst : ∀ c ∈ first, isIdentChar c = true) (ident v : List Char) :
    parseIdents bad stop ident (first ++ v) =
      (parseIdents bad stop (ident ++ first) v).map fun r => (first ++ r.1, r.2) := by
  induction first generalizing ident with
  | nil => simp
  | cons c first ih =>
    obtain ⟨hc, hfirst⟩ := List.forall_mem_cons.mp hfirst
    have hgo : stop c = false := by
      cases hs : stop c with
      | false => rfl
      | true => rw [hstop c hs] at hc; cases hc
    rw [List.cons_append, parseIdents, if_neg (by simp [hgo]), if_neg (by simp [hc]),
      if_neg (ne_dot_of_isIdentChar hc), ih hfirst, List.append_assoc, List.singleton_append,
      Option.map_map]
    rfl

theorem parseIdents_dotted (hstop : ∀ c, stop c = true → isIdentChar c = false)
    (hdot : stop '.' = false) (hident : bad ident = false) (more : List (Ident bad))
    (hrest : Begins stop rest) :
    parseIdents bad stop ident (dotted more ++ rest) = some (dotted more, rest) := by
  induction more generalizing ident with
  | nil =>
    cases rest with
    | nil => simp [parseIdents, hident]
    | cons c rest => simp [parseIdents, hident, hrest c rfl]
  | cons next more ih =>
    obtain ⟨next, hnext, hchars⟩ := next
    have hrec : parseIdents bad stop [] (next ++ (dotted more ++ rest)) =
        some (next ++ dotted more, rest) := by
      rw [parseIdents_append hstop hchars, List.nil_append, ih hnext]
      rfl
    rw [dotted_cons, List.cons_append, List.append_assoc, parseIdents, if_neg (by simp [hdot]),
      if_neg (by simp), if_pos rfl, if_neg (by simp [hident]), hrec]
    rfl

theorem parseIdents_some (h : parseIdents bad stop ident v = some (t, rest)) :
    ∃ first : List Char, ∃ more : List (Ident bad), (∀ c ∈ first, isIdentChar c = true) ∧
      bad (ident ++ first) = false ∧ t = first ++ dotted more ∧ v = t ++ rest := by
  induction v generalizing ident t with
  | nil =>
    rw [parseIdents] at h
    split at h
    · cases h
    · rename_i hident
      cases h
      exact ⟨[], [], by simp, by simpa using hident, rfl, rfl⟩
  | cons c cs ih =>
    rw [parseIdents] at h
    split at h
    · split at h
      · cases h
      · rename_i hident
        cases h
        exact ⟨[], [], by simp, by simpa using hident, rfl, rfl⟩
    · split at h
      · cases h
      · rename_i hchar
        split at h
        · -- the identifier ends here and another begins
          rename_i hc
          split at h
          · cases h
          · rename_i hident
            obtain ⟨⟨t', rest'⟩, hrec, hr⟩ := Option.map_eq_some_iff.mp h
            cases hr
            obtain ⟨first, more, hfirst, hbad, rfl, rfl⟩ := ih hrec
            exact ⟨[], ⟨first, hbad, hfirst⟩ :: more, by simp, by simpa using hident,
              by simp [hc], rfl⟩
        · rename_i hc
          obtain ⟨⟨t', rest'⟩, hrec, hr⟩ := Option.map_eq_some_iff.mp h
          cases hr
          obtain ⟨first, more, hfirst, hbad, rfl, rfl⟩ := ih hrec
          refine ⟨c :: first, more, ?_, by simpa using hbad, rfl, rfl⟩
          exact List.forall_mem_cons.mpr ⟨by simpa [hc] using hchar, hfirst⟩

theorem parseSuffix_append (hstop : ∀ c, stop c = true → isIdentChar c = false)
    (hdot : stop '.' = false) (i : Ident bad) (idents : List (Ident bad))
    (hrest : Begins stop rest) :
    parseSuffix start bad stop (suffix start (i :: idents) ++ rest) =
      some (suffix start (i :: idents), rest) := by
  have hident : bad ([] ++ i.val) = false := i.property.1
  rw [suffix, List.cons_append, parseSuffix, if_neg (by simp), List.append_assoc,
    parseIdents_append hstop i.property.2, parseIdents_dotted hstop hdot hident idents hrest]
  rfl

theorem parseSuffix_some (h : parseSuffix start bad stop v = some (t, rest)) :
    ∃ idents : List (Ident bad), t = suffix start idents ∧ v = t ++ rest := by
  cases v with
  | nil => cases h
  | cons c cs =>
    rw [parseSuffix] at h
    split at h
    · cases h
    · rename_i hc
      obtain ⟨⟨t', rest'⟩, hidents, hr⟩ := Option.map_eq_some_iff.mp h
      cases hr
      obtain ⟨first, more, hfirst, hbad, rfl, rfl⟩ := parseIdents_some hidents
      exact ⟨⟨first, hbad, hfirst⟩ :: more, by simp [suffix, not_not.mp hc], rfl⟩

theorem optional_append (hstop : ∀ c, stop c = true → isIdentChar c = false)
    (hdot : stop '.' = false) (idents : List (Ident bad)) (hrest : Begins stop rest)
    (hother : rest.head? ≠ some start) :
    optional start (parseSuffix start bad stop) (suffix start idents ++ rest) =
      some (suffix start idents, rest) := by
  cases idents with
  | nil => simp [optional, suffix, hother]
  | cons i idents => exact (if_pos rfl).trans (parseSuffix_append hstop hdot i idents hrest)

theorem optional_some (h : optional start (parseSuffix start bad stop) v = some (t, rest)) :
    ∃ idents : List (Ident bad), t = suffix start idents ∧ v = t ++ rest := by
  rw [optional] at h
  split at h
  · exact parseSuffix_some h
  · cases h
    exact ⟨[], rfl, rfl⟩

end

-- ---------------------------------------------------------------------------
-- Versions
-- ---------------------------------------------------------------------------

theorem begins_dot (rest : List Char) : Begins (!·.isDigit) ('.' :: rest) := by
  rintro c ⟨⟩
  rfl

theorem begins_suffixes (prerelease : List (Ident badPrerelease)) (build : List (Ident badBuild)) :
    Begins (!·.isDigit) (suffix '-' prerelease ++ suffix '+' build) := by
  rcases prerelease with _ | ⟨i, is⟩ <;> rcases build with _ | ⟨j, js⟩ <;> simp [Begins, suffix]

theorem expect_eq_some : expect c v = some w ↔ v = c :: w := by
  cases v with
  | nil => simp [expect]
  | cons d v =>
    by_cases hd : d = c
    · simp [expect, hd]
    · simp [expect, hd]

theorem plus_not_isIdentChar (c : Char) (h : (c = '+' : Bool) = true) : isIdentChar c = false := by
  rw [of_decide_eq_true h]
  decide

theorem optional_prerelease (prerelease : List (Ident badPrerelease))
    (build : List (Ident badBuild)) :
    optional '-' parsePrerelease (suffix '-' prerelease ++ suffix '+' build) =
      some (suffix '-' prerelease, suffix '+' build) := by
  apply optional_append plus_not_isIdentChar (by decide)
  · cases build <;> simp [Begins, suffix]
  · cases build <;> simp [suffix]

theorem optional_build (build : List (Ident badBuild)) :
    optional '+' parseBuild (suffix '+' build) = some (suffix '+' build, []) := by
  have h : optional '+' parseBuild (suffix '+' build ++ []) = some (suffix '+' build, []) := by
    apply optional_append
    · simp
    · rfl
    · exact begins_nil
    · simp
  rwa [List.append_nil] at h

/-- The text of a version is read back as its parts. -/
theorem parse_text (V : Version) : parse V.text = some V.parsed := by
  have hlast (n : Nat) : parseInt (decimal n) = some (decimal n, []) := by
    simpa using parseInt_decimal n begins_nil
  cases V with
  | major M => simp [parse, Version.text, Version.parsed, expect, hlast]
  | minor M m =>
    simp [parse, Version.text, Version.parsed, expect, parseInt_decimal M (begins_dot _), hlast]
  | patch M m p prerelease build =>
    simp [parse, Version.text, Version.parsed, expect, parseInt_decimal M (begins_dot _),
      parseInt_decimal m (begins_dot _), parseInt_decimal p (begins_suffixes prerelease build),
      optional_prerelease, optional_build]

/-- Nothing but the text of a version is read. -/
theorem parse_some (h : parse v = some p) : ∃ V : Version, v = V.text ∧ p = V.parsed := by
  simp only [parse, Option.bind_eq_bind, Option.bind_eq_some_iff, expect_eq_some] at h
  obtain ⟨_, rfl, ⟨_, v₁⟩, hmajor, h⟩ := h
  obtain ⟨M, rfl, rfl⟩ := parseInt_some hmajor
  split at h
  · rename_i hnil
    cases h
    exact ⟨.major M, by simp [Version.text, show v₁ = [] from hnil], rfl⟩
  · simp only [Option.bind_eq_some_iff, expect_eq_some] at h
    obtain ⟨_, rfl, ⟨_, v₂⟩, hminor, h⟩ := h
    obtain ⟨m, rfl, rfl⟩ := parseInt_some hminor
    split at h
    · rename_i hnil
      cases h
      exact ⟨.minor M m, by simp [Version.text, show v₂ = [] from hnil], rfl⟩
    · simp only [Option.bind_eq_some_iff, expect_eq_some] at h
      obtain ⟨_, rfl, ⟨_, v₃⟩, hpatch, ⟨_, v₄⟩, hpre, ⟨_, v₅⟩, hbuild, h⟩ := h
      obtain ⟨p, rfl, rfl⟩ := parseInt_some hpatch
      split at h
      · cases h
      · rename_i hnil
        cases h
        obtain rfl : v₅ = [] := not_not.mp hnil
        obtain ⟨prerelease, rfl, hv₃⟩ := optional_some hpre
        obtain ⟨build, rfl, hv₄⟩ := optional_some hbuild
        refine ⟨.patch M m p prerelease build, ?_, rfl⟩
        dsimp only at hv₃ hv₄
        rw [hv₃, hv₄, List.append_nil]
        rfl

theorem isValid_iff (v : String) : isValid v = true ↔ ∃ V : Version, v.toList = V.text := by
  rw [isValid, Option.isSome_iff_exists]
  constructor
  · rintro ⟨p, hp⟩
    obtain ⟨V, hv, -⟩ := parse_some hp
    exact ⟨V, hv⟩
  · rintro ⟨V, hv⟩
    exact ⟨V.parsed, hv ▸ parse_text V⟩

end Semver
