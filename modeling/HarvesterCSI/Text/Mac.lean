import Mathlib.Logic.Function.Basic

/-!
# MAC addresses

Go's `net.HardwareAddr`: bytes, the text they print as, and the texts they are
read from. Several texts are read as one address; an address has one text.
-/

namespace Net

structure HardwareAddr where
  bytes : List UInt8
  deriving DecidableEq, Repr

def hexByte (b : UInt8) : List Char := [(b.toNat / 16).digitChar, (b.toNat % 16).digitChar]

/-- `String()`. -/
def HardwareAddr.text (a : HardwareAddr) : String :=
  String.ofList (match a.bytes with
    | [] => []
    | b :: bytes => hexByte b ++ bytes.flatMap fun b => ':' :: hexByte b)

-- ---------------------------------------------------------------------------
-- Reading
-- ---------------------------------------------------------------------------

def hexValue (c : Char) : Option Nat :=
  if '0' ≤ c ∧ c ≤ '9' then some (c.toNat - '0'.toNat)
  else if 'a' ≤ c ∧ c ≤ 'f' then some (c.toNat - 'a'.toNat + 10)
  else if 'A' ≤ c ∧ c ≤ 'F' then some (c.toNat - 'A'.toNat + 10)
  else none

/-- One byte of two digits, at the end of the text or in front of `e`. -/
def xtoi2 (s : List Char) (e : Char) : Option UInt8 :=
  match s with
  | high :: low :: rest =>
    if rest.head?.any (· ≠ e) then none
    else do return UInt8.ofNat (16 * (← hexValue high) + (← hexValue low))
  | _ => none

def readBytes (sep : Char) : Nat → List Char → Option (List UInt8)
  | 0, _ => some []
  | n + 1, s => do return (← xtoi2 s sep) :: (← readBytes sep n (s.drop 3))

def readPairs : Nat → List Char → Option (List UInt8)
  | 0, _ => some []
  | n + 1, s => do
    return (← xtoi2 (s.take 2) '\x00') :: (← xtoi2 (s.drop 2) '.') :: (← readPairs n (s.drop 5))

/-- `net.ParseMAC`, for addresses of 6, 8 and 20 bytes. -/
def parseMAC (text : String) : Option HardwareAddr :=
  let s := text.toList
  if s.length < 14 then none
  else if s.getD 2 '\x00' = ':' ∨ s.getD 2 '\x00' = '-' then
    let n := (s.length + 1) / 3
    if (s.length + 1) % 3 ≠ 0 ∨ n ∉ [6, 8, 20] then none
    else (readBytes (s.getD 2 '\x00') n s).map HardwareAddr.mk
  else if s.getD 4 '\x00' = '.' then
    let n := 2 * (s.length + 1) / 5
    if (s.length + 1) % 5 ≠ 0 ∨ n ∉ [6, 8, 20] then none
    else (readPairs (n / 2) s).map HardwareAddr.mk
  else none

-- ---------------------------------------------------------------------------
-- Printing
-- ---------------------------------------------------------------------------

theorem digitChar_inj : ∀ m < 16, ∀ n < 16, m.digitChar = n.digitChar → m = n := by decide

theorem hexByte_inj (h : hexByte b = hexByte c) : b = c := by
  have hb := b.toNat_lt
  have hc := c.toNat_lt
  have hdigits : (b.toNat / 16).digitChar = (c.toNat / 16).digitChar ∧
      (b.toNat % 16).digitChar = (c.toNat % 16).digitChar := by simpa [hexByte] using h
  have hhigh := digitChar_inj _ (by omega) _ (by omega) hdigits.1
  have hlow := digitChar_inj _ (by omega) _ (by omega) hdigits.2
  exact UInt8.toNat_inj.mp (by omega)

theorem separated_inj {l m : List UInt8}
    (h : (l.flatMap fun b => ':' :: hexByte b) = m.flatMap fun b => ':' :: hexByte b) : l = m := by
  induction l generalizing m with
  | nil =>
    cases m with
    | nil => rfl
    | cons c m => simp at h
  | cons b l ih =>
    cases m with
    | nil => simp at h
    | cons c m =>
      rw [List.flatMap_cons, List.flatMap_cons] at h
      obtain ⟨hhead, htail⟩ := List.append_inj h rfl
      rw [hexByte_inj (List.cons.inj hhead).2, ih htail]

theorem HardwareAddr.text_injective : Function.Injective HardwareAddr.text := by
  rintro ⟨l⟩ ⟨m⟩ h
  have h := String.ofList_injective h
  cases l with
  | nil =>
    cases m with
    | nil => rfl
    | cons c m => simp [hexByte] at h
  | cons b l =>
    cases m with
    | nil => simp [hexByte] at h
    | cons c m =>
      obtain ⟨hhead, htail⟩ := List.append_inj h rfl
      rw [hexByte_inj hhead, separated_inj htail]

end Net
