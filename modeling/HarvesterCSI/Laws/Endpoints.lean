import HarvesterCSI.Endpoint
import Mathlib.Data.List.Basic

/-!
# Which endpoints are served, and how

The scheme of an endpoint is tested in lower case and used as it is written.
-/

namespace HarvesterCSI

open Calls

-- ---------------------------------------------------------------------------
-- Splitting
-- ---------------------------------------------------------------------------

/-- The separator cannot begin in a part that does not have its first character. -/
theorem splitN_append {c : Char} {before : List Char} (h : c ∉ before) (sep after : List Char) :
    splitN (c :: sep) (before ++ (c :: sep) ++ after) = some (before, after) := by
  induction before with
  | nil => simp [splitN]
  | cons b before ih =>
    rw [List.mem_cons, not_or] at h
    rw [List.cons_append, List.cons_append, splitN, if_neg (by simp [h.1]), ih h.2]
    rfl

/-- What comes before, and after, the first `://`. -/
def IsFirstSplit (ep before after : String) : Prop :=
  ep = before ++ "://" ++ after ∧ ∀ a b, ep = a ++ "://" ++ b → before.length ≤ a.length

theorem isFirstSplit_of_notMem (h : ':' ∉ before.toList) :
    IsFirstSplit (before ++ "://" ++ after) before after := by
  refine ⟨rfl, fun a b hab => ?_⟩
  have hlist : before.toList ++ ("://".toList ++ after.toList) =
      a.toList ++ ("://".toList ++ b.toList) := by
    simpa using congrArg String.toList hab
  rw [← String.length_toList, ← String.length_toList]
  rcases List.append_eq_append_iff.mp hlist with ⟨rest, ha, -⟩ | ⟨rest, hbefore, hrest⟩
  · simp [ha]
  · -- the other separator would begin inside `before`
    cases rest with
    | nil => simp [hbefore]
    | cons c rest =>
      have hc : ':' = c := (List.cons.inj hrest).1
      rw [hbefore, ← hc] at h
      exact absurd (List.mem_append_right _ List.mem_cons_self) h

-- ---------------------------------------------------------------------------
-- Lower case
-- ---------------------------------------------------------------------------

theorem eq_of_toLower {c d : Char} (h : c.toLower = d) (hd : d.isLower = false) : c = d := by
  unfold Char.toLower at h
  split at h
  · rename_i hupper
    exfalso
    subst h
    unfold Char.isLower at hd
    simp only [ge_iff_le, UInt32.le_iff_toNat_le, UInt32.toNat_add] at hupper hd
    have hA : 'A'.val.toNat = 65 := rfl
    have hZ : 'Z'.val.toNat = 90 := rfl
    have ha : 'a'.val.toNat = 97 := rfl
    have hz : 'z'.val.toNat = 122 := rfl
    have hshift : ('a'.val - 'A'.val).toNat = 32 := rfl
    simp only [hA, hZ, ha, hz, hshift, Bool.and_eq_false_iff, decide_eq_false_iff_not] at hupper hd
    omega
  · exact h

theorem eq_of_unicodeToLower (h : unicodeToLower c = d) (hd : d.isLower = false) : c = d := by
  unfold unicodeToLower at h
  split at h
  · exact absurd hd (by subst h; decide)
  · split at h
    · exact absurd hd (by subst h; decide)
    · exact eq_of_toLower h hd

theorem map_unicodeToLower_eq (l : List Char) (m : List Char) (hm : ∀ d ∈ m, d.isLower = false)
    (h : l.map unicodeToLower = m) : l = m := by
  subst h
  induction l with
  | nil => rfl
  | cons c l ih =>
    obtain ⟨hc, hl⟩ := List.forall_mem_cons.mp hm
    rw [List.map_cons, ← ih hl, ← eq_of_unicodeToLower rfl hc]

/-- A character that ASCII alone takes to a letter of the schemes goes there in Unicode too. -/
theorem unicodeToLower_of_toLower (h : c.toLower ∈ "unixtcp".toList) :
    unicodeToLower c = c.toLower := by
  unfold unicodeToLower
  split
  · rename_i hc
    subst hc
    exact absurd h (by decide)
  · split
    · rename_i hc
      subst hc
      exact absurd h (by decide)
    · rfl

/-- In any writing, letters outside ASCII included. -/
def IsScheme (scheme : String) : Prop := toLower scheme = "unix" ∨ toLower scheme = "tcp"

instance : Decidable (IsScheme scheme) := inferInstanceAs (Decidable (_ ∨ _))

theorem IsScheme.colon_notMem (h : IsScheme scheme) : ':' ∉ scheme.toList := by
  intro hmem
  have hlower : ':' ∈ (toLower scheme).toList := by
    rw [toLower, String.toList_ofList]
    exact List.mem_map.mpr ⟨':', hmem, rfl⟩
  rcases h with h | h <;> exact absurd (h ▸ hlower) (by decide)

theorem hasPrefix_toLower_iff (ep start : String) :
    hasPrefix (toLower ep) (start ++ "://") = true ↔
      ∃ scheme addr, ep = scheme ++ "://" ++ addr ∧ toLower scheme = start := by
  simp only [hasPrefix, toLower, String.toList_ofList, List.isPrefixOf_iff_prefix]
  constructor
  · rintro ⟨rest, hrest⟩
    obtain ⟨front, addr, hep, hfront, -⟩ := List.map_eq_append_iff.mp hrest.symm
    rw [String.toList_append] at hfront
    obtain ⟨scheme, sep, rfl, hscheme, hsep⟩ := List.map_eq_append_iff.mp hfront
    have hnone : ∀ d ∈ "://".toList, d.isLower = false := by simp
    obtain rfl := map_unicodeToLower_eq sep _ hnone hsep
    refine ⟨String.ofList scheme, String.ofList addr, ?_, ?_⟩
    · apply String.toList_injective
      simp [hep]
    · rw [String.toList_ofList, hscheme, String.ofList_toList]
  · rintro ⟨scheme, addr, rfl, rfl⟩
    exact ⟨addr.toList.map unicodeToLower, by simp; decide⟩

-- ---------------------------------------------------------------------------
-- Parsing
-- ---------------------------------------------------------------------------

def HasScheme (ep : String) : Prop := ∃ scheme addr, ep = scheme ++ "://" ++ addr ∧ IsScheme scheme

theorem schemes_iff (ep : String) :
    (hasPrefix (toLower ep) "unix://" || hasPrefix (toLower ep) "tcp://") = true ↔
      HasScheme ep := by
  have hunix : "unix" ++ "://" = "unix://" := by decide +kernel
  have htcp : "tcp" ++ "://" = "tcp://" := by decide +kernel
  rw [Bool.or_eq_true, ← hunix, ← htcp, hasPrefix_toLower_iff, hasPrefix_toLower_iff]
  constructor
  · rintro (⟨scheme, addr, hep, hscheme⟩ | ⟨scheme, addr, hep, hscheme⟩)
    · exact ⟨scheme, addr, hep, .inl hscheme⟩
    · exact ⟨scheme, addr, hep, .inr hscheme⟩
  · rintro ⟨scheme, addr, hep, hscheme | hscheme⟩
    · exact .inl ⟨scheme, addr, hep, hscheme⟩
    · exact .inr ⟨scheme, addr, hep, hscheme⟩

theorem parseEndpoint_eq (h : IsScheme scheme) (addr : String) :
    parseEndpoint (scheme ++ "://" ++ addr) =
      if addr ≠ "" then .ok (scheme, addr)
      else parseEndpoint.invalid (scheme ++ "://" ++ addr) := by
  have htest := (schemes_iff (scheme ++ "://" ++ addr)).mpr ⟨scheme, addr, rfl, h⟩
  have hsplit : splitN "://".toList (scheme ++ "://" ++ addr).toList =
      some (scheme.toList, addr.toList) := by
    rw [String.toList_append, String.toList_append]
    exact splitN_append h.colon_notMem _ _
  rw [parseEndpoint, if_pos htest, hsplit]
  simp [String.ofList_toList]

theorem parseEndpoint_of_no_scheme (h : ¬ HasScheme ep) :
    parseEndpoint ep = parseEndpoint.invalid ep :=
  if_neg fun htest => h ((schemes_iff ep).mp htest)

theorem parseEndpoint_ok_iff :
    parseEndpoint ep = .ok (proto, addr) ↔
      ep = proto ++ "://" ++ addr ∧ addr ≠ "" ∧ IsScheme proto := by
  constructor
  · intro h
    by_cases hscheme : HasScheme ep
    · obtain ⟨scheme, addr', rfl, hscheme⟩ := hscheme
      rw [parseEndpoint_eq hscheme] at h
      split at h
      · rename_i hne
        cases h
        exact ⟨rfl, hne, hscheme⟩
      · cases h
    · rw [parseEndpoint_of_no_scheme hscheme] at h
      cases h
  · rintro ⟨rfl, hne, hscheme⟩
    rw [parseEndpoint_eq hscheme, if_pos hne]

-- ---------------------------------------------------------------------------
-- Serving
-- ---------------------------------------------------------------------------

def asciiLower (s : String) : String := String.ofList (s.toList.map Char.toLower)

theorem asciiLower_unix_or_tcp (h : asciiLower scheme = "unix" ∨ asciiLower scheme = "tcp") :
    toLower scheme = asciiLower scheme := by
  have hletters : ∀ d ∈ (asciiLower scheme).toList, d ∈ "unixtcp".toList := by
    rcases h with h | h <;> simp [h]
  rw [toLower, asciiLower]
  congr 1
  refine List.map_congr_left fun c hc => unicodeToLower_of_toLower (hletters _ ?_)
  rw [asciiLower, String.toList_ofList]
  exact List.mem_map_of_mem hc

def IsEndpoint (ep : String) : Prop :=
  ∃ scheme addr, ep = scheme ++ "://" ++ addr ∧ addr ≠ "" ∧
    (asciiLower scheme = "unix" ∨ asciiLower scheme = "tcp")

open NonBlockingGRPCServer

structure ListensOn (networks : List String) (p : Sockets Unit) : Prop where
  uses : p.Uses fun op => ∀ network address, op = .listen network address → network ∈ networks

/-- The parser takes the endpoints and returns a protocol that is usable as it is. -/
structure ParsesEndpoint (ep : String) : Prop where
  accepts : (∃ proto addr, parseEndpoint ep = .ok (proto, addr)) ↔ IsEndpoint ep
  address : ∀ proto addr, parseEndpoint ep = .ok (proto, addr) →
    ∃ scheme, IsFirstSplit ep scheme addr
  protocol : ∀ proto addr, parseEndpoint ep = .ok (proto, addr) → proto = "unix" ∨ proto = "tcp"
  /-- A unix endpoint is a path, where an old socket is removed first. -/
  socket : ∀ scheme addr, ep = scheme ++ "://" ++ addr → addr ≠ "" → asciiLower scheme = "unix" →
    ∃ k, serve ep = .call (.remove ("/" ++ addr)) k
  network : ListensOn streamNetworks (serve ep)

theorem serve_unix {ep addr : String} (h : parseEndpoint ep = .ok ("unix", addr)) :
    ∃ k, serve ep = .call (.remove ("/" ++ addr)) k := by
  unfold serve
  simp only [h, if_true]
  exact ⟨_, rfl⟩

theorem listen_networks (h : proto ∈ networks) (addr : String) :
    ListensOn networks (serve.listen proto addr) := by
  refine ⟨?_, fun r => by cases r <;> trivial⟩
  rintro network address ⟨⟩
  exact h

/-- Whether an old socket is removed or not, the protocol is what is listened on. -/
theorem serve_networks (h : ∀ proto addr, parseEndpoint ep = .ok (proto, addr) → proto ∈ networks) :
    ListensOn networks (serve ep) := by
  constructor
  unfold serve
  split
  · trivial
  · trivial
  · rename_i proto addr hparse
    have hproto := h proto addr hparse
    split
    · refine Prog.Uses.request (fun network address hop => by cases hop) fun r => ?_
      cases r with
      | ok => exact (listen_networks hproto _).uses
      | error e =>
        dsimp only
        split
        · exact (listen_networks hproto _).uses
        · trivial
    · exact (listen_networks hproto _).uses

def InLowerCase (ep : String) : Prop :=
  ∀ scheme addr, ep = scheme ++ "://" ++ addr → addr ≠ "" → IsScheme scheme →
    scheme = "unix" ∨ scheme = "tcp"

theorem parsesEndpoint_iff (ep : String) : ParsesEndpoint ep ↔ InLowerCase ep := by
  constructor
  · intro h scheme addr hep hne hscheme
    exact h.protocol scheme addr (parseEndpoint_ok_iff.mpr ⟨hep, hne, hscheme⟩)
  · intro hlower
    have hprotocol (proto addr : String) (h : parseEndpoint ep = .ok (proto, addr)) :
        proto = "unix" ∨ proto = "tcp" := by
      obtain ⟨hep, hne, hscheme⟩ := parseEndpoint_ok_iff.mp h
      exact hlower proto addr hep hne hscheme
    have hknown (proto addr : String) (h : parseEndpoint ep = .ok (proto, addr)) :
        proto ∈ streamNetworks := by
      rcases hprotocol proto addr h with rfl | rfl <;> decide
    refine ⟨⟨?_, ?_⟩, ?_, hprotocol, ?_, serve_networks hknown⟩
    · rintro ⟨proto, addr, h⟩
      obtain ⟨hep, hne, -⟩ := parseEndpoint_ok_iff.mp h
      refine ⟨proto, addr, hep, hne, ?_⟩
      rcases hprotocol proto addr h with rfl | rfl
      · exact .inl (by decide)
      · exact .inr (by decide)
    · rintro ⟨scheme, addr, hep, hne, hscheme⟩
      have hsame := asciiLower_unix_or_tcp hscheme
      exact ⟨scheme, addr, parseEndpoint_ok_iff.mpr ⟨hep, hne, by rwa [IsScheme, hsame]⟩⟩
    · intro proto addr h
      obtain ⟨rfl, -, hscheme⟩ := parseEndpoint_ok_iff.mp h
      exact ⟨proto, isFirstSplit_of_notMem hscheme.colon_notMem⟩
    · intro scheme addr hep hne hunix
      have hscheme : IsScheme scheme := .inl ((asciiLower_unix_or_tcp (.inl hunix)).trans hunix)
      have hparse := parseEndpoint_ok_iff.mpr ⟨hep, hne, hscheme⟩
      rcases hlower scheme addr hep hne hscheme with rfl | rfl
      · exact serve_unix hparse
      · exact absurd hunix (by decide)

/-- A scheme in capitals is taken for a network of its own, and nothing is made a path.
A dotted capital I passes for an i. -/
theorem parsesEndpoint_fails :
    serve "UNIX:///csi/csi.sock" = serve.listen "UNIX" "/csi/csi.sock" ∧ "UNIX" ∉ streamNetworks ∧
      ¬ ParsesEndpoint "UNIX:///csi/csi.sock" ∧
      parseEndpoint "un\u0130x://a" = .ok ("un\u0130x", "a") ∧ ¬ IsEndpoint "un\u0130x://a" := by
  have hunix : parseEndpoint "UNIX:///csi/csi.sock" = .ok ("UNIX", "/csi/csi.sock") :=
    parseEndpoint_ok_iff.mpr ⟨by decide +kernel, by decide, .inl (by decide +kernel)⟩
  have hdotted : parseEndpoint "un\u0130x://a" = .ok ("un\u0130x", "a") :=
    parseEndpoint_ok_iff.mpr ⟨by decide +kernel, by decide, .inl (by decide +kernel)⟩
  refine ⟨?_, by simp [streamNetworks], ?_, hdotted, ?_⟩
  · rw [serve, hunix]
    exact if_neg (by simp)
  · intro h
    exact absurd (h.protocol _ _ hunix) (by decide)
  · rintro ⟨scheme, addr, hep, hne, hscheme⟩
    have hparse : parseEndpoint "un\u0130x://a" = .ok (scheme, addr) :=
      parseEndpoint_ok_iff.mpr ⟨hep, hne, by rwa [IsScheme, asciiLower_unix_or_tcp hscheme]⟩
    cases hdotted.symm.trans hparse
    exact absurd hscheme (by decide +kernel)

end HarvesterCSI
