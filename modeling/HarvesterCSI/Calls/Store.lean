import Mathlib.Data.List.Nodup
import Mathlib.Data.List.Basic

/-!
# Keyed stores and versions

A `Store` lists objects of one kind, no two with the same key. The key is part
of the object, so what `get` finds under a key has that key.

The second half is about one object of a state that takes a new version with
every write (`Clock`). A reader that later finds the version it has seen finds
the object it has seen.
-/

namespace Calls

@[ext] structure Store {α κ : Type} (key : α → κ) where
  items : List α
  nodup : (items.map key).Nodup

variable {α κ σ : Type} [DecidableEq κ] {key : α → κ}

namespace Store

def empty : Store key := ⟨[], by simp⟩

def get (st : Store key) (k : κ) : Option α := st.items.find? (key · = k)

/-- Replace the object of this key, or add it at the end. -/
def put (st : Store key) (a : α) : Store key where
  items := st.items.filter (key · ≠ key a) ++ [a]
  nodup := by
    have hsub : ((st.items.filter (key · ≠ key a)).map key).Sublist (st.items.map key) :=
      List.filter_sublist.map key
    rw [List.map_append, List.nodup_append]
    refine ⟨hsub.nodup st.nodup, by simp, ?_⟩
    intro k hk l hl
    obtain ⟨b, hb, rfl⟩ := List.mem_map.mp hk
    have hne : key b ≠ key a := by simpa using (List.mem_filter.mp hb).2
    simp only [List.map_cons, List.map_nil, List.mem_singleton] at hl
    exact hl ▸ hne

def erase (st : Store key) (k : κ) : Store key where
  items := st.items.filter (key · ≠ k)
  nodup := (List.filter_sublist.map key).nodup st.nodup

@[simp] theorem get_empty (k : κ) : (empty : Store key).get k = none := rfl

theorem get_eq_some {st : Store key} : st.get k = some a ↔ a ∈ st.items ∧ key a = k := by
  constructor
  · intro h
    exact ⟨List.mem_of_find?_eq_some h, by simpa using List.find?_some h⟩
  · rintro ⟨h, rfl⟩
    obtain ⟨l, hn⟩ := st
    simp only [get] at h ⊢
    induction l with
    | nil => cases h
    | cons b l ih =>
      obtain ⟨hb, hl⟩ := List.nodup_cons.mp hn
      rcases List.mem_cons.mp h with rfl | h
      · simp
      · have hne : key b ≠ key a := fun he => hb (he ▸ List.mem_map_of_mem h)
        simpa [hne] using ih hl h

theorem get_key {st : Store key} (h : st.get k = some a) : key a = k := (get_eq_some.mp h).2

@[simp] theorem get_put (st : Store key) (a : α) (k : κ) :
    (st.put a).get k = if k = key a then some a else st.get k := by
  ext b
  rw [get_eq_some]
  simp only [put, List.mem_append, List.mem_filter, List.mem_singleton, decide_eq_true_eq]
  split
  · rename_i hk
    subst hk
    constructor
    · rintro ⟨⟨_, hne⟩ | rfl, he⟩
      · exact absurd he hne
      · rfl
    · rintro ⟨⟩
      exact ⟨.inr rfl, rfl⟩
  · rename_i hk
    rw [get_eq_some]
    constructor
    · rintro ⟨⟨hb, _⟩ | rfl, he⟩
      · exact ⟨hb, he⟩
      · exact absurd he.symm hk
    · rintro ⟨hb, rfl⟩
      exact ⟨.inl ⟨hb, hk⟩, rfl⟩

@[simp] theorem get_erase (st : Store key) (k l : κ) :
    (st.erase k).get l = if l = k then none else st.get l := by
  ext b
  rw [get_eq_some]
  simp only [erase, List.mem_filter, decide_eq_true_eq]
  split
  · rename_i hk
    subst hk
    simp
  · rename_i hk
    rw [get_eq_some]
    constructor
    · rintro ⟨⟨hb, _⟩, he⟩
      exact ⟨hb, he⟩
    · rintro ⟨hb, rfl⟩
      exact ⟨⟨hb, hk⟩, rfl⟩

theorem get_overwrite {st : Store key} (h : st.get k = some a) (hkey : key b = key a) :
    (st.put b).get k = some b := by
  rw [get_put, if_pos ((get_key h).symm.trans hkey.symm)]

theorem map_overwrite {st : Store key} {f : α → β} (h : st.get k = some a) (hkey : key b = key a)
    (hf : f b = f a) (l : κ) : ((st.put b).get l).map f = (st.get l).map f := by
  rw [get_put]
  split
  · rename_i hl
    rw [hl, hkey, get_key h, h, Option.map_some, Option.map_some, hf]
  · rfl

def SameBut (st : Store key) (P : κ → Prop) (st' : Store key) : Prop :=
  ∀ k, ¬ P k → st'.get k = st.get k

theorem SameBut.refl {P : κ → Prop} (st : Store key) : st.SameBut P st := fun _ _ => rfl

theorem SameBut.put {P : κ → Prop} (st : Store key) (ha : P (key a)) : st.SameBut P (st.put a) := by
  intro k hk
  rw [get_put, if_neg]
  rintro rfl
  exact hk ha

theorem SameBut.erase {P : κ → Prop} (st : Store key) (hl : P l) : st.SameBut P (st.erase l) := by
  intro k hk
  rw [get_erase, if_neg]
  rintro rfl
  exact hk hl

-- ---------------------------------------------------------------------------
-- Editing the list
-- ---------------------------------------------------------------------------

def has (st : Store key) (k : κ) : Bool := st.items.any (key · = k)

theorem has_eq_true {st : Store key} : st.has k = true ↔ k ∈ st.items.map key := by
  simp [has]

/-- Add an object at the end, unless its key is taken. -/
def addNew (st : Store key) (a : α) : Store key where
  items := if st.has (key a) then st.items else st.items ++ [a]
  nodup := by
    split
    · exact st.nodup
    · rename_i hnew
      rw [has_eq_true] at hnew
      rw [List.map_append, List.map_singleton]
      exact List.nodup_append.mpr ⟨st.nodup, by simp, by
        intro k hk l hl
        cases List.mem_singleton.mp hl
        rintro rfl
        exact hnew hk⟩

def drop (st : Store key) (p : κ → Bool) : Store key where
  items := st.items.filter fun a => !p (key a)
  nodup := (List.filter_sublist.map key).nodup st.nodup

theorem count_addNew (st : Store key) (a : α) :
    ((st.addNew a).items.map key).count (key a) = 1 := by
  refine List.count_eq_one_of_mem (st.addNew a).nodup ?_
  by_cases h : st.has (key a) = true
  · simpa [addNew, h] using has_eq_true.mp h
  · simp [addNew, h]

theorem addNew_others (st : Store key) (a : α) :
    (st.addNew a).items.filter (key · ≠ key a) = st.items.filter (key · ≠ key a) := by
  by_cases h : st.has (key a) = true <;> simp [addNew, h]

theorem addNew_of_has {st : Store key} (h : st.has (key a) = true) : st.addNew a = st :=
  Store.ext (if_pos h)

omit [DecidableEq κ] in
theorem drop_of_none {st : Store key} {p : κ → Bool} (h : ∀ a ∈ st.items, p (key a) = false) :
    st.drop p = st :=
  Store.ext (List.filter_eq_self.mpr fun a ha => by simp [h a ha])

omit [DecidableEq κ] in
theorem drop_drop (st : Store key) (p q : κ → Bool) :
    (st.drop p).drop q = st.drop fun k => p k || q k :=
  Store.ext (by simp [drop, List.filter_filter, Bool.and_comm])

theorem has_drop (st : Store key) (p : κ → Bool) (k : κ) :
    (st.drop p).has k = (st.has k && !p k) := by
  rw [Bool.eq_iff_iff]
  simp only [has, drop, List.any_filter, List.any_eq_true, Bool.and_eq_true, decide_eq_true_eq]
  constructor
  · rintro ⟨a, ha, hp, rfl⟩
    exact ⟨⟨a, ha, rfl⟩, hp⟩
  · rintro ⟨⟨a, ha, rfl⟩, hp⟩
    exact ⟨a, ha, hp, rfl⟩

theorem drop_addNew {st : Store key} (h : st.has (key a) = false) :
    (st.addNew a).drop (· = key a) = st := by
  have hnew : ∀ b ∈ st.items, key b ≠ key a := by simpa [has] using h
  refine Store.ext ?_
  simpa [drop, addNew, h] using hnew

end Store

-- ---------------------------------------------------------------------------
-- Versions
-- ---------------------------------------------------------------------------

/-- One object of the state, the versions it takes, and the newest version given
out so far to any object. -/
structure Clock (σ α : Type) where
  latest : σ → Nat
  object : σ → Option α
  version : α → Nat

namespace Clock
variable (c : Clock σ α)

def Bounded (s : σ) : Prop := ∀ a, c.object s = some a → c.version a ≤ c.latest s

/-- The object stayed as it was, or what there is now has a version that did
not exist before. -/
def Moves (s t : σ) : Prop :=
  c.latest s ≤ c.latest t ∧ (c.object t = c.object s ∨
    ∀ a, c.object t = some a → c.latest s < c.version a ∧ c.version a ≤ c.latest t)

theorem Moves.refl (s : σ) : c.Moves s s := ⟨Nat.le_refl _, .inl rfl⟩

theorem Moves.trans {s t u : σ} (h₁ : c.Moves s t) (h₂ : c.Moves t u) : c.Moves s u := by
  refine ⟨Nat.le_trans h₁.1 h₂.1, ?_⟩
  rcases h₂.2 with he | hn
  · rw [he]
    exact h₁.2.imp_right fun hn a ha => ⟨(hn a ha).1, Nat.le_trans (hn a ha).2 h₂.1⟩
  · exact .inr fun a ha => ⟨Nat.lt_of_le_of_lt h₁.1 (hn a ha).1, (hn a ha).2⟩

section
variable {c} {st : Store key} {s t : σ}

theorem Moves.of_put (hs : c.object s = st.get k) (ht : c.object t = (st.put a).get k)
    (hversion : c.version a = c.latest t) (hnew : c.latest s < c.latest t) : c.Moves s t := by
  refine ⟨Nat.le_of_lt hnew, ?_⟩
  rw [ht, hs, Store.get_put]
  split
  · right
    rintro _ ⟨⟩
    exact ⟨hversion ▸ hnew, Nat.le_of_eq hversion⟩
  · exact .inl rfl

theorem Moves.of_erase (hs : c.object s = st.get k) (ht : c.object t = (st.erase l).get k)
    (hle : c.latest s ≤ c.latest t) : c.Moves s t := by
  refine ⟨hle, ?_⟩
  rw [ht, hs, Store.get_erase]
  split
  · right
    rintro _ ⟨⟩
  · exact .inl rfl

end

theorem Moves.bounded {s t : σ} (h : c.Moves s t) (hs : c.Bounded s) : c.Bounded t := by
  intro a ha
  rcases h.2 with he | hn
  · exact Nat.le_trans (hs a (he ▸ ha)) h.1
  · exact (hn a ha).2

theorem Moves.same {s t : σ} (h : c.Moves s t) (hs : c.Bounded s) (ha : c.object s = some a)
    (hb : c.object t = some b) (hv : c.version b = c.version a) : b = a := by
  rcases h.2 with he | hn
  · rw [he, ha] at hb
    exact (Option.some.inj hb).symm
  · have hlt := (hn b hb).1
    have hle := hs a ha
    omega

end Clock

end Calls
