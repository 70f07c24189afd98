import Mathlib.Logic.Basic

/-!
# Programs that talk to a server

A program ends with a value, an error or a crash, or makes one call and goes on
with the answer. The same program has two readings here. `run` answers each call
by a function of the state and computes. `Runs` answers each call by a relation,
and lets the state move by `rel` before every call and after the last one: that
is what other clients and the server itself do while the program waits.

`rel` is meant to be reflexive and transitive, so one move stands for any number.
-/

namespace Calls

inductive Prog (Op : Type) (Res : Op → Type) (ε α : Type)
  | ok (a : α)
  | error (e : ε)
  | panic
  | call (op : Op) (k : Res op → Prog Op Res ε α)

inductive Outcome (ε α : Type)
  | ok (a : α)
  | error (e : ε)
  | panic
  deriving DecidableEq, Repr

variable {Op : Type} {Res : Op → Type} {ε ε' α β σ : Type}

namespace Prog

def bind : Prog Op Res ε α → (α → Prog Op Res ε β) → Prog Op Res ε β
  | .ok a, f => f a
  | .error e, _ => .error e
  | .panic, _ => .panic
  | .call op k, f => .call op fun r => (k r).bind f

instance : Monad (Prog Op Res ε) where
  pure := .ok
  bind := bind

/-- Go on after an error. A crash is not an error and passes through. -/
def orElse : Prog Op Res ε α → (ε → Prog Op Res ε' α) → Prog Op Res ε' α
  | .ok a, _ => .ok a
  | .error e, f => f e
  | .panic, _ => .panic
  | .call op k, f => .call op fun r => (k r).orElse f

def request (op : Op) : Prog Op Res ε (Res op) := .call op .ok

@[simp] theorem pure_eq (a : α) : (pure a : Prog Op Res ε α) = .ok a := rfl

@[simp] theorem ok_bind (a : α) (f : α → Prog Op Res ε β) : (.ok a >>= f) = f a := rfl

@[simp] theorem error_bind (e : ε) (f : α → Prog Op Res ε β) : (.error e >>= f) = .error e := rfl

@[simp] theorem panic_bind (f : α → Prog Op Res ε β) : (.panic >>= f) = .panic := rfl

@[simp] theorem call_bind (op : Op) (k : Res op → Prog Op Res ε α) (f : α → Prog Op Res ε β) :
    (.call op k >>= f) = .call op fun r => k r >>= f := rfl

@[simp] theorem request_bind (op : Op) (f : Res op → Prog Op Res ε β) :
    (request op >>= f) = .call op f := rfl

@[simp] theorem ok_orElse (a : α) (f : ε → Prog Op Res ε' α) :
    (ok a : Prog Op Res ε α).orElse f = .ok a := rfl

@[simp] theorem error_orElse (e : ε) (f : ε → Prog Op Res ε' α) :
    (error e : Prog Op Res ε α).orElse f = f e := rfl

@[simp] theorem panic_orElse (f : ε → Prog Op Res ε' α) :
    (panic : Prog Op Res ε α).orElse f = .panic := rfl

@[simp] theorem call_orElse (op : Op) (k : Res op → Prog Op Res ε α) (f : ε → Prog Op Res ε' α) :
    (call op k).orElse f = .call op fun r => (k r).orElse f := rfl

theorem bind_assoc (p : Prog Op Res ε α) (f : α → Prog Op Res ε β) (g : β → Prog Op Res ε γ) :
    ((p >>= f) >>= g) = p >>= fun a => f a >>= g := by
  induction p with
  | ok | error | panic => rfl
  | call op k ih => exact congrArg (Prog.call op) (funext ih)

theorem bind_eq_ok {p : Prog Op Res ε α} {f : α → Prog Op Res ε β} :
    (p >>= f) = .ok b ↔ ∃ a, p = .ok a ∧ f a = .ok b := by
  cases p <;> simp

/-- Ask `cond` at most `ticks` times; the answer says whether it came true. -/
def poll (cond : Prog Op Res ε Bool) : Nat → Prog Op Res ε Bool
  | 0 => .ok false
  | ticks + 1 => do
    if ← cond then pure true else poll cond ticks

def Uses (P : Op → Prop) : Prog Op Res ε α → Prop
  | .call op k => P op ∧ ∀ r, (k r).Uses P
  | _ => True

section
variable {P : Op → Prop}

@[simp] theorem uses_ok {a : α} : (ok a : Prog Op Res ε α).Uses P := trivial

@[simp] theorem uses_error {e : ε} : (error e : Prog Op Res ε α).Uses P := trivial

@[simp] theorem uses_panic : (panic : Prog Op Res ε α).Uses P := trivial

theorem Uses.mono {Q : Op → Prop} (hPQ : ∀ op, P op → Q op) {p : Prog Op Res ε α} (hp : p.Uses P) :
    p.Uses Q := by
  induction p with
  | ok | error | panic => trivial
  | call op k ih => exact ⟨hPQ op hp.1, fun r => ih r (hp.2 r)⟩

theorem Uses.bind {p : Prog Op Res ε α} {f : α → Prog Op Res ε β} (hp : p.Uses P)
    (hf : ∀ a, (f a).Uses P) : (p >>= f).Uses P := by
  induction p with
  | ok a => exact hf a
  | error | panic => trivial
  | call op k ih => exact ⟨hp.1, fun r => ih r (hp.2 r)⟩

theorem Uses.request {op : Op} {f : Res op → Prog Op Res ε β} (hop : P op)
    (hf : ∀ r, (f r).Uses P) : (request op >>= f).Uses P := ⟨hop, hf⟩

theorem Uses.orElse {p : Prog Op Res ε α} {f : ε → Prog Op Res ε' α} (hp : p.Uses P)
    (hf : ∀ e, (f e).Uses P) : (p.orElse f).Uses P := by
  induction p with
  | error e => exact hf e
  | ok | panic => trivial
  | call op k ih => exact ⟨hp.1, fun r => ih r (hp.2 r)⟩

theorem Uses.poll {cond : Prog Op Res ε Bool} (h : cond.Uses P) (ticks : Nat) :
    (poll cond ticks).Uses P := by
  induction ticks with
  | zero => trivial
  | succ ticks ih =>
    refine h.bind fun done => ?_
    split
    · trivial
    · exact ih

end

def Raises (E : ε → Prop) : Prog Op Res ε α → Prop
  | .error e => E e
  | .call _ k => ∀ r, (k r).Raises E
  | _ => True

theorem Raises.bind {E : ε → Prop} {p : Prog Op Res ε α} {f : α → Prog Op Res ε β}
    (hp : p.Raises E) (hf : ∀ a, (f a).Raises E) : (p >>= f).Raises E := by
  induction p with
  | ok a => exact hf a
  | error e => exact hp
  | panic => trivial
  | call op k ih => exact fun r => ih r (hp r)

theorem Raises.orElse {E : ε' → Prop} {p : Prog Op Res ε α} {f : ε → Prog Op Res ε' α}
    (hf : ∀ e, (f e).Raises E) : (p.orElse f).Raises E := by
  induction p with
  | error e => exact hf e
  | ok | panic => trivial
  | call op k ih => exact ih

def Returns (Q : α → Prop) : Prog Op Res ε α → Prop
  | .ok a => Q a
  | .call _ k => ∀ r, (k r).Returns Q
  | _ => True

theorem returns_true (p : Prog Op Res ε α) : p.Returns fun _ => True := by
  induction p with
  | ok | error | panic => trivial
  | call op k ih => exact ih

theorem Returns.mono {P Q : α → Prop} (hPQ : ∀ a, P a → Q a) {p : Prog Op Res ε α}
    (hp : p.Returns P) :
    p.Returns Q := by
  induction p with
  | ok a => exact hPQ a hp
  | error | panic => trivial
  | call op k ih => exact fun r => ih r (hp r)

theorem Returns.bind {P : α → Prop} {Q : β → Prop} {p : Prog Op Res ε α} {f : α → Prog Op Res ε β}
    (hp : p.Returns P) (hf : ∀ a, P a → (f a).Returns Q) : (p >>= f).Returns Q := by
  induction p with
  | ok a => exact hf a hp
  | error | panic => trivial
  | call op k ih => exact fun r => ih r (hp r)

theorem Returns.orElse {Q : α → Prop} {p : Prog Op Res ε α} {f : ε → Prog Op Res ε' α}
    (hp : p.Returns Q) (hf : ∀ e, (f e).Returns Q) : (p.orElse f).Returns Q := by
  induction p with
  | ok a => exact hp
  | error e => exact hf e
  | panic => trivial
  | call op k ih => exact fun r => ih r (hp r)

/-- Only a value in `Q` is returned before an answer was `seen`. -/
def Awaits (seen : (op : Op) → Res op → Prop) (Q : α → Prop) : Prog Op Res ε α → Prop
  | .ok a => Q a
  | .call op k => ∀ r, seen op r ∨ (k r).Awaits seen Q
  | _ => True

section
variable {seen : (op : Op) → Res op → Prop}

theorem awaits_true (p : Prog Op Res ε α) : p.Awaits seen fun _ => True := by
  induction p with
  | ok | error | panic => trivial
  | call op k ih => exact fun r => .inr (ih r)

theorem Returns.awaits {Q : α → Prop} {p : Prog Op Res ε α} (hp : p.Returns Q) :
    p.Awaits seen Q := by
  induction p with
  | ok a => exact hp
  | error | panic => trivial
  | call op k ih => exact fun r => .inr (ih r (hp r))

theorem Awaits.bind {P : α → Prop} {Q : β → Prop} {p : Prog Op Res ε α} {f : α → Prog Op Res ε β}
    (hp : p.Awaits seen P) (hf : ∀ a, P a → (f a).Awaits seen Q) : (p >>= f).Awaits seen Q := by
  induction p with
  | ok a => exact hf a hp
  | error | panic => trivial
  | call op k ih => exact fun r => (hp r).imp_right (ih r)

end

-- ---------------------------------------------------------------------------
-- Programs of a larger system
-- ---------------------------------------------------------------------------

def translate {Op' : Type} {Res' : Op' → Type} (f : Op → Op')
    (back : (op : Op) → Res' (f op) → Res op) :
    Prog Op Res ε α → Prog Op' Res' ε α
  | .ok a => .ok a
  | .error e => .error e
  | .panic => .panic
  | .call op k => .call (f op) fun r => (k (back op r)).translate f back

section
variable {Op' : Type} {Res' : Op' → Type} {f : Op → Op'} {back : (op : Op) → Res' (f op) → Res op}

theorem translate_uses {P : Op' → Prop} (h : ∀ op, P (f op)) (p : Prog Op Res ε α) :
    (p.translate f back).Uses P := by
  induction p with
  | ok | error | panic => trivial
  | call op k ih => exact ⟨h op, fun r => ih (back op r)⟩

theorem Awaits.translate {seen : (op : Op) → Res op → Prop} {seen' : (op : Op') → Res' op → Prop}
    (h : ∀ op r, seen op (back op r) → seen' (f op) r) {Q : α → Prop} {p : Prog Op Res ε α}
    (hp : p.Awaits seen Q) : (p.translate f back).Awaits seen' Q := by
  induction p with
  | ok a => exact hp
  | error | panic => trivial
  | call op k ih => exact fun r => (hp (back op r)).imp (h op r) (ih (back op r))

end

end Prog

-- ---------------------------------------------------------------------------
-- Computing
-- ---------------------------------------------------------------------------

/-- Run alone, each call answered by `serve`. -/
def run (serve : (op : Op) → σ → Res op × σ) : Prog Op Res ε α → σ → Outcome ε α × σ
  | .ok a, s => (.ok a, s)
  | .error e, s => (.error e, s)
  | .panic, s => (.panic, s)
  | .call op k, s => run serve (k (serve op s).1) (serve op s).2

section
variable {serve : (op : Op) → σ → Res op × σ}

@[simp] theorem run_ok (a : α) (s : σ) :
    run serve (.ok a : Prog Op Res ε α) s = (.ok a, s) := rfl

@[simp] theorem run_error (e : ε) (s : σ) :
    run serve (.error e : Prog Op Res ε α) s = (.error e, s) := rfl

@[simp] theorem run_panic (s : σ) : run serve (.panic : Prog Op Res ε α) s = (.panic, s) := rfl

@[simp] theorem run_call (op : Op) (k : Res op → Prog Op Res ε α) (s : σ) :
    run serve (.call op k) s = run serve (k (serve op s).1) (serve op s).2 := rfl

theorem run_bind (p : Prog Op Res ε α) (f : α → Prog Op Res ε β) (s : σ) :
    run serve (p >>= f) s = match run serve p s with
      | (.ok a, t) => run serve (f a) t
      | (.error e, t) => (.error e, t)
      | (.panic, t) => (.panic, t) := by
  induction p generalizing s with
  | ok | error | panic => rfl
  | call op k ih => exact ih _ _

theorem run_orElse (p : Prog Op Res ε α) (f : ε → Prog Op Res ε' α) (s : σ) :
    run serve (p.orElse f) s = match run serve p s with
      | (.ok a, t) => (.ok a, t)
      | (.error e, t) => run serve (f e) t
      | (.panic, t) => (.panic, t) := by
  induction p generalizing s with
  | ok | error | panic => rfl
  | call op k ih => exact ih _ _

theorem run_poll {cond : Prog Op Res ε Bool} (h : run serve cond s = (.ok done, s)) (ticks : Nat) :
    run serve (.poll cond ticks) s = (.ok (done && decide (0 < ticks)), s) := by
  induction ticks with
  | zero => simp [Prog.poll]
  | succ ticks ih =>
    rw [Prog.poll, run_bind, h]
    cases done with
    | true => simp
    | false => simpa using ih

end

-- ---------------------------------------------------------------------------
-- Running among others
-- ---------------------------------------------------------------------------

/-- `p`, started in `s`, may end with `o` in `t`. -/
def Runs (rel : σ → σ → Prop) (api : (op : Op) → σ → Res op → σ → Prop) :
    Prog Op Res ε α → σ → Outcome ε α → σ → Prop
  | .ok a, s, o, t => o = .ok a ∧ rel s t
  | .error e, s, o, t => o = .error e ∧ rel s t
  | .panic, s, o, t => o = .panic ∧ rel s t
  | .call op k, s, o, t => ∃ s₁ r s₂, rel s s₁ ∧ api op s₁ r s₂ ∧ Runs rel api (k r) s₂ o t

section
variable {rel : σ → σ → Prop} {api : (op : Op) → σ → Res op → σ → Prop}

theorem Runs.request {op : Op} {f : Res op → Prog Op Res ε α}
    (h : Runs rel api (.request op >>= f) s o t) :
    ∃ s₁ r s₂, rel s s₁ ∧ api op s₁ r s₂ ∧ Runs rel api (f r) s₂ o t := h

theorem Runs.before (htrans : ∀ a b c, rel a b → rel b c → rel a c) {p : Prog Op Res ε α}
    (hr : rel s s') (h : Runs rel api p s' o t) : Runs rel api p s o t := by
  cases p with
  | ok | error | panic => exact ⟨h.1, htrans _ _ _ hr h.2⟩
  | call op k =>
    obtain ⟨s₁, r, s₂, h₁, h₂, h⟩ := h
    exact ⟨s₁, r, s₂, htrans _ _ _ hr h₁, h₂, h⟩

theorem Runs.after (htrans : ∀ a b c, rel a b → rel b c → rel a c) {p : Prog Op Res ε α}
    (h : Runs rel api p s o t') (hr : rel t' t) : Runs rel api p s o t := by
  induction p generalizing s with
  | ok | error | panic => exact ⟨h.1, htrans _ _ _ h.2 hr⟩
  | call op k ih =>
    obtain ⟨s₁, r, s₂, h₁, h₂, h⟩ := h
    exact ⟨s₁, r, s₂, h₁, h₂, ih r h⟩

theorem Runs.bind (htrans : ∀ a b c, rel a b → rel b c → rel a c) {p : Prog Op Res ε α}
    {f : α → Prog Op Res ε β} (hp : Runs rel api p s (.ok a) u) (hf : Runs rel api (f a) u o t) :
    Runs rel api (p >>= f) s o t := by
  induction p generalizing s with
  | ok b =>
    obtain ⟨hab, hrel⟩ := hp
    cases hab
    exact hf.before htrans hrel
  | error | panic => cases hp.1
  | call op k ih =>
    obtain ⟨s₁, r, s₂, h₁, h₂, h⟩ := hp
    exact ⟨s₁, r, s₂, h₁, h₂, ih r h⟩

theorem Runs.bind_ok {p : Prog Op Res ε α} {f : α → Prog Op Res ε β} (hrefl : ∀ s, rel s s)
    (h : Runs rel api (p >>= f) s (.ok b) t) :
    ∃ a u, Runs rel api p s (.ok a) u ∧ Runs rel api (f a) u (.ok b) t := by
  induction p generalizing s with
  | ok a => exact ⟨a, s, ⟨rfl, hrefl s⟩, h⟩
  | error e => exact absurd h.1 (by simp)
  | panic => exact absurd h.1 (by simp)
  | call op k ih =>
    obtain ⟨s₁, r, s₂, hrel, hapi, h⟩ := h
    obtain ⟨a, u, hp, hf⟩ := ih r h
    exact ⟨a, u, ⟨s₁, r, s₂, hrel, hapi, hp⟩, hf⟩

theorem Runs.orElse_ok {p : Prog Op Res ε α} {f : ε → Prog Op Res ε' α} (hrefl : ∀ s, rel s s)
    (h : Runs rel api (p.orElse f) s (.ok a) t) :
    Runs rel api p s (.ok a) t ∨
      ∃ e u, Runs rel api p s (.error e) u ∧ Runs rel api (f e) u (.ok a) t := by
  induction p generalizing s with
  | ok b => exact .inl ⟨by simpa using h.1, h.2⟩
  | error e => exact .inr ⟨e, s, ⟨rfl, hrefl s⟩, h⟩
  | panic => exact absurd h.1 (by simp)
  | call op k ih =>
    obtain ⟨s₁, r, s₂, hrel, hapi, h⟩ := h
    rcases ih r h with hp | ⟨e, u, hp, hf⟩
    · exact .inl ⟨s₁, r, s₂, hrel, hapi, hp⟩
    · exact .inr ⟨e, u, ⟨s₁, r, s₂, hrel, hapi, hp⟩, hf⟩

theorem Runs.raises {E : ε → Prop} {p : Prog Op Res ε α} (hp : p.Raises E)
    (h : Runs rel api p s (.error e) t) : E e := by
  induction p generalizing s with
  | error e' =>
    obtain ⟨he, -⟩ := h
    cases he
    exact hp
  | ok | panic => exact absurd h.1 (by simp)
  | call op k ih =>
    obtain ⟨s₁, r, s₂, h₁, h₂, h⟩ := h
    exact ih r (hp r) h

theorem Runs.returns {Q : α → Prop} {p : Prog Op Res ε α} (hp : p.Returns Q)
    (h : Runs rel api p s (.ok a) t) : Q a := by
  induction p generalizing s with
  | ok b =>
    obtain ⟨hab, -⟩ := h
    cases hab
    exact hp
  | error | panic => exact absurd h.1 (by simp)
  | call op k ih =>
    obtain ⟨s₁, r, s₂, h₁, h₂, h⟩ := h
    exact ih r (hp r) h

/-- What a program computes alone is one of its runs among others that may
also stand still. -/
theorem Runs.of_run {serve : (op : Op) → σ → Res op × σ} (hrefl : ∀ s, rel s s)
    (hserve : ∀ op s, api op s (serve op s).1 (serve op s).2) (p : Prog Op Res ε α) (s : σ) :
    Runs rel api p s (run serve p s).1 (run serve p s).2 := by
  induction p generalizing s with
  | ok | error | panic => exact ⟨rfl, hrefl s⟩
  | call op k ih => exact ⟨s, _, _, hrefl s, hserve op s, ih _ _⟩

theorem Runs.of_run_after {serve : (op : Op) → σ → Res op × σ} (hrefl : ∀ s, rel s s)
    (htrans : ∀ a b c, rel a b → rel b c → rel a c)
    (hserve : ∀ op s, api op s (serve op s).1 (serve op s).2) {p : Prog Op Res ε α}
    (hr : rel s s') (h : run serve p s' = (o, t)) : Runs rel api p s o t := by
  have hruns := Runs.of_run hrefl hserve p s'
  rw [h] at hruns
  exact hruns.before htrans hr

theorem Runs.invariant {inv : σ → Prop} {P : Op → Prop} {p : Prog Op Res ε α} (hp : p.Uses P)
    (hrel : ∀ s t, inv s → rel s t → inv t)
    (hcall : ∀ op s r t, P op → inv s → api op s r t → inv t)
    (h : Runs rel api p s o t) (hs : inv s) : inv t := by
  induction p generalizing s with
  | ok | error | panic => exact hrel _ _ hs h.2
  | call op k ih =>
    obtain ⟨s₁, r, s₂, h₁, h₂, h⟩ := h
    exact ih r (hp.2 r) h (hcall op s₁ r s₂ hp.1 (hrel s s₁ hs h₁) h₂)

theorem Runs.unchanged {P : Op → Prop} {p : Prog Op Res ε α} (hp : p.Uses P)
    (hreads : ∀ op s r t, P op → api op s r t → t = s) (h : Runs Eq api p s o t) : t = s := by
  induction p generalizing s with
  | ok | error | panic => exact h.2.symm
  | call op k ih =>
    obtain ⟨s₁, r, s₂, rfl, h₂, h⟩ := h
    exact (ih r (hp.2 r) h).trans (hreads op s r s₂ hp.1 h₂)

end

-- ---------------------------------------------------------------------------
-- Known answers
-- ---------------------------------------------------------------------------

/-- How the program ends if the calls it comes to make have known answers. -/
def Prog.settle (known : (op : Op) → Option (Res op)) : Prog Op Res ε α → Option (Outcome ε α)
  | .ok a => some (.ok a)
  | .error e => some (.error e)
  | .panic => some .panic
  | .call op k => match known op with
    | some r => (k r).settle known
    | none => none

section
variable {known : (op : Op) → Option (Res op)}

@[simp] theorem Prog.settle_ok (a : α) : (ok a : Prog Op Res ε α).settle known = some (.ok a) := rfl

@[simp] theorem Prog.settle_error (e : ε) :
    (error e : Prog Op Res ε α).settle known = some (.error e) := rfl

@[simp] theorem Prog.settle_panic : (panic : Prog Op Res ε α).settle known = some .panic := rfl

theorem Prog.settle_call {k : Res op → Prog Op Res ε α} (h : known op = some r) :
    (call op k).settle known = (k r).settle known := by
  simp only [settle, h]

theorem Prog.settle_bind (p : Prog Op Res ε α) (f : α → Prog Op Res ε β) :
    (p >>= f).settle known = match p.settle known with
      | some (.ok a) => (f a).settle known
      | some (.error e) => some (.error e)
      | some .panic => some .panic
      | none => none := by
  induction p with
  | ok | error | panic => rfl
  | call op k ih =>
    simp only [call_bind, settle]
    cases known op with
    | none => rfl
    | some r => exact ih r

theorem Prog.settle_orElse (p : Prog Op Res ε α) (f : ε → Prog Op Res ε' α) :
    (p.orElse f).settle known = match p.settle known with
      | some (.ok a) => some (.ok a)
      | some (.error e) => (f e).settle known
      | some .panic => some .panic
      | none => none := by
  induction p with
  | ok | error | panic => rfl
  | call op k ih =>
    simp only [call_orElse, settle]
    cases known op with
    | none => rfl
    | some r => exact ih r

/-- As long as `inv` holds, which others keep, the known calls only read and are
answered as known. -/
structure Known (inv : σ → Prop) (rel : σ → σ → Prop) (api : (op : Op) → σ → Res op → σ → Prop)
    (known : (op : Op) → Option (Res op)) : Prop where
  move : ∀ s t, inv s → rel s t → inv t
  answer : ∀ op s r t a, inv s → api op s r t → known op = some a → r = a ∧ inv t

theorem Runs.settled {inv : σ → Prop} {rel : σ → σ → Prop} {api : (op : Op) → σ → Res op → σ → Prop}
    (hknown : Known inv rel api known) {p : Prog Op Res ε α} (hp : p.settle known = some o')
    (h : Runs rel api p s o t) (hs : inv s) : o = o' ∧ inv t := by
  induction p generalizing s with
  | ok | error | panic => exact ⟨h.1.trans (Option.some.inj hp), hknown.move _ _ hs h.2⟩
  | call op k ih =>
    obtain ⟨s₁, r, s₂, hmove, hanswer, h⟩ := h
    cases hop : known op with
    | none => simp [Prog.settle, hop] at hp
    | some a =>
      obtain ⟨rfl, hs₂⟩ := hknown.answer op s₁ r s₂ a (hknown.move s s₁ hs hmove) hanswer hop
      rw [Prog.settle_call hop] at hp
      exact ih r hp h hs₂

end

end Calls
