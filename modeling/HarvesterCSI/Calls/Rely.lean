import HarvesterCSI.Calls.Pool

/-!
# Rely, guarantee and crashes

What others may do while a program waits is its rely. Against it a program
guarantees `step` if each of its calls is a `step` and a move that others may rely on
in their turn. So the guarantees of parts compose, and those of all programs of a pool
hold together.

A program is sound if it does not crash as long as every answer is as it should be.
-/

namespace Calls

variable {ι Op : Type} {Res : Op → Type} {ε ε' α β σ τ : Type}

/-- What others may do: nothing, and one thing after another. -/
structure Rely (σ : Type) where
  moves : σ → σ → Prop
  refl : ∀ s, moves s s
  trans : ∀ {s t u}, moves s t → moves t u → moves s u

def Guarantees (R : Rely σ) (api : (op : Op) → σ → Res op → σ → Prop) (step : σ → σ → Prop)
    (p : Prog Op Res ε α) (s : σ) : Prop :=
  Safe R.moves api (fun _ _ _ _ _ => True) (fun _ s _ t _ => R.moves s t ∧ step s t) p s

section
variable {R : Rely σ} {api : (op : Op) → σ → Res op → σ → Prop} {step : σ → σ → Prop}

@[simp] theorem guarantees_ok {a : α} {s : σ} :
    Guarantees R api step (.ok a : Prog Op Res ε α) s := trivial

@[simp] theorem guarantees_error {e : ε} {s : σ} :
    Guarantees R api step (.error e : Prog Op Res ε α) s := trivial

@[simp] theorem guarantees_panic {s : σ} : Guarantees R api step (.panic : Prog Op Res ε α) s :=
  trivial

theorem Guarantees.request {k : Res op → Prog Op Res ε α}
    (h : ∀ s₁ r s₂, R.moves s s₁ → api op s₁ r s₂ →
      (R.moves s₁ s₂ ∧ step s₁ s₂) ∧ Guarantees R api step (k r) s₂) :
    Guarantees R api step (.request op >>= k) s :=
  fun s₁ r s₂ hmove ha _ => h s₁ r s₂ hmove ha

theorem Guarantees.bind {Q : β → Prop} {p : Prog Op Res ε β} {f : β → Prog Op Res ε α}
    (hp : Guarantees R api step p s) (hreturns : p.Returns Q)
    (hf : ∀ b t, Q b → R.moves s t → Guarantees R api step (f b) t) :
    Guarantees R api step (p >>= f) s := by
  induction p generalizing s with
  | ok b => exact hf b s hreturns (R.refl s)
  | error | panic => trivial
  | call op k ih =>
    intro s₁ r s₂ hmove ha _
    obtain ⟨hgood, hrest⟩ := hp s₁ r s₂ hmove ha trivial
    refine ⟨hgood, ih r hrest (hreturns r) fun b t hb ht => ?_⟩
    exact hf b t hb (R.trans hmove (R.trans hgood.1 ht))

theorem Guarantees.seq {p : Prog Op Res ε β} {f : β → Prog Op Res ε α}
    (hp : Guarantees R api step p s) (hf : ∀ b t, R.moves s t → Guarantees R api step (f b) t) :
    Guarantees R api step (p >>= f) s :=
  hp.bind (Prog.returns_true p) fun b t _ => hf b t

theorem Guarantees.orElse {p : Prog Op Res ε α} {f : ε → Prog Op Res ε' α}
    (hp : Guarantees R api step p s) (hf : ∀ e t, R.moves s t → Guarantees R api step (f e) t) :
    Guarantees R api step (p.orElse f) s := by
  induction p generalizing s with
  | error e => exact hf e s (R.refl s)
  | ok | panic => trivial
  | call op k ih =>
    intro s₁ r s₂ hmove ha _
    obtain ⟨hgood, hrest⟩ := hp s₁ r s₂ hmove ha trivial
    refine ⟨hgood, ih r hrest fun e t ht => ?_⟩
    exact hf e t (R.trans hmove (R.trans hgood.1 ht))

theorem Guarantees.of_uses {P : Op → Prop} {p : Prog Op Res ε α} (hp : p.Uses P)
    (hgood : ∀ op s r t, P op → api op s r t → R.moves s t ∧ step s t) (s : σ) :
    Guarantees R api step p s :=
  Safe.of_uses (fun op s r t _ hop _ ha => hgood op s r t hop ha) hp s

theorem Guarantees.imp {R' : Rely σ} {step' : σ → σ → Prop}
    (hrely : ∀ s t, R'.moves s t → R.moves s t)
    (hstep : ∀ s t, R.moves s t → step s t → R'.moves s t ∧ step' s t) {p : Prog Op Res ε α}
    (h : Guarantees R api step p s) : Guarantees R' api step' p s := by
  induction p generalizing s with
  | ok | error | panic => trivial
  | call op k ih =>
    intro s₁ r s₂ hmove ha _
    obtain ⟨hgood, hrest⟩ := h s₁ r s₂ (hrely _ _ hmove) ha trivial
    exact ⟨hstep s₁ s₂ hgood.1 hgood.2, ih r hrest⟩

theorem Guarantees.assuming {R' : Rely σ} {step' : σ → σ → Prop} {inv : σ → Prop}
    (hrely : ∀ s t, R'.moves s t → R.moves s t) (hinv : ∀ s t, R'.moves s t → inv s → inv t)
    (hstep : ∀ s t, R.moves s t → step s t → R'.moves s t ∧ step' s t) {p : Prog Op Res ε α}
    (h : Guarantees R (fun op s r t => inv s ∧ api op s r t) step p s) (hs : inv s) :
    Guarantees R' api step' p s := by
  induction p generalizing s with
  | ok | error | panic => trivial
  | call op k ih =>
    intro s₁ r s₂ hmove ha _
    have hs₁ := hinv s s₁ hmove hs
    obtain ⟨hgood, hrest⟩ := h s₁ r s₂ (hrely _ _ hmove) ⟨hs₁, ha⟩ trivial
    have hown := hstep s₁ s₂ hgood.1 hgood.2
    exact ⟨hown, ih r hrest (hinv s₁ s₂ hown.1 hs₁)⟩

theorem Guarantees.of_api {api' : (op : Op) → σ → Res op → σ → Prop}
    (hapi : ∀ op s r t, api' op s r t → api op s r t) {p : Prog Op Res ε α}
    (h : Guarantees R api step p s) : Guarantees R api' step p s := by
  induction p generalizing s with
  | ok | error | panic => trivial
  | call op k ih =>
    intro s₁ r s₂ hmove ha _
    obtain ⟨hgood, hrest⟩ := h s₁ r s₂ hmove (hapi op s₁ r s₂ ha) trivial
    exact ⟨hgood, ih r hrest⟩

/-- What its steps and the moves of others keep, a program leaves behind however it ends. -/
theorem Guarantees.invariant {rel : σ → σ → Prop} {inv : σ → Prop}
    (hrel : ∀ s t, rel s t → R.moves s t) (hmove : ∀ s t, inv s → rel s t → inv t)
    (hstep : ∀ s t, inv s → step s t → inv t) {p : Prog Op Res ε α} (h : Guarantees R api step p s)
    (hruns : Runs rel api p s o t) (hs : inv s) : inv t := by
  induction p generalizing s with
  | ok | error | panic => exact hmove _ _ hs hruns.2
  | call op k ih =>
    obtain ⟨s₁, r, s₂, h₁, h₂, hruns⟩ := hruns
    obtain ⟨hgood, hrest⟩ := h s₁ r s₂ (hrel _ _ h₁) h₂ trivial
    exact ih r hrest hruns (hstep _ _ (hmove _ _ hs h₁) hgood.2)

end

section
variable [DecidableEq ι] {env : σ → σ → Prop} {api : (op : Op) → σ → Res op → σ → Prop}
  {allowed : Pool ι Res ε α σ → Event ι Res ε α σ → Prop} {start c : Pool ι Res ε α σ}

theorem Reach.guaranteed {R : Rely σ} {step : ι → σ → σ → Prop}
    (henv : ∀ s t, env s t → R.moves s t)
    (hstart : ∀ i, Guarantees R api (step i) (start.procs i) start.state)
    (hhist : start.history = []) (h : Reach env api allowed start c) :
    ∀ e ∈ c.history, e.All fun i _ s _ t _ => R.moves s t ∧ step i s t := by
  refine (h.good ?_ ?_ henv ?_ (fun _ e _ => e.all_true) hstart hhist).2
  · exact fun _ _ _ => R.trans
  · exact R.refl
  · exact fun _ _ _ _ _ _ _ hgood => hgood.1

theorem Reach.relies {R : Rely σ} {step : ι → σ → σ → Prop} (henv : ∀ s t, env s t → R.moves s t)
    (hstart : ∀ i, Guarantees R api (step i) (start.procs i) start.state)
    (hhist : start.history = []) (h : Reach env api allowed start c) :
    R.moves start.state c.state := by
  let inv (c : Pool ι Res ε α σ) : Prop := R.moves start.state c.state
  have hinv : inv c := by
    refine h.invariant (fun _ hc => hc.guaranteed henv hstart hhist) (R.refl _) ?_ ?_
    · exact fun _ _ hinv he => R.trans hinv (henv _ _ he)
    · exact fun _ _ _ _ _ _ hinv _ _ _ hgood => R.trans hinv hgood.1
  exact hinv

end

-- ---------------------------------------------------------------------------
-- What a return says
-- ---------------------------------------------------------------------------

/-- While others move by the rely, `post` holds once the program has returned, and goes
on to hold. -/
def Attains (R : Rely σ) (api : (op : Op) → σ → Res op → σ → Prop) (post : α → σ → Prop) :
    Prog Op Res ε α → σ → Prop
  | .ok a, s => ∀ t, R.moves s t → post a t
  | .call op k, s => ∀ s₁ r s₂, R.moves s s₁ → api op s₁ r s₂ → Attains R api post (k r) s₂
  | _, _ => True

section
variable {R : Rely σ} {api : (op : Op) → σ → Res op → σ → Prop} {post : α → σ → Prop}

@[simp] theorem attains_error {e : ε} {s : σ} : Attains R api post (.error e : Prog Op Res ε α) s :=
  trivial

theorem Attains.move {p : Prog Op Res ε α} (h : Attains R api post p s) (hmove : R.moves s t) :
    Attains R api post p t := by
  cases p with
  | ok a => exact fun u hu => h u (R.trans hmove hu)
  | error | panic => trivial
  | call op k => exact fun s₁ r s₂ h₁ h₂ => h s₁ r s₂ (R.trans hmove h₁) h₂

theorem Attains.request {k : Res op → Prog Op Res ε α}
    (h : ∀ s₁ r s₂, R.moves s s₁ → api op s₁ r s₂ → Attains R api post (k r) s₂) :
    Attains R api post (.request op >>= k) s := h

theorem Attains.bind {mid : β → σ → Prop} {p : Prog Op Res ε β} {f : β → Prog Op Res ε α}
    (hp : Attains R api mid p s)
    (hf : ∀ b t, (∀ u, R.moves t u → mid b u) → Attains R api post (f b) t) :
    Attains R api post (p >>= f) s := by
  induction p generalizing s with
  | ok b => exact hf b s hp
  | error | panic => trivial
  | call op k ih => exact fun s₁ r s₂ h₁ h₂ => ih r (hp s₁ r s₂ h₁ h₂)

theorem Attains.orElse {p : Prog Op Res ε α} {f : ε → Prog Op Res ε' α}
    (hp : Attains R api post p s) (hf : ∀ e t, Attains R api post (f e) t) :
    Attains R api post (p.orElse f) s := by
  induction p generalizing s with
  | ok a => exact hp
  | error e => exact hf e s
  | panic => trivial
  | call op k ih => exact fun s₁ r s₂ h₁ h₂ => ih r (hp s₁ r s₂ h₁ h₂)

theorem attains_true (p : Prog Op Res ε α) (s : σ) : Attains R api (fun _ _ => True) p s := by
  induction p generalizing s with
  | ok a => exact fun _ _ => trivial
  | error | panic => trivial
  | call op k ih => exact fun _ r s₂ _ _ => ih r s₂

theorem Attains.after {p : Prog Op Res ε β} {f : β → Prog Op Res ε α}
    (hf : ∀ b t, Attains R api post (f b) t) (s : σ) : Attains R api post (p >>= f) s :=
  (attains_true p s).bind fun b t _ => hf b t

theorem Attains.poll {good : σ → Prop} {cond : Prog Op Res ε Bool}
    (h : ∀ s, Attains R api (fun done t => done = true → good t) cond s) (ticks : Nat) (s : σ) :
    Attains R api (fun done t => done = true → good t) (.poll cond ticks) s := by
  induction ticks generalizing s with
  | zero =>
    intro t _ hdone
    cases hdone
  | succ ticks ih =>
    refine (h s).bind fun done t hgood => ?_
    split
    · rename_i hdone
      exact fun u hu _ => hgood u hu hdone
    · exact ih t

theorem Attains.and {post' : α → σ → Prop} {p : Prog Op Res ε α} (h : Attains R api post p s)
    (h' : Attains R api post' p s) : Attains R api (fun a t => post a t ∧ post' a t) p s := by
  induction p generalizing s with
  | ok a => exact fun t ht => ⟨h t ht, h' t ht⟩
  | error | panic => trivial
  | call op k ih => exact fun s₁ r s₂ h₁ h₂ => ih r (h s₁ r s₂ h₁ h₂) (h' s₁ r s₂ h₁ h₂)

theorem Attains.of_kept {good : σ → Prop} {P : Op → Prop}
    (hmove : ∀ s t, R.moves s t → good s → good t)
    (hcall : ∀ op s r t, P op → api op s r t → good s → good t) {p : Prog Op Res ε α}
    (hp : p.Uses P) (hs : good s) : Attains R api (fun _ => good) p s := by
  induction p generalizing s with
  | ok a => exact fun t ht => hmove s t ht hs
  | error | panic => trivial
  | call op k ih =>
    exact fun s₁ r s₂ h₁ h₂ => ih r (hp.2 r) (hcall op s₁ r s₂ hp.1 h₂ (hmove s s₁ h₁ hs))

theorem Attains.of_awaits {good : σ → Prop} {P : Op → Prop} {seen : (op : Op) → Res op → Prop}
    (hseen : ∀ op s r t, api op s r t → seen op r → good s)
    (hmove : ∀ s t, R.moves s t → good s → good t)
    (hcall : ∀ op s r t, P op → api op s r t → good s → good t) {p : Prog Op Res ε α}
    (hp : p.Uses P) (hawaits : p.Awaits seen fun _ => False) (s : σ) :
    Attains R api (fun _ => good) p s := by
  induction p generalizing s with
  | ok a => exact hawaits.elim
  | error | panic => trivial
  | call op k ih =>
    intro s₁ r s₂ h₁ h₂
    rcases hawaits r with hr | hrest
    · exact .of_kept hmove hcall (hp.2 r) (hcall op s₁ r s₂ hp.1 h₂ (hseen op s₁ r s₂ h₂ hr))
    · exact ih r (hp.2 r) hrest s₂

end

/-- What others may do where only a part of the state counts. -/
def Rely.comap (proj : τ → σ) (R : Rely σ) : Rely τ where
  moves s t := R.moves (proj s) (proj t)
  refl s := R.refl (proj s)
  trans h h' := R.trans h h'

section
variable {Op' : Type} {Res' : Op' → Type} {f : Op → Op'} {back : (op : Op) → Res' (f op) → Res op}
    {proj : τ → σ}
  {R : Rely σ} {api : (op : Op) → σ → Res op → σ → Prop}
    {api' : (op : Op') → τ → Res' op → τ → Prop}

theorem Guarantees.translate {step : σ → σ → Prop} {p : Prog Op Res ε α}
    (hapi : ∀ op s r t, api' (f op) s r t → api op (proj s) (back op r) (proj t))
    (h : Guarantees R api step p (proj s)) :
    Guarantees (R.comap proj) api' (fun s t => step (proj s) (proj t)) (p.translate f back) s := by
  induction p generalizing s with
  | ok | error | panic => trivial
  | call op k ih =>
    intro s₁ r s₂ hmove ha _
    obtain ⟨hgood, hrest⟩ := h (proj s₁) (back op r) (proj s₂) hmove (hapi op s₁ r s₂ ha) trivial
    exact ⟨hgood, ih (back op r) hrest⟩

theorem Attains.translate {post : α → σ → Prop} {p : Prog Op Res ε α}
    (hapi : ∀ op s r t, api' (f op) s r t → api op (proj s) (back op r) (proj t))
    (h : Attains R api post p (proj s)) :
    Attains (R.comap proj) api' (fun a t => post a (proj t)) (p.translate f back) s := by
  induction p generalizing s with
  | ok a => exact fun t ht => h (proj t) ht
  | error | panic => trivial
  | call op k ih =>
    exact fun s₁ r s₂ h₁ h₂ => ih (back op r) (h (proj s₁) (back op r) (proj s₂) h₁
      (hapi op s₁ r s₂ h₂))

end

/-- In a run in which all but `i` move by its rely, what `i` attains holds from its
return on. -/
theorem Reach.attains [DecidableEq ι] {env : σ → σ → Prop} {api : (op : Op) → σ → Res op → σ → Prop}
    {allowed : Pool ι Res ε α σ → Event ι Res ε α σ → Prop} {start c : Pool ι Res ε α σ} {i : ι}
    {R : Rely σ} {post : α → σ → Prop} (henv : ∀ s t, env s t → R.moves s t)
    (hothers : ∀ c, Reach env api allowed start c →
      ∀ e ∈ c.history, e.All fun j _ s _ t _ => j ≠ i → R.moves s t)
    (hstart : Attains R api post (start.procs i) start.state) (h : Reach env api allowed start c) :
    Attains R api post (c.procs i) c.state := by
  let inv (c : Pool ι Res ε α σ) : Prop := Attains R api post (c.procs i) c.state
  have hinv : inv c := by
    refine h.invariant hothers hstart ?_ ?_
    · exact fun c s hc he => Attains.move hc (henv _ _ he)
    · intro c j op k r s hc hp ha _ hmove
      by_cases hj : i = j
      · subst hj
        have hi : Attains R api post (.call op k) c.state := hp ▸ hc
        simpa [inv] using hi c.state r s (R.refl _) ha
      · simpa [inv, hj] using Attains.move hc (hmove (Ne.symm hj))
  exact hinv

-- ---------------------------------------------------------------------------
-- What is had only once
-- ---------------------------------------------------------------------------

def Pool.Saw (c : Pool ι Res ε α σ) (seen : (op : Op) → Res op → Prop) (i : ι) : Prop :=
  ∃ op r s t rest, .call i op r s t rest ∈ c.history ∧ seen op r

section
variable [DecidableEq ι] {env : σ → σ → Prop} {api : (op : Op) → σ → Res op → σ → Prop}
  {allowed : Pool ι Res ε α σ → Event ι Res ε α σ → Prop} {start c : Pool ι Res ε α σ} {i j : ι}
    {P : σ → Prop}
  {seen : (op : Op) → Res op → Prop}

/-- An answer that makes `P` true and is not given once it is. -/
theorem Reach.saw_once (henv : ∀ s t, env s t → P s → P t)
    (hkeeps : ∀ c, Reach env api allowed start c →
      ∀ e ∈ c.history, e.All fun _ _ s _ t _ => P s → P t)
    (honce : ∀ op s r t, api op s r t → seen op r → ¬ P s ∧ P t) (hhist : start.history = [])
    (h : Reach env api allowed start c) :
    (∀ i, c.Saw seen i → P c.state) ∧ ∀ i j, c.Saw seen i → c.Saw seen j → i = j := by
  induction h with
  | start =>
    have hnone (i) : ¬ start.Saw seen i := by
      rintro ⟨op, r, s, t, rest, hmem, -⟩
      simp [hhist] at hmem
    exact ⟨fun i hi => absurd hi (hnone i), fun i j hi => absurd hi (hnone i)⟩
  | @env c s _ he ih =>
    have hold (i)
        (hi : Pool.Saw { c with state := s, history := .env c.state s :: c.history } seen i) :
        c.Saw seen i := by
      obtain ⟨op, r, s, t, rest, hmem, hseen⟩ := hi
      rcases List.mem_cons.mp hmem with hmem | hmem
      · cases hmem
      · exact ⟨op, r, s, t, rest, hmem, hseen⟩
    exact ⟨fun i hi => henv _ _ he (ih.1 i (hold i hi)), fun i j hi hj => ih.2 i j (hold i hi)
      (hold j hj)⟩
  | @call c k op f r s hc hp ha hal ih =>
    have hP := hkeeps _ (hc.call hp ha hal) _ List.mem_cons_self
    have hold (i) (hi : Pool.Saw
        ⟨s, Function.update c.procs k (f r), .call k op r c.state s (f r) :: c.history⟩ seen i) :
        i = k ∧ seen op r ∨ c.Saw seen i := by
      obtain ⟨op', r', s', t', rest, hmem, hseen⟩ := hi
      rcases List.mem_cons.mp hmem with hmem | hmem
      · cases hmem
        exact .inl ⟨rfl, hseen⟩
      · exact .inr ⟨op', r', s', t', rest, hmem, hseen⟩
    refine ⟨fun i hi => ?_, fun i j hi hj => ?_⟩
    · rcases hold i hi with ⟨-, hseen⟩ | hi
      · exact (honce op _ r s ha hseen).2
      · exact hP (ih.1 i hi)
    · rcases hold i hi with ⟨rfl, hseen⟩ | hi' <;> rcases hold j hj with ⟨rfl, hseen'⟩ | hj'
      · rfl
      · exact absurd (ih.1 j hj') (honce op _ r s ha hseen).1
      · exact absurd (ih.1 i hi') (honce op _ r s ha hseen').1
      · exact ih.2 i j hi' hj'

theorem Reach.saw (hi : (start.procs i).Awaits seen fun _ => False)
    (h : Reach env api allowed start c) (hreturned : c.procs i = .ok a) : c.Saw seen i := by
  rcases h.awaits hi with hawaits | hsaw
  · rw [hreturned] at hawaits
    exact hawaits.elim
  · exact hsaw

end

-- ---------------------------------------------------------------------------
-- Crashes
-- ---------------------------------------------------------------------------

namespace Prog

def Sound (ans : (op : Op) → Res op → Prop) : Prog Op Res ε α → Prop
  | .panic => False
  | .call op k => ∀ r, ans op r → (k r).Sound ans
  | _ => True

section
variable {ans : (op : Op) → Res op → Prop}

@[simp] theorem sound_ok {a : α} : (ok a : Prog Op Res ε α).Sound ans := trivial

@[simp] theorem sound_error {e : ε} : (error e : Prog Op Res ε α).Sound ans := trivial

theorem Sound.request {k : Res op → Prog Op Res ε α} (h : ∀ r, ans op r → (k r).Sound ans) :
    (request op >>= k).Sound ans := h

theorem Sound.bind {Q : α → Prop} {p : Prog Op Res ε α} {f : α → Prog Op Res ε β} (hp : p.Sound ans)
    (hreturns : p.Returns Q) (hf : ∀ a, Q a → (f a).Sound ans) : (p >>= f).Sound ans := by
  induction p with
  | ok a => exact hf a hreturns
  | error e => trivial
  | panic => exact hp.elim
  | call op k ih => exact fun r hr => ih r (hp r hr) (hreturns r)

theorem Sound.seq {p : Prog Op Res ε α} {f : α → Prog Op Res ε β} (hp : p.Sound ans)
    (hf : ∀ a, (f a).Sound ans) : (p >>= f).Sound ans :=
  hp.bind (returns_true p) fun a _ => hf a

theorem Sound.orElse {p : Prog Op Res ε α} {f : ε → Prog Op Res ε' α} (hp : p.Sound ans)
    (hf : ∀ e, (f e).Sound ans) : (p.orElse f).Sound ans := by
  induction p with
  | ok a => trivial
  | error e => exact hf e
  | panic => exact hp.elim
  | call op k ih => exact fun r hr => ih r (hp r hr)

theorem Sound.poll {cond : Prog Op Res ε Bool} (h : cond.Sound ans) (ticks : Nat) :
    (poll cond ticks).Sound ans := by
  induction ticks with
  | zero => trivial
  | succ ticks ih =>
    refine h.seq fun done => ?_
    split
    · trivial
    · exact ih

end

end Prog

/-- No program of a pool crashes, as long as every state that is reached gives the
answers they count on. -/
theorem Reach.sound [DecidableEq ι] {env : σ → σ → Prop} {api : (op : Op) → σ → Res op → σ → Prop}
    {allowed : Pool ι Res ε α σ → Event ι Res ε α σ → Prop} {start c : Pool ι Res ε α σ}
    {ans : (op : Op) → Res op → Prop} {inv : σ → Prop}
    (hinv : ∀ c, Reach env api allowed start c → inv c.state)
    (hans : ∀ op s r t, inv s → api op s r t → ans op r)
    (hstart : ∀ i, (start.procs i).Sound ans) (h : Reach env api allowed start c) (i : ι) :
    (c.procs i).Sound ans := by
  induction h with
  | start => exact hstart i
  | env _ _ ih => exact ih
  | @call c j op k r s hc hp ha _ ih =>
    by_cases hj : i = j
    · subst hj
      rw [hp] at ih
      simpa using ih r (hans op _ r _ (hinv c hc) ha)
    · simpa [hj] using ih

end Calls
