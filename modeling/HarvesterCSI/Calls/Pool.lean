import HarvesterCSI.Calls.Prog
import Mathlib.Logic.Function.Basic

/-!
# Programs running side by side

A pool holds one program for each index, over one shared state. A step is one
call of one program or one move of the environment, in any order. The history
records every step, newest first, so that what happened in a run (who wrote,
who returned) is a function of where it got to.

`allowed` restricts the runs that are looked at: it may read the whole pool
before the step and the event itself. Without a restriction it is `anyStep`.
-/

namespace Calls

variable {ι Op : Type} {Res : Op → Type} {ε α β σ : Type}

inductive Event (ι : Type) {Op : Type} (Res : Op → Type) (ε α σ : Type)
  | env (before after : σ)
  | call (i : ι) (op : Op) (answer : Res op) (before after : σ) (rest : Prog Op Res ε α)

def Event.All (good : ι → (op : Op) → σ → Res op → σ → Prog Op Res ε α → Prop) :
    Event ι Res ε α σ → Prop
  | .env _ _ => True
  | .call i op r s t rest => good i op s r t rest

def Event.Moves (rel : σ → σ → Prop) : Event ι Res ε α σ → Prop
  | .env s t => rel s t
  | .call _ _ _ s t _ => rel s t

def Event.before : Event ι Res ε α σ → σ
  | .env s _ | .call _ _ _ s _ _ => s

theorem Event.all_true (e : Event ι Res ε α σ) : e.All fun _ _ _ _ _ _ => True := by
  cases e <;> trivial

def Event.returned : Event ι Res ε α σ → Option ι
  | .call i _ _ _ _ (.ok _) => some i
  | _ => none

structure Pool (ι : Type) {Op : Type} (Res : Op → Type) (ε α σ : Type) where
  state : σ
  procs : ι → Prog Op Res ε α
  history : List (Event ι Res ε α σ) := []

def anyStep (_ : Pool ι Res ε α σ) (_ : Event ι Res ε α σ) : Prop := True

inductive Reach [DecidableEq ι] (env : σ → σ → Prop) (api : (op : Op) → σ → Res op → σ → Prop)
    (allowed : Pool ι Res ε α σ → Event ι Res ε α σ → Prop) (start : Pool ι Res ε α σ) :
    Pool ι Res ε α σ → Prop
  | start : Reach env api allowed start start
  | env : Reach env api allowed start c → env c.state s →
      Reach env api allowed start { c with state := s, history := .env c.state s :: c.history }
  | call : Reach env api allowed start c → c.procs i = .call op k → api op c.state r s →
      allowed c (.call i op r c.state s (k r)) →
      Reach env api allowed start
        { state := s
          procs := Function.update c.procs i (k r)
          history := .call i op r c.state s (k r) :: c.history }

-- ---------------------------------------------------------------------------
-- Runs by a schedule
-- ---------------------------------------------------------------------------

def Pool.step [DecidableEq ι] (serve : (op : Op) → σ → Res op × σ) (c : Pool ι Res ε α σ) (i : ι) :
    Pool ι Res ε α σ :=
  match c.procs i with
  | .call op k =>
    { state := (serve op c.state).2
      procs := Function.update c.procs i (k (serve op c.state).1)
      history := .call i op (serve op c.state).1 c.state (serve op c.state).2
        (k (serve op c.state).1) :: c.history }
  | _ => c

def Pool.turns [DecidableEq ι] (serve : (op : Op) → σ → Res op × σ) (c : Pool ι Res ε α σ)
    (schedule : List ι) : Pool ι Res ε α σ :=
  schedule.foldl (Pool.step serve) c

section
variable [DecidableEq ι] {env : σ → σ → Prop} {api : (op : Op) → σ → Res op → σ → Prop}
  {serve : (op : Op) → σ → Res op × σ} {start c : Pool ι Res ε α σ}

theorem Reach.step {allowed : Pool ι Res ε α σ → Event ι Res ε α σ → Prop}
    (hserve : ∀ op s, api op s (serve op s).1 (serve op s).2) (i : ι)
    (hallowed : ∀ op k, c.procs i = .call op k → allowed c
      (.call i op (serve op c.state).1 c.state (serve op c.state).2 (k (serve op c.state).1)))
    (h : Reach env api allowed start c) : Reach env api allowed start (c.step serve i) := by
  unfold Pool.step
  split
  · rename_i op k hp
    exact .call h hp (hserve op c.state) (hallowed op k hp)
  · exact h

theorem Reach.turns (hserve : ∀ op s, api op s (serve op s).1 (serve op s).2) (schedule : List ι)
    (h : Reach env api anyStep start c) : Reach env api anyStep start (c.turns serve schedule) := by
  induction schedule generalizing c with
  | nil => exact h
  | cons i schedule ih => exact ih (h.step hserve i fun _ _ _ => trivial)

def Pool.checks (serve : (op : Op) → σ → Res op × σ) (check : Pool ι Res ε α σ → ι → Bool) :
    Pool ι Res ε α σ → List ι → Bool
  | _, [] => true
  | c, i :: schedule => check c i && (c.step serve i).checks serve check schedule

/-- A server that answers as it should, in a run that may go on so, where the check is
passed. -/
theorem Reach.turns_checked {check : Pool ι Res ε α σ → ι → Bool}
    {allowed : Pool ι Res ε α σ → Event ι Res ε α σ → Prop}
    (hcheck : ∀ c i op k, c.procs i = .call op k → check c i = true →
      api op c.state (serve op c.state).1 (serve op c.state).2 ∧ allowed c
        (.call i op (serve op c.state).1 c.state (serve op c.state).2 (k (serve op c.state).1)))
    {schedule : List ι} (hchecks : c.checks serve check schedule = true)
    (h : Reach env api allowed start c) : Reach env api allowed start (c.turns serve schedule) := by
  induction schedule generalizing c with
  | nil => exact h
  | cons i schedule ih =>
    obtain ⟨hturn, hrest⟩ := Bool.and_eq_true_iff.mp hchecks
    refine ih hrest ?_
    unfold Pool.step
    split
    · rename_i op k hp
      obtain ⟨happ, hallowed⟩ := hcheck c i op k hp hturn
      exact .call h hp happ hallowed
    · exact h

def Pool.next (check : (op : Op) → σ → Bool) (c : Pool ι Res ε α σ) (i : ι) : Bool :=
  match c.procs i with
  | .call op _ => check op c.state
  | _ => true

omit [DecidableEq ι] in
theorem Pool.next_call {check : (op : Op) → σ → Bool} (hp : c.procs i = .call op k)
    (h : c.next check i = true) : check op c.state = true := by
  simpa only [Pool.next, hp] using h

end

theorem Reach.trans [DecidableEq ι] {env : σ → σ → Prop} {api : (op : Op) → σ → Res op → σ → Prop}
    {allowed : Pool ι Res ε α σ → Event ι Res ε α σ → Prop} {start c c' : Pool ι Res ε α σ}
    (h : Reach env api allowed start c) (h' : Reach env api allowed c c') :
    Reach env api allowed start c' := by
  induction h' with
  | start => exact h
  | env _ he ih => exact .env ih he
  | call _ hp ha hal ih => exact .call ih hp ha hal

theorem Reach.mono [DecidableEq ι] {env : σ → σ → Prop}
    {api api' : (op : Op) → σ → Res op → σ → Prop}
    {allowed : Pool ι Res ε α σ → Event ι Res ε α σ → Prop} {start c : Pool ι Res ε α σ}
    (hapi : ∀ op s r t, api op s r t → api' op s r t) (h : Reach env api allowed start c) :
    Reach env api' allowed start c := by
  induction h with
  | start => exact .start
  | env _ he ih => exact .env ih he
  | call _ hp ha hal ih => exact .call ih hp (hapi _ _ _ _ ha) hal

/-- From `s` on, whatever `rel` does before each call, every call of the program
is `good`, as long as all of them are calls that it `may` make. -/
def Safe (rel : σ → σ → Prop) (api : (op : Op) → σ → Res op → σ → Prop)
    (may good : (op : Op) → σ → Res op → σ → Prog Op Res ε α → Prop) :
    Prog Op Res ε α → σ → Prop
  | .call op k, s => ∀ s₁ r s₂, rel s s₁ → api op s₁ r s₂ → may op s₁ r s₂ (k r) →
      good op s₁ r s₂ (k r) ∧ Safe rel api may good (k r) s₂
  | _, _ => True

section
variable {rel : σ → σ → Prop} {api : (op : Op) → σ → Res op → σ → Prop}
  {may good : (op : Op) → σ → Res op → σ → Prog Op Res ε α → Prop}

@[simp] theorem safe_ok {a : α} {s : σ} : Safe rel api may good (.ok a) s := trivial

@[simp] theorem safe_error {e : ε} {s : σ} : Safe rel api may good (.error e) s := trivial

@[simp] theorem safe_panic {s : σ} : Safe rel api may good .panic s := trivial

theorem Safe.bind_of_uses {P : Op → Prop} {p : Prog Op Res ε β} {f : β → Prog Op Res ε α}
    (hgood : ∀ op s r t q, P op → q.Uses P → api op s r t → good op s r t (q >>= f))
    (hf : ∀ a s, Safe rel api may good (f a) s) (hp : p.Uses P) (s : σ) :
    Safe rel api may good (p >>= f) s := by
  induction p generalizing s with
  | ok a => exact hf a s
  | error | panic => trivial
  | call op k ih =>
    exact fun s₁ r s₂ _ ha _ => ⟨hgood op s₁ r s₂ (k r) hp.1 (hp.2 r) ha, ih r (hp.2 r) s₂⟩

theorem Safe.of_uses {P : Op → Prop} {p : Prog Op Res ε α}
    (hgood : ∀ op s r t rest, P op → rest.Uses P → api op s r t → good op s r t rest)
    (hp : p.Uses P) (s : σ) : Safe rel api may good p s := by
  induction p generalizing s with
  | ok | error | panic => trivial
  | call op k ih =>
    exact fun s₁ r s₂ _ ha _ => ⟨hgood op s₁ r s₂ (k r) hp.1 (hp.2 r) ha, ih r (hp.2 r) s₂⟩

theorem Safe.bind_of_moves (htrans : ∀ a b c, rel a b → rel b c → rel a c) (hrefl : ∀ s, rel s s)
    {P : Op → Prop} {p : Prog Op Res ε β} {f : β → Prog Op Res ε α}
    (hapi : ∀ op s r t, P op → api op s r t → rel s t)
    (hgood : ∀ op s r t q, P op → q.Uses P → api op s r t → good op s r t (q >>= f))
    (hf : ∀ a t, rel s t → Safe rel api may good (f a) t) (hp : p.Uses P) :
    Safe rel api may good (p >>= f) s := by
  induction p generalizing s with
  | ok a => exact hf a s (hrefl s)
  | error | panic => trivial
  | call op k ih =>
    intro s₁ r s₂ hmove ha _
    refine ⟨hgood op s₁ r s₂ (k r) hp.1 (hp.2 r) ha, ih r ?_ (hp.2 r)⟩
    intro a t ht
    exact hf a t (htrans _ _ _ hmove (htrans _ _ _ (hapi op s₁ r s₂ hp.1 ha) ht))

theorem Safe.settled {inv : σ → Prop} {known : (op : Op) → Option (Res op)}
    (hknown : Known inv rel api known)
    (hgood : ∀ op s r t rest, known op = some r → api op s r t → good op s r t rest)
    {p : Prog Op Res ε α} (hp : p.settle known = some o) (hs : inv s) :
    Safe rel api may good p s := by
  induction p generalizing s with
  | ok | error | panic => trivial
  | call op k ih =>
    intro s₁ r s₂ hmove hanswer _
    cases hop : known op with
    | none => simp [Prog.settle, hop] at hp
    | some a =>
      obtain ⟨rfl, hs₂⟩ := hknown.answer op s₁ r s₂ a (hknown.move s s₁ hs hmove) hanswer hop
      rw [Prog.settle_call hop] at hp
      exact ⟨hgood op s₁ r s₂ (k r) hop hanswer, ih r hp hs₂⟩

theorem Safe.mono {good' : (op : Op) → σ → Res op → σ → Prog Op Res ε α → Prop}
    (himp : ∀ op s r t rest, good op s r t rest → good' op s r t rest) {p : Prog Op Res ε α}
    (h : Safe rel api may good p s) : Safe rel api may good' p s := by
  induction p generalizing s with
  | ok | error | panic => trivial
  | call op k ih =>
    intro s₁ r s₂ hmove hanswer hmay
    obtain ⟨hgood, hrest⟩ := h s₁ r s₂ hmove hanswer hmay
    exact ⟨himp op s₁ r s₂ (k r) hgood, ih r hrest⟩

theorem Safe.and_uses {P : Op → Prop} {p : Prog Op Res ε α} (h : Safe rel api may good p s)
    (hp : p.Uses P) : Safe rel api may (fun op s r t rest => P op ∧ good op s r t rest) p s := by
  induction p generalizing s with
  | ok | error | panic => trivial
  | call op k ih =>
    intro s₁ r s₂ hmove hanswer hmay
    obtain ⟨hgood, hrest⟩ := h s₁ r s₂ hmove hanswer hmay
    exact ⟨⟨hp.1, hgood⟩, ih r hrest (hp.2 r)⟩

theorem Safe.move (htrans : ∀ a b c, rel a b → rel b c → rel a c) {p : Prog Op Res ε α}
    (h : Safe rel api may good p s) (hr : rel s t) : Safe rel api may good p t := by
  cases p with
  | ok | error | panic => trivial
  | call op k => exact fun s₁ r s₂ h₁ h₂ => h s₁ r s₂ (htrans _ _ _ hr h₁) h₂

end

/-- Like `Safe`, up to the first call after which it `stops`. -/
def Guarded (rel : σ → σ → Prop) (api : (op : Op) → σ → Res op → σ → Prop)
    (may good : (op : Op) → σ → Res op → σ → Prog Op Res ε α → Prop)
    (stops : Op → Prog Op Res ε α → Prop) : Prog Op Res ε α → σ → Prop
  | .call op k, s => ∀ s₁ r s₂, rel s s₁ → api op s₁ r s₂ → may op s₁ r s₂ (k r) →
      good op s₁ r s₂ (k r) ∧ (stops op (k r) ∨ Guarded rel api may good stops (k r) s₂)
  | _, _ => True

theorem Guarded.move {rel : σ → σ → Prop} {api : (op : Op) → σ → Res op → σ → Prop}
    {may good : (op : Op) → σ → Res op → σ → Prog Op Res ε α → Prop}
    {stops : Op → Prog Op Res ε α → Prop} (htrans : ∀ a b c, rel a b → rel b c → rel a c)
    {p : Prog Op Res ε α} (h : Guarded rel api may good stops p s) (hr : rel s t) :
    Guarded rel api may good stops p t := by
  cases p with
  | ok | error | panic => trivial
  | call op k => exact fun s₁ r s₂ h₁ h₂ => h s₁ r s₂ (htrans _ _ _ hr h₁) h₂

/-- Every call of the run is good, where what a good call is may depend on who
made it. Each program is safe against `rel`, and every good step moves by `rel`. -/
theorem Reach.good [DecidableEq ι] {env : σ → σ → Prop}
    {api : (op : Op) → σ → Res op → σ → Prop}
    {allowed : Pool ι Res ε α σ → Event ι Res ε α σ → Prop} {start c : Pool ι Res ε α σ}
    {rel : σ → σ → Prop} {may good : ι → (op : Op) → σ → Res op → σ → Prog Op Res ε α → Prop}
    (htrans : ∀ a b c, rel a b → rel b c → rel a c) (hrefl : ∀ s, rel s s)
    (henv : ∀ s t, env s t → rel s t)
    (hapi : ∀ i op s r t rest, api op s r t → good i op s r t rest → rel s t)
    (hmay : ∀ c e, allowed c e → e.All may)
    (hstart : ∀ i, Safe rel api (may i) (good i) (start.procs i) start.state)
    (hhist : start.history = []) (h : Reach env api allowed start c) :
    (∀ i, Safe rel api (may i) (good i) (c.procs i) c.state) ∧
      ∀ e ∈ c.history, e.All good := by
  induction h with
  | start => exact ⟨hstart, by simp [hhist]⟩
  | env _ he ih =>
    exact ⟨fun i => (ih.1 i).move htrans (henv _ _ he), List.forall_mem_cons.mpr ⟨trivial, ih.2⟩⟩
  | @call c i op k r s _ hp ha hal ih =>
    have hi := ih.1 i
    rw [hp] at hi
    obtain ⟨hgood, hsafe⟩ := hi _ _ _ (hrefl _) ha (hmay _ _ hal)
    refine ⟨?_, List.forall_mem_cons.mpr ⟨hgood, ih.2⟩⟩
    intro j
    by_cases hj : j = i
    · subst hj
      simpa using hsafe
    · simpa [hj] using (ih.1 j).move htrans (hapi _ _ _ _ _ _ ha hgood)

/-- An assertion about the whole pool, its history included, that holds at the
start and is kept by the moves of the environment and by good calls. -/
theorem Reach.invariant [DecidableEq ι] {env : σ → σ → Prop}
    {api : (op : Op) → σ → Res op → σ → Prop}
    {allowed : Pool ι Res ε α σ → Event ι Res ε α σ → Prop} {start c : Pool ι Res ε α σ}
    {good : ι → (op : Op) → σ → Res op → σ → Prog Op Res ε α → Prop}
    {inv : Pool ι Res ε α σ → Prop}
    (hgood : ∀ c, Reach env api allowed start c → ∀ e ∈ c.history, e.All good)
    (hstart : inv start)
    (henv : ∀ c s, inv c → env c.state s →
      inv { c with state := s, history := .env c.state s :: c.history })
    (hcall : ∀ c i op k r s, inv c → c.procs i = .call op k → api op c.state r s →
      allowed c (.call i op r c.state s (k r)) → good i op c.state r s (k r) →
      inv { state := s, procs := Function.update c.procs i (k r),
            history := .call i op r c.state s (k r) :: c.history })
    (h : Reach env api allowed start c) : inv c := by
  induction h with
  | start => exact hstart
  | env _ he ih => exact henv _ _ ih he
  | call hc hp ha hal ih =>
    exact hcall _ _ _ _ _ _ ih hp ha hal (hgood _ (hc.call hp ha hal) _ List.mem_cons_self)

theorem Reach.moves [DecidableEq ι] {env rel : σ → σ → Prop}
    {api : (op : Op) → σ → Res op → σ → Prop}
    {allowed : Pool ι Res ε α σ → Event ι Res ε α σ → Prop} {start c : Pool ι Res ε α σ}
    (henv : ∀ s t, env s t → rel s t) (hhist : start.history = [])
    (h : Reach env api allowed start c) :
    ∀ e ∈ c.history, e.All (fun _ _ s _ t _ => rel s t) → e.Moves rel := by
  induction h with
  | start => simp [hhist]
  | env _ he ih => exact List.forall_mem_cons.mpr ⟨fun _ => henv _ _ he, ih⟩
  | call _ _ _ _ ih => exact List.forall_mem_cons.mpr ⟨id, ih⟩

theorem Reach.after_call [DecidableEq ι] {env : σ → σ → Prop}
    {api : (op : Op) → σ → Res op → σ → Prop}
    {allowed : Pool ι Res ε α σ → Event ι Res ε α σ → Prop} {start c : Pool ι Res ε α σ}
    (hhist : start.history = []) (h : Reach env api allowed start c)
    (hlast : c.history = .call i op r s t rest :: earlier) : c.state = t := by
  cases h with
  | start => simp [hhist] at hlast
  | env => cases hlast
  | call =>
    cases hlast
    rfl

/-- A program that has returned what it does not return before an answer was seen
has had such an answer. -/
theorem Reach.awaits [DecidableEq ι] {env : σ → σ → Prop}
    {api : (op : Op) → σ → Res op → σ → Prop}
    {allowed : Pool ι Res ε α σ → Event ι Res ε α σ → Prop} {start c : Pool ι Res ε α σ}
    {seen : (op : Op) → Res op → Prop} {Q : α → Prop} (hstart : (start.procs i).Awaits seen Q)
    (h : Reach env api allowed start c) :
    (c.procs i).Awaits seen Q ∨ ∃ op r s t rest, .call i op r s t rest ∈ c.history ∧ seen op r := by
  induction h with
  | start => exact .inl hstart
  | env _ _ ih =>
    rcases ih with ih | ⟨op, r, s, t, rest, hmem, hseen⟩
    · exact .inl ih
    · exact .inr ⟨op, r, s, t, rest, List.mem_cons_of_mem _ hmem, hseen⟩
  | @call c j op k r s _ hp _ _ ih =>
    rcases ih with ih | ⟨op, r, s, t, rest, hmem, hseen⟩
    · by_cases hj : i = j
      · subst hj
        rw [hp] at ih
        rcases ih r with hseen | hrest
        · exact .inr ⟨op, r, _, _, _, List.mem_cons_self, hseen⟩
        · exact .inl (by simpa using hrest)
      · exact .inl (by simpa [hj] using ih)
    · exact .inr ⟨op, r, s, t, rest, List.mem_cons_of_mem _ hmem, hseen⟩

theorem Reach.returns [DecidableEq ι] {env : σ → σ → Prop}
    {api : (op : Op) → σ → Res op → σ → Prop}
    {allowed : Pool ι Res ε α σ → Event ι Res ε α σ → Prop} {start c : Pool ι Res ε α σ}
    {Q : α → Prop} (hstart : (start.procs i).Returns Q) (h : Reach env api allowed start c) :
    (c.procs i).Returns Q := by
  induction h with
  | start => exact hstart
  | env _ _ ih => exact ih
  | @call c j op k r s _ hp _ _ ih =>
    by_cases hj : i = j
    · subst hj
      rw [hp] at ih
      simpa using ih r
    · simpa [hj] using ih

theorem Reach.uses [DecidableEq ι] {env : σ → σ → Prop}
    {api : (op : Op) → σ → Res op → σ → Prop}
    {allowed : Pool ι Res ε α σ → Event ι Res ε α σ → Prop} {start c : Pool ι Res ε α σ}
    {P : Op → Prop} (hstart : (start.procs i).Uses P) (h : Reach env api allowed start c) :
    (c.procs i).Uses P := by
  induction h with
  | start => exact hstart
  | env _ _ ih => exact ih
  | @call c j op k r s _ hp _ _ ih =>
    by_cases hj : i = j
    · subst hj
      rw [hp] at ih
      simpa using ih.2 r
    · simpa [hj] using ih

theorem Reach.left_by_call [DecidableEq ι] {env : σ → σ → Prop}
    {api : (op : Op) → σ → Res op → σ → Prop}
    {allowed : Pool ι Res ε α σ → Event ι Res ε α σ → Prop} {start c : Pool ι Res ε α σ}
    (h : Reach env api allowed start c) (i : ι) :
    c.procs i = start.procs i ∨ ∃ op r s t, .call i op r s t (c.procs i) ∈ c.history := by
  induction h with
  | start => exact .inl rfl
  | env _ _ ih =>
    exact ih.imp_right fun ⟨op, r, s, t, hmem⟩ => ⟨op, r, s, t, List.mem_cons_of_mem _ hmem⟩
  | @call c j op k r s _ _ _ _ ih =>
    by_cases hj : i = j
    · subst hj
      exact .inr ⟨op, r, c.state, s, by simp⟩
    · simp only [Function.update_of_ne hj]
      exact ih.imp_right fun ⟨op, r, s, t, hmem⟩ => ⟨op, r, s, t, List.mem_cons_of_mem _ hmem⟩

theorem Reach.ended [DecidableEq ι] {env : σ → σ → Prop}
    {api : (op : Op) → σ → Res op → σ → Prop}
    {allowed : Pool ι Res ε α σ → Event ι Res ε α σ → Prop} {start c : Pool ι Res ε α σ}
    (h : Reach env api allowed start c) (hhist : start.history = [])
    (hmem : .call i op r s t rest ∈ c.history) (hend : ∀ op k, rest ≠ .call op k) :
    c.procs i = rest := by
  induction h with
  | start => simp [hhist] at hmem
  | env _ _ ih =>
    rcases List.mem_cons.mp hmem with hhead | hmem
    · cases hhead
    · exact ih hmem
  | @call c j op' k r' s' _ hp _ _ ih =>
    rcases List.mem_cons.mp hmem with hhead | hearlier
    · cases hhead
      exact Function.update_self ..
    · have hrest := ih hearlier
      have hj : i ≠ j := by
        rintro rfl
        exact hend op' k (hrest.symm.trans hp)
      exact (Function.update_of_ne hj ..).trans hrest

-- ---------------------------------------------------------------------------
-- Runs that are as good as one program at a time
-- ---------------------------------------------------------------------------

/-- One call of the program `p`: it changes nothing, or it is the commit of `p`,
which ends there and has done what `p` does when it runs alone from `s`. -/
def Atomic (serve : (op : Op) → σ → Res op × σ) (commits : (op : Op) → Res op → Prop)
    (p : Prog Op Res ε α) (op : Op) (s : σ) (r : Res op) (t : σ) (rest : Prog Op Res ε α) : Prop :=
  ¬ commits op r ∧ t = s ∨ commits op r ∧ ∃ a, rest = .ok a ∧ run serve p s = (.ok a, t)

/-- A history read as a run in which whole programs take turns: at its commit a
program runs alone, from beginning to end, from the state that is there. -/
inductive Serial (env : σ → σ → Prop) (serve : (op : Op) → σ → Res op × σ)
    (commits : (op : Op) → Res op → Prop) (progs : ι → Prog Op Res ε α) (start : σ) :
    List (Event ι Res ε α σ) → σ → Prop
  | start : Serial env serve commits progs start [] start
  | write : Serial env serve commits progs start h s → env s t →
      Serial env serve commits progs start (.env s t :: h) t
  | commit : Serial env serve commits progs start h s → commits op r →
      run serve (progs i) s = (.ok a, t) →
      Serial env serve commits progs start (.call i op r s t (.ok a) :: h) t
  | skip : Serial env serve commits progs start h s → ¬ commits op r →
      Serial env serve commits progs start (.call i op r s s rest :: h) s

theorem Reach.serial [DecidableEq ι] {env : σ → σ → Prop}
    {api : (op : Op) → σ → Res op → σ → Prop}
    {allowed : Pool ι Res ε α σ → Event ι Res ε α σ → Prop} {start c : Pool ι Res ε α σ}
    {rel : σ → σ → Prop} {serve : (op : Op) → σ → Res op × σ} {commits : (op : Op) → Res op → Prop}
    (htrans : ∀ a b c, rel a b → rel b c → rel a c) (hrefl : ∀ s, rel s s)
    (henv : ∀ s t, env s t → rel s t) (hapi : ∀ op s r t, api op s r t → rel s t)
    (hstart : ∀ i, Safe rel api (fun _ _ _ _ _ => True) (Atomic serve commits (start.procs i))
      (start.procs i) start.state)
    (hhist : start.history = []) (h : Reach env api allowed start c) :
    Serial env serve commits start.procs start.state c.history c.state := by
  induction h with
  | start => exact hhist ▸ .start
  | env _ he ih => exact .write ih he
  | @call c i op k r s hc hp ha _ ih =>
    have hsafe := (hc.good htrans hrefl henv (fun _ _ _ _ _ _ h _ => hapi _ _ _ _ h)
      (fun _ e _ => e.all_true) hstart hhist).1 i
    rw [hp] at hsafe
    rcases (hsafe _ _ _ (hrefl _) ha trivial).1 with ⟨hn, rfl⟩ | ⟨hc, a, hrest, hrun⟩
    · exact .skip ih hn
    · rw [hrest]
      exact .commit ih hc hrun

end Calls
