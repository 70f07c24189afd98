import HarvesterCSI.Calls.Prog
import Mathlib.Data.List.Chain

/-!
# Calls one after another

A client that repeats a call, or makes several in turn, runs one program after
another on the same state. `Along` asks something of every step of such a series. A
`Machine` is a small state that stands for the large one, and says which steps go well:
a series goes well exactly when the machine accepts it. Where the small state also
tells the answers, the large system refines it.
-/

namespace Calls

variable {ι κ ρ σ τ : Type}

/-- `good` of every step, with what it answers and the state it leads to. -/
def Along (step : ι → σ → ρ × σ) (good : ι → ρ → σ → Prop) : List ι → σ → Prop
  | [], _ => True
  | i :: rest, s => good i (step i s).1 (step i s).2 ∧ Along step good rest (step i s).2

structure Machine (ι τ : Type) where
  allows : ι → τ → Prop
  next : ι → τ → τ

def Machine.Accepts (m : Machine ι τ) : List ι → τ → Prop
  | [], _ => True
  | i :: rest, a => m.allows i a ∧ m.Accepts rest (m.next i a)

/-- The machine has to follow the state only as long as the steps go well. -/
theorem along_iff_accepts (m : Machine ι τ) {step : ι → σ → ρ × σ} {good : ι → ρ → σ → Prop}
    {fits : ι → Prop} {follows : σ → τ → Prop}
    (hgood : ∀ i s a, fits i → follows s a → (good i (step i s).1 (step i s).2 ↔ m.allows i a))
    (hnext : ∀ i s a, fits i → follows s a → m.allows i a → follows (step i s).2 (m.next i a))
    {steps : List ι} (hfits : ∀ i ∈ steps, fits i) {s : σ} {a : τ} (h : follows s a) :
    Along step good steps s ↔ m.Accepts steps a := by
  induction steps generalizing s a with
  | nil => exact Iff.rfl
  | cons i rest ih =>
    obtain ⟨hi, hrest⟩ := List.forall_mem_cons.mp hfits
    refine (and_congr_left' (hgood i s a hi h)).trans (and_congr_right fun hallows => ?_)
    exact ih hrest (hnext i s a hi h hallows)

-- ---------------------------------------------------------------------------
-- Two levels
-- ---------------------------------------------------------------------------

def trace (step : ι → σ → ρ × σ) : List ι → σ → List ρ × σ
  | [], s => ([], s)
  | i :: rest, s =>
    ((step i s).1 :: (trace step rest (step i s).2).1, (trace step rest (step i s).2).2)

theorem trace_append (step : ι → σ → ρ × σ) (first second : List ι) (s : σ) :
    trace step (first ++ second) s =
      ((trace step first s).1 ++ (trace step second (trace step first s).2).1,
        (trace step second (trace step first s).2).2) := by
  induction first generalizing s with
  | nil => rfl
  | cons i rest ih => simp only [List.cons_append, trace, ih]

theorem trace_replicate {step : ι → σ → ρ × σ} (h : step i s = (r, s)) (n : Nat) :
    trace step (List.replicate n i) s = (List.replicate n r, s) := by
  induction n with
  | zero => rfl
  | succ n ih => simp only [List.replicate_succ, trace, h, ih]

/-- Each step is a step of `spec`: it answers the same, as far as an answer shows, and
leads to a state that goes with the one it leads to there. -/
structure Refines (step : ι → σ → ρ × σ) (spec : ι → τ → κ × τ) (fits : ι → Prop) (shows : ρ → κ)
    (follows : σ → τ → Prop) : Prop where
  answer : ∀ i s a, fits i → follows s a → shows (step i s).1 = (spec i a).1
  next : ∀ i s a, fits i → follows s a → follows (step i s).2 (spec i a).2

theorem Refines.trace {step : ι → σ → ρ × σ} {spec : ι → τ → κ × τ} {fits : ι → Prop}
    {shows : ρ → κ} {follows : σ → τ → Prop} (hrefines : Refines step spec fits shows follows)
    {inputs : List ι} (hfits : ∀ i ∈ inputs, fits i) (h : follows s a) :
    (Calls.trace step inputs s).1.map shows = (Calls.trace spec inputs a).1 ∧
      follows (Calls.trace step inputs s).2 (Calls.trace spec inputs a).2 := by
  induction inputs generalizing s a with
  | nil => exact ⟨rfl, h⟩
  | cons i rest ih =>
    obtain ⟨hi, hrest⟩ := List.forall_mem_cons.mp hfits
    obtain ⟨hanswers, hlast⟩ := ih hrest (hrefines.next i s a hi h)
    refine ⟨?_, hlast⟩
    simp only [Calls.trace, List.map_cons, hrefines.answer i s a hi h, hanswers]

-- ---------------------------------------------------------------------------
-- The same call again and again
-- ---------------------------------------------------------------------------

section
variable {Op : Type} {Res : Op → Type} {ε α : Type}

/-- `n` runs of a program among others, all of which return. -/
inductive Repeats (rel : σ → σ → Prop) (api : (op : Op) → σ → Res op → σ → Prop)
    (p : Prog Op Res ε α) : Nat → σ → σ → Prop
  | zero : Repeats rel api p 0 s s
  | succ : Repeats rel api p n s u → Runs rel api p u (.ok a) t → Repeats rel api p (n + 1) s t

-- ---------------------------------------------------------------------------
-- A record of the calls
-- ---------------------------------------------------------------------------

structure Exchange (Op : Type) (Res : Op → Type) where
  op : Op
  res : Res op

/-- A server that keeps a record, the newest call first. -/
def recorded (serve : (op : Op) → σ → Res op × σ) (op : Op) (s : σ × List (Exchange Op Res)) :
    Res op × (σ × List (Exchange Op Res)) :=
  ((serve op s.1).1, (serve op s.1).2, ⟨op, (serve op s.1).1⟩ :: s.2)

variable {serve serve' : (op : Op) → σ → Res op × σ} {P : Op → Prop}

theorem run_recorded (serve : (op : Op) → σ → Res op × σ) {p : Prog Op Res ε α} (hp : p.Uses P)
    (s : σ) (log : List (Exchange Op Res)) :
    ∃ calls, (∀ e ∈ calls, P e.op) ∧
      run (recorded serve) p (s, log) = ((run serve p s).1, (run serve p s).2, calls ++ log) := by
  induction p generalizing s log with
  | ok | error | panic => exact ⟨[], by simp, rfl⟩
  | call op k ih =>
    obtain ⟨calls, hcalls, hrun⟩ :=
      ih (serve op s).1 (hp.2 _) (serve op s).2 (⟨op, (serve op s).1⟩ :: log)
    refine ⟨calls ++ [⟨op, (serve op s).1⟩], ?_, ?_⟩
    · intro e he
      rcases List.mem_append.mp he with he | he
      · exact hcalls e he
      · rw [List.mem_singleton.mp he]
        exact hp.1
    · rw [List.append_assoc]
      exact hrun

theorem run_congr {p : Prog Op Res ε α} (hp : p.Uses P)
    (h : ∀ op s, P op → serve op s = serve' op s) (s : σ) : run serve p s = run serve' p s := by
  induction p generalizing s with
  | ok | error | panic => rfl
  | call op k ih =>
    rw [run_call, run_call, h op s hp.1]
    exact ih _ (hp.2 _) _

end

end Calls
