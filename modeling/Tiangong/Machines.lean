import Mathlib.Data.List.Basic

/-!
# Machines and their runs

A machine answers every input and moves to a new state, whatever the state and the input are.
A run is the fold of its inputs; what one step keeps, a run keeps.
-/
open List

namespace Tiangong

/-- A deterministic machine with inputs `ι` and answers `ο`. -/
structure Machine (σ ι ο : Type*) where
  step : σ → ι → σ × ο

/-- The new state and the answer of a transaction; a refused one rolls back. -/
def committed {ε α ο σ : Type*} (old : σ) (f : α → ο) (r : Except ε (α × σ)) : σ × Except ε ο :=
  match r with
  | .ok (a, new) => (new, .ok (f a))
  | .error e => (old, .error e)

theorem committed_fst {ε α ο σ : Type*} {P : σ → Prop} {old : σ} {f : α → ο}
    {r : Except ε (α × σ)} (hold : P old) (hcommit : ∀ a new, r = .ok (a, new) → P new) :
    P (committed old f r).1 := by
  cases r with
  | error e => exact hold
  | ok pair => exact hcommit pair.1 pair.2 rfl

theorem committed_answer {ε α ο σ : Type*} {old : σ} {f : α → ο} {r : Except ε (α × σ)} {o : ο}
    (h : (committed old f r).2 = .ok o) : ∃ a new, r = .ok (a, new) ∧ f a = o := by
  cases r with
  | error e => cases h
  | ok pair => exact ⟨pair.1, pair.2, rfl, Except.ok.inj h⟩

/-- A refused transaction rolls back. -/
theorem committed_error {ε α ο σ : Type*} {old : σ} {f : α → ο} {r : Except ε (α × σ)} {e : ε}
    (h : (committed old f r).2 = .error e) : (committed old f r).1 = old := by
  cases r with
  | error e' => rfl
  | ok pair => cases h

namespace Machine

variable {σ ι ο : Type*} (m : Machine σ ι ο)

/-- The state after a list of inputs. -/
def exec (s : σ) : List ι → σ
  | [] => s
  | i :: is => exec (m.step s i).1 is

/-- One entry per step: the state before it, the input and the answer. -/
def trace (s : σ) : List ι → List (σ × ι × ο)
  | [] => []
  | i :: is => (s, i, (m.step s i).2) :: trace (m.step s i).1 is

@[simp] theorem exec_nil (s : σ) : m.exec s [] = s := rfl

@[simp] theorem exec_cons (s : σ) (i : ι) (is : List ι) :
    m.exec s (i :: is) = m.exec (m.step s i).1 is := rfl

theorem exec_append (s : σ) (is js : List ι) : m.exec s (is ++ js) = m.exec (m.exec s is) js := by
  induction is generalizing s with
  | nil => rfl
  | cons i is ih => exact ih _

theorem exec_concat (s : σ) (is : List ι) (i : ι) :
    m.exec s (is ++ [i]) = (m.step (m.exec s is) i).1 := by
  rw [exec_append]; rfl

theorem trace_append (s : σ) (is js : List ι) :
    m.trace s (is ++ js) = m.trace s is ++ m.trace (m.exec s is) js := by
  induction is generalizing s with
  | nil => rfl
  | cons i is ih => simp [trace, ih]

variable {s : σ} {is : List ι}

theorem mem_trace {entry : σ × ι × ο} : entry ∈ m.trace s is ↔ ∃ pre i post, is = pre ++ i :: post ∧
      entry = (m.exec s pre, i, (m.step (m.exec s pre) i).2) := by
  induction is generalizing s with
  | nil => simp [trace]
  | cons i is ih =>
    rw [trace, mem_cons, ih]
    constructor
    · rintro (rfl | ⟨pre, j, post, rfl, rfl⟩)
      · exact ⟨[], i, is, rfl, rfl⟩
      · exact ⟨i :: pre, j, post, rfl, rfl⟩
    · rintro ⟨pre, j, post, heq, rfl⟩
      cases pre with
      | nil =>
        obtain ⟨rfl, rfl⟩ := List.cons.inj heq
        exact .inl rfl
      | cons first pre =>
        obtain ⟨rfl, rfl⟩ := List.cons.inj heq
        exact .inr ⟨pre, j, post, rfl, rfl⟩

/-- `P` holds of the state and the input at every step of a run. -/
def Steps (P : σ → ι → Prop) (s : σ) : List ι → Prop
  | [] => True
  | i :: is => P s i ∧ Steps P (m.step s i).1 is

@[simp] theorem steps_nil (P : σ → ι → Prop) (s : σ) : m.Steps P s [] := trivial

@[simp] theorem steps_cons (P : σ → ι → Prop) (s : σ) (i : ι) (is : List ι) :
    m.Steps P s (i :: is) ↔ P s i ∧ m.Steps P (m.step s i).1 is := Iff.rfl

theorem steps_append (P : σ → ι → Prop) (s : σ) (is js : List ι) :
    m.Steps P s (is ++ js) ↔ m.Steps P s is ∧ m.Steps P (m.exec s is) js := by
  induction is generalizing s with
  | nil => simp
  | cons i is ih => simp [ih, and_assoc]

theorem steps_of_forall {P : σ → ι → Prop} (h : ∀ i ∈ is, ∀ s, P s i) : m.Steps P s is := by
  induction is generalizing s with
  | nil => trivial
  | cons i is ih =>
    exact ⟨h i mem_cons_self s, ih fun j hj => h j (mem_cons_of_mem _ hj)⟩

/-- A run meets `P` exactly when each of its inputs does in the state it finds. -/
theorem steps_iff_split {P : σ → ι → Prop} :
    m.Steps P s is ↔ ∀ pre i post, is = pre ++ i :: post → P (m.exec s pre) i := by
  constructor
  · rintro h pre i post rfl
    exact ((m.steps_append P s pre _).mp h).2.1
  · intro h
    induction is generalizing s with
    | nil => trivial
    | cons i is ih =>
      refine ⟨h [] i is rfl, ih ?_⟩
      rintro pre j post rfl
      exact h (i :: pre) j post rfl

/-- Some step of a run meets `P`. -/
def Met (P : σ → ι → Prop) (s : σ) (is : List ι) : Prop :=
  ∃ pre i post, is = pre ++ i :: post ∧ P (m.exec s pre) i

theorem not_met_nil (P : σ → ι → Prop) (s : σ) : ¬ m.Met P s [] := by
  rintro ⟨pre, i, post, heq, -⟩
  have hlength := congrArg List.length heq
  rw [length_append, length_cons, length_nil] at hlength
  omega

/-- A step of a longer run is one of the run or its last one. -/
theorem met_concat {P : σ → ι → Prop} {i : ι} :
    m.Met P s (is ++ [i]) ↔ m.Met P s is ∨ P (m.exec s is) i := by
  constructor
  · rintro ⟨pre, j, post, heq, hj⟩
    rcases eq_nil_or_concat post with rfl | ⟨post', k, rfl⟩
    · obtain ⟨rfl, hlast⟩ := append_inj' heq rfl
      rw [singleton_inj.mp hlast]
      exact .inr hj
    · rw [concat_eq_append, ← cons_append, ← append_assoc] at heq
      obtain ⟨rfl, -⟩ := append_inj' heq rfl
      exact .inl ⟨pre, j, post', rfl, hj⟩
  · rintro (⟨pre, j, post, rfl, hj⟩ | hlast)
    · exact ⟨pre, j, post ++ [i], by simp, hj⟩
    · exact ⟨is, i, [], rfl, hlast⟩

variable {m}

/-- An invariant kept by the steps that meet `P` holds after every run that meets `P`. -/
theorem exec_preserves_of_steps {P : σ → ι → Prop} (Inv : σ → Prop)
    (hstep : ∀ s i, Inv s → P s i → Inv (m.step s i).1) (hs : Inv s)
    (h : m.Steps P s is) : Inv (m.exec s is) := by
  induction is generalizing s with
  | nil => exact hs
  | cons i is ih => exact ih (hstep s i hs h.1) h.2

/-- An invariant kept by every step holds after every run. -/
theorem exec_preserves (Inv : σ → Prop) (hstep : ∀ s i, Inv s → Inv (m.step s i).1)
    (hs : Inv s) (is : List ι) : Inv (m.exec s is) := by
  induction is generalizing s with
  | nil => exact hs
  | cons i is ih => exact ih (hstep s i hs)

/-- What one step says about the state before, the input and the answer, every entry of the
trace says. -/
theorem trace_forall {Inv : σ → Prop} {Q : σ × ι × ο → Prop}
    (hstep : ∀ s i, Inv s → Inv (m.step s i).1)
    (hentry : ∀ s i, Inv s → Q (s, i, (m.step s i).2)) (hs : Inv s) (is : List ι) :
    ∀ entry ∈ m.trace s is, Q entry := by
  induction is generalizing s with
  | nil => simp [trace]
  | cons i is ih =>
    intro entry h
    rcases mem_cons.mp h with rfl | h
    · exact hentry s i hs
    · exact ih (hstep s i hs) entry h

section OneShot

variable {P : σ → ι → Prop} {Inv Spent : σ → Prop} {fires : σ × ι × ο → Bool}

/-- In a run that meets `P`, nothing fires again from a spent state. -/
theorem countP_trace_of_spent_of_steps (hkeep : ∀ s i, Inv s → P s i → Inv (m.step s i).1)
    (hspent : ∀ s i, Inv s → P s i → Spent s → Spent (m.step s i).1)
    (hquiet : ∀ s i, Inv s → P s i → Spent s → fires (s, i, (m.step s i).2) = false)
    {s : σ} (hs : Inv s) (h : Spent s) {is : List ι} (hP : m.Steps P s is) :
    (m.trace s is).countP fires = 0 := by
  induction is generalizing s with
  | nil => rfl
  | cons i is ih =>
    rw [trace, countP_cons_of_neg (by simp [hquiet s i hs hP.1 h])]
    exact ih (hkeep s i hs hP.1) (hspent s i hs hP.1 h) hP.2

/-- In a run that meets `P`, a step that leaves a spent state behind fires at most once. -/
theorem countP_trace_le_one_of_steps (hkeep : ∀ s i, Inv s → P s i → Inv (m.step s i).1)
    (hfire : ∀ s i, Inv s → P s i → fires (s, i, (m.step s i).2) = true → Spent (m.step s i).1)
    (hspent : ∀ s i, Inv s → P s i → Spent s → Spent (m.step s i).1)
    (hquiet : ∀ s i, Inv s → P s i → Spent s → fires (s, i, (m.step s i).2) = false)
    {s : σ} (hs : Inv s) {is : List ι} (hP : m.Steps P s is) :
    (m.trace s is).countP fires ≤ 1 := by
  induction is generalizing s with
  | nil => simp [trace]
  | cons i is ih =>
    cases hf : fires (s, i, (m.step s i).2) with
    | false =>
      rw [trace, countP_cons_of_neg (by simp [hf])]
      exact ih (hkeep s i hs hP.1) hP.2
    | true =>
      have rest := countP_trace_of_spent_of_steps hkeep hspent hquiet (hkeep s i hs hP.1)
        (hfire s i hs hP.1 hf) hP.2
      simp [trace, countP_cons_of_pos hf, rest]

/-- From a spent state nothing fires again. -/
theorem countP_trace_of_spent (hkeep : ∀ s i, Inv s → Inv (m.step s i).1)
    (hspent : ∀ s i, Inv s → Spent s → Spent (m.step s i).1)
    (hquiet : ∀ s i, Inv s → Spent s → fires (s, i, (m.step s i).2) = false)
    {s : σ} (hs : Inv s) (h : Spent s) (is : List ι) : (m.trace s is).countP fires = 0 :=
  countP_trace_of_spent_of_steps (P := fun _ _ => True) (fun s i hs _ => hkeep s i hs)
    (fun s i hs _ => hspent s i hs) (fun s i hs _ => hquiet s i hs) hs h
    (m.steps_of_forall fun _ _ _ => trivial)

/-- A step that leaves a spent state behind fires at most once in a run. -/
theorem countP_trace_le_one (hkeep : ∀ s i, Inv s → Inv (m.step s i).1)
    (hfire : ∀ s i, Inv s → fires (s, i, (m.step s i).2) = true → Spent (m.step s i).1)
    (hspent : ∀ s i, Inv s → Spent s → Spent (m.step s i).1)
    (hquiet : ∀ s i, Inv s → Spent s → fires (s, i, (m.step s i).2) = false)
    {s : σ} (hs : Inv s) (is : List ι) : (m.trace s is).countP fires ≤ 1 :=
  countP_trace_le_one_of_steps (P := fun _ _ => True) (fun s i hs _ => hkeep s i hs)
    (fun s i hs _ => hfire s i hs) (fun s i hs _ => hspent s i hs)
    (fun s i hs _ => hquiet s i hs) hs (m.steps_of_forall fun _ _ _ => trivial)

end OneShot

end Machine

end Tiangong
