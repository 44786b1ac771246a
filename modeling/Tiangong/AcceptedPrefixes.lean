import Mathlib.Data.List.Infix

/-!
# Accepted prefixes

A reader consumes a list from the front and may refuse an item. What it accepts is a prefix of the
list, the longest one that it reads to its end, and the first item after it is refused.
-/
open List

namespace Tiangong

variable {σ ρ : Type*} (step : σ → ρ → Option σ)

/-- The items that are read before the first refused one. -/
def acceptedPrefix (s : σ) : List ρ → List ρ
  | [] => []
  | r :: rs =>
    match step s r with
    | some s' => r :: acceptedPrefix s' rs
    | none => []

/-- The state of the reader when it stops. -/
def stoppedAt (s : σ) : List ρ → σ
  | [] => s
  | r :: rs =>
    match step s r with
    | some s' => stoppedAt s' rs
    | none => s

/-- The items from the first refused one on. -/
def refusedRest (s : σ) : List ρ → List ρ
  | [] => []
  | r :: rs =>
    match step s r with
    | some s' => refusedRest s' rs
    | none => r :: rs

/-- The longest prefix that the reader reads to its end. -/
structure IsLongestAccepted (s : σ) (p rows : List ρ) : Prop where
  isPrefix : p <+: rows
  accepted : (p.foldlM step s).isSome = true
  longest : ∀ q, q <+: rows → (q.foldlM step s).isSome = true → q.length ≤ p.length

variable {step}

theorem acceptedPrefix_append (s : σ) (rows : List ρ) :
    acceptedPrefix step s rows ++ refusedRest step s rows = rows := by
  induction rows generalizing s with
  | nil => rfl
  | cons r rs ih =>
    unfold acceptedPrefix refusedRest
    cases h : step s r with
    | none => rfl
    | some s' =>
      show r :: (acceptedPrefix step s' rs ++ refusedRest step s' rs) = r :: rs
      rw [ih s']

lemma acceptedPrefix_isPrefix (s : σ) (rows : List ρ) : acceptedPrefix step s rows <+: rows :=
  ⟨refusedRest step s rows, acceptedPrefix_append s rows⟩

theorem foldlM_acceptedPrefix (s : σ) (rows : List ρ) :
    (acceptedPrefix step s rows).foldlM step s = some (stoppedAt step s rows) := by
  induction rows generalizing s with
  | nil => rfl
  | cons r rs ih =>
    unfold acceptedPrefix stoppedAt
    cases h : step s r with
    | none => rfl
    | some s' =>
      show ((step s r).bind fun t => (acceptedPrefix step s' rs).foldlM step t) = _
      rw [h]
      exact ih s'

lemma prefix_acceptedPrefix {s : σ} {rows q : List ρ} (hq : q <+: rows)
    (haccepted : (q.foldlM step s).isSome = true) : q <+: acceptedPrefix step s rows := by
  induction q generalizing s rows with
  | nil => exact nil_prefix
  | cons r q ih =>
    obtain ⟨rest, rfl⟩ := hq
    rw [cons_append, acceptedPrefix]
    cases hstep : step s r with
    | none =>
      rw [foldlM_cons, hstep] at haccepted
      cases haccepted
    | some s' =>
      rw [foldlM_cons, hstep] at haccepted
      exact prefix_cons_inj r |>.mpr (ih (prefix_append q rest) haccepted)

theorem acceptedPrefix_isLongest (s : σ) (rows : List ρ) :
    IsLongestAccepted step s (acceptedPrefix step s rows) rows where
  isPrefix := acceptedPrefix_isPrefix s rows
  accepted := by rw [foldlM_acceptedPrefix, Option.isSome_some]
  longest _ hq haccepted := (prefix_acceptedPrefix hq haccepted).length_le

/-- A list is read to its end exactly when nothing of it is refused. -/
theorem refusedRest_eq_nil_iff {s : σ} {rows : List ρ} :
    refusedRest step s rows = [] ↔ (rows.foldlM step s).isSome = true := by
  constructor
  · intro h
    have happend : acceptedPrefix step s rows ++ refusedRest step s rows = rows :=
      acceptedPrefix_append s rows
    rw [h, append_nil] at happend
    rw [← happend, foldlM_acceptedPrefix, Option.isSome_some]
  · intro h
    have hall := prefix_acceptedPrefix (prefix_refl rows) h
    have hlength := hall.length_le
    have happend : (acceptedPrefix step s rows ++ refusedRest step s rows).length = rows.length :=
      congrArg List.length (acceptedPrefix_append s rows)
    rw [length_append] at happend
    exact eq_nil_of_length_eq_zero (by omega)

end Tiangong
