import Mathlib.Data.List.Basic

/-!
# Logs whose entries follow on each other

An entry of a log takes up a value and leaves another. A log is linked when every entry takes up
what its predecessor left, and the first one what the log started with.
-/
open List

namespace Tiangong

variable {α β : Type*} (source target : α → β)

/-- Every entry of the log takes up what the one before it left. -/
def Linked (start : β) : List α → Prop
  | [] => True
  | a :: as => source a = start ∧ Linked (target a) as

/-- What the last entry of a log left. -/
def logEnd (start : β) (log : List α) : β := (log.getLast?.map target).getD start

variable {source target} {start : β} {log log' : List α} {a : α}

@[simp] theorem linked_nil : Linked source target start [] := trivial

@[simp] theorem linked_cons : Linked source target start (a :: log) ↔
      source a = start ∧ Linked source target (target a) log := Iff.rfl

@[simp] theorem logEnd_nil : logEnd target start [] = start := rfl

@[simp] theorem logEnd_concat : logEnd target start (log ++ [a]) = target a := by
  simp [logEnd]

theorem logEnd_cons : logEnd target start (a :: log) = logEnd target (target a) log := by
  rcases eq_nil_or_concat log with rfl | ⟨log, b, rfl⟩
  · rfl
  · rw [concat_eq_append, ← cons_append, logEnd_concat, logEnd_concat]

/-- A log is linked when its front is, and its back takes up where the front ends. -/
lemma linked_append : Linked source target start (log ++ log') ↔
      Linked source target start log ∧ Linked source target (logEnd target start log) log' := by
  induction log generalizing start with
  | nil => simp
  | cons a log ih => rw [cons_append, linked_cons, linked_cons, ih, logEnd_cons, and_assoc]

theorem linked_concat : Linked source target start (log ++ [a]) ↔
      Linked source target start log ∧ source a = logEnd target start log := by
  rw [linked_append, linked_cons]
  simp

/-- Linked logs depend on the two ends of their entries only. -/
theorem linked_map {γ : Type*} {source' target' : γ → β} {f : α → γ}
    (hsource : ∀ a ∈ log, source' (f a) = source a)
    (htarget : ∀ a ∈ log, target' (f a) = target a) :
    Linked source' target' start (log.map f) ↔ Linked source target start log := by
  induction log generalizing start with
  | nil => exact Iff.rfl
  | cons a log ih =>
    rw [map_cons, linked_cons, linked_cons, hsource a mem_cons_self,
      htarget a mem_cons_self]
    rw [ih (fun b hb => hsource b (mem_cons_of_mem _ hb))
      fun b hb => htarget b (mem_cons_of_mem _ hb)]

end Tiangong
