import Mathlib.Data.List.Chain
import Mathlib.Data.List.Induction

/-!
# Chains of partial maps

A chain of maps of which neighbours agree with a transitive relation on the keys that both carry.
A key that is left out and comes back is not compared with what it was before; apart from this the
relation holds between any two maps of the chain.
-/
open List

namespace Tiangong

section KeyedChains

variable {α κ β : Type*} (carried : α → κ → Option β) (R : β → β → Prop)

/-- On the keys that both carry the second is related to the first. -/
def CommonKeys (x y : α) : Prop :=
  ∀ k a b, carried x k = some a → carried y k = some b → R b a

def lastCarried (k : κ) (xs : List α) : Option β :=
  xs.foldl (fun found x => (carried x k).or found) none

/-- A key that the last map of a chain does not carry comes back as it was or further on. -/
def ReturnsInOrder (xs : List α) (y : α) : Prop :=
  ∀ k a b, carried y k = some b → (xs.getLast?.bind fun x => carried x k) = none →
    lastCarried carried k xs = some a → R b a

variable {carried R}

lemma lastCarried_concat (k : κ) (xs : List α) (x : α) :
    lastCarried carried k (xs ++ [x]) = (carried x k).or (lastCarried carried k xs) := by
  rw [lastCarried, foldl_append]
  rfl

lemma exists_of_lastCarried {k : κ} {xs : List α} {a : β}
    (h : lastCarried carried k xs = some a) : ∃ x ∈ xs, carried x k = some a := by
  induction xs using List.reverseRecOn with
  | nil => cases h
  | append_singleton xs x ih =>
    rw [lastCarried_concat] at h
    cases hx : carried x k with
    | some b =>
      rw [hx, Option.some_or, Option.some.injEq] at h
      subst h
      exact ⟨x, by simp, hx⟩
    | none =>
      rw [hx, Option.none_or] at h
      obtain ⟨x', hmem, hx'⟩ := ih h
      exact ⟨x', by simp [hmem], hx'⟩

variable (hrefl : ∀ a, R a a) (htrans : ∀ a b c, R c b → R b a → R c a)

include hrefl in
lemma lastCarried_of_pairwise {xs : List α} (h : xs.Pairwise (CommonKeys carried R)) {k : κ}
    {x : α} (hmem : x ∈ xs) {a : β} (hx : carried x k = some a) :
    ∃ b, lastCarried carried k xs = some b ∧ R b a := by
  induction xs using List.reverseRecOn with
  | nil => cases hmem
  | append_singleton xs y ih =>
    rw [pairwise_append] at h
    obtain ⟨hxs, -, hlast⟩ := h
    rw [lastCarried_concat]
    rcases mem_append.mp hmem with hold | hnew
    · cases hy : carried y k with
      | some b => exact ⟨b, rfl, hlast x hold y mem_cons_self k a b hx hy⟩
      | none => exact ih hxs hold
    · rw [mem_singleton] at hnew
      subst hnew
      exact ⟨a, by rw [hx]; rfl, hrefl a⟩

include hrefl htrans in
/-- A chain with one more map: the map is related to all before it exactly when the keys that come
back do so in order. -/
lemma commonKeys_concat {xs : List α} (h : xs.Pairwise (CommonKeys carried R)) {y : α}
    (hnext : ∀ x ∈ xs.getLast?, CommonKeys carried R x y) :
    (∀ x ∈ xs, CommonKeys carried R x y) ↔ ReturnsInOrder carried R xs y := by
  constructor
  · intro hall k a b hy _ hlast
    obtain ⟨x, hmem, hx⟩ := exists_of_lastCarried hlast
    exact hall x hmem k a b hx hy
  · intro hreturns x hmem k a b hx hy
    obtain ⟨c, hlast, hca⟩ := lastCarried_of_pairwise hrefl h hmem hx
    refine htrans a c b ?_ hca
    cases hcarried : xs.getLast?.bind fun x => carried x k with
    | none => exact hreturns k c b hy hcarried hlast
    | some d =>
      obtain ⟨last, hget, hd⟩ := Option.bind_eq_some_iff.mp hcarried
      have hdc : d = c := by
        obtain ⟨front, rfl⟩ := List.getLast?_eq_some_iff.mp hget
        rw [lastCarried_concat, hd, Option.some_or, Option.some.injEq] at hlast
        exact hlast
      subst hdc
      exact hnext last hget k d b hd hy

include hrefl htrans in
/-- Any two maps of a chain are related exactly when all keys that come back do so in order. -/
theorem pairwise_commonKeys_iff {xs : List α} (h : xs.IsChain (CommonKeys carried R)) :
    xs.Pairwise (CommonKeys carried R) ↔
      ∀ pre y post, xs = pre ++ y :: post → ReturnsInOrder carried R pre y := by
  constructor
  · rintro hall pre y post rfl
    obtain ⟨hpre, -, hcross⟩ := pairwise_append.mp hall
    exact (commonKeys_concat hrefl htrans hpre fun x hx =>
      hcross x (mem_of_getLast? hx) y mem_cons_self).mp fun x hx =>
        hcross x hx y mem_cons_self
  · intro hreturns
    induction xs using List.reverseRecOn with
    | nil => exact .nil
    | append_singleton xs y ih =>
      obtain ⟨hxs, -, hnext⟩ := isChain_append.mp h
      have hpairs := ih hxs fun pre z post heq => hreturns pre z (post ++ [y]) (by simp [heq])
      have hlast : ∀ x ∈ xs.getLast?, CommonKeys carried R x y := fun x hx =>
        hnext x hx y (by simp)
      have hall := (commonKeys_concat hrefl htrans hpairs hlast).mpr (hreturns xs y [] rfl)
      refine pairwise_append.mpr ⟨hpairs, pairwise_singleton _ _, ?_⟩
      intro x hx z hz
      rw [mem_singleton] at hz
      subst hz
      exact hall x hx

end KeyedChains

section Carries

variable {α : Type*} {R : α → α → Prop} {P : ℕ → α → Prop} {xs : List α}

/-- What every step between two positions of a chain hands on, the later position has. -/
theorem carries_of_isChain (h : xs.IsChain R) {i j : ℕ} (hij : i ≤ j)
    (hstart : ∀ x, xs[i]? = some x → P i x)
    (hstep : ∀ n x y, i ≤ n → n < j → xs[n]? = some x → xs[n + 1]? = some y → R x y → P n x →
      P (n + 1) y) :
    ∀ y, xs[j]? = some y → P j y := by
  induction j, hij using Nat.le_induction with
  | base => exact hstart
  | succ n hn ih =>
    intro y hy
    obtain ⟨hlt, rfl⟩ := List.getElem?_eq_some_iff.mp hy
    have hx : xs[n]? = some xs[n] := List.getElem?_eq_getElem (by omega)
    refine hstep n xs[n] xs[n + 1] hn (by omega) hx hy (isChain_iff_getElem.mp h n hlt) ?_
    exact ih (fun m x y him hmn => hstep m x y him (by omega)) xs[n] hx

end Carries

end Tiangong
