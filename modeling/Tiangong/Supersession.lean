import Mathlib.Data.List.Perm.Basic
import Mathlib.Data.Nat.Basic

/-!
# Supersession by time

Of timed entries the newest ones count. A question is settled by them when they agree; entries from
after the time at which the question is asked are not read.
-/
open List

namespace Tiangong

namespace Supersession

variable {ρ ν : Type*} (time : ρ → ℕ) (verdict : ρ → ν) {rs new : List ρ} {r r' : ρ} {t : ℕ} {v : ν}

/-- The entries up to a time. -/
def asOf (t : ℕ) (rs : List ρ) : List ρ := rs.filter fun r => time r ≤ t

/-- The entries at the last time of any. -/
def latest (rs : List ρ) : List ρ := rs.filter fun r => rs.all fun r' => time r' ≤ time r

/-- There are latest entries, and they all carry the verdict. -/
def Settles (rs : List ρ) (v : ν) : Prop :=
  latest time rs ≠ [] ∧ ∀ r ∈ latest time rs, verdict r = v

/-- There are latest entries with different verdicts. -/
def Contradicts (rs : List ρ) : Prop :=
  ∃ r ∈ latest time rs, ∃ r' ∈ latest time rs, verdict r ≠ verdict r'

theorem mem_asOf : r ∈ asOf time t rs ↔ r ∈ rs ∧ time r ≤ t := by
  simp [asOf]

/-- Entries from after the time change nothing. -/
theorem asOf_append_later (h : ∀ r ∈ new, t < time r) : asOf time t (rs ++ new) = asOf time t rs := by
  have hnone : asOf time t new = [] := by
    apply filter_eq_nil_iff.mpr
    intro r hr
    have hlater := h r hr
    simp only [decide_eq_true_eq]
    omega
  rw [asOf, filter_append]
  exact (congrArg _ hnone).trans (append_nil _)

theorem mem_latest : r ∈ latest time rs ↔ r ∈ rs ∧ ∀ r' ∈ rs, time r' ≤ time r := by
  simp [latest]

lemma time_eq_of_latest (hr : r ∈ latest time rs) (hr' : r' ∈ latest time rs) :
    time r = time r' := by
  obtain ⟨hmem, hmost⟩ := (mem_latest time).mp hr
  obtain ⟨hmem', hmost'⟩ := (mem_latest time).mp hr'
  have hle := hmost r' hmem'
  have hge := hmost' r hmem
  omega

/-- The verdicts depend on which entries there are, not on their order. -/
theorem mem_latest_congr {rs' : List ρ} (h : ∀ r, r ∈ rs ↔ r ∈ rs') :
    r ∈ latest time rs ↔ r ∈ latest time rs' := by
  rw [mem_latest, mem_latest, h]
  have hall : (∀ r' ∈ rs, time r' ≤ time r) ↔ ∀ r' ∈ rs', time r' ≤ time r :=
    forall_congr' fun r' => by rw [h]
  rw [hall]

theorem filter_last_eq_latest (hsorted : rs.Pairwise fun r r' => time r ≤ time r') {last : ρ}
    (hlast : rs.getLast? = some last) : rs.filter (fun r => time r = time last) = latest time rs := by
  have hmost : ∀ r ∈ rs, time r ≤ time last := by
    obtain ⟨init, rfl⟩ := List.getLast?_eq_some_iff.mp hlast
    intro r hr
    rcases mem_append.mp hr with hr | hr
    · exact (pairwise_append.mp hsorted).2.2 r hr last (mem_singleton_self _)
    · rw [mem_singleton.mp hr]
  have hmem : last ∈ rs := mem_of_getLast? hlast
  apply filter_congr
  intro r hr
  have hiff : time r = time last ↔ ∀ r' ∈ rs, time r' ≤ time r := by
    constructor
    · intro heq r' hr'
      rw [heq]
      exact hmost r' hr'
    · intro h
      have hle := hmost r hr
      have hge := h last hmem
      omega
  rw [Bool.eq_iff_iff, decide_eq_true_eq, hiff]
  simp

/-- What settles a question, said about the entries themselves. -/
theorem settles_iff : Settles time verdict rs v ↔
    ∃ T, (∃ r ∈ rs, time r = T) ∧ ∀ r ∈ rs, time r ≤ T ∧ (time r = T → verdict r = v) := by
  constructor
  · rintro ⟨hne, hall⟩
    obtain ⟨r, hr⟩ := exists_mem_of_ne_nil _ hne
    obtain ⟨hmem, hmost⟩ := (mem_latest time).mp hr
    refine ⟨time r, ⟨r, hmem, rfl⟩, fun r' hr' => ⟨hmost r' hr', fun heq => hall r' ?_⟩⟩
    refine (mem_latest time).mpr ⟨hr', fun c hc => ?_⟩
    rw [heq]
    exact hmost c hc
  · rintro ⟨T, ⟨r, hmem, rfl⟩, hall⟩
    have hlatest : r ∈ latest time rs := (mem_latest time).mpr ⟨hmem, fun c hc => (hall c hc).1⟩
    refine ⟨ne_nil_of_mem hlatest, fun r' hr' => ?_⟩
    exact (hall r' ((mem_latest time).mp hr').1).2 (time_eq_of_latest time hr' hlatest)

/-- A question that is settled by one verdict is not settled by another, nor contradictory. -/
theorem Settles.unique {v' : ν} (h : Settles time verdict rs v) (h' : Settles time verdict rs v') :
    v = v' := by
  obtain ⟨r, hr⟩ := exists_mem_of_ne_nil _ h.1
  exact (h.2 r hr).symm.trans (h'.2 r hr)

end Supersession

end Tiangong
