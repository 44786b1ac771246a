import Mathlib.Logic.Function.Basic
import Mathlib.Data.Set.Function

/-!
# Leases with a single crossing

Items are claimed for a limited time. A lease may run out and the item be claimed again while an
earlier claimant still believes it holds it, so a claim alone protects nothing that happens once.
What protects it is a crossing: it is recorded with the time of the claim it was made under, and
claims of one item have strictly increasing times. Whoever crossed may act, once.
-/
open Function

namespace Tiangong

/-- Where an item stands. A closed item is never claimed again. -/
inductive Standing where
  | absent | free | held (expires : ℕ) | closed
  deriving DecidableEq, Repr

/-- A claim at `now` may take the item: it is free, or its lease has run out. -/
def Standing.claimable (now : ℕ) : Standing → Prop
  | .free => True
  | .held expires => expires ≤ now
  | .absent | .closed => False

/-- The items, and for each the time of the claim under which it was crossed. -/
@[ext] structure LeaseTable (ι : Type) where
  standing : ι → Standing
  crossedAt : ι → Option ℕ

/-- How far a claimant got: it holds an item since its claim, or crossed it, or is through. -/
inductive Holder (ι : Type) where
  | idle
  | holding (item : ι) (since : ℕ)
  | crossed (item : ι)
  | spent
  deriving DecidableEq, Repr

namespace LeaseTable

variable {ι : Type}

/-- A time that lies before the end of the current lease of an item, or the item is closed. -/
def Covered (t : LeaseTable ι) (item : ι) (time : ℕ) : Prop :=
  (∃ expires, t.standing item = .held expires ∧ time < expires) ∨ t.standing item = .closed

/-- What claims and crossings keep, whoever claims. -/
structure Sound (t : LeaseTable ι) (f : ℕ → Option (Holder ι)) : Prop where
  holding_covered : ∀ n item since, f n = some (.holding item since) → t.Covered item since
  holding_inj : ∀ n m item since, f n = some (.holding item since) →
    f m = some (.holding item since) → n = m ∨ t.standing item = .closed
  crossing_covered : ∀ item since, t.crossedAt item = some since → t.Covered item since
  crossing_ne : ∀ n item since, f n = some (.holding item since) →
    t.crossedAt item = some since → t.standing item = .closed
  crosser_crossed : ∀ n item, f n = some (.crossed item) → (t.crossedAt item).isSome
  crosser_inj : ∀ n m item, f n = some (.crossed item) → f m = some (.crossed item) → n = m

/-- No item is there yet, and nobody claims. -/
def none : LeaseTable ι := ⟨fun _ => .absent, fun _ => Option.none⟩

variable {t : LeaseTable ι} {f : ℕ → Option (Holder ι)} {n : ℕ} {item : ι} {now expires : ℕ}

theorem sound_none : (none : LeaseTable ι).Sound fun _ => Option.none := by
  constructor <;> simp [none]

/-- The claims of a claimable item began at or before `now`. -/
lemma Covered.le_of_claimable {time : ℕ} (h : t.Covered item time)
    (hclaim : (t.standing item).claimable now) : time < now := by
  obtain ⟨expires, hheld, hlt⟩ | hclosed := h
  · rw [hheld] at hclaim
    exact lt_of_lt_of_le hlt hclaim
  · rw [hclosed] at hclaim
    exact hclaim.elim

/-- A claimant that takes no item of its own keeps the rest sound. -/
theorem Sound.forget {holder : Option (Holder ι)} (h : t.Sound f)
    (hholder : holder = .none ∨ holder = some .idle ∨ holder = some .spent) :
    t.Sound (update f n holder) := by
  have hother : ∀ {m : ℕ} {item : ι} {since : ℕ},
      update f n holder m = some (.holding item since) →
        f m = some (.holding item since) := by
    intro m item since hm
    rw [update_apply] at hm
    split at hm
    · rcases hholder with rfl | rfl | rfl <;> cases hm
    · exact hm
  have hcrosser : ∀ {m : ℕ} {item : ι}, update f n holder m = some (.crossed item) →
      f m = some (.crossed item) := by
    intro m item hm
    rw [update_apply] at hm
    split at hm
    · rcases hholder with rfl | rfl | rfl <;> cases hm
    · exact hm
  constructor
  · exact fun m item since hm => h.holding_covered m item since (hother hm)
  · exact fun m k item since hm hk => h.holding_inj m k item since (hother hm) (hother hk)
  · exact h.crossing_covered
  · exact fun m item since hm hc => h.crossing_ne m item since (hother hm) hc
  · exact fun m item hm => h.crosser_crossed m item (hcrosser hm)
  · exact fun m k item hm hk => h.crosser_inj m k item (hcrosser hm) (hcrosser hk)

/-- A claimant that begins to hold an item whose earlier claims and crossing are all older. -/
theorem Sound.hold (h : t.Sound f) (hcovered : t.Covered item now)
    (hholding : ∀ m, f m = some (.holding item now) → t.standing item = .closed)
    (hcrossing : t.crossedAt item = some now → t.standing item = .closed) :
    t.Sound (update f n (some (.holding item now))) := by
  constructor
  · intro m item' since hm
    rw [update_apply] at hm
    split at hm
    · cases hm
      exact hcovered
    · exact h.holding_covered m item' since hm
  · intro m k item' since hm hk
    rw [update_apply] at hm hk
    split at hm <;> split at hk
    · next h1 h2 => exact .inl (h1.trans h2.symm)
    · cases hm
      exact .inr (hholding k hk)
    · cases hk
      exact .inr (hholding m hm)
    · exact h.holding_inj m k item' since hm hk
  · exact h.crossing_covered
  · intro m item' since hm hc
    rw [update_apply] at hm
    split at hm
    · cases hm
      exact hcrossing hc
    · exact h.crossing_ne m item' since hm hc
  · intro m item' hm
    rw [update_apply] at hm
    split at hm
    · cases hm
    · exact h.crosser_crossed m item' hm
  · intro m k item' hm hk
    rw [update_apply] at hm hk
    split at hm <;> split at hk
    · cases hm
    · cases hm
    · cases hk
    · exact h.crosser_inj m k item' hm hk

/-- Under the time of a claim that is still held the item was not crossed. -/
theorem Sound.crossedAt_ne {since : ℕ} (h : t.Sound f) (hf : f n = some (.holding item since))
    (hheld : t.standing item = .held expires) : t.crossedAt item ≠ some since := by
  intro hc
  have := h.crossing_ne n item since hf hc
  rw [hheld] at this
  cases this

/-- Items may appear, and held items may be closed; nothing else changes. -/
structure Settles (t t' : LeaseTable ι) : Prop where
  crossedAt : t'.crossedAt = t.crossedAt
  standing : ∀ item, t'.standing item = t.standing item ∨ t'.standing item = .closed ∨
    t.standing item = .absent

theorem Settles.refl (t : LeaseTable ι) : t.Settles t := ⟨rfl, fun _ => .inl rfl⟩

theorem Covered.settles {t' : LeaseTable ι} {time : ℕ} (h : t.Covered item time)
    (hs : t.Settles t') : t'.Covered item time := by
  rcases hs.standing item with heq | hclosed | habsent
  · unfold Covered
    rw [heq]
    exact h
  · exact .inr hclosed
  · obtain ⟨_, hheld, _⟩ | hclosed := h
    · rw [habsent] at hheld
      cases hheld
    · rw [habsent] at hclosed
      cases hclosed

theorem Sound.settles {t' : LeaseTable ι} (h : t.Sound f) (hs : t.Settles t') : t'.Sound f := by
  have hopen : ∀ {item}, t.standing item = .closed → t'.standing item = .closed := by
    intro item hclosed
    rcases hs.standing item with heq | hc | habsent
    · rw [heq, hclosed]
    · exact hc
    · rw [hclosed] at habsent
      cases habsent
  constructor
  · exact fun n item since hf => (h.holding_covered n item since hf).settles hs
  · exact fun n m item since hn hm => (h.holding_inj n m item since hn hm).imp_right hopen
  · exact fun item since hc => (h.crossing_covered item since (hs.crossedAt ▸ hc)).settles hs
  · exact fun n item since hf hc => hopen (h.crossing_ne n item since hf (hs.crossedAt ▸ hc))
  · intro n item hf
    rw [hs.crossedAt]
    exact h.crosser_crossed n item hf
  · exact h.crosser_inj

variable [DecidableEq ι]

def put (t : LeaseTable ι) (item : ι) (standing : Standing) : LeaseTable ι :=
  { t with standing := update t.standing item standing }

def cross (t : LeaseTable ι) (item : ι) (since : ℕ) : LeaseTable ι :=
  { t with crossedAt := update t.crossedAt item (some since) }

@[simp] theorem put_standing (standing : Standing) (item' : ι) :
    (t.put item standing).standing item' = if item' = item then standing else t.standing item' := by
  simp [put, update_apply]

@[simp] theorem put_crossedAt (standing : Standing) :
    (t.put item standing).crossedAt = t.crossedAt := rfl

@[simp] theorem cross_standing (since : ℕ) : (t.cross item since).standing = t.standing := rfl

@[simp] theorem cross_crossedAt (since : ℕ) (item' : ι) : (t.cross item since).crossedAt item' =
      if item' = item then some since else t.crossedAt item' := by
  simp [cross, update_apply]

theorem Covered.put {time : ℕ} {item' : ι} (h : t.Covered item' time)
    (hclaim : (t.standing item).claimable now) (hlease : now < expires) :
    (t.put item (.held expires)).Covered item' time := by
  unfold Covered
  rw [put_standing]
  split
  · next heq =>
    subst heq
    exact .inl ⟨expires, rfl, (h.le_of_claimable hclaim).trans hlease⟩
  · exact h

theorem Sound.claim (h : t.Sound f) (hclaim : (t.standing item).claimable now)
    (hlease : now < expires) : (t.put item (.held expires)).Sound f := by
  have hopen : ∀ {item'}, t.standing item' = .closed →
      (t.put item (.held expires)).standing item' = .closed := by
    intro item' hclosed
    rw [put_standing, if_neg, hclosed]
    rintro rfl
    rw [hclosed] at hclaim
    exact hclaim
  constructor
  · exact fun n item' since hf => (h.holding_covered n item' since hf).put hclaim hlease
  · exact fun n m item' since hn hm => (h.holding_inj n m item' since hn hm).imp_right hopen
  · exact fun item' since hc => (h.crossing_covered item' since hc).put hclaim hlease
  · exact fun n item' since hf hc => hopen (h.crossing_ne n item' since hf hc)
  · exact h.crosser_crossed
  · exact h.crosser_inj

/-- A claimant takes a claimable item: its claim is younger than every claim before it. -/
theorem Sound.take (h : t.Sound f) (hclaim : (t.standing item).claimable now)
    (hlease : now < expires) :
    (t.put item (.held expires)).Sound (update f n (some (.holding item now))) := by
  refine (h.claim hclaim hlease).hold (.inl ⟨expires, by simp, hlease⟩) ?_ ?_
  · intro m hm
    exact absurd ((h.holding_covered m item now hm).le_of_claimable hclaim) (lt_irrefl _)
  · intro hc
    exact absurd ((h.crossing_covered item now hc).le_of_claimable hclaim) (lt_irrefl _)

/-- The item a claimant holds is crossed under its claim, unless it was crossed before. -/
theorem Sound.cross {since : ℕ} (h : t.Sound f) (hf : f n = some (.holding item since))
    (hheld : t.standing item = .held expires) (hfree : t.crossedAt item = .none) :
    (t.cross item since).Sound (update f n (some (.crossed item))) := by
  have hopen : t.standing item ≠ .closed := by simp [hheld]
  have hother : ∀ {m : ℕ} {item' : ι} {since' : ℕ},
      update f n (some (.crossed item)) m = some (.holding item' since') →
        m ≠ n ∧ f m = some (.holding item' since') := by
    intro m item' since' hm
    rw [update_apply] at hm
    split at hm
    · cases hm
    · next hne => exact ⟨hne, hm⟩
  constructor
  · exact fun m item' since' hm => h.holding_covered m item' since' (hother hm).2
  · exact fun m k item' since' hm hk =>
      h.holding_inj m k item' since' (hother hm).2 (hother hk).2
  · intro item' since' hc
    rw [cross_crossedAt] at hc
    split at hc
    · next heq =>
      cases hc
      subst heq
      exact h.holding_covered n item' since hf
    · exact h.crossing_covered item' since' hc
  · intro m item' since' hm hc
    rw [cross_crossedAt] at hc
    split at hc
    · next heq =>
      cases hc
      subst heq
      exact (h.holding_inj m n item' since (hother hm).2 hf).resolve_left (hother hm).1
    · exact h.crossing_ne m item' since' (hother hm).2 hc
  · intro m item' hm
    rw [cross_crossedAt]
    split
    · rfl
    · next hne =>
      rw [update_apply] at hm
      split at hm
      · cases hm
        exact absurd rfl hne
      · exact h.crosser_crossed m item' hm
  · intro m k item' hm hk
    have hold : ∀ j, f j = some (.crossed item) → False := by
      intro j hj
      have := h.crosser_crossed j item hj
      rw [hfree] at this
      cases this
    rw [update_apply] at hm hk
    split at hm <;> split at hk
    · next h1 h2 => exact h1.trans h2.symm
    · cases hm
      exact (hold k hk).elim
    · cases hk
      exact (hold m hm).elim
    · exact h.crosser_inj m k item' hm hk

end LeaseTable

end Tiangong
