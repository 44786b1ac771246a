import Mathlib.Data.List.Basic

/-!
# Calls with partial commits

A call answers or raises, and leaves a state behind either way: what it committed before it
raised stays committed. A transaction inside a call commits all of its writes or none.
-/
namespace Tiangong

/-- A call on states `σ` that may raise `ε`. -/
abbrev Call (ε σ : Type) := ExceptT ε (StateM σ)

namespace Call

variable {ε σ τ α β : Type}

/-- The answer of a call, and the state it leaves. -/
def on (x : Call ε σ α) (s : σ) : Except ε α × σ := x s

/-- Read the state, or raise. -/
def query (f : σ → Except ε α) : Call ε σ α := fun s => (f s, s)

def read (f : σ → α) : Call ε σ α := fun s => (.ok (f s), s)

/-- Change the state. -/
def modify (f : σ → σ) : Call ε σ Unit := fun s => (.ok (), f s)

def transaction (f : σ → Except ε (α × σ)) : Call ε σ α := fun s =>
  match f s with
  | .ok (a, s') => (.ok a, s')
  | .error e => (.error e, s)

/-- A call on a part of the state. -/
def within (get : τ → σ) (set : τ → σ → τ) (x : Call ε σ α) : Call ε τ α := fun t =>
  ((x.on (get t)).1, set t (x.on (get t)).2)

@[simp] theorem on_pure (a : α) (s : σ) : (pure a : Call ε σ α).on s = (.ok a, s) := rfl

@[simp] theorem on_query (f : σ → Except ε α) (s : σ) : (query f).on s = (f s, s) := rfl

@[simp] theorem on_read (f : σ → α) (s : σ) : (read f : Call ε σ α).on s = (.ok (f s), s) := rfl

@[simp] theorem on_modify (f : σ → σ) (s : σ) :
    (modify f : Call ε σ Unit).on s = (.ok (), f s) := rfl

@[simp] theorem on_within (get : τ → σ) (set : τ → σ → τ) (x : Call ε σ α) (t : τ) :
    (within get set x).on t = ((x.on (get t)).1, set t (x.on (get t)).2) := rfl

theorem on_bind (x : Call ε σ α) (f : α → Call ε σ β) (s : σ) : (x >>= f).on s = match x.on s with
      | (.ok a, s') => (f a).on s'
      | (.error e, s') => (.error e, s') := by
  simp only [on, bind, ExceptT.bind, ExceptT.mk, StateT.bind]
  rcases x s with ⟨_ | _, _⟩ <;> rfl

variable {x : Call ε σ α} {s s' : σ} {a : α}

theorem on_bind_of_ok {f : α → Call ε σ β}
    (h : x.on s = (.ok a, s')) : (x >>= f).on s = (f a).on s' := by
  rw [on_bind, h]

variable {e : ε}

theorem on_bind_of_error {f : α → Call ε σ β}
    (h : x.on s = (.error e, s')) : (x >>= f).on s = (.error e, s') := by
  rw [on_bind, h]

theorem on_map (f : α → β) (x : Call ε σ α) (s : σ) :
    (f <$> x).on s = (Except.map f (x.on s).1, (x.on s).2) := by
  rw [← bind_pure_comp, on_bind]
  rcases x.on s with ⟨e | a, s'⟩ <;> rfl

variable {f : σ → Except ε (α × σ)}

theorem on_transaction_of_ok (h : f s = .ok (a, s')) : (transaction f).on s = (.ok a, s') := by
  simp only [on, transaction, h]

theorem on_transaction_of_error (h : f s = .error e) : (transaction f).on s = (.error e, s) := by
  simp only [on, transaction, h]

theorem on_transaction_eq_ok : (transaction f).on s = (.ok a, s') ↔ f s = .ok (a, s') := by
  cases h : f s with
  | error e => simp [on_transaction_of_error h]
  | ok pair => simp [on_transaction_of_ok h, Prod.ext_iff]

/-- A transaction that raises changes nothing. -/
theorem on_transaction_error (h : (transaction f).on s = (.error e, s')) : s' = s := by
  cases hf : f s with
  | error e' =>
    rw [on_transaction_of_error hf] at h
    exact (Prod.mk.inj h).2.symm
  | ok pair =>
    rw [on_transaction_of_ok hf] at h
    cases (Prod.mk.inj h).1

/-- What the parts of a sequence keep, the sequence keeps. -/
theorem bind_preserves {P : σ → Prop} {f : α → Call ε σ β}
    (hx : ∀ s, P s → P (x.on s).2) (hf : ∀ a s, P s → P ((f a).on s).2) (hs : P s) :
    P ((x >>= f).on s).2 := by
  rw [on_bind]
  rcases hr : x.on s with ⟨_ | a, s'⟩
  · simpa [hr] using hx s hs
  · exact hf a s' (by simpa [hr] using hx s hs)

theorem transaction_preserves {P : σ → Prop}
    (hf : ∀ s a s', P s → f s = .ok (a, s') → P s') (hs : P s) :
    P ((transaction f).on s).2 := by
  cases h : f s with
  | error e => rwa [on_transaction_of_error h]
  | ok pair => rw [on_transaction_of_ok h]; exact hf s _ _ hs h

/-- The call keeps `P`, whether it answers or raises. -/
def Keeps (x : Call ε σ α) (P : σ → Prop) : Prop := ∀ s, P s → P (x.on s).2

section Keeps

variable {P : σ → Prop}

theorem Keeps.bind {x : Call ε σ α} {f : α → Call ε σ β} (hx : x.Keeps P)
    (hf : ∀ a, (f a).Keeps P) : (x >>= f).Keeps P :=
  fun _ hs => bind_preserves hx hf hs

theorem Keeps.pure (a : α) : (Pure.pure a : Call ε σ α).Keeps P := fun _ hs => hs

theorem Keeps.query (f : σ → Except ε α) : (query f).Keeps P := fun _ hs => hs

theorem Keeps.asked {f : σ → Except ε α} {g : α → Call ε σ β} (hg : ∀ a, (g a).Keeps P) :
    (Call.query f >>= g).Keeps P := (Keeps.query f).bind hg

theorem Keeps.read (f : σ → α) : (read f : Call ε σ α).Keeps P := fun _ hs => hs

theorem Keeps.modify {f : σ → σ} (h : ∀ s, P s → P (f s)) : (modify f : Call ε σ Unit).Keeps P := h

theorem Keeps.map {x : Call ε σ α} (h : x.Keeps P) (f : α → β) : (f <$> x).Keeps P := by
  intro s hs
  rw [on_map]
  exact h s hs

theorem Keeps.ite {p : Prop} [Decidable p] {x y : Call ε σ α} (hx : x.Keeps P) (hy : y.Keeps P) :
    (if p then x else y).Keeps P := by
  split
  · exact hx
  · exact hy

end Keeps

/-- From a state in `P` the call answers in `Q` or raises in `E`. -/
def Meets (P : σ → Prop) (x : Call ε σ α) (Q : α → σ → Prop) (E : ε → σ → Prop) : Prop :=
  ∀ s, P s → match x.on s with
    | (.ok a, s') => Q a s'
    | (.error e, s') => E e s'

section Meets

variable {P : σ → Prop} {Q : α → σ → Prop} {E : ε → σ → Prop}

theorem Meets.bind {x : Call ε σ α} {f : α → Call ε σ β} {R : β → σ → Prop}
    (hx : x.Meets P Q E) (hf : ∀ a, (f a).Meets (Q a) R E) : (x >>= f).Meets P R E := by
  intro s hs
  have hfirst := hx s hs
  rw [on_bind]
  rcases hr : x.on s with ⟨e | a, s'⟩
  · simpa [hr] using hfirst
  · rw [hr] at hfirst
    exact hf a s' hfirst

theorem Meets.pure {a : α} (h : ∀ s, P s → Q a s) : (Pure.pure a : Call ε σ α).Meets P Q E := h

/-- A call that keeps `P` whatever it answers. -/
theorem Meets.of_preserves {x : Call ε σ α} (h : ∀ s, P s → P (x.on s).2) :
    x.Meets P (fun _ => P) fun _ => P := by
  intro s hs
  have hkept := h s hs
  rcases hr : x.on s with ⟨e | a, s'⟩ <;> simpa [hr] using hkept

theorem Meets.mono {x : Call ε σ α} {P' : σ → Prop} {Q' : α → σ → Prop} {E' : ε → σ → Prop}
    (h : x.Meets P Q E) (hP : ∀ s, P' s → P s) (hQ : ∀ a s, Q a s → Q' a s)
    (hE : ∀ e s, E e s → E' e s) : x.Meets P' Q' E' := by
  intro s hs
  have hx := h s (hP s hs)
  rcases hr : x.on s with ⟨e | a, s'⟩
  · rw [hr] at hx
    exact hE e s' hx
  · rw [hr] at hx
    exact hQ a s' hx

end Meets

end Call

end Tiangong
