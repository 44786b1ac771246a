import Mathlib.Data.List.Nodup

/-!
# Checked steps

A store method refuses by raising before it writes. It is read here as an `Except`
program whose guards are the two combinators below; the simp set turns an accepted run of such
a program into the conjunction of the guards it passed.
-/
open List

namespace Tiangong

universe u

variable {ε : Type*} {α β : Type u}

/-- Raise `error` when the refused condition holds. -/
def rejectIf (refused : Prop) [Decidable refused] (error : ε) : Except ε Unit :=
  if refused then .error error else .ok ()

/-- The row a query returned, or `error` when it returned none. -/
def required (found : Option α) (error : ε) : Except ε α :=
  match found with
  | some value => .ok value
  | none => .error error

variable {refused : Prop} {error : ε}

@[simp] theorem rejectIf_eq_ok [Decidable refused] {u : Unit} :
    rejectIf refused error = .ok u ↔ ¬ refused := by
  by_cases h : refused <;> simp [rejectIf, h]

theorem rejectIf_of_not [Decidable refused] (error : ε) (h : ¬ refused) :
    rejectIf refused error = .ok () := by
  simp [rejectIf, h]

@[simp] theorem rejectIf_eq_error [Decidable refused] {error' : ε} :
    rejectIf refused error = .error error' ↔ refused ∧ error = error' := by
  by_cases h : refused <;> simp [rejectIf, h]

@[simp] theorem required_eq_ok {found : Option α} {value : α} :
    required found error = .ok value ↔ found = some value := by
  cases found <;> simp [required]

@[simp] theorem required_eq_error {found : Option α} {error' : ε} :
    required found error = .error error' ↔ found = none ∧ error = error' := by
  cases found <;> simp [required]

variable {x : Except ε α} {f : α → Except ε β}

/-- An accepted sequence: the first part was accepted, and then the rest was. -/
@[simp] theorem bind_eq_ok {b : β} : x >>= f = .ok b ↔ ∃ a, x = .ok a ∧ f a = .ok b := by
  cases x <;> simp [bind, Except.bind]

/-- A refused sequence: the first part refused, or it was accepted and the rest refused. -/
theorem bind_eq_error {e : ε} :
    x >>= f = .error e ↔ x = .error e ∨ ∃ a, x = .ok a ∧ f a = .error e := by
  cases x <;> simp [bind, Except.bind]

theorem toBool_eq_true : x.toBool = true ↔ ∃ a, x = .ok a := by
  cases x <;> simp [Except.toBool]

theorem map_eq_ok {f : α → β} {b : β} : x.map f = .ok b ↔ ∃ a, x = .ok a ∧ f a = b := by
  cases x <;> simp [Except.map]

theorem mapError_eq_ok {ε' : Type*} {f : ε → ε'} {a : α} : x.mapError f = .ok a ↔ x = .ok a := by
  cases x <;> simp [Except.mapError]

@[simp] theorem pure_eq_ok {a b : α} : (pure a : Except ε α) = .ok b ↔ a = b := by
  simp [pure, Except.pure]

/-- What an accepted run went through: its parts, its guards, its lookups and its result. -/
theorem eq_ok_iff : (∀ {ε α β : Type u} {x : Except ε α} {f : α → Except ε β} {b : β},
      x >>= f = .ok b ↔ ∃ a, x = .ok a ∧ f a = .ok b) ∧
    (∀ {ε : Type u} {refused : Prop} {error : ε} [Decidable refused] {u : Unit},
      rejectIf refused error = .ok u ↔ ¬ refused) ∧
    (∀ {ε α : Type u} {error : ε} {found : Option α} {value : α},
      required found error = .ok value ↔ found = some value) ∧
    (∀ {ε α : Type u} {a b : α}, (pure a : Except ε α) = .ok b ↔ a = b) ∧
    ∀ {p : Prop} (ι : Type u) [Nonempty ι], (∃ _ : ι, p) ↔ p :=
  ⟨bind_eq_ok, rejectIf_eq_ok, required_eq_ok, pure_eq_ok, fun ι => exists_const ι⟩

/-- The same for a run whose result is a pair. -/
theorem eq_pair_iff : type_of% eq_ok_iff.{u} ∧ ∀ {α β : Type u} {a a' : α} {b b' : β},
    (a, b) = (a', b') ↔ a = a' ∧ b = b' :=
  ⟨eq_ok_iff, by simp⟩

/-- When a check holds: both of its parts do, and a decision says so. -/
theorem holds_iff : (∀ {a b : Bool}, (a && b) = true ↔ a = true ∧ b = true) ∧
    ∀ {p : Prop} [Decidable p], decide p = true ↔ p :=
  ⟨by simp, by simp⟩

variable {xs : List α}

/-- An accepted loop: every step was accepted, and the results are those of the steps. -/
theorem mapM_eq_ok {ys : List β} :
    xs.mapM f = .ok ys ↔ List.Forall₂ (fun x y => f x = .ok y) xs ys := by
  induction xs generalizing ys with
  | nil => cases ys <;> simp
  | cons x xs ih =>
    simp only [mapM_cons, bind_eq_ok, pure_eq_ok, ih]
    constructor
    · rintro ⟨y, hy, zs, hzs, rfl⟩
      exact .cons hy hzs
    · intro h
      cases h with
      | cons hy hzs => exact ⟨_, hy, _, hzs, rfl⟩

/-- A loop whose steps are all accepted. -/
theorem mapM_exists_ok (h : ∀ x ∈ xs, ∃ y, f x = .ok y) : ∃ ys, xs.mapM f = .ok ys := by
  induction xs with
  | nil => exact ⟨[], rfl⟩
  | cons x xs ih =>
    obtain ⟨y, hy⟩ := h x mem_cons_self
    obtain ⟨ys, hys⟩ := ih fun x' hx' => h x' (mem_cons_of_mem _ hx')
    exact ⟨y :: ys, mapM_eq_ok.mpr (.cons hy (mapM_eq_ok.mp hys))⟩

/-- An accepted loop of checks: every check passed. -/
theorem forM_eq_ok {α : Type*} {f : α → Except ε PUnit} {xs : List α} {u : PUnit} :
    xs.forM f = .ok u ↔ ∀ x ∈ xs, f x = .ok ⟨⟩ := by
  induction xs with
  | nil => exact iff_of_true rfl nofun
  | cons x xs ih =>
    have hcons : (x :: xs).forM f = (f x >>= fun _ => xs.forM f) := rfl
    rw [hcons, bind_eq_ok, forall_mem_cons, ih]
    exact ⟨fun ⟨_, hx, hxs⟩ => ⟨hx, hxs⟩, fun ⟨hx, hxs⟩ => ⟨_, hx, hxs⟩⟩

/-- Two lists related step by step: each element of the first has a partner. -/
theorem exists_partner {γ δ : Type*} {R : γ → δ → Prop} {xs : List γ} {ys : List δ}
    (h : List.Forall₂ R xs ys) {x : γ} (hx : x ∈ xs) : ∃ y ∈ ys, R x y := by
  induction h with
  | nil => cases hx
  | @cons x' y' xs ys hy _ ih =>
    rcases mem_cons.mp hx with rfl | hx
    · exact ⟨y', mem_cons_self, hy⟩
    · obtain ⟨y, hmem, hR⟩ := ih hx
      exact ⟨y, mem_cons_of_mem _ hmem, hR⟩

/-- An accepted loop that keeps each input beside its result. -/
theorem mapM_beside {ys : List (α × β)}
    (h : (xs.mapM fun x => do let y ← f x; pure (x, y)) = .ok ys) :
    ys.map Prod.fst = xs ∧ ∀ y ∈ ys, f y.1 = .ok y.2 := by
  rw [mapM_eq_ok] at h
  induction h with
  | nil => simp
  | @cons x y xs ys hy _ ih =>
    simp only [bind_eq_ok, pure_eq_ok] at hy
    obtain ⟨b, hb, rfl⟩ := hy
    refine ⟨by rw [map_cons, ih.1], ?_⟩
    intro z hz
    rcases mem_cons.mp hz with rfl | hz
    · exact hb
    · exact ih.2 z hz

/-- The result kept beside an input is found again. -/
theorem find_beside [DecidableEq α] {ys : List (α × β)} {x : α}
    (h : (xs.mapM fun x => do let y ← f x; pure (x, y)) = .ok ys) (hx : x ∈ xs) :
    ∃ b, f x = .ok b ∧ ys.find? (fun y => y.1 = x) = some (x, b) := by
  obtain ⟨hfst, hall⟩ := mapM_beside h
  cases hfind : ys.find? (fun y => decide (y.1 = x)) with
  | none =>
    rw [← hfst, mem_map] at hx
    obtain ⟨y, hy, rfl⟩ := hx
    have := List.find?_eq_none.mp hfind y hy
    simp at this
  | some y =>
    have hy := List.find?_some hfind
    rw [decide_eq_true_eq] at hy
    subst hy
    exact ⟨y.2, hall y (mem_of_find?_eq_some hfind), rfl⟩

/-- Every error the program raises is of the given kind. -/
def RaisesOnly (kind : ε → Prop) (x : Except ε α) : Prop := ∀ e, x = .error e → kind e

section RaisesOnly

variable {kind : ε → Prop}

@[simp] theorem raisesOnly_ok {a : α} : RaisesOnly kind (.ok a : Except ε α) := nofun

@[simp] theorem raisesOnly_pure {a : α} : RaisesOnly kind (pure a : Except ε α) := nofun

@[simp] theorem raisesOnly_error {e : ε} : RaisesOnly kind (.error e : Except ε α) ↔ kind e :=
  ⟨fun h => h e rfl, by rintro he e' ⟨⟩; exact he⟩

/-- A sequence raises what its first part raises, and what the rest raises after it. -/
theorem raisesOnly_bind {x : Except ε α} {f : α → Except ε β} : RaisesOnly kind (x >>= f) ↔
      RaisesOnly kind x ∧ ∀ a, x = .ok a → RaisesOnly kind (f a) := by
  cases x with
  | error e => simp [RaisesOnly, bind, Except.bind]
  | ok a => simp [RaisesOnly, bind, Except.bind]

theorem RaisesOnly.bind {x : Except ε α} {f : α → Except ε β} (hx : RaisesOnly kind x)
    (hf : ∀ a, RaisesOnly kind (f a)) : RaisesOnly kind (x >>= f) :=
  raisesOnly_bind.mpr ⟨hx, fun a _ => hf a⟩

theorem RaisesOnly.map {x : Except ε α} {f : α → β} (hx : RaisesOnly kind x) :
    RaisesOnly kind (x.map f) := by
  cases x with
  | error e => exact raisesOnly_error.mpr (hx e rfl)
  | ok a => exact raisesOnly_ok

theorem raisesOnly_rejectIf {refused : Prop} [Decidable refused] {error : ε} (h : kind error) :
    RaisesOnly kind (rejectIf refused error) := by
  intro e he
  rw [← (rejectIf_eq_error.mp he).2]
  exact h

theorem raisesOnly_guard {β : Type} {refused : Prop} [Decidable refused] {error : ε}
    {f : Unit → Except ε β} :
    RaisesOnly kind (rejectIf refused error >>= f) ↔
      (refused → kind error) ∧ (¬ refused → RaisesOnly kind (f ())) := by
  by_cases h : refused
  · simp [rejectIf, h, RaisesOnly, bind, Except.bind]
  · simp [rejectIf, h, RaisesOnly, bind, Except.bind]

theorem raisesOnly_required {found : Option α} {error : ε} (h : kind error) :
    RaisesOnly kind (required found error) := by
  intro e he
  rw [← (required_eq_error.mp he).2]
  exact h

theorem RaisesOnly.mapM {f : α → Except ε β} (h : ∀ a, RaisesOnly kind (f a)) (xs : List α) :
    RaisesOnly kind (xs.mapM f) := by
  induction xs with
  | nil => exact raisesOnly_pure
  | cons x xs ih =>
    rw [mapM_cons]
    exact (h x).bind fun y => ih.bind fun ys => raisesOnly_pure

theorem RaisesOnly.foldlM {f : β → α → Except ε β} (h : ∀ b a, RaisesOnly kind (f b a))
    (xs : List α) (b : β) : RaisesOnly kind (xs.foldlM f b) := by
  induction xs generalizing b with
  | nil => exact raisesOnly_pure
  | cons x xs ih =>
    rw [foldlM_cons]
    exact (h b x).bind fun b' => ih b'

end RaisesOnly

theorem RaisesOnly.forM {kind : ε → Prop} {α : Type*} {f : α → Except ε PUnit}
    (h : ∀ a, RaisesOnly kind (f a)) (xs : List α) : RaisesOnly kind (xs.forM f) := by
  induction xs with
  | nil => exact raisesOnly_pure
  | cons x xs ih =>
    show RaisesOnly kind (f x >>= fun _ => xs.forM f)
    exact (h x).bind fun _ => ih

end Tiangong
