import Tiangong.CrashedPrograms

/-!
# Programs that say who asks

Where the programs of a pool are calls of different kinds, every action can carry the call that asks
for it. The order in which a call asks for its actions may then depend on the call.
-/
namespace Tiangong

variable {L A : Type} {R : A → Type} {ε α φ σ : Type}

def Program.labelled (label : L) : Program A R ε α → Program (L × A) (fun action => R action.2) ε α
  | .done a => .done a
  | .fail e => .fail e
  | .ask a next => .ask (label, a) fun r => (next r).labelled label

def Discipline.labelled (d : L → Discipline A R ε φ) :
    Discipline (L × A) (fun action => R action.2) ε φ where
  allows p action := (d action.1).allows p action.2
  after p action r := (d action.1).after p action.2 r

theorem Discipline.Keeps.labelled {d : L → Discipline A R ε φ} {label : L} {Q : α → φ → Prop}
    {E : ε → φ → Prop} {x : Program A R ε α} {p : φ} (hx : (d label).Keeps Q E x p) :
    (Discipline.labelled d).Keeps Q E (x.labelled label) p := by
  induction x generalizing p with
  | done a => exact hx
  | fail e => exact hx
  | ask a next ih => exact ⟨hx.1, fun r => ih r (hx.2 r)⟩

namespace Pool

variable {ι κ : Type} {rules : Rules A R ε α φ σ ι κ}

abbrev Report (A : Type) (R : A → Type) (ε : Type) := Option (ℕ × (a : A) × Except ε (R a))

/-- The steps of a run report only what `P` allows of the state that they find. -/
def Reports (rules : Rules A R ε α φ σ ι κ) (P : σ → Report A R ε → Prop)
    (p : Pool A R ε α φ σ) (e : PoolEvent A R ε ι κ) : Prop :=
  P p.world (step rules p e).2

/-- What every move that `P` allows keeps, every such step of the pool keeps. -/
theorem within_step_of_reports {J : σ → (ℕ → Option φ) → Prop} {P : σ → Report A R ε → Prop}
    {p : Pool A R ε α φ σ}
    (hprogram : ∀ input, rules.discipline.Keeps (fun _ _ => True) (fun _ _ => True)
      (rules.program input) rules.first)
    (hmoves : ∀ s f o s' f', J s f → P s o → Moves rules s f o s' f' → J s' f')
    (hp : p.Within rules J) (e : PoolEvent A R ε ι κ) (hP : Reports rules P p e) :
    ((machine rules).step p e).1.Within rules J :=
  have h := step_moves hprogram hp.1 e
  ⟨h.1, hmoves _ _ _ _ _ hp.2 hP h.2⟩

end Pool

end Tiangong
