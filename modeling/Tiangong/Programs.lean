import Mathlib.Logic.Function.Basic
import Tiangong.Calls
import Tiangong.Machines

/-!
# Interactive programs and their interleavings

A program asks for actions one at a time and continues with what each of them answers or raises.
Run alone, it is a call on the states its actions act on. Several programs over one state make a
pool, in which any of them may take the next action, a new one may start, a running one may be
lost, and the state may be changed from outside.

A discipline is an order of actions that a program keeps to: each action is asked for in a phase
that allows it. What a disciplined action keeps, every interleaving of disciplined programs keeps.
-/
open Function

namespace Tiangong

/-- A program over actions `A`, the action `a` answering in `R a`; everything may raise `ε`. -/
inductive Program (A : Type) (R : A → Type) (ε α : Type) where
  | done (a : α)
  | fail (e : ε)
  | ask (a : A) (next : Except ε (R a) → Program A R ε α)

namespace Program

variable {A : Type} {R : A → Type} {ε α β σ φ : Type}

/-- Ask for one action, and raise what it raises. -/
def perform (a : A) : Program A R ε (R a) :=
  ask a fun
    | .ok r => done r
    | .error e => fail e

protected def bind : Program A R ε α → (α → Program A R ε β) → Program A R ε β
  | done a, f => f a
  | fail e, _ => fail e
  | ask a next, f => ask a fun r => (next r).bind f

instance : Monad (Program A R ε) where
  pure := done
  bind := Program.bind

/-- `try … except`: the handler runs on what the program raises. -/
def catching (x : Program A R ε α) (handler : ε → Program A R ε α) : Program A R ε α :=
  match x with
  | done a => done a
  | fail e => handler e
  | ask a next => ask a fun r => (next r).catching handler

/-- Raise `error` when the refused condition holds. -/
def refuseIf (refused : Prop) [Decidable refused] (error : ε) : Program A R ε Unit :=
  if refused then fail error else done ()

@[simp] theorem pure_eq (a : α) : (pure a : Program A R ε α) = done a := rfl

@[simp] theorem done_bind (a : α) (f : α → Program A R ε β) : (done a >>= f) = f a := rfl

@[simp] theorem fail_bind (e : ε) (f : α → Program A R ε β) :
    ((fail e : Program A R ε α) >>= f) = fail e := rfl

@[simp] theorem ask_bind (a : A) (next : Except ε (R a) → Program A R ε α)
    (f : α → Program A R ε β) : (ask a next >>= f) = ask a fun r => next r >>= f := rfl

section Run

variable (h : (a : A) → Call ε σ (R a))

/-- The program run alone, its actions handled by `h`. -/
def run : Program A R ε α → Call ε σ α
  | done a => fun s => (.ok a, s)
  | fail e => fun s => (.error e, s)
  | ask a next => fun s => (next ((h a).on s).1).run ((h a).on s).2

@[simp] theorem run_done (a : α) (s : σ) : ((done a : Program A R ε α).run h).on s = (.ok a, s) :=
  rfl

@[simp] theorem run_fail (e : ε) (s : σ) :
    ((fail e : Program A R ε α).run h).on s = (.error e, s) := rfl

@[simp] theorem run_ask (a : A) (next : Except ε (R a) → Program A R ε α) (s : σ) :
    ((ask a next).run h).on s = ((next ((h a).on s).1).run h).on ((h a).on s).2 := rfl

theorem run_perform (a : A) (s : σ) : ((perform a).run h).on s = (h a).on s := by
  rw [perform, run_ask]
  rcases (h a).on s with ⟨_ | _, _⟩ <;> rfl

theorem run_bind (x : Program A R ε α) (f : α → Program A R ε β) (s : σ) :
    ((x >>= f).run h).on s = match (x.run h).on s with
      | (.ok a, s') => ((f a).run h).on s'
      | (.error e, s') => (.error e, s') := by
  induction x generalizing s with
  | done a => rfl
  | fail e => rfl
  | ask a next ih => exact ih _ _

theorem run_catching (x : Program A R ε α) (handler : ε → Program A R ε α) (s : σ) :
    ((x.catching handler).run h).on s = match (x.run h).on s with
      | (.ok a, s') => (.ok a, s')
      | (.error e, s') => ((handler e).run h).on s' := by
  induction x generalizing s with
  | done a => rfl
  | fail e => rfl
  | ask a next ih => exact ih _ _

end Run

end Program

/-- The order in which a program may ask for its actions: the phase that an answered action leads
to, and the actions that a phase allows. -/
structure Discipline (A : Type) (R : A → Type) (ε φ : Type) where
  allows : φ → A → Prop
  after : φ → (a : A) → Except ε (R a) → φ

namespace Discipline

variable {A : Type} {R : A → Type} {ε φ α β : Type} (d : Discipline A R ε φ)

/-- From phase `p` the program keeps to the discipline; it answers in `Q` and raises in `E`. -/
def Keeps (Q : α → φ → Prop) (E : ε → φ → Prop) : Program A R ε α → φ → Prop
  | .done a, p => Q a p
  | .fail e, p => E e p
  | .ask a next, p => d.allows p a ∧ ∀ r, Keeps Q E (next r) (d.after p a r)

variable {d} {Q : α → φ → Prop} {E : ε → φ → Prop} {p : φ}

theorem keeps_done {a : α} (h : Q a p) : d.Keeps Q E (.done a) p := h

theorem keeps_fail {e : ε} (h : E e p) : d.Keeps Q E (.fail e : Program A R ε α) p := h

variable {x : Program A R ε α} {f : α → Program A R ε β}

theorem Keeps.bind {R' : β → φ → Prop}
    (hx : d.Keeps Q E x p) (hf : ∀ a q, Q a q → d.Keeps R' E (f a) q) :
    d.Keeps R' E (x >>= f) p := by
  induction x generalizing p with
  | done a => exact hf a p hx
  | fail e => exact hx
  | ask a next ih => exact ⟨hx.1, fun r => ih r (hx.2 r)⟩

theorem Keeps.catching {x : Program A R ε α} {handler : ε → Program A R ε α}
    {E' : ε → φ → Prop} (hx : d.Keeps Q E x p)
    (hh : ∀ e q, E e q → d.Keeps Q E' (handler e) q) : d.Keeps Q E' (x.catching handler) p := by
  induction x generalizing p with
  | done a => exact hx
  | fail e => exact hh e p hx
  | ask a next ih => exact ⟨hx.1, fun r => ih r (hx.2 r)⟩

theorem Keeps.mono {Q' : α → φ → Prop} {E' : ε → φ → Prop}
    (hx : d.Keeps Q E x p) (hQ : ∀ a q, Q a q → Q' a q) (hE : ∀ e q, E e q → E' e q) :
    d.Keeps Q' E' x p := by
  induction x generalizing p with
  | done a => exact hQ a p hx
  | fail e => exact hE e p hx
  | ask a next ih => exact ⟨hx.1, fun r => ih r (hx.2 r)⟩

theorem keeps_perform {a : A} {Q : R a → φ → Prop} (hallows : d.allows p a)
    (hok : ∀ r, Q r (d.after p a (.ok r))) (herror : ∀ e, E e (d.after p a (.error e))) :
    d.Keeps Q E (Program.perform a) p := by
  refine ⟨hallows, ?_⟩
  rintro (e | r)
  · exact herror e
  · exact hok r

theorem keeps_refuseIf {refused : Prop} [Decidable refused] {e : ε} {Q : Unit → φ → Prop}
    (hQ : Q () p) (hE : E e p) :
    d.Keeps Q E (Program.refuseIf refused e : Program A R ε Unit) p := by
  unfold Program.refuseIf
  split
  · exact hE
  · exact hQ

/-- Every action of the program is allowed in phase `p` and leaves it. -/
def Stays (d : Discipline A R ε φ) (p : φ) (x : Program A R ε α) : Prop :=
  d.Keeps (fun _ q => q = p) (fun _ q => q = p) x p

theorem Stays.bind (hx : d.Stays p x) (hf : ∀ a, d.Stays p (f a)) : d.Stays p (x >>= f) :=
  Keeps.bind hx fun a _ hq => hq ▸ hf a

theorem Stays.then {Q : β → φ → Prop}
    (hx : d.Stays p x) (hE : ∀ e, E e p) (hf : ∀ a, d.Keeps Q E (f a) p) :
    d.Keeps Q E (x >>= f) p :=
  Keeps.bind (hx.mono (fun _ _ hq => hq) fun e _ hq => hq ▸ hE e) fun a _ hq => hq ▸ hf a

theorem Stays.keeps (hx : d.Stays p x) (hQ : ∀ a, Q a p) (hE : ∀ e, E e p) : d.Keeps Q E x p :=
  Keeps.mono hx (fun a _ hq => hq ▸ hQ a) fun e _ hq => hq ▸ hE e

theorem stays_done (a : α) : d.Stays p (.done a) := rfl

theorem stays_fail (e : ε) : d.Stays p (.fail e : Program A R ε α) := rfl

theorem stays_refuseIf (refused : Prop) [Decidable refused] (e : ε) :
    d.Stays p (Program.refuseIf refused e : Program A R ε Unit) :=
  keeps_refuseIf rfl rfl

lemma Stays.checks {refused : Prop} [Decidable refused] {e : ε} {f : Unit → Program A R ε β}
    (hf : ∀ a, d.Stays p (f a)) : d.Stays p (Program.refuseIf refused e >>= f) :=
  (stays_refuseIf refused e).bind hf

theorem stays_perform {a : A} (hallows : d.allows p a) (hafter : ∀ r, d.after p a r = p) :
    d.Stays p (Program.perform a : Program A R ε (R a)) :=
  keeps_perform hallows (fun r => hafter (.ok r)) fun e => hafter (.error e)

theorem Stays.catching {x : Program A R ε α} {handler : ε → Program A R ε α}
    (hx : d.Stays p x) (hh : ∀ e, d.Stays p (handler e)) : d.Stays p (x.catching handler) :=
  Keeps.catching hx fun e _ hq => hq ▸ hh e

end Discipline

/-- Programs in flight over one state. A program that was lost leaves its place empty. -/
structure Pool (A : Type) (R : A → Type) (ε α φ σ : Type) where
  world : σ
  flights : List (Option (φ × Program A R ε α))

/-- What can happen next: a program starts, asks for its next action, is lost, or something else
changes the state. An action outside the state is answered by the event. -/
inductive PoolEvent (A : Type) (R : A → Type) (ε ι κ : Type) where
  | start (input : ι)
  | resume (flight : ℕ) (outside : (a : A) → Except ε (R a))
  | lose (flight : ℕ)
  | outside (change : κ)

namespace Pool

variable {A : Type} {R : A → Type} {ε α φ σ ι κ : Type}

def phases (p : Pool A R ε α φ σ) (i : ℕ) : Option φ :=
  (p.flights[i]?.join).map Prod.fst

/-- How programs start and how the state answers their actions. -/
structure Rules (A : Type) (R : A → Type) (ε α φ σ ι κ : Type) where
  discipline : Discipline A R ε φ
  first : φ
  program : ι → Program A R ε α
  answer : ((a : A) → Except ε (R a)) → (a : A) → Call ε σ (R a)
  change : κ → σ → σ

variable (rules : Rules A R ε α φ σ ι κ)

/-- One step. It reports the flight, the action and its answer when an action was taken. -/
def step (p : Pool A R ε α φ σ) : PoolEvent A R ε ι κ →
    Pool A R ε α φ σ × Option (ℕ × (a : A) × Except ε (R a))
  | .start input =>
    ({ p with flights := p.flights ++ [some (rules.first, rules.program input)] }, none)
  | .lose i => ({ p with flights := p.flights.set i none }, none)
  | .outside change => ({ p with world := rules.change change p.world }, none)
  | .resume i outside =>
    match p.flights[i]?.join with
    | some (phase, .ask a next) =>
      let reply := (rules.answer outside a).on p.world
      ({ world := reply.2
         flights := p.flights.set i (some (rules.discipline.after phase a reply.1, next reply.1)) },
        some (i, ⟨a, reply.1⟩))
    | _ => (p, none)

def machine : Machine (Pool A R ε α φ σ) (PoolEvent A R ε ι κ)
    (Option (ℕ × (a : A) × Except ε (R a))) := ⟨step rules⟩

variable {rules} {p : Pool A R ε α φ σ}

/-- Every flight keeps to the discipline from its phase on. -/
def Disciplined (rules : Rules A R ε α φ σ ι κ) (p : Pool A R ε α φ σ) : Prop :=
  ∀ (i : ℕ) (phase : φ) (x : Program A R ε α), p.flights[i]?.join = some (phase, x) →
    rules.discipline.Keeps (fun _ _ => True) (fun _ _ => True) x phase

/-- What a step does to the state and to the phases: the programs are forgotten, only the
discipline is left of them. -/
inductive Moves (rules : Rules A R ε α φ σ ι κ) (s : σ) (f : ℕ → Option φ) :
    Option (ℕ × (a : A) × Except ε (R a)) → σ → (ℕ → Option φ) → Prop
  | idle : Moves rules s f none s f
  | start (i : ℕ) (h : f i = none) : Moves rules s f none s (update f i (some rules.first))
  | lose (i : ℕ) : Moves rules s f none s (update f i none)
  | outside (change : κ) : Moves rules s f none (rules.change change s) f
  | act (i : ℕ) (phase : φ) (a : A) (outside : (a : A) → Except ε (R a)) (h : f i = some phase)
    (hallows : rules.discipline.allows phase a) :
    Moves rules s f (some (i, ⟨a, ((rules.answer outside a).on s).1⟩))
      ((rules.answer outside a).on s).2
      (update f i
        (some (rules.discipline.after phase a ((rules.answer outside a).on s).1)))

lemma join_set {β : Type} (l : List (Option β)) (i : ℕ) (b : Option β) (j : ℕ) :
    (l.set i b)[j]?.join = if i = j then (if i < l.length then b else none) else l[j]?.join := by
  rw [List.getElem?_set]
  split
  · split <;> rfl
  · rfl

lemma lt_of_join {β : Type} {l : List (Option β)} {i : ℕ} {b : β}
    (h : l[i]?.join = some b) : i < l.length := by
  by_contra hlen
  rw [List.getElem?_eq_none (by omega)] at h
  cases h

lemma join_append {β : Type} (l : List (Option β)) (b : Option β) (j : ℕ) :
    (l ++ [b])[j]?.join = if j = l.length then b else l[j]?.join := by
  rw [List.getElem?_append]
  split
  · next h => rw [if_neg (by omega)]
  · next h =>
    split
    · next heq => simp [heq]
    · next hne =>
      rw [List.getElem?_eq_none (by simp; omega), List.getElem?_eq_none (by omega)]

theorem step_moves (hprogram : ∀ input, rules.discipline.Keeps (fun _ _ => True)
    (fun _ _ => True) (rules.program input) rules.first) (hp : p.Disciplined rules)
    (e : PoolEvent A R ε ι κ) :
    (step rules p e).1.Disciplined rules ∧
      Moves rules p.world p.phases (step rules p e).2 (step rules p e).1.world
        (step rules p e).1.phases := by
  cases e with
  | start input =>
    refine ⟨?_, ?_⟩
    · intro i phase x hx
      simp only [step, join_append] at hx
      split at hx
      · cases hx
        exact hprogram input
      · exact hp i phase x hx
    · have hfree : p.phases p.flights.length = none := by
        simp [phases]
      have hphases : (step rules p (.start input)).1.phases =
          update p.phases p.flights.length (some rules.first) := by
        funext j
        simp only [phases, step, join_append, update_apply]
        split <;> rfl
      rw [hphases]
      exact .start _ hfree
  | lose i =>
    refine ⟨?_, ?_⟩
    · intro j phase x hx
      simp only [step, join_set] at hx
      split at hx
      · split at hx <;> cases hx
      · exact hp j phase x hx
    · have hphases : (step rules p (.lose i)).1.phases = update p.phases i none := by
        funext j
        simp only [phases, step, join_set, update_apply, eq_comm (a := i)]
        split
        · split <;> rfl
        · rfl
      rw [hphases]
      exact .lose i
  | outside change => exact ⟨hp, .outside change⟩
  | resume i outside =>
    cases hflight : p.flights[i]?.join with
    | none =>
      simp only [step, hflight]
      exact ⟨hp, .idle⟩
    | some flight =>
      obtain ⟨phase, x⟩ := flight
      cases x with
      | done a =>
        simp only [step, hflight]
        exact ⟨hp, .idle⟩
      | fail e =>
        simp only [step, hflight]
        exact ⟨hp, .idle⟩
      | ask a next =>
        have hkeeps := hp i phase _ hflight
        refine ⟨?_, ?_⟩
        · intro j phase' x' hx
          simp only [step, hflight, join_set] at hx
          split at hx
          · split at hx
            · cases hx
              exact hkeeps.2 _
            · cases hx
          · exact hp j phase' x' hx
        · have hphases : (step rules p (.resume i outside)).1.phases = update p.phases i
              (some (rules.discipline.after phase a
                ((rules.answer outside a).on p.world).1)) := by
            funext j
            simp only [phases, step, hflight, join_set, update_apply, eq_comm (a := i)]
            split
            · rw [if_pos (lt_of_join hflight)]
              rfl
            · rfl
          rw [hphases]
          simp only [step, hflight]
          exact .act i phase a outside (by simp [phases, hflight]) hkeeps.1

/-- The empty pool over a state. -/
def idle (s : σ) : Pool A R ε α φ σ := ⟨s, []⟩

theorem idle_disciplined (s : σ) : (idle s : Pool A R ε α φ σ).Disciplined rules := by
  intro i phase x hx
  simp [idle] at hx

@[simp] theorem idle_phases (s : σ) : (idle s : Pool A R ε α φ σ).phases = fun _ => none := by
  funext i
  simp [phases, idle]

section Invariant

variable {J : σ → (ℕ → Option φ) → Prop}

/-- Disciplined flights over a state and phases in `J`. -/
def Within (rules : Rules A R ε α φ σ ι κ) (J : σ → (ℕ → Option φ) → Prop)
    (p : Pool A R ε α φ σ) : Prop :=
  p.Disciplined rules ∧ J p.world p.phases

theorem within_step (hprogram : ∀ input, rules.discipline.Keeps (fun _ _ => True)
    (fun _ _ => True) (rules.program input) rules.first)
    (hmoves : ∀ s f o s' f', J s f → Moves rules s f o s' f' → J s' f')
    (hp : p.Within rules J) (e : PoolEvent A R ε ι κ) :
    ((machine rules).step p e).1.Within rules J :=
  have h := step_moves hprogram hp.1 e
  ⟨h.1, hmoves _ _ _ _ _ hp.2 h.2⟩

end Invariant

end Pool

end Tiangong
