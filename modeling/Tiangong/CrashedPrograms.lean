import Tiangong.Programs

/-!
# Programs that are lost on their way

A process that dies takes its program with it: some of the program's actions were performed, the
rest never are. What every action of a discipline keeps, a lost program keeps as well.
-/
namespace Tiangong

/-- A call that does not raise answers. -/
theorem Call.exists_of_toBool {ε σ α : Type} {x : Call ε σ α} {s : σ}
    (h : (x.on s).1.toBool = true) : ∃ a t, x.on s = (.ok a, t) := by
  rcases hx : x.on s with ⟨e | a, t⟩
  · rw [hx] at h
    cases h
  · exact ⟨a, t, rfl⟩

namespace Program

variable {A : Type} {R : A → Type} {ε α β γ σ φ : Type}

/-- Carry on with the value of a computation, or raise. -/
def ofExcept : Except ε α → Program A R ε α
  | .ok a => done a
  | .error e => fail e

@[simp] theorem ofExcept_ok (a : α) : (ofExcept (.ok a) : Program A R ε α) = done a := rfl

@[simp] theorem ofExcept_error (e : ε) : (ofExcept (.error e) : Program A R ε α) = fail e := rfl

/-- One program after the other for the elements of a list, with the list of their answers. -/
def each (f : β → Program A R ε α) : List β → Program A R ε (List α)
  | [] => done []
  | b :: bs => do
    let a ← f b
    let as ← each f bs
    done (a :: as)

/-- An action and what it answered or raised. -/
abbrev Performed (A : Type) (R : A → Type) (ε : Type) := (a : A) × Except ε (R a)

section LostAfter

variable (h : (a : A) → Call ε σ (R a))

/-- A program that is lost after `k` actions, unless it ends before: what was performed, and the
state that is left. -/
def lostAfter : ℕ → Program A R ε α → σ → List (Performed A R ε) × σ
  | k + 1, ask a next, s =>
    let rest := lostAfter k (next ((h a).on s).1) ((h a).on s).2
    (⟨a, ((h a).on s).1⟩ :: rest.1, rest.2)
  | _, _, s => ([], s)

@[simp] theorem lostAfter_zero (x : Program A R ε α) (s : σ) : lostAfter h 0 x s = ([], s) := by
  cases x <;> rfl

@[simp] theorem lostAfter_done (k : ℕ) (a : α) (s : σ) :
    lostAfter h k (done a : Program A R ε α) s = ([], s) := by
  cases k <;> rfl

@[simp] theorem lostAfter_fail (k : ℕ) (e : ε) (s : σ) :
    lostAfter h k (fail e : Program A R ε α) s = ([], s) := by
  cases k <;> rfl

lemma lostAfter_ask (k : ℕ) (a : A) (next : Except ε (R a) → Program A R ε α) (s : σ) :
    lostAfter h (k + 1) (ask a next) s =
      (⟨a, ((h a).on s).1⟩ :: (lostAfter h k (next ((h a).on s).1) ((h a).on s).2).1,
        (lostAfter h k (next ((h a).on s).1) ((h a).on s).2).2) := rfl

variable {s s' : σ}

theorem lostAfter_perform_of_ok {a : A} {f : R a → Program A R ε β} {r : R a}
    (hok : (h a).on s = (.ok r, s')) (k : ℕ) : lostAfter h (k + 1) (perform a >>= f) s =
      (⟨a, .ok r⟩ :: (lostAfter h k (f r) s').1, (lostAfter h k (f r) s').2) := by
  rw [perform, ask_bind, lostAfter_ask, hok]
  rfl

theorem lostAfter_perform_of_error {a : A} {f : R a → Program A R ε β} {e : ε}
    (herror : (h a).on s = (.error e, s')) (k : ℕ) :
    lostAfter h (k + 1) (perform a >>= f) s = ([⟨a, .error e⟩], s') := by
  rw [perform, ask_bind, lostAfter_ask, herror, fail_bind, lostAfter_fail]

variable {h}

variable {x : Program A R ε α} {f : α → Program A R ε β}

theorem run_bind_of_ok {t : σ} {a : α}
    (hok : (x.run h).on s = (.ok a, t)) : ((x >>= f).run h).on s = ((f a).run h).on t := by
  rw [run_bind, hok]

theorem run_bind_of_error {e : ε} (herror : (x.run h).on s = (.error e, s')) :
    ((x >>= f).run h).on s = (.error e, s') := by
  rw [run_bind, herror]

/-- An accepted sequence: its first part answered, and the rest answered from there. -/
theorem run_bind_eq_ok {b : β} : ((x >>= f).run h).on s = (.ok b, s') ↔
      ∃ a t, (x.run h).on s = (.ok a, t) ∧ ((f a).run h).on t = (.ok b, s') := by
  rw [run_bind]
  rcases (x.run h).on s with ⟨e | a, t⟩
  · simp
  · constructor
    · intro hb
      exact ⟨a, t, rfl, hb⟩
    · rintro ⟨a', t', hat, hb⟩
      cases hat
      exact hb

end LostAfter

end Program

namespace Discipline

variable {A : Type} {R : A → Type} {ε α β σ φ : Type} {d : Discipline A R ε φ} {p : φ}
  {Q : α → φ → Prop} {E : ε → φ → Prop}

theorem keeps_ofExcept {x : Except ε α} (hok : ∀ a, x = .ok a → Q a p)
    (herror : ∀ e, x = .error e → E e p) :
    d.Keeps Q E (Program.ofExcept x : Program A R ε α) p := by
  cases x with
  | ok a => exact hok a rfl
  | error e => exact herror e rfl

theorem keeps_refuseIf_of_not {refused : Prop} [Decidable refused] {e : ε} {Q : Unit → φ → Prop}
    (hQ : ¬ refused → Q () p) (hE : refused → E e p) :
    d.Keeps Q E (Program.refuseIf refused e : Program A R ε Unit) p := by
  unfold Program.refuseIf
  split
  · next h => exact hE h
  · next h => exact hQ h

/-- An action that is allowed in a phase and leaves it. -/
def Free (d : Discipline A R ε φ) (p : φ) (a : A) : Prop :=
  d.allows p a ∧ ∀ r, d.after p a r = p

theorem stays_ofExcept (x : Except ε α) : d.Stays p (Program.ofExcept x) := by
  cases x <;> rfl

lemma Stays.parses {x : Except ε α} {f : α → Program A R ε β} (hf : ∀ a, d.Stays p (f a)) :
    d.Stays p (Program.ofExcept x >>= f) := (stays_ofExcept x).bind hf

/-- In a phase that allows everything and is never left, every program stays. -/
theorem stays_of_free (hfree : ∀ a, d.allows p a) (hafter : ∀ a r, d.after p a r = p)
    (x : Program A R ε α) : d.Stays p x := by
  induction x with
  | done a => exact stays_done a
  | fail e => exact stays_fail e
  | ask a next ih =>
    refine ⟨hfree a, fun r => ?_⟩
    rw [hafter a r]
    exact ih r

/-- One program after the other: what each adds to the answers read so far. -/
theorem keeps_each {f : β → Program A R ε α} {Q : List β → List α → φ → Prop} {read : List β}
    {answers : List α} {bs : List β} (hp : Q read answers p)
    (hf : ∀ read answers q, ∀ b ∈ bs, Q read answers q →
      d.Keeps (fun a q' => Q (read ++ [b]) (answers ++ [a]) q') E (f b) q) :
    d.Keeps (fun as q => Q (read ++ bs) (answers ++ as) q) E (Program.each f bs) p := by
  induction bs generalizing read answers p with
  | nil =>
    rw [List.append_nil]
    show Q read (answers ++ []) p
    rwa [List.append_nil]
  | cons b bs ih =>
    have hrest := fun read answers q b' hb' =>
      hf read answers q b' (List.mem_cons_of_mem b hb')
    refine (hf read answers p b List.mem_cons_self hp).bind fun a q hq => ?_
    refine (ih hq hrest).bind fun as q' hq' => ?_
    show Q (read ++ b :: bs) (answers ++ a :: as) q'
    simpa using hq'

theorem Stays.each {f : β → Program A R ε α} {bs : List β} (hf : ∀ b ∈ bs, d.Stays p (f b)) :
    d.Stays p (Program.each f bs) := by
  induction bs with
  | nil => exact stays_done _
  | cons b bs ih =>
    refine (hf b List.mem_cons_self).bind fun a => ?_
    refine (ih fun b' hb' => hf b' (List.mem_cons_of_mem _ hb')).bind fun as => ?_
    exact stays_done _

/-- What every allowed action keeps, a disciplined program keeps wherever it is lost. The invariant
may speak of all that was performed. -/
theorem Keeps.lostAfter {h : (a : A) → Call ε σ (R a)}
    {J : List (Program.Performed A R ε) → σ → φ → Prop}
    (hact : ∀ done s q a, J done s q → d.allows q a →
      J (done ++ [⟨a, ((h a).on s).1⟩]) ((h a).on s).2 (d.after q a ((h a).on s).1))
    {x : Program A R ε α} (hx : d.Keeps Q E x p) {done : List (Program.Performed A R ε)} {s : σ}
    (hJ : J done s p) (k : ℕ) :
    ∃ q, J (done ++ (x.lostAfter h k s).1) (x.lostAfter h k s).2 q := by
  induction x generalizing p done s k with
  | done a => exact ⟨p, by simpa using hJ⟩
  | fail e => exact ⟨p, by simpa using hJ⟩
  | ask a next ih =>
    cases k with
    | zero => exact ⟨p, by simpa using hJ⟩
    | succ k =>
      obtain ⟨q, hq⟩ := ih _ (hx.2 ((h a).on s).1) (hact done s p a hJ hx.1) k
      refine ⟨q, ?_⟩
      rw [Program.lostAfter_ask]
      simpa using hq

end Discipline

end Tiangong
