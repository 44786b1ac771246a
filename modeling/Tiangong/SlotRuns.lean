import Mathlib.Data.List.Induction
import Tiangong.SlotCalls

/-!
# The model calls of a plan

Calls of any number of sagas run side by side over one store, and any of them may be lost between
two actions. Marking a marker does not say who may go on, so a slot whose marker is dispatched is
dispatched again; without that each slot is called once.
-/
open Function

namespace Tiangong.Response

abbrev CallAction := SagaCall × SagaAction

abbrev CallAction.Answer (action : CallAction) : Type := action.2.Answer

/-- Any call may start at any time. -/
def sagaRules : Pool.Rules CallAction CallAction.Answer SagaFault Unit SagaPhase SagaStore SagaCall
    Empty where
  discipline := Discipline.labelled slotDiscipline
  first := .first
  program call := call.program.labelled call
  answer outside action := SagaStore.answer (fun a => outside (action.1, a)) action.2
  change change := change.elim

abbrev SagaPool := Pool CallAction CallAction.Answer SagaFault Unit SagaPhase SagaStore

abbrev SagaEvent := PoolEvent CallAction CallAction.Answer SagaFault SagaCall Empty

abbrev SagaReport := Pool.Report CallAction CallAction.Answer SagaFault

namespace SagaReport

/-- The adapter was called for the slot, by a flight from `first` on. -/
def callsFrom (first : ℕ) (key : SlotKey) : SagaReport → Bool
  | some (i, ⟨(_, .transport request), _⟩) => first ≤ i && request.key = key
  | _ => false

def calls (key : SlotKey) : SagaReport → Bool := callsFrom 0 key

end SagaReport

/-- No slot of the plan before this one has a result that succeeded. -/
def SagaStore.NoEarlierSuccess (s : SagaStore) (plan : ModelAttemptPlan) (slotNo : ℕ) : Prop :=
  ∀ earlier ∈ plan.providerSlots, earlier.slotNo.val < slotNo → ∀ r ∈ s.results.rows,
    r.key = (plan.modelAttemptPlanId, earlier.slotNo.val) → r.status ≠ .succeeded

/-- A marker that is marked is pending, and where a slot is executed by itself the adapter is called
only as long as no earlier slot has succeeded. -/
def SagaStore.InTurn (s : SagaStore) : SagaReport → Prop
  | some (_, ⟨(_, .markDispatched markerId _), _⟩) =>
    ∃ m ∈ s.markers.rows, m.markerId = markerId ∧ m.status = .pending
  | some (_, ⟨(.executeSlot plan _, .transport request), _⟩) =>
    s.NoEarlierSuccess plan request.slotNo
  | _ => True

/-- What the calls in flight know is so, and at most one of them has marked the marker of a slot. -/
structure SagaInv (s : SagaStore) (f : ℕ → Option SagaPhase) : Prop where
  oneEach : s.OneEach
  holds : ∀ i p, f i = some p → p.Holds s
  marked : ∀ i j p q key, f i = some p → f j = some q → p.marked = some key →
    q.marked = some key → i = j

namespace SagaInv

variable {s s' : SagaStore} {f f' : ℕ → Option SagaPhase} {o : SagaReport}

theorem empty : SagaInv .empty fun _ => none where
  oneEach := SagaStore.oneEach_empty
  holds i p h := by cases h
  marked i j p q key h := by cases h

variable {i : ℕ}

lemma not_dispatched (h : SagaInv s f) {p : SagaPhase} (hp : f i = some p)
    {key : SlotKey} {markerId : Canon} (hheld : p.held = some (key, markerId))
    (hpending : ∃ m ∈ s.markers.rows, m.markerId = markerId ∧ m.status = .pending) :
    ¬ s.SlotDispatched key := by
  rintro ⟨m, hm, hkey, hdispatched⟩
  obtain ⟨m₁, hm₁, hid₁, hkey₁⟩ := (h.holds i p hp).held key markerId hheld
  obtain ⟨m₂, hm₂, hid₂, hpending₂⟩ := hpending
  have h₁ : m = m₁ := h.oneEach.markers.eq hm hm₁ (hkey.trans hkey₁.symm)
  have h₂ : m₁ = m₂ := s.markers.eq_of_key_eq hm₁ hm₂ (hid₁.trans hid₂.symm)
  rw [h₁, h₂, hpending₂] at hdispatched
  cases hdispatched

lemma marked_after (h : SagaInv s f) {p : SagaPhase} (hp : f i = some p)
    {call : SagaCall} {a : SagaAction} {reply : Except SagaFault a.Answer}
    (hallows : (slotDiscipline call).allows p a)
    (hturn : s.InTurn (some (i, ⟨(call, a), reply⟩))) {key : SlotKey}
    (hmarked : ((slotDiscipline call).after p a reply).marked = some key) :
    p.marked = some key ∨ ¬ s.SlotDispatched key := by
  cases a with
  | markDispatched markerId nowMs =>
    cases reply with
    | error e => exact .inl hmarked
    | ok marked =>
      obtain ⟨key', hheld⟩ := hallows
      have heq : key' = key := by
        change p.held.map Prod.fst = some key at hmarked
        rw [hheld] at hmarked
        exact Option.some.inj hmarked
      exact .inr (h.not_dispatched hp (heq ▸ hheld) hturn)
  | transport request => cases hmarked
  | getResult planId slotNo =>
    rcases reply with e | (_ | result)
    · exact .inl hmarked
    · exact .inl hmarked
    · exact .inl (by simpa [slotDiscipline] using hmarked)
  | getMarker planId slotNo => rcases reply with e | (_ | marker) <;> exact .inl hmarked
  | createMarker marker => rcases reply with e | (_ | _) <;> exact .inl hmarked
  | putResult result =>
    cases reply with
    | error e => exact .inl hmarked
    | ok new => exact .inl (by simpa [slotDiscipline] using hmarked)
  | now | getHead effectId | commitLife stage | putPlan plan | putOutcome outcome
  | putHead head expected | putCommit commit | putStatus status => exact .inl hmarked

/-- Every move in turn keeps the invariant. -/
theorem moves (h : SagaInv s f) (hturn : s.InTurn o) (hm : Pool.Moves sagaRules s f o s' f') :
    SagaInv s' f' := by
  cases hm with
  | idle => exact h
  | start i hfree =>
    refine ⟨h.oneEach, fun j p hp => ?_, fun j k p q key hp hq hpm hqm => ?_⟩
    · rw [update_apply] at hp
      split at hp
      · cases hp
        exact SagaPhase.holds_first s
      · exact h.holds j p hp
    · rw [update_apply] at hp hq
      split at hp
      · cases hp
        cases hpm
      · split at hq
        · cases hq
          cases hqm
        · exact h.marked j k p q key hp hq hpm hqm
  | lose i =>
    refine ⟨h.oneEach, fun j p hp => ?_, fun j k p q key hp hq hpm hqm => ?_⟩
    · rw [update_apply] at hp
      split at hp
      · cases hp
      · exact h.holds j p hp
    · rw [update_apply] at hp hq
      split at hp
      · cases hp
      · split at hq
        · cases hq
        · exact h.marked j k p q key hp hq hpm hqm
  | outside change => exact change.elim
  | act i p₀ action outside hi hallows =>
    obtain ⟨call, a⟩ := action
    have hanswer := SagaStore.answer_grows (fun b => outside (call, b)) a h.oneEach
    have hmine : ∀ {q key}, ((slotDiscipline call).after p₀ a
        ((SagaStore.answer (fun b => outside (call, b)) a).on s).1) = q → q.marked = some key →
        p₀.marked = some key ∨ ¬ s.SlotDispatched key := by
      intro q key heq hq
      exact h.marked_after hi hallows hturn (heq ▸ hq)
    refine ⟨hanswer.2, fun j p hp => ?_, fun j k p q key hp hq hpm hqm => ?_⟩
    · rw [update_apply] at hp
      split at hp
      · cases hp
        exact (h.holds i p₀ hi).after h.oneEach hallows
      · exact (h.holds j p hp).grows hanswer.1
    · rw [update_apply] at hp hq
      split at hp
      · next hj =>
        split at hq
        · next hk => rw [hj, hk]
        · rcases hmine (Option.some.inj hp) hpm with hbefore | hfresh
          · exact hj.trans (h.marked i k p₀ q key hi hq hbefore hqm)
          · exact absurd ((h.holds k q hq).marked key hqm) hfresh
      · split at hq
        · next hk =>
          rcases hmine (Option.some.inj hq) hqm with hbefore | hfresh
          · exact (h.marked j i p p₀ key hp hi hpm hbefore).trans hk.symm
          · exact absurd ((h.holds j p hp).marked key hpm) hfresh
        · exact h.marked j k p q key hp hq hpm hqm

/-- The slot is dispatched, and no call from `first` on is about to call the adapter for it. -/
def Spent (first : ℕ) (key : SlotKey) (s : SagaStore) (f : ℕ → Option SagaPhase) : Prop :=
  s.SlotDispatched key ∧ ∀ i p, first ≤ i → f i = some p → p.marked ≠ some key

variable {first : ℕ} {key : SlotKey}

lemma moves_spent (h : SagaInv s f) (hturn : s.InTurn o)
    (hm : Pool.Moves sagaRules s f o s' f') (hspent : Spent first key s f) :
    Spent first key s' f' := by
  cases hm with
  | idle => exact hspent
  | start i hfree =>
    refine ⟨hspent.1, fun j p hj hp => ?_⟩
    rw [update_apply] at hp
    split at hp
    · cases hp
      exact fun hmarked => by cases hmarked
    · exact hspent.2 j p hj hp
  | lose i =>
    refine ⟨hspent.1, fun j p hj hp => ?_⟩
    rw [update_apply] at hp
    split at hp
    · cases hp
    · exact hspent.2 j p hj hp
  | outside change => exact change.elim
  | act i p₀ action outside hi hallows =>
    obtain ⟨call, a⟩ := action
    have hanswer := SagaStore.answer_grows (fun b => outside (call, b)) a h.oneEach
    refine ⟨hspent.1.grows hanswer.1, fun j p hj hp hmarked => ?_⟩
    rw [update_apply] at hp
    split at hp
    · next heq =>
      subst heq
      cases hp
      rcases h.marked_after hi hallows hturn hmarked with hbefore | hfresh
      · exact hspent.2 j p₀ hj hi hbefore
      · exact hfresh hspent.1
    · exact hspent.2 j p hj hp hmarked

/-- From a spent state the adapter is not called. -/
lemma moves_quiet (hm : Pool.Moves sagaRules s f o s' f') (hspent : Spent first key s f) :
    SagaReport.callsFrom first key o = false := by
  cases hm with
  | idle => rfl
  | start i hfree => rfl
  | lose i => rfl
  | outside change => rfl
  | act i p₀ action outside hi hallows =>
    obtain ⟨call, a⟩ := action
    cases a with
    | transport request =>
      have hmarked : p₀.marked = some request.key := hallows.1
      simp only [SagaReport.callsFrom, Bool.and_eq_false_iff, decide_eq_false_iff_not]
      by_cases hi' : first ≤ i
      · refine .inr fun heq => ?_
        exact hspent.2 i p₀ hi' hi (heq ▸ hmarked)
      · exact .inl hi'
    | _ => rfl

/-- The call of the adapter leaves a spent state. -/
lemma moves_fires (h : SagaInv s f) (hm : Pool.Moves sagaRules s f o s' f')
    (hcalls : SagaReport.calls key o = true) : Spent 0 key s' f' := by
  cases hm with
  | idle => cases hcalls
  | start i hfree => cases hcalls
  | lose i => cases hcalls
  | outside change => cases hcalls
  | act i p₀ action outside hi hallows =>
    obtain ⟨call, a⟩ := action
    cases a with
    | transport request =>
      have hkey : request.key = key := by
        simpa [SagaReport.calls, SagaReport.callsFrom] using hcalls
      have hmarked : p₀.marked = some key := hkey ▸ hallows.1
      refine ⟨(h.holds i p₀ hi).marked key hmarked, fun j p _ hp hp' => ?_⟩
      rw [update_apply] at hp
      split at hp
      · cases hp
        cases hp'
      · next hne => exact hne (h.marked j i p p₀ key hp hi hp' hmarked)
    | _ => cases hcalls

/-- A slot is called after no slot of its plan that succeeded. -/
lemma moves_follows (h : SagaInv s f) (hturn : s.InTurn o)
    (hm : Pool.Moves sagaRules s f o s' f') {call : SagaCall}
    {request : TransportRequest} {reply : Except SagaFault (Option TransportOutcome)}
    (ho : o = some (i, ⟨(call, .transport request), reply⟩)) :
    s.NoEarlierSuccess call.plan request.slotNo := by
  cases hm with
  | idle => cases ho
  | start i hfree => cases ho
  | lose i => cases ho
  | outside change => cases ho
  | act i p₀ action outside hi hallows =>
    cases ho
    cases call with
    | executeSlot plan slot => exact hturn
    | runPlan plan held =>
      intro earlier hearlier hlt r hr hkey
      obtain ⟨r', hr', hkey', hstatus⟩ :=
        (h.holds _ _ hi).failed _ (hallows.2.2 earlier hearlier hlt)
      have heq : r = r' := h.oneEach.results.eq hr hr' (hkey.trans hkey'.symm)
      rwa [heq]
    | begin plan => exact hallows.2.2.elim
    | commitResponse plan outcome lifeId text code => exact hallows.2.2.elim

end SagaInv

/-- Calls of any number of sagas over a new store. -/
def sagaMachine : Machine SagaPool SagaEvent SagaReport := Pool.machine sagaRules

def newSagas : SagaPool := Pool.idle .empty

/-- Every step of the run is in turn. -/
abbrev InTurn (pool : SagaPool) (event : SagaEvent) : Prop :=
  Pool.Reports sagaRules SagaStore.InTurn pool event

lemma call_keeps (call : SagaCall) : sagaRules.discipline.Keeps (fun _ _ => True)
    (fun _ _ => True) (sagaRules.program call) sagaRules.first :=
  Discipline.Keeps.labelled (program_keeps call .first)

namespace SagaPool

variable {pool : SagaPool} {event : SagaEvent}

theorem step_moves (h : pool.Within sagaRules SagaInv) : Pool.Moves sagaRules pool.world
    pool.phases (sagaMachine.step pool event).2 (sagaMachine.step pool event).1.world
    (sagaMachine.step pool event).1.phases :=
  (Pool.step_moves call_keeps h.1 event).2

lemma step_within (h : pool.Within sagaRules SagaInv) (hturn : InTurn pool event) :
    (sagaMachine.step pool event).1.Within sagaRules SagaInv :=
  Pool.within_step_of_reports call_keeps (fun _ _ _ _ _ => SagaInv.moves) h event hturn

lemma newSagas_within : newSagas.Within sagaRules SagaInv := by
  refine ⟨Pool.idle_disciplined _, ?_⟩
  rw [newSagas, Pool.idle_phases]
  exact SagaInv.empty

variable {events : List SagaEvent}

lemma exec_within (hturn : sagaMachine.Steps InTurn newSagas events) :
    (sagaMachine.exec newSagas events).Within sagaRules SagaInv :=
  Machine.exec_preserves_of_steps _ (fun _ _ h hevent => step_within h hevent) newSagas_within hturn

lemma spent_step {first : ℕ} {key : SlotKey} (h : pool.Within sagaRules SagaInv)
    (hturn : InTurn pool event) (hspent : SagaInv.Spent first key pool.world pool.phases) :
    SagaInv.Spent first key (sagaMachine.step pool event).1.world
      (sagaMachine.step pool event).1.phases :=
  SagaInv.moves_spent h.2 hturn (step_moves h) hspent

/-- The flights that are about to call the adapter for the slot have all started before. -/
def Closed (first : ℕ) (key : SlotKey) (pool : SagaPool) : Prop :=
  SagaInv.Spent first key pool.world pool.phases

lemma calls_of_closed {first : ℕ} {key : SlotKey} (h : pool.Within sagaRules SagaInv)
    (hclosed : Closed first key pool)
    (hturn : sagaMachine.Steps InTurn pool events) :
    (sagaMachine.trace pool events).countP (fun entry => entry.2.2.callsFrom first key) = 0 := by
  have hquiet : ∀ (p : SagaPool) (e : SagaEvent), p.Within sagaRules SagaInv → InTurn p e →
      Closed first key p → (sagaMachine.step p e).2.callsFrom first key = false :=
    fun _ _ h _ hspent => SagaInv.moves_quiet (step_moves h) hspent
  have hkeep : ∀ (p : SagaPool) (e : SagaEvent), p.Within sagaRules SagaInv → InTurn p e →
      Closed first key p → Closed first key (sagaMachine.step p e).1 :=
    fun _ _ h hevent hspent => spent_step h hevent hspent
  exact Machine.countP_trace_of_spent_of_steps (fun _ _ h hevent => step_within h hevent) hkeep
    hquiet h hclosed hturn

/-- A slot is called at most once. -/
lemma calls_le_one (key : SlotKey)
    (hturn : sagaMachine.Steps InTurn newSagas events) :
    (sagaMachine.trace newSagas events).countP (fun entry => entry.2.2.calls key) ≤ 1 := by
  have hfire : ∀ (p : SagaPool) (e : SagaEvent), p.Within sagaRules SagaInv → InTurn p e →
      (sagaMachine.step p e).2.calls key = true → Closed 0 key (sagaMachine.step p e).1 :=
    fun _ _ h _ hcalls => SagaInv.moves_fires h.2 (step_moves h) hcalls
  have hquiet : ∀ (p : SagaPool) (e : SagaEvent), p.Within sagaRules SagaInv → InTurn p e →
      Closed 0 key p → (sagaMachine.step p e).2.calls key = false :=
    fun _ _ h _ hspent => SagaInv.moves_quiet (step_moves h) hspent
  have hkeep : ∀ (p : SagaPool) (e : SagaEvent), p.Within sagaRules SagaInv → InTurn p e →
      Closed 0 key p → Closed 0 key (sagaMachine.step p e).1 :=
    fun _ _ h hevent hspent => spent_step h hevent hspent
  exact Machine.countP_trace_le_one_of_steps (fun _ _ h hevent => step_within h hevent) hfire hkeep
    hquiet newSagas_within hturn

end SagaPool

/-- At most one model call for each slot: no slot is called twice, none after one that succeeded,
and none by a call that starts when its marker is dispatched. -/
structure SlotsCalledOnce (events : List SagaEvent) : Prop where
  once : ∀ key, (sagaMachine.trace newSagas events).countP (fun entry => entry.2.2.calls key) ≤ 1
  follows : ∀ entry ∈ sagaMachine.trace newSagas events, ∀ i call request reply,
    entry.2.2 = some (i, ⟨(call, .transport request), reply⟩) →
      entry.1.world.NoEarlierSuccess call.plan request.slotNo
  dispatched : ∀ pre post key, events = pre ++ post →
    (sagaMachine.exec newSagas pre).world.SlotDispatched key →
      (sagaMachine.trace (sagaMachine.exec newSagas pre) post).countP (fun entry =>
        entry.2.2.callsFrom (sagaMachine.exec newSagas pre).flights.length key) = 0

/-- In a run that is in turn each slot of a plan is called at most once. -/
theorem slots_called_once {events : List SagaEvent}
    (hturn : sagaMachine.Steps InTurn newSagas events) : SlotsCalledOnce events where
  once key := SagaPool.calls_le_one key hturn
  follows := by
    intro entry hentry i call request reply ho
    obtain ⟨pre, event, post, rfl, rfl⟩ := (Machine.mem_trace _).mp hentry
    obtain ⟨hpre, hevent, -⟩ := (sagaMachine.steps_append _ _ _ _).mp hturn
    have hwithin := SagaPool.exec_within hpre
    exact SagaInv.moves_follows hwithin.2 hevent (SagaPool.step_moves hwithin) ho
  dispatched := by
    rintro pre post key rfl hdispatched
    obtain ⟨hpre, hpost⟩ := (sagaMachine.steps_append _ _ _ _).mp hturn
    have hwithin := SagaPool.exec_within hpre
    refine SagaPool.calls_of_closed hwithin ⟨hdispatched, fun i p hi hp => ?_⟩ hpost
    -- No call from there on is in flight yet.
    rw [Pool.phases, List.getElem?_eq_none hi] at hp
    cases hp

section Sample

lemma one_isJsonNat : 1 < 9007199254740992 := by decide

def sampleSlot : ProviderSlot where
  slotNo := ⟨1, one_isJsonNat⟩
  provider := ⟨py "provider", by decide⟩
  model := ⟨py "model", by decide⟩
  transportProfileSha256 := .sha256 (.text "profile")
  slot_pos := by decide

def samplePlan : ModelAttemptPlan where
  modelAttemptPlanId := .text "plan"
  modelEffectId := .text "effect"
  requestId := .text "request"
  runId := .text "run"
  runSequence := 1
  generation := 0
  rootExperienceId := ⟨py "root", by decide⟩
  responseEpisodeId := ⟨py "episode", by decide⟩
  providerSlots := [sampleSlot]
  planRevision := 1
  requestSha256 := .sha256 (.text "request")
  rest := .text "rest"
  planSha256 := .sha256 (.text "plan")
  slots_ne := by decide
  slots_sorted := by decide

/-- A clock that stands still and a model that fails. -/
def sampleOutside : (action : CallAction) → Except SagaFault action.Answer
  | (_, .now) => .ok ⟨1, one_isJsonNat⟩
  | (_, .transport _) => .ok (some
    { status := "FAILED_FINAL", text := [], providerResponseId := [], transportRunId := []
      finishReason := [], errorCode := [], responseSchemaValid := false, retryable := none })
  | _ => .error .outside

/-- A run of the plan that takes `steps` actions. -/
def sampleCall (flight steps : ℕ) : List SagaEvent :=
  .start (.runPlan samplePlan none) :: List.replicate steps (.resume flight sampleOutside)

theorem slots_called_once_sample : SlotsCalledOnce (sampleCall 0 12) :=
  slots_called_once ⟨trivial, trivial, trivial, trivial, trivial, trivial,
    ⟨newMarker samplePlan 1 1, by decide +kernel, rfl, rfl⟩, trivial, trivial, trivial, trivial,
    trivial, trivial, trivial⟩

/-- The process is lost when the adapter was called, and a new one calls it again. -/
theorem dispatched_slot_called_again :
    ¬ SlotsCalledOnce (sampleCall 0 7 ++ .lose 0 :: sampleCall 1 6) := by
  intro h
  exact absurd (h.once (.text "plan", 1)) (by decide +kernel)

end Sample

end Tiangong.Response
