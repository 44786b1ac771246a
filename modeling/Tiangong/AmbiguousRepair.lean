import Tiangong.CrashReruns

/-!
# Ambiguity in the repair loop

An ambiguous outcome is the last entry of the log: no dispatch follows it. What the loop then
answers is the last disposition of a round on all entries that still fail, and only the last of
these entries decides whether that is a reconcile.
-/
namespace Tiangong

open RepairStore List Call

namespace RepairLoop

variable {ξ : Type} {L : RepairLoop ξ} {log : List RepairEvent} {w : RepairWorld ξ}

/-- Since `log` the loop has only dispatched. -/
def Unsettled (log : List RepairEvent) (w : RepairWorld ξ) : Prop :=
  ∃ new, w.log = new ++ log ∧ ∀ event ∈ new, ∃ directive, event = .dispatched directive

/-- What the loop answers after an ambiguous outcome. -/
def settledAnswer (L : RepairLoop ξ) (point : AmbiguousPoint) :
    Except RepairError (VerificationReadiness × Option VerificationDisposition) :=
  ((L.settleAmbiguous point.readiness point.directive point.result point.nowMs point.startedAtMs
    point.finishedAtMs).on point.store).1.map fun d => (point.readiness, d)

/-- The loop ended with an ambiguous outcome on top of the log. -/
def SettledWith (L : RepairLoop ξ) (log : List RepairEvent)
    (answer : Except RepairError (VerificationReadiness × Option VerificationDisposition))
    (w : RepairWorld ξ) : Prop :=
  ∃ point dispatches, w.log = .ambiguous point :: (dispatches ++ log) ∧
    (∀ event ∈ dispatches, ∃ directive, event = .dispatched directive) ∧
    answer = L.settledAnswer point

/-- How a round may answer. -/
def RoundAnswered (L : RepairLoop ξ) (log : List RepairEvent) (w : RepairWorld ξ) : RoundEnd → Prop
  | .finished readiness d => Unsettled log w ∨ L.SettledWith log (.ok (readiness, d)) w
  | .next _ _ => Unsettled log w

/-- How a call of the loop may raise. -/
def Raised (L : RepairLoop ξ) (log : List RepairEvent) (e : RepairError) (w : RepairWorld ξ) :
    Prop :=
  Unsettled log w ∨ L.SettledWith log (.error e) w

lemma unsettled_of_log {w' : RepairWorld ξ} (h : Unsettled log w) (hlog : w'.log = w.log) :
    Unsettled log w' := by
  unfold Unsettled
  rwa [hlog]

/-- A call that does not write the log. -/
lemma meets_of_log {α : Type} {x : Call RepairError (RepairWorld ξ) α}
    (h : ∀ w, (x.on w).2.log = w.log) :
    x.Meets (Unsettled log) (fun _ => Unsettled log) (L.Raised log) :=
  (Call.Meets.of_preserves fun w hw => unsettled_of_log hw (h w)).mono (fun _ h => h)
    (fun _ _ h => h) fun _ _ h => .inl h

lemma note_dispatched_meets (directive : RepairDirective) :
    (note (.dispatched directive) : Call RepairError (RepairWorld ξ) Unit).Meets (Unsettled log)
      (fun _ => Unsettled log) (L.Raised log) := by
  rintro w ⟨new, hlog, hnew⟩
  refine ⟨.dispatched directive :: new, by simp [hlog], fun event hevent => ?_⟩
  rcases mem_cons.mp hevent with rfl | hevent
  · exact ⟨directive, rfl⟩
  · exact hnew event hevent

lemma resolveDispatchResult_meets (directive : RepairDirective) :
    (L.resolveDispatchResult directive).Meets (Unsettled log) (fun _ => Unsettled log)
      (L.Raised log) := by
  refine (meets_of_log fun _ => rfl).bind fun resolution => ?_
  rcases resolution with _ | result | _
  · exact .pure fun _ h => h
  · exact .pure fun _ h => h
  · exact (note_dispatched_meets directive).bind fun _ =>
      (meets_of_log fun _ => rfl).bind fun _ => .pure fun _ h => h

lemma reverifyAttempt_meets (directive : RepairDirective) (result : RepairDispatchResult)
    (nowMs startedAtMs : ℕ) :
    (L.reverifyAttempt directive result nowMs startedAtMs).Meets (Unsettled log)
      (fun _ => Unsettled log) (L.Raised log) := by
  refine (meets_of_log fun _ => rfl).bind fun _ => ?_
  split
  · refine (meets_of_log fun _ => rfl).bind fun _ => (meets_of_log fun _ => rfl).bind fun current =>
      (meets_of_log fun _ => rfl).bind fun recordId => (meets_of_log fun _ => rfl).bind
        fun finishedAtMs => (meets_of_log fun _ => rfl).bind fun _ => .pure fun _ h => h
  · refine (meets_of_log fun _ => rfl).bind fun current =>
      (meets_of_log fun _ => rfl).bind fun recordId => (meets_of_log fun _ => rfl).bind
        fun finishedAtMs => (meets_of_log fun _ => rfl).bind fun _ => .pure fun _ h => h

/-- An ambiguous outcome ends the round, and nothing is dispatched after it. -/
lemma repairRound_meets (nowMs : ℕ) (ds : List VerificationDisposition)
    (current : VerificationReadiness) (executedAny : Bool) :
    (L.repairRound nowMs ds current executedAny).Meets (Unsettled log)
      (fun r w => L.RoundAnswered log w r) (L.Raised log) := by
  induction ds generalizing current executedAny with
  | nil => exact .pure fun _ h => h
  | cons d ds ih =>
    unfold repairRound
    refine (meets_of_log fun _ => rfl).bind fun evidence =>
      (meets_of_log fun _ => rfl).bind fun directive => ?_
    rcases directive with _ | directive
    · exact ih current executedAny
    refine (meets_of_log fun _ => rfl).bind fun startedAtMs =>
      (resolveDispatchResult_meets directive).bind fun result => ?_
    rcases result with _ | result
    · exact .pure fun _ h => .inl h
    simp only
    split
    · refine (meets_of_log fun _ => rfl).bind fun finishedAtMs => ?_
      rintro w ⟨new, hlog, hnew⟩
      let point : AmbiguousPoint :=
        ⟨w.store, current, directive, result, nowMs, startedAtMs, finishedAtMs⟩
      have hnote : (note (.ambiguous point) : Call RepairError (RepairWorld ξ) Unit).on w =
        (.ok (), { w with log := .ambiguous point :: w.log }) := rfl
      have hend : ∀ s answer, answer = L.settledAnswer point → L.SettledWith log answer
          { w with store := s, log := .ambiguous point :: w.log } := fun s answer h =>
        ⟨point, new, congrArg (RepairEvent.ambiguous point :: ·) hlog, hnew, h⟩
      rw [on_bind_of_ok (on_read _ _), on_bind_of_ok hnote, on_bind]
      rcases hs : (L.settleAmbiguous current directive result nowMs startedAtMs finishedAtMs).on
        w.store with ⟨e | d, s⟩
      · rw [on_onStore, hs]
        exact .inr (hend s _ (by simp [settledAnswer, point, hs, Except.map]))
      · rw [on_onStore, hs]
        exact .inr (hend s _ (by simp [settledAnswer, point, hs, Except.map]))
    · refine (reverifyAttempt_meets directive result nowMs startedAtMs).bind fun current => ?_
      split
      · exact .pure fun _ h => .inl h
      · exact ih current true

/-- So does the whole loop. -/
lemma repairRounds_meets (rounds : ℕ) (current : VerificationReadiness)
    (final : Option VerificationDisposition) :
    (L.repairRounds rounds current final).Meets (Unsettled log)
      (fun answer w => Unsettled log w ∨ L.SettledWith log (.ok answer) w) (L.Raised log) := by
  induction rounds generalizing current final with
  | zero => exact .pure fun _ h => .inl h
  | succ rounds ih =>
    unfold repairRounds
    refine (meets_of_log fun _ => rfl).bind fun nowMs => (meets_of_log fun _ => rfl).bind fun ds => ?_
    split
    · exact .pure fun _ h => .inl h
    · refine (repairRound_meets nowMs _ current false).bind fun r => ?_
      rcases r with ⟨readiness, d⟩ | ⟨readiness, executedAny⟩
      · exact .pure fun _ h => h
      · cases executedAny with
        | true => exact ih readiness _
        | false => exact .pure fun _ h => .inl h

lemma executeRepairLoop_meets (readiness : VerificationReadiness) :
    (L.executeRepairLoop readiness).Meets (Unsettled log)
      (fun answer w => Unsettled log w ∨ L.SettledWith log (.ok answer) w) (L.Raised log) := by
  unfold executeRepairLoop
  split
  · exact .pure fun _ h => .inl h
  · exact repairRounds_meets _ readiness none

end RepairLoop

/-! ## The answer after an ambiguous outcome -/

section Answer

variable {s t : RepairStore} {plan : VerificationPlan} {readiness : VerificationReadiness}
  {nowMs : ℕ}

/-- A round on `t` writes what it derives, and its last failure is ambiguous or without
authority. -/
def LastReconciles (t : RepairStore) (plan : VerificationPlan) (readiness : VerificationReadiness)
    (nowMs : ℕ) : Prop :=
  (∃ fes, t.rebuildFailureEvidence plan readiness nowMs = .ok fes ∧
    ∀ fe ∈ fes, evidenceAdmitted nowMs t (t.sourcesOnFile plan readiness) fe = true) ∧
  RoundAgrees t plan readiness nowMs false ∧
  ∃ x, (roundInputs t plan readiness).getLast? = some x ∧
    (x.2.effectIsAmbiguous = true ∨ x.2.failureKind = .authorityError)

lemma notReady_of_roundInputs {x : Canon × DecisionInput}
    (h : (roundInputs t plan readiness).getLast? = some x) :
    readiness.verificationReady = false := by
  cases hready : readiness.verificationReady with
  | false => rfl
  | true => simp [roundInputs, hready] at h

lemma lastAction_reconcile_iff {ds : List VerificationDisposition} (h : ds.map actionOf =
      countedActions (roundInputs t plan readiness) (repairsOnFile plan t)) :
    (∃ d, ds.getLast? = some d ∧ d.action = .reconcile) ↔
      ∃ x, (roundInputs t plan readiness).getLast? = some x ∧
        (x.2.effectIsAmbiguous = true ∨ x.2.failureKind = .authorityError) := by
  rw [← countedActions_last_reconcile_iff (c := repairsOnFile plan t), ← h, List.getLast?_map]
  cases ds.getLast? with
  | none => simp
  | some d => simp [actionOf]

/-- A round ends with a reconcile exactly under that condition. -/
lemma processReadiness_last_reconcile_iff :
    (∃ ds, ((processReadiness defaultPolicy plan readiness nowMs).on t).1 = .ok ds ∧
      ∃ d, ds.getLast? = some d ∧ d.action = .reconcile) ↔
      LastReconciles t plan readiness nowMs := by
  constructor
  · rintro ⟨ds, hds, hlast⟩
    have hreturns := processReadiness_of_returns (map_eq_ok.mpr ⟨ds, hds, rfl⟩)
    have hinput := (lastAction_reconcile_iff hreturns.1).mp hlast
    have hready : readiness.verificationReady = false :=
      let ⟨_, hx, _⟩ := hinput
      notReady_of_roundInputs hx
    cases hreb : t.rebuildFailureEvidence plan readiness nowMs with
    | error e =>
      rw [processReadiness_of_builder_error hready hreb] at hds
      cases hds
    | ok fes =>
      refine ⟨⟨fes, hreb, forecast_admitted (processReadiness_forecast hready hreb hds)⟩, ?_, hinput⟩
      refine (processReadiness_agrees_iff t plan readiness nowMs false).mp ?_
      rintro ⟨text, herror⟩
      rw [hds] at herror
      cases herror
  · rintro ⟨⟨fes, hreb, hadmitted⟩, hagrees, hinput⟩
    have hready : readiness.verificationReady = false :=
      let ⟨_, hx, _⟩ := hinput
      notReady_of_roundInputs hx
    have hful : Fulfils t plan.lineage
        (forecast false nowMs t (t.sourcesOnFile plan readiness) fes
          (t.generationRepairCount plan.requestId plan.runId plan.generation)
          (t.generationRepairCount plan.requestId plan.runId plan.generation))
        ((processReadiness defaultPolicy plan readiness nowMs).on t) :=
      processReadiness_fulfils hready hreb
    have hmismatch := (processReadiness_agrees_iff t plan readiness nowMs false).mpr hagrees
    rw [raisesMismatch_iff_of_fulfils hful] at hmismatch
    cases hF : forecast false nowMs t (t.sourcesOnFile plan readiness) fes
        (t.generationRepairCount plan.requestId plan.runId plan.generation)
        (t.generationRepairCount plan.requestId plan.runId plan.generation) with
    | error stop =>
      cases stop with
      | mismatch => exact absurd hF hmismatch
      | refused => exact absurd hF (forecast_not_refused hadmitted)
    | ok pair =>
      obtain ⟨ds, n⟩ := pair
      rw [hF] at hful
      rcases hon : (processReadiness defaultPolicy plan readiness nowMs).on t with ⟨e | ds', u⟩
      · rw [hon] at hful
        exact hful.elim
      · rw [hon] at hful
        obtain ⟨rfl, -⟩ := hful
        have hreturned : ((processReadiness defaultPolicy plan readiness nowMs).on t).1.map
            (·.map actionOf) = .ok (ds'.map actionOf) := map_eq_ok.mpr ⟨ds', by rw [hon], rfl⟩
        have hactions := (processReadiness_of_returns hreturned).1
        exact ⟨_, rfl, (lastAction_reconcile_iff hactions).mpr hinput⟩

def AmbiguousPoint.attempt (point : AmbiguousPoint) : RepairAttemptRecord :=
  attemptOf point.directive .executionAmbiguous point.result none point.startedAtMs
    point.finishedAtMs

/-- The store takes the attempt, and the round after it ends with a reconcile. -/
def AmbiguousPoint.Reconciles (point : AmbiguousPoint) (plan : VerificationPlan) : Prop :=
  ∃ fresh t, putRepairAttempt point.attempt point.finishedAtMs point.store = .ok (fresh, t) ∧
    LastReconciles t plan point.readiness point.nowMs

/-- The loop answered with a reconcile. -/
def AnswersReconcile
    (answer : Except RepairError (VerificationReadiness × Option VerificationDisposition)) : Prop :=
  ∃ readiness d, answer = .ok (readiness, some d) ∧ d.action = .reconcile

lemma settledAnswer_reconcile_iff {ξ : Type} {L : RepairLoop ξ}
    (hpolicy : L.policy = defaultPolicy) (point : AmbiguousPoint) :
    AnswersReconcile (L.settledAnswer point) ↔ point.Reconciles L.plan := by
  unfold AnswersReconcile RepairLoop.settledAnswer RepairLoop.settleAmbiguous
  change (∃ readiness d, Except.map _ (on (recordAttempt point.attempt >>= _) _).1 = _ ∧ _) ↔ _
  cases hput : putRepairAttempt point.attempt point.finishedAtMs point.store with
  | error e =>
    rw [on_bind_of_error (recordAttempt_of_error hput)]
    constructor
    · rintro ⟨_, _, h, -⟩
      cases h
    · rintro ⟨_, _, h, -⟩
      rw [hput] at h
      cases h
  | ok pair =>
    obtain ⟨fresh, t⟩ := pair
    have hround : point.Reconciles L.plan ↔ LastReconciles t L.plan point.readiness point.nowMs :=
      ⟨fun ⟨_, u, hu, hlast⟩ => by rw [hput] at hu; cases hu; exact hlast,
        fun hlast => ⟨fresh, t, hput, hlast⟩⟩
    rw [on_bind_of_ok (recordAttempt_of_ok hput), hpolicy, hround,
      ← processReadiness_last_reconcile_iff, on_bind]
    rcases (processReadiness defaultPolicy L.plan point.readiness point.nowMs).on t with
      ⟨e | ds, u⟩
    · simp [Except.map]
    · simp [Except.map]

end Answer

section Runs

variable {ξ : Type} (plan : VerificationPlan) (dispatchableSubjectKinds : List SubjectKind)
  (dispatch : RepairDirective → Call RepairError (RepairStore × ξ) RepairDispatchResult)
  (reverify : Call RepairError (RepairStore × ξ) VerificationReadiness) (clock : ξ → ℕ × ξ)
  (readiness : VerificationReadiness) (store : RepairStore) (outside : ξ)

/-- A call of the repair loop under the default policy, with an empty log before it. -/
def repairRun :
    Except RepairError (VerificationReadiness × Option VerificationDisposition) × RepairWorld ξ :=
  (RepairLoop.executeRepairLoop
    ⟨defaultPolicy, plan, dispatchableSubjectKinds, dispatch, reverify, clock⟩ readiness).on
      ⟨store, outside, []⟩

/-- No ambiguity of the run is lost: nothing was dispatched after it, and the loop answered with
a reconcile. -/
def AmbiguityKept
    (run : Except RepairError (VerificationReadiness × Option VerificationDisposition) ×
      RepairWorld ξ) : Prop :=
  ∀ point, .ambiguous point ∈ run.2.log →
    run.2.log.head? = some (.ambiguous point) ∧ AnswersReconcile run.1

/-- Nothing is ever dispatched after an ambiguous outcome, and the answer is a reconcile exactly
when the store takes the attempt and the last entry that still fails reconciles by itself. -/
theorem repairRun_ambiguityKept_iff :
    let run := repairRun plan dispatchableSubjectKinds dispatch reverify clock readiness store
      outside
    (∀ point, .ambiguous point ∈ run.2.log → run.2.log.head? = some (.ambiguous point)) ∧
      (AmbiguityKept run ↔ ∀ point, .ambiguous point ∈ run.2.log → point.Reconciles plan) := by
  intro run
  let L : RepairLoop ξ := ⟨defaultPolicy, plan, dispatchableSubjectKinds, dispatch, reverify, clock⟩
  have hrun : RepairLoop.Unsettled [] run.2 ∨ L.SettledWith [] run.1 run.2 := by
    have hstart : RepairLoop.Unsettled [] ⟨store, outside, []⟩ := ⟨[], rfl, by simp⟩
    have hmeets := L.executeRepairLoop_meets readiness ⟨store, outside, []⟩ hstart
    change RepairLoop.Unsettled [] ((L.executeRepairLoop readiness).on ⟨store, outside, []⟩).2 ∨
      L.SettledWith [] ((L.executeRepairLoop readiness).on ⟨store, outside, []⟩).1
        ((L.executeRepairLoop readiness).on ⟨store, outside, []⟩).2
    rcases hr : (L.executeRepairLoop readiness).on ⟨store, outside, []⟩ with ⟨e | answer, w⟩
    · rw [hr] at hmeets
      exact hmeets
    · rw [hr] at hmeets
      exact hmeets
  rcases hrun with ⟨new, hlog, hnew⟩ | ⟨settled, dispatches, hlog, hdispatches, hanswer⟩
  · have hnone : ∀ point, .ambiguous point ∉ run.2.log := by
      intro point hpoint
      rw [hlog, append_nil] at hpoint
      obtain ⟨directive, h⟩ := hnew _ hpoint
      cases h
    exact ⟨fun point hpoint => absurd hpoint (hnone point),
      fun _ point hpoint => absurd hpoint (hnone point),
      fun _ point hpoint => absurd hpoint (hnone point)⟩
  · have honly : ∀ point, .ambiguous point ∈ run.2.log ↔ point = settled := by
      intro point
      rw [hlog, append_nil, mem_cons]
      constructor
      · rintro (h | h)
        · cases h
          rfl
        · obtain ⟨directive, h⟩ := hdispatches _ h
          cases h
      · rintro rfl
        exact .inl rfl
    have hhead : run.2.log.head? = some (.ambiguous settled) := by rw [hlog, List.head?_cons]
    have hreconcile : AnswersReconcile run.1 ↔ settled.Reconciles plan := by
      rw [hanswer]
      exact settledAnswer_reconcile_iff (L := L) rfl settled
    simp only [AmbiguityKept, honly, forall_eq, hhead, hreconcile, true_and, and_self]

end Runs

/-! ## Two empty artifacts, the first one lost -/

namespace Sample

/-- The readiness after the third artifact passed. -/
def twoFailing : VerificationReadiness :=
  VerificationReadiness.withComputedSha256
    { readiness with
      satisfiedEntryCount := 1
      entryAssessments := [⟨(entry "a").planEntryId, .fail, some "vr_a", none⟩,
        ⟨(entry "b").planEntryId, .fail, some "vr_b", none⟩,
        ⟨(entry "c").planEntryId, .pass, some "vr_c", none⟩]
      ready_iff := by decide
      assessmentIds_nodup := by decide }

def twoFailingStore : RepairStore :=
  { store with
    verificationReadinesses := ⟨[⟨twoFailing, by decide⟩], by simp⟩
    verificationRecords := ⟨[record (entry "a"), record (entry "b"),
      { record (entry "c") with status := .pass }], by decide⟩ }

/-- The effect of a repair. -/
lemma firstRevision_chain : 1 = 1 ↔ (none : Option Canon) = none := by decide

def repairClaim : EffectClaim :=
  EffectClaim.withComputedSha256
    { effectId := "eff_0", requestId := "req_0", runId := "run_0", runSequence := 1,
      generation := 1, effectKind := .control, ordinal := 0, intentSha256 := "00",
      pipelineVersion := "unspecified", attempt := 1, claimRevision := 1, leaseEpoch := 1,
      supersedesClaimSha256 := none, ownerComponentId := .totalGateway, claimedAtMs := 102,
      claimSha256 := .null, revision_chain := firstRevision_chain }

def reservationOf (directive : RepairDirective) : Reservation where
  repairDirectiveId := directive.repairDirectiveId
  repairDirectiveSha256 := directive.directiveSha256
  planEntryId := directive.planEntryId
  repairAttemptNo := directive.repairAttemptNo
  requestId := directive.requestId
  runId := directive.runId
  generation := directive.generation
  effectId := "eff_0"
  effectIntentSha256 := String.ofList (List.replicate 64 '0')
  reservedAtMs := 102
  dispatchClaimId := "claim_0"
  claimExpiresAtMs := 1000

/-- A runtime that claims its effect, crosses the boundary and loses the outcome. -/
def lostDispatch (directive : RepairDirective) :
    Call RepairError (RepairStore × ℕ) RepairDispatchResult :=
  within Prod.fst (fun p s => (s, p.2)) do
    let _ ← transaction fun s =>
      (liftStore (EffectStore.claimEffect quietSurroundings repairClaim s.effects)).map
        fun (effect, effects) => (effect, { s with effects := effects })
    let _ ← transaction (reserveRepairExecution (reservationOf directive))
    let _ ← transaction (startRepairExecution quietSurroundings
      directive.repairDirectiveId "eff_0" 103 "claim_0" 1)
    pure ⟨.executionAmbiguous, directive.effectiveSubjectIdentity, ["eff_0"]⟩

/-- The first of two failing artifacts is dispatched and its outcome lost. -/
def lostRun :
    Except RepairError (VerificationReadiness × Option VerificationDisposition) × RepairWorld ℕ :=
  repairRun plan [.artifact] lostDispatch (query fun _ => .ok twoFailing)
    (fun n => (n, n + 1)) twoFailing twoFailingStore 100

lemma lostRun_action :
    (lostRun.1.map fun answer => answer.2.map (·.action)) = .ok (some .repair) := by
  decide +kernel

lemma lostRun_isAmbiguous : lostRun.2.log.any RepairEvent.isAmbiguous = true := by
  decide +kernel

end Sample

/-- The second artifact still asks for a repair, and the loop answers with that. -/
theorem lostRun_loses_ambiguity : ¬ AmbiguityKept Sample.lostRun := by
  intro hkept
  obtain ⟨event, hevent, hambiguous⟩ := any_eq_true.mp Sample.lostRun_isAmbiguous
  cases event with
  | dispatched directive => cases hambiguous
  | ambiguous point =>
    obtain ⟨-, readiness, d, hanswer, hreconcile⟩ := hkept point hevent
    have haction := Sample.lostRun_action
    rw [hanswer] at haction
    simp [Except.map, hreconcile] at haction

end Tiangong
