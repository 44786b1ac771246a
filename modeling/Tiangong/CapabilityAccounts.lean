import Mathlib.Data.List.Induction
import Tiangong.CapabilityHealth

/-!
# What the health of a capability accounts for

Every use is counted once as long as its number is among the last two hundred, and a patch round is
spent by every proposal until the user reactivates the capability.
-/
namespace Tiangong.Capability

open List

/-- What a call does to a pointer. -/
inductive HealthStep (policy : HealthPolicy) (p : CapabilityPointer) :
    HealthCall → Except HealthFault HealthAnswer → CapabilityPointer → Prop
  | raised {call : HealthCall} {fault : HealthFault} : HealthStep policy p call (.error fault) p
  | ignored {report : OutcomeReport} {nowMs : ℤ} {reason : IngestReason}
    (hreason : reason ∈ [IngestReason.notActive, .duplicate, .staleVersion]) :
    HealthStep policy p (.ingest report nowMs) (.ok (.ingested .none reason)) p
  | counted {report : OutcomeReport} {nowMs : ℤ} {action : HealthAction} {reason : IngestReason}
    {success : Bool} {occurredMs : ℤ} (hreason : reason ∈ [IngestReason.recorded,
      .consecutiveFailures])
    (hfresh : report.outcomeId.strip ∉ p.health.seenOutcomeIds) :
    HealthStep policy p (.ingest report nowMs) (.ok (.ingested action reason))
      (refresh { p.toPointerContent with
        health := p.health.count report.outcomeId.strip success occurredMs })
  | proposed {artifactId artifactSha256 : PyStr} {nowMs : ℤ} {pending : PatchPending}
    (hactive : p.status = .active) (hrounds : p.health.patchRounds < policy.maxPatchRounds) :
    HealthStep policy p (.propose artifactId artifactSha256 nowMs) (.ok .proposed)
      (refresh { p.toPointerContent with
        health := { p.health with
          patchRounds := p.health.patchRounds + 1
          patchPending := some pending } })
  | applied {evidenceSha256 evidence : PyStr} {nowMs : ℤ} {pending : PatchPending}
    {history : List PointerEntry} (hpending : p.health.patchPending = some pending) :
    HealthStep policy p (.settle true evidenceSha256 nowMs) (.ok (.settled true .applied))
      (refresh { p.toPointerContent with
        currentArtifactId := pending.toArtifactId
        currentArtifactSha256 := pending.toArtifactSha256
        history
        health := settledHealth p.health pending .applied evidence nowMs })
  | rolledBack {evidenceSha256 evidence : PyStr} {nowMs : ℤ} {pending : PatchPending}
    (hrounds : p.health.patchRounds < policy.maxPatchRounds) :
    HealthStep policy p (.settle false evidenceSha256 nowMs) (.ok (.settled false .rolledBack))
      (refresh { p.toPointerContent with
        health := settledHealth p.health pending .rolledBack evidence nowMs })
  | exhausted {evidenceSha256 evidence : PyStr} {nowMs : ℤ} {pending : PatchPending}
    {degraded : Option (ℤ × PyStr)} {history : List PointerEntry}
    (hstatus : p.status ≠ .degraded) :
    HealthStep policy p (.settle false evidenceSha256 nowMs) (.ok (.settled false .degraded))
      (refresh { p.toPointerContent with
        status := .degraded
        degraded
        history
        health := settledHealth p.health pending .rolledBack evidence nowMs })
  | degraded {reason : PyStr} {nowMs : ℤ} {degraded : Option (ℤ × PyStr)}
    {history : List PointerEntry} (hstatus : p.status ≠ .degraded) :
    HealthStep policy p (.degrade reason nowMs) (.ok .degraded)
      (refresh { p.toPointerContent with
        status := .degraded
        degraded
        history
        health := { p.health with patchPending := none } })
  | reactivated {actor : PyStr} {nowMs : ℤ} {history : List PointerEntry}
    {reactivatedAtMs : Option ℤ} (hactor : actor.strip = py "user") :
    HealthStep policy p (.reactivate actor nowMs) (.ok .reactivated)
      (refresh { p.toPointerContent with
        status := .active
        degraded := none
        history
        health := { p.health with
          consecutiveFailures := 0
          patchRounds := 0
          patchPending := none
          successStreak := 0
          reactivatedAtMs } })

section Step

variable {policy : HealthPolicy} {p : CapabilityPointer}

lemma textOf_eq_ok {value text : PyStr} {field : String} {limit : ℕ}
    (h : textOf value field limit = .ok text) : text = value.strip := by
  simp only [textOf, eq_ok_iff] at h
  exact h.2.2.symm

lemma degradePointer_eq_ok {reason : PyStr} {nowMs : ℤ} {content : PointerContent}
    {p' : CapabilityPointer} (h : degradePointer reason nowMs content = .ok p') :
    content.status ≠ .degraded ∧ ∃ degraded history, p' = refresh { content with
      status := .degraded
      degraded
      history
      health := { content.health with patchPending := none } } := by
  simp only [degradePointer, eq_ok_iff, not_not] at h
  obtain ⟨-, -, hstatus, degradedAt, -, degradedReason, -, rfl⟩ := h
  refine ⟨?_, _, _, rfl⟩
  intro hdegraded
  rw [hdegraded] at hstatus
  simp at hstatus

lemma ingest_step (report : OutcomeReport) (nowMs : ℤ) :
    HealthStep policy p (.ingest report nowMs)
      ((healthMachine policy).step p (.ingest report nowMs)).2
      ((healthMachine policy).step p (.ingest report nowMs)).1 := by
  simp only [healthMachine]
  cases hok : ingestOutcome policy report nowMs p with
  | error fault => exact .raised
  | ok pair =>
    obtain ⟨⟨action, reason⟩, p'⟩ := pair
    simp only [ingestOutcome, bind_eq_ok] at hok
    obtain ⟨_, -, hok⟩ := hok
    split at hok
    · simp only [pure_eq_ok, Prod.mk.injEq] at hok
      obtain ⟨⟨rfl, rfl⟩, rfl⟩ := hok
      exact .ignored (by simp)
    · simp only [eq_ok_iff] at hok
      obtain ⟨outcomeId, houtcome, -, artifactId, -, success, -, occurredMs, -, hok⟩ := hok
      obtain rfl := textOf_eq_ok houtcome
      split at hok
      · simp only [pure_eq_ok, Prod.mk.injEq] at hok
        obtain ⟨⟨rfl, rfl⟩, rfl⟩ := hok
        exact .ignored (by simp)
      · next hfresh =>
        split at hok
        · simp only [pure_eq_ok, Prod.mk.injEq] at hok
          obtain ⟨⟨rfl, rfl⟩, rfl⟩ := hok
          exact .ignored (by simp)
        · simp only [pure_eq_ok, Prod.mk.injEq] at hok
          obtain ⟨hanswer, rfl⟩ := hok
          refine .counted ?_ hfresh
          split at hanswer
          · obtain ⟨rfl, rfl⟩ := Prod.mk.inj hanswer
            simp
          · obtain ⟨rfl, rfl⟩ := Prod.mk.inj hanswer
            simp

lemma settle_step (passed : Bool) (evidenceSha256 : PyStr) (nowMs : ℤ) :
    HealthStep policy p (.settle passed evidenceSha256 nowMs)
      ((healthMachine policy).step p (.settle passed evidenceSha256 nowMs)).2
      ((healthMachine policy).step p (.settle passed evidenceSha256 nowMs)).1 := by
  simp only [healthMachine]
  cases hok : settlePatch policy passed evidenceSha256 nowMs p with
  | error fault => exact .raised
  | ok pair =>
    obtain ⟨⟨applied, reason⟩, p'⟩ := pair
    simp only [settlePatch, eq_ok_iff] at hok
    obtain ⟨_, -, pending, hpending, evidence, -, hok⟩ := hok
    split at hok
    · next hpassed =>
      subst hpassed
      simp only [eq_pair_iff] at hok
      obtain ⟨atMs, -, ⟨rfl, rfl⟩, rfl⟩ := hok
      exact .applied hpending
    · next hpassed =>
      rw [Bool.not_eq_true] at hpassed
      subst hpassed
      split at hok
      · simp only [eq_pair_iff] at hok
        obtain ⟨degraded, hdegrade, ⟨rfl, rfl⟩, rfl⟩ := hok
        obtain ⟨hstatus, degradedAt, history, rfl⟩ := degradePointer_eq_ok hdegrade
        exact .exhausted hstatus
      · next hrounds =>
        simp only [pure_eq_ok, Prod.mk.injEq] at hok
        obtain ⟨⟨rfl, rfl⟩, rfl⟩ := hok
        exact .rolledBack (by omega)

lemma propose_step (artifactId artifactSha256 : PyStr) (nowMs : ℤ) :
    HealthStep policy p (.propose artifactId artifactSha256 nowMs)
      ((healthMachine policy).step p (.propose artifactId artifactSha256 nowMs)).2
      ((healthMachine policy).step p (.propose artifactId artifactSha256 nowMs)).1 := by
  simp only [healthMachine]
  cases hok : proposePatch policy artifactId artifactSha256 nowMs p with
  | error fault => exact .raised
  | ok p' =>
    simp only [proposePatch, eq_ok_iff] at hok
    obtain ⟨proposedAtMs, -, hactive, -, hrounds, -, -, rfl⟩ := hok
    exact .proposed (not_not.mp hactive) (by omega)

lemma degrade_step (reason : PyStr) (nowMs : ℤ) : HealthStep policy p (.degrade reason nowMs)
      ((healthMachine policy).step p (.degrade reason nowMs)).2
      ((healthMachine policy).step p (.degrade reason nowMs)).1 := by
  simp only [healthMachine]
  cases hok : degradePointer reason nowMs p.toPointerContent with
  | error fault => exact .raised
  | ok p' =>
    obtain ⟨hstatus, degraded, history, rfl⟩ := degradePointer_eq_ok hok
    exact .degraded hstatus

lemma reactivate_step (actor : PyStr) (nowMs : ℤ) : HealthStep policy p (.reactivate actor nowMs)
      ((healthMachine policy).step p (.reactivate actor nowMs)).2
      ((healthMachine policy).step p (.reactivate actor nowMs)).1 := by
  simp only [healthMachine]
  cases hok : reactivatePointer actor nowMs p with
  | error fault => exact .raised
  | ok p' =>
    simp only [reactivatePointer, eq_ok_iff] at hok
    obtain ⟨reactivatedAtMs, -, hactor, -, atMs, -, rfl⟩ := hok
    exact .reactivated (not_not.mp hactor)

lemma health_step (call : HealthCall) : HealthStep policy p call
    ((healthMachine policy).step p call).2 ((healthMachine policy).step p call).1 := by
  cases call with
  | ingest report nowMs => exact ingest_step report nowMs
  | propose artifactId artifactSha256 nowMs => exact propose_step artifactId artifactSha256 nowMs
  | settle passed evidenceSha256 nowMs => exact settle_step passed evidenceSha256 nowMs
  | degrade reason nowMs => exact degrade_step reason nowMs
  | reactivate actor nowMs => exact reactivate_step actor nowMs

end Step

abbrev HealthEntry := CapabilityPointer × HealthCall × Except HealthFault HealthAnswer

/-- The number of an outcome that a call has counted. -/
def acceptedId : HealthEntry → Option PyStr
  | (_, .ingest report _, .ok (.ingested _ reason)) =>
    if reason = .recorded ∨ reason = .consecutiveFailures then some report.outcomeId.strip else none
  | _ => none

def isProposal : HealthEntry → Bool
  | (_, _, .ok .proposed) => true
  | _ => false

def isReactivation : HealthEntry → Bool
  | (_, _, .ok .reactivated) => true
  | _ => false

section Run

variable (policy : HealthPolicy) (p : CapabilityPointer)

def pointerAfter (calls : List HealthCall) : CapabilityPointer :=
  (healthMachine policy).exec p calls

/-- The numbers of the outcomes that calls have counted, in their order. -/
def acceptedIds (calls : List HealthCall) : List PyStr :=
  ((healthMachine policy).trace p calls).filterMap acceptedId

/-- What the health accounts for. -/
structure Accounts (calls : List HealthCall) : Prop where
  total : (pointerAfter policy p calls).health.uses =
    (pointerAfter policy p calls).health.successes + (pointerAfter policy p calls).health.failures
  counted : (pointerAfter policy p calls).health.uses = (acceptedIds policy p calls).length
  fresh : ∀ pre call post outcomeId, calls = pre ++ call :: post →
    acceptedId (pointerAfter policy p pre, call,
      ((healthMachine policy).step (pointerAfter policy p pre) call).2) = some outcomeId →
    outcomeId ∉ lastOf 200 (acceptedIds policy p pre)
  rounds : ∀ pre mid post, calls = pre ++ mid ++ post →
    ((healthMachine policy).trace (pointerAfter policy p pre) mid).countP isReactivation = 0 →
    ((healthMachine policy).trace (pointerAfter policy p pre) mid).countP isProposal ≤
      policy.maxPatchRounds
  artifact : ∀ pre call post, calls = pre ++ call :: post →
    ((pointerAfter policy p (pre ++ [call])).currentArtifactId,
        (pointerAfter policy p (pre ++ [call])).currentArtifactSha256) ≠
      ((pointerAfter policy p pre).currentArtifactId,
        (pointerAfter policy p pre).currentArtifactSha256) →
    ∃ evidenceSha256 nowMs pending, call = .settle true evidenceSha256 nowMs ∧
      (pointerAfter policy p pre).health.patchPending = some pending ∧
      (pointerAfter policy p (pre ++ [call])).currentArtifactId = pending.toArtifactId ∧
      (pointerAfter policy p (pre ++ [call])).currentArtifactSha256 = pending.toArtifactSha256
  degraded : ∀ pre call post, calls = pre ++ call :: post →
    (pointerAfter policy p pre).status = .degraded →
    (pointerAfter policy p (pre ++ [call])).status ≠ .degraded →
    ∃ actor nowMs, call = .reactivate actor nowMs ∧ actor.strip = py "user"
  exhausted : ∀ pre evidenceSha256 nowMs post answer,
    calls = pre ++ .settle false evidenceSha256 nowMs :: post →
    ((healthMachine policy).step (pointerAfter policy p pre)
      (.settle false evidenceSha256 nowMs)).2 = .ok answer →
    policy.maxPatchRounds ≤ (pointerAfter policy p pre).health.patchRounds →
    (pointerAfter policy p (pre ++ [.settle false evidenceSha256 nowMs])).status = .degraded

variable {policy p}

lemma pointerAfter_concat (calls : List HealthCall) (call : HealthCall) :
    pointerAfter policy p (calls ++ [call]) =
      ((healthMachine policy).step (pointerAfter policy p calls) call).1 :=
  (healthMachine policy).exec_concat p calls call

lemma acceptedIds_concat (calls : List HealthCall) (call : HealthCall) :
    acceptedIds policy p (calls ++ [call]) = acceptedIds policy p calls ++
      (acceptedId (pointerAfter policy p calls, call,
        ((healthMachine policy).step (pointerAfter policy p calls) call).2)).toList := by
  rw [acceptedIds, Machine.trace_append, filterMap_append]
  congr 1

/-- The end of a list with one more element. -/
lemma lastOf_concat {α : Type} (n : ℕ) (xs : List α) (x : α) :
    lastOf (n + 1) (lastOf (n + 1) xs ++ [x]) = lastOf (n + 1) (xs ++ [x]) := by
  have hlength : (lastOf (n + 1) xs).length = xs.length - (xs.length - (n + 1)) := by
    rw [lastOf, length_drop]
  by_cases hshort : xs.length ≤ n + 1
  · have hall : lastOf (n + 1) xs = xs := by
      rw [lastOf, show xs.length - (n + 1) = 0 by omega, drop_zero]
    rw [hall]
  · have hdrop : lastOf (n + 1) xs ++ [x] = (xs ++ [x]).drop (xs.length - (n + 1)) := by
      rw [lastOf, drop_append_of_le_length (by omega)]
    rw [hdrop, lastOf, lastOf, drop_drop, length_drop, length_append, length_singleton]
    congr 1
    omega

/-- What the counters say of the calls. -/
structure Tallies (h : Health) (ids : List PyStr) : Prop where
  total : h.uses = h.successes + h.failures
  counted : h.uses = ids.length
  seen : h.seenOutcomeIds = lastOf 200 ids

theorem Tallies.count {h : Health} {ids : List PyStr} (ht : Tallies h ids) (outcomeId : PyStr)
    (success : Bool) (occurredMs : ℤ) :
    Tallies (h.count outcomeId success occurredMs) (ids ++ [outcomeId]) := by
  obtain ⟨htotal, hcounted, hseen⟩ := ht
  refine ⟨?_, ?_, ?_⟩
  · cases success with
    | true =>
      simp only [Health.count, if_true]
      omega
    | false =>
      simp only [Health.count, Bool.false_eq_true, if_false]
      omega
  · simp only [Health.count, length_append, length_singleton]
    omega
  · simp only [Health.count]
    rw [hseen]
    exact lastOf_concat 199 ids outcomeId

variable {q q' : CapabilityPointer} {call : HealthCall} {answer : Except HealthFault HealthAnswer}

/-- A call keeps what the counters say. -/
lemma HealthStep.tallies (h : HealthStep policy q call answer q')
    {ids : List PyStr} (ht : Tallies q.health ids) :
    Tallies q'.health (ids ++ (acceptedId (q, call, answer)).toList) := by
  cases h with
  | raised =>
    have hnone : acceptedId (q, call, .error ‹HealthFault›) = none := by cases call <;> rfl
    rw [hnone, Option.toList_none, append_nil]
    exact ht
  | ignored hreason =>
    rw [acceptedId, if_neg, Option.toList_none, append_nil]
    · exact ht
    · rintro (rfl | rfl)
      · simp at hreason
      · simp at hreason
  | counted hreason hfresh =>
    rw [acceptedId, if_pos (by simpa using hreason)]
    exact ht.count _ _ _
  | proposed => simpa [acceptedId] using ⟨ht.total, ht.counted, ht.seen⟩
  | applied => simpa [acceptedId] using ⟨ht.total, ht.counted, ht.seen⟩
  | rolledBack => simpa [acceptedId] using ⟨ht.total, ht.counted, ht.seen⟩
  | exhausted => simpa [acceptedId] using ⟨ht.total, ht.counted, ht.seen⟩
  | degraded => simpa [acceptedId] using ⟨ht.total, ht.counted, ht.seen⟩
  | reactivated => simpa [acceptedId] using ⟨ht.total, ht.counted, ht.seen⟩

lemma pointerAfter_tallies (hp : Tallies p.health []) (calls : List HealthCall) :
    Tallies (pointerAfter policy p calls).health (acceptedIds policy p calls) := by
  induction calls using List.reverseRecOn with
  | nil => exact hp
  | append_singleton calls call ih =>
    rw [pointerAfter_concat, acceptedIds_concat]
    exact (health_step call).tallies ih

/-- A proposal spends a round, and only a reactivation gives rounds back. -/
theorem HealthStep.rounds (h : HealthStep policy q call answer q') :
    isReactivation (q, call, answer) = true ∨
      (isProposal (q, call, answer) = true ∧ q.health.patchRounds < policy.maxPatchRounds ∧
        q'.health.patchRounds = q.health.patchRounds + 1) ∨
      (isProposal (q, call, answer) = false ∧ q'.health.patchRounds = q.health.patchRounds) := by
  cases h with
  | raised => exact .inr (.inr ⟨rfl, rfl⟩)
  | ignored => exact .inr (.inr ⟨rfl, rfl⟩)
  | counted => exact .inr (.inr ⟨rfl, rfl⟩)
  | proposed _ hrounds => exact .inr (.inl ⟨rfl, hrounds, rfl⟩)
  | applied => exact .inr (.inr ⟨rfl, rfl⟩)
  | rolledBack => exact .inr (.inr ⟨rfl, rfl⟩)
  | exhausted => exact .inr (.inr ⟨rfl, rfl⟩)
  | degraded => exact .inr (.inr ⟨rfl, rfl⟩)
  | reactivated => exact .inl rfl

/-- Between two reactivations there are no more proposals than rounds. -/
lemma proposals_le {calls : List HealthCall}
    (hnone : ((healthMachine policy).trace q calls).countP isReactivation = 0) :
    ((healthMachine policy).trace q calls).countP isProposal = 0 ∨
      q.health.patchRounds + ((healthMachine policy).trace q calls).countP isProposal ≤
        policy.maxPatchRounds := by
  induction calls generalizing q with
  | nil => exact .inl rfl
  | cons call calls ih =>
    rw [Machine.trace, countP_cons] at hnone
    have hrest := ih (q := ((healthMachine policy).step q call).1) (by omega)
    rw [Machine.trace, countP_cons]
    rcases (@health_step policy q call).rounds with
      hback | ⟨hproposed, hleft, hnext⟩ | ⟨hother, hnext⟩
    · rw [hback] at hnone
      simp at hnone
    · rw [hproposed]
      rw [hnext] at hrest
      simp only [if_true]
      omega
    · rw [hother]
      rw [hnext] at hrest
      simpa using hrest

theorem HealthStep.artifact (h : HealthStep policy q call answer q')
    (hchanged : (q'.currentArtifactId, q'.currentArtifactSha256) ≠
      (q.currentArtifactId, q.currentArtifactSha256)) :
    ∃ evidenceSha256 nowMs pending, call = .settle true evidenceSha256 nowMs ∧
      q.health.patchPending = some pending ∧ q'.currentArtifactId = pending.toArtifactId ∧
      q'.currentArtifactSha256 = pending.toArtifactSha256 := by
  cases h with
  | applied hpending => exact ⟨_, _, _, rfl, hpending, rfl, rfl⟩
  | raised => exact absurd rfl hchanged
  | ignored => exact absurd rfl hchanged
  | counted => exact absurd rfl hchanged
  | proposed => exact absurd rfl hchanged
  | rolledBack => exact absurd rfl hchanged
  | exhausted => exact absurd rfl hchanged
  | degraded => exact absurd rfl hchanged
  | reactivated => exact absurd rfl hchanged

lemma HealthStep.leaves_degraded (h : HealthStep policy q call answer q')
    (hbefore : q.status = .degraded) (hafter : q'.status ≠ .degraded) :
    ∃ actor nowMs, call = .reactivate actor nowMs ∧ actor.strip = py "user" := by
  cases h with
  | reactivated hactor => exact ⟨_, _, rfl, hactor⟩
  | raised => exact absurd hbefore hafter
  | ignored => exact absurd hbefore hafter
  | counted => exact absurd hbefore hafter
  | proposed => exact absurd hbefore hafter
  | applied => exact absurd hbefore hafter
  | rolledBack => exact absurd hbefore hafter
  | exhausted => exact absurd rfl hafter
  | degraded => exact absurd rfl hafter

lemma HealthStep.exhausted_degrades {evidenceSha256 : PyStr} {nowMs : ℤ} {answer : HealthAnswer}
    (h : HealthStep policy q (.settle false evidenceSha256 nowMs) (.ok answer) q')
    (hrounds : policy.maxPatchRounds ≤ q.health.patchRounds) : q'.status = .degraded := by
  cases h with
  | rolledBack hleft => omega
  | exhausted => rfl

/-- An outcome that is counted was not among those that are seen. -/
theorem HealthStep.fresh (h : HealthStep policy q call answer q')
    {outcomeId : PyStr} (haccepted : acceptedId (q, call, answer) = some outcomeId) :
    outcomeId ∉ q.health.seenOutcomeIds := by
  cases h with
  | counted hreason hfresh =>
    rw [acceptedId, if_pos (by simpa using hreason), Option.some.injEq] at haccepted
    rwa [← haccepted]
  | ignored hreason =>
    rw [acceptedId, if_neg] at haccepted
    · cases haccepted
    · rintro (rfl | rfl)
      · simp at hreason
      · simp at hreason
  | raised => cases call <;> cases haccepted
  | proposed => cases haccepted
  | applied => cases haccepted
  | rolledBack => cases haccepted
  | exhausted => cases haccepted
  | degraded => cases haccepted
  | reactivated => cases haccepted

/-- The health of a capability accounts for its uses, whatever is called. -/
theorem capability_health_accounts (policy : HealthPolicy) (status : PointerStatus)
    (currentArtifactId currentArtifactSha256 : PyStr) (history : List PointerEntry)
    (artifactId : PyStr) (nowMs : ℤ) (p : CapabilityPointer)
    (hp : attachHealth status currentArtifactId currentArtifactSha256 history artifactId nowMs =
      .ok p) (calls : List HealthCall) : Accounts policy p calls := by
  have hinitial : Tallies p.health [] := by
    simp only [attachHealth, eq_ok_iff] at hp
    obtain ⟨-, _, -, createdAtMs, -, rfl⟩ := hp
    exact ⟨rfl, rfl, rfl⟩
  have htallies := @pointerAfter_tallies policy p hinitial
  refine ⟨(htallies calls).total, (htallies calls).counted, ?_, ?_, ?_, ?_, ?_⟩
  · intro pre call post outcomeId heq haccepted
    rw [← (htallies pre).seen]
    exact (health_step call).fresh haccepted
  · intro pre mid post heq hnone
    have hle := proposals_le hnone
    omega
  · intro pre call post heq hchanged
    rw [pointerAfter_concat] at hchanged ⊢
    exact (health_step call).artifact hchanged
  · intro pre call post heq hbefore hafter
    rw [pointerAfter_concat] at hafter
    exact (health_step call).leaves_degraded hbefore hafter
  · intro pre evidenceSha256 nowMs post answer heq hanswer hrounds
    have hstep := @health_step policy (pointerAfter policy p pre)
      (.settle false evidenceSha256 nowMs)
    rw [hanswer] at hstep
    rw [pointerAfter_concat]
    exact hstep.exhausted_degrades hrounds

/-- The thresholds of the source. -/
def defaultPolicy : HealthPolicy := ⟨3, 2, PyStr.casefold⟩

/-- A pointer to an artifact `a`, as it is activated. -/
def activated : CapabilityPointer :=
  refresh ⟨.active, py "a", py "sha-a", [], none, initialHealth 1⟩

/-- An activated pointer under a success and a report of it once more. -/
theorem capability_health_accounts_activated : Accounts defaultPolicy activated
    [.ingest ⟨py "o", py "a", py "success", none⟩ 2,
      .ingest ⟨py "o", py "a", py "success", none⟩ 3] :=
  capability_health_accounts defaultPolicy .active (py "a") (py "sha-a") [] (py "a") 1 activated
    (by decide +kernel) _

/-- A report of the outcome with a number: a text of one character. -/
def reportOf (success : Bool) (n : ℕ) : HealthCall :=
  .ingest ⟨[Fin.ofNat 0x110000 (0x4e00 + n)], py "a", py (if success then "success" else "failure"),
    none⟩ 2

variable {n : ℕ}

lemma textOf_number (hn : n < 1000) :
    textOf [Fin.ofNat 0x110000 (0x4e00 + n)] "outcome_id" 160 = .ok [Fin.ofNat 0x110000 (0x4e00 + n)] := by
  have hval : (Fin.ofNat 0x110000 (0x4e00 + n)).val = 0x4e00 + n := Nat.mod_eq_of_lt (by omega)
  have hspace : CodePoint.isSpace (Fin.ofNat 0x110000 (0x4e00 + n)) = false := by
    simp only [CodePoint.isSpace, hval, Bool.or_eq_false_iff, Bool.and_eq_false_iff,
      decide_eq_false_iff_not]
    omega
  have hstrip : PyStr.strip [Fin.ofNat 0x110000 (0x4e00 + n)] =
      [Fin.ofNat 0x110000 (0x4e00 + n)] := by
    apply PyStr.strip_of_noSpace
    intro c hc
    rwa [mem_singleton.mp hc]
  have hencodable : PyStr.Encodable [Fin.ofNat 0x110000 (0x4e00 + n)] := by
    intro c hc
    rw [mem_singleton.mp hc]
    simp only [CodePoint.isSurrogate, hval, Bool.and_eq_false_iff, decide_eq_false_iff_not]
    omega
  have hshort : PyStr.utf8Length [Fin.ofNat 0x110000 (0x4e00 + n)] ≤ 160 := by
    have hsize : CodePoint.utf8Size (Fin.ofNat 0x110000 (0x4e00 + n)) ≤ 4 := by
      unfold CodePoint.utf8Size
      split_ifs <;> omega
    simp only [PyStr.utf8Length, map_cons, map_nil, sum_cons, sum_nil]
    omega
  rw [textOf, hstrip, rejectIf_of_not _ (not_not.mpr hencodable), rejectIf_of_not _ (by omega)]
  rfl

/-- A success whose number is not among those that are seen is counted. -/
lemma reportOf_counts (hn : n < 1000)
    (hactive : q.status = .active) (hartifact : q.currentArtifactId = py "a")
    (hfresh : [Fin.ofNat 0x110000 (0x4e00 + n)] ∉ q.health.seenOutcomeIds) :
    (healthMachine defaultPolicy).step q (reportOf true n) = (refresh { q.toPointerContent with
      health := q.health.count [Fin.ofNat 0x110000 (0x4e00 + n)] true 2 },
        .ok (.ingested .none .recorded)) := by
  have hnow : intOf 2 "now_ms" = .ok 2 := by decide +kernel
  have hname : textOf (py "a") "artifact_id" 160 = .ok (py "a") := by decide +kernel
  have hkind : readOutcome defaultPolicy (py "success") = .ok true := by decide +kernel
  have hwhen : intOf (occurredOr none 2) "occurred_at_ms" = .ok 2 := by decide +kernel
  have hingest : ingestOutcome defaultPolicy ⟨[Fin.ofNat 0x110000 (0x4e00 + n)], py "a",
      py "success", none⟩ 2 q = .ok ((.none, .recorded), refresh { q.toPointerContent with
        health := q.health.count [Fin.ofNat 0x110000 (0x4e00 + n)] true 2 }) := by
    unfold ingestOutcome
    rw [hnow]
    simp only [bind, Except.bind]
    rw [if_neg (by simp [hactive])]
    simp only [textOf_number hn, hname, hkind, hwhen]
    rw [rejectIf_of_not _ (cons_ne_nil _ _)]
    dsimp only
    rw [if_neg hfresh, if_neg (not_not.mpr hartifact.symm)]
    simp
  simp only [reportOf, if_true, healthMachine, hingest, committed]

/-- The numbers of successes that are reported one after the other. -/
def numbers (m : ℕ) : List PyStr := (List.range m).map fun n => [Fin.ofNat 0x110000 (0x4e00 + n)]

lemma not_mem_numbers {m : ℕ} (hmn : m ≤ n) (hn : n < 1000) :
    [Fin.ofNat 0x110000 (0x4e00 + n)] ∉ numbers m := by
  intro hmem
  obtain ⟨n', hn', heq⟩ := mem_map.mp hmem
  have hval := congrArg Fin.val (singleton_inj.mp heq)
  have hlt := mem_range.mp hn'
  simp only [Fin.val_ofNat] at hval
  rw [Nat.mod_eq_of_lt (by omega), Nat.mod_eq_of_lt (by omega)] at hval
  omega

/-- Successes with different numbers are all counted. -/
lemma reports_count {m : ℕ} (hm : m ≤ 1000) : let calls := (List.range m).map (reportOf true)
    (pointerAfter defaultPolicy activated calls).status = .active ∧
      (pointerAfter defaultPolicy activated calls).currentArtifactId = py "a" ∧
      acceptedIds defaultPolicy activated calls = numbers m := by
  induction m with
  | zero => exact ⟨rfl, rfl, rfl⟩
  | succ m ih =>
    obtain ⟨hactive, hartifact, haccepted⟩ := ih (by omega)
    have htallies : Tallies (pointerAfter defaultPolicy activated
        ((List.range m).map (reportOf true))).health _ := pointerAfter_tallies ⟨rfl, rfl, rfl⟩ _
    have hfresh : [Fin.ofNat 0x110000 (0x4e00 + m)] ∉ (pointerAfter defaultPolicy activated
        ((List.range m).map (reportOf true))).health.seenOutcomeIds := by
      rw [htallies.seen, haccepted]
      intro hmem
      exact not_mem_numbers (le_refl m) (by omega) (mem_of_mem_drop hmem)
    have hstep := reportOf_counts (by omega) hactive hartifact hfresh
    dsimp only
    rw [range_succ, map_append, map_singleton, pointerAfter_concat,
      acceptedIds_concat, hstep, haccepted]
    refine ⟨hactive, hartifact, ?_⟩
    have hstrip := textOf_eq_ok (textOf_number (n := m) (by omega))
    rw [numbers, numbers, range_succ, map_append, map_singleton, hstrip]
    rfl

/-- An outcome is counted again after two hundred others. -/
lemma report_counts_again : acceptedIds defaultPolicy activated
    ((List.range 201 ++ [0]).map (reportOf true)) = numbers 201 ++ numbers 1 := by
  obtain ⟨hactive, hartifact, haccepted⟩ := reports_count (m := 201) (by omega)
  have htallies : Tallies (pointerAfter defaultPolicy activated
      ((List.range 201).map (reportOf true))).health _ := pointerAfter_tallies ⟨rfl, rfl, rfl⟩ _
  have hfresh : [Fin.ofNat 0x110000 (0x4e00 + 0)] ∉ (pointerAfter defaultPolicy activated
      ((List.range 201).map (reportOf true))).health.seenOutcomeIds := by
    rw [htallies.seen, haccepted]
    decide +kernel
  have hstep := reportOf_counts (by omega) hactive hartifact hfresh
  rw [map_append, map_singleton, acceptedIds_concat, hstep, haccepted]
  rfl

/-- An outcome is counted twice, and a capability whose rounds are used up by patches that were
applied stays active when it fails again. -/
theorem capability_health_forgets :
    attachHealth .active (py "a") (py "sha-a") [] (py "a") 1 = .ok activated ∧
    (∃ calls, (acceptedIds defaultPolicy activated calls).dedup.length <
      (pointerAfter defaultPolicy activated calls).health.uses) ∧
    ∃ calls, (pointerAfter defaultPolicy activated calls).status = .active ∧
      (pointerAfter defaultPolicy activated calls).health.patchRounds = 2 ∧
      (pointerAfter defaultPolicy activated calls).health.patchPending = none ∧
      (pointerAfter defaultPolicy activated calls).health.consecutiveFailures = 3 := by
  refine ⟨by decide +kernel, ?_, ?_⟩
  · refine ⟨(List.range 201 ++ [0]).map (reportOf true), ?_⟩
    have htallies : Tallies (pointerAfter defaultPolicy activated
        ((List.range 201 ++ [0]).map (reportOf true))).health _ :=
      pointerAfter_tallies ⟨rfl, rfl, rfl⟩ _
    have hnodup : ¬ (numbers 201 ++ numbers 1).Nodup := by
      rw [nodup_append]
      rintro ⟨-, -, hne⟩
      exact hne [Fin.ofNat 0x110000 (0x4e00 + 0)] (by decide +kernel) _ mem_cons_self rfl
    rw [htallies.counted, report_counts_again]
    apply lt_of_le_of_ne (dedup_sublist _).length_le
    intro hlength
    have hsame := (dedup_sublist _).eq_of_length hlength
    exact hnodup (hsame ▸ nodup_dedup _)
  · refine ⟨[.propose (py "b") (py "sha-b") 2, .settle true (py "e") 3,
      .propose (py "a") (py "sha-c") 4, .settle true (py "e") 5] ++
        (List.range 3).map (reportOf false), ?_⟩
    decide +kernel

end Run

end Tiangong.Capability
