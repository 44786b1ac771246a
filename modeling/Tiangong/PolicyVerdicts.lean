import Tiangong.PolicyEngine

/-!
# What an allowed action was judged by

An allowed intent is covered by a permission below the A5 ceiling, is asked for by trusted sources
only, and has its skill activated and its composition binding expected. More untrusted sources or a
larger impact never open a closed outcome. That the impact was computed for this very intent is not
asked: an impact of the same life and action passes, whatever intent it names.
-/
open List

namespace Tiangong.Policy

open Draft RiskClass

/-- The second impact belongs to the same life and action and is nowhere smaller. -/
structure ActionImpact.RaisedTo (i i' : ActionImpact) : Prop where
  lifeId : i'.lifeId = i.lifeId
  actionId : i'.actionId = i.actionId
  touches : ∀ flag flag', (flag, flag') ∈ i.touches.zip i'.touches → flag = true → flag' = true
  scopes : ∀ m m', (m, m') ∈ i.scopes.zip i'.scopes → m ≤ m'
  recipients : i.externalRecipientCount ≤ i'.externalRecipientCount

lemma riskBand_mono {m m' : ℕ} (h : m ≤ m') : (riskBand m).rank ≤ (riskBand m').rank := by
  unfold riskBand
  split_ifs <;> simp only [rank] <;> omega

lemma ActionImpact.scopes_le (i : ActionImpact) : i.scopes.foldl max 0 ≤ 1000 := by
  have h := i.milli_le
  simp only [forall_mem_cons] at h
  simp only [ActionImpact.scopes, foldl_cons, foldl_nil]
  omega

lemma ActionImpact.RaisedTo.critical_le {i i' : ActionImpact} (h : i.RaisedTo i') :
    i.critical ≤ i'.critical := by
  obtain ⟨-, -, htouches, hscopes, hrecipients⟩ := h
  simp only [ActionImpact.touches, ActionImpact.scopes, zip_cons_cons, zip_nil_left,
    mem_cons, Prod.mk.injEq, not_mem_nil, or_false] at htouches hscopes
  have hworkspace := hscopes _ _ (.inl ⟨rfl, rfl⟩)
  have hcredential := hscopes _ _ (.inr (.inl ⟨rfl, rfl⟩))
  have hprivacy := hscopes _ _ (.inr (.inr (.inl ⟨rfl, rfl⟩)))
  have hblast := hscopes _ _ (.inr (.inr (.inr (.inl ⟨rfl, rfl⟩))))
  have hirreversible := hscopes _ _ (.inr (.inr (.inr (.inr (.inl ⟨rfl, rfl⟩)))))
  have huncertain := hscopes _ _ (.inr (.inr (.inr (.inr (.inr ⟨rfl, rfl⟩)))))
  have hidentity := htouches _ _ (.inl ⟨rfl, rfl⟩)
  have hsoul := htouches _ _ (.inr (.inl ⟨rfl, rfl⟩))
  have hkeys := htouches _ _ (.inr (.inr (.inl ⟨rfl, rfl⟩)))
  have hpolicy := htouches _ _ (.inr (.inr (.inr (.inl ⟨rfl, rfl⟩))))
  have hcode := htouches _ _ (.inr (.inr (.inr (.inr ⟨rfl, rfl⟩))))
  have hmax : i.scopes.foldl max 0 ≤ i'.scopes.foldl max 0 := by
    simp only [ActionImpact.scopes, foldl_cons, foldl_nil]
    omega
  have hle := i.scopes_le
  have hsecret : i.credentialScopeMilli ≠ 0 → i'.credentialScopeMilli ≠ 0 := by omega
  have hsent : i.externalRecipientCount ≠ 0 → i'.externalRecipientCount ≠ 0 := by omega
  clear htouches hscopes hcredential hrecipients
  unfold ActionImpact.critical
  dsimp only
  simp only [Bool.or_eq_true, decide_eq_true_eq]
  split_ifs <;> first | omega | grind

lemma atLeast_rank (value floor : RiskClass) :
    (value.atLeast floor).rank = max value.rank floor.rank := by
  unfold atLeast
  split <;> omega

theorem RiskClass.rank_injective {r r' : RiskClass} (h : r.rank = r'.rank) : r = r' := by
  cases r <;> cases r' <;> first | rfl | cases h

lemma RiskClass.rank_a5 {r : RiskClass} (h : rank .a5 ≤ r.rank) : r = .a5 := by
  cases r <;> simp_all [rank]

def Evidence.impactRisk (x : Evidence) : RiskClass := riskBand x.impact.critical

/-- The evidence passes every check of the engine, with this permission. -/
structure Permitted (e : PolicyEngine) (x : Evidence) (permission : ActionPermission) : Prop where
  intentDigest : x.intent.hasValidSha256 = true
  impactDigest : x.impact.hasValidImpactSha256 = true
  alive : x.intent.createdAtMs ≤ x.decidedAtMs ∧ x.decidedAtMs ≤ x.intent.expiresAtMs
  /-- The impact belongs to the life and the action of the intent. -/
  impactOf : x.impact.lifeId = x.intent.lifeId ∧ x.impact.actionId.1 = x.intent.actionId.1
  registered : (e.registry.permissions.find? fun p =>
    p.actionId = x.intent.actionId && p.actionVersion = x.intent.actionVersion) = some permission
  requested : requestedAllowed x permission = true
  belowCeiling : computedRisk permission x.impactRisk ≠ .a5
  unconfirmed : x.confirmation = none
  /-- A binding is present exactly when one is expected, and is that one. -/
  composition : x.intent.compositionExecutionBinding = x.expectedCompositionBinding
  ceiling : ∀ expected, x.expectedCompositionBinding = some expected →
    compositionPermissionAllowed permission expected.executionProfile = true ∧
      computedRisk permission x.impactRisk = permission.effectiveRisk
  provenance : ∀ items, x.authorizationSourceRefs = some items →
    ∀ item ∈ items, ∃ r, item = .ref r ∧ r.sourceType.untrusted = false
  skill : ∀ skill, x.intent.skill = some skill →
    ∃ g, x.skillActivation = some g ∧ activates e x skill g = true
  unskilled : x.intent.skill = none → x.skillActivation = none

variable {e : PolicyEngine} {x : Evidence} {permission : ActionPermission} {d d' : Draft}

lemma judgeComposition_open (x : Evidence) : (judgeComposition x .start).outcome = none ↔
    x.intent.compositionExecutionBinding = x.expectedCompositionBinding := by
  unfold judgeComposition
  cases hbinding : x.intent.compositionExecutionBinding with
  | none =>
    cases hexpected : x.expectedCompositionBinding with
    | none => simp [start]
    | some expected => simp [reject]
  | some binding =>
    obtain ⟨hvalid, hscope⟩ := x.intent.binding_fits binding hbinding
    cases hexpected : x.expectedCompositionBinding with
    | none => simp [reject]
    | some expected =>
      by_cases heq : binding = expected
      · subst heq
        have hfits : binding.scope = x.intent.bindingScope := hscope
        simp [hvalid, hfits, note, start]
      · simp [heq, reject]

lemma judgeComposition_outcome (x : Evidence) : (judgeComposition x .start).outcome = none ∨
    (judgeComposition x .start).outcome = some .reject := by
  unfold judgeComposition
  split
  · exact .inr rfl
  · split
    · exact .inr rfl
    · exact .inl rfl
  · exact .inr rfl
  · exact .inl rfl

/-- What the ceiling of a composition step asks for. -/
lemma judgeCeiling_open (risk : RiskClass) (d : Draft) :
    (judgeCeiling x permission risk d).outcome = none ↔ d.outcome = none ∧
      ∀ expected, x.expectedCompositionBinding = some expected →
        compositionPermissionAllowed permission expected.executionProfile = true ∧
          risk = permission.effectiveRisk ∧ requestedAllowed x permission = true ∧
          x.confirmation = none := by
  unfold judgeCeiling
  cases hexpected : x.expectedCompositionBinding with
  | none => simp
  | some expected =>
    simp only [Option.some.injEq, forall_eq']
    split
    case isTrue h =>
      simp only [reject, reduceCtorEq, false_iff, not_and]
      intro _ hallowed hrisk hrequested hconfirmation
      simp [hallowed, hrisk, hrequested, hconfirmation] at h
    case isFalse h =>
      simp only [not_or, Bool.not_eq_false, not_not, Bool.not_eq_true,
        Option.isSome_eq_false_iff, Option.isNone_iff_eq_none] at h
      simp [h]

variable {risk : RiskClass}

lemma judgeCeiling_outcome (h : d.outcome = none ∨ d.outcome = some .reject) :
    (judgeCeiling x permission risk d).outcome = none ∨
      (judgeCeiling x permission risk d).outcome = some .reject := by
  unfold judgeCeiling
  split
  · exact h
  · split
    · exact .inr rfl
    · exact h

/-- The items are references to trusted sources. -/
def Trusted (x : Evidence) : Prop :=
  ∀ items, x.authorizationSourceRefs = some items →
    ∀ item ∈ items, ∃ r, item = .ref r ∧ r.sourceType.untrusted = false

lemma judgeProvenance_open : (∃ d', judgeProvenance x d = .ok d' ∧ d'.outcome = none) ↔
    d.outcome = none ∧ Trusted x := by
  unfold judgeProvenance Trusted
  cases hrefs : x.authorizationSourceRefs with
  | none => simp [pure_eq_ok]
  | some items =>
    simp only [Option.some.injEq, forall_eq', eq_ok_iff, normalizeSourceRefs]
    constructor
    · rintro ⟨d', ⟨refs, ⟨hvalid, rfl⟩, rfl⟩, hopen⟩
      split at hopen
      · cases hopen
      case isFalse huntrusted =>
        refine ⟨hopen, fun item hitem => ?_⟩
        cases item with
        | invalid => exact absurd hitem hvalid
        | ref r =>
          refine ⟨r, rfl, ?_⟩
          by_contra hbad
          rw [Bool.not_eq_false] at hbad
          apply huntrusted
          rw [any_eq_true]
          exact ⟨r, mem_sortedSet.mpr (mem_filterMap.mpr ⟨_, hitem, rfl⟩), hbad⟩
    · rintro ⟨hopen, htrusted⟩
      refine ⟨_, ⟨_, ⟨?_, rfl⟩, rfl⟩, ?_⟩
      · intro hinvalid
        obtain ⟨r, heq, -⟩ := htrusted _ hinvalid
        cases heq
      · rw [if_neg]
        · exact hopen
        · rw [any_eq_true]
          rintro ⟨r, hr, huntrusted⟩
          obtain ⟨item, hitem, hsome⟩ := mem_filterMap.mp (mem_sortedSet.mp hr)
          obtain ⟨r', rfl, htrust⟩ := htrusted item hitem
          cases hsome
          rw [htrust] at huntrusted
          cases huntrusted

lemma judgeProvenance_outcome (h : d.outcome = none ∨ d.outcome = some .reject)
    (hok : judgeProvenance x d = .ok d') : d'.outcome = none ∨ d'.outcome = some .reject := by
  unfold judgeProvenance at hok
  split at hok
  · cases hok
    exact h
  · simp only [eq_ok_iff] at hok
    obtain ⟨refs, -, rfl⟩ := hok
    split
    · exact .inr rfl
    · exact h

/-- Only an open outcome below the ceiling is allowed. -/
lemma judgeRisk_allow (h : d.outcome = none ∨ d.outcome = some .reject) :
    (∃ d', judgeRisk x risk d = .ok d' ∧ d'.outcome = some .allow) ↔
      d.outcome = none ∧ risk ≠ .a5 ∧ x.confirmation = none := by
  unfold judgeRisk
  by_cases hrisk : risk = .a5
  · simp [hrisk, reject, pure_eq_ok]
  · rw [if_neg hrisk]
    rcases h with hopen | hclosed
    · rw [if_pos hopen]
      simp only [eq_ok_iff]
      cases hconfirmation : x.confirmation with
      | none => simp [hopen, hrisk, allow]
      | some c => simp
    · have hnot : d.outcome ≠ none := by simp [hclosed]
      rw [if_neg hnot]
      simp [pure_eq_ok, hclosed]

/-- The skill of the intent is activated, and an intent without one brings no activation. -/
def Skilled (e : PolicyEngine) (x : Evidence) : Prop :=
  (∀ skill, x.intent.skill = some skill →
    ∃ g, x.skillActivation = some g ∧ activates e x skill g = true) ∧
  (x.intent.skill = none → x.skillActivation = none)

lemma judgeSkill_allow : (∃ d' activation, judgeSkill e x d = .ok (d', activation) ∧
      d'.outcome = some .allow) ↔ d.outcome = some .allow ∧ Skilled e x := by
  unfold judgeSkill Skilled
  cases hskill : x.intent.skill with
  | none =>
    cases hactivation : x.skillActivation with
    | none => simp [pure_eq_ok]
    | some g => simp
  | some skill =>
    cases hactivation : x.skillActivation with
    | none => simp [pure_eq_ok, reject]
    | some g =>
      by_cases hg : activates e x skill g = true
      · simp [hg, pure_eq_ok, note]
      · simp [hg, pure_eq_ok, reject]

lemma checkEvidence_eq_ok : checkEvidence e x = .ok permission ↔
    x.intent.hasValidSha256 = true ∧ x.impact.hasValidImpactSha256 = true ∧
      (x.intent.createdAtMs ≤ x.decidedAtMs ∧ x.decidedAtMs ≤ x.intent.expiresAtMs) ∧
      (x.impact.lifeId = x.intent.lifeId ∧ x.impact.actionId.1 = x.intent.actionId.1) ∧
      (e.registry.permissions.find? fun p =>
        p.actionId = x.intent.actionId && p.actionVersion = x.intent.actionVersion) =
          some permission ∧ requestedAllowed x permission = true := by
  simp only [checkEvidence, eq_ok_iff, not_or, Bool.not_eq_false, not_not]
  constructor
  · rintro ⟨⟨hintent, himpact⟩, halive, hbinding, p, hfind, -, hrequested, rfl⟩
    exact ⟨hintent, himpact, halive, hbinding, hfind, hrequested⟩
  · rintro ⟨hintent, himpact, halive, hbinding, hfind, hrequested⟩
    have hvalid := (e.registry.permissions_valid permission (mem_of_find?_eq_some hfind)).1
    exact ⟨⟨hintent, himpact⟩, halive, hbinding, permission, hfind, hvalid, hrequested, rfl⟩

lemma riskFromActionImpact_eq_ok (h : x.impact.hasValidImpactSha256 = true) :
    riskFromActionImpact x.impact = .ok risk ↔ risk = x.impactRisk := by
  simp only [riskFromActionImpact, eq_ok_iff, h, Bool.true_eq_false, not_false_eq_true, true_and,
    Evidence.impactRisk]
  exact eq_comm

/-- Every check adds one reason at most. -/
lemma judge_reasons {d₁ d₂ d₃ : Draft} {activation : Option (OpaqueId × Canon)}
    (hprovenance : judgeProvenance x (judgeCeiling x permission risk (judgeComposition x .start)) =
      .ok d₁) (hrisk : judgeRisk x risk d₁ = .ok d₂)
    (hskill : judgeSkill e x d₂ = .ok (d₃, activation)) :
    d₃.reasons ≠ [] ∧ d₃.reasons.length ≤ 6 := by
  have hcomposition : (judgeComposition x .start).reasons ≠ [] ∧
      (judgeComposition x .start).reasons.length ≤ 2 := by
    unfold judgeComposition
    split <;> (try split) <;> simp [reject, note, start]
  have hceiling : ∀ d : Draft, d.reasons ≠ [] → (judgeCeiling x permission risk d).reasons ≠ [] ∧
        (judgeCeiling x permission risk d).reasons.length ≤ d.reasons.length + 1 := by
    intro d hd
    unfold judgeCeiling
    split <;> (try split) <;> simp [reject, hd]
  have hc := hceiling _ hcomposition.1
  have h₁ : d₁.reasons ≠ [] ∧ d₁.reasons.length ≤ 4 := by
    unfold judgeProvenance at hprovenance
    split at hprovenance
    · cases hprovenance
      exact ⟨hc.1, by omega⟩
    · simp only [eq_ok_iff] at hprovenance
      obtain ⟨refs, -, rfl⟩ := hprovenance
      split <;> simp only [reject, note, length_cons, ne_eq, reduceCtorEq,
        not_false_eq_true, true_and] <;> omega
  have h₂ : d₂.reasons ≠ [] ∧ d₂.reasons.length ≤ 5 := by
    unfold judgeRisk at hrisk
    split at hrisk
    · cases hrisk
      simp only [reject, length_cons, ne_eq, reduceCtorEq, not_false_eq_true, true_and]
      omega
    · split at hrisk
      · simp only [eq_ok_iff] at hrisk
        obtain ⟨-, rfl⟩ := hrisk
        simp only [allow, length_cons, ne_eq, reduceCtorEq, not_false_eq_true, true_and]
        omega
      · cases hrisk
        exact ⟨h₁.1, by omega⟩
  unfold judgeSkill at hskill
  split at hskill
  · cases hskill
    simp only [reject, length_cons, ne_eq, reduceCtorEq, not_false_eq_true, true_and]
    omega
  · split at hskill <;> cases hskill <;>
      simp only [reject, note, length_cons, ne_eq, reduceCtorEq,
        not_false_eq_true, true_and] <;> omega
  · cases hskill
  · cases hskill
    exact ⟨h₂.1, by omega⟩

/-- An allowed body below the ceiling meets the contract of a decision. -/
lemma allowed_valid {activation : Option (OpaqueId × Canon)}
    (hrisk : risk ≠ .a5) (hreasons : d.reasons ≠ [] ∧ d.reasons.length ≤ 6) :
    (decisionBody e x permission risk d .allow activation).valid = true := by
  have hlength := length_sortedSet_le d.reasons
  have hne : sortedSet d.reasons ≠ [] := by
    obtain ⟨reason, hmem⟩ := exists_mem_of_ne_nil _ hreasons.1
    exact ne_nil_of_mem (mem_sortedSet.mpr hmem)
  have hshort : (sortedSet d.reasons).length ≤ 64 := by omega
  have hbinding : x.intent.compositionExecutionBinding.all
      CompositionExecutionBinding.hasValidSha256 = true := by
    rw [Option.all_eq_true]
    intro b hb
    exact (x.intent.binding_fits b hb).1
  simp [DecisionBody.valid, decisionBody, hrisk, hne, hshort, hbinding]

variable {decision : PolicyDecision}

lemma decision_body {b : DecisionBody} (h : b.decision = .ok decision) : decision.body = b := by
  unfold DecisionBody.decision at h
  split at h
  · cases h
    rfl
  · cases h

/-- An allowed intent has passed every check. -/
lemma permitted_of_allow (hdecision : evaluate e x = .ok decision)
    (hallow : decision.body.outcome = .allow) : ∃ permission, Permitted e x permission ∧
      decision.body.computedRisk = computedRisk permission x.impactRisk := by
  simp only [evaluate, eq_ok_iff] at hdecision
  obtain ⟨permission, hcheck, impactRisk, hband, d₁, hprovenance, d₂, hrisk, ⟨d₃, activation⟩,
    hskill, outcome, houtcome, hbody⟩ := hdecision
  obtain ⟨hintent, himpact, halive, himpactOf, hregistered, hrequested⟩ :=
    checkEvidence_eq_ok.mp hcheck
  rw [riskFromActionImpact_eq_ok himpact] at hband
  subst hband
  have hallowed : d₃.outcome = some .allow := by
    rw [houtcome, ← hallow, decision_body hbody]
    rfl
  obtain ⟨hd₂, hskilled⟩ := judgeSkill_allow.mp ⟨d₃, activation, hskill, hallowed⟩
  have hclosed := judgeProvenance_outcome
    (judgeCeiling_outcome (judgeComposition_outcome x)) hprovenance
  obtain ⟨hd₁, hbelow, hunconfirmed⟩ := (judgeRisk_allow hclosed).mp ⟨d₂, hrisk, hd₂⟩
  obtain ⟨hd, htrusted⟩ := judgeProvenance_open.mp ⟨d₁, hprovenance, hd₁⟩
  obtain ⟨hcomposition, hceiling⟩ := (judgeCeiling_open _ _).mp hd
  have hpermitted : Permitted e x permission :=
    { intentDigest := hintent
      impactDigest := himpact
      alive := halive
      impactOf := himpactOf
      registered := hregistered
      requested := hrequested
      belowCeiling := hbelow
      unconfirmed := hunconfirmed
      composition := (judgeComposition_open x).mp hcomposition
      ceiling := fun expected hexpected =>
        ⟨(hceiling expected hexpected).1, (hceiling expected hexpected).2.1⟩
      provenance := htrusted
      skill := hskilled.1
      unskilled := hskilled.2 }
  refine ⟨permission, hpermitted, ?_⟩
  rw [decision_body hbody]
  rfl

/-- Evidence that passes every check is allowed. -/
theorem Permitted.allowed (h : Permitted e x permission) : ∃ decision,
    evaluate e x = .ok decision ∧ decision.body.outcome = .allow := by
  have hcheck : checkEvidence e x = .ok permission := checkEvidence_eq_ok.mpr
    ⟨h.intentDigest, h.impactDigest, h.alive, h.impactOf, h.registered, h.requested⟩
  have hband := (riskFromActionImpact_eq_ok h.impactDigest).mpr rfl
  have hceiling := (judgeCeiling_open (computedRisk permission x.impactRisk) _).mpr
    ⟨(judgeComposition_open x).mpr h.composition, fun expected hexpected =>
      ⟨(h.ceiling expected hexpected).1, (h.ceiling expected hexpected).2, h.requested,
        h.unconfirmed⟩⟩
  obtain ⟨d₁, hprovenance, hd₁⟩ := judgeProvenance_open.mpr ⟨hceiling, h.provenance⟩
  obtain ⟨d₂, hrisk, hd₂⟩ :=
    (judgeRisk_allow (.inl hd₁)).mpr ⟨hd₁, h.belowCeiling, h.unconfirmed⟩
  obtain ⟨d₃, activation, hskill, hd₃⟩ := judgeSkill_allow.mpr ⟨hd₂, h.skill, h.unskilled⟩
  let body := decisionBody e x permission (computedRisk permission x.impactRisk) d₃ .allow
    activation
  have hvalid : body.valid = true :=
    allowed_valid h.belowCeiling (judge_reasons hprovenance hrisk hskill)
  have hdecision : body.decision = .ok ⟨body, .sha256 body.canon, hvalid⟩ := dif_pos hvalid
  refine ⟨⟨body, .sha256 body.canon, hvalid⟩, ?_, rfl⟩
  simp only [evaluate, eq_ok_iff]
  exact ⟨permission, hcheck, x.impactRisk, hband, d₁, hprovenance, d₂, hrisk, (d₃, activation),
    hskill, .allow, hd₃, hdecision⟩

/-- The activation is alive and agrees with the intent and the engine in every shared field. -/
structure Activated (e : PolicyEngine) (x : Evidence) (skill : SkillRef)
    (g : SkillActivationGrant) : Prop where
  digest : g.hasValidSha256 = true
  requestId : g.requestId = x.intent.requestId
  runId : g.runId = x.intent.runId
  generation : g.generation = x.intent.generation
  principal : g.principalScopeHash = x.intent.principalScopeHash
  catalog : g.skillCatalogHash = e.skillCatalogHash
  manifest : g.capabilityManifestHash = e.capabilityManifestHash
  skill : g.skill = skill
  action : x.intent.actionId ∈ g.allowedActionIds
  alive : g.issuedAtMs ≤ x.decidedAtMs ∧ x.decidedAtMs ≤ g.expiresAtMs

lemma activated_of_activates {skill : SkillRef} {g : SkillActivationGrant}
    (h : activates e x skill g = true) : Activated e x skill g := by
  simp only [activates, holds_iff] at h
  obtain ⟨⟨⟨⟨⟨⟨⟨⟨⟨⟨hdigest, hrequest⟩, hrun⟩, hgeneration⟩, hprincipal⟩, hcatalog⟩, hmanifest⟩,
    hskill⟩, haction⟩, hissued⟩, hexpires⟩ := h
  exact ⟨hdigest, hrequest, hrun, hgeneration, hprincipal, hcatalog, hmanifest, hskill, haction,
    hissued, hexpires⟩

/-- What an allowing decision must have been judged by. -/
structure Judged (e : PolicyEngine) (x : Evidence) (decision : PolicyDecision) : Prop where
  impactOf : x.impact.intentSha256 = x.intent.intentSha256
  covered : ∃ permission ∈ e.registry.permissions,
    permission.actionId = x.intent.actionId ∧ permission.actionVersion = x.intent.actionVersion ∧
      (∀ effect ∈ x.intent.requestedSideEffects, effect ∈ permission.allowedSideEffects) ∧
      decision.body.computedRisk.rank =
        max permission.effectiveRisk.rank (riskBand x.impact.critical).rank
  belowCeiling : decision.body.computedRisk ≠ .a5
  sources : ∀ items, x.authorizationSourceRefs = some items → ∀ r, .ref r ∈ items →
    r.sourceType ≠ .externalData ∧ r.sourceType ≠ .toolData
  skill : ∀ skill, x.intent.skill = some skill →
    ∃ g, x.skillActivation = some g ∧ Activated e x skill g
  composition : x.intent.compositionExecutionBinding = x.expectedCompositionBinding

/-- The second list of sources is the first with untrusted ones added. -/
def SourcesAdded (refs refs' : Option (List SourceItem)) : Prop :=
  refs' = refs ∨ ∃ items' added : List SourceItem, refs' = some items' ∧
    (∀ item ∈ added, ∃ r, item = .ref r ∧ r.sourceType.untrusted = true) ∧
    ∀ item, item ∈ items' ↔ item ∈ refs.getD [] ∨ item ∈ added

/-- The same call with untrusted sources added or its impact raised. -/
structure Evidence.HardenedTo (x x' : Evidence) : Prop where
  intent : x'.intent = x.intent
  impact : x.impact.RaisedTo x'.impact
  decidedAtMs : x'.decidedAtMs = x.decidedAtMs
  confirmation : x'.confirmation = x.confirmation
  skillActivation : x'.skillActivation = x.skillActivation
  expected : x'.expectedCompositionBinding = x.expectedCompositionBinding
  sources : SourcesAdded x.authorizationSourceRefs x'.authorizationSourceRefs

/-- What passes with more untrusted sources or a larger impact passes without them. -/
lemma Permitted.of_hardened {x' : Evidence} (hx : x.HardenedTo x')
    (himpact : x.impact.hasValidImpactSha256 = true) (h : Permitted e x' permission) :
    Permitted e x permission := by
  have hrank : x.impactRisk.rank ≤ x'.impactRisk.rank := riskBand_mono hx.impact.critical_le
  have hrisk := atLeast_rank permission.effectiveRisk x.impactRisk
  have hrisk' := atLeast_rank permission.effectiveRisk x'.impactRisk
  constructor
  · exact hx.intent ▸ h.intentDigest
  · exact himpact
  · exact hx.intent ▸ hx.decidedAtMs ▸ h.alive
  · rw [← hx.impact.lifeId, ← hx.impact.actionId, ← hx.intent]
    exact h.impactOf
  · exact hx.intent ▸ h.registered
  · have hrequested := h.requested
    rw [requestedAllowed, hx.intent] at hrequested
    exact hrequested
  · intro hceiling
    apply h.belowCeiling
    apply RiskClass.rank_a5
    have hsame : (computedRisk permission x.impactRisk).rank = RiskClass.rank .a5 :=
      congrArg RiskClass.rank hceiling
    unfold computedRisk at hsame ⊢
    omega
  · exact hx.confirmation ▸ h.unconfirmed
  · exact hx.intent ▸ hx.expected ▸ h.composition
  · intro expected hexpected
    obtain ⟨hallowed, hsame⟩ := h.ceiling expected (hx.expected.trans hexpected)
    refine ⟨hallowed, RiskClass.rank_injective ?_⟩
    have hranks := congrArg RiskClass.rank hsame
    unfold computedRisk at hranks ⊢
    omega
  · intro items hitems item hitem
    rcases hx.sources with hsame | ⟨items', added, hsome, -, hmem⟩
    · exact h.provenance items (hsame.trans hitems) item hitem
    · apply h.provenance items' hsome item
      rw [hmem, hitems]
      exact .inl hitem
  · intro skill hskill
    obtain ⟨g, hg, hactivates⟩ := h.skill skill (hx.intent ▸ hskill)
    refine ⟨g, hx.skillActivation ▸ hg, ?_⟩
    rw [activates, hx.intent, hx.decidedAtMs] at hactivates
    exact hactivates
  · intro hskill
    exact hx.skillActivation ▸ h.unskilled (hx.intent ▸ hskill)

/-- An allowing decision is judged by all its evidence, and a decision that does not allow stays so
with untrusted sources added or the impact raised. -/
structure AllowsOnlyJudged (e : PolicyEngine) (x : Evidence) : Prop where
  judged : ∀ decision, evaluate e x = .ok decision → decision.body.outcome = .allow →
    Judged e x decision
  hardened : ∀ x' decision decision', evaluate e x = .ok decision →
    decision.body.outcome ≠ .allow → x.HardenedTo x' → evaluate e x' = .ok decision' →
      decision'.body.outcome ≠ .allow

/-- The impact of an evaluation that returns is sealed. -/
lemma impactDigest_of_evaluate (h : evaluate e x = .ok decision) :
    x.impact.hasValidImpactSha256 = true := by
  simp only [evaluate, bind_eq_ok] at h
  obtain ⟨permission, hcheck, -⟩ := h
  exact (checkEvidence_eq_ok.mp hcheck).2.1

lemma Permitted.judged (h : Permitted e x permission)
    (hrisk : decision.body.computedRisk = computedRisk permission x.impactRisk)
    (himpact : x.impact.intentSha256 = x.intent.intentSha256) : Judged e x decision where
  impactOf := himpact
  covered := by
    have hfound := List.find?_some h.registered
    simp only [holds_iff] at hfound
    have hrequested := h.requested
    simp only [requestedAllowed, decide_eq_true_eq] at hrequested
    refine ⟨permission, mem_of_find?_eq_some h.registered, hfound.1, hfound.2, hrequested, ?_⟩
    rw [hrisk]
    exact atLeast_rank permission.effectiveRisk x.impactRisk
  belowCeiling := by
    rw [hrisk]
    exact h.belowCeiling
  sources := by
    intro items hitems r hr
    obtain ⟨r', heq, htrusted⟩ := h.provenance items hitems _ hr
    cases heq
    constructor <;> (intro htype; rw [htype] at htrusted; cases htrusted)
  skill := by
    intro skill hskill
    obtain ⟨g, hg, hactivates⟩ := h.skill skill hskill
    exact ⟨g, hg, activated_of_activates hactivates⟩
  composition := h.composition

/-- The engine allows only what it judged exactly where permitted evidence carries the impact of its
own intent. -/
theorem allows_only_judged_iff (e : PolicyEngine) (x : Evidence) : AllowsOnlyJudged e x ↔
    ∀ permission, Permitted e x permission → x.impact.intentSha256 = x.intent.intentSha256 := by
  constructor
  · intro h permission hpermitted
    obtain ⟨decision, hdecision, hallow⟩ := hpermitted.allowed
    exact (h.judged decision hdecision hallow).impactOf
  · intro h
    constructor
    · intro decision hdecision hallow
      obtain ⟨permission, hpermitted, hrisk⟩ := permitted_of_allow hdecision hallow
      exact hpermitted.judged hrisk (h permission hpermitted)
    · intro x' decision decision' hdecision hclosed hx hdecision' hallow
      obtain ⟨permission, hpermitted, -⟩ := permitted_of_allow hdecision' hallow
      have hbefore := hpermitted.of_hardened hx (impactDigest_of_evaluate hdecision)
      obtain ⟨allowed, hallowed, houtcome⟩ := hbefore.allowed
      rw [hdecision] at hallowed
      cases hallowed
      exact hclosed houtcome

lemma fileRead_isActionId : isActionId (py "file.read") = true := by decide

lemma fileRead_isOpaqueId : isOpaqueId (py "file.read") = true := by decide

lemma version_isOpaqueId : isOpaqueId (py "v1") = true := by decide

lemma registry_isOpaqueId : isOpaqueId (py "registry") = true := by decide

lemma life_isOpaqueId : isOpaqueId (py "life") = true := by decide

lemma workspace_isOpaqueId : isOpaqueId (py "workspace") = true := by decide

lemma fileRead_floor : max (rank .a0) (ActionEffect.floor .read).rank ≤
    rank .a0 := by decide

lemma fileRead_executable : a0 ≠ .a5 := by decide

lemma fileRead_unprivileged : (false || false) = true → a0 = .a4 := by decide

lemma fileRead_notDestructive : py "destructive" ∈ [py "read"] → a0 = .a4 := by decide

def fileRead : ActionPermission :=
  ActionPermission.withComputedSha256
    { schemaVersion := .current, actionId := ⟨py "file.read", fileRead_isActionId⟩
      actionVersion := ⟨py "v1", version_isOpaqueId⟩, registryRisk := .a0, effectiveRisk := .a0
      effect := .read, handler := py "read", allowedSideEffects := [py "read"]
      pathPolicy := py "workspace_only", allowAbsolutePaths := true, allowShell := false
      allowPython := false, sourceManifestSha256 := .text "manifest", permissionSha256 := .null
      machine_floor := fileRead_floor, executable := fileRead_executable
      privileged := fileRead_unprivileged, destructive := fileRead_notDestructive }

def sampleRegistry : ActionRegistrySnapshot :=
  ActionRegistrySnapshot.withComputedSha256
    { schemaVersion := .current, registryId := ⟨py "registry", registry_isOpaqueId⟩, revision := 1
      generatedAtMs := 0, sourceManifestSha256 := .text "manifest", permissions := [fileRead]
      registrySha256 := .null, actionIds_sorted := by simp
      permissions_valid := by decide +kernel }

def sampleEngine : PolicyEngine where
  registry := sampleRegistry
  policySnapshotSha256 := .text "policy"
  skillCatalogHash := .text "skills"
  capabilityManifestHash := .text "capabilities"
  componentManifestHash := .text "components"
  registry_valid := by decide +kernel

/-- An intent to read what `payload` names. -/
def readIntent (payload : String) : ActionIntent :=
  ActionIntent.withComputedSha256
    { lifeId := ⟨py "life", life_isOpaqueId⟩, principalScopeHash := .text "principal"
      requestId := .text "request", runId := .text "run", generation := 0
      actionId := ⟨py "file.read", fileRead_isActionId⟩, actionVersion := ⟨py "v1", version_isOpaqueId⟩
      workspaceId := ⟨py "workspace", workspace_isOpaqueId⟩, workspaceScopeHash := .text "scope"
      requestedSideEffects := [py "read"], skill := none
      canonicalInvocationSha256 := .text payload, targetSnapshotSha256 := none
      payloadSha256 := .text payload, compositionExecutionBinding := none, createdAtMs := 1
      expiresAtMs := 2, rest := .null, intentSha256 := .null, lifetime := by decide
      binding_fits := by simp }

/-- The impact of an intent, without any risk. -/
def harmlessImpact (intent : ActionIntent) : ActionImpact :=
  ActionImpact.withComputedImpactSha256
    { impactId := .text "impact", lifeId := ⟨py "life", life_isOpaqueId⟩
      actionId := ⟨py "file.read", fileRead_isOpaqueId⟩, intentSha256 := intent.intentSha256
      touchesIdentity := false, touchesSoul := false, touchesMemoryKeys := false
      touchesPolicy := false, touchesCoreCode := false, workspaceScopeMilli := 0
      externalRecipientCount := 0, credentialScopeMilli := 0, privacyScopeMilli := 0
      blastRadiusMilli := 0, irreversibilityMilli := 0, uncertaintyMilli := 0, rest := .null
      impactSha256 := .null, milli_le := by decide, recipients_le := by decide }

/-- To read a key file, with the impact of reading a note. -/
def foreignEvidence : Evidence where
  intent := readIntent "key"
  impact := harmlessImpact (readIntent "note")
  decidedAtMs := 1

lemma foreignEvidence_permitted : Permitted sampleEngine foreignEvidence fileRead where
  intentDigest := by decide +kernel
  impactDigest := by decide +kernel
  alive := by decide
  impactOf := by decide +kernel
  registered := by rfl
  requested := by decide +kernel
  belowCeiling := by decide +kernel
  unconfirmed := rfl
  composition := rfl
  ceiling := by
    intro expected h
    cases h
  provenance := by
    intro items h
    cases h
  skill := by
    intro skill h
    cases h
  unskilled := fun _ => rfl

theorem foreign_impact_allowed : ¬ AllowsOnlyJudged sampleEngine foreignEvidence := by
  intro h
  obtain ⟨decision, hdecision, hallow⟩ := foreignEvidence_permitted.allowed
  have hown := (h.judged decision hdecision hallow).impactOf
  revert hown
  decide +kernel

end Tiangong.Policy
