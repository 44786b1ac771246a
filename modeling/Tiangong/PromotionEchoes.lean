import Tiangong.PromotionGroups

/-!
# Promotion by echo

A refusal should stand when derivations are added that weigh nothing or only repeat what is there,
and no answer should depend on the order of the list. Both evaluations look at more than the folded
weights, though, and the noisy or is rounded at each step.
-/
open List

namespace Tiangong

namespace MemoryPromotion

open EvidenceGroup PromotionRequest PromotionDisposition

lemma noisyOr_append (ws vs : List ℤ) : noisyOr (ws ++ vs) =
    noisyOr ws >>= fun s => vs.foldlM (fun support weight => do
      rejectIf (weight < 0) "evidence weight cannot be negative"
      pure (support + weight - support * weight / 1000)) s :=
  foldlM_append

/-- Weights of zero add nothing. -/
lemma noisyOr_append_zeros {ws vs : List ℤ} (h : ∀ v ∈ vs, v = 0) :
    noisyOr (ws ++ vs) = noisyOr ws := by
  rw [noisyOr_append]
  have hzeros : ∀ s : ℤ, vs.foldlM (fun support weight => do
      rejectIf (weight < 0) "evidence weight cannot be negative"
      pure (support + weight - support * weight / 1000)) s = (Except.ok s : Except String ℤ) := by
    induction vs with
    | nil => exact fun s => rfl
    | cons v vs ih =>
      intro s
      have hv := h v mem_cons_self
      subst hv
      have hrest := ih (fun v hv => h v (mem_cons_of_mem _ hv)) s
      rw [foldlM_cons, rejectIf_of_not _ (lt_irrefl _)]
      simpa [bind, Except.bind, pure, Except.pure] using hrest
  cases noisyOr ws with
  | error e => rfl
  | ok s => exact hzeros s

variable (request : PromotionRequest)

def groupWeights : List ℤ :=
  (foldIndependence request.derivations request.supportWeights).map weightMilli

def counterList : List ℤ := request.derivations.map fun d => request.counterWeights d.derivationId

/-- The groups fold to this support at least. -/
def Supports (threshold : ℤ) : Prop :=
  ∃ support, noisyOr (groupWeights request) = .ok support ∧ threshold ≤ support

def CountersAtMost (limit : ℤ) : Prop :=
  ∃ counter, noisyOr (counterList request) = .ok counter ∧ counter ≤ limit

def groupCount : ℕ := (foldIndependence request.derivations request.supportWeights).length

/-- Some derivation is direct evidence. -/
def HasDirect : Prop := ∃ d ∈ request.derivations, 1000 ≤ request.supportWeights d.derivationId

/-- Some derivation has shown its causal utility. -/
def IsUseful : Prop := ∃ d ∈ request.derivations, 700 ≤ request.causalUtilityMilli d.derivationId

variable {request} {e : Evidence}

lemma gather_eq_ok : gather request = .ok e ↔ noisyOr (groupWeights request) = .ok e.support ∧
      noisyOr (counterList request) = .ok e.counter ∧ e.groups = groupCount request ∧
      e.directGroups = (foldIndependence request.derivations request.supportWeights).countP
        direct := by
  obtain ⟨support, counter, groups, directGroups⟩ := e
  simp only [gather, eq_ok_iff, Evidence.mk.injEq]
  constructor
  · rintro ⟨_, hsupport, _, hcounter, rfl, rfl, rfl, rfl⟩
    exact ⟨hsupport, hcounter, rfl, rfl⟩
  · rintro ⟨hsupport, hcounter, rfl, rfl⟩
    exact ⟨support, hsupport, counter, hcounter, rfl, rfl, rfl, rfl⟩

lemma one_le_direct : 1 ≤ (foldIndependence request.derivations request.supportWeights).countP
    direct ↔ HasDirect request := by
  rw [Nat.one_le_iff_ne_zero, ← Nat.pos_iff_ne_zero, countP_pos_iff]
  have hdirect : ∀ ms : List MemoryDerivation,
      (evidenceGroup request.supportWeights ms).direct = true ↔
        ∃ m ∈ ms, 1000 ≤ request.supportWeights m.derivationId := by
    intro ms
    show (ms.any _) = true ↔ _
    simp
  simp only [foldIndependence, mem_orderBy, evidenceGroups_eq, mem_map, Prod.exists]
  constructor
  · rintro ⟨_, ⟨k, positions, -, rfl⟩, h⟩
    obtain ⟨m, hm, hweight⟩ := (hdirect _).mp h
    obtain ⟨i, -, hget⟩ := mem_membersAt.mp hm
    exact ⟨m, mem_of_getElem? hget, hweight⟩
  · rintro ⟨d, hd, hweight⟩
    obtain ⟨i, hget⟩ := mem_iff_getElem?.mp hd
    have hlt := (List.getElem?_eq_some_iff.mp hget).1
    obtain ⟨positions, hmem⟩ := (bucketsOf_bucketed (rootAt request.derivations)
      (List.range request.derivations.length)).covers i (mem_range.mpr hlt)
    have hi : i ∈ positions := (mem_bucket hmem).mpr ⟨hlt, rfl⟩
    exact ⟨_, ⟨_, positions, hmem, rfl⟩,
      (hdirect _).mpr ⟨d, mem_membersAt.mpr ⟨i, hi, hget⟩, hweight⟩⟩

lemma le_maxCausal (hne : request.derivations ≠ []) :
    700 ≤ maxCausal request ↔ IsUseful request := by
  obtain ⟨hmem, hle⟩ := @maxWeight_spec
    (request.derivations.map fun d => request.causalUtilityMilli d.derivationId)
    (by simpa using hne)
  constructor
  · intro h
    obtain ⟨d, hd, hmax⟩ := mem_map.mp hmem
    exact ⟨d, hd, by rw [hmax]; exact h⟩
  · rintro ⟨d, hd, hutility⟩
    exact hutility.trans (hle _ (mem_map_of_mem hd))

inductive Evaluation where
  | experience | core

/-- `evaluate_l3` and `evaluate_l5`. -/
def Evaluation.run : Evaluation → PromotionRequest → Except String PromotionDisposition
  | .experience => evaluateL3
  | .core => evaluateL5

def Evaluation.targetLayer : Evaluation → MemoryLayer
  | .experience => .l3Experience
  | .core => .l5Core

def Evaluation.verdict : Evaluation → PromotionRequest → Evidence → Verdict
  | .experience => experienceVerdict
  | .core => coreVerdict

variable {evaluation : Evaluation} {d : PromotionDisposition}

lemma Evaluation.run_eq_ok : evaluation.run request = .ok d ↔ request.derivations ≠ [] ∧
    ∃ e, gather request = .ok e ∧
      disposition request evaluation.targetLayer (evaluation.verdict request e) = .ok d := by
  cases evaluation <;>
    simp [Evaluation.run, evaluateL3, evaluateL5, bind_eq_ok, Evaluation.targetLayer,
      Evaluation.verdict]

/-- The ranges that the contract checks. -/
structure InRange (request : PromotionRequest) (v : Verdict) : Prop where
  parents : (parentAssertions request.derivations).length ≤ 4096
  roots : (lineageRoots request.derivations).length ≤ 4096
  reasons : (sortedSet v.reasonCodes).length ≤ 256
  support : 0 ≤ v.supportMilli ∧ v.supportMilli ≤ maxContractInteger
  counter : 0 ≤ v.counterMilli ∧ v.counterMilli ≤ maxContractInteger
  groups : v.independenceGroupCount ≤ 1000000
  recurrence : 0 ≤ request.recurrenceCount ∧ request.recurrenceCount ≤ 1000000
  validFrom : 0 ≤ request.validFromMs ∧ request.validFromMs ≤ maxContractInteger
  createdAt : 0 ≤ request.createdAtMs ∧ request.createdAtMs ≤ maxContractInteger

lemma disposition_eq_ok {layer : MemoryLayer} {v : Verdict} :
    disposition request layer v = .ok d ↔ InRange request v ∧
      d = { promotionKey := derivePromotionKey request.policyVersion request.lifeId layer
              (parentAssertions request.derivations) request.semanticDomain request.claimKey
              (lineageRoots request.derivations)
            lifeId := request.lifeId
            principalRef := request.principalRef
            targetLayer := layer
            claimKey := request.claimKey
            semanticDomain := request.semanticDomain
            policyVersion := request.policyVersion
            parentAssertionSha256 := parentAssertions request.derivations
            lineageRootEventIds := lineageRoots request.derivations
            allowed := v.allowed
            reasonCodes := sortedSet v.reasonCodes
            supportMilli := v.supportMilli
            counterMilli := v.counterMilli
            independenceGroupCount := v.independenceGroupCount
            recurrenceCount := request.recurrenceCount
            validFromMs := request.validFromMs
            createdAtMs := request.createdAtMs } := by
  have hgroups : (0 : ℤ) ≤ (v.independenceGroupCount : ℤ) := Int.natCast_nonneg _
  simp only [disposition, checkDisposition, checkRange, checkLength, eq_ok_iff, not_or, not_lt,
    eq_comm (b := d)]
  constructor
  · rintro ⟨hparents, hroots, hreasons, hsupport, hcounter, ⟨-, hcount⟩, hrecurrence, hfrom,
      hcreated, rfl⟩
    exact ⟨⟨hparents, hroots, hreasons, hsupport, hcounter, by exact_mod_cast hcount, hrecurrence,
      hfrom, hcreated⟩, rfl⟩
  · rintro ⟨⟨hparents, hroots, hreasons, hsupport, hcounter, hcount, hrecurrence, hfrom,
      hcreated⟩, rfl⟩
    exact ⟨hparents, hroots, hreasons, hsupport, hcounter, ⟨hgroups, by exact_mod_cast hcount⟩,
      hrecurrence, hfrom, hcreated, rfl⟩

/-- Nothing speaks against the promotion. -/
def Unopposed : Evaluation → PromotionRequest → Prop
  | .experience, request => CountersAtMost request 350
  | .core, request => CountersAtMost request 150 ∧ hasTemporaryExpiry request.derivations = false

/-- What speaks for the promotion is enough, with the direct evidence that is present. -/
def Reaches : Evaluation → PromotionRequest → PromotionRequest → Prop
  | .experience, present, request => Supports request 650 ∧
      ((2 ≤ groupCount request ∧ 2 ≤ request.recurrenceCount) ∨
        (HasDirect present ∧ IsUseful request))
  | .core, present, request =>
      (3 ≤ groupCount request ∧ Supports request 850 ∧ HasDirect present) ∨
        2 ≤ explicitCount request.derivations ∨
          (1 ≤ experienceCount request.derivations ∧ 1 ≤ explicitCount request.derivations ∧
            Supports request 850)

lemma supports_iff {threshold : ℤ} (h : gather request = .ok e) :
    Supports request threshold ↔ threshold ≤ e.support := by
  have hsupport := (gather_eq_ok.mp h).1
  constructor
  · rintro ⟨s, hs, hle⟩
    rw [hsupport, Except.ok.injEq] at hs
    rwa [hs]
  · exact fun hle => ⟨_, hsupport, hle⟩

lemma countersAtMost_iff {limit : ℤ} (h : gather request = .ok e) :
    CountersAtMost request limit ↔ e.counter ≤ limit := by
  have hcounter := (gather_eq_ok.mp h).2.1
  constructor
  · rintro ⟨s, hs, hle⟩
    rw [hcounter, Except.ok.injEq] at hs
    rwa [hs]
  · exact fun hle => ⟨_, hcounter, hle⟩

lemma experienceVerdict_allowed : (experienceVerdict request e).allowed = true ↔
    650 ≤ e.support ∧ e.counter ≤ 350 ∧
      (recursIndependently request e ∨ provenDirectly request e) :=
  decide_eq_true_iff

lemma coreVerdict_allowed : (coreVerdict request e).allowed = true ↔
    isStable request e ∨ isReconfirmed request e ∨ isFused request e :=
  decide_eq_true_iff

lemma allowed_iff (h : evaluation.run request = .ok d) :
    d.allowed = true ↔ Unopposed evaluation request ∧ Reaches evaluation request request := by
  obtain ⟨hne, e, hgather, hdisposition⟩ := Evaluation.run_eq_ok.mp h
  obtain ⟨-, rfl⟩ := disposition_eq_ok.mp hdisposition
  obtain ⟨-, -, hgroups, hdirect⟩ := gather_eq_ok.mp hgather
  show (evaluation.verdict request e).allowed = true ↔ _
  cases evaluation with
  | experience =>
    rw [Evaluation.verdict, experienceVerdict_allowed]
    simp only [recursIndependently, provenDirectly, Unopposed, Reaches, supports_iff hgather,
      countersAtMost_iff hgather, hgroups, hdirect, one_le_direct, le_maxCausal hne]
    tauto
  | core =>
    rw [Evaluation.verdict, coreVerdict_allowed]
    simp only [isStable, isReconfirmed, isFused, Unopposed, Reaches, supports_iff hgather,
      countersAtMost_iff hgather, hgroups, hdirect, one_le_direct]
    tauto

/-- The same question about more derivations. -/
def PromotionRequest.extend (request : PromotionRequest) (added : List MemoryDerivation) :
    PromotionRequest :=
  { request with derivations := request.derivations ++ added }

/-- Nothing speaks against an echo, and it weighs nothing or shares a root with a present derivation
of its layer and origin that weighs no less. -/
def IsEcho (request : PromotionRequest) (m : MemoryDerivation) : Prop :=
  request.counterWeights m.derivationId = 0 ∧
    (request.supportWeights m.derivationId = 0 ∨ ∃ d ∈ request.derivations,
      m.sharesRoot d = true ∧ m.layer = d.layer ∧ m.origin = d.origin ∧
        request.supportWeights m.derivationId ≤ request.supportWeights d.derivationId)

variable {added : List MemoryDerivation}

lemma counterList_extend (hecho : ∀ m ∈ added, IsEcho request m) :
    noisyOr (counterList (request.extend added)) = noisyOr (counterList request) := by
  show noisyOr ((request.derivations ++ added).map _) = _
  rw [map_append]
  refine noisyOr_append_zeros fun v hv => ?_
  obtain ⟨m, hm, rfl⟩ := mem_map.mp hv
  exact (hecho m hm).1

/-- Echoes are no direct evidence of their own. -/
lemma hasDirect_extend (hecho : ∀ m ∈ added, IsEcho request m) :
    HasDirect (request.extend added) ↔ HasDirect request := by
  constructor
  · rintro ⟨d, hd, hweight⟩
    rcases mem_append.mp hd with hold | hnew
    · exact ⟨d, hold, hweight⟩
    · rcases (hecho d hnew).2 with hzero | ⟨d', hd', -, -, -, hle⟩
      · have hweight' : 1000 ≤ request.supportWeights d.derivationId := hweight
        omega
      · exact ⟨d', hd', hweight.trans hle⟩
  · rintro ⟨d, hd, hweight⟩
    exact ⟨d, mem_append_left _ hd, hweight⟩

lemma hasTemporaryExpiry_extend : hasTemporaryExpiry (request.extend added).derivations =
    (hasTemporaryExpiry request.derivations || hasTemporaryExpiry added) :=
  any_append

/-- The list is not too long for the contract, and its weights stay in range. -/
structure Fits (request : PromotionRequest) : Prop where
  parents : (parentAssertions request.derivations).length ≤ 4096
  roots : (lineageRoots request.derivations).length ≤ 4096
  groups : groupCount request ≤ 1000000
  support : ∃ support, noisyOr (groupWeights request) = .ok support ∧ 0 ≤ support ∧
    support ≤ maxContractInteger

lemma reasonIf_length (p : Prop) [Decidable p] (reason : String) :
    (reasonIf p reason).length ≤ 1 := by
  unfold reasonIf
  split <;> simp

/-- An evaluation gives a handful of reasons. -/
lemma reasons_length (evaluation : Evaluation) (request : PromotionRequest) (e : Evidence) :
    (sortedSet (evaluation.verdict request e).reasonCodes).length ≤ 256 := by
  refine (length_sortedSet_le _).trans ?_
  cases evaluation with
  | experience =>
    have h := fun p [Decidable p] reason => reasonIf_length p reason
    simp only [Evaluation.verdict, experienceVerdict, length_append]
    refine le_trans (Nat.add_le_add (Nat.add_le_add (Nat.add_le_add (Nat.add_le_add (h _ _) (h _ _))
      (h _ _)) (h _ _)) (h _ _)) (by omega)
  | core =>
    have h := fun p [Decidable p] reason => reasonIf_length p reason
    simp only [Evaluation.verdict, coreVerdict, length_append]
    refine le_trans (Nat.add_le_add (Nat.add_le_add (Nat.add_le_add (Nat.add_le_add (Nat.add_le_add
      (Nat.add_le_add (Nat.add_le_add (h _ _) (h _ _)) (h _ _)) (h _ _)) (h _ _)) (h _ _)) (h _ _))
      (h _ _)) (by omega)

lemma verdict_numbers (evaluation : Evaluation) (request : PromotionRequest) (e : Evidence) :
    (evaluation.verdict request e).supportMilli = e.support ∧
      (evaluation.verdict request e).counterMilli = e.counter ∧
      (evaluation.verdict request e).independenceGroupCount = e.groups := by
  cases evaluation <;> exact ⟨rfl, rfl, rfl⟩

/-- With echoes an evaluation answers again as long as the list fits. -/
lemma run_extend_isOk (h : evaluation.run request = .ok d)
    (hecho : ∀ m ∈ added, IsEcho request m) :
    (∃ d', evaluation.run (request.extend added) = .ok d') ↔ Fits (request.extend added) := by
  obtain ⟨hne, e, hgather, hdisposition⟩ := Evaluation.run_eq_ok.mp h
  obtain ⟨hrange, -⟩ := disposition_eq_ok.mp hdisposition
  obtain ⟨-, hcounter, -, -⟩ := gather_eq_ok.mp hgather
  obtain ⟨-, hcounterEq, -⟩ := verdict_numbers evaluation request e
  constructor
  · rintro ⟨d', h'⟩
    obtain ⟨-, e', hgather', hdisposition'⟩ := Evaluation.run_eq_ok.mp h'
    obtain ⟨hrange', -⟩ := disposition_eq_ok.mp hdisposition'
    obtain ⟨hsupport', -, hgroups', -⟩ := gather_eq_ok.mp hgather'
    obtain ⟨hnumber, -, hcount⟩ := verdict_numbers evaluation (request.extend added) e'
    refine ⟨hrange'.parents, hrange'.roots, ?_, _, hsupport', ?_⟩
    · rw [← hgroups', ← hcount]
      exact hrange'.groups
    · rw [← hnumber]
      exact hrange'.support
  · rintro ⟨hparents, hroots, hgroups, support, hsupport, hsupportRange⟩
    have hgather' : gather (request.extend added) = .ok ⟨support, e.counter,
        groupCount (request.extend added), (foldIndependence (request.extend added).derivations
          (request.extend added).supportWeights).countP direct⟩ :=
      gather_eq_ok.mpr ⟨hsupport, (counterList_extend hecho).trans hcounter, rfl, rfl⟩
    refine ⟨_, Evaluation.run_eq_ok.mpr ⟨by simp [extend, hne], _, hgather',
      disposition_eq_ok.mpr ⟨?_, rfl⟩⟩⟩
    obtain ⟨hnumber, hnumber', hcount⟩ := verdict_numbers evaluation (request.extend added)
      ⟨support, e.counter, groupCount (request.extend added),
        (foldIndependence (request.extend added).derivations
          (request.extend added).supportWeights).countP direct⟩
    refine ⟨hparents, hroots, reasons_length _ _ _, ?_, ?_, ?_, hrange.recurrence,
      hrange.validFrom, hrange.createdAt⟩
    · rw [hnumber]
      exact hsupportRange
    · rw [hnumber', ← hcounterEq]
      exact hrange.counter
    · rw [hcount]
      exact hgroups

/-- The additions complete what the derivations alone do not reach. -/
structure Lifts (evaluation : Evaluation) (request : PromotionRequest)
    (added : List MemoryDerivation) : Prop where
  unopposed : Unopposed evaluation request
  lasting : evaluation = .core → hasTemporaryExpiry added = false
  fits : Fits (request.extend added)
  missed : ¬ Reaches evaluation request request
  reached : Reaches evaluation request (request.extend added)

lemma reaches_extend (hecho : ∀ m ∈ added, IsEcho request m) :
    Reaches evaluation (request.extend added) (request.extend added) ↔
      Reaches evaluation request (request.extend added) := by
  cases evaluation <;> simp only [Reaches, hasDirect_extend hecho]

lemma unopposed_extend (hecho : ∀ m ∈ added, IsEcho request m) :
    Unopposed evaluation (request.extend added) ↔ Unopposed evaluation request ∧
      (evaluation = .core → hasTemporaryExpiry added = false) := by
  cases evaluation with
  | experience => simp [Unopposed, CountersAtMost, counterList_extend hecho]
  | core =>
    simp [Unopposed, CountersAtMost, counterList_extend hecho, hasTemporaryExpiry_extend, and_assoc]

/-- Echoes turn a refusal into a promotion exactly when they lift it. -/
lemma promoted_iff_lifts (h : evaluation.run request = .ok d)
    (hecho : ∀ m ∈ added, IsEcho request m) :
    (d.allowed = false ∧ ∃ d', evaluation.run (request.extend added) = .ok d' ∧
      d'.allowed = true) ↔ Lifts evaluation request added := by
  rw [← Bool.not_eq_true, allowed_iff h]
  constructor
  · rintro ⟨hrefused, d', h', hallowed⟩
    obtain ⟨hunopposed, hreached⟩ := (allowed_iff h').mp hallowed
    obtain ⟨hbefore, hlasting⟩ := (unopposed_extend hecho).mp hunopposed
    exact ⟨hbefore, hlasting, (run_extend_isOk h hecho).mp ⟨d', h'⟩,
      fun hreaches => hrefused ⟨hbefore, hreaches⟩, (reaches_extend hecho).mp hreached⟩
  · rintro ⟨hunopposed, hlasting, hfits, hmissed, hreached⟩
    obtain ⟨d', h'⟩ := (run_extend_isOk h hecho).mpr hfits
    exact ⟨fun hall => hmissed hall.2, d', h', (allowed_iff h').mpr
      ⟨(unopposed_extend hecho).mpr ⟨hunopposed, hlasting⟩, (reaches_extend hecho).mpr hreached⟩⟩

def rootedWeights (request : PromotionRequest) : List ℤ :=
  (rootedGroups request.derivations request.supportWeights).map weightMilli

/-- The weights fold to the same in every order that the list leaves open: the counter weights, and
the weights of derivations without roots, which come first. -/
structure OrderFree (request : PromotionRequest) : Prop where
  counters : ∀ listed : List MemoryDerivation, listed.Perm request.derivations →
    noisyOr (listed.map fun d => request.counterWeights d.derivationId) =
      noisyOr (counterList request)
  rootless : ∀ first : List MemoryDerivation, first.Perm (request.derivations.filter isRootless) →
    noisyOr (first.map (fun d => request.supportWeights d.derivationId) ++
      rootedWeights request) = noisyOr (groupWeights request)

/-- The same question about the derivations in another order. -/
def PromotionRequest.listedAs (request : PromotionRequest) (listed : List MemoryDerivation) :
    PromotionRequest :=
  { request with derivations := listed }

variable {listed : List MemoryDerivation}

lemma groupWeights_eq (request : PromotionRequest) : groupWeights request =
    (request.derivations.filter isRootless).map
      (fun d => request.supportWeights d.derivationId) ++ rootedWeights request := by
  rw [groupWeights, foldIndependence_eq, map_append, map_map]
  rfl

lemma rootedWeights_listedAs (h : listed.Perm request.derivations) :
    rootedWeights (request.listedAs listed) = rootedWeights request := by
  have hsame := congrArg (List.map fun s : List Canon × ℤ × Bool => s.2.1)
    (@rootedGroups_perm listed request.derivations request.supportWeights h)
  rwa [map_map, map_map] at hsame

lemma summaries_perm (h : listed.Perm request.derivations) :
    ((foldIndependence listed request.supportWeights).map summary).Perm
      ((foldIndependence request.derivations request.supportWeights).map
        summary) := by
  rw [foldIndependence_eq, foldIndependence_eq, map_append, map_append, rootedGroups_perm h]
  exact (((h.filter _).map _).map _).append_right _

lemma groupCount_listedAs (h : listed.Perm request.derivations) :
    groupCount (request.listedAs listed) = groupCount request := by
  have hlength := (summaries_perm h).length_eq
  rwa [length_map, length_map] at hlength

lemma directCount_listedAs (h : listed.Perm request.derivations) :
    (foldIndependence listed request.supportWeights).countP direct =
      (foldIndependence request.derivations request.supportWeights).countP
        direct := by
  have hcount := (summaries_perm h).countP_eq fun s => s.2.2
  rwa [countP_map, countP_map] at hcount

/-- All but the two folds is the same for another order. -/
lemma verdict_listedAs (h : listed.Perm request.derivations) (e : Evidence) :
    evaluation.verdict (request.listedAs listed) e = evaluation.verdict request e := by
  cases evaluation with
  | experience =>
    have hcausal : maxCausal (request.listedAs listed) = maxCausal request :=
      maxWeight_congr fun x => (h.map _).mem_iff
    simp only [Evaluation.verdict, experienceVerdict, recursIndependently, provenDirectly, hcausal]
    rfl
  | core =>
    have hexplicit : explicitCount listed = explicitCount request.derivations := h.countP_eq _
    have hexperience : experienceCount listed = experienceCount request.derivations :=
      h.countP_eq _
    have hexpiry : hasTemporaryExpiry listed = hasTemporaryExpiry request.derivations := h.any_eq
    simp only [Evaluation.verdict, coreVerdict, isStable, isReconfirmed, isFused,
      listedAs, hexplicit, hexperience, hexpiry]
    rfl

lemma disposition_listedAs (h : listed.Perm request.derivations) (layer : MemoryLayer)
    (v : Verdict) :
    disposition (request.listedAs listed) layer v = disposition request layer v := by
  have hparents : parentAssertions listed = parentAssertions request.derivations :=
    sortedSet_congr fun a => (h.map _).mem_iff
  have hroots : lineageRoots listed = lineageRoots request.derivations :=
    sortedSet_congr fun a => (h.flatMap_right _).mem_iff
  simp only [disposition, listedAs, hparents, hroots]

/-- Another order gives the same disposition exactly when both folds give the same. -/
lemma run_listedAs_iff (h : evaluation.run request = .ok d)
    (hperm : listed.Perm request.derivations) :
    evaluation.run (request.listedAs listed) = .ok d ↔
      noisyOr (groupWeights (request.listedAs listed)) = noisyOr (groupWeights request) ∧
        noisyOr (counterList (request.listedAs listed)) = noisyOr (counterList request) := by
  obtain ⟨hne, e, hgather, hdisposition⟩ := Evaluation.run_eq_ok.mp h
  obtain ⟨hsupport, hcounter, hgroups, hdirect⟩ := gather_eq_ok.mp hgather
  obtain ⟨hnumber, hnumber', -⟩ := verdict_numbers evaluation request e
  have hne' : listed ≠ [] := fun hnil => hne (nil_perm.mp (hnil ▸ hperm))
  constructor
  · intro h'
    obtain ⟨-, e', hgather', hdisposition'⟩ := Evaluation.run_eq_ok.mp h'
    obtain ⟨hsupport', hcounter', -, -⟩ := gather_eq_ok.mp hgather'
    obtain ⟨hsame, hsame', -⟩ := verdict_numbers evaluation (request.listedAs listed) e'
    have heq := (disposition_eq_ok.mp hdisposition).2
    have heq' := (disposition_eq_ok.mp hdisposition').2
    rw [heq] at heq'
    have hs := congrArg supportMilli heq'
    have hc := congrArg counterMilli heq'
    dsimp only at hs hc
    rw [hsupport, hcounter, hsupport', hcounter', ← hnumber, ← hnumber', hs, hc, hsame, hsame']
    exact ⟨rfl, rfl⟩
  · rintro ⟨hs, hc⟩
    refine Evaluation.run_eq_ok.mpr ⟨hne', e, gather_eq_ok.mpr ⟨hs.trans hsupport,
      hc.trans hcounter, ?_, ?_⟩, ?_⟩
    · rw [groupCount_listedAs hperm, hgroups]
    · rw [hdirect]
      exact (directCount_listedAs hperm).symm
    · rw [disposition_listedAs hperm, verdict_listedAs hperm]
      exact hdisposition

/-- No answer depends on the order exactly when the open orders fold to the same. -/
lemma unordered_iff (h : evaluation.run request = .ok d) :
    (∀ listed : List MemoryDerivation, listed.Perm request.derivations →
      evaluation.run (request.listedAs listed) = .ok d) ↔ OrderFree request := by
  have hgroups : ∀ listed : List MemoryDerivation, listed.Perm request.derivations →
      groupWeights (request.listedAs listed) = (listed.filter isRootless).map
        (fun d => request.supportWeights d.derivationId) ++ rootedWeights request := by
    intro listed hperm
    rw [groupWeights_eq, rootedWeights_listedAs hperm]
    rfl
  constructor
  · intro hall
    refine ⟨fun listed hperm => ((run_listedAs_iff h hperm).mp (hall listed hperm)).2, ?_⟩
    intro first hfirst
    have hperm : (first ++ request.derivations.filter fun d => !isRootless d).Perm
        request.derivations :=
      (hfirst.append_right _).trans (filter_append_perm _ _)
    have hsame := ((run_listedAs_iff h hperm).mp (hall _ hperm)).1
    rw [hgroups _ hperm, filter_append] at hsame
    have hkept : first.filter isRootless = first := by
      rw [filter_eq_self]
      intro d hd
      exact (mem_filter.mp (hfirst.mem_iff.mp hd)).2
    have hnone : (request.derivations.filter fun d => !isRootless d).filter isRootless = [] := by
      rw [filter_eq_nil_iff]
      intro d hd hrootless
      have hnot := (mem_filter.mp hd).2
      rw [hrootless] at hnot
      cases hnot
    rw [hkept, hnone, append_nil] at hsame
    exact hsame
  · rintro ⟨hcounters, hrootless⟩ listed hperm
    refine (run_listedAs_iff h hperm).mpr ⟨?_, hcounters listed hperm⟩
    rw [hgroups listed hperm]
    exact hrootless _ (hperm.filter _)

/-- A refusal stands whatever echoes are added, and the answer does not depend on the order. -/
structure StandsFirm (evaluation : Evaluation) (request : PromotionRequest)
    (added : List MemoryDerivation) (d : PromotionDisposition) : Prop where
  refused : d.allowed = false → (∀ m ∈ added, IsEcho request m) →
    ∀ d', evaluation.run (request.extend added) = .ok d' → d'.allowed = false
  unordered : ∀ listed : List MemoryDerivation, listed.Perm request.derivations →
    evaluation.run (request.listedAs listed) = .ok d

/-- What the user said in one message, as a derivation. -/
def statement (derivationId : String) : MemoryDerivation where
  derivationId := .text derivationId
  lifeId := "life"
  memoryId := .text "mem_a"
  memoryRevision := 1
  memoryAssertionSha256 := .text "1111"
  layer := .l4Explicit
  semanticDomain := .userPreference
  origin := .userExplicit
  principalRef := "principal_alice"
  workspaceRef := none
  privacyScope := "private"
  claimKey := "claim:pref"
  parentMemoryRefs := []
  sourceEventIds := [.text "lev_1"]
  lineageRootEventIds := [.text "lev_1"]
  externalEvidenceRefs := []
  promotionPolicyVersion := "p15-layers-v1"
  promotionReasonCodes := []
  validFromMs := 2000
  expiresAtMs := none
  contextEligible := true
  learningEligible := false
  temperamentEligible := false
  selfCognitionEligible := false
  worldCandidateEligible := false
  createdAtMs := 2000
  revision_range := by decide
  sources_sorted := by decide
  roots_sorted := by decide
  parents_sorted := by decide
  refs_sorted := by decide
  reasons_sorted := by decide
  times_range := by decide
  expiry_follows := by decide
  stream_origin := by decide
  explicit_origin := by decide
  rooted := by decide
  temperament_layer := by decide
  cognition_layer := by decide
  candidate_layer := by decide

def statedOnce : PromotionRequest where
  derivations := [statement "mdr_a"]
  supportWeights := fun _ => 750
  counterWeights := fun _ => 0
  causalUtilityMilli := fun _ => 0
  recurrenceCount := 0
  lifeId := "life"
  principalRef := "principal_alice"
  claimKey := "claim:pref"
  semanticDomain := .userPreference
  policyVersion := "p15-l5-v1"
  validFromMs := 3000
  createdAtMs := 3000

lemma statedOnce_refused : ∃ d, Evaluation.core.run statedOnce = .ok d ∧ d.allowed = false := by
  have hrun : ((Evaluation.core.run statedOnce).toOption.map allowed) =
      some false := by decide
  cases hd : Evaluation.core.run statedOnce with
  | error e =>
    rw [hd] at hrun
    cases hrun
  | ok d =>
    rw [hd] at hrun
    exact ⟨d, rfl, Option.some.inj hrun⟩

end MemoryPromotion

end Tiangong
