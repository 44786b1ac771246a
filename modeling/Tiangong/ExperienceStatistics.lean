import Mathlib.Algebra.BigOperators.Group.Finset.Basic
import Mathlib.Order.Bounds.Basic
import Tiangong.ExperienceAdmission

/-!
# Experience as statistics of a set

The aggregate of a sequence of admitted observations is determined by the set of the observations:
the counts and the pools in whatever order they arrive, the latest times and the lifecycle when none
arrives after a later one.
-/
open List

namespace Tiangong

namespace Experience

open scoped BigOperators

/-- An observation with the admission that lets it in. -/
structure Entry where
  observation : Observation
  admission : Admission
  admitted : Admitted observation admission

lemma Admitted.polarity {o : Observation} {a : Admission} (h : Admitted o a) :
    a.positiveAllowed = !a.negativeAllowed := by
  have hrecorded := h.recorded
  rw [a.positive_flag, a.negative_flag]
  cases hdecision : a.decision <;> simp_all [AdmissionDecision.isNegative]

namespace Entry

def id (e : Entry) : OpaqueId := e.observation.observationId

def context (e : Entry) : Canon := e.observation.contextFingerprintSha256

def time (e : Entry) : ℕ := e.observation.observedAtMs

def quality (e : Entry) : ℕ := e.observation.qualityMilli

def isSuccess (e : Entry) : Bool := e.admission.positiveAllowed

/-- The identifier of the evidence of a failure. -/
def evidenceId (e : Entry) : Canon :=
  .ident "negcap_" (.ofList [e.observation.observationSha256, e.admission.decisionSha256])

lemma negativeAllowed_eq (e : Entry) : e.admission.negativeAllowed = !e.isSuccess := by
  rw [isSuccess, e.admitted.polarity, Bool.not_not]

/-- The entries share key, scope and exact sources. -/
structure SameScope (e e' : Entry) : Prop where
  key : e.admission.experienceKey = e'.admission.experienceKey
  life : e.observation.lifeId = e'.observation.lifeId
  principal : e.observation.principalRef = e'.observation.principalRef
  principalScope : e.observation.principalScopeHash = e'.observation.principalScopeHash
  privacy : e.observation.privacyScope = e'.observation.privacyScope
  privacyScope : e.observation.privacyScopeHash = e'.observation.privacyScopeHash
  sources : e.admission.exactSourceHashes = e'.admission.exactSourceHashes
  family : e.admission.sourceRevisionFamily = e'.admission.sourceRevisionFamily

end Entry

/-- Fold the entries into an aggregate, from none. -/
def applyAll (config : PolicyConfig) (prior : Option Aggregate) (entries : List Entry) :
    Except String (Option Aggregate) :=
  entries.foldlM (fun prior e =>
    (applyObservation prior e.observation e.admission config).map fun r => some r.1) prior

noncomputable section

open Classical in
def successes (E : Finset Entry) : Finset Entry := E.filter fun e => e.isSuccess = true

open Classical in
def failures (E : Finset Entry) : Finset Entry := E.filter fun e => e.isSuccess = false

end

def IsLatest (times : Set ℕ) : Option ℕ → Prop
  | none => times = ∅
  | some t => IsGreatest times t

theorem IsLatest.unique {times : Set ℕ} {t t' : Option ℕ} (h : IsLatest times t)
    (h' : IsLatest times t') : t = t' := by
  cases t with
  | none =>
    cases t' with
    | none => rfl
    | some t' => exact absurd h'.1 (by rw [show times = ∅ from h]; exact Set.notMem_empty _)
  | some t =>
    cases t' with
    | none => exact absurd h.1 (by rw [show times = ∅ from h']; exact Set.notMem_empty _)
    | some t' => rw [IsGreatest.unique h h']

/-- The aggregate is that of the set of entries: its counts, pools and scope. -/
structure Summarises (config : PolicyConfig) (E : Finset Entry) (s : Aggregate) : Prop where
  valid : s.hasValidSha256 = true
  active : s.experience.lifecycle.isInactive = false
  key : ∀ e ∈ E, s.experienceKey = e.admission.experienceKey
  life : ∀ e ∈ E, s.lifeId = e.observation.lifeId
  principal : ∀ e ∈ E, s.principalRef = e.observation.principalRef
  principalScope : ∀ e ∈ E, s.principalScopeHash = e.observation.principalScopeHash
  privacy : ∀ e ∈ E, s.privacyScope = e.observation.privacyScope
  privacyScope : ∀ e ∈ E, s.privacyScopeHash = e.observation.privacyScopeHash
  sources : ∀ e ∈ E, s.experience.exactSourceHashes = e.admission.exactSourceHashes
  family : ∀ e ∈ E, s.experience.sourceRevisionFamily = e.admission.sourceRevisionFamily
  ownFamily : sourceRevisionFamily s.experience.sourceRefs = .ok s.experience.sourceRevisionFamily
  ownSources : exactSourceHashes s.experience.sourceRefs = .ok s.experience.exactSourceHashes
  ids_sorted : s.observationIds.Pairwise (· < ·)
  ids : ∀ id, id ∈ s.observationIds ↔ ∃ e ∈ E, e.id = id
  ids_length : s.observationIds.length = s.experience.successCount + s.experience.failureCount
  contexts_sorted : s.contextFingerprints.Pairwise (· < ·)
  contexts : ∀ c, c ∈ s.contextFingerprints ↔ ∃ e ∈ E, e.context = c
  context_count : s.experience.independentContextCount = s.contextFingerprints.length
  negatives_sorted : s.negativeEvidenceIds.Pairwise (· < ·)
  negatives : ∀ n, n ∈ s.negativeEvidenceIds ↔ ∃ e ∈ failures E, e.evidenceId = n
  success_count : s.experience.successCount = (successes E).card
  failure_count : s.experience.failureCount = (failures E).card
  quality_count : s.qualityObservationCount = s.experience.successCount
  quality_sum : s.qualitySumMilli = ∑ e ∈ successes E, e.quality
  posterior : s.experience.posteriorSuccessMilli =
    posteriorSuccessMilli s.experience.successCount s.experience.failureCount
  lower : s.experience.lowerConfidenceMilli = wilsonLowerConfidenceMilli s.experience.successCount
    s.experience.failureCount config.wilsonZMillion

def Aggregate.lifecycleCounts (s : Aggregate) : LifecycleCounts where
  successCount := s.experience.successCount
  failureCount := s.experience.failureCount
  independentContextCount := s.experience.independentContextCount
  lowerConfidenceMilli := s.experience.lowerConfidenceMilli
  averageQualityMilli := s.qualitySumMilli / max 1 s.qualityObservationCount
  lastSuccessMs := s.experience.lastSuccessMs

/-- The aggregate's times and lifecycle are those of the set. -/
structure Times (config : PolicyConfig) (E : Finset Entry) (s : Aggregate) : Prop where
  success : IsLatest (Entry.time '' (successes E : Set Entry)) s.experience.lastSuccessMs
  failure : IsLatest (Entry.time '' (failures E : Set Entry)) s.experience.lastFailureMs
  observed : IsGreatest (Entry.time '' (E : Set Entry)) s.lastObservedAtMs
  lifecycle : s.experience.lifecycle =
    if E.card = 1 then .probation else criterion s.lifecycleCounts s.lastObservedAtMs config

section

variable {E : Finset Entry} {e : Entry}

theorem mem_successes {e' : Entry} : e' ∈ successes E ↔ e' ∈ E ∧ e'.isSuccess = true := by
  classical
  rw [successes, Finset.mem_filter]

theorem mem_failures {e' : Entry} : e' ∈ failures E ↔ e' ∈ E ∧ e'.isSuccess = false := by
  classical
  rw [failures, Finset.mem_filter]

open Classical in
lemma successes_insert : successes (insert e E) =
    if e.isSuccess then insert e (successes E) else successes E := by
  ext e'
  cases hsuccess : e.isSuccess with
  | true =>
    simp only [mem_successes, Finset.mem_insert, if_true]
    constructor
    · rintro ⟨rfl | he', h⟩
      · exact .inl rfl
      · exact .inr ⟨he', h⟩
    · rintro (rfl | ⟨he', h⟩)
      · exact ⟨.inl rfl, hsuccess⟩
      · exact ⟨.inr he', h⟩
  | false =>
    simp only [mem_successes, Finset.mem_insert, Bool.false_eq_true, if_false]
    refine and_congr_left fun h => or_iff_right ?_
    rintro rfl
    rw [hsuccess] at h
    cases h

open Classical in
lemma failures_insert : failures (insert e E) =
    if e.isSuccess then failures E else insert e (failures E) := by
  ext e'
  cases hsuccess : e.isSuccess with
  | false =>
    simp only [mem_failures, Finset.mem_insert, Bool.false_eq_true, if_false]
    constructor
    · rintro ⟨rfl | he', h⟩
      · exact .inl rfl
      · exact .inr ⟨he', h⟩
    · rintro (rfl | ⟨he', h⟩)
      · exact ⟨.inl rfl, hsuccess⟩
      · exact ⟨.inr he', h⟩
  | true =>
    simp only [mem_failures, Finset.mem_insert, if_true]
    refine and_congr_left fun h => or_iff_right ?_
    rintro rfl
    rw [hsuccess] at h
    cases h

lemma notMem_successes (h : e ∉ E) : e ∉ successes E := fun hmem => h (mem_successes.mp hmem).1

lemma notMem_failures (h : e ∉ E) : e ∉ failures E := fun hmem => h (mem_failures.mp hmem).1

open Classical in
lemma card_successes_insert (h : e ∉ E) : (successes (insert e E)).card =
    (successes E).card + if e.isSuccess then 1 else 0 := by
  rw [successes_insert]
  split
  · exact Finset.card_insert_of_notMem (notMem_successes h)
  · rfl

open Classical in
lemma card_failures_insert (h : e ∉ E) : (failures (insert e E)).card =
    (failures E).card + if e.admission.negativeAllowed then 1 else 0 := by
  rw [failures_insert, e.negativeAllowed_eq]
  cases e.isSuccess with
  | true => rfl
  | false => exact Finset.card_insert_of_notMem (notMem_failures h)

open Classical in
lemma sum_successes_insert (h : e ∉ E) : ∑ e' ∈ successes (insert e E), e'.quality =
    ∑ e' ∈ successes E, e'.quality + if e.isSuccess then e.quality else 0 := by
  rw [successes_insert]
  split
  · rw [Finset.sum_insert (notMem_successes h), Nat.add_comm]
  · rfl

end

/-- A value that all entries of a set share with one more. -/
lemma forall_insert_of {α : Type*} {E : Finset Entry} {e e₀ : Entry} {f : Entry → α} {v : α}
    (h₀ : e₀ ∈ E) (h : ∀ e' ∈ E, v = f e') (hsame : f e₀ = f e) [DecidableEq Entry] :
    ∀ e' ∈ insert e E, v = f e' := by
  intro e' he'
  rcases Finset.mem_insert.mp he' with rfl | he'
  · exact (h e₀ h₀).trans hsame
  · exact h e' he'

open Classical in
lemma exists_failures_insert {E : Finset Entry} {e : Entry} {p : Entry → Prop} :
    (∃ e' ∈ failures (insert e E), p e') ↔
      (e.isSuccess = false ∧ p e) ∨ ∃ e' ∈ failures E, p e' := by
  rw [failures_insert]
  cases e.isSuccess <;> simp

/-- What the contract of an aggregate accepts. -/
lemma Aggregate.validated_eq_ok {s s' : Aggregate} : s.validated = .ok s' ↔
    ((s.contextFingerprints.Pairwise (· < ·) ∧ s.observationIds.Pairwise (· < ·) ∧
      s.negativeEvidenceIds.Pairwise (· < ·)) ∧ s.experience.hasValidSha256 = true ∧
      s.experience.independentContextCount = s.contextFingerprints.length ∧
      s.experience.successCount + s.experience.failureCount = s.observationIds.length ∧
      s.qualityObservationCount = s.experience.successCount ∧
      sourceRevisionFamily s.experience.sourceRefs = .ok s.experience.sourceRevisionFamily ∧
      exactSourceHashes s.experience.sourceRefs = .ok s.experience.exactSourceHashes) ∧ s = s' := by
  simp only [Aggregate.validated, eq_ok_iff, not_not, Bool.not_eq_false]
  constructor
  · rintro ⟨hsorted, hvalid, hcontexts, hids, hquality, _, hfamily, rfl, _, hhashes, rfl, rfl⟩
    exact ⟨⟨hsorted, hvalid, hcontexts, hids, hquality, hfamily, hhashes⟩, rfl⟩
  · rintro ⟨⟨hsorted, hvalid, hcontexts, hids, hquality, hfamily, hhashes⟩, rfl⟩
    exact ⟨hsorted, hvalid, hcontexts, hids, hquality, _, hfamily, rfl, _, hhashes, rfl, rfl⟩

theorem Entry.evidence (e : Entry) : ∃ negative : Option NegativeEvidence,
    permittedEvidence e.observation e.admission = .ok negative ∧
    (negative.map (·.evidenceId)).toList = if e.isSuccess then [] else [e.evidenceId] := by
  rw [permittedEvidence, e.negativeAllowed_eq]
  cases hsuccess : e.isSuccess with
  | true => exact ⟨none, rfl, rfl⟩
  | false =>
    have hnegative : e.admission.negativeAllowed = true := by
      rw [e.negativeAllowed_eq, hsuccess]
      rfl
    obtain ⟨category, hcategory⟩ :=
      Option.ne_none_iff_exists'.mp (e.admission.negative_category hnegative)
    have hhashes : e.admission.exactSourceHashes ≠ [] := by
      have hown := e.admitted.hashes
      simp only [exactSourceHashes, eq_ok_iff] at hown
      obtain ⟨hsources, hsorted⟩ := hown
      obtain ⟨source, hsource⟩ := exists_mem_of_ne_nil _ hsources
      rw [← hsorted]
      exact ne_nil_of_mem (mem_sortedTexts.mpr (mem_map.mpr ⟨source, hsource, rfl⟩))
    have hbuilt : ∃ n, buildNegativeEvidence e.observation e.admission = .ok n ∧
        n.evidenceId = e.evidenceId := by
      simp only [buildNegativeEvidence, eq_ok_iff, e.admitted.observation_valid,
        e.admitted.admission_valid, e.admitted.same_observation, hnegative, hcategory, hhashes,
        e.admitted.reasons]
      simp [Entry.evidenceId]
    obtain ⟨n, hn, hid⟩ := hbuilt
    refine ⟨some n, ?_, ?_⟩
    · rw [hn]
      rfl
    · simp [hid]

section

variable {config : PolicyConfig} {E : Finset Entry} {s : Aggregate} {e : Entry}
  {negative : Option NegativeEvidence}

/-- The record that one more entry leads to. -/
def Entry.next (e : Entry) (s : Aggregate) (negative : Option NegativeEvidence)
    (config : PolicyConfig) : Aggregate :=
  (nextState s e.observation e.admission negative config).withComputedSha256

/-- An aggregate that is used has no final lifecycle. -/
lemma criterion_active (counts : LifecycleCounts) (nowMs : ℕ) (config : PolicyConfig) :
    (criterion counts nowMs config).isInactive = false := by
  unfold criterion
  split <;> rfl

lemma experienceLifecycle_active {lifecycle : Lifecycle} (h : lifecycle.isInactive = false)
    (counts : LifecycleCounts) (nowMs : ℕ) (config : PolicyConfig) :
    experienceLifecycle (some lifecycle) counts nowMs config = criterion counts nowMs config := by
  simp only [experienceLifecycle, h, Bool.false_eq_true, if_false]

lemma next_lifecycle (h : s.experience.lifecycle.isInactive = false) :
    (e.next s negative config).experience.lifecycle =
      criterion (e.next s negative config).lifecycleCounts e.time config :=
  experienceLifecycle_active h _ _ _

lemma sortedSet_length {α : Type*} [LinearOrder α] {a : α} {items : List α}
    (hsorted : items.Pairwise (· < ·)) (h : a ∉ items) :
    (sortedSet (a :: items)).length = items.length + 1 := by
  have hne : ∀ {a b : α}, a < b → a ≠ b := fun hab => ne_of_lt hab
  have hnodup : (a :: items).Nodup := nodup_cons.mpr ⟨h, hsorted.imp hne⟩
  rw [sortedSet, (sortedTexts_perm _).length_eq, hnodup.dedup, length_cons]

open Classical in
/-- One more entry in the same scope. -/
theorem Summarises.next (h : Summarises config E s) (hE : E.Nonempty)
    (hscope : ∀ e' ∈ E, e'.SameScope e) (hids : ∀ e' ∈ E, e'.id ≠ e.id)
    (hnegative : (negative.map (·.evidenceId)).toList =
      if e.isSuccess then [] else [e.evidenceId]) :
    Summarises config (insert e E) (e.next s negative config) := by
  obtain ⟨e₀, he₀⟩ := hE
  have hfresh : e ∉ E := fun hmem => hids e hmem rfl
  have hid : e.id ∉ s.observationIds := by
    intro hmem
    obtain ⟨e', he', hsame⟩ := (h.ids e.id).mp hmem
    exact hids e' he' hsame
  have hscope₀ := hscope e₀ he₀
  constructor
  case valid => exact decide_eq_true rfl
  case active =>
    rw [next_lifecycle h.active]
    exact criterion_active _ _ _
  case key => exact forall_insert_of he₀ h.key hscope₀.key
  case life => exact forall_insert_of he₀ h.life hscope₀.life
  case principal => exact forall_insert_of he₀ h.principal hscope₀.principal
  case principalScope => exact forall_insert_of he₀ h.principalScope hscope₀.principalScope
  case privacy => exact forall_insert_of he₀ h.privacy hscope₀.privacy
  case privacyScope => exact forall_insert_of he₀ h.privacyScope hscope₀.privacyScope
  case sources => exact forall_insert_of he₀ h.sources hscope₀.sources
  case family => exact forall_insert_of he₀ h.family hscope₀.family
  case ownFamily => exact h.ownFamily
  case ownSources => exact h.ownSources
  case ids_sorted => exact sortedSet_strict _
  case contexts_sorted => exact sortedSet_strict _
  case negatives_sorted => exact sortedSet_strict _
  case ids =>
    intro id
    refine mem_sortedSet.trans ?_
    rw [mem_cons, h.ids, Finset.exists_mem_insert, eq_comm]
    rfl
  case contexts =>
    intro c
    refine mem_sortedSet.trans ?_
    rw [mem_cons, h.contexts, Finset.exists_mem_insert, eq_comm]
    rfl
  case negatives =>
    intro n
    refine mem_sortedSet.trans ?_
    rw [mem_append, h.negatives, exists_failures_insert, hnegative]
    cases e.isSuccess <;> simp [eq_comm]
  case ids_length =>
    have hlength := sortedSet_length h.ids_sorted hid
    have hnegative := e.negativeAllowed_eq
    have hcounts : (e.next s negative config).experience.successCount +
        (e.next s negative config).experience.failureCount =
        s.experience.successCount + s.experience.failureCount + 1 := by
      change s.experience.successCount + (if e.isSuccess then 1 else 0) +
        (s.experience.failureCount + if e.admission.negativeAllowed then 1 else 0) = _
      rw [hnegative]
      cases e.isSuccess <;> simp <;> omega
    rw [hcounts, ← h.ids_length]
    exact hlength
  case context_count => rfl
  case success_count =>
    rw [card_successes_insert hfresh, ← h.success_count]
    rfl
  case failure_count =>
    rw [card_failures_insert hfresh, ← h.failure_count]
    rfl
  case quality_count =>
    change s.qualityObservationCount + _ = s.experience.successCount + _
    rw [h.quality_count]
  case quality_sum =>
    rw [sum_successes_insert hfresh, ← h.quality_sum]
    rfl
  case posterior => rfl
  case lower => rfl

lemma isGreatest_insert {times : Set ℕ} {t : ℕ} (hle : ∀ t' ∈ times, t' ≤ t) :
    IsGreatest (insert t times) t := by
  refine ⟨Set.mem_insert _ _, fun t' ht' => ?_⟩
  rcases Set.mem_insert_iff.mp ht' with rfl | ht'
  · exact le_refl _
  · exact hle t' ht'

open Classical in
/-- One more entry that is not older than the others. -/
theorem Times.next (h : Times config E s) (hactive : s.experience.lifecycle.isInactive = false)
    (hE : E.Nonempty) (hfresh : e ∉ E) (htime : ∀ e' ∈ E, e'.time ≤ e.time) :
    Times config (insert e E) (e.next s negative config) := by
  have hle : ∀ {E' : Finset Entry}, E' ⊆ E → ∀ t ∈ Entry.time '' (E' : Set Entry), t ≤ e.time := by
    rintro E' hsubset _ ⟨e', he', rfl⟩
    exact htime e' (hsubset he')
  have hsuccesses : successes E ⊆ E := fun e' he' => (mem_successes.mp he').1
  have hfailures : failures E ⊆ E := fun e' he' => (mem_failures.mp he').1
  constructor
  case success =>
    change IsLatest _ (if e.isSuccess then some e.time else s.experience.lastSuccessMs)
    rw [successes_insert]
    cases e.isSuccess with
    | true =>
      simp only [if_true, Finset.coe_insert, Set.image_insert_eq]
      exact isGreatest_insert (hle hsuccesses)
    | false => exact h.success
  case failure =>
    change IsLatest _ (if e.admission.negativeAllowed then some e.time
      else s.experience.lastFailureMs)
    rw [failures_insert, e.negativeAllowed_eq]
    cases e.isSuccess with
    | true => exact h.failure
    | false =>
      simp only [Bool.false_eq_true, if_false, Bool.not_false, if_true, Finset.coe_insert,
        Set.image_insert_eq]
      exact isGreatest_insert (hle hfailures)
  case observed =>
    rw [Finset.coe_insert, Set.image_insert_eq]
    exact isGreatest_insert (hle (Finset.Subset.refl E))
  case lifecycle =>
    have hcard : (insert e E).card ≠ 1 := by
      have hpos := Finset.card_pos.mpr hE
      rw [Finset.card_insert_of_notMem hfresh]
      omega
    rw [if_neg hcard]
    exact next_lifecycle hactive

/-- The contract accepts the aggregate of a set. -/
theorem Summarises.validated {s : Aggregate} (h : Summarises config E s.withComputedSha256)
    (hexperience : s.experience.hasValidSha256 = true) : s.validated = .ok s :=
  Aggregate.validated_eq_ok.mpr ⟨⟨⟨h.contexts_sorted, h.ids_sorted, h.negatives_sorted⟩,
    hexperience, h.context_count, h.ids_length.symm, h.quality_count, h.ownFamily,
    h.ownSources⟩, rfl⟩

/-- A counted entry is not counted again. -/
lemma applyObservation_repeated (h : Summarises config E s) (he : e ∈ E) :
    applyObservation (some s) e.observation e.admission config = .ok (s, none) := by
  obtain ⟨negative, hnegative, -⟩ := e.evidence
  have hid : e.observation.observationId ∈ s.observationIds := (h.ids _).mpr ⟨e, he, rfl⟩
  have hscope : ¬ (s.experienceKey ≠ e.admission.experienceKey ∨ s.lifeId ≠ e.observation.lifeId ∨
      s.principalRef ≠ e.observation.principalRef ∨
      s.principalScopeHash ≠ e.observation.principalScopeHash ∨
      s.privacyScope ≠ e.observation.privacyScope ∨
      s.privacyScopeHash ≠ e.observation.privacyScopeHash) := by
    simp [h.key e he, h.life e he, h.principal e he, h.principalScope e he, h.privacy e he,
      h.privacyScope e he]
  simp only [applyObservation, eq_ok_iff]
  refine ⟨by simp [e.admitted.observation_valid], by simp [e.admitted.admission_valid],
    by simp [e.admitted.same_observation], e.admitted.recorded, negative, hnegative, ?_⟩
  refine ⟨by simp [h.valid], hscope, ?_⟩
  rw [if_pos hid]
  rfl

/-- A new entry in the scope of the others is counted. -/
lemma applyObservation_next (h : Summarises config E s) (hE : E.Nonempty)
    (hscope : ∀ e' ∈ E, e'.SameScope e) (hids : ∀ e' ∈ E, e'.id ≠ e.id) :
    ∃ negative : Option NegativeEvidence,
      (negative.map (·.evidenceId)).toList = (if e.isSuccess then [] else [e.evidenceId]) ∧
      applyObservation (some s) e.observation e.admission config =
        .ok (e.next s negative config, negative) := by
  classical
  obtain ⟨negative, hnegative, hevidence⟩ := e.evidence
  have hnext := h.next hE hscope hids hevidence
  obtain ⟨e₀, he₀⟩ := hE
  have hfresh : e.observation.observationId ∉ s.observationIds := by
    intro hmem
    obtain ⟨e', he', hsame⟩ := (h.ids _).mp hmem
    exact hids e' he' hsame
  have hsame := hscope e₀ he₀
  have hkey : ¬ (s.experienceKey ≠ e.admission.experienceKey ∨ s.lifeId ≠ e.observation.lifeId ∨
      s.principalRef ≠ e.observation.principalRef ∨
      s.principalScopeHash ≠ e.observation.principalScopeHash ∨
      s.privacyScope ≠ e.observation.privacyScope ∨
      s.privacyScopeHash ≠ e.observation.privacyScopeHash) := by
    simp [h.key e₀ he₀, h.life e₀ he₀, h.principal e₀ he₀, h.principalScope e₀ he₀,
      h.privacy e₀ he₀, h.privacyScope e₀ he₀, hsame.key, hsame.life, hsame.principal,
      hsame.principalScope, hsame.privacy, hsame.privacyScope]
  refine ⟨negative, hevidence, ?_⟩
  simp only [applyObservation, eq_ok_iff]
  refine ⟨by simp [e.admitted.observation_valid], by simp [e.admitted.admission_valid],
    by simp [e.admitted.same_observation], e.admitted.recorded, negative, hnegative, ?_⟩
  refine ⟨by simp [h.valid], hkey, ?_⟩
  rw [if_neg hfresh]
  simp only [eq_ok_iff]
  refine ⟨by simp [h.active], ?_, e.next s negative config, ?_, rfl⟩
  · simp [h.family e₀ he₀, h.sources e₀ he₀, hsame.family, hsame.sources]
  · simp only [nextExperience, bind_eq_ok]
    exact ⟨_, hnext.validated (decide_eq_true rfl), rfl⟩

theorem applyObservation_first (e : Entry) (config : PolicyConfig) :
    ∃ s negative, applyObservation none e.observation e.admission config = .ok (s, negative) ∧
      Summarises config {e} s ∧ Times config {e} s := by
  obtain ⟨negative, hnegative, hevidence⟩ := e.evidence
  let s := (newState e.observation e.admission negative config e.admission.sourceRevisionFamily
    e.admission.exactSourceHashes).withComputedSha256
  have hsuccesses : successes {e} = if e.isSuccess then {e} else ∅ := by
    ext e'
    cases hsuccess : e.isSuccess <;> simp [mem_successes] <;> rintro rfl <;> exact hsuccess
  have hfailures : failures {e} = if e.isSuccess then ∅ else {e} := by
    ext e'
    cases hsuccess : e.isSuccess <;> simp [mem_failures] <;> rintro rfl <;> exact hsuccess
  have hone : ∀ {α : Type} {f : Entry → α} {v : α}, v = f e → ∀ e' ∈ ({e} : Finset Entry), v = f e' := by
    intro α f v hv e' he'
    rw [Finset.mem_singleton.mp he']
    exact hv
  have hsummary : Summarises config {e} s := by
    constructor
    case valid => exact decide_eq_true rfl
    case active => rfl
    case key => exact hone rfl
    case life => exact hone rfl
    case principal => exact hone rfl
    case principalScope => exact hone rfl
    case privacy => exact hone rfl
    case privacyScope => exact hone rfl
    case sources => exact hone rfl
    case family => exact hone rfl
    case ownFamily => exact e.admitted.family
    case ownSources => exact e.admitted.hashes
    case ids_sorted => exact pairwise_singleton _ _
    case contexts_sorted => exact pairwise_singleton _ _
    case context_count => rfl
    case posterior => rfl
    case lower => rfl
    case quality_count => rfl
    case ids =>
      intro id
      simp only [Finset.mem_singleton, exists_eq_left]
      exact mem_singleton.trans eq_comm
    case contexts =>
      intro c
      simp only [Finset.mem_singleton, exists_eq_left]
      exact mem_singleton.trans eq_comm
    case negatives_sorted =>
      change ((negative.map (·.evidenceId)).toList).Pairwise (· < ·)
      rw [hevidence]
      cases e.isSuccess with
      | true => exact List.Pairwise.nil
      | false => exact pairwise_singleton _ _
    case negatives =>
      intro n
      change n ∈ (negative.map (·.evidenceId)).toList ↔ _
      rw [hevidence, hfailures]
      cases e.isSuccess <;> simp [eq_comm]
    case ids_length =>
      change 1 = (if e.isSuccess then 1 else 0) + if e.admission.negativeAllowed then 1 else 0
      rw [e.negativeAllowed_eq]
      cases e.isSuccess <;> rfl
    case success_count =>
      change (if e.isSuccess then 1 else 0) = _
      rw [hsuccesses]
      cases e.isSuccess <;> rfl
    case failure_count =>
      change (if e.admission.negativeAllowed then 1 else 0) = _
      rw [hfailures, e.negativeAllowed_eq]
      cases e.isSuccess <;> rfl
    case quality_sum =>
      change (if e.isSuccess then e.quality else 0) = _
      rw [hsuccesses]
      cases e.isSuccess <;> simp
  have htimes : Times config {e} s := by
    constructor
    case success =>
      change IsLatest _ (if e.isSuccess then some e.time else none)
      rw [hsuccesses]
      cases e.isSuccess <;> simp [IsLatest]
    case failure =>
      change IsLatest _ (if e.admission.negativeAllowed then some e.time else none)
      rw [hfailures, e.negativeAllowed_eq]
      cases e.isSuccess <;> simp [IsLatest]
    case observed =>
      rw [Finset.coe_singleton, Set.image_singleton]
      exact isGreatest_singleton
    case lifecycle => rfl
  have hpools : e.admission.positiveAllowed ≠ e.admission.negativeAllowed := by
    rw [e.admitted.polarity]
    cases e.admission.negativeAllowed <;> exact nofun
  refine ⟨s, negative, ?_, hsummary, htimes⟩
  simp only [applyObservation, eq_ok_iff]
  refine ⟨by simp [e.admitted.observation_valid], by simp [e.admitted.admission_valid],
    by simp [e.admitted.same_observation], e.admitted.recorded, negative, hnegative, s, ?_, rfl⟩
  simp only [newExperience, eq_ok_iff]
  exact ⟨hpools, _, e.admitted.family, _, e.admitted.hashes, _,
    hsummary.validated (decide_eq_true rfl), rfl⟩

end

/-- Every entry that was not seen before is at least as late as the seen ones. -/
def InTimeOrder (seen : Set Entry) : List Entry → Prop
  | [] => True
  | e :: entries => (e ∈ seen ∨ ∀ e' ∈ seen, e'.time ≤ e.time) ∧ InTimeOrder (insert e seen) entries

/-- The aggregate of some entries and some more. -/
theorem applyAll_summarises {config : PolicyConfig} {E : Finset Entry} {s : Aggregate}
    {entries : List Entry} (h : Summarises config E s) (hE : E.Nonempty)
    (hids : ∀ e ∈ entries, ∀ e', e' ∈ E ∨ e' ∈ entries → e'.id = e.id → e' = e)
    (hscope : ∀ e ∈ entries, ∀ e', e' ∈ E ∨ e' ∈ entries → e'.SameScope e) :
    ∃ E' s', (∀ e, e ∈ E' ↔ e ∈ E ∨ e ∈ entries) ∧
      applyAll config (some s) entries = .ok (some s') ∧ Summarises config E' s' ∧
      (Times config E s → InTimeOrder (E : Set Entry) entries → Times config E' s') := by
  classical
  induction entries generalizing E s with
  | nil => exact ⟨E, s, by simp, rfl, h, fun htimes _ => htimes⟩
  | cons e entries ih =>
    have hrest : ∀ e' ∈ entries, e' ∈ e :: entries := fun e' he' => mem_cons_of_mem _ he'
    have hhead : e ∈ e :: entries := mem_cons_self
    have hmove : ∀ {e'}, (e' ∈ insert e E ∨ e' ∈ entries) → e' ∈ E ∨ e' ∈ e :: entries := by
      rintro e' (he' | he')
      · rcases Finset.mem_insert.mp he' with rfl | he'
        · exact .inr hhead
        · exact .inl he'
      · exact .inr (hrest e' he')
    by_cases hseen : e ∈ E
    · obtain ⟨E', s', hmem, hall, hsum, htimes⟩ := ih h hE
        (fun e₁ he₁ e₂ he₂ => hids e₁ (hrest e₁ he₁) e₂ (he₂.imp_right (hrest e₂)))
        fun e₁ he₁ e₂ he₂ => hscope e₁ (hrest e₁ he₁) e₂ (he₂.imp_right (hrest e₂))
      refine ⟨E', s', ?_, ?_, hsum, ?_⟩
      · intro e'
        rw [hmem, mem_cons]
        constructor
        · exact fun he' => he'.imp_right .inr
        · rintro (he' | rfl | he')
          · exact .inl he'
          · exact .inl hseen
          · exact .inr he'
      · rw [applyAll, foldlM_cons, applyObservation_repeated h hseen]
        exact hall
      · rintro ht ⟨-, horder⟩
        rw [Set.insert_eq_of_mem (Finset.mem_coe.mpr hseen)] at horder
        exact htimes ht horder
    · have hnew : ∀ e' ∈ E, e'.id ≠ e.id := by
        intro e' he' hsame
        exact hseen (hids e hhead e' (.inl he') hsame ▸ he')
      have hsame : ∀ e' ∈ E, e'.SameScope e := fun e' he' => hscope e hhead e' (.inl he')
      obtain ⟨negative, hevidence, happly⟩ := applyObservation_next h hE hsame hnew
      obtain ⟨E', s', hmem, hall, hsum, htimes⟩ := ih (h.next hE hsame hnew hevidence)
        (Finset.insert_nonempty e E)
        (fun e₁ he₁ e₂ he₂ => hids e₁ (hrest e₁ he₁) e₂ (hmove he₂))
        fun e₁ he₁ e₂ he₂ => hscope e₁ (hrest e₁ he₁) e₂ (hmove he₂)
      refine ⟨E', s', ?_, ?_, hsum, ?_⟩
      · intro e'
        rw [hmem, Finset.mem_insert, mem_cons]
        exact or_assoc.trans or_left_comm
      · rw [applyAll, foldlM_cons, happly]
        exact hall
      · rintro ht ⟨hfirst, horder⟩
        have hle : ∀ e' ∈ E, e'.time ≤ e.time := by
          rcases hfirst with hmem | hle
          · exact absurd (Finset.mem_coe.mp hmem) hseen
          · exact fun e' he' => hle e' (Finset.mem_coe.mpr he')
        rw [← Finset.coe_insert] at horder
        exact htimes (ht.next h.active hE hseen hle) horder

/-- The aggregates count the same. -/
structure SameStatistics (s s' : Aggregate) : Prop where
  successCount : s.experience.successCount = s'.experience.successCount
  failureCount : s.experience.failureCount = s'.experience.failureCount
  contextCount : s.experience.independentContextCount = s'.experience.independentContextCount
  contexts : s.contextFingerprints = s'.contextFingerprints
  observations : s.observationIds = s'.observationIds
  negatives : s.negativeEvidenceIds = s'.negativeEvidenceIds
  qualitySum : s.qualitySumMilli = s'.qualitySumMilli
  qualityCount : s.qualityObservationCount = s'.qualityObservationCount
  posterior : s.experience.posteriorSuccessMilli = s'.experience.posteriorSuccessMilli
  lower : s.experience.lowerConfidenceMilli = s'.experience.lowerConfidenceMilli

theorem Summarises.same {config : PolicyConfig} {E : Finset Entry} {s s' : Aggregate}
    (h : Summarises config E s) (h' : Summarises config E s') : SameStatistics s s' := by
  have hsuccess : s.experience.successCount = s'.experience.successCount := by
    rw [h.success_count, h'.success_count]
  have hfailure : s.experience.failureCount = s'.experience.failureCount := by
    rw [h.failure_count, h'.failure_count]
  have hcontexts : s.contextFingerprints = s'.contextFingerprints :=
    h.contexts_sorted.eq_of_mem_iff h'.contexts_sorted fun c => by rw [h.contexts, h'.contexts]
  constructor
  case successCount => exact hsuccess
  case failureCount => exact hfailure
  case contexts => exact hcontexts
  case contextCount => rw [h.context_count, h'.context_count, hcontexts]
  case observations => exact h.ids_sorted.eq_of_mem_iff h'.ids_sorted fun i => by rw [h.ids, h'.ids]
  case negatives =>
    exact h.negatives_sorted.eq_of_mem_iff h'.negatives_sorted fun n => by
      rw [h.negatives, h'.negatives]
  case qualitySum => rw [h.quality_sum, h'.quality_sum]
  case qualityCount => rw [h.quality_count, h'.quality_count, hsuccess]
  case posterior => rw [h.posterior, h'.posterior, hsuccess, hfailure]
  case lower => rw [h.lower, h'.lower, hsuccess, hfailure]

end Experience

end Tiangong
