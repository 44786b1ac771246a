import Tiangong.CognitionContracts
import Tiangong.PythonText

/-!
# Cognition stability

What the evidence for and against a belief slot adds up to. Evidence that is not live counts for
nothing, evidence connected by a declared group or a shared root counts as one group, and a group
on both sides counts on neither. The levels of a slot are thresholds on the resulting report.
-/
open List

namespace Tiangong

open CognitionStabilityLevel

def sortedIds {κ : Type*} [LinearOrder κ] (ids : List κ) : List κ := ids.dedup.insertionSort (· ≤ ·)

section SortedIds

variable {κ : Type*} [LinearOrder κ] {ids : List κ}

lemma sortedIds_pairwise (ids : List κ) : (sortedIds ids).Pairwise (· < ·) := sortedSet_strict ids

theorem sortedIds_nodup (ids : List κ) : (sortedIds ids).Nodup := (sortedIds_pairwise ids).nodup

@[simp] theorem sortedIds_sortedIds (ids : List κ) : sortedIds (sortedIds ids) = sortedIds ids :=
  sortedSet_eq (fun _ => Iff.rfl) (sortedIds_pairwise ids)

end SortedIds

structure StabilityPolicy where
  sameSourceGammaMilli : ℕ := 250
  maxClockSkewMs : ℕ := 5 * 60 * 1000
  provisionalThresholdMilli : ℕ := 300
  stableThresholdMilli : ℕ := 600
  coreThresholdMilli : ℕ := 850
  stableMaxCounterMilli : ℕ := 350
  coreMaxCounterMilli : ℕ := 150

/-- The policy of every consolidator in the code. -/
def stabilityPolicy : StabilityPolicy := {}

/-- `CLASS_FACTOR_MILLI`. -/
def EvidenceClass.factorMilli : EvidenceClass → ℕ
  | .observed | .executionVerified | .migrationVerified => 1000
  | .userAsserted => 700
  | .modelInference | .reflection | .prospective => 0

/-- `DIRECT_CLASSES`. -/
def EvidenceClass.direct : EvidenceClass → Bool
  | .observed | .executionVerified | .migrationVerified => true
  | _ => false

namespace CognitionEvidenceSourceKind

/-- `SOURCE_FACTOR_MILLI`. -/
def factorMilli : CognitionEvidenceSourceKind → ℕ
  | .factExecution | .systemAuthority | .migration => 1000
  | .codePerception => 950
  | .userInstruction => 750
  | .memory => 600
  | .modelSynthesis => 0

/-- `DIRECT_SOURCES`. -/
def direct : CognitionEvidenceSourceKind → Bool
  | .factExecution | .codePerception | .systemAuthority | .migration => true
  | _ => false

end CognitionEvidenceSourceKind

def CognitionVolatilityClass.halfLifeMs : CognitionVolatilityClass → Option ℕ
  | .transient => some (5 * 60 * 1000)
  | .short => some (6 * 60 * 60 * 1000)
  | .medium => some (3 * 24 * 60 * 60 * 1000)
  | .long => some (30 * 24 * 60 * 60 * 1000)
  | .structural => none

/-- `sha256`. The tables of factors are constants and left out of the digest. -/
def StabilityPolicy.sha256 (p : StabilityPolicy) : Canon :=
  .sha256 <| .ofList
    [.text "tiangong.world_cognition.stability.v1", .num p.sameSourceGammaMilli,
      .num p.maxClockSkewMs, .num p.provisionalThresholdMilli, .num p.stableThresholdMilli,
      .num p.coreThresholdMilli, .num p.stableMaxCounterMilli, .num p.coreMaxCounterMilli]

def milliMul (values : List ℕ) : ℕ :=
  min 1000 (values.foldl (fun result value => result * min 1000 value / 1000) 1000)

def freshnessMilli (e : CognitionEvidence) (nowMs : ℕ) : ℕ :=
  match e.1.volatilityClass.halfLifeMs with
  | none => 1000
  | some halfLife => min 1000 (1000 * halfLife / (halfLife + (nowMs - e.1.observedAtMs)))

structure WeightedEvidence where
  evidenceId : Canon
  declaredGroup : Canon
  lineageRoots : List Canon
  group : Canon
  weightMilli : ℕ
  preFreshWeightMilli : ℕ
  direct : Bool

inductive DropReason where
  | self | expired | notYetValid | invalid | zero
  deriving DecidableEq, Repr

/-- The checks of `_weight_one`: why an item does not count at all, if it does not. -/
def refusedReason (slot : CognitionSlot) (nowMs : ℕ) (policy : StabilityPolicy)
    (e : CognitionEvidence) : Option DropReason :=
  if e.hasValidHash = false then some .invalid
  else if e.1.lifeId ≠ slot.lifeId ∨ e.1.domain ≠ slot.domain ∨
      e.1.worldScopeHash ≠ slot.worldScopeHash ∨
      e.1.principalScopeHash ≠ slot.principalScopeHash then some .invalid
  else if slot.cognitionId ∈ e.1.ancestorCognitionIds then some .self
  else if nowMs < e.1.validFromMs then some .notYetValid
  else if e.1.validUntilMs.any (· < nowMs) then some .expired
  else if nowMs + policy.maxClockSkewMs < e.1.observedAtMs then some .invalid
  else none

/-- The weight of an item that counts. -/
def weighed (nowMs : ℕ) (e : CognitionEvidence) : WeightedEvidence :=
  let authority := min (min e.1.sourceCredibilityMilli e.1.authorityCeilingMilli)
    e.1.provenanceIntegrityMilli
  let coverage := match e.1.observationMode with
    | .negative | .aggregate => e.1.coverageMilli
    | .positive => 1000
  let preFresh := milliMul [authority, e.1.evidenceClass.factorMilli,
    e.1.sourceRef.sourceKind.factorMilli, coverage]
  let final := milliMul [preFresh, freshnessMilli e nowMs]
  { evidenceId := e.id
    declaredGroup := e.1.independenceGroupHash
    lineageRoots := e.1.lineageRootHashes
    group := e.1.independenceGroupHash
    weightMilli := final
    preFreshWeightMilli := preFresh
    direct := e.1.evidenceClass.direct && e.1.sourceRef.sourceKind.direct && decide (0 < final) }

def weightOne (slot : CognitionSlot) (nowMs : ℕ) (policy : StabilityPolicy)
    (e : CognitionEvidence) : Option WeightedEvidence × Option DropReason :=
  match refusedReason slot nowMs policy e with
  | some reason => (none, some reason)
  | none =>
    (some (weighed nowMs e), if 0 < (weighed nowMs e).weightMilli then none else some .zero)

/-- What the loop of `collect` leaves: the items that count, and the others with their reasons. -/
structure Collected where
  seen : List Canon
  items : List WeightedEvidence
  dropped : List (Canon × DropReason)

/-- One turn of the loop of `collect`. -/
def collectOne (slot : CognitionSlot) (nowMs : ℕ) (policy : StabilityPolicy) (c : Collected)
    (e : CognitionEvidence) : Collected :=
  if e.id ∈ c.seen then c
  else
    let c := { c with seen := c.seen ++ [e.id] }
    match weightOne slot nowMs policy e with
    | (some item, reason) =>
      if 0 < item.weightMilli then { c with items := c.items ++ [item] }
      else { c with dropped := c.dropped ++ reason.toList.map fun why => (e.id, why) }
    | (none, reason) => { c with dropped := c.dropped ++ reason.toList.map fun why => (e.id, why) }

def collect (slot : CognitionSlot) (nowMs : ℕ) (policy : StabilityPolicy)
    (evidence : List CognitionEvidence) : Collected :=
  evidence.foldl (collectOne slot nowMs policy) ⟨[], [], []⟩

namespace EffectiveGroups

/-- `find`. Its path compression changes no root and is left out. -/
def find (parent : List ℕ) : ℕ → ℕ → ℕ
  | 0, i => i
  | fuel + 1, i => if parent.getD i i = i then i else find parent fuel (parent.getD i i)

def root (parent : List ℕ) (i : ℕ) : ℕ := find parent parent.length i

/-- `union`: the smaller root stays a root. -/
def union (parent : List ℕ) (left right : ℕ) : List ℕ :=
  let a := root parent left
  let b := root parent right
  if a = b then parent else parent.set (max a b) (min a b)

/-- A declared group or a lineage root of an item. -/
inductive Token where
  | group (hash : Canon) | root (hash : Canon)
  deriving DecidableEq

def tokens (item : WeightedEvidence) : List Token :=
  .group item.declaredGroup :: item.lineageRoots.map .root

/-- The first owner of a token keeps it, and is joined with every later one. -/
def joinToken (i : ℕ) (state : List ℕ × Dict Token ℕ) (token : Token) : List ℕ × Dict Token ℕ :=
  match state.2.lookup token with
  | none => (state.1, state.2.insert token i)
  | some previous => (union state.1 i previous, state.2)

def parents (items : List WeightedEvidence) : List ℕ :=
  (items.zipIdx.foldl (fun state item => (tokens item.1).foldl (joinToken item.2) state)
    (List.range items.length, ∅)).1

/-- The key of the group that an item belongs to. -/
def key (items : List WeightedEvidence) (i : ℕ) : Canon :=
  let parent := parents items
  let members := (items.zipIdx.filter fun item => root parent item.2 = root parent i).map Prod.fst
  .sha256 <| .ofList
    [.text "tiangong.cognition.effective-independence.v1",
      .ofList (sortedIds (members.map (·.declaredGroup))),
      .ofList (sortedIds (members.flatMap (·.lineageRoots)))]

end EffectiveGroups

def normalizeEffectiveGroups (support counter : List WeightedEvidence) :
    List WeightedEvidence × List WeightedEvidence :=
  let combined := support ++ counter
  let normalized := combined.zipIdx.map fun item =>
    { item.1 with group := EffectiveGroups.key combined item.2 }
  (normalized.take support.length, normalized.drop support.length)

def noisyOr (values : List ℕ) : ℕ :=
  values.foldl
    (fun combined value =>
      min 1000 (combined + min 1000 value - combined * min 1000 value / 1000)) 0

def groupNames (items : List WeightedEvidence) : List Canon := sortedIds (items.map (·.group))

/-- The score of one group: its items from the heaviest on, each discounted further. -/
def groupScore (weight : WeightedEvidence → ℕ) (gammaMilli : ℕ) (items : List WeightedEvidence)
    (group : Canon) : ℕ :=
  let ordered := orderBy
    (fun a b : WeightedEvidence =>
      weight b < weight a || (weight a = weight b && b.evidenceId ≤ a.evidenceId))
    (items.filter (·.group = group))
  min 1000 (ordered.foldl
    (fun (acc : ℕ × ℕ) item =>
      (acc.1 + weight item * acc.2 / 1000, acc.2 * gammaMilli / 1000)) (0, 1000)).1

/-- The noisy or of the scores of all groups. -/
def groupTotal (weight : WeightedEvidence → ℕ) (gammaMilli : ℕ) (items : List WeightedEvidence) :
    ℕ :=
  noisyOr ((groupNames items).map (groupScore weight gammaMilli items))

structure StabilityReport where
  supportMilli : ℕ
  counterMilli : ℕ
  netMilli : ℕ
  supportGroups : List Canon
  counterGroups : List Canon
  directSupportGroups : List Canon
  conflictedGroups : List Canon
  droppedSelfDerived : List Canon
  droppedExpired : List Canon
  droppedNotYetValid : List Canon
  droppedInvalid : List Canon
  zeroAuthority : List Canon
  correlationDiscountMilli : ℕ
  stalenessPenaltyMilli : ℕ

/-- The groups that both sides have. -/
def conflictedGroups (support counter : List WeightedEvidence) : List Canon :=
  (groupNames support).filter (groupNames counter).contains

/-- The items outside of the conflicted groups. -/
def unconflicted (conflicted : List Canon) (items : List WeightedEvidence) :
    List WeightedEvidence :=
  items.filter fun item => !conflicted.contains item.group

def scoredGroups (gammaMilli : ℕ) (items : List WeightedEvidence) : List Canon :=
  (groupNames items).filter fun group => 0 < groupScore (·.weightMilli) gammaMilli items group

def reportOf (policy : StabilityPolicy) (supportSide counterSide : Collected) : StabilityReport :=
  let normalized := normalizeEffectiveGroups supportSide.items counterSide.items
  let conflicted := conflictedGroups normalized.1 normalized.2
  let support := unconflicted conflicted normalized.1
  let counter := unconflicted conflicted normalized.2
  let gamma := policy.sameSourceGammaMilli
  let supportTotal := groupTotal (·.weightMilli) gamma support
  let counterTotal := groupTotal (·.weightMilli) gamma counter
  let supportUngrouped := noisyOr
    ((orderBy (fun a b : WeightedEvidence => a.evidenceId ≤ b.evidenceId) support).map
      (·.weightMilli))
  let counterUngrouped := noisyOr
    ((orderBy (fun a b : WeightedEvidence => a.evidenceId ≤ b.evidenceId) counter).map
      (·.weightMilli))
  let supportNoStale := groupTotal (·.preFreshWeightMilli) gamma support
  let counterNoStale := groupTotal (·.preFreshWeightMilli) gamma counter
  let dropped (reason : DropReason) := sortedIds <|
    ((supportSide.dropped ++ counterSide.dropped).filter (·.2 = reason)).map Prod.fst
  { supportMilli := supportTotal
    counterMilli := counterTotal
    netMilli := supportTotal - counterTotal
    supportGroups := scoredGroups gamma support
    counterGroups := scoredGroups gamma counter
    directSupportGroups := (scoredGroups gamma support).filter fun group =>
      support.any fun item => item.group = group && item.direct
    conflictedGroups := conflicted
    droppedSelfDerived := dropped .self
    droppedExpired := dropped .expired
    droppedNotYetValid := dropped .notYetValid
    droppedInvalid := dropped .invalid
    zeroAuthority := dropped .zero
    correlationDiscountMilli := min 1000
      ((supportUngrouped - supportTotal) + (counterUngrouped - counterTotal))
    stalenessPenaltyMilli := min 1000
      ((supportNoStale - supportTotal) + (counterNoStale - counterTotal)) }

def evaluateEvidence (slot : CognitionSlot) (support counter : List CognitionEvidence) (nowMs : ℕ)
    (policy : StabilityPolicy) : StabilityReport :=
  reportOf policy (collect slot nowMs policy support) (collect slot nowMs policy counter)

namespace StabilityReport

/-- The evidence meets the thresholds of a level. A protected level rests on what its core needs. -/
def meets (r : StabilityReport) (policy : StabilityPolicy) : CognitionStabilityLevel → Bool
  | .c0 => true
  | .c1 => policy.provisionalThresholdMilli ≤ r.netMilli && 1 ≤ r.supportGroups.length
  | .c2 => policy.stableThresholdMilli ≤ r.netMilli && 2 ≤ r.supportGroups.length &&
      1 ≤ r.directSupportGroups.length && r.counterMilli ≤ policy.stableMaxCounterMilli
  | .c3 | .c4 => policy.coreThresholdMilli ≤ r.netMilli && 3 ≤ r.supportGroups.length &&
      1 ≤ r.directSupportGroups.length && r.counterMilli ≤ policy.coreMaxCounterMilli

def highestEligibleLevel (r : StabilityReport) (policy : StabilityPolicy) :
    CognitionStabilityLevel :=
  if r.meets policy .c3 then .c3
  else if r.meets policy .c2 then .c2
  else if r.meets policy .c1 then .c1
  else .c0

/-- The thresholds of `challenge_is_material`. -/
def challengeThreshold : CognitionStabilityLevel → ℕ × ℕ
  | .c0 => (300, 1)
  | .c1 => (350, 1)
  | .c2 => (500, 1)
  | .c3 => (650, 2)
  | .c4 => (750, 2)

def challengeIsMaterial (r : StabilityReport) (level : CognitionStabilityLevel) : Bool :=
  (900 ≤ r.counterMilli && 1 ≤ r.counterGroups.length) ||
    ((challengeThreshold level).1 ≤ r.counterMilli &&
      (challengeThreshold level).2 ≤ r.counterGroups.length)

/-- `_eligible_at_least`. A protected level asks for no more than its core. -/
def eligibleAtLeast (r : StabilityReport) (policy : StabilityPolicy)
    (level : CognitionStabilityLevel) : Bool :=
  (if level = .c4 then c3 else level).order ≤
    (r.highestEligibleLevel policy).order

end StabilityReport

section Collect

variable (slot : CognitionSlot) (nowMs : ℕ) (policy : StabilityPolicy)

/-- The evidence counts at the time. -/
def isLive (e : CognitionEvidence) : Bool := refusedReason slot nowMs policy e = none

/-- The items that count, with a positive weight. -/
def counted (evidence : List CognitionEvidence) : List WeightedEvidence :=
  ((evidence.filter (isLive slot nowMs policy)).map (weighed nowMs)).filter (0 < ·.weightMilli)

variable {slot nowMs policy}

lemma collectOne_of_new {c : Collected} {e : CognitionEvidence} (h : e.id ∉ c.seen) :
    (collectOne slot nowMs policy c e).seen = c.seen ++ [e.id] ∧
      (collectOne slot nowMs policy c e).items = c.items ++ counted slot nowMs policy [e] := by
  unfold collectOne weightOne counted isLive
  rw [if_neg h]
  cases hreason : refusedReason slot nowMs policy e with
  | some reason => simp [hreason]
  | none =>
    by_cases hweight : 0 < (weighed nowMs e).weightMilli
    · simp [hreason, hweight]
    · simp [hreason, hweight]

/-- Of different items of evidence those are collected that are live and weigh something. -/
lemma collect_items {evidence : List CognitionEvidence}
    (hnodup : (evidence.map CognitionEvidence.id).Nodup) :
    (collect slot nowMs policy evidence).items = counted slot nowMs policy evidence := by
  suffices hall : ∀ c : Collected, (∀ e ∈ evidence, e.id ∉ c.seen) →
      (evidence.foldl (collectOne slot nowMs policy) c).items =
        c.items ++ counted slot nowMs policy evidence by
    simpa [collect] using hall ⟨[], [], []⟩ (by simp)
  induction evidence with
  | nil => simp [counted]
  | cons e evidence ih =>
    intro c hseen
    rw [map_cons, nodup_cons] at hnodup
    obtain ⟨hseen', hitems⟩ := @collectOne_of_new slot nowMs policy c e
      (hseen e mem_cons_self)
    rw [foldl_cons, ih hnodup.2, hitems]
    · rw [append_assoc, counted, counted, counted, ← filter_append, ← map_append, ← filter_append]
      rfl
    · intro e' he'
      rw [hseen', mem_append, not_or]
      refine ⟨hseen e' (mem_cons_of_mem _ he'), ?_⟩
      rw [mem_singleton]
      exact fun hsame => hnodup.1 (mem_map.mpr ⟨e', he', hsame⟩)

lemma collect_live {evidence : List CognitionEvidence}
    (hnodup : (evidence.map CognitionEvidence.id).Nodup) :
    (collect slot nowMs policy (evidence.filter (isLive slot nowMs policy))).items =
      (collect slot nowMs policy evidence).items := by
  rw [collect_items hnodup, collect_items (hnodup.sublist (filter_sublist.map _)), counted,
    counted, filter_filter]
  simp

end Collect

section Report

variable {slot : CognitionSlot} {support counter : List CognitionEvidence} {nowMs : ℕ}
  {policy : StabilityPolicy} {level level' : CognitionStabilityLevel}

theorem evaluateEvidence_live (hsupport : (support.map CognitionEvidence.id).Nodup)
    (hcounter : (counter.map CognitionEvidence.id).Nodup) :
    let r := evaluateEvidence slot (support.filter (isLive slot nowMs policy))
      (counter.filter (isLive slot nowMs policy)) nowMs policy
    let r' := evaluateEvidence slot support counter nowMs policy
    r.supportGroups = r'.supportGroups ∧ r.counterGroups = r'.counterGroups ∧
      r.supportMilli = r'.supportMilli ∧ r.counterMilli = r'.counterMilli ∧
      ∀ level, r.meets policy level = r'.meets policy level := by
  unfold evaluateEvidence reportOf
  rw [collect_live hsupport, collect_live hcounter]
  refine ⟨rfl, rfl, rfl, rfl, fun level => ?_⟩
  cases level <;> rfl

lemma meets_provisional {r : StabilityReport} : r.meets stabilityPolicy .c1 = true ↔
    300 ≤ r.netMilli ∧ 1 ≤ r.supportGroups.length := by
  simp only [StabilityReport.meets, holds_iff]
  rfl

lemma meets_stable {r : StabilityReport} : r.meets stabilityPolicy .c2 = true ↔
    600 ≤ r.netMilli ∧ 2 ≤ r.supportGroups.length ∧ 1 ≤ r.directSupportGroups.length ∧
      r.counterMilli ≤ 350 := by
  simp only [StabilityReport.meets, holds_iff, and_assoc]
  rfl

lemma meets_core {r : StabilityReport} : r.meets stabilityPolicy .c3 = true ↔
    850 ≤ r.netMilli ∧ 3 ≤ r.supportGroups.length ∧ 1 ≤ r.directSupportGroups.length ∧
      r.counterMilli ≤ 150 := by
  simp only [StabilityReport.meets, holds_iff, and_assoc]
  rfl

lemma meets_of_meets {r : StabilityReport} (h : r.meets stabilityPolicy level = true)
    (hle : level'.order ≤ level.order) : r.meets stabilityPolicy level' = true := by
  have hprotected : r.meets stabilityPolicy .c4 = r.meets stabilityPolicy .c3 := rfl
  have hlower : r.meets stabilityPolicy .c0 = true := rfl
  have hprovisional := @meets_provisional r
  have hstable := @meets_stable r
  have hcore := @meets_core r
  cases level <;> cases level' <;> simp only [order] at hle <;>
    simp only [hprotected, hlower, hprovisional, hstable, hcore] at h ⊢ <;> omega

theorem eligibleAtLeast_iff {r : StabilityReport} :
    r.eligibleAtLeast stabilityPolicy level = true ↔ r.meets stabilityPolicy level = true := by
  have h3 : r.meets stabilityPolicy .c3 = true → r.meets stabilityPolicy .c2 = true :=
    fun h => meets_of_meets h (by decide)
  have h2 : r.meets stabilityPolicy .c2 = true → r.meets stabilityPolicy .c1 = true :=
    fun h => meets_of_meets h (by decide)
  have h4 : r.meets stabilityPolicy .c4 = r.meets stabilityPolicy .c3 := rfl
  have h0 : r.meets stabilityPolicy .c0 = true := rfl
  unfold StabilityReport.eligibleAtLeast StabilityReport.highestEligibleLevel
  by_cases hc3 : r.meets stabilityPolicy .c3 = true
  · cases level <;> simp_all [order]
  · by_cases hc2 : r.meets stabilityPolicy .c2 = true
    · cases level <;> simp_all [order]
    · by_cases hc1 : r.meets stabilityPolicy .c1 = true
      · cases level <;> simp_all [order]
      · cases level <;> simp_all [order]

end Report

end Tiangong
