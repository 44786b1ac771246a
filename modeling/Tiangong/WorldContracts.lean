import Mathlib.Data.Prod.Lex
import Mathlib.Data.String.Basic
import Tiangong.CanonOrder
import Tiangong.Dicts
import Tiangong.Tables

/-!
# World contracts

The partition a record of the world belongs to, references to records, and the cut: the watermarks
up to which the sources of a state were read. What a model validator demands is the check of a
sealed record.
-/
open List

namespace Tiangong

inductive PrivacyScope where
  | everyone | relationship | own | secret | system
  deriving DecidableEq, Repr

/-- The values of the literal type. -/
def PrivacyScope.text : PrivacyScope → String
  | .everyone => "public"
  | .relationship => "relationship"
  | .own => "private"
  | .secret => "secret"
  | .system => "system"

structure ScopeBinding where
  key : String
  value : String
  deriving DecidableEq

def ScopeBinding.canon (b : ScopeBinding) : Canon := .ofList [.text b.key, .text b.value]

structure ScopeFields where
  lifeId : String
  worldId : Canon
  domainId : String
  scopeBindings : List ScopeBinding
  worldScopeHash : Canon
  principalScopeHash : Canon
  privacyScope : PrivacyScope
  deriving DecidableEq

namespace ScopeFields

/-- `derive_world_scope_hash`. -/
def derivedHash (s : ScopeFields) : Canon :=
  .sha256 <| .ofList
    [.text "tiangong.world.scope.v1", .text s.lifeId, s.worldId, .text s.domainId,
      .ofList (s.scopeBindings.map ScopeBinding.canon)]

/-- `validate_binding_keys` and `validate_scope_hash`. -/
def valid (s : ScopeFields) : Bool :=
  decide (s.scopeBindings.map ScopeBinding.key).Nodup && s.worldScopeHash = s.derivedHash

def canon (s : ScopeFields) : Canon :=
  .ofList [.text s.lifeId, s.worldId, .text s.domainId,
    .ofList (s.scopeBindings.map ScopeBinding.canon), s.worldScopeHash, s.principalScopeHash,
    .text s.privacyScope.text]

end ScopeFields

abbrev WorldScope := Sealed ScopeFields.valid

namespace WorldScope

/-- `ScopeIdentity`. -/
structure Identity where
  lifeId : String
  worldId : Canon
  worldScopeHash : Canon
  principalScopeHash : Canon
  deriving DecidableEq

def identity (s : WorldScope) : Identity :=
  ⟨s.1.lifeId, s.1.worldId, s.1.worldScopeHash, s.1.principalScopeHash⟩

/-- `require_exact_scope` passes. -/
def sameIdentity (expected actual : WorldScope) : Bool := expected.identity = actual.identity

theorem sameIdentity_iff {s s' : WorldScope} :
    s.sameIdentity s' = true ↔ s.identity = s'.identity := by
  simp [sameIdentity]

end WorldScope

structure WorldRecordRef where
  recordType : String
  recordId : Canon
  revision : Option ℕ
  sha256 : Canon
  deriving DecidableEq

namespace WorldRecordRef

abbrev SortKey := String ×ₗ Canon ×ₗ ℕ ×ₗ Canon

def sortKey (r : WorldRecordRef) : SortKey :=
  toLex (r.recordType, toLex (r.recordId, toLex (r.revision.getD 0, r.sha256)))

def canon (r : WorldRecordRef) : Canon :=
  .ofList [.text r.recordType, r.recordId, .option .num r.revision, r.sha256]

/-- The record that a reference is about, whatever its revision. -/
def identity (r : WorldRecordRef) : String × Canon := (r.recordType, r.recordId)

/-- `sorted_unique_refs`. -/
def sortedUnique (refs : List WorldRecordRef) : Bool :=
  decide ((refs.map sortKey).Pairwise (· < ·))

end WorldRecordRef

inductive WorldSourceKind where
  | runContext | userConversation | systemGovernance | runtimeEnvironment | authorization
  | factExecution | toolResult | filesystem | gitCode | webExternal | desktopUi | memory | knowledge
  | lifeLearning | contextContinuity | autonomy | chainEvent | executionIntegrity | metrics
  | migrationAudit | modelOutput | contextRequest | unclassifiedSource
  deriving DecidableEq, Repr

def WorldSourceKind.text : WorldSourceKind → String
  | .runContext => "RUN_CONTEXT"
  | .userConversation => "USER_CONVERSATION"
  | .systemGovernance => "SYSTEM_GOVERNANCE"
  | .runtimeEnvironment => "RUNTIME_ENVIRONMENT"
  | .authorization => "AUTHORIZATION"
  | .factExecution => "FACT_EXECUTION"
  | .toolResult => "TOOL_RESULT"
  | .filesystem => "FILESYSTEM"
  | .gitCode => "GIT_CODE"
  | .webExternal => "WEB_EXTERNAL"
  | .desktopUi => "DESKTOP_UI"
  | .memory => "MEMORY"
  | .knowledge => "KNOWLEDGE"
  | .lifeLearning => "LIFE_LEARNING"
  | .contextContinuity => "CONTEXT_CONTINUITY"
  | .autonomy => "AUTONOMY"
  | .chainEvent => "CHAIN_EVENT"
  | .executionIntegrity => "EXECUTION_INTEGRITY"
  | .metrics => "METRICS"
  | .migrationAudit => "MIGRATION_AUDIT"
  | .modelOutput => "MODEL_OUTPUT"
  | .contextRequest => "CONTEXT_REQUEST"
  | .unclassifiedSource => "UNCLASSIFIED_SOURCE"

structure SourceWatermark where
  sourceKind : WorldSourceKind
  watermarkType : String
  watermarkValue : String
  sequence : Option ℕ
  watermarkSha256 : Canon
  deriving DecidableEq

namespace SourceWatermark

/-- What a source has one watermark of. -/
abbrev Key := WorldSourceKind × String

def key (w : SourceWatermark) : Key := (w.sourceKind, w.watermarkType)

abbrev SortKey := String ×ₗ String ×ₗ String ×ₗ ℤ

/-- `sort_key`, where `sequence or -1` takes no sequence and the sequence 0 together. -/
def sortKey (w : SourceWatermark) : SortKey :=
  toLex (w.sourceKind.text, toLex (w.watermarkType, toLex (w.watermarkValue, match w.sequence with
    | some (n + 1) => (n + 1 : ℤ)
    | _ => -1)))

def canon (w : SourceWatermark) : Canon :=
  .ofList [.text w.sourceKind.text, .text w.watermarkType, .text w.watermarkValue,
    .option .num w.sequence, w.watermarkSha256]

/-- The watermark stands where the earlier one stood, or has a higher sequence. -/
def Follows (w earlier : SourceWatermark) : Prop :=
  (w.watermarkValue = earlier.watermarkValue ∧ w.sequence = earlier.sequence) ∨
    ∃ m n, earlier.sequence = some m ∧ w.sequence = some n ∧ m < n

theorem Follows.refl (w : SourceWatermark) : w.Follows w := .inl ⟨rfl, rfl⟩

theorem Follows.trans {w w' w'' : SourceWatermark} (h : w''.Follows w') (h' : w'.Follows w) :
    w''.Follows w := by
  rcases h with ⟨hvalue, hsequence⟩ | ⟨m, n, hm, hn, hlt⟩
  · rcases h' with ⟨hvalue', hsequence'⟩ | ⟨m, n, hm, hn, hlt⟩
    · exact .inl ⟨hvalue.trans hvalue', hsequence.trans hsequence'⟩
    · exact .inr ⟨m, n, hm, hsequence.trans hn, hlt⟩
  · rcases h' with ⟨-, hsequence'⟩ | ⟨m', n', hm', hn', hlt'⟩
    · exact .inr ⟨m, n, hsequence'.symm.trans hm, hn, hlt⟩
    · rw [hn', Option.some.injEq] at hm
      exact .inr ⟨m', n, hm', hn, by omega⟩

/-- A following watermark does not have the lower sequence. -/
theorem Follows.le {w earlier : SourceWatermark} (h : w.Follows earlier) {m n : ℕ}
    (hm : earlier.sequence = some m) (hn : w.sequence = some n) : m ≤ n := by
  rcases h with ⟨-, hsequence⟩ | ⟨m', n', hm', hn', hlt⟩
  · rw [hn, hm, Option.some.injEq] at hsequence
    omega
  · rw [hm, Option.some.injEq] at hm'
    rw [hn, Option.some.injEq] at hn'
    omega

end SourceWatermark

/-- `WorldTime`. -/
structure WorldTime where
  validFromMs : ℕ
  validUntilMs : Option ℕ
  observedAtMs : Option ℕ
  recordedAtMs : ℕ
  ordered : (validUntilMs.all (validFromMs ≤ ·) && observedAtMs.all (· ≤ recordedAtMs)) = true

namespace WorldTime

def canon (t : WorldTime) : Canon :=
  .ofList [.num t.validFromMs, .option .num t.validUntilMs, .option .num t.observedAtMs,
    .num t.recordedAtMs]

instance : DecidableEq WorldTime := fun t t' =>
  decidable_of_iff
    (t.validFromMs = t'.validFromMs ∧ t.validUntilMs = t'.validUntilMs ∧
      t.observedAtMs = t'.observedAtMs ∧ t.recordedAtMs = t'.recordedAtMs) <| by
    cases t
    cases t'
    simp

end WorldTime

structure CutFields where
  cutId : Canon
  scope : WorldScope
  sourceWatermarks : List SourceWatermark
  time : WorldTime
  cutSha256 : Canon
  deriving DecidableEq

namespace CutFields

/-- `derive_world_cut_id`. -/
def derivedId (c : CutFields) : Canon :=
  .ident "wcut_" <| .ofList
    [.text "tiangong.world.cut-id.v1", c.scope.1.worldScopeHash,
      .ofList (c.sourceWatermarks.map SourceWatermark.canon)]

/-- `validate_watermarks` and `validate_id`. -/
def valid (c : CutFields) : Bool :=
  decide ((c.sourceWatermarks.map SourceWatermark.sortKey).Pairwise (· < ·)) &&
    c.cutId = c.derivedId

end CutFields

abbrev WorldCut := Sealed CutFields.valid

namespace WorldCut

abbrev scope (c : WorldCut) : WorldScope := c.1.scope

abbrev watermarks (c : WorldCut) : List SourceWatermark := c.1.sourceWatermarks

def ref (c : WorldCut) : WorldRecordRef := ⟨"world_cut", c.1.cutId, none, c.1.cutSha256⟩

def watermarkMap (c : WorldCut) : Dict SourceWatermark.Key SourceWatermark :=
  .ofItems (c.watermarks.map fun w => (w.key, w))

def KeysOnce (c : WorldCut) : Prop := (c.watermarks.map SourceWatermark.key).Nodup

instance (c : WorldCut) : Decidable c.KeysOnce := nodupDecidable _

theorem KeysOnce.watermarkMap {c : WorldCut} (h : c.KeysOnce) {w : SourceWatermark}
    (hw : w ∈ c.watermarks) : c.watermarkMap.lookup w.key = some w := by
  have hkeys : ((c.watermarks.map fun w => (w.key, w)).map Prod.fst).Nodup := by
    rw [map_map]
    exact h
  exact Dict.lookup_ofItems_of_mem hkeys (mem_map.mpr ⟨w, hw, rfl⟩)

end WorldCut

inductive CutRelation where
  | same | leftDominates | rightDominates | disjoint | incompatible
  deriving DecidableEq, Repr

/-- Which of two watermarks is ahead. -/
inductive CutSide where
  | left | right
  deriving DecidableEq, Repr

/-- One turn of the loop of `compare_world_cuts`: nothing, a direction, or no comparison. -/
def compareWatermarks (a b : SourceWatermark) : Option (Option CutSide) :=
  if a.watermarkValue = b.watermarkValue ∧ a.sequence = b.sequence then some none
  else match a.sequence, b.sequence with
    | some m, some n =>
      if m = n then none else if n < m then some (some .left) else some (some .right)
    | _, _ => none

/-- The loop finds the first watermark ahead, or nothing, exactly when it follows the second. -/
lemma compareWatermarks_follows {a b : SourceWatermark} :
    a.Follows b ↔ ∃ side, compareWatermarks a b = some side ∧ side ≠ some .right := by
  unfold compareWatermarks SourceWatermark.Follows
  by_cases hsame : a.watermarkValue = b.watermarkValue ∧ a.sequence = b.sequence
  · simp [hsame]
  · rw [if_neg hsame]
    cases ha : a.sequence with
    | none => simp_all
    | some m =>
      cases hb : b.sequence with
      | none => simp_all
      | some n =>
        by_cases hmn : m = n
        · simp_all
        · by_cases hlt : n < m
          · simp [hmn, hlt]
          · simp [hmn, hlt]

/-- The pairs of watermarks that the loop goes through. -/
def WorldCut.overlap (left right : WorldCut) : List (SourceWatermark × SourceWatermark) :=
  left.watermarkMap.keys.filterMap fun k => do
    pure (← left.watermarkMap.lookup k, ← right.watermarkMap.lookup k)

def compareWorldCuts (left right : WorldCut) : CutRelation :=
  if left.scope.sameIdentity right.scope = false then .incompatible
  else if left.overlap right = [] then .disjoint
  else match (left.overlap right).mapM fun ab => compareWatermarks ab.1 ab.2 with
    | none => .incompatible
    | some sides =>
      if some .left ∈ sides ∧ some .right ∈ sides then .incompatible
      else if some .left ∈ sides then .leftDominates
      else if some .right ∈ sides then .rightDominates
      else .same

/-- A relation under which a later cut may not stand to an earlier one. -/
def CutRelation.regresses : CutRelation → Bool
  | .rightDominates | .incompatible => true
  | .same | .leftDominates | .disjoint => false

/-- The watermarks of the keys that both cuts carry. -/
theorem mem_overlap {left right : WorldCut} {a b : SourceWatermark} : (a, b) ∈ left.overlap right ↔
      ∃ k, left.watermarkMap.lookup k = some a ∧ right.watermarkMap.lookup k = some b := by
  simp only [WorldCut.overlap, mem_filterMap, Dict.mem_keys_iff]
  constructor
  · rintro ⟨k, -, h⟩
    cases ha : left.watermarkMap.lookup k with
    | none => simp [ha] at h
    | some a' =>
      cases hb : right.watermarkMap.lookup k with
      | none => simp [ha, hb] at h
      | some b' =>
        simp only [ha, hb, bind, Option.bind_some, pure, Option.some.injEq, Prod.mk.injEq] at h
        obtain ⟨rfl, rfl⟩ := h
        exact ⟨k, ha, hb⟩
  · rintro ⟨k, ha, hb⟩
    exact ⟨k, by rw [ha]; rfl, by simp [ha, hb, bind, pure]⟩

/-- The loop goes through when no pair stops it, and then knows the side of every pair. -/
lemma mapM_eq_some {α β : Type} {f : α → Option β} {xs : List α} {ys : List β} :
    xs.mapM f = some ys ↔ List.Forall₂ (fun x y => f x = some y) xs ys := by
  induction xs generalizing ys with
  | nil => cases ys <;> simp
  | cons x xs ih =>
    rw [mapM_cons]
    constructor
    · intro h
      simp only [bind, Option.bind_eq_some_iff, pure, Option.some.injEq] at h
      obtain ⟨y, hy, ys', hys, rfl⟩ := h
      exact .cons hy (ih.mp hys)
    · intro h
      cases h with
      | cons hy hys => simp [hy, ih.mpr hys]

/-- Cuts of one scope do not regress exactly when the watermarks of their common keys follow. -/
theorem compareWorldCuts_regresses {left right : WorldCut}
    (hscope : left.scope.sameIdentity right.scope = true) :
    (compareWorldCuts left right).regresses = false ↔
      ∀ a b, (a, b) ∈ left.overlap right → a.Follows b := by
  unfold compareWorldCuts
  rw [if_neg (by rw [hscope]; decide)]
  by_cases hempty : left.overlap right = []
  · simp [hempty, CutRelation.regresses]
  · rw [if_neg hempty]
    cases hsides : (left.overlap right).mapM fun ab => compareWatermarks ab.1 ab.2 with
    | none =>
      simp only [CutRelation.regresses, Bool.true_eq_false, false_iff]
      intro hall
      -- every pair gives a side, so the loop goes through
      have hthrough : ∀ pairs : List (SourceWatermark × SourceWatermark),
          (∀ ab ∈ pairs, ab.1.Follows ab.2) →
            ∃ sides, (pairs.mapM fun ab => compareWatermarks ab.1 ab.2) = some sides := by
        intro pairs hpairs
        induction pairs with
        | nil => exact ⟨[], rfl⟩
        | cons ab pairs ih =>
          obtain ⟨side, hside, -⟩ := compareWatermarks_follows.mp (hpairs ab mem_cons_self)
          obtain ⟨sides, hrest⟩ := ih fun ab' h => hpairs ab' (mem_cons_of_mem _ h)
          exact ⟨side :: sides, by simp [hside, hrest]⟩
      obtain ⟨sides, hsome⟩ := hthrough _ fun ab hab => hall ab.1 ab.2 hab
      rw [hsides] at hsome
      cases hsome
    | some sides =>
      have hpairs := mapM_eq_some.mp hsides
      have hright : (∀ a b, (a, b) ∈ left.overlap right → a.Follows b) ↔ some .right ∉ sides := by
        generalize left.overlap right = pairs at hpairs
        clear hempty hsides
        induction hpairs with
        | nil => simp
        | @cons ab side pairs sides hside _ ih =>
          have hfollows : ab.1.Follows ab.2 ↔ ¬ some .right = side := by
            rw [compareWatermarks_follows]
            constructor
            · rintro ⟨side', hside', hne⟩
              rw [hside, Option.some.injEq] at hside'
              rw [hside']
              exact hne.symm
            · exact fun hne => ⟨side, hside, Ne.symm hne⟩
          rw [mem_cons, not_or, ← ih, ← hfollows]
          constructor
          · exact fun h => ⟨h _ _ mem_cons_self, fun a b hab => h a b (.tail _ hab)⟩
          · rintro ⟨hfirst, hrest⟩ a b hab
            rcases mem_cons.mp hab with rfl | hab
            · exact hfirst
            · exact hrest a b hab
      rw [hright]
      by_cases hr : some CutSide.right ∈ sides
      · by_cases hl : some CutSide.left ∈ sides <;> simp [hr, hl, CutRelation.regresses]
      · by_cases hl : some CutSide.left ∈ sides <;> simp [hr, hl, CutRelation.regresses]

end Tiangong
