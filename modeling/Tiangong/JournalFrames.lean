import Tiangong.JournalReducers

/-!
# What a replay leaves alone

The memories are one entry of the state. The reducers of the other families keep every property of
the state that reads this entry only, whether they answer or raise.
-/
namespace Tiangong

namespace JournalReplay

lemma publishedEntry_key (runtime : ReplayRuntime) (artifact publication : JsonFields) :
    py (publishedEntry runtime artifact publication).1 ≠ py "memories" := by
  unfold publishedEntry
  split
  · change py "capabilities" ≠ _
    decide
  · change py "knowledge" ≠ _
    decide

/-- A property of the state that reads its memories only. -/
def OfMemories (P : JsonFields → Prop) : Prop :=
  ∀ ⦃scope scope' : JsonFields⦄,
    scope'.lookup (py "memories") = scope.lookup (py "memories") → P scope → P scope'

section Frames

variable {runtime : ReplayRuntime} {P : JsonFields → Prop} (hP : OfMemories P)
include hP

variable {key : String}

lemma put_keeps (h : py key ≠ py "memories") (f : JsonFields → PlatformJson) :
    (Call.modify fun scope => scope.put (py key) (f scope) : ReplayCall Unit).Keeps P :=
  Call.Keeps.modify fun scope hs => hP (JsonFields.lookup_put_of_ne h scope (f scope)) hs

lemma default_keeps (h : py key ≠ py "memories") (value : PlatformJson) :
    (Call.modify fun scope => scope.default (py key) value : ReplayCall Unit).Keeps P := by
  apply Call.Keeps.modify
  intro scope hs
  apply hP _ hs
  rw [JsonFields.lookup_default, if_neg h]

lemma defaultDict_keeps (h : py key ≠ py "memories") : (defaultDict key).Keeps P :=
  (default_keeps hP h _).bind fun _ => .query _

lemma checkedDict_keeps {code : String} (h : py key ≠ py "memories") :
    (checkedDict key code).Keeps P :=
  (default_keeps hP h _).bind fun _ => .query _

lemma stateDict_keeps (h : py key ≠ py "memories") (members : JsonFields) :
    (stateDict key members).Keeps P :=
  (default_keeps hP h _).bind fun _ => .query _

lemma innerDict_keeps (h : py key ≠ py "memories") (inner fault : String) :
    (innerDict key inner fault).Keeps P :=
  (put_keeps hP h _).bind fun _ => .query _

lemma putIn_keeps (h : py key ≠ py "memories") (id : PyStr)
    (value : PlatformJson) : (putIn key id value).Keeps P :=
  put_keeps hP h _

lemma putInner_keeps (h : py key ≠ py "memories") (inner : String)
    (value : PlatformJson) : (putInner key inner value).Keeps P :=
  put_keeps hP h _

lemma putInnerIf_keeps (h : py key ≠ py "memories") (condition : Prop)
    [Decidable condition] (inner : String) (value : PlatformJson) :
    (putInnerIf condition key inner value).Keeps P :=
  Call.Keeps.ite (putInner_keeps hP h inner value) (.pure _)

lemma assign_keeps (h : py key ≠ py "memories") (entries : JsonFields)
    (id : PyStr) (value : PlatformJson) : (assign runtime key entries id value).Keeps P := by
  have hput := (putIn_keeps hP h id value).bind fun _ => Call.Keeps.pure true
  unfold assign
  split
  · exact hput
  · exact Call.Keeps.ite (.pure _) hput

theorem reduceMemoryRelation_keeps (payload : JsonFields) :
    (reduceMemoryRelation runtime payload).Keeps P := by
  unfold reduceMemoryRelation
  refine .asked fun record => ?_
  refine .asked fun _ => ?_
  refine .asked fun relations => ?_
  split
  · exact (put_keeps hP (by decide) _).bind fun _ => .pure _
  · exact .asked fun _ => .pure _

lemma proposeCandidate_keeps (raw : PlatformJson) : (proposeCandidate runtime raw).Keeps P := by
  unfold proposeCandidate
  refine .asked fun record => ?_
  refine .asked fun _ => ?_
  refine .asked fun queue => ?_
  split
  · exact (putIn_keeps hP (by decide) _ _).bind fun _ => .pure _
  · exact .asked fun _ => .pure _

lemma proposeCandidates_keeps (candidates : List PlatformJson) :
    (proposeCandidates runtime candidates).Keeps P := by
  induction candidates with
  | nil => exact .pure _
  | cons raw rest ih =>
    exact (proposeCandidate_keeps hP raw).bind fun _ => ih.bind fun _ => .pure _

theorem reduceMemoryCandidates_keeps (payload : JsonFields) :
    (reduceMemoryCandidates runtime payload).Keeps P := by
  refine .asked fun candidates => ?_
  exact (checkedDict_keeps hP (by decide)).bind fun _ => proposeCandidates_keeps hP candidates

lemma normalizeAutonomy_keeps : normalizeAutonomy.Keeps P := by
  unfold normalizeAutonomy
  refine (Call.Keeps.read _).bind fun autonomy => ?_
  split
  · apply (put_keeps hP (by decide) _).bind
    intro _
    exact .asked fun _ => .pure _
  · exact .pure _

lemma withinTask_keeps {α : Type} (taskId : PyStr) (x : Call ReplayFault JsonFields α) :
    (withinTask taskId x).Keeps P :=
  fun scope hs => hP (JsonFields.lookup_put_of_ne (by decide) scope _) hs

theorem reduceTaskGenerated_keeps (payload : JsonFields) :
    (reduceTaskGenerated runtime payload).Keeps P := by
  unfold reduceTaskGenerated
  refine .asked fun record => ?_
  refine .asked fun _ => ?_
  refine (normalizeAutonomy_keeps hP).bind fun autonomy => ?_
  split
  · exact (put_keeps hP (by decide) _).bind fun _ => .pure _
  · exact withinTask_keeps hP _ _
  · exact .query _

theorem reduceTaskStatus_keeps (payload : JsonFields) :
    (reduceTaskStatus runtime payload).Keeps P := by
  unfold reduceTaskStatus
  refine (normalizeAutonomy_keeps hP).bind fun autonomy => ?_
  refine .asked fun task => ?_
  refine .asked fun projected => ?_
  exact Call.Keeps.ite (.pure _) ((put_keeps hP (by decide) _).bind fun _ => .pure _)

theorem reduceExecutionCommitted_keeps (payload : JsonFields) :
    (reduceExecutionCommitted runtime payload).Keeps P := by
  unfold reduceExecutionCommitted
  refine .asked fun _ => ?_
  refine .asked fun executions => ?_
  split
  · exact (putIn_keeps hP (by decide) _ _).bind fun _ => .pure _
  · exact .asked fun _ => .pure _
  · exact .query _

lemma assignCapabilityPointer_keeps (payload : JsonFields) :
    (assignCapabilityPointer runtime payload).Keeps P := by
  unfold assignCapabilityPointer
  refine .asked fun pointer => ?_
  refine .asked fun _ => ?_
  exact (defaultDict_keeps hP (by decide)).bind fun _ => assign_keeps hP (by decide) _ _ _

lemma popCapability_keeps (artifactId : PyStr) : (popCapability artifactId).Keeps P :=
  .asked fun _ => put_keeps hP (by decide) _

lemma disableCapability_keeps (eventType artifactId : PyStr) :
    (disableCapability runtime eventType artifactId).Keeps P := by
  unfold disableCapability
  refine Call.Keeps.ite (.asked fun present => ?_) (.pure _)
  exact Call.Keeps.ite ((popCapability_keeps hP _).bind fun _ => .pure _) (.pure _)

theorem reduceCapabilityLifecycle_keeps (eventType : PyStr) (payload : JsonFields) :
    (reduceCapabilityLifecycle runtime eventType payload).Keeps P := by
  refine (assignCapabilityPointer_keeps hP payload).bind fun changed => ?_
  exact (disableCapability_keeps hP _ _).bind fun _ => .pure _

lemma restorePatched_keeps (payload : JsonFields) (patchedId : PyStr) (present : Bool) :
    (restorePatched runtime payload patchedId present).Keeps P := by
  unfold restorePatched
  split
  · exact .pure _
  · refine Call.Keeps.ite (.asked fun _ => ?_) (.pure _)
    exact (putIn_keeps hP (by decide) _ _).bind fun _ => .pure _

theorem reduceCapabilityPatchProposed_keeps (payload : JsonFields) :
    (reduceCapabilityPatchProposed runtime payload).Keeps P := by
  refine (assignCapabilityPointer_keeps hP payload).bind fun changed => ?_
  refine Call.Keeps.ite (.pure _) (.asked fun present => ?_)
  exact (restorePatched_keeps hP payload _ present).bind fun _ => .pure _

lemma ingestPointerOutcome_keeps (artifactId outcomeId outcome : PyStr) (event : JsonFields) :
    (ingestPointerOutcome runtime artifactId outcomeId outcome event).Keeps P := by
  unfold ingestPointerOutcome
  refine .asked fun _ => ?_
  refine .asked fun pointers => ?_
  split
  · exact .pure _
  · refine .asked fun ingested => ?_
    exact Call.Keeps.ite ((putIn_keeps hP (by decide) _ _).bind fun _ => .pure _) (.pure _)

theorem reduceCapabilityExecuted_keeps (payload event : JsonFields) :
    (reduceCapabilityExecuted runtime payload event).Keeps P := by
  unfold reduceCapabilityExecuted
  refine .asked fun execution => ?_
  refine .asked fun _ => ?_
  refine (defaultDict_keeps hP (by decide)).bind fun executions => ?_
  refine (assign_keeps hP (by decide) _ _ _).bind fun changed => ?_
  exact (ingestPointerOutcome_keeps hP _ _ _ _).bind fun _ => .pure _

theorem reduceCapabilityOutcome_keeps (payload event : JsonFields) :
    (reduceCapabilityOutcome runtime payload event).Keeps P :=
  .asked fun _ => ingestPointerOutcome_keeps hP _ _ _ _

theorem reduceLearningCard_keeps (payload : JsonFields) :
    (reduceLearningCard runtime payload).Keeps P := by
  unfold reduceLearningCard
  refine .asked fun card => ?_
  refine .asked fun _ => ?_
  exact (checkedDict_keeps hP (by decide)).bind fun _ => assign_keeps hP (by decide) _ _ _

lemma enterPublished_keeps (payload artifact : JsonFields) :
    (enterPublished runtime payload artifact).Keeps P := by
  refine Call.Keeps.ite ?_ (.pure _)
  have hkey := publishedEntry_key runtime artifact
  exact (defaultDict_keeps hP (hkey _)).bind fun _ => assign_keeps hP (hkey _) _ _ _

theorem reduceLearningPublished_keeps (payload : JsonFields) :
    (reduceLearningPublished runtime payload).Keeps P := by
  refine (reduceLearningCard_keeps hP payload).bind fun changed => ?_
  exact (enterPublished_keeps hP payload _).bind fun _ => .pure _

lemma applyMigrationRecord_keeps (row : JsonFields) :
    (applyMigrationRecord runtime row).Keeps P := by
  unfold applyMigrationRecord
  refine .asked fun _ => ?_
  refine (stateDict_keeps hP (by decide) _).bind fun _ => ?_
  refine (innerDict_keeps hP (by decide) _ _).bind fun records => ?_
  exact Call.Keeps.ite (.pure _) ((putInner_keeps hP (by decide) _ _).bind fun _ => .pure _)

theorem reduceLegacyMigration_keeps (payload : JsonFields) :
    (reduceLegacyMigration runtime payload).Keeps P :=
  .asked fun row => applyMigrationRecord_keeps hP row

lemma coverPaths_keeps (startedAtMs : ℤ) : (coverPaths startedAtMs).Keeps P :=
  (innerDict_keeps hP (by decide) _ _).bind fun _ =>
    (putInner_keeps hP (by decide) _ _).bind fun _ => .pure _

theorem reduceLegacyUsageWindow_keeps (payload : JsonFields) :
    (reduceLegacyUsageWindow runtime payload).Keeps P := by
  refine .asked fun window => ?_
  unfold applyUsageWindow
  refine .asked fun _ => ?_
  refine .asked fun startedAtMs => ?_
  refine .asked fun _ => ?_
  refine (stateDict_keeps hP (by decide) _).bind fun state => ?_
  refine .asked fun _ => ?_
  refine .asked fun current => ?_
  refine .asked fun _ => ?_
  refine Call.Keeps.ite ?_ (coverPaths_keeps hP _)
  refine (putInner_keeps hP (by decide) _ _).bind fun _ => ?_
  exact (coverPaths_keeps hP _).bind fun _ => .pure _

lemma coverEntries_keeps (startedAtMs : ℤ) (entries : List PyStr) :
    (coverEntries startedAtMs entries).Keeps P := by
  induction entries with
  | nil => exact .pure _
  | cons entry rest ih =>
    unfold coverEntries
    refine (Call.Keeps.read _).bind fun coverage => ?_
    split
    · exact (putInner_keeps hP (by decide) _ _).bind fun _ => ih.bind fun _ => .pure _
    · exact .asked fun _ => ih

theorem reduceLegacyUsageCoverage_keeps (payload : JsonFields) :
    (reduceLegacyUsageCoverage runtime payload).Keeps P := by
  refine .asked fun coverage => ?_
  unfold applyUsageCoverage
  refine .asked fun _ => ?_
  refine .asked fun startedAtMs => ?_
  refine .asked fun entries => ?_
  refine (stateDict_keeps hP (by decide) _).bind fun state => ?_
  refine .asked fun _ => ?_
  exact (innerDict_keeps hP (by decide) _ _).bind fun _ => coverEntries_keeps hP _ _

lemma countUsage_keeps (inner : String) (key : PyStr) : (countUsage runtime inner key).Keeps P :=
  (innerDict_keeps hP (by decide) _ _).bind fun _ =>
    .asked fun _ => putInner_keeps hP (by decide) _ _

theorem reduceLegacyUsage_keeps (payload : JsonFields) :
    (reduceLegacyUsage runtime payload).Keeps P := by
  refine .asked fun observation => ?_
  unfold applyUsageObservation
  refine .asked fun _ => ?_
  refine .asked fun sequence => ?_
  refine .asked fun observedAtMs => ?_
  refine .asked fun _ => ?_
  refine (stateDict_keeps hP (by decide) _).bind fun _ => ?_
  refine (innerDict_keeps hP (by decide) _ _).bind fun coverage => ?_
  refine .asked fun _ => ?_
  refine .asked fun total => ?_
  refine .asked fun _ => ?_
  refine (putInner_keeps hP (by decide) _ _).bind fun _ => ?_
  refine .asked fun last => ?_
  refine (putInner_keeps hP (by decide) _ _).bind fun _ => ?_
  refine (countUsage_keeps hP _ _).bind fun _ => ?_
  exact (countUsage_keeps hP _ _).bind fun _ => .pure _

theorem reduceUpgradeCreated_keeps (payload : JsonFields) :
    (reduceUpgradeCreated runtime payload).Keeps P := by
  unfold reduceUpgradeCreated
  refine .asked fun card => ?_
  refine .asked fun _ => ?_
  exact (defaultDict_keeps hP (by decide)).bind fun _ => assign_keeps hP (by decide) _ _ _

theorem reduceUpgradeCancelled_keeps (payload : JsonFields) :
    (reduceUpgradeCancelled runtime payload).Keeps P := by
  unfold reduceUpgradeCancelled
  refine (defaultDict_keeps hP (by decide)).bind fun upgrades => ?_
  exact Call.Keeps.ite ((put_keeps hP (by decide) _).bind fun _ => .pure _) (.pure _)

lemma upgradeCard_keeps (payload : JsonFields) : (upgradeCard runtime payload).Keeps P :=
  (defaultDict_keeps hP (by decide)).bind fun _ => .query _

theorem reduceUpgradeConfirmed_keeps (payload event : JsonFields) :
    (reduceUpgradeConfirmed runtime payload event).Keeps P := by
  unfold reduceUpgradeConfirmed
  refine (upgradeCard_keeps hP payload).bind fun card => ?_
  have hput : ∀ value, (do
      putIn "upgrades" (text runtime payload "card_id") value
      pure true : ReplayCall Bool).Keeps P :=
    fun value => (putIn_keeps hP (by decide) _ value).bind fun _ => .pure _
  exact Call.Keeps.ite (hput _) (Call.Keeps.ite (hput _) (.pure _))

theorem reduceUpgradeTerminal_keeps (eventType : PyStr) (payload event : JsonFields) :
    (reduceUpgradeTerminal runtime eventType payload event).Keeps P :=
  (upgradeCard_keeps hP payload).bind fun _ =>
    (putIn_keeps hP (by decide) _ _).bind fun _ => .pure _

theorem reduceProactiveDelivered_keeps (event : JsonFields) :
    (reduceProactiveDelivered runtime event).Keeps P := by
  unfold reduceProactiveDelivered
  refine (defaultDict_keeps hP (by decide)).bind fun scheduler => ?_
  refine .asked fun delivered => ?_
  refine (putInnerIf_keeps hP (by decide) _ _ _).bind fun _ => ?_
  exact (putInnerIf_keeps hP (by decide) _ _ _).bind fun _ => .pure _

theorem reduceSharePublished_keeps (event : JsonFields) :
    (reduceSharePublished runtime event).Keeps P := by
  unfold reduceSharePublished
  refine (defaultDict_keeps hP (by decide)).bind fun scheduler => ?_
  refine .asked fun shared => ?_
  refine (putInnerIf_keeps hP (by decide) _ _ _).bind fun _ => ?_
  exact (putInnerIf_keeps hP (by decide) _ _ _).bind fun _ => .pure _

theorem markMessage_keeps (flag : String) (f : JsonFields → JsonFields) (payload : JsonFields) :
    (markMessage runtime flag f payload).Keeps P := by
  unfold markMessage
  refine .asked fun _ => ?_
  refine .asked fun rows => ?_
  exact Call.Keeps.ite ((put_keeps hP (by decide) _).bind fun _ => .pure _) (.pure _)

end Frames

end JournalReplay

end Tiangong
