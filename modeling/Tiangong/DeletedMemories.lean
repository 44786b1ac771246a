import Tiangong.JournalFrames

/-!
# Deleted memories stay deleted

A replay that returns leaves the tombstone as the content of every memory that its journal deletes,
and no replay takes a tombstone away: merges add keys that are missing, and only the deletion itself
writes over a content.
-/
namespace Tiangong

namespace JournalReplay

open JsonFields Call

variable (runtime : ReplayRuntime)

/-- A row whose content is the tombstone. -/
def Entombed (row : JsonFields) : Prop :=
  ∃ content, row.lookup (py "content") = some content ∧ equal runtime content tombstone = true

/-- The content of a memory of the state is the tombstone. -/
def Tombstoned (memoryId : PyStr) (scope : JsonFields) : Prop :=
  ∃ row, (dictOf scope (py "memories")).lookup memoryId = some (.object row) ∧ Entombed runtime row

def Deletes (event : JsonFields) (memoryId : PyStr) : Prop :=
  text runtime event "event_type" = py "memory.deleted" ∧
    text runtime (mappingElse (PlatformJson.get event (py "payload"))) "memory_id" = memoryId

/-- The state after further replays, whether these return or raise. -/
def replayed (lifeId : PyStr) (scope : JsonFields) (journals : List (List JsonFields)) :
    JsonFields :=
  journals.foldl (fun scope events => ((replayJournalEvents runtime lifeId events).on scope).2) scope

variable {runtime} {memoryId : PyStr}

lemma tombstoned_ofMemories : OfMemories (Tombstoned runtime memoryId) := by
  intro scope scope' hmemories h
  obtain ⟨row, hrow, hcontent⟩ := h
  refine ⟨row, ?_, hcontent⟩
  unfold dictOf at hrow ⊢
  rwa [hmemories]

variable {row : JsonFields}

lemma entombed_put {key : PyStr} (h : Entombed runtime row)
    (hkey : key ≠ py "content") (value : PlatformJson) : Entombed runtime (row.put key value) := by
  obtain ⟨content, hcontent, htombstone⟩ := h
  refine ⟨content, ?_, htombstone⟩
  rwa [lookup_put_of_ne hkey]

lemma markStatus_keeps (status updatedAt : PyStr) :
    (markStatus status updatedAt).Keeps (Entombed runtime) := by
  have hput : ∀ {key}, key ≠ py "content" → ∀ value,
      (Call.modify fun row => put row key value :
        Call ReplayFault JsonFields Unit).Keeps (Entombed runtime) :=
    fun hkey value => Call.Keeps.modify fun row hrow => entombed_put hrow hkey value
  exact (hput (by decide) _).bind fun _ => hput (by decide) _

lemma tombstone_equal : equal runtime tombstone tombstone = true := rfl

lemma markDeleted_entombs (updatedAt : PyStr) (row : JsonFields) :
    Entombed runtime ((markDeleted updatedAt).on row).2 := by
  have hon : ((markDeleted updatedAt).on row).2 =
      ((row.put (py "status") (.text (py "deleted"))).put (py "content") tombstone).put
        (py "updated_at") (.text updatedAt) := rfl
  rw [hon]
  apply entombed_put _ (by decide)
  exact ⟨tombstone, lookup_put_self _ _ _, tombstone_equal⟩

lemma mergeProjection_keeps (skipped : PyStr → Bool) (code : String) (fields : JsonFields)
    {key : PyStr} {value : PlatformJson} :
    (mergeProjection runtime skipped code fields).Keeps fun row => row.lookup key = some value := by
  induction fields with
  | nil => exact .pure _
  | cons field rest ih =>
    obtain ⟨key', value'⟩ := field
    unfold mergeProjection
    refine Call.Keeps.ite ih ?_
    intro row hrow
    rw [on_bind, on_read]
    dsimp only [id]
    cases hold : row.lookup key' with
    | none =>
      have hne : key' ≠ key := by
        intro heq
        rw [heq, hrow] at hold
        cases hold
      have hput : (row.put key' value').lookup key = some value := by
        rwa [lookup_put_of_ne hne]
      exact Call.Keeps.bind ih (fun _ => .pure _) _ hput
    | some old => exact (Call.Keeps.asked fun _ => ih) row hrow

lemma mergeAssertedMemoryProjection_keeps (asserted : JsonFields) :
    (mergeAssertedMemoryProjection runtime asserted).Keeps (Entombed runtime) := by
  intro row hrow
  obtain ⟨content, hcontent, htombstone⟩ := hrow
  refine ⟨content, ?_, htombstone⟩
  have hmerge : (mergeAssertedMemoryProjection runtime asserted).Keeps
      fun row => row.lookup (py "content") = some content :=
    (Call.Keeps.read _).bind fun _ => mergeProjection_keeps _ _ asserted
  exact hmerge row hcontent

lemma dictOf_put_self (scope : JsonFields) (key : PyStr) (members : JsonFields) :
    dictOf (scope.put key (.object members)) key = members := by
  unfold dictOf
  rw [lookup_put_self]

variable {scope : JsonFields}

/-- Work on a row that leaves a tombstone as its content. -/
lemma withinRow_entombs {α : Type} {x : Call ReplayFault JsonFields α}
    (hrow : (dictOf scope (py "memories")).lookup memoryId = some (.object row))
    (hx : Entombed runtime (x.on row).2) :
    Tombstoned runtime memoryId ((withinRow "memories" memoryId x).on scope).2 := by
  have hold : dictOf (dictOf scope (py "memories")) memoryId = row := by
    rw [dictOf, hrow]
  refine ⟨(x.on row).2, ?_, hx⟩
  rw [withinRow, on_within, dictOf_put_self, hold, lookup_put_self]

lemma withinRow_keeps {α : Type} (target : PyStr) {x : Call ReplayFault JsonFields α}
    (hx : x.Keeps (Entombed runtime)) :
    (withinRow "memories" target x).Keeps (Tombstoned runtime memoryId) := by
  intro scope hscope
  obtain ⟨row, hrow, hcontent⟩ := hscope
  by_cases htarget : target = memoryId
  · subst htarget
    exact withinRow_entombs hrow (hx row hcontent)
  · refine ⟨row, ?_, hcontent⟩
    rwa [withinRow, on_within, dictOf_put_self, lookup_put_of_ne htarget]

lemma memoryTarget_keeps (target : PyStr) :
    (memoryTarget target).Keeps (Tombstoned runtime memoryId) :=
  .asked fun _ => .query _

lemma scopeDict_tombstoned (h : Tombstoned runtime memoryId scope) :
    (scopeDict "memories").on scope = (.ok (dictOf scope (py "memories")), scope) := by
  obtain ⟨row, hrow, -⟩ := h
  rw [scopeDict, on_query]
  unfold dictOf at hrow ⊢
  split at hrow
  · rename_i members hmembers
    rw [hmembers]
  · cases hrow

lemma assertMemory_keeps (target : PyStr) (record : JsonFields) :
    (assertMemory runtime target record).Keeps (Tombstoned runtime memoryId) := by
  intro scope hscope
  unfold assertMemory
  rw [on_bind_of_ok (scopeDict_tombstoned hscope)]
  split
  · rename_i hnull
    obtain ⟨row, hrow, hcontent⟩ := hscope
    have hne : target ≠ memoryId := by
      intro heq
      rw [heq, PlatformJson.get, hrow] at hnull
      cases hnull
    refine ⟨row, ?_, hcontent⟩
    change (dictOf (put scope _ _) _).lookup memoryId = _
    rwa [dictOf_put_self, lookup_put_of_ne hne]
  · exact withinRow_keeps target (mergeAssertedMemoryProjection_keeps record) scope hscope
  · exact hscope

lemma correctTarget_keeps (payload record event : JsonFields) :
    (correctTarget runtime payload record event).Keeps (Tombstoned runtime memoryId) := by
  refine Call.Keeps.ite ((memoryTarget_keeps _).bind fun target => ?_) (.pure _)
  refine Call.Keeps.ite (.pure _) ?_
  exact (withinRow_keeps _ (markStatus_keeps _ _)).bind fun _ => .pure _

lemma reduceMemoryAsserted_keeps (lifeId : PyStr) (payload event : JsonFields) :
    (reduceMemoryAsserted runtime lifeId payload event).Keeps (Tombstoned runtime memoryId) := by
  refine .asked fun assertion => ?_
  refine .asked fun _ => ?_
  refine (assertMemory_keeps _ _).bind fun changed => ?_
  exact (correctTarget_keeps _ _ _).bind fun _ => .pure _

lemma reduceMemoryStatus_keeps (payload event : JsonFields) :
    (reduceMemoryStatus runtime payload event).Keeps (Tombstoned runtime memoryId) := by
  refine (memoryTarget_keeps _).bind fun row => ?_
  refine Call.Keeps.ite (.pure _) ?_
  exact (withinRow_keeps _ (markStatus_keeps _ _)).bind fun _ => .pure _

lemma reduceMemoryDeleted_keeps (payload event : JsonFields) :
    (reduceMemoryDeleted runtime payload event).Keeps (Tombstoned runtime memoryId) := by
  refine (memoryTarget_keeps _).bind fun row => ?_
  refine Call.Keeps.ite (.pure _) ?_
  have hmark : ∀ updatedAt, (markDeleted updatedAt).Keeps (Entombed runtime) :=
    fun updatedAt row _ => markDeleted_entombs updatedAt row
  exact (withinRow_keeps _ (hmark _)).bind fun _ => .pure _

variable {scope' : JsonFields}

lemma memoryTarget_of_ok {target : PyStr}
    (h : (memoryTarget target).on scope = (.ok row, scope')) :
    scope' = scope ∧ (dictOf scope (py "memories")).lookup target = some (.object row) := by
  unfold memoryTarget scopeDict at h
  rw [on_bind, on_query] at h
  cases hmemories : scope.lookup (py "memories") with
  | none => simp [hmemories] at h
  | some value =>
    cases value <;> simp only [hmemories, on_query, Prod.mk.injEq, reduceCtorEq, false_and] at h
    rename_i members
    obtain ⟨hrow, rfl⟩ := h
    refine ⟨rfl, ?_⟩
    rw [dictOf, hmemories]
    unfold PlatformJson.get at hrow
    cases hvalue : members.lookup target with
    | none => simp [hvalue, requireMapping] at hrow
    | some value =>
      cases value <;> simp [hvalue, requireMapping] at hrow
      rw [hrow]

variable {event : JsonFields} {changed : Bool}

/-- A deletion that returns leaves the tombstone. -/
lemma reduceMemoryDeleted_entombs {payload : JsonFields}
    (h : (reduceMemoryDeleted runtime payload event).on scope = (.ok changed, scope')) :
    Tombstoned runtime (text runtime payload "memory_id") scope' := by
  unfold reduceMemoryDeleted at h
  dsimp only at h
  rw [on_bind] at h
  rcases htarget : (memoryTarget (text runtime payload "memory_id")).on scope with ⟨e | row, t⟩
  · simp [htarget] at h
  · obtain ⟨rfl, hrow⟩ := memoryTarget_of_ok htarget
    rw [htarget] at h
    dsimp only at h
    split at h
    · rename_i hdeleted
      obtain ⟨-, rfl⟩ := Prod.mk.inj h
      refine ⟨row, hrow, ?_⟩
      unfold Entombed
      have hcontent := hdeleted.2
      unfold PlatformJson.get at hcontent
      cases hvalue : row.lookup (py "content") with
      | none =>
        rw [hvalue] at hcontent
        cases hcontent
      | some content =>
        rw [hvalue] at hcontent
        exact ⟨content, rfl, hcontent⟩
    · obtain ⟨-, rfl⟩ := Prod.mk.inj h
      exact withinRow_entombs hrow (markDeleted_entombs _ row)

lemma reducers_keep (lifeId : PyStr) : ∀ entry ∈ reducers runtime lifeId,
    ∀ payload event, (entry.2 payload event).Keeps (Tombstoned runtime memoryId) := by
  have hP : OfMemories (Tombstoned runtime memoryId) := tombstoned_ofMemories
  unfold reducers
  simp only [List.forall_mem_cons]
  exact ⟨reduceMemoryAsserted_keeps lifeId, reduceMemoryAsserted_keeps lifeId,
    reduceMemoryStatus_keeps, reduceMemoryDeleted_keeps,
    fun payload _ => reduceMemoryRelation_keeps hP payload,
    fun payload _ => reduceMemoryCandidates_keeps hP payload,
    fun payload _ => reduceTaskGenerated_keeps hP payload,
    fun payload _ => reduceTaskStatus_keeps hP payload,
    fun payload _ => reduceExecutionCommitted_keeps hP payload,
    fun payload _ => reduceCapabilityLifecycle_keeps hP _ payload,
    fun payload _ => reduceCapabilityLifecycle_keeps hP _ payload,
    fun payload _ => reduceCapabilityLifecycle_keeps hP _ payload,
    fun payload _ => reduceCapabilityLifecycle_keeps hP _ payload,
    fun payload _ => reduceCapabilityLifecycle_keeps hP _ payload,
    fun payload _ => reduceCapabilityLifecycle_keeps hP _ payload,
    fun payload _ => reduceCapabilityPatchProposed_keeps hP payload,
    reduceCapabilityExecuted_keeps hP, reduceCapabilityOutcome_keeps hP,
    fun payload _ => reduceLearningCard_keeps hP payload,
    fun payload _ => reduceLearningCard_keeps hP payload,
    fun payload _ => reduceLearningCard_keeps hP payload,
    fun payload _ => reduceLearningCard_keeps hP payload,
    fun payload _ => reduceLearningPublished_keeps hP payload,
    fun payload _ => reduceLegacyMigration_keeps hP payload,
    fun payload _ => reduceLegacyUsageWindow_keeps hP payload,
    fun payload _ => reduceLegacyUsageCoverage_keeps hP payload,
    fun payload _ => reduceLegacyUsage_keeps hP payload,
    fun payload _ => reduceUpgradeCreated_keeps hP payload,
    fun payload _ => reduceUpgradeCancelled_keeps hP payload,
    reduceUpgradeConfirmed_keeps hP, reduceUpgradeTerminal_keeps hP _,
    reduceUpgradeTerminal_keeps hP _,
    fun _ event => reduceProactiveDelivered_keeps hP event,
    fun payload _ => markMessage_keeps hP _ _ payload,
    fun payload _ => markMessage_keeps hP _ _ payload,
    fun _ event => reduceSharePublished_keeps hP event, by simp⟩

lemma replayEvent_keeps (lifeId : PyStr) (event : JsonFields) :
    (replayEvent runtime lifeId event).Keeps (Tombstoned runtime memoryId) := by
  refine Call.Keeps.ite (.pure _) ?_
  cases hreducer : (reducers runtime lifeId).lookup (text runtime event "event_type") with
  | none => exact .query _
  | some reducer =>
    obtain ⟨before, after, hsplit, -⟩ := List.lookup_eq_some_iff.mp hreducer
    have hmem : (text runtime event "event_type", reducer) ∈ reducers runtime lifeId := by
      rw [hsplit]
      simp
    exact .asked fun payload => reducers_keep lifeId _ hmem payload event

lemma replayJournalEvents_keeps (lifeId : PyStr) (events : List JsonFields) :
    (replayJournalEvents runtime lifeId events).Keeps (Tombstoned runtime memoryId) := by
  induction events with
  | nil => exact .pure _
  | cons event events ih =>
    exact (replayEvent_keeps lifeId event).bind fun _ => ih.bind fun _ => .pure _

lemma replayed_keeps (lifeId : PyStr) (journals : List (List JsonFields))
    (h : Tombstoned runtime memoryId scope) :
    Tombstoned runtime memoryId (replayed runtime lifeId scope journals) := by
  unfold replayed
  induction journals generalizing scope with
  | nil => exact h
  | cons events journals ih => exact ih (replayJournalEvents_keeps lifeId events scope h)

lemma replayEvent_entombs {lifeId : PyStr} (hdeletes : Deletes runtime event memoryId)
    (h : (replayEvent runtime lifeId event).on scope = (.ok changed, scope')) :
    Tombstoned runtime memoryId scope' := by
  obtain ⟨htype, hid⟩ := hdeletes
  have haudit : py "memory.deleted" ∉ auditOnly := by decide
  have hreducer : (reducers runtime lifeId).lookup (py "memory.deleted") =
      some (reduceMemoryDeleted runtime) := rfl
  unfold replayEvent at h
  dsimp only at h
  rw [htype, if_neg haudit, hreducer] at h
  dsimp only at h
  rw [on_bind, on_query] at h
  cases hpayload : PlatformJson.get event (py "payload") with
  | object payload =>
    rw [hpayload] at h hid
    subst hid
    exact reduceMemoryDeleted_entombs h
  | _ => simp [hpayload, requireMapping] at h

lemma replayJournalEvents_entombs {lifeId : PyStr} {events : List JsonFields} (hevent : event ∈ events)
    (hdeletes : Deletes runtime event memoryId)
    (h : (replayJournalEvents runtime lifeId events).on scope = (.ok changed, scope')) :
    Tombstoned runtime memoryId scope' := by
  induction events generalizing scope changed with
  | nil => cases hevent
  | cons first events ih =>
    unfold replayJournalEvents at h
    rw [on_bind] at h
    rcases hfirst : (replayEvent runtime lifeId first).on scope with ⟨e | changed₁, t⟩
    · simp [hfirst] at h
    · rw [hfirst] at h
      dsimp only at h
      have hlater : (do
          let more ← replayJournalEvents runtime lifeId events
          pure (changed₁ || more) : ReplayCall Bool).Keeps (Tombstoned runtime memoryId) :=
        (replayJournalEvents_keeps lifeId events).bind fun _ => .pure _
      have hkept := hlater t
      rw [h] at hkept
      rcases List.mem_cons.mp hevent with rfl | hrest
      · exact hkept (replayEvent_entombs hdeletes hfirst)
      · rw [on_bind] at h
        rcases hmore : (replayJournalEvents runtime lifeId events).on t with ⟨e | more, u⟩
        · simp [hmore] at h
        · rw [hmore] at h
          obtain ⟨-, rfl⟩ := Prod.mk.inj h
          exact ih hrest hmore

/-- After a replay that returns, the content of every memory that the journal deletes is the
tombstone, and stays so in further replays of whatever journals. -/
theorem deleted_stays_deleted (runtime : ReplayRuntime) (lifeId memoryId : PyStr)
    (scope scope' : JsonFields) (events : List JsonFields) (event : JsonFields) (changed : Bool)
    (hevent : event ∈ events) (hdeletes : Deletes runtime event memoryId)
    (hreplay : (replayJournalEvents runtime lifeId events).on scope = (.ok changed, scope')) :
    Tombstoned runtime memoryId scope' ∧ ∀ journals,
      Tombstoned runtime memoryId (replayed runtime lifeId scope' journals) := by
  have hdeleted := replayJournalEvents_entombs hevent hdeletes hreplay
  exact ⟨hdeleted, fun journals => replayed_keeps lifeId journals hdeleted⟩

/-- A disk without bundles, and texts that are their own digests. -/
def bareRuntime : ReplayRuntime where
  floatValue _ := 0
  floatText literal := literal
  shown _ := py "None"
  isoMs _ := 0
  intOfText _ := none
  digest text := text
  bundleArtifact _ := none

def eventOf (eventType : String) (payload : JsonFields) : JsonFields :=
  [(py "event_type", .text (py eventType)), (py "payload", .object payload)]

/-- A memory is asserted, deleted and made active again. -/
def revived : List JsonFields :=
  [eventOf "memory.asserted" [(py "assertion", .object
      [(py "memory_id", .text (py "m1")), (py "content", .text (py "secret"))])],
    eventOf "memory.deleted" [(py "memory_id", .text (py "m1"))],
    eventOf "memory.status_changed"
      [(py "memory_id", .text (py "m1")), (py "status", .text (py "active"))]]

def emptyScope : JsonFields := [(py "memories", .object [])]

def revivedScope : JsonFields :=
  ((replayJournalEvents bareRuntime (py "life") revived).on emptyScope).2

lemma revived_replays : (replayJournalEvents bareRuntime (py "life") revived).on emptyScope =
    (.ok true, revivedScope) := rfl

theorem deleted_stays_deleted_revived : Tombstoned bareRuntime (py "m1") revivedScope ∧
    ∀ journals, Tombstoned bareRuntime (py "m1")
      (replayed bareRuntime (py "life") revivedScope journals) :=
  deleted_stays_deleted bareRuntime (py "life") (py "m1") emptyScope revivedScope revived
    (eventOf "memory.deleted" [(py "memory_id", .text (py "m1"))]) true
    (by simp [revived]) ⟨rfl, rfl⟩ revived_replays

end JournalReplay

end Tiangong
