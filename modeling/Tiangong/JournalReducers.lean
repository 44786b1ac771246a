import Tiangong.JournalReplay

/-!
# Replay of the journal: capabilities, learning, upgrades and messages

The reducers of the other families, the registry of event types, and the replay of a list of events.
-/
namespace Tiangong

namespace JournalReplay

open PlatformJson Call

variable (runtime : ReplayRuntime)

def truthy (value : PlatformJson) : Bool := value.truthy runtime.toJsonRuntime

/-- `int(value or 0)`. -/
def intOr (value : PlatformJson) : Except ReplayFault ℤ :=
  if truthy runtime value then
    match value with
    | .int n => .ok n
    | .flag _ => .ok 1
    | .real literal => .ok
      (if 0 ≤ runtime.floatValue literal then (runtime.floatValue literal).floor
        else (runtime.floatValue literal).ceil)
    | .text s => required (runtime.intOfText s) (.raised "ValueError")
    | _ => .error (.raised "TypeError")
  else .ok 0

/-- `id in value`, where a missing value is an empty dictionary. -/
def hasMember (value : Option PlatformJson) (id : PyStr) : Except ReplayFault Bool :=
  match value with
  | none => .ok false
  | some (.object fields) => .ok (fields.lookup id).isSome
  | some (.array items) => .ok (items.any fun item => equal runtime item (.text id))
  | some (.text s) => .ok (s.tails.any id.isPrefixOf)
  | some _ => .error (.raised "TypeError")

/-- `value or {}` as a dictionary. -/
def mappingOr (value : PlatformJson) : Except ReplayFault JsonFields :=
  if truthy runtime value then requireMapping value "" |>.mapError fun _ => .raised "ValueError"
  else .ok []

/-- `value if isinstance(value, Mapping) else {}`. -/
def mappingElse (value : PlatformJson) : JsonFields :=
  match value with
  | .object fields => fields
  | _ => []

/-- A value is set under a key of a dictionary of the state unless the same one is there. -/
def assign (key : String) (entries : JsonFields) (id : PyStr) (value : PlatformJson) :
    ReplayCall Bool :=
  match get entries id with
  | .null => do
    putIn key id value
    pure true
  | existing =>
    if same runtime existing value = true then pure false
    else do
      putIn key id value
      pure true

def assignCapabilityPointer (payload : JsonFields) : ReplayCall Bool := do
  let pointer ← query fun _ => requireMapping (get payload (py "pointer"))
    "life.projection.capability_pointer_invalid"
  let lineageId := text runtime pointer "lineage_id"
  query fun _ =>
    rejectIf (lineageId = []) (.replay "life.projection.capability_pointer_invalid")
  let pointers ← defaultDict "capability_pointers"
  assign runtime "capability_pointers" pointers lineageId (.object pointer)

/-- `scope["capabilities"].pop(artifact_id, None)`. -/
def popCapability (artifactId : PyStr) : ReplayCall Unit := do
  let capabilities : JsonFields ← query fun scope =>
    match scope.lookup (py "capabilities") with
    | some (.object fields) => .ok fields
    | some (.array _) => .error (.raised "TypeError")
    | _ => .error (.raised "AttributeError")
  Call.modify fun scope =>
    scope.put (py "capabilities") (.object (JsonFields.remove capabilities artifactId))

def disableCapability (eventType artifactId : PyStr) : ReplayCall Bool :=
  if eventType = py "capability.disabled" ∧ artifactId ≠ [] then do
    let present ← query fun scope =>
      hasMember runtime (scope.lookup (py "capabilities")) artifactId
    if present = true then do
      popCapability artifactId
      pure true
    else pure false
  else pure false

def reduceCapabilityLifecycle (eventType : PyStr) (payload : JsonFields) : ReplayCall Bool := do
  let changed ← assignCapabilityPointer runtime payload
  let disabled ← disableCapability runtime eventType (text runtime payload "artifact_id")
  pure (changed || disabled)

/-- The artifact of a patch is registered if it is not yet and its bundle still holds it. -/
def restorePatched (payload : JsonFields) (patchedId : PyStr) (present : Bool) : ReplayCall Bool :=
  match runtime.bundleArtifact (text runtime payload "bundle_path") with
  | none => pure false
  | some artifact =>
    if present = false ∧ artifact ≠ [] ∧ text runtime artifact "artifact_id" = patchedId then do
      let _ ← query fun scope =>
        match scope.lookup (py "capabilities") with
        | some (.object fields) => .ok fields
        | none => .error (.raised "KeyError")
        | some _ => .error (.raised "TypeError")
      putIn "capabilities" patchedId (.object
        ((artifact.put (py "origin") (.text (py "life_patch"))).put (py "patch_of")
          (.text (text runtime payload "artifact_id"))))
      pure true
    else pure false

def reduceCapabilityPatchProposed (payload : JsonFields) : ReplayCall Bool := do
  let changed ← assignCapabilityPointer runtime payload
  let patchedId := text runtime payload "patched_artifact_id"
  if patchedId = [] then pure changed
  else do
    let present ← query fun scope =>
      hasMember runtime (scope.lookup (py "capabilities")) patchedId
    let restored ← restorePatched runtime payload patchedId present
    pure (changed || restored)

/-- `_text` of the health of a capability. -/
def healthText (value : PyStr) : Except ReplayFault PyStr := do
  rejectIf (160 < value.strip.utf8Length) (.raised "ValueError")
  pure value.strip

/-- `list(value or [])`. -/
def listOr (value : PlatformJson) : Except ReplayFault (List PlatformJson) :=
  if truthy runtime value then
    match value with
    | .array items => .ok items
    | .text s => .ok (s.map fun c => .text [c])
    | .object fields => .ok (fields.map fun field => .text field.1)
    | _ => .error (.raised "TypeError")
  else .ok []

def refreshPointerSha256 (pointer : JsonFields) : JsonFields :=
  pointer.put (py "pointer_sha256") (.text (runtime.digest
    ((object (pointer.remove (py "pointer_sha256"))).dumps runtime.toJsonRuntime)))

/-- A counter goes up by one. -/
def bump (health : JsonFields) (key : String) : Except ReplayFault JsonFields := do
  let n ← intOr runtime (get health (py key))
  pure (health.put (py key) (.int (n + 1)))

def countOutcome (health : JsonFields) (success : Bool) (occurredMs : ℤ) :
    Except ReplayFault JsonFields := do
  let used ← bump runtime health "uses"
  if success = true then do
    let counted ← bump runtime used "successes"
    let streak ← bump runtime (counted.put (py "consecutive_failures") (.int 0)) "success_streak"
    pure (streak.put (py "last_success_at_ms") (.int occurredMs))
  else do
    let counted ← bump runtime used "failures"
    let failed ← bump runtime counted "consecutive_failures"
    pure (failed.put (py "success_streak") (.int 0))

def asksForPatch (health : JsonFields) (success : Bool) : Except ReplayFault Bool := do
  let failures ← intOr runtime (get health (py "consecutive_failures"))
  if success = true ∨ failures < 3 ∨ truthy runtime (get health (py "patch_pending"))
  then pure false
  else do
    let rounds ← intOr runtime (get health (py "patch_rounds"))
    pure (rounds < 2)

def ingestOutcome (pointer : JsonFields) (outcomeId artifactId : PyStr) (success : Bool)
    (occurredMs : ℤ) : Except ReplayFault (JsonFields × String) := do
  let nowMs := if occurredMs = 0 then 1 else occurredMs
  rejectIf (nowMs < 0) (.raised "ValueError")
  if text runtime pointer "status" ∉ [py "active", py "patch_verifying"] then
    pure (pointer, "not_active")
  else do
    let outcomeId ← healthText outcomeId
    rejectIf (outcomeId = []) (.raised "ValueError")
    let artifactId ← healthText artifactId
    let health ← mappingOr runtime (get pointer (py "health"))
    rejectIf (equal runtime (get health (py "schema"))
      (.text (py "tiangong.life.capability-health.v1")) = false) (.raised "ValueError")
    let seen ← listOr runtime (get health (py "seen_outcome_ids"))
    if seen.any fun item => equal runtime item (.text outcomeId) then pure (pointer, "duplicate")
    else if artifactId ≠ text runtime pointer "current_artifact_id" then
      pure (pointer, "stale_version")
    else do
      let counted ← countOutcome runtime health success nowMs
      let kept := seen ++ [.text outcomeId]
      let health := (counted.put (py "seen_outcome_ids")
        (.array (kept.drop (kept.length - 200)))).put (py "last_outcome_at_ms") (.int nowMs)
      let asks ← asksForPatch runtime health success
      pure (refreshPointerSha256 runtime (pointer.put (py "health") (.object health)),
        if asks = true then "consecutive_failures" else "recorded")

def currentPointer (pointers : JsonFields) (artifactId : PyStr) : Option (PyStr × JsonFields) :=
  pointers.findSome? fun (lineageId, pointer) =>
    match pointer with
    | .object fields =>
      if text runtime fields "current_artifact_id" = artifactId then some (lineageId, fields)
      else none
    | _ => none

/-- `scope.get(key, {}).items()`. -/
def itemsOf (key : String) : ReplayCall JsonFields :=
  query fun scope =>
    match scope.lookup (py key) with
    | none => .ok []
    | some (.object fields) => .ok fields
    | some _ => .error (.raised "AttributeError")

def ingestPointerOutcome (artifactId outcomeId outcome : PyStr) (event : JsonFields) :
    ReplayCall Bool := do
  query fun _ => rejectIf (outcome ∉ [py "success", py "failure"])
    (.replay "life.projection.capability_outcome_invalid")
  let pointers ← itemsOf "capability_pointers"
  match currentPointer runtime pointers artifactId with
  | none => pure false
  | some (lineageId, pointer) => do
    let ingested ← query fun _ => ingestOutcome runtime pointer outcomeId artifactId
      (outcome = py "success") (eventMs runtime event)
    if ingested.2 = "recorded" ∨ ingested.2 = "request_patch" then do
      putIn "capability_pointers" lineageId (.object ingested.1)
      pure true
    else pure false

def reduceCapabilityExecuted (payload event : JsonFields) : ReplayCall Bool := do
  let execution ← query fun _ => requireMapping (get payload (py "execution"))
    "life.projection.capability_execution_invalid"
  let executionId := text runtime execution "execution_id"
  query fun _ =>
    rejectIf (executionId = []) (.replay "life.projection.capability_execution_invalid")
  let executions ← defaultDict "executions"
  let changed ← assign runtime "executions" executions executionId (.object execution)
  let outcome := if text runtime execution "status" = py "completed" then py "success"
    else py "failure"
  let ingested ← ingestPointerOutcome runtime (text runtime execution "artifact_id") executionId
    outcome event
  pure (changed || ingested)

/-- `text.rsplit(":", 1)[-1]`. -/
def afterLastColon (s : PyStr) : PyStr :=
  (s.reverse.takeWhile fun c => c ≠ CodePoint.ofChar ':').reverse

def reduceCapabilityOutcome (payload event : JsonFields) : ReplayCall Bool := do
  let artifactId := text runtime payload "artifact_id"
  let outcomeId := afterLastColon (text runtime event "idempotency_key")
  query fun _ => rejectIf (artifactId = [] ∨ outcomeId = [])
    (.replay "life.projection.capability_outcome_invalid")
  ingestPointerOutcome runtime artifactId outcomeId (text runtime payload "outcome") event

def reduceLearningCard (payload : JsonFields) : ReplayCall Bool := do
  let card ← query fun _ => requireMapping (get payload (py "learning"))
    "life.projection.learning_event_invalid"
  let learningId := text runtime card "learning_id"
  query fun _ => rejectIf (learningId = []) (.replay "life.projection.learning_event_invalid")
  let learning ← checkedDict "learning" "life.projection.learning_event_invalid"
  assign runtime "learning" learning learningId (.object card)

def publishedEntry (artifact publication : JsonFields) : String × JsonFields :=
  if text runtime artifact "kind" ∈ [py "skill", py "tool"] then
    ("capabilities", (artifact.put (py "origin") (.text (py "life_learning"))).put
      (py "publication") (.object publication))
  else
    ("knowledge", (artifact.put (py "knowledge_document_id")
      (.text (text runtime publication "knowledge_document_id"))).put (py "publication")
        (.object publication))

/-- The artifact of a published card is entered. -/
def enterPublished (payload artifact : JsonFields) : ReplayCall Bool :=
  if truthy runtime (get artifact (py "artifact_id")) = true then do
    let card := mappingElse (get payload (py "learning"))
    let execution := mappingElse (get card (py "execution"))
    let publication := mappingElse (get execution (py "publication"))
    let entry := publishedEntry runtime artifact publication
    let store ← defaultDict entry.1
    assign runtime entry.1 store (text runtime artifact "artifact_id") (.object entry.2)
  else pure false

def reduceLearningPublished (payload : JsonFields) : ReplayCall Bool := do
  let changed ← reduceLearningCard runtime payload
  let entered ← enterPublished runtime payload
    (mappingElse (get payload (py "artifact")))
  pure (changed || entered)

def migrationSchema : PyStr := py "tiangong.life.legacy-learning-migration.v1"

def usageSchema : PyStr := py "tiangong.life.legacy-learning-usage.v1"

def usageWindowSchema : PyStr := py "tiangong.life.legacy-learning-usage-window.v1"

def usageCoverageSchema : PyStr := py "tiangong.life.legacy-learning-usage-coverage.v1"

/-- `R3A_LEGACY_MUTATION_ENTRYPOINTS`, in the order of their paths. -/
def r3aEntrypoints : List (PyStr × PyStr) :=
  [(py "/api/v1/v3/learning/activate", py "learning_publication"),
    (py "/api/v1/v3/learning/confirm", py "learning_publication"),
    (py "/api/v1/v3/learning/process-approved", py "learning_publication"),
    (py "/api/v1/v3/learning/release", py "learning_publication"),
    (py "/api/v1/v3/learning/request-activation", py "learning_publication"),
    (py "/api/v1/v3/life/capability/activate", py "capability_activation"),
    (py "/api/v1/v3/life/capability/approve", py "capability_publication"),
    (py "/api/v1/v3/life/capability/build", py "capability_publication"),
    (py "/api/v1/v3/life/capability/patch/propose", py "capability_patch"),
    (py "/api/v1/v3/life/capability/patch/verify", py "capability_patch"),
    (py "/api/v1/v3/life/capability/propose", py "capability_publication"),
    (py "/api/v1/v3/life/capability/publish", py "capability_publication"),
    (py "/api/v1/v3/life/capability/reactivate", py "capability_activation"),
    (py "/api/v1/v3/life/capability/rollback", py "capability_activation")]

/-- `LEGACY_MUTATION_ENTRYPOINTS`. -/
def legacyEntrypoints : List (PyStr × PyStr) :=
  r3aEntrypoints ++
    [(py "v3.duihua_qiaojie.legacy_learning_callbacks", py "learning_compatibility"),
      (py "v3.jineng.jirou_ceng._xuexi_liucheng", py "learning_compatibility"),
      (py "v3.zhili.nengli_zhuche.raw_registry_compatibility", py "registry_compatibility"),
      (py "v3.l0_ability_projection.legacy_projection", py "projection_compatibility")]

/-- `scope[key]`, a dictionary that is there or made with these members. -/
def stateDict (key : String) (members : JsonFields) : ReplayCall JsonFields := do
  Call.modify fun scope => scope.default (py key) (.object members)
  scopeDict key

/-- A member of such a dictionary, made empty if it is missing. -/
def innerDict (key inner fault : String) : ReplayCall JsonFields := do
  Call.modify fun scope =>
    scope.put (py key) (.object ((dictOf scope (py key)).default (py inner) (.object [])))
  Call.query fun scope =>
    match (dictOf scope (py key)).lookup (py inner) with
    | some (.object fields) => .ok fields
    | _ => .error (.raised fault)

/-- `scope[key][inner] = value`. -/
def putInner (key : String) (inner : String) (value : PlatformJson) : ReplayCall Unit :=
  Call.modify fun scope =>
    scope.put (py key) (.object ((dictOf scope (py key)).put (py inner) value))

def applyMigrationRecord (row : JsonFields) : ReplayCall Bool := do
  let family := text runtime row "record_family"
  let recordId := text runtime row "record_id"
  let digest := text runtime row "record_sha256"
  query fun _ => rejectIf
    (equal runtime (get row (py "schema")) (.text migrationSchema) = false ∨
      family = [] ∨ recordId = [] ∨ digest.length ≠ 64)
    (.replay "life.learning.legacy_migration_invalid")
  let _ ← stateDict "legacy_learning_migration"
    [(py "schema", .text migrationSchema), (py "records", .object [])]
  let records ← innerDict "legacy_learning_migration" "records" "AttributeError"
  let key := family ++ .ofChar ':' :: recordId
  if (get records key).equal runtime.toJsonRuntime (.object row) then pure false
  else do
    putInner "legacy_learning_migration" "records" (.object (records.put key (.object row)))
    pure true

def reduceLegacyMigration (payload : JsonFields) : ReplayCall Bool := do
  let row ← query fun _ => requireMapping (get payload (py "migration"))
    "life.projection.legacy_migration_invalid"
  applyMigrationRecord runtime row

/-- The usage state that is made at some time. -/
def freshUsage (startedAtMs : ℤ) (coverage : JsonFields) : JsonFields :=
  [(py "schema", .text usageSchema), (py "observation_started_at_ms", .int startedAtMs),
    (py "last_observed_at_ms", .int 0), (py "total_calls", .int 0),
    (py "by_entrypoint", .object []), (py "by_workload_class", .object []),
    (py "coverage_started_at_ms", .object coverage)]

/-- An integer that is not negative, of the type itself. -/
def plainInt (value : PlatformJson) (least : ℤ) (code : String) : Except ReplayFault ℤ :=
  match value with
  | .int n => if n < least then .error (.replay code) else .ok n
  | _ => .error (.replay code)

/-- `canonical_sha256(tuple(sorted(R3A_LEGACY_MUTATION_ENTRYPOINTS)))`. -/
def expectedCoverage : PyStr :=
  runtime.digest
    ((array (r3aEntrypoints.map fun e => .text e.1)).dumps runtime.toJsonRuntime)

/-- The paths that are not covered yet are covered from now on. -/
def coverPaths (startedAtMs : ℤ) : ReplayCall Bool := do
  let coverage ← innerDict "legacy_learning_usage" "coverage_started_at_ms" "TypeError"
  let missing := r3aEntrypoints.filter fun e => (coverage.lookup e.1).isNone
  putInner "legacy_learning_usage" "coverage_started_at_ms" (.object
    (missing.foldl (fun coverage e => JsonFields.put coverage e.1 (.int startedAtMs)) coverage))
  pure (!missing.isEmpty)

def applyUsageWindow (window : JsonFields) : ReplayCall Bool := do
  let code := "life.learning.legacy_usage_window_invalid"
  query fun _ => rejectIf
    (equal runtime (get window (py "schema")) (.text usageWindowSchema) = false)
    (.replay code)
  let startedAtMs ← query fun _ =>
    plainInt (get window (py "started_at_ms")) 0 code
  query fun _ => rejectIf (equal runtime (get window (py "coverage_sha256"))
    (.text (expectedCoverage runtime)) = false) (.replay code)
  let state ← stateDict "legacy_learning_usage"
    (freshUsage startedAtMs (r3aEntrypoints.map fun e => (e.1, .int startedAtMs)))
  query fun _ => rejectIf
    (equal runtime (get state (py "schema")) (.text usageSchema) = false)
    (.replay "life.learning.legacy_usage_projection_invalid")
  let current ← query fun _ =>
    intOr runtime (get state (py "observation_started_at_ms"))
  query fun _ => rejectIf (current ≠ 0 ∧ current ≠ startedAtMs)
    (.replay "life.learning.legacy_usage_window_conflict")
  if current = 0 then do
    putInner "legacy_learning_usage" "observation_started_at_ms" (.int startedAtMs)
    let _ ← coverPaths startedAtMs
    pure true
  else coverPaths startedAtMs

def reduceLegacyUsageWindow (payload : JsonFields) : ReplayCall Bool := do
  let window ← query fun _ => requireMapping (get payload (py "window"))
    "life.projection.legacy_usage_window_invalid"
  applyUsageWindow runtime window

/-- The entry points of a coverage, which are sorted, known and some. -/
def coverageEntries (value : PlatformJson) (code : String) : Except ReplayFault (List PyStr) := do
  let items ← requireList value code
  let entries ← items.mapM fun item =>
    match item with
    | .text s => .ok s
    | _ => .error (.replay code)
  rejectIf (entries = [] ∨ entries ≠ sortedSet entries ∨
    (entries.all fun e => (legacyEntrypoints.lookup e).isSome) = false) (.replay code)
  pure entries

/-- The loop over the entry points of a coverage. -/
def coverEntries (startedAtMs : ℤ) : List PyStr → ReplayCall Bool
  | [] => pure false
  | entry :: rest => do
    let coverage ← read fun scope =>
      dictOf (dictOf scope (py "legacy_learning_usage")) (py "coverage_started_at_ms")
    match get coverage entry with
    | .null => do
      putInner "legacy_learning_usage" "coverage_started_at_ms"
        (.object (coverage.put entry (.int startedAtMs)))
      let _ ← coverEntries startedAtMs rest
      pure true
    | existing => do
      let _ ← query fun _ =>
        plainInt existing 0 "life.learning.legacy_usage_coverage_invalid"
      coverEntries startedAtMs rest

def applyUsageCoverage (payload : JsonFields) : ReplayCall Bool := do
  let code := "life.learning.legacy_usage_coverage_invalid"
  query fun _ => rejectIf
    (equal runtime (get payload (py "schema")) (.text usageCoverageSchema) = false)
    (.replay code)
  let startedAtMs ← query fun _ =>
    plainInt (get payload (py "started_at_ms")) 0 code
  let entries ← query fun _ =>
    coverageEntries (get payload (py "entrypoints")) code
  let state ← stateDict "legacy_learning_usage" (freshUsage startedAtMs [])
  query fun _ => rejectIf
    (equal runtime (get state (py "schema")) (.text usageSchema) = false)
    (.replay "life.learning.legacy_usage_projection_invalid")
  let _ ← innerDict "legacy_learning_usage" "coverage_started_at_ms" "AttributeError"
  coverEntries startedAtMs entries

def reduceLegacyUsageCoverage (payload : JsonFields) : ReplayCall Bool := do
  let coverage ← query fun _ => requireMapping (get payload (py "coverage"))
    "life.projection.legacy_usage_coverage_invalid"
  applyUsageCoverage runtime coverage

/-- `state[inner][key] = int(state[inner].get(key) or 0) + 1`. -/
def countUsage (inner : String) (key : PyStr) : ReplayCall Unit := do
  let counts ← innerDict "legacy_learning_usage" inner "AttributeError"
  let n ← query fun _ => intOr runtime (get counts key)
  putInner "legacy_learning_usage" inner (.object (counts.put key (.int (n + 1))))

def applyUsageObservation (payload : JsonFields) : ReplayCall Bool := do
  let code := "life.learning.legacy_usage_observation_invalid"
  query fun _ => rejectIf
    (equal runtime (get payload (py "schema")) (.text usageSchema) = false)
    (.replay code)
  let sequence ← query fun _ => plainInt (get payload (py "sequence")) 1 code
  let observedAtMs ← query fun _ =>
    plainInt (get payload (py "observed_at_ms")) 0 code
  let entrypoint := text runtime payload "entrypoint"
  let workload := text runtime payload "workload_class"
  query fun _ => rejectIf (legacyEntrypoints.lookup entrypoint ≠ some workload)
    (.replay "life.learning.legacy_usage_entrypoint_invalid")
  let _ ← stateDict "legacy_learning_usage" (freshUsage observedAtMs [])
  let coverage ← innerDict "legacy_learning_usage" "coverage_started_at_ms" "AttributeError"
  let _ ← query fun _ => do
    let coveredAt ← plainInt (get coverage entrypoint) 0
      "life.learning.legacy_usage_outside_coverage"
    rejectIf (observedAtMs < coveredAt) (.replay "life.learning.legacy_usage_outside_coverage")
  let total ← query fun scope => intOr runtime
    (get (dictOf scope (py "legacy_learning_usage")) (py "total_calls"))
  query fun _ => rejectIf (sequence ≠ total + 1)
    (.replay "life.learning.legacy_usage_sequence_invalid")
  putInner "legacy_learning_usage" "total_calls" (.int (total + 1))
  let last ← query fun scope => intOr runtime
    (get (dictOf scope (py "legacy_learning_usage")) (py "last_observed_at_ms"))
  putInner "legacy_learning_usage" "last_observed_at_ms" (.int (max last observedAtMs))
  countUsage runtime "by_entrypoint" entrypoint
  countUsage runtime "by_workload_class" workload
  pure true

def reduceLegacyUsage (payload : JsonFields) : ReplayCall Bool := do
  let observation ← query fun _ => requireMapping (get payload (py "observation"))
    "life.projection.legacy_usage_invalid"
  applyUsageObservation runtime observation

def reduceUpgradeCreated (payload : JsonFields) : ReplayCall Bool := do
  let card ← query fun _ => requireMapping (get payload (py "upgrade"))
    "life.projection.upgrade_event_invalid"
  let cardId := text runtime card "card_id"
  query fun _ => rejectIf (cardId = []) (.replay "life.projection.upgrade_event_invalid")
  let upgrades ← defaultDict "upgrades"
  assign runtime "upgrades" upgrades cardId (.object card)

def reduceUpgradeCancelled (payload : JsonFields) : ReplayCall Bool := do
  let cardId := text runtime payload "card_id"
  let upgrades ← defaultDict "upgrades"
  if (upgrades.lookup cardId).isSome then do
    Call.modify fun scope => scope.put (py "upgrades") (.object (upgrades.remove cardId))
    pure true
  else pure false

def upgradeCard (payload : JsonFields) : ReplayCall JsonFields := do
  let upgrades ← defaultDict "upgrades"
  query fun _ => requireMapping (get upgrades (text runtime payload "card_id"))
    "life.projection.upgrade_card_missing"

def reduceUpgradeConfirmed (payload event : JsonFields) : ReplayCall Bool := do
  let card ← upgradeCard runtime payload
  let cardId := text runtime payload "card_id"
  let iso := PlatformJson.text (eventIso runtime event)
  if equal runtime (get card (py "status")) (.text (py "confirmed")) = false then do
    putIn "upgrades" cardId (.object (((card.put (py "status") (.text (py "confirmed"))).put
      (py "confirmed_at") iso).put (py "updated_at") iso))
    pure true
  else if truthy runtime (get card (py "confirmed_at")) = false then do
    putIn "upgrades" cardId (.object (card.put (py "confirmed_at") iso))
    pure true
  else pure false

def mergedExecution (card : JsonFields) (execution : PlatformJson) : Option JsonFields :=
  match execution with
  | .object fields => some (fields.foldl (fun merged field => merged.put field.1 field.2)
      (mappingElse (get card (py "execution"))))
  | _ => none

def withExecution (card : JsonFields) (execution : PlatformJson) : JsonFields :=
  match mergedExecution card execution with
  | some merged =>
    if same runtime (get card (py "execution")) (.object merged) then card
    else card.put (py "execution") (.object merged)
  | none => card

def reduceUpgradeTerminal (eventType : PyStr) (payload event : JsonFields) : ReplayCall Bool := do
  let card ← upgradeCard runtime payload
  let cardId := text runtime payload "card_id"
  let status := if eventType = py "upgrade.card_completed" then py "completed" else py "failed"
  let executed := withExecution runtime card (get payload (py "execution"))
  let settled :=
    if equal runtime (get card (py "status")) (.text status) then executed
    else (executed.put (py "status") (.text status)).put (py "updated_at")
      (.text (eventIso runtime event))
  putIn "upgrades" cardId (.object settled)
  pure (!same runtime (.object card) (.object settled) ||
    !equal runtime (get card (py "status")) (.text status))

/-- `scope[key][inner] = value` under a condition. -/
def putInnerIf (condition : Prop) [Decidable condition] (key inner : String)
    (value : PlatformJson) : ReplayCall Unit :=
  if condition then putInner key inner value else pure ()

def reduceProactiveDelivered (event : JsonFields) : ReplayCall Bool := do
  let scheduler ← defaultDict "scheduler"
  let occurred := eventMs runtime event
  let delivered ← query fun _ => intOr runtime
    (if occurred = 0 then .null
      else get scheduler (py "last_proactive_delivery_at_ms"))
  let moved := occurred ≠ 0 ∧ delivered ≠ occurred
  let reasoned :=
    truthy runtime (get scheduler (py "last_proactive_reason")) = false
  putInnerIf moved "scheduler" "last_proactive_delivery_at_ms" (.int occurred)
  putInnerIf reasoned "scheduler" "last_proactive_reason" (.text (py "life.proactive.native"))
  pure (moved ∨ reasoned)

/-- `for row in scope.get("proactive_chats", [])`. -/
def chatRows : ReplayCall (List PlatformJson) :=
  query fun scope =>
    match scope.lookup (py "proactive_chats") with
    | none | some (.object _) | some (.text _) => .ok []
    | some (.array items) => .ok items
    | some _ => .error (.raised "TypeError")

/-- The first row of a message is changed unless it has been marked before. -/
def markRow (messageId : PyStr) (flag : String) (f : JsonFields → JsonFields) :
    List PlatformJson → List PlatformJson × Bool
  | [] => ([], false)
  | row :: rows =>
    match row with
    | .object fields =>
      if text runtime fields "message_id" = messageId then
        if truthy runtime (get fields (py flag)) then (row :: rows, false)
        else (.object (f fields) :: rows, true)
      else (row :: (markRow messageId flag f rows).1, (markRow messageId flag f rows).2)
    | _ => (row :: (markRow messageId flag f rows).1, (markRow messageId flag f rows).2)

def markMessage (flag : String) (f : JsonFields → JsonFields) (payload : JsonFields) :
    ReplayCall Bool := do
  let messageId := text runtime payload "message_id"
  Call.query fun _ => rejectIf (messageId = []) (.replay "life.projection.proactive_event_invalid")
  let rows ← chatRows
  if (markRow runtime messageId flag f rows).2 = true then do
    Call.modify fun scope =>
      scope.put (py "proactive_chats") (.array (markRow runtime messageId flag f rows).1)
    pure true
  else pure false

def reduceProactiveAcked (payload event : JsonFields) : ReplayCall Bool :=
  markMessage runtime "acked" (fun row => (row.put (py "acked") (.flag true)).put
    (py "acked_at_ms") (.int (eventMs runtime event))) payload

def reduceProactiveReplied (payload event : JsonFields) : ReplayCall Bool :=
  markMessage runtime "replied" (fun row => (((row.put (py "replied") (.flag true)).put
    (py "reply_link_kind") (.text (text runtime payload "reply_link_kind"))).put
      (py "replied_at_ms") (.int (eventMs runtime event))).put (py "reply_run_id")
        (.text (text runtime payload "reply_run_id"))) payload

def reduceSharePublished (event : JsonFields) : ReplayCall Bool := do
  let scheduler ← defaultDict "scheduler"
  let occurred := eventMs runtime event
  let shared ← query fun _ => intOr runtime
    (if occurred = 0 then .null else get scheduler (py "last_share_at_ms"))
  let moved := occurred ≠ 0 ∧ shared ≠ occurred
  let reasoned := equal runtime (get scheduler (py "last_share_decision_reason"))
    (.text (py "life.share.published")) = false
  putInnerIf moved "scheduler" "last_share_at_ms" (.int occurred)
  putInnerIf reasoned "scheduler" "last_share_decision_reason" (.text (py "life.share.published"))
  pure (moved ∨ reasoned)

def auditOnly : List PyStr :=
  [py "memory.lifecycle_advanced", py "memory.recalled", py "autonomy.action_completed",
    py "autonomy.action_failed", py "learning.decision_noop", py "learning.output_prepared",
    py "learning.execution_evidence", py "learning.experience_committed",
    py "self_iteration.decision_noop", py "life.proactive.decision",
    py "life.proactive.suppressed", py "life.proactive.decision_failed",
    py "life.proactive.context_unavailable", py "life.proactive.expression_budget_exhausted",
    py "life.proactive.expression_unavailable", py "life.heartbeat", py "life.scheduler.resumed",
    py "affect.appraised", py "affect.decayed", py "life.episode.opened",
    py "life.episode.committed", py "life.episode.aborted", py "life.episode.failed",
    py "life.capability.learning.committed", py "life.greeting_published"]

def reducers (lifeId : PyStr) : List (PyStr × (JsonFields → JsonFields → ReplayCall Bool)) :=
  [(py "memory.asserted", reduceMemoryAsserted runtime lifeId),
    (py "memory.corrected", reduceMemoryAsserted runtime lifeId),
    (py "memory.status_changed", reduceMemoryStatus runtime),
    (py "memory.deleted", reduceMemoryDeleted runtime),
    (py "memory.relation_added", fun payload _ => reduceMemoryRelation runtime payload),
    (py "memory.candidates_proposed", fun payload _ => reduceMemoryCandidates runtime payload),
    (py "autonomy.task_generated", fun payload _ => reduceTaskGenerated runtime payload),
    (py "autonomy.task_status_changed", fun payload _ => reduceTaskStatus runtime payload),
    (py "execution.committed", fun payload _ => reduceExecutionCommitted runtime payload),
    (py "capability.activated", fun payload _ =>
      reduceCapabilityLifecycle runtime (py "capability.activated") payload),
    (py "capability.disabled", fun payload _ =>
      reduceCapabilityLifecycle runtime (py "capability.disabled") payload),
    (py "capability.rolled_back", fun payload _ =>
      reduceCapabilityLifecycle runtime (py "capability.rolled_back") payload),
    (py "capability.reactivated", fun payload _ =>
      reduceCapabilityLifecycle runtime (py "capability.reactivated") payload),
    (py "capability.patch_settled", fun payload _ =>
      reduceCapabilityLifecycle runtime (py "capability.patch_settled") payload),
    (py "capability.patch_failed", fun payload _ =>
      reduceCapabilityLifecycle runtime (py "capability.patch_failed") payload),
    (py "capability.patch_proposed", fun payload _ =>
      reduceCapabilityPatchProposed runtime payload),
    (py "capability.executed", reduceCapabilityExecuted runtime),
    (py "capability.outcome", reduceCapabilityOutcome runtime),
    (py "learning.draft_created", fun payload _ => reduceLearningCard runtime payload),
    (py "learning.confirmed", fun payload _ => reduceLearningCard runtime payload),
    (py "learning.publication_frozen", fun payload _ => reduceLearningCard runtime payload),
    (py "learning.discarded", fun payload _ => reduceLearningCard runtime payload),
    (py "learning.published", fun payload _ => reduceLearningPublished runtime payload),
    (py "learning.legacy_migration_recorded", fun payload _ =>
      reduceLegacyMigration runtime payload),
    (py "learning.legacy_usage_window_started", fun payload _ =>
      reduceLegacyUsageWindow runtime payload),
    (py "learning.legacy_usage_coverage_extended", fun payload _ =>
      reduceLegacyUsageCoverage runtime payload),
    (py "learning.legacy_usage_observed", fun payload _ => reduceLegacyUsage runtime payload),
    (py "upgrade.card_created", fun payload _ => reduceUpgradeCreated runtime payload),
    (py "upgrade.card_cancelled", fun payload _ => reduceUpgradeCancelled runtime payload),
    (py "upgrade.card_confirmed", reduceUpgradeConfirmed runtime),
    (py "upgrade.card_completed", reduceUpgradeTerminal runtime (py "upgrade.card_completed")),
    (py "upgrade.card_failed", reduceUpgradeTerminal runtime (py "upgrade.card_failed")),
    (py "life.proactive.delivered", fun _ event => reduceProactiveDelivered runtime event),
    (py "life.proactive.acked", reduceProactiveAcked runtime),
    (py "life.proactive.replied", reduceProactiveReplied runtime),
    (py "life.share.published", fun _ event => reduceSharePublished runtime event)]

def replayEvent (lifeId : PyStr) (event : JsonFields) : ReplayCall Bool :=
  let eventType := text runtime event "event_type"
  if eventType ∈ auditOnly then pure false
  else
    match (reducers runtime lifeId).lookup eventType with
    | none => query fun _ => .error (.replay "life.projection.event_unclassified")
    | some reducer => do
      let payload ← query fun _ => requireMapping (get event (py "payload"))
        "life.projection.event_payload_invalid"
      reducer payload event

def replayJournalEvents (lifeId : PyStr) : List JsonFields → ReplayCall Bool
  | [] => pure false
  | event :: events => do
    let changed ← replayEvent runtime lifeId event
    let more ← replayJournalEvents lifeId events
    pure (changed || more)

end JournalReplay

end Tiangong
