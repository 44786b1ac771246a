import Tiangong.CognitionContracts
import Tiangong.WorldGraphs
import Tiangong.WorldStateStore

/-!
# The world state materializer

From a frame, a cut, a graph and what the domains supply, the next state of a stream: which heads
it has, what changed since the state before it, and which heads rest on a source that changed.
The evaluation of cognition support is a parameter.
-/
namespace Tiangong

open HeadManifest WorldRecordRef

structure WorldStateMaterializerConfig where
  maxEntities : ℕ := 2048
  maxRelations : ℕ := 4096
  maxCognition : ℕ := 1024
  maxHypotheses : ℕ := 1024
  maxUncertainty : ℕ := 2048
  maxDependencies : ℕ := 8192
  maxConflicts : ℕ := 4096
  maxStale : ℕ := 4096
  /-- `__post_init__`. -/
  positive : 0 < maxEntities ∧ 0 < maxRelations ∧ 0 < maxCognition ∧ 0 < maxHypotheses ∧
    0 < maxUncertainty ∧ 0 < maxDependencies ∧ 0 < maxConflicts ∧ 0 < maxStale

structure CognitionL5View where
  scope : WorldScope
  statement : CognitionStatement
  statementRef : WorldRecordRef

/-- `CognitionSupportEvaluator.evaluate`: whether a view remains stable without some evidence. -/
abbrev CognitionSupportEvaluator :=
  CognitionL5View → List String → ℕ → Except WorldStateError Bool

structure MaterializationInput where
  frame : SoftwareWorldFrame
  cut : WorldCut
  graph : SparseWorldGraph
  stableCognition : List CognitionL5View
  activeHypotheses : List WorldHypothesis
  uncertaintyRefs : List WorldRecordRef
  conflictRefs : List WorldRecordRef
  dependencyBindings : List DependencyBinding
  sourceTransactionId : String
  materializedAtMs : ℕ
  changedSourceKeys : List String
  preservePreviousDomains : Bool
  preservePreviousHypotheses : Bool
  preservePreviousCognition : Bool
  replacePreviousCognition : Bool

namespace MaterializationInput

def streamKey (data : MaterializationInput) : StreamKey :=
  ⟨data.frame.scope.1.lifeId, data.frame.scope.1.worldScopeHash,
    data.frame.scope.1.principalScopeHash, data.frame.frameId⟩

end MaterializationInput

namespace MaterializedWorldSnapshot

/-- The references of the manifests of a state, uncertainty apart. -/
def heads (s : MaterializedWorldSnapshot) : List WorldRecordRef :=
  s.entityHeads.refs ++ s.relationHeads.refs ++ s.cognitionHeads.elim [] refs ++
    s.activeHypotheses.elim [] refs

end MaterializedWorldSnapshot

/-- `tuple(sorted({r.sort_key(): r for r in refs}.values(), key=sort_key))`. -/
def distinctRefs (refs : List WorldRecordRef) : List WorldRecordRef :=
  (Dict.ofItems (refs.map fun r => (r.sortKey, r))).items.map Prod.snd

def watermarkKey (k : SourceWatermark.Key) : String := k.1.text ++ ":" ++ k.2

def changedWatermarkKeys (previous : Option WorldCut) (current : WorldCut) :
    Except WorldStateError (List String) :=
  match previous with
  | none => pure (current.watermarks.map fun w => watermarkKey w.key)
  | some previous => do
    rejectIf (compareWorldCuts current previous = .incompatible) (.value "WORLD_CUT_INCOMPATIBLE")
    let reading (cut : WorldCut) (k : SourceWatermark.Key) :=
      (cut.watermarkMap.lookup k).map fun w => (w.watermarkValue, w.sequence)
    let keys := (previous.watermarkMap.keys ++ current.watermarkMap.keys).filter fun k =>
      reading previous k ≠ reading current k
    pure (keys.map watermarkKey)

/-- The keys that the input reports as changed are sorted, unique and short. -/
def domainDeltaValid (keys : List String) : Bool :=
  sortedUniqueStrings keys && keys.all (fun k => 1 ≤ k.length && k.length ≤ 180) &&
    keys.length ≤ 4096

/-- The source keys that changed since the state before. -/
def changedSources (data : MaterializationInput) (previous : Option MaterializedWorldSnapshot) :
    Except WorldStateError (List String) := do
  let watermarks ← changedWatermarkKeys (previous.map (·.cut)) data.cut
  rejectIf (domainDeltaValid data.changedSourceKeys = false)
    (.value "WORLD_STATE_DOMAIN_DELTA_INVALID")
  pure (DeltaManifest.sortKeys (watermarks ++ data.changedSourceKeys))

/-- `_head_delta`. Of several references to one record the last one counts. -/
structure HeadDelta where
  added : List WorldRecordRef
  removed : List WorldRecordRef
  changed : List WorldRecordRef
  refreshed : List (String × Canon)

namespace HeadDelta

/-- The last reference to every record. -/
def byIdentity (refs : List WorldRecordRef) : Dict (String × Canon) WorldRecordRef :=
  .ofItems (refs.map fun r => (r.identity, r))

/-- One turn of the loop, for a record that one of the sides has. -/
def step (old new : Dict (String × Canon) WorldRecordRef) (d : HeadDelta)
    (identity : String × Canon) : HeadDelta :=
  match old.lookup identity, new.lookup identity with
  | none, some b => { d with added := d.added ++ [b], refreshed := d.refreshed ++ [identity] }
  | some a, none => { d with removed := d.removed ++ [a] }
  | some a, some b =>
    if a.sortKey ≠ b.sortKey then
      { d with changed := d.changed ++ [b], refreshed := d.refreshed ++ [identity] }
    else d
  | none, none => d

def of (oldRefs newRefs : List WorldRecordRef) : HeadDelta :=
  ((byIdentity oldRefs).keys ++ (byIdentity newRefs).keys).dedup.foldl
    (step (byIdentity oldRefs) (byIdentity newRefs)) ⟨[], [], [], []⟩

end HeadDelta

def preciseInvalidations (previousDependencies : Option DependencyManifest)
    (changedSourceKeys : List String) (currentRefs : List WorldRecordRef)
    (refreshed : List (String × Canon)) : List WorldRecordRef :=
  match previousDependencies with
  | none => []
  | some dependencies =>
    distinctRefs <| dependencies.bindings.filterMap fun b =>
      match (HeadDelta.byIdentity currentRefs).lookup b.ref.identity with
      | none => none
      | some current =>
        if b.ref.identity ∈ refreshed then none
        else if b.sourceKeys.any (changedSourceKeys.contains ·) then some current else none

/-- What the loop over the supplied cognition leaves. -/
structure CognitionOutcome where
  refs : List WorldRecordRef
  revalidated : List WorldRecordRef
  stale : List WorldRecordRef

/-- The last binding of a reference. -/
def bindingOf (bindings : List DependencyBinding) (r : WorldRecordRef) : Option DependencyBinding :=
  bindings.reverse.find? fun b => b.ref.sortKey = r.sortKey

/-- The view rests on a source that changed. -/
def touches (binding : Option DependencyBinding) (changed : List String) : Bool :=
  binding.any fun b => b.sourceKeys.any (changed.contains ·)

section Domains

variable (evaluator : Option CognitionSupportEvaluator) (data : MaterializationInput)
  (previous : Option MaterializedWorldSnapshot)

/-- Whether the support of a touched view was evaluated again and remains stable. -/
def remainsStable (view : CognitionL5View) (binding : Option DependencyBinding) :
    Except WorldStateError Bool :=
  match evaluator, binding with
  | some evaluate, some binding =>
    if binding.evidenceIds.isEmpty then pure false
    else evaluate view binding.evidenceIds data.materializedAtMs
  | _, _ => pure false

/-- Where a view goes, and whether its support was evaluated again. -/
def CognitionOutcome.enter (out : CognitionOutcome) (ref : WorldRecordRef) :
    Option Bool → CognitionOutcome
  | none => { out with refs := out.refs ++ [ref] }
  | some true => { out with revalidated := out.revalidated ++ [ref], refs := out.refs ++ [ref] }
  | some false => { out with stale := out.stale ++ [ref] }

/-- One turn of the loop over the supplied cognition. -/
def admitCognition (changed : List String) (out : CognitionOutcome) (view : CognitionL5View) :
    Except WorldStateError CognitionOutcome := do
  rejectIf (data.frame.scope.sameIdentity view.scope = false) (.value "SCOPE_MISMATCH")
  rejectIf (view.statement.status ∉ [.stable, .core] ∨ view.statement.level ∉ [.c2, .c3, .c4])
    (.value "WORLD_STATE_COGNITION_NOT_STABLE")
  rejectIf (view.statement.hasValidHash = false) (.value "WORLD_STATE_COGNITION_HASH_INVALID")
  let binding := bindingOf data.dependencyBindings view.statementRef
  if previous.isSome ∧ touches binding changed then
    let remains ← remainsStable evaluator data view binding
    pure (out.enter view.statementRef (some remains))
  else pure (out.enter view.statementRef none)

/-- The references that are kept from a manifest, for records that nothing was supplied about. -/
def keptRefs (manifest : Option HeadManifest) (supplied : List WorldRecordRef) :
    List WorldRecordRef :=
  (manifest.elim [] refs).filter fun r =>
    r.identity ∉ supplied.map identity

/-- The cognition of the new state, with what is kept of the one before. -/
def cognitionRefs (out : CognitionOutcome) : List WorldRecordRef :=
  if !data.replacePreviousCognition &&
      (data.preservePreviousDomains || data.preservePreviousCognition) then
    out.refs ++ keptRefs (previous.bind (·.cognitionHeads)) (out.refs ++ out.stale)
  else out.refs

/-- One turn of the loop over the supplied hypotheses. -/
def admitHypothesis (h : WorldHypothesis) : Except WorldStateError WorldRecordRef := do
  rejectIf (data.frame.scope.sameIdentity h.scope = false) (.value "SCOPE_MISMATCH")
  rejectIf (h.hasValidHash = false) (.value "WORLD_STATE_HYPOTHESIS_HASH_INVALID")
  pure h.ref

def retainHypotheses : Bool := data.preservePreviousDomains || data.preservePreviousHypotheses

/-- The hypotheses of the new state, with what is kept of the one before. -/
def hypothesisRefs (supplied : List WorldRecordRef) : List WorldRecordRef :=
  if retainHypotheses data then
    supplied ++ keptRefs (previous.bind (·.activeHypotheses)) supplied
  else supplied

/-- The uncertainty of the new state, with what is kept of the one before. -/
def uncertaintyRefs : List WorldRecordRef :=
  match previous.bind (·.uncertainty) with
  | some manifest =>
    if data.preservePreviousDomains then distinctRefs (manifest.refs ++ data.uncertaintyRefs)
    else data.uncertaintyRefs
  | none => data.uncertaintyRefs

/-- The bodies of the hypotheses that are heads. -/
def hypothesisBodies (currentRefs : List WorldRecordRef) : List WorldHypothesis :=
  let kept := if retainHypotheses data then previous.elim [] (·.hypotheses) else []
  let bodies := (kept ++ data.activeHypotheses).filter fun h =>
    h.ref.sortKey ∈ currentRefs.map sortKey
  (Dict.ofItems (bodies.map fun h => (h.hypothesisId, h))).items.map Prod.snd

end Domains

def optionalManifest (kind : HeadKind) (refs : List WorldRecordRef) (maxItems : ℕ) :
    Except WorldStateError (Option HeadManifest) :=
  if refs = [] then pure none else some <$> build kind refs maxItems

/-- The references that the state before had. -/
def previousHeads (previous : Option MaterializedWorldSnapshot) : List WorldRecordRef :=
  sortRefs (previous.elim [] (·.heads))

/-- What the new state keeps of the stale references of the one before. -/
def retainedStale (previous : Option MaterializedWorldSnapshot) (currentRefs : List WorldRecordRef)
    (revalidated : List WorldRecordRef) : List WorldRecordRef :=
  (previous.elim [] fun p => p.state.1.staleRefs).filter fun r =>
    r.sortKey ∈ currentRefs.map sortKey &&
      r.identity ∉ revalidated.map identity

/-- The stale references of the new state. -/
def staleRefs (previous : Option MaterializedWorldSnapshot) (changed : List String)
    (currentRefs : List WorldRecordRef) (out : CognitionOutcome) : List WorldRecordRef :=
  let delta := HeadDelta.of (previousHeads previous) currentRefs
  let invalidated := preciseInvalidations (previous.map (·.dependencies)) changed currentRefs
    (delta.refreshed ++ out.revalidated.map identity)
  distinctRefs (invalidated ++ out.stale ++ retainedStale previous currentRefs out.revalidated)

structure WorldStateMaterializer where
  config : WorldStateMaterializerConfig
  supportEvaluator : Option CognitionSupportEvaluator

namespace WorldStateMaterializer

variable (m : WorldStateMaterializer)

/-- What the input must agree on with itself. -/
def checkFrame (data : MaterializationInput) : Except WorldStateError Unit := do
  rejectIf (data.frame.scope.sameIdentity data.cut.scope = false) (.value "SCOPE_MISMATCH")
  rejectIf (data.frame.scope.sameIdentity data.graph.scope = false) (.value "SCOPE_MISMATCH")
  data.graph.requireFrame data.frame
  rejectIf (data.graph.frameRevisionHash ≠ data.frame.frameRevisionHash)
    (.value "WORLD_STATE_GRAPH_FRAME_REVISION_MISMATCH")
  rejectIf (data.frame.worldCut.any fun cut => compareWorldCuts data.cut cut ≠ .same)
    (.value "WORLD_FRAME_CUT_MISMATCH")

/-- What the cut must be to the one before. -/
def checkCut (cut : WorldCut) : Option MaterializedWorldSnapshot → Except WorldStateError Unit
  | none => pure ()
  | some previous => do
    let relation := compareWorldCuts cut previous.cut
    rejectIf (relation = .incompatible) (.value "WORLD_CUT_INCOMPATIBLE")
    rejectIf (relation = .rightDominates) (.value "WORLD_STATE_CURRENT_REGRESSION")
    rejectIf (relation = .disjoint) (.value "WORLD_CUT_CONTINUITY_UNKNOWN")

def buildState (data : MaterializationInput) (previous : Option MaterializedWorldSnapshot)
    (entityHeads relationHeads : HeadManifest) (cognition hypotheses : Option HeadManifest)
    (delta : DeltaManifest) (conflicts stale : List WorldRecordRef) :
    Except WorldStateError WorldState :=
  let sequence := previous.elim 0 fun p => p.state.worldSequence + 1
  let fields : StateFields :=
    { worldStateId := deriveWorldStateId data.frame.scope.1.worldScopeHash data.cut.ref sequence
        data.sourceTransactionId
      scope := data.frame.scope
      frameRef := data.frame.ref
      worldCutRef := data.cut.ref
      worldSequence := sequence
      observationCutoffRef := none
      entityHeadManifestRef := entityHeads.ref
      relationHeadManifestRef := relationHeads.ref
      cognitionHeadManifestRef := cognition.map ref
      activeHypothesisManifestRef := hypotheses.map ref
      deltaManifestRef := some delta.ref
      unresolvedConflictRefs := conflicts
      staleRefs := stale
      materializedAtMs := data.materializedAtMs
      sourceTransactionId := data.sourceTransactionId
      stateSha256 := .null }
  sealed StateFields.valid (.value "WORLD_STATE_CONTRACT_INVALID")
    { fields with stateSha256 := fields.computedHash }

/-- The part of `materialize` between the read of the state before and the publication. -/
def assemble (previous : Option MaterializedWorldSnapshot) (data : MaterializationInput) :
    Except WorldStateError MaterializedWorldSnapshot := do
  checkCut data.cut previous
  let entityRefs := data.graph.entityRefs
  let relationRefs := data.graph.relationRefs
  let entityHeads ← build .entityHeads entityRefs m.config.maxEntities
  let relationHeads ← build .relationHeads relationRefs m.config.maxRelations
  let changed ← changedSources data previous
  let out ← data.stableCognition.foldlM (admitCognition m.supportEvaluator data previous changed)
    ⟨[], [], []⟩
  let cognition := cognitionRefs data previous out
  let cognitionHeads ← optionalManifest .cognitionHeads cognition m.config.maxCognition
  let supplied ← data.activeHypotheses.mapM (admitHypothesis data)
  let hypotheses := hypothesisRefs data previous supplied
  let hypothesisHeads ← optionalManifest .activeHypotheses hypotheses m.config.maxHypotheses
  let uncertainty ← optionalManifest .uncertainty (uncertaintyRefs data previous)
    m.config.maxUncertainty
  let currentRefs := sortRefs (entityRefs ++ relationRefs ++ cognition ++ hypotheses)
  let dependencies ← DependencyManifest.build data.dependencyBindings m.config.maxDependencies
  let headDelta := HeadDelta.of (previousHeads previous) currentRefs
  let stale := staleRefs previous changed currentRefs out
  rejectIf (m.config.maxStale < stale.length) (.value "WORLD_STATE_STALE_LIMIT")
  let priorConflicts := if data.preservePreviousDomains then
    previous.elim [] fun p => p.state.1.unresolvedConflictRefs else []
  let conflicts := distinctRefs (priorConflicts ++ data.conflictRefs)
  rejectIf (m.config.maxConflicts < conflicts.length) (.value "WORLD_STATE_CONFLICT_LIMIT")
  let delta ← DeltaManifest.build
    ⟨previous.map fun p => p.state.ref, changed, headDelta.added, headDelta.removed,
      headDelta.changed, stale, out.revalidated, uncertainty.map ref,
      dependencies.ref, .null⟩
  let state ← buildState data previous entityHeads relationHeads cognitionHeads hypothesisHeads
    delta conflicts stale
  pure ⟨state, data.cut, entityHeads, relationHeads, cognitionHeads, hypothesisHeads, uncertainty,
    dependencies, delta, data.frame.frameId, data.graph.entities, data.graph.relations,
    hypothesisBodies data previous currentRefs⟩

def materialize (faults : StoreFaults) (data : MaterializationInput) :
    StoreCall MaterializedWorldSnapshot := do
  Call.query fun _ => checkFrame data
  let previous ← WorldStateStore.current data.streamKey
  let snapshot ← Call.query fun _ => m.assemble previous data
  WorldStateStore.publish faults snapshot

end WorldStateMaterializer

end Tiangong
