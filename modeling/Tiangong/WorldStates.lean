import Tiangong.WorldRecords

/-!
# World states

A state of the world names its cut and the manifests of its heads; a snapshot carries them along.
Manifests are built, never filled in: the digest of a manifest is that of its sorted references.
-/
namespace Tiangong

open WorldRecordRef

inductive WorldStateError where
  | value (code : String)
  /-- A file could not be replaced. -/
  | os
  /-- `int` rejects a field of a record. -/
  | conversion
  deriving DecidableEq, Repr

section SortedRefs

/-- References sorted by their keys. -/
def sortRefs (refs : List WorldRecordRef) : List WorldRecordRef :=
  orderBy (fun r r' => decide (r.sortKey ≤ r'.sortKey)) refs

lemma sortRefs_pairwise (refs : List WorldRecordRef) :
    (sortRefs refs).Pairwise fun r r' => r.sortKey ≤ r'.sortKey :=
  (orderBy_pairwise (by simp [le_total]) (by simpa using fun _ _ _ => le_trans) refs).imp
    of_decide_eq_true

lemma sortRefs_sortedUnique {refs : List WorldRecordRef}
    (h : (refs.map sortKey).Nodup) :
    sortedUnique (sortRefs refs) = true := by
  have hnodup : ((sortRefs refs).map sortKey).Nodup :=
    ((orderBy_perm _ refs).map _).nodup_iff.mpr h
  rw [sortedUnique, decide_eq_true_eq]
  rw [List.pairwise_map]
  have hne := List.pairwise_map.mp hnodup
  exact ((sortRefs_pairwise refs).and hne).imp fun hboth => lt_of_le_of_ne hboth.1 hboth.2

end SortedRefs

def normalizeRefs (refs : List WorldRecordRef) : Except WorldStateError (List WorldRecordRef) := do
  rejectIf (¬ (refs.map sortKey).Nodup) (.value "WORLD_STATE_DUPLICATE_REF")
  pure (sortRefs refs)

/-- `_manifest_ref`. The identifier quotes half of the digest. -/
def manifestRef (kind : String) (digest : Canon) : WorldRecordRef :=
  ⟨"world_" ++ kind ++ "_manifest", .cons (.text ("wmf." ++ kind)) digest, none, digest⟩

inductive HeadKind where
  | entityHeads | relationHeads | cognitionHeads | activeHypotheses | uncertainty
  deriving DecidableEq, Repr

def HeadKind.text : HeadKind → String
  | .entityHeads => "entity_heads"
  | .relationHeads => "relation_heads"
  | .cognitionHeads => "cognition_heads"
  | .activeHypotheses => "active_hypotheses"
  | .uncertainty => "uncertainty"

structure HeadFields where
  kind : HeadKind
  refs : List WorldRecordRef
  manifestSha256 : Canon
  deriving DecidableEq

namespace HeadFields

def digest (h : HeadFields) : Canon :=
  .sha256 <| .ofList
    [.text "tiangong.world.state-head-manifest.v1", .text h.kind.text,
      .ofList (h.refs.map WorldRecordRef.canon)]

/-- What `build` leaves. -/
def built (h : HeadFields) : Bool :=
  sortedUnique h.refs && h.manifestSha256 = h.digest

end HeadFields

abbrev HeadManifest := Sealed HeadFields.built

namespace HeadManifest

abbrev refs (m : HeadManifest) : List WorldRecordRef := m.1.refs

def ref (m : HeadManifest) : WorldRecordRef := manifestRef m.1.kind.text m.1.manifestSha256

def ofSorted (kind : HeadKind) (refs : List WorldRecordRef)
    (h : sortedUnique refs = true) : HeadManifest :=
  ⟨⟨kind, refs, HeadFields.digest ⟨kind, refs, .null⟩⟩, by
    simp [HeadFields.built, HeadFields.digest, h]⟩

def build (kind : HeadKind) (refs : List WorldRecordRef) (maxItems : ℕ) :
    Except WorldStateError HeadManifest :=
  if h : (refs.map sortKey).Nodup then
    if maxItems < refs.length then .error (.value "WORLD_STATE_SNAPSHOT_LIMIT")
    else .ok (ofSorted kind (sortRefs refs) (sortRefs_sortedUnique h))
  else .error (.value "WORLD_STATE_DUPLICATE_REF")

/-- The references of a manifest that was built are the given ones, and none was given twice. -/
theorem build_eq_ok {kind : HeadKind} {refs : List WorldRecordRef} {maxItems : ℕ}
    {m : HeadManifest} (h : build kind refs maxItems = .ok m) :
    m.refs = sortRefs refs ∧ m.1.kind = kind ∧ (refs.map sortKey).Nodup := by
  unfold build at h
  split at h
  · next hnodup =>
    split at h
    · cases h
    · cases h
      exact ⟨rfl, rfl, hnodup⟩
  · cases h

end HeadManifest

/-- The fields of `DependencyBinding`. -/
structure BindingFields where
  ref : WorldRecordRef
  sourceKeys : List String
  evidenceIds : List String
  deriving DecidableEq

namespace BindingFields

/-- `__post_init__`. -/
def valid (b : BindingFields) : Bool :=
  sortedUniqueStrings b.sourceKeys && b.sourceKeys.all (fun k => 1 ≤ k.length && k.length ≤ 180) &&
    sortedUniqueStrings b.evidenceIds &&
    b.evidenceIds.all (fun e => e.length = 68 && "cev_".toList.isPrefixOf e.toList) &&
    (b.evidenceIds.isEmpty || b.ref.recordType = "world_cognition")

def canon (b : BindingFields) : Canon :=
  .ofList [b.ref.canon, .ofList (b.sourceKeys.map .text), .ofList (b.evidenceIds.map .text)]

end BindingFields

abbrev DependencyBinding := Sealed BindingFields.valid

namespace DependencyBinding

abbrev ref (b : DependencyBinding) : WorldRecordRef := b.1.ref

abbrev sourceKeys (b : DependencyBinding) : List String := b.1.sourceKeys

abbrev evidenceIds (b : DependencyBinding) : List String := b.1.evidenceIds

end DependencyBinding

structure DependencyFields where
  bindings : List DependencyBinding
  manifestSha256 : Canon
  deriving DecidableEq

namespace DependencyFields

def digest (d : DependencyFields) : Canon :=
  .sha256 <| .ofList
    [.text "tiangong.world.state-dependency-manifest.v1",
      .ofList (d.bindings.map fun b => b.1.canon)]

def built (d : DependencyFields) : Bool :=
  sortedUnique (d.bindings.map DependencyBinding.ref) && d.manifestSha256 = d.digest

end DependencyFields

abbrev DependencyManifest := Sealed DependencyFields.built

namespace DependencyManifest

abbrev bindings (m : DependencyManifest) : List DependencyBinding := m.1.bindings

def ref (m : DependencyManifest) : WorldRecordRef := manifestRef "dependency" m.1.manifestSha256

def withDigest (bindings : List DependencyBinding) : DependencyFields :=
  ⟨bindings, DependencyFields.digest ⟨bindings, .null⟩⟩

def build (bindings : List DependencyBinding) (maxItems : ℕ) :
    Except WorldStateError DependencyManifest := do
  let sorted := orderBy (fun b b' : DependencyBinding => decide (b.ref.sortKey ≤ b'.ref.sortKey))
    bindings
  let manifest ← sealed DependencyFields.built (.value "WORLD_STATE_DUPLICATE_DEPENDENCY_REF")
    (withDigest sorted)
  rejectIf (maxItems < bindings.length) (.value "WORLD_STATE_DEPENDENCY_LIMIT")
  pure manifest

end DependencyManifest

structure DeltaFields where
  previousStateRef : Option WorldRecordRef
  changedSourceKeys : List String
  addedRefs : List WorldRecordRef
  removedRefs : List WorldRecordRef
  changedRefs : List WorldRecordRef
  invalidatedRefs : List WorldRecordRef
  revalidatedCognitionRefs : List WorldRecordRef
  uncertaintyManifestRef : Option WorldRecordRef
  dependencyManifestRef : WorldRecordRef
  manifestSha256 : Canon
  deriving DecidableEq

namespace DeltaFields

def digest (d : DeltaFields) : Canon :=
  .sha256 <| .ofList
    [.text "tiangong.world.state-delta-manifest.v1",
      .option WorldRecordRef.canon d.previousStateRef, .ofList (d.changedSourceKeys.map .text),
      .ofList (d.addedRefs.map WorldRecordRef.canon),
      .ofList (d.removedRefs.map WorldRecordRef.canon),
      .ofList (d.changedRefs.map WorldRecordRef.canon),
      .ofList (d.invalidatedRefs.map WorldRecordRef.canon),
      .ofList (d.revalidatedCognitionRefs.map WorldRecordRef.canon),
      .option WorldRecordRef.canon d.uncertaintyManifestRef, d.dependencyManifestRef.canon]

def built (d : DeltaFields) : Bool :=
  sortedUniqueStrings d.changedSourceKeys &&
    [d.addedRefs, d.removedRefs, d.changedRefs, d.invalidatedRefs, d.revalidatedCognitionRefs].all
      sortedUnique &&
    d.manifestSha256 = d.digest

def withDigest (d : DeltaFields) : DeltaFields := { d with manifestSha256 := d.digest }

end DeltaFields

abbrev DeltaManifest := Sealed DeltaFields.built

namespace DeltaManifest

def ref (m : DeltaManifest) : WorldRecordRef := manifestRef "delta" m.1.manifestSha256

/-- `tuple(sorted(set(keys)))`. -/
def sortKeys (keys : List String) : List String := (keys.dedup).insertionSort (· ≤ ·)

def build (d : DeltaFields) : Except WorldStateError DeltaManifest := do
  let added ← normalizeRefs d.addedRefs
  let removed ← normalizeRefs d.removedRefs
  let changed ← normalizeRefs d.changedRefs
  let invalidated ← normalizeRefs d.invalidatedRefs
  let revalidated ← normalizeRefs d.revalidatedCognitionRefs
  sealed DeltaFields.built (.value "WORLD_STATE_DUPLICATE_REF") <| DeltaFields.withDigest
    { d with
      changedSourceKeys := sortKeys d.changedSourceKeys
      addedRefs := added
      removedRefs := removed
      changedRefs := changed
      invalidatedRefs := invalidated
      revalidatedCognitionRefs := revalidated }

end DeltaManifest

structure StateFields where
  worldStateId : Canon
  scope : WorldScope
  frameRef : WorldRecordRef
  worldCutRef : WorldRecordRef
  worldSequence : ℕ
  observationCutoffRef : Option WorldRecordRef
  entityHeadManifestRef : WorldRecordRef
  relationHeadManifestRef : WorldRecordRef
  cognitionHeadManifestRef : Option WorldRecordRef
  activeHypothesisManifestRef : Option WorldRecordRef
  deltaManifestRef : Option WorldRecordRef
  unresolvedConflictRefs : List WorldRecordRef
  staleRefs : List WorldRecordRef
  materializedAtMs : ℕ
  sourceTransactionId : String
  stateSha256 : Canon
  deriving DecidableEq

/-- The identifier of a state. Neither its frame nor its principal plays a part. -/
def deriveWorldStateId (worldScopeHash : Canon) (worldCutRef : WorldRecordRef) (worldSequence : ℕ)
    (sourceTransactionId : String) : Canon :=
  .ident "wst_" <| .ofList
    [.text "tiangong.world.state-id.v1", worldScopeHash, worldCutRef.canon, .num worldSequence,
      .text sourceTransactionId]

namespace StateFields

/-- The field constraints and validators of `WorldState`. -/
def valid (s : StateFields) : Bool :=
  (sortedUnique s.unresolvedConflictRefs &&
      s.unresolvedConflictRefs.length ≤ 4096) &&
    (sortedUnique s.staleRefs && s.staleRefs.length ≤ 4096) &&
    s.worldStateId = deriveWorldStateId s.scope.1.worldScopeHash s.worldCutRef s.worldSequence
      s.sourceTransactionId

def computedHash (s : StateFields) : Canon :=
  .sha256 <| .ofList
    [s.worldStateId, s.scope.1.canon, s.frameRef.canon, s.worldCutRef.canon, .num s.worldSequence,
      .option WorldRecordRef.canon s.observationCutoffRef, s.entityHeadManifestRef.canon,
      s.relationHeadManifestRef.canon, .option WorldRecordRef.canon s.cognitionHeadManifestRef,
      .option WorldRecordRef.canon s.activeHypothesisManifestRef,
      .option WorldRecordRef.canon s.deltaManifestRef,
      .ofList (s.unresolvedConflictRefs.map WorldRecordRef.canon),
      .ofList (s.staleRefs.map WorldRecordRef.canon), .num s.materializedAtMs,
      .text s.sourceTransactionId]

end StateFields

abbrev WorldState := Sealed StateFields.valid

namespace WorldState

abbrev id (s : WorldState) : Canon := s.1.worldStateId

abbrev scope (s : WorldState) : WorldScope := s.1.scope

abbrev worldSequence (s : WorldState) : ℕ := s.1.worldSequence

def hasValidHash (s : WorldState) : Bool := s.1.stateSha256 = s.1.computedHash

/-- `_state_ref`. -/
def ref (s : WorldState) : WorldRecordRef :=
  ⟨"world_state", s.1.worldStateId, some (s.1.worldSequence + 1), s.1.stateSha256⟩

end WorldState

structure MaterializedWorldSnapshot where
  state : WorldState
  cut : WorldCut
  entityHeads : HeadManifest
  relationHeads : HeadManifest
  cognitionHeads : Option HeadManifest
  activeHypotheses : Option HeadManifest
  uncertainty : Option HeadManifest
  dependencies : DependencyManifest
  delta : DeltaManifest
  frameId : Canon
  entities : List WorldEntity
  relations : List WorldRelation
  hypotheses : List WorldHypothesis
  deriving DecidableEq

/-- The stream a snapshot belongs to. -/
structure StreamKey where
  lifeId : String
  worldScopeHash : Canon
  principalScopeHash : Canon
  frameId : Canon
  deriving DecidableEq

namespace StreamKey

def canon (k : StreamKey) : Canon :=
  .ofList [.text k.lifeId, k.worldScopeHash, k.principalScopeHash, k.frameId]

theorem canon_injective : Function.Injective canon := by
  intro k k' h
  have hfields := Canon.ofList_injective h
  simp only [List.cons.injEq, Canon.text.injEq] at hfields
  cases k
  cases k'
  simp_all

instance : LinearOrder StreamKey := LinearOrder.lift' canon canon_injective

end StreamKey

namespace MaterializedWorldSnapshot

abbrev id (s : MaterializedWorldSnapshot) : Canon := s.state.id

def stateRef (s : MaterializedWorldSnapshot) : WorldRecordRef := s.state.ref

def streamKey (s : MaterializedWorldSnapshot) : StreamKey :=
  ⟨s.state.scope.1.lifeId, s.state.scope.1.worldScopeHash, s.state.scope.1.principalScopeHash,
    s.frameId⟩

/-- The loop over the bodies of the hypotheses: each one is a head, and none comes twice. -/
def hypothesesValid (scope : WorldScope) (heads : List WorldRecordRef) :
    List WorldHypothesis → List WorldRecordRef → Bool
  | [], _ => true
  | h :: hs, seen =>
    h.scope = scope && h.hasValidHash && heads.contains h.ref && !seen.contains h.ref &&
      hypothesesValid scope heads hs (h.ref :: seen)

def validateSnapshot (s : MaterializedWorldSnapshot) : Except WorldStateError Unit := do
  rejectIf (s.state.1.worldCutRef ≠ s.cut.ref) (.value "WORLD_STATE_CUT_REF_MISMATCH")
  rejectIf (s.state.1.entityHeadManifestRef ≠ s.entityHeads.ref)
    (.value "WORLD_STATE_ENTITY_MANIFEST_MISMATCH")
  rejectIf (s.state.1.relationHeadManifestRef ≠ s.relationHeads.ref)
    (.value "WORLD_STATE_RELATION_MANIFEST_MISMATCH")
  rejectIf (s.state.1.cognitionHeadManifestRef ≠ s.cognitionHeads.map HeadManifest.ref)
    (.value "WORLD_STATE_COGNITION_MANIFEST_MISMATCH")
  rejectIf (s.state.1.activeHypothesisManifestRef ≠ s.activeHypotheses.map HeadManifest.ref)
    (.value "WORLD_STATE_HYPOTHESIS_MANIFEST_MISMATCH")
  rejectIf (s.state.1.deltaManifestRef ≠ some s.delta.ref)
    (.value "WORLD_STATE_DELTA_MANIFEST_MISMATCH")
  rejectIf (s.delta.1.dependencyManifestRef ≠ s.dependencies.ref)
    (.value "WORLD_STATE_DEPENDENCY_MANIFEST_MISMATCH")
  rejectIf (s.delta.1.uncertaintyManifestRef ≠ s.uncertainty.map HeadManifest.ref)
    (.value "WORLD_STATE_UNCERTAINTY_MANIFEST_MISMATCH")
  rejectIf (s.state.1.staleRefs ≠ s.delta.1.invalidatedRefs)
    (.value "WORLD_STATE_STALE_DELTA_MISMATCH")
  rejectIf (sortRefs ((s.entities.filter fun e => e.1.lifecycle = .active).map WorldEntity.ref) ≠
      s.entityHeads.refs) (.value "WORLD_STATE_ENTITY_BODY_MISMATCH")
  rejectIf (sortRefs (s.relations.map WorldRelation.ref) ≠ s.relationHeads.refs)
    (.value "WORLD_STATE_RELATION_BODY_MISMATCH")
  rejectIf (hypothesesValid s.state.scope (s.activeHypotheses.elim [] HeadManifest.refs)
      s.hypotheses [] = false) (.value "WORLD_STATE_HYPOTHESIS_BODY_MISMATCH")

end MaterializedWorldSnapshot

structure RetainedFields where
  ownerId : String
  stateRef : WorldRecordRef
  scope : WorldScope
  deriving DecidableEq

/-- The characters of an owner: `[A-Za-z0-9][A-Za-z0-9._:@-]{0,159}`. -/
def isOwnerId (text : String) : Bool :=
  match text.toList with
  | [] => false
  | c :: cs =>
    (c.isAlphanum && cs.all fun c => c.isAlphanum || c ∈ ['.', '_', ':', '@', '-']) &&
      cs.length ≤ 159

/-- `wst_` and a digest. -/
def isWorldStateId : Canon → Bool
  | .cons (.text "wst_") (.sha256 _) => true
  | _ => false

namespace RetainedFields

/-- `__post_init__`. -/
def valid (r : RetainedFields) : Bool :=
  isOwnerId r.ownerId && r.stateRef.recordType = "world_state" &&
    isWorldStateId r.stateRef.recordId && r.stateRef.revision.any (1 ≤ ·)

def canon (r : RetainedFields) : Canon :=
  .ofList [.text r.ownerId, r.stateRef.canon, r.scope.1.canon]

end RetainedFields

abbrev RetainedWorldState := Sealed RetainedFields.valid

namespace RetainedWorldState

abbrev ownerId (r : RetainedWorldState) : String := r.1.ownerId

abbrev stateId (r : RetainedWorldState) : Canon := r.1.stateRef.recordId

def pins (r : RetainedWorldState) (s : MaterializedWorldSnapshot) : Bool :=
  s.stateRef = r.1.stateRef && s.state.scope = r.1.scope && s.state.hasValidHash

end RetainedWorldState

end Tiangong
