import Tiangong.VerificationContracts

/-!
# The verifier registry

The descriptors of the deterministic verifiers, the snapshot a plan is bound to, and the lookup by
identifier and version.
-/
namespace Tiangong

inductive VerificationLayer where
  | deterministic | grounding | judge | human
  deriving DecidableEq, Repr

def VerificationLayer.canon : VerificationLayer → Canon
  | .deterministic => .text "L0_DETERMINISTIC"
  | .grounding => .text "L1_GROUNDING"
  | .judge => .text "L2_JUDGE"
  | .human => .text "L3_HUMAN"

inductive EnforcementMode where
  | record | alert | block
  deriving DecidableEq, Repr

def EnforcementMode.canon : EnforcementMode → Canon
  | .record => .text "RECORD"
  | .alert => .text "ALERT"
  | .block => .text "BLOCK"

inductive EvidenceAuthority where
  | objectStore | artifactManifest | artifactQc | effectLedger | factLedger | toolResultContract
  | repositoryProvider | deliveryReceipt | knowledgeContext | humanLabel
  deriving DecidableEq, Repr

def EvidenceAuthority.canon : EvidenceAuthority → Canon
  | .objectStore => .text "OBJECT_STORE"
  | .artifactManifest => .text "ARTIFACT_MANIFEST"
  | .artifactQc => .text "ARTIFACT_QC"
  | .effectLedger => .text "EFFECT_LEDGER"
  | .factLedger => .text "FACT_LEDGER"
  | .toolResultContract => .text "TOOL_RESULT_CONTRACT"
  | .repositoryProvider => .text "REPOSITORY_PROVIDER"
  | .deliveryReceipt => .text "DELIVERY_RECEIPT"
  | .knowledgeContext => .text "KNOWLEDGE_CONTEXT"
  | .humanLabel => .text "HUMAN_LABEL"

structure VerifierDescriptor where
  verifierId : String
  verifierVersion : String
  layer : VerificationLayer
  deterministic : Bool
  supportedPredicateTypes : List String
  acceptedAuthorities : List EvidenceAuthority
  supportedSubjectKinds : List SubjectKind
  maxInputBytes : ℕ
  timeoutMs : ℕ
  defaultEnforcement : EnforcementMode
  blockCapable : Bool
  repairFeedbackCapable : Bool
  producerComponentId : String
  configSha256 : Canon
  implementationRef : String
  descriptorSha256 : Canon
  deriving DecidableEq, Repr

namespace VerifierDescriptor

/-- The values that the digest of a descriptor covers. -/
def content (d : VerifierDescriptor) : List Canon :=
  [.text d.verifierId, .text d.verifierVersion, d.layer.canon, .flag d.deterministic,
    textList d.supportedPredicateTypes,
    .ofList (d.acceptedAuthorities.map EvidenceAuthority.canon),
    .ofList (d.supportedSubjectKinds.map SubjectKind.canon), .num d.maxInputBytes,
    .num d.timeoutMs, d.defaultEnforcement.canon, .flag d.blockCapable,
    .flag d.repairFeedbackCapable, .text d.producerComponentId, d.configSha256,
    .text d.implementationRef]

def computedDescriptorSha256 (d : VerifierDescriptor) : Canon := .sha256 (.ofList d.content)

def hasValidDescriptorSha256 (d : VerifierDescriptor) : Bool :=
  d.descriptorSha256 = d.computedDescriptorSha256

def withComputedSha256 (d : VerifierDescriptor) : VerifierDescriptor :=
  { d with descriptorSha256 := d.computedDescriptorSha256 }

def canon (d : VerifierDescriptor) : Canon := .ofList (d.content ++ [d.descriptorSha256])

end VerifierDescriptor

/-- The descriptors of one state of the registry, sorted by identifier. -/
structure RegistrySnapshot where
  registrySnapshotId : Canon
  verifiers : List VerifierDescriptor
  capturedAtMs : ℕ
  snapshotSha256 : Canon
  verifierIds_sorted : (verifiers.map VerifierDescriptor.verifierId).Pairwise (· < ·)

namespace RegistrySnapshot

/-- The time of the capture is not part of the identity. -/
def computedSnapshotSha256 (r : RegistrySnapshot) : Canon :=
  .sha256 (.ofList (r.verifiers.map VerifierDescriptor.canon))

def computedId (sha256 : Canon) : Canon :=
  .ident "vrg_" (.ofList [.text "tiangong.verification_registry_snapshot.v1", sha256])

def hasValidIdentity (r : RegistrySnapshot) : Bool :=
  r.snapshotSha256 = r.computedSnapshotSha256 && r.registrySnapshotId = computedId r.snapshotSha256

end RegistrySnapshot

def predicateTypeAllowlist : List String :=
  ["artifact.nonempty", "artifact.min_visible_text_chars", "artifact.required_sections",
    "artifact.required_file_count", "artifact.format_matches", "docx.min_body_items",
    "docx.required_headings", "xlsx.required_columns", "xlsx.min_data_rows",
    "xlsx.required_sheet_names", "pptx.min_nonempty_slides", "pptx.required_slide_titles",
    "csv.required_columns", "text.required_markers", "effect.terminal_succeeded",
    "effect.target_exists", "effect.target_sha256_matches", "effect.required_change_observed",
    "effect.no_forbidden_side_effect", "effect.idempotent_target_verified",
    "repository.required_paths_changed", "repository.forbidden_paths_unchanged",
    "repository.source_authority_valid", "repository.tests_passed", "repository.compile_passed",
    "repository.no_test_tampering", "repository.no_generated_mirror_direct_edit"]

/-- Descriptors with valid digests, allowed predicate types and different identifiers. -/
structure VerifierRegistry where
  descriptors : List VerifierDescriptor

namespace VerifierRegistry

/-- The check of one descriptor, after those with the identifiers `seen`. -/
def checkDescriptor (seen : List String) (d : VerifierDescriptor) : Except String (List String) := do
  rejectIf (d.hasValidDescriptorSha256 = false)
    ("verifier descriptor hash mismatch: " ++ d.verifierId)
  rejectIf (∃ p ∈ d.supportedPredicateTypes, p ∉ predicateTypeAllowlist)
    ("predicate type outside allowlist: " ++
      ((d.supportedPredicateTypes.find? fun p => p ∉ predicateTypeAllowlist).getD "") ++
      " (" ++ d.verifierId ++ ")")
  rejectIf (d.verifierId ∈ seen) ("duplicate verifier_id: " ++ d.verifierId)
  pure (d.verifierId :: seen)

/-- `VerifierRegistry.__init__`. -/
def ofDescriptors (descriptors : List VerifierDescriptor) : Except String VerifierRegistry := do
  rejectIf (descriptors = []) "registry requires at least one verifier descriptor"
  let _ ← descriptors.foldlM checkDescriptor []
  pure ⟨orderBy (fun d d' => d.verifierId ≤ d'.verifierId) descriptors⟩

def find (r : VerifierRegistry) (verifierId verifierVersion : String) :
    Except String VerifierDescriptor :=
  match r.descriptors.find? fun d => d.verifierId = verifierId with
  | some d =>
    if d.verifierVersion = verifierVersion then .ok d
    else .error ("verifier not registered: " ++ verifierId ++ "@" ++ verifierVersion)
  | none => .error ("verifier not registered: " ++ verifierId ++ "@" ++ verifierVersion)

end VerifierRegistry

end Tiangong
