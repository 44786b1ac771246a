import Tiangong.CanonOrder
import Tiangong.Checked
import Tiangong.CompositionContracts

/-!
# The commitment compiler

What a request owes is compiled from its message, its skill and the outputs and deliveries that it
asks for: one obligation for each, under a key that names its source. An amendment compiles anew
from a message and outputs; one that no user asked for may drop no mandatory key.
-/
namespace Tiangong.Commitment

/-- The stable keys of the sources. The texts of two kinds begin differently, and that of a goal
holds the digest of its message. -/
inductive StableKey where
  | goal (digest : Canon)
  /-- The name joins the identifiers of the skill and of its acceptance. -/
  | skill (name : PyStr)
  | output (index : ℕ)
  | delivery (index : ℕ)
  deriving DecidableEq

namespace StableKey

def canon : StableKey → Canon
  | .goal digest => .cons (.text "user#") digest
  | .skill name => .cons (.text "skill:") (.str name)
  | .output index => .cons (.text "user:output#") (.num index)
  | .delivery index => .cons (.text "user:delivery#") (.num index)

theorem canon_injective : Function.Injective canon := by
  intro key key' h
  cases key <;> cases key' <;> simp_all [canon, Canon.str_inj]

/-- The text has a canonical form. -/
def encodable : StableKey → Bool
  | .skill name => decide name.Encodable
  | _ => true

/-- The order of the texts. -/
instance linearOrderStableKey : LinearOrder StableKey := LinearOrder.lift' canon canon_injective

def length : StableKey → ℕ
  | .goal _ => 29
  | .skill name => 6 + name.length
  | .output index => 12 + (Nat.toDigits 10 index).length
  | .delivery index => 14 + (Nat.toDigits 10 index).length

end StableKey

inductive ObligationKind where
  | execution | artifact | delivery | qc | constraint
  deriving DecidableEq, Repr

inductive ObligationSource where
  | user | skill | derivedNecessity | modelOptional
  deriving DecidableEq, Repr

inductive DeliveryPhase where
  | execution | response
  deriving DecidableEq, Repr

def ObligationKind.canon : ObligationKind → Canon
  | .execution => .text "execution"
  | .artifact => .text "artifact"
  | .delivery => .text "delivery"
  | .qc => .text "qc"
  | .constraint => .text "constraint"

def ObligationSource.canon : ObligationSource → Canon
  | .user => .text "user"
  | .skill => .text "skill"
  | .derivedNecessity => .text "derived_necessity"
  | .modelOptional => .text "model_optional"

def DeliveryPhase.canon : DeliveryPhase → Canon
  | .execution => .text "execution"
  | .response => .text "response"

structure CompletionObligation where
  obligationId : Canon
  kind : ObligationKind
  sourceKind : ObligationSource
  sourceRequirementStableKey : StableKey
  sourceRefs : List OpaqueId
  mandatory : Bool
  acceptanceRef : OpaqueId
  deliveryPhase : Option DeliveryPhase
  deriving DecidableEq

namespace CompletionObligation

def canon (o : CompletionObligation) : Canon :=
  .ofList [o.obligationId, o.kind.canon, o.sourceKind.canon, o.sourceRequirementStableKey.canon,
    .strs o.sourceRefs, .flag o.mandatory, .str o.acceptanceRef.1,
    .option DeliveryPhase.canon o.deliveryPhase]

/-- The checks of the contract on an obligation. -/
def valid (o : CompletionObligation) : Bool :=
  1 ≤ o.sourceRequirementStableKey.length && o.sourceRequirementStableKey.length ≤ 256 &&
    o.sourceRefs.length ≤ 256 && decide (o.kind = .delivery) = o.deliveryPhase.isSome

def owed (o : CompletionObligation) : Bool := o.mandatory && o.sourceKind ≠ .modelOptional

end CompletionObligation

/-- A row of the coverage proof; every row is `COVERED`. -/
structure CoverageProofRow where
  sourceRequirementStableKey : StableKey
  sourceRefs : List OpaqueId
  obligationIds : List Canon
  deriving DecidableEq

def CoverageProofRow.canon (row : CoverageProofRow) : Canon :=
  .ofList [row.sourceRequirementStableKey.canon, .strs row.sourceRefs, .ofList row.obligationIds]

/-- The commitment, the request and the run that requirements belong to. -/
structure CommitmentScope where
  commitmentId : OpaqueId
  requestId : Canon
  runId : Canon
  runSequence : ℕ
  generation : ℕ
  rootExperienceId : OpaqueId
  deriving DecidableEq

/-- `CompletionRequirementsVNext`. The digests of its parts are read as the parts. -/
structure CompletionRequirements where
  scope : CommitmentScope
  rawGoalSha256 : Canon
  sourceInputRefs : List OpaqueId
  commitmentRevision : ℕ
  obligations : List CompletionObligation
  coverageProof : List CoverageProofRow
  selectedSkillActivationSha256 : Option PyStr
  supersedesSha256 : Option Canon
  deriving DecidableEq

namespace CompletionRequirements

/-- `requirements_sha256`, which `commitment_sha256` repeats. -/
def requirementsSha256 (r : CompletionRequirements) : Canon :=
  .sha256 (.ofList [.str r.scope.commitmentId.1, r.scope.requestId, r.scope.runId,
    .num r.scope.runSequence, .num r.scope.generation, .str r.scope.rootExperienceId.1,
    r.rawGoalSha256, .strs r.sourceInputRefs, .num r.commitmentRevision,
    .ofList (r.obligations.map CompletionObligation.canon),
    .ofList (r.coverageProof.map CoverageProofRow.canon),
    .option .str r.selectedSkillActivationSha256, .option id r.supersedesSha256])

/-- The checks of the contract. -/
def valid (r : CompletionRequirements) : Bool :=
  1 ≤ r.commitmentRevision && r.sourceInputRefs.length ≤ 256 &&
    1 ≤ r.obligations.length && r.obligations.length ≤ 1024 &&
    1 ≤ r.coverageProof.length && r.coverageProof.length ≤ 1024 &&
    (r.coverageProof.all fun row => 1 ≤ row.obligationIds.length &&
      row.obligationIds.length ≤ 256 && row.sourceRefs.length ≤ 256) &&
    (r.selectedSkillActivationSha256.all fun text => text.length = 64 &&
      text.all fun c => c.isDigit || (0x61 ≤ c.val && c.val ≤ 0x66)) &&
    decide (r.commitmentRevision = 1) = r.supersedesSha256.isNone &&
    r.obligations.all fun o => !o.owed ||
      r.coverageProof.any fun row => o.obligationId ∈ row.obligationIds

end CompletionRequirements

/-- Why the compiler raises. -/
inductive CompilerFault where
  | empty
  | reduces (keys : List StableKey)
  | downgrades (keys : List StableKey)
  /-- A contract, or a text that has no canonical form. -/
  | value
  deriving DecidableEq

/-- The skill mapping of a call. A missing acceptance has the empty identifier. -/
structure SelectedSkill where
  skillId : PyStr
  activationSha256 : Option PyStr
  acceptanceId : PyStr
  deriving DecidableEq

/-- An output that is asked for; a missing value is the empty text. -/
structure OutputConstraint where
  ref : PyStr
  acceptanceRef : PyStr
  deriving DecidableEq

structure DeliveryConstraint where
  ref : PyStr
  acceptanceRef : PyStr
  mandatory : Bool
  deriving DecidableEq

structure CompileInputs where
  rawUserMessage : PyStr
  sourceInputRefs : List OpaqueId
  selectedSkill : Option SelectedSkill
  explicitOutputConstraints : List OutputConstraint
  deliveryConstraints : List DeliveryConstraint
  deriving DecidableEq

/-- What the extractor finds. -/
structure SourceRequirement where
  sourceKind : ObligationSource
  stableKey : StableKey
  sourceRefs : List PyStr
  kind : ObligationKind
  mandatory : Bool
  acceptanceRef : PyStr
  deliveryPhase : Option DeliveryPhase := none
  deriving DecidableEq

/-- `text or default`. -/
def textOr (text default : PyStr) : PyStr := if text = [] then default else text

/-- The key of a message, which holds the start of its digest. -/
def goalKey (message : PyStr) : StableKey := .goal (.sha256 (.str message.strip))

def goalRequirement (inputs : CompileInputs) : List SourceRequirement :=
  if inputs.rawUserMessage.strip = [] then []
  else [⟨.user, goalKey inputs.rawUserMessage, inputs.sourceInputRefs.map (·.1), .execution, true,
    py "acceptance:user:goal", none⟩]

def skillRequirement (inputs : CompileInputs) : List SourceRequirement :=
  match inputs.selectedSkill with
  | none => []
  | some skill =>
    if skill.acceptanceId = [] then []
    else [⟨.skill, .skill (skill.skillId ++ py ":" ++ skill.acceptanceId),
      [skill.activationSha256.getD []], .artifact, true, skill.acceptanceId, none⟩]

def outputRequirement (index : ℕ) (output : OutputConstraint) : SourceRequirement :=
  ⟨.user, .output index, [output.ref], .artifact, true,
    textOr output.acceptanceRef (py "acceptance:user:output"), none⟩

def deliveryRequirement (index : ℕ) (delivery : DeliveryConstraint) : SourceRequirement :=
  ⟨.user, .delivery index, [delivery.ref], .delivery, delivery.mandatory,
    textOr delivery.acceptanceRef (py "acceptance:user:delivery"), some .response⟩

def defaultExtractor (inputs : CompileInputs) : List SourceRequirement :=
  goalRequirement inputs ++ skillRequirement inputs ++
    inputs.explicitOutputConstraints.mapIdx outputRequirement ++
    inputs.deliveryConstraints.mapIdx deliveryRequirement

def obligationId (commitmentId : OpaqueId) (key : StableKey) (kind : ObligationKind) : Canon :=
  .ident "obl_" (.ofList [.text "tiangong.v21.obligation.v1", .str commitmentId.1, key.canon,
    kind.canon])

def obligationOf (commitmentId : OpaqueId) (r : SourceRequirement) :
    Except CompilerFault CompletionObligation := do
  rejectIf (r.stableKey.encodable = false) .value
  let sourceRefs ← (sortedSet r.sourceRefs).mapM fun ref => required (OpaqueId.ofText ref) .value
  let acceptanceRef ← required (OpaqueId.ofText r.acceptanceRef) .value
  let obligation : CompletionObligation :=
    { obligationId := obligationId commitmentId r.stableKey r.kind
      kind := r.kind
      sourceKind := r.sourceKind
      sourceRequirementStableKey := r.stableKey
      sourceRefs := sourceRefs
      mandatory := r.mandatory
      acceptanceRef := acceptanceRef
      deliveryPhase := r.deliveryPhase }
  rejectIf (obligation.valid = false) .value
  pure obligation

def coverageRow (obligations : List CompletionObligation) (key : StableKey) : CoverageProofRow :=
  let own := obligations.filter fun o => o.sourceRequirementStableKey = key
  ⟨key, sortedSet (own.flatMap (·.sourceRefs)), sortedTexts (own.map (·.obligationId))⟩

/-- The arguments of `compile`. -/
structure CompileCall where
  scope : CommitmentScope
  inputs : CompileInputs
  commitmentRevision : ℕ := 1
  supersedesSha256 : Option Canon := none
  deriving DecidableEq

/-- `compile`, with the default extractor. -/
def compile (call : CompileCall) : Except CompilerFault CompletionRequirements := do
  rejectIf (¬ call.inputs.rawUserMessage.Encodable) .value
  let refs := sortedSet call.inputs.sourceInputRefs
  let extracted := defaultExtractor { call.inputs with sourceInputRefs := refs }
  rejectIf (extracted = []) .empty
  let obligations ← extracted.mapM (obligationOf call.scope.commitmentId)
  let keys := sortedSet (obligations.map (·.sourceRequirementStableKey))
  let requirements : CompletionRequirements :=
    { scope := call.scope
      rawGoalSha256 := .sha256 (.str call.inputs.rawUserMessage)
      sourceInputRefs := refs
      commitmentRevision := call.commitmentRevision
      obligations := obligations
      coverageProof := keys.map (coverageRow obligations)
      selectedSkillActivationSha256 :=
        call.inputs.selectedSkill.map fun skill => skill.activationSha256.getD (py "None")
      supersedesSha256 := call.supersedesSha256 }
  rejectIf (requirements.valid = false) .value
  pure requirements

namespace CompletionRequirements

def mandatoryKeys (r : CompletionRequirements) : List StableKey :=
  (r.obligations.filter (·.mandatory)).map (·.sourceRequirementStableKey)

def keys (r : CompletionRequirements) : List StableKey :=
  r.obligations.map (·.sourceRequirementStableKey)

/-- Some obligation of the key is not mandatory. -/
def optional (r : CompletionRequirements) (key : StableKey) : Bool :=
  r.obligations.any fun o => o.sourceRequirementStableKey = key && !o.mandatory

end CompletionRequirements

/-- The message and the outputs of an amendment. -/
structure Amendment where
  rawUserMessage : PyStr
  explicitOutputConstraints : List OutputConstraint
  deriving DecidableEq

/-- What an amendment compiles: the scope and the sources of the current requirements, and neither
the acceptance of their skill nor their deliveries. -/
def amendCall (current : CompletionRequirements) (a : Amendment) : CompileCall where
  scope := current.scope
  inputs :=
    { rawUserMessage := a.rawUserMessage
      sourceInputRefs := current.sourceInputRefs
      selectedSkill := current.selectedSkillActivationSha256.map fun text => ⟨[], some text, []⟩
      explicitOutputConstraints := a.explicitOutputConstraints
      deliveryConstraints := [] }
  commitmentRevision := current.commitmentRevision + 1
  supersedesSha256 := some current.requirementsSha256

def checkMonotonic (current updated : CompletionRequirements) : Except CompilerFault Unit := do
  let missing := current.mandatoryKeys.filter fun key => key ∉ updated.keys
  rejectIf (missing ≠ []) (.reduces (sortedSet missing))
  let downgraded := current.mandatoryKeys.filter updated.optional
  rejectIf (downgraded ≠ []) (.downgrades (sortedSet downgraded))

def amend (current : CompletionRequirements) (userAmendment : Bool) (a : Amendment) :
    Except CompilerFault CompletionRequirements := do
  let updated ← compile (amendCall current a)
  if userAmendment then pure updated
  else do
    checkMonotonic current updated
    pure updated

/-- Amendments that no user asked for, one after another. -/
def amendAll (current : CompletionRequirements) (amendments : List Amendment) :
    Except CompilerFault CompletionRequirements :=
  amendments.foldlM (fun r a => amend r false a) current

/-- Every mandatory obligation is among the satisfied ones, and there is one. -/
def completionReady (r : CompletionRequirements) (satisfied : List Canon) : Bool :=
  r.obligations.any (·.owed) && r.obligations.all fun o => !o.owed || o.obligationId ∈ satisfied

end Tiangong.Commitment
