import Tiangong.Checked
import Tiangong.CompositionContracts
import Tiangong.JsonText

/-!
# The proposal parser

A proposal arrives as JSON or in a line format. Both become a raw document, from which one
normaliser builds the proposal and checks it against the candidates.
-/
namespace Tiangong

open PyStr

/-- The second part of an error: a text, or the message of another exception. -/
inductive ErrorDetail where
  | text (detail : PyStr)
  | exception (message : String)
  deriving DecidableEq, Repr

/-- `CapabilityCompositionError`, and its subclass for proposals. -/
structure CompositionError where
  code : String
  detail : ErrorDetail
  deriving DecidableEq, Repr

/-- What the parser can raise. -/
inductive ParserException where
  /-- `CompositionProposalParseError` -/
  | parse (error : CompositionError)
  /-- `UnicodeEncodeError` -/
  | unencodable
  /-- `RecursionError` -/
  | recursion
  /-- `TypeError` from a set lookup -/
  | unhashable
  deriving DecidableEq, Repr

namespace ProposalParser

def failure (code : String) (detail : PyStr) : ParserException := .parse ⟨code, .text detail⟩

def rawSchema : PyStr := py "tiangong.composition-proposal.v1"

def rawRootFields : List PyStr :=
  [py "proposal_schema", py "goal_ref", py "selected_method_candidate_ids",
    py "selected_action_candidate_ids", py "steps", py "dependency_edges", py "output_bindings",
    py "control_flow", py "rationale_tags"]

def rawStepFields : List PyStr :=
  [py "step_id", py "candidate_id", py "depends_on", py "output_bindings"]

/-- The keys and values of a decoded object. -/
abbrev RawObject := List (PyStr × JsonValue)

/-- `dict.get` -/
def field (raw : RawObject) (name : String) : JsonValue := (raw.lookup (py name)).getD .null

/-- Two sets of texts are equal. -/
def sameTexts (left right : List PyStr) : Bool :=
  left.all (· ∈ right) && right.all (· ∈ left)

/-- The sorted texts of one set that another lacks. -/
def lacking (texts others : List PyStr) : PyStr :=
  join (py ",") (sortedSet (texts.filter (· ∉ others)))

def faultError : JsonFault → ParserException
  | .malformed message => .parse ⟨"proposal.json.invalid", .exception message⟩
  | .number literal => failure "proposal.json.number_forbidden" literal
  | .duplicateKey key => failure "proposal.json.duplicate_key" key
  | .recursion => .recursion

def parseJson (limit : ℕ) (text : PyStr) : Except ParserException RawObject :=
  match decodeJson limit text with
  | .error fault => .error (faultError fault)
  | .ok (.object fields) => .ok fields
  | .ok _ => .error (failure "proposal.json.root_not_object" [])

def csv (value : PyStr) : Except ParserException (List PyStr) :=
  let stripped := strip value
  if stripped = [] ∨ stripped = py "-" then .ok []
  else
    let parts := (split (.ofChar ',') stripped).map strip
    if [] ∈ parts then .error (failure "proposal.dsl.empty_list_item" []) else .ok parts

def textList (texts : List PyStr) : JsonValue := .array (texts.map .text)

/-- What the lines read so far hold; steps and edges are in reverse. -/
structure DslState where
  singleton : List (PyStr × PyStr) := []
  steps : List JsonValue := []
  edges : List JsonValue := []

def dslFields : List PyStr :=
  [py "PROPOSAL", py "GOAL", py "METHODS", py "ACTIONS", py "OUTPUTS", py "FLOW", py "TAGS"]

def dslStep (value : PyStr) : Except ParserException JsonValue :=
  match (split (.ofChar '|') value).map strip with
  | [stepId, candidateId, dependsOn, outputBindings] => do
    rejectIf (stepId = [] ∨ candidateId = [])
      (failure "proposal.dsl.step_invalid" (value.take 120))
    let dependsOn ← csv dependsOn
    let outputBindings ← csv outputBindings
    pure (.object [(py "step_id", .text stepId), (py "candidate_id", .text candidateId),
      (py "depends_on", textList dependsOn), (py "output_bindings", textList outputBindings)])
  | _ => .error (failure "proposal.dsl.step_invalid" (value.take 120))

def dslEdge (value : PyStr) : Except ParserException JsonValue :=
  let (left, found, right) := partition (.ofChar '>') value
  let left := strip left
  let right := strip right
  if found = false ∨ left = [] ∨ right = [] then
    .error (failure "proposal.dsl.edge_invalid" (value.take 120))
  else .ok (textList [left, right])

def dslLine (s : DslState) (line : PyStr) : Except ParserException DslState :=
  let (key, separator, remainder) := partition (.ofChar ' ') line
  if separator = false then .error (failure "proposal.dsl.line_invalid" (line.take 120))
  else
    let key := upper key
    let value := strip remainder
    if key = py "STEP" then (dslStep value).map fun step => { s with steps := step :: s.steps }
    else if key = py "EDGE" then (dslEdge value).map fun edge => { s with edges := edge :: s.edges }
    else if key ∈ dslFields then
      if s.singleton.any (·.1 = key) then .error (failure "proposal.dsl.duplicate_field" key)
      else .ok { s with singleton := (key, value) :: s.singleton }
    else .error (failure "proposal.dsl.unknown_line" key)

/-- The value of a singleton line; after the check of the fields there is one. -/
def DslState.value (s : DslState) (key : String) : PyStr := (s.singleton.lookup (py key)).getD []

def dslDocument (s : DslState) : Except ParserException RawObject := do
  let keys := s.singleton.map (·.1)
  rejectIf (sameTexts keys dslFields = false)
    (failure "proposal.dsl.fields_incomplete"
      (py "missing=" ++ lacking dslFields keys ++ py ";extra=" ++ lacking keys dslFields))
  let methods ← csv (s.value "METHODS")
  let actions ← csv (s.value "ACTIONS")
  let outputs ← csv (s.value "OUTPUTS")
  let tags ← csv (s.value "TAGS")
  pure [(py "proposal_schema", .text (s.value "PROPOSAL")), (py "goal_ref", .text (s.value "GOAL")),
    (py "selected_method_candidate_ids", textList methods),
    (py "selected_action_candidate_ids", textList actions), (py "steps", .array s.steps.reverse),
    (py "dependency_edges", .array s.edges.reverse), (py "output_bindings", textList outputs),
    (py "control_flow", .text (s.value "FLOW")), (py "rationale_tags", textList tags)]

/-- The lines of a text without surrounding blanks, and without blank ones. -/
def dslLines (text : PyStr) : List PyStr :=
  ((splitLines text).map strip).filter (· ≠ [])

def parseDsl (text : PyStr) : Except ParserException RawObject := do
  let lines := dslLines text
  rejectIf (lines.getLast? ≠ some (py "END")) (failure "proposal.dsl.missing_end" [])
  rejectIf (256 < lines.length) (failure "proposal.dsl.too_many_lines" [])
  let s ← lines.dropLast.foldlM dslLine {}
  dslDocument s

def nonemptyText : JsonValue → Option PyStr
  | .text s => if s = [] then none else some s
  | _ => none

/-- The non-empty texts of a list, when it holds nothing else. -/
def texts : JsonValue → Option (List PyStr)
  | .array items => items.mapM nonemptyText
  | _ => none

def stringList (value : JsonValue) (name : PyStr) : Except ParserException (List PyStr) := do
  let values ← required (texts value) (failure "proposal.field.string_list_invalid" name)
  rejectIf (¬ values.Nodup) (failure "proposal.field.duplicate_value" name)
  pure (sortedTexts values)

/-- The contract refuses a value: `ValidationError`, reported as the parser's own error. -/
def contractInvalid : ParserException :=
  .parse ⟨"proposal.contract.invalid", .exception "ValidationError"⟩

def checkedId (s : PyStr) : Except ParserException OpaqueId :=
  required (OpaqueId.ofText s) contractInvalid

def checkedIds (values : List PyStr) : Except ParserException (List OpaqueId) :=
  values.mapM checkedId

/-- One raw step after the identifiers of the steps before it. -/
def readStep (seen : List PyStr) (value : JsonValue) :
    Except ParserException (PyStr × ProposalStep) :=
  match value with
  | .object raw => do
    rejectIf (sameTexts (raw.map (·.1)) rawStepFields = false)
      (failure "proposal.step.fields_invalid" [])
    let identityInvalid := failure "proposal.step.identity_invalid" []
    let stepId ← required (nonemptyText (field raw "step_id")) identityInvalid
    let candidateId ← required (nonemptyText (field raw "candidate_id")) identityInvalid
    rejectIf (stepId ∈ seen) identityInvalid
    let dependsOn ← stringList (field raw "depends_on") (stepId ++ py ".depends_on")
    let outputBindings ← stringList (field raw "output_bindings") (stepId ++ py ".output_bindings")
    let id ← checkedId stepId
    let candidate ← checkedId candidateId
    let dependsOn ← checkedIds dependsOn
    let outputBindings ← checkedIds outputBindings
    pure (stepId, ⟨id, candidate, dependsOn, outputBindings⟩)
  | _ => .error (failure "proposal.step.fields_invalid" [])

def readSteps (seen : List PyStr) : List JsonValue → Except ParserException (List ProposalStep)
  | [] => pure []
  | value :: values => do
    let (stepId, step) ← readStep seen value
    let steps ← readSteps (stepId :: seen) values
    pure (step :: steps)

def steps (value : JsonValue) : Except ParserException (List ProposalStep) :=
  match value with
  | .array items => do
    rejectIf (items = [] ∨ 128 < items.length) (failure "proposal.steps.invalid" [])
    readSteps [] items
  | _ => .error (failure "proposal.steps.invalid" [])

def readEdge (value : JsonValue) : Except ParserException (PyStr ×ₗ PyStr) :=
  match texts value with
  | some [left, right] => .ok (toLex (left, right))
  | _ => .error (failure "proposal.edge.invalid" [])

def edges (value : JsonValue) : Except ParserException (List (PyStr ×ₗ PyStr)) :=
  match value with
  | .array items => do
    rejectIf (512 < items.length) (failure "proposal.edges.invalid" [])
    let pairs ← items.mapM readEdge
    rejectIf (¬ pairs.Nodup) (failure "proposal.edge.duplicate" [])
    pure (sortedTexts pairs)
  | _ => .error (failure "proposal.edges.invalid" [])

def checkedEdge (edge : PyStr ×ₗ PyStr) : Except ParserException (OpaqueId × OpaqueId) := do
  let left ← checkedId (ofLex edge).1
  let right ← checkedId (ofLex edge).2
  pure (left, right)

/-- The edges in the order of their texts. -/
def sortedEdges (edges : List (OpaqueId × OpaqueId)) : List (OpaqueId × OpaqueId) :=
  (sortedTexts (edges.map fun edge => (toLex edge : OpaqueId ×ₗ OpaqueId))).map fun edge =>
    ofLex edge

/-- The edges that the dependencies of the steps call for. -/
def derivedEdges (steps : List ProposalStep) : List (OpaqueId × OpaqueId) :=
  sortedEdges (steps.flatMap fun step => step.dependsOn.map fun dependency =>
    (dependency, step.stepId))

/-- The dependencies of consecutive steps, each on the step before it. -/
def checkSequence (previous : Option OpaqueId) :
    List ProposalStep → Except ParserException (List (OpaqueId × OpaqueId))
  | [] => pure []
  | step :: steps => do
    rejectIf (step.dependsOn ≠ previous.toList)
      (failure "proposal.sequential.dependency_invalid" step.stepId.1)
    let edges ← checkSequence (some step.stepId) steps
    pure (previous.toList.map (·, step.stepId) ++ edges)

def validateBindings (proposal : CompositionProposal) (candidates : CompositionCandidateSnapshot) :
    Except ParserException Unit := do
  rejectIf (candidates.hasValidSha256 = false)
    (failure "proposal.candidate_snapshot.hash_invalid" [])
  let methods := candidates.methodCandidates.map (·.candidateId)
  let actions := candidates.actionCandidates.map (·.candidateId)
  let selectedMethods := proposal.selectedMethodCandidateIds.map (·.1)
  let selectedActions := proposal.selectedActionCandidateIds.map (·.1)
  rejectIf (¬ selectedMethods ⊆ methods)
    (failure "proposal.method_candidate.unknown" (lacking selectedMethods methods))
  rejectIf (selectedActions = [] ∨ ¬ selectedActions ⊆ actions)
    (failure "proposal.action_candidate.unknown"
      (let unknown := lacking selectedActions actions; if unknown = [] then py "empty" else unknown))
  let stepIds := proposal.steps.map (·.stepId)
  let usedActions := proposal.steps.map (·.candidateId.1)
  rejectIf (sameTexts usedActions selectedActions = false)
    (failure "proposal.action_selection.step_mismatch" [])
  rejectIf (¬ usedActions ⊆ actions) (failure "proposal.step.candidate_not_action" [])
  proposal.steps.forM fun step =>
    rejectIf (step.stepId ∈ step.dependsOn ∨ ¬ step.dependsOn ⊆ stepIds)
      (failure "proposal.step.dependency_invalid" step.stepId.1)
  match proposal.controlFlow with
  | .sequential => do
    let expected ← checkSequence none proposal.steps
    rejectIf (proposal.dependencyEdges ≠ sortedEdges expected)
      (failure "proposal.sequential.edges_invalid" [])
  | .dag =>
    rejectIf (proposal.dependencyEdges ≠ derivedEdges proposal.steps)
      (failure "proposal.dag.edges_mismatch" [])

/-- The control flow of a document. A list or an object is not hashable, so it cannot be looked up
in the set of the two names. -/
def readControlFlow : JsonValue → Except ParserException ControlFlow
  | .text s =>
    if s = ControlFlow.sequential.name then .ok .sequential
    else if s = ControlFlow.dag.name then .ok .dag
    else .error (failure "proposal.control_flow.invalid" [])
  | .null | .flag _ => .error (failure "proposal.control_flow.invalid" [])
  | .array _ | .object _ => .error .unhashable

/-- The schema of a document is the one this parser reads. -/
def hasRawSchema : JsonValue → Bool
  | .text s => s = rawSchema
  | _ => false

def buildProposal (raw : RawObject) (candidates : CompositionCandidateSnapshot) :
    Except ParserException CompositionProposal := do
  let keys := raw.map (·.1)
  rejectIf (sameTexts keys rawRootFields = false)
    (failure "proposal.fields.invalid"
      (py "missing=" ++ lacking rawRootFields keys ++ py ";extra=" ++ lacking keys rawRootFields))
  rejectIf (hasRawSchema (field raw "proposal_schema") = false)
    (failure "proposal.schema.invalid" [])
  let goalRef ← required (nonemptyText (field raw "goal_ref"))
    (failure "proposal.goal_ref.invalid" [])
  let controlFlow ← readControlFlow (field raw "control_flow")
  let methods ← stringList (field raw "selected_method_candidate_ids")
    (py "selected_method_candidate_ids")
  let actions ← stringList (field raw "selected_action_candidate_ids")
    (py "selected_action_candidate_ids")
  let steps ← steps (field raw "steps")
  let edges ← edges (field raw "dependency_edges")
  let outputs ← stringList (field raw "output_bindings") (py "output_bindings")
  let tags ← stringList (field raw "rationale_tags") (py "rationale_tags")
  let goalRef ← checkedId goalRef
  let methods ← checkedIds methods
  rejectIf (actions = []) contractInvalid
  let actions ← checkedIds actions
  let edges ← edges.mapM checkedEdge
  let outputs ← checkedIds outputs
  let tags ← checkedIds tags
  let proposal := CompositionProposal.withComputedSha256
    ⟨goalRef, methods, actions, steps, edges, outputs, controlFlow, tags, .null⟩
  validateBindings proposal candidates
  pure proposal

/-- Parse one proposal. The limit is the number of containers that the interpreter lets the JSON
decoder open. -/
def parseCompositionProposal (limit : ℕ) (text : PyStr)
    (candidates : CompositionCandidateSnapshot) :
    Except ParserException CompositionProposal := do
  rejectIf (strip text = []) (failure "proposal.text.invalid" [])
  rejectIf (¬ PyStr.Encodable text) .unencodable
  rejectIf (65536 < utf8Length text) (failure "proposal.text.invalid" [])
  let stripped := strip text
  let raw ← if stripped.head? = some (.ofChar '{') then parseJson limit stripped
    else parseDsl stripped
  buildProposal raw candidates

structure ProposalParseOutcome where
  proposal : CompositionProposal
  repaired : Bool
  primaryErrorCode : Option String

def parseWithSingleRepair (limit : ℕ) (primaryText : PyStr)
    (candidates : CompositionCandidateSnapshot) (repairText : Option PyStr) :
    Except ParserException ProposalParseOutcome :=
  match parseCompositionProposal limit primaryText candidates with
  | .ok proposal => .ok ⟨proposal, false, none⟩
  | .error (.parse primary) =>
    match repairText with
    | none => .error (.parse primary)
    | some repairText =>
      match parseCompositionProposal limit repairText candidates with
      | .ok proposal => .ok ⟨proposal, true, some primary.code⟩
      | .error (.parse repair) =>
        .error (failure "proposal.repair.failed"
          (py "primary=" ++ py primary.code ++ py ";repair=" ++ py repair.code))
      | .error e => .error e
  | .error e => .error e

end ProposalParser

end Tiangong
