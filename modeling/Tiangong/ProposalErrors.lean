import Tiangong.ProposalParser

/-!
# Errors of the proposal parser

The parser reports what it refuses by an error of its own, and then one repair may be tried. Three
kinds of text end in another exception: text without an encoding, deep nesting, and a control flow
that cannot be looked up in a set.
-/
namespace Tiangong

namespace ProposalParser

/-- The exception is the parser's own. -/
def IsParse : ParserException → Prop
  | .parse _ => True
  | _ => False

variable {candidates : CompositionCandidateSnapshot}

lemma isParse_failure (code : String) (detail : PyStr) : IsParse (failure code detail) := trivial

lemma csv_raises (value : PyStr) : RaisesOnly IsParse (csv value) := by
  unfold csv
  simp only
  split
  · exact raisesOnly_ok
  · split
    · exact raisesOnly_error.mpr (isParse_failure _ _)
    · exact raisesOnly_ok

lemma dslStep_raises (value : PyStr) : RaisesOnly IsParse (dslStep value) := by
  unfold dslStep
  split
  · refine (raisesOnly_rejectIf trivial).bind fun _ => ?_
    refine (csv_raises _).bind fun dependsOn => ?_
    exact (csv_raises _).bind fun outputBindings => raisesOnly_pure
  · exact raisesOnly_error.mpr (isParse_failure _ _)

lemma dslEdge_raises (value : PyStr) : RaisesOnly IsParse (dslEdge value) := by
  unfold dslEdge
  simp only
  split
  · exact raisesOnly_error.mpr (isParse_failure _ _)
  · exact raisesOnly_ok

lemma dslLine_raises (s : DslState) (line : PyStr) : RaisesOnly IsParse (dslLine s line) := by
  unfold dslLine
  simp only
  split
  · exact raisesOnly_error.mpr (isParse_failure _ _)
  · split
    · exact (dslStep_raises _).map
    · split
      · exact (dslEdge_raises _).map
      · split
        · split
          · exact raisesOnly_error.mpr (isParse_failure _ _)
          · exact raisesOnly_ok
        · exact raisesOnly_error.mpr (isParse_failure _ _)

lemma dslDocument_raises (s : DslState) : RaisesOnly IsParse (dslDocument s) := by
  refine (raisesOnly_rejectIf trivial).bind fun _ => ?_
  refine (csv_raises _).bind fun methods => ?_
  refine (csv_raises _).bind fun actions => ?_
  refine (csv_raises _).bind fun outputs => ?_
  exact (csv_raises _).bind fun tags => raisesOnly_pure

lemma parseDsl_raises (text : PyStr) : RaisesOnly IsParse (parseDsl text) := by
  refine (raisesOnly_rejectIf trivial).bind fun _ => ?_
  refine (raisesOnly_rejectIf trivial).bind fun _ => ?_
  exact (RaisesOnly.foldlM dslLine_raises _ _).bind dslDocument_raises

lemma stringList_raises (value : JsonValue) (name : PyStr) :
    RaisesOnly IsParse (stringList value name) := by
  refine (raisesOnly_required trivial).bind fun values => ?_
  exact (raisesOnly_rejectIf trivial).bind fun _ => raisesOnly_pure

lemma checkedId_raises (s : PyStr) : RaisesOnly IsParse (checkedId s) :=
  raisesOnly_required trivial

lemma checkedIds_raises (values : List PyStr) : RaisesOnly IsParse (checkedIds values) :=
  RaisesOnly.mapM checkedId_raises values

lemma readStep_raises (seen : List PyStr) (value : JsonValue) :
    RaisesOnly IsParse (readStep seen value) := by
  unfold readStep
  split
  · refine (raisesOnly_rejectIf trivial).bind fun _ => ?_
    refine (raisesOnly_required trivial).bind fun stepId => ?_
    refine (raisesOnly_required trivial).bind fun candidateId => ?_
    refine (raisesOnly_rejectIf trivial).bind fun _ => ?_
    refine (stringList_raises _ _).bind fun dependsOn => ?_
    refine (stringList_raises _ _).bind fun outputBindings => ?_
    refine (checkedId_raises _).bind fun id => ?_
    refine (checkedId_raises _).bind fun candidate => ?_
    refine (checkedIds_raises _).bind fun dependsOn => ?_
    exact (checkedIds_raises _).bind fun outputBindings => raisesOnly_pure
  · exact raisesOnly_error.mpr (isParse_failure _ _)

lemma readSteps_raises (seen : List PyStr) (values : List JsonValue) :
    RaisesOnly IsParse (readSteps seen values) := by
  induction values generalizing seen with
  | nil => exact raisesOnly_pure
  | cons value values ih =>
    refine (readStep_raises seen value).bind fun ⟨stepId, step⟩ => ?_
    exact (ih (stepId :: seen)).bind fun steps => raisesOnly_pure

lemma steps_raises (value : JsonValue) : RaisesOnly IsParse (steps value) := by
  unfold steps
  split
  · exact (raisesOnly_rejectIf trivial).bind fun _ => readSteps_raises [] _
  · exact raisesOnly_error.mpr (isParse_failure _ _)

lemma readEdge_raises (value : JsonValue) : RaisesOnly IsParse (readEdge value) := by
  unfold readEdge
  split
  · exact raisesOnly_ok
  · exact raisesOnly_error.mpr (isParse_failure _ _)

lemma edges_raises (value : JsonValue) : RaisesOnly IsParse (edges value) := by
  unfold edges
  split
  · refine (raisesOnly_rejectIf trivial).bind fun _ => ?_
    refine (RaisesOnly.mapM readEdge_raises _).bind fun pairs => ?_
    exact (raisesOnly_rejectIf trivial).bind fun _ => raisesOnly_pure
  · exact raisesOnly_error.mpr (isParse_failure _ _)

lemma checkedEdge_raises (edge : PyStr ×ₗ PyStr) : RaisesOnly IsParse (checkedEdge edge) := by
  refine (checkedId_raises _).bind fun left => ?_
  exact (checkedId_raises _).bind fun right => raisesOnly_pure

lemma checkSequence_raises (previous : Option OpaqueId) (steps : List ProposalStep) :
    RaisesOnly IsParse (checkSequence previous steps) := by
  induction steps generalizing previous with
  | nil => exact raisesOnly_pure
  | cons step steps ih =>
    refine (raisesOnly_rejectIf trivial).bind fun _ => ?_
    exact (ih (some step.stepId)).bind fun edges => raisesOnly_pure

lemma validateBindings_raises (proposal : CompositionProposal)
    (candidates : CompositionCandidateSnapshot) :
    RaisesOnly IsParse (validateBindings proposal candidates) := by
  refine (raisesOnly_rejectIf trivial).bind fun _ => ?_
  refine (raisesOnly_rejectIf trivial).bind fun _ => ?_
  refine (raisesOnly_rejectIf trivial).bind fun _ => ?_
  refine (raisesOnly_rejectIf trivial).bind fun _ => ?_
  refine (raisesOnly_rejectIf trivial).bind fun _ => ?_
  refine (RaisesOnly.forM (fun step => raisesOnly_rejectIf trivial) _).bind fun _ => ?_
  split
  · exact (checkSequence_raises none _).bind fun expected => raisesOnly_rejectIf trivial
  · exact raisesOnly_rejectIf trivial

def isContainer : JsonValue → Bool
  | .array _ | .object _ => true
  | _ => false

lemma readControlFlow_raises {value : JsonValue} :
    RaisesOnly IsParse (readControlFlow value) ↔ isContainer value = false := by
  cases value with
  | text s =>
    refine iff_of_true ?_ rfl
    simp only [readControlFlow]
    split
    · exact raisesOnly_ok
    · split
      · exact raisesOnly_ok
      · exact raisesOnly_error.mpr (isParse_failure _ _)
  | null | flag b => exact iff_of_true (raisesOnly_error.mpr (isParse_failure _ _)) rfl
  | array items | object fields => exact iff_of_false (fun h => h _ rfl) nofun

/-- The document has the fields, the schema and the goal of a proposal, and a list or an object for
its control flow. -/
structure UnhashableFlow (raw : RawObject) : Prop where
  fields : sameTexts (raw.map (·.1)) rawRootFields = true
  schema : hasRawSchema (field raw "proposal_schema") = true
  goal : ∃ goal, nonemptyText (field raw "goal_ref") = some goal
  flow : isContainer (field raw "control_flow") = true

variable {raw : RawObject}

lemma buildProposal_raises :
    RaisesOnly IsParse (buildProposal raw candidates) ↔ ¬ UnhashableFlow raw := by
  constructor
  · rintro h ⟨hfields, hschema, ⟨goal, hgoal⟩, hflow⟩
    unfold buildProposal at h
    rw [raisesOnly_bind] at h
    have hafter := h.2 () (rejectIf_of_not _ (by simp [hfields]))
    rw [raisesOnly_bind] at hafter
    have hafter := hafter.2 () (rejectIf_of_not _ (by simp [hschema]))
    rw [raisesOnly_bind] at hafter
    have hafter := hafter.2 goal (required_eq_ok.mpr hgoal)
    have hflowRaises := (raisesOnly_bind.mp hafter).1
    rw [readControlFlow_raises, hflow] at hflowRaises
    cases hflowRaises
  · intro hnot
    refine raisesOnly_bind.mpr ⟨raisesOnly_rejectIf trivial, fun _ hfields => ?_⟩
    refine raisesOnly_bind.mpr ⟨raisesOnly_rejectIf trivial, fun _ hschema => ?_⟩
    refine raisesOnly_bind.mpr ⟨raisesOnly_required trivial, fun goal hgoal => ?_⟩
    have hflow : isContainer (field raw "control_flow") = false := by
      by_contra hcontainer
      rw [rejectIf_eq_ok, Bool.not_eq_false] at hfields hschema
      exact hnot ⟨hfields, hschema, ⟨goal, required_eq_ok.mp hgoal⟩,
        Bool.not_eq_false _ ▸ hcontainer⟩
    refine (readControlFlow_raises.mpr hflow).bind fun controlFlow => ?_
    refine (stringList_raises _ _).bind fun methods => ?_
    refine (stringList_raises _ _).bind fun actions => ?_
    refine (steps_raises _).bind fun steps => ?_
    refine (edges_raises _).bind fun edges => ?_
    refine (stringList_raises _ _).bind fun outputs => ?_
    refine (stringList_raises _ _).bind fun tags => ?_
    refine (checkedId_raises _).bind fun goalRef => ?_
    refine (checkedIds_raises _).bind fun methods => ?_
    refine (raisesOnly_rejectIf trivial).bind fun _ => ?_
    refine (checkedIds_raises _).bind fun actions => ?_
    refine (RaisesOnly.mapM checkedEdge_raises _).bind fun edges => ?_
    refine (checkedIds_raises _).bind fun outputs => ?_
    refine (checkedIds_raises _).bind fun tags => ?_
    exact (validateBindings_raises _ candidates).bind fun _ => raisesOnly_pure

variable {limit : ℕ} {text : PyStr}

lemma parseJson_raises : RaisesOnly IsParse (parseJson limit text) ↔ nesting text ≤ limit := by
  rw [← Nat.not_lt, ← decodeJson_recursion]
  unfold parseJson
  cases hdecode : decodeJson limit text with
  | error fault =>
    cases fault with
    | recursion => simp [faultError, IsParse]
    | malformed message => simp [faultError, IsParse]
    | number literal => simp [faultError, IsParse, failure]
    | duplicateKey key => simp [faultError, IsParse, failure]
  | ok value =>
    cases value with
    | object fields => simp
    | null | flag b | text s | array items => simp [IsParse, failure]

/-- The control flow of a document in the line format is a text. -/
lemma parseDsl_flow (h : parseDsl text = .ok raw) :
    isContainer (field raw "control_flow") = false := by
  simp only [parseDsl, dslDocument, eq_ok_iff] at h
  obtain ⟨-, -, s, -, -, methods, -, actions, -, outputs, -, tags, -, rfl⟩ := h
  rfl

/-- A text on which the parser fails with an exception that is not its own. -/
structure ForeignText (limit : ℕ) (text : PyStr) : Prop where
  nonblank : PyStr.strip text ≠ []
  /-- The text holds a lone surrogate, or it is short enough and a JSON document that nests too
  deep or has a control flow that is a list or an object. -/
  shape : ¬ PyStr.Encodable text ∨ PyStr.utf8Length text ≤ 65536 ∧
    (PyStr.strip text).head? = some (.ofChar '{') ∧ (limit < nesting (PyStr.strip text) ∨ ∃ raw,
        decodeJson limit (PyStr.strip text) = .ok (.object raw) ∧ UnhashableFlow raw)

theorem parseJson_eq_ok :
    parseJson limit text = .ok raw ↔ decodeJson limit text = .ok (.object raw) := by
  unfold parseJson
  split
  · simp [*]
  · simp [*]
  · rename_i v hv hdecode
    rw [hdecode]
    constructor
    · exact nofun
    · rintro ⟨⟩
      exact absurd rfl (hv raw)

/-- A document in either form. -/
lemma document_raises : RaisesOnly IsParse (do
      let raw ← if text.head? = some (.ofChar '{') then parseJson limit text else parseDsl text
      buildProposal raw candidates) ↔
      ¬ (text.head? = some (.ofChar '{') ∧ (limit < nesting text ∨ ∃ raw,
        decodeJson limit text = .ok (.object raw) ∧ UnhashableFlow raw)) := by
  by_cases hjson : text.head? = some (.ofChar '{')
  · simp only [hjson, if_true, true_and, not_or, not_exists, not_and]
    rw [raisesOnly_bind, parseJson_raises, Nat.not_lt]
    simp only [buildProposal_raises, parseJson_eq_ok]
  · simp only [hjson, if_false, false_and, not_false_eq_true, iff_true]
    rw [raisesOnly_bind]
    refine ⟨parseDsl_raises text, fun raw hraw => buildProposal_raises.mpr fun hflow => ?_⟩
    have hcontainer := hflow.flow
    rw [parseDsl_flow hraw] at hcontainer
    cases hcontainer

/-- The parser raises only its own errors exactly on the texts that are not foreign. -/
lemma parse_raises {limit : ℕ} {text : PyStr} :
    RaisesOnly IsParse (parseCompositionProposal limit text candidates) ↔
      ¬ ForeignText limit text := by
  rw [parseCompositionProposal, raisesOnly_guard, raisesOnly_guard, raisesOnly_guard,
    document_raises]
  constructor
  · rintro ⟨-, h⟩ ⟨hblank, hshape⟩
    obtain ⟨hencodable, h⟩ := h hblank
    rcases hshape with hsurrogate | ⟨hlength, hdocument⟩
    · exact hencodable hsurrogate
    · by_cases hsurrogate : PyStr.Encodable text
      · exact (h (not_not.mpr hsurrogate)).2 (Nat.not_lt.mpr hlength) hdocument
      · exact hencodable hsurrogate
  · intro hforeign
    refine ⟨fun _ => isParse_failure _ _, fun hblank => ⟨fun hsurrogate => ?_, fun _ =>
      ⟨fun _ => isParse_failure _ _, fun hlength hdocument => ?_⟩⟩⟩
    · exact (hforeign ⟨hblank, .inl hsurrogate⟩).elim
    · exact hforeign ⟨hblank, .inr ⟨Nat.not_lt.mp hlength, hdocument⟩⟩

/-- The parser fails on a text only with its own error, and a repair that parses is used whenever
the text is unacceptable. -/
structure FailsInItsOwnWay (limit : ℕ) (text : PyStr) (candidates : CompositionCandidateSnapshot) :
    Prop where
  own : RaisesOnly IsParse (parseCompositionProposal limit text candidates)
  repaired : ∀ repairText proposal,
    parseCompositionProposal limit repairText candidates = .ok proposal →
      (∃ accepted, parseCompositionProposal limit text candidates = .ok accepted) ∨
        ∃ code, parseWithSingleRepair limit text candidates (some repairText) =
          .ok ⟨proposal, true, some code⟩

/-- The parser fails in its own way exactly on the texts that are not foreign. -/
theorem failsInItsOwnWay_iff (limit : ℕ) (text : PyStr)
    (candidates : CompositionCandidateSnapshot) :
    FailsInItsOwnWay limit text candidates ↔ ¬ ForeignText limit text := by
  rw [← @parse_raises candidates limit text]
  constructor
  · exact FailsInItsOwnWay.own
  · intro hown
    refine ⟨hown, fun repairText proposal hrepair => ?_⟩
    cases hprimary : parseCompositionProposal limit text candidates with
    | ok accepted => exact .inl ⟨accepted, rfl⟩
    | error e =>
      have hparse := hown e hprimary
      cases e with
      | parse primary =>
        refine .inr ⟨primary.code, ?_⟩
        rw [parseWithSingleRepair, hprimary]
        simp only [hrepair]
      | unencodable | recursion | unhashable => exact hparse.elim

end ProposalParser

namespace Sample

/-- A deterministic action without resources. -/
def toolPrimitive (actionId : ActionId) (effectClass : OpaqueId) (writeSet : List OpaqueId)
    (idempotency : Idempotency) (riskFloor : RiskClass) : ToolSourcePrimitive :=
  let p : ToolSourcePrimitive :=
    { sourcePrimitiveId := ⟨py "tool-source:action", by decide⟩
      actionId := actionId
      actionVersion := py "v1"
      providerComponentId := ⟨py "omni-body", by decide⟩
      implementationRefs := [⟨py "tool.py", none, none⟩]
      implementationHashes := [.null]
      actionManifestSha256 := .null
      argumentSchemaSha256 := .null
      resultSchemaSha256 := .null
      consumes := []
      produces := []
      effectClass := effectClass
      sideEffects := []
      riskFloor := riskFloor
      idempotency := idempotency
      determinismClass := .deterministic
      resourceScope := []
      readSetDescriptor := []
      writeSetDescriptor := writeSet
      evidenceContract := []
      verifierRefs := [⟨py "verifier:artifact", by decide⟩]
      failureTaxonomy := []
      availability := .available
      descriptorSha256 := .null }
  { p with descriptorSha256 := p.computedDescriptorSha256 }

def actionCandidate (candidateId : PyStr) (p : ToolSourcePrimitive)
    (h : p.descriptorSha256 = p.computedDescriptorSha256) : ActionCandidateBinding :=
  let b : ActionCandidateBinding := ⟨candidateId, p, derivedActionSourceRevision p, .null, h, rfl⟩
  { b with bindingSha256 := b.computedSha256 }

def readPrimitive : ToolSourcePrimitive :=
  toolPrimitive ⟨py "file.read", by decide⟩ ⟨py "effect:read", by decide⟩ [] .idempotent .a0

/-- One action that only reads. -/
def readCandidates : CompositionCandidateSnapshot :=
  CompositionCandidateSnapshot.withComputedSha256
    { toolWorldSha256 := .null
      methodWorldSha256 := .null
      methodCandidates := []
      actionCandidates := [actionCandidate (py "A01") readPrimitive rfl]
      candidateSnapshotSha256 := .null
      methods_named := rfl
      methods_bounded := by decide
      actions_named := by decide
      actions_nonempty := by decide
      actions_bounded := by decide
      methods_valid := nofun
      actions_valid := by simp [actionCandidate, ActionCandidateBinding.computedSha256]
      methodIds_nodup := by decide
      actionIds_nodup := by decide }

def listedFlow : PyStr :=
  py ("\x7b\"proposal_schema\":\"tiangong.composition-proposal.v1\",\"goal_ref\":\"goal\"," ++
    "\"selected_method_candidate_ids\":[],\"selected_action_candidate_ids\":[\"A01\"]," ++
    "\"steps\":[],\"dependency_edges\":[],\"output_bindings\":[],\"control_flow\":[]," ++
    "\"rationale_tags\":[]\x7d")

end Sample

open ProposalParser in
/-- A list for the control flow ends in a `TypeError`. -/
theorem listedFlow_unhashable :
    parseCompositionProposal 100 Sample.listedFlow Sample.readCandidates = .error .unhashable ∧
      ¬ ∀ text, FailsInItsOwnWay 100 text Sample.readCandidates := by
  have hraised : parseCompositionProposal 100 Sample.listedFlow Sample.readCandidates =
      .error .unhashable := by
    decide +kernel
  exact ⟨hraised, fun h => (h Sample.listedFlow).own _ hraised⟩

end Tiangong
