import Tiangong.JsonRendering
import Tiangong.ProposalErrors
import Tiangong.ProposalForms

/-!
# Two forms of a proposal

An accepted proposal is read back from its JSON document and from its lines, in whatever order the
unordered parts of them stand, as long as each form keeps within its own limits.
-/
open List

namespace Tiangong

namespace CodePoint

variable {c : CodePoint}

/-- The code points of the characters of an opaque identifier. -/
theorem isOpaque_val (h : c.isOpaque = true) :
    (0x2d ≤ c.val ∧ c.val ≤ 0x2e) ∨ (0x30 ≤ c.val ∧ c.val ≤ 0x3a) ∨
      (0x40 ≤ c.val ∧ c.val ≤ 0x5a) ∨ c.val = 0x5f ∨ (0x61 ≤ c.val ∧ c.val ≤ 0x7a) := by
  have hmarks : py "._:@-" = [⟨0x2e, by decide⟩, ⟨0x5f, by decide⟩, ⟨0x3a, by decide⟩,
      ⟨0x40, by decide⟩, ⟨0x2d, by decide⟩] := by decide
  simp only [isOpaque, isAlphanumeric, isDigit, isUpperLetter, isLowerLetter, hmarks,
    contains_eq_mem, mem_cons, not_mem_nil, or_false, Fin.ext_iff, Bool.or_eq_true, holds_iff] at h
  omega

lemma isPlain_of_val (h : (0x23 ≤ c.val ∧ c.val ≤ 0x5b) ∨
    (0x5d ≤ c.val ∧ c.val ≤ 0x7f)) : c.isPlain = true := by
  have hquote : c ≠ ofChar '"' := by
    rintro rfl
    revert h
    decide
  have hbackslash : c ≠ ofChar '\\' := by
    rintro rfl
    revert h
    decide
  simp only [isPlain, holds_iff]
  refine ⟨⟨⟨hquote, hbackslash⟩, ?_⟩, ?_⟩
  · omega
  · omega

lemma isPlain_of_isOpaque (h : c.isOpaque = true) : c.isPlain = true := by
  have hval := isOpaque_val h
  apply isPlain_of_val
  omega

end CodePoint

/-- Every character of an identifier is one of the pattern's. -/
theorem OpaqueId.isOpaque (id : OpaqueId) : ∀ c ∈ id.1, c.isOpaque = true := by
  obtain ⟨s, hs⟩ := id
  cases s with
  | nil => exact nofun
  | cons first rest =>
    simp only [isOpaqueId, Bool.and_eq_true, List.all_eq_true] at hs
    intro c hc
    rcases List.mem_cons.mp hc with rfl | hc
    · rw [CodePoint.isOpaque, hs.1.1, Bool.true_or]
    · exact hs.1.2 c hc

theorem OpaqueId.isPlain (id : OpaqueId) : id.1.all CodePoint.isPlain = true := by
  rw [List.all_eq_true]
  intro c hc
  exact CodePoint.isPlain_of_isOpaque (id.isOpaque c hc)

namespace JsonValue

variable {items : List JsonValue}

lemma printableItems_iff : PrintableItems items ↔ ∀ v ∈ items, v.Printable := by
  induction items with
  | nil => simp [PrintableItems]
  | cons v items ih => simp [PrintableItems, ih]

variable {fields : List (PyStr × JsonValue)}

lemma printableFields_iff :
    PrintableFields fields ↔ ∀ f ∈ fields, f.1.all CodePoint.isPlain = true ∧ f.2.Printable := by
  induction fields with
  | nil => simp [PrintableFields]
  | cons f fields ih =>
    rw [PrintableFields, List.forall_mem_cons, ih, and_assoc]

variable {n : ℕ}

lemma depthItems_le : depthItems items ≤ n ↔ ∀ v ∈ items, v.depth ≤ n := by
  induction items with
  | nil => simp [depthItems]
  | cons v items ih => rw [depthItems, max_le_iff, ih, List.forall_mem_cons]

lemma depthFields_le : depthFields fields ≤ n ↔ ∀ f ∈ fields, f.2.depth ≤ n := by
  induction fields with
  | nil => simp [depthFields]
  | cons f fields ih => rw [depthFields, max_le_iff, ih, List.forall_mem_cons]

/-- The value can be printed and nests no deeper than `n`. -/
def PrintsWithin (n : ℕ) (v : JsonValue) : Prop := v.Printable ∧ v.depth ≤ n

theorem PrintsWithin.mono {m : ℕ} {v : JsonValue} (h : v.PrintsWithin n) (hle : n ≤ m) :
    v.PrintsWithin m := ⟨h.1, h.2.trans hle⟩

lemma printsWithin_text {s : PyStr} (h : s.all CodePoint.isPlain = true) :
    PrintsWithin 0 (.text s) := ⟨h, le_refl _⟩

lemma printsWithin_array
    (h : ∀ v ∈ items, v.PrintsWithin n) : PrintsWithin (n + 1) (.array items) := by
  refine ⟨printableItems_iff.mpr fun v hv => (h v hv).1, Nat.succ_le_succ ?_⟩
  exact depthItems_le.mpr fun v hv => (h v hv).2

lemma printsWithin_object (hkeys : (fields.map (·.1)).Nodup)
    (h : ∀ f ∈ fields, f.1.all CodePoint.isPlain = true ∧ f.2.PrintsWithin n) :
    PrintsWithin (n + 1) (.object fields) := by
  refine ⟨⟨hkeys, printableFields_iff.mpr fun f hf => ⟨(h f hf).1, (h f hf).2.1⟩⟩,
    Nat.succ_le_succ ?_⟩
  exact depthFields_le.mpr fun f hf => (h f hf).2.2

end JsonValue

namespace ProposalParser

open JsonValue

lemma printsWithin_textList {items : List PyStr}
    (h : ∀ s ∈ items, s.all CodePoint.isPlain = true) : PrintsWithin 1 (textList items) := by
  apply printsWithin_array
  intro v hv
  obtain ⟨s, hs, rfl⟩ := List.mem_map.mp hv
  exact printsWithin_text (h s hs)

variable {v : JsonValue}

lemma IsListing.printsWithin {ids : List OpaqueId} (h : IsListing v ids) : PrintsWithin 1 v := by
  obtain ⟨items, rfl, hperm⟩ := h
  apply printsWithin_textList
  intro s hs
  obtain ⟨id, -, rfl⟩ := List.mem_map.mp (hperm.mem_iff.mp hs)
  exact id.isPlain

lemma AreEdges.printsWithin {es : List Edge} (h : AreEdges v es) : PrintsWithin 2 v := by
  obtain ⟨pairs, rfl, hperm⟩ := h
  apply printsWithin_array
  intro v hv
  obtain ⟨pair, hpair, rfl⟩ := List.mem_map.mp hv
  obtain ⟨e, -, rfl⟩ := List.mem_map.mp (hperm.mem_iff.mp hpair)
  apply printsWithin_textList
  intro s hs
  rcases List.mem_cons.mp hs with rfl | hs
  · exact e.1.isPlain
  · rw [List.mem_singleton.mp hs]
    exact e.2.isPlain

/-- No object of the document repeats a key: the root does not, and no step does. -/
def DistinctKeys (raw : RawObject) : Prop :=
  (raw.map (·.1)).Nodup ∧ ∀ items, field raw "steps" = .array items →
    ∀ step, .object step ∈ items → (step.map (·.1)).Nodup

/-- When no key is repeated, the value of a key is the one that stands with it. -/
theorem lookup_of_mem {α : Type*} {fields : List (PyStr × α)} {key : PyStr} {v : α}
    (hkeys : (fields.map (·.1)).Nodup) (h : (key, v) ∈ fields) : fields.lookup key = some v := by
  induction fields with
  | nil => cases h
  | cons f fields ih =>
    obtain ⟨name, value⟩ := f
    rw [List.map_cons, List.nodup_cons] at hkeys
    rcases List.mem_cons.mp h with heq | hrest
    · cases heq
      exact List.lookup_cons_self
    · have hne : (key == name) = false := by
        rw [beq_eq_false_iff_ne]
        rintro rfl
        exact hkeys.1 (List.mem_map.mpr ⟨_, hrest, rfl⟩)
      rw [List.lookup_cons, hne]
      exact ih hkeys.2 hrest

variable {raw : RawObject}

/-- In an object that repeats no key each member is what its field reads. -/
lemma field_of_mem (hkeys : (raw.map (·.1)).Nodup) {name : String} (h : (py name, v) ∈ raw) : field raw name = v := by
  rw [field, lookup_of_mem hkeys h, Option.getD_some]

lemma rawFields_plain : ∀ key ∈ rawRootFields ++ rawStepFields,
    key.all CodePoint.isPlain = true := by decide

lemma StepForm.printsWithin {s : ProposalStep} (h : StepForm raw s)
    (hkeys : (raw.map (·.1)).Nodup) : PrintsWithin 2 (.object raw) := by
  apply printsWithin_object hkeys
  intro f hf
  obtain ⟨key, v⟩ := f
  have hkey : key ∈ rawStepFields :=
    (sameTexts_iff.mp h.fields key).mp (List.mem_map.mpr ⟨_, hf, rfl⟩)
  refine ⟨rawFields_plain key (List.mem_append_right _ hkey), ?_⟩
  simp only [rawStepFields, List.mem_cons, List.not_mem_nil, or_false] at hkey
  rcases hkey with rfl | rfl | rfl | rfl
  · rw [← field_of_mem hkeys hf, h.stepId]
    exact (printsWithin_text s.stepId.isPlain).mono (by decide)
  · rw [← field_of_mem hkeys hf, h.candidateId]
    exact (printsWithin_text s.candidateId.isPlain).mono (by decide)
  · rw [← field_of_mem hkeys hf]
    exact h.dependsOn.printsWithin
  · rw [← field_of_mem hkeys hf]
    exact h.outputBindings.printsWithin

lemma rawSchema_plain : rawSchema.all CodePoint.isPlain = true := by decide

lemma ControlFlow.name_plain (flow : ControlFlow) : flow.name.all CodePoint.isPlain = true := by
  cases flow <;> decide

variable {p : CompositionProposal}

lemma ProposalForm.printsWithin
    (h : ProposalForm raw p) (hkeys : DistinctKeys raw) : PrintsWithin 4 (.object raw) := by
  apply printsWithin_object hkeys.1
  intro f hf
  obtain ⟨key, v⟩ := f
  have hkey : key ∈ rawRootFields :=
    (sameTexts_iff.mp h.fields key).mp (List.mem_map.mpr ⟨_, hf, rfl⟩)
  refine ⟨rawFields_plain key (List.mem_append_left _ hkey), ?_⟩
  simp only [rawRootFields, List.mem_cons, List.not_mem_nil, or_false] at hkey
  rcases hkey with rfl | rfl | rfl | rfl | rfl | rfl | rfl | rfl | rfl
  · rw [← field_of_mem hkeys.1 hf, h.schema]
    exact (printsWithin_text rawSchema_plain).mono (by decide)
  · rw [← field_of_mem hkeys.1 hf, h.goal]
    exact (printsWithin_text p.goalRef.isPlain).mono (by decide)
  · rw [← field_of_mem hkeys.1 hf]
    exact h.methods.printsWithin.mono (by decide)
  · rw [← field_of_mem hkeys.1 hf]
    exact h.actions.printsWithin.mono (by decide)
  · obtain ⟨items, hitems, hsteps⟩ := h.steps
    rw [← field_of_mem hkeys.1 hf, hitems]
    apply printsWithin_array
    intro v hv
    obtain ⟨s, -, raw', rfl, hform⟩ := exists_partner hsteps hv
    exact hform.printsWithin (hkeys.2 items hitems raw' hv)
  · rw [← field_of_mem hkeys.1 hf]
    exact h.edges.printsWithin.mono (by decide)
  · rw [← field_of_mem hkeys.1 hf]
    exact h.outputs.printsWithin.mono (by decide)
  · rw [← field_of_mem hkeys.1 hf, h.flow]
    exact (printsWithin_text (ControlFlow.name_plain p.controlFlow)).mono (by decide)
  · rw [← field_of_mem hkeys.1 hf]
    exact h.tags.printsWithin.mono (by decide)

/-- An ASCII text that starts and ends with visible characters is read in one of the two forms,
when it fits. -/
theorem parse_eq_ok {limit : ℕ} {text : PyStr} {candidates : CompositionCandidateSnapshot} (hascii : text.IsAscii) (hne : text ≠ [])
    (hhead : ∀ c ∈ text.head?, c.isSpace = false)
    (hlast : ∀ c ∈ text.getLast?, c.isSpace = false) :
    parseCompositionProposal limit text candidates = .ok p ↔ PyStr.utf8Length text ≤ 65536 ∧
      ∃ raw, (if text.head? = some (.ofChar '{') then parseJson limit text else parseDsl text) =
        .ok raw ∧ buildProposal raw candidates = .ok p := by
  have hstrip := PyStr.strip_eq_self hhead hlast
  simp only [parseCompositionProposal, hstrip, eq_ok_iff, hne, not_false_eq_true, true_and,
    not_not, not_lt, hascii.encodable]
  by_cases hjson : text.head? = some (.ofChar '{')
  · simp only [hjson, if_true, bind_eq_ok]
  · simp only [hjson, if_false, bind_eq_ok]

theorem parse_json {limit : ℕ} {candidates : CompositionCandidateSnapshot} (hlimit : 4 ≤ limit) (hform : ProposalForm raw p)
    (hkeys : DistinctKeys raw) (hwell : WellFormed candidates p) :
    parseCompositionProposal limit (render (.object raw)) candidates = .ok p ↔
      PyStr.utf8Length (render (.object raw)) ≤ 65536 := by
  obtain ⟨hprintable, hdepth⟩ := hform.printsWithin hkeys
  obtain ⟨hhead, hlast⟩ := render_object_ends raw
  have hne : render (.object raw) ≠ [] := by
    intro hempty
    rw [hempty] at hhead
    cases hhead
  have hraw : parseJson limit (render (.object raw)) = .ok raw :=
    parseJson_eq_ok.mpr (decodeJson_render hprintable (hdepth.trans hlimit))
  rw [parse_eq_ok (render_ascii _ hprintable) hne, if_pos hhead, hraw]
  · constructor
    · exact fun h => h.1
    · exact fun hsize => ⟨hsize, raw, rfl, buildProposal_iff.mpr ⟨hform, hwell⟩⟩
  · rw [hhead]
    rintro c ⟨⟩
    decide
  · rw [hlast]
    rintro c ⟨⟩
    decide

def idList (ids : List OpaqueId) : JsonValue := textList (ids.map (·.1))

def stepForm (s : ProposalStep) : RawObject :=
  [(py "step_id", .text s.stepId.1), (py "candidate_id", .text s.candidateId.1),
    (py "depends_on", idList s.dependsOn), (py "output_bindings", idList s.outputBindings)]

/-- The fields of a proposal as a JSON document. -/
def jsonForm (p : CompositionProposal) : RawObject :=
  [(py "proposal_schema", .text rawSchema), (py "goal_ref", .text p.goalRef.1),
    (py "selected_method_candidate_ids", idList p.selectedMethodCandidateIds),
    (py "selected_action_candidate_ids", idList p.selectedActionCandidateIds),
    (py "steps", .array (p.steps.map fun s => .object (stepForm s))),
    (py "dependency_edges", .array (p.dependencyEdges.map fun e => pairValue (edgeText e))),
    (py "output_bindings", idList p.outputBindings),
    (py "control_flow", .text p.controlFlow.name), (py "rationale_tags", idList p.rationaleTags)]

lemma isListing_idList (ids : List OpaqueId) : IsListing (idList ids) ids :=
  ⟨_, rfl, List.Perm.refl _⟩

lemma stepForm_form (s : ProposalStep) : StepForm (stepForm s) s where
  fields := sameTexts_iff.mpr fun _ => Iff.rfl
  stepId := rfl
  candidateId := rfl
  dependsOn := isListing_idList _
  outputBindings := isListing_idList _

theorem jsonForm_form (p : CompositionProposal) : ProposalForm (jsonForm p) p where
  fields := sameTexts_iff.mpr fun _ => Iff.rfl
  schema := rfl
  goal := rfl
  flow := rfl
  methods := isListing_idList _
  actions := isListing_idList _
  steps := by
    refine ⟨_, rfl, List.forall₂_map_left_iff.mpr (List.forall₂_same.mpr ?_)⟩
    intro s _
    exact ⟨_, rfl, stepForm_form s⟩
  edges := by
    refine ⟨p.dependencyEdges.map edgeText, ?_, List.Perm.refl _⟩
    rw [List.map_map]
    rfl
  outputs := isListing_idList _
  tags := isListing_idList _

theorem jsonForm_distinctKeys (p : CompositionProposal) : DistinctKeys (jsonForm p) := by
  have hroot : rawRootFields.Nodup := by decide
  have hstep : rawStepFields.Nodup := by decide
  refine ⟨hroot, ?_⟩
  rintro _ ⟨⟩ step hmem
  obtain ⟨s, -, hs⟩ := List.mem_map.mp hmem
  cases hs
  exact hstep

end ProposalParser

end Tiangong
