import Tiangong.ProposalRoundTrip

/-!
# The lines of a proposal

A proposal in the line format: seven field lines, a line for each step and a line for each edge.
The field lines may stand in any order, and so may the edges and the items of a list; the steps
stand in the order of the proposal.
-/
open List

namespace Tiangong

namespace ProposalParser

open JsonValue PyStr CodePoint DslState

/-- A text that stands between the separators of a line. -/
def IsWord (s : PyStr) : Prop := s ≠ [] ∧ ∀ c ∈ s, c.isOpaque = true

/-- A word, or words with commas between them. -/
def IsCell (s : PyStr) : Prop := s ≠ [] ∧ ∀ c ∈ s, c.isOpaque = true ∨ c = .ofChar ','

def IsWordList (items : List PyStr) : Prop := (∀ s ∈ items, IsWord s) ∧ items ≠ [py "-"]

/-- A list as a line holds it. -/
def listText (items : List PyStr) : PyStr :=
  if items = [] then py "-" else join (py ",") items

lemma isWord_id (id : OpaqueId) : IsWord id.1 := ⟨id.ne_nil, id.isOpaque⟩

variable {s : PyStr}

lemma IsWord.isCell (h : IsWord s) : IsCell s := ⟨h.1, fun c hc => .inl (h.2 c hc)⟩

lemma isSpace_of_isOpaque {c : CodePoint} (h : c.isOpaque = true) : c.isSpace = false := by
  have hval := isOpaque_val h
  simp only [isSpace, Bool.or_eq_false_iff, Bool.and_eq_false_iff,
    decide_eq_false_iff_not]
  omega

theorem IsCell.isSpace (h : IsCell s) : ∀ c ∈ s, c.isSpace = false := by
  intro c hc
  rcases h.2 c hc with hopaque | rfl
  · exact isSpace_of_isOpaque hopaque
  · decide

lemma IsCell.strip_eq (h : IsCell s) : strip s = s :=
  strip_of_noSpace h.isSpace

lemma IsCell.not_mem {sep : CodePoint} (h : IsCell s) (hsep : sep.isOpaque = false)
    (hcomma : sep ≠ .ofChar ',') : sep ∉ s := by
  intro hmem
  rcases h.2 sep hmem with hopaque | heq
  · rw [hsep] at hopaque
    cases hopaque
  · exact hcomma heq

lemma IsWord.comma_not_mem (h : IsWord s) : ofChar ',' ∉ s := by
  intro hmem
  have hopaque := h.2 _ hmem
  revert hopaque
  decide

variable {items : List PyStr}

lemma listText_isCell (h : ∀ s ∈ items, IsWord s) : IsCell (listText items) := by
  rw [listText]
  split
  · refine ⟨by decide, fun c hc => .inl ?_⟩
    rw [mem_singleton.mp hc]
    decide
  · rename_i hne
    refine ⟨?_, ?_⟩
    · intro hempty
      obtain ⟨first, rest, rfl⟩ := exists_cons_of_ne_nil hne
      obtain ⟨tail, htail⟩ := @PyStr.join_cons (.ofChar ',') first rest
      have hfirst := (append_eq_nil_iff.mp (htail.symm.trans hempty)).1
      exact (h first mem_cons_self).1 hfirst
    · intro c hc
      rcases mem_join hc with hcomma | ⟨s, hs, hmem⟩
      · exact .inr hcomma
      · exact .inl ((h s hs).2 c hmem)

lemma csv_listText (h : IsWordList items) : csv (listText items) = .ok items := by
  have hstrip := (listText_isCell h.1).strip_eq
  by_cases hempty : items = []
  · subst hempty
    rfl
  · have htext : listText items = join [.ofChar ','] items := if_neg hempty
    have hsplit : split (.ofChar ',') (listText items) = items := by
      rw [htext]
      exact split_join (fun s hs => (h.1 s hs).comma_not_mem) hempty
    have hwords : items.map strip = items :=
      map_congr_left (fun s hs => (h.1 s hs).isCell.strip_eq) |>.trans (map_id items)
    have hdash : ¬ (listText items = [] ∨ listText items = py "-") := by
      rintro (hnil | hdash)
      · exact (listText_isCell h.1).1 hnil
      · have hlone : split (.ofChar ',') (py "-") = [py "-"] := by decide
        rw [hdash, hlone] at hsplit
        exact h.2 hsplit.symm
    have hnil : [] ∉ items := fun hmem => (h.1 [] hmem).1 rfl
    simp only [csv, hstrip, if_neg hdash, hsplit, hwords, if_neg hnil]

/-- The parts of a step's line. -/
structure StepLine where
  stepId : PyStr
  candidateId : PyStr
  dependsOn : List PyStr
  outputBindings : List PyStr

/-- A line of a proposal before the last one. -/
inductive DslLine where
  | field (key value : PyStr)
  | step (line : StepLine)
  | edge (left right : PyStr)

namespace DslLine

def key : DslLine → PyStr
  | field key _ => key
  | step _ => py "STEP"
  | edge _ _ => py "EDGE"

def value : DslLine → PyStr
  | field _ value => value
  | step line => join (py "|")
      [line.stepId, line.candidateId, listText line.dependsOn, listText line.outputBindings]
  | edge left right => left ++ .ofChar '>' :: right

def text (line : DslLine) : PyStr := line.key ++ .ofChar ' ' :: line.value

def field? : DslLine → Option (PyStr × PyStr)
  | field key value => some (key, value)
  | _ => none

def step? : DslLine → Option StepLine
  | step line => some line
  | _ => none

def edge? : DslLine → Option (PyStr ×ₗ PyStr)
  | edge left right => some (toLex (left, right))
  | _ => none

/-- The line says what its text says. -/
def Readable : DslLine → Prop
  | field key value => key ∈ dslFields ∧ IsCell value
  | step line => IsWord line.stepId ∧ IsWord line.candidateId ∧ IsWordList line.dependsOn ∧
      IsWordList line.outputBindings
  | edge left right => IsWord left ∧ IsWord right

end DslLine

/-- The text of a proposal's lines. -/
def dslText (lines : List DslLine) : PyStr :=
  join (py "\n") (lines.map DslLine.text ++ [py "END"])

def StepLine.raw (line : StepLine) : JsonValue :=
  .object [(py "step_id", .text line.stepId), (py "candidate_id", .text line.candidateId),
    (py "depends_on", textList line.dependsOn),
    (py "output_bindings", textList line.outputBindings)]

/-- What the lines read so far hold after some more. -/
def DslState.after (s : DslState) (lines : List DslLine) : DslState where
  singleton := (lines.filterMap DslLine.field?).reverse ++ s.singleton
  steps := ((lines.filterMap DslLine.step?).map StepLine.raw).reverse ++ s.steps
  edges := ((lines.filterMap DslLine.edge?).map pairValue).reverse ++ s.edges

lemma keywords_plain : ∀ key ∈ py "STEP" :: py "EDGE" :: dslFields,
    (key ≠ [] ∧ key.all isOpaque = true) ∧ upper key = key := by
  decide +kernel

lemma dslFields_differ : ∀ key ∈ dslFields, key ≠ py "STEP" ∧ key ≠ py "EDGE" := by decide

variable {line : DslLine}

lemma DslLine.Readable.key_mem (h : line.Readable) :
    line.key ∈ py "STEP" :: py "EDGE" :: dslFields := by
  cases line with
  | field key value => exact mem_cons_of_mem _ (mem_cons_of_mem _ h.1)
  | step line => exact mem_cons_self
  | edge left right => exact mem_cons_of_mem _ mem_cons_self

lemma DslLine.Readable.key_isWord (h : line.Readable) : IsWord line.key := by
  obtain ⟨⟨hne, hopaque⟩, -⟩ := keywords_plain _ h.key_mem
  exact ⟨hne, all_eq_true.mp hopaque⟩

lemma DslLine.field_of_key (h : line.key ∈ dslFields) :
    ∃ value, line = .field line.key value := by
  cases line with
  | field key value => exact ⟨value, rfl⟩
  | step line => exact absurd rfl (dslFields_differ _ h).1
  | edge left right => exact absurd rfl (dslFields_differ _ h).2

lemma dslStep_value {line : StepLine} (h : (DslLine.step line).Readable) :
    dslStep (DslLine.step line).value = .ok line.raw := by
  obtain ⟨hid, hcandidate, hdeps, houts⟩ := h
  have hcells : ∀ cell ∈ [line.stepId, line.candidateId, listText line.dependsOn,
      listText line.outputBindings], IsCell cell := by
    simp only [forall_mem_cons, not_mem_nil, false_imp_iff, implies_true, and_true]
    exact ⟨hid.isCell, hcandidate.isCell, listText_isCell hdeps.1, listText_isCell houts.1⟩
  have hsplit : split (.ofChar '|') (DslLine.step line).value = [line.stepId,
      line.candidateId, listText line.dependsOn, listText line.outputBindings] :=
    split_join (fun cell hcell => (hcells cell hcell).not_mem (by decide) (by decide))
      (cons_ne_nil _ _)
  rw [dslStep, hsplit]
  simp only [map_cons, map_nil, hid.isCell.strip_eq, hcandidate.isCell.strip_eq,
    (listText_isCell hdeps.1).strip_eq, (listText_isCell houts.1).strip_eq, csv_listText hdeps,
    csv_listText houts, rejectIf_of_not _ (not_or.mpr ⟨hid.1, hcandidate.1⟩)]
  rfl

lemma dslEdge_value {left right : PyStr} (h : (DslLine.edge left right).Readable) :
    dslEdge (DslLine.edge left right).value = .ok (pairValue (toLex (left, right))) := by
  have hpartition := @PyStr.partition_append (.ofChar '>') left right
    (h.1.isCell.not_mem (by decide) (by decide))
  simp only [dslEdge, DslLine.value, hpartition, h.1.isCell.strip_eq, h.2.isCell.strip_eq, h.1.1,
    h.2.1, Bool.true_eq_false, or_self, if_false]
  rfl

/-- The characters of a line's value are visible ASCII characters. -/
def IsVisible (s : PyStr) : Prop := s ≠ [] ∧ ∀ c ∈ s, c.isSpace = false ∧ c.val < 0x80

lemma IsCell.isVisible (h : IsCell s) : IsVisible s := by
  refine ⟨h.1, fun c hc => ⟨h.isSpace c hc, ?_⟩⟩
  rcases h.2 c hc with hopaque | rfl
  · have hval := isOpaque_val hopaque
    omega
  · decide

theorem IsVisible.append {left right : PyStr} {sep : CodePoint} (hleft : IsVisible left)
    (hsep : sep.isSpace = false ∧ sep.val < 0x80) (hright : IsVisible right) :
    IsVisible (left ++ sep :: right) := by
  refine ⟨by simp, fun c hc => ?_⟩
  rcases mem_append.mp hc with hc | hc
  · exact hleft.2 c hc
  · rcases mem_cons.mp hc with rfl | hc
    · exact hsep
    · exact hright.2 c hc

lemma DslLine.Readable.value_isVisible (h : line.Readable) : IsVisible line.value := by
  cases line with
  | field key value => exact h.2.isVisible
  | step line =>
    obtain ⟨hid, hcandidate, hdeps, houts⟩ := h
    have hbar : isSpace (.ofChar '|') = false ∧ (ofChar '|').val < 0x80 := by
      decide
    rw [DslLine.value, show py "|" = [.ofChar '|'] from rfl, join_cons_cons,
      join_cons_cons, join_cons_cons, join_singleton]
    exact hid.isCell.isVisible.append hbar (hcandidate.isCell.isVisible.append hbar
      ((listText_isCell hdeps.1).isVisible.append hbar (listText_isCell houts.1).isVisible))
  | edge left right => exact h.1.isCell.isVisible.append (by decide) h.2.isCell.isVisible

/-- A readable line adds what it says. -/
lemma dslLine_text {s : DslState} (h : line.Readable)
    (hfresh : line.key ∉ s.singleton.map (·.1)) :
    dslLine s line.text = .ok (s.after [line]) := by
  have hpartition := @PyStr.partition_append (.ofChar ' ') line.key line.value
    (h.key_isWord.isCell.not_mem (by decide) (by decide))
  have hkey := (keywords_plain _ h.key_mem).2
  have hvalue : strip line.value = line.value :=
    strip_of_noSpace fun c hc => (h.value_isVisible.2 c hc).1
  simp only [dslLine, DslLine.text, hpartition, hkey, hvalue, Bool.true_eq_false, if_false]
  cases line with
  | field key value =>
    have hkey : (DslLine.field key value).key ∈ dslFields := h.1
    have hstep := dslFields_differ _ hkey
    simp only [if_neg hstep.1, if_neg hstep.2, hkey, if_true]
    split
    · rename_i hdup
      obtain ⟨f, hf, hsame⟩ := any_eq_true.mp hdup
      exact absurd (mem_map.mpr ⟨f, hf, of_decide_eq_true hsame⟩) hfresh
    · rfl
  | step line =>
    rw [dslStep_value h]
    rfl
  | edge left right =>
    rw [dslEdge_value h]
    rfl

lemma DslState.after_after (s : DslState) (lines more : List DslLine) :
    (s.after lines).after more = s.after (lines ++ more) := by
  simp [after]

variable {lines : List DslLine}

/-- Readable lines add what they say, when no field stands twice. -/
lemma foldlM_text {s : DslState} (h : ∀ line ∈ lines, line.Readable)
    (hfields : ((lines.filterMap DslLine.field?).map (·.1)).Nodup)
    (hfresh : ∀ line ∈ lines, line.key ∉ s.singleton.map (·.1)) :
    (lines.map DslLine.text).foldlM dslLine s = .ok (s.after lines) := by
  induction lines generalizing s with
  | nil => rfl
  | cons line lines ih =>
    have hread := h line mem_cons_self
    rw [map_cons, foldlM_cons, dslLine_text hread (hfresh line mem_cons_self)]
    have hnext : (lines.map DslLine.text).foldlM dslLine (s.after [line]) =
        .ok ((s.after [line]).after lines) := by
      cases line with
      | field key value =>
        obtain ⟨hnew, hrest⟩ := nodup_cons.mp hfields
        refine ih (fun l hl => h l (mem_cons_of_mem _ hl)) hrest fun l hl hmem => ?_
        rcases mem_cons.mp hmem with hsame | hmem
        · obtain ⟨value', hline⟩ := DslLine.field_of_key (hsame ▸ hread.1 : l.key ∈ dslFields)
          refine hnew (mem_map.mpr ⟨(l.key, value'), ?_, hsame⟩)
          exact mem_filterMap.mpr ⟨l, hl, congrArg DslLine.field? hline⟩
        · exact hfresh l (mem_cons_of_mem _ hl) hmem
      | step line =>
        exact ih (fun l hl => h l (mem_cons_of_mem _ hl)) hfields
          fun l hl => hfresh l (mem_cons_of_mem _ hl)
      | edge left right =>
        exact ih (fun l hl => h l (mem_cons_of_mem _ hl)) hfields
          fun l hl => hfresh l (mem_cons_of_mem _ hl)
    rw [after_after] at hnext
    exact hnext

/-- The line is a form of the step. -/
structure IsStepLine (line : StepLine) (s : ProposalStep) : Prop where
  stepId : line.stepId = s.stepId.1
  candidateId : line.candidateId = s.candidateId.1
  dependsOn : line.dependsOn.Perm (s.dependsOn.map (·.1))
  outputBindings : line.outputBindings.Perm (s.outputBindings.map (·.1))

def fieldValues (p : CompositionProposal) (methods actions outputs tags : List PyStr) :
    List (PyStr × PyStr) :=
  [(py "PROPOSAL", rawSchema), (py "GOAL", p.goalRef.1), (py "METHODS", listText methods),
    (py "ACTIONS", listText actions), (py "OUTPUTS", listText outputs),
    (py "FLOW", p.controlFlow.name), (py "TAGS", listText tags)]

/-- The lines are a form of the proposal. -/
structure DslForm (lines : List DslLine) (p : CompositionProposal) : Prop where
  fields : ∃ methods actions outputs tags : List PyStr,
    methods.Perm (p.selectedMethodCandidateIds.map (·.1)) ∧
    actions.Perm (p.selectedActionCandidateIds.map (·.1)) ∧
    outputs.Perm (p.outputBindings.map (·.1)) ∧ tags.Perm (p.rationaleTags.map (·.1)) ∧
    (lines.filterMap DslLine.field?).Perm (fieldValues p methods actions outputs tags)
  steps : List.Forall₂ IsStepLine (lines.filterMap DslLine.step?) p.steps
  edges : (lines.filterMap DslLine.edge?).Perm (p.dependencyEdges.map edgeText)

theorem IsStepLine.raw {line : StepLine} {s : ProposalStep} (h : IsStepLine line s) :
    IsStep line.raw s :=
  ⟨_, rfl, sameTexts_iff.mpr fun _ => Iff.rfl, congrArg JsonValue.text h.stepId,
    congrArg JsonValue.text h.candidateId, ⟨_, rfl, h.dependsOn⟩, ⟨_, rfl, h.outputBindings⟩⟩

lemma id_ne_dash (id : OpaqueId) : id.1 ≠ py "-" := by
  intro h
  have hdash : isOpaqueId (py "-") = false := by decide
  have hid := id.2
  rw [h, hdash] at hid
  cases hid

/-- Identifiers in any order are words. -/
lemma isWordList_of_perm {ids : List OpaqueId}
    (h : items.Perm (ids.map (·.1))) : IsWordList items := by
  refine ⟨fun s hs => ?_, ?_⟩
  · obtain ⟨id, -, rfl⟩ := mem_map.mp (h.mem_iff.mp hs)
    exact isWord_id id
  · rintro rfl
    obtain ⟨id, -, hid⟩ := mem_map.mp (h.mem_iff.mp mem_cons_self)
    exact id_ne_dash id hid

lemma rawSchema_isWord : IsWord rawSchema := by
  have hopaque : rawSchema.all isOpaque = true := by decide +kernel
  exact ⟨by decide, all_eq_true.mp hopaque⟩

lemma flow_isWord (flow : ControlFlow) : IsWord flow.name := by
  have hopaque : flow.name.all isOpaque = true := by cases flow <;> decide +kernel
  exact ⟨by cases flow <;> decide, all_eq_true.mp hopaque⟩

variable {p : CompositionProposal}

/-- The lines of a proposal can be read. -/
theorem DslForm.readable (h : DslForm lines p) : ∀ line ∈ lines, line.Readable := by
  intro line hline
  cases line with
  | field key value =>
    obtain ⟨methods, actions, outputs, tags, hmethods, hactions, houts, htags, hfields⟩ := h.fields
    have hlist : ∀ (items : List PyStr) (ids : List OpaqueId), items.Perm (ids.map (·.1)) →
        IsCell (listText items) :=
      fun items ids hitems => listText_isCell (isWordList_of_perm hitems).1
    have hmem := hfields.mem_iff.mp (mem_filterMap.mpr ⟨_, hline, rfl⟩)
    simp only [fieldValues, mem_cons, not_mem_nil, or_false, Prod.mk.injEq] at hmem
    rcases hmem with ⟨rfl, rfl⟩ | ⟨rfl, rfl⟩ | ⟨rfl, rfl⟩ | ⟨rfl, rfl⟩ | ⟨rfl, rfl⟩ | ⟨rfl, rfl⟩ |
      ⟨rfl, rfl⟩
    · exact ⟨by decide, rawSchema_isWord.isCell⟩
    · exact ⟨by decide, (isWord_id p.goalRef).isCell⟩
    · exact ⟨by decide, hlist _ _ hmethods⟩
    · exact ⟨by decide, hlist _ _ hactions⟩
    · exact ⟨by decide, hlist _ _ houts⟩
    · exact ⟨by decide, (flow_isWord p.controlFlow).isCell⟩
    · exact ⟨by decide, hlist _ _ htags⟩
  | step line =>
    obtain ⟨s, -, hstep⟩ := exists_partner h.steps (mem_filterMap.mpr ⟨_, hline, rfl⟩)
    refine ⟨?_, ?_, isWordList_of_perm hstep.dependsOn, isWordList_of_perm hstep.outputBindings⟩
    · rw [hstep.stepId]
      exact isWord_id _
    · rw [hstep.candidateId]
      exact isWord_id _
  | edge left right =>
    have hmem := h.edges.mem_iff.mp (mem_filterMap.mpr ⟨_, hline, rfl⟩)
    obtain ⟨e, -, he⟩ := mem_map.mp hmem
    cases he
    exact ⟨isWord_id _, isWord_id _⟩

/-- The value of a field line. -/
lemma value_eq {s : DslState} {key : String} {v : PyStr} (hkeys : (s.singleton.map (·.1)).Nodup)
    (h : (py key, v) ∈ s.singleton) : s.value key = v := by
  rw [value, lookup_of_mem hkeys h, Option.getD_some]

theorem DslForm.document (h : DslForm lines p) :
    ((lines.filterMap DslLine.field?).map (·.1)).Nodup ∧
      ∃ raw, dslDocument (after {} lines) = .ok raw ∧ ProposalForm raw p := by
  obtain ⟨methods, actions, outputs, tags, hmethods, hactions, houts, htags, hfields⟩ := h.fields
  have hkeys : ((lines.filterMap DslLine.field?).map (·.1)).Perm dslFields := hfields.map _
  have hnodup : dslFields.Nodup := by decide
  have hsingleton : (DslState.after {} lines).singleton.Perm (lines.filterMap DslLine.field?) := by
    rw [DslState.after, append_nil]
    exact reverse_perm _
  have hkeys' := (hsingleton.map (·.1)).trans hkeys
  refine ⟨hkeys.nodup_iff.mpr hnodup, ?_⟩
  have hvalue : ∀ (key : String) (v : PyStr),
      (py key, v) ∈ fieldValues p methods actions outputs tags →
        (after {} lines).value key = v := by
    intro key v hmem
    exact value_eq (hkeys'.nodup_iff.mpr hnodup) ((hsingleton.trans hfields).mem_iff.mpr hmem)
  have hsame : sameTexts ((after {} lines).singleton.map (·.1)) dslFields = true :=
    sameTexts_iff.mpr fun t => hkeys'.mem_iff
  have hcsv : ∀ (items : List PyStr) (ids : List OpaqueId), items.Perm (ids.map (·.1)) →
      csv (listText items) = .ok items :=
    fun items ids hitems => csv_listText (isWordList_of_perm hitems)
  simp only [dslDocument, hsame, rejectIf_of_not _ (Bool.true_eq_false.mp),
    hvalue "PROPOSAL" rawSchema (by simp [fieldValues]),
    hvalue "GOAL" p.goalRef.1 (by simp [fieldValues]),
    hvalue "METHODS" (listText methods) (by simp [fieldValues]),
    hvalue "ACTIONS" (listText actions) (by simp [fieldValues]),
    hvalue "OUTPUTS" (listText outputs) (by simp [fieldValues]),
    hvalue "FLOW" p.controlFlow.name (by simp [fieldValues]),
    hvalue "TAGS" (listText tags) (by simp [fieldValues]),
    hcsv _ _ hmethods, hcsv _ _ hactions, hcsv _ _ houts, hcsv _ _ htags]
  refine ⟨_, rfl, sameTexts_iff.mpr fun _ => Iff.rfl, rfl, rfl, rfl, ⟨methods, rfl, hmethods⟩,
    ⟨actions, rfl, hactions⟩, ?_, ?_, ⟨outputs, rfl, houts⟩, ⟨tags, rfl, htags⟩⟩
  · refine ⟨(lines.filterMap DslLine.step?).map StepLine.raw, ?_, ?_⟩
    · have hsteps : (DslState.after {} lines).steps.reverse =
          (lines.filterMap DslLine.step?).map StepLine.raw := by
        simp [DslState.after]
      exact congrArg JsonValue.array hsteps
    · exact List.forall₂_map_left_iff.mpr (h.steps.imp fun _ _ hstep => hstep.raw)
  · refine ⟨lines.filterMap DslLine.edge?, ?_, h.edges⟩
    have hedges : (DslState.after {} lines).edges.reverse =
        (lines.filterMap DslLine.edge?).map pairValue := by
      simp [DslState.after]
    exact congrArg JsonValue.array hedges

lemma DslLine.Readable.text_isVisible (h : line.Readable) :
    line.text ≠ [] ∧ (∀ c ∈ line.text, c.isLineBreak = false ∧ c.val < 0x80) ∧
      strip line.text = line.text := by
  obtain ⟨hvalue, hvisible⟩ := h.value_isVisible
  have hkey := h.key_isWord.isCell.isVisible
  have hbreak : ∀ c : CodePoint, c.isSpace = false → c.isLineBreak = false := by
    intro c hspace
    simp only [isSpace, Bool.or_eq_false_iff, Bool.and_eq_false_iff,
      decide_eq_false_iff_not] at hspace
    simp only [isLineBreak, Bool.or_eq_false_iff, Bool.and_eq_false_iff,
      decide_eq_false_iff_not]
    omega
  refine ⟨by simp [DslLine.text], fun c hc => ?_, strip_eq_self ?_ ?_⟩
  · rcases mem_append.mp hc with hc | hc
    · exact ⟨hbreak c (hkey.2 c hc).1, (hkey.2 c hc).2⟩
    · rcases mem_cons.mp hc with rfl | hc
      · decide
      · exact ⟨hbreak c (hvisible c hc).1, (hvisible c hc).2⟩
  · intro c hc
    rw [DslLine.text, List.head?_append_of_ne_nil _ hkey.1] at hc
    exact (hkey.2 c (mem_of_mem_head? hc)).1
  · intro c hc
    rw [DslLine.text, List.getLast?_append_of_ne_nil _ (cons_ne_nil _ _),
      List.getLast?_cons_of_ne_nil hvalue] at hc
    exact (hvisible c (mem_of_mem_getLast? hc)).1

lemma dslLines_dslText (h : ∀ line ∈ lines, line.Readable) :
    dslLines (dslText lines) = lines.map DslLine.text ++ [py "END"] := by
  have hall : ∀ text ∈ lines.map DslLine.text ++ [py "END"], text ≠ [] ∧
      (∀ c ∈ text, c.isLineBreak = false) ∧ strip text = text := by
    intro text htext
    rcases mem_append.mp htext with htext | htext
    · obtain ⟨line, hline, rfl⟩ := mem_map.mp htext
      obtain ⟨hne, hchars, hstrip⟩ := (h line hline).text_isVisible
      exact ⟨hne, fun c hc => (hchars c hc).1, hstrip⟩
    · rw [mem_singleton.mp htext]
      have hbreaks : (py "END").all (fun c => c.isLineBreak = false) = true := by decide
      exact ⟨by decide, fun c hc => of_decide_eq_true (all_eq_true.mp hbreaks c hc), by decide⟩
  have hsplit : splitLines (dslText lines) = lines.map DslLine.text ++ [py "END"] :=
    splitLines_join fun text htext => ⟨(hall text htext).1, (hall text htext).2.1⟩
  have hstrip : (lines.map DslLine.text ++ [py "END"]).map strip =
      lines.map DslLine.text ++ [py "END"] :=
    (map_congr_left fun text htext => (hall text htext).2.2).trans (map_id _)
  rw [dslLines, hsplit, hstrip, filter_eq_self]
  intro text htext
  exact decide_eq_true (hall text htext).1

/-- The lines of a proposal are read as a document that is a form of it. -/
theorem DslForm.parseDsl (h : DslForm lines p) (hcount : lines.length < 256) :
    ∃ raw, ProposalParser.parseDsl (dslText lines) = .ok raw ∧ ProposalForm raw p := by
  obtain ⟨hkeys, raw, hdocument, hform⟩ := h.document
  have hlast : (lines.map DslLine.text ++ [py "END"]).getLast? = some (py "END") :=
    List.getLast?_concat
  have hlength : ¬ 256 < (lines.map DslLine.text ++ [py "END"]).length := by
    rw [length_append, length_map, length_singleton]
    omega
  have hfold := foldlM_text (s := {}) h.readable hkeys fun _ _ => not_mem_nil
  refine ⟨raw, ?_, hform⟩
  simp only [ProposalParser.parseDsl, dslLines_dslText h.readable, hlast,
    rejectIf_of_not _ (not_not.mpr rfl), rejectIf_of_not _ hlength, dropLast_concat, hfold]
  exact hdocument

/-- A text of more than 256 lines is refused. -/
lemma length_lt_of_parseDsl {raw : RawObject}
    (hread : ∀ line ∈ lines, line.Readable) (h : parseDsl (dslText lines) = .ok raw) :
    lines.length < 256 := by
  simp only [parseDsl, eq_ok_iff, dslLines_dslText hread, length_append, length_map,
    length_singleton] at h
  obtain ⟨-, hcount, -⟩ := h
  omega

/-- The text of some readable lines begins with a letter and ends with the last one of `END`. -/
lemma dslText_ends {line : DslLine} {rest : List DslLine} (hline : line.Readable) :
    (dslText (line :: rest)).head? = line.key.head? ∧
      (dslText (line :: rest)).getLast? = some (.ofChar 'D') := by
  obtain ⟨tail, htail⟩ := @PyStr.join_cons (.ofChar '\n') line.text
    (rest.map DslLine.text ++ [py "END"])
  constructor
  · refine (congrArg List.head? htail).trans ?_
    rw [List.head?_append_of_ne_nil _ hline.text_isVisible.1, DslLine.text,
      List.head?_append_of_ne_nil _ hline.key_isWord.1]
  · have hne : (line :: rest).map DslLine.text ≠ [] := cons_ne_nil _ _
    refine (congrArg List.getLast? (join_concat hne (py "END"))).trans ?_
    rw [List.getLast?_append_of_ne_nil _ (cons_ne_nil _ _)]
    rfl

lemma dslText_ascii (h : ∀ line ∈ lines, line.Readable) : (dslText lines).IsAscii := by
  intro c hc
  rcases mem_join hc with rfl | ⟨text, htext, hmem⟩
  · decide
  · rcases mem_append.mp htext with htext | htext
    · obtain ⟨line, hline, rfl⟩ := mem_map.mp htext
      exact ((h line hline).text_isVisible.2.1 c hmem).2
    · rw [mem_singleton.mp htext] at hmem
      have hend : (py "END").IsAscii := by decide
      exact hend c hmem

variable {limit : ℕ} {candidates : CompositionCandidateSnapshot}

lemma parse_dslText (hread : ∀ line ∈ lines, line.Readable) (hne : lines ≠ []) :
    parseCompositionProposal limit (dslText lines) candidates = .ok p ↔
      utf8Length (dslText lines) ≤ 65536 ∧
        ∃ raw, parseDsl (dslText lines) = .ok raw ∧ buildProposal raw candidates = .ok p := by
  obtain ⟨line, rest, rfl⟩ := exists_cons_of_ne_nil hne
  have hline := hread line mem_cons_self
  have hkey := hline.key_isWord
  obtain ⟨hhead, hlast⟩ := @dslText_ends line rest hline
  have htext : dslText (line :: rest) ≠ [] := by
    intro hempty
    rw [hempty] at hlast
    cases hlast
  have hnotJson : (dslText (line :: rest)).head? ≠ some (.ofChar '{') := by
    rw [hhead]
    intro hbrace
    have hopaque := hkey.2 _ (mem_of_mem_head? hbrace)
    revert hopaque
    decide
  rw [parse_eq_ok (dslText_ascii hread) htext, if_neg hnotJson]
  · rw [hhead]
    intro c hc
    exact isSpace_of_isOpaque (hkey.2 c (mem_of_mem_head? hc))
  · rw [hlast]
    rintro c ⟨⟩
    decide

theorem DslForm.ne_nil (h : DslForm lines p) : lines ≠ [] := by
  obtain ⟨methods, actions, outputs, tags, -, -, -, -, hfields⟩ := h.fields
  rintro rfl
  exact absurd hfields.length_eq (by simp [fieldValues])

lemma parse_lines (hform : DslForm lines p) (hwell : WellFormed candidates p) :
    parseCompositionProposal limit (dslText lines) candidates = .ok p ↔
      utf8Length (dslText lines) ≤ 65536 ∧ lines.length < 256 := by
  rw [parse_dslText hform.readable hform.ne_nil]
  constructor
  · rintro ⟨hsize, raw, hraw, -⟩
    exact ⟨hsize, length_lt_of_parseDsl hform.readable hraw⟩
  · rintro ⟨hsize, hcount⟩
    obtain ⟨raw, hraw, hrawForm⟩ := hform.parseDsl hcount
    exact ⟨hsize, raw, hraw, buildProposal_iff.mpr ⟨hrawForm, hwell⟩⟩

def stepLine (s : ProposalStep) : StepLine :=
  ⟨s.stepId.1, s.candidateId.1, s.dependsOn.map (·.1), s.outputBindings.map (·.1)⟩

def dslForm (p : CompositionProposal) : List DslLine :=
  (fieldValues p (p.selectedMethodCandidateIds.map (·.1)) (p.selectedActionCandidateIds.map (·.1))
    (p.outputBindings.map (·.1)) (p.rationaleTags.map (·.1))).map (fun f => .field f.1 f.2) ++
  p.steps.map (fun s => .step (stepLine s)) ++
  p.dependencyEdges.map fun e => .edge e.1.1 e.2.1

lemma dslForm_length (p : CompositionProposal) :
    (dslForm p).length = 7 + p.steps.length + p.dependencyEdges.length := by
  simp only [dslForm, fieldValues, length_append, length_map, length_cons, length_nil, Nat.zero_add]

lemma dslForm_form (p : CompositionProposal) : DslForm (dslForm p) p where
  fields := by
    refine ⟨_, _, _, _, List.Perm.refl _, List.Perm.refl _, List.Perm.refl _, List.Perm.refl _, ?_⟩
    simp [dslForm, filterMap_append, filterMap_map, Function.comp_def, DslLine.field?]
  steps := by
    have hsteps : (dslForm p).filterMap DslLine.step? = p.steps.map stepLine := by
      simp [dslForm, filterMap_append, filterMap_map, Function.comp_def, DslLine.step?]
    rw [hsteps]
    refine List.forall₂_map_left_iff.mpr (List.forall₂_same.mpr fun s _ => ?_)
    exact ⟨rfl, rfl, List.Perm.refl _, List.Perm.refl _⟩
  edges := by
    have hedges : (dslForm p).filterMap DslLine.edge? = p.dependencyEdges.map edgeText := by
      simp [dslForm, filterMap_append, filterMap_map, Function.comp_def, DslLine.edge?, edgeText]
    rw [hedges]

/-- An accepted proposal is built from a document. -/
lemma WellFormed.of_parse {text : PyStr} (h : parseCompositionProposal limit text candidates = .ok p) :
    WellFormed candidates p := by
  simp only [parseCompositionProposal, eq_ok_iff] at h
  obtain ⟨-, -, -, hdocument⟩ := h
  split at hdocument
  · obtain ⟨raw, -, hbuild⟩ := bind_eq_ok.mp hdocument
    exact (buildProposal_iff.mp hbuild).2
  · obtain ⟨raw, -, hbuild⟩ := bind_eq_ok.mp hdocument
    exact (buildProposal_iff.mp hbuild).2

/-- The proposal is read back from each of its forms that fits. -/
structure RoundTrips (limit : ℕ) (candidates : CompositionCandidateSnapshot)
    (p : CompositionProposal) : Prop where
  json : ∀ raw, ProposalForm raw p → DistinctKeys raw →
    (parseCompositionProposal limit (render (.object raw)) candidates = .ok p ↔
      utf8Length (render (.object raw)) ≤ 65536)
  lines : ∀ lines, DslForm lines p →
    (parseCompositionProposal limit (dslText lines) candidates = .ok p ↔
      utf8Length (dslText lines) ≤ 65536 ∧ lines.length < 256)
  /-- Its own fields are such forms. -/
  own : ProposalForm (jsonForm p) p ∧ DistinctKeys (jsonForm p) ∧ DslForm (dslForm p) p

/-- Accepted proposals are read back from their forms, and the documents that the normaliser
accepts are the forms of well-formed proposals. -/
theorem proposalForms_agree (limit : ℕ) (candidates : CompositionCandidateSnapshot)
    (hlimit : 4 ≤ limit) :
    (∀ text p, parseCompositionProposal limit text candidates = .ok p →
      RoundTrips limit candidates p) ∧
      ∀ raw p, buildProposal raw candidates = .ok p ↔
        ProposalForm raw p ∧ WellFormed candidates p := by
  refine ⟨fun text p h => ?_, fun raw p => buildProposal_iff⟩
  have hwell := WellFormed.of_parse h
  exact ⟨fun raw hform hkeys => parse_json hlimit hform hkeys hwell,
    fun lines hform => parse_lines hform hwell,
    jsonForm_form p, jsonForm_distinctKeys p, dslForm_form p⟩

end ProposalParser

namespace Sample

open ProposalParser JsonValue

def action : OpaqueId := ⟨py "A01", by decide⟩

/-- The identifiers of the first letters. -/
def letters (n : ℕ) : List OpaqueId :=
  (List.range n).filterMap fun i =>
    OpaqueId.ofText [⟨(0x61 + i) % 0x110000, Nat.mod_lt _ (by decide)⟩]

def dependentSteps (before : List OpaqueId) : List OpaqueId → List ProposalStep
  | [] => []
  | id :: ids => ⟨id, action, before, []⟩ :: dependentSteps (before ++ [id]) ids

/-- A graph in which every step depends on all the steps before it. -/
def denseProposal (n : ℕ) : CompositionProposal :=
  CompositionProposal.withComputedSha256
    ⟨⟨py "goal", by decide⟩, [], [action], dependentSteps [] (letters n),
      derivedEdges (dependentSteps [] (letters n)), [], .dag, [], .null⟩

lemma dependentSteps_action (before ids : List OpaqueId) :
    ∀ s ∈ dependentSteps before ids, s.candidateId = action ∧ s.outputBindings = [] := by
  induction ids generalizing before with
  | nil => exact nofun
  | cons id ids ih =>
    intro s hs
    rcases mem_cons.mp hs with rfl | hs
    · exact ⟨rfl, rfl⟩
    · exact ih _ s hs

/-- The number of edges, without sorting them. -/
lemma derivedEdges_length (steps : List ProposalStep) :
    (derivedEdges steps).length = (steps.map fun s => s.dependsOn.length).sum := by
  rw [derivedEdges, sortedEdges, length_map, (sortedTexts_perm _).length_eq, length_map,
    length_flatMap]
  simp only [length_map]

lemma denseProposal_steps (n : ℕ) : (denseProposal n).steps = dependentSteps [] (letters n) := rfl

lemma denseProposal_edges (n : ℕ) : (denseProposal n).dependencyEdges.length =
    ((dependentSteps [] (letters n)).map fun s => s.dependsOn.length).sum :=
  derivedEdges_length _

lemma denseProposal_wellFormed {n : ℕ}
    (hsteps : dependentSteps [] (letters n) ≠ [] ∧ (dependentSteps [] (letters n)).length ≤ 128)
    (hordered : ∀ s ∈ dependentSteps [] (letters n), s.dependsOn.Pairwise (· < ·))
    (hids : ((dependentSteps [] (letters n)).map (·.stepId)).Nodup)
    (hdeps : ∀ s ∈ dependentSteps [] (letters n), s.stepId ∉ s.dependsOn ∧
      s.dependsOn ⊆ (dependentSteps [] (letters n)).map (·.stepId))
    (hedges : ((dependentSteps [] (letters n)).map fun s => s.dependsOn.length).sum ≤ 512) :
    WellFormed readCandidates (denseProposal n) where
  candidates_valid := by decide
  methods_ordered := List.Pairwise.nil
  methods_known := nil_subset _
  actions_ordered := pairwise_singleton _ _
  actions_known := by
    have haction : [action.1] ⊆ readCandidates.actionCandidates.map (·.candidateId) := by decide
    exact haction
  outputs_ordered := List.Pairwise.nil
  tags_ordered := List.Pairwise.nil
  steps_bounded := hsteps
  steps_ordered := by
    intro s hs
    refine ⟨hordered s hs, ?_⟩
    rw [(dependentSteps_action _ _ s hs).2]
    exact List.Pairwise.nil
  stepIds_nodup := hids
  actions_used := by
    intro a
    constructor
    · intro ha
      obtain ⟨s, hs⟩ := exists_mem_of_ne_nil _ hsteps.1
      exact ⟨s, hs, (dependentSteps_action _ _ s hs).1.trans (mem_singleton.mp ha).symm⟩
    · rintro ⟨s, hs, rfl⟩
      rw [(dependentSteps_action _ _ s hs).1]
      exact mem_singleton_self _
  dependencies := hdeps
  edges := rfl
  edges_bounded := (denseProposal_edges n).trans_le hedges
  sha256 := rfl

lemma onlyStep_accepted : parseCompositionProposal 4
    (render (.object (jsonForm (denseProposal 1)))) readCandidates = .ok (denseProposal 1) := by
  refine (parse_json (le_refl _) (jsonForm_form _) (jsonForm_distinctKeys _) ?_).mpr ?_
  · exact denseProposal_wellFormed (by decide +kernel) (by decide +kernel) (by decide +kernel)
      (by decide +kernel) (by decide +kernel)
  · rw [utf8Length_render]
    decide +kernel

/-- A graph of 22 steps, which has 231 edges. -/
lemma dense_accepted : parseCompositionProposal 4
    (render (.object (jsonForm (denseProposal 22)))) readCandidates = .ok (denseProposal 22) := by
  refine (parse_json (le_refl _) (jsonForm_form _) (jsonForm_distinctKeys _) ?_).mpr ?_
  · exact denseProposal_wellFormed (by decide +kernel) (by decide +kernel) (by decide +kernel)
      (by decide +kernel) (by decide +kernel)
  · rw [utf8Length_render]
    decide +kernel

/-- One step with a given goal. -/
def goalDocument (goal : PyStr) : ProposalParser.RawObject :=
  (py "goal_ref", .text goal) :: (jsonForm (denseProposal 1)).filter (·.1 ≠ py "goal_ref")

end Sample

open ProposalParser JsonValue in
theorem proposalForms_agree_onlyStep :
    RoundTrips 4 Sample.readCandidates (Sample.denseProposal 1) :=
  (proposalForms_agree 4 Sample.readCandidates (le_refl _)).1 _ _ Sample.onlyStep_accepted

open ProposalParser JsonValue in
/-- An accepted graph whose lines are too many, and a document that is refused for its goal alone. -/
theorem denseLines_refused :
    (parseCompositionProposal 4 (render (.object (jsonForm (Sample.denseProposal 22))))
      Sample.readCandidates = .ok (Sample.denseProposal 22) ∧
      parseCompositionProposal 4 (dslText (dslForm (Sample.denseProposal 22)))
        Sample.readCandidates ≠ .ok (Sample.denseProposal 22)) ∧
    buildProposal (Sample.goalDocument (py "goal")) Sample.readCandidates =
      .ok (Sample.denseProposal 1) ∧
    buildProposal (Sample.goalDocument (py "a goal")) Sample.readCandidates =
      .error contractInvalid := by
  refine ⟨⟨Sample.dense_accepted, ?_⟩, ?_, ?_⟩
  · rw [ne_eq, parse_lines (dslForm_form _) (WellFormed.of_parse Sample.dense_accepted), not_and]
    intro _
    have hlines : 249 ≤ (Sample.dependentSteps [] (Sample.letters 22)).length +
        ((Sample.dependentSteps [] (Sample.letters 22)).map fun s => s.dependsOn.length).sum := by
      decide +kernel
    have hedges := Sample.denseProposal_edges 22
    have hsteps := Sample.denseProposal_steps 22
    rw [dslForm_length, hedges, hsteps]
    omega
  · decide +kernel
  · decide +kernel

end Tiangong
