import Tiangong.ProposalParser

/-!
# Accepted proposals

The raw documents from which the normaliser builds a proposal: they list its identifiers in any
order, and the proposal is well formed for the candidates.
-/
namespace Tiangong

open List

namespace ProposalParser

lemma nonemptyText_eq_some {v : JsonValue} {s : PyStr} :
    nonemptyText v = some s ↔ v = .text s ∧ s ≠ [] := by
  cases v with
  | text t =>
    rw [nonemptyText]
    constructor
    · intro h
      split at h
      · cases h
      · cases h
        exact ⟨rfl, ‹_›⟩
    · rintro ⟨⟨⟩, hne⟩
      exact if_neg hne
  | null | flag b | array items | object fields => simp [nonemptyText]

lemma texts_eq_some {v : JsonValue} {items : List PyStr} :
    texts v = some items ↔ v = textList items ∧ [] ∉ items := by
  cases v with
  | array values =>
    simp only [texts, textList, JsonValue.array.injEq]
    induction values generalizing items with
    | nil => cases items <;> simp
    | cons v values ih =>
      rw [mapM_cons]
      cases hv : nonemptyText v with
      | none =>
        refine iff_of_false nofun ?_
        rintro ⟨hvalues, hitems⟩
        cases items with
        | nil => cases hvalues
        | cons s items =>
          rw [map_cons, List.cons.injEq] at hvalues
          have hs : nonemptyText v = some s :=
            nonemptyText_eq_some.mpr ⟨hvalues.1, fun h => hitems (h ▸ mem_cons_self)⟩
          rw [hv] at hs
          cases hs
      | some s =>
        obtain ⟨rfl, hs⟩ := nonemptyText_eq_some.mp hv
        cases items with
        | nil => cases hrest : values.mapM nonemptyText <;> simp
        | cons t items =>
          have hrest := @ih items
          cases hmap : values.mapM nonemptyText with
          | none => simp_all
          | some rest =>
            rw [hmap] at hrest
            simp only [Option.some.injEq] at hrest
            simp only [bind, Option.bind, pure, Option.some.injEq, List.cons.injEq, map_cons,
              JsonValue.text.injEq, mem_cons, not_or, hrest]
            constructor
            · rintro ⟨rfl, hvalues, hitems⟩
              exact ⟨⟨rfl, hvalues⟩, fun h => hs h.symm, hitems⟩
            · rintro ⟨⟨rfl, hvalues⟩, -, hitems⟩
              exact ⟨rfl, hvalues, hitems⟩
  | null | flag b | text s | object fields => simp [texts, textList]

lemma stringList_eq_ok {v : JsonValue} {name : PyStr} {out : List PyStr} :
    stringList v name = .ok out ↔
      ∃ items, v = textList items ∧ [] ∉ items ∧ items.Nodup ∧ sortedTexts items = out := by
  simp only [stringList, eq_ok_iff, texts_eq_some, not_not, and_assoc]

lemma checkedId_eq_ok {s : PyStr} {id : OpaqueId} : checkedId s = .ok id ↔ s = id.1 := by
  rw [checkedId, required_eq_ok, OpaqueId.ofText_eq_some]

variable {ids : List OpaqueId}

lemma checkedIds_eq_ok {values : List PyStr} :
    checkedIds values = .ok ids ↔ values = ids.map (·.1) := by
  have hmap : List.Forall₂ Eq values (ids.map (·.1)) ↔
      List.Forall₂ (fun s id => s = id.1) values ids := List.forall₂_map_right_iff
  rw [List.forall₂_eq_eq_eq] at hmap
  rw [checkedIds, mapM_eq_ok, hmap]
  simp only [checkedId_eq_ok]

/-- The value lists the identifiers, in any order. -/
def IsListing (v : JsonValue) (ids : List OpaqueId) : Prop :=
  ∃ items, v = textList items ∧ items.Perm (ids.map (·.1))

lemma map_val_nodup : (ids.map (·.1)).Nodup ↔ ids.Nodup :=
  nodup_map_iff Subtype.val_injective

lemma listing_iff {v : JsonValue} {name : PyStr} :
    (∃ out, stringList v name = .ok out ∧ checkedIds out = .ok ids) ↔
      IsListing v ids ∧ ids.Pairwise (· < ·) := by
  simp only [stringList_eq_ok, checkedIds_eq_ok]
  constructor
  · rintro ⟨out, ⟨items, rfl, -, hnodup, hsorted⟩, rfl⟩
    refine ⟨⟨items, rfl, ?_⟩, ?_⟩
    · rw [← hsorted]
      exact (sortedTexts_perm items).symm
    · have hstrict := sortedTexts_strict hnodup
      rw [hsorted, pairwise_map] at hstrict
      exact hstrict
  · rintro ⟨⟨items, rfl, hperm⟩, hsorted⟩
    refine ⟨ids.map (·.1), ⟨items, rfl, ?_, ?_, ?_⟩, rfl⟩
    · intro hmem
      obtain ⟨id, -, hid⟩ := mem_map.mp (hperm.mem_iff.mp hmem)
      exact id.ne_nil hid
    · refine hperm.nodup_iff.mpr (map_val_nodup.mpr ?_)
      exact hsorted.imp fun h => ne_of_lt h
    · refine sortedTexts_eq hperm (pairwise_map.mpr ?_)
      exact hsorted.imp fun h => le_of_lt h

/-- The document is a form of the step. -/
structure StepForm (raw : RawObject) (s : ProposalStep) : Prop where
  fields : sameTexts (raw.map (·.1)) rawStepFields = true
  stepId : field raw "step_id" = .text s.stepId.1
  candidateId : field raw "candidate_id" = .text s.candidateId.1
  dependsOn : IsListing (field raw "depends_on") s.dependsOn
  outputBindings : IsListing (field raw "output_bindings") s.outputBindings

def IsStep (v : JsonValue) (s : ProposalStep) : Prop := ∃ raw, v = .object raw ∧ StepForm raw s

/-- The lists of a step are in order. -/
def OrderedStep (s : ProposalStep) : Prop :=
  s.dependsOn.Pairwise (· < ·) ∧ s.outputBindings.Pairwise (· < ·)

lemma readStep_eq_ok {seen : List PyStr} {v : JsonValue} {stepId : PyStr} {s : ProposalStep} :
    readStep seen v = .ok (stepId, s) ↔
      IsStep v s ∧ stepId = s.stepId.1 ∧ stepId ∉ seen ∧ OrderedStep s := by
  cases v with
  | object raw =>
    simp only [readStep, eq_ok_iff, nonemptyText_eq_some, checkedId_eq_ok, Bool.not_eq_false]
    constructor
    · rintro ⟨hfields, id, ⟨hid, -⟩, candidate, ⟨hcandidate, -⟩, hfresh, deps, hdeps, outs, houts,
        _, rfl, _, rfl, deps', hdeps', outs', houts', ⟨⟩⟩
      obtain ⟨hdepsList, hdepsSorted⟩ := listing_iff.mp ⟨deps, hdeps, hdeps'⟩
      obtain ⟨houtsList, houtsSorted⟩ := listing_iff.mp ⟨outs, houts, houts'⟩
      exact ⟨⟨raw, rfl, hfields, hid, hcandidate, hdepsList, houtsList⟩, rfl, hfresh,
        hdepsSorted, houtsSorted⟩
    · rintro ⟨⟨_, ⟨⟩, hfields, hid, hcandidate, hdeps, houts⟩, rfl, hfresh, hdepsSorted,
        houtsSorted⟩
      obtain ⟨deps, hdepsList, hdepsIds⟩ := listing_iff.mpr ⟨hdeps, hdepsSorted⟩
      obtain ⟨outs, houtsList, houtsIds⟩ := listing_iff.mpr ⟨houts, houtsSorted⟩
      exact ⟨hfields, _, ⟨hid, s.stepId.ne_nil⟩, _, ⟨hcandidate, s.candidateId.ne_nil⟩, hfresh,
        deps, hdepsList, outs, houtsList, _, rfl, _, rfl, _, hdepsIds, _, houtsIds, rfl⟩
  | null | flag b | text t | array items => simp [readStep, IsStep]

lemma readSteps_eq_ok {seen : List PyStr} {values : List JsonValue} {steps : List ProposalStep} :
    readSteps seen values = .ok steps ↔ List.Forall₂ IsStep values steps ∧
      (steps.map (·.stepId)).Nodup ∧ (∀ s ∈ steps, s.stepId.1 ∉ seen) ∧
        ∀ s ∈ steps, OrderedStep s := by
  induction values generalizing seen steps with
  | nil =>
    rw [readSteps, pure_eq_ok, List.forall₂_nil_left_iff]
    constructor
    · rintro rfl
      simp
    · rintro ⟨rfl, -⟩
      rfl
  | cons v values ih =>
    simp only [readSteps, eq_ok_iff, Prod.exists, readStep_eq_ok, ih]
    constructor
    · rintro ⟨_, s, ⟨hs, rfl, hfresh, hordered⟩, rest, ⟨hrest, hnodup, hseen, hall⟩, rfl⟩
      refine ⟨.cons hs hrest, ?_, ?_, ?_⟩
      · rw [map_cons, nodup_cons]
        refine ⟨?_, hnodup⟩
        intro hmem
        obtain ⟨s', hs', hsame⟩ := mem_map.mp hmem
        exact hseen s' hs' (by rw [hsame]; exact mem_cons_self)
      · intro s' hs'
        rcases mem_cons.mp hs' with rfl | hs'
        · exact hfresh
        · exact fun hmem => hseen s' hs' (mem_cons_of_mem _ hmem)
      · intro s' hs'
        rcases mem_cons.mp hs' with rfl | hs'
        · exact hordered
        · exact hall s' hs'
    · rintro ⟨hforms, hnodup, hseen, hall⟩
      cases hforms with
      | cons hs hrest =>
        rename_i s rest
        rw [map_cons, nodup_cons] at hnodup
        refine ⟨_, s, ⟨hs, rfl, hseen s mem_cons_self, hall s mem_cons_self⟩, rest,
          ⟨hrest, hnodup.2, ?_, fun s' hs' => hall s' (mem_cons_of_mem _ hs')⟩, rfl⟩
        intro s' hs' hmem
        rcases mem_cons.mp hmem with hsame | hmem
        · exact hnodup.1 (mem_map.mpr ⟨s', hs', Subtype.ext hsame⟩)
        · exact hseen s' (mem_cons_of_mem _ hs') hmem

/-- The value is a form of the steps, in their order. -/
def AreSteps (v : JsonValue) (steps : List ProposalStep) : Prop :=
  ∃ items, v = .array items ∧ List.Forall₂ IsStep items steps

lemma steps_eq_ok {v : JsonValue} {out : List ProposalStep} :
    steps v = .ok out ↔ AreSteps v out ∧ out ≠ [] ∧ out.length ≤ 128 ∧
      (out.map (·.stepId)).Nodup ∧ ∀ s ∈ out, OrderedStep s := by
  cases v with
  | array items =>
    simp only [steps, eq_ok_iff, readSteps_eq_ok, not_or, not_lt, AreSteps, JsonValue.array.injEq,
      exists_eq_left', not_mem_nil, not_false_eq_true, implies_true, true_and]
    constructor
    · rintro ⟨⟨hne, hlength⟩, hforms, hnodup, hall⟩
      refine ⟨hforms, ?_, hforms.length_eq ▸ hlength, hnodup, hall⟩
      rintro rfl
      exact hne (List.forall₂_nil_right_iff.mp hforms)
    · rintro ⟨hforms, hne, hlength, hnodup, hall⟩
      refine ⟨⟨?_, hforms.length_eq ▸ hlength⟩, hforms, hnodup, hall⟩
      rintro rfl
      exact hne (List.forall₂_nil_left_iff.mp hforms)
  | null | flag b | text t | object fields => simp [steps, AreSteps]

abbrev Edge := OpaqueId × OpaqueId

def edgeText (e : Edge) : PyStr ×ₗ PyStr := toLex (e.1.1, e.2.1)

/-- The two texts of an edge as a value. -/
def pairValue (pair : PyStr ×ₗ PyStr) : JsonValue := textList [(ofLex pair).1, (ofLex pair).2]

lemma edgeText_injective : Function.Injective edgeText := by
  intro e e' h
  have htexts := congrArg ofLex h
  exact Prod.ext (Subtype.ext (congrArg Prod.fst htexts)) (Subtype.ext (congrArg Prod.snd htexts))

lemma edgeText_le {e e' : Edge} :
    edgeText e ≤ edgeText e' ↔ (toLex e : OpaqueId ×ₗ OpaqueId) ≤ toLex e' := by
  rw [edgeText, edgeText, Prod.Lex.toLex_le_toLex, Prod.Lex.toLex_le_toLex, Subtype.ext_iff]
  rfl

lemma readEdge_eq_ok {v : JsonValue} {pair : PyStr ×ₗ PyStr} :
    readEdge v = .ok pair ↔ v = pairValue pair ∧ (ofLex pair).1 ≠ [] ∧ (ofLex pair).2 ≠ [] := by
  unfold readEdge
  split
  · rename_i left right htexts
    obtain ⟨rfl, hne⟩ := texts_eq_some.mp htexts
    simp only [mem_cons, not_mem_nil, or_false, not_or] at hne
    constructor
    · rintro ⟨⟩
      exact ⟨rfl, fun h => hne.1 h.symm, fun h => hne.2 h.symm⟩
    · rintro ⟨hv, -⟩
      have hitems : left = (ofLex pair).1 ∧ right = (ofLex pair).2 := by
        simpa [textList, pairValue] using hv
      rw [hitems.1, hitems.2]
      rfl
  · rename_i hother
    refine iff_of_false nofun ?_
    rintro ⟨rfl, hleft, hright⟩
    refine hother _ _ (texts_eq_some.mpr ⟨rfl, ?_⟩)
    simp [hleft.symm, hright.symm]

lemma readEdges_eq_ok {items : List JsonValue} {pairs : List (PyStr ×ₗ PyStr)} :
    items.mapM readEdge = .ok pairs ↔ items = pairs.map pairValue ∧
      ∀ pair ∈ pairs, (ofLex pair).1 ≠ [] ∧ (ofLex pair).2 ≠ [] := by
  rw [mapM_eq_ok]
  simp only [readEdge_eq_ok]
  constructor
  · intro h
    induction h with
    | nil => exact ⟨rfl, nofun⟩
    | cons hfirst _ ih =>
      refine ⟨by rw [map_cons, ← hfirst.1, ih.1], ?_⟩
      intro pair hpair
      rcases mem_cons.mp hpair with rfl | hpair
      · exact hfirst.2
      · exact ih.2 pair hpair
  · rintro ⟨rfl, hne⟩
    rw [List.forall₂_map_left_iff, List.forall₂_same]
    exact fun pair hpair => ⟨rfl, hne pair hpair⟩

variable {es : List Edge}

lemma checkedEdges_eq_ok {pairs : List (PyStr ×ₗ PyStr)} :
    pairs.mapM checkedEdge = .ok es ↔ pairs = es.map edgeText := by
  have hone : ∀ pair e, checkedEdge pair = .ok e ↔ pair = edgeText e := by
    intro pair e
    simp only [checkedEdge, eq_ok_iff, checkedId_eq_ok]
    constructor
    · rintro ⟨left, hleft, right, hright, rfl⟩
      exact congrArg toLex (Prod.ext hleft hright)
    · rintro rfl
      exact ⟨e.1, rfl, e.2, rfl, rfl⟩
  have hmap : List.Forall₂ Eq pairs (es.map edgeText) ↔
      List.Forall₂ (fun pair e => pair = edgeText e) pairs es := List.forall₂_map_right_iff
  rw [List.forall₂_eq_eq_eq] at hmap
  rw [mapM_eq_ok, hmap]
  simp only [hone]

def AreEdges (v : JsonValue) (es : List Edge) : Prop :=
  ∃ pairs : List (PyStr ×ₗ PyStr), v = .array (pairs.map pairValue) ∧ pairs.Perm (es.map edgeText)

lemma edges_iff {v : JsonValue} :
    (∃ out, edges v = .ok out ∧ out.mapM checkedEdge = .ok es) ↔
      AreEdges v es ∧ es.length ≤ 512 ∧ es.Pairwise fun e e' => edgeText e < edgeText e' := by
  simp only [checkedEdges_eq_ok]
  cases v with
  | array items =>
    simp only [edges, eq_ok_iff, not_lt, not_not, readEdges_eq_ok]
    constructor
    · rintro ⟨out, ⟨hlength, pairs, ⟨rfl, -⟩, hnodup, hsorted⟩, rfl⟩
      have hperm : pairs.Perm (es.map edgeText) := hsorted ▸ (sortedTexts_perm pairs).symm
      refine ⟨⟨pairs, rfl, hperm⟩, ?_, ?_⟩
      · rw [← length_map (f := edgeText), ← hperm.length_eq]
        rw [length_map] at hlength
        exact hlength
      · have hstrict := sortedTexts_strict hnodup
        rw [hsorted, pairwise_map] at hstrict
        exact hstrict
    · rintro ⟨⟨pairs, hitems, hperm⟩, hlength, hsorted⟩
      cases hitems
      refine ⟨es.map edgeText, ⟨?_, pairs, ⟨rfl, ?_⟩, ?_, ?_⟩, rfl⟩
      · rw [length_map, hperm.length_eq, length_map]
        exact hlength
      · intro pair hpair
        obtain ⟨e, -, rfl⟩ := mem_map.mp (hperm.mem_iff.mp hpair)
        exact ⟨e.1.ne_nil, e.2.ne_nil⟩
      · refine hperm.nodup_iff.mpr (List.Nodup.map edgeText_injective ?_)
        have hne : ∀ {e e' : Edge}, edgeText e < edgeText e' → e ≠ e' := by
          rintro e _ h rfl
          exact lt_irrefl _ h
        exact hsorted.imp hne
      · refine sortedTexts_eq hperm (pairwise_map.mpr ?_)
        exact hsorted.imp fun h => le_of_lt h
  | null | flag b | text t | object fields => simp [edges, AreEdges]

lemma sortedEdges_sorted (h : es.Nodup) :
    (sortedEdges es).Pairwise fun e e' => edgeText e < edgeText e' := by
  have hnodup : (es.map fun e => (toLex e : OpaqueId ×ₗ OpaqueId)).Nodup :=
    h.map toLex.injective
  rw [sortedEdges, pairwise_map]
  refine (sortedTexts_strict hnodup).imp ?_
  intro e e' hlt
  refine lt_of_le_of_ne (edgeText_le.mpr (le_of_lt hlt)) ?_
  intro hsame
  have heq : ofLex e = ofLex e' := edgeText_injective hsame
  exact ne_of_lt hlt heq

/-- The edges that dependencies call for differ when the steps and their dependencies do. -/
lemma derivedEdges_sorted {steps : List ProposalStep} (hsteps : (steps.map (·.stepId)).Nodup)
    (hordered : ∀ s ∈ steps, OrderedStep s) :
    (derivedEdges steps).Pairwise fun e e' => edgeText e < edgeText e' := by
  apply sortedEdges_sorted
  rw [nodup_flatMap]
  refine ⟨?_, ?_⟩
  · intro s hs
    have hdeps : s.dependsOn.Nodup := (hordered s hs).1.imp fun h => ne_of_lt h
    exact hdeps.map fun a b hab => congrArg Prod.fst hab
  · rw [List.Nodup, pairwise_map] at hsteps
    refine hsteps.imp ?_
    intro s s' hne e he he'
    obtain ⟨d, -, rfl⟩ := mem_map.mp he
    obtain ⟨d', -, hsame⟩ := mem_map.mp he'
    exact hne (congrArg Prod.snd hsame).symm

/-- Each step depends on the step before it and on nothing else. -/
def FollowsChain : Option OpaqueId → List ProposalStep → Prop
  | _, [] => True
  | previous, step :: steps =>
    step.dependsOn = previous.toList ∧ FollowsChain (some step.stepId) steps

def chainEdges : Option OpaqueId → List ProposalStep → List Edge
  | _, [] => []
  | previous, step :: steps =>
    previous.toList.map (·, step.stepId) ++ chainEdges (some step.stepId) steps

lemma checkSequence_eq_ok {previous : Option OpaqueId} {steps : List ProposalStep} : checkSequence previous steps = .ok es ↔
      FollowsChain previous steps ∧ chainEdges previous steps = es := by
  induction steps generalizing previous es with
  | nil => simp [checkSequence, FollowsChain, chainEdges]
  | cons step steps ih =>
    simp only [checkSequence, eq_ok_iff, not_not, ih, FollowsChain, chainEdges]
    constructor
    · rintro ⟨hfirst, _, ⟨hrest, rfl⟩, hes⟩
      exact ⟨⟨hfirst, hrest⟩, hes⟩
    · rintro ⟨⟨hfirst, hrest⟩, hes⟩
      exact ⟨hfirst, _, ⟨hrest, rfl⟩, hes⟩

lemma chainEdges_eq {previous : Option OpaqueId} {steps : List ProposalStep}
    (h : FollowsChain previous steps) : chainEdges previous steps =
      steps.flatMap fun step => step.dependsOn.map fun dependency => (dependency, step.stepId) := by
  induction steps generalizing previous with
  | nil => rfl
  | cons step steps ih =>
    rw [chainEdges, flatMap_cons, ih h.2, h.1]

/-- A proposal that the parser can return for the candidates. -/
structure WellFormed (candidates : CompositionCandidateSnapshot) (p : CompositionProposal) :
    Prop where
  candidates_valid : candidates.hasValidSha256 = true
  methods_ordered : p.selectedMethodCandidateIds.Pairwise (· < ·)
  methods_known : p.selectedMethodCandidateIds.map (·.1) ⊆
    candidates.methodCandidates.map (·.candidateId)
  actions_ordered : p.selectedActionCandidateIds.Pairwise (· < ·)
  actions_known : p.selectedActionCandidateIds.map (·.1) ⊆
    candidates.actionCandidates.map (·.candidateId)
  outputs_ordered : p.outputBindings.Pairwise (· < ·)
  tags_ordered : p.rationaleTags.Pairwise (· < ·)
  steps_bounded : p.steps ≠ [] ∧ p.steps.length ≤ 128
  steps_ordered : ∀ s ∈ p.steps, OrderedStep s
  /-- The step identifiers are unique. -/
  stepIds_nodup : (p.steps.map (·.stepId)).Nodup
  /-- The selected actions are the used ones. -/
  actions_used : ∀ a, a ∈ p.selectedActionCandidateIds ↔ ∃ s ∈ p.steps, s.candidateId = a
  /-- Dependencies are among the steps, and no step depends on itself. -/
  dependencies : ∀ s ∈ p.steps, s.stepId ∉ s.dependsOn ∧ s.dependsOn ⊆ p.steps.map (·.stepId)
  /-- The edges are those of the dependencies, or those of the chain. -/
  edges : match p.controlFlow with
    | .dag => p.dependencyEdges = derivedEdges p.steps
    | .sequential => FollowsChain none p.steps ∧
        p.dependencyEdges = sortedEdges (chainEdges none p.steps)
  edges_bounded : p.dependencyEdges.length ≤ 512
  sha256 : p.proposalSha256 = p.computedSha256

/-- The document is a form of the proposal: the fields are its fields, and lists and edges stand in
any order. -/
structure ProposalForm (raw : RawObject) (p : CompositionProposal) : Prop where
  fields : sameTexts (raw.map (·.1)) rawRootFields = true
  schema : field raw "proposal_schema" = .text rawSchema
  goal : field raw "goal_ref" = .text p.goalRef.1
  flow : field raw "control_flow" = .text p.controlFlow.name
  methods : IsListing (field raw "selected_method_candidate_ids") p.selectedMethodCandidateIds
  actions : IsListing (field raw "selected_action_candidate_ids") p.selectedActionCandidateIds
  steps : AreSteps (field raw "steps") p.steps
  edges : AreEdges (field raw "dependency_edges") p.dependencyEdges
  outputs : IsListing (field raw "output_bindings") p.outputBindings
  tags : IsListing (field raw "rationale_tags") p.rationaleTags

variable {candidates : CompositionCandidateSnapshot} {p : CompositionProposal}

lemma WellFormed.edges_eq
    (h : WellFormed candidates p) : p.dependencyEdges = derivedEdges p.steps := by
  have hedges := h.edges
  cases hflow : p.controlFlow with
  | dag => rwa [hflow] at hedges
  | sequential =>
    rw [hflow] at hedges
    rw [hedges.2, chainEdges_eq hedges.1]
    rfl

lemma hasRawSchema_iff {v : JsonValue} : hasRawSchema v = true ↔ v = .text rawSchema := by
  cases v <;> simp [hasRawSchema]

lemma readControlFlow_eq_ok {v : JsonValue} {flow : ControlFlow} :
    readControlFlow v = .ok flow ↔ v = .text flow.name := by
  cases v with
  | text s =>
    have hdiffer : ControlFlow.dag.name ≠ ControlFlow.sequential.name := by decide
    simp only [readControlFlow, JsonValue.text.injEq]
    by_cases hsequential : s = ControlFlow.sequential.name
    · subst hsequential
      cases flow <;> simp [hdiffer.symm]
    · by_cases hdag : s = ControlFlow.dag.name
      · subst hdag
        cases flow <;> simp [hdiffer]
      · cases flow <;> simp [hsequential, hdag]
  | null | flag b | array items | object fields => simp [readControlFlow]

theorem sameTexts_iff {left right : List PyStr} :
    sameTexts left right = true ↔ ∀ t, t ∈ left ↔ t ∈ right := by
  simp only [sameTexts, holds_iff, all_eq_true]
  exact ⟨fun h t => ⟨h.1 t, h.2 t⟩, fun h => ⟨fun t => (h t).1, fun t => (h t).2⟩⟩

/-- What the check against the candidates accepts. -/
lemma validateBindings_eq_ok :
    validateBindings p candidates = .ok () ↔ candidates.hasValidSha256 = true ∧
      p.selectedMethodCandidateIds.map (·.1) ⊆ candidates.methodCandidates.map (·.candidateId) ∧
      (p.selectedActionCandidateIds ≠ [] ∧ p.selectedActionCandidateIds.map (·.1) ⊆
        candidates.actionCandidates.map (·.candidateId)) ∧
      (∀ a, a ∈ p.selectedActionCandidateIds ↔ ∃ s ∈ p.steps, s.candidateId = a) ∧
      (∀ s ∈ p.steps, s.stepId ∉ s.dependsOn ∧ s.dependsOn ⊆ p.steps.map (·.stepId)) ∧
      match p.controlFlow with
      | .dag => p.dependencyEdges = derivedEdges p.steps
      | .sequential => FollowsChain none p.steps ∧
          p.dependencyEdges = sortedEdges (chainEdges none p.steps) := by
  have hused : sameTexts (p.steps.map (·.candidateId.1))
      (p.selectedActionCandidateIds.map (·.1)) = true ↔
        ∀ a, a ∈ p.selectedActionCandidateIds ↔ ∃ s ∈ p.steps, s.candidateId = a := by
    rw [sameTexts_iff]
    constructor
    · intro h a
      have ha := h a.1
      rw [mem_map_of_injective Subtype.val_injective] at ha
      rw [← ha, mem_map]
      simp only [Subtype.val_inj]
    · intro h t
      simp only [mem_map]
      constructor
      · rintro ⟨s, hs, rfl⟩
        exact ⟨s.candidateId, (h _).mpr ⟨s, hs, rfl⟩, rfl⟩
      · rintro ⟨a, ha, rfl⟩
        obtain ⟨s, hs, rfl⟩ := (h a).mp ha
        exact ⟨s, hs, rfl⟩
  simp only [validateBindings, eq_ok_iff, Bool.not_eq_false, not_or, not_not, forM_eq_ok, hused,
    map_eq_nil_iff]
  constructor
  · rintro ⟨hvalid, hmethods, hactions, hsame, -, hdeps, hflow⟩
    refine ⟨hvalid, hmethods, hactions, hsame, hdeps, ?_⟩
    cases hcontrol : p.controlFlow with
    | dag =>
      rw [hcontrol] at hflow
      exact not_not.mp (rejectIf_eq_ok.mp hflow)
    | sequential =>
      rw [hcontrol] at hflow
      simp only [eq_ok_iff, not_not, checkSequence_eq_ok] at hflow
      obtain ⟨_, ⟨hchain, rfl⟩, hedges⟩ := hflow
      exact ⟨hchain, hedges⟩
  · rintro ⟨hvalid, hmethods, hactions, hsame, hdeps, hflow⟩
    refine ⟨hvalid, hmethods, hactions, hsame, ?_, hdeps, ?_⟩
    · intro t ht
      obtain ⟨s, hs, rfl⟩ := mem_map.mp ht
      exact hactions.2 (mem_map.mpr ⟨_, (hsame _).mpr ⟨s, hs, rfl⟩, rfl⟩)
    · cases hcontrol : p.controlFlow with
      | dag =>
        rw [hcontrol] at hflow
        exact rejectIf_of_not _ (not_not.mpr hflow)
      | sequential =>
        rw [hcontrol] at hflow
        simp only [eq_ok_iff, not_not, checkSequence_eq_ok]
        exact ⟨_, ⟨hflow.1, rfl⟩, hflow.2⟩

theorem buildProposal_iff {raw : RawObject} :
    buildProposal raw candidates = .ok p ↔ ProposalForm raw p ∧ WellFormed candidates p := by
  simp only [buildProposal, eq_ok_iff, Bool.not_eq_false, nonemptyText_eq_some, hasRawSchema_iff,
    readControlFlow_eq_ok, checkedId_eq_ok, steps_eq_ok]
  constructor
  · rintro ⟨hfields, hschema, goal, ⟨hgoal, -⟩, flow, hflow, methods, hmethods, actions, hactions,
      stepList, ⟨hsteps, hne, hcount, hids, hordered⟩, pairs, hpairs, outs, houts, tags, htags,
      goalRef, rfl, methodIds, hmethodIds, -, actionIds, hactionIds, es, hes, outIds, houtIds,
      tagIds, htagIds, ⟨⟩, hvalid, rfl⟩
    obtain ⟨hmethodList, hmethodSorted⟩ := listing_iff.mp ⟨methods, hmethods, hmethodIds⟩
    obtain ⟨hactionList, hactionSorted⟩ := listing_iff.mp ⟨actions, hactions, hactionIds⟩
    obtain ⟨houtList, houtSorted⟩ := listing_iff.mp ⟨outs, houts, houtIds⟩
    obtain ⟨htagList, htagSorted⟩ := listing_iff.mp ⟨tags, htags, htagIds⟩
    obtain ⟨hedgeList, hedgeCount, -⟩ := edges_iff.mp ⟨pairs, hpairs, hes⟩
    obtain ⟨hsnapshot, hknown, ⟨-, hactionsKnown⟩, hused, hdeps, hedges⟩ :=
      validateBindings_eq_ok.mp hvalid
    exact ⟨⟨hfields, hschema, hgoal, hflow, hmethodList, hactionList, hsteps, hedgeList, houtList,
      htagList⟩, ⟨hsnapshot, hmethodSorted, hknown, hactionSorted, hactionsKnown, houtSorted,
      htagSorted, ⟨hne, hcount⟩, hordered, hids, hused, hdeps, hedges, hedgeCount, rfl⟩⟩
  · rintro ⟨hform, hwell⟩
    have hlist : ∀ (v : JsonValue) (name : PyStr) (ids : List OpaqueId), IsListing v ids →
        ids.Pairwise (· < ·) → ∃ out, stringList v name = .ok out ∧ checkedIds out = .ok ids :=
      fun v name ids hids hsorted => listing_iff.mpr ⟨hids, hsorted⟩
    obtain ⟨methods, hmethods, hmethodIds⟩ := hlist _ (py "selected_method_candidate_ids") _
      hform.methods hwell.methods_ordered
    obtain ⟨actions, hactions, hactionIds⟩ := hlist _ (py "selected_action_candidate_ids") _
      hform.actions hwell.actions_ordered
    obtain ⟨outs, houts, houtIds⟩ := hlist _ (py "output_bindings") _ hform.outputs
      hwell.outputs_ordered
    obtain ⟨tags, htags, htagIds⟩ := hlist _ (py "rationale_tags") _ hform.tags hwell.tags_ordered
    have hsorted : p.dependencyEdges.Pairwise fun e e' => edgeText e < edgeText e' := by
      rw [hwell.edges_eq]
      exact derivedEdges_sorted hwell.stepIds_nodup hwell.steps_ordered
    obtain ⟨pairs, hpairs, hes⟩ := edges_iff.mpr ⟨hform.edges, hwell.edges_bounded, hsorted⟩
    obtain ⟨s, hs⟩ := exists_mem_of_ne_nil _ hwell.steps_bounded.1
    have hsome : p.selectedActionCandidateIds ≠ [] :=
      ne_nil_of_mem ((hwell.actions_used _).mpr ⟨s, hs, rfl⟩)
    have hactionTexts : actions ≠ [] := by
      rintro rfl
      exact hsome (map_eq_nil_iff.mp (checkedIds_eq_ok.mp hactionIds).symm)
    have hvalid := validateBindings_eq_ok.mpr ⟨hwell.candidates_valid, hwell.methods_known,
      ⟨hsome, hwell.actions_known⟩, hwell.actions_used, hwell.dependencies, hwell.edges⟩
    have hsame : CompositionProposal.withComputedSha256 ⟨p.goalRef, p.selectedMethodCandidateIds,
        p.selectedActionCandidateIds, p.steps, p.dependencyEdges, p.outputBindings, p.controlFlow,
        p.rationaleTags, .null⟩ = p := by
      have hsha := hwell.sha256
      cases p
      exact congrArg _ hsha.symm
    refine ⟨hform.fields, hform.schema, p.goalRef.1, ⟨hform.goal, p.goalRef.ne_nil⟩, p.controlFlow,
      hform.flow, methods, hmethods, actions, hactions, p.steps, ⟨hform.steps,
        hwell.steps_bounded.1, hwell.steps_bounded.2, hwell.stepIds_nodup, hwell.steps_ordered⟩,
      pairs, hpairs, outs, houts, tags, htags, p.goalRef, rfl, _, hmethodIds, hactionTexts, _,
      hactionIds, _, hes, _, houtIds, _, htagIds, ?_⟩
    rw [hsame]
    exact ⟨(), hvalid, rfl⟩

end ProposalParser

end Tiangong
