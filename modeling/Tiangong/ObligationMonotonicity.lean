import Tiangong.CommitmentCompiler

/-!
# Obligations along amendments

An amendment that no user asked for keeps every mandatory key. The key of a goal holds the message,
so the goal stays the same; the key of an output is its position, and another output may take it.
The first requirements are kept exactly when the last amendment repeats their outputs in place.
-/
open List

namespace Tiangong.Commitment

open CompletionObligation

/-- The obligation was compiled from the requirement. -/
structure Obliges (commitmentId : OpaqueId) (r : SourceRequirement) (o : CompletionObligation) :
    Prop where
  obligationId : o.obligationId = obligationId commitmentId r.stableKey r.kind
  kind : o.kind = r.kind
  sourceKind : o.sourceKind = r.sourceKind
  key : o.sourceRequirementStableKey = r.stableKey
  mandatory : o.mandatory = r.mandatory
  acceptanceRef : o.acceptanceRef.1 = r.acceptanceRef
  sourceRefs : o.sourceRefs.map (·.1) = sortedSet r.sourceRefs

variable {commitmentId : OpaqueId} {r r' : SourceRequirement} {o o' : CompletionObligation}

lemma ofText_all {refs : List PyStr} {ids : List OpaqueId}
    (h : List.Forall₂ (fun ref id => required (OpaqueId.ofText ref) CompilerFault.value = .ok id)
      refs ids) : ids.map (·.1) = refs := by
  induction h with
  | nil => rfl
  | cons hhead _ ih =>
    rw [required_eq_ok, OpaqueId.ofText_eq_some] at hhead
    rw [map_cons, ih, hhead]

lemma obligationOf_obliges (h : obligationOf commitmentId r = .ok o) :
    Obliges commitmentId r o := by
  simp only [obligationOf, eq_ok_iff, mapM_eq_ok, OpaqueId.ofText_eq_some] at h
  obtain ⟨-, refs, hrefs, acceptanceRef, hacceptance, -, rfl⟩ := h
  constructor
  · rfl
  · rfl
  · rfl
  · rfl
  · rfl
  · exact hacceptance.symm
  · apply ofText_all
    simpa only [required_eq_ok, OpaqueId.ofText_eq_some] using hrefs

/-- What two obligations owe agrees when their requirements name the same sources. -/
lemma Obliges.sourceRefs_eq_iff (h : Obliges commitmentId r o) (h' : Obliges commitmentId r' o') :
    o'.sourceRefs = o.sourceRefs ↔ sortedSet r'.sourceRefs = sortedSet r.sourceRefs := by
  rw [← h.sourceRefs, ← h'.sourceRefs]
  exact (Subtype.val_injective.list_map.eq_iff).symm

def CompileCall.requirements (call : CompileCall) : List SourceRequirement :=
  defaultExtractor
    { call.inputs with sourceInputRefs := sortedSet call.inputs.sourceInputRefs }

/-- The record was compiled from the call. -/
structure Compiles (call : CompileCall) (record : CompletionRequirements) : Prop where
  scope : record.scope = call.scope
  sourceInputRefs : record.sourceInputRefs = sortedSet call.inputs.sourceInputRefs
  found : call.requirements ≠ []
  obligations : List.Forall₂ (Obliges call.scope.commitmentId) call.requirements record.obligations

lemma compile_compiles {call : CompileCall} {record : CompletionRequirements}
    (h : compile call = .ok record) : Compiles call record := by
  simp only [compile, eq_ok_iff, mapM_eq_ok] at h
  obtain ⟨-, hfound, obligations, hobligations, -, rfl⟩ := h
  constructor
  · rfl
  · rfl
  · exact hfound
  · exact hobligations.imp fun _ _ => obligationOf_obliges

section Compiled

variable {call : CompileCall} {record : CompletionRequirements} {key : StableKey}

lemma Compiles.exists_requirement (h : Compiles call record) (ho : o ∈ record.obligations) :
    ∃ r ∈ call.requirements, Obliges call.scope.commitmentId r o := by
  obtain ⟨i, hi, rfl⟩ := mem_iff_getElem.mp ho
  have hlength := h.obligations.length_eq
  exact ⟨call.requirements[i], getElem_mem _, h.obligations.get (by omega) hi⟩

lemma Compiles.exists_obligation (h : Compiles call record) (hr : r ∈ call.requirements) :
    ∃ o ∈ record.obligations, Obliges call.scope.commitmentId r o := by
  obtain ⟨i, hi, rfl⟩ := mem_iff_getElem.mp hr
  have hlength := h.obligations.length_eq
  exact ⟨record.obligations[i], getElem_mem _, h.obligations.get hi (by omega)⟩

/-- Where a requirement comes from. -/
lemma mem_requirements : r ∈ call.requirements ↔ r ∈ goalRequirement { call.inputs with
      sourceInputRefs := sortedSet call.inputs.sourceInputRefs } ∨
    r ∈ skillRequirement call.inputs ∨
    (∃ i c, call.inputs.explicitOutputConstraints[i]? = some c ∧ r = outputRequirement i c) ∨
    ∃ i c, call.inputs.deliveryConstraints[i]? = some c ∧ r = deliveryRequirement i c := by
  have hindexed : ∀ {α : Type} (f : ℕ → α → SourceRequirement) (items : List α),
      r ∈ items.mapIdx f ↔ ∃ i c, items[i]? = some c ∧ r = f i c := by
    intro α f items
    rw [mem_iff_getElem?]
    simp only [List.getElem?_mapIdx, Option.map_eq_some_iff, eq_comm (a := r)]
  simp only [CompileCall.requirements, defaultExtractor, mem_append, hindexed, or_assoc]
  rfl

end Compiled

variable {current updated first last : CompletionRequirements} {a : Amendment}
  {amendments : List Amendment} {key : StableKey}

lemma amend_cases (h : amend current false a = .ok updated) :
    Compiles (amendCall current a) updated ∧
      ∀ key ∈ current.mandatoryKeys, key ∈ updated.mandatoryKeys := by
  simp only [amend, eq_ok_iff, checkMonotonic, Bool.false_eq_true, if_false, not_not,
    filter_eq_nil_iff] at h
  obtain ⟨record, hcompile, ⟨hmissing, hdowngraded⟩, rfl⟩ := h
  refine ⟨compile_compiles hcompile, fun key hkey => ?_⟩
  have hpresent : key ∈ record.keys := by simpa using hmissing key hkey
  have hfirm : record.optional key = false := by simpa using hdowngraded key hkey
  obtain ⟨o, ho, hkeyOf⟩ := mem_map.mp hpresent
  refine mem_map.mpr ⟨o, mem_filter.mpr ⟨ho, ?_⟩, hkeyOf⟩
  by_contra hoptional
  have hany : record.optional key = true := by
    rw [CompletionRequirements.optional, any_eq_true]
    exact ⟨o, ho, by simp [hkeyOf, hoptional]⟩
  rw [hfirm] at hany
  cases hany

/-- The record was compiled from the message and the outputs of an amendment. -/
def CompiledFrom (scope : CommitmentScope) (refs : List OpaqueId) (a : Amendment)
    (record : CompletionRequirements) : Prop :=
  ∃ call, Compiles call record ∧ call.scope = scope ∧
    call.inputs.rawUserMessage = a.rawUserMessage ∧
    call.inputs.explicitOutputConstraints = a.explicitOutputConstraints ∧
    skillRequirement call.inputs = [] ∧ call.inputs.deliveryConstraints = [] ∧
    sortedSet call.inputs.sourceInputRefs = refs

/-- A chain of amendments keeps the scope, the sources and the mandatory keys, and its end is
compiled from its last amendment. -/
lemma amendAll_cases (hsorted : first.sourceInputRefs.Pairwise (· < ·))
    (h : amendAll first amendments = .ok last) :
    last.scope = first.scope ∧ last.sourceInputRefs = first.sourceInputRefs ∧
      (∀ key ∈ first.mandatoryKeys, key ∈ last.mandatoryKeys) ∧
      (amendments = [] → last = first) ∧
      ∀ a, amendments.getLast? = some a →
        CompiledFrom first.scope first.sourceInputRefs a last := by
  induction amendments generalizing first with
  | nil =>
    cases h
    exact ⟨rfl, rfl, fun _ hkey => hkey, fun _ => rfl, by simp⟩
  | cons a rest ih =>
    simp only [amendAll, foldlM_cons, bind_eq_ok] at h
    obtain ⟨next, hamend, hrest⟩ := h
    obtain ⟨hcompiles, hkeys⟩ := amend_cases hamend
    have hrefs : sortedSet first.sourceInputRefs = first.sourceInputRefs :=
      sortedSet_eq (fun _ => Iff.rfl) hsorted
    have hnext : next.sourceInputRefs = first.sourceInputRefs :=
      hcompiles.sourceInputRefs.trans hrefs
    obtain ⟨hscope, hsources, hkept, hnil, hlast⟩ := ih (hnext ▸ hsorted) hrest
    refine ⟨hscope.trans hcompiles.scope, hsources.trans hnext,
      fun key hkey => hkept key (hkeys key hkey), by simp, ?_⟩
    intro b hb
    cases rest with
    | nil =>
      rw [List.getLast?_singleton, Option.some.injEq] at hb
      subst hb
      rw [hnil rfl]
      refine ⟨amendCall first a, hcompiles, rfl, rfl, rfl, ?_, rfl, hrefs⟩
      unfold skillRequirement amendCall
      cases first.selectedSkillActivationSha256 <;> rfl
    | cons c cs =>
      rw [List.getLast?_cons_cons] at hb
      obtain ⟨call, hcall, hcallScope, hmessage, houtputs, hskill, hdelivery, hcallRefs⟩ :=
        hlast b hb
      exact ⟨call, hcall, hcallScope.trans hcompiles.scope, hmessage, houtputs, hskill, hdelivery,
        hcallRefs.trans hnext⟩

def OutputConstraint.demand (c : OutputConstraint) : PyStr × PyStr :=
  (c.ref, textOr c.acceptanceRef (py "acceptance:user:output"))

/-- Every mandatory obligation of the first record is owed alike by the last. -/
def Kept (first last : CompletionRequirements) : Prop :=
  ∀ o ∈ first.obligations, o.mandatory = true → ∃ o' ∈ last.obligations,
    o'.sourceRequirementStableKey = o.sourceRequirementStableKey ∧
      o'.sourceKind = o.sourceKind ∧ o'.kind = o.kind ∧ o'.acceptanceRef = o.acceptanceRef ∧
      o'.sourceRefs = o.sourceRefs ∧ o'.mandatory = true

instance decidableKept (first last : CompletionRequirements) : Decidable (Kept first last) :=
  List.decidableBAll _ _

/-- The obligations are kept, and what completes the last record completes the first. -/
structure Monotone (first last : CompletionRequirements) : Prop where
  kept : Kept first last
  ready : ∀ satisfied, completionReady last satisfied = true →
    completionReady first satisfied = true

/-- The first call asks for something by its message or its outputs, and the outputs of the last
amendment begin with the same demands. -/
def Repeats (call : CompileCall) (a : Amendment) : Prop :=
  (call.inputs.rawUserMessage.strip ≠ [] ∨ call.inputs.explicitOutputConstraints ≠ []) ∧
    ∀ (i : ℕ) (c : OutputConstraint), call.inputs.explicitOutputConstraints[i]? = some c →
      ∃ c' : OutputConstraint, a.explicitOutputConstraints[i]? = some c' ∧ c'.demand = c.demand

def goalOf (message : PyStr) (refs : List OpaqueId) : SourceRequirement :=
  ⟨.user, goalKey message, refs.map (·.1), .execution, true, py "acceptance:user:goal", none⟩

lemma mem_goalRequirement {inputs : CompileInputs} : r ∈ goalRequirement inputs ↔
    inputs.rawUserMessage.strip ≠ [] ∧ r = goalOf inputs.rawUserMessage inputs.sourceInputRefs := by
  unfold goalRequirement
  split
  · next h => simp [h]
  · next h => simp [h, goalOf]

variable {call : CompileCall} {scope : CommitmentScope} {refs : List OpaqueId}

/-- An obligation of an amended record is its goal or one of its outputs. -/
lemma CompiledFrom.obligation_cases (h : CompiledFrom scope refs a last)
    (ho : o ∈ last.obligations) :
    (a.rawUserMessage.strip ≠ [] ∧ Obliges scope.commitmentId (goalOf a.rawUserMessage refs) o) ∨
    ∃ i c, a.explicitOutputConstraints[i]? = some c ∧
      Obliges scope.commitmentId (outputRequirement i c) o := by
  obtain ⟨call, hcompiles, rfl, hmessage, houtputs, hskill, hdelivery, rfl⟩ := h
  obtain ⟨r, hr, hobliges⟩ := hcompiles.exists_requirement ho
  rw [mem_requirements, mem_goalRequirement, hskill, hdelivery] at hr
  rcases hr with ⟨hstrip, rfl⟩ | hnone | ⟨i, c, hc, rfl⟩ | ⟨i, c, hc, rfl⟩
  · rw [hmessage] at hstrip hobliges
    exact .inl ⟨hstrip, hobliges⟩
  · cases hnone
  · rw [houtputs] at hc
    exact .inr ⟨i, c, hc, hobliges⟩
  · cases hc

lemma CompiledFrom.exists_output (h : CompiledFrom scope refs a last) {i : ℕ}
    {c : OutputConstraint} (hc : a.explicitOutputConstraints[i]? = some c) :
    ∃ o ∈ last.obligations, Obliges scope.commitmentId (outputRequirement i c) o := by
  obtain ⟨call, hcompiles, rfl, -, houtputs, -, -, -⟩ := h
  rw [← houtputs] at hc
  exact hcompiles.exists_obligation (mem_requirements.mpr (.inr (.inr (.inl ⟨i, c, hc, rfl⟩))))

/-- Every obligation of an amended record is owed. -/
theorem CompiledFrom.owed (h : CompiledFrom scope refs a last) (ho : o ∈ last.obligations) :
    o.owed = true := by
  rcases h.obligation_cases ho with ⟨-, hobliges⟩ | ⟨i, c, -, hobliges⟩
  · simp [CompletionObligation.owed, hobliges.mandatory, hobliges.sourceKind, goalOf]
  · simp [CompletionObligation.owed, hobliges.mandatory, hobliges.sourceKind, outputRequirement]

lemma CompiledFrom.obligations_ne (h : CompiledFrom scope refs a last) :
    ∃ o, o ∈ last.obligations := by
  obtain ⟨call, hcompiles, -⟩ := h
  obtain ⟨r, hr⟩ := exists_mem_of_ne_nil _ hcompiles.found
  obtain ⟨o, ho, -⟩ := hcompiles.exists_obligation hr
  exact ⟨o, ho⟩

lemma Compiles.lasting_cases (hfirst : Compiles call first)
    (hlast : CompiledFrom scope refs a last) (hkeys : ∀ key ∈ first.mandatoryKeys,
      key ∈ last.mandatoryKeys) (ho : o ∈ first.obligations) (hmandatory : o.mandatory = true) :
    (call.inputs.rawUserMessage.strip ≠ [] ∧
      Obliges call.scope.commitmentId (goalOf call.inputs.rawUserMessage
        (sortedSet call.inputs.sourceInputRefs)) o) ∨
    ∃ i c, call.inputs.explicitOutputConstraints[i]? = some c ∧
      Obliges call.scope.commitmentId (outputRequirement i c) o := by
  obtain ⟨r, hr, hobliges⟩ := hfirst.exists_requirement ho
  have hkey : o.sourceRequirementStableKey ∈ first.mandatoryKeys :=
    mem_map.mpr ⟨o, mem_filter.mpr ⟨ho, hmandatory⟩, rfl⟩
  obtain ⟨o', ho', hkeyOf⟩ := mem_map.mp (hkeys _ hkey)
  have hform : (∃ digest, o.sourceRequirementStableKey = .goal digest) ∨
      ∃ i, o.sourceRequirementStableKey = .output i := by
    rw [← hkeyOf]
    rcases hlast.obligation_cases (mem_of_mem_filter ho') with ⟨-, hgoal⟩ | ⟨i, c, -, hout⟩
    · exact .inl ⟨_, hgoal.key⟩
    · exact .inr ⟨i, hout.key⟩
  rw [hobliges.key] at hform
  rw [mem_requirements, mem_goalRequirement] at hr
  rcases hr with ⟨hstrip, rfl⟩ | hskill | ⟨i, c, hc, rfl⟩ | ⟨i, c, hc, rfl⟩
  · exact .inl ⟨hstrip, hobliges⟩
  · exfalso
    unfold skillRequirement at hskill
    split at hskill
    · cases hskill
    · split at hskill
      · cases hskill
      · rw [mem_singleton] at hskill
        subst hskill
        rcases hform with ⟨_, hform⟩ | ⟨_, hform⟩ <;> cases hform
  · exact .inr ⟨i, c, hc, hobliges⟩
  · rcases hform with ⟨_, hform⟩ | ⟨_, hform⟩ <;> cases hform

/-- What owes alike has one identifier. -/
lemma completionReady_of_kept (hkept : Kept first last)
    (hid : ∀ o ∈ first.obligations, ∀ o' ∈ last.obligations,
      o'.sourceRequirementStableKey = o.sourceRequirementStableKey → o'.kind = o.kind →
        o'.obligationId = o.obligationId)
    (howed : ∃ o ∈ first.obligations, o.owed = true) {satisfied : List Canon}
    (h : completionReady last satisfied = true) : completionReady first satisfied = true := by
  simp only [completionReady, holds_iff, any_eq_true, all_eq_true, Bool.or_eq_true,
    Bool.not_eq_true'] at h ⊢
  refine ⟨howed, fun o ho => ?_⟩
  cases howes : o.owed with
  | false => exact .inl rfl
  | true =>
    right
    simp only [owed, holds_iff] at howes
    obtain ⟨o', ho', hkey, hsource, hkind, -, -, hmandatory⟩ := hkept o ho howes.1
    have howed' : o'.owed = true := by
      simp [owed, hmandatory, hsource, howes.2]
    rcases h.2 o' ho' with hnot | hsatisfied
    · rw [howed'] at hnot
      cases hnot
    · rwa [hid o ho o' ho' hkey hkind] at hsatisfied

/-- Between a compiled record and one compiled from an amendment that kept its mandatory keys, the
obligations are monotone exactly when the amendment repeats the outputs in place. -/
lemma monotone_iff_repeats (hfirst : Compiles call first)
    (hlast : CompiledFrom call.scope (sortedSet call.inputs.sourceInputRefs) a last)
    (hkeys : ∀ key ∈ first.mandatoryKeys, key ∈ last.mandatoryKeys) :
    Monotone first last ↔ Repeats call a := by
  have hcases := fun o (ho : o ∈ first.obligations) hmandatory =>
    hfirst.lasting_cases hlast hkeys ho hmandatory
  constructor
  · intro h
    constructor
    · have hready : completionReady last (last.obligations.map (·.obligationId)) = true := by
        simp only [completionReady, holds_iff, any_eq_true, all_eq_true, Bool.or_eq_true]
        obtain ⟨o, ho⟩ := hlast.obligations_ne
        exact ⟨⟨o, ho, hlast.owed ho⟩, fun o ho => .inr (mem_map_of_mem ho)⟩
      have hfirstReady := h.ready _ hready
      simp only [completionReady, Bool.and_eq_true, any_eq_true] at hfirstReady
      obtain ⟨⟨o, ho, howed⟩, -⟩ := hfirstReady
      simp only [owed, Bool.and_eq_true] at howed
      rcases hcases o ho howed.1 with ⟨hstrip, -⟩ | ⟨i, c, hc, -⟩
      · exact .inl hstrip
      · right
        rintro hnil
        rw [hnil] at hc
        cases hc
    · intro i c hc
      obtain ⟨o, ho, hobliges⟩ := hfirst.exists_obligation
        (mem_requirements.mpr (.inr (.inr (.inl ⟨i, c, hc, rfl⟩))))
      obtain ⟨o', ho', hkey, -, -, hacceptance, hrefs, -⟩ := h.kept o ho hobliges.mandatory
      rcases hlast.obligation_cases ho' with ⟨-, hgoal⟩ | ⟨j, c', hc', hout⟩
      · rw [hgoal.key, hobliges.key] at hkey
        cases hkey
      · rw [hout.key, hobliges.key] at hkey
        cases hkey
        refine ⟨c', hc', Prod.ext ?_ ?_⟩
        · have hsame := (hobliges.sourceRefs_eq_iff hout).mp hrefs
          show c'.ref = c.ref
          simpa [outputRequirement, sortedSet, sortedTexts] using hsame
        · show (outputRequirement i c').acceptanceRef = (outputRequirement i c).acceptanceRef
          rw [← hout.acceptanceRef, ← hobliges.acceptanceRef, hacceptance]
  · rintro ⟨hasks, hrepeats⟩
    have hkept : Kept first last := by
      intro o ho hmandatory
      rcases hcases o ho hmandatory with ⟨-, hobliges⟩ | ⟨i, c, hc, hobliges⟩
      · have hkey : o.sourceRequirementStableKey ∈ first.mandatoryKeys :=
          mem_map.mpr ⟨o, mem_filter.mpr ⟨ho, hmandatory⟩, rfl⟩
        obtain ⟨o', ho', hkeyOf⟩ := mem_map.mp (hkeys _ hkey)
        obtain ⟨ho', hmandatory'⟩ := mem_filter.mp ho'
        refine ⟨o', ho', hkeyOf, ?_⟩
        rcases hlast.obligation_cases ho' with ⟨-, hgoal⟩ | ⟨i, c, -, hout⟩
        · refine ⟨?_, ?_, ?_, ?_, hmandatory'⟩
          · rw [hgoal.sourceKind, hobliges.sourceKind]
            rfl
          · rw [hgoal.kind, hobliges.kind]
            rfl
          · apply Subtype.ext
            rw [hgoal.acceptanceRef, hobliges.acceptanceRef]
            rfl
          · exact (hobliges.sourceRefs_eq_iff hgoal).mpr rfl
        · rw [hout.key, hobliges.key] at hkeyOf
          cases hkeyOf
      · obtain ⟨c', hc', hdemand⟩ := hrepeats i c hc
        obtain ⟨o', ho', hout⟩ := hlast.exists_output hc'
        obtain ⟨href, hacceptance⟩ := Prod.ext_iff.mp hdemand
        refine ⟨o', ho', ?_, ?_, ?_, ?_, ?_, hout.mandatory⟩
        · rw [hout.key, hobliges.key]
          rfl
        · rw [hout.sourceKind, hobliges.sourceKind]
          rfl
        · rw [hout.kind, hobliges.kind]
          rfl
        · apply Subtype.ext
          rw [hout.acceptanceRef, hobliges.acceptanceRef]
          exact hacceptance
        · rw [hobliges.sourceRefs_eq_iff hout]
          have hsame : c'.ref = c.ref := href
          simp only [outputRequirement, hsame]
    refine ⟨hkept, fun satisfied => completionReady_of_kept hkept ?_ ?_⟩
    · intro o ho o' ho' hkey hkind
      obtain ⟨r, -, hobliges⟩ := hfirst.exists_requirement ho
      rcases hlast.obligation_cases ho' with ⟨-, hobliges'⟩ | ⟨i, c, -, hobliges'⟩
      all_goals
        rw [hobliges'.obligationId, hobliges.obligationId, ← hobliges'.key, ← hobliges.key,
          ← hobliges'.kind, ← hobliges.kind, hkey, hkind]
    · rcases hasks with hstrip | houtputs
      · obtain ⟨o, ho, hobliges⟩ := hfirst.exists_obligation
          (mem_requirements.mpr (.inl (mem_goalRequirement.mpr ⟨hstrip, rfl⟩)))
        exact ⟨o, ho, by
          simp [owed, hobliges.mandatory, hobliges.sourceKind, goalOf]⟩
      · obtain ⟨c, hc⟩ := exists_mem_of_ne_nil _ houtputs
        obtain ⟨i, hi⟩ := mem_iff_getElem?.mp hc
        obtain ⟨o, ho, hobliges⟩ := hfirst.exists_obligation
          (mem_requirements.mpr (.inr (.inr (.inl ⟨i, c, hi, rfl⟩))))
        exact ⟨o, ho, by
          simp [owed, hobliges.mandatory, hobliges.sourceKind,
            outputRequirement]⟩

lemma monotone_refl (record : CompletionRequirements) : Monotone record record where
  kept := fun o ho hmandatory => ⟨o, ho, rfl, rfl, rfl, rfl, rfl, hmandatory⟩
  ready := fun _ h => h

/-- A chain of amendments that no user asked for keeps the obligations of a compiled record exactly
when its last amendment repeats the outputs of the record in place. -/
theorem obligations_monotone_iff (call : CompileCall) (first last : CompletionRequirements)
    (amendments : List Amendment) (hfirst : compile call = .ok first)
    (hlast : amendAll first amendments = .ok last) :
    Monotone first last ↔ ∀ a, amendments.getLast? = some a → Repeats call a := by
  have hcompiles := compile_compiles hfirst
  have hsorted : first.sourceInputRefs.Pairwise (· < ·) := by
    rw [hcompiles.sourceInputRefs]
    exact sortedSet_strict _
  obtain ⟨-, -, hkeys, hnil, hend⟩ := amendAll_cases hsorted hlast
  cases hamend : amendments.getLast? with
  | none =>
    rw [hnil (List.getLast?_eq_none_iff.mp hamend)]
    simpa using monotone_refl first
  | some a =>
    have hfrom := hend a hamend
    rw [hcompiles.scope, hcompiles.sourceInputRefs] at hfrom
    rw [monotone_iff_repeats hcompiles hfrom hkeys]
    simp

lemma commitment_isOpaqueId : isOpaqueId (py "commitment") = true := by decide

lemma experience_isOpaqueId : isOpaqueId (py "experience") = true := by decide

lemma input_isOpaqueId : isOpaqueId (py "input") = true := by decide

/-- A request to write what `ref` names. -/
def writeCall (ref : PyStr) : CompileCall where
  scope :=
    { commitmentId := ⟨py "commitment", commitment_isOpaqueId⟩
      requestId := .text "request"
      runId := .text "run"
      runSequence := 1
      generation := 1
      rootExperienceId := ⟨py "experience", experience_isOpaqueId⟩ }
  inputs :=
    { rawUserMessage := py "write"
      sourceInputRefs := [⟨py "input", input_isOpaqueId⟩]
      selectedSkill := none
      explicitOutputConstraints := [⟨ref, []⟩]
      deliveryConstraints := [] }

def writeAmendment (ref : PyStr) : Amendment := ⟨py "write", [⟨ref, []⟩]⟩

/-- What the request owes before and after an amendment to write what `ref` names. -/
def amendedWrite (ref : PyStr) :
    Except CompilerFault (CompletionRequirements × CompletionRequirements) := do
  let first ← compile (writeCall (py "report"))
  let last ← amendAll first [writeAmendment ref]
  pure (first, last)

lemma amendedWrite_ok (ref : PyStr) (h : (amendedWrite ref).isOk = true) :
    ∃ first last, compile (writeCall (py "report")) = .ok first ∧
      amendAll first [writeAmendment ref] = .ok last := by
  cases hrun : amendedWrite ref with
  | error fault =>
    rw [hrun] at h
    cases h
  | ok records =>
    simp only [amendedWrite, eq_ok_iff] at hrun
    obtain ⟨first, hfirst, last, hlast, -⟩ := hrun
    exact ⟨first, last, hfirst, hlast⟩

/-- An amendment that no user asked for replaces the report that a request owes by a memo. -/
theorem report_becomes_memo : ∃ first last, compile (writeCall (py "report")) = .ok first ∧
    amendAll first [writeAmendment (py "memo")] = .ok last ∧ ¬ Monotone first last := by
  have hlost : (amendedWrite (py "memo")).toOption.any (fun r => decide (Kept r.1 r.2)) =
      false := by decide +kernel
  obtain ⟨first, last, hfirst, hlast⟩ := amendedWrite_ok (py "memo") (by decide +kernel)
  refine ⟨first, last, hfirst, hlast, fun h => ?_⟩
  have hrun : amendedWrite (py "memo") = .ok (first, last) := by
    simp only [amendedWrite, eq_ok_iff]
    exact ⟨first, hfirst, last, hlast, rfl⟩
  rw [hrun] at hlost
  have hkept : ¬ Kept first last := by simpa [Except.toOption] using hlost
  exact hkept h.kept

/-- An amendment that repeats the report keeps it. -/
theorem report_stays_report : ∃ first last, compile (writeCall (py "report")) = .ok first ∧
    amendAll first [writeAmendment (py "report")] = .ok last ∧
      (Monotone first last ↔ ∀ a, [writeAmendment (py "report")].getLast? = some a →
        Repeats (writeCall (py "report")) a) := by
  obtain ⟨first, last, hfirst, hlast⟩ := amendedWrite_ok (py "report") (by decide +kernel)
  exact ⟨first, last, hfirst, hlast, obligations_monotone_iff _ _ _ _ hfirst hlast⟩

end Tiangong.Commitment
