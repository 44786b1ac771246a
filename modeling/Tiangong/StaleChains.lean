import Tiangong.KeyedChains
import Tiangong.WorldStateMaterializer
import Tiangong.WorldStatePromises

/-!
# Chains of materialized states

What a stream is materialized to, call after call. A reference goes stale when a source changes
that the state before bound its record to, and stays stale as long as it is neither changed nor
revalidated. A binding that a call leaves out is gone.
-/
open List

namespace Tiangong

open WorldRecordRef

lemma WorldRecordRef.identity_eq_of_sortKey {r r' : WorldRecordRef} (h : r.sortKey = r'.sortKey) :
    r.identity = r'.identity := by
  have hfields := toLex.injective h
  rw [Prod.mk.injEq] at hfields
  have hid := congrArg (fun k => (ofLex k).1) hfields.2
  exact Prod.ext hfields.1 hid

lemma mem_distinctRefs_sortKey {refs : List WorldRecordRef} {k : WorldRecordRef.SortKey} :
    k ∈ (distinctRefs refs).map sortKey ↔ k ∈ refs.map sortKey := by
  have hitem : ∀ k r, (k, r) ∈ (Dict.ofItems (refs.map fun r => (r.sortKey, r))).items →
      r.sortKey = k ∧ r ∈ refs := by
    intro k r hmem
    obtain ⟨r', hr', heq⟩ := mem_map.mp (Dict.mem_of_lookup_ofItems (Dict.mem_items.mp hmem))
    cases heq
    exact ⟨rfl, hr'⟩
  simp only [distinctRefs, map_map, mem_map, Function.comp_apply]
  constructor
  · intro h
    obtain ⟨⟨k', r⟩, hmem, rfl⟩ := h
    exact ⟨r, (hitem k' r hmem).2, rfl⟩
  · intro h
    obtain ⟨r, hr, rfl⟩ := h
    have hsome : ((Dict.ofItems (refs.map fun r => (r.sortKey, r))).lookup r.sortKey).isSome := by
      rw [Dict.isSome_lookup_ofItems, map_map]
      exact mem_map.mpr ⟨r, hr, rfl⟩
    obtain ⟨r', hr'⟩ := Option.isSome_iff_exists.mp hsome
    have hmem := Dict.mem_items.mpr hr'
    exact ⟨(r.sortKey, r'), hmem, (hitem _ _ hmem).1⟩

namespace MaterializedWorldSnapshot

/-- The state has the reference, with its record and digest, among its heads. -/
def Presents (s : MaterializedWorldSnapshot) (r : WorldRecordRef) : Prop :=
  r.sortKey ∈ s.heads.map sortKey

def IsStale (s : MaterializedWorldSnapshot) (r : WorldRecordRef) : Prop :=
  r.sortKey ∈ s.state.1.staleRefs.map sortKey

def Revalidates (s : MaterializedWorldSnapshot) (r : WorldRecordRef) : Prop :=
  r.sortKey ∈ s.delta.1.revalidatedCognitionRefs.map sortKey

/-- A binding of the state makes the record of the reference depend on a source key. -/
def Binds (s : MaterializedWorldSnapshot) (r : WorldRecordRef) (key : String) : Prop :=
  ∃ b ∈ s.dependencies.bindings, b.ref.identity = r.identity ∧ key ∈ b.sourceKeys

/-- No two heads of the state are about one record. -/
def IdentitiesOnce (s : MaterializedWorldSnapshot) : Prop :=
  (s.heads.map identity).Nodup

instance (s : MaterializedWorldSnapshot) : Decidable s.IdentitiesOnce := List.nodupDecidable _

instance (s : MaterializedWorldSnapshot) (r : WorldRecordRef) : Decidable (s.Presents r) :=
  inferInstanceAs (Decidable (_ ∈ _))

instance (s : MaterializedWorldSnapshot) (r : WorldRecordRef) : Decidable (s.IsStale r) :=
  inferInstanceAs (Decidable (_ ∈ _))

instance (s : MaterializedWorldSnapshot) (r : WorldRecordRef) : Decidable (s.Revalidates r) :=
  inferInstanceAs (Decidable (_ ∈ _))

/-- Two heads about one record are the same reference. -/
lemma IdentitiesOnce.eq_of_identity {s : MaterializedWorldSnapshot} (h : s.IdentitiesOnce)
    {r r' : WorldRecordRef} (hr : r ∈ s.heads) (hr' : r' ∈ s.heads)
    (hsame : r.identity = r'.identity) : r = r' :=
  inj_on_of_nodup_map h hr hr' hsame

end MaterializedWorldSnapshot

namespace HeadDelta

lemma byIdentity_eq_some {refs : List WorldRecordRef}
    (h : (refs.map identity).Nodup) {r : WorldRecordRef} (hr : r ∈ refs) :
    (byIdentity refs).lookup r.identity = some r := by
  apply Dict.lookup_ofItems_of_mem
  · rw [map_map]
    exact h
  · exact mem_map.mpr ⟨r, hr, rfl⟩

/-- A record is refreshed only when the new side has a reference that the old side has not. -/
lemma refreshed_of {oldRefs newRefs : List WorldRecordRef} {i : String × Canon}
    (h : i ∈ (of oldRefs newRefs).refreshed) :
    ∃ b, (byIdentity newRefs).lookup i = some b ∧
      ∀ a, (byIdentity oldRefs).lookup i = some a → a.sortKey ≠ b.sortKey := by
  suffices hall : ∀ (keys : List (String × Canon)) (d : HeadDelta),
      i ∈ (keys.foldl (step (byIdentity oldRefs) (byIdentity newRefs)) d).refreshed →
        i ∈ d.refreshed ∨ ∃ b, (byIdentity newRefs).lookup i = some b ∧
          ∀ a, (byIdentity oldRefs).lookup i = some a → a.sortKey ≠ b.sortKey by
    rcases hall _ _ h with hnone | hfound
    · cases hnone
    · exact hfound
  intro keys
  induction keys with
  | nil => exact fun d h => .inl h
  | cons key keys ih =>
    intro d h
    rcases ih _ h with hstep | hfound
    · unfold step at hstep
      cases hold : (byIdentity oldRefs).lookup key with
      | none =>
        cases hnew : (byIdentity newRefs).lookup key with
        | none => exact .inl (by simpa [hold, hnew] using hstep)
        | some b =>
          simp only [hold, hnew, mem_append, mem_singleton] at hstep
          rcases hstep with hstep | rfl
          · exact .inl hstep
          · refine .inr ⟨b, hnew, fun a ha => ?_⟩
            rw [hold] at ha
            cases ha
      | some a =>
        cases hnew : (byIdentity newRefs).lookup key with
        | none => exact .inl (by simpa [hold, hnew] using hstep)
        | some b =>
          by_cases hsame : a.sortKey = b.sortKey
          · exact .inl (by simpa [hold, hnew, hsame] using hstep)
          · simp only [hold, hnew, ne_eq, hsame, not_false_eq_true, if_true, mem_append,
              mem_singleton] at hstep
            rcases hstep with hstep | rfl
            · exact .inl hstep
            · refine .inr ⟨b, hnew, fun a' ha' => ?_⟩
              rw [hold, Option.some.injEq] at ha'
              subst ha'
              exact hsame
    · exact .inr hfound

end HeadDelta

lemma admitCognition_revalidated {evaluator : Option CognitionSupportEvaluator}
    {data : MaterializationInput} {previous : Option MaterializedWorldSnapshot}
    {changed : List String} {views : List CognitionL5View} {out out' : CognitionOutcome}
    (h : views.foldlM (admitCognition evaluator data previous changed) out = .ok out')
    (hout : ∀ r ∈ out.revalidated, r ∈ out.refs) : ∀ r ∈ out'.revalidated, r ∈ out'.refs := by
  induction views generalizing out with
  | nil =>
    simp only [foldlM_nil, pure_eq_ok] at h
    subst h
    exact hout
  | cons view views ih =>
    rw [foldlM_cons, bind_eq_ok] at h
    obtain ⟨next, hnext, hrest⟩ := h
    apply ih hrest
    simp only [admitCognition, eq_ok_iff] at hnext
    obtain ⟨_, _, _, hnext⟩ := hnext
    have hentered : ∃ remains, next = out.enter view.statementRef remains := by
      split at hnext
      · simp only [eq_ok_iff] at hnext
        obtain ⟨remains, -, rfl⟩ := hnext
        exact ⟨some remains, rfl⟩
      · rw [pure_eq_ok] at hnext
        exact ⟨none, hnext.symm⟩
    obtain ⟨remains, rfl⟩ := hentered
    intro r hr
    rcases remains with _ | remains
    · exact mem_append_left _ (hout r hr)
    · cases remains with
      | false => exact hout r hr
      | true =>
        rcases mem_append.mp hr with hr | hr
        · exact mem_append_left _ (hout r hr)
        · exact mem_append_right _ hr

lemma optionalManifest_refs {kind : HeadKind} {refs : List WorldRecordRef} {maxItems : ℕ}
    {manifest : Option HeadManifest} (h : optionalManifest kind refs maxItems = .ok manifest) :
    (manifest.elim [] HeadManifest.refs).Perm refs := by
  unfold optionalManifest at h
  split at h
  · next hnil =>
    rw [pure_eq_ok] at h
    subst h hnil
    exact .nil
  · rw [← bind_pure_comp] at h
    simp only [eq_ok_iff] at h
    obtain ⟨built, hbuilt, rfl⟩ := h
    have hrefs := (HeadManifest.build_eq_ok hbuilt).1
    show built.refs.Perm refs
    rw [hrefs]
    exact orderBy_perm _ _

/-- What a new state has of the state before, and of what changed. -/
structure Assembled (previous : Option MaterializedWorldSnapshot) (s : MaterializedWorldSnapshot)
    (changed : List String) (currentRefs : List WorldRecordRef) (out : CognitionOutcome) :
    Prop where
  current : currentRefs.Perm s.heads
  mem_changed : ∀ key, key ∈ s.delta.1.changedSourceKeys ↔ key ∈ changed
  stale_eq : s.state.1.staleRefs = staleRefs previous changed currentRefs out
  revalidated : ∀ r, r ∈ s.delta.1.revalidatedCognitionRefs ↔ r ∈ out.revalidated
  revalidated_current : ∀ r ∈ out.revalidated, r ∈ currentRefs

namespace Assembled

variable {p s : MaterializedWorldSnapshot} {previous : Option MaterializedWorldSnapshot}
  {changed : List String} {currentRefs : List WorldRecordRef} {out : CognitionOutcome}
  {r : WorldRecordRef}

lemma identity_not_revalidated (h : Assembled previous s changed currentRefs out)
    (honce : s.IdentitiesOnce) (hpresent : s.Presents r) (hnot : ¬ s.Revalidates r) :
    r.identity ∉ out.revalidated.map identity := by
  intro hmem
  obtain ⟨r', hr', hidentity⟩ := mem_map.mp hmem
  obtain ⟨head, hhead, hkey⟩ := mem_map.mp hpresent
  have hcurrent : r' ∈ s.heads := h.current.mem_iff.mp (h.revalidated_current r' hr')
  have hsame : r' = head := honce.eq_of_identity hcurrent hhead
    (hidentity.trans (identity_eq_of_sortKey hkey).symm)
  exact hnot (mem_map.mpr ⟨r', (h.revalidated r').mpr hr', hsame ▸ hkey⟩)

/-- A stale reference that is still present stays stale. -/
lemma isStale_of_isStale (h : Assembled (some p) s changed currentRefs out)
    (honce : s.IdentitiesOnce) (hpresent : s.Presents r) (hstale : p.IsStale r)
    (hnot : ¬ s.Revalidates r) : s.IsStale r := by
  obtain ⟨r', hr', hkey⟩ := mem_map.mp hstale
  have hcurrent : r'.sortKey ∈ currentRefs.map sortKey := by
    rw [hkey]
    exact (h.current.map sortKey).mem_iff.mpr hpresent
  have hidentity : r'.identity ∉ out.revalidated.map identity := by
    rw [identity_eq_of_sortKey hkey]
    exact h.identity_not_revalidated honce hpresent hnot
  have hretained : r' ∈ retainedStale (some p) currentRefs out.revalidated := by
    simp only [retainedStale, mem_filter, Option.elim_some, holds_iff]
    exact ⟨hr', hcurrent, hidentity⟩
  rw [MaterializedWorldSnapshot.IsStale, h.stale_eq, staleRefs, mem_distinctRefs_sortKey]
  exact mem_map.mpr ⟨r', mem_append_right _ hretained, hkey⟩

/-- A reference that both states have is not refreshed. -/
lemma not_refreshed (h : Assembled (some p) s changed currentRefs out)
    (hbefore : p.IdentitiesOnce) (honce : s.IdentitiesOnce) (hp : p.Presents r)
    (hpresent : s.Presents r) :
    r.identity ∉ (HeadDelta.of (previousHeads (some p)) currentRefs).refreshed := by
  intro hmem
  obtain ⟨b, hnew, hold⟩ := HeadDelta.refreshed_of hmem
  obtain ⟨a, ha, hakey⟩ := mem_map.mp hp
  obtain ⟨c, hc, hckey⟩ := mem_map.mp hpresent
  have hpold : (previousHeads (some p)).Perm p.heads := orderBy_perm _ _
  have hlookup := HeadDelta.byIdentity_eq_some
    ((hpold.map identity).nodup_iff.mpr hbefore) (hpold.mem_iff.mpr ha)
  have hlookup' := HeadDelta.byIdentity_eq_some
    ((h.current.map identity).nodup_iff.mpr honce) (h.current.mem_iff.mpr hc)
  rw [identity_eq_of_sortKey hakey] at hlookup
  rw [identity_eq_of_sortKey hckey, hnew, Option.some.injEq] at hlookup'
  subst hlookup'
  exact hold a hlookup (hakey.trans hckey.symm)

/-- A change of a source key that the state before bound the record to makes it stale. -/
lemma isStale_of_binds (h : Assembled (some p) s changed currentRefs out)
    (hbefore : p.IdentitiesOnce) (honce : s.IdentitiesOnce) (hp : p.Presents r)
    (hpresent : s.Presents r) {key : String} (hbinds : p.Binds r key)
    (hchanged : key ∈ s.delta.1.changedSourceKeys) (hnot : ¬ s.Revalidates r) : s.IsStale r := by
  obtain ⟨b, hb, hidentity, hkey⟩ := hbinds
  obtain ⟨head, hhead, hheadKey⟩ := mem_map.mp hpresent
  have hcurrent := HeadDelta.byIdentity_eq_some
    ((h.current.map identity).nodup_iff.mpr honce) (h.current.mem_iff.mpr hhead)
  have hkept : r.identity ∉ (HeadDelta.of (previousHeads (some p)) currentRefs).refreshed ++
      out.revalidated.map identity := by
    rw [mem_append, not_or]
    exact ⟨h.not_refreshed hbefore honce hp hpresent,
      h.identity_not_revalidated honce hpresent hnot⟩
  have htouched : (b.sourceKeys.any (changed.contains ·)) = true := by
    rw [any_eq_true]
    exact ⟨key, hkey, contains_iff_mem.mpr ((h.mem_changed key).mp hchanged)⟩
  rw [identity_eq_of_sortKey hheadKey] at hcurrent
  rw [MaterializedWorldSnapshot.IsStale, h.stale_eq, staleRefs, mem_distinctRefs_sortKey]
  have hinvalidated : r.sortKey ∈ (preciseInvalidations ((some p).map (·.dependencies)) changed
      currentRefs ((HeadDelta.of (previousHeads (some p)) currentRefs).refreshed ++
        out.revalidated.map identity)).map sortKey := by
    rw [Option.map_some, preciseInvalidations, mem_distinctRefs_sortKey]
    refine mem_map.mpr ⟨head, mem_filterMap.mpr ⟨b, hb, ?_⟩, hheadKey⟩
    rw [hidentity, hcurrent]
    simp only [if_neg hkept, htouched, if_true]
  rw [map_append, map_append]
  exact mem_append_left _ (mem_append_left _ hinvalidated)

end Assembled

namespace WorldStateMaterializer

variable {m : WorldStateMaterializer} {previous : Option MaterializedWorldSnapshot}
  {data : MaterializationInput} {s : MaterializedWorldSnapshot}

lemma normalizeRefs_mem {refs refs' : List WorldRecordRef} (h : normalizeRefs refs = .ok refs')
    {r : WorldRecordRef} : r ∈ refs' ↔ r ∈ refs := by
  simp only [normalizeRefs, eq_ok_iff] at h
  obtain ⟨_, -, rfl⟩ := h
  exact mem_orderBy

lemma assemble_eq_ok (h : m.assemble previous data = .ok s) :
    ∃ changed currentRefs out, Assembled previous s changed currentRefs out := by
  simp only [assemble, eq_ok_iff] at h
  obtain ⟨_, -, entityHeads, hentity, relationHeads, hrelation, changed, -, out, hout,
    cognitionHeads, hcognition, supplied, -, hypothesisHeads, hhypothesis, uncertainty, -,
    dependencies, -, -, -, delta, hdelta, state, hstate, rfl⟩ := h
  simp only [DeltaManifest.build, bind_eq_ok, sealed_eq_ok] at hdelta
  obtain ⟨_, -, _, -, _, -, _, -, revalidated, hrevalidated, hdelta⟩ := hdelta
  rw [buildState, sealed_eq_ok] at hstate
  refine ⟨changed, sortRefs (data.graph.entityRefs ++ data.graph.relationRefs ++
    cognitionRefs data previous out ++ hypothesisRefs data previous supplied), out,
    ⟨?_, ?_, ?_, ?_, ?_⟩⟩
  · refine (orderBy_perm _ _).trans ?_
    have hentityRefs := (HeadManifest.build_eq_ok hentity).1
    have hrelationRefs := (HeadManifest.build_eq_ok hrelation).1
    rw [MaterializedWorldSnapshot.heads, hentityRefs, hrelationRefs]
    refine (((orderBy_perm _ _).symm.append (orderBy_perm _ _).symm).append ?_).append ?_
    · exact (optionalManifest_refs hcognition).symm
    · exact (optionalManifest_refs hhypothesis).symm
  · intro key
    rw [hdelta]
    simp [DeltaFields.withDigest, DeltaManifest.sortKeys]
  · rw [hstate]
  · intro r
    rw [hdelta]
    exact normalizeRefs_mem hrevalidated
  · intro r hr
    have hstart : ∀ r ∈ ([] : List WorldRecordRef), r ∈ ([] : List WorldRecordRef) :=
      fun _ hmem => hmem
    have hrefs := admitCognition_revalidated hout hstart r hr
    rw [sortRefs, mem_orderBy]
    refine mem_append_left _ (mem_append_right _ ?_)
    unfold cognitionRefs
    split
    · exact mem_append_left _ hrefs
    · exact hrefs

/-- A materialization that answered found the state before it and assembled its answer. -/
lemma materialize_eq_ok {store : WorldStateStore} {faults : StoreFaults}
    (h : ((m.materialize faults data).on store).1 = .ok s) :
    ∃ previous, ((WorldStateStore.current data.streamKey).on store).1 = .ok previous ∧
      m.assemble previous data = .ok s := by
  unfold materialize at h
  rw [Call.on_bind, Call.on_query] at h
  cases hframe : checkFrame data with
  | error e => simp [hframe] at h
  | ok u =>
    simp only [hframe] at h
    rw [Call.on_bind] at h
    rcases hcurrent : (WorldStateStore.current data.streamKey).on store with ⟨e | previous, t⟩
    · simp [hcurrent] at h
    · refine ⟨previous, rfl, ?_⟩
      simp only [hcurrent] at h
      rw [Call.on_bind, Call.on_query] at h
      cases hassemble : m.assemble previous data with
      | error e => simp [hassemble] at h
      | ok snapshot =>
        simp only [hassemble] at h
        unfold WorldStateStore.publish at h
        rw [Call.on_bind] at h
        rcases hcheck : (WorldStateStore.checkPublication snapshot).on t with ⟨e | _, t'⟩
        · simp [hcheck] at h
        · simp only [hcheck] at h
          rw [Call.on_bind] at h
          rcases hcommit : (WorldStateStore.commitPublication faults snapshot).on t' with
            ⟨e | _, t''⟩
          · simp [hcommit] at h
          · simpa [hcommit] using h

end WorldStateMaterializer

/-- One materialization of a stream: it found the first state as the current one and answered the
second. Between two of them the store may do anything else. -/
def Materializes (before after : MaterializedWorldSnapshot) : Prop :=
  ∃ (m : WorldStateMaterializer) (data : MaterializationInput) (faults : StoreFaults)
    (store : WorldStateStore),
    ((WorldStateStore.current data.streamKey).on store).1 = .ok (some before) ∧
      ((m.materialize faults data).on store).1 = .ok after

lemma Materializes.assembled {before after : MaterializedWorldSnapshot}
    (h : Materializes before after) :
    ∃ changed currentRefs out, Assembled (some before) after changed currentRefs out := by
  obtain ⟨m, data, faults, store, hcurrent, hanswer⟩ := h
  obtain ⟨previous, hprevious, hassemble⟩ := WorldStateMaterializer.materialize_eq_ok hanswer
  rw [hcurrent, Except.ok.injEq] at hprevious
  subst hprevious
  exact WorldStateMaterializer.assemble_eq_ok hassemble

/-- The second state supplies again what the first bound the unchanged references to. -/
def Resupplies (before after : MaterializedWorldSnapshot) : Prop :=
  ∀ r key, before.Presents r → after.Presents r → before.Binds r key → after.Binds r key

/-- A reference that is present all along from the state that binds it to the last one is stale
there when the source changed in between, unless it was revalidated since. -/
def KeepsStaleness (states : List MaterializedWorldSnapshot) : Prop :=
  ∀ (i j l : ℕ) (r : WorldRecordRef) (key : String), i < j → j ≤ l →
    (∀ n s, i ≤ n → n ≤ l → states[n]? = some s → s.Presents r) →
    (∀ s, states[i]? = some s → ∃ b ∈ s.dependencies.bindings, b.ref = r ∧ key ∈ b.sourceKeys) →
    (∀ s, states[j]? = some s → key ∈ s.delta.1.changedSourceKeys) →
    (∀ n s, j ≤ n → n ≤ l → states[n]? = some s → ¬ s.Revalidates r) →
    ∀ s, states[l]? = some s → s.IsStale r

set_option maxRecDepth 4000

namespace WorldSample

open WorldStateStore

def frameFields : FrameFields :=
  ⟨scope, "workspace", "repository", "worktree", "main", "commit", "test",
    ⟨0, none, none, 0, time_valid⟩, none⟩

lemma frameFields_valid : frameFields.valid = true := by decide

def frame : SoftwareWorldFrame := ⟨frameFields, frameFields_valid⟩

def fileFields : EntityFields :=
  let e : EntityFields :=
    ⟨deriveEntityId "life" "software" (.text "anchor"), scope, "File", .text "anchor", "file", [],
      [], [], [], .holds, .current, .active, [], 1, none, ⟨0, none, none, 0, time_valid⟩, .null⟩
  { e with entitySha256 := e.computedHash }

lemma fileFields_valid : fileFields.valid = true := by decide

def file : WorldEntity := ⟨fileFields, fileFields_valid⟩

def graph : SparseWorldGraph :=
  { SparseWorldGraph.empty frame with
    entityById := (∅ : Dict Canon WorldEntity).insert file.id file }

/-- One of two hypotheses under one identifier. -/
def hypothesis (content : String) : WorldHypothesis :=
  ⟨.text "hypothesis", scope, .text content,
    .sha256 (.ofList [.text "hypothesis", scope.1.canon, .text content])⟩

lemma onCode_valid (r : WorldRecordRef) :
    (BindingFields.mk r ["GIT_CODE:head"] []).valid = true := by
  have hkeys : sortedUniqueStrings ["GIT_CODE:head"] = true := by decide
  have hnone : sortedUniqueStrings [] = true := by decide
  have hlength : 1 ≤ "GIT_CODE:head".length ∧ "GIT_CODE:head".length ≤ 180 := by decide
  simp [BindingFields.valid, hkeys, hnone, hlength]

/-- The reference depends on the code. -/
def onCode (r : WorldRecordRef) : DependencyBinding := ⟨⟨r, ["GIT_CODE:head"], []⟩, onCode_valid r⟩

lemma laterCut_valid : (cutFields [watermark .gitCode "b" 2]).valid = true := by decide

/-- The code moved on. -/
def laterCut : WorldCut := ⟨cutFields [watermark .gitCode "b" 2], laterCut_valid⟩

def input (cut : WorldCut) (hypotheses : List WorldHypothesis)
    (bindings : List DependencyBinding) : MaterializationInput :=
  ⟨frame, cut, graph, [], hypotheses, [], [], bindings, "tx", 0, [], false, false, false, false⟩

lemma defaults_positive : 0 < 2048 ∧ 0 < 4096 ∧ 0 < 1024 ∧ 0 < 1024 ∧ 0 < 2048 ∧ 0 < 8192 ∧
    0 < 4096 ∧ 0 < 4096 := by decide

def materializer : WorldStateMaterializer := ⟨{ positive := defaults_positive }, none⟩

/-- A materialization: the state it answers, and the store it leaves. -/
def materialized (store : WorldStateStore) (data : MaterializationInput) :
    MaterializedWorldSnapshot × WorldStateStore :=
  let r := (materializer.materialize (faults false) data).on store
  (r.1.toOption.getD (branch "main"), r.2)

lemma materialized_materializes {store : WorldStateStore} {data : MaterializationInput}
    {before : MaterializedWorldSnapshot}
    (hcurrent : ((current data.streamKey).on store).1.toOption = some (some before))
    (hok : ((materializer.materialize (faults false) data).on store).1.toOption.isSome) :
    Materializes before (materialized store data).1 := by
  refine ⟨materializer, data, faults false, store, ?_, ?_⟩
  · cases h : ((current data.streamKey).on store).1 with
    | error e => simp [h, Except.toOption] at hcurrent
    | ok found => simpa [h, Except.toOption] using hcurrent
  · cases h : ((materializer.materialize (faults false) data).on store).1 with
    | error e => simp [h, Except.toOption] at hok
    | ok found => simp [materialized, h, Except.toOption]

def bound : MaterializedWorldSnapshot × WorldStateStore :=
  materialized (fresh limits false) (input cut [] [onCode file.ref])

/-- The same graph again, without the binding. -/
def unbound : MaterializedWorldSnapshot × WorldStateStore := materialized bound.2 (input cut [] [])

def movedUnbound : MaterializedWorldSnapshot × WorldStateStore :=
  materialized unbound.2 (input laterCut [] [])

lemma bound_unbound : Materializes bound.1 unbound.1 :=
  materialized_materializes (by decide) (by decide)

lemma unbound_moved : Materializes unbound.1 movedUnbound.1 :=
  materialized_materializes (by decide) (by decide)

def twins : List WorldHypothesis := [hypothesis "a", hypothesis "b"]

def boundTwin : MaterializedWorldSnapshot × WorldStateStore :=
  materialized (fresh limits false) (input cut twins [onCode (hypothesis "a").ref])

def movedTwin : MaterializedWorldSnapshot × WorldStateStore :=
  materialized boundTwin.2 (input laterCut twins [onCode (hypothesis "a").ref])

lemma boundTwin_moved : Materializes boundTwin.1 movedTwin.1 :=
  materialized_materializes (by decide) (by decide)

def movedBound : MaterializedWorldSnapshot × WorldStateStore :=
  materialized bound.2 (input laterCut [] [onCode file.ref])

lemma bound_moved : Materializes bound.1 movedBound.1 :=
  materialized_materializes (by decide) (by decide)

lemma bound_moved_resupplies : Resupplies bound.1 movedBound.1 := by
  have hsame : bound.1.dependencies = movedBound.1.dependencies := by decide
  intro r key _ _ hbinds
  unfold MaterializedWorldSnapshot.Binds at hbinds ⊢
  rwa [← hsame]

end WorldSample

end Tiangong
