import Tiangong.ShortestPaths
import Tiangong.WorldRecords

/-!
# Call reachability

The rule that derives, from the recorded direct calls, which code symbol can be reached from which,
with the least path and the records of its calls.
-/
namespace Tiangong.Known

open Paths List

/-- What the rule reads of a `KnownRecord`. -/
structure KnownRecord where
  propositionType : String
  subjectRef : String
  objectValue : Option WorldValue
  recordHash : String

/-- `KnownSet`: the records in the order in which they were added, no hash twice. -/
abbrev KnownSet := Table KnownRecord.recordHash

/-- `_text`. -/
def text (record : KnownRecord) : Option String :=
  match record.objectValue with
  | some (.string s) => some s
  | _ => none

/-- An entry of `edges`. -/
structure CallEdge where
  source : String
  target : String
  record : KnownRecord

def callEdge (record : KnownRecord) : Option CallEdge :=
  match text record with
  | some target => if target = "" then none else some ⟨record.subjectRef, target, record⟩
  | none => none

def edges (known : KnownSet) : List CallEdge :=
  (known.rows.filter (·.propositionType = "DIRECT_CALLS")).filterMap callEdge

def CallEdge.key (e : CallEdge) : String ×ₗ String ×ₗ String :=
  toLex (e.source, toLex (e.target, e.record.recordHash))

def sortedEdges (known : KnownSet) : List CallEdge :=
  orderBy (fun e e' => e.key ≤ e'.key) (edges known)

/-- `adjacency.get(node, ())`, where `adjacency` groups the sorted edges `calls`. -/
def adjacency (calls : List CallEdge) (node : String) : List (String × KnownRecord) :=
  (calls.filter (·.source = node)).map fun e => (e.target, e.record)

def targets (calls : List CallEdge) (node : String) : List String :=
  (adjacency calls node).map Prod.fst

inductive RuleFault where
  | outOfFuel | indexError | validationError
  deriving DecidableEq

/-- The record of one call: the one with the least hash. -/
def parent (calls : List CallEdge) (call : String × String) : Except RuleFault KnownRecord :=
  let candidates := ((adjacency calls call.1).filter (·.1 = call.2)).map Prod.snd
  required (orderBy (fun r r' => r.recordHash ≤ r'.recordHash) candidates).head? .indexError

/-- What is emitted, before its payload is built. -/
structure Reached where
  source : String
  target : String
  path : List String
  parents : List KnownRecord

def row (calls : List CallEdge) (source : String) (item : String × List String) :
    Except RuleFault Reached := do
  let parents ← (item.2.zip item.2.tail).mapM (parent calls)
  pure ⟨source, item.1, item.2, parents⟩

def reachedFrom (calls : List CallEdge) (source : String) : Except RuleFault (List Reached) := do
  let start : Search String :=
    ⟨[(source, [source])], (∅ : Dict String (List String)).insert source [source]⟩
  let best ← required (search (targets calls) (calls.length + 1) start) .outOfFuel
  (best.items.filter fun item => ¬(item.1 = source ∨ item.2.length < 2)).mapM (row calls source)

def reached (calls : List CallEdge) : Except RuleFault (List Reached) := do
  let groups ← (sortedSet (calls.map (·.source))).mapM (reachedFrom calls)
  pure groups.flatten

/-- `_reachable_payload`. -/
def Reached.payload (r : Reached) : String := r.target ++ "|path=" ++ String.intercalate ">" r.path

structure DerivedCandidate where
  parents : List KnownRecord
  propositionType : String
  subjectRef : String
  predicate : String
  objectValue : WorldValue

def Reached.candidate (r : Reached) : DerivedCandidate :=
  ⟨r.parents, "CALL_REACHABLE", r.source, "code.call_reachable", .string r.payload⟩

/-- What the validators of `WorldValue` accept as a string; `nfc` is the Unicode normal form. -/
def Accepted (nfc : String → String) (s : String) : Prop :=
  s.length ≤ 20000 ∧ nfc s = s ∧ '\x00' ∉ s.toList
  deriving Decidable

def emit (nfc : String → String) (r : Reached) : Except RuleFault DerivedCandidate :=
  if Accepted nfc r.payload then .ok r.candidate else .error .validationError

/-- `CallReachabilityRule.apply`. -/
def apply (nfc : String → String) (known : KnownSet) (delta : List KnownRecord) :
    Except RuleFault (List DerivedCandidate) :=
  if delta.any (·.propositionType = "DIRECT_CALLS") then do
    let rows ← reached (sortedEdges known)
    rows.mapM (emit nfc)
  else .ok []

/-- `record` says that `u` calls `v`. -/
def Records (known : KnownSet) (u v : String) (record : KnownRecord) : Prop :=
  record ∈ known.rows ∧ record.propositionType = "DIRECT_CALLS" ∧ record.subjectRef = u ∧
    record.objectValue = some (.string v) ∧ v ≠ ""

def Calls (known : KnownSet) (u v : String) : Prop := ∃ record, Records known u v record

/-- The record of a call with the least hash. -/
def LeastRecord (known : KnownSet) (call : String × String) (record : KnownRecord) : Prop :=
  Records known call.1 call.2 record ∧
    ∀ other, Records known call.1 call.2 other → record.recordHash ≤ other.recordHash

structure Reached.Exact (known : KnownSet) (r : Reached) : Prop where
  distinct : r.source ≠ r.target
  path : LeastPath (Calls known) r.source r.target r.path
  parents : (r.path.zip r.path.tail).Forall₂ (LeastRecord known) r.parents

variable {known known' : KnownSet} {u v source : String} {record : KnownRecord} {path : List String}

lemma callEdge_eq_some {record : KnownRecord} {e : CallEdge} :
    callEdge record = some e ↔ record.subjectRef = e.source ∧
      record.objectValue = some (.string e.target) ∧ e.target ≠ "" ∧ record = e.record := by
  obtain ⟨source, target, record'⟩ := e
  rw [callEdge, text]
  split
  · split_ifs <;> grind
  · grind

lemma mem_sortedEdges {e : CallEdge} :
    e ∈ sortedEdges known ↔ Records known e.source e.target e.record := by
  rw [sortedEdges, mem_orderBy, edges, mem_filterMap, Records]
  simp only [callEdge_eq_some, mem_filter, decide_eq_true_eq]
  constructor
  · rintro ⟨record, ⟨hmem, hkind⟩, hsource, hvalue, hne, rfl⟩
    exact ⟨hmem, hkind, hsource, hvalue, hne⟩
  · rintro ⟨hmem, hkind, hsource, hvalue, hne⟩
    exact ⟨_, ⟨hmem, hkind⟩, hsource, hvalue, hne, rfl⟩

lemma mem_adjacency :
    (v, record) ∈ adjacency (sortedEdges known) u ↔ Records known u v record := by
  simp only [adjacency, mem_map, mem_filter, decide_eq_true_eq, Prod.mk.injEq]
  constructor
  · rintro ⟨e, ⟨he, rfl⟩, rfl, rfl⟩
    exact mem_sortedEdges.mp he
  · intro h
    exact ⟨⟨u, v, record⟩, ⟨mem_sortedEdges.mpr h, rfl⟩, rfl, rfl⟩

lemma mem_targets : v ∈ targets (sortedEdges known) u ↔ Calls known u v := by
  simp only [targets, mem_map, Prod.exists, exists_and_right, exists_eq_right, mem_adjacency, Calls]

lemma targets_sorted : (targets (sortedEdges known) u).Pairwise (· ≤ ·) := by
  rw [targets, adjacency, map_map, pairwise_map, pairwise_filter]
  refine (orderBy_sorted CallEdge.key (edges known)).imp fun {e e'} hle hu hu' => ?_
  simp only [CallEdge.key, Prod.Lex.toLex_le_toLex, decide_eq_true_eq] at hle hu hu'
  rcases hle with hlt | ⟨-, hlt | hle⟩
  · exact absurd hlt (by rw [hu, hu']; exact lt_irrefl _)
  · exact le_of_lt hlt
  · exact hle.1.le

/-- The rule sees the records, not the order in which they were added. -/
lemma sortedEdges_congr (h : ∀ r, r ∈ known'.rows ↔ r ∈ known.rows) :
    sortedEdges known' = sortedEdges known := by
  have hperm : known'.rows.Perm known.rows :=
    (perm_ext_iff_of_nodup known'.keys_nodup.of_map known.keys_nodup.of_map).mpr h
  refine orderBy_congr CallEdge.key ((hperm.filter _).filterMap _) ?_
  intro e he e' he' hkey
  have hmem := mem_sortedEdges.mp (mem_orderBy.mpr he)
  have hmem' := mem_sortedEdges.mp (mem_orderBy.mpr he')
  obtain ⟨source, target, r⟩ := e
  obtain ⟨source', target', r'⟩ := e'
  simp only [CallEdge.key, toLex_inj, Prod.mk.injEq] at hkey
  obtain ⟨rfl, rfl, hhash⟩ := hkey
  exact congrArg _ (known'.eq_of_key_eq hmem.1 hmem'.1 hhash)

lemma mapM_forall₂ {α β ε : Type} (f : α → Except ε β) (P : α → β → Prop) {xs : List α}
    (h : ∀ x ∈ xs, ∃ y, f x = .ok y ∧ P x y) : ∃ ys, xs.mapM f = .ok ys ∧ xs.Forall₂ P ys := by
  induction xs with
  | nil => exact ⟨[], rfl, .nil⟩
  | cons x xs ih =>
    obtain ⟨y, hy, hP⟩ := h x mem_cons_self
    obtain ⟨ys, hys, hall⟩ := ih fun x' hx' => h x' (mem_cons_of_mem _ hx')
    exact ⟨y :: ys, mapM_eq_ok.mpr (.cons hy (mapM_eq_ok.mp hys)), .cons hP hall⟩

lemma parent_spec (h : Calls known u v) :
    ∃ record, parent (sortedEdges known) (u, v) = .ok record ∧ LeastRecord known (u, v) record := by
  have hmem : ∀ r, r ∈ ((adjacency (sortedEdges known) u).filter (·.1 = v)).map Prod.snd ↔
      Records known u v r := by
    simp [mem_map, mem_filter, mem_adjacency]
  obtain ⟨other, hother⟩ := h
  simp only [parent, required_eq_ok]
  cases hhead : (orderBy (fun r r' => r.recordHash ≤ r'.recordHash)
      (((adjacency (sortedEdges known) u).filter (·.1 = v)).map Prod.snd)).head? with
  | none =>
    have hnone := (orderBy_perm _ _).symm.trans (.of_eq (List.head?_eq_none_iff.mp hhead))
    exact absurd (hnone.subset ((hmem other).mpr hother)) not_mem_nil
  | some record =>
    refine ⟨record, rfl, (hmem _).mp (mem_orderBy.mp (mem_of_head? hhead)), ?_⟩
    exact fun r hr => orderBy_head_le hhead ((hmem r).mpr hr)

lemma walk_calls (h : Walk (Calls known) source v path) :
    path.getLast? = some v ∧ path.IsChain (Calls known) := by
  induction h with
  | start => simp
  | @step u v path walk h ih =>
    refine ⟨by simp, isChain_append.mpr ⟨ih.2, isChain_singleton _, ?_⟩⟩
    simpa [ih.1] using h

lemma parents_spec (h : path.IsChain (Calls known)) :
    ∃ parents, (path.zip path.tail).mapM (parent (sortedEdges known)) = .ok parents ∧
      (path.zip path.tail).Forall₂ (LeastRecord known) parents := by
  induction path with
  | nil => exact ⟨[], rfl, .nil⟩
  | cons u path ih =>
    cases path with
    | nil => exact ⟨[], rfl, .nil⟩
    | cons v path =>
      rw [isChain_cons_cons] at h
      obtain ⟨record, hrecord, hleast⟩ := parent_spec h.1
      obtain ⟨parents, hparents, hall⟩ := ih h.2
      exact ⟨record :: parents, mapM_eq_ok.mpr (.cons hrecord (mapM_eq_ok.mp hparents)),
        .cons hleast hall⟩

lemma reachedFrom_spec (known : KnownSet) (source : String) :
    ∃ rows, reachedFrom (sortedEdges known) source = .ok rows ∧
      (∀ r ∈ rows, r.source = source ∧ r.Exact known) ∧ (rows.map Reached.target).Nodup ∧
      ∀ v path, v ≠ source → Walk (Calls known) source v path → ∃ r ∈ rows, r.target = v := by
  have hcalls : (fun u v => v ∈ targets (sortedEdges known) u) = Calls known :=
    funext fun u => funext fun v => propext mem_targets
  have hnodes : ∀ u, ∀ v ∈ targets (sortedEdges known) u,
      v ∈ source :: (sortedEdges known).map (·.target) := by
    intro u v hv
    obtain ⟨record, hrecord⟩ := mem_targets.mp hv
    exact mem_cons_of_mem _
      (mem_map.mpr ⟨⟨u, v, record⟩, mem_sortedEdges.mpr hrecord, rfl⟩)
  obtain ⟨best, hsearch, hbest⟩ := Searched.search_exact (mem_cons_self ..) hnodes
    (fun _ => targets_sorted) (Searched.initial []) ((sortedEdges known).length + 1) (by simp)
  rw [hcalls] at hbest
  have hitem : ∀ e, e ∈ best.items.filter (fun e => ¬(e.1 = source ∨ e.2.length < 2)) ↔
      e.1 ≠ source ∧ LeastPath (Calls known) source e.1 e.2 := by
    rintro ⟨v, p⟩
    rw [mem_filter, Dict.mem_items, (hbest v).1, decide_eq_true_eq, not_or, and_comm, and_assoc]
    refine and_congr_right fun hne => and_iff_right_of_imp fun hpath => ?_
    cases hpath.walk with
    | start => exact absurd rfl hne
    | step walk => cases walk <;> simp
  obtain ⟨rows, hrows, hall⟩ := mapM_forall₂ (row (sortedEdges known) source)
    (fun e r => e.1 = r.target ∧ r.source = source ∧ r.Exact known) fun e he => by
      obtain ⟨hne, hpath⟩ := (hitem e).mp he
      obtain ⟨parents, hparents, hleast⟩ := parents_spec (walk_calls hpath.walk).2
      refine ⟨⟨source, e.1, e.2, parents⟩, ?_, rfl, rfl, hne.symm, hpath, hleast⟩
      rw [row, hparents]
      rfl
  refine ⟨rows, ?_, ?_, ?_, ?_⟩
  · rw [reachedFrom, hsearch]
    exact hrows
  · intro r hr
    obtain ⟨e, -, he⟩ := exists_partner hall.flip hr
    exact he.2
  · have htargets := hall.imp fun _ _ h => h.1
    rw [← List.forall₂_map_right_iff, ← List.forall₂_map_left_iff, List.forall₂_eq_eq_eq] at htargets
    rw [← htargets]
    exact best.items_nodup.sublist (filter_sublist.map _)
  · intro v path hne hwalk
    obtain ⟨q, hq⟩ := (hbest v).2 path hwalk
    obtain ⟨r, hr, hmatch⟩ := exists_partner hall ((hitem (v, q)).mpr ⟨hne, ((hbest v).1 q).mp hq⟩)
    exact ⟨r, hr, hmatch.1.symm⟩

lemma walk_first (h : Walk (Calls known) source v path) :
    v = source ∨ ∃ w, Calls known source w := by
  induction h with
  | start => exact .inl rfl
  | @step u v path walk hcall ih =>
    rcases ih with rfl | hfirst
    · exact .inr ⟨v, hcall⟩
    · exact .inr hfirst

/-- The rows of the answer: one for each ordered pair of different nodes of which the second can be
reached from the first. -/
structure ExactRows (known : KnownSet) (rows : List Reached) : Prop where
  exact : ∀ r ∈ rows, r.Exact known
  once : (rows.map fun r => (r.source, r.target)).Nodup
  all : ∀ u v path, u ≠ v → Walk (Calls known) u v path → ∃ r ∈ rows, r.source = u ∧ r.target = v

lemma reached_spec (known : KnownSet) :
    ∃ rows, reached (sortedEdges known) = .ok rows ∧ ExactRows known rows := by
  have hgroups : ∀ sources : List String, sources.Nodup → ∃ groups,
      sources.mapM (reachedFrom (sortedEdges known)) = .ok groups ∧
      (∀ r ∈ groups.flatten, r.source ∈ sources ∧ r.Exact known) ∧
      (groups.flatten.map fun r => (r.source, r.target)).Nodup ∧
      ∀ u ∈ sources, ∀ v path, u ≠ v → Walk (Calls known) u v path →
        ∃ r ∈ groups.flatten, r.source = u ∧ r.target = v := by
    intro sources hnodup
    induction sources with
    | nil => exact ⟨[], rfl, by simp, by simp, by simp⟩
    | cons source sources ih =>
      rw [nodup_cons] at hnodup
      obtain ⟨rows, hrows, hexact, honce, hfound⟩ := reachedFrom_spec known source
      obtain ⟨groups, hgroups, hexact', honce', hfound'⟩ := ih hnodup.2
      refine ⟨rows :: groups, mapM_eq_ok.mpr (.cons hrows (mapM_eq_ok.mp hgroups)), ?_, ?_, ?_⟩
      · intro r hr
        rcases mem_append.mp hr with hr | hr
        · exact ⟨(hexact r hr).1 ▸ mem_cons_self, (hexact r hr).2⟩
        · exact ⟨mem_cons_of_mem _ (hexact' r hr).1, (hexact' r hr).2⟩
      · rw [flatten_cons, map_append, nodup_append]
        refine ⟨.of_map Prod.snd (by rwa [map_map]), honce', ?_⟩
        intro pair hpair pair' hpair' heq
        obtain ⟨r, hr, rfl⟩ := mem_map.mp hpair
        obtain ⟨r', hr', rfl⟩ := mem_map.mp hpair'
        have hsource : r.source = r'.source := congrArg Prod.fst heq
        exact hnodup.1 ((hexact r hr).1 ▸ hsource ▸ (hexact' r' hr').1)
      · intro u hu v path hne hwalk
        rcases mem_cons.mp hu with rfl | hu
        · obtain ⟨r, hr, htarget⟩ := hfound v path hne.symm hwalk
          exact ⟨r, mem_append_left _ hr, (hexact r hr).1, htarget⟩
        · obtain ⟨r, hr, hmatch⟩ := hfound' u hu v path hne hwalk
          exact ⟨r, mem_append_right _ hr, hmatch⟩
  obtain ⟨groups, hmap, hexact, honce, hfound⟩ := hgroups
    (sortedSet ((sortedEdges known).map (·.source))) ((sortedSet_strict _).imp ne_of_lt)
  refine ⟨groups.flatten, by rw [reached, hmap]; rfl, fun r hr => (hexact r hr).2, honce, ?_⟩
  intro u v path hne hwalk
  obtain ⟨w, record, hrecord⟩ := (walk_first hwalk).resolve_left hne.symm
  have hedge : ⟨u, w, record⟩ ∈ sortedEdges known := mem_sortedEdges.mpr hrecord
  exact hfound u (mem_sortedSet.mpr (mem_map.mpr ⟨_, hedge, rfl⟩)) v path hne hwalk

lemma mapM_emit (nfc : String → String) (rows : List Reached) : rows.mapM (emit nfc) =
    if ∀ r ∈ rows, Accepted nfc r.payload then .ok (rows.map Reached.candidate)
    else .error .validationError := by
  induction rows with
  | nil => rfl
  | cons r rows ih =>
    simp only [mapM_cons, ih, emit, forall_mem_cons]
    by_cases h : Accepted nfc r.payload
    · by_cases hrest : ∀ r ∈ rows, Accepted nfc r.payload
      · rw [if_pos h, if_pos hrest, if_pos ⟨h, hrest⟩]
        rfl
      · rw [if_pos h, if_neg hrest, if_neg (not_and_of_not_right _ hrest)]
        rfl
    · rw [if_neg h, if_neg (not_and_of_not_left _ h)]
      rfl

/-- Every set of records has one exact list of rows, whatever the order in which the records were
added, and the rule emits the candidates of these rows; it raises, and emits nothing, when a
payload is no string that `WorldValue` accepts. -/
theorem callReachability_exact (nfc : String → String) (known : KnownSet) :
    ∃ rows, ExactRows known rows ∧
      ∀ delta known', (∀ r, r ∈ known'.rows ↔ r ∈ known.rows) → apply nfc known' delta =
        if ∀ r ∈ delta, r.propositionType ≠ "DIRECT_CALLS" then .ok []
        else if ∀ r ∈ rows, Accepted nfc r.payload then .ok (rows.map Reached.candidate)
        else .error .validationError := by
  obtain ⟨rows, hrows, hexact⟩ := reached_spec known
  refine ⟨rows, hexact, fun delta known' hsame => ?_⟩
  rw [apply, sortedEdges_congr hsame, hrows, ← mapM_emit]
  by_cases h : ∀ r ∈ delta, r.propositionType ≠ "DIRECT_CALLS"
  · rw [if_pos h, if_neg (by simpa using h)]
  · rw [if_neg h, if_pos (by simpa using h)]
    rfl

def longName (length : ℕ) : String := String.ofList (List.replicate length 'a')

lemma longName_length (length : ℕ) : (longName length).length = length := by simp [longName]

/-- One call, of the longest name that `WorldValue` accepts. -/
def longCall : KnownSet :=
  ⟨[⟨"DIRECT_CALLS", "f", some (.string (longName 20000)), "0"⟩], nodup_singleton _⟩

/-- The path to a callee with a long name does not fit into a `WorldValue`. -/
theorem longCall_raises : Calls longCall "f" (longName 20000) ∧
    apply id longCall longCall.rows = .error .validationError := by
  have hlength := longName_length 20000
  have hne : "f" ≠ longName 20000 := fun h => by
    rw [← h] at hlength
    cases hlength
  have hcall : Calls longCall "f" (longName 20000) := by
    refine ⟨_, mem_singleton_self _, rfl, rfl, rfl, fun h => ?_⟩
    rw [h] at hlength
    cases hlength
  have hdelta : longCall.rows.any (·.propositionType = "DIRECT_CALLS") = true :=
    any_eq_true.mpr ⟨_, mem_singleton_self _, rfl⟩
  obtain ⟨rows, hrows, hexact⟩ := reached_spec longCall
  obtain ⟨r, hr, -, htarget⟩ := hexact.all "f" _ _ hne (.step .start hcall)
  refine ⟨hcall, ?_⟩
  rw [apply, if_pos hdelta, hrows]
  refine (mapM_emit id rows).trans (if_neg fun hall => ?_)
  have hfits := (hall r hr).1
  rw [Reached.payload, htarget, String.length_append, String.length_append, hlength] at hfits
  have : "|path=".length = 6 := rfl
  omega

end Tiangong.Known
