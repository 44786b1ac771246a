import Mathlib.Data.List.Perm.Subperm
import Tiangong.JsonReading

/-!
# Canonical JSON as an identity

Two contract values have the same canonical bytes exactly when they have the same content. The
normal form keeps all of the content, and the decoder reads the normal form back.
-/
open List Except

namespace Tiangong

namespace PlatformJson

lemma utf16_inj {s t : PyStr} (hs : s.Encodable) (ht : t.Encodable) (h : utf16 s = utf16 t) :
    s = t := by
  induction s generalizing t with
  | nil =>
    cases t with
    | nil => rfl
    | cons d t =>
      simp only [utf16, flatMap_nil, flatMap_cons] at h
      split at h <;> simp at h
  | cons c s ih =>
    cases t with
    | nil =>
      simp only [utf16, flatMap_nil, flatMap_cons] at h
      split at h <;> simp at h
    | cons d t =>
      have hc := hs c mem_cons_self
      have hd := ht d mem_cons_self
      have hcbound := c.isLt
      have hdbound := d.isLt
      simp only [CodePoint.isSurrogate, Bool.and_eq_false_iff, decide_eq_false_iff_not] at hc hd
      have hrest := @ih t (fun e he => hs e (mem_cons_of_mem _ he))
        (fun e he => ht e (mem_cons_of_mem _ he))
      -- A unit of a surrogate pair is no character of its own in a text that can be encoded.
      have hunits : c.val = d.val ∧ utf16 s = utf16 t := by
        simp only [utf16, flatMap_cons] at h ⊢
        by_cases hlow : c.val < 0x10000
        · by_cases hlow' : d.val < 0x10000
          · rw [if_pos hlow, if_pos hlow'] at h
            simpa using h
          · rw [if_pos hlow, if_neg hlow'] at h
            simp only [cons_append, nil_append, List.cons.injEq] at h
            omega
        · by_cases hlow' : d.val < 0x10000
          · rw [if_neg hlow, if_pos hlow'] at h
            simp only [cons_append, nil_append, List.cons.injEq] at h
            omega
          · rw [if_neg hlow, if_neg hlow'] at h
            simp only [cons_append, nil_append, List.cons.injEq] at h
            exact ⟨by omega, h.2.2⟩
      rw [Fin.ext hunits.1, hrest hunits.2]

/-- Members by the order of their keys. -/
def utf16Le {α : Type} (m m' : PyStr × α) : Bool := utf16 m.1 ≤ utf16 m'.1

lemma orderBy_keys_pairwise {α : Type} (members : List (PyStr × α)) :
    (orderBy utf16Le members).Pairwise fun m m' => utf16 m.1 ≤ utf16 m'.1 := by
  have hsorted := @orderBy_pairwise (PyStr × α) utf16Le
    (fun m m' => by simpa [utf16Le] using le_total (utf16 m.1) (utf16 m'.1))
    (fun m m' m'' h h' => by
      simp only [utf16Le, decide_eq_true_eq] at *
      exact le_trans h h') members
  exact hsorted.imp fun h => of_decide_eq_true h

/-- Different keys of the texts that can be encoded stand in a strict order. -/
lemma orderBy_keys_strict {α : Type} {members : List (PyStr × α)}
    (hencodable : ∀ m ∈ members, m.1.Encodable) (hnodup : (members.map Prod.fst).Nodup) :
    ((orderBy utf16Le members).map Prod.fst).Pairwise fun k k' => utf16 k < utf16 k' := by
  have hperm := orderBy_perm utf16Le members
  have hkeys : ((orderBy utf16Le members).map Prod.fst).Nodup :=
    (hperm.map Prod.fst).nodup_iff.mpr hnodup
  rw [pairwise_map]
  have hne : (orderBy utf16Le members).Pairwise fun m m' => m.1 ≠ m'.1 := pairwise_map.mp hkeys
  refine ((orderBy_keys_pairwise members).and hne).imp_of_mem ?_
  rintro m m' hm hm' ⟨hle, hkey⟩
  refine lt_of_le_of_ne hle fun heq => hkey ?_
  exact utf16_inj (hencodable m (mem_orderBy.mp hm)) (hencodable m' (mem_orderBy.mp hm')) heq

/-- Members in the order of their keys stay as they are. -/
lemma orderBy_of_strict {α : Type} {members : List (PyStr × α)}
    (h : (members.map Prod.fst).Pairwise fun k k' => utf16 k < utf16 k') :
    orderBy utf16Le members = members := by
  rw [pairwise_map] at h
  exact List.Pairwise.insertionSort_eq (h.imp fun hlt => decide_eq_true (le_of_lt hlt))

/-- The order in which members are listed plays no part. -/
lemma orderBy_of_perm {α : Type} {members members' : List (PyStr × α)}
    (hperm : members.Perm members') (hencodable : ∀ m ∈ members, m.1.Encodable)
    (hnodup : (members.map Prod.fst).Nodup) : orderBy utf16Le members = orderBy utf16Le members' := by
  have hstrict := pairwise_map.mp (orderBy_keys_strict hencodable hnodup)
  have hstrict' := pairwise_map.mp (orderBy_keys_strict
    (fun m hm => hencodable m (hperm.mem_iff.mpr hm)) ((hperm.map Prod.fst).nodup_iff.mp hnodup))
  have hboth := ((orderBy_perm utf16Le members).trans hperm).trans (orderBy_perm utf16Le members').symm
  refine hboth.eq_of_pairwise ?_ hstrict hstrict'
  intro m m' _ _ hlt hlt'
  exact absurd hlt' (lt_asymm hlt)

end PlatformJson

namespace PyValue

open PlatformJson (utf16Le utf16 orderBy_keys_strict orderBy_of_strict orderBy_of_perm)

/-- A member whose key is a text and whose value has a normal form. -/
def accepted (m : PyStr × PlatformJson) : ContractKey × Except CanonicalFault PlatformJson :=
  (.text m.1, .ok m.2)

lemma stringKeys_eq_ok {α : Type} {members : List (ContractKey × α)} {named : List (PyStr × α)} :
    stringKeys members = .ok named ↔ members = named.map fun m => (.text m.1, m.2) := by
  induction members generalizing named with
  | nil => cases named <;> simp [stringKeys]
  | cons member members ih =>
    obtain ⟨key, v⟩ := member
    cases key with
    | other typeName => cases named <;> simp [stringKeys]
    | text key =>
      rw [stringKeys, map_eq_ok]
      constructor
      · rintro ⟨rest, hrest, rfl⟩
        rw [map_cons, ih.mp hrest]
      · intro h
        cases named with
        | nil => cases h
        | cons m named =>
          obtain ⟨hm, hnamed⟩ := List.cons.inj h
          obtain ⟨hkey, hv⟩ := Prod.mk.inj hm
          refine ⟨named, ih.mpr hnamed, ?_⟩
          rw [ContractKey.text.inj hkey, hv]

lemma sortedByKey_eq_ok {α : Type} {members ordered : List (PyStr × α)} :
    sortedByKey members = .ok ordered ↔
      (∀ m ∈ members, m.1.Encodable) ∧ ordered = orderBy utf16Le members := by
  have hkeys : (∃ units, members.mapM (fun m => utf16SortKey m.1) = .ok units) ↔
      ∀ m ∈ members, m.1.Encodable := by
    constructor
    · rintro ⟨units, hunits⟩ m hm
      obtain ⟨unit, -, hunit⟩ := exists_partner (mapM_eq_ok.mp hunits) hm
      unfold utf16SortKey at hunit
      split at hunit
      · assumption
      · cases hunit
    · intro h
      apply mapM_exists_ok
      intro m hm
      exact ⟨utf16 m.1, if_pos (h m hm)⟩
  rw [← hkeys, sortedByKey]
  simp only [eq_ok_iff]
  constructor
  · rintro ⟨units, hunits, rfl⟩
    exact ⟨⟨units, hunits⟩, rfl⟩
  · rintro ⟨⟨units, hunits⟩, rfl⟩
    exact ⟨units, hunits, rfl⟩

/-- Values that have normal forms, under their keys. -/
lemma mapM_settled (named : List (PyStr × PlatformJson)) :
    ((named.map fun m => (m.1, (.ok m.2 : Except CanonicalFault PlatformJson))).mapM
      fun m => m.2.map fun v => (m.1, v)) = .ok named := by
  rw [mapM_eq_ok, List.forall₂_map_left_iff, List.forall₂_same]
  intro m _
  rfl

variable {n : PlatformJson}

/-- A mapping has a normal form when its keys are texts that can be encoded and its values have
normal forms, which are then listed by their keys. -/
lemma canonicalMapping_eq_ok {members : List (ContractKey × Except CanonicalFault PlatformJson)} :
    canonicalMapping members = .ok n ↔ ∃ named : List (PyStr × PlatformJson),
      members = named.map accepted ∧ (∀ m ∈ named, m.1.Encodable) ∧
      n = .object (orderBy utf16Le named) := by
  have hordered : ∀ named : List (PyStr × PlatformJson), orderBy utf16Le
      (named.map fun m => (m.1, (.ok m.2 : Except CanonicalFault PlatformJson))) =
      (orderBy utf16Le named).map fun m => (m.1, .ok m.2) := by
    intro named
    exact (@map_orderBy (PyStr × PlatformJson) (PyStr × Except CanonicalFault PlatformJson)
      utf16Le utf16Le (fun m => (m.1, .ok m.2)) (fun m m' => rfl) named).symm
  simp only [canonicalMapping, eq_ok_iff, stringKeys_eq_ok, sortedByKey_eq_ok]
  constructor
  · rintro ⟨pairs, rfl, ordered, ⟨hencodable, rfl⟩, fields, hfields, rfl⟩
    have hvalues : ∀ m ∈ pairs, ∃ v, m.2 = .ok v := by
      intro m hm
      obtain ⟨field, -, hfield⟩ := exists_partner (mapM_eq_ok.mp hfields) (mem_orderBy.mpr hm)
      obtain ⟨v, hv, -⟩ := map_eq_ok.mp hfield
      exact ⟨v, hv⟩
    have hnamed : ∃ named : List (PyStr × PlatformJson),
        pairs = named.map fun m => (m.1, .ok m.2) := by
      clear hencodable hfields
      induction pairs with
      | nil => exact ⟨[], rfl⟩
      | cons m pairs ih =>
        obtain ⟨named, hpairs⟩ := ih fun m' hm' => hvalues m' (mem_cons_of_mem _ hm')
        obtain ⟨v, hv⟩ := hvalues m mem_cons_self
        refine ⟨(m.1, v) :: named, ?_⟩
        rw [map_cons, ← hpairs, ← hv]
    obtain ⟨named, rfl⟩ := hnamed
    rw [hordered, mapM_settled] at hfields
    obtain rfl := ok.inj hfields
    refine ⟨named, by rw [map_map]; rfl, ?_, rfl⟩
    intro m hm
    exact hencodable _ (mem_map_of_mem hm)
  · rintro ⟨named, rfl, hencodable, rfl⟩
    refine ⟨named.map fun m => (m.1, .ok m.2), by rw [map_map]; rfl, _,
      ⟨?_, rfl⟩, orderBy utf16Le named, ?_, rfl⟩
    · intro m hm
      obtain ⟨m', hm', rfl⟩ := mem_map.mp hm
      exact hencodable m' hm'
    · rw [hordered, mapM_settled]

lemma canonicalMembers_eq (fields : List (ContractKey × PyValue)) :
    canonicalMembers fields = fields.map fun f => (f.1, canonicalValue f.2) := by
  induction fields with
  | nil => rfl
  | cons f fields ih =>
    obtain ⟨key, v⟩ := f
    rw [canonicalMembers, ih, map_cons]

/-- What a mapping with a normal form holds: its members and those of the normal form are the
same, one by one, and differ in their order only. -/
structure Settled (fields : List (ContractKey × PyValue)) (named : List (PyStr × PlatformJson)) :
    Prop where
  members : fields.map (fun f => (f.1, canonicalValue f.2)) = named.map accepted
  encodable : ∀ m ∈ named, m.1.Encodable

lemma canonicalValue_mapping {kind : MappingKind} {fields : List (ContractKey × PyValue)} : (mapping kind fields).canonicalValue = .ok n ↔
      ∃ named, Settled fields named ∧ n = .object (orderBy utf16Le named) := by
  rw [canonicalValue, canonicalMembers_eq, canonicalMapping_eq_ok]
  constructor
  · rintro ⟨named, hmembers, hencodable, heq⟩
    exact ⟨named, ⟨hmembers, hencodable⟩, heq⟩
  · rintro ⟨named, hsettled, heq⟩
    exact ⟨named, hsettled.members, hsettled.encodable, heq⟩

variable {fields : List (ContractKey × PyValue)} {named : List (PyStr × PlatformJson)}

theorem Settled.length_eq (h : Settled fields named) : fields.length = named.length := by
  have hlength := congrArg List.length h.members
  simpa using hlength

lemma Settled.keys_eq (h : Settled fields named) :
    fields.map Prod.fst = (named.map Prod.fst).map ContractKey.text := by
  have hkeys := congrArg (List.map Prod.fst) h.members
  simpa [accepted, Function.comp_def] using hkeys

theorem Settled.nodup (h : Settled fields named) (hnodup : (fields.map Prod.fst).Nodup) :
    (named.map Prod.fst).Nodup := by
  rw [h.keys_eq] at hnodup
  exact List.Nodup.of_map _ hnodup

variable {key : ContractKey} {v : PyValue}

/-- A member of the mapping is one of the normal form. -/
theorem Settled.settles (h : Settled fields named) (hmem : (key, v) ∈ fields) :
    ∃ m ∈ named, key = .text m.1 ∧ v.canonicalValue = .ok m.2 := by
  have himage : (key, v.canonicalValue) ∈ fields.map (fun f => (f.1, canonicalValue f.2)) :=
    mem_map_of_mem hmem
  rw [h.members] at himage
  obtain ⟨m, hm, heq⟩ := mem_map.mp himage
  obtain ⟨hkey, hv⟩ := Prod.mk.inj heq
  exact ⟨m, hm, hkey.symm, hv.symm⟩

/-- A member of the normal form is one of the mapping. -/
theorem Settled.source (h : Settled fields named) {m : PyStr × PlatformJson} (hm : m ∈ named) :
    ∃ v, (.text m.1, v) ∈ fields ∧ v.canonicalValue = .ok m.2 := by
  have himage : accepted m ∈ named.map accepted := mem_map_of_mem hm
  rw [← h.members] at himage
  obtain ⟨f, hf, heq⟩ := mem_map.mp himage
  obtain ⟨hkey, hv⟩ := Prod.mk.inj heq
  refine ⟨f.2, ?_, hv⟩
  rw [← hkey]
  exact hf

lemma distinct_of_mem (h : DistinctFields fields) (hmem : (key, v) ∈ fields) : v.Distinct := by
  induction fields with
  | nil => cases hmem
  | cons f fields ih =>
    obtain ⟨k, w⟩ := f
    obtain ⟨hw, hrest⟩ := h
    rcases mem_cons.mp hmem with heq | hmem
    · obtain ⟨-, rfl⟩ := Prod.mk.inj heq
      exact hw
    · exact ih hrest hmem

lemma mem_of_lookup (h : fields.lookup key = some v) : (key, v) ∈ fields := by
  induction fields with
  | nil => cases h
  | cons f fields ih =>
    obtain ⟨k, w⟩ := f
    rw [lookup_cons] at h
    cases hk : key == k with
    | true =>
      rw [hk] at h
      obtain rfl := Option.some.inj h
      rw [eq_of_beq hk]
      exact mem_cons_self
    | false =>
      rw [hk] at h
      exact mem_cons_of_mem _ (ih h)

theorem lookup_of_mem (hnodup : (fields.map Prod.fst).Nodup)
    (hmem : (key, v) ∈ fields) : fields.lookup key = some v := by
  induction fields with
  | nil => cases hmem
  | cons f fields ih =>
    obtain ⟨k, w⟩ := f
    rw [map_cons, nodup_cons] at hnodup
    rw [lookup_cons]
    rcases mem_cons.mp hmem with heq | hrest
    · obtain ⟨rfl, rfl⟩ := Prod.mk.inj heq
      rw [beq_self_eq_true]
    · have hne : (key == k) = false := by
        rw [beq_eq_false_iff_ne]
        intro heq
        rw [← heq] at hnodup
        exact hnodup.1 (mem_map.mpr ⟨(key, v), hrest, rfl⟩)
      rw [hne]
      exact ih hnodup.2 hrest

/-- Members whose normal forms agree under each key make up one object. -/
lemma object_eq_of_agree {fields' : List (ContractKey × PyValue)}
    {named' : List (PyStr × PlatformJson)} (h : Settled fields named) (h' : Settled fields' named')
    (hnodup : (fields.map Prod.fst).Nodup) (hlength : fields.length = fields'.length)
    (hagree : ∀ key v, (key, v) ∈ fields → ∃ v', (key, v') ∈ fields' ∧
      ∀ n n', v.canonicalValue = .ok n → v'.canonicalValue = .ok n' → n = n') :
    orderBy utf16Le named = orderBy utf16Le named' := by
  have hsubset : named ⊆ named' := by
    intro m hm
    obtain ⟨v, hv, hn⟩ := h.source hm
    obtain ⟨v', hv', hsame⟩ := hagree _ _ hv
    obtain ⟨m', hm', hkey, hn'⟩ := h'.settles hv'
    have heq : m = m' := Prod.ext (ContractKey.text.inj hkey) (hsame _ _ hn hn')
    rw [heq]
    exact hm'
  have hsub : named.Subperm named' := subperm_of_subset (h.nodup hnodup).of_map hsubset
  have hperm : named.Perm named' := by
    apply hsub.perm_of_length_le
    rw [← h.length_eq, ← h'.length_eq, hlength]
  exact orderBy_of_perm hperm h.encodable (h.nodup hnodup)

mutual

lemma canonicalValue_of_same (v : PyValue) (hv : v.Distinct) (v' : PyValue) (hv' : v'.Distinct)
    (h : v.same v' = true) {n n' : PlatformJson} (hn : v.canonicalValue = .ok n)
    (hn' : v'.canonicalValue = .ok n') : n = n' := by
  match v, v' with
  | .none, .none =>
    rw [← ok.inj hn, ← ok.inj hn']
  | .flag value, .flag value' =>
    obtain rfl : value = value' := by simpa [same] using h
    exact ok.inj (hn.symm.trans hn')
  | .int value, .int value' =>
    obtain rfl : value = value' := by simpa [same] using h
    exact ok.inj (hn.symm.trans hn')
  | .real literal, v' => cases hn
  | .text value, .text value' =>
    obtain rfl : value = value' := by simpa [same] using h
    exact ok.inj (hn.symm.trans hn')
  | .sequence _ items, .sequence _ items' =>
    rw [canonicalValue, map_eq_ok] at hn hn'
    obtain ⟨ns, hns, rfl⟩ := hn
    obtain ⟨ns', hns', rfl⟩ := hn'
    rw [canonicalSequence_of_same items hv items' hv' h hns hns']
  | .mapping _ fields, .mapping _ fields' =>
    obtain ⟨named, hsettled, rfl⟩ := canonicalValue_mapping.mp hn
    obtain ⟨named', hsettled', rfl⟩ := canonicalValue_mapping.mp hn'
    simp only [same, holds_iff] at h
    rw [object_eq_of_agree hsettled hsettled' hv.1 h.1
      (canonicalFields_of_same fields hv.2 fields' hv'.2 h.2)]
  | .other typeName, v' => cases hn

lemma canonicalSequence_of_same (vs : List PyValue) (hvs : DistinctItems vs)
    (vs' : List PyValue) (hvs' : DistinctItems vs') (h : sameItems vs vs' = true)
    {ns ns' : List PlatformJson} (hns : canonicalSequence vs = .ok ns)
    (hns' : canonicalSequence vs' = .ok ns') : ns = ns' := by
  match vs, vs' with
  | [], [] => exact ok.inj (hns.symm.trans hns')
  | v :: vs, v' :: vs' =>
    simp only [canonicalSequence, eq_ok_iff] at hns hns'
    simp only [sameItems, Bool.and_eq_true] at h
    obtain ⟨n, hn, ns, hrest, rfl⟩ := hns
    obtain ⟨n', hn', ns', hrest', rfl⟩ := hns'
    rw [canonicalValue_of_same v hvs.1 v' hvs'.1 h.1 hn hn',
      canonicalSequence_of_same vs hvs.2 vs' hvs'.2 h.2 hrest hrest']

lemma canonicalFields_of_same (fields : List (ContractKey × PyValue))
    (hfields : DistinctFields fields) (fields' : List (ContractKey × PyValue))
    (hfields' : DistinctFields fields') (h : sameFields fields fields' = true) :
    ∀ key v, (key, v) ∈ fields → ∃ v', (key, v') ∈ fields' ∧
      ∀ n n', v.canonicalValue = .ok n → v'.canonicalValue = .ok n' → n = n' := by
  match fields with
  | [] =>
    intro key v hmem
    cases hmem
  | (k, w) :: fields =>
    intro key v hmem
    simp only [sameFields, Bool.and_eq_true] at h
    rcases mem_cons.mp hmem with heq | hmem
    · obtain ⟨rfl, rfl⟩ := Prod.mk.inj heq
      cases hlookup : fields'.lookup key with
      | none =>
        rw [hlookup] at h
        cases h.1
      | some v' =>
        rw [hlookup] at h
        have hv' := mem_of_lookup hlookup
        refine ⟨v', hv', fun n n' hn hn' => ?_⟩
        exact canonicalValue_of_same v hfields.1 v' (distinct_of_mem hfields' hv') h.1 hn hn'
    · exact canonicalFields_of_same fields hfields.2 fields' hfields' h.2 key v hmem

end

/-- The normal form of a value, by the kind of the value. -/
inductive Normalises : PyValue → PlatformJson → Prop
  | none : Normalises .none .null
  | flag (value : Bool) : Normalises (.flag value) (.flag value)
  | int (value : ℤ) (hsafe : value.natAbs ≤ PlatformJson.maxSafeInteger) :
      Normalises (.int value) (.int value)
  | text (value : PyStr) (hencodable : value.Encodable) : Normalises (.text value) (.text value)
  | sequence (kind : SequenceKind) {items : List PyValue} {ns : List PlatformJson}
      (hitems : canonicalSequence items = .ok ns) : Normalises (.sequence kind items) (.array ns)
  | mapping (kind : MappingKind) {fields : List (ContractKey × PyValue)}
      {named ordered : List (PyStr × PlatformJson)} (hsettled : Settled fields named)
      (hordered : ordered = orderBy utf16Le named) :
      Normalises (.mapping kind fields) (.object ordered)

lemma normalises_of_ok (h : v.canonicalValue = .ok n) : Normalises v n := by
  cases v with
  | none =>
    obtain rfl := ok.inj h
    exact .none
  | flag value =>
    obtain rfl := ok.inj h
    exact .flag value
  | real literal => cases h
  | other typeName => cases h
  | int value =>
    unfold canonicalValue at h
    split at h
    · obtain rfl := ok.inj h
      exact .int value (by assumption)
    · cases h
  | text value =>
    rw [canonicalValue, map_eq_ok] at h
    obtain ⟨units, hunits, rfl⟩ := h
    unfold utf16SortKey at hunits
    split at hunits
    · exact .text value (by assumption)
    · cases hunits
  | sequence kind items =>
    rw [canonicalValue, map_eq_ok] at h
    obtain ⟨ns, hns, rfl⟩ := h
    exact .sequence kind hns
  | mapping kind fields =>
    obtain ⟨named, hsettled, rfl⟩ := canonicalValue_mapping.mp h
    exact .mapping kind hsettled rfl

mutual

lemma same_of_canonicalValue (v : PyValue) (hv : v.Distinct) (v' : PyValue) (hv' : v'.Distinct)
    {n : PlatformJson} (hn : v.canonicalValue = .ok n) (hn' : v'.canonicalValue = .ok n) :
    v.same v' = true := by
  have hshape := normalises_of_ok hn
  have hshape' := normalises_of_ok hn'
  match v, v', n, hshape, hshape' with
  | _, _, _, .none, .none => rfl
  | _, _, _, .flag value, .flag _ => exact decide_eq_true rfl
  | _, _, _, .int value _, .int _ _ => exact decide_eq_true rfl
  | _, _, _, .text value _, .text _ _ => exact decide_eq_true rfl
  | .sequence _ items, .sequence _ items', _, .sequence _ hns, .sequence _ hns' =>
    exact sameItems_of_canonicalSequence items hv items' hv' hns hns'
  | .mapping _ fields, .mapping _ fields', _, .mapping _ hsettled hordered,
      .mapping _ hsettled' hordered' =>
    have hlength : fields.length = fields'.length := by
      rw [hsettled.length_eq, hsettled'.length_eq, ← (orderBy_perm utf16Le _).length_eq, ← hordered,
        hordered', (orderBy_perm utf16Le _).length_eq]
    simp only [same, holds_iff]
    refine ⟨hlength, sameFields_of_canonicalValue fields hv.2 fields' hv'.2 ?_⟩
    intro key w hmem
    obtain ⟨m, hm, rfl, hw⟩ := hsettled.settles hmem
    have hm' : m ∈ orderBy utf16Le _ := mem_orderBy.mpr hm
    rw [← hordered, hordered', mem_orderBy] at hm'
    obtain ⟨w', hw', hn'⟩ := hsettled'.source hm'
    exact ⟨w', m.2, lookup_of_mem hv'.1 hw', hw, hn'⟩

lemma sameItems_of_canonicalSequence (vs : List PyValue) (hvs : DistinctItems vs)
    (vs' : List PyValue) (hvs' : DistinctItems vs') {ns : List PlatformJson}
    (hns : canonicalSequence vs = .ok ns) (hns' : canonicalSequence vs' = .ok ns) :
    sameItems vs vs' = true := by
  match vs, vs' with
  | [], [] => rfl
  | [], v' :: vs' =>
    simp only [canonicalSequence, eq_ok_iff] at hns hns'
    obtain ⟨n', -, ns', -, heq⟩ := hns'
    rw [← ok.inj hns] at heq
    cases heq
  | v :: vs, [] =>
    simp only [canonicalSequence, eq_ok_iff] at hns hns'
    obtain ⟨n, -, ns, -, heq⟩ := hns
    rw [← ok.inj hns'] at heq
    cases heq
  | v :: vs, v' :: vs' =>
    simp only [canonicalSequence, eq_ok_iff] at hns hns'
    obtain ⟨n, hn, ns, hrest, rfl⟩ := hns
    obtain ⟨n', hn', ns', hrest', heq⟩ := hns'
    obtain ⟨rfl, rfl⟩ := List.cons.inj heq
    rw [sameItems, same_of_canonicalValue v hvs.1 v' hvs'.1 hn hn',
      sameItems_of_canonicalSequence vs hvs.2 vs' hvs'.2 hrest hrest']
    rfl

/-- Members of which each has one with the same normal form under its key. -/
lemma sameFields_of_canonicalValue (fields : List (ContractKey × PyValue))
    (hfields : DistinctFields fields) (fields' : List (ContractKey × PyValue))
    (hfields' : DistinctFields fields')
    (h : ∀ key v, (key, v) ∈ fields → ∃ v' n, fields'.lookup key = some v' ∧
      v.canonicalValue = .ok n ∧ v'.canonicalValue = .ok n) :
    sameFields fields fields' = true := by
  match fields with
  | [] => rfl
  | (key, v) :: fields =>
    obtain ⟨v', n, hlookup, hn, hn'⟩ := h key v mem_cons_self
    have hrest := sameFields_of_canonicalValue fields hfields.2 fields' hfields'
      fun k w hmem => h k w (mem_cons_of_mem _ hmem)
    have hv' := distinct_of_mem hfields' (mem_of_lookup hlookup)
    rw [sameFields, hlookup, hrest]
    dsimp only
    rw [same_of_canonicalValue v hfields.1 v' hv' hn hn']
    rfl

end

lemma canonicalFields_of_forall {members : List (PyStr × PlatformJson)}
    (h : ∀ m ∈ members, m.1.Encodable ∧ m.2.Canonical) : PlatformJson.CanonicalFields members := by
  induction members with
  | nil => exact trivial
  | cons m members ih =>
    have hm := h m mem_cons_self
    exact ⟨hm.1, hm.2, ih fun m' hm' => h m' (mem_cons_of_mem _ hm')⟩

mutual

/-- A normal form has sorted keys, texts that can be encoded and safe integers. -/
lemma canonical_of_canonicalValue (v : PyValue) (hv : v.Distinct) {n : PlatformJson}
    (hn : v.canonicalValue = .ok n) : n.Canonical := by
  have hshape := normalises_of_ok hn
  match v, n, hshape with
  | _, _, .none => exact trivial
  | _, _, .flag _ => exact trivial
  | _, _, .int _ hsafe => exact hsafe
  | _, _, .text _ hencodable => exact hencodable
  | .sequence _ items, _, .sequence _ hns => exact canonicalItems_of_sequence items hv hns
  | .mapping _ fields, .object ordered, .mapping _ hsettled hordered =>
    subst hordered
    refine ⟨orderBy_keys_strict hsettled.encodable (hsettled.nodup hv.1), ?_⟩
    apply canonicalFields_of_forall
    intro m hm
    rw [mem_orderBy] at hm
    obtain ⟨w, hw, hn'⟩ := hsettled.source hm
    exact ⟨hsettled.encodable m hm, canonical_of_mem fields hv.2 _ w m.2 hw hn'⟩

lemma canonicalItems_of_sequence (vs : List PyValue) (hvs : DistinctItems vs)
    {ns : List PlatformJson} (hns : canonicalSequence vs = .ok ns) :
    PlatformJson.CanonicalItems ns := by
  match vs with
  | [] =>
    obtain rfl := ok.inj hns
    exact trivial
  | v :: vs =>
    simp only [canonicalSequence, eq_ok_iff] at hns
    obtain ⟨n, hn, ns, hrest, rfl⟩ := hns
    exact ⟨canonical_of_canonicalValue v hvs.1 hn, canonicalItems_of_sequence vs hvs.2 hrest⟩

lemma canonical_of_mem (fields : List (ContractKey × PyValue)) (hfields : DistinctFields fields) :
    ∀ key v n, (key, v) ∈ fields → v.canonicalValue = .ok n → n.Canonical := by
  match fields with
  | [] =>
    intro key v n hmem
    cases hmem
  | (k, w) :: fields =>
    intro key v n hmem hn
    rcases mem_cons.mp hmem with heq | hmem
    · obtain ⟨rfl, rfl⟩ := Prod.mk.inj heq
      exact canonical_of_canonicalValue v hfields.1 hn
    · exact canonical_of_mem fields hfields.2 key v n hmem hn

end

end PyValue

namespace PlatformJson

open PyValue

mutual

/-- What the decoder builds from a normal form has that normal form. -/
lemma canonicalValue_toPython (n : PlatformJson) (hn : n.Canonical) :
    n.toPython.canonicalValue = .ok n := by
  match n with
  | .null => rfl
  | .flag _ => rfl
  | .int value => exact if_pos hn
  | .real _ => exact hn.elim
  | .text s =>
    have hkey : utf16SortKey s = .ok (utf16 s) := if_pos hn
    rw [toPython, canonicalValue, hkey]
    rfl
  | .array items =>
    rw [toPython, canonicalValue, canonicalSequence_toPython items hn]
    rfl
  | .object fields =>
    rw [toPython, canonicalValue_mapping]
    refine ⟨fields, settled_toPython fields hn.2, ?_⟩
    rw [orderBy_of_strict hn.1]

lemma canonicalSequence_toPython (ns : List PlatformJson) (hns : CanonicalItems ns) :
    canonicalSequence (itemsToPython ns) = .ok ns := by
  match ns with
  | [] => rfl
  | n :: ns =>
    rw [itemsToPython, canonicalSequence, canonicalValue_toPython n hns.1,
      canonicalSequence_toPython ns hns.2]
    rfl

lemma settled_toPython (fields : List (PyStr × PlatformJson)) (hfields : CanonicalFields fields) :
    Settled (fieldsToPython fields) fields := by
  match fields with
  | [] => exact ⟨rfl, by simp⟩
  | (key, n) :: fields =>
    have hrest := settled_toPython fields hfields.2.2
    refine ⟨?_, ?_⟩
    · rw [fieldsToPython, map_cons, map_cons, hrest.members, canonicalValue_toPython n hfields.2.1]
      rfl
    · intro m hm
      rcases mem_cons.mp hm with rfl | hm
      · exact hfields.1
      · exact hrest.encodable m hm

end

mutual

/-- What the decoder builds from a normal form holds no key twice. -/
lemma distinct_toPython (n : PlatformJson) (hn : n.Canonical) : n.toPython.Distinct := by
  match n with
  | .null => exact trivial
  | .flag _ => exact trivial
  | .int _ => exact trivial
  | .real _ => exact trivial
  | .text _ => exact trivial
  | .array items => exact distinctItems_toPython items hn
  | .object fields =>
    refine ⟨?_, distinctFields_toPython fields hn.2⟩
    rw [(settled_toPython fields hn.2).keys_eq]
    apply List.Nodup.map
    · intro key key' heq
      exact ContractKey.text.inj heq
    · exact hn.1.imp fun hlt heq => absurd (heq ▸ hlt) (lt_irrefl _)

lemma distinctItems_toPython (ns : List PlatformJson) (hns : CanonicalItems ns) :
    DistinctItems (itemsToPython ns) := by
  match ns with
  | [] => exact trivial
  | n :: ns => exact ⟨distinct_toPython n hns.1, distinctItems_toPython ns hns.2⟩

lemma distinctFields_toPython (fields : List (PyStr × PlatformJson))
    (hfields : CanonicalFields fields) : DistinctFields (fieldsToPython fields) := by
  match fields with
  | [] => exact trivial
  | (_, n) :: fields =>
    exact ⟨distinct_toPython n hfields.2.1, distinctFields_toPython fields hfields.2.2⟩

end

end PlatformJson

namespace PlatformJson

open PyValue

variable {interpreter : Interpreter}

lemma compactFields_eq (fields : List (PyStr × PlatformJson)) : compactFields interpreter fields =
      fields.map fun m => jsonString m.1 ++ .ofChar ':' :: m.2.compactText interpreter := by
  induction fields with
  | nil => rfl
  | cons m fields ih =>
    obtain ⟨key, v⟩ := m
    rw [compactFields, ih, map_cons]

lemma joinMembers_eq (named : List (PyStr × PlatformJson)) :
    joinMembers (named.map fun m => (m.1, m.2.compactText interpreter)) =
      (PlatformJson.object (orderBy utf16Le named)).compactText interpreter := by
  have hordered : orderBy utf16Le (named.map fun m => (m.1, m.2.compactText interpreter)) =
      (orderBy utf16Le named).map fun m => (m.1, m.2.compactText interpreter) :=
    (@map_orderBy (PyStr × PlatformJson) (PyStr × PyStr) utf16Le utf16Le
      (fun m => (m.1, m.2.compactText interpreter)) (fun m m' => rfl) named).symm
  change .ofChar '{' :: PyStr.join (py ",") ((orderBy utf16Le _).map _) ++ [.ofChar '}'] = _
  rw [hordered, map_map, compactText, compactFields_eq]
  rfl

mutual

lemma canonicalText_eq_some (v : PlatformJson) {text : PyStr} (h : v.canonicalText = some text) :
    ∃ n, v.toPython.canonicalValue = .ok n ∧ n.compactText interpreter = text := by
  match v with
  | .null => exact ⟨.null, rfl, Option.some.inj h⟩
  | .flag true => exact ⟨.flag true, rfl, Option.some.inj h⟩
  | .flag false => exact ⟨.flag false, rfl, Option.some.inj h⟩
  | .real _ => cases h
  | .int value =>
    unfold canonicalText at h
    split at h
    · exact ⟨.int value, if_pos (by assumption), Option.some.inj h⟩
    · cases h
  | .text s =>
    unfold canonicalText at h
    split at h
    · rename_i hencodable
      have hkey : utf16SortKey s = .ok (utf16 s) := if_pos hencodable
      refine ⟨.text s, ?_, Option.some.inj h⟩
      rw [toPython, canonicalValue, hkey]
      rfl
    · cases h
  | .array items =>
    rw [canonicalText, Option.map_eq_some_iff] at h
    obtain ⟨parts, hparts, rfl⟩ := h
    obtain ⟨ns, hns, rfl⟩ := canonicalItems_eq_some items hparts
    refine ⟨.array ns, ?_, rfl⟩
    rw [toPython, canonicalValue, hns]
    rfl
  | .object fields =>
    rw [canonicalText, Option.map_eq_some_iff] at h
    obtain ⟨members, hmembers, rfl⟩ := h
    obtain ⟨named, hsettled, rfl⟩ := canonicalFields_eq_some fields hmembers
    refine ⟨.object (orderBy utf16Le named), ?_, (joinMembers_eq named).symm⟩
    rw [toPython, canonicalValue_mapping]
    exact ⟨named, hsettled, rfl⟩

lemma canonicalItems_eq_some (vs : List PlatformJson) {parts : List PyStr}
    (h : canonicalItems vs = some parts) :
    ∃ ns, canonicalSequence (itemsToPython vs) = .ok ns ∧ compactItems interpreter ns = parts := by
  match vs with
  | [] => exact ⟨[], rfl, Option.some.inj h⟩
  | v :: vs =>
    obtain ⟨part, hpart, hbind⟩ := Option.bind_eq_some_iff.mp h
    obtain ⟨parts', hrest, heq⟩ := Option.bind_eq_some_iff.mp hbind
    obtain ⟨n, hn, rfl⟩ := canonicalText_eq_some v hpart
    obtain ⟨ns, hns, rfl⟩ := canonicalItems_eq_some vs hrest
    refine ⟨n :: ns, ?_, Option.some.inj heq⟩
    rw [itemsToPython, canonicalSequence, hn, hns]
    rfl

lemma canonicalFields_eq_some (fields : List (PyStr × PlatformJson))
    {members : List (PyStr × PyStr)} (h : canonicalFields fields = some members) :
    ∃ named, Settled (fieldsToPython fields) named ∧
      (named.map fun m => (m.1, m.2.compactText interpreter)) = members := by
  match fields with
  | [] => exact ⟨[], ⟨rfl, by simp⟩, Option.some.inj h⟩
  | (key, v) :: fields =>
    unfold canonicalFields at h
    by_cases hkey : key.Encodable
    · rw [if_neg (not_not_intro hkey)] at h
      obtain ⟨part, hpart, hbind⟩ := Option.bind_eq_some_iff.mp h
      obtain ⟨parts', hrest, heq⟩ := Option.bind_eq_some_iff.mp hbind
      obtain ⟨n, hn, rfl⟩ := canonicalText_eq_some v hpart
      obtain ⟨named, hsettled, rfl⟩ := canonicalFields_eq_some fields hrest
      refine ⟨(key, n) :: named, ⟨?_, ?_⟩, Option.some.inj heq⟩
      · rw [fieldsToPython, map_cons, map_cons, hsettled.members, hn]
        rfl
      · intro m hm
        rcases mem_cons.mp hm with rfl | hm
        · exact hkey
        · exact hsettled.encodable m hm
    · rw [if_pos hkey] at h
      cases h

end

end PlatformJson

namespace ContractValue

variable {interpreter : Interpreter} {a b : ContractValue} {bytes : ByteArray}

/-- Bytes come from a normal form that the decoder can hold. -/
lemma canonicalJsonBytes_eq_ok : canonicalJsonBytes interpreter a = .ok bytes ↔
    ∃ n, a.value.canonicalValue = .ok n ∧ n.depth ≤ interpreter.jsonDepth ∧
      (n.compactText interpreter).encode = some bytes := by
  unfold canonicalJsonBytes
  rw [bind_eq_ok]
  constructor
  · rintro ⟨n, hn, hrest⟩
    by_cases hdepth : interpreter.jsonDepth < n.depth
    · rw [if_pos hdepth] at hrest
      cases hrest
    · rw [if_neg hdepth] at hrest
      refine ⟨n, hn, by omega, ?_⟩
      cases hencode : (n.compactText interpreter).encode with
      | none =>
        rw [hencode] at hrest
        cases hrest
      | some encoded =>
        rw [hencode] at hrest
        exact congrArg some (ok.inj hrest)
  · rintro ⟨n, hn, hdepth, hencode⟩
    refine ⟨n, hn, ?_⟩
    rw [if_neg (by omega), hencode]
    rfl

/-- The decoder reads the normal form back. -/
lemma loadsBytes_eq {n : PlatformJson} (hn : a.value.canonicalValue = .ok n)
    (hdepth : n.depth ≤ interpreter.jsonDepth)
    (hencode : (n.compactText interpreter).encode = some bytes) :
    PlatformJson.loadsBytes interpreter bytes = .ok n := by
  have hcanonical := PyValue.canonical_of_canonicalValue a.value a.distinct hn
  unfold PlatformJson.loadsBytes
  rw [PyStr.decode_of_encode hencode]
  exact PlatformJson.loads_compactText hcanonical hdepth

/-- Values with the same bytes have one normal form, and values with one normal form have the same
content. -/
lemma same_of_bytes (ha : canonicalJsonBytes interpreter a = .ok bytes)
    (hb : canonicalJsonBytes interpreter b = .ok bytes) : a.Same b := by
  obtain ⟨n, hn, hdepth, hencode⟩ := canonicalJsonBytes_eq_ok.mp ha
  obtain ⟨n', hn', hdepth', hencode'⟩ := canonicalJsonBytes_eq_ok.mp hb
  have hload := loadsBytes_eq hn hdepth hencode
  rw [loadsBytes_eq hn' hdepth' hencode'] at hload
  obtain rfl := ok.inj hload
  exact PyValue.same_of_canonicalValue a.value a.distinct b.value b.distinct hn hn'

lemma bytes_of_same {bytes' : ByteArray} (h : a.Same b)
    (ha : canonicalJsonBytes interpreter a = .ok bytes)
    (hb : canonicalJsonBytes interpreter b = .ok bytes') : bytes = bytes' := by
  obtain ⟨n, hn, -, hencode⟩ := canonicalJsonBytes_eq_ok.mp ha
  obtain ⟨n', hn', -, hencode'⟩ := canonicalJsonBytes_eq_ok.mp hb
  have heq := PyValue.canonicalValue_of_same a.value a.distinct b.value b.distinct h hn hn'
  rw [heq, hencode'] at hencode
  exact (Option.some.inj hencode).symm

/-- Reading the bytes back gives the content, and the same bytes again. -/
lemma parsed_of_bytes (ha : canonicalJsonBytes interpreter a = .ok bytes) :
    ∃ parsed : ContractValue,
      (PlatformJson.loadsBytes interpreter bytes).map PlatformJson.toPython = .ok parsed.value ∧
      parsed.Same a ∧ canonicalJsonBytes interpreter parsed = .ok bytes := by
  obtain ⟨n, hn, hdepth, hencode⟩ := canonicalJsonBytes_eq_ok.mp ha
  have hcanonical := PyValue.canonical_of_canonicalValue a.value a.distinct hn
  have hback := PlatformJson.canonicalValue_toPython n hcanonical
  have hdistinct := PlatformJson.distinct_toPython n hcanonical
  refine ⟨⟨n.toPython, hdistinct⟩, ?_, ?_, ?_⟩
  · rw [loadsBytes_eq hn hdepth hencode]
    rfl
  · exact PyValue.same_of_canonicalValue _ hdistinct a.value a.distinct hback hn
  · exact canonicalJsonBytes_eq_ok.mpr ⟨n, hback, hdepth, hencode⟩

/-- Canonical JSON is a faithful identity: the bytes are the same exactly when the contents are,
the decoder gives the content back, and with an injective digest records that share one have the
same content. -/
theorem canonicalJsonBytes_faithful {bytes' : ByteArray}
    (ha : canonicalJsonBytes interpreter a = .ok bytes)
    (hb : canonicalJsonBytes interpreter b = .ok bytes') :
    (bytes = bytes' ↔ a.Same b) ∧
    (∃ parsed : ContractValue,
      (PlatformJson.loadsBytes interpreter bytes).map PlatformJson.toPython = .ok parsed.value ∧
      parsed.Same a ∧ canonicalJsonBytes interpreter parsed = .ok bytes) ∧
    ∀ sha256 : ByteArray → String, Function.Injective sha256 →
      canonicalSha256 interpreter sha256 a = canonicalSha256 interpreter sha256 b → a.Same b := by
  have hsame : bytes = bytes' → a.Same b := by
    rintro rfl
    exact same_of_bytes ha hb
  refine ⟨⟨hsame, fun h => bytes_of_same h ha hb⟩, parsed_of_bytes ha, ?_⟩
  intro sha256 hinjective hdigest
  rw [canonicalSha256, canonicalSha256, ha, hb] at hdigest
  exact hsame (hinjective (ok.inj hdigest))

lemma distinct_pair {kind : MappingKind} {key key' : ContractKey} {v v' : PyValue}
    (hkey : key ≠ key') (hv : v.Distinct) (hv' : v'.Distinct) :
    (PyValue.mapping kind [(key, v), (key', v')]).Distinct := by
  refine ⟨?_, hv, hv', trivial⟩
  simpa using hkey

def listedValue : PyValue := .mapping .record
  [(.text (py "b"), .sequence .list [.int 1, .flag true]), (.text (py "a"), .none)]

lemma listedValue_distinct : listedValue.Distinct :=
  distinct_pair (by decide) ⟨trivial, trivial, trivial⟩ trivial

def listed : ContractValue := ⟨listedValue, listedValue_distinct⟩

/-- A mapping in another order, with a tuple. -/
def reorderedValue : PyValue := .mapping .dict
  [(.text (py "a"), .none), (.text (py "b"), .sequence .tuple [.int 1, .flag true])]

lemma reorderedValue_distinct : reorderedValue.Distinct :=
  distinct_pair (by decide) trivial ⟨trivial, trivial, trivial⟩

def reordered : ContractValue := ⟨reorderedValue, reorderedValue_distinct⟩

/-- The same mapping with an integer in the place of the boolean. -/
def countedValue : PyValue := .mapping .dict
  [(.text (py "a"), .none), (.text (py "b"), .sequence .tuple [.int 1, .int 1])]

lemma countedValue_distinct : countedValue.Distinct :=
  distinct_pair (by decide) trivial ⟨trivial, trivial, trivial⟩

def counted : ContractValue := ⟨countedValue, countedValue_distinct⟩

def plainInterpreter : Interpreter := ⟨1000, id⟩

/-- A digest that keeps every byte. -/
def byteText (bytes : ByteArray) : String :=
  .ofList (bytes.data.toList.map fun byte => Char.ofNat byte.toNat)

lemma byteText_injective : Function.Injective byteText := by
  intro bytes bytes' h
  have hchar : Function.Injective fun byte : UInt8 => Char.ofNat byte.toNat := by
    intro byte byte' heq
    have hnumber : ∀ b : UInt8, (Char.ofNat b.toNat).toNat = b.toNat := by
      intro b
      have hlt := b.toNat_lt
      have hvalid : b.toNat.isValidChar := .inl (by omega)
      rw [Char.ofNat, dif_pos hvalid]
      rfl
    have hnat := congrArg Char.toNat heq
    dsimp only at hnat
    rw [hnumber, hnumber] at hnat
    exact UInt8.toNat_inj.mp hnat
  have hlist := hchar.list_map (String.ofList_injective h)
  exact ByteArray.ext (Array.toList_inj.mp hlist)

lemma exists_bytes {n : PlatformJson} (hn : a.value.canonicalValue = .ok n)
    (hdepth : n.depth ≤ interpreter.jsonDepth)
    (hencodable : (n.compactText interpreter).Encodable) :
    ∃ bytes, canonicalJsonBytes interpreter a = .ok bytes := by
  obtain ⟨bytes, hbytes⟩ := PyStr.exists_encode hencodable
  exact ⟨bytes, canonicalJsonBytes_eq_ok.mpr ⟨n, hn, hdepth, hbytes⟩⟩

/-- The order of a mapping and the kind of a sequence play no part; a boolean is no integer. -/
theorem listed_faithful :
    canonicalJsonBytes plainInterpreter listed = canonicalJsonBytes plainInterpreter reordered ∧
    canonicalSha256 plainInterpreter byteText reordered ≠
      canonicalSha256 plainInterpreter byteText counted := by
  obtain ⟨bytes, hlisted⟩ := @exists_bytes plainInterpreter listed _ rfl (by decide) (by decide)
  obtain ⟨bytes', hreordered⟩ :=
    @exists_bytes plainInterpreter reordered _ rfl (by decide) (by decide)
  obtain ⟨bytes'', hcounted⟩ :=
    @exists_bytes plainInterpreter counted _ rfl (by decide) (by decide)
  have hsame := (canonicalJsonBytes_faithful hlisted hreordered).1.mpr rfl
  refine ⟨by rw [hlisted, hreordered, hsame], fun hdigest => ?_⟩
  have hcontent := (canonicalJsonBytes_faithful hreordered hcounted).2.2 byteText
    byteText_injective hdigest
  have hdiffers : reordered.value.same counted.value = false := rfl
  exact Bool.false_ne_true (hdiffers.symm.trans hcontent)

end ContractValue

end Tiangong
