import Tiangong.WorldStateRuns

/-!
# What the world state store promises

The steps that retain, release and record, the store that a restart opens, and what follows for
every run in which no publication takes an identifier in use and no record in the way of a new one
has a time that cannot be read.
-/
open List

namespace Tiangong

namespace WorldStateStore

open Dict StoreMemory Call

variable {s s' : WorldStateStore}

/-- A change of the memory that was taken back. -/
lemma Sound.keeps_undone {α : Type} {x : StoreCall α} {heads : Dict StreamKey Canon}
    {e : WorldStateError} {m : StoreMemory} (hs : s.Sound)
    (heq : x.on s = (.error e, { s with memory := m }))
    (hsnapshots : m.snapshots = s.memory.snapshots) (hcontents : m.SameContents s.memory) :
    Keeps x s heads := by
  have hholds : ∀ held, s.Holds held → Holds { s with memory := m } held := by
    intro held hheld
    refine hheld.congr rfl ?_ rfl
    rw [hsnapshots]
  have hcoherent : Coherent { s with memory := m } :=
    hs.toCoherent.congr rfl rfl hcontents rfl fun held hheld _ => hholds held hheld
  refine .of_error heq ⟨hcoherent, fun id hstored => ?_⟩ ⟨hcontents, rfl⟩ hholds
  rw [hcontents.referenced]
  refine hs.referenced id ?_
  rcases hstored with hcached | hfiled
  · rw [hsnapshots] at hcached
    exact .inl hcached
  · exact .inr hfiled

variable {item : RetainedWorldState}

lemma enterRetained_keeps (hs : s.Sound) (faults : StoreFaults)
    (hpinned : ∃ held, s.Holds held ∧ item.pins held = true) :
    Keeps (enterRetained faults item) s s.memory.current := by
  cases hprior : s.memory.retained.lookup item.ownerId with
  | some prior =>
    have heq : (enterRetained faults item).on s =
        (rejectIf (prior ≠ item) (.value "WORLD_RETENTION_OWNER_REBOUND"), s) := by
      simp only [on, enterRetained, hprior]
    exact Reads.keeps (by rw [heq]; exact .refl s) hs
  | none =>
    by_cases hfull : s.limits.maxRetainedStates ≤ s.memory.retained.size
    · have heq : (enterRetained faults item).on s =
          (.error (.value "WORLD_RETENTION_FULL"), s) := by
        simp only [on, enterRetained, hprior, if_pos hfull]
      exact Reads.keeps (by rw [heq]; exact .refl s) hs
    · have hinsert : ∀ owner, (s.memory.retained.insert item.ownerId item).lookup owner =
          if owner = item.ownerId then some item else s.memory.retained.lookup owner :=
        fun owner => lookup_insert_eq _ _ _ _
      cases hpersist : persistIndex faults { s.memory with
          retained := s.memory.retained.insert item.ownerId item, retentionSchema := true } s with
      | ok s' =>
        have heq : (enterRetained faults item).on s = (.ok (), s') := by
          simp only [on, enterRetained, hprior, if_neg hfull, hpersist]
        obtain ⟨hcoherent, hmemory, hstored, hholds⟩ := hs.persisted hpersist rfl rfl rfl
          (fun owner item' hitem => by
            rw [hinsert] at hitem
            by_cases howner : owner = item.ownerId
            · rw [if_pos howner, Option.some.injEq] at hitem
              subst hitem
              exact ⟨howner.symm, rfl, hpinned⟩
            · rw [if_neg howner] at hitem
              obtain ⟨hid, hheld⟩ := hs.retained owner item' hitem
              exact ⟨hid, rfl, hheld⟩)
          (by
            rw [size_insert, hprior]
            simp only [Option.isSome_none, Bool.false_eq_true, if_false]
            omega)
          hs.records hs.recordsSize
        refine .of_ok heq ⟨hcoherent, fun id hid => ?_⟩ (by rw [hmemory]; exact .refl _)
          fun held hheld _ => hholds held hheld
        have href := hs.referenced id (hstored id hid)
        rw [referenced_iff] at href
        rw [hmemory, referenced_iff]
        refine href.imp_right (Or.imp_right ?_)
        rintro ⟨owner, item', hitem, hid⟩
        refine ⟨owner, item', ?_, hid⟩
        rw [hinsert, if_neg, hitem]
        rintro rfl
        rw [hprior] at hitem
        cases hitem
      | error e =>
        have heq : (enterRetained faults item).on s = (.error e, { s with memory := { s.memory with
            retained := (s.memory.retained.insert item.ownerId item).erase item.ownerId } }) := by
          simp only [on, enterRetained, hprior, if_neg hfull, hpersist]
        refine hs.keeps_undone heq rfl ⟨.refl _, fun _ => rfl, .refl _, fun owner => ?_, rfl⟩
        rw [lookup_erase_eq, hinsert]
        by_cases howner : owner = item.ownerId
        · rw [if_pos howner, howner, hprior]
        · rw [if_neg howner, if_neg howner]

lemma retainState_keeps (hs : s.Sound) (faults : StoreFaults) (item : RetainedWorldState) :
    Keeps (retainState faults item) s s.memory.current := by
  refine (requireRetainedSnapshot_reads item s).keeps_bind hs ?_
  intro _ t hrequire hreads ht
  have hanswer : ((requireRetainedSnapshot item).on s).1 = .ok () := by rw [hrequire]
  obtain ⟨held, hheld, hpins⟩ := requireRetainedSnapshot_eq_ok hs hanswer
  have hentered := enterRetained_keeps ht faults ⟨held, hreads.holds held hheld, hpins⟩
  rwa [hreads.current] at hentered

lemma releaseRetainedState_keeps (hs : s.Sound) (faults : StoreFaults)
    (expected : RetainedWorldState) :
    Keeps (releaseRetainedState faults expected) s s.memory.current := by
  cases hprior : s.memory.retained.lookup expected.ownerId with
  | none =>
    have heq : (releaseRetainedState faults expected).on s = (.ok false, s) := by
      simp only [on, releaseRetainedState, hprior]
    exact Reads.keeps (by rw [heq]; exact .refl s) hs
  | some prior =>
    by_cases hother : prior ≠ expected
    · have heq : (releaseRetainedState faults expected).on s =
          (.error (.value "WORLD_RETENTION_RELEASE_MISMATCH"), s) := by
        simp only [on, releaseRetainedState, hprior, if_pos hother]
      exact Reads.keeps (by rw [heq]; exact .refl s) hs
    · rw [not_not] at hother
      subst hother
      have herase : ∀ owner, (s.memory.retained.erase prior.ownerId).lookup owner =
          if owner = prior.ownerId then none else s.memory.retained.lookup owner :=
        fun owner => lookup_erase_eq _ _ _
      cases hpersist : persistIndex faults { s.memory with
          retained := s.memory.retained.erase prior.ownerId } s with
      | ok s' =>
        have heq : (releaseRetainedState faults prior).on s =
            (.ok true, s'.evictUnreferencedSnapshot prior.stateId) := by
          simp only [on, releaseRetainedState, hprior, ne_eq, not_true_eq_false, if_false,
            hpersist]
        obtain ⟨hcoherent, hmemory, hstored, hholds⟩ := hs.persisted hpersist rfl rfl rfl
          (fun owner item' hitem => by
            rw [herase] at hitem
            by_cases howner : owner = prior.ownerId
            · simp [howner] at hitem
            · rw [if_neg howner] at hitem
              obtain ⟨hid, hheld⟩ := hs.retained owner item' hitem
              exact ⟨hid, hs.schema owner item' hitem, hheld⟩)
          (by
            have hsize := hs.retainedSize
            rw [size_erase, hprior]
            simp only [Option.isSome_some, if_true]
            omega)
          hs.records hs.recordsSize
        obtain ⟨hprunes, hgone⟩ := evictUnreferencedSnapshot_prunes s' prior.stateId
        refine .of_ok heq ⟨hprunes.coherent hcoherent, fun id hid => ?_⟩ ?_
          fun held hheld href => ?_
        · rw [hprunes.sameContents.referenced]
          by_cases hreleased : id = prior.stateId
          · subst hreleased
            exact hgone hid
          · have href := hs.referenced id (hstored id (hprunes.stored id hid))
            rw [referenced_iff] at href
            rw [hmemory, referenced_iff]
            refine href.imp_right (Or.imp_right ?_)
            rintro ⟨owner, item', hitem, hid⟩
            refine ⟨owner, item', ?_, hid⟩
            rw [herase, if_neg, hitem]
            rintro rfl
            rw [hprior, Option.some.injEq] at hitem
            rw [← hitem] at hid
            exact hreleased hid.symm
        · rw [hprunes.current, hmemory]
          exact .refl _
        · rw [hprunes.sameContents.referenced] at href
          exact hprunes.holds (hholds held hheld) href
      | error e =>
        have heq : (releaseRetainedState faults prior).on s = (.error e, { s with
            memory := { s.memory with retained :=
              (s.memory.retained.erase prior.ownerId).insert prior.ownerId prior } }) := by
          simp only [on, releaseRetainedState, hprior, ne_eq, not_true_eq_false, if_false,
            hpersist]
        refine hs.keeps_undone heq rfl ⟨.refl _, fun _ => rfl, .refl _, fun owner => ?_, rfl⟩
        rw [lookup_insert_eq, herase]
        by_cases howner : owner = prior.ownerId
        · rw [if_pos howner, howner, hprior]
        · rw [if_neg howner, if_neg howner]

variable {candidate : ActiveRecord} {victims : List ActiveRecord}

/-- Closed records other than the new one, each under its identifier. -/
def Evictable (s : WorldStateStore) (candidate : ActiveRecord) (victims : List ActiveRecord) :
    Prop :=
  ∀ row ∈ victims, row.recordId ≠ candidate.recordId ∧
    s.memory.activeCognition.lookup row.recordId = some row

lemma evictable_nil : Evictable s candidate [] := by
  intro row hrow
  cases hrow

def withRecord (candidate : ActiveRecord) (m : StoreMemory) : StoreMemory :=
  { m with activeCognition := m.activeCognition.insert candidate.recordId candidate }

lemma lookup_withoutRecords (m : StoreMemory) (id : String) :
    (withoutRecords victims (withRecord candidate m)).activeCognition.lookup id =
      if id ∈ victims.map ActiveRecord.recordId then none
      else if id = candidate.recordId then some candidate else m.activeCognition.lookup id := by
  rw [withoutRecords, withRecord, lookup_foldl_erase, lookup_insert_eq]

/-- The memory with the new record taken out again. -/
def withdrawnRecord (candidate : ActiveRecord) (victims : List ActiveRecord) (m : StoreMemory) :
    StoreMemory :=
  withoutRecord candidate (m.activeCognition.lookup candidate.recordId)
    (withoutRecords victims (withRecord candidate m))

/-- Taking the new record out and the evicted ones in again restores the records. -/
lemma restored_records (h : Evictable s candidate victims) : Dict.Same
      (victims.foldl (fun d row => d.insert row.recordId row)
        (withdrawnRecord candidate victims s.memory).activeCognition)
      s.memory.activeCognition := by
  intro id
  rw [withdrawnRecord]
  rw [lookup_foldl_insert_of_lookup _ fun row hrow => (h row hrow).2]
  by_cases hvictim : id ∈ victims.map ActiveRecord.recordId
  · rw [if_pos hvictim]
  · rw [if_neg hvictim]
    cases hprior : s.memory.activeCognition.lookup candidate.recordId with
    | none =>
      simp only [withoutRecord]
      rw [lookup_erase_eq, lookup_withoutRecords, if_neg hvictim]
      by_cases hid : id = candidate.recordId
      · rw [if_pos hid, hid, hprior]
      · rw [if_neg hid, if_neg hid]
    | some previous =>
      simp only [withoutRecord]
      rw [lookup_insert_eq, lookup_withoutRecords, if_neg hvictim]
      by_cases hid : id = candidate.recordId
      · rw [if_pos hid, hid, hprior]
      · rw [if_neg hid, if_neg hid]

lemma persistRecord_keeps (hs : s.Sound) (faults : StoreFaults)
    (hvalid : candidate.recordId ≠ "" ∧ candidate.recordSha256 = candidate.computedHash)
    (hevictable : Evictable s candidate victims)
    (hsize : (withoutRecords victims (withRecord candidate s.memory)).activeCognition.size ≤
      s.limits.maxActiveCognitionRecords) :
    Keeps (persistRecord faults candidate
      (withoutRecords victims (withRecord candidate s.memory)) victims) s s.memory.current := by
  cases hpersist : persistIndex faults
      (withoutRecords victims (withRecord candidate s.memory)) s with
  | ok s' =>
    have heq : (persistRecord faults candidate
        (withoutRecords victims (withRecord candidate s.memory)) victims).on s =
        (.ok candidate, s') := by
      simp only [on, persistRecord, hpersist]
    obtain ⟨hcoherent, hmemory, hstored, hholds⟩ := hs.persisted hpersist rfl rfl rfl
      (fun owner item hitem =>
        have hkept := hs.retained owner item hitem
        ⟨hkept.1, hs.schema owner item hitem, hkept.2⟩)
      hs.retainedSize
      (fun id record hrecord => by
        rw [lookup_withoutRecords] at hrecord
        by_cases hvictim : id ∈ victims.map ActiveRecord.recordId
        · simp [hvictim] at hrecord
        · rw [if_neg hvictim] at hrecord
          by_cases hid : id = candidate.recordId
          · rw [if_pos hid, Option.some.injEq] at hrecord
            subst hrecord
            exact ⟨hid.symm, by rw [hid]; exact hvalid.1, hvalid.2⟩
          · rw [if_neg hid] at hrecord
            exact hs.records id record hrecord)
      hsize
    refine .of_ok heq ⟨hcoherent, fun id hid => ?_⟩ (by rw [hmemory]; exact .refl _)
      fun held hheld _ => hholds held hheld
    have href := hs.referenced id (hstored id hid)
    rw [hmemory]
    exact href
  | error e =>
    have heq : (persistRecord faults candidate
        (withoutRecords victims (withRecord candidate s.memory)) victims).on s =
        (.error e, { s with memory := { s.memory with
          activeCognition := victims.foldl (fun d row => d.insert row.recordId row)
            (withdrawnRecord candidate victims s.memory).activeCognition } }) := by
      simp only [on, persistRecord, hpersist]
      rfl
    exact hs.keeps_undone heq rfl
      ⟨.refl _, fun _ => rfl, restored_records hevictable, .refl _, rfl⟩

/-- The records that may be evicted are closed, and none of them is the new one. -/
lemma closedRows_evictable (hs : s.Sound) {closed : List ActiveRecord}
    (h : (withRecord candidate s.memory).closedRows candidate.recordId = .ok closed) :
    Evictable s candidate closed := by
  intro row hrow
  simp only [closedRows, eq_ok_iff] at h
  obtain ⟨timed, htimed, rfl⟩ := h
  obtain ⟨⟨time, row⟩, hmem, rfl⟩ := mem_map.mp hrow
  rw [mem_orderBy] at hmem
  rw [mapM_eq_ok] at htimed
  obtain ⟨row', hrow', htime⟩ := exists_partner htimed.flip hmem
  simp only [eq_pair_iff] at htime
  obtain ⟨_, -, -, rfl⟩ := htime
  rw [mem_filter, mem_values] at hrow'
  obtain ⟨⟨id, hlookup⟩, hclosed⟩ := hrow'
  simp only [holds_iff] at hclosed
  refine ⟨hclosed.1, ?_⟩
  rw [withRecord, lookup_insert_eq] at hlookup
  by_cases hid : id = candidate.recordId
  · rw [if_pos hid, Option.some.injEq] at hlookup
    exact absurd (by rw [← hlookup]) hclosed.1
  · rw [if_neg hid] at hlookup
    rw [(hs.records id row' hlookup).1]
    exact hlookup

/-- The times of the closed records beside the new one can be read. -/
def Readable (m : StoreMemory) (recordId : String) : Prop :=
  ∀ row ∈ m.activeCognition.values, row.recordId ≠ recordId → row.status = "CLOSED" →
    ∃ time, row.closedTime = .ok time

lemma closedRows_of_readable (h : Readable s.memory candidate.recordId) :
    ∃ closed, (withRecord candidate s.memory).closedRows candidate.recordId = .ok closed := by
  have htimed : ∀ row ∈ (withRecord candidate s.memory).activeCognition.values.filter
      (fun row => decide (row.recordId ≠ candidate.recordId) && decide (row.status = "CLOSED")),
      ∃ pair, (do pure (← row.closedTime, row) : Except WorldStateError _) = .ok pair := by
    intro row hrow
    rw [mem_filter, mem_values] at hrow
    obtain ⟨⟨id, hlookup⟩, hclosed⟩ := hrow
    simp only [holds_iff] at hclosed
    rw [withRecord, lookup_insert_eq] at hlookup
    by_cases hid : id = candidate.recordId
    · rw [if_pos hid, Option.some.injEq] at hlookup
      exact absurd (by rw [← hlookup]) hclosed.1
    · rw [if_neg hid] at hlookup
      obtain ⟨time, htime⟩ := h row (mem_values.mpr ⟨id, hlookup⟩) hclosed.1 hclosed.2
      exact ⟨(time, row), by rw [htime]; rfl⟩
  obtain ⟨timed, hall⟩ := mapM_exists_ok htimed
  simp only [closedRows, hall]
  exact ⟨_, rfl⟩

/-- The new record is more than fit, and the only one too many. -/
lemma size_withRecord (hs : s.Sound) (candidate : ActiveRecord) :
    (withRecord candidate s.memory).activeCognition.size ≤
      s.limits.maxActiveCognitionRecords + 1 := by
  have hsize := hs.recordsSize
  rw [withRecord, size_insert]
  split <;> omega

/-- Evicting one closed record makes room. -/
lemma size_evicted (hs : s.Sound) {row : ActiveRecord} (h : Evictable s candidate [row]) :
    (withoutRecords [row] (withRecord candidate s.memory)).activeCognition.size ≤
      s.limits.maxActiveCognitionRecords := by
  obtain ⟨hother, hlookup⟩ := h row mem_cons_self
  have hsize := size_withRecord hs candidate
  have hpresent : ((withRecord candidate s.memory).activeCognition.lookup row.recordId).isSome := by
    rw [withRecord, lookup_insert_eq, if_neg hother, hlookup]
    rfl
  simp only [withoutRecords, foldl_cons, foldl_nil]
  rw [size_erase, if_pos hpresent]
  omega

lemma enterRecord_keeps (hs : s.Sound) (faults : StoreFaults)
    (hvalid : candidate.recordId ≠ "" ∧ candidate.recordSha256 = candidate.computedHash)
    (hspared : (withRecord candidate s.memory).activeCognition.size ≤
      s.limits.maxActiveCognitionRecords ∨ Readable s.memory candidate.recordId) :
    Keeps (enterRecord faults candidate) s s.memory.current := by
  by_cases hroom : (withRecord candidate s.memory).activeCognition.size ≤
      s.limits.maxActiveCognitionRecords
  · have hkept := persistRecord_keeps hs faults hvalid evictable_nil hroom
    have heq : (enterRecord faults candidate).on s = (persistRecord faults candidate
        (withoutRecords [] (withRecord candidate s.memory)) []).on s := if_pos hroom
    exact hkept.congr heq
  · obtain ⟨closed, hclosed⟩ := closedRows_of_readable (hspared.resolve_left hroom)
    have hevictable := closedRows_evictable hs hclosed
    have hone : (withRecord candidate s.memory).activeCognition.size -
        s.limits.maxActiveCognitionRecords = 1 := by
      have hsize := size_withRecord hs candidate
      omega
    have heq : (enterRecord faults candidate).on s = if s.limits.maxActiveCognitionRecords <
          (withoutRecords (closed.take 1) (withRecord candidate s.memory)).activeCognition.size then
          (.error (.value "WORLD_ACTIVE_COGNITION_HISTORY_FULL"),
            { s with memory := withdrawnRecord candidate (closed.take 1) s.memory })
        else (persistRecord faults candidate
          (withoutRecords (closed.take 1) (withRecord candidate s.memory))
          (closed.take 1)).on s := by
      rw [← hone]
      simp only [withRecord] at hroom hclosed ⊢
      simp only [on, enterRecord, if_neg hroom, hclosed]
      rfl
    cases closed with
    | nil =>
      rw [if_pos (by simpa [withoutRecords] using hroom), take_nil] at heq
      have hrestored : Dict.Same (withdrawnRecord candidate [] s.memory).activeCognition
          s.memory.activeCognition := restored_records evictable_nil
      have hsnapshots : (withdrawnRecord candidate [] s.memory).snapshots = s.memory.snapshots :=
        rfl
      exact hs.keeps_undone heq hsnapshots ⟨.refl _, fun _ => rfl, hrestored, .refl _, rfl⟩
    | cons row rest =>
      have hfirst : Evictable s candidate [row] := by
        intro row' hrow'
        rw [mem_singleton] at hrow'
        subst hrow'
        exact hevictable _ mem_cons_self
      rw [take_succ_cons, take_zero, if_neg (by simpa using size_evicted hs hfirst)] at heq
      exact (persistRecord_keeps hs faults hvalid hfirst (size_evicted hs hfirst)).congr heq

lemma putActiveCognitionRecord_keeps (hs : s.Sound) (faults : StoreFaults) (record : ActiveRecord)
    (hspared : record.recordId = "" ∨ record.hasFloat = true ∨
      (withRecord record.withHash s.memory).activeCognition.size ≤
        s.limits.maxActiveCognitionRecords ∨ Readable s.memory record.recordId) :
    Keeps (putActiveCognitionRecord faults record) s s.memory.current := by
  unfold putActiveCognitionRecord
  refine Reads.keeps_bind (.refl s) hs ?_
  intro _ t hid hreads ht
  rw [on_query, Prod.mk.injEq, rejectIf_eq_ok] at hid
  obtain ⟨hid, rfl⟩ := hid
  refine Reads.keeps_bind (.refl s) hs ?_
  intro _ t hfloat hreads ht
  rw [on_query, Prod.mk.injEq, rejectIf_eq_ok] at hfloat
  obtain ⟨hfloat, rfl⟩ := hfloat
  refine Reads.keeps_bind (.refl s) hs ?_
  intro repeated t hrepeated hreads ht
  rw [on_query, Prod.mk.injEq] at hrepeated
  obtain ⟨-, rfl⟩ := hrepeated
  cases repeated with
  | some previous => exact Reads.keeps (.refl s) hs
  | none =>
    exact enterRecord_keeps hs faults ⟨hid, ActiveRecord.withHash_valid record⟩
      ((hspared.resolve_left hid).resolve_left hfloat)

/-- Rows under different owners are all entered. -/
lemma foldlM_loadRetainedRow {items : List (String × RetainedWorldState)}
    (howner : ∀ i ∈ items, i.2.ownerId = i.1) (hnodup : (items.map Prod.fst).Nodup)
    {d : Dict String RetainedWorldState} (hfresh : ∀ i ∈ items, d.lookup i.1 = none) :
    (items.map fun i => RetainedRow.ofItem i.2).foldlM loadRetainedRow d =
      .ok (items.foldl (fun d i => d.insert i.1 i.2) d) := by
  induction items generalizing d with
  | nil => rfl
  | cons i items ih =>
    rw [map_cons, nodup_cons] at hnodup
    have hentered : loadRetainedRow d (.ofItem i.2) = .ok (d.insert i.1 i.2) := by
      have hid := howner i mem_cons_self
      have hnone := hfresh i mem_cons_self
      rw [← hid] at hnone ⊢
      simp only [loadRetainedRow, RetainedRow.load_ofItem, bind_eq_ok, rejectIf_eq_ok, pure_eq_ok]
      exact ⟨i.2, rfl, ⟨⟩, by rw [hnone]; simp, rfl⟩
    rw [map_cons, foldlM_cons, hentered, foldl_cons]
    refine ih (fun i' hi' => howner i' (mem_cons_of_mem _ hi')) hnodup.2 ?_
    intro i' hi'
    rw [lookup_insert_eq, if_neg, hfresh i' (mem_cons_of_mem _ hi')]
    intro heq
    exact hnodup.1 (heq ▸ mem_map_of_mem hi')

lemma loadRetained_indexPayload (hs : s.Coherent) :
    ∃ d, loadRetained s.limits s.memory.indexPayload = .ok d ∧ d.Same s.memory.retained := by
  unfold loadRetained
  by_cases hschema : s.memory.retentionSchema = true
  · have hloaded := foldlM_loadRetainedRow
      (fun i hi => (hs.retained i.1 i.2 (mem_items.mp hi)).1)
      (items_nodup s.memory.retained) (fun i _ => AList.lookup_empty i.1)
    have hsize : s.memory.retained.items.length ≤ s.limits.maxRetainedStates := by
      rw [length_items]
      exact hs.retainedSize
    refine ⟨.ofItems s.memory.retained.items, ?_, ofItems_items _⟩
    simp only [indexPayload, hschema, if_true, eq_ok_iff, Option.some.injEq,
      exists_eq_left', length_map]
    exact ⟨by omega, hloaded⟩
  · refine ⟨∅, ?_, ?_⟩
    · simp only [indexPayload, hschema, Bool.false_eq_true, if_false, eq_ok_iff]
      simp
    · intro owner
      rw [AList.lookup_empty]
      cases hitem : s.memory.retained.lookup owner with
      | none => rfl
      | some item => exact absurd (hs.schema owner item hitem) hschema

lemma foldlM_loadRecordRow {items : List (String × ActiveRecord)}
    (hvalid : ∀ i ∈ items, i.2.recordId = i.1 ∧ i.1 ≠ "" ∧ i.2.recordSha256 = i.2.computedHash)
    (d : Dict String ActiveRecord) :
    (items.map Prod.snd).foldlM loadRecordRow d =
      .ok (items.foldl (fun d i => d.insert i.1 i.2) d) := by
  induction items generalizing d with
  | nil => rfl
  | cons i items ih =>
    obtain ⟨hid, hnonempty, hhash⟩ := hvalid i mem_cons_self
    have hentered : loadRecordRow d i.2 = .ok (d.insert i.1 i.2) := by
      simp only [loadRecordRow, eq_ok_iff, hid, hhash]
      simp [hnonempty]
    rw [map_cons, foldlM_cons, hentered, foldl_cons]
    exact ih (fun i' hi' => hvalid i' (mem_cons_of_mem _ hi')) _

lemma loadRecords_indexPayload (hs : s.Coherent) :
    ∃ d, loadRecords s.limits s.memory.indexPayload = .ok d ∧ d.Same s.memory.activeCognition := by
  have hsame := ofItems_items s.memory.activeCognition
  have hsize := hs.recordsSize
  rw [← hsame.size] at hsize
  refine ⟨.ofItems s.memory.activeCognition.items, ?_, hsame⟩
  have hloaded := foldlM_loadRecordRow (fun i hi => hs.records i.1 i.2 (mem_items.mp hi)) ∅
  simp only [loadRecords, indexPayload, eq_ok_iff]
  exact ⟨_, hloaded, by simpa [ofItems] using hsize, rfl⟩

/-- The heads and the history of an index are those that were persisted. -/
lemma loadIndex_indexPayload (hs : s.Coherent) :
    ∃ m, loadIndex s.limits s.memory.indexPayload = .ok m ∧ m.SameContents s.memory ∧
      m.snapshots = ∅ := by
  obtain ⟨retained, hretained, hsameRetained⟩ := loadRetained_indexPayload hs
  obtain ⟨active, hactive, hsameActive⟩ := loadRecords_indexPayload hs
  have hcurrent : (s.memory.indexPayload.streams.map fun row => (row.key, row.current)) =
      s.memory.current.items := by
    simp [indexPayload, Function.comp_def]
  have hhistory : (s.memory.indexPayload.streams.map fun row => (row.key, row.history)) =
      s.memory.current.items.map fun i => (i.1, (s.memory.history.lookup i.1).getD []) := by
    simp [indexPayload, Function.comp_def]
  refine ⟨⟨∅, .ofItems (s.memory.indexPayload.streams.map fun row => (row.key, row.current)),
    .ofItems (s.memory.indexPayload.streams.map fun row => (row.key, row.history)), active,
    retained, s.memory.retentionSchema⟩, by rw [loadIndex, hretained, hactive]; rfl,
    ⟨?_, ?_, hsameActive, hsameRetained, rfl⟩, rfl⟩
  · rw [hcurrent]
    exact ofItems_items _
  · intro key
    rw [hhistory]
    have hnodup : ((s.memory.current.items.map fun i =>
        (i.1, (s.memory.history.lookup i.1).getD [])).map Prod.fst).Nodup := by
      rw [map_map]
      exact items_nodup _
    cases hlookup : s.memory.current.lookup key with
    | some id =>
      rw [lookup_ofItems_of_mem hnodup
        (mem_map.mpr ⟨(key, id), mem_items.mpr hlookup, rfl⟩), Option.getD_some]
    | none =>
      -- A stream without a head has no history.
      obtain ⟨snapshots, hwindow⟩ := hs.window key
      have hnone := hwindow.current
      rw [hlookup] at hnone
      have hempty : snapshots = [] := by
        simpa using hnone.symm
      rw [hwindow.history, hempty]
      cases hfound : (ofItems (s.memory.current.items.map fun i =>
          (i.1, (s.memory.history.lookup i.1).getD []))).lookup key with
      | none => rfl
      | some ids =>
        obtain ⟨⟨key', id⟩, hmem, heq⟩ := mem_map.mp (mem_of_lookup_ofItems hfound)
        rw [Prod.mk.injEq] at heq
        have hkey : key' = key := heq.1
        rw [mem_items, hkey, hlookup] at hmem
        cases hmem

lemma forM_requireRetainedSnapshot {items : List RetainedWorldState}
    (h : ∀ item ∈ items, ∃ held, s.Holds held ∧ item.pins held = true) :
    ((items.forM requireRetainedSnapshot : StoreCall PUnit).on s).1 = .ok ⟨⟩ ∧
      Reads s ((items.forM requireRetainedSnapshot : StoreCall PUnit).on s).2 := by
  induction items generalizing s with
  | nil => exact ⟨rfl, .refl s⟩
  | cons item items ih =>
    obtain ⟨held, hheld, hpins⟩ := h item mem_cons_self
    have hanswer : ((requireRetainedSnapshot item).on s).1 = .ok () := by
      have hget := get_of_holds hheld
      rw [pins_id hpins] at hget
      unfold requireRetainedSnapshot
      rw [on_bind]
      rcases hread : (get item.stateId).on s with ⟨e | found, s'⟩
      · rw [hread] at hget
        cases hget
      · rw [hread] at hget
        cases hget
        simp [hpins]
    have hreads := requireRetainedSnapshot_reads item s
    rcases hrequire : (requireRetainedSnapshot item).on s with ⟨e | _, t⟩
    · rw [hrequire] at hanswer
      cases hanswer
    · rw [hrequire] at hreads
      have hcons : ((item :: items).forM requireRetainedSnapshot : StoreCall PUnit) =
          requireRetainedSnapshot item >>= fun _ => items.forM requireRetainedSnapshot := rfl
      rw [hcons, on_bind_of_ok hrequire]
      obtain ⟨hok, hrest⟩ := @ih t fun item' hitem' => by
        obtain ⟨held', hheld', hpins'⟩ := h item' (mem_cons_of_mem _ hitem')
        exact ⟨held', hreads.holds held' hheld', hpins'⟩
      exact ⟨hok, hreads.trans hrest⟩

/-- A memory without snapshots over the same files. -/
lemma Sound.reloaded (hs : s.Sound) (hpersistent : s.persistent = true) {m : StoreMemory}
    (hsnapshots : m.snapshots = ∅) (hcontents : m.SameContents s.memory) :
    Sound ⟨s.limits, true, m, s.disk⟩ ∧
      ∀ held, s.Holds held → Holds ⟨s.limits, true, m, s.disk⟩ held := by
  have hheld : ∀ held, s.Holds held → Holds ⟨s.limits, true, m, s.disk⟩ held := by
    intro held hheld
    refine ⟨hheld.valid, fun _ => hheld.filed hpersistent, .inr ⟨rfl, ?_⟩⟩
    rw [hsnapshots]
    exact AList.lookup_empty _
  refine ⟨⟨hs.toCoherent.congr rfl hpersistent.symm hcontents rfl fun held h _ => hheld held h,
    fun id hstored => ?_⟩, hheld⟩
  rw [hcontents.referenced]
  rcases hstored with hcached | ⟨-, hfiled⟩
  · rw [hsnapshots, AList.lookup_empty] at hcached
    cases hcached
  · exact hs.referenced id (.inr ⟨hpersistent, hfiled⟩)

/-- What a restart opens: the same heads, retained states and records. -/
lemma openStore_sound (hs : s.Sound) (hpersistent : s.persistent = true) :
    ∃ s', openStore s.limits s.disk = .ok s' ∧ s'.Sound ∧ Unchanged s s' ∧
      ∀ held, s.Holds held → s'.Holds held := by
  unfold openStore
  rcases hs.synced hpersistent with hindex | ⟨hindex, hempty⟩
  · obtain ⟨m, hload, hcontents, hsnapshots⟩ := loadIndex_indexPayload hs.toCoherent
    obtain ⟨hsound, hholds⟩ := hs.reloaded hpersistent hsnapshots hcontents
    obtain ⟨hok, hreads⟩ := @forM_requireRetainedSnapshot ⟨s.limits, true, m, s.disk⟩
      m.retained.values fun item hitem => by
        obtain ⟨owner, hlookup⟩ := mem_values.mp hitem
        exact (hsound.retained owner item hlookup).2
    refine ⟨((m.retained.values.forM requireRetainedSnapshot : StoreCall PUnit).on
      ⟨s.limits, true, m, s.disk⟩).2, ?_, hreads.sound hsound,
      ⟨hreads.sameContents.trans hcontents, by rw [hreads.disk]⟩,
      fun held hheld => hreads.holds held (hholds held hheld)⟩
    simp only [hindex, hload, hok]
  · obtain ⟨hsound, hholds⟩ := hs.reloaded hpersistent rfl hempty
    exact ⟨_, by rw [hindex], hsound, ⟨hempty, rfl⟩, hholds⟩

lemma reopen_keeps (hs : s.Sound) : Keeps reopen s s.memory.current := by
  by_cases hpersistent : s.persistent = true
  · obtain ⟨s', hopen, hsound, hunchanged, hholds⟩ := openStore_sound hs hpersistent
    have heq : reopen.on s = (.ok (), s') := by
      simp only [on, reopen, if_pos hpersistent, hopen]
    exact .of_ok heq hsound hunchanged.contents.current fun held hheld _ => hholds held hheld
  · have heq : reopen.on s = (.ok (), s) := by
      simp only [on, reopen, if_neg hpersistent]
    exact Reads.keeps (by rw [heq]; exact .refl s) hs

/-- A publication that would be accepted takes no identifier in use, and a new record for which a
closed one has to go finds times that can be read. -/
def Spared (s : WorldStateStore) : Op → Prop
  | .publish _ snapshot => ((checkPublication snapshot).on s).1 = .ok () →
      s.memory.referenced snapshot.id = false
  | .putActiveCognitionRecord _ record => record.recordId = "" ∨ record.hasFloat = true ∨
      (withRecord record.withHash s.memory).activeCognition.size ≤
        s.limits.maxActiveCognitionRecords ∨ Readable s.memory record.recordId
  | _ => True

def headsAfter (s : WorldStateStore) : Op → Dict StreamKey Canon
  | .publish _ snapshot => s.memory.current.insert snapshot.streamKey snapshot.id
  | _ => s.memory.current

theorem step_keeps (hs : s.Sound) {op : Op} (hspared : Spared s op) :
    Keeps op.call s (headsAfter s op) := by
  cases op with
  | publish faults snapshot => exact (publish_keeps hs faults hspared).map _
  | retainState faults item => exact (retainState_keeps hs faults item).map _
  | releaseRetainedState faults expected =>
    exact (releaseRetainedState_keeps hs faults expected).map _
  | putActiveCognitionRecord faults record =>
    exact (putActiveCognitionRecord_keeps hs faults record hspared).map _
  | get stateId => exact ((get_reads stateId s).keeps hs).map _
  | reopen => exact (reopen_keeps hs).map _

/-- The state after a spared run is sound. -/
theorem exec_sound {ops : List Op} (hs : s.Sound) (hspared : machine.Steps Spared s ops) :
    (machine.exec s ops).Sound :=
  Machine.exec_preserves_of_steps Sound (fun _ _ ht hop => (step_keeps ht hop).sound) hs hspared

/-- What the store promises of a state. -/
structure Promises (s : WorldStateStore) : Prop where
  /-- A history is a window of consecutive snapshots that ends with the head. -/
  window : ∀ key, ∃ snapshots, s.Window key snapshots
  /-- Current, historical and retained states can be read. -/
  available : ∀ id, s.memory.referenced id = true →
    ∃ snapshot, snapshot.id = id ∧ ((get id).on s).1 = .ok (some snapshot)
  retained : ∀ owner item, s.memory.retained.lookup owner = some item →
    ∃ snapshot, ((get item.stateId).on s).1 = .ok (some snapshot) ∧ item.pins snapshot = true
  /-- The next step leaves everything as it was where it raises. -/
  raising : ∀ op e, Spared s op → (machine.step s op).2 = .error e →
    Unchanged s (machine.step s op).1
  reopened : s.persistent = true → ∃ s', openStore s.limits s.disk = .ok s' ∧ Unchanged s s'

theorem Sound.promises (hs : s.Sound) : s.Promises where
  window := hs.window
  available := fun id href => by
    obtain ⟨held, hheld, rfl⟩ := hs.held_of_referenced href
    exact ⟨held, rfl, get_of_holds hheld⟩
  retained := fun owner item hitem => by
    obtain ⟨-, held, hheld, hpins⟩ := hs.retained owner item hitem
    refine ⟨held, ?_, hpins⟩
    rw [← pins_id hpins]
    exact get_of_holds hheld
  raising := fun _ e hspared herror => (step_keeps hs hspared).raising e herror
  reopened := fun hpersistent => by
    obtain ⟨s', hopen, -, hunchanged, -⟩ := openStore_sound hs hpersistent
    exact ⟨s', hopen, hunchanged⟩

theorem spared_run_keeps_promises (limits : StoreLimits) (persistent : Bool) (ops : List Op)
    (hspared : machine.Steps Spared (fresh limits persistent) ops) :
    (machine.exec (fresh limits persistent) ops).Promises :=
  (exec_sound (fresh_sound limits persistent) hspared).promises

end WorldStateStore

namespace WorldSample

def scopeFields : ScopeFields :=
  let s : ScopeFields :=
    ⟨"life", .text "wld", "software", [], .null, .text "principal", .own⟩
  { s with worldScopeHash := s.derivedHash }

lemma scopeFields_valid : scopeFields.valid = true := by decide

def scope : WorldScope := ⟨scopeFields, scopeFields_valid⟩

def watermark (kind : WorldSourceKind) (value : String) (sequence : ℕ) : SourceWatermark :=
  ⟨kind, "head", value, some sequence, .null⟩

theorem time_valid :
    ((none : Option ℕ).all (0 ≤ ·) && (none : Option ℕ).all (· ≤ 0)) = true := by decide

def cutFields (watermarks : List SourceWatermark) : CutFields :=
  let c : CutFields := ⟨.null, scope, watermarks, ⟨0, none, none, 0, time_valid⟩, .null⟩
  { c with cutId := c.derivedId }

lemma cutFields_valid : (cutFields [watermark .gitCode "a" 1]).valid = true := by decide

def cut : WorldCut := ⟨cutFields [watermark .gitCode "a" 1], cutFields_valid⟩

lemma noRefs_sortedUnique : WorldRecordRef.sortedUnique [] = true := by decide

def noHeads (kind : HeadKind) : HeadManifest := .ofSorted kind [] noRefs_sortedUnique

lemma noBindings_built : (DependencyManifest.withDigest []).built = true := by decide

def noDependencies : DependencyManifest := ⟨DependencyManifest.withDigest [], noBindings_built⟩

def deltaFields : DeltaFields :=
  .withDigest ⟨none, [], [], [], [], [], [], none, noDependencies.ref, .null⟩

lemma deltaFields_built : deltaFields.built = true := by decide

def noDelta : DeltaManifest := ⟨deltaFields, deltaFields_built⟩

def stateFields (cut : WorldCut) (sequence : ℕ) : StateFields :=
  let s : StateFields :=
    ⟨deriveWorldStateId scope.1.worldScopeHash cut.ref sequence "tx", scope,
      ⟨"world_frame", .text "frame", none, .null⟩, cut.ref, sequence, none,
      (noHeads .entityHeads).ref, (noHeads .relationHeads).ref, none, none, some noDelta.ref, [],
      [], 0, "tx", .null⟩
  { s with stateSha256 := s.computedHash }

lemma stateFields_valid (cut : WorldCut) (sequence : ℕ) :
    (stateFields cut sequence).valid = true := by
  simp [stateFields, StateFields.valid, WorldRecordRef.sortedUnique]

/-- A state without heads on a branch. The states of two branches have the same identifier. -/
def onBranch (frame : String) (cut : WorldCut) (sequence : ℕ) : MaterializedWorldSnapshot :=
  ⟨⟨stateFields cut sequence, stateFields_valid cut sequence⟩, cut, noHeads .entityHeads,
    noHeads .relationHeads, none, none, none, noDependencies, noDelta, .text frame, [], [], []⟩

def branch (frame : String) : MaterializedWorldSnapshot := onBranch frame cut 0

theorem history_valid : 2 ≤ 2 ∧ 2 ≤ 4096 := by decide

theorem records_valid : 8 ≤ 8 ∧ 8 ≤ 65536 := by decide

theorem retained_valid : 1 ≤ 1 ∧ 1 ≤ 65536 := by decide

def limits : StoreLimits := ⟨2, 8, 1, history_valid, records_valid, retained_valid⟩

def faults (index : Bool) : StoreFaults := ⟨false, index⟩

def record : ActiveRecord := ⟨"record", .int 1, "OPEN", .null, .int 0, "wld", .null, .null⟩

open WorldStateStore

/-- The second branch is published, the index cannot be replaced, and the store is opened again. -/
def lostBranch : WorldStateStore :=
  machine.exec (fresh limits true)
    [.publish (faults false) (branch "main"), .publish (faults true) (branch "feature"), .reopen]

theorem lostBranch_breaks_promises :
    lostBranch.memory.current.lookup (branch "main").streamKey = some (branch "main").id ∧
      ((get (branch "main").id).on lostBranch).1.toOption = some none ∧ ¬ lostBranch.Promises := by
  have hcurrent : lostBranch.memory.current.lookup (branch "main").streamKey =
      some (branch "main").id := by decide
  have hmissing : ((get (branch "main").id).on lostBranch).1.toOption = some none := by decide
  refine ⟨hcurrent, hmissing, fun hpromises => ?_⟩
  have href : lostBranch.memory.referenced (branch "main").id = true := by
    rw [StoreMemory.referenced_iff]
    exact .inl ⟨_, hcurrent⟩
  obtain ⟨snapshot, -, hget⟩ := hpromises.available _ href
  rw [hget] at hmissing
  cases hmissing

theorem spared_run_keeps_promises_of_branch :
    (machine.exec (fresh limits true) [.publish (faults true) (branch "main"),
      .publish (faults false) (branch "main"), .putActiveCognitionRecord (faults false) record,
      .reopen]).Promises :=
  spared_run_keeps_promises limits true _
    ⟨fun _ => by decide, fun _ => by decide, .inr (.inr (.inl (by decide))), trivial, trivial⟩

end WorldSample

end Tiangong
