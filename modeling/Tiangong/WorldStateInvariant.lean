import Tiangong.WorldStateStore

/-!
# The invariant of the world state store

Every stream has a window of snapshots, every state that is referred to has its snapshot in memory
and in its file, and the index file is that of the memory. What an identifier refers to is decided
by the identifier, so a publication must not take one that is in use.
-/
namespace Tiangong

namespace StoreMemory

/-- The heads, the history, the retained states and the records are the same. -/
structure SameContents (m m' : StoreMemory) : Prop where
  current : Dict.Same m.current m'.current
  history : ∀ key, (m.history.lookup key).getD [] = (m'.history.lookup key).getD []
  activeCognition : Dict.Same m.activeCognition m'.activeCognition
  retained : Dict.Same m.retained m'.retained
  schema : m.retentionSchema = m'.retentionSchema

theorem SameContents.refl (m : StoreMemory) : m.SameContents m :=
  ⟨.refl _, fun _ => rfl, .refl _, .refl _, rfl⟩

variable {m m' : StoreMemory}

theorem SameContents.symm (h : m.SameContents m') : m'.SameContents m :=
  ⟨h.current.symm, fun key => (h.history key).symm, h.activeCognition.symm, h.retained.symm,
    h.schema.symm⟩

theorem SameContents.trans {m'' : StoreMemory} (h : m.SameContents m')
    (h' : m'.SameContents m'') : m.SameContents m'' :=
  ⟨h.current.trans h'.current, fun key => (h.history key).trans (h'.history key),
    h.activeCognition.trans h'.activeCognition, h.retained.trans h'.retained,
    h.schema.trans h'.schema⟩

theorem SameContents.indexPayload (h : m.SameContents m') : m.indexPayload = m'.indexPayload := by
  have hrows : (fun row : StreamKey × Canon =>
      (⟨row.1, row.2, (m.history.lookup row.1).getD []⟩ : StreamRow)) =
      fun row => ⟨row.1, row.2, (m'.history.lookup row.1).getD []⟩ := by
    funext row
    rw [h.history row.1]
  rw [StoreMemory.indexPayload, StoreMemory.indexPayload, hrows, h.current.items,
    h.activeCognition.items, h.retained.items, h.schema]

theorem referenced_iff {id : Canon} :
    m.referenced id = true ↔ (∃ key, m.current.lookup key = some id) ∨
      (∃ key, id ∈ (m.history.lookup key).getD []) ∨
      ∃ owner item, m.retained.lookup owner = some item ∧ item.stateId = id := by
  simp only [referenced, Bool.or_eq_true, List.contains_iff_mem, Dict.mem_values, List.any_eq_true,
    decide_eq_true_eq, or_assoc]
  refine or_congr Iff.rfl (or_congr ?_ ?_)
  · constructor
    · rintro ⟨ids, ⟨key, hlookup⟩, hmem⟩
      exact ⟨key, by rw [hlookup]; exact hmem⟩
    · rintro ⟨key, hmem⟩
      cases hlookup : m.history.lookup key with
      | none => simp [hlookup] at hmem
      | some ids => exact ⟨ids, ⟨key, hlookup⟩, by rwa [hlookup] at hmem⟩
  · constructor
    · rintro ⟨item, ⟨owner, hlookup⟩, hid⟩
      exact ⟨owner, item, hlookup, hid⟩
    · rintro ⟨owner, item, hlookup, hid⟩
      exact ⟨item, ⟨owner, hlookup⟩, hid⟩

theorem SameContents.referenced (h : m.SameContents m') (id : Canon) :
    m.referenced id = m'.referenced id := by
  rw [Bool.eq_iff_iff, referenced_iff, referenced_iff]
  simp only [h.current _, h.history, h.retained _]

end StoreMemory

namespace WorldStateStore

/-- A copy of a snapshot with this identifier is in memory or in a file. -/
def Stored (s : WorldStateStore) (id : Canon) : Prop :=
  (s.memory.snapshots.lookup id).isSome ∨ (s.persistent = true ∧ (s.disk.files.lookup id).isSome)

/-- The snapshot is what its identifier is read as, now and after a restart. -/
structure Holds (s : WorldStateStore) (snapshot : MaterializedWorldSnapshot) : Prop where
  valid : snapshot.validateSnapshot = .ok ()
  filed : s.persistent = true → s.disk.files.lookup snapshot.id = some snapshot
  cached : s.memory.snapshots.lookup snapshot.id = some snapshot ∨
    (s.persistent = true ∧ s.memory.snapshots.lookup snapshot.id = none)

variable {snapshot : MaterializedWorldSnapshot}

/-- Two snapshots that are kept under one identifier are the same. -/
theorem Holds.unique {s : WorldStateStore} {snapshot' : MaterializedWorldSnapshot}
    (h : s.Holds snapshot) (h' : s.Holds snapshot') (hid : snapshot.id = snapshot'.id) :
    snapshot = snapshot' := by
  rcases h.cached with hcached | ⟨hpersistent, -⟩
  · rcases h'.cached with hcached' | ⟨hpersistent, -⟩
    · rw [hid, hcached'] at hcached
      exact (Option.some.inj hcached).symm
    · have hfiled := h.filed hpersistent
      rw [hid, h'.filed hpersistent] at hfiled
      exact (Option.some.inj hfiled).symm
  · have hfiled := h.filed hpersistent
    rw [hid, h'.filed hpersistent] at hfiled
    exact (Option.some.inj hfiled).symm

theorem Holds.stored {s : WorldStateStore} (h : s.Holds snapshot) : s.Stored snapshot.id := by
  rcases h.cached with hcached | ⟨hpersistent, -⟩
  · exact .inl (by rw [hcached]; rfl)
  · exact .inr ⟨hpersistent, by rw [h.filed hpersistent]; rfl⟩

/-- Snapshots are kept where their copies are untouched. -/
theorem Holds.congr {s s' : WorldStateStore}
    (h : s.Holds snapshot) (hpersistent : s'.persistent = s.persistent)
    (hmemory : s'.memory.snapshots.lookup snapshot.id = s.memory.snapshots.lookup snapshot.id)
    (hfiles : s'.disk.files.lookup snapshot.id = s.disk.files.lookup snapshot.id) :
    s'.Holds snapshot :=
  ⟨h.valid, by rw [hpersistent, hfiles]; exact h.filed, by
    rw [hpersistent, hmemory]; exact h.cached⟩

/-- Reading a state changes nothing, or keeps in memory what the file of the state holds. -/
lemma get_cases (id : Canon) (s : WorldStateStore) : ((get id).on s).2 = s ∨
    ∃ snapshot, s.persistent = true ∧ s.disk.files.lookup id = some snapshot ∧
      snapshot.id = id ∧ ((get id).on s).2 = s.cache snapshot := by
  simp only [Call.on, get]
  cases hcached : s.memory.snapshots.lookup id with
  | some snapshot => exact .inl rfl
  | none =>
    cases hpersistent : s.persistent with
    | false => exact .inl rfl
    | true =>
      cases hfile : s.disk.files.lookup id with
      | none => exact .inl rfl
      | some snapshot =>
        cases hvalid : snapshot.validateSnapshot with
        | error e => exact .inl (by simp [hvalid])
        | ok u =>
          by_cases hid : snapshot.id = id
          · exact .inr ⟨snapshot, rfl, rfl, hid, by simp [hvalid, hid]⟩
          · exact .inl (by simp [hvalid, hid])

/-- A snapshot that is kept is read. -/
theorem get_of_holds {s : WorldStateStore}
    (h : s.Holds snapshot) : ((get snapshot.id).on s).1 = .ok (some snapshot) := by
  simp only [Call.on, get]
  rcases h.cached with hcached | ⟨hpersistent, hcached⟩
  · rw [hcached]
  · simp [hcached, hpersistent, h.filed hpersistent, h.valid]

/-- What a call that reads leaves: the contents, the files and what they hold. -/
structure Reads (s s' : WorldStateStore) : Prop where
  limits : s'.limits = s.limits
  persistent : s'.persistent = s.persistent
  disk : s'.disk = s.disk
  current : s'.memory.current = s.memory.current
  history : s'.memory.history = s.memory.history
  activeCognition : s'.memory.activeCognition = s.memory.activeCognition
  retained : s'.memory.retained = s.memory.retained
  schema : s'.memory.retentionSchema = s.memory.retentionSchema
  holds : ∀ snapshot, s.Holds snapshot → s'.Holds snapshot
  stored : ∀ id, s'.Stored id → s.Stored id

theorem Reads.refl (s : WorldStateStore) : Reads s s :=
  ⟨rfl, rfl, rfl, rfl, rfl, rfl, rfl, rfl, fun _ h => h, fun _ h => h⟩

theorem Reads.trans {s s' s'' : WorldStateStore} (h : Reads s s') (h' : Reads s' s'') :
    Reads s s'' where
  limits := h'.limits.trans h.limits
  persistent := h'.persistent.trans h.persistent
  disk := h'.disk.trans h.disk
  current := h'.current.trans h.current
  history := h'.history.trans h.history
  activeCognition := h'.activeCognition.trans h.activeCognition
  retained := h'.retained.trans h.retained
  schema := h'.schema.trans h.schema
  holds := fun snapshot hs => h'.holds snapshot (h.holds snapshot hs)
  stored := fun id hs => h.stored id (h'.stored id hs)

theorem Reads.sameContents {s s' : WorldStateStore} (h : Reads s s') :
    s'.memory.SameContents s.memory := by
  refine ⟨?_, ?_, ?_, ?_, h.schema⟩
  · rw [h.current]
    exact .refl _
  · intro key
    rw [h.history]
  · rw [h.activeCognition]
    exact .refl _
  · rw [h.retained]
    exact .refl _

@[simp] theorem cache_snapshots (s : WorldStateStore) (snapshot : MaterializedWorldSnapshot) :
    (s.cache snapshot).memory.snapshots = s.memory.snapshots.insert snapshot.id snapshot := rfl

theorem get_reads (id : Canon) (s : WorldStateStore) : Reads s ((get id).on s).2 := by
  rcases get_cases id s with heq | ⟨snapshot, hpersistent, hfile, rfl, heq⟩
  · rw [heq]
    exact .refl s
  · rw [heq]
    refine ⟨rfl, rfl, rfl, rfl, rfl, rfl, rfl, rfl, fun held h => ⟨h.valid, h.filed, ?_⟩, ?_⟩
    · rw [cache_snapshots, Dict.lookup_insert_eq]
      by_cases hsame : held.id = snapshot.id
      · have hfiled := h.filed hpersistent
        rw [hsame, hfile] at hfiled
        rw [if_pos hsame]
        exact .inl hfiled
      · rw [if_neg hsame]
        exact h.cached
    · intro id' h
      rcases h with hcached | hfiled
      · rw [cache_snapshots, Dict.lookup_insert_eq] at hcached
        by_cases hsame : id' = snapshot.id
        · exact .inr ⟨hpersistent, by rw [hsame, hfile]; rfl⟩
        · rw [if_neg hsame] at hcached
          exact .inl hcached
      · exact .inr hfiled

lemma current_reads (key : StreamKey) (s : WorldStateStore) : Reads s ((current key).on s).2 := by
  unfold current
  rw [Call.on_bind, Call.on_read]
  cases hlookup : s.memory.current.lookup key with
  | none => simpa [hlookup] using Reads.refl s
  | some id => simpa [hlookup] using get_reads id s

theorem requireRetainedSnapshot_reads (item : RetainedWorldState) (s : WorldStateStore) :
    Reads s ((requireRetainedSnapshot item).on s).2 := by
  unfold requireRetainedSnapshot
  rw [Call.on_bind]
  have hreads := get_reads item.stateId s
  rcases hget : (get item.stateId).on s with ⟨e | found, s'⟩
  · rwa [hget] at hreads
  · rw [hget] at hreads
    simpa using hreads

theorem checkPublication_reads (snapshot : MaterializedWorldSnapshot) (s : WorldStateStore) :
    Reads s ((checkPublication snapshot).on s).2 := by
  unfold checkPublication
  have hquery : ∀ (f : WorldStateStore → Except WorldStateError Unit) (t : WorldStateStore),
      Reads s t → Reads s ((Call.query f).on t).2 := fun _ _ h => h
  refine Call.bind_preserves (P := Reads s) (hquery _) (fun _ t h => ?_) (Reads.refl s)
  refine Call.bind_preserves (P := Reads s) (hquery _) (fun _ t h => ?_) h
  exact Call.bind_preserves (P := Reads s) (fun t h => h.trans (current_reads _ t))
    (fun _ => hquery _) h

/-- What an eviction leaves: everything that is referred to. -/
structure Prunes (s s' : WorldStateStore) : Prop where
  limits : s'.limits = s.limits
  persistent : s'.persistent = s.persistent
  index : s'.disk.index = s.disk.index
  current : s'.memory.current = s.memory.current
  history : s'.memory.history = s.memory.history
  activeCognition : s'.memory.activeCognition = s.memory.activeCognition
  retained : s'.memory.retained = s.memory.retained
  schema : s'.memory.retentionSchema = s.memory.retentionSchema
  snapshots : ∀ id, s.memory.referenced id = true →
    s'.memory.snapshots.lookup id = s.memory.snapshots.lookup id
  files : ∀ id, s.memory.referenced id = true → s'.disk.files.lookup id = s.disk.files.lookup id
  stored : ∀ id, s'.Stored id → s.Stored id

theorem Prunes.refl (s : WorldStateStore) : Prunes s s :=
  ⟨rfl, rfl, rfl, rfl, rfl, rfl, rfl, rfl, fun _ _ => rfl, fun _ _ => rfl, fun _ h => h⟩

theorem Prunes.sameContents {s s' : WorldStateStore} (h : Prunes s s') :
    s'.memory.SameContents s.memory := by
  refine ⟨?_, ?_, ?_, ?_, h.schema⟩
  · rw [h.current]
    exact .refl _
  · intro key
    rw [h.history]
  · rw [h.activeCognition]
    exact .refl _
  · rw [h.retained]
    exact .refl _

theorem Prunes.trans {s s' s'' : WorldStateStore} (h : Prunes s s') (h' : Prunes s' s'') :
    Prunes s s'' where
  limits := h'.limits.trans h.limits
  persistent := h'.persistent.trans h.persistent
  index := h'.index.trans h.index
  current := h'.current.trans h.current
  history := h'.history.trans h.history
  activeCognition := h'.activeCognition.trans h.activeCognition
  retained := h'.retained.trans h.retained
  schema := h'.schema.trans h.schema
  snapshots := fun id hid => by
    rw [h'.snapshots id (by rw [h.sameContents.referenced]; exact hid), h.snapshots id hid]
  files := fun id hid => by
    rw [h'.files id (by rw [h.sameContents.referenced]; exact hid), h.files id hid]
  stored := fun id hs => h.stored id (h'.stored id hs)

theorem Prunes.holds {s s' : WorldStateStore} (h : Prunes s s') (hheld : s.Holds snapshot)
    (href : s.memory.referenced snapshot.id = true) : s'.Holds snapshot :=
  hheld.congr h.persistent (h.snapshots _ href) (h.files _ href)

theorem evictUnreferencedSnapshot_prunes (s : WorldStateStore) (id : Canon) :
    Prunes s (s.evictUnreferencedSnapshot id) ∧
      ((s.evictUnreferencedSnapshot id).Stored id → s.memory.referenced id = true) := by
  unfold evictUnreferencedSnapshot
  by_cases href : s.memory.referenced id = true
  · rw [if_pos href]
    exact ⟨.refl s, fun _ => href⟩
  · rw [if_neg href]
    have hother : ∀ id', s.memory.referenced id' = true → id' ≠ id := by
      rintro id' hid rfl
      exact href hid
    refine ⟨⟨rfl, rfl, rfl, rfl, rfl, rfl, rfl, rfl, ?_, ?_, ?_⟩, ?_⟩
    · intro id' hid
      exact AList.lookup_erase_ne (hother id' hid)
    · intro id' hid
      cases s.persistent with
      | true => exact AList.lookup_erase_ne (hother id' hid)
      | false => rfl
    · intro id' h
      rcases h with hcached | ⟨hpersistent, hfiled⟩
      · rw [Dict.lookup_erase_eq] at hcached
        by_cases hsame : id' = id
        · simp [hsame] at hcached
        · rw [if_neg hsame] at hcached
          exact .inl hcached
      · replace hpersistent : s.persistent = true := hpersistent
        simp only [hpersistent, if_true, Dict.lookup_erase_eq] at hfiled
        by_cases hsame : id' = id
        · simp [hsame] at hfiled
        · rw [if_neg hsame] at hfiled
          exact .inr ⟨hpersistent, hfiled⟩
    · rintro (hcached | ⟨hpersistent, hfiled⟩)
      · simp at hcached
      · replace hpersistent : s.persistent = true := hpersistent
        simp [hpersistent] at hfiled

/-- Evicting several states one after the other. -/
theorem foldl_evict_prunes (ids : List Canon) (s : WorldStateStore) :
    Prunes s (ids.foldl evictUnreferencedSnapshot s) ∧ ∀ id ∈ ids,
      (ids.foldl evictUnreferencedSnapshot s).Stored id → s.memory.referenced id = true := by
  induction ids generalizing s with
  | nil => exact ⟨.refl s, nofun⟩
  | cons id ids ih =>
    obtain ⟨hfirst, hevicted⟩ := evictUnreferencedSnapshot_prunes s id
    obtain ⟨hrest, hlast⟩ := ih (s.evictUnreferencedSnapshot id)
    refine ⟨hfirst.trans hrest, ?_⟩
    intro id' hmem hstored
    rcases List.mem_cons.mp hmem with rfl | hmem
    · exact hevicted (hrest.stored _ hstored)
    · rw [← hfirst.sameContents.referenced]
      exact hlast id' hmem hstored

/-- The snapshots of a stream's history. -/
structure Window (s : WorldStateStore) (key : StreamKey)
    (snapshots : List MaterializedWorldSnapshot) : Prop where
  history : (s.memory.history.lookup key).getD [] = snapshots.map MaterializedWorldSnapshot.id
  current : s.memory.current.lookup key = snapshots.getLast?.map MaterializedWorldSnapshot.id
  length : snapshots.length ≤ s.limits.maxHistoryPerFrame
  consecutive : snapshots.IsChain fun a b => b.state.worldSequence = a.state.worldSequence + 1
  held : ∀ snapshot ∈ snapshots, s.Holds snapshot ∧ snapshot.streamKey = key

/-- Windows, retained states and records, and the index file that holds them. -/
structure Coherent (s : WorldStateStore) : Prop where
  window : ∀ key, ∃ snapshots, s.Window key snapshots
  retained : ∀ owner item, s.memory.retained.lookup owner = some item → item.ownerId = owner ∧
    ∃ snapshot, s.Holds snapshot ∧ item.pins snapshot = true
  schema : ∀ owner item, s.memory.retained.lookup owner = some item →
    s.memory.retentionSchema = true
  retainedSize : s.memory.retained.size ≤ s.limits.maxRetainedStates
  records : ∀ id record, s.memory.activeCognition.lookup id = some record →
    record.recordId = id ∧ id ≠ "" ∧ record.recordSha256 = record.computedHash
  recordsSize : s.memory.activeCognition.size ≤ s.limits.maxActiveCognitionRecords
  synced : s.persistent = true → s.disk.index = some s.memory.indexPayload ∨
    (s.disk.index = none ∧ StoreMemory.empty.SameContents s.memory)

structure Sound (s : WorldStateStore) : Prop extends Coherent s where
  /-- No snapshot outlives the last reference to it. -/
  referenced : ∀ id, s.Stored id → s.memory.referenced id = true

theorem fresh_sound (limits : StoreLimits) (persistent : Bool) :
    (fresh limits persistent).Sound where
  window := fun _ => ⟨[], rfl, rfl, Nat.zero_le _, .nil, by simp⟩
  retained := fun owner item h => by
    rw [fresh, StoreMemory.empty, AList.lookup_empty] at h
    cases h
  schema := fun owner item h => by
    rw [fresh, StoreMemory.empty, AList.lookup_empty] at h
    cases h
  retainedSize := Nat.zero_le _
  records := fun id record h => by
    rw [fresh, StoreMemory.empty, AList.lookup_empty] at h
    cases h
  recordsSize := Nat.zero_le _
  referenced := by
    rintro id (h | ⟨-, h⟩)
    · simp [fresh, StoreMemory.empty] at h
    · simp [fresh] at h
  synced := fun _ => .inr ⟨rfl, .refl _⟩

section Window

variable {s s' : WorldStateStore} {key : StreamKey} {snapshots : List MaterializedWorldSnapshot}

theorem Window.referenced (h : s.Window key snapshots) {snapshot : MaterializedWorldSnapshot}
    (hmem : snapshot ∈ snapshots) : s.memory.referenced snapshot.id = true := by
  rw [StoreMemory.referenced_iff]
  refine .inr (.inl ⟨key, ?_⟩)
  rw [h.history]
  exact List.mem_map_of_mem hmem

/-- A window stays where its stream and its snapshots do. -/
theorem Window.congr (h : s.Window key snapshots) (hlimits : s'.limits = s.limits)
    (hcurrent : s'.memory.current.lookup key = s.memory.current.lookup key)
    (hhistory : (s'.memory.history.lookup key).getD [] = (s.memory.history.lookup key).getD [])
    (hheld : ∀ snapshot ∈ snapshots, s'.Holds snapshot) : s'.Window key snapshots where
  history := hhistory.trans h.history
  current := hcurrent.trans h.current
  length := by
    rw [hlimits]
    exact h.length
  consecutive := h.consecutive
  held := fun snapshot hmem => ⟨hheld snapshot hmem, (h.held snapshot hmem).2⟩

/-- The head of a stream is read. -/
theorem Window.current_eq (h : s.Window key snapshots) :
    ((WorldStateStore.current key).on s).1 = .ok snapshots.getLast? := by
  unfold WorldStateStore.current
  rw [Call.on_bind, Call.on_read, h.current]
  cases hlast : snapshots.getLast? with
  | none => rfl
  | some snapshot =>
    exact get_of_holds (h.held snapshot (List.mem_of_getLast? hlast)).1

end Window

section Reading

variable {s s' : WorldStateStore}

theorem Reads.window (h : Reads s s') {key : StreamKey}
    {snapshots : List MaterializedWorldSnapshot} (hwindow : s.Window key snapshots) :
    s'.Window key snapshots :=
  hwindow.congr h.limits (by rw [h.current]) (by rw [h.history]) fun snapshot hmem =>
    h.holds snapshot (hwindow.held snapshot hmem).1

theorem pins_id {item : RetainedWorldState} {snapshot : MaterializedWorldSnapshot}
    (h : item.pins snapshot = true) : snapshot.id = item.stateId := by
  simp only [RetainedWorldState.pins, holds_iff] at h
  have hid := congrArg WorldRecordRef.recordId h.1.1
  exact hid

/-- The invariant stays where the contents, the index and what is referred to do. -/
theorem Coherent.congr (hs : s.Coherent) (hlimits : s'.limits = s.limits)
    (hpersistent : s'.persistent = s.persistent) (hcontents : s'.memory.SameContents s.memory)
    (hindex : s'.disk.index = s.disk.index)
    (hheld : ∀ snapshot, s.Holds snapshot → s.memory.referenced snapshot.id = true →
      s'.Holds snapshot) : s'.Coherent where
  window := fun key => by
    obtain ⟨snapshots, hwindow⟩ := hs.window key
    exact ⟨snapshots, hwindow.congr hlimits (hcontents.current key) (hcontents.history key)
      fun snapshot hmem => hheld snapshot (hwindow.held snapshot hmem).1 (hwindow.referenced hmem)⟩
  retained := fun owner item hitem => by
    rw [hcontents.retained] at hitem
    obtain ⟨howner, snapshot, hkept, hpins⟩ := hs.retained owner item hitem
    have href : s.memory.referenced snapshot.id = true := by
      rw [StoreMemory.referenced_iff]
      exact .inr (.inr ⟨owner, item, hitem, (pins_id hpins).symm⟩)
    exact ⟨howner, snapshot, hheld snapshot hkept href, hpins⟩
  schema := fun owner item hitem => by
    rw [hcontents.retained] at hitem
    rw [hcontents.schema]
    exact hs.schema owner item hitem
  retainedSize := by
    rw [hcontents.retained.size, hlimits]
    exact hs.retainedSize
  records := fun id record hrecord => by
    rw [hcontents.activeCognition] at hrecord
    exact hs.records id record hrecord
  recordsSize := by
    rw [hcontents.activeCognition.size, hlimits]
    exact hs.recordsSize
  synced := fun h => by
    rw [hpersistent] at h
    rw [hindex, hcontents.indexPayload]
    rcases hs.synced h with hsynced | ⟨hnone, hempty⟩
    · exact .inl hsynced
    · exact .inr ⟨hnone, hempty.trans hcontents.symm⟩

theorem Reads.sound (h : Reads s s') (hs : s.Sound) : s'.Sound where
  toCoherent := hs.toCoherent.congr h.limits h.persistent h.sameContents (by rw [h.disk])
    fun snapshot hheld _ => h.holds snapshot hheld
  referenced := fun id hstored => by
    rw [h.sameContents.referenced]
    exact hs.referenced id (h.stored id hstored)

theorem Prunes.coherent (h : Prunes s s') (hs : s.Coherent) : s'.Coherent :=
  hs.congr h.limits h.persistent h.sameContents h.index fun _ => h.holds

end Reading

end WorldStateStore

end Tiangong
