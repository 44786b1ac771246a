import Mathlib.Data.List.Chain
import Tiangong.WorldStateInvariant

/-!
# Runs of the world state store

What each operation does to the invariant, whether it answers or raises, and what that says about
every run: the windows, the snapshots that stay available, and the store that a restart opens.
-/
open List

namespace Tiangong

namespace WorldStateStore

open Call AList

variable {s s' : WorldStateStore} {snapshot : MaterializedWorldSnapshot}

/-- A snapshot that passed the checks of a publication. -/
structure Publishable (s : WorldStateStore) (snapshot : MaterializedWorldSnapshot)
    (old : Option MaterializedWorldSnapshot) : Prop where
  valid : snapshot.validateSnapshot = .ok ()
  head : ((current snapshot.streamKey).on s).1 = .ok old
  follows : mayFollow snapshot old = .ok ()

theorem checkPublication_eq_ok (h : (checkPublication snapshot).on s = (.ok (), s')) :
    ∃ old, Publishable s snapshot old := by
  unfold checkPublication at h
  rw [on_bind, on_query] at h
  cases hhash : rejectIf (snapshot.state.hasValidHash = false)
      (WorldStateError.value "WORLD_STATE_HASH_INVALID") with
  | error e => simp [hhash] at h
  | ok u =>
    simp only [hhash] at h
    rw [on_bind, on_query] at h
    cases hvalid : snapshot.validateSnapshot with
    | error e => simp [hvalid] at h
    | ok u =>
      simp only [hvalid] at h
      rw [on_bind] at h
      rcases hcurrent : (current snapshot.streamKey).on s with ⟨e | old, t⟩
      · simp [hcurrent] at h
      · simp only [hcurrent, on_query, Prod.mk.injEq] at h
        exact ⟨old, hvalid, by rw [hcurrent], h.1⟩

/-- What a snapshot that follows a head has to do with it. -/
theorem mayFollow_eq_ok {old : Option MaterializedWorldSnapshot}
    (h : mayFollow snapshot old = .ok ()) :
    (old = none ∧ snapshot.state.worldSequence = 0) ∨ ∃ before, old = some before ∧
      snapshot.state.worldSequence = before.state.worldSequence + 1 ∧
      (compareWorldCuts snapshot.cut before.cut).regresses = false ∧
      compareWorldCuts snapshot.cut before.cut ≠ .disjoint := by
  cases old with
  | none =>
    simp only [mayFollow, rejectIf_eq_ok, not_not] at h
    exact .inl ⟨rfl, h⟩
  | some before =>
    simp only [mayFollow, eq_ok_iff, not_not] at h
    obtain ⟨hcompatible, hahead, hcontinuous, hsequence⟩ := h
    refine .inr ⟨before, rfl, hsequence, ?_, hcontinuous⟩
    cases hrelation : compareWorldCuts snapshot.cut before.cut <;>
      simp_all [CutRelation.regresses]

variable {key : StreamKey} {snapshots : List MaterializedWorldSnapshot}

/-- The stream of a publication before it is cut to its window. -/
lemma extended_eq (h : s.Window snapshot.streamKey snapshots) : extended s.memory snapshot =
      (snapshots ++ [snapshot]).map MaterializedWorldSnapshot.id := by
  rw [extended, h.history, map_append, map_singleton]

/-- What a store over the replaced files, with the new heads in memory, has to do with the one
before: the new snapshot, the new window, and everything else as it was. -/
structure Entered (s t : WorldStateStore) (snapshot : MaterializedWorldSnapshot) : Prop where
  limits : t.limits = s.limits
  persistent : t.persistent = s.persistent
  current : t.memory.current = (proposed s.limits s.memory snapshot).current
  history : t.memory.history = (proposed s.limits s.memory snapshot).history
  activeCognition : t.memory.activeCognition = s.memory.activeCognition
  retained : t.memory.retained = s.memory.retained
  schema : t.memory.retentionSchema = s.memory.retentionSchema
  snapshots : t.memory.snapshots = s.memory.snapshots.insert snapshot.id snapshot
  files : t.persistent = true → t.disk.files = s.disk.files.insert snapshot.id snapshot
  index : t.persistent = true →
    t.disk.index = some (proposed s.limits s.memory snapshot).indexPayload

section Entered

variable {t : WorldStateStore}

/-- Snapshots under other identifiers stay. -/
lemma Entered.holds_other (h : Entered s t snapshot) {held : MaterializedWorldSnapshot}
    (hheld : s.Holds held) (hne : held.id ≠ snapshot.id) : t.Holds held := by
  refine ⟨hheld.valid, fun hpersistent => ?_, ?_⟩
  · rw [h.files hpersistent, Dict.lookup_insert_eq, if_neg hne]
    exact hheld.filed (by rw [← h.persistent]; exact hpersistent)
  · rw [h.snapshots, Dict.lookup_insert_eq, if_neg hne, h.persistent]
    exact hheld.cached

theorem Entered.holds_new (h : Entered s t snapshot)
    (hvalid : snapshot.validateSnapshot = .ok ()) : t.Holds snapshot := by
  refine ⟨hvalid, fun hpersistent => ?_, .inl ?_⟩
  · rw [h.files hpersistent, lookup_insert]
  · rw [h.snapshots, lookup_insert]

/-- The stream of the publication has the new snapshot as its head. -/
lemma Entered.window_new (h : Entered s t snapshot) (hvalid : snapshot.validateSnapshot = .ok ())
    (hwindow : s.Window snapshot.streamKey snapshots)
    (hfollows : mayFollow snapshot snapshots.getLast? = .ok ())
    (hfresh : s.memory.referenced snapshot.id = false) :
    t.Window snapshot.streamKey ((snapshots ++ [snapshot]).drop
      ((snapshots ++ [snapshot]).length - s.limits.maxHistoryPerFrame)) := by
  have hlimit := s.limits.history_valid.1
  have hlength : (extended s.memory snapshot).length = (snapshots ++ [snapshot]).length := by
    rw [extended_eq hwindow, length_map]
  have hchain : (snapshots ++ [snapshot]).IsChain fun a b =>
      b.state.worldSequence = a.state.worldSequence + 1 := by
    refine hwindow.consecutive.append (.singleton _) ?_
    intro before hbefore after hafter
    rw [List.head?_singleton, Option.mem_some_iff] at hafter
    subst hafter
    rcases mayFollow_eq_ok hfollows with ⟨hnone, -⟩ | ⟨before', hsome, hsequence, -⟩
    · rw [hnone] at hbefore
      cases hbefore
    · rw [hsome, Option.mem_some_iff] at hbefore
      rw [← hbefore]
      exact hsequence
  refine ⟨?_, ?_, ?_, hchain.drop _, ?_⟩
  · rw [h.history, proposed, lookup_insert, Option.getD_some, hlength,
      extended_eq hwindow, map_drop]
  · rw [h.current, proposed, lookup_insert, List.getLast?_drop]
    simp only [length_append, length_singleton]
    rw [if_neg (by omega)]
    simp
  · rw [h.limits, length_drop]
    omega
  · intro held hmem
    rcases mem_append.mp (mem_of_mem_drop hmem) with hold | hnew
    · obtain ⟨hheld, hkey⟩ := hwindow.held held hold
      refine ⟨h.holds_other hheld ?_, hkey⟩
      intro heq
      have href := hwindow.referenced hold
      rw [heq, hfresh] at href
      cases href
    · rw [mem_singleton] at hnew
      subst hnew
      exact ⟨h.holds_new hvalid, rfl⟩

/-- Other streams stay as they are. -/
lemma Entered.window_other (h : Entered s t snapshot) (hwindow : s.Window key snapshots)
    (hfresh : s.memory.referenced snapshot.id = false) (hkey : key ≠ snapshot.streamKey) :
    t.Window key snapshots := by
  refine hwindow.congr h.limits ?_ ?_ fun held hmem => h.holds_other (hwindow.held held hmem).1 ?_
  · rw [h.current, proposed, lookup_insert_ne hkey]
  · rw [h.history, proposed, lookup_insert_ne hkey]
  · intro heq
    have href := hwindow.referenced hmem
    rw [heq, hfresh] at href
    cases href

theorem Entered.contents (h : Entered s t snapshot) :
    t.memory.SameContents (proposed s.limits s.memory snapshot) := by
  refine ⟨?_, ?_, ?_, ?_, h.schema⟩
  · rw [h.current]
    exact .refl _
  · intro key
    rw [h.history]
  · rw [h.activeCognition]
    exact .refl _
  · rw [h.retained]
    exact .refl _

theorem Entered.coherent (h : Entered s t snapshot) (hs : s.Sound)
    {old : Option MaterializedWorldSnapshot} (hpublishable : Publishable s snapshot old)
    (hfresh : s.memory.referenced snapshot.id = false) : t.Coherent where
  window := fun key => by
    obtain ⟨snapshots, hwindow⟩ := hs.window key
    by_cases hkey : key = snapshot.streamKey
    · subst hkey
      have hhead := hpublishable.head
      rw [hwindow.current_eq, Except.ok.injEq] at hhead
      exact ⟨_, h.window_new hpublishable.valid hwindow
        (by rw [hhead]; exact hpublishable.follows) hfresh⟩
    · exact ⟨snapshots, h.window_other hwindow hfresh hkey⟩
  retained := fun owner item hitem => by
    rw [h.retained] at hitem
    obtain ⟨howner, held, hheld, hpins⟩ := hs.retained owner item hitem
    refine ⟨howner, held, h.holds_other hheld ?_, hpins⟩
    intro heq
    have href : s.memory.referenced snapshot.id = true := by
      rw [← heq, StoreMemory.referenced_iff]
      exact .inr (.inr ⟨owner, item, hitem, (pins_id hpins).symm⟩)
    rw [hfresh] at href
    cases href
  schema := by
    rw [h.retained, h.schema]
    exact hs.schema
  retainedSize := by
    rw [h.retained, h.limits]
    exact hs.retainedSize
  records := by
    rw [h.activeCognition]
    exact hs.records
  recordsSize := by
    rw [h.activeCognition, h.limits]
    exact hs.recordsSize
  synced := fun hpersistent => by
    rw [h.index hpersistent, h.contents.indexPayload]
    exact .inl rfl

/-- What was referred to still is, or has fallen out of the window. -/
lemma Entered.referenced_or_evicted (h : Entered s t snapshot) (hs : s.Sound) {id : Canon}
    (href : s.memory.referenced id = true) :
    t.memory.referenced id = true ∨ id ∈ evicted s.limits s.memory snapshot := by
  have hkept : (∃ key, id ∈ (s.memory.history.lookup key).getD []) ∨
      ∃ owner item, s.memory.retained.lookup owner = some item ∧ item.stateId = id := by
    rcases StoreMemory.referenced_iff.mp href with ⟨key, hcurrent⟩ | hrest
    · obtain ⟨snapshots, hwindow⟩ := hs.window key
      rw [hwindow.current, Option.map_eq_some_iff] at hcurrent
      obtain ⟨last, hlast, rfl⟩ := hcurrent
      refine .inl ⟨key, ?_⟩
      rw [hwindow.history]
      exact mem_map_of_mem (mem_of_getLast? hlast)
    · exact hrest
  rw [StoreMemory.referenced_iff]
  rcases hkept with ⟨key, hmem⟩ | ⟨owner, item, hitem, hid⟩
  · by_cases hkey : key = snapshot.streamKey
    · by_cases hnew : id = snapshot.id
      · refine .inl (.inl ⟨snapshot.streamKey, ?_⟩)
        rw [h.current, proposed, lookup_insert, hnew]
      · have hextended : id ∈ extended s.memory snapshot := by
          rw [extended, ← hkey]
          exact mem_append_left _ hmem
        rw [← take_append_drop
          ((extended s.memory snapshot).length - s.limits.maxHistoryPerFrame)
          (extended s.memory snapshot), mem_append] at hextended
        rcases hextended with htaken | hleft
        · exact .inr (mem_filter.mpr ⟨htaken, by simpa using hnew⟩)
        · refine .inl (.inr (.inl ⟨snapshot.streamKey, ?_⟩))
          rw [h.history, proposed, lookup_insert]
          exact hleft
    · refine .inl (.inr (.inl ⟨key, ?_⟩))
      rw [h.history, proposed, lookup_insert_ne hkey]
      exact hmem
  · exact .inl (.inr (.inr ⟨owner, item, by rw [h.retained]; exact hitem, hid⟩))

theorem Entered.stored (h : Entered s t snapshot) {id : Canon} (hstored : t.Stored id) :
    id = snapshot.id ∨ s.Stored id := by
  by_cases hnew : id = snapshot.id
  · exact .inl hnew
  · right
    rcases hstored with hcached | ⟨hpersistent, hfiled⟩
    · rw [h.snapshots, Dict.lookup_insert_eq, if_neg hnew] at hcached
      exact .inl hcached
    · rw [h.files hpersistent, Dict.lookup_insert_eq, if_neg hnew] at hfiled
      exact .inr ⟨by rw [← h.persistent]; exact hpersistent, hfiled⟩

/-- The store after the new heads are in memory and the old states are evicted. -/
lemma Entered.sound_evicted (h : Entered s t snapshot) (hs : s.Sound)
    {old : Option MaterializedWorldSnapshot} (hpublishable : Publishable s snapshot old)
    (hfresh : s.memory.referenced snapshot.id = false) :
    ((evicted s.limits s.memory snapshot).foldl evictUnreferencedSnapshot t).Sound := by
  obtain ⟨hprunes, hgone⟩ := foldl_evict_prunes (evicted s.limits s.memory snapshot) t
  refine ⟨hprunes.coherent (h.coherent hs hpublishable hfresh), fun id hstored => ?_⟩
  rw [hprunes.sameContents.referenced]
  rcases h.stored (hprunes.stored id hstored) with rfl | hbefore
  · rw [StoreMemory.referenced_iff]
    refine .inl ⟨snapshot.streamKey, ?_⟩
    rw [h.current, proposed, lookup_insert]
  · rcases h.referenced_or_evicted hs (hs.referenced id hbefore) with href | hevicted
    · exact href
    · exact hgone id hevicted hstored

end Entered

/-- What a step that raises leaves as it was. -/
structure Unchanged (s s' : WorldStateStore) : Prop where
  contents : s'.memory.SameContents s.memory
  index : s'.disk.index = s.disk.index

theorem Reads.unchanged (h : Reads s s') : Unchanged s s' :=
  ⟨h.sameContents, by rw [h.disk]⟩

/-- The file of a new snapshot is written and taken away again. -/
lemma withdrawn_sound (hs : s.Sound) (hfresh : s.memory.referenced snapshot.id = false)
    (hpersistent : s.persistent = true) :
    Sound { s with disk := { s.disk with
      files := (s.disk.files.insert snapshot.id snapshot).erase snapshot.id } } ∧
    ∀ held, s.Holds held → Holds { s with disk := { s.disk with
      files := (s.disk.files.insert snapshot.id snapshot).erase snapshot.id } } held := by
  have hfiles : ∀ id, ((s.disk.files.insert snapshot.id snapshot).erase snapshot.id).lookup id =
      s.disk.files.lookup id := by
    intro id
    rw [Dict.lookup_erase_eq, Dict.lookup_insert_eq]
    by_cases hid : id = snapshot.id
    · rw [if_pos hid, hid]
      cases hlookup : s.disk.files.lookup snapshot.id with
      | none => rfl
      | some held =>
        have hstored := hs.referenced snapshot.id (.inr ⟨hpersistent, by rw [hlookup]; rfl⟩)
        rw [hfresh] at hstored
        cases hstored
    · rw [if_neg hid, if_neg hid]
  have hholds : ∀ held, s.Holds held → Holds { s with disk := { s.disk with
      files := (s.disk.files.insert snapshot.id snapshot).erase snapshot.id } } held :=
    fun held hheld => hheld.congr rfl rfl (hfiles _)
  refine ⟨⟨hs.toCoherent.congr rfl rfl (.refl _) rfl fun held hheld _ => hholds held hheld,
    fun id hstored => hs.referenced id ?_⟩, hholds⟩
  rcases hstored with hcached | ⟨hon, hfiled⟩
  · exact .inl hcached
  · exact .inr ⟨hon, by rwa [hfiles] at hfiled⟩

section Keeps

variable {α β : Type}

/-- The call keeps the invariant and the snapshots that are still referred to, moves the heads as
given, and where it raises it leaves everything as it was. -/
structure Keeps (x : StoreCall α) (s : WorldStateStore) (heads : Dict StreamKey Canon) : Prop where
  sound : (x.on s).2.Sound
  raising : ∀ e, (x.on s).1 = .error e → Unchanged s (x.on s).2
  heads : ∀ a, (x.on s).1 = .ok a → (x.on s).2.memory.current.Same heads
  holds : ∀ held, s.Holds held → (x.on s).2.memory.referenced held.id = true → (x.on s).2.Holds held

variable {x : StoreCall α} {heads : Dict StreamKey Canon}

theorem Keeps.of_error {e : WorldStateError}
    (heq : x.on s = (.error e, s')) (hs : s'.Sound) (hunchanged : Unchanged s s')
    (hholds : ∀ held, s.Holds held → s'.Holds held) : Keeps x s heads where
  sound := by rwa [heq]
  raising := by
    rw [heq]
    exact fun _ _ => hunchanged
  heads := by
    rw [heq]
    exact nofun
  holds := by
    rw [heq]
    exact fun held hheld _ => hholds held hheld

theorem Keeps.congr {y : StoreCall α} (h : Keeps x s heads)
    (heq : y.on s = x.on s) : Keeps y s heads :=
  ⟨by rw [heq]; exact h.sound, by rw [heq]; exact h.raising, by rw [heq]; exact h.heads,
    by rw [heq]; exact h.holds⟩

theorem Keeps.of_ok {a : α}
    (heq : x.on s = (.ok a, s')) (hs : s'.Sound) (hheads : s'.memory.current.Same heads)
    (hholds : ∀ held, s.Holds held → s'.memory.referenced held.id = true → s'.Holds held) :
    Keeps x s heads where
  sound := by rwa [heq]
  raising := by
    rw [heq]
    exact nofun
  heads := by
    rw [heq]
    exact fun _ _ => hheads
  holds := by
    rw [heq]
    exact hholds

theorem Reads.keeps (h : Reads s (x.on s).2) (hs : s.Sound) : Keeps x s s.memory.current where
  sound := h.sound hs
  raising := fun _ _ => h.unchanged
  heads := fun _ _ => h.sameContents.current
  holds := fun held hheld _ => h.holds held hheld

theorem Reads.keeps_bind {f : α → StoreCall β} (h : Reads s (x.on s).2) (hs : s.Sound)
    (hf : ∀ a t, x.on s = (.ok a, t) → Reads s t → t.Sound → Keeps (f a) t heads) :
    Keeps (x >>= f) s heads := by
  rcases hx : x.on s with ⟨e | a, t⟩
  · rw [hx] at h
    exact .of_error (on_bind_of_error hx) (h.sound hs) h.unchanged h.holds
  · rw [hx] at h
    have hlast := hf a t hx h (h.sound hs)
    have heq := on_bind_of_ok (f := f) hx
    refine ⟨?_, fun e he => ?_, ?_, fun held hheld => ?_⟩
    · rw [heq]
      exact hlast.sound
    · rw [heq] at he ⊢
      have hraised := hlast.raising e he
      exact ⟨hraised.contents.trans h.sameContents, hraised.index.trans (by rw [h.disk])⟩
    · rw [heq]
      exact hlast.heads
    · rw [heq]
      exact hlast.holds held (h.holds held hheld)

/-- A call whose answer is put in another form. -/
theorem Keeps.map (h : Keeps x s heads) (f : α → β) : Keeps (f <$> x) s heads := by
  have hon := on_map f x s
  refine ⟨?_, fun e he => ?_, fun b hb => ?_, ?_⟩
  · rw [hon]
    exact h.sound
  · rw [hon] at he ⊢
    refine h.raising e ?_
    cases hx : (x.on s).1 with
    | error e' => simpa [hx, Except.map] using he
    | ok a => simp [hx, Except.map] at he
  · rw [hon] at hb ⊢
    cases hx : (x.on s).1 with
    | error e => simp [hx, Except.map] at hb
    | ok a => exact h.heads a hx
  · rw [hon]
    exact h.holds

end Keeps

/-- Eviction keeps what is still referred to. -/
lemma Entered.holds_evicted {t : WorldStateStore} (h : Entered s t snapshot) (hs : s.Sound)
    (hfresh : s.memory.referenced snapshot.id = false) {held : MaterializedWorldSnapshot}
    (hheld : s.Holds held)
    (href : ((evicted s.limits s.memory snapshot).foldl
      evictUnreferencedSnapshot t).memory.referenced held.id = true) :
    ((evicted s.limits s.memory snapshot).foldl evictUnreferencedSnapshot t).Holds held := by
  have hprunes := (foldl_evict_prunes (evicted s.limits s.memory snapshot) t).1
  rw [hprunes.sameContents.referenced] at href
  refine hprunes.holds (h.holds_other hheld ?_) href
  intro heq
  have hstored := hs.referenced _ hheld.stored
  rw [heq, hfresh] at hstored
  cases hstored

/-- What the replacements of a publication can leave: nothing new, a file that was taken away
again, or the new heads with the old states evicted. -/
theorem commitPublication_cases (faults : StoreFaults) (snapshot : MaterializedWorldSnapshot)
    (s : WorldStateStore) :
    (commitPublication faults snapshot).on s = (.error .os, s) ∨
      (s.persistent = true ∧ (commitPublication faults snapshot).on s =
        (.error .os, { s with disk := { s.disk with
          files := (s.disk.files.insert snapshot.id snapshot).erase snapshot.id } })) ∨
      ∃ t, Entered s t snapshot ∧ (commitPublication faults snapshot).on s =
        (.ok (), (evicted s.limits s.memory snapshot).foldl evictUnreferencedSnapshot t) := by
  simp only [on, commitPublication]
  by_cases hpersistent : s.persistent = true
  · rw [if_pos hpersistent]
    cases faults.snapshot with
    | true => exact .inl rfl
    | false =>
      cases faults.index with
      | true => exact .inr (.inl ⟨hpersistent, rfl⟩)
      | false =>
        refine .inr (.inr ⟨_, ?_, rfl⟩)
        exact ⟨rfl, rfl, rfl, rfl, rfl, rfl, rfl, rfl, fun _ => rfl, fun _ => rfl⟩
  · rw [if_neg hpersistent]
    refine .inr (.inr ⟨_, ?_, rfl⟩)
    exact ⟨rfl, rfl, rfl, rfl, rfl, rfl, rfl, rfl, fun h => absurd h hpersistent,
      fun h => absurd h hpersistent⟩

/-- The replacements of a publication that passed its checks and takes no identifier in use. -/
lemma commitPublication_keeps (hs : s.Sound) {old : Option MaterializedWorldSnapshot}
    (hpublishable : Publishable s snapshot old)
    (hfresh : s.memory.referenced snapshot.id = false) (faults : StoreFaults) :
    Keeps (commitPublication faults snapshot) s
      (s.memory.current.insert snapshot.streamKey snapshot.id) := by
  rcases commitPublication_cases faults snapshot s with heq | ⟨hpersistent, heq⟩ |
    ⟨t, hentered, heq⟩
  · exact .of_error heq hs ⟨.refl _, rfl⟩ fun _ hheld => hheld
  · obtain ⟨hsound, hholds⟩ := withdrawn_sound hs hfresh hpersistent
    exact .of_error heq hsound ⟨.refl _, rfl⟩ hholds
  · refine .of_ok heq (hentered.sound_evicted hs hpublishable hfresh) ?_
      fun _ => hentered.holds_evicted hs hfresh
    intro key
    rw [((foldl_evict_prunes (evicted s.limits s.memory snapshot) t).1).current, hentered.current]
    rfl

theorem publish_keeps (hs : s.Sound) (faults : StoreFaults)
    (hspared : ((checkPublication snapshot).on s).1 = .ok () →
      s.memory.referenced snapshot.id = false) :
    Keeps (publish faults snapshot) s
      (s.memory.current.insert snapshot.streamKey snapshot.id) := by
  refine (checkPublication_reads snapshot s).keeps_bind hs ?_
  intro _ t hcheck hreads ht
  obtain ⟨old, hpublishable⟩ := checkPublication_eq_ok hcheck
  have hfresh : t.memory.referenced snapshot.id = false := by
    rw [hreads.sameContents.referenced]
    exact hspared (by rw [hcheck])
  have hhead : ((current snapshot.streamKey).on t).1 = .ok old := by
    obtain ⟨snapshots, hwindow⟩ := hs.window snapshot.streamKey
    rw [(hreads.window hwindow).current_eq, ← hwindow.current_eq]
    exact hpublishable.head
  have hcommit := commitPublication_keeps ht
    ⟨hpublishable.valid, hhead, hpublishable.follows⟩ hfresh faults
  rw [hreads.current] at hcommit
  exact hcommit.map fun _ => snapshot

variable {id : Canon}

/-- What is referred to is kept. -/
theorem Coherent.held_of_referenced (hs : s.Coherent)
    (h : s.memory.referenced id = true) : ∃ held, s.Holds held ∧ held.id = id := by
  have hhistory : ∀ key, id ∈ (s.memory.history.lookup key).getD [] →
      ∃ held, s.Holds held ∧ held.id = id := by
    intro key hmem
    obtain ⟨snapshots, hwindow⟩ := hs.window key
    rw [hwindow.history, mem_map] at hmem
    obtain ⟨held, hheld, hid⟩ := hmem
    exact ⟨held, (hwindow.held held hheld).1, hid⟩
  rcases StoreMemory.referenced_iff.mp h with ⟨key, hcurrent⟩ | ⟨key, hmem⟩ |
    ⟨owner, item, hitem, rfl⟩
  · obtain ⟨snapshots, hwindow⟩ := hs.window key
    rw [hwindow.current, Option.map_eq_some_iff] at hcurrent
    obtain ⟨last, hlast, rfl⟩ := hcurrent
    exact ⟨last, (hwindow.held last (mem_of_getLast? hlast)).1, rfl⟩
  · exact hhistory key hmem
  · obtain ⟨-, held, hheld, hpins⟩ := hs.retained owner item hitem
    exact ⟨held, hheld, pins_id hpins⟩

lemma stored_of_get {found : MaterializedWorldSnapshot}
    (h : ((get id).on s).1 = .ok (some found)) : s.Stored id := by
  simp only [on, get] at h
  cases hcached : s.memory.snapshots.lookup id with
  | some cached => exact .inl (by rw [hcached]; rfl)
  | none =>
    simp only [hcached] at h
    by_cases hpersistent : s.persistent = true
    · cases hfile : s.disk.files.lookup id with
      | some filed => exact .inr ⟨hpersistent, by rw [hfile]; rfl⟩
      | none => simp [hpersistent, hfile] at h
    · simp [hpersistent] at h

/-- A snapshot that is read is kept. -/
lemma Sound.holds_of_get (hs : s.Sound) {found : MaterializedWorldSnapshot}
    (h : ((get id).on s).1 = .ok (some found)) : s.Holds found ∧ found.id = id := by
  obtain ⟨held, hheld, rfl⟩ := hs.held_of_referenced (hs.referenced id (stored_of_get h))
  rw [get_of_holds hheld, Except.ok.injEq, Option.some.injEq] at h
  subst h
  exact ⟨hheld, rfl⟩

theorem requireRetainedSnapshot_eq_ok (hs : s.Sound) {item : RetainedWorldState}
    (h : ((requireRetainedSnapshot item).on s).1 = .ok ()) :
    ∃ held, s.Holds held ∧ item.pins held = true := by
  unfold requireRetainedSnapshot at h
  rw [on_bind] at h
  rcases hget : (get item.stateId).on s with ⟨e | found, s'⟩
  · simp [hget] at h
  · simp only [hget, on_query, rejectIf_eq_ok] at h
    cases found with
    | none => simp at h
    | some found =>
      have hheld := (hs.holds_of_get (by rw [hget] : ((get item.stateId).on s).1 = _)).1
      exact ⟨found, hheld, by simpa using h⟩

lemma persistIndex_eq_ok {faults : StoreFaults} {m : StoreMemory}
    (h : persistIndex faults m s = .ok s') : s' = { s with
      memory := m
      disk := ⟨if s.persistent then some m.indexPayload else s.disk.index, s.disk.files⟩ } := by
  unfold persistIndex at h
  by_cases hpersistent : s.persistent = true
  · rw [if_pos hpersistent] at h ⊢
    cases hfault : faults.index with
    | true => simp [hfault] at h
    | false =>
      simp only [hfault, Bool.false_eq_true, if_false, Except.ok.injEq] at h
      exact h.symm
  · rw [if_neg hpersistent, Except.ok.injEq] at h
    rw [← h, if_neg hpersistent]

/-- A memory with other retained states and records is persisted. -/
theorem Sound.persisted (hs : s.Sound) {faults : StoreFaults} {m : StoreMemory}
    (h : persistIndex faults m s = .ok s') (hsnapshots : m.snapshots = s.memory.snapshots)
    (hcurrent : m.current = s.memory.current) (hhistory : m.history = s.memory.history)
    (hretained : ∀ owner item, m.retained.lookup owner = some item → item.ownerId = owner ∧
      m.retentionSchema = true ∧ ∃ held, s.Holds held ∧ item.pins held = true)
    (hretainedSize : m.retained.size ≤ s.limits.maxRetainedStates)
    (hrecords : ∀ id record, m.activeCognition.lookup id = some record →
      record.recordId = id ∧ id ≠ "" ∧ record.recordSha256 = record.computedHash)
    (hrecordsSize : m.activeCognition.size ≤ s.limits.maxActiveCognitionRecords) :
    s'.Coherent ∧ s'.memory = m ∧ (∀ id, s'.Stored id → s.Stored id) ∧
      ∀ held, s.Holds held → s'.Holds held := by
  have hheld : ∀ held, s.Holds held → s'.Holds held := by
    intro held hheld
    rw [persistIndex_eq_ok h]
    refine hheld.congr rfl ?_ rfl
    rw [hsnapshots]
  rw [persistIndex_eq_ok h] at hheld ⊢
  refine ⟨⟨fun key => ?_, ?_, ?_, hretainedSize, hrecords, hrecordsSize, ?_⟩, rfl, ?_, hheld⟩
  · obtain ⟨snapshots, hwindow⟩ := hs.window key
    refine ⟨snapshots, hwindow.congr rfl ?_ ?_ fun held hmem =>
      hheld held (hwindow.held held hmem).1⟩
    · rw [hcurrent]
    · rw [hhistory]
  · intro owner item hitem
    obtain ⟨howner, -, held, hkept, hpins⟩ := hretained owner item hitem
    exact ⟨howner, held, hheld held hkept, hpins⟩
  · intro owner item hitem
    exact (hretained owner item hitem).2.1
  · intro hpersistent
    replace hpersistent : s.persistent = true := hpersistent
    exact .inl (if_pos hpersistent)
  · rintro id (hcached | hfiled)
    · rw [hsnapshots] at hcached
      exact .inl hcached
    · exact .inr hfiled

end WorldStateStore

end Tiangong
