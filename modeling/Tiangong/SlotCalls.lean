import Tiangong.SlotDiscipline

/-!
# What the calls of a saga know

The store keeps one marker and one result for each slot and loses neither. What a call has learnt of
them is so whatever the other calls do.
-/
open List

namespace Tiangong.Response

namespace SagaStore

variable {s s' : SagaStore}

lemma putOnce_eq_ok {ρ κ : Type} {key : ρ → κ} [DecidableEq ρ] [DecidableEq κ] {what : String}
    {taken : ρ → Bool} {r : ρ} {t t' : Table key} {new : Bool}
    (h : putOnce what taken r t = .ok (new, t')) :
    (new = false ∧ t' = t ∧ r ∈ t.rows) ∨
      (new = true ∧ t.Inserts r t' ∧ ∀ r' ∈ t.rows, taken r' = false) := by
  unfold putOnce at h
  split at h
  · next existing hfind =>
    simp only [eq_pair_iff, not_not] at h
    obtain ⟨rfl, rfl, rfl⟩ := h
    exact .inl ⟨rfl, rfl, Table.mem_of_find hfind⟩
  · simp only [eq_pair_iff, Table.insert_eq_ok] at h
    obtain ⟨hfree, t₁, hinsert, rfl, rfl⟩ := h
    refine .inr ⟨rfl, hinsert, fun r' hr' => ?_⟩
    exact Bool.eq_false_iff.mpr fun htaken => hfree ⟨r', hr', htaken⟩

lemma createDispatchMarker_eq_ok {m : DispatchMarker} {new : Bool}
    (h : s.createDispatchMarker m = .ok (new, s')) :
    (new = false ∧ s' = s) ∨ (new = true ∧ s.markers.Inserts m s'.markers ∧
      s'.results = s.results ∧ ∀ m' ∈ s.markers.rows, m'.key ≠ m.key) := by
  unfold createDispatchMarker at h
  split at h
  · obtain ⟨rfl, rfl⟩ := Prod.mk.inj (pure_eq_ok.mp h)
    exact .inl ⟨rfl, rfl⟩
  · next hfree =>
    simp only [eq_pair_iff, Table.insert_eq_ok] at h
    obtain ⟨markers, hinsert, rfl, rfl⟩ := h
    refine .inr ⟨rfl, hinsert, rfl, fun m' hm' heq => hfree ⟨m', hm', .inr ?_⟩⟩
    exact Prod.mk.inj heq

lemma markDispatchMarkerDispatched_eq_ok {markerId : Canon} {nowMs : ℕ} {marked : Bool}
    (h : s.markDispatchMarkerDispatched markerId nowMs = .ok (marked, s')) :
    s'.results = s.results ∧ s'.markers =
      s.markers.update (fun m => m.markerId = markerId && m.status = .pending)
        (DispatchMarker.dispatch nowMs) (DispatchMarker.dispatch_markerId nowMs) := by
  simp only [markDispatchMarkerDispatched, eq_pair_iff] at h
  obtain ⟨-, -, rfl⟩ := h
  exact ⟨rfl, rfl⟩

lemma putModelAttemptResult_eq_ok {result : ModelAttemptResult} {new : Bool}
    (h : s.putModelAttemptResult result = .ok (new, s')) : s'.markers = s.markers ∧
      ((s' = s ∧ result ∈ s.results.rows) ∨ (s.results.Inserts result s'.results ∧
        ∀ r ∈ s.results.rows, r.key ≠ result.key)) := by
  simp only [putModelAttemptResult, eq_pair_iff, Prod.exists] at h
  obtain ⟨new', results, hput, rfl, rfl⟩ := h
  rcases putOnce_eq_ok hput with ⟨-, rfl, hmem⟩ | ⟨-, hinsert, hfree⟩
  · exact ⟨rfl, .inl ⟨rfl, hmem⟩⟩
  · refine ⟨rfl, .inr ⟨hinsert, fun r hr heq => ?_⟩⟩
    obtain ⟨hplan, hslot⟩ := Prod.mk.inj heq
    simpa [hplan, hslot] using hfree r hr

/-- Nothing is lost: a marker keeps its slot and stays dispatched, and a result stays. -/
structure Grows (s s' : SagaStore) : Prop where
  markers : ∀ m ∈ s.markers.rows, ∃ m' ∈ s'.markers.rows, m'.markerId = m.markerId ∧
    m'.key = m.key ∧ (m.status = .dispatched → m'.status = .dispatched)
  results : ∀ r ∈ s.results.rows, r ∈ s'.results.rows

theorem Grows.refl (s : SagaStore) : s.Grows s :=
  ⟨fun m hm => ⟨m, hm, rfl, rfl, id⟩, fun _ hr => hr⟩

/-- One marker and one result for each slot. -/
structure OneEach (s : SagaStore) : Prop where
  markers : s.markers.Unique DispatchMarker.key
  results : s.results.Unique ModelAttemptResult.key

theorem oneEach_empty : empty.OneEach := ⟨Table.unique_empty, Table.unique_empty⟩

/-- Neither a marker nor a result changes. -/
structure Apart (s s' : SagaStore) : Prop where
  markers : s'.markers = s.markers
  results : s'.results = s.results

theorem Apart.grows (h : s.Apart s') : s.Grows s' := by
  refine ⟨fun m hm => ⟨m, ?_, rfl, rfl, id⟩, fun r hr => ?_⟩
  · rwa [h.markers]
  · rwa [h.results]

theorem Apart.oneEach (h : s.Apart s') (hs : s.OneEach) : s'.OneEach :=
  ⟨h.markers ▸ hs.markers, h.results ▸ hs.results⟩

lemma on_transaction_fst {α : Type} {P : SagaStore → Prop}
    {f : SagaStore → Except SagaFault (α × SagaStore)} (hs : P s)
    (hf : ∀ a s', f s = .ok (a, s') → P s') : P ((Call.transaction f).on s).2 := by
  cases hr : f s with
  | error e => rwa [Call.on_transaction_of_error hr]
  | ok pair =>
    rw [Call.on_transaction_of_ok (show f s = .ok (pair.1, pair.2) from hr)]
    exact hf pair.1 pair.2 hr

/-- An action about neither a result nor a marker changes neither. -/
lemma answer_apart {outside : SagaOutside} {a : SagaAction} (h : a.plain = true) :
    s.Apart ((answer outside a).on s).2 := by
  cases a with
  | now => exact ⟨rfl, rfl⟩
  | getHead effectId => exact ⟨rfl, rfl⟩
  | commitLife stage => exact ⟨rfl, rfl⟩
  | putPlan plan =>
    refine on_transaction_fst ⟨rfl, rfl⟩ fun b s' hok => ?_
    simp only [putModelAttemptPlan, eq_pair_iff, Prod.exists] at hok
    obtain ⟨-, -, new, plans, -, -, rfl⟩ := hok
    exact ⟨rfl, rfl⟩
  | putOutcome outcome =>
    refine on_transaction_fst ⟨rfl, rfl⟩ fun b s' hok => ?_
    simp only [putModelAttemptPlanOutcome, eq_pair_iff, Prod.exists] at hok
    obtain ⟨new, outcomes, -, -, rfl⟩ := hok
    exact ⟨rfl, rfl⟩
  | putHead head expected =>
    refine on_transaction_fst ⟨rfl, rfl⟩ fun b s' hok => ?_
    unfold putEffectOutcomeHead at hok
    split at hok
    · simp only [eq_ok_iff] at hok
      obtain ⟨-, hok⟩ := hok
      split at hok
      · obtain ⟨-, rfl⟩ := Prod.mk.inj (pure_eq_ok.mp hok)
        exact ⟨rfl, rfl⟩
      · obtain ⟨-, rfl⟩ := Prod.mk.inj (pure_eq_ok.mp hok)
        exact ⟨rfl, rfl⟩
    · simp only [eq_pair_iff] at hok
      obtain ⟨-, -, heads, -, -, rfl⟩ := hok
      exact ⟨rfl, rfl⟩
  | putCommit commit =>
    refine on_transaction_fst ⟨rfl, rfl⟩ fun b s' hok => ?_
    simp only [putAssistantCommit, eq_pair_iff, Prod.exists] at hok
    obtain ⟨new, commits, -, -, rfl⟩ := hok
    exact ⟨rfl, rfl⟩
  | putStatus status =>
    refine on_transaction_fst ⟨rfl, rfl⟩ fun b s' hok => ?_
    simp only [putSystemStatus, eq_pair_iff, Prod.exists] at hok
    obtain ⟨new, statuses, -, -, rfl⟩ := hok
    exact ⟨rfl, rfl⟩
  | getResult planId slotNo => cases h
  | getMarker planId slotNo => cases h
  | createMarker marker => cases h
  | markDispatched markerId nowMs => cases h
  | transport request => cases h
  | putResult result => cases h

lemma mem_marked {s s' : SagaStore} {markerId : Canon} {nowMs : ℕ} {marked : Bool}
    (h : s.markDispatchMarkerDispatched markerId nowMs = .ok (marked, s')) {m : DispatchMarker}
    (hm : m ∈ s.markers.rows) : ∃ m' ∈ s'.markers.rows, m'.markerId = m.markerId ∧ m'.key = m.key ∧
      (m.status = .dispatched ∨ m.markerId = markerId → m'.status = .dispatched) := by
  rw [(markDispatchMarkerDispatched_eq_ok h).2]
  by_cases hsel : m.markerId = markerId ∧ m.status = .pending
  · exact ⟨m.dispatch nowMs, Table.mem_update.mpr ⟨m, hm, by simp [hsel.1, hsel.2]⟩, rfl, rfl,
      fun _ => rfl⟩
  · refine ⟨m, Table.mem_update.mpr ⟨m, hm, by simp_all⟩, rfl, rfl, ?_⟩
    rintro (hdispatched | heq)
    · exact hdispatched
    · cases hstatus : m.status with
      | dispatched => rfl
      | pending => exact absurd ⟨heq, hstatus⟩ hsel

/-- Every action keeps what is there, and one marker and one result for each slot. -/
theorem answer_grows (outside : SagaOutside) (a : SagaAction) (hs : s.OneEach) :
    s.Grows ((answer outside a).on s).2 ∧ ((answer outside a).on s).2.OneEach := by
  cases hplain : a.plain with
  | true => exact ⟨(answer_apart hplain).grows, (answer_apart hplain).oneEach hs⟩
  | false =>
    cases a with
    | getResult planId slotNo => exact ⟨.refl s, hs⟩
    | getMarker planId slotNo => exact ⟨.refl s, hs⟩
    | transport request => exact ⟨.refl s, hs⟩
    | createMarker m =>
      refine on_transaction_fst (P := fun s' => s.Grows s' ∧ s'.OneEach) ⟨.refl s, hs⟩
        fun new s' hok => ?_
      rcases createDispatchMarker_eq_ok hok with ⟨-, rfl⟩ | ⟨-, hinsert, hresults, hfree⟩
      · exact ⟨.refl _, hs⟩
      · refine ⟨⟨fun m' hm' => ⟨m', ?_, rfl, rfl, id⟩, fun r hr => hresults ▸ hr⟩,
          hs.markers.insert hinsert hfree, hresults ▸ hs.results⟩
        rw [hinsert.rows]
        exact mem_append_left _ hm'
    | markDispatched markerId nowMs =>
      refine on_transaction_fst (P := fun s' => s.Grows s' ∧ s'.OneEach) ⟨.refl s, hs⟩
        fun marked s' hok => ?_
      obtain ⟨hresults, hmarkers⟩ := markDispatchMarkerDispatched_eq_ok hok
      refine ⟨⟨fun m hm => ?_, fun r hr => hresults ▸ hr⟩, ?_, hresults ▸ hs.results⟩
      · obtain ⟨m', hm', hid, hkey, hstatus⟩ := mem_marked hok hm
        exact ⟨m', hm', hid, hkey, fun h => hstatus (.inl h)⟩
      · rw [hmarkers]
        exact hs.markers.update (DispatchMarker.dispatch_key nowMs)
    | putResult result =>
      refine on_transaction_fst (P := fun s' => s.Grows s' ∧ s'.OneEach) ⟨.refl s, hs⟩
        fun new s' hok => ?_
      obtain ⟨hmarkers, ⟨rfl, -⟩ | ⟨hinsert, hfree⟩⟩ := putModelAttemptResult_eq_ok hok
      · exact ⟨.refl _, hs⟩
      · refine ⟨⟨fun m hm => ⟨m, hmarkers ▸ hm, rfl, rfl, id⟩, fun r hr => ?_⟩,
          hmarkers ▸ hs.markers, hs.results.insert hinsert hfree⟩
        rw [hinsert.rows]
        exact mem_append_left _ hr
    | now | getHead effectId | commitLife stage | putPlan plan | putOutcome outcome
    | putHead head expected | putCommit commit | putStatus status => cases hplain

def SlotDispatched (s : SagaStore) (key : SlotKey) : Prop :=
  ∃ m ∈ s.markers.rows, m.key = key ∧ m.status = .dispatched

theorem SlotDispatched.grows {key : SlotKey} (h : s.SlotDispatched key) (hgrows : s.Grows s') :
    s'.SlotDispatched key := by
  obtain ⟨m, hm, hkey, hstatus⟩ := h
  obtain ⟨m', hm', -, hkey', hstatus'⟩ := hgrows.markers m hm
  exact ⟨m', hm', hkey'.trans hkey, hstatus' hstatus⟩

end SagaStore

/-- What a call knows is so. -/
structure SagaPhase.Holds (p : SagaPhase) (s : SagaStore) : Prop where
  held : ∀ key markerId, p.held = some (key, markerId) →
    ∃ m ∈ s.markers.rows, m.markerId = markerId ∧ m.key = key
  marked : ∀ key, p.marked = some key → s.SlotDispatched key
  failed : ∀ key ∈ p.failed, ∃ r ∈ s.results.rows, r.key = key ∧ r.status ≠ .succeeded

namespace SagaPhase

variable {p : SagaPhase} {s s' : SagaStore}

theorem holds_first (s : SagaStore) : first.Holds s where
  held key markerId h := by cases h
  marked key h := by cases h
  failed key h := by cases h

theorem Holds.grows (h : p.Holds s) (hgrows : s.Grows s') : p.Holds s' := by
  refine ⟨fun key markerId hheld => ?_, fun key hmarked => (h.marked key hmarked).grows hgrows,
    fun key hkey => ?_⟩
  · obtain ⟨m, hm, hid, hkey⟩ := h.held key markerId hheld
    obtain ⟨m', hm', hid', hkey', -⟩ := hgrows.markers m hm
    exact ⟨m', hm', hid'.trans hid, hkey'.trans hkey⟩
  · obtain ⟨r, hr, hrest⟩ := h.failed key hkey
    exact ⟨r, hgrows.results r hr, hrest⟩

theorem Holds.seen (h : p.Holds s) {result : ModelAttemptResult} {key : SlotKey}
    (hr : result ∈ s.results.rows) (hkey : result.key = key) : (p.seen result key).Holds s := by
  refine ⟨by simpa using h.held, by simpa using h.marked, fun key' hkey' => ?_⟩
  rcases mem_seen.mp hkey' with ⟨hfailed, rfl⟩ | hold
  · exact ⟨result, hr, hkey, hfailed⟩
  · exact h.failed key' hold

theorem Holds.hold (h : p.Holds s) {m : DispatchMarker} {key : SlotKey}
    (hm : m ∈ s.markers.rows) (hkey : m.key = key) :
    ({ p with held := some (key, m.markerId) } : SagaPhase).Holds s := by
  refine ⟨fun key' markerId heq => ?_, h.marked, h.failed⟩
  cases heq
  exact ⟨m, hm, rfl, hkey⟩

theorem Holds.after {call : SagaCall} {outside : SagaOutside} {a : SagaAction} (h : p.Holds s)
    (hs : s.OneEach) (hallows : (slotDiscipline call).allows p a) :
    ((slotDiscipline call).after p a ((SagaStore.answer outside a).on s).1).Holds
      ((SagaStore.answer outside a).on s).2 := by
  have hnext := h.grows (SagaStore.answer_grows outside a hs).1
  cases a with
  | getResult planId slotNo =>
    cases hfound : s.getModelAttemptResult planId slotNo with
    | none => simpa [SagaStore.answer, slotDiscipline, hfound] using h
    | some result =>
      have hkey : result.key = (planId, slotNo) := by
        have hsel := List.find?_some hfound
        simp only [holds_iff] at hsel
        exact Prod.ext hsel.1 hsel.2
      have hseen := h.seen (mem_of_find?_eq_some hfound) hkey
      simpa [SagaStore.answer, slotDiscipline, hfound] using hseen
  | getMarker planId slotNo =>
    cases hfound : s.getDispatchMarker planId slotNo with
    | none => simpa [SagaStore.answer, slotDiscipline, hfound] using h
    | some m =>
      have hkey : m.key = (planId, slotNo) := by
        have hsel := List.find?_some hfound
        simp only [holds_iff] at hsel
        exact Prod.ext hsel.1 hsel.2
      have hhold := h.hold (mem_of_find?_eq_some hfound) hkey
      simpa [SagaStore.answer, slotDiscipline, hfound] using hhold
  | createMarker m =>
    cases hok : s.createDispatchMarker m with
    | error e => simpa [SagaStore.answer, Call.on_transaction_of_error hok, slotDiscipline] using h
    | ok pair =>
      obtain ⟨new, s'⟩ := pair
      simp only [SagaStore.answer, Call.on_transaction_of_ok hok] at hnext ⊢
      rcases SagaStore.createDispatchMarker_eq_ok hok with ⟨rfl, -⟩ | ⟨rfl, hinsert, -⟩
      · exact hnext
      · refine hnext.hold ?_ rfl
        rw [hinsert.rows]
        exact mem_append_right _ mem_cons_self
  | markDispatched markerId nowMs =>
    cases hok : s.markDispatchMarkerDispatched markerId nowMs with
    | error e => simpa [SagaStore.answer, Call.on_transaction_of_error hok, slotDiscipline] using h
    | ok pair =>
      obtain ⟨marked, s'⟩ := pair
      simp only [SagaStore.answer, Call.on_transaction_of_ok hok] at hnext ⊢
      obtain ⟨key, hheld⟩ := hallows
      obtain ⟨m, hm, hid, hkey⟩ := h.held key markerId hheld
      obtain ⟨m', hm', -, hkey', hstatus⟩ := SagaStore.mem_marked hok hm
      refine ⟨hnext.held, fun key' hmarked => ?_, hnext.failed⟩
      have heq : key' = key := by
        change p.held.map Prod.fst = some key' at hmarked
        rw [hheld] at hmarked
        exact (Option.some.inj hmarked).symm
      rw [heq]
      exact ⟨m', hm', hkey'.trans hkey, hstatus (.inr hid)⟩
  | transport request => exact ⟨h.held, (fun _ hmarked => by cases hmarked), h.failed⟩
  | putResult result =>
    cases hok : s.putModelAttemptResult result with
    | error e => simpa [SagaStore.answer, Call.on_transaction_of_error hok, slotDiscipline] using h
    | ok pair =>
      obtain ⟨new, s'⟩ := pair
      simp only [SagaStore.answer, Call.on_transaction_of_ok hok] at hnext ⊢
      refine hnext.seen ?_ rfl
      obtain ⟨-, ⟨rfl, hmem⟩ | ⟨hinsert, -⟩⟩ := SagaStore.putModelAttemptResult_eq_ok hok
      · exact hmem
      · rw [hinsert.rows]
        exact mem_append_right _ mem_cons_self
  | now | getHead effectId | commitLife stage | putPlan plan | putOutcome outcome
  | putHead head expected | putCommit commit | putStatus status => exact hnext

end SagaPhase

end Tiangong.Response
