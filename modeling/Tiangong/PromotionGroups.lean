import Mathlib.Tactic.ClearExcept
import Tiangong.MemoryPromotion

/-!
# Independence groups

The loops that fold derivations sort them by the classes that common roots connect. The groups of
derivations with roots do not depend on the order of the list; a derivation without roots is a group
of its own, and such groups come first, as they are listed.
-/
namespace Tiangong

open List MemoryDerivation Forest

namespace MemoryPromotion

section Buckets

variable {κ α : Type*} [DecidableEq κ] {f : α → κ} {xs : List α} {b : List (κ × List α)}

/-- The buckets hold what was sorted into them. -/
structure Bucketed (f : α → κ) (xs : List α) (b : List (κ × List α)) : Prop where
  keys_nodup : (b.map Prod.fst).Nodup
  members : ∀ k ms, (k, ms) ∈ b → ms = xs.filter (fun x => f x = k) ∧ ms ≠ []
  covers : ∀ x ∈ xs, ∃ ms, (f x, ms) ∈ b

lemma bucketed_nil : Bucketed f [] [] where
  keys_nodup := nodup_nil
  members k ms h := by cases h
  covers x h := by cases h

theorem Bucketed.mem_keys (h : Bucketed f xs b) {k : κ} :
    k ∈ b.map Prod.fst ↔ ∃ x ∈ xs, f x = k := by
  constructor
  · intro hmem
    obtain ⟨⟨k', ms⟩, hbucket, rfl⟩ := mem_map.mp hmem
    obtain ⟨hms, hne⟩ := h.members k' ms hbucket
    obtain ⟨x, hx⟩ := exists_mem_of_ne_nil ms hne
    rw [hms, mem_filter, decide_eq_true_eq] at hx
    exact ⟨x, hx⟩
  · rintro ⟨x, hx, rfl⟩
    obtain ⟨ms, hbucket⟩ := h.covers x hx
    exact mem_map.mpr ⟨_, hbucket, rfl⟩

theorem Bucketed.addTo (h : Bucketed f xs b) (x : α) :
    Bucketed f (xs ++ [x]) (addTo b (f x) x) := by
  unfold MemoryPromotion.addTo
  by_cases hkey : f x ∈ b.map Prod.fst
  · rw [if_pos hkey]
    refine ⟨?_, fun k ms hmem => ?_, fun y hy => ?_⟩
    · have hkeys : (b.map fun bucket =>
          if bucket.1 = f x then (f x, bucket.2 ++ [x]) else bucket).map Prod.fst =
            b.map Prod.fst := by
        rw [map_map]
        refine map_congr_left fun bucket _ => ?_
        show (if bucket.1 = f x then (f x, bucket.2 ++ [x]) else bucket).1 = bucket.1
        split
        · rename_i heq
          exact heq.symm
        · rfl
      rw [hkeys]
      exact h.keys_nodup
    · obtain ⟨⟨k', ms'⟩, hbucket, heq⟩ := mem_map.mp hmem
      obtain ⟨hms, hne⟩ := h.members k' ms' hbucket
      dsimp only at heq
      split at heq
      · rename_i hk
        obtain ⟨rfl, rfl⟩ := Prod.mk.inj heq
        subst hk
        refine ⟨?_, by simp⟩
        rw [filter_append, hms]
        simp
      · rename_i hk
        obtain ⟨rfl, rfl⟩ := Prod.mk.inj heq
        refine ⟨?_, hne⟩
        rw [filter_append, hms]
        simp [Ne.symm hk]
    · have hmem : f y ∈ b.map Prod.fst := by
        rcases mem_append.mp hy with hold | hnew
        · exact h.mem_keys.mpr ⟨y, hold, rfl⟩
        · rw [mem_singleton] at hnew
          rw [hnew]
          exact hkey
      obtain ⟨⟨k, ms⟩, hbucket, hk⟩ := mem_map.mp hmem
      subst hk
      by_cases hsame : f y = f x
      · exact ⟨ms ++ [x], mem_map.mpr ⟨_, hbucket, by simp [hsame]⟩⟩
      · exact ⟨ms, mem_map.mpr ⟨_, hbucket, if_neg hsame⟩⟩
  · rw [if_neg hkey]
    have hnone : xs.filter (fun y => f y = f x) = [] := by
      rw [filter_eq_nil_iff]
      intro y hy hfy
      exact hkey (h.mem_keys.mpr ⟨y, hy, of_decide_eq_true hfy⟩)
    refine ⟨?_, fun k ms hmem => ?_, fun y hy => ?_⟩
    · rw [map_append, nodup_append]
      refine ⟨h.keys_nodup, nodup_singleton _, fun k hk k' hk' => ?_⟩
      rw [map_singleton, mem_singleton] at hk'
      subst hk'
      rintro rfl
      exact hkey hk
    · rcases mem_append.mp hmem with hold | hnew
      · obtain ⟨hms, hne⟩ := h.members k ms hold
        have hk : f x ≠ k := by
          rintro rfl
          exact hkey (mem_map.mpr ⟨_, hold, rfl⟩)
        refine ⟨?_, hne⟩
        rw [filter_append, hms]
        simp [hk]
      · obtain ⟨rfl, rfl⟩ := Prod.mk.inj (mem_singleton.mp hnew)
        refine ⟨?_, by simp⟩
        rw [filter_append, hnone]
        simp
    · rcases mem_append.mp hy with hold | hnew
      · obtain ⟨ms, hbucket⟩ := h.covers y hold
        exact ⟨ms, mem_append_left _ hbucket⟩
      · rw [mem_singleton] at hnew
        subst hnew
        exact ⟨[y], by simp⟩

def bucketsOf (f : α → κ) (xs : List α) : List (κ × List α) :=
  xs.foldl (fun b x => addTo b (f x) x) []

lemma bucketsOf_concat (f : α → κ) (xs : List α) (x : α) :
    bucketsOf f (xs ++ [x]) = addTo (bucketsOf f xs) (f x) x := by
  rw [bucketsOf, foldl_append]
  rfl

theorem bucketsOf_bucketed (f : α → κ) (xs : List α) : Bucketed f xs (bucketsOf f xs) := by
  induction xs using List.reverseRecOn with
  | nil => exact bucketed_nil
  | append_singleton xs x ih =>
    rw [bucketsOf_concat]
    exact ih.addTo x

lemma bucketsOf_alone {alone : α → Bool}
    (halone : ∀ y ∈ xs, ∀ z ∈ xs, alone y = true → f z = f y → z = y) (hnodup : xs.Nodup) :
    ((bucketsOf f xs).filter fun bucket => bucket.2.any alone).map Prod.snd =
      (xs.filter alone).map fun x => [x] := by
  induction xs using List.reverseRecOn with
  | nil => rfl
  | append_singleton xs x ih =>
    have hprefix : ∀ y ∈ xs, ∀ z ∈ xs, alone y = true → f z = f y → z = y := fun y hy z hz =>
      halone y (by simp [hy]) z (by simp [hz])
    obtain ⟨hxs, -, hdisjoint⟩ := nodup_append.mp hnodup
    have hx : x ∉ xs := fun hmem => hdisjoint x hmem x (by simp) rfl
    specialize ih hprefix hxs
    have hbucketed := bucketsOf_bucketed f xs
    rw [bucketsOf_concat, filter_append, map_append, ← ih]
    generalize bucketsOf f xs = b at hbucketed
    unfold addTo
    by_cases hkey : f x ∈ b.map Prod.fst
    · rw [if_pos hkey]
      obtain ⟨y, hy, hfy⟩ := hbucketed.mem_keys.mp hkey
      have hnot : alone x = false := by
        rw [← Bool.not_eq_true]
        intro hax
        have heq := halone x (by simp) y (by simp [hy]) hax hfy
        exact hx (heq ▸ hy)
      -- nobody in the bucket of `x` is alone
      have hquiet : ∀ k ms, (k, ms) ∈ b → k = f x → ms.any alone = false := by
        rintro k ms hmem rfl
        rw [(hbucketed.members _ ms hmem).1, any_eq_false]
        intro z hz haz
        obtain ⟨hzs, hfz⟩ := mem_filter.mp hz
        have heq := halone z (by simp [hzs]) x (by simp) haz (of_decide_eq_true hfz).symm
        exact hx (heq ▸ hzs)
      have hnone : [x].filter alone = [] := by simp [hnot]
      rw [hnone, map_nil, append_nil]
      clear * - hquiet hnot
      induction b with
      | nil => rfl
      | cons bucket b ih =>
        obtain ⟨k, ms⟩ := bucket
        have hrest := ih fun k ms hmem => hquiet k ms (mem_cons_of_mem _ hmem)
        rw [map_cons]
        by_cases hk : k = f x
        · have hms := hquiet k ms mem_cons_self hk
          rw [if_pos hk, filter_cons_of_neg (by simp [hms, hnot]),
            filter_cons_of_neg (by simp [hms])]
          exact hrest
        · rw [if_neg hk, filter_cons, filter_cons]
          split
          · rw [map_cons, map_cons, hrest]
          · exact hrest
    · rw [if_neg hkey, filter_append, map_append]
      congr 1
      cases hax : alone x <;> simp [hax]

end Buckets

/-- The loop sorts the positions by their roots in the forest it started with. -/
lemma fillBuckets_eq {n : ℕ} {parent : ℕ → ℕ} (hrooted : Forest.Rooted n parent)
    {positions : List ℕ} (hpositions : ∀ i ∈ positions, i < n) :
    (fillBuckets n positions parent).2 =
      bucketsOf (fun i => (find n parent i).1) positions := by
  suffices hall : ∀ parent' b, Forest.Rooted n parent' →
      (∀ i < n, ∀ r, Forest.RootOf parent' i r ↔ Forest.RootOf parent i r) →
      (positions.foldl (fun state position =>
        ((find n state.1 position).2,
          addTo state.2 (find n state.1 position).1 position)) (parent', b)).2 =
      positions.foldl (fun b i => addTo b (find n parent i).1 i) b by
    exact hall parent [] hrooted fun _ _ _ => Iff.rfl
  induction positions with
  | nil => exact fun _ _ _ _ => rfl
  | cons i positions ih =>
    intro parent' b hrooted' hsame
    have hi := hpositions i mem_cons_self
    obtain ⟨hroot', hrooted'', hsame'⟩ := find_found hrooted' hi le_rfl
    obtain ⟨hroot, -, -⟩ := find_found hrooted hi le_rfl
    rw [hsame i hi] at hroot'
    rw [foldl_cons, foldl_cons, hroot'.unique hroot]
    exact ih (fun j hj => hpositions j (mem_cons_of_mem _ hj)) _ _ hrooted''
      fun j hj r => (hsame' j hj r).trans (hsame j hj r)

section Classes

variable {D D' : List MemoryDerivation} {d d' m : MemoryDerivation} {i j : ℕ}

/-- Common roots connect two derivations of a list. -/
def Linked (D : List MemoryDerivation) : MemoryDerivation → MemoryDerivation → Prop :=
  Relation.EqvGen fun d d' => d ∈ D ∧ d' ∈ D ∧ d.sharesRoot d' = true

lemma mem_rootPairs : (i, j) ∈ rootPairs D ↔ i < j ∧ ∃ d d', D[i]? = some d ∧ D[j]? = some d' ∧
    d.sharesRoot d' = true := by
  simp only [rootPairs, mem_flatMap, mem_map, mem_filter, mem_range,
    decide_eq_true_eq, Prod.mk.injEq, Option.bind_eq_some_iff, Option.map_eq_some_iff]
  constructor
  · rintro ⟨_, -, _, ⟨-, hlt, d, hd, d', hd', hshares⟩, rfl, rfl⟩
    exact ⟨hlt, d, d', hd, hd', hshares⟩
  · rintro ⟨hlt, d, d', hd, hd', hshares⟩
    obtain ⟨hi, -⟩ := List.getElem?_eq_some_iff.mp hd
    obtain ⟨hj, -⟩ := List.getElem?_eq_some_iff.mp hd'
    exact ⟨i, hi, j, ⟨hj, hlt, d, hd, d', hd', hshares⟩, rfl, rfl⟩

lemma sharesRoot_self (h : d.lineageRootEventIds ≠ []) : d.sharesRoot d = true := by
  obtain ⟨root, hroot⟩ := exists_mem_of_ne_nil _ h
  exact sharesRoot_iff.mpr ⟨root, hroot, hroot⟩

lemma rooted_of_sharesRoot (h : d.sharesRoot d' = true) :
    d.lineageRootEventIds ≠ [] ∧ d'.lineageRootEventIds ≠ [] := by
  obtain ⟨root, hd, hd'⟩ := sharesRoot_iff.mp h
  exact ⟨ne_nil_of_mem hd, ne_nil_of_mem hd'⟩

/-- Only derivations with roots are connected with others. -/
lemma Linked.eq_or (h : Linked D d d') : d = d' ∨ (d ∈ D ∧ d' ∈ D ∧
    d.lineageRootEventIds ≠ [] ∧ d'.lineageRootEventIds ≠ []) := by
  induction h with
  | rel d d' hrel =>
    obtain ⟨hd, hd', hshares⟩ := hrel
    exact .inr ⟨hd, hd', rooted_of_sharesRoot hshares⟩
  | refl => exact .inl rfl
  | symm d d' _ ih => grind
  | trans d d' d'' _ _ ih₁ ih₂ => grind

theorem Linked.congr (h : ∀ d, d ∈ D ↔ d ∈ D') : Linked D = Linked D' := by
  simp only [Linked, h]

/-- The root of a position after all pairs are joined. -/
def rootAt (D : List MemoryDerivation) (i : ℕ) : ℕ :=
  (find D.length (unionAll D.length (rootPairs D) id) i).1

lemma rootPairs_lt {pair : ℕ × ℕ} (h : pair ∈ rootPairs D) :
    pair.1 < D.length ∧ pair.2 < D.length := by
  obtain ⟨-, d, d', hd, hd', -⟩ := mem_rootPairs.mp h
  exact ⟨(List.getElem?_eq_some_iff.mp hd).1, (List.getElem?_eq_some_iff.mp hd').1⟩

lemma rootAt_eq_iff (hi : i < D.length) (hj : j < D.length) : rootAt D i = rootAt D j ↔
    Relation.EqvGen (fun a b => (a, b) ∈ rootPairs D) i j := by
  obtain ⟨hrooted, hjoined⟩ := unionAll_spec (fun _ => rootPairs_lt) (le_refl D.length)
  rw [← hjoined i hi j hj]
  exact (joined_iff (find_found hrooted hi le_rfl).root
    (find_found hrooted hj le_rfl).root).symm

lemma eqvGen_of_linked (h : Linked D d d') (hd : d.lineageRootEventIds ≠ []) :
    ∀ i j, D[i]? = some d → D[j]? = some d' →
      Relation.EqvGen (fun a b => (a, b) ∈ rootPairs D) i j := by
  have hshared : ∀ {d d' : MemoryDerivation} (i j : ℕ), D[i]? = some d → D[j]? = some d' →
      d.sharesRoot d' = true → Relation.EqvGen (fun a b => (a, b) ∈ rootPairs D) i j := by
    intro d d' i j hi hj hshares
    rcases Nat.lt_trichotomy i j with hlt | rfl | hlt
    · exact .rel _ _ (mem_rootPairs.mpr ⟨hlt, d, d', hi, hj, hshares⟩)
    · exact .refl i
    · rw [sharesRoot_comm] at hshares
      exact .symm _ _ (.rel _ _ (mem_rootPairs.mpr ⟨hlt, d', d, hj, hi, hshares⟩))
  induction h with
  | rel d d' hrel => exact fun i j hi hj => hshared i j hi hj hrel.2.2
  | refl d => exact fun i j hi hj => hshared i j hi hj (sharesRoot_self hd)
  | symm d d' hlinked ih =>
    intro i j hi hj
    have hd' : d.lineageRootEventIds ≠ [] := by
      rcases Linked.eq_or hlinked with rfl | ⟨-, -, hrooted, -⟩
      · exact hd
      · exact hrooted
    exact .symm _ _ (ih hd' j i hj hi)
  | trans d d' d'' hfirst hsecond ih₁ ih₂ =>
    intro i k hi hk
    rcases Linked.eq_or hfirst with rfl | ⟨-, hmem, -, hd'⟩
    · exact ih₂ hd i k hi hk
    · obtain ⟨j, hj⟩ := mem_iff_getElem?.mp hmem
      exact .trans _ _ _ (ih₁ hd i j hi hj) (ih₂ hd' j k hj hk)

lemma linked_of_eqvGen (h : Relation.EqvGen (fun a b => (a, b) ∈ rootPairs D) i j) :
    i = j ∨ ∃ d d', D[i]? = some d ∧ D[j]? = some d' ∧ Linked D d d' ∧
      d.lineageRootEventIds ≠ [] ∧ d'.lineageRootEventIds ≠ [] := by
  induction h with
  | rel i j hmem =>
    obtain ⟨-, d, d', hi, hj, hshares⟩ := mem_rootPairs.mp hmem
    obtain ⟨hd, hd'⟩ := rooted_of_sharesRoot hshares
    exact .inr ⟨d, d', hi, hj, .rel _ _ ⟨mem_of_getElem? hi, mem_of_getElem? hj, hshares⟩, hd, hd'⟩
  | refl => exact .inl rfl
  | symm i j _ ih =>
    rcases ih with rfl | ⟨d, d', hi, hj, hlinked, hd, hd'⟩
    · exact .inl rfl
    · exact .inr ⟨d', d, hj, hi, .symm _ _ hlinked, hd', hd⟩
  | trans i j k _ _ ih₁ ih₂ =>
    rcases ih₁ with rfl | ⟨d, d', hi, hj, hlinked, hd, hd'⟩
    · exact ih₂
    · rcases ih₂ with rfl | ⟨e, e', hj', hk, hlinked', he, he'⟩
      · exact .inr ⟨d, d', hi, hj, hlinked, hd, hd'⟩
      · rw [hj, Option.some.injEq] at hj'
        subst hj'
        exact .inr ⟨d, e', hi, hk, .trans _ _ _ hlinked hlinked', hd, he'⟩

/-- Positions of derivations with roots have the same root exactly when the derivations are
connected. -/
lemma rootAt_eq_iff_linked (hi : D[i]? = some d) (hj : D[j]? = some d')
    (hd : d.lineageRootEventIds ≠ []) : rootAt D i = rootAt D j ↔ Linked D d d' := by
  rw [rootAt_eq_iff (List.getElem?_eq_some_iff.mp hi).1 (List.getElem?_eq_some_iff.mp hj).1]
  constructor
  · intro h
    rcases linked_of_eqvGen h with rfl | ⟨e, e', hi', hj', hlinked, -⟩
    · rw [hi, Option.some.injEq] at hj
      subst hj
      exact .refl d
    · rw [hi, Option.some.injEq] at hi'
      rw [hj, Option.some.injEq] at hj'
      subst hi' hj'
      exact hlinked
  · intro h
    exact eqvGen_of_linked h hd i j hi hj

/-- The position of a derivation without roots is a tree of its own. -/
lemma rootAt_eq_iff_of_rootless (hi : D[i]? = some d) (hj : j < D.length)
    (hd : d.lineageRootEventIds = []) : rootAt D j = rootAt D i ↔ j = i := by
  rw [rootAt_eq_iff hj (List.getElem?_eq_some_iff.mp hi).1]
  constructor
  · intro h
    rcases linked_of_eqvGen h with heq | ⟨e, e', -, hi', -, -, he'⟩
    · exact heq
    · rw [hi, Option.some.injEq] at hi'
      subst hi'
      exact absurd hd he'
  · rintro rfl
    exact .refl j

end Classes

section Summaries

variable {D D' : List MemoryDerivation} {d m : MemoryDerivation} {w : Canon → ℤ} {i : ℕ}

/-- What an evaluation reads of a group. -/
def EvidenceGroup.summary (g : EvidenceGroup) : List Canon × ℤ × Bool :=
  (g.lineageRoots, g.weightMilli, g.direct)

theorem maxWeight_spec {ws : List ℤ} (h : ws ≠ []) :
    maxWeight ws ∈ ws ∧ ∀ x ∈ ws, x ≤ maxWeight ws := by
  cases ws with
  | nil => exact absurd rfl h
  | cons a ws =>
    show ws.foldl max a ∈ a :: ws ∧ ∀ x ∈ a :: ws, x ≤ ws.foldl max a
    clear h
    induction ws generalizing a with
    | nil => simp
    | cons b ws ih =>
      obtain ⟨hmem, hle⟩ := ih (max a b)
      rw [foldl_cons]
      refine ⟨?_, fun x hx => ?_⟩
      · rcases mem_cons.mp hmem with heq | hws
        · rw [heq]
          rcases max_choice a b with h | h <;> rw [h] <;> simp
        · simp [hws]
      · have hmax := hle (max a b) mem_cons_self
        rcases mem_cons.mp hx with rfl | hx
        · exact (le_max_left _ _).trans hmax
        · rcases mem_cons.mp hx with rfl | hx
          · exact (le_max_right _ _).trans hmax
          · exact hle x (mem_cons_of_mem _ hx)

/-- The highest weight does not depend on the order, nor on repetitions. -/
theorem maxWeight_congr {ws ws' : List ℤ} (h : ∀ x, x ∈ ws ↔ x ∈ ws') :
    maxWeight ws = maxWeight ws' := by
  by_cases hnil : ws = []
  · subst hnil
    have hnil' : ws' = [] := eq_nil_iff_forall_not_mem.mpr fun x hx => by
      have hmem := (h x).mpr hx
      cases hmem
    rw [hnil']
  · have hnil' : ws' ≠ [] := by
      obtain ⟨x, hx⟩ := exists_mem_of_ne_nil ws hnil
      exact ne_nil_of_mem ((h x).mp hx)
    obtain ⟨hmem, hle⟩ := maxWeight_spec hnil
    obtain ⟨hmem', hle'⟩ := maxWeight_spec hnil'
    exact le_antisymm (hle' _ ((h _).mp hmem)) (hle _ ((h _).mpr hmem'))

theorem sortedSet_congr {α : Type*} [LinearOrder α] {xs ys : List α} (h : ∀ a, a ∈ xs ↔ a ∈ ys) :
    sortedSet xs = sortedSet ys :=
  sortedSet_eq (fun a => by rw [mem_sortedSet, h]) (sortedSet_strict ys)

lemma summary_congr {ms ms' : List MemoryDerivation} (h : ∀ m, m ∈ ms ↔ m ∈ ms') :
    (evidenceGroup w ms).summary = (evidenceGroup w ms').summary := by
  have hroots : sortedSet (ms.flatMap lineageRootEventIds) =
      sortedSet (ms'.flatMap lineageRootEventIds) :=
    sortedSet_congr fun root => by simp only [mem_flatMap, h]
  have hweight : maxWeight (ms.map fun d => w d.derivationId) =
      maxWeight (ms'.map fun d => w d.derivationId) :=
    maxWeight_congr fun x => by simp only [mem_map, h]
  have hdirect : (ms.any fun d => decide (1000 ≤ w d.derivationId)) =
      ms'.any fun d => decide (1000 ≤ w d.derivationId) := by
    rw [Bool.eq_iff_iff]
    simp only [any_eq_true, h]
  simp only [EvidenceGroup.summary, evidenceGroup, hroots, hweight, hdirect]

/-- The derivations at the positions below one root. -/
def membersAt (D : List MemoryDerivation) (positions : List ℕ) : List MemoryDerivation :=
  positions.filterMap fun i => D[i]?

variable {positions : List ℕ}

theorem mem_membersAt : m ∈ membersAt D positions ↔ ∃ i ∈ positions, D[i]? = some m :=
  mem_filterMap

theorem evidenceGroups_eq : evidenceGroups D w =
    (bucketsOf (rootAt D) (List.range D.length)).map fun bucket =>
      evidenceGroup w (membersAt D bucket.2) := by
  obtain ⟨hrooted, -⟩ := unionAll_spec (fun _ => rootPairs_lt) (le_refl D.length)
  rw [evidenceGroups, fillBuckets_eq hrooted fun i hi => mem_range.mp hi]
  rfl

variable {k : ℕ}

theorem mem_bucket (h : (k, positions) ∈ bucketsOf (rootAt D) (List.range D.length)) {i : ℕ} :
    i ∈ positions ↔ i < D.length ∧ rootAt D i = k := by
  rw [((bucketsOf_bucketed _ _).members k positions h).1, mem_filter, mem_range, decide_eq_true_eq]

lemma exists_mem_bucket (h : (k, positions) ∈ bucketsOf (rootAt D) (List.range D.length)) :
    ∃ i d, i ∈ positions ∧ D[i]? = some d ∧ rootAt D i = k := by
  obtain ⟨i, hi⟩ := exists_mem_of_ne_nil _ ((bucketsOf_bucketed _ _).members k positions h).2
  obtain ⟨hlt, hroot⟩ := (mem_bucket h).mp hi
  exact ⟨i, D[i], hi, List.getElem?_eq_getElem hlt, hroot⟩

/-- The members of a bucket that holds a derivation with roots are those connected with it. -/
lemma mem_membersAt_iff_linked
    (h : (k, positions) ∈ bucketsOf (rootAt D) (List.range D.length)) (hi : i ∈ positions)
    (hget : D[i]? = some d) (hd : d.lineageRootEventIds ≠ []) :
    m ∈ membersAt D positions ↔ m ∈ D ∧ Linked D d m := by
  obtain ⟨-, hroot⟩ := (mem_bucket h).mp hi
  rw [mem_membersAt]
  constructor
  · rintro ⟨j, hj, hm⟩
    obtain ⟨-, hroot'⟩ := (mem_bucket h).mp hj
    exact ⟨mem_of_getElem? hm, (rootAt_eq_iff_linked hget hm hd).mp (hroot.trans hroot'.symm)⟩
  · rintro ⟨hmem, hlinked⟩
    obtain ⟨j, hj⟩ := mem_iff_getElem?.mp hmem
    have hsame := (rootAt_eq_iff_linked hget hj hd).mpr hlinked
    exact ⟨j, (mem_bucket h).mpr ⟨(List.getElem?_eq_some_iff.mp hj).1, hsame ▸ hroot⟩, hj⟩

/-- A bucket that holds a derivation without roots holds nothing else. -/
lemma membersAt_of_rootless
    (h : (k, positions) ∈ bucketsOf (rootAt D) (List.range D.length)) (hi : i ∈ positions)
    (hget : D[i]? = some d) (hd : d.lineageRootEventIds = []) :
    ∀ j, j ∈ positions ↔ j = i := by
  intro j
  obtain ⟨hlt, hroot⟩ := (mem_bucket h).mp hi
  rw [mem_bucket h]
  constructor
  · rintro ⟨hj, hroot'⟩
    exact (rootAt_eq_iff_of_rootless hget hj hd).mp (hroot'.trans hroot.symm)
  · rintro rfl
    exact ⟨hlt, hroot⟩

/-- A derivation without roots. -/
def isRootless (d : MemoryDerivation) : Bool := d.lineageRootEventIds = []

lemma lineageRoots_eq_nil {ms : List MemoryDerivation} :
    (evidenceGroup w ms).lineageRoots = [] ↔ ∀ m ∈ ms, m.lineageRootEventIds = [] := by
  show sortedSet _ = [] ↔ _
  rw [eq_nil_iff_forall_not_mem]
  simp only [mem_sortedSet, mem_flatMap, not_exists, not_and]
  constructor
  · intro h m hm
    exact eq_nil_iff_forall_not_mem.mpr fun root => h root m hm
  · intro h root m hm hroot
    rw [h m hm] at hroot
    cases hroot

/-- The positions whose derivations have no roots. -/
def isAlone (D : List MemoryDerivation) (i : ℕ) : Bool := D[i]?.any isRootless

lemma isAlone_iff : isAlone D i = true ↔ ∃ d, D[i]? = some d ∧ d.lineageRootEventIds = [] := by
  unfold isAlone isRootless
  cases D[i]? <;> simp

/-- The group of a bucket has no roots exactly when it holds a derivation without roots. -/
lemma bucket_roots_eq_nil (h : (k, positions) ∈ bucketsOf (rootAt D) (List.range D.length)) :
    (evidenceGroup w (membersAt D positions)).lineageRoots = [] ↔
      positions.any (isAlone D) = true := by
  rw [lineageRoots_eq_nil, any_eq_true]
  constructor
  · intro hall
    obtain ⟨i, d, hi, hget, -⟩ := exists_mem_bucket h
    exact ⟨i, hi, isAlone_iff.mpr ⟨d, hget, hall d (mem_membersAt.mpr ⟨i, hi, hget⟩)⟩⟩
  · rintro ⟨i, hi, halone⟩ m hm
    obtain ⟨d, hget, hd⟩ := isAlone_iff.mp halone
    obtain ⟨j, hj, hgetm⟩ := mem_membersAt.mp hm
    rw [(membersAt_of_rootless h hi hget hd j).mp hj, hget, Option.some.injEq] at hgetm
    rw [← hgetm]
    exact hd

lemma membersAt_range (D : List MemoryDerivation) : membersAt D (List.range D.length) = D := by
  induction D using List.reverseRecOn with
  | nil => rfl
  | append_singleton D d ih =>
    rw [length_append, length_singleton, range_succ, membersAt, filterMap_append]
    have hlast : [D.length].filterMap (fun i => (D ++ [d])[i]?) = [d] := by simp
    have hold : (List.range D.length).filterMap (fun i => (D ++ [d])[i]?) =
        membersAt D (List.range D.length) := by
      refine filterMap_congr fun i hi => ?_
      rw [List.getElem?_append_left (mem_range.mp hi)]
    rw [hlast, hold, ih]

/-- The groups of derivations without roots, in the order of the list. -/
lemma rootless_groups : (evidenceGroups D w).filter (fun g => g.lineageRoots = []) =
    (D.filter isRootless).map fun d => evidenceGroup w [d] := by
  have halone := @bucketsOf_alone ℕ ℕ _ (rootAt D) (List.range D.length) (isAlone D)
    (fun y hy z hz hay hroot => by
      obtain ⟨d, hget, hd⟩ := isAlone_iff.mp hay
      exact (rootAt_eq_iff_of_rootless hget (mem_range.mp hz) hd).mp hroot) nodup_range
  have hfilter : (bucketsOf (rootAt D) (List.range D.length)).filter
      (fun bucket => (evidenceGroup w (membersAt D bucket.2)).lineageRoots = []) =
      (bucketsOf (rootAt D) (List.range D.length)).filter fun bucket =>
        bucket.2.any (isAlone D) := by
    refine filter_congr fun bucket hmem => ?_
    rw [Bool.eq_iff_iff, decide_eq_true_eq]
    exact bucket_roots_eq_nil hmem
  have hmap := congrArg (List.map fun positions => evidenceGroup w (membersAt D positions)) halone
  rw [map_map, map_map] at hmap
  rw [evidenceGroups_eq, filter_map]
  refine (congrArg _ hfilter).trans (hmap.trans ?_)
  have hrange := congrArg (List.filter isRootless) (membersAt_range D)
  rw [membersAt, filter_filterMap] at hrange
  rw [← hrange]
  clear * -
  induction List.range D.length with
  | nil => rfl
  | cons i is ih =>
    cases hget : D[i]? with
    | none =>
      rw [filter_cons_of_neg (by simp [isAlone, hget]), ih, filterMap_cons_none (by simp [hget])]
    | some d =>
      by_cases hd : isRootless d = true
      · rw [filter_cons_of_pos (by simp [isAlone, hget, hd]), map_cons, ih,
          filterMap_cons_some (b := d) (by simp [hget, hd]), map_cons]
        simp [membersAt, hget]
      · rw [filter_cons_of_neg (by simp [isAlone, hget, hd]), ih,
          filterMap_cons_none (by simp [hget, hd])]

def rootedGroups (D : List MemoryDerivation) (w : Canon → ℤ) : List EvidenceGroup :=
  (foldIndependence D w).filter fun g => g.lineageRoots ≠ []

open Classical in
/-- What the group of a derivation with roots says. -/
noncomputable def classSummary (D : List MemoryDerivation) (w : Canon → ℤ)
    (d : MemoryDerivation) : List Canon × ℤ × Bool :=
  (evidenceGroup w (D.filter fun m => Linked D d m)).summary

lemma classSummary_congr (h : ∀ d, d ∈ D ↔ d ∈ D') (d : MemoryDerivation) :
    classSummary D w d = classSummary D' w d := by
  refine summary_congr fun m => ?_
  simp only [mem_filter, decide_eq_true_eq, Linked.congr h, h]

lemma mem_rootedGroups {s : List Canon × ℤ × Bool} :
    s ∈ (rootedGroups D w).map EvidenceGroup.summary ↔
      ∃ d ∈ D, d.lineageRootEventIds ≠ [] ∧ classSummary D w d = s := by
  have hclass : ∀ {k positions i d},
      (k, positions) ∈ bucketsOf (rootAt D) (List.range D.length) → i ∈ positions →
      D[i]? = some d → d.lineageRootEventIds ≠ [] →
      (evidenceGroup w (membersAt D positions)).summary = classSummary D w d := by
    intro k positions i d hmem hi hget hd
    refine summary_congr fun m => ?_
    rw [mem_membersAt_iff_linked hmem hi hget hd]
    simp only [mem_filter, decide_eq_true_eq]
  simp only [rootedGroups, foldIndependence, mem_map, mem_filter, mem_orderBy,
    evidenceGroups_eq, decide_eq_true_eq, Prod.exists]
  constructor
  · rintro ⟨_, ⟨⟨k, positions, hmem, rfl⟩, hne⟩, rfl⟩
    obtain ⟨i, d, hi, hget, -⟩ := exists_mem_bucket hmem
    have hd : d.lineageRootEventIds ≠ [] := by
      intro hnil
      refine hne ((bucket_roots_eq_nil hmem).mpr (any_eq_true.mpr ⟨i, hi, ?_⟩))
      exact isAlone_iff.mpr ⟨d, hget, hnil⟩
    exact ⟨d, mem_of_getElem? hget, hd, (hclass hmem hi hget hd).symm⟩
  · rintro ⟨d, hd, hne, rfl⟩
    obtain ⟨i, hget⟩ := mem_iff_getElem?.mp hd
    have hlt := (List.getElem?_eq_some_iff.mp hget).1
    obtain ⟨positions, hmem⟩ := (bucketsOf_bucketed (rootAt D) (List.range D.length)).covers i
      (mem_range.mpr hlt)
    have hi : i ∈ positions := (mem_bucket hmem).mpr ⟨hlt, rfl⟩
    refine ⟨_, ⟨⟨_, positions, hmem, rfl⟩, fun hnil => hne ?_⟩, hclass hmem hi hget hne⟩
    exact lineageRoots_eq_nil.mp hnil d (mem_membersAt.mpr ⟨i, hi, hget⟩)

/-- Two groups with roots have different roots. -/
lemma evidenceGroups_pairwise : (evidenceGroups D w).Pairwise fun g g' =>
    g.lineageRoots ≠ [] → g.lineageRoots ≠ g'.lineageRoots := by
  rw [evidenceGroups_eq, pairwise_map]
  have hkeys := (bucketsOf_bucketed (rootAt D) (List.range D.length)).keys_nodup
  rw [List.Nodup, pairwise_map] at hkeys
  refine hkeys.imp_of_mem ?_
  rintro ⟨k, positions⟩ ⟨k', positions'⟩ hmem hmem' hdiff hne heq
  refine hdiff ?_
  obtain ⟨root, hroot⟩ := exists_mem_of_ne_nil _ hne
  have hroot' := heq ▸ hroot
  have hfind : ∀ {positions : List ℕ},
      root ∈ (evidenceGroup w (membersAt D positions)).lineageRoots →
      ∃ i d, i ∈ positions ∧ D[i]? = some d ∧ root ∈ d.lineageRootEventIds := by
    intro positions hmem
    obtain ⟨d, hd, hin⟩ := mem_flatMap.mp (mem_sortedSet.mp hmem)
    obtain ⟨i, hi, hget⟩ := mem_membersAt.mp hd
    exact ⟨i, d, hi, hget, hin⟩
  obtain ⟨i, d, hi, hget, hd⟩ := hfind hroot
  obtain ⟨j, d', hj, hget', hd'⟩ := hfind hroot'
  have hlinked : Linked D d d' := .rel _ _ ⟨mem_of_getElem? hget, mem_of_getElem? hget',
    sharesRoot_iff.mpr ⟨root, hd, hd'⟩⟩
  have hsame := (rootAt_eq_iff_linked hget hget' (ne_nil_of_mem hd)).mpr hlinked
  rw [← ((mem_bucket hmem).mp hi).2, ← ((mem_bucket hmem').mp hj).2]
  exact hsame

lemma foldIndependence_sorted (D : List MemoryDerivation) (w : Canon → ℤ) :
    (foldIndependence D w).Pairwise fun g g' => g.lineageRoots ≤ g'.lineageRoots := by
  have hsorted := @orderBy_pairwise EvidenceGroup
    (fun g g' => decide (g.lineageRoots ≤ g'.lineageRoots))
    (fun g g' => by simpa using le_total g.lineageRoots g'.lineageRoots)
    (fun g g' g'' h h' => by
      rw [decide_eq_true_eq] at h h' ⊢
      exact h.trans h') (evidenceGroups D w)
  exact hsorted.imp fun h => of_decide_eq_true h

lemma rootedGroups_strict (D : List MemoryDerivation) (w : Canon → ℤ) :
    (rootedGroups D w).Pairwise fun g g' => g.lineageRoots < g'.lineageRoots := by
  have hdiffer : (evidenceGroups D w).Pairwise fun g g' =>
      g.lineageRoots ≠ [] → g'.lineageRoots ≠ [] → g.lineageRoots ≠ g'.lineageRoots :=
    evidenceGroups_pairwise.imp fun h hne _ => h hne
  have hdiffer' := (orderBy_perm (fun g g' => decide (g.lineageRoots ≤ g'.lineageRoots))
    (evidenceGroups D w)).symm.pairwise hdiffer fun h hne hne' heq => h hne' hne heq.symm
  refine (((foldIndependence_sorted D w).and hdiffer').filter _).imp_of_mem ?_
  intro g g' hg hg' ⟨hle, hne⟩
  simp only [mem_filter, decide_eq_true_eq] at hg hg'
  exact lt_of_le_of_ne hle (hne hg.2 hg'.2)

/-- What the groups with roots say does not depend on the order of the list. -/
theorem rootedGroups_perm (h : D.Perm D') : (rootedGroups D w).map EvidenceGroup.summary =
    (rootedGroups D' w).map EvidenceGroup.summary := by
  have hstrict : ∀ D, ((rootedGroups D w).map EvidenceGroup.summary).Pairwise fun s s' =>
      s.1 < s'.1 := fun D => pairwise_map.mpr (rootedGroups_strict D w)
  have hmem : ∀ s, s ∈ (rootedGroups D w).map EvidenceGroup.summary ↔
      s ∈ (rootedGroups D' w).map EvidenceGroup.summary := by
    intro s
    simp only [mem_rootedGroups, h.mem_iff, classSummary_congr fun d => h.mem_iff]
  have hnodup : ∀ D, ((rootedGroups D w).map EvidenceGroup.summary).Nodup := fun D =>
    (hstrict D).imp fun hlt heq => absurd (heq ▸ hlt) (lt_irrefl _)
  refine ((perm_ext_iff_of_nodup (hnodup D) (hnodup D')).mpr hmem).eq_of_pairwise ?_
    (hstrict D) (hstrict D')
  intro s s' _ _ hlt hgt
  exact absurd (hlt.trans hgt) (lt_irrefl _)

/-- Elements that are least in a sorted list stand at its start. -/
lemma eq_filter_append {α : Type*} {R : α → α → Prop} {p : α → Bool} {xs : List α}
    (hsorted : xs.Pairwise R) (hclosed : ∀ a b, R a b → p b = true → p a = true) :
    xs = xs.filter p ++ xs.filter fun a => !p a := by
  induction xs with
  | nil => rfl
  | cons a xs ih =>
    obtain ⟨ha, hxs⟩ := pairwise_cons.mp hsorted
    cases hpa : p a with
    | true =>
      rw [filter_cons_of_pos hpa, filter_cons_of_neg (by simp [hpa]), cons_append, ← ih hxs]
    | false =>
      have hnone : xs.filter p = [] := by
        rw [filter_eq_nil_iff]
        intro b hb hpb
        rw [hclosed a b (ha b hb) hpb] at hpa
        cases hpa
      have hall : xs.filter (fun b => !p b) = xs := by
        have hsplit := ih hxs
        rw [hnone, nil_append] at hsplit
        exact hsplit.symm
      rw [filter_cons_of_neg (by simp [hpa]), filter_cons_of_pos (by simp [hpa]), hnone,
        hall, nil_append]

theorem foldIndependence_eq (D : List MemoryDerivation) (w : Canon → ℤ) : foldIndependence D w =
      (D.filter isRootless).map (fun d => evidenceGroup w [d]) ++ rootedGroups D w := by
  have hsplit := eq_filter_append (p := fun g => decide (g.lineageRoots = []))
    (foldIndependence_sorted D w) (by
      intro g g' hle hnil
      rw [decide_eq_true_eq] at hnil ⊢
      rw [hnil] at hle
      exact le_antisymm hle (not_lt.mp (not_lt_nil _)))
  have hrooted : (foldIndependence D w).filter (fun g => !decide (g.lineageRoots = [])) =
      rootedGroups D w := by
    refine filter_congr fun g _ => ?_
    simp
  have hfirst : (foldIndependence D w).filter (fun g => decide (g.lineageRoots = [])) =
      (evidenceGroups D w).filter fun g => g.lineageRoots = [] := by
    have htotal : Std.Total fun g g' : EvidenceGroup =>
        decide (g.lineageRoots ≤ g'.lineageRoots) = true :=
      ⟨fun g g' => by simpa using le_total g.lineageRoots g'.lineageRoots⟩
    have htrans : IsTrans EvidenceGroup fun g g' : EvidenceGroup =>
        decide (g.lineageRoots ≤ g'.lineageRoots) = true :=
      ⟨fun g g' g'' h h' => by
        rw [decide_eq_true_eq] at h h' ⊢
        exact h.trans h'⟩
    -- the sort is stable
    have hkeys : ((evidenceGroups D w).filter fun g => g.lineageRoots = []).Pairwise
        fun g g' => decide (g.lineageRoots ≤ g'.lineageRoots) = true := by
      refine pairwise_of_forall_mem_list fun g hg g' hg' => ?_
      simp only [mem_filter, decide_eq_true_eq] at hg hg'
      rw [decide_eq_true_eq, hg.2, hg'.2]
    have hsub := (sublist_insertionSort hkeys filter_sublist).filter
      fun g => decide (g.lineageRoots = [])
    rw [filter_filter] at hsub
    simp only [Bool.and_self] at hsub
    refine (hsub.eq_of_length ?_).symm
    exact ((orderBy_perm _ (evidenceGroups D w)).symm.filter _).length_eq
  rw [hfirst, hrooted, rootless_groups] at hsplit
  exact hsplit

end Summaries

end MemoryPromotion

end Tiangong
