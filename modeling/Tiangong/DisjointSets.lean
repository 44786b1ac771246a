import Mathlib.Data.Finset.Card
import Mathlib.Data.Fintype.Card
import Mathlib.Logic.Function.Iterate
import Mathlib.Logic.Relation

/-!
# Disjoint sets

A forest of parent pointers over the numbers below a bound. Looking for a root halves the path that
is walked; joining two trees points the root of the second at the root of the first. After all
pairs of a list are joined, two numbers have the same root exactly when the pairs connect them.
-/
open Function

namespace Tiangong

namespace Forest

/-- Walk up to the root of a node. Every second node of the path is pointed at its grandparent. -/
def find : ℕ → (ℕ → ℕ) → ℕ → ℕ × (ℕ → ℕ)
  | 0, parent, i => (i, parent)
  | fuel + 1, parent, i =>
    if parent i = i then (i, parent)
    else find fuel (update parent i (parent (parent i))) (parent (parent i))

/-- Join the trees of two nodes. -/
def union (fuel : ℕ) (parent : ℕ → ℕ) (i j : ℕ) : ℕ → ℕ :=
  let first := find fuel parent i
  let second := find fuel first.2 j
  if first.1 = second.1 then second.2 else update second.2 second.1 first.1

/-- Join the trees of all pairs, one after the other. -/
def unionAll (fuel : ℕ) (pairs : List (ℕ × ℕ)) (parent : ℕ → ℕ) : ℕ → ℕ :=
  pairs.foldl (fun parent pair => union fuel parent pair.1 pair.2) parent

/-- The way up from a node ends at this root. -/
def RootOf (parent : ℕ → ℕ) (i r : ℕ) : Prop := ∃ k, parent^[k] i = r ∧ parent r = r

/-- The pointers stay below the bound, and the way up from every node ends. -/
def Rooted (n : ℕ) (parent : ℕ → ℕ) : Prop := ∀ i < n, parent i < n ∧ ∃ r, RootOf parent i r

/-- Two nodes of one tree. -/
def Joined (parent : ℕ → ℕ) (i j : ℕ) : Prop := ∃ r, RootOf parent i r ∧ RootOf parent j r

variable {parent parent' : ℕ → ℕ} {n i j r s : ℕ}

theorem RootOf.unique (hr : RootOf parent i r) (hs : RootOf parent i s) : r = s := by
  obtain ⟨k, hk, hrfix⟩ := hr
  obtain ⟨l, hl, hsfix⟩ := hs
  rcases Nat.le_total k l with hle | hle
  · rw [← hl, ← Nat.sub_add_cancel hle, iterate_add_apply, hk,
      iterate_fixed hrfix]
  · rw [← hk, ← Nat.sub_add_cancel hle, iterate_add_apply, hl,
      iterate_fixed hsfix]

lemma rootOf_self (h : parent i = i) : RootOf parent i i := ⟨0, rfl, h⟩

lemma rootOf_parent : RootOf parent (parent i) r ↔ RootOf parent i r := by
  constructor
  · rintro ⟨k, hk, hfix⟩
    exact ⟨k + 1, hk, hfix⟩
  · rintro ⟨k, hk, hfix⟩
    cases k with
    | zero =>
      have hi : i = r := hk
      subst hi
      exact ⟨0, hfix, hfix⟩
    | succ k => exact ⟨k, hk, hfix⟩

lemma RootOf.lt (hrooted : Rooted n parent) (hi : i < n) (h : RootOf parent i r) : r < n := by
  obtain ⟨k, rfl, -⟩ := h
  induction k generalizing i with
  | zero => exact hi
  | succ k ih => exact ih (hrooted i hi).1

/-- A way up that ends meets no node twice, so it has fewer steps than there are nodes. -/
lemma exists_steps_lt (hrooted : Rooted n parent) (hi : i < n) (h : RootOf parent i r) :
    ∃ k < n, parent^[k] i = r := by
  obtain ⟨k, hk, hfix⟩ := h
  have hfind : ∃ k, parent^[k] i = r := ⟨k, hk⟩
  refine ⟨Nat.find hfind, ?_, Nat.find_spec hfind⟩
  have hmin : ∀ m, m < Nat.find hfind → parent^[m] i ≠ r := fun m hm => Nat.find_min hfind hm
  have hend := Nat.find_spec hfind
  generalize Nat.find hfind = d at hmin hend
  have hlt : ∀ m, parent^[m] i < n := by
    intro m
    induction m with
    | zero => exact hi
    | succ m ih =>
      rw [iterate_succ_apply']
      exact (hrooted _ ih).1
  -- two equal nodes of the way would bring the root forward
  have hinj : Set.InjOn (fun m => parent^[m] i) (Finset.range (d + 1)) := by
    have hne : ∀ a b, a < b → b ≤ d → parent^[a] i ≠ parent^[b] i := by
      intro a b hab hbd heq
      refine hmin (a + (d - b)) (by omega) ?_
      rw [Nat.add_comm, iterate_add_apply, heq, ← iterate_add_apply,
        Nat.sub_add_cancel hbd, hend]
    intro a ha b hb heq
    simp only [Finset.coe_range, Set.mem_Iio] at ha hb
    rcases Nat.lt_trichotomy a b with hab | hab | hab
    · exact absurd heq (hne a b hab (by omega))
    · exact hab
    · exact absurd heq.symm (hne b a hab (by omega))
  have hcard := Finset.card_le_card_of_injOn (t := Finset.range n) _
    (fun m _ => Finset.mem_coe.mpr (Finset.mem_range.mpr (hlt m))) hinj
  rw [Finset.card_range, Finset.card_range] at hcard
  omega

/-- Pointing a node at its grandparent makes no way longer. -/
lemma halve_steps {k : ℕ} (hk : parent^[k] j = r) (hfix : parent r = r) :
    ∃ l ≤ k, (update parent i (parent (parent i)))^[l] j = r := by
  induction k using Nat.strong_induction_on generalizing j with
  | _ k ih =>
    cases k with
    | zero => exact ⟨0, le_rfl, hk⟩
    | succ k =>
      by_cases hj : j = i
      · subst hj
        cases k with
        | zero =>
          have hroot : parent j = r := hk
          refine ⟨1, le_rfl, ?_⟩
          rw [iterate_one, update_self, hroot, hfix]
        | succ k =>
          obtain ⟨l, hl, hend⟩ := ih k (by omega) hk
          refine ⟨l + 1, by omega, ?_⟩
          rw [iterate_succ_apply, update_self]
          exact hend
      · obtain ⟨l, hl, hend⟩ := ih k (by omega) hk
        refine ⟨l + 1, by omega, ?_⟩
        rw [iterate_succ_apply, update_of_ne hj]
        exact hend

lemma halve_fix (hfix : parent r = r) : update parent i (parent (parent i)) r = r := by
  by_cases hr : r = i
  · subst hr
    rw [update_self, hfix, hfix]
  · rw [update_of_ne hr, hfix]

lemma RootOf.halve (h : RootOf parent j r) :
    RootOf (update parent i (parent (parent i))) j r := by
  obtain ⟨k, hk, hfix⟩ := h
  obtain ⟨l, -, hl⟩ := halve_steps hk hfix
  exact ⟨l, hl, halve_fix hfix⟩

lemma Rooted.halve (h : Rooted n parent) (hi : i < n) :
    Rooted n (update parent i (parent (parent i))) := by
  intro j hj
  obtain ⟨hlt, r, hr⟩ := h j hj
  refine ⟨?_, r, hr.halve⟩
  by_cases hji : j = i
  · subst hji
    rw [update_self]
    exact (h _ hlt).1
  · rw [update_of_ne hji]
    exact hlt

/-- What looking for a root leaves: the same trees. -/
structure Found (n : ℕ) (parent : ℕ → ℕ) (i : ℕ) (result : ℕ × (ℕ → ℕ)) : Prop where
  root : RootOf parent i result.1
  rooted : Rooted n result.2
  same : ∀ j < n, ∀ s, RootOf result.2 j s ↔ RootOf parent j s

lemma find_found_of_steps {fuel k : ℕ} (hrooted : Rooted n parent) (hi : i < n)
    (hk : parent^[k] i = r) (hfix : parent r = r) (hfuel : k ≤ fuel) :
    Found n parent i (find fuel parent i) := by
  induction fuel generalizing parent i k with
  | zero =>
    obtain rfl : k = 0 := by omega
    have hroot : i = r := hk
    subst hroot
    exact ⟨rootOf_self hfix, hrooted, fun _ _ _ => Iff.rfl⟩
  | succ fuel ih =>
    rw [find]
    by_cases hi' : parent i = i
    · rw [if_pos hi']
      exact ⟨rootOf_self hi', hrooted, fun _ _ _ => Iff.rfl⟩
    · rw [if_neg hi']
      have hnext := (hrooted i hi).1
      cases k with
      | zero =>
        have hroot : i = r := hk
        exact absurd (hroot ▸ hfix) hi'
      | succ k =>
        -- one step of the way up is left out, or the way ends at once
        obtain ⟨m, hm, hend⟩ : ∃ m ≤ k, parent^[m] (parent (parent i)) = r := by
          cases k with
          | zero =>
            have hroot : parent i = r := hk
            exact ⟨0, le_rfl, by rw [hroot]; exact hfix⟩
          | succ k => exact ⟨k, by omega, hk⟩
        obtain ⟨l, hl, hlast⟩ := @halve_steps parent i (parent (parent i)) r m hend hfix
        obtain ⟨hroot, hrooted', hsame⟩ := ih (hrooted.halve hi) (hrooted _ hnext).1 hlast
          (halve_fix hfix) (by omega)
        have hsame' : ∀ j < n, ∀ s,
            RootOf (update parent i (parent (parent i))) j s ↔ RootOf parent j s := by
          intro j hj s
          constructor
          · intro h
            obtain ⟨-, t, ht⟩ := hrooted j hj
            rwa [h.unique ht.halve]
          · exact RootOf.halve
        refine ⟨?_, hrooted', fun j hj s => (hsame j hj s).trans (hsame' j hj s)⟩
        rw [hsame' _ (hrooted _ hnext).1, rootOf_parent, rootOf_parent] at hroot
        exact hroot

/-- As many steps as there are nodes are enough. -/
theorem find_found {fuel : ℕ} (hrooted : Rooted n parent) (hi : i < n) (hfuel : n ≤ fuel) :
    Found n parent i (find fuel parent i) := by
  obtain ⟨-, r, hr⟩ := hrooted i hi
  obtain ⟨k, hlt, hk⟩ := exists_steps_lt hrooted hi hr
  exact find_found_of_steps hrooted hi hk hr.choose_spec.2 (by omega)

/-- Pointing one root at another moves the nodes below it. -/
lemma rootOf_link (hr : parent r = r) (hs : parent s = s) (hne : r ≠ s) (hj : RootOf parent j i) :
    RootOf (update parent s r) j (if i = s then r else i) := by
  obtain ⟨k, hk, hfix⟩ := hj
  have hrfix : update parent s r r = r := by
    rw [update_of_ne hne, hr]
  induction k generalizing j with
  | zero =>
    have heq : j = i := hk
    subst heq
    by_cases his : j = s
    · subst his
      rw [if_pos rfl]
      exact ⟨1, update_self .., hrfix⟩
    · rw [if_neg his]
      refine rootOf_self ?_
      rw [update_of_ne his, hfix]
  | succ k ih =>
    by_cases hjs : j = s
    · subst hjs
      have hroot := RootOf.unique (rootOf_self hs) ⟨k + 1, hk, hfix⟩
      subst hroot
      rw [if_pos rfl]
      exact ⟨1, update_self .., hrfix⟩
    · rw [← rootOf_parent, update_of_ne hjs]
      exact ih hk

/-- What joining two trees leaves. -/
structure United (n : ℕ) (parent : ℕ → ℕ) (a b : ℕ) (parent' : ℕ → ℕ) : Prop where
  rooted : Rooted n parent'
  joined : ∀ i < n, ∀ j < n, Joined parent' i j ↔
    Joined parent i j ∨ (Joined parent i a ∧ Joined parent b j) ∨
      (Joined parent i b ∧ Joined parent a j)

theorem joined_iff (hi : RootOf parent i r) (hj : RootOf parent j s) :
    Joined parent i j ↔ r = s := by
  constructor
  · rintro ⟨t, hit, hjt⟩
    rw [hi.unique hit, hj.unique hjt]
  · rintro rfl
    exact ⟨r, hi, hj⟩

/-- Pointing the root of one tree at that of another joins the two trees. -/
lemma link_united {a b : ℕ} (hrooted : Rooted n parent) (ha : a < n) (hroota : RootOf parent a r)
    (hrootb : RootOf parent b s) :
    United n parent a b (if r = s then parent else update parent s r) := by
  by_cases heq : r = s
  · subst heq
    rw [if_pos rfl]
    refine ⟨hrooted, fun i hi j hj => ?_⟩
    obtain ⟨-, t, ht⟩ := hrooted i hi
    obtain ⟨-, u, hu⟩ := hrooted j hj
    rw [joined_iff ht hu, joined_iff ht hroota, joined_iff hrootb hu, joined_iff ht hrootb,
      joined_iff hroota hu]
    grind
  · rw [if_neg heq]
    have hfixr : parent r = r := hroota.choose_spec.2
    have hfixs : parent s = s := hrootb.choose_spec.2
    refine ⟨fun j hj => ?_, fun i hi j hj => ?_⟩
    · obtain ⟨hlt, t, ht⟩ := hrooted j hj
      refine ⟨?_, _, rootOf_link hfixr hfixs heq ht⟩
      by_cases hjs : j = s
      · subst hjs
        rw [update_self]
        exact hroota.lt hrooted ha
      · rw [update_of_ne hjs]
        exact hlt
    · obtain ⟨-, t, ht⟩ := hrooted i hi
      obtain ⟨-, u, hu⟩ := hrooted j hj
      rw [joined_iff (rootOf_link hfixr hfixs heq ht) (rootOf_link hfixr hfixs heq hu),
        joined_iff ht hu, joined_iff ht hroota, joined_iff hrootb hu, joined_iff ht hrootb,
        joined_iff hroota hu]
      split <;> split <;> grind

lemma union_united {fuel a b : ℕ} (hrooted : Rooted n parent) (ha : a < n) (hb : b < n)
    (hfuel : n ≤ fuel) : United n parent a b (union fuel parent a b) := by
  obtain ⟨hroota, hrooted₁, hsame₁⟩ := find_found hrooted ha hfuel
  obtain ⟨hrootb, hrooted₂, hsame₂⟩ := find_found hrooted₁ hb hfuel
  have hsame : ∀ j < n, ∀ t, RootOf (find fuel (find fuel parent a).2 b).2 j t ↔
      RootOf parent j t := fun j hj t => (hsame₂ j hj t).trans (hsame₁ j hj t)
  have hjoined : ∀ i < n, ∀ j < n,
      (Joined (find fuel (find fuel parent a).2 b).2 i j ↔ Joined parent i j) := by
    intro i hi j hj
    simp only [Joined, hsame i hi, hsame j hj]
  rw [← hsame a ha] at hroota
  rw [← hsame₂ b hb] at hrootb
  obtain ⟨hrooted', hunited⟩ := link_united hrooted₂ ha hroota hrootb
  refine ⟨hrooted', fun i hi j hj => ?_⟩
  rw [← hjoined i hi j hj, ← hjoined i hi a ha, ← hjoined b hb j hj, ← hjoined i hi b hb,
    ← hjoined a ha j hj]
  exact hunited i hi j hj

lemma rooted_id (n : ℕ) : Rooted n id := fun i hi => ⟨hi, i, rootOf_self rfl⟩

lemma joined_id : Joined id i j ↔ i = j := by
  constructor
  · rintro ⟨r, ⟨k, hk, -⟩, ⟨l, hl, -⟩⟩
    rw [iterate_id, id] at hk hl
    rw [hk, hl]
  · rintro rfl
    exact ⟨i, rootOf_self rfl, rootOf_self rfl⟩

/-- One more pair connects what the rest connects with its two sides. -/
lemma eqvGen_cons {α : Type*} {R : α → α → Prop} {a b x y : α} :
    Relation.EqvGen (fun u v => (u = a ∧ v = b) ∨ R u v) x y ↔
      Relation.EqvGen R x y ∨ (Relation.EqvGen R x a ∧ Relation.EqvGen R b y) ∨
        (Relation.EqvGen R x b ∧ Relation.EqvGen R a y) := by
  have hrefl : ∀ u, Relation.EqvGen R u u := .refl
  have hsymm : ∀ u v, Relation.EqvGen R u v → Relation.EqvGen R v u := .symm
  have htrans : ∀ u v w, Relation.EqvGen R u v → Relation.EqvGen R v w → Relation.EqvGen R u w :=
    .trans
  have hmono : ∀ u v, Relation.EqvGen R u v →
      Relation.EqvGen (fun u v => (u = a ∧ v = b) ∨ R u v) u v := fun u v h =>
    h.mono fun _ _ => .inr
  have hpair : Relation.EqvGen (fun u v => (u = a ∧ v = b) ∨ R u v) a b :=
    .rel _ _ (.inl ⟨rfl, rfl⟩)
  constructor
  · intro h
    induction h with
    | rel u v huv =>
      rcases huv with ⟨rfl, rfl⟩ | huv
      · exact .inr (.inl ⟨hrefl _, hrefl _⟩)
      · exact .inl (.rel _ _ huv)
    | refl u => exact .inl (hrefl u)
    | symm u v _ ih => grind
    | trans u v w _ _ ih₁ ih₂ => grind
  · rintro (h | ⟨hxa, hby⟩ | ⟨hxb, hay⟩)
    · exact hmono _ _ h
    · exact .trans _ _ _ (hmono _ _ hxa) (.trans _ _ _ hpair (hmono _ _ hby))
    · exact .trans _ _ _ (hmono _ _ hxb) (.trans _ _ _ (.symm _ _ hpair) (hmono _ _ hay))

lemma eqvGen_nil {x y : ℕ} (h : Relation.EqvGen (fun a b => (a, b) ∈ ([] : List (ℕ × ℕ))) x y) :
    x = y := by
  induction h with
  | rel _ _ hmem => cases hmem
  | refl => rfl
  | symm _ _ _ ih => exact ih.symm
  | trans _ _ _ _ _ ih₁ ih₂ => exact ih₁.trans ih₂

/-- After all pairs are joined the trees are the classes that the pairs connect. -/
theorem unionAll_spec {fuel : ℕ} {pairs : List (ℕ × ℕ)}
    (hpairs : ∀ pair ∈ pairs, pair.1 < n ∧ pair.2 < n) (hfuel : n ≤ fuel) :
    Rooted n (unionAll fuel pairs id) ∧ ∀ i < n, ∀ j < n, (Joined (unionAll fuel pairs id) i j ↔
        Relation.EqvGen (fun a b => (a, b) ∈ pairs) i j) := by
  induction pairs using List.reverseRecOn with
  | nil =>
    refine ⟨rooted_id n, fun i _ j _ => ?_⟩
    show Joined id i j ↔ _
    rw [joined_id]
    constructor
    · rintro rfl
      exact .refl i
    · exact eqvGen_nil
  | append_singleton pairs pair ih =>
    obtain ⟨hrooted, hjoined⟩ := ih fun p hp => hpairs p (by simp [hp])
    obtain ⟨ha, hb⟩ := hpairs pair (by simp)
    obtain ⟨hrooted', hjoined'⟩ := union_united hrooted ha hb hfuel
    have hunion : unionAll fuel (pairs ++ [pair]) id =
        union fuel (unionAll fuel pairs id) pair.1 pair.2 := by
      rw [unionAll, List.foldl_append]
      rfl
    rw [hunion]
    refine ⟨hrooted', fun i hi j hj => ?_⟩
    rw [hjoined' i hi j hj, hjoined i hi j hj, hjoined i hi _ ha, hjoined _ hb j hj,
      hjoined i hi _ hb, hjoined _ ha j hj, ← eqvGen_cons]
    have hrel : (fun u v => (u = pair.1 ∧ v = pair.2) ∨ (u, v) ∈ pairs) =
        fun u v => (u, v) ∈ pairs ++ [pair] := by
      funext u v
      simp [Prod.ext_iff, or_comm]
    rw [hrel]

end Forest

end Tiangong
