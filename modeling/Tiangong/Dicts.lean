import Mathlib.Data.List.AList
import Mathlib.Data.List.Sort

/-!
# Dictionaries

A dictionary is a finite map; the order in which its entries were made plays no part. Its items in
the order of their keys are what a file holds of it, and a dictionary made from them is the same
map again.
-/
namespace Tiangong

open List AList

/-- A dictionary with values in `β`. -/
abbrev Dict (κ β : Type*) := AList fun _ : κ => β

namespace Dict

variable {κ β : Type*} [DecidableEq κ]

/-- Two dictionaries with the same entries. -/
def Same (d d' : Dict κ β) : Prop := ∀ k, d.lookup k = d'.lookup k

theorem Same.refl (d : Dict κ β) : d.Same d := fun _ => rfl

variable {d d' : Dict κ β}

theorem Same.symm (h : d.Same d') : d'.Same d := fun k => (h k).symm

theorem Same.trans {d'' : Dict κ β} (h : d.Same d') (h' : d'.Same d'') : d.Same d'' :=
  fun k => (h k).trans (h' k)

theorem lookup_insert_eq (d : Dict κ β) (k k' : κ) (v : β) :
    (d.insert k v).lookup k' = if k' = k then some v else d.lookup k' := by
  by_cases h : k' = k
  · subst h
    rw [lookup_insert, if_pos rfl]
  · rw [lookup_insert_ne h, if_neg h]

theorem lookup_erase_eq (d : Dict κ β) (k k' : κ) :
    (d.erase k).lookup k' = if k' = k then none else d.lookup k' := by
  by_cases h : k' = k
  · subst h
    rw [lookup_erase, if_pos rfl]
  · rw [lookup_erase_ne h, if_neg h]

variable {k : κ}

theorem mem_keys_iff : k ∈ d.keys ↔ (d.lookup k).isSome := by
  rw [lookup_isSome]
  exact mem_keys.symm

def values (d : Dict κ β) : List β := d.entries.map Sigma.snd

variable {v : β}

theorem mem_values : v ∈ d.values ↔ ∃ k, d.lookup k = some v := by
  have hentry : ∀ k, d.lookup k = some v ↔ ⟨k, v⟩ ∈ d.entries := fun k => mem_lookup_iff
  simp only [hentry, values, mem_map]
  constructor
  · rintro ⟨⟨k, v'⟩, hmem, rfl⟩
    exact ⟨k, hmem⟩
  · rintro ⟨k, hmem⟩
    exact ⟨⟨k, v⟩, hmem, rfl⟩

/-- The number of entries. -/
def size (d : Dict κ β) : ℕ := d.keys.length

lemma Same.keys_perm (h : d.Same d') : d.keys.Perm d'.keys := by
  rw [perm_ext_iff_of_nodup d.keys_nodup d'.keys_nodup]
  intro k
  rw [mem_keys_iff, mem_keys_iff, h k]

theorem Same.size (h : d.Same d') : d.size = d'.size := h.keys_perm.length_eq

theorem size_insert (d : Dict κ β) (k : κ) (v : β) :
    size (d.insert k v) = if (d.lookup k).isSome then d.size else d.size + 1 := by
  rw [size, keys_insert, length_cons]
  by_cases h : (d.lookup k).isSome
  · have hmem : k ∈ d.keys := mem_keys_iff.mpr h
    have hpos := length_pos_of_mem hmem
    rw [if_pos h, length_erase_of_mem hmem, size]
    omega
  · have hmem : k ∉ d.keys := fun hk => h (mem_keys_iff.mp hk)
    rw [if_neg h, erase_of_not_mem hmem, size]

theorem size_erase (d : Dict κ β) (k : κ) :
    size (d.erase k) = if (d.lookup k).isSome then d.size - 1 else d.size := by
  rw [size, keys_erase]
  by_cases h : (d.lookup k).isSome
  · rw [if_pos h, length_erase_of_mem (mem_keys_iff.mpr h), size]
  · have hmem : k ∉ d.keys := fun hk => h (mem_keys_iff.mp hk)
    rw [if_neg h, erase_of_not_mem hmem, size]

theorem lookup_foldl_erase {α : Type*} (f : α → κ) (xs : List α) (d : Dict κ β) (k : κ) :
    (xs.foldl (fun d x => d.erase (f x)) d).lookup k =
      if k ∈ xs.map f then none else d.lookup k := by
  induction xs generalizing d with
  | nil => simp
  | cons x xs ih =>
    rw [foldl_cons, ih, lookup_erase_eq, map_cons]
    by_cases hx : k = f x
    · simp [hx]
    · simp [hx]

/-- Entering values that another dictionary has under their keys. -/
theorem lookup_foldl_insert_of_lookup (f : β → κ) {vs : List β}
    (h : ∀ v ∈ vs, d'.lookup (f v) = some v) (d : Dict κ β) (k : κ) :
    (vs.foldl (fun d v => d.insert (f v) v) d).lookup k =
      if k ∈ vs.map f then d'.lookup k else d.lookup k := by
  induction vs generalizing d with
  | nil => simp
  | cons v vs ih =>
    rw [foldl_cons, ih fun v' hv' => h v' (mem_cons_of_mem _ hv'), lookup_insert_eq, map_cons]
    by_cases hv : k = f v
    · subst hv
      simp [h v mem_cons_self]
    · simp [hv]

omit [DecidableEq κ] in
lemma nodupKeys_map (f : κ → β → β) (d : Dict κ β) :
    (d.entries.map fun e => (⟨e.1, f e.1 e.2⟩ : Sigma fun _ : κ => β)).NodupKeys := by
  have hkeys : (d.entries.map fun e => (⟨e.1, f e.1 e.2⟩ : Sigma fun _ : κ => β)).keys =
      d.entries.keys := by
    rw [List.keys, map_map]
    rfl
  have hnodup : d.entries.keys.Nodup := d.nodupKeys
  rwa [← hkeys] at hnodup

def mapValues (f : κ → β → β) (d : Dict κ β) : Dict κ β where
  entries := d.entries.map fun e => ⟨e.1, f e.1 e.2⟩
  nodupKeys := nodupKeys_map f d

@[simp] theorem lookup_mapValues (f : κ → β → β) (d : Dict κ β) (k : κ) :
    (d.mapValues f).lookup k = (d.lookup k).map (f k) :=
  @dlookup_map₂ _ _ (fun _ => β) (fun _ => β) d.entries f k

section Items

variable [LinearOrder κ]

/-- The items in the order of their keys. -/
def items (d : Dict κ β) : List (κ × β) :=
  (d.keys.insertionSort fun k k' => k ≤ k').filterMap fun k => (d.lookup k).map fun v => (k, v)

theorem mem_items {d : Dict κ β} {k : κ} {v : β} : (k, v) ∈ d.items ↔ d.lookup k = some v := by
  simp only [items, mem_filterMap, mem_insertionSort, Option.map_eq_some_iff, Prod.mk.injEq]
  constructor
  · rintro ⟨_, -, _, hlookup, rfl, rfl⟩
    exact hlookup
  · intro hlookup
    exact ⟨k, mem_keys_iff.mpr (by rw [hlookup]; rfl), v, hlookup, rfl, rfl⟩

theorem Same.items {d d' : Dict κ β} (h : d.Same d') : d.items = d'.items := by
  have hsorted : (d.keys.insertionSort fun k k' : κ => k ≤ k') =
      d'.keys.insertionSort fun k k' => k ≤ k' :=
    List.Perm.eq_of_pairwise (fun _ _ _ _ hle hge => le_antisymm hle hge)
      (pairwise_insertionSort _ _) (pairwise_insertionSort _ _)
      ((perm_insertionSort _ _).trans
        (h.keys_perm.trans (perm_insertionSort _ _).symm))
  have hsame : (fun k => (d.lookup k).map fun v => (k, v)) =
      fun k => (d'.lookup k).map fun v => (k, v) := by
    funext k
    rw [h k]
  rw [Dict.items, hsorted, hsame, Dict.items]

lemma items_keys (d : Dict κ β) :
    d.items.map Prod.fst = d.keys.insertionSort fun k k' => k ≤ k' := by
  have hall : ∀ ks : List κ, (∀ k ∈ ks, k ∈ d.keys) →
      (ks.filterMap fun k => (d.lookup k).map fun v => (k, v)).map Prod.fst = ks := by
    intro ks hks
    induction ks with
    | nil => rfl
    | cons k ks ih =>
      obtain ⟨v, hv⟩ := Option.isSome_iff_exists.mp (mem_keys_iff.mp (hks k mem_cons_self))
      rw [filterMap_cons_some (b := (k, v)) (by rw [hv]; rfl), map_cons,
        ih fun k' hk' => hks k' (mem_cons_of_mem _ hk')]
  exact hall _ fun k hk => (mem_insertionSort _).mp hk

theorem length_items (d : Dict κ β) : d.items.length = d.size := by
  have hkeys := congrArg List.length d.items_keys
  rwa [length_map, length_insertionSort] at hkeys

theorem items_nodup (d : Dict κ β) : (d.items.map Prod.fst).Nodup := by
  rw [items_keys]
  exact (perm_insertionSort _ _).nodup_iff.mpr d.keys_nodup

end Items

/-- Enter the items one after the other. -/
def ofItems (items : List (κ × β)) : Dict κ β :=
  items.foldl (fun d item => d.insert item.1 item.2) ∅

lemma lookup_foldl_insert (items : List (κ × β)) (d : Dict κ β)
    (h : (items.map Prod.fst).Nodup) (k : κ) :
    (items.foldl (fun d item => d.insert item.1 item.2) d).lookup k =
      ((items.find? fun item => item.1 = k).map Prod.snd).or (d.lookup k) := by
  induction items generalizing d with
  | nil => rfl
  | cons item items ih =>
    rw [map_cons, nodup_cons] at h
    rw [foldl_cons, ih _ h.2, lookup_insert_eq, List.find?_cons]
    by_cases hk : item.1 = k
    · subst hk
      have hfind : (items.find? fun item' => item'.1 = item.1) = none := by
        rw [List.find?_eq_none]
        intro item' hmem
        rw [decide_eq_true_eq]
        intro heq
        exact h.1 (mem_map.mpr ⟨item', hmem, heq⟩)
      simp [hfind]
    · simp [hk, Ne.symm hk]

variable {items : List (κ × β)}

theorem mem_of_lookup_ofItems (h : (ofItems items).lookup k = some v) : (k, v) ∈ items := by
  suffices hall : ∀ (items : List (κ × β)) (d : Dict κ β),
      (items.foldl (fun d item => d.insert item.1 item.2) d).lookup k = some v →
        (k, v) ∈ items ∨ d.lookup k = some v by
    rcases hall items ∅ h with hmem | hempty
    · exact hmem
    · rw [lookup_empty] at hempty
      cases hempty
  intro items
  induction items with
  | nil => exact fun d h => .inr h
  | cons item items ih =>
    intro d h
    rcases ih _ h with hmem | hlookup
    · exact .inl (mem_cons_of_mem _ hmem)
    · rw [lookup_insert_eq] at hlookup
      by_cases hk : k = item.1
      · rw [if_pos hk, Option.some.injEq] at hlookup
        subst hk hlookup
        exact .inl mem_cons_self
      · rw [if_neg hk] at hlookup
        exact .inr hlookup

/-- A key is found exactly when an item has it. -/
theorem isSome_lookup_ofItems : ((ofItems items).lookup k).isSome ↔ k ∈ items.map Prod.fst := by
  suffices hall : ∀ (items : List (κ × β)) (d : Dict κ β),
      ((items.foldl (fun d item => d.insert item.1 item.2) d).lookup k).isSome ↔
        k ∈ items.map Prod.fst ∨ (d.lookup k).isSome by
    simpa [ofItems] using hall items ∅
  intro items
  induction items with
  | nil => simp
  | cons item items ih =>
    intro d
    rw [foldl_cons, ih, lookup_insert_eq, map_cons, mem_cons]
    by_cases hk : k = item.1 <;> simp [hk]

/-- Items with different keys are all found again. -/
theorem lookup_ofItems_of_mem (h : (items.map Prod.fst).Nodup) (hmem : (k, v) ∈ items) : (ofItems items).lookup k = some v := by
  rw [ofItems, lookup_foldl_insert _ _ h, lookup_empty]
  cases hfind : items.find? fun item => item.1 = k with
  | none =>
    have hnot := List.find?_eq_none.mp hfind (k, v) hmem
    simp at hnot
  | some item =>
    have hk : item.1 = k := by simpa using List.find?_some hfind
    have hsame := inj_on_of_nodup_map h (mem_of_find?_eq_some hfind) hmem hk
    rw [hsame]
    rfl

/-- A dictionary made from the items of another is the same map. -/
theorem ofItems_items [LinearOrder κ] (d : Dict κ β) : (ofItems d.items).Same d := by
  intro k
  rw [ofItems, lookup_foldl_insert _ _ d.items_nodup]
  cases hlookup : d.lookup k with
  | none =>
    have hfind : (d.items.find? fun item => item.1 = k) = none := by
      rw [List.find?_eq_none]
      rintro ⟨k', v⟩ hmem
      rw [decide_eq_true_eq]
      rintro rfl
      rw [mem_items, hlookup] at hmem
      cases hmem
    rw [hfind]
    simp
  | some v =>
    have hmem : (k, v) ∈ d.items := mem_items.mpr hlookup
    cases hfind : d.items.find? fun item => item.1 = k with
    | none =>
      have hnot := List.find?_eq_none.mp hfind (k, v) hmem
      simp at hnot
    | some item =>
      obtain ⟨k', v'⟩ := item
      have hk : k' = k := by simpa using List.find?_some hfind
      subst hk
      have hitem := mem_items.mp (mem_of_find?_eq_some hfind)
      rw [hlookup] at hitem
      cases hitem
      rfl

end Dict

end Tiangong
