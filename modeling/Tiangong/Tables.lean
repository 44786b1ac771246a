import Mathlib.Data.List.Sort
import Tiangong.Checked

/-!
# Keyed tables

A table is the list of its rows together with the proof that no primary key occurs twice.
Rows are appended, and rewritten without touching their key.
-/
open List

namespace Tiangong

/-- A table whose rows have pairwise different keys. -/
structure Table {ρ κ : Type*} (key : ρ → κ) where
  rows : List ρ
  keys_nodup : (rows.map key).Nodup

namespace Table

variable {ρ κ ε : Type*} {key : ρ → κ}

/-- The table of a fresh database. -/
def empty : Table key := ⟨[], by simp⟩

@[simp] theorem empty_rows : (empty : Table key).rows = [] := rfl

instance : Inhabited (Table key) := ⟨empty⟩

theorem ext_rows {t u : Table key} (h : t.rows = u.rows) : t = u := by
  cases t; cases u; simp_all

/-- Two rows of one table with the same key are the same row. -/
theorem eq_of_key_eq (t : Table key) {r r' : ρ} (hr : r ∈ t.rows) (hr' : r' ∈ t.rows)
    (h : key r = key r') : r = r' :=
  inj_on_of_nodup_map t.keys_nodup hr hr' h

section Lookup

variable [DecidableEq κ]

/-- The row with key `k`. -/
def find (t : Table key) (k : κ) : Option ρ :=
  t.rows.find? fun r => key r = k

variable {k : κ}

theorem mem_of_find {t : Table key} {r : ρ} (h : t.find k = some r) : r ∈ t.rows :=
  mem_of_find?_eq_some h

theorem key_of_find {t : Table key} {r : ρ} (h : t.find k = some r) : key r = k := by
  simpa using List.find?_some h

theorem find_of_mem {t : Table key} {r : ρ} (h : r ∈ t.rows) : t.find (key r) = some r := by
  cases hf : t.find (key r) with
  | none =>
    have := List.find?_eq_none.mp hf r h
    simp at this
  | some r' =>
    rw [t.eq_of_key_eq (mem_of_find hf) h (key_of_find hf)]

theorem find_eq_some {t : Table key} {r : ρ} : t.find k = some r ↔ r ∈ t.rows ∧ key r = k := by
  constructor
  · intro h
    exact ⟨mem_of_find h, key_of_find h⟩
  · rintro ⟨hr, rfl⟩
    exact find_of_mem hr

theorem find_eq_none {t : Table key} : t.find k = none ↔ ∀ r ∈ t.rows, key r ≠ k := by
  simp [find, List.find?_eq_none]

@[simp] theorem find_empty (k : κ) : (empty : Table key).find k = none := rfl

/-- `INSERT`: append a row, or refuse it when its key is taken. -/
def insert (t : Table key) (e : ε) (r : ρ) : Except ε (Table key) :=
  if h : key r ∈ t.rows.map key then .error e
  else .ok ⟨t.rows ++ [r], by
    rw [map_append, nodup_append]
    refine ⟨t.keys_nodup, by simp, ?_⟩
    rintro a ha b hb rfl
    rw [map_cons, map_nil, mem_singleton] at hb
    exact h (hb ▸ ha)⟩

/-- `t'` is `t` with the fresh row `r` appended. -/
structure Inserts (t : Table key) (r : ρ) (t' : Table key) : Prop where
  fresh : t.find (key r) = none
  rows : t'.rows = t.rows ++ [r]

theorem insert_eq_ok {t t' : Table key} {e : ε} {r : ρ} :
    t.insert e r = .ok t' ↔ t.Inserts r t' := by
  unfold insert
  split
  case isTrue h =>
    obtain ⟨s, hs, hk⟩ := mem_map.mp h
    constructor
    · intro hc; cases hc
    · rintro ⟨hn, -⟩
      exact absurd hk (find_eq_none.mp hn s hs)
  case isFalse h =>
    constructor
    · intro hc
      injection hc with hc
      subst hc
      exact ⟨find_eq_none.mpr fun s hs hk => h (mem_map.mpr ⟨s, hs, hk⟩), rfl⟩
    · rintro ⟨-, hrows⟩
      exact congrArg Except.ok (ext_rows hrows.symm)

theorem insert_eq_error {t : Table key} {e e' : ε} {r : ρ} :
    t.insert e r = .error e' ↔ (t.find (key r)).isSome ∧ e = e' := by
  unfold insert
  split
  case isTrue h =>
    obtain ⟨s, hs, hk⟩ := mem_map.mp h
    have : t.find (key r) = some s := find_eq_some.mpr ⟨hs, hk⟩
    simp [this]
  case isFalse h =>
    have : t.find (key r) = none := by
      rw [find_eq_none]
      exact fun s hs hk => h (mem_map.mpr ⟨s, hs, hk⟩)
    simp [this]

/-- A fresh row can be inserted. -/
theorem exists_insert {t : Table key} {r : ρ} (h : t.find (key r) = none) (e : ε) :
    ∃ t', t.insert e r = .ok t' := by
  cases hins : t.insert e r with
  | ok t' => exact ⟨t', rfl⟩
  | error e' =>
    have hsome := (insert_eq_error.mp hins).1
    rw [h] at hsome
    cases hsome

theorem Inserts.find {t t' : Table key} {r : ρ} (h : t.Inserts r t') (k : κ) :
    t'.find k = if key r = k then some r else t.find k := by
  have hn := h.fresh
  simp only [Table.find] at hn ⊢
  rw [h.rows, List.find?_append]
  by_cases hk : key r = k
  · subst hk
    simp [hn]
  · simp [hk]

theorem Inserts.find_of_some {t t' : Table key} {r r' : ρ} (h : t.Inserts r t')
    (hk : t.find k = some r') : t'.find k = some r' := by
  rw [h.find, if_neg, hk]
  rintro rfl
  rw [h.fresh] at hk
  cases hk

end Lookup

/-- `UPDATE … WHERE`: rewrite the selected rows by a function that keeps their keys. -/
def update (t : Table key) (selected : ρ → Bool) (f : ρ → ρ) (hf : ∀ r, key (f r) = key r) :
    Table key where
  rows := t.rows.map fun r => if selected r then f r else r
  keys_nodup := by
    have : (key ∘ fun r => if selected r then f r else r) = key := by
      funext r
      by_cases h : selected r <;> simp [h, hf]
    rw [map_map, this]
    exact t.keys_nodup

variable {selected : ρ → Bool} {f : ρ → ρ} {hf : ∀ r, key (f r) = key r}

@[simp] theorem update_rows (t : Table key) :
    (t.update selected f hf).rows = t.rows.map fun r => if selected r then f r else r := rfl

theorem mem_update {t : Table key} {r : ρ} : r ∈ (t.update selected f hf).rows ↔
      ∃ s ∈ t.rows, r = if selected s then f s else s := by
  simp only [update_rows, mem_map, eq_comm]

theorem find_update [DecidableEq κ] (t : Table key) (k : κ) :
    (t.update selected f hf).find k = (t.find k).map fun r => if selected r then f r else r := by
  have same : ((fun r => decide (key r = k)) ∘ fun r => if selected r then f r else r) =
      fun r => decide (key r = k) := by
    funext r
    by_cases h : selected r <;> simp [h, hf]
  rw [find, update_rows, List.find?_map, same, find]

/-- Rows outside the selection are untouched. -/
theorem find_update_of_not [DecidableEq κ] {t : Table key} {k : κ}
    (h : ∀ r, t.find k = some r → selected r = false) :
    (t.update selected f hf).find k = t.find k := by
  rw [find_update]
  cases hr : t.find k with
  | none => rfl
  | some r => simp [h r hr]

/-- An `UPDATE` whose row count must be one. -/
def updateOne (t : Table key) (e : ε) (selected : ρ → Bool) (f : ρ → ρ)
    (hf : ∀ r, key (f r) = key r) : Except ε (Table key) :=
  if t.rows.countP selected = 1 then .ok (t.update selected f hf) else .error e

theorem updateOne_eq_ok {t t' : Table key} {e : ε} : t.updateOne e selected f hf = .ok t' ↔
      t.rows.countP selected = 1 ∧ t' = t.update selected f hf := by
  by_cases h : t.rows.countP selected = 1 <;> simp [updateOne, h, eq_comm]

theorem updateOne_rows {t t' : Table key} {e : ε} (h : t.updateOne e selected f hf = .ok t') :
    t' = t.update selected f hf :=
  (updateOne_eq_ok.mp h).2

variable {p : ρ → Bool} {row : ρ}

/-- A single updated row with the key of a known row is that row. -/
theorem of_countP_eq_one [DecidableEq κ] {t : Table key} {k : κ}
    (hcount : t.rows.countP (fun r => key r = k && p r) = 1) (hf : t.find k = some row) :
    p row = true := by
  have hpos : 0 < t.rows.countP (fun r => key r = k && p r) := by omega
  obtain ⟨r, hr, hsel⟩ := countP_pos_iff.mp hpos
  rw [Bool.and_eq_true, decide_eq_true_eq] at hsel
  rw [t.eq_of_key_eq (mem_of_find hf) hr ((key_of_find hf).trans hsel.1.symm)]
  exact hsel.2

/-- A known row with the property is the single selected row of its key. -/
theorem countP_eq_one [DecidableEq κ] {t : Table key} {k : κ} {p : ρ → Bool} {row : ρ}
    (hrow : t.find k = some row) (hp : p row = true) :
    t.rows.countP (fun r => key r = k && p r) = 1 := by
  have hmem := mem_of_find hrow
  have hkey := key_of_find hrow
  have hle : t.rows.countP (fun r => key r = k && p r) ≤ t.rows.countP (fun r => key r = k) :=
    countP_mono_left fun r _ hr => by simp_all
  have hnodup : t.rows.countP (fun r => key r = k) ≤ 1 := by
    have := nodup_iff_count_le_one.mp t.keys_nodup k
    rw [List.count, countP_map] at this
    refine le_trans (le_of_eq ?_) this
    exact countP_congr fun r _ => by simp
  have hpos : 0 < t.rows.countP (fun r => key r = k && p r) :=
    countP_pos_iff.mpr ⟨row, hmem, by simp [hkey, hp]⟩
  omega

/-- The row of a known key is rewritten and every other row is untouched. -/
theorem find_rewrite [DecidableEq κ] {t : Table key} {k : κ} (hrow : t.find k = some row) (hp : p row = true) (f : ρ → ρ) (hf : ∀ r, key (f r) = key r) (k' : κ) :
    (t.update (fun r => key r = k && p r) f hf).find k' =
      if k' = k then some (f row) else t.find k' := by
  by_cases hk : k' = k
  · subst hk
    rw [find_update, hrow, if_pos rfl, Option.map_some]
    simp [key_of_find hrow, hp]
  · rw [if_neg hk]
    apply find_update_of_not
    intro r hr
    simp [key_of_find hr, hk]

/-- An accepted `UPDATE … WHERE key = k AND p` found the row `k` with `p` and rewrote it. -/
theorem updateOne_find [DecidableEq κ] {t t' : Table key} {e : ε} {k : κ}
    {f : ρ → ρ} {hf : ∀ r, key (f r) = key r}
    (h : t.updateOne e (fun r => key r = k && p r) f hf = .ok t')
    (hrow : t.find k = some row) :
    p row = true ∧ ∀ k', t'.find k' = if k' = k then some (f row) else t.find k' := by
  obtain ⟨hcount, rfl⟩ := updateOne_eq_ok.mp h
  have hp := of_countP_eq_one hcount hrow
  exact ⟨hp, find_rewrite hrow hp f hf⟩

theorem filter_keys_nodup (t : Table key) (p : ρ → Bool) : ((t.rows.filter p).map key).Nodup :=
  t.keys_nodup.sublist (List.Sublist.map key filter_sublist)

/-- `DELETE … WHERE`. -/
def delete (t : Table key) (selected : ρ → Bool) : Table key :=
  ⟨t.rows.filter fun r => !selected r, t.filter_keys_nodup _⟩

@[simp] theorem delete_rows (t : Table key) (selected : ρ → Bool) :
    (t.delete selected).rows = t.rows.filter fun r => !selected r := rfl

/-- A unique index: no value of the column occurs twice. -/
def Unique {β : Type*} (t : Table key) (column : ρ → β) : Prop := (t.rows.map column).Nodup

section Unique

variable {β : Type*} {t t' : Table key} {column : ρ → β} {r r' : ρ}

theorem unique_empty : (empty : Table key).Unique column := by simp [Unique]

theorem Unique.eq (h : t.Unique column) (hr : r ∈ t.rows) (hr' : r' ∈ t.rows)
    (hc : column r = column r') : r = r' :=
  inj_on_of_nodup_map h hr hr' hc

theorem Unique.insert [DecidableEq κ] (h : t.Unique column) (hins : t.Inserts r t')
    (hr : ∀ s ∈ t.rows, column s ≠ column r) : t'.Unique column := by
  unfold Unique
  rw [hins.rows, map_append, nodup_append]
  refine ⟨h, by simp, ?_⟩
  rintro a ha b hb rfl
  obtain ⟨s, hs, rfl⟩ := mem_map.mp ha
  exact hr s hs (by simpa using hb)

theorem Unique.update (h : t.Unique column) (hc : ∀ r, column (f r) = column r) :
    (t.update selected f hf).Unique column := by
  have : (column ∘ fun r => if selected r then f r else r) = column := by
    funext r
    by_cases hs : selected r <;> simp [hs, hc]
  rw [Unique, update_rows, map_map, this]
  exact h

end Unique

end Table

/-- A table with a second unique column. -/
structure IndexedTable {ρ κ β : Type*} (key : ρ → κ) (column : ρ → β) where
  table : Table key
  unique : table.Unique column

namespace IndexedTable

variable {ρ κ β ε : Type*} {key : ρ → κ} {column : ρ → β}

def empty : IndexedTable key column := ⟨.empty, Table.unique_empty⟩

def rows (t : IndexedTable key column) : List ρ := t.table.rows

@[simp] theorem rows_mk (t : Table key) (h : t.Unique column) :
    (⟨t, h⟩ : IndexedTable key column).rows = t.rows := rfl

/-- Rewrite the selected rows without touching their two unique columns. -/
def update (t : IndexedTable key column) (selected : ρ → Bool) (f : ρ → ρ)
    (hf : ∀ r, key (f r) = key r) (hc : ∀ r, column (f r) = column r) :
    IndexedTable key column :=
  ⟨t.table.update selected f hf, t.unique.update hc⟩

/-- An `UPDATE` whose row count must be one. -/
def updateOne (t : IndexedTable key column) (e : ε) (selected : ρ → Bool) (f : ρ → ρ)
    (hf : ∀ r, key (f r) = key r) (hc : ∀ r, column (f r) = column r) :
    Except ε (IndexedTable key column) :=
  if t.rows.countP selected = 1 then .ok (t.update selected f hf hc) else .error e

variable [DecidableEq κ]

def find (t : IndexedTable key column) (k : κ) : Option ρ := t.table.find k

theorem mem_of_find {t : IndexedTable key column} {k : κ} {r : ρ} (h : t.find k = some r) :
    r ∈ t.rows :=
  Table.mem_of_find h

theorem key_of_find {t : IndexedTable key column} {k : κ} {r : ρ} (h : t.find k = some r) :
    key r = k :=
  Table.key_of_find h

theorem find_of_mem {t : IndexedTable key column} {r : ρ} (h : r ∈ t.rows) :
    t.find (key r) = some r :=
  Table.find_of_mem h

/-- Append a row whose two unique values are both fresh. -/
def insert [DecidableEq β] (t : IndexedTable key column) (e : ε) (r : ρ) :
    Except ε (IndexedTable key column) :=
  if h : ∃ s ∈ t.rows, key s = key r ∨ column s = column r then .error e
  else .ok
    { table := ⟨t.rows ++ [r], by
        rw [map_append, nodup_append]
        refine ⟨t.table.keys_nodup, by simp, ?_⟩
        rintro a ha b hb rfl
        obtain ⟨s, hs, rfl⟩ := mem_map.mp ha
        exact h ⟨s, hs, .inl (by simpa using hb)⟩⟩
      unique := by
        rw [Table.Unique, map_append, nodup_append]
        refine ⟨t.unique, by simp, ?_⟩
        rintro a ha b hb rfl
        obtain ⟨s, hs, rfl⟩ := mem_map.mp ha
        exact h ⟨s, hs, .inr (by simpa using hb)⟩ }

section Insert

variable [DecidableEq β] {t t' : IndexedTable key column} {e : ε} {r : ρ}

theorem insert_rows (h : t.insert e r = .ok t') : t'.rows = t.rows ++ [r] := by
  unfold insert at h
  split at h
  · cases h
  · cases h
    rfl

theorem insert_fresh (h : t.insert e r = .ok t') : t.find (key r) = none := by
  unfold insert at h
  split at h
  · cases h
  · next hfresh =>
    exact Table.find_eq_none.mpr fun s hs hk => hfresh ⟨s, hs, .inl hk⟩

theorem find_insert (h : t.insert e r = .ok t') (k : κ) :
    t'.find k = if key r = k then some r else t.find k :=
  Table.Inserts.find ⟨insert_fresh h, insert_rows h⟩ k

end Insert

section Update

variable {t t' : IndexedTable key column} {e : ε} {selected : ρ → Bool} {f : ρ → ρ}
  {hf : ∀ r, key (f r) = key r} {hc : ∀ r, column (f r) = column r}

theorem find_update (k : κ) : (t.update selected f hf hc).find k =
    (t.find k).map fun r => if selected r then f r else r :=
  @Table.find_update _ _ key selected f hf _ t.table k

theorem find_updateOne (h : t.updateOne e selected f hf hc = .ok t') (k : κ) :
    t'.find k = (t.find k).map fun r => if selected r then f r else r := by
  unfold updateOne at h
  split at h
  · cases h
    exact find_update k
  · cases h

/-- An accepted `UPDATE … WHERE key = k AND p` found the row `k`, and `p` held of it. -/
lemma selected_of_updateOne {k : κ} {p : ρ → Bool} {row : ρ}
    (h : t.updateOne e (fun r => key r = k && p r) f hf hc = .ok t') (hrow : t.find k = some row) :
    p row = true := by
  unfold updateOne at h
  split at h
  · next hcount => exact Table.of_countP_eq_one hcount hrow
  · cases h

/-- An `UPDATE … WHERE key = k AND p` is accepted when `p` holds of the row `k`. -/
theorem updateOne_of_find {k : κ} {p : ρ → Bool} {row : ρ} (hrow : t.find k = some row)
    (hp : p row = true) : t.updateOne e (fun r => key r = k && p r) f hf hc =
      .ok (t.update (fun r => key r = k && p r) f hf hc) := by
  have hone := Table.countP_eq_one hrow hp
  rw [updateOne, rows, if_pos hone]

/-- An accepted `UPDATE … WHERE key = k AND p` found the row `k` with `p` and rewrote it. -/
theorem updateOne_find {k : κ} {p : ρ → Bool} {row : ρ}
    (h : t.updateOne e (fun r => key r = k && p r) f hf hc = .ok t') (hrow : t.find k = some row) :
    p row = true ∧ ∀ k', t'.find k' = if k' = k then some (f row) else t.find k' := by
  have hp := selected_of_updateOne h hrow
  unfold updateOne at h
  split at h
  · cases h
    exact ⟨hp, Table.find_rewrite hrow hp f hf⟩
  · cases h

end Update

end IndexedTable

/-- A record that passed the check `valid` before it was stored. -/
abbrev Sealed {α : Type*} (valid : α → Bool) := {a : α // valid a = true}

/-- Check a record before it is stored. -/
def sealed {α ε : Type*} (valid : α → Bool) (e : ε) (a : α) : Except ε (Sealed valid) :=
  if h : valid a = true then .ok ⟨a, h⟩ else .error e

@[simp] theorem sealed_eq_ok {α ε : Type*} {valid : α → Bool} {e : ε} {a : α} {row : Sealed valid} :
    sealed valid e a = .ok row ↔ row.1 = a := by
  unfold sealed
  split
  case isTrue h =>
    constructor
    · rintro ⟨⟩; rfl
    · rintro rfl; rfl
  case isFalse h =>
    constructor
    · rintro ⟨⟩
    · rintro rfl; exact absurd row.2 h

/-- `ORDER BY`: the selected rows, stably sorted. -/
def orderBy {ρ : Type*} (le : ρ → ρ → Bool) (rows : List ρ) : List ρ :=
  rows.insertionSort fun r r' => le r r'

@[simp] theorem mem_orderBy {ρ : Type*} {le : ρ → ρ → Bool} {rows : List ρ} {r : ρ} :
    r ∈ orderBy le rows ↔ r ∈ rows :=
  mem_insertionSort _

theorem orderBy_perm {ρ : Type*} (le : ρ → ρ → Bool) (rows : List ρ) :
    (orderBy le rows).Perm rows :=
  perm_insertionSort _ _

/-- `ORDER BY` a total and transitive order: no row stands before a smaller one. -/
theorem orderBy_pairwise {ρ : Type*} {le : ρ → ρ → Bool}
    (htotal : ∀ r r', le r r' = true ∨ le r' r = true)
    (htrans : ∀ r r' r'', le r r' = true → le r' r'' = true → le r r'' = true) (rows : List ρ) :
    (orderBy le rows).Pairwise fun r r' => le r r' = true := by
  have : IsTrans ρ fun r r' : ρ => le r r' = true := ⟨htrans⟩
  have : Std.Total fun r r' : ρ => le r r' = true := ⟨htotal⟩
  exact pairwise_insertionSort _ rows

/-- Rows sorted by their images have sorted images. -/
theorem map_orderBy {ρ γ : Type*} {le : ρ → ρ → Bool} {le' : γ → γ → Bool} {f : ρ → γ}
    (h : ∀ r r', le r r' = le' (f r) (f r')) (rows : List ρ) :
    (orderBy le rows).map f = orderBy le' (rows.map f) :=
  map_insertionSort _ _ f rows fun r _ r' _ => by rw [h]

/-- `ORDER BY column`: the values of the column do not decrease. -/
theorem orderBy_sorted {ρ κ : Type*} [LinearOrder κ] (column : ρ → κ) (rows : List ρ) :
    (orderBy (fun r r' => column r ≤ column r') rows).Pairwise fun r r' =>
      column r ≤ column r' := by
  have hsorted := @orderBy_pairwise ρ (fun r r' => column r ≤ column r')
    (fun r r' => by simpa only [decide_eq_true_eq] using le_total (column r) (column r'))
    (fun r r' r'' h h' => by simp only [decide_eq_true_eq] at *; exact h.trans h') rows
  exact hsorted.imp fun h => of_decide_eq_true h

/-- `ORDER BY column` of the same rows, when no value occurs twice. -/
theorem orderBy_congr {ρ κ : Type*} [LinearOrder κ] (column : ρ → κ) {rows rows' : List ρ}
    (h : rows.Perm rows') (hcolumn : ∀ r ∈ rows, ∀ r' ∈ rows, column r = column r' → r = r') :
    orderBy (fun r r' => column r ≤ column r') rows =
      orderBy (fun r r' => column r ≤ column r') rows' := by
  refine ((orderBy_perm _ rows).trans (h.trans (orderBy_perm _ rows').symm)).eq_of_pairwise ?_ (orderBy_sorted column rows) (orderBy_sorted column rows')
  intro r r' hr hr' hle hle'
  exact hcolumn r (mem_orderBy.mp hr) r' (h.mem_iff.mpr (mem_orderBy.mp hr')) (hle.antisymm hle')

/-- `ORDER BY column LIMIT 1`: a row with the least value of the column. -/
theorem orderBy_head_le {ρ κ : Type*} [LinearOrder κ] {column : ρ → κ} {rows : List ρ} {r r' : ρ}
    (h : (orderBy (fun r r' => column r ≤ column r') rows).head? = some r) (hr' : r' ∈ rows) :
    column r ≤ column r' := by
  have hsorted := orderBy_sorted column rows
  have hmem : r' ∈ orderBy (fun r r' : ρ => decide (column r ≤ column r')) rows :=
    mem_orderBy.mpr hr'
  generalize orderBy (fun r r' : ρ => decide (column r ≤ column r')) rows = sorted
    at h hsorted hmem
  cases sorted with
  | nil => cases h
  | cons a as =>
    cases h
    rcases mem_cons.mp hmem with rfl | hmem
    · exact le_refl _
    · exact rel_of_pairwise_cons hsorted hmem

end Tiangong
