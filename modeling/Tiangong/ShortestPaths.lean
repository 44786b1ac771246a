import Mathlib.Data.Prod.Lex
import Tiangong.Dicts
import Tiangong.PythonText

/-!
# Shortest paths by breadth-first search

A search keeps one best path per node and explores the nodes in the order in which it found them.
With neighbours in increasing order the paths are found in the order of `(length, path)`, so that
no best path is ever improved, and the search ends with the least path to every reachable node.
-/
namespace Tiangong.Paths

open List

variable {ν : Type*} [LinearOrder ν] {p q : List ν} {a b : ν}

/-- How paths compare: by length, then as lists. -/
def rank (path : List ν) : ℕ ×ₗ List ν := toLex (path.length, path)

lemma rank_lt_iff : rank p < rank q ↔ p.length < q.length ∨ p.length = q.length ∧ p < q :=
  Prod.Lex.toLex_lt_toLex

omit [LinearOrder ν] in
theorem rank_injective (h : rank p = rank q) : p = q := congrArg (fun r => (ofLex r).2) h

lemma append_lt_append (h : p < q) (hlength : p.length = q.length) : p ++ [a] < q ++ [b] := by
  induction p generalizing q with
  | nil =>
    rw [eq_nil_of_length_eq_zero hlength.symm] at h
    exact absurd h (lt_irrefl _)
  | cons c p ih =>
    cases q with
    | nil => cases hlength
    | cons d q =>
      rcases cons_lt_cons_iff.mp h with hhead | ⟨rfl, htail⟩
      · exact cons_lt_cons_iff.mpr (.inl hhead)
      · exact cons_lt_cons_iff.mpr (.inr ⟨rfl, ih htail (by simpa using hlength)⟩)

/-- Prolonging two paths by one node each keeps their order. -/
lemma rank_append_lt (h : rank p < rank q) : rank (p ++ [a]) < rank (q ++ [b]) := by
  rw [rank_lt_iff] at h ⊢
  simp only [length_append, length_singleton, Nat.add_lt_add_iff_right, Nat.add_right_cancel_iff]
  exact h.imp_right fun h => ⟨h.1, append_lt_append h.2 h.1⟩

lemma rank_append_mono (h : rank p ≤ rank q) : rank (p ++ [a]) ≤ rank (q ++ [a]) := by
  rcases eq_or_lt_of_le h with h | h
  · rw [rank_injective h]
  · exact le_of_lt (rank_append_lt h)

lemma rank_append_le (p : List ν) (h : a ≤ b) : rank (p ++ [a]) ≤ rank (p ++ [b]) := by
  rcases eq_or_lt_of_le h with rfl | h
  · exact le_refl _
  · refine le_of_lt (rank_lt_iff.mpr (.inr ⟨by simp, ?_⟩))
    induction p with
    | nil => exact cons_lt_cons_iff.mpr (.inl h)
    | cons c p ih => exact cons_lt_cons_iff.mpr (.inr ⟨rfl, ih⟩)

lemma rank_lt_append (p : List ν) (a : ν) : rank p < rank (p ++ [a]) :=
  rank_lt_iff.mpr (.inl (by simp))

/-- The queue of found nodes, each with its path, and the best path of each node. -/
structure Search (ν : Type*) [LinearOrder ν] where
  queue : List (ν × List ν)
  best : Dict ν (List ν)

/-- One neighbour `target` of the node that `path` leads to. -/
def visit (path : List ν) (s : Search ν) (target : ν) : Search ν :=
  if target ∈ path then s
  else if (s.best.lookup target).any (fun prior => rank prior ≤ rank (path ++ [target])) then s
  else ⟨s.queue ++ [(target, path ++ [target])], s.best.insert target (path ++ [target])⟩

/-- The search from a queue, `none` when the fuel does not last. -/
def search (adj : ν → List ν) : ℕ → Search ν → Option (Dict ν (List ν))
  | _, ⟨[], best⟩ => some best
  | 0, ⟨_ :: _, _⟩ => none
  | fuel + 1, ⟨(node, path) :: queue, best⟩ =>
    search adj fuel ((adj node).foldl (visit path) ⟨queue, best⟩)

/-- `path` leads from `source` to a node along edges. -/
inductive Walk (edge : ν → ν → Prop) (source : ν) : ν → List ν → Prop
  | start : Walk edge source source [source]
  | step {u v : ν} {path : List ν} (walk : Walk edge source u path) (h : edge u v) :
    Walk edge source v (path ++ [v])

/-- A simple path of least rank. -/
structure LeastPath (edge : ν → ν → Prop) (source target : ν) (path : List ν) : Prop where
  walk : Walk edge source target path
  simple : path.Nodup
  least : ∀ other, Walk edge source target other → rank path ≤ rank other

/-- The entries found so far (`all`) are the explored ones (`done`) and the queued ones, in the
order of their ranks, while the neighbours `pending` of the node that `path` leads to are still to
be visited. -/
structure Searched (adj : ν → List ν) (source : ν) (done all : List (ν × List ν)) (path : List ν)
    (pending : List ν) (s : Search ν) : Prop where
  split : done ++ s.queue = all
  lookup : ∀ v p, s.best.lookup v = some p ↔ (v, p) ∈ all
  start : (source, [source]) ∈ all
  sorted : all.Pairwise fun e e' => rank e.2 < rank e'.2
  grown : ∀ v p, (v, p) ∈ all → (v = source ∧ p = [source]) ∨
    ∃ u q, (u, q) ∈ done ∧ v ∈ adj u ∧ v ∉ q ∧ p = q ++ [v]
  simple : ∀ v p, (v, p) ∈ all → Walk (fun u v => v ∈ adj u) source v p ∧ p.Nodup
  visited : ∀ u q, (u, q) ∈ all → ∀ v ∈ q, ∃ p, (v, p) ∈ all ∧ rank p ≤ rank q
  closed : ∀ u q, (u, q) ∈ done → ∀ v ∈ adj u, v ∉ q →
    (q = path ∧ v ∈ pending) ∨ ∃ p, (v, p) ∈ all ∧ rank p ≤ rank (q ++ [v])
  below : ∀ v p, (v, p) ∈ all → ∀ t ∈ pending, rank p ≤ rank (path ++ [t])

namespace Searched

variable {adj : ν → List ν} {source node t v : ν} {done all queue : List (ν × List ν)}
  {path pending nodes : List ν} {s : Search ν} {best : Dict ν (List ν)}

/-- The search from `source` alone. -/
theorem initial (path : List ν) : Searched adj source [] [(source, [source])] path []
    ⟨[(source, [source])], (∅ : Dict ν (List ν)).insert source [source]⟩ := by
  constructor
  case lookup =>
    intro v p
    rw [Dict.lookup_insert_eq]
    by_cases h : v = source
    · simp [h, eq_comm]
    · simp [h]
  case simple =>
    intro v p h
    cases mem_singleton.mp h
    exact ⟨.start, by simp⟩
  all_goals simp

/-- The entries belong to different nodes. -/
lemma nodes_nodup (h : Searched adj source done all path pending s) :
    (all.map Prod.fst).Nodup := by
  refine pairwise_map.mpr (h.sorted.imp_of_mem ?_)
  intro e e' he he' hlt heq
  have hbest := (h.lookup e.1 e.2).mpr he
  rw [heq, (h.lookup e'.1 e'.2).mpr he'] at hbest
  rw [Option.some.inj hbest] at hlt
  exact lt_irrefl _ hlt

/-- The next node of the queue is explored: its neighbours are pending. -/
theorem next (h : Searched adj source done all path [] ⟨(node, p) :: queue, best⟩) :
    Searched adj source (done ++ [(node, p)]) all p (adj node) ⟨queue, best⟩ := by
  have hnode : (node, p) ∈ all := h.split ▸ mem_append_right _ (mem_cons_self ..)
  refine ⟨by simpa using h.split, h.lookup, h.start, h.sorted, ?_, h.simple, h.visited, ?_, ?_⟩
  · intro v p' hmem
    exact (h.grown v p' hmem).imp_right fun ⟨u, q, hdone, hgrow⟩ =>
      ⟨u, q, mem_append_left _ hdone, hgrow⟩
  · intro u q hdone v hv hfresh
    rcases mem_append.mp hdone with hdone | hdone
    · exact (h.closed u q hdone v hv hfresh).imp_left fun hnone => by cases hnone.2
    · cases mem_singleton.mp hdone
      exact .inl ⟨rfl, hv⟩
  · intro v p' hmem t _
    rcases h.grown v p' hmem with ⟨-, rfl⟩ | ⟨u, q, hdone, -, -, rfl⟩
    · refine le_of_lt (rank_lt_iff.mpr (.inl ?_))
      cases (h.simple node p hnode).1 <;> simp
    · have hsorted := h.sorted
      rw [← h.split, pairwise_append] at hsorted
      exact le_of_lt (rank_append_lt (hsorted.2.2 _ hdone _ (mem_cons_self ..)))

/-- A neighbour that lies on the path, or has an entry already, is passed by. -/
theorem skip (h : Searched adj source done all path (t :: pending) s)
    (hskip : t ∈ path ∨ ∃ p, (t, p) ∈ all) : Searched adj source done all path pending s := by
  refine { h with closed := ?_, below := ?_ }
  · intro u q hdone v hv hfresh
    rcases h.closed u q hdone v hv hfresh with ⟨rfl, hpend⟩ | hfound
    · rcases mem_cons.mp hpend with rfl | hpend
      · obtain ⟨p, hp⟩ := hskip.resolve_left hfresh
        exact .inr ⟨p, hp, h.below v p hp v (mem_cons_self ..)⟩
      · exact .inl ⟨rfl, hpend⟩
    · exact .inr hfound
  · exact fun v p hmem t' ht' => h.below v p hmem t' (mem_cons_of_mem _ ht')

/-- A neighbour without an entry gets one, which is the greatest so far. -/
theorem found (h : Searched adj source done all path (t :: pending) s)
    (hnode : (node, path) ∈ done) (ht : t ∈ adj node) (hpending : ∀ t' ∈ pending, t ≤ t')
    (hpath : t ∉ path) (hnew : s.best.lookup t = none) :
    Searched adj source done (all ++ [(t, path ++ [t])]) path pending
      ⟨s.queue ++ [(t, path ++ [t])], s.best.insert t (path ++ [t])⟩ := by
  have hold : ∀ p, (t, p) ∉ all := by
    intro p hmem
    rw [(h.lookup t p).mpr hmem] at hnew
    cases hnew
  have hmem_iff : ∀ v p, (v, p) ∈ all ++ [(t, path ++ [t])] ↔
      (v, p) ∈ all ∨ v = t ∧ p = path ++ [t] := by simp
  have hall : (node, path) ∈ all := h.split ▸ mem_append_left _ hnode
  constructor
  · rw [← h.split, append_assoc]
  · intro v p
    rw [Dict.lookup_insert_eq, hmem_iff]
    by_cases hv : v = t
    · simp [hv, hold, eq_comm]
    · simp [hv, h.lookup]
  · exact mem_append_left _ h.start
  · refine pairwise_append.mpr ⟨h.sorted, pairwise_singleton _ _, ?_⟩
    intro e he e' he'
    rw [mem_singleton.mp he']
    refine lt_of_le_of_ne (h.below e.1 e.2 he t (mem_cons_self ..)) fun heq => ?_
    -- equal ranks are equal paths, and a path ends in its node
    have hnodes : e.1 = t := by
      have hlast : e.2.getLast? = some e.1 := by
        rcases h.grown e.1 e.2 he with ⟨hv, hp⟩ | ⟨u, q, -, -, -, hp⟩ <;> simp [hp]
        exact hv.symm
      rw [rank_injective heq] at hlast
      simpa using hlast.symm
    exact hold e.2 (hnodes ▸ he)
  · intro v p hmem
    rcases (hmem_iff v p).mp hmem with hmem | ⟨rfl, rfl⟩
    · exact h.grown v p hmem
    · exact .inr ⟨node, path, hnode, ht, hpath, rfl⟩
  · intro v p hmem
    rcases (hmem_iff v p).mp hmem with hmem | ⟨rfl, rfl⟩
    · exact h.simple v p hmem
    · have hsimple := h.simple node path hall
      exact ⟨hsimple.1.step ht, nodup_append_comm.mp (nodup_cons.mpr ⟨hpath, hsimple.2⟩)⟩
  · intro u q hmem v hv
    rcases (hmem_iff u q).mp hmem with hold | ⟨rfl, rfl⟩
    · obtain ⟨p, hp, hle⟩ := h.visited u q hold v hv
      exact ⟨p, mem_append_left _ hp, hle⟩
    · rcases mem_append.mp hv with hv | hv
      · obtain ⟨p, hp, hle⟩ := h.visited node path hall v hv
        exact ⟨p, mem_append_left _ hp, hle.trans (le_of_lt (rank_lt_append path u))⟩
      · rw [mem_singleton.mp hv]
        exact ⟨_, hmem, le_refl _⟩
  · intro u q hdone v hv hfresh
    rcases h.closed u q hdone v hv hfresh with ⟨rfl, hpend⟩ | ⟨p, hp, hle⟩
    · rcases mem_cons.mp hpend with rfl | hpend
      · exact .inr ⟨_, (hmem_iff _ _).mpr (.inr ⟨rfl, rfl⟩), le_refl _⟩
      · exact .inl ⟨rfl, hpend⟩
    · exact .inr ⟨p, mem_append_left _ hp, hle⟩
  · intro v p hmem t' ht'
    rcases (hmem_iff v p).mp hmem with hmem | ⟨rfl, rfl⟩
    · exact h.below v p hmem t' (mem_cons_of_mem _ ht')
    · exact rank_append_le path (hpending t' ht')

lemma visit (h : Searched adj source done all path (t :: pending) s)
    (hnode : (node, path) ∈ done) (ht : t ∈ adj node) (hpending : ∀ t' ∈ pending, t ≤ t') :
    ∃ all, Searched adj source done all path pending (visit path s t) := by
  rw [Paths.visit]
  cases hbest : s.best.lookup t with
  | none =>
    simp only [Option.any_none, Bool.false_eq_true, if_false]
    split_ifs with hpath
    · exact ⟨all, h.skip (.inl hpath)⟩
    · exact ⟨_, h.found hnode ht hpending hpath hbest⟩
  | some prior =>
    have hprior := (h.lookup t prior).mp hbest
    have hle := h.below t prior hprior t (mem_cons_self ..)
    rw [Option.any_some, decide_eq_true hle, if_pos rfl, ite_self]
    exact ⟨all, h.skip (.inr ⟨prior, hprior⟩)⟩

lemma visitAll (hnode : (node, path) ∈ done) (hsorted : pending.Pairwise (· ≤ ·))
    (hadj : ∀ t ∈ pending, t ∈ adj node) (h : Searched adj source done all path pending s) :
    ∃ all, Searched adj source done all path [] (pending.foldl (Paths.visit path) s) := by
  induction pending generalizing s all with
  | nil => exact ⟨all, h⟩
  | cons t pending ih =>
    rw [pairwise_cons] at hsorted
    obtain ⟨all', h'⟩ := h.visit hnode (hadj t (mem_cons_self ..)) hsorted.1
    exact ih hsorted.2 (fun t' ht' => hadj t' (mem_cons_of_mem _ ht')) h'

/-- Once the queue is empty, every walk has an entry of no greater rank. -/
theorem least (h : Searched adj source done all path [] ⟨[], best⟩)
    (hwalk : Walk (fun u v => v ∈ adj u) source v p) : ∃ q, (v, q) ∈ all ∧ rank q ≤ rank p := by
  induction hwalk with
  | start => exact ⟨[source], h.start, le_refl _⟩
  | @step u v p walk hv ih =>
    obtain ⟨q, hq, hle⟩ := ih
    by_cases hvisit : v ∈ q
    · obtain ⟨q', hq', hle'⟩ := h.visited u q hq v hvisit
      exact ⟨q', hq', (hle'.trans hle).trans (le_of_lt (rank_lt_append p v))⟩
    · have hdone : (u, q) ∈ done := by simpa [← h.split] using hq
      obtain ⟨q', hq', hle'⟩ := (h.closed u q hdone v hv hvisit).resolve_left fun hnone => by
        cases hnone.2
      exact ⟨q', hq', hle'.trans (rank_append_mono hle)⟩

/-- Once the queue is empty, the best paths are the least ones, and none is missing. -/
lemma best_iff (h : Searched adj source done all path [] ⟨[], best⟩) (v : ν) :
    (∀ p, best.lookup v = some p ↔ LeastPath (fun u v => v ∈ adj u) source v p) ∧
      ∀ p, Walk (fun u v => v ∈ adj u) source v p → ∃ q, best.lookup v = some q := by
  have hlookup : ∀ p, best.lookup v = some p ↔ (v, p) ∈ all := h.lookup v
  simp only [hlookup]
  refine ⟨fun p => ⟨fun hmem => ?_, fun hleast => ?_⟩, fun p hwalk => ?_⟩
  · refine ⟨(h.simple v p hmem).1, (h.simple v p hmem).2, fun other hother => ?_⟩
    obtain ⟨q, hq, hle⟩ := h.least hother
    have hsame := ((hlookup p).mpr hmem).symm.trans ((hlookup q).mpr hq)
    rwa [Option.some.inj hsame]
  · obtain ⟨q, hq, hle⟩ := h.least hleast.walk
    rwa [rank_injective (le_antisymm (hleast.least q (h.simple v q hq).1) hle)]
  · exact (h.least hwalk).imp fun q hq => hq.1

/-- With as much fuel as there are nodes the search ends, with the least path to every node that
can be reached. -/
theorem search_exact (hsource : source ∈ nodes) (hnodes : ∀ u, ∀ v ∈ adj u, v ∈ nodes)
    (hsorted : ∀ u, (adj u).Pairwise (· ≤ ·)) (h : Searched adj source done all path [] s)
    (fuel : ℕ) (hfuel : nodes.length ≤ fuel + done.length) :
    ∃ best, search adj fuel s = some best ∧ ∀ v,
      (∀ p, best.lookup v = some p ↔ LeastPath (fun u v => v ∈ adj u) source v p) ∧
        ∀ p, Walk (fun u v => v ∈ adj u) source v p → ∃ q, best.lookup v = some q := by
  induction fuel generalizing done all path s with
  | zero =>
    obtain ⟨queue, best⟩ := s
    cases queue with
    | nil => exact ⟨best, by rw [search], h.best_iff⟩
    | cons e queue =>
      -- more entries than nodes
      have hsubset : all.map Prod.fst ⊆ nodes := by
        intro v hv
        obtain ⟨⟨v, p⟩, hmem, rfl⟩ := mem_map.mp hv
        rcases h.grown v p hmem with ⟨rfl, -⟩ | ⟨u, q, -, hadj, -⟩
        · exact hsource
        · exact hnodes u v hadj
      have hlength := (subperm_of_subset h.nodes_nodup hsubset).length_le
      simp only [← h.split, length_map, length_append, length_cons] at hlength
      omega
  | succ fuel ih =>
    obtain ⟨queue, best⟩ := s
    cases queue with
    | nil => exact ⟨best, by rw [search], h.best_iff⟩
    | cons e queue =>
      obtain ⟨node, p⟩ := e
      obtain ⟨all', h'⟩ := h.next.visitAll (by simp) (hsorted node) fun t ht => ht
      rw [search]
      refine ih h' ?_
      rw [length_append, length_singleton]
      omega

end Searched

end Tiangong.Paths
