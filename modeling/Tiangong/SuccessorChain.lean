import Mathlib.Data.List.Chain
import Mathlib.Data.List.Induction
import Tiangong.AmbiguousRepair
import Tiangong.ConcludedEffects

/-!
# The successor chain of a plan entry

Each accepted binding continues the chain at the subject that the resolver names. The resolver reads
the bindings in the order of their times, so it names the newest subject as long as the times do not
go back; a binding that is older than one on file is not read as the end of the chain.
-/
namespace Tiangong

open List

namespace SubjectSuccessor

/-- The second binding continues the first. -/
def Continues (b b' : SubjectSuccessor) : Prop :=
  b.successorSubjectIdentity = b'.predecessorSubjectIdentity

end SubjectSuccessor

/-- The end of a chain of bindings, in the order in which they are read. -/
def resolveBindings : List SubjectSuccessor → SubjectResolution
  | [] => ⟨none, 0, []⟩
  | b :: bs => bs.foldl .follow ⟨some b.successorSubjectIdentity, 1, [b.successorBindingId]⟩

section Resolve

variable {r : SubjectResolution} {b : SubjectSuccessor} {bs : List SubjectSuccessor}

lemma foldl_follow_depth_le (r : SubjectResolution) (bs : List SubjectSuccessor) :
    (bs.foldl .follow r).successorDepth ≤ r.successorDepth + bs.length := by
  induction bs generalizing r with
  | nil => exact le_refl _
  | cons b bs ih =>
    have hrest := ih (r.follow b)
    have hfirst : (r.follow b).successorDepth ≤ r.successorDepth + 1 := by
      unfold SubjectResolution.follow
      split
      · exact le_refl _
      · exact Nat.le_succ _
    rw [foldl_cons, length_cons]
    omega

/-- Bindings that are all read continue one another. -/
lemma isChain_of_foldl_follow (hr : r.effectiveSubjectIdentity = some b.successorSubjectIdentity)
    (hdepth : (bs.foldl .follow r).successorDepth = r.successorDepth + bs.length) :
    (b :: bs).IsChain SubjectSuccessor.Continues := by
  induction bs generalizing r b with
  | nil => exact isChain_singleton b
  | cons c bs ih =>
    rw [foldl_cons, length_cons] at hdepth
    by_cases hfollows : some c.predecessorSubjectIdentity = r.effectiveSubjectIdentity
    · have hstep : r.follow c = ⟨some c.successorSubjectIdentity, r.successorDepth + 1,
          r.chainBindingIds ++ [c.successorBindingId]⟩ := if_pos hfollows
      rw [hstep] at hdepth
      refine isChain_cons_cons.mpr ⟨?_, ?_⟩
      · rw [hr] at hfollows
        exact (Option.some.inj hfollows).symm
      · have hrest : (bs.foldl .follow (⟨some c.successorSubjectIdentity, r.successorDepth + 1,
            r.chainBindingIds ++ [c.successorBindingId]⟩ : SubjectResolution)).successorDepth =
              r.successorDepth + 1 + bs.length := by
          rw [hdepth]
          omega
        exact ih rfl hrest
    · have hstep : r.follow c = r := if_neg hfollows
      have hle := foldl_follow_depth_le r bs
      rw [hstep] at hdepth
      omega

lemma isChain_of_depth (h : (resolveBindings bs).successorDepth = bs.length) :
    bs.IsChain SubjectSuccessor.Continues := by
  cases bs with
  | nil => exact List.IsChain.nil
  | cons b bs =>
    have hdepth : (bs.foldl .follow (⟨some b.successorSubjectIdentity, 1,
        [b.successorBindingId]⟩ : SubjectResolution)).successorDepth = 1 + bs.length := by
      rw [resolveBindings] at h
      rw [h, length_cons]
      exact Nat.add_comm _ _
    exact isChain_of_foldl_follow rfl hdepth

/-- One more binding that continues the chain is read as its end. -/
lemma resolveBindings_concat (hcontinues : some b.predecessorSubjectIdentity =
    (resolveBindings bs).effectiveSubjectIdentity) :
    (resolveBindings (bs ++ [b])).effectiveSubjectIdentity = some b.successorSubjectIdentity ∧
      (resolveBindings (bs ++ [b])).successorDepth = (resolveBindings bs).successorDepth + 1 := by
  cases bs with
  | nil => cases hcontinues
  | cons c cs =>
    rw [cons_append, resolveBindings, foldl_append, foldl_cons, foldl_nil]
    have hstep : ∀ r : SubjectResolution,
        some b.predecessorSubjectIdentity = r.effectiveSubjectIdentity →
          (r.follow b).effectiveSubjectIdentity = some b.successorSubjectIdentity ∧
            (r.follow b).successorDepth = r.successorDepth + 1 := by
      intro r hr
      rw [SubjectResolution.follow, if_pos hr]
      exact ⟨rfl, rfl⟩
    exact hstep _ hcontinues

end Resolve

/-- What a chain of accepted bindings is expected to be: the resolver names the end of the last one
and counts them all, no two share a predecessor, no subject occurs twice, and the depth stays within
the policy. -/
structure SuccessorChain (bindings : List SubjectSuccessor) (r : SubjectResolution) : Prop where
  tip : r.effectiveSubjectIdentity = bindings.getLast?.map (·.successorSubjectIdentity)
  depth : r.successorDepth = bindings.length
  predecessors : (bindings.map (·.predecessorSubjectIdentity)).Nodup
  subjects : ((bindings.head?.map (·.predecessorSubjectIdentity)).toList ++
    bindings.map (·.successorSubjectIdentity)).Nodup
  bounded : r.successorDepth ≤ defaultPolicy.maxSubjectSuccessorDepth

inductive SuccessorOp where
  | put (successor : SubjectSuccessor) (recordedAtMs : ℕ)
  /-- Another operation writes other tables. -/
  | elsewhere (t : RepairStore)

namespace RepairStore

variable {s s' : RepairStore} {planEntryId : Canon}

def applySuccessor (s : RepairStore) : SuccessorOp → RepairStore × Except RepairError Bool
  | .put successor recordedAtMs =>
    committed s id (s.putVerificationSubjectSuccessor successor recordedAtMs)
  | .elsewhere t => ({ t with subjectSuccessors := s.subjectSuccessors }, .ok false)

def entryBindings (s : RepairStore) (planEntryId : Canon) : List SubjectSuccessor :=
  (s.subjectSuccessors.rows.map (·.1)).filter fun b => b.planEntryId = planEntryId

lemma listSuccessors_perm (s : RepairStore) (planEntryId : Canon) :
    (s.listVerificationSubjectSuccessors planEntryId).Perm (s.entryBindings planEntryId) :=
  orderBy_perm _ _

lemma resolve_eq (s : RepairStore) (planEntryId : Canon) :
    s.resolveVerificationSubject planEntryId =
      resolveBindings (s.listVerificationSubjectSuccessors planEntryId) := by
  unfold resolveVerificationSubject resolveBindings
  cases s.listVerificationSubjectSuccessors planEntryId <;> rfl

/-- Bindings whose times do not go back are read in the order of their insertion. -/
lemma listSuccessors_of_sorted (h : (s.entryBindings planEntryId).Pairwise
    fun b b' => b.boundAtMs ≤ b'.boundAtMs) :
    s.listVerificationSubjectSuccessors planEntryId = s.entryBindings planEntryId := by
  unfold listVerificationSubjectSuccessors orderBy
  apply List.Pairwise.insertionSort_eq
  exact h.imp fun hle => decide_eq_true hle

/-- What the store checked of a new binding that it accepted. -/
structure Extends (s : RepairStore) (b : SubjectSuccessor) (originalSubject : Option String) :
    Prop where
  continues : some b.predecessorSubjectIdentity =
    (s.resolveVerificationSubject b.planEntryId).effectiveSubjectIdentity.or originalSubject
  moves : b.successorSubjectIdentity ≠ b.predecessorSubjectIdentity
  fresh : ∀ b' ∈ s.entryBindings b.planEntryId,
    b.successorSubjectIdentity ≠ b'.predecessorSubjectIdentity ∧
      b.successorSubjectIdentity ≠ b'.successorSubjectIdentity
  bounded : (s.resolveVerificationSubject b.planEntryId).successorDepth + 1 ≤
    defaultPolicy.maxSubjectSuccessorDepth

lemma revalidateSubjectSuccessor_extends {b : SubjectSuccessor}
    (h : revalidateSubjectSuccessor b s = .ok ()) : ∃ originalSubject, s.Extends b originalSubject := by
  simp only [revalidateSubjectSuccessor, eq_ok_iff] at h
  obtain ⟨_, -, -, -, -, -, hcontinues, -, _, -, -, -, -, -, -, hcycle, hdepth, -⟩ := h
  refine ⟨_, not_not.mp hcontinues, fun heq => hcycle (.inl heq), ?_, Nat.not_lt.mp hdepth⟩
  intro b' hb'
  have hlisted := (listSuccessors_perm s b.planEntryId).mem_iff.mpr hb'
  rw [not_or] at hcycle
  refine ⟨fun heq => hcycle.2 ?_, fun heq => hcycle.2 ?_⟩
  · exact mem_append_left _ (mem_append_left _ (mem_map.mpr ⟨b', hlisted, heq.symm⟩))
  · exact mem_append_left _
      (mem_append_right _ (mem_map.mpr ⟨b', hlisted, heq.symm⟩))

/-- A binding was on file, or it is new and continues the chain. -/
lemma putSuccessor_cases {b : SubjectSuccessor} {recordedAtMs : ℕ} {created : Bool}
    (h : s.putVerificationSubjectSuccessor b recordedAtMs = .ok (created, s')) :
    (created = false ∧ s' = s) ∨ (created = true ∧ (∃ originalSubject, s.Extends b originalSubject) ∧
      ∀ planEntryId, s'.entryBindings planEntryId = s.entryBindings planEntryId ++
        if b.planEntryId = planEntryId then [b] else []) := by
  obtain ⟨row, rfl, -, ⟨rfl, rfl, -⟩ | ⟨rfl, hchecked, rows, hinserts, rfl⟩⟩ := putSealed_cases h
  · exact .inl ⟨rfl, rfl⟩
  · refine .inr ⟨rfl, revalidateSubjectSuccessor_extends hchecked, ?_⟩
    intro planEntryId
    show (rows.rows.map (·.1)).filter _ = _
    rw [hinserts.rows, map_append, filter_append, map_singleton]
    congr 1
    by_cases hentry : row.1.planEntryId = planEntryId
    · simp [hentry]
    · simp [hentry]

end RepairStore

def successorMachine : Machine RepairStore SuccessorOp (Except RepairError Bool) :=
  ⟨RepairStore.applySuccessor⟩

def acceptedBinding (planEntryId : Canon) :
    RepairStore × SuccessorOp × Except RepairError Bool → Option SubjectSuccessor
  | (_, .put successor _, .ok true) =>
    if successor.planEntryId = planEntryId then some successor else none
  | _ => none

/-- The bindings that a run accepts for the entry, in the order of their acceptance. -/
def acceptedBindings (planEntryId : Canon) (s : RepairStore) (ops : List SuccessorOp) :
    List SubjectSuccessor :=
  (successorMachine.trace s ops).filterMap (acceptedBinding planEntryId)

/-- The times of the bindings do not go back. -/
def InTimeOrder (bindings : List SubjectSuccessor) : Prop :=
  bindings.Pairwise fun b b' => b.boundAtMs ≤ b'.boundAtMs

section Chain

variable {b c : SubjectSuccessor} {bs : List SubjectSuccessor}

lemma chain_subjects (h : (c :: bs).IsChain SubjectSuccessor.Continues) :
    c.predecessorSubjectIdentity :: (c :: bs).map (·.successorSubjectIdentity) =
      (c :: bs).map (·.predecessorSubjectIdentity) ++
        [((c :: bs).getLast (cons_ne_nil c bs)).successorSubjectIdentity] := by
  induction bs generalizing c with
  | nil => rfl
  | cons d bs ih =>
    obtain ⟨hcontinues, hrest⟩ := isChain_cons_cons.mp h
    have hd := ih hrest
    rw [getLast_cons (cons_ne_nil d bs), map_cons, map_cons (l := d :: bs), cons_append, ← hd]
    rw [show c.successorSubjectIdentity = d.predecessorSubjectIdentity from hcontinues]

/-- No two bindings of a chain without repeated subjects share a predecessor. -/
lemma predecessors_nodup (h : bs.IsChain SubjectSuccessor.Continues)
    (hsubjects : ((bs.head?.map (·.predecessorSubjectIdentity)).toList ++
      bs.map (·.successorSubjectIdentity)).Nodup) :
    (bs.map (·.predecessorSubjectIdentity)).Nodup := by
  cases bs with
  | nil => exact nodup_nil
  | cons c cs =>
    have hall : (c.predecessorSubjectIdentity ::
        (c :: cs).map (·.successorSubjectIdentity)).Nodup := hsubjects
    rw [chain_subjects h] at hall
    exact (nodup_append.mp hall).1

/-- A binding of a sorted chain that is followed in time is followed in the chain. -/
lemma exists_continues (hchain : bs.IsChain SubjectSuccessor.Continues) (hsorted : InTimeOrder bs)
    (hb : b ∈ bs) (hc : c ∈ bs) (hlater : b.boundAtMs < c.boundAtMs) :
    ∃ d ∈ bs, b.Continues d := by
  obtain ⟨before, rest, rfl⟩ := append_of_mem hb
  cases rest with
  | nil =>
    rcases mem_append.mp hc with hc | hc
    · have hle := (pairwise_append.mp hsorted).2.2 c hc b (mem_singleton_self b)
      omega
    · rw [mem_singleton.mp hc] at hlater
      exact absurd hlater (lt_irrefl _)
  | cons d rest =>
    have hcontinues := (isChain_cons_cons.mp (isChain_append.mp hchain).2.1).1
    exact ⟨d, by simp, hcontinues⟩

end Chain

namespace RepairStore

variable {s s' : RepairStore} {planEntryId : Canon}

/-- What the resolver answers is determined by the bindings of the entry. -/
theorem resolve_congr (h : s'.entryBindings planEntryId = s.entryBindings planEntryId) :
    s'.resolveVerificationSubject planEntryId = s.resolveVerificationSubject planEntryId := by
  have hlist : s'.listVerificationSubjectSuccessors planEntryId =
      s.listVerificationSubjectSuccessors planEntryId := by
    show orderBy _ (s'.entryBindings planEntryId) = orderBy _ (s.entryBindings planEntryId)
    rw [h]
  rw [resolve_eq, resolve_eq, hlist]

theorem Extends.chain {b : SubjectSuccessor} {originalSubject : Option String}
    (h : s.Extends b originalSubject)
    (hchain : SuccessorChain (s.entryBindings b.planEntryId)
      (s.resolveVerificationSubject b.planEntryId))
    (hentries : s'.entryBindings b.planEntryId = s.entryBindings b.planEntryId ++ [b])
    (hsorted : InTimeOrder (s'.entryBindings b.planEntryId)) :
    SuccessorChain (s'.entryBindings b.planEntryId)
      (s'.resolveVerificationSubject b.planEntryId) := by
  have hread' : s'.resolveVerificationSubject b.planEntryId =
      resolveBindings (s.entryBindings b.planEntryId ++ [b]) := by
    rw [resolve_eq, listSuccessors_of_sorted hsorted, hentries]
  have hbefore : InTimeOrder (s.entryBindings b.planEntryId) := by
    rw [hentries] at hsorted
    exact (pairwise_append.mp hsorted).1
  have hread : s.resolveVerificationSubject b.planEntryId =
      resolveBindings (s.entryBindings b.planEntryId) := by
    rw [resolve_eq, listSuccessors_of_sorted hbefore]
  obtain ⟨hcontinues, hmoves, hfresh, hbounded⟩ := h
  obtain ⟨htip, hdepth, -, hsubjects, -⟩ := hchain
  rw [hread] at hcontinues hbounded htip hdepth
  rw [hread', hentries]
  cases hbindings : s.entryBindings b.planEntryId with
  | nil =>
    refine ⟨rfl, rfl, nodup_singleton _, ?_, ?_⟩
    · show [b.predecessorSubjectIdentity, b.successorSubjectIdentity].Nodup
      simp [hmoves.symm]
    · rw [hbindings] at hbounded
      exact hbounded
  | cons c cs =>
    rw [hbindings] at hcontinues hbounded htip hdepth hsubjects hfresh
    have hend : some b.predecessorSubjectIdentity =
        (resolveBindings (c :: cs)).effectiveSubjectIdentity := by
      rw [htip, List.getLast?_eq_some_getLast (cons_ne_nil c cs)] at hcontinues ⊢
      exact hcontinues
    obtain ⟨htip', hdepth'⟩ := resolveBindings_concat hend
    rw [hdepth] at hdepth' hbounded
    have hlength : (resolveBindings (c :: cs ++ [b])).successorDepth = (c :: cs ++ [b]).length := by
      rw [hdepth', length_append, length_singleton]
    have hsubjects' : (((c :: cs ++ [b]).head?.map (·.predecessorSubjectIdentity)).toList ++
        (c :: cs ++ [b]).map (·.successorSubjectIdentity)).Nodup := by
      show (c.predecessorSubjectIdentity :: (c :: cs ++ [b]).map (·.successorSubjectIdentity)).Nodup
      rw [map_append, ← cons_append, nodup_append]
      refine ⟨hsubjects, nodup_singleton _, ?_⟩
      intro subject hsubject subject' hnew heq
      rw [mem_singleton.mp hnew] at heq
      rcases mem_cons.mp hsubject with rfl | hold
      · exact (hfresh c mem_cons_self).1 heq.symm
      · obtain ⟨b', hb', rfl⟩ := mem_map.mp hold
        exact (hfresh b' hb').2 heq.symm
    refine ⟨?_, hlength, predecessors_nodup (isChain_of_depth hlength) hsubjects', hsubjects', ?_⟩
    · rw [htip', List.getLast?_concat]
      rfl
    · rw [hdepth']
      exact hbounded

/-- A new binding is counted only when it is not older than the others. -/
lemma Extends.not_older {b : SubjectSuccessor} {originalSubject : Option String}
    (h : s.Extends b originalSubject)
    (hentries : s'.entryBindings b.planEntryId = s.entryBindings b.planEntryId ++ [b])
    (hdepth : (s'.resolveVerificationSubject b.planEntryId).successorDepth =
      (s'.entryBindings b.planEntryId).length) :
    ∀ b' ∈ s.entryBindings b.planEntryId, b'.boundAtMs ≤ b.boundAtMs := by
  have hperm := listSuccessors_perm s' b.planEntryId
  have hchain : (s'.listVerificationSubjectSuccessors b.planEntryId).IsChain
      SubjectSuccessor.Continues := by
    apply isChain_of_depth
    rw [← resolve_eq, hdepth, hperm.length_eq]
  have hsorted : InTimeOrder (s'.listVerificationSubjectSuccessors b.planEntryId) :=
    orderBy_sorted SubjectSuccessor.boundAtMs _
  rw [hentries] at hperm
  intro b' hb'
  by_contra hlater
  obtain ⟨d, hd, hcontinues⟩ := exists_continues hchain hsorted
    (hperm.mem_iff.mpr (mem_append_right _ (mem_singleton_self b)))
    (hperm.mem_iff.mpr (mem_append_left _ hb')) (Nat.not_le.mp hlater)
  rcases mem_append.mp (hperm.mem_iff.mp hd) with hold | hself
  · exact (h.fresh d hold).1 hcontinues
  · rw [mem_singleton.mp hself] at hcontinues
    exact h.moves hcontinues

theorem step_cases (s : RepairStore) (i : SuccessorOp) (planEntryId : Canon) :
    (acceptedBinding planEntryId (s, i, (successorMachine.step s i).2) = none ∧
      (successorMachine.step s i).1.entryBindings planEntryId = s.entryBindings planEntryId) ∨
    ∃ b originalSubject, b.planEntryId = planEntryId ∧
      acceptedBinding planEntryId (s, i, (successorMachine.step s i).2) = some b ∧
      s.Extends b originalSubject ∧ (successorMachine.step s i).1.entryBindings planEntryId =
        s.entryBindings planEntryId ++ [b] := by
  cases i with
  | elsewhere t => exact .inl ⟨rfl, rfl⟩
  | put b recordedAtMs =>
    cases hput : s.putVerificationSubjectSuccessor b recordedAtMs with
    | error e =>
      have hstep : successorMachine.step s (.put b recordedAtMs) = (s, .error e) := by
        show committed s id _ = _
        rw [hput]
        rfl
      rw [hstep]
      exact .inl ⟨rfl, rfl⟩
    | ok pair =>
      obtain ⟨created, s'⟩ := pair
      have hstep : successorMachine.step s (.put b recordedAtMs) = (s', .ok created) := by
        show committed s id _ = _
        rw [hput]
        rfl
      rw [hstep]
      rcases putSuccessor_cases hput with ⟨rfl, rfl⟩ | ⟨rfl, ⟨originalSubject, hextends⟩, hentries⟩
      · exact .inl ⟨rfl, rfl⟩
      · by_cases hentry : b.planEntryId = planEntryId
        · refine .inr ⟨b, originalSubject, hentry, if_pos hentry, hextends, ?_⟩
          rw [hentries, if_pos hentry]
        · refine .inl ⟨if_neg hentry, ?_⟩
          rw [hentries, if_neg hentry, append_nil]

lemma acceptedBindings_concat (planEntryId : Canon) (s : RepairStore) (ops : List SuccessorOp)
    (i : SuccessorOp) : acceptedBindings planEntryId s (ops ++ [i]) =
      acceptedBindings planEntryId s ops ++ (acceptedBinding planEntryId (successorMachine.exec s ops,
        i, (successorMachine.step (successorMachine.exec s ops) i).2)).toList := by
  rw [acceptedBindings, Machine.trace_append, filterMap_append]
  rfl

/-- The bindings on file are those that the run accepted. -/
lemma exec_entryBindings (planEntryId : Canon) (s : RepairStore) (ops : List SuccessorOp) :
    (successorMachine.exec s ops).entryBindings planEntryId =
      s.entryBindings planEntryId ++ acceptedBindings planEntryId s ops := by
  induction ops using List.reverseRecOn with
  | nil => exact (append_nil _).symm
  | append_singleton ops i ih =>
    rw [Machine.exec_concat, acceptedBindings_concat, ← append_assoc, ← ih]
    rcases step_cases (successorMachine.exec s ops) i planEntryId with
      ⟨hnone, hsame⟩ | ⟨b, _, -, hsome, -, hentries⟩
    · rw [hnone, hsame, Option.toList_none, append_nil]
    · rw [hsome, hentries]
      rfl

/-- A store in which no subject has a successor yet. -/
def unbound (t : RepairStore) : RepairStore := { t with subjectSuccessors := .empty }

lemma exec_unbound (planEntryId : Canon) (t : RepairStore) (ops : List SuccessorOp) :
    (successorMachine.exec t.unbound ops).entryBindings planEntryId =
      acceptedBindings planEntryId t.unbound ops := by
  rw [exec_entryBindings]
  rfl

end RepairStore

/-- In a run whose chain is right after every step the bindings come in the order of time. -/
lemma inTimeOrder_of_chains {planEntryId : Canon} {t : RepairStore} {ops : List SuccessorOp}
    (h : ∀ before after, ops = before ++ after → SuccessorChain
      (acceptedBindings planEntryId t.unbound before)
      ((successorMachine.exec t.unbound before).resolveVerificationSubject planEntryId)) :
    InTimeOrder (acceptedBindings planEntryId t.unbound ops) := by
  induction ops using List.reverseRecOn with
  | nil => exact List.Pairwise.nil
  | append_singleton ops i ih =>
    have hbefore : InTimeOrder (acceptedBindings planEntryId t.unbound ops) := by
      apply ih
      intro before after hops
      exact h before (after ++ [i]) (by rw [hops, append_assoc])
    have hlast := (h (ops ++ [i]) [] (append_nil _).symm).depth
    rw [RepairStore.acceptedBindings_concat] at hlast ⊢
    rcases RepairStore.step_cases (successorMachine.exec t.unbound ops) i planEntryId with
      ⟨hnone, -⟩ | ⟨b, originalSubject, rfl, hsome, hextends, hentries⟩
    · rw [hnone, Option.toList_none, append_nil]
      exact hbefore
    · have hfile := RepairStore.exec_unbound b.planEntryId t ops
      rw [hsome, Machine.exec_concat, ← hfile, Option.toList_some, ← hentries] at hlast
      have holder := hextends.not_older hentries hlast
      rw [hsome, Option.toList_some]
      refine pairwise_append.mpr ⟨hbefore, pairwise_singleton _ b, ?_⟩
      intro b' hb' c hc
      rw [mem_singleton.mp hc]
      exact holder b' (by rw [hfile]; exact hb')

lemma chain_of_inTimeOrder {planEntryId : Canon} {t : RepairStore} {ops : List SuccessorOp}
    (h : InTimeOrder (acceptedBindings planEntryId t.unbound ops)) :
    SuccessorChain (acceptedBindings planEntryId t.unbound ops)
      ((successorMachine.exec t.unbound ops).resolveVerificationSubject planEntryId) := by
  induction ops using List.reverseRecOn with
  | nil => exact ⟨rfl, rfl, nodup_nil, nodup_nil, Nat.zero_le _⟩
  | append_singleton ops i ih =>
    rw [RepairStore.acceptedBindings_concat] at h
    have hchain := ih (pairwise_append.mp h).1
    rw [← RepairStore.exec_unbound] at hchain
    rw [← RepairStore.acceptedBindings_concat, ← RepairStore.exec_unbound] at h
    rw [← RepairStore.exec_unbound]
    rw [Machine.exec_concat] at h ⊢
    rcases RepairStore.step_cases (successorMachine.exec t.unbound ops) i planEntryId with
      ⟨-, hsame⟩ | ⟨b, originalSubject, rfl, -, hextends, hentries⟩
    · rw [hsame, RepairStore.resolve_congr hsame]
      exact hchain
    · exact hextends.chain hchain hentries h

/-- The chain of an entry is right after every step of a run if and only if the bindings that the
run accepts come in the order of their times. -/
theorem successorChain_iff (t : RepairStore) (ops : List SuccessorOp) (planEntryId : Canon) :
    (∀ before after, ops = before ++ after → SuccessorChain
      (acceptedBindings planEntryId t.unbound before)
      ((successorMachine.exec t.unbound before).resolveVerificationSubject planEntryId)) ↔
      InTimeOrder (acceptedBindings planEntryId t.unbound ops) := by
  constructor
  · exact inTimeOrder_of_chains
  · rintro h before after rfl
    apply chain_of_inTimeOrder
    rw [acceptedBindings, Machine.trace_append, filterMap_append] at h
    exact (pairwise_append.mp h).1

namespace Sample

/-- The effect of the repair of the given attempt, from its claim to its success. -/
def repairEffectOps (effectId resultId factId : String) : List EffectOp :=
  [.claimEffect quietSurroundings
      (EffectClaim.withComputedSha256 { repairClaim with effectId := effectId }),
    .markEffectStarted quietSurroundings effectId 103,
    .completeEffect (EffectResult.withComputedSha256
      { resultId := resultId, effectId := effectId, status := .succeeded, factId := factId,
        resultObjectId := none, resultObjectSha256 := none, evidenceSha256 := .null,
        errorCode := none, observedAtMs := 104, resultSha256 := .null,
        object_complete := noObject_complete
        errorCode_iff := EffectStore.succeeded_noErrorCode }) none true]

def attemptDirective (attemptNo : ℕ) (effectiveSubject : String) (h : attemptNo ≤ 3) :
    RepairDirective :=
  RepairDirective.withComputedSha256
    { repairDirectiveId := .null, requestId := "req_0", runId := "run_0", generation := 1
      verificationPlanId := plan.verificationPlanId, verificationPlanSha256 := plan.planSha256
      planEntryId := (entry "a").planEntryId, planEntrySha256 := (entry "a").entrySha256
      failureEvidenceId := .null, failureEvidenceSha256 := .null
      dispositionId := .null, dispositionSha256 := .null
      predicateId := (entry "a").predicate.predicateId
      predicateSha256 := (entry "a").predicate.predicateSha256
      subjectKind := .artifact, originalSubjectIdentity := "rev_a"
      effectiveSubjectIdentity := effectiveSubject
      repairAttemptNo := attemptNo, maxAttempts := 3, allowedTargetRefs := [effectiveSubject]
      forbiddenTargetRefs := [], repairGoalKind := "repair:artifact.nonempty"
      repairConstraints := [], executionBudgetMs := 1000, issuedAtMs := 100, expiresAtMs := 1000
      directiveSha256 := .null, expires_after_issue := by decide, attempt_le_max := h }

def succeededBinding (directive : RepairDirective) (effectId produced : String) :
    RepairBinding where
  repairDirectiveId := directive.repairDirectiveId
  repairDirectiveSha256 := directive.directiveSha256
  planEntryId := directive.planEntryId
  repairAttemptNo := directive.repairAttemptNo
  requestId := directive.requestId
  runId := directive.runId
  generation := directive.generation
  state := .succeeded
  effectId := effectId
  effectIntentSha256 := "00"
  dispatchClaimId := "claim_0"
  claimRevision := 1
  claimExpiresAtMs := 1000
  producedSubjectIdentity := produced
  producedSubjectKind := "artifact"
  reservedAtMs := 102
  startedAtMs := some 103
  completedAtMs := some 104

def successorOf (directive : RepairDirective) (effectId produced : String) (boundAtMs : ℕ) :
    SubjectSuccessor :=
  SubjectSuccessor.withComputedSha256
    { successorBindingId := .null, requestId := directive.requestId, runId := directive.runId
      generation := directive.generation, verificationPlanId := directive.verificationPlanId
      planEntryId := directive.planEntryId, subjectKind := directive.subjectKind
      predecessorSubjectIdentity := directive.effectiveSubjectIdentity
      successorSubjectIdentity := produced, repairDirectiveId := directive.repairDirectiveId
      repairDirectiveSha256 := directive.directiveSha256, producedByEffectId := effectId
      repairAttemptNo := directive.repairAttemptNo, boundAtMs := boundAtMs
      successorBindingSha256 := .null }

def firstDirective : RepairDirective := attemptDirective 1 "rev_a" (by decide)

def secondDirective : RepairDirective := attemptDirective 2 "rev_a1" (by decide)

/-- The store after two repairs of the first entry succeeded. -/
def repairedStore : RepairStore :=
  { store with
    effects := effectMachine.exec .init
      (repairEffectOps "eff_1" "result_1" "fact_1" ++ repairEffectOps "eff_2" "result_2" "fact_2")
    repairDirectives := ⟨[⟨firstDirective, RepairDirective.withComputedSha256_valid _⟩,
      ⟨secondDirective, RepairDirective.withComputedSha256_valid _⟩], by decide⟩
    repairExecutionBindings :=
      ⟨⟨[succeededBinding firstDirective "eff_1" "rev_a1",
        succeededBinding secondDirective "eff_2" "rev_a2"], by decide⟩,
        by unfold Table.Unique; decide, by unfold Table.Unique; decide⟩
    artifactSubjects := ⟨[⟨"rev_a1", "req_0", "run_0", 1⟩, ⟨"rev_a2", "req_0", "run_0", 1⟩],
      by decide⟩ }

/-- The second successor is bound at an earlier time than the first. -/
def backdatedOps : List SuccessorOp :=
  [.put (successorOf firstDirective "eff_1" "rev_a1" 200) 200,
    .put (successorOf secondDirective "eff_2" "rev_a2" 150) 210]

end Sample

/-- The resolver does not count a successor that is older than its predecessor. -/
theorem backdatedSuccessor_skipped :
    acceptedBindings (Sample.entry "a").planEntryId Sample.repairedStore.unbound
        Sample.backdatedOps = [Sample.successorOf Sample.firstDirective "eff_1" "rev_a1" 200,
          Sample.successorOf Sample.secondDirective "eff_2" "rev_a2" 150] ∧
      ¬ ∀ before after, Sample.backdatedOps = before ++ after → SuccessorChain
        (acceptedBindings (Sample.entry "a").planEntryId Sample.repairedStore.unbound before)
        ((successorMachine.exec Sample.repairedStore.unbound before).resolveVerificationSubject
          (Sample.entry "a").planEntryId) := by
  refine ⟨by decide +kernel, fun h => ?_⟩
  have hdepth := (h Sample.backdatedOps [] (append_nil _).symm).depth
  revert hdepth
  decide +kernel

end Tiangong
