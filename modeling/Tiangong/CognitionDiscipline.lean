import Tiangong.CognitionConsolidator

/-!
# What a consolidation knows when it commits

A consolidation commits over statements it has seen and evidence it has loaded. Whatever the store
answers it, every transition it asks for is grounded in these: the report of the decision is that
of loaded evidence, and the move is one that the report and the seen head allow.
-/
namespace Tiangong

open Discipline (Keeps Stays)

namespace CognitionConsolidator

/-- What a program was answered so far: the evidence for each request, and the statements. -/
structure Knowledge where
  loads : List (List Canon × List CognitionEvidence)
  statements : List CognitionStatement

namespace Knowledge

def none : Knowledge := ⟨[], []⟩

/-- The second knows all that the first does. -/
def Within (k k' : Knowledge) : Prop := k.loads ⊆ k'.loads ∧ k.statements ⊆ k'.statements

theorem Within.refl (k : Knowledge) : k.Within k := ⟨fun _ h => h, fun _ h => h⟩

theorem Within.trans {k k' k'' : Knowledge} (h : k.Within k') (h' : k'.Within k'') :
    k.Within k'' := ⟨fun _ hx => h'.1 (h.1 hx), fun _ hx => h'.2 (h.2 hx)⟩

def load (k : Knowledge) (ids : List Canon) (evidence : List CognitionEvidence) : Knowledge :=
  { k with loads := (ids, evidence) :: k.loads }

def see (k : Knowledge) (statement : CognitionStatement) : Knowledge :=
  { k with statements := statement :: k.statements }

lemma within_load (k : Knowledge) (ids : List Canon) (evidence : List CognitionEvidence) :
    k.Within (k.load ids evidence) := ⟨List.subset_cons_self _ _, fun _ h => h⟩

lemma within_see (k : Knowledge) (statement : CognitionStatement) :
    k.Within (k.see statement) := ⟨fun _ h => h, List.subset_cons_self _ _⟩

lemma mem_see (k : Knowledge) (statement : CognitionStatement) :
    statement ∈ (k.see statement).statements := List.mem_cons_self

end Knowledge

/-- Evidence for exactly these identifiers was loaded. -/
def Loaded (k : Knowledge) (ids : List Canon) (evidence : List CognitionEvidence) : Prop :=
  (sortedIds ids, evidence) ∈ k.loads ∧ ∀ id ∈ sortedIds ids, id ∈ evidence.map CognitionEvidence.id

/-- The report is that of loaded evidence, on its two sides. -/
def Reported (k : Knowledge) (slot : CognitionSlot) (supportIds counterIds : List Canon)
    (nowMs : ℕ) (report : StabilityReport) : Prop :=
  ∃ support counter, Loaded k supportIds support ∧ Loaded k counterIds counter ∧
    (∀ e ∈ support ++ counter, inScope slot e = true) ∧
    report = evaluateEvidence slot support counter nowMs stabilityPolicy

/-- What a consolidation heeds beyond the contracts when it moves a head. -/
structure Allowed (proposal : CognitionProposal) (previous : Option CognitionStatement)
    (move : Move) : Prop where
  privacy : ∀ p ∈ previous, p.1.privacyScope = proposal.privacyScope
  carried : move.carryPreviousIdentity = true → ∃ p ∈ previous, move.value = p.1.value
  anew : move.carryPreviousIdentity = false →
    move.transition = .genesis ∨ move.transition = .replaceCandidate ∨
      (move.transition = .supersede ∧ ∃ p ∈ previous, p.status = .reverifying ∧
        move.level = p.level)
  genesis : move.transition = .genesis → move.level = .c0
  supersede : move.transition = .supersede → move.carryPreviousIdentity = false
  not_retired : move.transition ≠ .retire
  verified : move.status = .stable ∨ move.status = .core →
    move.report.meets stabilityPolicy move.level = true

/-- A move that is allowed, from a seen head, on loaded evidence. -/
structure Grounded (k : Knowledge) (proposal : CognitionProposal)
    (previous : Option CognitionStatement) (move : Move) (nowMs : ℕ) : Prop where
  seen : ∀ p ∈ previous, p ∈ k.statements
  reported : Reported k proposal.slot move.supportIds move.counterIds nowMs move.report
  allowed : Allowed proposal previous move

/-- The rows of a transition are what a grounded move makes of its head. -/
def GroundedRows (k : Knowledge) (statement : CognitionStatement) (decision : CognitionRevision)
    (expectedHeadSha256 : Option Canon) : Prop :=
  ∃ proposal previous move latest nowMs, Grounded k proposal previous move nowMs ∧
    statement.1 = (statementFields proposal previous move nowMs).withHash ∧
    decision.1 = (decisionFields previous statement move latest nowMs).withHash ∧
    expectedHeadSha256 = previous.map CognitionStatement.sha256

/-- Only grounded transitions may be committed. Every answer adds to what is known. -/
def discipline : Discipline CognitionAction CognitionAction.Answer CognitionError Knowledge where
  allows k
    | .commitTransition statement decision expectedHeadSha256 =>
      GroundedRows k statement decision expectedHeadSha256
    | _ => True
  after k
    | .getHead _, .ok (some statement) => k.see statement
    | .getEvidenceMany ids, .ok evidence => k.load ids evidence
    | .commitTransition statement _ _, .ok _ => k.see statement
    | _, _ => k

section Monotone

variable {k k' : Knowledge} {slot : CognitionSlot} {supportIds counterIds ids : List Canon}
  {evidence : List CognitionEvidence} {nowMs : ℕ} {r : StabilityReport}

theorem Loaded.mono (h : Loaded k ids evidence) (hk : k.Within k') : Loaded k' ids evidence :=
  ⟨hk.1 h.1, h.2⟩

theorem Reported.mono (h : Reported k slot supportIds counterIds nowMs r) (hk : k.Within k') :
    Reported k' slot supportIds counterIds nowMs r := by
  obtain ⟨support, counter, hsupport, hcounter, hscope, heq⟩ := h
  exact ⟨support, counter, hsupport.mono hk, hcounter.mono hk, hscope, heq⟩

/-- Only the identifiers count, not how they are listed. -/
lemma Reported.of_sorted (h : Reported k slot (sortedIds supportIds) (sortedIds counterIds)
    nowMs r) : Reported k slot supportIds counterIds nowMs r := by
  obtain ⟨support, counter, ⟨hsupport, hall⟩, ⟨hcounter, hall'⟩, hscope, heq⟩ := h
  rw [sortedIds_sortedIds] at hsupport hall hcounter hall'
  exact ⟨support, counter, ⟨hsupport, hall⟩, ⟨hcounter, hall'⟩, hscope, heq⟩

end Monotone

/-- The program knows at least what it knew, and its answer satisfies `Q`. -/
abbrev Learns (k : Knowledge) {α : Type} (Q : α → Knowledge → Prop) (x : CognitionProgram α) :
    Prop :=
  discipline.Keeps (fun a k' => k.Within k' ∧ Q a k') (fun _ _ => True) x k

theorem Learns.bind {k : Knowledge} {α β : Type} {Q : α → Knowledge → Prop}
    {Q' : β → Knowledge → Prop} {x : CognitionProgram α} {f : α → CognitionProgram β}
    (hx : Learns k Q x) (hf : ∀ a k', k.Within k' → Q a k' → Learns k' Q' (f a)) :
    Learns k Q' (x >>= f) := by
  refine Keeps.bind hx fun a k' ha => ?_
  exact (hf a k' ha.1 ha.2).mono (fun b k'' hb => ⟨ha.1.trans hb.1, hb.2⟩) fun _ _ h => h

theorem Learns.pure {k : Knowledge} {α : Type} {Q : α → Knowledge → Prop} {a : α} (h : Q a k) :
    Learns k Q (Pure.pure a) := ⟨.refl k, h⟩

theorem Learns.refuseIf {k : Knowledge} {refused : Prop} [Decidable refused] {e : CognitionError} :
    Learns k (fun _ _ => ¬ refused) (Program.refuseIf refused e) := by
  unfold Program.refuseIf
  split
  · trivial
  · next h => exact ⟨.refl k, h⟩

theorem Learns.ofExcept {k : Knowledge} {α : Type} {x : Except CognitionError α} :
    Learns k (fun a _ => x = .ok a) (Program.ofExcept x) := by
  cases x with
  | error e => trivial
  | ok a => exact ⟨.refl k, rfl⟩

variable {k : Knowledge}

lemma loadEvidenceExact_learns (ids : List Canon) :
    Learns k (fun evidence k' => Loaded k' ids evidence) (loadEvidenceExact ids) := by
  unfold loadEvidenceExact
  refine Learns.bind (Q := fun evidence k' => (sortedIds ids, evidence) ∈ k'.loads) ?_ ?_
  · refine ⟨trivial, ?_⟩
    intro r
    cases r with
    | error e => trivial
    | ok evidence => exact ⟨k.within_load _ _, List.mem_cons_self⟩
  · intro evidence k' _ hloaded
    refine Learns.bind Learns.refuseIf fun _ k'' hk'' hall => ?_
    exact Learns.pure ⟨hk''.1 hloaded, not_not.mp hall⟩

lemma report_learns (proposal : CognitionProposal) (supportIds counterIds : List Canon)
    (nowMs : ℕ) :
    Learns k (fun r k' => Reported k' proposal.slot supportIds counterIds nowMs r)
      (report proposal supportIds counterIds nowMs) := by
  unfold report
  refine Learns.bind Learns.refuseIf fun _ k₁ _ _ => ?_
  refine Learns.bind (loadEvidenceExact_learns _) fun support k₂ _ hsupport => ?_
  refine Learns.bind (loadEvidenceExact_learns _) fun counter k₃ hk₃ hcounter => ?_
  refine Learns.bind Learns.refuseIf fun _ k₄ hk₄ hscope => ?_
  refine Learns.pure (Reported.of_sorted ⟨support, counter, ?_, hcounter.mono hk₄,
    not_not.mp hscope, rfl⟩)
  exact (hsupport.mono hk₃).mono hk₄

/-- A statement that was committed is known, and made as the move says. -/
def Committed (proposal : CognitionProposal) (previous : Option CognitionStatement) (move : Move)
    (nowMs : ℕ) (statement : CognitionStatement) (k : Knowledge) : Prop :=
  statement ∈ k.statements ∧ statement.1 = (statementFields proposal previous move nowMs).withHash

lemma commit_learns {proposal : CognitionProposal} {previous : Option CognitionStatement}
    {move : Move} {nowMs : ℕ} (hgrounded : Grounded k proposal previous move nowMs) :
    Learns k (Committed proposal previous move nowMs) (commit proposal nowMs previous move) := by
  unfold commit
  refine Learns.bind Learns.ofExcept fun statement k₁ hk₁ hstatement => ?_
  refine Learns.bind (Q := fun _ _ => True) ?_ fun latest k₂ hk₂ _ => ?_
  · refine ⟨trivial, ?_⟩
    intro r
    cases r with
    | error e => trivial
    | ok latest => exact ⟨.refl _, trivial⟩
  refine Learns.bind Learns.ofExcept fun decision k₃ hk₃ hdecision => ?_
  rw [sealStatement, sealed_eq_ok] at hstatement
  rw [sealDecision, sealed_eq_ok] at hdecision
  have hk := hk₁.trans (hk₂.trans hk₃)
  have hgrounded₃ : Grounded k₃ proposal previous move nowMs :=
    ⟨fun p hp => hk.2 (hgrounded.seen p hp), hgrounded.reported.mono hk, hgrounded.allowed⟩
  refine Learns.bind (Q := fun _ k' => statement ∈ k'.statements) ?_ fun _ k₄ _ hknown => ?_
  · refine ⟨⟨proposal, previous, move, latest, nowMs, hgrounded₃, hstatement, hdecision, rfl⟩, ?_⟩
    intro r
    cases r with
    | error e => trivial
    | ok u => exact ⟨k₃.within_see statement, k₃.mem_see statement⟩
  · exact Learns.pure ⟨hknown, hstatement⟩

section Committed

variable {proposal : CognitionProposal} {previous : Option CognitionStatement} {move : Move}
  {nowMs : ℕ} {statement : CognitionStatement}

theorem Committed.privacy (h : Committed proposal previous move nowMs statement k)
    (hallowed : Allowed proposal previous move) :
    ∀ p ∈ some statement, p.1.privacyScope = proposal.privacyScope := by
  intro p hp
  cases hp
  rw [h.2]
  show Option.elim _ _ _ = _
  cases hcarry : move.carryPreviousIdentity with
  | false => rfl
  | true =>
    obtain ⟨p, hp, -⟩ := hallowed.carried hcarry
    cases hp
    exact hallowed.privacy p rfl

end Committed

/-- A head that the program has seen, in the proposal's privacy scope. -/
def Known (proposal : CognitionProposal) (head : CognitionStatement) (k : Knowledge) : Prop :=
  head ∈ k.statements ∧ head.1.privacyScope = proposal.privacyScope

section Branches

variable {proposal : CognitionProposal} {head : CognitionStatement} {k' : Knowledge} {nowMs : ℕ}
  {r : StabilityReport} {supportIds counterIds : List Canon}

theorem Known.mono (h : Known proposal head k) (hk : k.Within k') : Known proposal head k' :=
  ⟨hk.2 h.1, h.2⟩

theorem Known.seen (h : Known proposal head k) : ∀ p ∈ some head, p ∈ k.statements := by
  intro p hp
  cases hp
  exact h.1

theorem Committed.known {previous : Option CognitionStatement} {move : Move}
    (h : Committed proposal previous move nowMs head k)
    (hallowed : Allowed proposal previous move) : Known proposal head k :=
  ⟨h.1, h.privacy hallowed head rfl⟩

/-- A move in which the head only changes its status. -/
lemma allowed_inStatus (hprivacy : head.1.privacyScope = proposal.privacyScope)
    {transition : CognitionTransition} {status : CognitionStatus} {triggerIds : List Canon}
    {reason : String}
    (htransition : transition ≠ .genesis ∧ transition ≠ .supersede ∧ transition ≠ .retire)
    (hverified : status = .stable ∨ status = .core → r.meets stabilityPolicy head.level = true) :
    Allowed proposal (some head) (Request.inStatus head transition status r supportIds counterIds
      triggerIds reason) where
  privacy := by
    intro p hp
    cases hp
    exact hprivacy
  carried _ := ⟨head, rfl, rfl⟩
  anew h := by cases h
  genesis h := absurd h htransition.1
  supersede h := absurd h htransition.2.1
  not_retired := htransition.2.2
  verified := hverified

lemma allowed_promote (hprivacy : head.1.privacyScope = proposal.privacyScope)
    {level : CognitionStabilityLevel} (hmeets : r.meets stabilityPolicy level = true) :
    Allowed proposal (some head) (promote head.1.value r supportIds counterIds level) where
  privacy := by
    intro p hp
    cases hp
    exact hprivacy
  carried _ := ⟨head, rfl, rfl⟩
  anew h := by cases h
  genesis h := by cases h
  supersede h := by cases h
  not_retired h := by cases h
  verified _ := hmeets

/-- A promotion goes through levels whose thresholds are met. -/
lemma meets_of_mem_promotions {level : CognitionStabilityLevel}
    (h : level ∈ promotions head.level (r.highestEligibleLevel stabilityPolicy)) :
    r.meets stabilityPolicy level = true := by
  rw [← eligibleAtLeast_iff]
  simp only [promotions, List.mem_filter, holds_iff] at h
  obtain ⟨hmem, -, hle⟩ := h
  have hne : level ≠ .c4 := by
    rintro rfl
    simp at hmem
  simp [StabilityReport.eligibleAtLeast, hne, hle]

lemma promoteThrough_learns (hreported : Reported k proposal.slot supportIds counterIds nowMs r)
    {levels : List CognitionStabilityLevel}
    (hmeets : ∀ level ∈ levels, r.meets stabilityPolicy level = true)
    (hhead : Known proposal head k) :
    Learns k (Known proposal)
      (promoteThrough proposal nowMs r supportIds counterIds levels head) := by
  induction levels generalizing k head with
  | nil => exact Learns.pure hhead
  | cons level levels ih =>
    have hallowed : Allowed proposal (some head)
        (promote head.1.value r supportIds counterIds level) :=
      allowed_promote hhead.2 (hmeets level List.mem_cons_self)
    refine Learns.bind (commit_learns ⟨hhead.seen, hreported, hallowed⟩) ?_
    intro next k' hk' hnext
    exact ih (hreported.mono hk') (fun l hl => hmeets l (List.mem_cons_of_mem _ hl))
      (hnext.known hallowed)

lemma promoteAsFarAsPossible_learns
    (hreported : Reported k proposal.slot supportIds counterIds nowMs r)
    (hhead : Known proposal head k) :
    Learns k (fun (promoted : CognitionStatement × List CognitionTransition) k' =>
        Known proposal promoted.1 k' ∧ (promoted.2 = [] → promoted.1 = head))
      (promoteAsFarAsPossible proposal nowMs head r supportIds counterIds) := by
  unfold promoteAsFarAsPossible
  cases hlevels : promotions head.level (r.highestEligibleLevel stabilityPolicy) with
  | nil =>
    exact Learns.pure (Q := fun (promoted : CognitionStatement × List CognitionTransition) k' =>
      Known proposal promoted.1 k' ∧ (promoted.2 = [] → promoted.1 = head))
      ⟨hhead, fun _ => rfl⟩
  | cons level levels =>
    have hmeets : ∀ l ∈ level :: levels, r.meets stabilityPolicy l = true := fun l hl =>
      meets_of_mem_promotions (by rw [hlevels]; exact hl)
    refine Learns.bind (promoteThrough_learns hreported hmeets hhead) ?_
    intro promoted k' _ hpromoted
    exact Learns.pure ⟨hpromoted, fun hnil => by cases hnil⟩

end Branches

namespace Request

variable {q : Request} {head : CognitionStatement} {r : StabilityReport}
  {supportIds counterIds : List Canon}

/-- Nothing is asked of the answer. -/
abbrev Disciplined (k : Knowledge) {α : Type} (x : CognitionProgram α) : Prop :=
  Learns k (fun _ _ => True) x

lemma allowed_genesis : Allowed q.proposal none
    (q.anew .genesis .c0 r q.authority "cognition.genesis") where
  privacy p hp := by cases hp
  carried h := by cases h
  anew _ := .inl rfl
  genesis _ := rfl
  supersede h := by cases h
  not_retired h := by cases h
  verified h := by rcases h with h | h <;> cases h

lemma allowed_replaceCandidate (hprivacy : head.1.privacyScope = q.proposal.privacyScope) :
    Allowed q.proposal (some head) (q.anew .replaceCandidate .c0 r .deterministicPolicy
      "cognition.replace_candidate") where
  privacy := by
    intro p hp
    cases hp
    exact hprivacy
  carried h := by cases h
  anew _ := .inr (.inl rfl)
  genesis h := by cases h
  supersede h := by cases h
  not_retired h := by cases h
  verified h := by rcases h with h | h <;> cases h

lemma allowed_supersede (hprivacy : head.1.privacyScope = q.proposal.privacyScope)
    (hstatus : head.status = .reverifying)
    (hmeets : r.meets stabilityPolicy head.level = true) :
    Allowed q.proposal (some head) (q.anew .supersede head.level r q.authority
      "cognition.supersede") where
  privacy := by
    intro p hp
    cases hp
    exact hprivacy
  carried h := by cases h
  anew _ := .inr (.inr ⟨rfl, head, rfl, hstatus, rfl⟩)
  genesis h := by cases h
  supersede _ := rfl
  not_retired h := by cases h
  verified _ := hmeets

lemma create_disciplined : Disciplined k q.create := by
  unfold create
  refine Learns.bind (report_learns _ _ _ _) fun r k₁ _ hr => ?_
  have hallowed := allowed_genesis (q := q) (r := r)
  have hseen : ∀ p ∈ (none : Option CognitionStatement), p ∈ k₁.statements := by simp
  refine Learns.bind (commit_learns ⟨hseen, hr, hallowed⟩) ?_
  intro head k₂ hk₂ hhead
  refine Learns.bind (promoteAsFarAsPossible_learns (hr.mono hk₂) (hhead.known hallowed)) ?_
  exact fun promoted k₃ _ _ => Learns.pure trivial

lemma beginReverify_learns (hr : Reported k q.proposal.slot supportIds counterIds q.nowMs r)
    (hhead : Known q.proposal head k) :
    Learns k (fun (begun : CognitionStatement × List CognitionTransition) k' =>
        Known q.proposal begun.1 k') (q.beginReverify head r supportIds counterIds) := by
  unfold beginReverify
  split
  · have hallowed : Allowed q.proposal (some head) (inStatus head .beginReverify .reverifying r
        supportIds counterIds (q.support ++ q.counter) "cognition.begin_reverify") :=
      allowed_inStatus hhead.2 (by simp) (by simp)
    refine Learns.bind (commit_learns ⟨hhead.seen, hr, hallowed⟩) ?_
    exact fun next k' _ hnext => Learns.pure (hnext.known hallowed)
  · exact Learns.pure hhead

lemma reverify_disciplined (hr : Reported k q.proposal.slot supportIds counterIds q.nowMs r)
    (hhead : Known q.proposal head k) :
    Disciplined k (q.reverify head r supportIds counterIds) := by
  unfold reverify
  refine Learns.bind (beginReverify_learns hr hhead) fun begun k₁ hk₁ hbegun => ?_
  split
  · next heligible =>
    have hallowed : Allowed q.proposal (some begun.1) (inStatus begun.1 .confirm
        (levelStatus begun.1.level) r supportIds counterIds (q.support ++ q.counter)
        "cognition.confirm") :=
      allowed_inStatus hbegun.2 (by simp) fun _ => eligibleAtLeast_iff.mp heligible
    refine Learns.bind (commit_learns ⟨hbegun.seen, hr.mono hk₁, hallowed⟩) ?_
    exact fun _ _ _ _ => Learns.pure trivial
  · exact Learns.pure trivial

lemma refresh_disciplined (hr : Reported k q.proposal.slot supportIds counterIds q.nowMs r)
    (hhead : Known q.proposal head k) {level : CognitionStabilityLevel}
    {transitions : List CognitionTransition} (hlevel : transitions = [] → level = head.level) :
    Disciplined k (q.refresh level head transitions r supportIds counterIds) := by
  unfold refresh
  split
  · next h =>
    have hallowed : Allowed q.proposal (some head) (inStatus head .refresh head.status r supportIds
        counterIds (q.support ++ q.counter) "cognition.refresh") := by
      refine allowed_inStatus hhead.2 (by simp) fun _ => ?_
      rw [← hlevel h.1]
      exact eligibleAtLeast_iff.mp h.2.1
    refine Learns.bind (commit_learns ⟨hhead.seen, hr, hallowed⟩) ?_
    exact fun _ _ _ _ => Learns.pure trivial
  · exact Learns.pure trivial

lemma sameValue_disciplined (hhead : Known q.proposal head k) :
    Disciplined k (q.sameValue head) := by
  unfold sameValue
  refine Learns.bind (report_learns _ _ _ _) fun r k₁ hk₁ hr => ?_
  have hhead₁ := hhead.mono hk₁
  split
  · exact reverify_disciplined hr hhead₁
  · split
    · have hallowed : Allowed q.proposal (some head) (inStatus head .challenge .challenged r
          (sortedIds (head.1.supportingEvidenceIds ++ q.support))
          (sortedIds (head.1.counterevidenceIds ++ q.counter))
          (sortedIds (head.1.counterevidenceIds ++ q.counter)) "cognition.challenge") :=
        allowed_inStatus hhead₁.2 (by simp) (by simp)
      refine Learns.bind (commit_learns ⟨hhead₁.seen, hr, hallowed⟩) ?_
      exact fun _ _ _ _ => Learns.pure trivial
    · refine Learns.bind (promoteAsFarAsPossible_learns hr hhead₁) ?_
      intro promoted k₂ hk₂ hpromoted
      refine refresh_disciplined (hr.mono hk₂) hpromoted.1 fun hnil => ?_
      rw [hpromoted.2 hnil]

lemma replaceCandidate_disciplined (hr : Reported k q.proposal.slot q.support q.counter q.nowMs r)
    (hhead : Known q.proposal head k) : Disciplined k (q.replaceCandidate head r) := by
  unfold replaceCandidate
  have hallowed := allowed_replaceCandidate (q := q) (r := r) hhead.2
  refine Learns.bind (commit_learns ⟨hhead.seen, hr, hallowed⟩) ?_
  intro next k₁ hk₁ hnext
  refine Learns.bind (promoteAsFarAsPossible_learns (hr.mono hk₁) (hnext.known hallowed)) ?_
  exact fun promoted k₂ _ _ => Learns.pure trivial

lemma challengeActive_learns (hhead : Known q.proposal head k) :
    Learns k (fun (challenged : Option (CognitionStatement × List CognitionTransition)) k' =>
        ∀ c ∈ challenged, Known q.proposal c.1 k') (q.challengeActive head r) := by
  unfold challengeActive
  refine Learns.bind (report_learns _ _ _ _) fun old k₁ hk₁ hold => ?_
  split
  · exact Learns.pure (fun c hc => by cases hc)
  · have hallowed : Allowed q.proposal (some head) (inStatus head .challenge .challenged old
        head.1.supportingEvidenceIds (sortedIds (head.1.counterevidenceIds ++ q.support)) q.support
        "cognition.challenge_new_value") :=
      allowed_inStatus hhead.2 (by simp) (by simp)
    refine Learns.bind (commit_learns ⟨(hhead.mono hk₁).seen, hold, hallowed⟩) ?_
    intro next k₂ _ hnext
    refine Learns.pure fun c hc => ?_
    cases hc
    exact hnext.known hallowed

lemma reverifyChallenged_learns (hhead : Known q.proposal head k)
    (transitions : List CognitionTransition) :
    Learns k (fun (next : CognitionStatement × List CognitionTransition) k' =>
        Known q.proposal next.1 k') (q.reverifyChallenged head transitions) := by
  unfold reverifyChallenged
  split
  · refine Learns.bind (report_learns _ _ _ _) fun old k₁ hk₁ hold => ?_
    have hallowed : Allowed q.proposal (some head) (inStatus head .beginReverify .reverifying old
        head.1.supportingEvidenceIds head.1.counterevidenceIds q.support
        "cognition.begin_reverify_new_value") :=
      allowed_inStatus hhead.2 (by simp) (by simp)
    refine Learns.bind (commit_learns ⟨(hhead.mono hk₁).seen, hold, hallowed⟩) ?_
    exact fun next k₂ _ hnext => Learns.pure (hnext.known hallowed)
  · exact Learns.pure hhead

lemma supersede_disciplined (hr : Reported k q.proposal.slot q.support q.counter q.nowMs r)
    (hhead : Known q.proposal head k) (transitions : List CognitionTransition) :
    Disciplined k (q.supersede head transitions r) := by
  unfold supersede
  split
  · exact Learns.pure trivial
  · next hstatus =>
    split
    · exact Learns.pure trivial
    · next heligible =>
      split
      · exact Learns.pure trivial
      · have hmeets := eligibleAtLeast_iff.mp (Bool.not_eq_false _ ▸ heligible)
        have hallowed := allowed_supersede (q := q) hhead.2 (not_not.mp hstatus) hmeets
        refine Learns.bind (commit_learns ⟨hhead.seen, hr, hallowed⟩) ?_
        exact fun _ _ _ _ => Learns.pure trivial

lemma otherValue_disciplined (hhead : Known q.proposal head k) :
    Disciplined k (q.otherValue head) := by
  unfold otherValue
  refine Learns.bind (report_learns _ _ _ _) fun r k₁ hk₁ hr => ?_
  have hhead₁ := hhead.mono hk₁
  split
  · exact replaceCandidate_disciplined hr hhead₁
  · split
    · refine Learns.bind (reverifyChallenged_learns hhead₁ []) fun next k₂ hk₂ hnext => ?_
      exact supersede_disciplined (hr.mono hk₂) hnext next.2
    · refine Learns.bind (challengeActive_learns hhead₁) fun challenged k₂ hk₂ hchallenged => ?_
      cases challenged with
      | none => exact Learns.pure trivial
      | some c =>
        refine Learns.bind (reverifyChallenged_learns (hchallenged c rfl) c.2) ?_
        intro next k₃ hk₃ hnext
        exact supersede_disciplined ((hr.mono hk₂).mono hk₃) hnext next.2

lemma revise_disciplined (hhead : head ∈ k.statements) : Disciplined k (q.revise head) := by
  unfold revise
  refine Learns.bind Learns.ofExcept fun _ k₁ hk₁ hvalid => ?_
  refine Learns.bind Learns.refuseIf fun _ k₂ hk₂ _ => ?_
  simp only [validateExistingSlot, eq_ok_iff, not_not] at hvalid
  have hknown : Known q.proposal head k₂ := ⟨hk₂.2 (hk₁.2 hhead), hvalid.2.1⟩
  split
  · exact sameValue_disciplined hknown
  · exact otherValue_disciplined hknown

end Request

lemma getHead_learns (cognitionId : Canon) :
    Learns k (fun (found : Option CognitionStatement) k' => ∀ head ∈ found, head ∈ k'.statements)
      (perform (.getHead cognitionId)) := by
  refine ⟨trivial, ?_⟩
  intro r
  cases r with
  | error e => trivial
  | ok found =>
    cases found with
    | none => exact ⟨.refl k, fun head hhead => by cases hhead⟩
    | some head =>
      refine ⟨k.within_see head, fun head' hhead' => ?_⟩
      cases hhead'
      exact k.mem_see head

theorem consolidate_learns (proposal : CognitionProposal)
    (supportEvidenceIds counterevidenceIds : List Canon) (nowMs : ℕ)
    (decisionAuthority : Option CognitionDecisionAuthority) :
    Learns k (fun _ _ => True)
      (consolidate proposal supportEvidenceIds counterevidenceIds nowMs decisionAuthority) := by
  unfold consolidate
  refine Learns.bind Learns.ofExcept fun authority k₁ _ _ => ?_
  refine Learns.bind Learns.refuseIf fun _ k₂ _ _ => ?_
  refine Learns.bind Learns.refuseIf fun _ k₃ _ _ => ?_
  refine Learns.bind (getHead_learns _) fun found k₄ _ hfound => ?_
  cases found with
  | none => exact Request.create_disciplined
  | some head => exact Request.revise_disciplined (hfound head rfl)

theorem protect_learns (cognitionId : Canon) (nowMs : ℕ)
    (decisionAuthority : Option CognitionDecisionAuthority) :
    Learns k (fun _ _ => True) (protect cognitionId nowMs decisionAuthority) := by
  unfold protect
  refine Learns.bind Learns.ofExcept fun authority k₁ _ _ => ?_
  refine Learns.bind (getHead_learns _) fun found k₂ _ hfound => ?_
  refine Learns.bind Learns.ofExcept fun head k₃ hk₃ hhead => ?_
  rw [required_eq_ok, Option.filter_eq_some_iff] at hhead
  have hseen := hk₃.2 (hfound head hhead.1)
  unfold protectHead
  refine Learns.bind (report_learns _ _ _ _) fun r k₄ hk₄ hr => ?_
  refine Learns.bind Learns.refuseIf fun _ k₅ hk₅ hcore => ?_
  have hmeets : r.meets stabilityPolicy .c4 = true := by
    rw [← eligibleAtLeast_iff]
    simp [StabilityReport.eligibleAtLeast, not_not.mp hcore]
  refine (commit_learns ⟨?_, hr.mono hk₅, ?_⟩).mono (fun _ _ h => ⟨h.1, trivial⟩) fun _ _ h => h
  · intro p hp
    cases hp
    exact hk₅.2 (hk₄.2 hseen)
  · exact
      { privacy := by
          intro p hp
          cases hp
          rfl
        carried := fun _ => ⟨head, rfl, rfl⟩
        anew := fun h => by cases h
        genesis := fun h => by cases h
        supersede := fun h => by cases h
        not_retired := fun h => by cases h
        verified := fun _ => hmeets }

end CognitionConsolidator

end Tiangong
