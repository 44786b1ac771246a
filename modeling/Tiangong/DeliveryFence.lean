import Tiangong.DeliveryConclusions

/-!
# The generation fence at the boundary

A ticket is consumed only when no later generation of its run was consumed before it. The start of
a side effect does not look at the fence again, so an effect that was claimed in time may start
after a later generation has overtaken it.
-/
open List

namespace Tiangong.Communication.DeliveryLedger

variable {s s' : DeliveryLedger} {calls : List Call} {call : Call} {id : String}
  {r : DeliveryRecord} {t : VerifiedDeliveryTicketFact}

/-- A ticket is for a later generation of the run of a claim. -/
def Newer (t : VerifiedDeliveryTicketFact) (claim : DeliveryEffectClaim) : Prop :=
  t.1.requestId = claim.requestId ∧ t.1.runId = claim.runId ∧ claim.generation < t.1.generation

/-- No effect enters the boundary once a ticket of a later generation of its run is consumed. -/
def Fenced (calls : List Call) : Prop :=
  ∀ pre call post, calls = pre ++ call :: post → ∀ id r,
    (after (pre ++ [call])).effects.find id = some r → r.state = .sideEffectStarted →
      (∀ old, (after pre).effects.find id = some old → old.state ≠ .sideEffectStarted) →
        ∀ t ∈ (after pre).tickets.rows, ¬ Newer t r.claim

/-- A call consumes a ticket while an effect of an earlier generation of its run has not started. -/
def Overtakes (s : DeliveryLedger) (call : Call) : Prop :=
  ∃ t ∈ (machine.step s call).1.tickets.rows, t ∉ s.tickets.rows ∧
    ∃ r ∈ s.effects.rows, r.state = .claimed ∧ Newer t r.claim

/-- No effect that has not started is behind the fence. -/
def NoneOvertaken (s : DeliveryLedger) : Prop :=
  ∀ id r, s.effects.find id = some r → r.state = .claimed → ∀ t ∈ s.tickets.rows, ¬ Newer t r.claim

lemma recoverAmbiguous_tickets {nowMs : ℕ} {records : List DeliveryRecord}
    (h : s.recoverAmbiguous nowMs = .ok (records, s')) : s'.tickets = s.tickets :=
  recoverAmbiguous_keeps (P := fun s₁ => s₁.tickets = s.tickets)
    (fun _ _ _ hP _ hmoved => hmoved.tickets.trans hP) rfl h

/-- Only a consumed ticket is added. -/
theorem Writes.tickets (h : Writes s call s') : s'.tickets = s.tickets ∨
    ∃ verification claim, call = .consume verification claim ∧ Consumes s verification claim ∧
      Consumed s verification claim s' := by
  cases h with
  | kept _ htickets => exact .inl htickets
  | consumed hconsumes hconsumed => exact .inr ⟨_, _, rfl, hconsumes, hconsumed⟩
  | started _ hmoved => exact .inl hmoved.tickets
  | received hreceived => exact .inl hreceived.moved.tickets
  | recovered hrecovered => exact .inl (recoverAmbiguous_tickets hrecovered)

lemma Writes.mem_tickets (h : Writes s call s') (ht : t ∈ s.tickets.rows) :
    t ∈ s'.tickets.rows := by
  rcases h.tickets with hsame | ⟨verification, claim, -, -, hconsumed⟩
  · rw [hsame]
    exact ht
  · rw [hconsumed.tickets.rows]
    exact mem_append_left _ ht

lemma mem_tickets_exec (h : s.Sound) (ht : t ∈ s.tickets.rows) (calls : List Call) :
    (machine.exec s calls).Sound ∧ t ∈ (machine.exec s calls).tickets.rows :=
  Machine.exec_preserves (fun s : DeliveryLedger => s.Sound ∧ t ∈ s.tickets.rows)
    (fun _ call h => ⟨h.1.step call, (h.1.writes call).mem_tickets h.2⟩) ⟨h, ht⟩ calls

lemma noneOvertaken_step (h : s.Sound) (hnone : s.NoneOvertaken) (hcall : ¬ Overtakes s call) :
    (machine.step s call).1.NoneOvertaken := by
  intro id r hr hclaimed t ht hnewer
  have hwrites := h.writes call
  have hstep := hwrites.recordStep hr
  rcases hwrites.tickets with hsame | ⟨verification, claim, rfl, hconsumes, hconsumed⟩
  · rw [hsame] at ht
    cases hstep with
    | kept hfound => exact hnone id r hfound hclaimed t ht hnewer
    | @claimed verification claim hid hfresh hconsumes =>
      obtain ⟨hrequest, hrun, hlt⟩ := hnewer
      have hle := hconsumes.fence t ht (hrequest.trans hconsumes.binds.requestId.symm)
        (hrun.trans hconsumes.binds.runId.symm)
      rw [hconsumes.binds.generation] at hle
      exact absurd hlt (Nat.not_lt.mpr hle)
    | started => cases hclaimed
    | recovered => cases hclaimed
    | received _ hfound hreceived =>
      have hlt := hreceived.moved.moves.rank_lt
      rw [hclaimed] at hlt
      exact absurd hlt (Nat.not_lt_zero _)
  · cases hstep with
    | kept hfound =>
      by_cases hold : t ∈ s.tickets.rows
      · exact hnone id r hfound hclaimed t hold hnewer
      · exact hcall ⟨t, ht, hold, r, Table.mem_of_find hfound, hclaimed, hnewer⟩
    | claimed =>
      obtain ⟨hrequest, hrun, hlt⟩ := hnewer
      rw [hconsumed.tickets.rows] at ht
      have hle : t.1.generation ≤ verification.1.generation := by
        rcases mem_append.mp ht with hold | hnew
        · exact hconsumes.fence t hold (hrequest.trans hconsumes.binds.requestId.symm)
            (hrun.trans hconsumes.binds.runId.symm)
        · rw [mem_singleton.mp hnew]
      rw [hconsumes.binds.generation] at hle
      exact absurd hlt (Nat.not_lt.mpr hle)

lemma noneOvertaken_exec
    (hcalls : machine.Steps (fun s call => ¬ Overtakes s call) .empty calls) :
    (after calls).NoneOvertaken := by
  have hinv : (after calls).Sound ∧ (after calls).NoneOvertaken := by
    refine Machine.exec_preserves_of_steps
      (fun s : DeliveryLedger => s.Sound ∧ s.NoneOvertaken) ?_ ⟨sound_empty, ?_⟩ hcalls
    · exact fun s call h hcall => ⟨h.1.step call, noneOvertaken_step h.1 h.2 hcall⟩
    · intro id r hr
      cases hr
  exact hinv.2

/-- The effects that enter the boundary were claimed before. -/
theorem Writes.enters (h : Writes s call s') (hr : s'.effects.find id = some r)
    (hstarted : r.state = .sideEffectStarted)
    (hnot : ∀ old, s.effects.find id = some old → old.state ≠ .sideEffectStarted) :
    ∃ row, s.effects.find id = some row ∧ row.state = .claimed ∧ row.claim = r.claim := by
  cases h.recordStep hr with
  | kept hfound => exact absurd hstarted (hnot r hfound)
  | claimed => cases hstarted
  | started hfound hclaimed => exact ⟨_, hfound, hclaimed, rfl⟩
  | recovered => cases hstarted
  | @received receipt absent reconciliation row _ _ hfound hreceived =>
    have htarget : receiptTarget row.state receipt.status = .sideEffectStarted := hstarted
    rw [receiptTarget] at htarget
    split at htarget
    · cases htarget
    · have hrank := DeliveryState.rank_ofStatus receipt.status
      rw [htarget] at hrank
      exact absurd hrank (Nat.lt_irrefl _)

lemma fenced_start (hcalls : machine.Steps (fun s call => ¬ Overtakes s call) .empty calls)
    (last : List Call) (hlast : last.length ≤ 1) : Fenced (calls ++ last) := by
  intro pre call post heq id r hr hstarted hnot t ht
  have hpre : pre <+: calls := by
    have hlength := congrArg List.length heq
    simp only [length_append, length_cons] at hlength
    have hwhole : pre <+: calls ++ last := by
      rw [heq]
      exact prefix_append _ _
    exact prefix_of_prefix_length_le hwhole (prefix_append _ _) (by omega)
  obtain ⟨rest, rfl⟩ := hpre
  rw [after, Machine.exec_concat] at hr
  obtain ⟨row, hrow, hclaimed, hclaim⟩ := ((sound_exec pre).writes call).enters hr hstarted hnot
  have hnone := noneOvertaken_exec ((machine.steps_append _ _ _ _).mp hcalls).1
  rw [← hclaim]
  exact hnone id row hrow hclaimed t ht

def Call.boundary : Call → Bool
  | .consume _ _ | .require _ | .start _ _ => true
  | .receive _ _ _ | .recover _ | .stage _ | .progress _ => false

lemma enters_boundary (h : s.Sound) (hr : s.effects.find id = some r)
    (hclaimed : r.state = .claimed) (hcalls : ∀ call ∈ calls, call.boundary = true) :
    ∃ pre call post, calls ++ [.start id r.claim.claimedAtMs] = pre ++ call :: post ∧
      (machine.exec s pre).effects.find id = some r ∧
        ∃ r', (machine.step (machine.exec s pre) call).1.effects.find id = some r' ∧
          r'.state = .sideEffectStarted ∧ r'.claim = r.claim := by
  induction calls generalizing s with
  | nil =>
    obtain ⟨s', haccepted, hmoved⟩ := h.start_accepted hr hclaimed (le_refl _)
    refine ⟨[], .start id r.claim.claimedAtMs, [], rfl, hr, r.started r.claim.claimedAtMs, ?_,
      rfl, rfl⟩
    have hstep : (machine.step s (.start id r.claim.claimedAtMs)).1 = s' := by
      show (committed s Answer.record _).1 = s'
      rw [haccepted]
      rfl
    rw [Machine.exec_nil, hstep, hmoved.effects]
    exact if_pos rfl
  | cons call calls ih =>
    obtain ⟨hcall, hrest⟩ := forall_mem_cons.mp hcalls
    obtain ⟨r', hr', hclaim⟩ := (h.writes call).find hr
    have hsame : ∀ {row}, s.effects.find id = some row → row = r :=
      fun hrow => Option.some.inj (hrow.symm.trans hr)
    cases (h.writes call).recordStep hr' with
    | kept hfound =>
      rw [hsame hfound] at hr'
      obtain ⟨pre, last, post, heq, hfind, hstarts⟩ := ih (h.step call) hr' hrest
      exact ⟨call :: pre, last, post, congrArg (call :: ·) heq, hfind, hstarts⟩
    | claimed _ hfresh =>
      rw [hr] at hfresh
      cases hfresh
    | started hfound =>
      exact ⟨[], _, calls ++ [.start id r.claim.claimedAtMs], rfl, hr, _, hr', rfl, hclaim⟩
    | received => cases hcall
    | recovered => cases hcall

/-- An overtaken effect breaks the fence when it starts. -/
lemma not_fenced_of_overtakes {pre post : List Call} (hcall : Overtakes (after pre) call)
    (hpost : ∀ call ∈ post, call.boundary = true) :
    ∃ id startedAtMs, ¬ Fenced (pre ++ call :: post ++ [.start id startedAtMs]) := by
  obtain ⟨t, ht, hnew, r, hr, hclaimed, hnewer⟩ := hcall
  have hsound := sound_exec pre
  have hwrites := hsound.writes call
  have hfound := Table.find_of_mem hr
  -- The call consumes a ticket, so it leaves the overtaken effect alone.
  have hkept : (machine.step (after pre) call).1.effects.find r.effectId = some r := by
    obtain ⟨r', hr', -⟩ := hwrites.find hfound
    rw [hr']
    rcases hwrites.tickets with hsame | ⟨verification, claim, rfl, -, -⟩
    · rw [hsame] at ht
      exact absurd ht hnew
    · cases hwrites.recordStep hr' with
      | kept hrow => exact hrow.symm.trans hfound
      | claimed _ hfresh =>
        rw [hfound] at hfresh
        cases hfresh
  obtain ⟨pre', start, post', heq, hbefore, r', hafter, hstarted, hclaim⟩ :=
    enters_boundary (hsound.step call) hkept hclaimed hpost
  refine ⟨r.effectId, r.claim.claimedAtMs, fun hfenced => ?_⟩
  have hexec : after (pre ++ call :: pre') =
      machine.exec (machine.step (after pre) call).1 pre' := by
    rw [after, Machine.exec_append, Machine.exec_cons]
  refine hfenced (pre ++ call :: pre') start post' ?_ r.effectId r' ?_ hstarted ?_ t ?_ ?_
  · rw [append_assoc, cons_append, heq, append_assoc]
    rfl
  · rw [after, Machine.exec_concat, ← after, hexec]
    exact hafter
  · intro old hold
    rw [hexec, hbefore] at hold
    cases hold
    rw [hclaimed]
    exact DeliveryState.noConfusion
  · rw [hexec]
    exact (mem_tickets_exec (hsound.step call) ht pre').2
  · rw [hclaim]
    exact hnewer

/-- However the calls that lead to the boundary are ordered, no effect enters it behind the fence,
then and at any start that may follow, exactly when no ticket is consumed while an effect of an
earlier generation of its run has not started. -/
theorem exec_boundaryFenced (calls : List Call) (hcalls : ∀ call ∈ calls, call.boundary = true) :
    (Fenced calls ∧ ∀ id startedAtMs, Fenced (calls ++ [.start id startedAtMs])) ↔
      machine.Steps (fun s call => ¬ Overtakes s call) .empty calls := by
  constructor
  · rintro ⟨-, hfenced⟩
    refine machine.steps_iff_split.mpr ?_
    rintro pre call post rfl hovertakes
    obtain ⟨id, startedAtMs, hnot⟩ := not_fenced_of_overtakes hovertakes fun call hcall =>
      hcalls call (mem_append_right _ (mem_cons_of_mem _ hcall))
    exact hnot (hfenced id startedAtMs)
  · intro h
    refine ⟨?_, fun id startedAtMs => fenced_start h [.start id startedAtMs] (le_refl _)⟩
    have hfenced := fenced_start h [] (Nat.zero_le _)
    rwa [append_nil] at hfenced

/-- Two generations of one run: the later ticket is consumed before the earlier effect starts. -/
def overtaken : List Call :=
  [.consume (sampleVerification "1" 1) (sampleClaim "1" 1),
    .consume (sampleVerification "2" 2) (sampleClaim "2" 2), .start "eff_1" 1]

theorem exec_boundaryFenced_overtaken :
    (Fenced overtaken ∧ ∀ id startedAtMs, Fenced (overtaken ++ [.start id startedAtMs])) ↔
      machine.Steps (fun s call => ¬ Overtakes s call) .empty overtaken :=
  exec_boundaryFenced overtaken (by simp [overtaken, Call.boundary])

lemma overtaken_claimed : ((after (overtaken.take 2)).effects.find "eff_1").map
    (fun r => r.state) = some .claimed := by
  decide

lemma overtaken_started : ((after overtaken).effects.find "eff_1").map
    (fun r => (r.state, r.claim)) = some (.sideEffectStarted, sampleClaim "1" 1) := by
  decide

lemma overtaken_ticket : sampleVerification "2" 2 ∈ (after (overtaken.take 2)).tickets.rows := by
  decide

/-- The effect of the earlier generation starts behind the fence. -/
theorem overtaken_not_fenced : ¬ Fenced overtaken := by
  intro h
  obtain ⟨r, hr, hstarted⟩ := Option.map_eq_some_iff.mp overtaken_started
  obtain ⟨hstate, hclaim⟩ := Prod.mk.inj hstarted
  refine h (overtaken.take 2) (.start "eff_1" 1) [] rfl "eff_1" r hr hstate ?_ _ overtaken_ticket ?_
  · intro old hold
    obtain ⟨row, hrow, hclaimed⟩ := Option.map_eq_some_iff.mp overtaken_claimed
    cases hrow.symm.trans hold
    rw [hclaimed]
    exact DeliveryState.noConfusion
  · rw [hclaim]
    exact ⟨rfl, rfl, Nat.lt_succ_self 1⟩

end Tiangong.Communication.DeliveryLedger
