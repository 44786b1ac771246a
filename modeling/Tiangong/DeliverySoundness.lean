import Mathlib.Data.List.Chain
import Tiangong.DeliverySteps
import Tiangong.LinkedLogs

/-!
# The delivery ledger passes its own verification

The tickets and the claims belong together, the events of an effect lead to its state, and the facts
about a part follow the transition table. Every accepted call keeps all of it, so that the ledger
never writes a state that its own verifier rejects.
-/
namespace Tiangong.Communication.DeliveryLedger

open List TransferStage

variable {s s' : DeliveryLedger}

def claims (s : DeliveryLedger) : List DeliveryEffectClaim := s.effects.rows.map (·.claim)

/-- Every claim was made with a verified ticket of its own, and every ticket has its claim. -/
structure Authority (s : DeliveryLedger) : Prop where
  ticketDigests : ∀ t ∈ s.tickets.rows, t.1.hasValidSha256 = true
  claimDigests : ∀ c ∈ s.claims, c.hasValidSha256 = true
  bound : ∀ t ∈ s.tickets.rows, ∃ c ∈ s.claims, Binds t.1 c
  authorized : ∀ c ∈ s.claims, ∃ t ∈ s.tickets.rows, Binds t.1 c
  distinctTickets : s.tickets.rows.Pairwise fun t t' => sameTicket t t' = false
  distinctEffects : s.claims.Pairwise fun c c' => sameEffect c c' = false

lemma authority_empty : DeliveryLedger.empty.Authority where
  ticketDigests t ht := by cases ht
  claimDigests c hc := by cases hc
  bound t ht := by cases ht
  authorized c hc := by cases hc
  distinctTickets := .nil
  distinctEffects := .nil

theorem Authority.congr (h : s.Authority) (htickets : s'.tickets = s.tickets)
    (hclaims : s'.claims = s.claims) : s'.Authority := by
  refine ⟨?_, ?_, ?_, ?_, ?_, ?_⟩
  all_goals simp only [htickets, hclaims]
  exacts [h.ticketDigests, h.claimDigests, h.bound, h.authorized, h.distinctTickets,
    h.distinctEffects]

theorem mem_claims {r : DeliveryRecord} (h : r ∈ s.effects.rows) : r.claim ∈ s.claims :=
  mem_map_of_mem h

/-- A new ticket with its new effect. -/
structure Consumed (s : DeliveryLedger) (verification : VerifiedDeliveryTicketFact)
    (claim : DeliveryEffectClaim) (s' : DeliveryLedger) : Prop where
  freshTicket : ∀ t ∈ s.tickets.rows, sameTicket t verification = false
  freshEffect : ∀ r ∈ s.effects.rows, sameEffect r.claim claim = false
  tickets : s.tickets.Inserts verification s'.tickets
  effects : s.effects.Inserts (.ofClaim claim) s'.effects
  events : s.events.Inserts (claimEvent claim) s'.events
  partStages : s'.partStages = s.partStages
  progress : s'.progress = s.progress

/-- A consumed ticket repeats an earlier one with its effect, or both are new. -/
theorem Authority.consume_cases (h : s.Authority) {verification : VerifiedDeliveryTicketFact}
    {claim : DeliveryEffectClaim} {consumption : VerifiedDeliveryConsumption}
    (hstep : s.consumeVerifiedTicket verification claim = .ok (consumption, s')) :
    Consumes s verification claim ∧
      ((s' = s ∧ consumption.created = false ∧ consumption.delivery ∈ s.effects.rows ∧
          consumption.delivery.claim.stable = claim.stable) ∨
        (Consumed s verification claim s' ∧ consumption.created = true ∧
          consumption.delivery = .ofClaim claim)) := by
  obtain ⟨hconsumes, hcases⟩ := consumeVerifiedTicket_cases hstep
  refine ⟨hconsumes, ?_⟩
  rcases hcases with ⟨stored, hstored, hstable, -, hcreated, hlocked⟩ |
    ⟨tickets, hfresh, hinserts, hcreated, hlocked⟩
  · rcases claimLocked_cases hlocked with ⟨rfl, hrecord, -, hrecordStable⟩ | ⟨hclaimed, -⟩
    · exact .inl ⟨rfl, hcreated, hrecord, hrecordStable⟩
    · -- The stored ticket has its claim already, so the effect cannot be new.
      obtain ⟨c, hc, hbinds⟩ := h.bound stored hstored
      obtain ⟨r, hr, rfl⟩ := mem_map.mp hc
      have heffect : stored.1.effectId = verification.1.effectId :=
        congrArg (·.effectId) hstable
      have hsame : sameEffect r.claim claim = true := by
        rw [sameEffect, ← hbinds.effectId, heffect, hconsumes.binds.effectId]
        simp
      rw [hclaimed.fresh r hr] at hsame
      cases hsame
  · rcases claimLocked_cases hlocked with ⟨rfl, hrecord, -, hrecordStable⟩ | ⟨hclaimed, hrecord⟩
    · -- The stored effect has its ticket already, so the ticket cannot be new.
      obtain ⟨t, ht, hbinds⟩ := h.authorized _ (mem_claims hrecord)
      have heffect : consumption.delivery.claim.effectId = claim.effectId :=
        congrArg (·.effectId) hrecordStable
      have hsame : sameTicket t verification = true := by
        rw [sameTicket, hbinds.effectId, heffect, ← hconsumes.binds.effectId]
        simp
      rw [hfresh t ht] at hsame
      cases hsame
    · refine .inr ⟨⟨hfresh, hclaimed.fresh, ?_, hclaimed.effects, hclaimed.events,
        hclaimed.partStages, hclaimed.progress⟩, hcreated, hrecord⟩
      rw [hclaimed.tickets]
      exact hinserts

theorem Authority.consumed (h : s.Authority) {verification : VerifiedDeliveryTicketFact}
    {claim : DeliveryEffectClaim} (hconsumes : Consumes s verification claim)
    (hstep : Consumed s verification claim s') : s'.Authority := by
  have hclaims : s'.claims = s.claims ++ [claim] := by
    rw [claims, hstep.effects.rows, map_append]
    rfl
  refine ⟨?_, ?_, ?_, ?_, ?_, ?_⟩
  · rw [hstep.tickets.rows, forall_mem_append, forall_mem_singleton]
    exact ⟨h.ticketDigests, hconsumes.verificationDigest⟩
  · rw [hclaims, forall_mem_append, forall_mem_singleton]
    exact ⟨h.claimDigests, hconsumes.claimDigest⟩
  · rw [hstep.tickets.rows, hclaims, forall_mem_append, forall_mem_singleton]
    refine ⟨fun t ht => ?_, claim, mem_append_right _ mem_cons_self, hconsumes.binds⟩
    obtain ⟨c, hc, hbinds⟩ := h.bound t ht
    exact ⟨c, mem_append_left _ hc, hbinds⟩
  · rw [hstep.tickets.rows, hclaims, forall_mem_append, forall_mem_singleton]
    refine ⟨fun c hc => ?_, verification, mem_append_right _ mem_cons_self, hconsumes.binds⟩
    obtain ⟨t, ht, hbinds⟩ := h.authorized c hc
    exact ⟨t, mem_append_left _ ht, hbinds⟩
  · rw [hstep.tickets.rows, pairwise_append]
    refine ⟨h.distinctTickets, pairwise_singleton _ _, fun t ht t' ht' => ?_⟩
    rw [mem_singleton.mp ht']
    exact hstep.freshTicket t ht
  · rw [hclaims, pairwise_append]
    refine ⟨h.distinctEffects, pairwise_singleton _ _, fun c hc c' hc' => ?_⟩
    rw [mem_singleton.mp hc']
    obtain ⟨r, hr, rfl⟩ := mem_map.mp hc
    exact hstep.freshEffect r hr

/-- An event opens an effect, or it is one of its moves. -/
def EventAllowed (e : StageEvent) : Prop :=
  e.fromState.elim (e.toState = .claimed) fun state => Moves state e.toState

/-- The events of an effect lead from nothing to its state. -/
structure Chained (state : DeliveryState) (chain : List StageEvent) : Prop where
  linked : Linked StageEvent.fromState (fun e => some e.toState) none chain
  ends : logEnd (fun e : StageEvent => some e.toState) none chain = some state
  allowed : ∀ e ∈ chain, EventAllowed e

theorem Chained.concat {state : DeliveryState} {chain : List StageEvent} (h : Chained state chain)
    {e : StageEvent} (hfrom : e.fromState = some state) (hallowed : EventAllowed e) :
    Chained e.toState (chain ++ [e]) where
  linked := linked_concat.mpr ⟨h.linked, hfrom.trans h.ends.symm⟩
  ends := logEnd_concat
  allowed := by
    rw [forall_mem_append, forall_mem_singleton]
    exact ⟨h.allowed, hallowed⟩

/-- The records are whole, and the events of each lead to its state. -/
structure Histories (s : DeliveryLedger) : Prop where
  receipts : ∀ id r, s.effects.find id = some r →
    ∀ receipt ∈ r.receipt, receipt.hasValidReceiptSha256 = true
  checked : ∀ id r, s.effects.find id = some r → r.checked = true
  owned : ∀ e ∈ s.events.rows, (s.effects.find e.effectId).isSome = true
  chained : ∀ id r, s.effects.find id = some r → Chained r.state (s.eventChain id)

lemma histories_empty : DeliveryLedger.empty.Histories where
  receipts id r hr := by cases hr
  checked id r hr := by cases hr
  owned e he := by cases he
  chained id r hr := by cases hr

lemma eventChain_of_inserts {event : StageEvent} (h : s.events.Inserts event s'.events)
    (id : String) : s'.eventChain id =
      if event.effectId = id then s.eventChain id ++ [event] else s.eventChain id := by
  rw [eventChain, h.rows, filter_append, ← eventChain]
  by_cases hid : event.effectId = id <;> simp [hid]

/-- A move keeps the histories when the receipt that it writes is whole. -/
theorem Histories.moved (h : s.Histories) {row new : DeliveryRecord} {event : StageEvent}
    (hreceipt : ∀ receipt ∈ new.receipt, receipt.hasValidReceiptSha256 = true)
    (hstep : Moved s row new event s') : s'.Histories := by
  have hcases : ∀ {P : String → DeliveryRecord → Prop}, P event.effectId new →
      (∀ id r, s.effects.find id = some r → id ≠ event.effectId → P id r) →
        ∀ id r, s'.effects.find id = some r → P id r := by
    intro P hnew hold id r hr
    rw [hstep.effects] at hr
    split at hr
    · next hid =>
      cases hr
      rw [hid]
      exact hnew
    · next hid => exact hold id r hr hid
  refine ⟨hcases hreceipt fun id r hr _ => h.receipts id r hr,
    hcases hstep.checked fun id r hr _ => h.checked id r hr, ?_, ?_⟩
  · rw [hstep.events.rows, forall_mem_append, forall_mem_singleton]
    refine ⟨fun e he => ?_, ?_⟩
    · rw [hstep.effects]
      split
      · rfl
      · exact h.owned e he
    · rw [hstep.effects, if_pos rfl]
      rfl
  · refine hcases ?_ fun id r hr hid => ?_
    · rw [eventChain_of_inserts hstep.events, if_pos rfl, ← hstep.toState]
      refine (h.chained _ _ hstep.found).concat hstep.fromState ?_
      rw [EventAllowed, hstep.fromState, Option.elim_some, hstep.toState]
      exact hstep.moves
    · rw [eventChain_of_inserts hstep.events, if_neg fun heq => hid heq.symm]
      exact h.chained id r hr

theorem Histories.consumed (h : s.Histories) {verification : VerifiedDeliveryTicketFact}
    {claim : DeliveryEffectClaim} (hstep : Consumed s verification claim s') : s'.Histories := by
  have hfind := hstep.effects.find
  have hcases : ∀ {P : String → DeliveryRecord → Prop}, P claim.effectId (.ofClaim claim) →
      (∀ id r, s.effects.find id = some r → id ≠ claim.effectId → P id r) →
        ∀ id r, s'.effects.find id = some r → P id r := by
    intro P hnew hold id r hr
    rw [hfind] at hr
    split at hr
    · next hid =>
      cases hr
      rw [← hid]
      exact hnew
    · next hid => exact hold id r hr fun heq => hid heq.symm
  have hfresh : s.effects.find claim.effectId = none := hstep.effects.fresh
  refine ⟨hcases (fun _ hr => by cases hr) fun id r hr _ => h.receipts id r hr,
    hcases ?_ fun id r hr _ => h.checked id r hr, ?_, ?_⟩
  · simp [DeliveryRecord.checked, DeliveryRecord.ofClaim]
  · rw [hstep.events.rows, forall_mem_append, forall_mem_singleton]
    refine ⟨fun e he => ?_, ?_⟩
    · rw [hfind]
      split
      · rfl
      · exact h.owned e he
    · have hkey : (DeliveryRecord.ofClaim claim).effectId = (claimEvent claim).effectId := rfl
      rw [hfind, if_pos hkey]
      rfl
  · refine hcases ?_ fun id r hr hid => ?_
    · have hnone : s.eventChain claim.effectId = [] := by
        refine filter_eq_nil_iff.mpr fun e he heq => ?_
        have howned := h.owned e he
        rw [of_decide_eq_true heq, hfresh] at howned
        cases howned
      have hkey : (claimEvent claim).effectId = claim.effectId := rfl
      rw [eventChain_of_inserts hstep.events, if_pos hkey, hnone]
      refine ⟨⟨rfl, trivial⟩, rfl, ?_⟩
      rw [nil_append, forall_mem_singleton]
      exact (rfl : (claimEvent claim).toState = .claimed)
    · rw [eventChain_of_inserts hstep.events, if_neg fun heq => hid heq.symm]
      exact h.chained id r hr

/-- The facts of a part follow the transition table in one context, and time does not run back. -/
structure PartChain (claimedAtMs : ℕ) (chain : List DeliveryPartStageFact) : Prop where
  context : ∀ f ∈ chain, ∀ f' ∈ chain, f'.1.partIndex = f.1.partIndex ∧ f'.1.kind = f.1.kind
  first : ∀ f ∈ chain.head?, f.1.stage ∈ successors none
  linked : chain.IsChain fun f f' =>
    f'.1.stage ∈ successors (some f.1.stage) ∧ f.1.occurredAtMs ≤ f'.1.occurredAtMs
  after : ∀ f ∈ chain, claimedAtMs ≤ f.1.occurredAtMs

/-- The facts of a phase grow strictly towards one total, and time does not run back. -/
structure ProgressChain (claimedAtMs : ℕ) (chain : List DeliveryTransferProgressFact) : Prop where
  total : ∀ f ∈ chain, ∀ f' ∈ chain, f'.1.totalBytes = f.1.totalBytes
  linked : chain.Pairwise fun f f' =>
    f.1.bytesCompleted < f'.1.bytesCompleted ∧ f.1.observedAtMs ≤ f'.1.observedAtMs
  after : ∀ f ∈ chain, claimedAtMs ≤ f.1.observedAtMs

lemma partChain_nil (claimedAtMs : ℕ) : PartChain claimedAtMs [] where
  context f hf := by cases hf
  first f hf := by cases hf
  linked := .nil
  after f hf := by cases hf

lemma progressChain_nil (claimedAtMs : ℕ) : ProgressChain claimedAtMs [] where
  total f hf := by cases hf
  linked := .nil
  after f hf := by cases hf

/-- What is observed of the parts belongs to an effect and forms chains. -/
structure Observations (s : DeliveryLedger) : Prop where
  partFacts : ∀ f ∈ s.partStages.rows, f.1.hasValidSha256 = true ∧
    (s.effects.find f.1.effectId).isSome = true
  partChains : ∀ part r, s.effects.find part.1 = some r →
    PartChain r.claim.claimedAtMs (s.partChain part)
  progressFacts : ∀ f ∈ s.progress.rows, f.1.hasValidSha256 = true ∧
    (s.effects.find f.1.effectId).isSome = true
  progressChains : ∀ transfer r, s.effects.find transfer.1 = some r →
    ProgressChain r.claim.claimedAtMs (s.progressChain transfer)

lemma observations_empty : DeliveryLedger.empty.Observations where
  partFacts f hf := by cases hf
  partChains part r hr := by cases hr
  progressFacts f hf := by cases hf
  progressChains transfer r hr := by cases hr

lemma Observations.of_effects (h : s.Observations) (hparts : s'.partStages = s.partStages)
    (hprogress : s'.progress = s.progress)
    (hkept : ∀ id, (s.effects.find id).isSome = true → (s'.effects.find id).isSome = true)
    (hcases : ∀ id r, s'.effects.find id = some r →
      (∃ old, s.effects.find id = some old ∧ old.claim = r.claim) ∨ s.effects.find id = none) :
    s'.Observations := by
  refine ⟨?_, fun part r hr => ?_, ?_, fun transfer r hr => ?_⟩
  · rw [hparts]
    exact fun f hf => ⟨(h.partFacts f hf).1, hkept _ (h.partFacts f hf).2⟩
  · rw [partChain, hparts, ← partChain]
    rcases hcases part.1 r hr with ⟨old, hold, hclaim⟩ | hnone
    · rw [← hclaim]
      exact h.partChains part old hold
    · have hnil : s.partChain part = [] := by
        refine filter_eq_nil_iff.mpr fun f hf heq => ?_
        have hid : f.1.effectId = part.1 := congrArg Prod.fst (of_decide_eq_true heq)
        have hsome := (h.partFacts f hf).2
        rw [hid, hnone] at hsome
        cases hsome
      rw [hnil]
      exact partChain_nil _
  · rw [hprogress]
    exact fun f hf => ⟨(h.progressFacts f hf).1, hkept _ (h.progressFacts f hf).2⟩
  · rw [progressChain, hprogress, ← progressChain]
    rcases hcases transfer.1 r hr with ⟨old, hold, hclaim⟩ | hnone
    · rw [← hclaim]
      exact h.progressChains transfer old hold
    · have hnil : s.progressChain transfer = [] := by
        refine filter_eq_nil_iff.mpr fun f hf heq => ?_
        have hid : f.1.effectId = transfer.1 := congrArg Prod.fst (of_decide_eq_true heq)
        have hsome := (h.progressFacts f hf).2
        rw [hid, hnone] at hsome
        cases hsome
      rw [hnil]
      exact progressChain_nil _

theorem Observations.moved (h : s.Observations) {row new : DeliveryRecord} {event : StageEvent}
    (hstep : Moved s row new event s') : s'.Observations := by
  refine h.of_effects hstep.partStages hstep.progress (fun id hid => ?_) fun id r hr => ?_
  · rw [hstep.effects]
    split
    · rfl
    · exact hid
  · rw [hstep.effects] at hr
    split at hr
    · next hid =>
      cases hr
      exact .inl ⟨row, hid ▸ hstep.found, hstep.claim.symm⟩
    · exact .inl ⟨r, hr, rfl⟩

theorem Observations.consumed (h : s.Observations) {verification : VerifiedDeliveryTicketFact}
    {claim : DeliveryEffectClaim} (hstep : Consumed s verification claim s') :
    s'.Observations := by
  have hfind := hstep.effects.find
  refine h.of_effects hstep.partStages hstep.progress (fun id hid => ?_) fun id r hr => ?_
  · rw [hfind]
    split
    · rfl
    · exact hid
  · rw [hfind] at hr
    split at hr
    · next hid => exact .inr (hid ▸ hstep.effects.fresh)
    · exact .inl ⟨r, hr, rfl⟩

theorem PartChain.concat {claimedAtMs : ℕ} {chain : List DeliveryPartStageFact}
    (h : PartChain claimedAtMs chain) {fact : DeliveryPartStageFact}
    (hafter : claimedAtMs ≤ fact.1.occurredAtMs)
    (hcontext : ∀ p ∈ chain.getLast?, p.1.partIndex = fact.1.partIndex ∧
      p.1.kind = fact.1.kind ∧ p.1.occurredAtMs ≤ fact.1.occurredAtMs)
    (hstage : fact.1.stage ∈ successors (chain.getLast?.map (·.1.stage))) :
    PartChain claimedAtMs (chain ++ [fact]) := by
  have hsame : ∀ f ∈ chain, f.1.partIndex = fact.1.partIndex ∧ f.1.kind = fact.1.kind := by
    intro f hf
    obtain ⟨p, hp⟩ := Option.isSome_iff_exists.mp
      (List.getLast?_isSome.mpr (ne_nil_of_mem hf))
    obtain ⟨hindex, hkind, -⟩ := hcontext p hp
    obtain ⟨hindex', hkind'⟩ := h.context p (mem_of_getLast? hp) f hf
    exact ⟨hindex'.trans hindex, hkind'.trans hkind⟩
  refine ⟨?_, ?_, ?_, ?_⟩
  · intro f hf f' hf'
    rw [mem_append, mem_singleton] at hf hf'
    rcases hf with hf | rfl
    · rcases hf' with hf' | rfl
      · exact h.context f hf f' hf'
      · exact ⟨(hsame f hf).1.symm, (hsame f hf).2.symm⟩
    · rcases hf' with hf' | rfl
      · exact hsame f' hf'
      · exact ⟨rfl, rfl⟩
  · intro f hf
    cases chain with
    | nil =>
      cases hf
      exact hstage
    | cons g chain => exact h.first f hf
  · rw [isChain_append]
    refine ⟨h.linked, isChain_singleton _, fun p hp f hf => ?_⟩
    cases hf
    rw [Option.mem_def.mp hp, Option.map_some] at hstage
    exact ⟨hstage, (hcontext p hp).2.2⟩
  · rw [forall_mem_append, forall_mem_singleton]
    exact ⟨h.after, hafter⟩

/-- The next fact of a phase. -/
theorem ProgressChain.concat {claimedAtMs : ℕ} {chain : List DeliveryTransferProgressFact}
    (h : ProgressChain claimedAtMs chain) {fact : DeliveryTransferProgressFact}
    (hafter : claimedAtMs ≤ fact.1.observedAtMs)
    (hlater : ∀ p ∈ chain, p.1.totalBytes = fact.1.totalBytes ∧
      p.1.bytesCompleted < fact.1.bytesCompleted ∧ p.1.observedAtMs ≤ fact.1.observedAtMs) :
    ProgressChain claimedAtMs (chain ++ [fact]) := by
  refine ⟨?_, ?_, ?_⟩
  · intro f hf f' hf'
    rw [mem_append, mem_singleton] at hf hf'
    rcases hf with hf | rfl
    · rcases hf' with hf' | rfl
      · exact h.total f hf f' hf'
      · exact (hlater f hf).1.symm
    · rcases hf' with hf' | rfl
      · exact (hlater f' hf').1
      · rfl
  · rw [pairwise_append]
    refine ⟨h.linked, pairwise_singleton _ _, fun p hp f hf => ?_⟩
    rw [mem_singleton.mp hf]
    exact (hlater p hp).2
  · rw [forall_mem_append, forall_mem_singleton]
    exact ⟨h.after, hafter⟩

/-- The fact with the most bytes is not overtaken by any of its phase. -/
lemma ProgressChain.le_head {claimedAtMs : ℕ} {chain : List DeliveryTransferProgressFact}
    (h : ProgressChain claimedAtMs chain) {p : DeliveryTransferProgressFact}
    (hp : (orderBy (fun f f' : DeliveryTransferProgressFact =>
      f'.1.bytesCompleted ≤ f.1.bytesCompleted) chain).head? = some p) :
    p ∈ chain ∧ ∀ f ∈ chain, f.1.bytesCompleted ≤ p.1.bytesCompleted ∧
      f.1.observedAtMs ≤ p.1.observedAtMs := by
  have hsorted := @orderBy_pairwise _ (fun f f' : DeliveryTransferProgressFact =>
      f'.1.bytesCompleted ≤ f.1.bytesCompleted)
    (fun f f' => by simp only [decide_eq_true_eq]; omega)
    (fun f f' f'' hle hle' => by simp only [decide_eq_true_eq] at *; omega) chain
  have hmem : p ∈ chain := mem_orderBy.mp (mem_of_head? hp)
  refine ⟨hmem, fun f hf => ?_⟩
  have hbytes : f.1.bytesCompleted ≤ p.1.bytesCompleted := by
    obtain ⟨rest, hrest⟩ := List.head?_eq_some_iff.mp hp
    have hf' : f ∈ p :: rest := hrest ▸ mem_orderBy.mpr hf
    rw [hrest, pairwise_cons] at hsorted
    rcases mem_cons.mp hf' with rfl | hf'
    · exact le_rfl
    · exact of_decide_eq_true (hsorted.1 f hf')
  refine ⟨hbytes, ?_⟩
  obtain ⟨pre, post, rfl⟩ := append_of_mem hmem
  have hlinked := h.linked
  rw [pairwise_append, pairwise_cons] at hlinked
  obtain ⟨-, ⟨hpost, -⟩, hpre⟩ := hlinked
  rw [mem_append, mem_cons] at hf
  rcases hf with hf | rfl | hf
  · exact (hpre f hf p mem_cons_self).2
  · exact le_rfl
  · have := (hpost f hf).1
    omega

variable {fact stored : DeliveryPartStageFact}

theorem recordPartStage_cases (h : s.recordPartStage fact = .ok (stored, s')) :
    stored = fact ∧ (s' = s ∨ (fact.1.hasValidSha256 = true ∧
      (∃ r, s.effects.find fact.1.effectId = some r ∧ r.claim.claimedAtMs ≤ fact.1.occurredAtMs) ∧
      (∀ p ∈ (s.partChain fact.part).getLast?, p.1.partIndex = fact.1.partIndex ∧
        p.1.kind = fact.1.kind ∧ p.1.occurredAtMs ≤ fact.1.occurredAtMs) ∧
      fact.1.stage ∈ successors ((s.partChain fact.part).getLast?.map (·.1.stage)) ∧
      ∃ partStages, s.partStages.Inserts fact partStages ∧ s' = { s with partStages })) := by
  simp only [recordPartStage, eq_ok_iff, Bool.not_eq_false, not_lt] at h
  obtain ⟨hdigest, r, hr, hafter, h⟩ := h
  split at h
  · simp only [eq_pair_iff, not_not] at h
    obtain ⟨rfl, rfl, rfl⟩ := h
    exact ⟨rfl, .inl rfl⟩
  · simp only [eq_pair_iff, not_not, Table.insert_eq_ok] at h
    obtain ⟨hcontext, hstage, partStages, hinserts, rfl, rfl⟩ := h
    refine ⟨rfl, .inr ⟨hdigest, ⟨r, hr, hafter⟩, fun p hp => ?_, hstage, partStages, hinserts, rfl⟩⟩
    rw [Option.mem_def.mp hp, Option.any_some] at hcontext
    simpa [not_or, and_assoc] using hcontext

/-- A progress fact repeats the stored one, or it is the next of its phase. -/
theorem recordTransferProgress_cases {fact stored : DeliveryTransferProgressFact}
    (h : s.recordTransferProgress fact = .ok (stored, s')) :
    stored = fact ∧ (s' = s ∨ (fact.1.hasValidSha256 = true ∧
      (∃ r, s.effects.find fact.1.effectId = some r ∧ r.claim.claimedAtMs ≤ fact.1.observedAtMs) ∧
      (∀ p, (orderBy (fun f f' : DeliveryTransferProgressFact =>
          f'.1.bytesCompleted ≤ f.1.bytesCompleted) (s.progressChain fact.transfer)).head? =
            some p → p.1.totalBytes = fact.1.totalBytes ∧
          p.1.bytesCompleted < fact.1.bytesCompleted ∧ p.1.observedAtMs ≤ fact.1.observedAtMs) ∧
      ∃ progress, s.progress.Inserts fact progress ∧ s' = { s with progress })) := by
  simp only [recordTransferProgress, eq_ok_iff, Bool.not_eq_false] at h
  obtain ⟨hdigest, heffect, h⟩ := h
  have hclaimed : ∃ r, s.effects.find fact.1.effectId = some r ∧
      r.claim.claimedAtMs ≤ fact.1.observedAtMs := by
    cases hfound : s.effects.find fact.1.effectId with
    | none =>
      rw [hfound] at heffect
      exact absurd rfl heffect
    | some r =>
      rw [hfound, Option.all_some, decide_eq_true_eq, not_lt] at heffect
      exact ⟨r, rfl, heffect⟩
  split at h
  · simp only [eq_pair_iff, not_not] at h
    obtain ⟨rfl, rfl, rfl⟩ := h
    exact ⟨rfl, .inl rfl⟩
  · simp only [eq_pair_iff, Table.insert_eq_ok] at h
    obtain ⟨hcontext, progress, hinserts, rfl, rfl⟩ := h
    refine ⟨rfl, .inr ⟨hdigest, hclaimed, fun p hp => ?_, progress, hinserts, rfl⟩⟩
    rw [hp, Option.any_some] at hcontext
    simp only [Bool.or_eq_true, decide_eq_true_eq, not_or, ne_eq, not_not, not_le, not_lt]
      at hcontext
    exact ⟨hcontext.1.1.2, hcontext.1.2, hcontext.2⟩

theorem Observations.staged (h : s.Observations)
    (hstep : s.recordPartStage fact = .ok (stored, s')) : s'.Observations := by
  obtain ⟨-, hcases⟩ := recordPartStage_cases hstep
  rcases hcases with rfl | ⟨hdigest, ⟨r, hr, hafter⟩, hcontext, hstage, partStages, hinserts, rfl⟩
  · exact h
  · refine ⟨?_, fun part r' hr' => ?_, h.progressFacts, h.progressChains⟩
    · show ∀ f ∈ partStages.rows, _
      rw [hinserts.rows, forall_mem_append, forall_mem_singleton]
      refine ⟨h.partFacts, hdigest, ?_⟩
      rw [hr]
      rfl
    · have hchain : DeliveryLedger.partChain part { s with partStages } =
          if fact.part = part then s.partChain part ++ [fact] else s.partChain part := by
        rw [partChain, hinserts.rows, filter_append, ← partChain]
        by_cases hpart : fact.part = part <;> simp [hpart]
      rw [hchain]
      split
      · next hpart =>
        subst hpart
        obtain rfl := Option.some.inj (hr.symm.trans hr')
        exact (h.partChains fact.part r hr).concat hafter hcontext hstage
      · exact h.partChains part r' hr'

theorem Observations.progressed (h : s.Observations) {fact stored : DeliveryTransferProgressFact}
    (hstep : s.recordTransferProgress fact = .ok (stored, s')) : s'.Observations := by
  obtain ⟨-, hcases⟩ := recordTransferProgress_cases hstep
  rcases hcases with rfl | ⟨hdigest, ⟨r, hr, hafter⟩, hhead, progress, hinserts, rfl⟩
  · exact h
  · refine ⟨h.partFacts, h.partChains, ?_, fun transfer r' hr' => ?_⟩
    · show ∀ f ∈ progress.rows, _
      rw [hinserts.rows, forall_mem_append, forall_mem_singleton]
      refine ⟨h.progressFacts, hdigest, ?_⟩
      rw [hr]
      rfl
    · have hchain : DeliveryLedger.progressChain transfer { s with progress } =
          if fact.transfer = transfer then s.progressChain transfer ++ [fact]
          else s.progressChain transfer := by
        rw [progressChain, hinserts.rows, filter_append, ← progressChain]
        by_cases htransfer : fact.transfer = transfer <;> simp [htransfer]
      rw [hchain]
      split
      · next htransfer =>
        subst htransfer
        obtain rfl := Option.some.inj (hr.symm.trans hr')
        have hold := h.progressChains fact.transfer r hr
        refine hold.concat hafter fun p hp => ?_
        obtain ⟨last, hlast⟩ := Option.isSome_iff_exists.mp
          (isSome_head?.mpr (ne_nil_of_mem (mem_orderBy.mpr hp)))
        obtain ⟨hmem, hle⟩ := hold.le_head hlast
        obtain ⟨htotal, hbytes, htime⟩ := hhead last hlast
        obtain ⟨hbytes', htime'⟩ := hle p hp
        exact ⟨(hold.total last hmem p hp).trans htotal, by omega, by omega⟩
      · exact h.progressChains transfer r' hr'

lemma followEvents_of_linked {current : DeliveryState} {events : List StageEvent}
    (h : Linked StageEvent.fromState (fun e => some e.toState) (some current) events) :
    ∃ state, followEvents current events = .ok state ∧
      logEnd (fun e : StageEvent => some e.toState) (some current) events = some state := by
  induction events generalizing current with
  | nil => exact ⟨current, rfl, rfl⟩
  | cons event events ih =>
    obtain ⟨hfrom, hrest⟩ := h
    obtain ⟨state, hstate, hend⟩ := ih hrest
    refine ⟨state, ?_, ?_⟩
    · rw [followEvents, bind_eq_ok]
      exact ⟨(), rejectIf_of_not _ (not_not.mpr hfrom), hstate⟩
    · rw [logEnd_cons]
      exact hend

theorem Histories.verifyEvents (h : s.Histories) {r : DeliveryRecord} (hr : r ∈ s.effects.rows) :
    s.verifyEvents r = .ok () := by
  have hchained := h.chained r.effectId r (Table.find_of_mem hr)
  unfold DeliveryLedger.verifyEvents
  split
  · next hnil =>
    have hend := hchained.ends
    rw [hnil] at hend
    cases hend
  · next first events hcons =>
    rw [hcons] at hchained
    obtain ⟨hnone, hrest⟩ := hchained.linked
    have hclaimed : first.toState = .claimed := by
      have hallowed := hchained.allowed first mem_cons_self
      rwa [EventAllowed, hnone, Option.elim_none] at hallowed
    simp only [hclaimed] at hrest
    obtain ⟨state, hstate, hend⟩ := followEvents_of_linked hrest
    have hlast := hchained.ends
    rw [logEnd_cons] at hlast
    simp only [hclaimed, hend] at hlast
    simp only [bind_eq_ok, rejectIf_eq_ok]
    refine ⟨(), by simp [hnone, hclaimed], state, hstate, ?_⟩
    exact not_not.mpr (Option.some.inj hlast)

lemma followParts_of_chain {partIndex : ℕ} {kind : PartKind} {previous : Option TransferStage}
    {occurredAtMs : ℕ} {chain : List DeliveryPartStageFact}
    (hcontext : ∀ f ∈ chain, f.1.partIndex = partIndex ∧ f.1.kind = kind)
    (hfirst : ∀ f ∈ chain.head?, f.1.stage ∈ successors previous ∧
      occurredAtMs ≤ f.1.occurredAtMs)
    (hlinked : chain.IsChain fun f f' =>
      f'.1.stage ∈ successors (some f.1.stage) ∧
        f.1.occurredAtMs ≤ f'.1.occurredAtMs) :
    followParts partIndex kind previous occurredAtMs chain = .ok () := by
  induction chain generalizing previous occurredAtMs with
  | nil => rfl
  | cons f facts ih =>
    obtain ⟨hnext, hrest⟩ := isChain_cons.mp hlinked
    obtain ⟨hindex, hkind⟩ := hcontext f mem_cons_self
    obtain ⟨hstage, htime⟩ := hfirst f rfl
    rw [followParts, bind_eq_ok]
    refine ⟨(), rejectIf_of_not _ ?_,
      ih (fun f' hf' => hcontext f' (mem_cons_of_mem _ hf')) hnext hrest⟩
    simp [hindex, hkind, hstage, htime]

theorem Observations.verifyPartChain (h : s.Observations) (part : PartKey) :
    s.verifyPartChain part = .ok () := by
  unfold DeliveryLedger.verifyPartChain
  split
  · rfl
  · next first facts hcons =>
    have hmem : first ∈ s.partChain part := hcons ▸ mem_cons_self
    obtain ⟨hrow, hpart⟩ := mem_filter.mp hmem
    obtain ⟨r, hr⟩ := Option.isSome_iff_exists.mp (h.partFacts first hrow).2
    have hid : first.1.effectId = part.1 := congrArg Prod.fst (of_decide_eq_true hpart)
    have hchain := h.partChains part r (hid ▸ hr)
    rw [hcons] at hchain
    simp only [eq_ok_iff]
    refine ⟨r, hr, followParts_of_chain (fun f hf => ?_) (fun f hf => ?_) hchain.linked⟩
    · exact hchain.context first mem_cons_self f hf
    · exact ⟨hchain.first f hf, hchain.after f (mem_of_head? hf)⟩

lemma followProgress_of_chain {totalBytes completed observedAtMs : ℕ}
    {chain : List DeliveryTransferProgressFact}
    (htotal : ∀ f ∈ chain, f.1.totalBytes = totalBytes)
    (hfirst : ∀ f ∈ chain, completed < f.1.bytesCompleted ∧ observedAtMs ≤ f.1.observedAtMs)
    (hlinked : chain.Pairwise fun f f' =>
      f.1.bytesCompleted < f'.1.bytesCompleted ∧ f.1.observedAtMs ≤ f'.1.observedAtMs) :
    followProgress totalBytes completed observedAtMs chain = .ok () := by
  induction chain generalizing completed observedAtMs with
  | nil => rfl
  | cons f facts ih =>
    obtain ⟨hnext, hrest⟩ := pairwise_cons.mp hlinked
    obtain ⟨hbytes, htime⟩ := hfirst f mem_cons_self
    rw [followProgress, bind_eq_ok]
    refine ⟨(), rejectIf_of_not _ ?_,
      ih (fun f' hf' => htotal f' (mem_cons_of_mem _ hf')) hnext hrest⟩
    have := htotal f mem_cons_self
    omega

theorem Observations.verifyProgressChain (h : s.Observations) (transfer : PhaseKey) :
    s.verifyProgressChain transfer = .ok () := by
  unfold DeliveryLedger.verifyProgressChain
  split
  · rfl
  · next first facts hcons =>
    have hmem : first ∈ s.progressChain transfer := hcons ▸ mem_cons_self
    obtain ⟨hrow, htransfer⟩ := mem_filter.mp hmem
    obtain ⟨r, hr⟩ := Option.isSome_iff_exists.mp (h.progressFacts first hrow).2
    have hid : first.1.effectId = transfer.1 := congrArg Prod.fst (of_decide_eq_true htransfer)
    have hchain := h.progressChains transfer r (hid ▸ hr)
    rw [hcons] at hchain
    simp only [eq_ok_iff]
    refine ⟨r, hr, followProgress_of_chain (fun f hf => ?_) (fun f hf => ?_) hchain.linked⟩
    · exact hchain.total first mem_cons_self f hf
    · exact ⟨f.bytes_pos, hchain.after f hf⟩

/-- Everything that the ledger keeps. -/
structure Sound (s : DeliveryLedger) : Prop where
  authority : s.Authority
  histories : s.Histories
  observations : s.Observations

theorem sound_empty : DeliveryLedger.empty.Sound :=
  ⟨authority_empty, histories_empty, observations_empty⟩

/-- The effect of a claim can be looked up. -/
theorem find_of_claim {c : DeliveryEffectClaim} (h : c ∈ s.claims) :
    ∃ r, s.effects.find c.effectId = some r ∧ r.claim = c := by
  obtain ⟨r, hr, rfl⟩ := mem_map.mp h
  exact ⟨r, Table.find_of_mem hr, rfl⟩

/-- A sound ledger passes its own verification. -/
theorem Sound.verified (h : s.Sound) : s.verifyRows = .ok () := by
  have hdigest : ∀ r ∈ s.effects.rows, checkRecord r = .ok r := fun r hr =>
    checkRecord_eq_ok.mpr ⟨h.authority.claimDigests _ (mem_claims hr),
      h.histories.receipts _ r (Table.find_of_mem hr), rfl⟩
  unfold verifyRows
  simp only [bind_eq_ok]
  refine ⟨(), forM_eq_ok.mpr fun t ht => ?_, (), forM_eq_ok.mpr fun r hr => ?_, (),
    forM_eq_ok.mpr fun t ht => ?_, (), rejectIf_of_not _ ?_, (), forM_eq_ok.mpr fun e he => ?_, (),
    forM_eq_ok.mpr fun r hr => h.histories.verifyEvents hr, (), forM_eq_ok.mpr fun f hf => ?_, (),
    forM_eq_ok.mpr fun part _ => h.observations.verifyPartChain part, (),
    forM_eq_ok.mpr fun f hf => ?_,
    forM_eq_ok.mpr fun transfer _ => h.observations.verifyProgressChain transfer⟩
  · have hvalid := checkVerification_eq_ok.mpr ⟨h.authority.ticketDigests t ht, rfl⟩
    rw [hvalid]
    rfl
  · rw [hdigest r hr]
    rfl
  · obtain ⟨c, hc, hbinds⟩ := h.authority.bound t ht
    obtain ⟨r, hr, rfl⟩ := find_of_claim hc
    simp only [verifyTicket, eq_ok_iff, Bool.not_eq_false]
    exact ⟨r, hbinds.effectId ▸ hr, sameDelivery_iff.mpr hbinds⟩
  · rw [any_eq_true]
    rintro ⟨r, hr, hnone⟩
    obtain ⟨t, ht, hbinds⟩ := h.authority.authorized _ (mem_claims hr)
    have hfound := Table.find_of_mem ht
    rw [VerifiedDeliveryTicketFact.ticketId, hbinds.ticketId] at hfound
    rw [hfound] at hnone
    cases hnone
  · refine rejectIf_of_not _ ?_
    obtain ⟨r, hr⟩ := Option.isSome_iff_exists.mp (h.histories.owned e he)
    simp [hr]
  · obtain ⟨hvalid, hsome⟩ := h.observations.partFacts f hf
    obtain ⟨r, hr⟩ := Option.isSome_iff_exists.mp hsome
    simp [verifyPartFact, hr, hvalid]
  · obtain ⟨hvalid, hsome⟩ := h.observations.progressFacts f hf
    obtain ⟨r, hr⟩ := Option.isSome_iff_exists.mp hsome
    simp [verifyProgressFact, hr, hvalid]

theorem Sound.moved (h : s.Sound) {row new : DeliveryRecord} {event : StageEvent}
    (hreceipt : ∀ receipt ∈ new.receipt, receipt.hasValidReceiptSha256 = true)
    (hstep : Moved s row new event s') : s'.Sound :=
  ⟨h.authority.congr hstep.tickets hstep.claims, h.histories.moved hreceipt hstep,
    h.observations.moved hstep⟩

theorem Sound.checked (h : s.Sound) : ∀ r ∈ s.effects.rows, r.checked = true :=
  fun r hr => h.histories.checked _ r (Table.find_of_mem hr)

theorem Sound.consume (h : s.Sound) {verification : VerifiedDeliveryTicketFact}
    {claim : DeliveryEffectClaim} {consumption : VerifiedDeliveryConsumption}
    (hstep : s.consumeVerifiedTicket verification claim = .ok (consumption, s')) : s'.Sound := by
  obtain ⟨hconsumes, ⟨rfl, -⟩ | ⟨hconsumed, -⟩⟩ := h.authority.consume_cases hstep
  · exact h
  · exact ⟨h.authority.consumed hconsumes hconsumed, h.histories.consumed hconsumed,
      h.observations.consumed hconsumed⟩

theorem Sound.start (h : s.Sound) {effectId : String} {startedAtMs : ℕ} {record : DeliveryRecord}
    (hstep : s.markSideEffectStarted effectId startedAtMs = .ok (record, s')) : s'.Sound := by
  rcases markSideEffectStarted_cases hstep with ⟨rfl, -⟩ | ⟨row, -, -, rfl, hmoved⟩
  · exact h
  · have hreceipts := h.histories.receipts _ row hmoved.found
    exact @Sound.moved s s' h row (row.started startedAtMs) _ hreceipts hmoved

theorem Sound.receive (h : s.Sound) {receipt : DeliveryReceipt}
    {sideEffectAbsentVerified reconciliation : Bool} {record : DeliveryRecord}
    (hstep : s.recordReceipt receipt sideEffectAbsentVerified reconciliation =
      .ok (record, s')) : s'.Sound := by
  rcases recordReceipt_cases h.checked hstep with ⟨rfl, -⟩ | ⟨row, -, hreceived⟩
  · exact h
  · refine h.moved (fun stored hstored => ?_) hreceived.moved
    cases hstored
    exact hreceived.digest

theorem Sound.recover (h : s.Sound) {nowMs : ℕ} {records : List DeliveryRecord}
    (hstep : s.recoverAmbiguous nowMs = .ok (records, s')) : s'.Sound := by
  refine recoverAmbiguous_keeps (P := Sound) (fun s row s' h _ hmoved => ?_) h hstep
  have hreceipts := h.histories.receipts _ row hmoved.found
  exact @Sound.moved s s' h row (row.recovered nowMs) _ hreceipts hmoved

theorem Sound.stage (h : s.Sound)
    (hstep : s.recordPartStage fact = .ok (stored, s')) : s'.Sound := by
  have hobservations := h.observations.staged hstep
  obtain ⟨-, rfl | ⟨-, -, -, -, partStages, -, rfl⟩⟩ := recordPartStage_cases hstep
  · exact h
  · exact ⟨h.authority.congr rfl rfl, ⟨h.histories.receipts, h.histories.checked,
      h.histories.owned, h.histories.chained⟩, hobservations⟩

theorem Sound.progress (h : s.Sound) {fact stored : DeliveryTransferProgressFact}
    (hstep : s.recordTransferProgress fact = .ok (stored, s')) : s'.Sound := by
  have hobservations := h.observations.progressed hstep
  obtain ⟨-, rfl | ⟨-, -, -, progress, -, rfl⟩⟩ := recordTransferProgress_cases hstep
  · exact h
  · exact ⟨h.authority.congr rfl rfl, ⟨h.histories.receipts, h.histories.checked,
      h.histories.owned, h.histories.chained⟩, hobservations⟩

theorem Sound.step (h : s.Sound) (call : Call) : (machine.step s call).1.Sound := by
  cases call with
  | consume verification claim => exact committed_fst h fun _ _ hstep => h.consume hstep
  | require payload => exact h
  | start effectId startedAtMs => exact committed_fst h fun _ _ hstep => h.start hstep
  | receive receipt absent reconciliation => exact committed_fst h fun _ _ hstep => h.receive hstep
  | recover nowMs => exact committed_fst h fun _ _ hstep => h.recover hstep
  | stage fact => exact committed_fst h fun _ _ hstep => h.stage hstep
  | progress fact => exact committed_fst h fun _ _ hstep => h.progress hstep

theorem sound_exec (calls : List Call) : (machine.exec .empty calls).Sound :=
  Machine.exec_preserves Sound (fun _ call h => h.step call) sound_empty calls

/-- What holds of a ledger that was written by its calls only. -/
structure WellKept (s : DeliveryLedger) : Prop where
  verified : s.verifyRows = .ok ()
  /-- The events of an effect are connected and end in its state. -/
  chained : ∀ id r, s.effects.find id = some r → Chained r.state (s.eventChain id)
  /-- No two records share a ticket, an effect or a delivery, and each has its own ticket. -/
  distinctTickets : s.tickets.rows.Pairwise fun t t' => sameTicket t t' = false
  distinctEffects : s.claims.Pairwise fun c c' => sameEffect c c' = false
  bound : ∀ t ∈ s.tickets.rows, ∃ c ∈ s.claims, Binds t.1 c
  authorized : ∀ c ∈ s.claims, ∃ t ∈ s.tickets.rows, Binds t.1 c
  partChains : ∀ part r, s.effects.find part.1 = some r →
    PartChain r.claim.claimedAtMs (s.partChain part)
  progressChains : ∀ transfer r, s.effects.find transfer.1 = some r →
    ProgressChain r.claim.claimedAtMs (s.progressChain transfer)
  owned : (∀ e ∈ s.events.rows, (s.effects.find e.effectId).isSome = true) ∧
    (∀ f ∈ s.partStages.rows, (s.effects.find f.1.effectId).isSome = true) ∧
      ∀ f ∈ s.progress.rows, (s.effects.find f.1.effectId).isSome = true
  refused : ∀ call e, (machine.step s call).2 = .error e → (machine.step s call).1 = s

lemma step_refused {call : Call} {e : LedgerError} (h : (machine.step s call).2 = .error e) :
    (machine.step s call).1 = s := by
  cases call with
  | require payload => rfl
  | consume verification claim => exact committed_error h
  | start effectId startedAtMs => exact committed_error h
  | receive receipt absent reconciliation => exact committed_error h
  | recover nowMs => exact committed_error h
  | stage fact => exact committed_error h
  | progress fact => exact committed_error h

/-- Whatever calls are made, in any order and with any arguments, the ledger is one that its own
verifier accepts. -/
theorem exec_wellKept (calls : List Call) : (machine.exec .empty calls).WellKept := by
  have h := sound_exec calls
  exact
    { verified := h.verified
      chained := h.histories.chained
      distinctTickets := h.authority.distinctTickets
      distinctEffects := h.authority.distinctEffects
      bound := h.authority.bound
      authorized := h.authority.authorized
      partChains := h.observations.partChains
      progressChains := h.observations.progressChains
      owned := ⟨h.histories.owned, fun f hf => (h.observations.partFacts f hf).2,
        fun f hf => (h.observations.progressFacts f hf).2⟩
      refused := fun _ _ herror => step_refused herror }

end Tiangong.Communication.DeliveryLedger
