import Tiangong.LabelledPrograms
import Tiangong.ResponseSaga

/-!
# The order in which a saga asks

A call marks a marker that it read or created, and goes to the adapter for the slot of the marker
that it marked. A run of a plan does so only when it knows a failed result of every earlier slot.
-/
open List

namespace Tiangong.Response

open Discipline (Keeps Stays keeps_done keeps_fail keeps_perform keeps_refuseIf)

/-- A call of a saga over the store. -/
inductive SagaCall where
  | begin (plan : ModelAttemptPlan)
  | executeSlot (plan : ModelAttemptPlan) (slot : ProviderSlot)
  /-- `held` is the digest that the instance keeps. -/
  | runPlan (plan : ModelAttemptPlan) (held : Option Canon)
  | commitResponse (plan : ModelAttemptPlan) (outcome : ModelAttemptPlanOutcome) (lifeId : PyStr)
    (text : Option PyStr) (systemStatus : PyStr)

namespace SagaCall

def plan : SagaCall → ModelAttemptPlan
  | .begin plan => plan
  | .executeSlot plan _ => plan
  | .runPlan plan _ => plan
  | .commitResponse plan _ _ _ _ => plan

/-- The program of a call; what it answers is not looked at. -/
def program : SagaCall → SagaProgram Unit
  | .begin plan => do
    let _ ← Response.begin plan
    pure ()
  | .executeSlot plan slot => do
    let _ ← Response.executeSlot plan slot
    pure ()
  | .runPlan plan held => do
    let _ ← Response.runPlan plan held
    pure ()
  | .commitResponse plan outcome lifeId text systemStatus => do
    let _ ← Response.commitResponse plan outcome lifeId text systemStatus
    pure ()

end SagaCall

abbrev SlotKey := Canon × ℕ

def SagaCall.key (call : SagaCall) (slot : ProviderSlot) : SlotKey :=
  (call.plan.modelAttemptPlanId, slot.slotNo.val)

def TransportRequest.key (request : TransportRequest) : SlotKey := (request.planId, request.slotNo)

def ModelAttemptResult.key (result : ModelAttemptResult) : SlotKey := (result.planId, result.slotNo)

def DispatchMarker.key (marker : DispatchMarker) : SlotKey := (marker.planId, marker.slotNo)

@[simp] theorem DispatchMarker.dispatch_key (nowMs : ℕ) (m : DispatchMarker) :
    (m.dispatch nowMs).key = m.key := rfl

/-- What a call knows: the slots with a failed result, the marker it last read or created, and the
slot whose marker it has marked since it last called the adapter. -/
structure SagaPhase where
  failed : List SlotKey
  held : Option (SlotKey × Canon)
  marked : Option SlotKey

namespace SagaPhase

def first : SagaPhase := ⟨[], none, none⟩

/-- A result was read or stored. -/
def seen (result : ModelAttemptResult) (key : SlotKey) (p : SagaPhase) : SagaPhase :=
  if result.status = .succeeded then p else { p with failed := key :: p.failed }

@[simp] theorem seen_held (result : ModelAttemptResult) (key : SlotKey) (p : SagaPhase) :
    (p.seen result key).held = p.held := by
  unfold seen
  split <;> rfl

@[simp] theorem seen_marked (result : ModelAttemptResult) (key : SlotKey) (p : SagaPhase) :
    (p.seen result key).marked = p.marked := by
  unfold seen
  split <;> rfl

theorem mem_seen {result : ModelAttemptResult} {key key' : SlotKey} {p : SagaPhase} :
    key' ∈ (p.seen result key).failed ↔
      (result.status ≠ .succeeded ∧ key' = key) ∨ key' ∈ p.failed := by
  unfold seen
  split <;> simp [*]

end SagaPhase

/-- What a call knows when it goes to the adapter: a run of a plan knows that every earlier slot
failed, a single slot is executed whatever is known. -/
def SagaCall.Follows (failed : List SlotKey) (request : TransportRequest) : SagaCall → Prop
  | .runPlan plan held => ∀ earlier ∈ plan.providerSlots, earlier.slotNo.val < request.slotNo →
    (SagaCall.runPlan plan held).key earlier ∈ failed
  | .executeSlot _ _ => True
  | _ => False

def slotDiscipline (call : SagaCall) :
    Discipline SagaAction SagaAction.Answer SagaFault SagaPhase where
  allows p
    | .markDispatched markerId _ => ∃ key, p.held = some (key, markerId)
    | .transport request => p.marked = some request.key ∧
      request.planId = call.plan.modelAttemptPlanId ∧ call.Follows p.failed request
    | _ => True
  after p
    | .getResult planId slotNo, .ok (some result) => p.seen result (planId, slotNo)
    | .getMarker planId slotNo, .ok (some marker) =>
      { p with held := some ((planId, slotNo), marker.markerId) }
    | .createMarker marker, .ok true => { p with held := some (marker.key, marker.markerId) }
    | .markDispatched _ _, .ok _ => { p with marked := p.held.map Prod.fst }
    | .transport _, _ => { p with marked := none }
    | .putResult result, .ok _ => p.seen result result.key
    | _, _ => p

section Keeps

variable {call : SagaCall} {p : SagaPhase} {plan : ModelAttemptPlan} {slot : ProviderSlot}

/-- A marker that was read is one of the slot's. -/
def Found (plan : ModelAttemptPlan) (slotNo : ℕ) (found : Option DispatchMarker) (q : SagaPhase) :
    Prop :=
  ∀ marker, found = some marker → q.held = some ((plan.modelAttemptPlanId, slotNo), marker.markerId)

lemma slotMarker_keeps {slotNo : ℕ} (nowMs : ℕ) {found : Option DispatchMarker}
    (hfound : Found plan slotNo found p) :
    (slotDiscipline call).Keeps
      (fun markerId q => q.failed = p.failed ∧
        q.held = some ((plan.modelAttemptPlanId, slotNo), markerId))
      (fun _ _ => True) (slotMarker plan slotNo nowMs found) p := by
  cases found with
  | some marker => exact keeps_done ⟨rfl, hfound marker rfl⟩
  | none =>
    refine Keeps.bind (keeps_perform (Q := fun created q => q.failed = p.failed ∧
      (created = true → q.held = some ((plan.modelAttemptPlanId, slotNo),
        (newMarker plan slotNo nowMs).markerId))) trivial ?_ fun _ => trivial) ?_
    · rintro (_ | _)
      · exact ⟨rfl, fun h => by cases h⟩
      · exact ⟨rfl, fun _ => rfl⟩
    · rintro created q ⟨hfailed, hheld⟩
      cases created with
      | false => exact keeps_fail trivial
      | true => exact keeps_done ⟨hfailed, hheld rfl⟩

/-- What was known before is known, and a failure of the slot as well. -/
def Settled (plan : ModelAttemptPlan) (slot : ProviderSlot) (p : SagaPhase)
    (result : ModelAttemptResult) (q : SagaPhase) : Prop :=
  (∀ key ∈ p.failed, key ∈ q.failed) ∧
    (result.status ≠ .succeeded → (plan.modelAttemptPlanId, slot.slotNo.val) ∈ q.failed)

lemma Settled.of_seen {result : ModelAttemptResult} :
    Settled plan slot p result (p.seen result (plan.modelAttemptPlanId, slot.slotNo.val)) := by
  refine ⟨fun key hkey => ?_, fun hfailed => ?_⟩
  · exact SagaPhase.mem_seen.mpr (.inr hkey)
  · exact SagaPhase.mem_seen.mpr (.inl ⟨hfailed, rfl⟩)

lemma Settled.of_failed {q q' : SagaPhase} {result : ModelAttemptResult}
    (h : Settled plan slot q result q') (hfailed : q.failed = p.failed) :
    Settled plan slot p result q' :=
  ⟨fun key hkey => h.1 key (hfailed ▸ hkey), h.2⟩

lemma settleSlot_keeps {markerId : Canon} {nowMs : ℕ} {answered : Option TransportOutcome} :
    (slotDiscipline call).Keeps (Settled plan slot p) (fun _ _ => True)
      (settleSlot plan slot markerId nowMs answered) p := by
  refine Stays.then (Discipline.stays_ofExcept _) (fun _ => trivial) fun outcome => ?_
  refine Stays.then (Discipline.stays_perform trivial fun _ => rfl) (fun _ => trivial)
    fun completed => ?_
  refine Keeps.bind (Discipline.keeps_ofExcept (Q := fun result q => q = p ∧
    result.key = (plan.modelAttemptPlanId, slot.slotNo.val)) ?_ fun _ _ => trivial) ?_
  · intro result hresult
    obtain ⟨-, -, hplan, hslot, -⟩ := attemptResult_eq_ok hresult
    exact ⟨rfl, by rw [ModelAttemptResult.key, hplan, hslot]⟩
  rintro result q ⟨rfl, hkey⟩
  refine Keeps.bind (keeps_perform (Q := fun _ q' => Settled plan slot q result q') trivial
    (fun stored => ?_) fun _ => trivial) fun _ q' h => keeps_done h
  have hafter : (slotDiscipline call).after q (.putResult result) (.ok stored) =
      q.seen result (plan.modelAttemptPlanId, slot.slotNo.val) := by
    rw [← hkey]
    rfl
  rw [hafter]
  exact Settled.of_seen

lemma executeSlot_keeps (hplan : call.plan.modelAttemptPlanId = plan.modelAttemptPlanId)
    (hfollows : call.Follows p.failed (transportRequest plan slot)) :
    (slotDiscipline call).Keeps (Settled plan slot p) (fun _ _ => True)
      (executeSlot plan slot) p := by
  -- Up to the call of the adapter nothing new is known to have failed.
  refine Keeps.bind (keeps_perform (Q := fun existing q => existing = none → q = p) trivial ?_
    fun _ => trivial) fun existing q hq => ?_
  · rintro (_ | result)
    · exact fun _ => rfl
    · exact fun h => by cases h
  refine Keeps.bind (Discipline.keeps_refuseIf_of_not (Q := fun _ q' => q' = p)
    (fun hnone => hq (not_not.mp hnone)) fun _ => trivial) fun _ q' hq' => ?_
  subst hq'
  refine Keeps.bind (keeps_perform (Q := fun marker q => q.failed = q'.failed ∧
    Found plan slot.slotNo.val marker q) trivial ?_ fun _ => trivial)
    fun marker q₁ ⟨hfailed₁, hfound⟩ => ?_
  · rintro (_ | marker)
    · exact ⟨rfl, fun _ h => by cases h⟩
    · refine ⟨rfl, fun _ h => ?_⟩
      cases h
      rfl
  refine Stays.then (Discipline.stays_perform trivial fun _ => rfl) (fun _ => trivial)
    fun now => ?_
  refine Keeps.bind (slotMarker_keeps now.val hfound) fun markerId q₂ ⟨hfailed₂, hheld⟩ => ?_
  refine Keeps.bind (keeps_perform (Q := fun _ q => q.failed = q'.failed ∧
    q.marked = some (plan.modelAttemptPlanId, slot.slotNo.val)) ⟨_, hheld⟩ (fun _ => ?_)
    fun _ => trivial) fun _ q₃ ⟨hfailed₃, hmarked⟩ => ?_
  · refine ⟨hfailed₂.trans hfailed₁, ?_⟩
    show q₂.held.map Prod.fst = _
    rw [hheld]
    rfl
  refine Keeps.bind (keeps_perform (Q := fun _ q => q.failed = q'.failed)
    ⟨hmarked, hplan.symm, hfailed₃ ▸ hfollows⟩ (fun _ => hfailed₃) fun _ => trivial)
    fun answered q₄ hfailed₄ => ?_
  exact settleSlot_keeps.mono (fun _ _ h => h.of_failed hfailed₄) fun _ _ h => h

/-- A result that was read is known; where there is none nothing new is known. -/
def Looked (plan : ModelAttemptPlan) (slot : ProviderSlot) (p : SagaPhase) :
    Option ModelAttemptResult → SagaPhase → Prop
  | some result, q => Settled plan slot p result q
  | none, q => q = p

lemma slotResult_keeps (hplan : call.plan.modelAttemptPlanId = plan.modelAttemptPlanId)
    (hfollows : call.Follows p.failed (transportRequest plan slot)) :
    (slotDiscipline call).Keeps (Settled plan slot p) (fun _ _ => True)
      (slotResult plan slot) p := by
  refine Keeps.bind (keeps_perform (Q := Looked plan slot p) trivial ?_ fun _ => trivial)
    fun existing q hq => ?_
  · rintro (_ | result)
    · rfl
    · exact Settled.of_seen
  · cases existing with
    | some result => exact keeps_done hq
    | none =>
      obtain rfl := hq
      exact executeSlot_keeps hplan hfollows

/-- One slot after the other: every earlier one is known to have failed. -/
lemma runSlots_keeps {held : Option Canon} (slots : List ProviderSlot) :
    ∀ (earlier : List ProviderSlot) (results : List ModelAttemptResult) (p : SagaPhase),
      plan.providerSlots = earlier ++ slots →
      (∀ slot ∈ earlier, (plan.modelAttemptPlanId, slot.slotNo.val) ∈ p.failed) →
      (slotDiscipline (.runPlan plan held)).Keeps (fun _ _ => True) (fun _ _ => True)
        (runSlots plan slots results) p := by
  induction slots with
  | nil =>
    intro earlier results p hslots hearlier
    exact keeps_done trivial
  | cons slot slots ih =>
    intro earlier results p hslots hearlier
    have hfollows : (SagaCall.runPlan plan held).Follows p.failed (transportRequest plan slot) := by
      intro other hother hlt
      have hsorted := plan.slots_sorted
      rw [hslots, map_append, map_cons] at hsorted
      rw [hslots] at hother
      rcases mem_append.mp hother with hmem | hmem
      · exact hearlier other hmem
      · -- The slots from this one on are not earlier than it.
        have hle : slot.slotNo.val ≤ other.slotNo.val := by
          rcases mem_cons.mp hmem with rfl | hrest
          · exact le_rfl
          · have hcons := (pairwise_append.mp hsorted).2.1
            exact ((pairwise_cons.mp hcons).1 _
              (mem_map.mpr ⟨other, hrest, rfl⟩)).le
        exact absurd hlt (by show ¬ other.slotNo.val < slot.slotNo.val; omega)
    refine Keeps.bind (slotResult_keeps rfl hfollows) fun result q hq => ?_
    by_cases hstatus : result.status = .succeeded
    · rw [if_pos hstatus]
      exact keeps_done trivial
    · rw [if_neg hstatus]
      refine ih (earlier ++ [slot]) _ q (by simp [hslots]) fun other hother => ?_
      rcases mem_append.mp hother with hmem | hmem
      · exact hq.1 _ (hearlier other hmem)
      · rw [mem_singleton.mp hmem]
        exact hq.2 hstatus

lemma checkLater_keeps (winner : ModelAttemptResult) (slots : List ProviderSlot) :
    ∀ p, (slotDiscipline call).Keeps (fun _ _ => True) (fun _ _ => True)
      (checkLater plan winner slots) p := by
  induction slots with
  | nil => exact fun _ => keeps_done trivial
  | cons later slots ih =>
    intro p
    unfold checkLater
    split
    · exact ih p
    · refine Keeps.bind (keeps_perform (Q := fun _ _ => True) trivial (fun _ => trivial)
        fun _ => trivial) fun existing q _ => ?_
      exact Keeps.bind (keeps_refuseIf (Q := fun _ _ => True) trivial trivial)
        fun _ q' _ => ih q'

/-- An action about neither a result nor a marker, and no call of the adapter. -/
def SagaAction.plain : SagaAction → Bool
  | .getResult _ _ | .getMarker _ _ | .createMarker _ | .markDispatched _ _ | .transport _ => false
  | .putResult _ => false
  | _ => true

lemma stays_plain {a : SagaAction} (h : a.plain = true) :
    (slotDiscipline call).Stays p (perform a) := by
  apply Discipline.stays_perform
  · cases a <;> first
      | exact trivial
      | cases h
  · intro r
    cases a <;> first
      | rfl
      | cases h

lemma begin_stays : (slotDiscipline call).Stays p (begin plan) := by
  refine Stays.bind (stays_plain rfl) fun now => ?_
  refine Stays.bind (stays_plain rfl) fun _ => ?_
  refine .checks fun _ => ?_
  exact Stays.bind (stays_plain rfl) fun _ => Discipline.stays_done _

lemma runPlan_keeps {held : Option Canon} :
    (slotDiscipline (.runPlan plan held)).Keeps (fun _ _ => True) (fun _ _ => True)
      (runPlan plan held) p := by
  refine Keeps.bind (runSlots_keeps plan.providerSlots [] [] p rfl fun _ h => by cases h)
    fun found q _ => ?_
  refine Keeps.bind (Q := fun _ _ => True) ?_ fun _ q' _ => ?_
  · cases found.2 with
    | none => exact keeps_done trivial
    | some winner => exact checkLater_keeps winner _ q
  refine Stays.keeps (Stays.bind (Discipline.stays_ofExcept _) fun outcome => ?_)
    (fun _ => trivial) fun _ => trivial
  refine Stays.bind (stays_plain rfl) fun _ => ?_
  refine Stays.bind ?_ fun expected => ?_
  · cases held with
    | some sha256 => exact Discipline.stays_done _
    | none => exact Stays.bind (stays_plain rfl) fun _ => Discipline.stays_done _
  refine Stays.bind (stays_plain rfl) fun now => ?_
  exact Stays.bind (stays_plain rfl) fun _ => Discipline.stays_done _

lemma systemStatus_stays (code : PyStr) (severity : Severity) :
    (slotDiscipline call).Stays p (systemStatus plan code severity) := by
  refine .checks fun _ => ?_
  refine Stays.bind (stays_plain rfl) fun now => ?_
  refine .parses fun status => ?_
  exact Stays.bind (stays_plain rfl) fun _ => Discipline.stays_done _

lemma commitResponse_stays {outcome : ModelAttemptPlanOutcome} {lifeId : PyStr}
    {text : Option PyStr} {code : PyStr} :
    (slotDiscipline call).Stays p (commitResponse plan outcome lifeId text code) := by
  refine Stays.bind (stays_plain rfl) fun now => ?_
  split
  · refine .checks fun _ => ?_
    refine Stays.bind (stays_plain rfl) fun _ => ?_
    refine Stays.bind (stays_plain rfl) fun _ => ?_
    refine .parses fun message => ?_
    refine Stays.bind ?_ fun status => ?_
    · unfold messageStatus
      split
      · exact Discipline.stays_done _
      · exact Stays.bind (systemStatus_stays _ _) fun _ => Discipline.stays_done _
    exact .checks fun _ => Discipline.stays_done _
  · exact Discipline.stays_fail _
  · refine Stays.bind (systemStatus_stays _ _) fun status => ?_
    exact Stays.bind (stays_plain rfl) fun _ => Discipline.stays_done _

theorem program_keeps (call : SagaCall) (p : SagaPhase) :
    (slotDiscipline call).Keeps (fun _ _ => True) (fun _ _ => True) call.program p := by
  cases call with
  | begin plan =>
    exact Keeps.bind (begin_stays.keeps (Q := fun _ _ => True) (fun _ => trivial) fun _ => trivial)
      fun _ _ _ => keeps_done trivial
  | executeSlot plan slot =>
    exact Keeps.bind (executeSlot_keeps rfl trivial) fun _ _ _ => keeps_done trivial
  | runPlan plan held =>
    exact Keeps.bind runPlan_keeps fun _ _ _ => keeps_done trivial
  | commitResponse plan outcome lifeId text code =>
    exact Keeps.bind (commitResponse_stays.keeps (Q := fun _ _ => True) (fun _ => trivial)
      fun _ => trivial) fun _ _ _ => keeps_done trivial

end Keeps

end Tiangong.Response
