import Tiangong.FeishuCrashes
import Tiangong.FeishuWorker
import Tiangong.InboxChains

/-!
# What the Feishu worker forwards

The classification of an event is settled when it is first persisted, but it is not stored: the
later paths read off the text of the envelope whether the event is withheld. The text is the
sender's own when there is one. Where the two agree, a run forwards exactly what was accepted.
-/
open List

namespace Tiangong.Communication

open Discipline Inbox InboxIngress

open Program (perform ofExcept refuseIf each)

def firstAdmission : FeishuPerformed → Option FeishuAdmission
  | ⟨.commit admission _, .ok result⟩ => if result.duplicate then none else some admission
  | _ => none

/-- The envelope that was handed to the gateway, whatever the gateway said. -/
def forwardedEnvelope : FeishuPerformed → Option InboundEnvelope
  | ⟨.forward envelope _ _, _⟩ => some envelope
  | _ => none

def FirstClassified (history : List FeishuPerformed) (envelope : InboundEnvelope)
    (c : FeishuClassification) : Prop :=
  ∃ a ∈ history.filterMap firstAdmission, a.envelope = envelope ∧ a.classification = c

/-- The text of the envelope tells whether the event was accepted. -/
def Agreeing (a : FeishuAdmission) : Prop :=
  a.classification = .accepted ↔ isWithheld a.envelope.text = false

/-- The loader accepts every resource of the message. -/
def LoadsAll (outside : FeishuOutside) (message : FeishuMessage) (scope : InboundScope) : Prop :=
  ∀ resource ∈ message.resources, ∃ attachment, outside.load (attachmentRequest scope
    (registration message scope 0 resource).resourceId) = .ok attachment

/-- The policy accepts the message, and the loader its attachments. -/
def Accepts (processor : FeishuInboundProcessor) (policy : FeishuInboundPolicy)
    (outside : FeishuOutside) (message : FeishuMessage) (scope : InboundScope) : Prop :=
  message.classify policy = .accepted ∨
    (message.classify policy = .attachmentPending ∧ processor.hasLoader = true ∧
      LoadsAll outside message scope)

/-- The sender's own text looks withheld exactly when the message is not accepted. -/
def TextAgrees (processor : FeishuInboundProcessor) (policy : FeishuInboundPolicy)
    (outside : FeishuOutside) (message : FeishuMessage) (scope : InboundScope) : Prop :=
  message.text = [] ∨
    (isWithheld message.text = true ↔ ¬ Accepts processor policy outside message scope)

/-- A message that the job reads and that is not persisted yet agrees with its text. -/
def Consistent (run : FeishuRun) (input : FeishuInput) : Prop :=
  match input.job with
  | .flush _ _ _ => True
  | .deliver processor rawEvent policy _ => ∀ message scope,
    readMessage processor.interpreter rawEvent policy = .ok message →
      messageScope message policy = .ok scope →
        run.stores.inbox.getIngress (inboundId scope) = none →
          TextAgrees processor policy input.outside message scope

lemma isWithheld_withheld (rest : PyStr) : isWithheld (withheldPrefix ++ rest) = true :=
  isPrefixOf_iff_prefix.mpr (prefix_append _ _)

section EnvelopeText

variable {processor : FeishuInboundProcessor} {policy : FeishuInboundPolicy}
  {outside : FeishuOutside} {message : FeishuMessage} {scope : InboundScope}
  {classification : FeishuClassification} {attachments : List AttachmentRef}

/-- Without a text of the sender an envelope looks withheld unless it has attachments. -/
lemma isWithheld_envelopeText_nil :
    isWithheld (envelopeText [] classification attachments) = false ↔ attachments ≠ [] := by
  unfold envelopeText
  by_cases h : attachments = []
  · simp only [ne_eq, not_true_eq_false, if_false, h, iff_false, Bool.not_eq_false]
    rw [append_assoc]
    exact isWithheld_withheld _
  · simp only [ne_eq, not_true_eq_false, if_false, h, not_false_eq_true, if_true, iff_true]
    decide

/-- The text of an envelope agrees with its classification when the sender's text does. -/
lemma agreeing_of_textAgrees (h : TextAgrees processor policy outside message scope)
    (haccepts : classification = .accepted ↔ Accepts processor policy outside message scope)
    (hattachments : message.text = [] → (classification = .accepted ↔ attachments ≠ [])) :
    classification = .accepted ↔
      isWithheld (envelopeText message.text classification attachments) = false := by
  by_cases htext : message.text = []
  · rw [htext, isWithheld_envelopeText_nil]
    exact hattachments htext
  · have hown : envelopeText message.text classification attachments = message.text :=
      if_pos htext
    have hagrees := h.resolve_left htext
    rw [hown, haccepts, ← Bool.not_eq_true, hagrees, not_not]

end EnvelopeText

/-- What a job has learned from the stores. -/
inductive Knowledge where
  | nothing
  /-- The ingresses that the inbox answered with. -/
  | stored (ingresses : List InboxIngress)
  /-- The admission that was committed. -/
  | committed (admission : FeishuAdmission)
  /-- An answer that the stores and the outside do not give. -/
  | impossible

def Knowledge.CanForward : Knowledge → InboundEnvelope → Prop
  | .nothing, _ => False
  | .stored ingresses, envelope =>
    ∃ i ∈ ingresses, i.envelope = envelope ∧ isWithheld envelope.text = false
  | .committed admission, envelope =>
    admission.envelope = envelope ∧ admission.classification = .accepted
  | .impossible, _ => True

def Knowledge.CanReplay : Knowledge → InboxIngress → Prop
  | .stored ingresses, ingress => ingress ∈ ingresses
  | .impossible, _ => True
  | _, _ => False

def Knowledge.CanCommit : Knowledge → FeishuAdmission → Prop
  | .impossible, _ => True
  | _, admission => Agreeing admission

open Classical in
/-- What a job knows after an answer, when the inbox has had the ingresses of some identifiers. -/
noncomputable def Knowledge.after (outside : FeishuOutside) (stored : Canon → Prop) :
    Knowledge → (a : FeishuAction) → Except ChannelError a.Answer → Knowledge
  | .impossible, _, _ => .impossible
  | known, .getIngress id, .ok none => if stored id then .impossible else known
  | _, .getIngress _, .ok (some ingress) => .stored [ingress]
  | _, .listUnacknowledged _ _, .ok pending => .stored (pending.map (·.ingress))
  | _, .commit admission _, .ok _ => .committed admission
  | known, .registerResource r, .ok id => if id = r.resourceId then known else .impossible
  | known, .loadAttachment request, reply =>
    if reply = outside.load request then known else .impossible
  | known, _, _ => known

noncomputable def forwardDiscipline (outside : FeishuOutside) (stored : Canon → Prop) :
    Discipline FeishuAction FeishuAction.Answer ChannelError Knowledge where
  allows known
    | .replay ingress _ => known.CanReplay ingress
    | .commit admission _ => known.CanCommit admission
    | .forward envelope _ _ => known.CanForward envelope
    | _ => True
  after known a r := known.after outside stored a r

section Programs

variable {processor : FeishuInboundProcessor} {policy : FeishuInboundPolicy}
  {outside : FeishuOutside} {message : FeishuMessage} {scope : InboundScope}
  {record : FeishuEventRecord} {capturedAtMs : ℕ} {stored : Canon → Prop}

lemma keeps_impossible {α : Type} {Q : α → Knowledge → Prop} (hQ : ∀ a, Q a .impossible)
    (x : FeishuProgram α) :
    (forwardDiscipline outside stored).Keeps Q (fun _ _ => True) x .impossible := by
  refine Discipline.Stays.keeps (stays_of_free (fun a => ?_) (fun a r => rfl) x) hQ
    fun _ => trivial
  cases a <;> trivial

open Classical in
lemma after_getIngress_none (id : Canon) :
    (forwardDiscipline outside stored).after .nothing (.getIngress id) (.ok none) =
      if stored id then .impossible else .nothing := rfl

open Classical in
lemma after_registerResource (r : FeishuRoutes.Registration) (id : Canon) :
    (forwardDiscipline outside stored).after .nothing (.registerResource r) (.ok id) =
      if id = r.resourceId then .nothing else .impossible := rfl

open Classical in
lemma after_loadAttachment (request : AttachmentRequest)
    (reply : Except ChannelError AttachmentRef) :
    (forwardDiscipline outside stored).after .nothing (.loadAttachment request) reply =
      if reply = outside.load request then .nothing else .impossible := by
  cases reply <;> rfl

/-- What is registered answers with the identifiers of the resources. -/
lemma keepRoute_knows : (forwardDiscipline outside stored).Keeps
      (fun kept known => known = .impossible ∨ (known = .nothing ∧ kept.2 =
        message.resources.map fun resource => (registration message scope 0 resource).resourceId))
      (fun _ _ => True) (keepRoute message scope capturedAtMs) .nothing := by
  unfold keepRoute
  refine Discipline.Keeps.bind (Q := fun _ known => known = .nothing) ?_ ?_
  · exact keeps_perform trivial (fun r => rfl) fun e => trivial
  · rintro key known rfl
    have heach := @Discipline.keeps_each _ _ _ Canon FeishuEventResource _
      (forwardDiscipline outside stored) .nothing (fun _ _ => True)
      (fun resource => perform (FeishuAction.registerResource
        (registration message scope capturedAtMs resource)))
      (fun read ids known => known = .impossible ∨ (known = .nothing ∧ ids =
        read.map fun resource => (registration message scope 0 resource).resourceId))
      [] [] message.resources (.inr ⟨rfl, rfl⟩) ?_
    · refine heach.bind fun ids known hknown => ?_
      show known = .impossible ∨ (known = .nothing ∧ ids = _)
      simpa using hknown
    · rintro read ids known resource - (rfl | ⟨rfl, rfl⟩)
      · exact keeps_impossible (fun _ => .inl rfl) _
      · refine keeps_perform trivial (fun id => ?_) fun _ => trivial
        rw [after_registerResource]
        by_cases hid : id = (registration message scope capturedAtMs resource).resourceId
        · refine .inr ⟨if_pos hid, ?_⟩
          rw [map_append, map_singleton, hid]
          rfl
        · exact .inl (if_neg hid)

/-- The outcome of the loader: every attachment, or none because one of them failed. -/
def Settled (processor : FeishuInboundProcessor) (policy : FeishuInboundPolicy)
    (outside : FeishuOutside) (message : FeishuMessage) (scope : InboundScope)
    (settled : FeishuClassification × List AttachmentRef) : Prop :=
  (settled.1 = .accepted ↔ Accepts processor policy outside message scope) ∧
    (message.text = [] → (settled.1 = .accepted ↔ settled.2 ≠ []))

lemma loadAttachments_knows (resourceIds : List Canon) : (forwardDiscipline outside stored).Keeps
      (fun settled known => known = .impossible ∨ (known = .nothing ∧
        ((settled.1 = .accepted ∧ settled.2.length = resourceIds.length ∧ ∀ id ∈ resourceIds,
            ∃ a, outside.load (attachmentRequest scope id) = .ok a) ∨
          (settled = (.attachmentRejected, []) ∧ ∃ id ∈ resourceIds,
            ∃ e, outside.load (attachmentRequest scope id) = .error e))))
      (fun _ _ => True) (loadAttachments scope resourceIds) .nothing := by
  unfold loadAttachments
  refine Discipline.Keeps.catching (E := fun _ known => known = .impossible ∨ (known = .nothing ∧
    ∃ id ∈ resourceIds, ∃ e, outside.load (attachmentRequest scope id) = .error e)) ?_ ?_
  · have heach := @Discipline.keeps_each _ _ _ AttachmentRef Canon _
      (forwardDiscipline outside stored) .nothing (fun _ known => known = .impossible ∨
        (known = .nothing ∧ ∃ id ∈ resourceIds, ∃ e,
          outside.load (attachmentRequest scope id) = .error e))
      (fun id => perform (FeishuAction.loadAttachment (attachmentRequest scope id)))
      (fun read attachments known => known = .impossible ∨ (known = .nothing ∧
        attachments.length = read.length ∧ ∀ id ∈ read, ∃ a,
          outside.load (attachmentRequest scope id) = .ok a))
      [] [] resourceIds (.inr ⟨rfl, rfl, forall_mem_nil _⟩) ?_
    · refine heach.bind fun attachments known hknown => ?_
      rcases hknown with rfl | ⟨rfl, hlength, hall⟩
      · exact .inl rfl
      · exact .inr ⟨rfl, .inl ⟨rfl, hlength, hall⟩⟩
    · rintro read attachments known id hid (rfl | ⟨rfl, hlength, hall⟩)
      · exact Discipline.Stays.keeps
          (stays_of_free (fun a => by cases a <;> trivial) (fun a r => rfl) _)
          (fun _ => .inl rfl) fun _ => .inl rfl
      · refine keeps_perform trivial (fun a => ?_) fun e => ?_
        · rw [after_loadAttachment]
          by_cases hreply : Except.ok a = outside.load (attachmentRequest scope id)
          · refine .inr ⟨if_pos hreply, ?_, ?_⟩
            · rw [length_append, length_append, hlength]
              rfl
            · rw [forall_mem_append, forall_mem_singleton]
              exact ⟨hall, a, hreply.symm⟩
          · exact .inl (if_neg hreply)
        · rw [after_loadAttachment]
          by_cases hreply : Except.error e = outside.load (attachmentRequest scope id)
          · exact .inr ⟨if_pos hreply, id, hid, e, hreply.symm⟩
          · exact .inl (if_neg hreply)
  · rintro e known (rfl | ⟨rfl, hfailed⟩)
    · exact .inl rfl
    · exact .inr ⟨rfl, .inr ⟨rfl, hfailed⟩⟩

lemma settleAttachments_knows {resourceIds : List Canon}
    (hkeeps : (message.classify policy).keepsRoute = true)
    (hids : resourceIds =
      message.resources.map fun resource => (registration message scope 0 resource).resourceId) :
    (forwardDiscipline outside stored).Keeps
      (fun settled known => known = .impossible ∨ (known = .nothing ∧
        Settled processor policy outside message scope settled))
      (fun _ _ => True) (settleAttachments processor message policy scope resourceIds)
      .nothing := by
  unfold settleAttachments
  split
  · next hload =>
    obtain ⟨hresources, hloader⟩ := hload
    have hpending := classify_of_resources hkeeps hresources
    have hmem : ∀ {P : Canon → Prop}, (∀ id ∈ resourceIds, P id) ↔ ∀ resource ∈ message.resources,
        P (registration message scope 0 resource).resourceId := by
      intro P
      rw [hids, forall_mem_map]
    have haccepts : Accepts processor policy outside message scope ↔ ∀ id ∈ resourceIds, ∃ a,
        outside.load (attachmentRequest scope id) = .ok a := by
      simp [Accepts, hpending, hloader, LoadsAll, hmem]
    refine (loadAttachments_knows resourceIds).mono ?_ fun _ _ h => h
    rintro ⟨classification, attachments⟩ known (rfl | ⟨rfl, hsettled⟩)
    · exact .inl rfl
    · refine .inr ⟨rfl, ?_⟩
      rcases hsettled with ⟨hok, hlength, hall⟩ | ⟨hrejected, id, hid, e, he⟩
      · have hne : attachments ≠ [] := by
          have hpositive := length_pos_iff.mpr hresources
          have hcount : attachments.length = message.resources.length := by
            rw [hlength, hids, length_map]
          apply ne_nil_of_length_pos
          omega
        exact ⟨iff_of_true hok (haccepts.mpr hall), fun _ => iff_of_true hok hne⟩
      · obtain ⟨rfl, rfl⟩ := Prod.mk.inj hrejected
        refine ⟨iff_of_false FeishuClassification.noConfusion fun haccepted => ?_, fun _ =>
          iff_of_false FeishuClassification.noConfusion (not_not.mpr rfl)⟩
        obtain ⟨a, ha⟩ := haccepts.mp haccepted id hid
        rw [he] at ha
        cases ha
  · next hload =>
    refine .inr ⟨rfl, ?_, fun htext => ?_⟩
    · constructor
      · exact .inl
      · rintro (haccepted | ⟨hpending, hloader, -⟩)
        · exact haccepted
        · exact absurd ⟨resources_of_classify_pending hpending, hloader⟩ hload
    · refine iff_of_false (fun haccepted => ?_) (not_not.mpr rfl)
      exact (text_of_classify_accepted haccepted).1 htext

lemma admit_knows (h : TextAgrees processor policy outside message scope) :
    (forwardDiscipline outside stored).Keeps
      (fun admission known => known = .impossible ∨ (known = .nothing ∧ Agreeing admission))
      (fun _ _ => True) (admitOne processor message policy scope capturedAtMs) .nothing := by
  have hagreeing : ∀ {settled : FeishuClassification × List AttachmentRef} {envelope routeKey ids},
      Settled processor policy outside message scope settled →
        buildEnvelope message policy scope capturedAtMs settled.1 settled.2 = .ok envelope →
          Agreeing ⟨message.eventId, envelope, settled.1, routeKey, ids⟩ := by
    intro settled envelope routeKey ids hsettled hbuild
    have hfields := sealed_eq_ok.mp hbuild
    have htext : envelope.text = envelopeText message.text settled.1 settled.2 := by
      rw [InboundEnvelope.text, hfields]
    rw [Agreeing, htext]
    exact agreeing_of_textAgrees h hsettled.1 hsettled.2
  unfold admitOne
  split
  · next hkeeps =>
    unfold admitKept
    refine keepRoute_knows.bind ?_
    rintro ⟨routeKey, ids⟩ known (rfl | ⟨rfl, hids⟩)
    · exact keeps_impossible (fun _ => .inl rfl) _
    · refine (settleAttachments_knows hkeeps hids).bind ?_
      rintro settled known (rfl | ⟨rfl, hsettled⟩)
      · exact keeps_impossible (fun _ => .inl rfl) _
      · refine Discipline.Keeps.bind (Q := fun envelope known => known = .nothing ∧
          buildEnvelope message policy scope capturedAtMs settled.1 settled.2 = .ok envelope)
          (keeps_ofExcept (fun a ha => ⟨rfl, ha⟩) fun _ _ => trivial) ?_
        rintro envelope known ⟨rfl, hbuild⟩
        exact .inr ⟨rfl, hagreeing hsettled hbuild⟩
  · next hkeeps =>
    have hclass : ∀ c, (message.classify policy) = c → c.keepsRoute = false := by
      rintro c rfl
      exact Bool.eq_false_of_not_eq_true hkeeps
    have hsettled : Settled processor policy outside message scope
        (message.classify policy, []) := by
      have hne : message.classify policy ≠ .accepted := fun hc => Bool.noConfusion (hclass _ hc)
      have hne' : message.classify policy ≠ .attachmentPending :=
        fun hc => Bool.noConfusion (hclass _ hc)
      exact ⟨iff_of_false hne fun haccepts => haccepts.elim hne fun hpending => hne' hpending.1,
        fun _ => iff_of_false hne (not_not.mpr rfl)⟩
    refine Discipline.Keeps.bind (Q := fun envelope known => known = .nothing ∧
      buildEnvelope message policy scope capturedAtMs (message.classify policy) [] = .ok envelope)
      (keeps_ofExcept (fun a ha => ⟨rfl, ha⟩) fun _ _ => trivial) ?_
    rintro envelope known ⟨rfl, hbuild⟩
    exact .inr ⟨rfl, hagreeing hsettled hbuild⟩

/-- An outcome of the processor that says forward may be forwarded. -/
lemma process_knows {rawEvent : JsonFields}
    (h : ∀ message scope, readMessage processor.interpreter rawEvent policy = .ok message →
      messageScope message policy = .ok scope → ¬ stored (inboundId scope) →
        TextAgrees processor policy outside message scope) :
    (forwardDiscipline outside stored).Keeps
      (fun outcome known => outcome.shouldForward = true → known.CanForward outcome.envelope)
      (fun _ _ => True) (processor.process rawEvent policy record) .nothing := by
  unfold FeishuInboundProcessor.process
  refine Discipline.Keeps.bind (Q := fun read known => known = .nothing ∧
    readEvent processor rawEvent policy record = .ok read)
    (keeps_ofExcept (fun a ha => ⟨rfl, ha⟩) fun _ _ => trivial) ?_
  rintro ⟨message, scope⟩ known ⟨rfl, hread⟩
  have hagrees : ¬ stored (inboundId scope) →
      TextAgrees processor policy outside message scope := by
    simp only [readEvent, eq_pair_iff] at hread
    obtain ⟨-, -, message', hmessage, scope', hscope, rfl, rfl⟩ := hread
    exact h _ _ hmessage hscope
  refine Discipline.Keeps.bind (Q := fun existing known => existing.elim
    (known = .impossible ∨ (known = .nothing ∧ ¬ stored (inboundId scope)))
    fun ingress => known = .stored [ingress]) ?_ ?_
  · refine keeps_perform trivial (fun existing => ?_) fun _ => trivial
    cases existing with
    | some ingress => exact (rfl : Knowledge.stored [ingress] = .stored [ingress])
    | none =>
      rw [Option.elim_none, after_getIngress_none]
      by_cases hstored : stored (inboundId scope)
      · exact .inl (if_pos hstored)
      · exact .inr ⟨if_neg hstored, hstored⟩
  · rintro (_ | ingress) known hknown
    · rcases hknown with rfl | ⟨rfl, hfresh⟩
      · exact keeps_impossible (fun _ _ => trivial) _
      refine (admit_knows (hagrees hfresh)).bind ?_
      rintro admission known (rfl | ⟨rfl, hagreeing⟩)
      · exact keeps_impossible (fun _ _ => trivial) _
      · refine Discipline.Keeps.bind (Q := fun _ known => known = .committed admission)
          (keeps_perform hagreeing (fun _ => rfl) fun _ => trivial) ?_
        rintro persisted known rfl
        show decide (admission.classification = .accepted) = true → _
        exact fun haccepted => ⟨rfl, of_decide_eq_true haccepted⟩
    · obtain rfl : known = .stored [ingress] := hknown
      unfold redelivered
      refine Discipline.Keeps.bind (Q := fun _ known => known = .stored [ingress])
        (keeps_refuseIf rfl trivial) ?_
      rintro - known rfl
      refine Discipline.Keeps.bind (Q := fun _ known => known = .stored [ingress])
        (keeps_perform mem_cons_self (fun _ => rfl) fun _ => trivial) ?_
      rintro persisted known rfl
      intro hforward
      have hwithheld : (!isWithheld ingress.envelope.text) = true := hforward
      rw [Bool.not_eq_true'] at hwithheld
      exact ⟨ingress, mem_cons_self, rfl, hwithheld⟩

lemma receiptOf_keeps (outcome : FeishuInboundOutcome) (evidence : Canon) (known : Knowledge) :
    (forwardDiscipline outside stored).Keeps (fun _ _ => True) (fun _ _ => True)
      (receiptOf outcome evidence) known := by
  unfold receiptOf
  split
  · refine Discipline.Keeps.bind (Q := fun _ _ => True)
      (keeps_perform trivial (fun _ => trivial) fun _ => trivial) fun _ _ _ => trivial
  · trivial

lemma handleEvent_knows {rawEvent : JsonFields} {times : DeliveryTimes}
    (h : ∀ message scope, readMessage processor.interpreter rawEvent policy = .ok message →
      messageScope message policy = .ok scope → ¬ stored (inboundId scope) →
        TextAgrees processor policy outside message scope) :
    (forwardDiscipline outside stored).Keeps (fun _ _ => True) (fun _ _ => True)
      (handleEvent processor rawEvent policy times) .nothing := by
  unfold handleEvent
  refine Discipline.Keeps.bind (Q := fun _ known => known = .nothing)
    (keeps_ofExcept (fun _ _ => rfl) fun _ _ => trivial) ?_
  rintro record known rfl
  refine (process_knows h).bind fun outcome known hforward => ?_
  refine Discipline.Keeps.bind (Q := fun _ _ => True) ?_ fun evidence known _ => ?_
  · unfold forwardOutcome
    split
    · next hshould =>
      exact keeps_perform (hforward hshould) (fun _ => trivial) fun _ => trivial
    · trivial
  · refine (receiptOf_keeps outcome evidence known).bind fun receipt known _ => ?_
    refine Discipline.Keeps.bind (Q := fun _ _ => True)
      (keeps_perform trivial (fun _ => trivial) fun _ => trivial) fun _ _ _ => trivial

lemma flushOne_stays {nowMs : ℕ} {pending : List PendingInboxDelivery}
    {delivery : PendingInboxDelivery} (hmem : delivery ∈ pending) :
    (forwardDiscipline outside stored).Stays (.stored (pending.map (·.ingress)))
      (flushOne nowMs delivery) := by
  unfold flushOne flushEvidence
  refine Discipline.Stays.bind ?_ fun evidence => ?_
  · split
    · exact stays_done _
    · next hwithheld =>
      refine stays_perform ?_ fun r => by cases r <;> rfl
      exact ⟨delivery.ingress, mem_map_of_mem hmem, rfl, Bool.eq_false_of_not_eq_true hwithheld⟩
  · refine Discipline.Stays.bind ?_ fun _ => stays_done _
    exact stays_perform trivial fun r => by cases r <;> rfl

lemma flushPending_knows {tenantId linkAccountId : OpaqueId} {nowMs : ℕ} :
    (forwardDiscipline outside stored).Keeps (fun _ _ => True) (fun _ _ => True)
      (flushPending tenantId linkAccountId nowMs) .nothing := by
  unfold flushPending
  refine Discipline.Keeps.bind (Q := fun pending known =>
      known = .stored (List.map (·.ingress) pending))
    (keeps_perform trivial (fun _ => rfl) fun _ => trivial) ?_
  rintro pending known rfl
  refine Discipline.Stays.then (Discipline.Stays.each fun delivery hmem => flushOne_stays hmem)
    (fun _ => trivial) fun _ => trivial

end Programs

section Runs

variable {history : List FeishuPerformed} {s s' : FeishuStores} {done : FeishuPerformed}
  {outside : FeishuOutside} {stored : Canon → Prop} {known : Knowledge}

/-- The inbox and the history agree, and what was forwarded had been accepted before. -/
structure Recorded (history : List FeishuPerformed) (s : FeishuStores) : Prop where
  sound : s.inbox.Sound
  admitted : ∀ a ∈ history.filterMap firstAdmission, Agreeing a ∧
    ∃ i, s.inbox.Holds i ∧ i.envelope = a.envelope
  held : ∀ i, s.inbox.Holds i → ∃ a ∈ history.filterMap firstAdmission, a.envelope = i.envelope
  forwarded : ∀ pre done post envelope, history = pre ++ done :: post →
    forwardedEnvelope done = some envelope → FirstClassified pre envelope .accepted

/-- What a job knows is so. -/
def Knowledge.Holds (s : FeishuStores) : Knowledge → Prop
  | .nothing => True
  | .stored ingresses => ∀ i ∈ ingresses, s.inbox.Holds i
  | .committed a => Agreeing a ∧ ∃ i, s.inbox.Holds i ∧ i.envelope = a.envelope
  | .impossible => False

/-- The invariant of a job in a run. -/
structure RunState (stored : Canon → Prop) (history : List FeishuPerformed) (s : FeishuStores)
    (known : Knowledge) : Prop where
  recorded : Recorded history s
  kept : ∀ id, stored id → ∃ i, s.inbox.Holds i ∧ i.ingressId = id
  known : known.Holds s

variable {envelope : InboundEnvelope}

theorem FirstClassified.mono {c : FeishuClassification}
    {history' : List FeishuPerformed} (h : FirstClassified history envelope c) :
    FirstClassified (history ++ history') envelope c := by
  obtain ⟨a, ha, hclass⟩ := h
  rw [FirstClassified, filterMap_append]
  exact ⟨a, mem_append_left _ ha, hclass⟩

/-- An action is the last of a longer history, or it stands in the history before. -/
lemma split_concat {pre post : List FeishuPerformed} {a b : FeishuPerformed}
    (h : history ++ [a] = pre ++ b :: post) :
    (pre = history ∧ b = a) ∨ ∃ post', history = pre ++ b :: post' := by
  rcases eq_nil_or_concat post with rfl | ⟨post', last, rfl⟩
  · obtain ⟨rfl, hlast⟩ := append_inj' h rfl
    exact .inl ⟨rfl, (singleton_inj.mp hlast).symm⟩
  · rw [concat_eq_append, ← cons_append, ← append_assoc] at h
    obtain ⟨rfl, -⟩ := append_inj' h rfl
    exact .inr ⟨post', rfl⟩

/-- An action that neither commits nor forwards, and keeps the ingresses. -/
theorem Recorded.idle (h : Recorded history s) (hadmission : firstAdmission done = none)
    (hforwarded : forwardedEnvelope done = none)
    (hsame : ∀ i, s'.inbox.Holds i ↔ s.inbox.Holds i) (hsound : s'.inbox.Sound) :
    Recorded (history ++ [done]) s' where
  sound := hsound
  admitted a ha := by
    rw [filterMap_append, filterMap_cons_none hadmission, filterMap_nil, append_nil] at ha
    obtain ⟨hagreeing, i, hi, henvelope⟩ := h.admitted a ha
    exact ⟨hagreeing, i, (hsame i).mpr hi, henvelope⟩
  held i hi := by
    obtain ⟨a, ha, henvelope⟩ := h.held i ((hsame i).mp hi)
    rw [filterMap_append]
    exact ⟨a, mem_append_left _ ha, henvelope⟩
  forwarded pre b post envelope heq hb := by
    rcases split_concat heq with ⟨rfl, rfl⟩ | ⟨post', heq'⟩
    · rw [hforwarded] at hb
      cases hb
    · exact h.forwarded pre b post' envelope heq' hb

theorem Recorded.commit (h : Recorded history s) {a : FeishuAdmission} (hagreeing : Agreeing a)
    (hadmission : firstAdmission done = some a) (hforwarded : forwardedEnvelope done = none)
    {ingress : InboxIngress} (henvelope : ingress.envelope = a.envelope)
    (hholds : ∀ i, s'.inbox.Holds i ↔ s.inbox.Holds i ∨ i = ingress) (hsound : s'.inbox.Sound) :
    Recorded (history ++ [done]) s' where
  sound := hsound
  admitted b hb := by
    rw [filterMap_append, filterMap_cons_some hadmission, filterMap_nil,
      mem_append, mem_singleton] at hb
    rcases hb with hb | rfl
    · obtain ⟨hb', i, hi, hienvelope⟩ := h.admitted b hb
      exact ⟨hb', i, (hholds i).mpr (.inl hi), hienvelope⟩
    · exact ⟨hagreeing, ingress, (hholds ingress).mpr (.inr rfl), henvelope⟩
  held i hi := by
    rw [filterMap_append, filterMap_cons_some hadmission]
    rcases (hholds i).mp hi with hi | rfl
    · obtain ⟨b, hb, hbenvelope⟩ := h.held i hi
      exact ⟨b, mem_append_left _ hb, hbenvelope⟩
    · exact ⟨a, mem_append_right _ mem_cons_self, henvelope.symm⟩
  forwarded pre b post envelope heq hb := by
    rcases split_concat heq with ⟨rfl, rfl⟩ | ⟨post', heq'⟩
    · rw [hforwarded] at hb
      cases hb
    · exact h.forwarded pre b post' envelope heq' hb

theorem Recorded.accepted (h : Recorded history s) {i : InboxIngress} (hi : s.inbox.Holds i)
    (htext : isWithheld i.envelope.text = false) :
    FirstClassified history i.envelope .accepted := by
  obtain ⟨a, ha, henvelope⟩ := h.held i hi
  obtain ⟨hagreeing, -⟩ := h.admitted a ha
  rw [← henvelope] at htext
  exact ⟨a, ha, henvelope, hagreeing.mpr htext⟩

lemma RunState.firstAccepted (h : RunState stored history s known)
    (hforward : known.CanForward envelope) : FirstClassified history envelope .accepted := by
  cases known with
  | nothing => cases hforward
  | impossible => cases h.known
  | stored ingresses =>
    obtain ⟨i, hi, rfl, htext⟩ := hforward
    exact h.recorded.accepted (h.known i hi) htext
  | committed a =>
    obtain ⟨rfl, haccepted⟩ := hforward
    obtain ⟨hagreeing, i, hi, henvelope⟩ := h.known
    have htext := hagreeing.mp haccepted
    rw [← henvelope] at htext ⊢
    exact h.recorded.accepted hi htext

theorem Recorded.forward (h : Recorded history s)
    (hadmission : firstAdmission done = none) (hforwarded : forwardedEnvelope done = some envelope)
    (haccepted : FirstClassified history envelope .accepted) : Recorded (history ++ [done]) s where
  sound := h.sound
  admitted a ha := by
    rw [filterMap_append, filterMap_cons_none hadmission, filterMap_nil, append_nil] at ha
    exact h.admitted a ha
  held i hi := by
    obtain ⟨a, ha, henvelope⟩ := h.held i hi
    rw [filterMap_append]
    exact ⟨a, mem_append_left _ ha, henvelope⟩
  forwarded pre b post envelope' heq hb := by
    rcases split_concat heq with ⟨rfl, rfl⟩ | ⟨post', heq'⟩
    · obtain rfl := Option.some.inj (hforwarded.symm.trans hb)
      exact haccepted
    · exact h.forwarded pre b post' envelope' heq' hb

/-- What is known stays so when no ingress disappears. -/
theorem Knowledge.Holds.mono (h : known.Holds s)
    (hkept : ∀ i, s.inbox.Holds i → s'.inbox.Holds i) : known.Holds s' := by
  cases known with
  | nothing => trivial
  | impossible => exact h
  | stored ingresses => exact fun i hi => hkept i (h i hi)
  | committed a =>
    obtain ⟨hagreeing, i, hi, henvelope⟩ := h
    exact ⟨hagreeing, i, hkept i hi, henvelope⟩

/-- An action that neither commits nor forwards and teaches nothing new. -/
theorem RunState.idle (h : RunState stored history s known) (hadmission : firstAdmission done = none)
    (hforwarded : forwardedEnvelope done = none)
    (hsame : ∀ i, s'.inbox.Holds i ↔ s.inbox.Holds i) (hsound : s'.inbox.Sound)
    {known' : Knowledge} (hknown : known' = known ∨ known'.Holds s) :
    RunState stored (history ++ [done]) s' known' where
  recorded := h.recorded.idle hadmission hforwarded hsame hsound
  kept id hid := by
    obtain ⟨i, hi, hkey⟩ := h.kept id hid
    exact ⟨i, (hsame i).mpr hi, hkey⟩
  known := by
    have hkept := fun i => (hsame i).mpr
    rcases hknown with rfl | hnew
    · exact h.known.mono hkept
    · exact hnew.mono hkept

theorem RunState.unchanged (h : RunState stored history s known)
    (hadmission : firstAdmission done = none) (hforwarded : forwardedEnvelope done = none)
    {known' : Knowledge} (hknown : known' = known ∨ known'.Holds s) :
    RunState stored (history ++ [done]) s known' :=
  h.idle hadmission hforwarded (fun _ => Iff.rfl) h.recorded.sound hknown

lemma runState_getIngress (h : RunState stored history s known) (id : Canon) :
    RunState stored (history ++ [⟨.getIngress id, .ok (s.inbox.getIngress id)⟩]) s
      ((forwardDiscipline outside stored).after known (.getIngress id) (.ok (s.inbox.getIngress id))) := by
  refine h.unchanged rfl rfl ?_
  cases hfound : s.inbox.getIngress id with
  | none =>
    have hnot : ¬ stored id := by
      intro hid
      obtain ⟨i, hi, rfl⟩ := h.kept id hid
      rw [getIngress_of_holds hi] at hfound
      cases hfound
    cases known with
    | impossible => exact .inl rfl
    | nothing | stored ingresses | committed a => exact .inl (if_neg hnot)
  | some ingress =>
    have hstored : Knowledge.Holds s (.stored [ingress]) := by
      rintro i hi
      rw [mem_singleton.mp hi]
      exact (holds_of_getIngress hfound).1
    cases known with
    | impossible => exact .inl rfl
    | nothing | stored ingresses | committed a => exact .inr hstored

lemma runState_replay (h : RunState stored history s known) {ingress : InboxIngress} {atMs : ℕ}
    (hreplay : known.CanReplay ingress) :
    RunState stored
      (history ++ [⟨.replay ingress atMs, ((outside.answer (.replay ingress atMs)).on s).1⟩])
      ((outside.answer (.replay ingress atMs)).on s).2
      ((forwardDiscipline outside stored).after known (.replay ingress atMs)
        ((outside.answer (.replay ingress atMs)).on s).1) := by
  have hheld : s.inbox.Holds ingress := by
    cases known with
    | stored ingresses => exact h.known ingress hreplay
    | impossible => cases h.known
    | nothing | committed a => cases hreplay
  have hsame : ∀ r,
      (forwardDiscipline outside stored).after known (.replay ingress atMs) r = known := by
    intro r
    cases known <;> rfl
  rw [hsame]
  cases hpersist : s.inbox.persistAndAdvanceCursor ingress atMs with
  | error e =>
    have hanswer : (outside.answer (.replay ingress atMs)).on s = (.error e, s) :=
      @onInbox_of_error _ s e (fun s => s.persistAndAdvanceCursor ingress atMs) hpersist
    rw [hanswer]
    exact h.unchanged rfl rfl (.inl rfl)
  | ok pair =>
    have hanswer : (outside.answer (.replay ingress atMs)).on s =
        (.ok pair.1, { s with inbox := pair.2 }) :=
      @onInbox_of_ok _ s pair.1 (fun s => s.persistAndAdvanceCursor ingress atMs) pair.2 hpersist
    rw [hanswer, (persistAndAdvanceCursor_of_holds hheld hpersist).1]
    exact h.unchanged rfl rfl (.inl rfl)

lemma onRoutes_inbox {α : Type} (f : FeishuRoutes → Except ChannelError (α × FeishuRoutes))
    (s : FeishuStores) : ((onRoutes f).on s).2.inbox = s.inbox := by
  cases hf : f s.routes with
  | error e => rw [onRoutes_of_error hf]
  | ok pair => rw [@onRoutes_of_ok _ s pair.1 f pair.2 hf]

lemma runState_commit (h : RunState stored history s known) {a : FeishuAdmission}
    {record : FeishuEventRecord} (hcommit : known.CanCommit a) :
    RunState stored (history ++ [⟨.commit a record, ((outside.answer (.commit a record)).on s).1⟩])
      ((outside.answer (.commit a record)).on s).2
      ((forwardDiscipline outside stored).after known (.commit a record)
        ((outside.answer (.commit a record)).on s).1) := by
  have hagreeing : Agreeing a := by
    cases known with
    | impossible => cases h.known
    | nothing | stored ingresses | committed a => exact hcommit
  cases hresult : commitAdmission a record s.inbox with
  | error e =>
    have hanswer : (outside.answer (.commit a record)).on s = (.error e, s) :=
      @onInbox_of_error _ s e (fun s => commitAdmission a record s) hresult
    rw [hanswer]
    refine h.unchanged rfl rfl (.inl ?_)
    cases known <;> rfl
  | ok pair =>
    obtain ⟨result, inbox⟩ := pair
    have hanswer : (outside.answer (.commit a record)).on s = (.ok result, { s with inbox }) :=
      @onInbox_of_ok _ s result (fun s => commitAdmission a record s) inbox hresult
    simp only [commitAdmission, bind_eq_ok] at hresult
    obtain ⟨ingress, hbuild, hpersist⟩ := hresult
    have henvelope : ingress.envelope = a.envelope := by
      rw [envelope, sealed_eq_ok.mp hbuild]
    rw [hanswer]
    have hknown : ∀ {history' : List FeishuPerformed}, Recorded history' { s with inbox } →
        inbox.Holds ingress → (∀ i, s.inbox.Holds i → inbox.Holds i) →
          RunState stored history' { s with inbox }
            ((forwardDiscipline outside stored).after known (.commit a record) (.ok result)) := by
      intro history' hrecorded hheld hgrows
      refine ⟨hrecorded, fun id hid => ?_, ?_⟩
      · obtain ⟨i, hi, hkey⟩ := h.kept id hid
        exact ⟨i, hgrows i hi, hkey⟩
      · cases known with
        | impossible => exact h.known
        | nothing | stored ingresses | committed a =>
          exact ⟨hagreeing, ingress, hheld, henvelope⟩
    have hsound := h.recorded.sound.persist hpersist
    rcases persistAndAdvanceCursor_cases hpersist with ⟨hreplayed, rfl⟩ | hpersisted
    · have hnone : firstAdmission ⟨.commit a record, .ok result⟩ = none :=
        if_pos hreplayed.duplicate
      exact hknown (h.recorded.idle hnone rfl (fun _ => Iff.rfl) hsound) hreplayed.stored
        fun _ hi => hi
    · have hsome : firstAdmission ⟨.commit a record, .ok result⟩ = some a :=
        if_neg (by rw [hpersisted.duplicate]; exact Bool.false_ne_true)
      have hholds : ∀ i, inbox.Holds i ↔ s.inbox.Holds i ∨ i = ingress :=
        fun i => hpersisted.holds
      exact hknown (h.recorded.commit hagreeing hsome rfl henvelope hholds hsound)
        ((hholds ingress).mpr (.inr rfl)) fun i hi => (hholds i).mpr (.inl hi)

lemma runState_step (h : RunState stored history s known) {a : FeishuAction}
    (ha : (forwardDiscipline outside stored).allows known a) :
    RunState stored (history ++ [⟨a, ((outside.answer a).on s).1⟩]) ((outside.answer a).on s).2
      ((forwardDiscipline outside stored).after known a ((outside.answer a).on s).1) := by
  cases a with
  | getIngress id => exact runState_getIngress h id
  | replay ingress atMs => exact runState_replay h ha
  | commit a record => exact runState_commit h ha
  | upsert u =>
    have hinbox : ((outside.answer (.upsert u)).on s).2.inbox = s.inbox := onRoutes_inbox _ s
    refine h.idle rfl rfl (fun i => ?_) ?_ (.inl ?_)
    · rw [hinbox]
    · rw [hinbox]
      exact h.recorded.sound
    · cases known <;> rfl
  | registerResource r =>
    cases hregister : s.routes.registerResource r with
    | error e =>
      have hanswer : (outside.answer (.registerResource r)).on s = (.error e, s) :=
        @onRoutes_of_error _ s e (fun s => s.registerResource r) hregister
      rw [hanswer]
      refine h.unchanged rfl rfl (.inl ?_)
      cases known <;> rfl
    | ok pair =>
      have hanswer : (outside.answer (.registerResource r)).on s =
          (.ok pair.1, { s with routes := pair.2 }) :=
        @onRoutes_of_ok _ s pair.1 (fun s => s.registerResource r) pair.2 hregister
      have hid : pair.1 = r.resourceId := (FeishuRoutes.registerResource_registered hregister).id
      have hsame : ∀ i, ({ s with routes := pair.2 } : FeishuStores).inbox.Holds i ↔
          s.inbox.Holds i := fun _ => Iff.rfl
      rw [hanswer]
      refine h.idle rfl rfl hsame h.recorded.sound (.inl ?_)
      cases known with
      | impossible => rfl
      | nothing | stored ingresses | committed a => exact if_pos hid
  | loadAttachment request =>
    have hanswer : (outside.answer (.loadAttachment request)).on s =
        (outside.load request, s) := rfl
    rw [hanswer]
    cases hload : outside.load request with
    | ok attachment =>
      refine h.unchanged rfl rfl (.inl ?_)
      cases known with
      | impossible => rfl
      | nothing | stored ingresses | committed a => exact if_pos hload.symm
    | error e =>
      refine h.unchanged rfl rfl (.inl ?_)
      cases known with
      | impossible => rfl
      | nothing | stored ingresses | committed a => exact if_pos hload.symm
  | forward envelope permit nowMs =>
    have haccepted := h.firstAccepted ha
    have hsame : ∀ r, (forwardDiscipline outside stored).after known (.forward envelope permit nowMs) r =
        known := by
      intro r
      cases known <;> rfl
    rw [hsame]
    exact ⟨h.recorded.forward rfl rfl haccepted, h.kept, h.known⟩
  | ackPermitReceipt permitId =>
    refine h.unchanged rfl rfl (.inl ?_)
    cases known <;> rfl
  | markAcknowledged permitId receipt atMs =>
    have hknown : ∀ r, (forwardDiscipline outside stored).after known
        (.markAcknowledged permitId receipt atMs) r = known := by
      intro r
      cases known <;> rfl
    rw [hknown]
    cases hmark : s.inbox.markAcknowledged permitId receipt atMs with
    | error e =>
      have hanswer : (outside.answer (.markAcknowledged permitId receipt atMs)).on s =
          (.error e, s) :=
        @onInbox_of_error _ s e (fun s => s.markAcknowledged permitId receipt atMs) hmark
      rw [hanswer]
      exact h.unchanged rfl rfl (.inl rfl)
    | ok pair =>
      have hanswer : (outside.answer (.markAcknowledged permitId receipt atMs)).on s =
          (.ok pair.1, { s with inbox := pair.2 }) :=
        @onInbox_of_ok _ s pair.1 (fun s => s.markAcknowledged permitId receipt atMs) pair.2 hmark
      rw [hanswer]
      exact h.idle rfl rfl (fun _ => (markAcknowledged_acknowledged hmark).holds)
        (h.recorded.sound.acknowledge hmark) (.inl rfl)
  | listUnacknowledged tenantId linkAccountId =>
    refine h.unchanged rfl rfl ?_
    have hstored : Knowledge.Holds s (.stored
        ((s.inbox.listUnacknowledged .feishu tenantId linkAccountId).map (·.ingress))) := by
      intro i hi
      obtain ⟨pending, hpending, rfl⟩ := mem_map.mp hi
      exact holds_of_listUnacknowledged hpending
    cases known with
    | impossible => exact .inl rfl
    | nothing | stored ingresses | committed a => exact .inr hstored

/-- A run of consistent jobs keeps its record. -/
lemma recorded_step {run : FeishuRun} {input : FeishuInput}
    (h : Recorded run.history run.stores) (hinput : Consistent run input) :
    Recorded (feishuMachine.step run input).1.history
      (feishuMachine.step run input).1.stores := by
  let stored (id : Canon) : Prop := run.stores.inbox.getIngress id ≠ none
  have hkeeps : (forwardDiscipline input.outside stored).Keeps (fun _ _ => True) (fun _ _ => True)
      input.job.program .nothing := by
    unfold Consistent at hinput
    cases hjob : input.job with
    | deliver processor rawEvent policy times =>
      rw [hjob] at hinput
      exact handleEvent_knows fun message scope hmessage hscope hfresh =>
        hinput message scope hmessage hscope (not_not.mp hfresh)
    | flush tenantId linkAccountId nowMs => exact flushPending_knows
  have hstart : RunState stored run.history run.stores .nothing := by
    refine ⟨h, fun id hid => ?_, trivial⟩
    obtain ⟨i, hi⟩ := Option.ne_none_iff_exists'.mp hid
    exact ⟨i, holds_of_getIngress hi⟩
  obtain ⟨known, hlost⟩ := Discipline.Keeps.lostAfter (J := RunState stored)
    (h := input.outside.answer) (fun done s known a hJ ha => runState_step hJ ha) hkeeps hstart
    input.actions
  exact hlost.recorded

lemma recorded_start : Recorded FeishuRun.start.history FeishuRun.start.stores where
  sound := sound_empty
  admitted a ha := by cases ha
  held i hi := by
    obtain ⟨r, hr, -⟩ := hi
    cases hr
  forwarded pre done post envelope heq _ := by
    cases pre <;> cases heq

end Runs

/-- A redelivery with the payload that is persisted is answered, and leaves the stores alone. -/
lemma redelivered_answers {record : FeishuEventRecord} {scope : InboundScope}
    {existing : InboxIngress} {outside : FeishuOutside} {s : FeishuStores}
    (hsound : s.inbox.Sound) (hheld : s.inbox.Holds existing)
    (hpayload : existing.1.rawPayloadSha256 = record.rawPayloadSha256 ∧
      existing.1.rawPayloadSizeBytes = record.rawPayloadSizeBytes)
    (hlater : existing.1.capturedAtMs ≤ record.persistedAtMs) :
    ∃ o, ((redelivered record scope existing).run outside.answer).on s = (.ok o, s) := by
  obtain ⟨permit, hpersist⟩ := hsound.replay hheld hlater
  have hanswer : (outside.answer (.replay existing record.persistedAtMs)).on s =
      (.ok ⟨permit, false, true⟩, s) :=
    @onInbox_of_ok _ s _ (fun s => s.persistAndAdvanceCursor existing record.persistedAtMs) _
      hpersist
  unfold redelivered
  have hcheck : ¬ (existing.1.rawPayloadSha256 ≠ record.rawPayloadSha256 ∨
      existing.1.rawPayloadSizeBytes ≠ record.rawPayloadSizeBytes) := by
    rw [not_or, not_not, not_not]
    exact hpayload
  rw [refuseIf, if_neg hcheck, Program.done_bind, Program.run_bind_of_ok (t := s)
    (a := ⟨permit, false, true⟩)]
  · exact ⟨_, rfl⟩
  · rw [Program.run_perform]
    exact hanswer

/-- The admission of a message is decided once: whatever the gateway is given was accepted when it
was first persisted, and a redelivery repeats that decision. -/
structure DecidedOnce (run : FeishuRun) : Prop where
  forwarded : ∀ pre done post envelope, run.history = pre ++ done :: post →
    forwardedEnvelope done = some envelope → FirstClassified pre envelope .accepted
  /-- Nothing is forwarded under the identifier of an envelope that was not accepted at first. -/
  withheld : ∀ envelope c, FirstClassified run.history envelope c → c ≠ .accepted →
    ∀ done ∈ run.history, ∀ envelope', forwardedEnvelope done = some envelope' →
      envelope'.inboundId ≠ envelope.inboundId
  redelivered : ∀ (processor : FeishuInboundProcessor) (rawEvent : JsonFields)
    (policy : FeishuInboundPolicy) (record : FeishuEventRecord) (outside : FeishuOutside)
    (message : FeishuMessage) (scope : InboundScope) (existing : InboxIngress)
    (c : FeishuClassification),
    readEvent processor rawEvent policy record = .ok (message, scope) →
      run.stores.inbox.getIngress (inboundId scope) = some existing →
      (existing.1.rawPayloadSha256 = record.rawPayloadSha256 ∧
        existing.1.rawPayloadSizeBytes = record.rawPayloadSizeBytes) →
      existing.1.capturedAtMs ≤ record.persistedAtMs →
      FirstClassified run.history existing.envelope c →
      ∃ o, ((processor.process rawEvent policy record).run outside.answer).on run.stores =
          (.ok o, run.stores) ∧ o.envelope = existing.envelope ∧
        (o.shouldForward = true ↔ c = .accepted)

/-- One identifier was admitted under one envelope, and its text tells how it was classified. -/
lemma Recorded.classified {history : List FeishuPerformed} {s : FeishuStores}
    (h : Recorded history s) {envelope envelope' : InboundEnvelope} {c c' : FeishuClassification}
    (hfirst : FirstClassified history envelope c) (hfirst' : FirstClassified history envelope' c')
    (hid : envelope.inboundId = envelope'.inboundId) : c = .accepted ↔ c' = .accepted := by
  obtain ⟨a, ha, rfl, rfl⟩ := hfirst
  obtain ⟨a', ha', rfl, rfl⟩ := hfirst'
  obtain ⟨hagreeing, i, hi, henvelope⟩ := h.admitted a ha
  obtain ⟨hagreeing', i', hi', henvelope'⟩ := h.admitted a' ha'
  have hsame : i = i' := by
    have hfound := getIngress_of_holds hi
    have hfound' := getIngress_of_holds hi'
    rw [ingressId, ← envelope, henvelope] at hfound
    rw [ingressId, ← envelope, henvelope', ← hid] at hfound'
    exact Option.some.inj (hfound.symm.trans hfound')
  subst hsame
  have htext : a.envelope = a'.envelope := henvelope.symm.trans henvelope'
  unfold Agreeing at hagreeing hagreeing'
  rw [hagreeing, hagreeing', htext]

lemma Recorded.decidedOnce {run : FeishuRun} (h : Recorded run.history run.stores) :
    DecidedOnce run where
  forwarded := h.forwarded
  withheld envelope c hfirst hne done hdone envelope' hforwarded hid := by
    obtain ⟨pre, post, hsplit⟩ := append_of_mem hdone
    have haccepted := h.forwarded pre done post envelope' hsplit hforwarded
    have hlater : FirstClassified run.history envelope' .accepted := by
      rw [hsplit]
      exact haccepted.mono
    exact hne ((h.classified hfirst hlater hid.symm).mpr rfl)
  redelivered processor rawEvent policy record outside message scope existing c hread hfound
      hpayload hlater hfirst := by
    have hheld := (holds_of_getIngress hfound).1
    obtain ⟨o, ho⟩ := @redelivered_answers record scope existing outside run.stores h.sound hheld
      hpayload hlater
    obtain ⟨-, henvelope, hshould, -⟩ := redelivered_ok hheld ho
    refine ⟨o, (process_of_some hread hfound).trans ho, henvelope, ?_⟩
    obtain ⟨a, ha, haenvelope, rfl⟩ := hfirst
    obtain ⟨hagreeing, -⟩ := h.admitted a ha
    unfold Agreeing at hagreeing
    rw [hshould, Bool.not_eq_true', hagreeing, haenvelope]

/-- In a run whose messages have a text that looks withheld exactly when they are not accepted,
admission is decided once. -/
theorem exec_decidedOnce {inputs : List FeishuInput}
    (h : feishuMachine.Steps Consistent .start inputs) :
    DecidedOnce (feishuMachine.exec .start inputs) := by
  have hrecorded := Machine.exec_preserves_of_steps
    (fun run : FeishuRun => Recorded run.history run.stores)
    (fun run input hrun hinput => recorded_step hrun hinput) recorded_start h
  exact hrecorded.decidedOnce

def sampleTimes : DeliveryTimes := ⟨1000, 1001, 1002⟩

/-- The delivery of an event that nothing interrupts. -/
def sampleDelivery (rawEvent : JsonFields) (policy : FeishuInboundPolicy) : FeishuInput :=
  ⟨.deliver sampleProcessor rawEvent policy sampleTimes, sampleOutside, 20⟩

/-- The text that everybody may send is consistent in every state. -/
lemma consistent_textEvent (run : FeishuRun) :
    Consistent run (sampleDelivery textEvent samplePolicy) := by
  intro message scope hmessage _ _
  have hread : ((readMessage sampleProcessor.interpreter textEvent samplePolicy).toOption.all
      fun m => m.classify samplePolicy = .accepted && !isWithheld m.text) = true := by
    decide +kernel
  rw [hmessage] at hread
  have hboth : message.classify samplePolicy = .accepted ∧ isWithheld message.text = false := by
    simpa [Except.toOption] using hread
  refine .inr (iff_of_false ?_ (not_not.mpr (.inl hboth.1)))
  rw [hboth.2]
  exact Bool.false_ne_true

/-- A text that is delivered twice. -/
theorem textEvent_decidedOnce : DecidedOnce (feishuMachine.exec .start
      [sampleDelivery textEvent samplePolicy, sampleDelivery textEvent samplePolicy]) :=
  exec_decidedOnce ⟨consistent_textEvent _, consistent_textEvent _, trivial⟩

def closedPolicy : FeishuInboundPolicy := { samplePolicy with allowP2p := false }

def prefixedEvent : JsonFields :=
  sampleEvent "text" "\x7b\"text\":\"[communication event withheld: why?\"\x7d"

/-- A text that was withheld at first is forwarded when it is redelivered, and a text that was
accepted and looks withheld is forwarded at its first delivery only. -/
theorem redelivery_decides_again :
    (((feishuMachine.exec .start [sampleDelivery textEvent closedPolicy,
        sampleDelivery textEvent closedPolicy]).history.filterMap firstAdmission).map
          (·.classification) = [.p2pDisabled] ∧
      (feishuMachine.exec .start [sampleDelivery textEvent closedPolicy,
        sampleDelivery textEvent closedPolicy]).history.filterMap forwardedEnvelope =
      ((feishuMachine.exec .start [sampleDelivery textEvent closedPolicy,
        sampleDelivery textEvent closedPolicy]).history.filterMap firstAdmission).map
          (·.envelope)) ∧
    (((feishuMachine.exec .start [sampleDelivery prefixedEvent samplePolicy]).history.filterMap
        firstAdmission).map (·.classification) = [.accepted] ∧
      (((sampleProcessor.process prefixedEvent samplePolicy (recordAt prefixedEvent 2000)).run
        sampleOutside.answer).on (feishuMachine.exec .start
          [sampleDelivery prefixedEvent samplePolicy]).stores).1.toOption.map (·.shouldForward) =
            some false) := by
  decide +kernel

end Tiangong.Communication
