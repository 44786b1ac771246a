import Tiangong.FeishuInbound

/-!
# Redelivery after a crash

An event is delivered, the process dies before the inbox commit, and the platform delivers the event
again. The route is written a second time without conflict. A resource that the first attempt has
registered is refused for ever: its row is compared by a method that its class does not have.
-/
open List

namespace Tiangong.Communication

open FeishuInboundProcessor Discipline FeishuOutside FeishuRoutes

open Program (perform ofExcept refuseIf each)

/-- An accepted commit of the inbox. -/
def isCommit : FeishuPerformed → Bool
  | ⟨.commit _ _, .ok _⟩ => true
  | _ => false

def isRegistration : FeishuPerformed → Bool
  | ⟨.registerResource _, .ok _⟩ => true
  | _ => false

/-- No ingress was committed: the crash fell before the inbox. -/
def NothingCommitted (performed : List FeishuPerformed) : Prop :=
  ∀ a ∈ performed, isCommit a = false

/-- No resource was registered: the crash fell before the first of them, or there is none. -/
def NothingRegistered (performed : List FeishuPerformed) : Prop :=
  ∀ a ∈ performed, isRegistration a = false

/-- How far an attempt has come with its route. -/
inductive RouteProgress where
  | before | kept
  deriving DecidableEq

section FirstAttempt

variable {message : FeishuMessage} {policy : FeishuInboundPolicy} {scope : InboundScope}
  {capturedAtMs : ℕ}

/-- The order of an attempt's actions: the route, the resources and the attachments, the inbox. -/
def attemptDiscipline (message : FeishuMessage) (policy : FeishuInboundPolicy)
    (scope : InboundScope) (capturedAtMs : ℕ) :
    Discipline FeishuAction FeishuAction.Answer ChannelError RouteProgress where
  allows p a := match a with
    | .upsert u => p = .before ∧ (message.classify policy).keepsRoute = true ∧
        u = routeUpsert message scope capturedAtMs
    | .registerResource r => p = .kept ∧
        ∃ resource ∈ message.resources, r = registration message scope capturedAtMs resource
    | .loadAttachment _ => True
    | .commit _ _ => True
    | _ => False
  after p a r := match a, r with
    | .upsert _, .ok _ => .kept
    | _, _ => p

lemma loadAttachments_keeps (resourceIds : List Canon) (p : RouteProgress) :
    (attemptDiscipline message policy scope capturedAtMs).Stays p (loadAttachments scope resourceIds) := by
  refine Discipline.Stays.catching ?_ fun e => stays_done _
  refine Discipline.Stays.bind (Discipline.Stays.each fun id _ => ?_) fun _ =>
    stays_done _
  refine stays_perform trivial fun r => ?_
  cases r <;> rfl

lemma admitOne_keeps (processor : FeishuInboundProcessor) :
    (attemptDiscipline message policy scope capturedAtMs).Keeps (fun _ _ => True) (fun _ _ => True)
      (admitOne processor message policy scope capturedAtMs) .before := by
  unfold admitOne
  split
  · next hkeeps =>
    unfold admitKept keepRoute
    refine Discipline.Keeps.bind (Q := fun _ p => p = .kept) ?_ ?_
    · refine Discipline.Keeps.bind (Q := fun _ p => p = .kept) ?_ ?_
      · exact keeps_perform ⟨rfl, hkeeps, rfl⟩ (fun r => rfl) fun e => trivial
      · rintro key p rfl
        refine Discipline.Stays.then (Discipline.Stays.each fun resource hresource => ?_)
          (fun e => trivial) fun ids => rfl
        refine stays_perform ⟨rfl, resource, hresource, rfl⟩ fun r => ?_
        cases r <;> rfl
    · rintro ⟨key, ids⟩ p rfl
      have hload : (attemptDiscipline message policy scope capturedAtMs).Stays .kept
          (settleAttachments processor message policy scope ids) := by
        unfold settleAttachments
        split
        · exact loadAttachments_keeps ids .kept
        · exact stays_done _
      refine Discipline.Stays.then hload (fun e => trivial) fun loaded => ?_
      refine Discipline.Keeps.bind (Q := fun _ _ => True) ?_ fun envelope p _ => trivial
      exact keeps_ofExcept (fun _ _ => trivial) fun _ _ => trivial
  · refine Discipline.Keeps.bind (Q := fun _ _ => True) ?_ fun envelope p _ => trivial
    exact keeps_ofExcept (fun _ _ => trivial) fun _ _ => trivial

lemma admitted_keeps (processor : FeishuInboundProcessor) {record : FeishuEventRecord} :
    (attemptDiscipline message policy scope record.capturedAtMs).Keeps (fun _ _ => True)
      (fun _ _ => True) (admitted processor message policy record scope) .before := by
  refine Discipline.Keeps.bind (admitOne_keeps processor) fun admission p _ => ?_
  refine Discipline.Keeps.bind (Q := fun _ _ => True) ?_ fun persisted p _ => trivial
  exact keeps_perform trivial (fun _ => trivial) fun _ => trivial

/-- Where an attempt from `s` stands after what it performed: the inbox is untouched, and either no
resource was registered or one of the message is in the ledger. -/
def AttemptState (s : FeishuStores) (message : FeishuMessage) (policy : FeishuInboundPolicy)
    (scope : InboundScope) (capturedAtMs : ℕ) (performed : List FeishuPerformed)
    (t : FeishuStores) (p : RouteProgress) : Prop :=
  NothingCommitted performed → t.inbox = s.inbox ∧
    (p = .kept → (message.classify policy).keepsRoute = true) ∧
    ((NothingRegistered performed ∧ match p with
      | .before => t.routes = s.routes
      | .kept => ∃ key,
        s.routes.upsert (routeUpsert message scope capturedAtMs) = .ok (key, t.routes)) ∨
    (¬ NothingRegistered performed ∧ p = .kept ∧ ∃ resource ∈ message.resources,
      (t.routes.resources.find
        (registration message scope capturedAtMs resource).resourceId).isSome))

lemma nothingCommitted_append {performed performed' : List FeishuPerformed}
    (h : NothingCommitted (performed ++ performed')) : NothingCommitted performed :=
  fun a ha => h a (mem_append_left _ ha)

/-- An action that is no accepted registration registers nothing. -/
lemma nothingRegistered_concat {performed : List FeishuPerformed} {a : FeishuPerformed}
    (ha : isRegistration a = false) :
    NothingRegistered (performed ++ [a]) ↔ NothingRegistered performed := by
  unfold NothingRegistered
  rw [forall_mem_append, forall_mem_singleton, and_iff_left ha]

variable {s t : FeishuStores} {outside : FeishuOutside} {performed : List FeishuPerformed}
  {p : RouteProgress}

/-- An action that registers nothing and leaves the state and the progress alone. -/
theorem AttemptState.idle (h : AttemptState s message policy scope capturedAtMs performed t p)
    {a : FeishuPerformed} (ha : isRegistration a = false) :
    AttemptState s message policy scope capturedAtMs (performed ++ [a]) t p := by
  intro hcommitted
  rw [nothingRegistered_concat ha]
  exact h (nothingCommitted_append hcommitted)

theorem AttemptState.upsert
    (h : AttemptState s message policy scope capturedAtMs performed t .before) {key : Canon}
    {routes : FeishuRoutes}
    (hkeeps : (message.classify policy).keepsRoute = true)
    (hupsert : t.routes.upsert (routeUpsert message scope capturedAtMs) = .ok (key, routes)) :
    AttemptState s message policy scope capturedAtMs
      (performed ++ [⟨.upsert (routeUpsert message scope capturedAtMs), .ok key⟩])
      { t with routes } .kept := by
  intro hcommitted
  obtain ⟨hinbox, -, ⟨hnone, hroutes⟩ | ⟨-, hkept, -⟩⟩ := h (nothingCommitted_append hcommitted)
  · refine ⟨hinbox, fun _ => hkeeps, .inl ⟨(nothingRegistered_concat rfl).mpr hnone, key, ?_⟩⟩
    rw [← hroutes]
    exact hupsert
  · cases hkept

theorem AttemptState.register (h : AttemptState s message policy scope capturedAtMs performed t .kept)
    {resource : FeishuEventResource} (hresource : resource ∈ message.resources) {id : Canon}
    {routes : FeishuRoutes}
    (hregister : t.routes.registerResource (registration message scope capturedAtMs resource) =
      .ok (id, routes)) :
    AttemptState s message policy scope capturedAtMs
      (performed ++ [⟨.registerResource (registration message scope capturedAtMs resource),
        .ok id⟩]) { t with routes } .kept := by
  intro hcommitted
  obtain ⟨hinbox, hkeeps, -⟩ := h (nothingCommitted_append hcommitted)
  have hregistered := registerResource_registered hregister
  refine ⟨hinbox, hkeeps, .inr ⟨fun hnone => ?_, rfl, resource, hresource, hregistered.stored⟩⟩
  have hregistration := hnone _ (mem_append_right _ mem_cons_self)
  cases hregistration

lemma attemptState_step (h : AttemptState s message policy scope capturedAtMs performed t p)
    {a : FeishuAction} (ha : (attemptDiscipline message policy scope capturedAtMs).allows p a) :
    AttemptState s message policy scope capturedAtMs
      (performed ++ [⟨a, ((outside.answer a).on t).1⟩]) ((outside.answer a).on t).2
      ((attemptDiscipline message policy scope capturedAtMs).after p a ((outside.answer a).on t).1) := by
  cases a with
  | upsert u =>
    obtain ⟨rfl, hkeeps, rfl⟩ := ha
    cases hupsert : t.routes.upsert (routeUpsert message scope capturedAtMs) with
    | error e =>
      have hanswer := @onRoutes_of_error _ t e (fun s => s.upsert _) hupsert
      simp only [answer, hanswer]
      exact h.idle rfl
    | ok pair =>
      have hanswer := @onRoutes_of_ok _ t pair.1 (fun s => s.upsert _) pair.2 hupsert
      simp only [answer, hanswer]
      exact h.upsert hkeeps hupsert
  | registerResource r =>
    obtain ⟨rfl, resource, hresource, rfl⟩ := ha
    cases hregister : t.routes.registerResource
        (registration message scope capturedAtMs resource) with
    | error e =>
      have hanswer := @onRoutes_of_error _ t e (fun s => s.registerResource _) hregister
      simp only [answer, hanswer]
      exact h.idle rfl
    | ok pair =>
      have hanswer := @onRoutes_of_ok _ t pair.1 (fun s => s.registerResource _) pair.2 hregister
      simp only [answer, hanswer]
      exact h.register hresource hregister
  | loadAttachment request => exact h.idle rfl
  | commit admission record =>
    cases hcommit : commitAdmission admission record t.inbox with
    | error e =>
      have hanswer := @onInbox_of_error _ t e (fun s => commitAdmission admission record s) hcommit
      simp only [answer, hanswer]
      exact h.idle rfl
    | ok pair =>
      have hanswer := @onInbox_of_ok _ t pair.1 (fun s => commitAdmission admission record s)
        pair.2 hcommit
      simp only [answer, hanswer]
      intro hcommitted
      have hcommit := hcommitted _ (mem_append_right _ mem_cons_self)
      cases hcommit
  | getIngress id => cases ha
  | replay ingress persistedAtMs => cases ha
  | forward envelope permit nowMs => cases ha
  | ackPermitReceipt permitId => cases ha
  | markAcknowledged permitId receipt acknowledgedAtMs => cases ha
  | listUnacknowledged tenantId linkAccountId => cases ha

/-- Where an attempt stands when it is lost. -/
lemma admitted_lost (processor : FeishuInboundProcessor) (policy : FeishuInboundPolicy)
    (record : FeishuEventRecord) (outside : FeishuOutside) (s : FeishuStores) (k : ℕ) :
    ∃ p, AttemptState s message policy scope record.capturedAtMs
      ((admitted processor message policy record scope).lostAfter outside.answer k s).1
      ((admitted processor message policy record scope).lostAfter outside.answer k s).2 p := by
  have hstart : AttemptState s message policy scope record.capturedAtMs [] s .before :=
    fun _ => ⟨rfl, RouteProgress.noConfusion, .inl ⟨forall_mem_nil _, rfl⟩⟩
  exact Discipline.Keeps.lostAfter (J := AttemptState s message policy scope record.capturedAtMs)
    (h := outside.answer) (fun done t p a hJ ha => attemptState_step hJ ha)
    (admitted_keeps processor) hstart k

end FirstAttempt

section SecondAttempt

variable {processor : FeishuInboundProcessor} {policy : FeishuInboundPolicy}
  {message : FeishuMessage} {scope : InboundScope} {record : FeishuEventRecord}
  {outside : FeishuOutside} {s t t' : FeishuStores} {o : FeishuInboundOutcome}

/-- One resource that is in the ledger stops the registration of all of them. -/
lemma register_each_error {capturedAtMs : ℕ} {resources : List FeishuEventResource}
    (h : ∃ resource ∈ resources, (s.routes.resources.find
      (registration message scope capturedAtMs resource).resourceId).isSome) :
    ∃ e t, ((each (fun resource => perform (FeishuAction.registerResource
      (registration message scope capturedAtMs resource)) :
        FeishuEventResource → FeishuProgram Canon) resources).run outside.answer).on s =
      (.error e, t) := by
  induction resources generalizing s with
  | nil =>
    obtain ⟨resource, hmem, -⟩ := h
    cases hmem
  | cons first resources ih =>
    cases hregister : s.routes.registerResource
        (registration message scope capturedAtMs first) with
    | error e =>
      have hanswer := @onRoutes_of_error _ s e (fun s => s.registerResource _) hregister
      refine ⟨e, s, Program.run_bind_of_error ?_⟩
      rw [Program.run_perform]
      exact hanswer
    | ok pair =>
      have hanswer := @onRoutes_of_ok _ s pair.1 (fun s => s.registerResource _) pair.2 hregister
      have hregistered := registerResource_registered hregister
      obtain ⟨resource, hmem, hstored⟩ := h
      rcases mem_cons.mp hmem with rfl | hmem
      · obtain ⟨e, he⟩ := registerResource_of_stored hstored
        rw [hregister] at he
        cases he
      · obtain ⟨e, t, hrest⟩ := @ih { s with routes := pair.2 }
          ⟨resource, hmem, hregistered.kept _ hstored⟩
        refine ⟨e, t, ?_⟩
        rw [each, Program.run_bind_of_ok (by rw [Program.run_perform]; exact hanswer)]
        exact Program.run_bind_of_error hrest

/-- An attempt that keeps its route and finds one of its resources in the ledger raises. -/
lemma admitted_error (hkeeps : (message.classify policy).keepsRoute = true)
    (hstored : ∃ resource ∈ message.resources, (s.routes.resources.find
      (registration message scope record.capturedAtMs resource).resourceId).isSome) :
    ∃ e t, ((admitted processor message policy record scope).run outside.answer).on s =
      (.error e, t) := by
  have hkeep : ∃ e t, ((keepRoute message scope record.capturedAtMs).run outside.answer).on s =
      (.error e, t) := by
    cases hupsert : s.routes.upsert (routeUpsert message scope record.capturedAtMs) with
    | error e =>
      have hanswer := @onRoutes_of_error _ s e (fun s => s.upsert _) hupsert
      refine ⟨e, s, Program.run_bind_of_error ?_⟩
      rw [Program.run_perform]
      exact hanswer
    | ok pair =>
      have hanswer := @onRoutes_of_ok _ s pair.1 (fun s => s.upsert _) pair.2 hupsert
      have hresources : pair.2.resources = s.routes.resources :=
        resources_of_upsert hupsert
      obtain ⟨e, t, hrest⟩ := @register_each_error message scope outside
        { s with routes := pair.2 } record.capturedAtMs message.resources
        (by rwa [hresources])
      refine ⟨e, t, ?_⟩
      rw [keepRoute, Program.run_bind_of_ok (by rw [Program.run_perform]; exact hanswer)]
      exact Program.run_bind_of_error hrest
  obtain ⟨e, t, hkeep⟩ := hkeep
  refine ⟨e, t, Program.run_bind_of_error ?_⟩
  rw [admitOne, if_pos hkeeps]
  exact Program.run_bind_of_error hkeep

/-- An attempt only sees what its first action answers. -/
lemma admitted_upsert_congr (hkeeps : (message.classify policy).keepsRoute = true)
    (h : (outside.answer (.upsert (routeUpsert message scope record.capturedAtMs))).on s =
      (outside.answer (.upsert (routeUpsert message scope record.capturedAtMs))).on t) :
    ((admitted processor message policy record scope).run outside.answer).on s =
      ((admitted processor message policy record scope).run outside.answer).on t := by
  have hask : ∃ next, admitted processor message policy record scope =
      .ask (.upsert (routeUpsert message scope record.capturedAtMs)) next := by
    rw [admitted, admitOne, if_pos hkeeps]
    exact ⟨_, rfl⟩
  obtain ⟨next, hnext⟩ := hask
  rw [hnext, Program.run_ask, Program.run_ask, h]

variable {rawEvent : JsonFields}

/-- What `process` reads does not depend on the record that it checks. -/
lemma readEvent_unique {record' : FeishuEventRecord} {read read' : FeishuMessage × InboundScope}
    (h : readEvent processor rawEvent policy record = .ok read)
    (h' : readEvent processor rawEvent policy record' = .ok read') : read = read' := by
  simp only [readEvent, eq_ok_iff] at h h'
  obtain ⟨-, -, message, hmessage, scope, hscope, rfl⟩ := h
  obtain ⟨-, -, message', hmessage', scope', hscope', rfl⟩ := h'
  obtain rfl := Except.ok.inj (hmessage.symm.trans hmessage')
  obtain rfl := Except.ok.inj (hscope.symm.trans hscope')
  rfl

theorem process_of_some {existing : InboxIngress}
    (hread : readEvent processor rawEvent policy record = .ok (message, scope))
    (hfound : s.inbox.getIngress (inboundId scope) = some existing) :
    ((processor.process rawEvent policy record).run outside.answer).on s =
      ((redelivered record scope existing).run outside.answer).on s := by
  rw [process, hread, Program.ofExcept_ok, Program.done_bind,
    Program.run_bind_of_ok (t := s) (a := some existing)]
  rw [Program.run_perform, ← hfound]
  rfl

lemma process_of_none (hread : readEvent processor rawEvent policy record = .ok (message, scope))
    (hfound : s.inbox.getIngress (inboundId scope) = none) :
    ((processor.process rawEvent policy record).run outside.answer).on s =
      ((admitted processor message policy record scope).run outside.answer).on s := by
  rw [process, hread, Program.ofExcept_ok, Program.done_bind,
    Program.run_bind_of_ok (t := s) (a := none)]
  rw [Program.run_perform, ← hfound]
  rfl

lemma readEvent_of_process
    (h : ((processor.process rawEvent policy record).run outside.answer).on s = (.ok o, t)) :
    ∃ message scope, readEvent processor rawEvent policy record = .ok (message, scope) := by
  cases hread : readEvent processor rawEvent policy record with
  | error e =>
    rw [process, hread, Program.ofExcept_error, Program.fail_bind] at h
    cases h
  | ok read => exact ⟨read.1, read.2, rfl⟩

/-- A redelivery leaves the stores alone and answers with the stored envelope. -/
theorem redelivered_ok {existing : InboxIngress} (hheld : s.inbox.Holds existing)
    (h : ((redelivered record scope existing).run outside.answer).on s = (.ok o, t)) :
    t = s ∧ o.envelope = existing.envelope ∧
      o.shouldForward = !isWithheld existing.envelope.text ∧ o.duplicate = true := by
  obtain ⟨u, s₁, hcheck, hrest⟩ := Program.run_bind_eq_ok.mp h
  obtain ⟨persisted, s₂, hreplay, hpure⟩ := Program.run_bind_eq_ok.mp hrest
  have hs₁ : s₁ = s := by
    unfold refuseIf at hcheck
    split at hcheck <;> cases hcheck
    rfl
  subst hs₁
  have hs₂ : s₂ = s₁ := by
    rw [Program.run_perform] at hreplay
    cases hpersist : s₁.inbox.persistAndAdvanceCursor existing record.persistedAtMs with
    | error e =>
      have hanswer := @onInbox_of_error _ s₁ e
        (fun s => s.persistAndAdvanceCursor existing record.persistedAtMs) hpersist
      cases hanswer.symm.trans hreplay
    | ok pair =>
      have hanswer := @onInbox_of_ok _ s₁ pair.1
        (fun s => s.persistAndAdvanceCursor existing record.persistedAtMs) pair.2 hpersist
      have hsame := (Inbox.persistAndAdvanceCursor_of_holds hheld hpersist).1
      cases hanswer.symm.trans hreplay
      rw [hsame]
  cases hpure
  exact ⟨hs₂, rfl, rfl, rfl⟩

/-- An answered admission has committed its envelope. -/
lemma admitted_ok
    (h : ((admitted processor message policy record scope).run outside.answer).on s =
      (.ok o, t)) : ∃ ingress : InboxIngress, t.inbox.Holds ingress ∧
        ingress.envelope = o.envelope := by
  obtain ⟨admission, s₁, -, h⟩ := Program.run_bind_eq_ok.mp h
  obtain ⟨persisted, s₂, hcommit, h⟩ := Program.run_bind_eq_ok.mp h
  rw [Program.run_perform] at hcommit
  cases hresult : commitAdmission admission record s₁.inbox with
  | error e =>
    have hanswer := @onInbox_of_error _ s₁ e (fun s => commitAdmission admission record s) hresult
    cases hanswer.symm.trans hcommit
  | ok pair =>
    have hanswer := @onInbox_of_ok _ s₁ pair.1 (fun s => commitAdmission admission record s) pair.2
      hresult
    cases hanswer.symm.trans hcommit
    cases h
    simp only [commitAdmission, bind_eq_ok] at hresult
    obtain ⟨ingress, hbuild, hpersist⟩ := hresult
    refine ⟨ingress, Inbox.holds_of_persistAndAdvanceCursor hpersist, ?_⟩
    have hfields := sealed_eq_ok.mp hbuild
    rw [InboxIngress.envelope, hfields]

/-- An answered call leaves exactly one record of its envelope. -/
lemma recordCount_of_process
    (h : ((processor.process rawEvent policy record).run outside.answer).on s = (.ok o, t)) :
    t.inbox.recordCount o.envelope.inboundId = 1 := by
  obtain ⟨message, scope, hread⟩ := readEvent_of_process h
  cases hfound : s.inbox.getIngress (inboundId scope) with
  | some existing =>
    rw [process_of_some hread hfound] at h
    have hheld := (Inbox.holds_of_getIngress hfound).1
    obtain ⟨rfl, henvelope, -, -⟩ := redelivered_ok hheld h
    rw [henvelope]
    exact Inbox.recordCount_of_holds hheld
  | none =>
    rw [process_of_none hread hfound] at h
    obtain ⟨ingress, hheld, henvelope⟩ := admitted_ok h
    rw [← henvelope]
    exact Inbox.recordCount_of_holds hheld

/-- A redelivery that is lost has registered nothing and left the stores alone. -/
lemma redelivered_lost {existing : InboxIngress} (hheld : s.inbox.Holds existing) (k : ℕ) :
    NothingRegistered ((redelivered record scope existing).lostAfter outside.answer k s).1 ∧
      ((redelivered record scope existing).lostAfter outside.answer k s).2 = s := by
  unfold redelivered refuseIf
  split
  · rw [Program.fail_bind, Program.lostAfter_fail]
    exact ⟨forall_mem_nil _, rfl⟩
  · rw [Program.done_bind]
    cases k with
    | zero =>
      rw [Program.lostAfter_zero]
      exact ⟨forall_mem_nil _, rfl⟩
    | succ k =>
      cases hpersist : s.inbox.persistAndAdvanceCursor existing record.persistedAtMs with
      | error e =>
        have hanswer : (outside.answer (.replay existing record.persistedAtMs)).on s =
            (.error e, s) := @onInbox_of_error _ s e
          (fun s => s.persistAndAdvanceCursor existing record.persistedAtMs) hpersist
        rw [Program.lostAfter_perform_of_error _ hanswer]
        exact ⟨forall_mem_singleton.mpr rfl, rfl⟩
      | ok pair =>
        have hanswer : (outside.answer (.replay existing record.persistedAtMs)).on s =
            (.ok pair.1, { s with inbox := pair.2 }) := @onInbox_of_ok _ s pair.1
          (fun s => s.persistAndAdvanceCursor existing record.persistedAtMs) pair.2 hpersist
        have hsame := (Inbox.persistAndAdvanceCursor_of_holds hheld hpersist).1
        rw [Program.lostAfter_perform_of_ok _ hanswer, Program.pure_eq, Program.lostAfter_done,
          hsame]
        exact ⟨forall_mem_singleton.mpr rfl, rfl⟩

/-- The cases of a lost call: it has read nothing or met its own ingress, and then the stores are
untouched; or it was admitting the message. -/
lemma process_lost {rawEvent : JsonFields} (k : ℕ)
    (hread : readEvent processor rawEvent policy record = .ok (message, scope)) :
    (NothingRegistered
        ((processor.process rawEvent policy record).lostAfter outside.answer k s).1 ∧
      ((processor.process rawEvent policy record).lostAfter outside.answer k s).2 = s) ∨
    (s.inbox.getIngress (inboundId scope) = none ∧ ∃ p,
      AttemptState s message policy scope record.capturedAtMs
        ((processor.process rawEvent policy record).lostAfter outside.answer k s).1
        ((processor.process rawEvent policy record).lostAfter outside.answer k s).2 p) := by
  rw [process, hread, Program.ofExcept_ok, Program.done_bind]
  cases k with
  | zero =>
    rw [Program.lostAfter_zero]
    exact .inl ⟨forall_mem_nil _, rfl⟩
  | succ k =>
    cases hfound : s.inbox.getIngress (inboundId scope) with
    | some existing =>
      have hanswer : (outside.answer (.getIngress (inboundId scope))).on s =
          (.ok (some existing), s) := by
        rw [← hfound]
        rfl
      obtain ⟨hnone, hsame⟩ := @redelivered_lost scope record outside s existing
        (Inbox.holds_of_getIngress hfound).1 k
      rw [Program.lostAfter_perform_of_ok _ hanswer]
      exact .inl ⟨forall_mem_cons.mpr ⟨rfl, hnone⟩, hsame⟩
    | none =>
      have hanswer : (outside.answer (.getIngress (inboundId scope))).on s = (.ok none, s) := by
        rw [← hfound]
        rfl
      obtain ⟨p, hstate⟩ := @admitted_lost message scope processor policy record outside s k
      rw [Program.lostAfter_perform_of_ok _ hanswer]
      refine .inr ⟨rfl, p, fun hcommitted => ?_⟩
      obtain ⟨hinbox, hroutes⟩ := hstate (forall_mem_cons.mp hcommitted).2
      refine ⟨hinbox, ?_⟩
      simpa only [NothingRegistered, forall_mem_cons, isRegistration, true_and] using hroutes

/-- An answered admission has kept its route. -/
lemma upsert_of_admitted (hkeeps : (message.classify policy).keepsRoute = true)
    (h : ((admitted processor message policy record scope).run outside.answer).on s = (.ok o, t)) :
    ∃ key routes, s.routes.upsert (routeUpsert message scope record.capturedAtMs) =
      .ok (key, routes) := by
  obtain ⟨admission, s₁, hadmit, -⟩ := Program.run_bind_eq_ok.mp h
  rw [admitOne, if_pos hkeeps] at hadmit
  obtain ⟨kept, s₂, hkeep, -⟩ := Program.run_bind_eq_ok.mp hadmit
  obtain ⟨key, s₃, hupsert, -⟩ := Program.run_bind_eq_ok.mp hkeep
  rw [Program.run_perform] at hupsert
  cases hresult : s.routes.upsert (routeUpsert message scope record.capturedAtMs) with
  | error e =>
    have hanswer := @onRoutes_of_error _ s e (fun s => s.upsert _) hresult
    cases hanswer.symm.trans hupsert
  | ok pair => exact ⟨pair.1, pair.2, rfl⟩

/-- Whether the second attempt raises. -/
lemma process_again {first retry : FeishuEventRecord}
    {outside' : FeishuOutside} (k : ℕ) (hlater : first.capturedAtMs ≤ retry.capturedAtMs)
    (hadmissible :
      ((processor.process rawEvent policy retry).run outside'.answer).on s = (.ok o, t))
    (hcrash : NothingCommitted
      ((processor.process rawEvent policy first).lostAfter outside.answer k s).1) :
    (NothingRegistered ((processor.process rawEvent policy first).lostAfter outside.answer k s).1 ∧
      ∃ t', ((processor.process rawEvent policy retry).run outside'.answer).on
        ((processor.process rawEvent policy first).lostAfter outside.answer k s).2 = (.ok o, t')) ∨
    (¬ NothingRegistered
        ((processor.process rawEvent policy first).lostAfter outside.answer k s).1 ∧
      ∃ e t', ((processor.process rawEvent policy retry).run outside'.answer).on
        ((processor.process rawEvent policy first).lostAfter outside.answer k s).2 =
          (.error e, t')) := by
  obtain ⟨message, scope, hread⟩ := readEvent_of_process hadmissible
  cases hfirst : readEvent processor rawEvent policy first with
  | error e =>
    rw [process, hfirst, Program.ofExcept_error, Program.fail_bind,
      Program.lostAfter_fail]
    exact .inl ⟨forall_mem_nil _, t, hadmissible⟩
  | ok read =>
    obtain rfl := readEvent_unique hfirst hread
    rcases @process_lost processor policy message scope first outside s rawEvent k hfirst with
      ⟨hnone, hsame⟩ | ⟨hfresh, p, hstate⟩
    · rw [hsame]
      exact .inl ⟨hnone, t, hadmissible⟩
    · generalize (processor.process rawEvent policy first).lostAfter outside.answer k s = lost
        at hcrash hstate ⊢
      obtain ⟨hinbox, hkept, hcases⟩ := hstate hcrash
      have hfresh' : lost.2.inbox.getIngress (inboundId scope) = none := by
        rw [hinbox]
        exact hfresh
      rw [process_of_none hread hfresh] at hadmissible
      rw [process_of_none hread hfresh']
      rcases hcases with ⟨hnone, hroutes⟩ | ⟨hsome, rfl, hstored⟩
      · refine .inl ⟨hnone, ?_⟩
        cases p with
        | before =>
          have hsame : lost.2 = s := by
            rcases hlost : lost.2 with ⟨inbox, routes⟩
            rw [hlost] at hinbox hroutes
            cases hinbox
            cases hroutes
            rfl
          exact ⟨t, by rw [hsame]; exact hadmissible⟩
        | kept =>
          obtain ⟨key, hupsert⟩ := hroutes
          have hkeeps := hkept rfl
          obtain ⟨key', routes', hupsert'⟩ := upsert_of_admitted hkeeps hadmissible
          have hagain := @FeishuRoutes.upsert_twice _ _
            (routeUpsert message scope retry.capturedAtMs) first.capturedAtMs _ _ _ hlater hupsert
            hupsert'
          have hon := @onRoutes_of_ok _ s key' (fun s => s.upsert _) routes' hupsert'
          have hon' := @onRoutes_of_ok _ lost.2 key' (fun s => s.upsert _) routes' hagain
          rw [hinbox] at hon'
          have hcongr := @admitted_upsert_congr processor policy message scope retry outside' lost.2
            s hkeeps (hon'.trans hon.symm)
          exact ⟨t, hcongr.trans hadmissible⟩
      · exact .inr ⟨hsome, admitted_error (hkept rfl) hstored⟩

end SecondAttempt

/-- Before the inbox commit an attempt may be lost anywhere; the redelivery is processed as if there
had been no first attempt exactly when that one registered no resource. No resource can be
registered twice, at whatever time. -/
theorem process_retry_iff {processor : FeishuInboundProcessor} {rawEvent : JsonFields}
    {policy : FeishuInboundPolicy} {first retry : FeishuEventRecord}
    {outside outside' : FeishuOutside} {s t : FeishuStores} {o : FeishuInboundOutcome} (k : ℕ)
    (hlater : first.capturedAtMs ≤ retry.capturedAtMs)
    (hadmissible :
      ((processor.process rawEvent policy retry).run outside'.answer).on s = (.ok o, t))
    (hcrash : NothingCommitted
      ((processor.process rawEvent policy first).lostAfter outside.answer k s).1) :
    ((∃ o' t', ((processor.process rawEvent policy retry).run outside'.answer).on
        ((processor.process rawEvent policy first).lostAfter outside.answer k s).2 = (.ok o', t') ∧
          o'.resourceIds = o.resourceIds ∧ t'.inbox.recordCount o.envelope.inboundId = 1) ↔
      NothingRegistered
        ((processor.process rawEvent policy first).lostAfter outside.answer k s).1) ∧
    ∀ (r : FeishuRoutes.Registration) (ledger ledger' : FeishuRoutes) (id : Canon)
      (createdAtMs : ℕ), ledger.registerResource r = .ok (id, ledger') →
        ledger'.registerResource { r with createdAtMs } = .error
          ⟨.attribute, "'FeishuProtectedResource' object has no attribute 'model_copy'"⟩ := by
  refine ⟨?_, fun r ledger ledger' id createdAtMs h =>
    registerResource_again createdAtMs h⟩
  rcases process_again k hlater hadmissible hcrash with ⟨hnone, t', hok⟩ | ⟨hsome, e, t', herror⟩
  · refine iff_of_true ⟨o, t', hok, rfl, ?_⟩ hnone
    exact recordCount_of_process hok
  · refine iff_of_false ?_ hsome
    rintro ⟨o', t'', hok, -, -⟩
    rw [herror] at hok
    cases hok

instance (performed : List FeishuPerformed) : Decidable (NothingCommitted performed) :=
  List.decidableBAll _ _

instance (performed : List FeishuPerformed) : Decidable (NothingRegistered performed) :=
  List.decidableBAll _ _

def samplePolicy : FeishuInboundPolicy where
  tenantId := py "tenant"
  linkAccountId := py "account"
  appId := py "cli_a"
  platformTenantKey := py "key"
  botOpenIds := [py "ou_bot"]
  allowedSenderIds := []
  allowP2p := true
  allowGroups := false
  groupRequiresMention := true

/-- A message of one sender in a direct chat. -/
def sampleEvent (messageType content : String) : JsonFields :=
  [(py "header", .object [(py "event_id", .text (py "ev_1")),
      (py "event_type", .text (py "im.message.receive_v1")), (py "app_id", .text (py "cli_a")),
      (py "tenant_key", .text (py "key"))]),
    (py "event", .object [
      (py "sender", .object [(py "sender_id", .object [(py "open_id", .text (py "ou_user"))])]),
      (py "message", .object [(py "message_id", .text (py "om_1")),
        (py "chat_id", .text (py "oc_1")), (py "chat_type", .text (py "p2p")),
        (py "message_type", .text (py messageType)), (py "content", .text (py content))])])]

def imageEvent : JsonFields := sampleEvent "image" "\x7b\"image_key\":\"img_1\"\x7d"

def textEvent : JsonFields := sampleEvent "text" "\x7b\"text\":\"hello\"\x7d"

/-- The record of an event that was captured and persisted at one time. -/
def recordAt (rawEvent : JsonFields) (atMs : ℕ) : FeishuEventRecord :=
  let payload := (PlatformJson.object rawEvent).canonicalText.getD []
  ⟨.ident "raw_" (.str payload), textSha256 payload, payload.utf8Length, true, true, atMs, atMs⟩

def sampleProcessor : FeishuInboundProcessor := ⟨⟨100, id⟩, false⟩

def sampleOutside : FeishuOutside :=
  ⟨fun _ => .error ⟨.outside, "unused"⟩, fun _ _ _ => .ok .null⟩

def emptyStores : FeishuStores := ⟨.empty, .empty⟩

/-- An image is admitted when nothing goes wrong. After a crash behind the registration of its
resource the same event raises. -/
theorem imageEvent_not_readmitted :
    ((((sampleProcessor.process imageEvent samplePolicy (recordAt imageEvent 2000)).run
      sampleOutside.answer).on emptyStores).1.toBool = true) ∧
    NothingCommitted ((sampleProcessor.process imageEvent samplePolicy
      (recordAt imageEvent 1000)).lostAfter sampleOutside.answer 3 emptyStores).1 ∧
    ((((sampleProcessor.process imageEvent samplePolicy (recordAt imageEvent 2000)).run
      sampleOutside.answer).on ((sampleProcessor.process imageEvent samplePolicy
        (recordAt imageEvent 1000)).lostAfter sampleOutside.answer 3 emptyStores).2).1.toBool =
          false) := by
  decide +kernel

/-- A text is processed again after a crash behind its route. -/
theorem textEvent_readmitted :
    ∃ o o' t', (((sampleProcessor.process textEvent samplePolicy (recordAt textEvent 2000)).run
      sampleOutside.answer).on emptyStores).1 = .ok o ∧
    ((sampleProcessor.process textEvent samplePolicy (recordAt textEvent 2000)).run
      sampleOutside.answer).on ((sampleProcessor.process textEvent samplePolicy
        (recordAt textEvent 1000)).lostAfter sampleOutside.answer 2 emptyStores).2 = (.ok o', t') ∧
      o'.resourceIds = o.resourceIds ∧ t'.inbox.recordCount o.envelope.inboundId = 1 := by
  have hok : (((sampleProcessor.process textEvent samplePolicy (recordAt textEvent 2000)).run
      sampleOutside.answer).on emptyStores).1.toBool = true := by decide +kernel
  obtain ⟨o, t, hadmissible⟩ := Call.exists_of_toBool hok
  have hlater : (recordAt textEvent 1000).capturedAtMs ≤
      (recordAt textEvent 2000).capturedAtMs := by
    show 1000 ≤ 2000
    omega
  have hcrash : NothingCommitted ((sampleProcessor.process textEvent samplePolicy
      (recordAt textEvent 1000)).lostAfter sampleOutside.answer 2 emptyStores).1 := by
    decide +kernel
  have hiff := (process_retry_iff 2 hlater hadmissible hcrash).1
  obtain ⟨o', t', h⟩ := hiff.mpr (by decide +kernel)
  exact ⟨o, o', t', by rw [hadmissible], h⟩

end Tiangong.Communication
