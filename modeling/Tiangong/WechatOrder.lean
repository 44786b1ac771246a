import Mathlib.Data.List.Induction
import Tiangong.WechatSessions

/-!
# The order of WeChat sessions

The row of a session remembers the number of the last accepted message only. A message without a
number wipes it out, and the next numbered message is compared with nothing. As long as such a
message is above all that were accepted, the numbers of a session increase strictly.
-/
open List

namespace Tiangong.Communication

/-- The two calls are about one message. -/
structure WechatMessage.Repeats (m m' : WechatMessage) : Prop where
  messageRef : m.messageRef = m'.messageRef
  messageFingerprint : m.messageFingerprint = m'.messageFingerprint
  envelopeSha256 : m.envelopeSha256 = m'.envelopeSha256
  sessionKey : m.sessionKey = m'.sessionKey

/-- The call has its timing right. -/
def WechatMessage.Timed (m : WechatMessage) : Prop := 1 ≤ m.maxCachedTokenAgeMs

lemma WechatSessionDecision.withComputedSha256_hasValidSha256 (d : WechatSessionDecision) :
    d.withComputedSha256.hasValidSha256 = true :=
  decide_eq_true rfl

namespace WechatSessions

variable {p : DataProtector} {m m' : WechatMessage} {s s' : WechatSessions}
  {result : WechatSessionResult} {messages : List WechatMessage} {key : Canon}

lemma unprotectText_of_protectText (hp : p.Faithful) {seed : ℕ} {text : PyStr} {entropy : Canon}
    {e : SessionError} {sealedText : ProtectedText}
    (h : p.protectText seed text entropy = .ok sealedText) :
    p.unprotectText sealedText entropy e = .ok text := by
  simp only [DataProtector.protectText, eq_ok_iff] at h
  obtain ⟨cipher, hcipher, rfl⟩ := h
  simp only [DataProtector.unprotectText, eq_ok_iff]
  exact ⟨text, hp _ _ _ _ hcipher, fun hne => hne rfl, rfl⟩

variable {row : DecisionRow}

lemma readToken_of_protectDecision (hp : p.Faithful) {token : Option PyStr}
    (h : protectDecision p m token = .ok row.context) (hrepeats : m'.Repeats m) :
    readToken p row m' = .ok token := by
  cases token with
  | none =>
    have hnone : row.context = none := (Except.ok.inj h).symm
    rw [readToken, hnone]
  | some token =>
    rw [protectDecision, map_eq_ok] at h
    obtain ⟨sealedText, hsealed, hsome⟩ := h
    simp only [DataProtector.protectToken, eq_ok_iff] at hsealed
    rw [readToken, ← hsome, map_eq_ok]
    refine ⟨token, ?_, rfl⟩
    rw [DataProtector.unprotectToken, hrepeats.sessionKey, hrepeats.messageRef]
    exact unprotectText_of_protectText hp hsealed.2.2.2

/-- A message is decided for the first time. -/
structure Decided (p : DataProtector) (m : WechatMessage) (s : WechatSessions)
    (result : WechatSessionResult) (row : DecisionRow) (s' : WechatSessions) : Prop where
  fresh : s.decisions.find m.messageRef = none
  classification : result.decision.classification = m.classify (s.sessions.find m.sessionKey)
  first : result.decision.duplicate = false
  sequence : result.decision.sequence = m.sequence
  sessionKey : result.decision.sessionKey = m.sessionKey
  inserts : s.decisions.Inserts row s'.decisions
  messageRef : row.messageRef = m.messageRef
  rowKey : row.sessionKey = m.sessionKey
  decision : row.decision = result.decision
  replayed : p.Faithful → ∀ m', m'.Repeats m →
    replay p m' row = .ok ⟨result.decision.repeated, result.contextToken⟩
  unaccepted : result.decision.classification ≠ .accepted → s'.sessions = s.sessions
  accepted : result.decision.classification = .accepted → ∃ new : SessionRow,
    (∀ key, s'.sessions.find key = if m.sessionKey = key then some new else s.sessions.find key) ∧
      new.lastSequence = m.sequence ∧ new.lastMessageRef = m.messageRef

lemma find_putSession {row : SessionRow} {sessions sessions' : Table SessionRow.sessionKey}
    (h : putSession row sessions = .ok sessions') (key : Canon) :
    sessions'.find key = if row.sessionKey = key then some row else sessions.find key := by
  unfold putSession at h
  split at h
  · exact (Table.insert_eq_ok.mp h).find key
  · next old hold =>
    cases h
    have hrow : row.overwrittenBy old = row := by
      rw [SessionRow.overwrittenBy, show old.sessionKey = row.sessionKey from
        Table.key_of_find hold]
    rw [Table.find_update]
    by_cases hkey : row.sessionKey = key
    · subst hkey
      have holdKey : old.sessionKey = row.sessionKey := Table.key_of_find hold
      rw [hold, Option.map_some, if_pos (decide_eq_true holdKey), if_pos rfl, hrow]
    · rw [if_neg hkey]
      cases hfound : sessions.find key with
      | none => rfl
      | some r =>
        have hr : r.sessionKey = key := Table.key_of_find hfound
        rw [Option.map_some, if_neg]
        rw [decide_eq_true_eq, hr]
        exact fun heq => hkey heq.symm

lemma advance_find {sessions : Table SessionRow.sessionKey}
    (h : s.advance p m = .ok sessions) : ∃ new : SessionRow,
      (∀ key, sessions.find key = if m.sessionKey = key then some new else s.sessions.find key) ∧
        new.lastSequence = m.sequence ∧ new.lastMessageRef = m.messageRef := by
  simp only [advance, bind_eq_ok] at h
  obtain ⟨recipient, -, -, -, context, -, hput⟩ := h
  exact ⟨nextRow m recipient context, find_putSession hput, rfl, rfl⟩

lemma decideNew_decided (hfresh : s.decisions.find m.messageRef = none)
    (h : s.decideNew p m = .ok (result, s')) : ∃ row, Decided p m s result row s' := by
  simp only [decideNew, bind_eq_ok] at h
  obtain ⟨⟨token, source⟩, -, context, hcontext, decisions, hinsert, h⟩ := h
  have hinserts := Table.insert_eq_ok.mp hinsert
  let row : DecisionRow := ⟨m.messageRef, m.sessionKey, m.messageFingerprint, m.envelopeSha256,
    decisionOf m (m.classify (s.sessions.find m.sessionKey)) source context,
    (decisionOf m (m.classify (s.sessions.find m.sessionKey)) source context).decisionSha256,
    context, m.receivedAtMs⟩
  have hreplayed : p.Faithful → ∀ m', m'.Repeats m →
      replay p m' row = .ok ⟨row.decision.repeated, token⟩ := by
    intro hp m' hrepeats
    simp only [replay, eq_ok_iff, not_or, not_not]
    refine ⟨⟨hrepeats.messageFingerprint.symm, hrepeats.envelopeSha256.symm,
      hrepeats.sessionKey.symm⟩, ⟨?_, rfl⟩, token, ?_, rfl⟩
    · rw [Bool.not_eq_false]
      exact WechatSessionDecision.withComputedSha256_hasValidSha256 _
    · exact readToken_of_protectDecision hp hcontext hrepeats
  split at h
  · next haccepted =>
    simp only [eq_pair_iff] at h
    obtain ⟨sessions, hadvance, rfl, rfl⟩ := h
    refine ⟨row, hfresh, rfl, rfl, rfl, rfl, hinserts, rfl, rfl, rfl, hreplayed,
      fun hnot => absurd haccepted hnot, fun _ => advance_find hadvance⟩
  · next hnot =>
    simp only [pure_eq_ok, Prod.mk.injEq] at h
    obtain ⟨rfl, rfl⟩ := h
    exact ⟨row, hfresh, rfl, rfl, rfl, rfl, hinserts, rfl, rfl, rfl, hreplayed, fun _ => rfl,
      fun haccepted => absurd haccepted hnot⟩

/-- A message is decided already and nothing changes, or it is decided now. -/
lemma decide_cases (h : s.decide p m = .ok (result, s')) :
    (∃ row, s.decisions.find m.messageRef = some row ∧ s' = s ∧ result.decision.duplicate = true) ∨
      ∃ row, Decided p m s result row s' := by
  simp only [decide, bind_eq_ok] at h
  obtain ⟨-, -, h⟩ := h
  split at h
  · next row hrow =>
    simp only [eq_pair_iff, replay] at h
    obtain ⟨_, ⟨-, -, -, -, token, -, rfl⟩, rfl, rfl⟩ := h
    exact .inl ⟨row, hrow, rfl, rfl⟩
  · next hfresh => exact .inr (decideNew_decided hfresh h)

/-- The numbers of the accepted messages of a session, in the order of their decisions. -/
def numbers (s : WechatSessions) (key : Canon) : List ℕ :=
  (s.decisions.rows.filter fun row =>
    row.sessionKey = key && row.decision.classification = .accepted).filterMap (·.decision.sequence)

theorem Decided.numbers (h : Decided p m s result row s') (key : Canon) :
    s'.numbers key = s.numbers key ++
      if m.sessionKey = key ∧ result.decision.classification = .accepted then m.sequence.toList
      else [] := by
  rw [WechatSessions.numbers, h.inserts.rows, filter_append, filterMap_append,
    ← WechatSessions.numbers]
  congr 1
  by_cases hkey : m.sessionKey = key ∧ result.decision.classification = .accepted
  · rw [if_pos hkey]
    cases hsequence : m.sequence <;>
      simp [h.rowKey, h.decision, hkey.1, hkey.2, h.sequence, hsequence]
  · rw [if_neg hkey]
    simp [h.rowKey, h.decision, hkey]

/-- A numbered message meets a session whose last message had no number, although it is not above
the numbers accepted before. -/
def regresses (s : WechatSessions) (m : WechatMessage) : Bool :=
  m.preliminaryClassification = .accepted && (s.decisions.find m.messageRef).isNone &&
    (s.sessions.find m.sessionKey).any (fun row => row.lastSequence.isNone) &&
      m.sequence.any fun sequence => (s.numbers m.sessionKey).any (sequence ≤ ·)

/-- What the rows say about the numbers accepted so far. -/
structure Ordered (s : WechatSessions) : Prop where
  increasing : ∀ key, (s.numbers key).Pairwise (· < ·)
  unopened : ∀ key, s.sessions.find key = none → s.numbers key = []
  last : ∀ key row, s.sessions.find key = some row → ∀ sequence ∈ row.lastSequence,
    ∀ n ∈ s.numbers key, n ≤ sequence
  decided : ∀ key row, s.sessions.find key = some row →
    (s.decisions.find row.lastMessageRef).isSome = true

lemma ordered_empty : WechatSessions.empty.Ordered where
  increasing key := .nil
  unopened key _ := rfl
  last key row hrow := by cases hrow
  decided key row hrow := by cases hrow

lemma Ordered.lt_of_accepted (h : s.Ordered) (hregresses : s.regresses m = false)
    (hfresh : s.decisions.find m.messageRef = none)
    (haccepted : m.classify (s.sessions.find m.sessionKey) = .accepted) :
    ∀ sequence ∈ m.sequence, ∀ n ∈ s.numbers m.sessionKey, n < sequence := by
  intro sequence hsequence n hn
  rw [Option.mem_def] at hsequence
  cases hstate : s.sessions.find m.sessionKey with
  | none =>
    rw [h.unopened _ hstate] at hn
    cases hn
  | some row =>
    simp only [hstate, WechatMessage.classify, hsequence] at haccepted
    split at haccepted
    · next hpreliminary =>
      cases hlast : row.lastSequence with
      | none =>
        -- The row compares the message with nothing, so the condition must.
        by_contra hnot
        have hany : (s.numbers m.sessionKey).any (sequence ≤ ·) = true :=
          any_eq_true.mpr ⟨n, hn, decide_eq_true (Nat.le_of_not_lt hnot)⟩
        simp [regresses, hpreliminary, hfresh, hstate, hlast, hsequence, hany] at hregresses
      | some last =>
        have hle := h.last _ row hstate last hlast n hn
        rw [hlast] at haccepted
        split at haccepted
        · cases haccepted
        · next hnot =>
          split at haccepted
          · cases haccepted
          · next hsame =>
            have hne : m.messageRef ≠ row.lastMessageRef := by
              intro heq
              have hsome := h.decided _ row hstate
              rw [← heq, hfresh] at hsome
              cases hsome
            have hlt : ¬ sequence < last := by simpa using hnot
            have hneq : last ≠ sequence := fun heq => hsame ⟨congrArg some heq, hne⟩
            omega
    · next hpreliminary => exact absurd haccepted hpreliminary

theorem Ordered.decide (h : s.Ordered) (hregresses : s.regresses m = false) (hstep : Decided p m s result row s') : s'.Ordered := by
  have hkept : ∀ ref, (s.decisions.find ref).isSome = true →
      (s'.decisions.find ref).isSome = true := by
    intro ref hsome
    obtain ⟨found, hfound⟩ := Option.isSome_iff_exists.mp hsome
    rw [hstep.inserts.find_of_some hfound]
    rfl
  have hnew : (s'.decisions.find m.messageRef).isSome = true := by
    rw [hstep.inserts.find, if_pos hstep.messageRef]
    rfl
  by_cases haccepted : result.decision.classification = .accepted
  · obtain ⟨new, hfind, hlast, href⟩ := hstep.accepted haccepted
    have hlt := h.lt_of_accepted hregresses hstep.fresh (hstep.classification.symm.trans haccepted)
    refine ⟨fun key => ?_, fun key hnone => ?_, fun key r hr => ?_, fun key r hr => ?_⟩
    · rw [hstep.numbers]
      split
      · next hkey =>
        rw [← hkey.1]
        cases hsequence : m.sequence with
        | none =>
          rw [Option.toList_none, append_nil]
          exact h.increasing _
        | some sequence =>
          rw [Option.toList_some, pairwise_append]
          refine ⟨h.increasing _, pairwise_singleton _ _, fun n hn k hk => ?_⟩
          rw [mem_singleton.mp hk]
          exact hlt sequence hsequence n hn
      · rw [append_nil]
        exact h.increasing key
    · rw [hfind] at hnone
      split at hnone
      · cases hnone
      · next hkey =>
        rw [hstep.numbers, if_neg fun hboth => hkey hboth.1, append_nil]
        exact h.unopened key hnone
    · rw [hfind] at hr
      rw [hstep.numbers]
      split at hr
      · next hkey =>
        cases hr
        intro sequence hsequence n hn
        rw [hlast] at hsequence
        rw [if_pos ⟨hkey, haccepted⟩, mem_append] at hn
        rcases hn with hn | hn
        · exact Nat.le_of_lt (hlt sequence hsequence n (hkey ▸ hn))
        · rw [Option.mem_def.mp hsequence, Option.toList_some, mem_singleton] at hn
          exact Nat.le_of_eq hn
      · next hkey =>
        rw [if_neg fun hboth => hkey hboth.1, append_nil]
        exact h.last key r hr
    · rw [hfind] at hr
      split at hr
      · cases hr
        rw [href]
        exact hnew
      · exact hkept _ (h.decided key r hr)
  · have hsessions := hstep.unaccepted haccepted
    have hnumbers : ∀ key, s'.numbers key = s.numbers key := by
      intro key
      rw [hstep.numbers, if_neg fun hboth => haccepted hboth.2, append_nil]
    refine ⟨fun key => ?_, fun key hnone => ?_, fun key r hr => ?_, fun key r hr => ?_⟩
    · rw [hnumbers]
      exact h.increasing key
    · rw [hsessions] at hnone
      rw [hnumbers]
      exact h.unopened key hnone
    · rw [hsessions] at hr
      rw [hnumbers]
      exact h.last key r hr
    · rw [hsessions] at hr
      exact hkept _ (h.decided key r hr)

abbrev after (p : DataProtector) (messages : List WechatMessage) : WechatSessions :=
  (machine p).exec .empty messages

/-- The number that an answer adds to the accepted ones of a session. -/
def acceptedNumber (key : Canon)
    (entry : WechatSessions × WechatMessage × Except SessionError WechatSessionResult) : Option ℕ :=
  entry.2.2.toOption.bind fun result =>
    if result.decision.sessionKey = key ∧ result.decision.classification = .accepted ∧
        result.decision.duplicate = false then result.decision.sequence
    else none

/-- The numbers of the messages that a run decides accepted in a session, in their order. -/
def acceptedNumbers (p : DataProtector) (messages : List WechatMessage) (key : Canon) : List ℕ :=
  ((machine p).trace .empty messages).filterMap (acceptedNumber key)

lemma step_of_ok (h : s.decide p m = .ok (result, s')) :
    (machine p).step s m = (s', .ok result) := by
  show committed s _ (s.decide p m) = _
  rw [h]
  rfl

lemma step_of_error {e : SessionError} (h : s.decide p m = .error e) :
    (machine p).step s m = (s, .error e) := by
  show committed s _ (s.decide p m) = _
  rw [h]
  rfl

/-- What an answer adds, the rows add. -/
lemma numbers_step (s : WechatSessions) (m : WechatMessage) (key : Canon) :
    ((machine p).step s m).1.numbers key =
      s.numbers key ++ (acceptedNumber key (s, m, ((machine p).step s m).2)).toList := by
  cases hdecide : s.decide p m with
  | error e =>
    rw [step_of_error hdecide]
    exact (append_nil _).symm
  | ok pair =>
    obtain ⟨result, s'⟩ := pair
    rw [step_of_ok hdecide]
    rcases decide_cases hdecide with ⟨row, -, rfl, hduplicate⟩ | ⟨row, hdecided⟩
    · simp [acceptedNumber, Except.toOption, hduplicate]
    · rw [hdecided.numbers]
      simp only [acceptedNumber, Except.toOption, Option.bind_some, hdecided.sessionKey,
        hdecided.first, and_true, hdecided.sequence]
      split
      · rfl
      · rfl

lemma numbers_exec (s : WechatSessions) (messages : List WechatMessage) (key : Canon) :
    ((machine p).exec s messages).numbers key = s.numbers key ++
      ((machine p).trace s messages).filterMap (acceptedNumber key) := by
  induction messages generalizing s with
  | nil => exact (append_nil _).symm
  | cons m messages ih =>
    rw [Machine.exec_cons, ih, numbers_step, Machine.trace, filterMap_cons, append_assoc]
    congr 1
    cases acceptedNumber key (s, m, ((machine p).step s m).2) with
    | none => rfl
    | some n => rfl

/-- An answered message keeps its answer. -/
lemma decide_answered (hp : p.Faithful) (h : s.decide p m = .ok (result, s')) :
    ∃ row, s'.decisions.find m.messageRef = some row ∧ ∀ m', m'.Repeats m →
      replay p m' row = .ok ⟨result.decision.repeated, result.contextToken⟩ := by
  rcases decide_cases h with ⟨row, hrow, rfl, -⟩ | ⟨row, hdecided⟩
  · refine ⟨row, hrow, fun m' hrepeats => ?_⟩
    simp only [decide, hrow, bind_eq_ok, pure_eq_ok, Prod.mk.injEq] at h
    obtain ⟨-, -, _, hreplay, rfl, -⟩ := h
    have hsame : replay p m' row = replay p m row := by
      simp only [replay, readToken, hrepeats.messageRef, hrepeats.messageFingerprint,
        hrepeats.envelopeSha256, hrepeats.sessionKey]
    rw [hsame, hreplay]
    simp only [replay, bind_eq_ok, pure_eq_ok] at hreplay
    obtain ⟨-, -, -, -, token, -, rfl⟩ := hreplay
    rfl
  · refine ⟨row, ?_, hdecided.replayed hp⟩
    rw [hdecided.inserts.find, if_pos hdecided.messageRef]

/-- A stored decision stays. -/
lemma find_decision_exec {ref : String}
    (h : s.decisions.find ref = some row) (messages : List WechatMessage) :
    ((machine p).exec s messages).decisions.find ref = some row := by
  refine Machine.exec_preserves (fun s : WechatSessions => s.decisions.find ref = some row)
    (fun s m h => ?_) h messages
  refine committed_fst (P := fun s' : WechatSessions => s'.decisions.find ref = some row) h
    fun result s' hdecide => ?_
  rcases decide_cases hdecide with ⟨_, -, rfl, -⟩ | ⟨_, hdecided⟩
  · exact h
  · exact hdecided.inserts.find_of_some h

/-- The order of the sessions of a run. -/
structure Orderly (p : DataProtector) (messages : List WechatMessage) : Prop where
  /-- The numbers of the messages that are decided accepted in a session increase strictly. -/
  increasing : ∀ key, (acceptedNumbers p messages key).Pairwise (· < ·)
  /-- A repeated message is answered as it was first, and it changes nothing. -/
  repeated : ∀ pre m mid m' post result, messages = pre ++ m :: (mid ++ m' :: post) →
    ((machine p).step (after p pre) m).2 = .ok result → m'.Repeats m → m'.Timed →
      (machine p).step (after p (pre ++ m :: mid)) m' =
        (after p (pre ++ m :: mid), .ok ⟨result.decision.repeated, result.contextToken⟩)
  /-- A message that is not decided accepted leaves the sessions as they are. -/
  unaccepted : ∀ pre m post result, messages = pre ++ m :: post →
    ((machine p).step (after p pre) m).2 = .ok result → result.decision.classification ≠ .accepted →
        ((machine p).step (after p pre) m).1.sessions = (after p pre).sessions

lemma ordered_exec (h : (machine p).Steps (fun s m => s.regresses m = false) .empty messages) :
    (after p messages).Ordered := by
  refine Machine.exec_preserves_of_steps Ordered (fun s m hordered hregresses => ?_) ordered_empty h
  refine committed_fst (P := Ordered) hordered fun result s' hdecide => ?_
  rcases decide_cases hdecide with ⟨_, -, rfl, -⟩ | ⟨_, hdecided⟩
  · exact hordered
  · exact hordered.decide hregresses hdecided

/-- The sessions of a run are in order when no message falls behind one whose number was wiped
out. -/
theorem exec_orderly (hp : p.Faithful) (messages : List WechatMessage)
    (h : (machine p).Steps (fun s m => s.regresses m = false) .empty messages) :
    Orderly p messages where
  increasing key := by
    have hincreasing := (ordered_exec h).increasing key
    rw [after, numbers_exec] at hincreasing
    exact hincreasing
  repeated pre m mid m' post result _ hanswer hrepeats htimed := by
    obtain ⟨result, s', hdecide, rfl⟩ := committed_answer hanswer
    obtain ⟨row, hrow, hreplay⟩ := decide_answered hp hdecide
    have hlater : (after p (pre ++ m :: mid)).decisions.find m'.messageRef = some row := by
      rw [after, Machine.exec_append, Machine.exec_cons, hrepeats.messageRef]
      refine find_decision_exec ?_ mid
      rw [step_of_ok hdecide]
      exact hrow
    refine step_of_ok ?_
    simp only [decide, hlater, eq_ok_iff]
    exact ⟨Nat.not_lt.mpr htimed, _, hreplay m' hrepeats, rfl⟩
  unaccepted pre m post result _ hanswer hnot := by
    obtain ⟨result, s', hdecide, rfl⟩ := committed_answer hanswer
    rw [step_of_ok hdecide]
    rcases decide_cases hdecide with ⟨_, -, rfl, -⟩ | ⟨_, hdecided⟩
    · rfl
    · exact hdecided.unaccepted hnot

/-- A protector of a single recipient. -/
def sampleProtector : DataProtector where
  protect _ plaintext entropy :=
    if plaintext = py "wx_user" then some (.cons (.text "wx_user") entropy) else none
  unprotect ciphertext entropy :=
    if ciphertext = .cons (.text "wx_user") entropy then some (py "wx_user") else none

lemma sampleProtector_faithful : sampleProtector.Faithful := by
  intro seed plaintext entropy ciphertext h
  simp only [sampleProtector, Option.ite_none_right_eq_some, Option.some.injEq] at h
  obtain ⟨rfl, rfl⟩ := h
  exact if_pos rfl

def sampleMessage (ref : String) (sequence : Option ℕ) : WechatMessage where
  accountId := "account_1"
  senderRef := "wxuser_1"
  conversationScopeHash := .sha256 (.text "conversation")
  messageRef := ref
  messageFingerprint := .sha256 (.text ref)
  envelopeSha256 := .sha256 (.text ref)
  preliminaryClassification := .accepted
  recipientUserId := py "wx_user"
  sequence := sequence
  receivedAtMs := 1
  incomingContextToken := none
  maxCachedTokenAgeMs := 604800000
  seed := 0

theorem exec_orderly_sample :
    Orderly sampleProtector [sampleMessage "wxmsg_1" (some 1), sampleMessage "wxmsg_2" none,
      sampleMessage "wxmsg_3" (some 2)] :=
  exec_orderly sampleProtector_faithful _ ⟨by decide, by decide, by decide, trivial⟩

/-- A numbered message, one without a number, and one with a smaller number. -/
def wipedOut : List WechatMessage :=
  [sampleMessage "wxmsg_1" (some 5), sampleMessage "wxmsg_2" none, sampleMessage "wxmsg_3" (some 3)]

lemma wipedOut_numbers : acceptedNumbers sampleProtector wipedOut
    (sampleMessage "wxmsg_1" none).sessionKey = [5, 3] := by
  decide

/-- The accepted numbers of the session fall. -/
theorem wipedOut_not_orderly : ¬ Orderly sampleProtector wipedOut := by
  intro h
  have hincreasing := h.increasing (sampleMessage "wxmsg_1" none).sessionKey
  rw [wipedOut_numbers] at hincreasing
  exact absurd hincreasing (by decide)

end WechatSessions

end Tiangong.Communication
