import Mathlib.Data.List.Induction
import Tiangong.StimulusInbox

/-!
# Runs of the stimulus inbox

A release does not look at the status of its row, so it takes a committed stimulus back. Without
that each stimulus is served once, and the background is never starved.
-/
open List

namespace Tiangong.Stimulus

namespace StimulusInbox

open StimulusRow

variable {s s' : StimulusInbox}

variable {lifeId : String} {lane : Lane}

lemma mem_pendingRows {r : StimulusRow} : r ∈ s.pendingRows lifeId lane ↔
      r ∈ s.rows.rows ∧ r.lifeId = lifeId ∧ r.lane = lane ∧ r.status = .pending := by
  simp [pendingRows]

lemma nextOf_eq_some {r : StimulusRow} (h : s.nextOf lifeId lane = some r) :
    r ∈ s.pendingRows lifeId lane ∧ ∀ r' ∈ s.pendingRows lifeId lane, r.ahead r' = true := by
  have hsorted := pairwise_mergeSort ahead_trans ahead_total
    (s.pendingRows lifeId lane)
  have hmem : ∀ {r'}, r' ∈ (s.pendingRows lifeId lane).mergeSort ahead ↔
      r' ∈ s.pendingRows lifeId lane := mem_mergeSort
  unfold nextOf at h
  cases hrows : (s.pendingRows lifeId lane).mergeSort ahead with
  | nil => simp [hrows] at h
  | cons first rest =>
    rw [hrows] at h hsorted
    obtain rfl := Option.some.inj h
    refine ⟨hmem.mp (hrows ▸ mem_cons_self), fun r' hr' => ?_⟩
    have hr'' := hmem.mpr hr'
    rw [hrows] at hr''
    rcases mem_cons.mp hr'' with rfl | hrest
    · simpa using ahead_total r' r'
    · exact (pairwise_cons.mp hsorted).1 r' hrest

lemma nextOf_eq_none (h : s.nextOf lifeId lane = none) : s.pendingRows lifeId lane = [] := by
  have hlength : ((s.pendingRows lifeId lane).mergeSort ahead).length =
      (s.pendingRows lifeId lane).length := length_mergeSort _
  rw [nextOf, List.head?_eq_none_iff] at h
  rw [h] at hlength
  exact length_eq_zero_iff.mp hlength.symm

/-- What is selected is the next row of its lane; one of the foreground comes before a background
that waits only as long as the streak is short. -/
lemma chosen_eq_some {maxForegroundStreak : ℕ} {r : StimulusRow}
    (h : s.chosen maxForegroundStreak lifeId = some r) :
    s.nextOf lifeId r.lane = some r ∧ (r.lane = .foreground →
      s.pendingRows lifeId .background ≠ [] → s.streak lifeId < maxForegroundStreak) := by
  have hlane : ∀ {lane}, s.nextOf lifeId lane = some r → r.lane = lane := by
    intro lane hnext
    exact (mem_pendingRows.mp (nextOf_eq_some hnext).1).2.2.1
  unfold chosen at h
  split at h
  · next foreground background hforeground hbackground =>
    split at h
    · obtain rfl := Option.some.inj h
      rw [hlane hbackground]
      exact ⟨hbackground, fun heq => by cases heq⟩
    · next hshort =>
      obtain rfl := Option.some.inj h
      rw [hlane hforeground]
      exact ⟨hforeground, fun _ _ => by omega⟩
  · next foreground hforeground hbackground =>
    obtain rfl := Option.some.inj h
    rw [hlane hforeground]
    exact ⟨hforeground, fun _ hwaits => absurd (nextOf_eq_none hbackground) hwaits⟩
  · next hforeground =>
    rw [hlane h]
    exact ⟨h, fun heq => by cases heq⟩

lemma enqueueStimulus_eq_ok {eventId lane payloadSha256 : String}
    {basePriority enqueuedAtMs : ℤ} {coalesce new : Bool}
    (h : s.enqueueStimulus lifeId eventId lane basePriority payloadSha256 enqueuedAtMs coalesce =
      .ok (new, s')) :
    (new = false ∧ s' = s ∧ ((∃ r ∈ s.rows.rows, r.eventId = eventId) ∨ coalesce = true ∧
      ∃ r ∈ s.pendingRows lifeId .background, r.payloadSha256 = payloadSha256)) ∨
    (new = true ∧ s'.states = s.states ∧ ∃ r, r.eventId = eventId ∧ r.status = .pending ∧
      r.claimToken = none ∧ Fits r.enqueueSeq ∧ s.rows.insert StimulusFault.integrity r =
        .ok s'.rows) := by
  simp only [enqueueStimulus, eq_ok_iff] at h
  obtain ⟨lane', -, -, h⟩ := h
  split at h
  · next hevent =>
    obtain ⟨rfl, rfl⟩ := Prod.mk.inj (pure_eq_ok.mp h)
    exact .inl ⟨rfl, rfl, .inl hevent⟩
  · split at h
    · next hmerged =>
      obtain ⟨rfl, rfl⟩ := Prod.mk.inj (pure_eq_ok.mp h)
      exact .inl ⟨rfl, rfl, .inr ⟨hmerged.1, hmerged.2.2⟩⟩
    · simp only [eq_pair_iff, not_not] at h
      obtain ⟨-, hfits, rows, hinsert, rfl, rfl⟩ := h
      exact .inr ⟨rfl, rfl, _, rfl, rfl, rfl, hfits, hinsert⟩

lemma selectNextStimulus_eq_ok {maxForegroundStreak : ℕ} {claimToken : String} {nowMs : ℤ}
    {found : Option StimulusRow}
    (h : s.selectNextStimulus maxForegroundStreak lifeId claimToken nowMs = .ok (found, s')) :
    (found = none ∧ s' = s) ∨ ∃ r, found = some r ∧ s.chosen maxForegroundStreak lifeId = some r ∧
      s' = s.claim lifeId claimToken nowMs r := by
  simp only [selectNextStimulus, eq_ok_iff] at h
  obtain ⟨-, h⟩ := h
  split at h
  · obtain ⟨rfl, rfl⟩ := Prod.mk.inj (pure_eq_ok.mp h)
    exact .inl ⟨rfl, rfl⟩
  · next r hchosen =>
    simp only [eq_pair_iff] at h
    obtain ⟨-, -, rfl, rfl⟩ := h
    exact .inr ⟨r, rfl, hchosen, rfl⟩

lemma commitStimulus_eq_ok {claimToken : String} {enqueueSeq : ℤ} {new : Bool}
    (h : s.commitStimulus lifeId enqueueSeq claimToken = .ok (new, s')) :
    ∃ r, s.rows.find enqueueSeq = some r ∧ r.lifeId = lifeId ∧ r.tokenText = claimToken ∧
      ((r.status = .committed ∧ new = false ∧ s' = s) ∨
        (r.status ≠ .committed ∧ new = true ∧ s' = { s with
          rows := s.rows.update (fun r => r.enqueueSeq = enqueueSeq) done
            done_enqueueSeq done_eventId })) := by
  simp only [commitStimulus, eq_ok_iff, Option.filter_eq_some_iff, decide_eq_true_eq, not_not] at h
  obtain ⟨-, r, ⟨hfound, hlife⟩, htoken, h⟩ := h
  refine ⟨r, hfound, hlife, htoken, ?_⟩
  split at h
  · next hcommitted =>
    obtain ⟨rfl, rfl⟩ := Prod.mk.inj (pure_eq_ok.mp h)
    exact .inl ⟨hcommitted, rfl, rfl⟩
  · next hopen =>
    obtain ⟨rfl, rfl⟩ := Prod.mk.inj (pure_eq_ok.mp h)
    exact .inr ⟨hopen, rfl, rfl⟩

end StimulusInbox

def claimOf (seq : ℤ) : StimulusInbox × InboxCall × Except StimulusFault InboxAnswer → Option String
  | (_, .select _ claimToken _, .ok (.row (some r))) =>
    if r.enqueueSeq = seq then some claimToken else none
  | _ => none

/-- What a call does to a row. -/
inductive RowMove (s : StimulusInbox) :
    InboxCall → Except StimulusFault InboxAnswer → StimulusRow → StimulusRow → Prop
  | same {call : InboxCall} {answer : Except StimulusFault InboxAnswer} {r : StimulusRow}
    (hother : claimOf r.enqueueSeq (s, call, answer) = none) : RowMove s call answer r r
  | claimed {lifeId claimToken : String} {nowMs : ℤ} {r : StimulusRow}
    (hnext : s.nextOf lifeId r.lane = some r) :
    RowMove s (.select lifeId claimToken nowMs) (.ok (.row (some r))) r (r.claimed claimToken nowMs)
  | done {claimToken : String} {r : StimulusRow} (htoken : r.tokenText = claimToken)
    (hopen : r.status ≠ .committed) :
    RowMove s (.commit r.lifeId r.enqueueSeq claimToken) (.ok (.flag true)) r r.done
  | freed {claimToken : String} {r : StimulusRow} (htoken : r.claimToken = some claimToken) :
    RowMove s (.release r.enqueueSeq claimToken) (.ok (.flag true)) r r.freed

section Step

variable {maxForegroundStreak : ℕ} {s : StimulusInbox} {call : InboxCall}

lemma step_find {seq : ℤ} {r : StimulusRow} (h : s.rows.find seq = some r) :
    ∃ r', ((inboxMachine maxForegroundStreak).step s call).1.rows.find seq = some r' ∧
      RowMove s call ((inboxMachine maxForegroundStreak).step s call).2 r r' := by
  obtain rfl := IndexedTable.key_of_find h
  cases call with
  | enqueue lifeId eventId lane basePriority payloadSha256 enqueuedAtMs coalesce =>
    refine ⟨r, ?_, .same rfl⟩
    simp only [inboxMachine]
    cases hok : s.enqueueStimulus lifeId eventId lane basePriority payloadSha256 enqueuedAtMs
        coalesce with
    | error e => exact h
    | ok pair =>
      obtain ⟨new, s'⟩ := pair
      rcases StimulusInbox.enqueueStimulus_eq_ok hok with
        ⟨-, rfl, -⟩ | ⟨-, -, r', -, -, -, -, hinsert⟩
      · exact h
      · rw [committed, IndexedTable.find_insert hinsert, if_neg, h]
        intro hkey
        rw [← hkey, IndexedTable.insert_fresh hinsert] at h
        cases h
  | select lifeId claimToken nowMs =>
    simp only [inboxMachine]
    cases hok : s.selectNextStimulus maxForegroundStreak lifeId claimToken nowMs with
    | error e => exact ⟨r, h, .same rfl⟩
    | ok pair =>
      obtain ⟨found, s'⟩ := pair
      rcases StimulusInbox.selectNextStimulus_eq_ok hok with ⟨rfl, rfl⟩ | ⟨r', rfl, hchosen, rfl⟩
      · exact ⟨r, h, .same rfl⟩
      · obtain ⟨hnext, -⟩ := StimulusInbox.chosen_eq_some hchosen
        obtain ⟨hmem, -, -, hpending⟩ :=
          StimulusInbox.mem_pendingRows.mp (StimulusInbox.nextOf_eq_some hnext).1
        by_cases hsame : r.enqueueSeq = r'.enqueueSeq
        · have hfound := IndexedTable.find_of_mem hmem
          rw [← hsame, h] at hfound
          obtain rfl := Option.some.inj hfound
          refine ⟨r.claimed claimToken nowMs, ?_, .claimed hnext⟩
          simp [committed, StimulusInbox.claim, IndexedTable.find_update, h, hpending]
        · refine ⟨r, ?_, .same (if_neg (Ne.symm hsame))⟩
          simp [committed, StimulusInbox.claim, IndexedTable.find_update, h, hsame]
  | commit lifeId enqueueSeq claimToken =>
    simp only [inboxMachine]
    cases hok : s.commitStimulus lifeId enqueueSeq claimToken with
    | error e => exact ⟨r, h, .same rfl⟩
    | ok pair =>
      obtain ⟨new, s'⟩ := pair
      obtain ⟨r', hfound, rfl, htoken, ⟨-, -, rfl⟩ | ⟨hopen, rfl, rfl⟩⟩ :=
        StimulusInbox.commitStimulus_eq_ok hok
      · exact ⟨r, h, .same rfl⟩
      · obtain rfl := IndexedTable.key_of_find hfound
        by_cases hsame : r.enqueueSeq = r'.enqueueSeq
        · rw [← hsame, h] at hfound
          obtain rfl := Option.some.inj hfound
          refine ⟨r.done, ?_, .done htoken hopen⟩
          simp [committed, IndexedTable.find_update, h]
        · refine ⟨r, ?_, .same rfl⟩
          simp [committed, IndexedTable.find_update, h, hsame]
  | release enqueueSeq claimToken =>
    simp only [inboxMachine, StimulusInbox.releaseStimulus]
    by_cases hfits : Fits enqueueSeq
    · rw [rejectIf_of_not _ (not_not.mpr hfits)]
      by_cases hmoved : r.enqueueSeq = enqueueSeq ∧ r.claimToken = some claimToken
      · obtain ⟨rfl, htoken⟩ := hmoved
        refine ⟨r.freed, ?_, ?_⟩
        · simp [committed, bind, Except.bind, pure, Except.pure, IndexedTable.find_update, h,
            htoken]
        · simp only [committed, bind, Except.bind, pure, Except.pure, h, Option.any_some, htoken,
            decide_true]
          exact .freed htoken
      · refine ⟨r, ?_, .same rfl⟩
        simp only [committed, bind, Except.bind, pure, Except.pure, IndexedTable.find_update, h,
          Option.map_some, holds_iff]
        rw [if_neg hmoved]
    · refine ⟨r, ?_, .same rfl⟩
      simp [committed, bind, Except.bind, rejectIf, hfits, h]

/-- A new row waits for its selection. -/
lemma step_find_new {seq : ℤ} {r : StimulusRow} (h : s.rows.find seq = none)
    (hnew : ((inboxMachine maxForegroundStreak).step s call).1.rows.find seq = some r) :
    r.status = .pending ∧ r.claimToken = none ∧ Fits r.enqueueSeq := by
  cases call with
  | enqueue lifeId eventId lane basePriority payloadSha256 enqueuedAtMs coalesce =>
    simp only [inboxMachine] at hnew
    cases hok : s.enqueueStimulus lifeId eventId lane basePriority payloadSha256 enqueuedAtMs
        coalesce with
    | error e => simp [hok, committed, h] at hnew
    | ok pair =>
      obtain ⟨new, s'⟩ := pair
      rw [hok] at hnew
      rcases StimulusInbox.enqueueStimulus_eq_ok hok with
        ⟨-, rfl, -⟩ | ⟨-, -, r', -, hpending, hclaim, hfits, hinsert⟩
      · simp [committed, h] at hnew
      · simp only [committed, IndexedTable.find_insert hinsert, h] at hnew
        split at hnew
        · obtain rfl := Option.some.inj hnew
          exact ⟨hpending, hclaim, hfits⟩
        · cases hnew
  | select lifeId claimToken nowMs =>
    simp only [inboxMachine] at hnew
    cases hok : s.selectNextStimulus maxForegroundStreak lifeId claimToken nowMs with
    | error e => simp [hok, committed, h] at hnew
    | ok pair =>
      obtain ⟨found, s'⟩ := pair
      rw [hok] at hnew
      rcases StimulusInbox.selectNextStimulus_eq_ok hok with ⟨rfl, rfl⟩ | ⟨r', rfl, -, rfl⟩
      · simp [committed, h] at hnew
      · simp [committed, StimulusInbox.claim, IndexedTable.find_update, h] at hnew
  | commit lifeId enqueueSeq claimToken =>
    simp only [inboxMachine] at hnew
    cases hok : s.commitStimulus lifeId enqueueSeq claimToken with
    | error e => simp [hok, committed, h] at hnew
    | ok pair =>
      obtain ⟨new, s'⟩ := pair
      rw [hok] at hnew
      obtain ⟨r', -, -, -, ⟨-, -, rfl⟩ | ⟨-, -, rfl⟩⟩ := StimulusInbox.commitStimulus_eq_ok hok
      · simp [committed, h] at hnew
      · simp [committed, IndexedTable.find_update, h] at hnew
  | release enqueueSeq claimToken =>
    by_cases hfits : Fits enqueueSeq
    · simp [inboxMachine, StimulusInbox.releaseStimulus, rejectIf, hfits, committed, bind,
        Except.bind, pure, Except.pure, IndexedTable.find_update, h] at hnew
    · simp [inboxMachine, StimulusInbox.releaseStimulus, rejectIf, hfits, committed, bind,
        Except.bind, h] at hnew

end Step

def afterCalls (maxForegroundStreak : ℕ) (calls : List InboxCall) : StimulusInbox :=
  (inboxMachine maxForegroundStreak).exec .empty calls

/-- What the calls find and return. -/
def record (maxForegroundStreak : ℕ) (calls : List InboxCall) :
    List (StimulusInbox × InboxCall × Except StimulusFault InboxAnswer) :=
  (inboxMachine maxForegroundStreak).trace .empty calls

/-- The token of the latest selection of a row. -/
def lastClaim (maxForegroundStreak : ℕ) (calls : List InboxCall) (seq : ℤ) : Option String :=
  (record maxForegroundStreak calls).reverse.findSome? (claimOf seq)

def isSelection (lifeId : String) (lane : Lane) :
    StimulusInbox × InboxCall × Except StimulusFault InboxAnswer → Bool
  | (_, .select lifeId' _ _, .ok (.row (some r))) => lifeId' = lifeId && r.lane = lane
  | _ => false

/-- Each stimulus is served once, and none starves. -/
structure Serves (maxForegroundStreak : ℕ) (calls : List InboxCall) : Prop where
  oneRow : ∀ s lifeId eventId lane basePriority payloadSha256 enqueuedAtMs coalesce new,
    (s, InboxCall.enqueue lifeId eventId lane basePriority payloadSha256 enqueuedAtMs coalesce,
      Except.ok (InboxAnswer.flag new)) ∈ record maxForegroundStreak calls →
    (∃! r, r ∈ (afterCalls maxForegroundStreak calls).rows.rows ∧ r.eventId = eventId) ∨
      (new = false ∧ coalesce = true ∧
        ∃ r ∈ s.pendingRows lifeId .background, r.payloadSha256 = payloadSha256)
  final : ∀ pre mid post, calls = pre ++ mid ++ post →
    ∀ r ∈ (afterCalls maxForegroundStreak pre).rows.rows, r.status = .committed →
      r ∈ (afterCalls maxForegroundStreak (pre ++ mid)).rows.rows
  once : ∀ pre mid post lifeId lifeId' seq claimToken claimToken',
    calls = pre ++ .commit lifeId seq claimToken :: mid ++ .commit lifeId' seq claimToken' :: post →
    ((inboxMachine maxForegroundStreak).step (afterCalls maxForegroundStreak pre)
      (.commit lifeId seq claimToken)).2 = .ok (.flag true) →
    ((inboxMachine maxForegroundStreak).step (afterCalls maxForegroundStreak
      (pre ++ .commit lifeId seq claimToken :: mid)) (.commit lifeId' seq claimToken')).2 ≠
        .ok (.flag true)
  holder : ∀ pre post lifeId seq claimToken, calls = pre ++ .commit lifeId seq claimToken :: post →
    ((inboxMachine maxForegroundStreak).step (afterCalls maxForegroundStreak pre)
      (.commit lifeId seq claimToken)).2 = .ok (.flag true) →
    lastClaim maxForegroundStreak pre seq = some claimToken
  kept : ∀ pre post, calls = pre ++ post → ∀ r ∈ (afterCalls maxForegroundStreak pre).rows.rows,
      ∃ r' ∈ (afterCalls maxForegroundStreak calls).rows.rows, r'.stimulus = r.stimulus
  highest : ∀ s lifeId claimToken nowMs r,
    (s, InboxCall.select lifeId claimToken nowMs, Except.ok (InboxAnswer.row (some r))) ∈
      record maxForegroundStreak calls →
    r ∈ s.pendingRows lifeId r.lane ∧ ∀ r' ∈ s.pendingRows lifeId r.lane, r.ahead r' = true
  fair : ∀ pre mid post lifeId, calls = pre ++ mid ++ post →
    (∀ part rest, mid = part ++ rest → rest ≠ [] →
      (afterCalls maxForegroundStreak (pre ++ part)).pendingRows lifeId .background ≠ []) →
    ((inboxMachine maxForegroundStreak).trace (afterCalls maxForegroundStreak pre) mid).countP
      (isSelection lifeId .background) = 0 →
    ((inboxMachine maxForegroundStreak).trace (afterCalls maxForegroundStreak pre) mid).countP
      (isSelection lifeId .foreground) ≤ maxForegroundStreak

/-- A call that does not take a committed stimulus back, nor commits a pending one under the text
of an absent token. -/
def Respects (maxForegroundStreak : ℕ) (pre : List InboxCall) : InboxCall → Prop
  | .release seq claimToken => ∀ r ∈ (afterCalls maxForegroundStreak pre).rows.rows,
    r.enqueueSeq = seq → r.claimToken = some claimToken → r.status ≠ .committed
  | .commit lifeId seq claimToken => ∀ r ∈ (afterCalls maxForegroundStreak pre).rows.rows,
    r.enqueueSeq = seq → r.lifeId = lifeId → r.status = .pending → claimToken = "None" →
      lastClaim maxForegroundStreak pre seq = some "None"
  | _ => True

section Run

variable {maxForegroundStreak : ℕ}

lemma afterCalls_append (calls calls' : List InboxCall) :
    afterCalls maxForegroundStreak (calls ++ calls') =
      (inboxMachine maxForegroundStreak).exec (afterCalls maxForegroundStreak calls) calls' :=
  (inboxMachine maxForegroundStreak).exec_append .empty calls calls'

lemma afterCalls_concat (calls : List InboxCall) (call : InboxCall) :
    afterCalls maxForegroundStreak (calls ++ [call]) =
      ((inboxMachine maxForegroundStreak).step (afterCalls maxForegroundStreak calls) call).1 :=
  (inboxMachine maxForegroundStreak).exec_concat .empty calls call

lemma record_concat (calls : List InboxCall) (call : InboxCall) :
    record maxForegroundStreak (calls ++ [call]) = record maxForegroundStreak calls ++
      [(afterCalls maxForegroundStreak calls, call,
        ((inboxMachine maxForegroundStreak).step (afterCalls maxForegroundStreak calls) call).2)] :=
  (inboxMachine maxForegroundStreak).trace_append .empty calls [call]

lemma lastClaim_concat (calls : List InboxCall) (call : InboxCall) (seq : ℤ) :
    lastClaim maxForegroundStreak (calls ++ [call]) seq =
      (claimOf seq (afterCalls maxForegroundStreak calls, call,
        ((inboxMachine maxForegroundStreak).step (afterCalls maxForegroundStreak calls) call).2)).or
          (lastClaim maxForegroundStreak calls seq) := by
  rw [lastClaim, record_concat, reverse_append, reverse_singleton, singleton_append,
    List.findSome?_cons]
  cases claimOf seq _ with
  | none => rfl
  | some claimToken => rfl

/-- What a row tells of its selections. -/
def Claimed (maxForegroundStreak : ℕ) (calls : List InboxCall) (r : StimulusRow) : Prop :=
  Fits r.enqueueSeq ∧ (r.status = .pending → r.claimToken = none) ∧
    (r.status = .selected → ∃ claimToken, r.claimToken = some claimToken ∧
      lastClaim maxForegroundStreak calls r.enqueueSeq = some claimToken)

variable {calls : List InboxCall} {r : StimulusRow}

/-- A call moves a row so that it tells of its selections. -/
theorem Claimed.move {call : InboxCall} {r' : StimulusRow} (h : Claimed maxForegroundStreak calls r)
    (hmove : RowMove (afterCalls maxForegroundStreak calls) call
      ((inboxMachine maxForegroundStreak).step (afterCalls maxForegroundStreak calls) call).2
        r r') :
    Claimed maxForegroundStreak (calls ++ [call]) r' := by
  obtain ⟨hfits, hpending, hselected⟩ := h
  unfold Claimed
  rw [lastClaim_concat]
  generalize ((inboxMachine maxForegroundStreak).step (afterCalls maxForegroundStreak calls)
    call).2 = answer at hmove ⊢
  cases hmove with
  | same hother =>
    rw [hother]
    exact ⟨hfits, hpending, hselected⟩
  | claimed hnext =>
    refine ⟨hfits, ?_, ?_⟩
    · intro h
      cases h
    · intro _
      exact ⟨_, rfl, by simp [claimOf]⟩
  | done htoken hopen =>
    refine ⟨hfits, ?_, ?_⟩
    · intro h
      cases h
    · intro h
      cases h
  | freed htoken =>
    refine ⟨hfits, fun _ => rfl, ?_⟩
    intro h
    cases h

/-- Every row tells of its selections. -/
lemma claimed_of_mem (h : r ∈ (afterCalls maxForegroundStreak calls).rows.rows) :
    Claimed maxForegroundStreak calls r := by
  induction calls using List.reverseRecOn generalizing r with
  | nil => cases h
  | append_singleton calls call ih =>
    have hfound := IndexedTable.find_of_mem h
    rw [afterCalls_concat] at hfound
    cases hbefore : (afterCalls maxForegroundStreak calls).rows.find r.enqueueSeq with
    | none =>
      obtain ⟨hpending, hclaim, hfits⟩ := step_find_new hbefore hfound
      refine ⟨hfits, fun _ => hclaim, ?_⟩
      intro hselected
      rw [hpending] at hselected
      cases hselected
    | some r' =>
      obtain ⟨r'', hfound', hmove⟩ := @step_find maxForegroundStreak _ call _ _ hbefore
      obtain rfl := Option.some.inj (hfound.symm.trans hfound')
      have hkey := IndexedTable.key_of_find hbefore
      rw [← hkey] at hbefore
      exact (ih (IndexedTable.mem_of_find hbefore)).move hmove

lemma RowMove.stimulus_eq {s : StimulusInbox} {call : InboxCall}
    {answer : Except StimulusFault InboxAnswer} {r' : StimulusRow}
    (h : RowMove s call answer r r') :
    r'.stimulus = r.stimulus := by
  cases h <;> rfl

/-- A row is never lost. -/
lemma exec_kept {s : StimulusInbox} {r : StimulusRow} (h : r ∈ s.rows.rows)
    (calls : List InboxCall) :
    ∃ r' ∈ ((inboxMachine maxForegroundStreak).exec s calls).rows.rows,
      r'.stimulus = r.stimulus := by
  induction calls generalizing s r with
  | nil => exact ⟨r, h, rfl⟩
  | cons call calls ih =>
    obtain ⟨r', hfound, hmove⟩ := @step_find maxForegroundStreak _ call _ _
      (IndexedTable.find_of_mem h)
    obtain ⟨r'', hmem, hsame⟩ := ih (IndexedTable.mem_of_find hfound)
    exact ⟨r'', hmem, hsame.trans hmove.stimulus_eq⟩

/-- The row of an event stays its only one. -/
lemma exec_oneRow {s : StimulusInbox} (h : r ∈ s.rows.rows) (calls : List InboxCall) :
    ∃! r', r' ∈ ((inboxMachine maxForegroundStreak).exec s calls).rows.rows ∧
      r'.eventId = r.eventId := by
  obtain ⟨r', hmem, hsame⟩ := @exec_kept maxForegroundStreak _ _ h calls
  simp only [StimulusRow.stimulus, Prod.mk.injEq] at hsame
  refine ⟨r', ⟨hmem, hsame.2.2.2.2.1⟩, ?_⟩
  rintro r'' ⟨hmem', hevent⟩
  exact Table.Unique.eq ((inboxMachine maxForegroundStreak).exec s calls).rows.unique hmem' hmem
    (hevent.trans hsame.2.2.2.2.1.symm)

lemma committed_stays {call : InboxCall}
    (h : r ∈ (afterCalls maxForegroundStreak calls).rows.rows) (hstatus : r.status = .committed)
    (hrespects : Respects maxForegroundStreak calls call) :
    r ∈ (afterCalls maxForegroundStreak (calls ++ [call])).rows.rows := by
  obtain ⟨r', hfound, hmove⟩ := @step_find maxForegroundStreak _ call _ _
    (IndexedTable.find_of_mem h)
  rw [afterCalls_concat]
  have hmem := IndexedTable.mem_of_find hfound
  generalize ((inboxMachine maxForegroundStreak).step (afterCalls maxForegroundStreak calls)
    call).2 = answer at hmove
  cases hmove with
  | same hother => exact hmem
  | claimed hnext =>
    have hpending := (StimulusInbox.mem_pendingRows.mp (StimulusInbox.nextOf_eq_some hnext).1).2.2.2
    rw [hstatus] at hpending
    cases hpending
  | done htoken hopen => exact absurd hstatus hopen
  | freed htoken => exact absurd hstatus (hrespects r h rfl htoken)

variable {claimToken : String}

/-- A commit that returns true has found its row open, and leaves it committed. -/
lemma commit_true {lifeId : String} {seq : ℤ}
    (h : ((inboxMachine maxForegroundStreak).step (afterCalls maxForegroundStreak calls)
      (.commit lifeId seq claimToken)).2 = .ok (.flag true)) :
    ∃ r ∈ (afterCalls maxForegroundStreak calls).rows.rows, r.enqueueSeq = seq ∧
      r.lifeId = lifeId ∧ r.tokenText = claimToken ∧ r.status ≠ .committed ∧
      r.done ∈ (afterCalls maxForegroundStreak
        (calls ++ [.commit lifeId seq claimToken])).rows.rows := by
  rw [afterCalls_concat]
  simp only [inboxMachine] at h ⊢
  obtain ⟨new, s', hok, hflag⟩ := committed_answer h
  obtain rfl : new = true := by simpa using hflag
  obtain ⟨r, hfound, hlife, htoken, ⟨-, hfalse, -⟩ | ⟨hopen, -, rfl⟩⟩ :=
    StimulusInbox.commitStimulus_eq_ok hok
  · cases hfalse
  · refine ⟨r, IndexedTable.mem_of_find hfound, IndexedTable.key_of_find hfound, hlife, htoken,
      hopen, ?_⟩
    rw [hok]
    apply IndexedTable.mem_of_find (k := seq)
    simp [committed, IndexedTable.find_update, hfound, IndexedTable.key_of_find hfound]

/-- A selection of the foreground makes the streak longer, one of the background ends it, and no
other call of the life touches it. -/
lemma streak_step {s : StimulusInbox} {call : InboxCall} {lifeId : String}
    (hwaits : s.pendingRows lifeId .background ≠ []) :
    let entry := (s, call, ((inboxMachine maxForegroundStreak).step s call).2)
    let s' := ((inboxMachine maxForegroundStreak).step s call).1
    isSelection lifeId .background entry = true ∨
      (isSelection lifeId .foreground entry = true ∧ s.streak lifeId < maxForegroundStreak ∧
        s'.streak lifeId = s.streak lifeId + 1) ∨
      (isSelection lifeId .foreground entry = false ∧ s'.streak lifeId = s.streak lifeId) := by
  cases call with
  | enqueue lifeId' eventId lane basePriority payloadSha256 enqueuedAtMs coalesce =>
    refine .inr (.inr ⟨rfl, ?_⟩)
    simp only [inboxMachine]
    cases hok : s.enqueueStimulus lifeId' eventId lane basePriority payloadSha256 enqueuedAtMs
        coalesce with
    | error e => rfl
    | ok pair =>
      obtain ⟨new, s'⟩ := pair
      rcases StimulusInbox.enqueueStimulus_eq_ok hok with ⟨-, rfl, -⟩ | ⟨-, hstates, -⟩
      · rfl
      · simp only [committed, StimulusInbox.streak, hstates]
  | select lifeId' claimToken nowMs =>
    simp only [inboxMachine]
    cases hok : s.selectNextStimulus maxForegroundStreak lifeId' claimToken nowMs with
    | error e => exact .inr (.inr ⟨rfl, rfl⟩)
    | ok pair =>
      obtain ⟨found, s'⟩ := pair
      rcases StimulusInbox.selectNextStimulus_eq_ok hok with ⟨rfl, rfl⟩ | ⟨r, rfl, hchosen, rfl⟩
      · exact .inr (.inr ⟨rfl, rfl⟩)
      · by_cases hlife : lifeId' = lifeId
        · subst hlife
          cases hlane : r.lane with
          | background =>
            left
            simp [committed, isSelection, hlane]
          | foreground =>
            have hshort := (StimulusInbox.chosen_eq_some hchosen).2 hlane hwaits
            refine .inr (.inl ⟨by simp [committed, isSelection, hlane], hshort, ?_⟩)
            simp [committed, StimulusInbox.claim, StimulusInbox.streak, hlane]
        · refine .inr (.inr ⟨by simp [committed, isSelection, hlife], ?_⟩)
          simp [committed, StimulusInbox.claim, StimulusInbox.streak,
            Function.update_of_ne (Ne.symm hlife)]
  | commit lifeId' enqueueSeq claimToken =>
    refine .inr (.inr ⟨rfl, ?_⟩)
    simp only [inboxMachine]
    cases hok : s.commitStimulus lifeId' enqueueSeq claimToken with
    | error e => rfl
    | ok pair =>
      obtain ⟨new, s'⟩ := pair
      obtain ⟨r, -, -, -, ⟨-, -, rfl⟩ | ⟨-, -, rfl⟩⟩ := StimulusInbox.commitStimulus_eq_ok hok
      · rfl
      · rfl
  | release enqueueSeq claimToken =>
    refine .inr (.inr ⟨rfl, ?_⟩)
    simp only [inboxMachine, StimulusInbox.releaseStimulus]
    by_cases hfits : Fits enqueueSeq
    · rw [rejectIf_of_not _ (not_not.mpr hfits)]
      rfl
    · simp [rejectIf, hfits, committed, bind, Except.bind]

/-- While a stimulus of the background waits, so many selections of the foreground come first. -/
lemma foreground_le {s : StimulusInbox} {lifeId : String}
    (hwaits : ∀ part rest, calls = part ++ rest → rest ≠ [] →
      ((inboxMachine maxForegroundStreak).exec s part).pendingRows lifeId .background ≠ [])
    (hnone : ((inboxMachine maxForegroundStreak).trace s calls).countP
      (isSelection lifeId .background) = 0) :
    ((inboxMachine maxForegroundStreak).trace s calls).countP (isSelection lifeId .foreground) = 0 ∨
      s.streak lifeId + ((inboxMachine maxForegroundStreak).trace s calls).countP
        (isSelection lifeId .foreground) ≤ maxForegroundStreak := by
  induction calls generalizing s with
  | nil => exact .inl rfl
  | cons call calls ih =>
    have hwaiting : s.pendingRows lifeId .background ≠ [] :=
      hwaits [] (call :: calls) rfl (cons_ne_nil _ _)
    have hstep := @streak_step maxForegroundStreak s call lifeId hwaiting
    dsimp only at hstep
    rw [Machine.trace, countP_cons] at hnone
    have hrest := ih (s := ((inboxMachine maxForegroundStreak).step s call).1)
      (fun part rest heq hne => hwaits (call :: part) rest (by rw [heq]; rfl) hne) (by omega)
    rw [Machine.trace, countP_cons]
    rcases hstep with hback | ⟨hfore, hshort, hnext⟩ | ⟨hother, hnext⟩
    · rw [hback] at hnone
      simp at hnone
    · rw [hfore]
      rw [hnext] at hrest
      simp only [if_true]
      omega
    · rw [hother]
      rw [hnext] at hrest
      simpa using hrest

/-- Calls that respect the committed rows, up to a place of the run. -/
lemma committed_final {pre : List InboxCall}
    (h : r ∈ (afterCalls maxForegroundStreak pre).rows.rows) (hstatus : r.status = .committed)
    {mid : List InboxCall} (hrespects : ∀ part call rest, mid = part ++ call :: rest →
      Respects maxForegroundStreak (pre ++ part) call) :
    r ∈ (afterCalls maxForegroundStreak (pre ++ mid)).rows.rows := by
  induction mid using List.reverseRecOn with
  | nil => rwa [append_nil]
  | append_singleton mid call ih =>
    have hbefore : r ∈ (afterCalls maxForegroundStreak (pre ++ mid)).rows.rows := by
      apply ih
      intro part call' rest heq
      exact hrespects part call' (rest ++ [call]) (by rw [heq, append_assoc]; rfl)
    rw [← append_assoc]
    exact committed_stays hbefore hstatus (hrespects mid call [] rfl)

/-- The token of a commit that returns true is that of the latest selection. -/
lemma commit_holder {lifeId : String} {seq : ℤ}
    (h : ((inboxMachine maxForegroundStreak).step (afterCalls maxForegroundStreak calls)
      (.commit lifeId seq claimToken)).2 = .ok (.flag true))
    (hrespects : Respects maxForegroundStreak calls (.commit lifeId seq claimToken)) :
    lastClaim maxForegroundStreak calls seq = some claimToken := by
  obtain ⟨r, hmem, rfl, hlife, htoken, hopen, -⟩ := commit_true h
  obtain ⟨-, hpending, hselected⟩ := claimed_of_mem hmem
  cases hstatus : r.status with
  | pending =>
    rw [StimulusRow.tokenText, hpending hstatus] at htoken
    obtain rfl : "None" = claimToken := htoken
    exact hrespects r hmem rfl hlife hstatus rfl
  | selected =>
    obtain ⟨claimToken', hclaim, hlast⟩ := hselected hstatus
    rw [StimulusRow.tokenText, hclaim] at htoken
    obtain rfl : claimToken' = claimToken := htoken
    exact hlast
  | committed => exact absurd hstatus hopen

/-- An event that a call has put in has one row, unless it was merged. -/
lemma enqueue_oneRow {s : StimulusInbox}
    {lifeId eventId lane payloadSha256 : String} {basePriority enqueuedAtMs : ℤ}
    {coalesce new : Bool}
    (h : (s, InboxCall.enqueue lifeId eventId lane basePriority payloadSha256 enqueuedAtMs coalesce,
      Except.ok (InboxAnswer.flag new)) ∈ record maxForegroundStreak calls) :
    (∃! r, r ∈ (afterCalls maxForegroundStreak calls).rows.rows ∧ r.eventId = eventId) ∨
      (new = false ∧ coalesce = true ∧
        ∃ r ∈ s.pendingRows lifeId .background, r.payloadSha256 = payloadSha256) := by
  obtain ⟨pre, call, post, rfl, heq⟩ := (inboxMachine maxForegroundStreak).mem_trace.mp h
  simp only [Prod.mk.injEq] at heq
  obtain ⟨rfl, rfl, hanswer⟩ := heq
  obtain ⟨new', s', hok, hflag⟩ := committed_answer hanswer.symm
  obtain rfl : new' = new := by simpa using hflag
  have hnext : afterCalls maxForegroundStreak (pre ++ InboxCall.enqueue lifeId eventId lane
      basePriority payloadSha256 enqueuedAtMs coalesce :: post) =
        (inboxMachine maxForegroundStreak).exec s' post := by
    rw [afterCalls_append, Machine.exec_cons]
    simp only [inboxMachine]
    rw [afterCalls, hok]
    rfl
  rw [hnext]
  rcases StimulusInbox.enqueueStimulus_eq_ok hok with
    ⟨rfl, rfl, ⟨r, hr, rfl⟩ | ⟨hcoalesce, hmerged⟩⟩ | ⟨-, -, r, rfl, -, -, -, hinsert⟩
  · exact .inl (exec_oneRow hr post)
  · exact .inr ⟨rfl, hcoalesce, hmerged⟩
  · left
    apply exec_oneRow
    rw [IndexedTable.insert_rows hinsert]
    exact mem_append_right _ mem_cons_self

lemma release_committed (hmem : r ∈ (afterCalls maxForegroundStreak calls).rows.rows)
    (htoken : r.claimToken = some claimToken) (hstatus : r.status = .committed) :
    r ∉ (afterCalls maxForegroundStreak
      (calls ++ [.release r.enqueueSeq claimToken])).rows.rows := by
  have hfits := (claimed_of_mem hmem).1
  have hfound := IndexedTable.find_of_mem hmem
  have hfreed : (afterCalls maxForegroundStreak (calls ++
      [.release r.enqueueSeq claimToken])).rows.find r.enqueueSeq = some r.freed := by
    rw [afterCalls_concat]
    simp [inboxMachine, StimulusInbox.releaseStimulus, rejectIf, hfits, committed, bind,
      Except.bind, pure, Except.pure, IndexedTable.find_update, hfound, htoken]
  intro hstays
  have hsame := IndexedTable.find_of_mem hstays
  rw [hfreed] at hsame
  have hpending := congrArg StimulusRow.status (Option.some.inj hsame)
  rw [hstatus] at hpending
  cases hpending

/-- A commit of a pending row under the text of an absent token. -/
lemma commit_pending
    (hmem : r ∈ (afterCalls maxForegroundStreak calls).rows.rows) (hstatus : r.status = .pending) :
    ((inboxMachine maxForegroundStreak).step (afterCalls maxForegroundStreak calls)
      (.commit r.lifeId r.enqueueSeq "None")).2 = .ok (.flag true) := by
  obtain ⟨hfits, hpending, -⟩ := claimed_of_mem hmem
  have hfound := IndexedTable.find_of_mem hmem
  simp [inboxMachine, StimulusInbox.commitStimulus, rejectIf, required, hfits, committed, bind,
    Except.bind, pure, Except.pure, hfound, Option.filter, StimulusRow.tokenText,
    hpending hstatus, hstatus]

/-- Every stimulus is served once, exactly if no release names a committed row and no commit a
pending one. -/
theorem stimulus_served_once (maxForegroundStreak : ℕ) (calls : List InboxCall) :
    Serves maxForegroundStreak calls ↔
      ∀ pre call post, calls = pre ++ call :: post → Respects maxForegroundStreak pre call := by
  constructor
  · intro h pre call post heq
    cases call with
    | enqueue => trivial
    | select => trivial
    | commit lifeId seq claimToken =>
      rintro r hmem rfl rfl hstatus rfl
      exact h.holder pre post _ _ _ heq (commit_pending hmem hstatus)
    | release seq claimToken =>
      rintro r hmem rfl htoken hstatus
      apply release_committed hmem htoken hstatus
      exact h.final pre [.release r.enqueueSeq claimToken] post (by rw [heq]; simp) r hmem hstatus
  · intro h
    have hfinal : ∀ pre mid post, calls = pre ++ mid ++ post →
        ∀ r ∈ (afterCalls maxForegroundStreak pre).rows.rows, r.status = .committed →
          r ∈ (afterCalls maxForegroundStreak (pre ++ mid)).rows.rows := by
      intro pre mid post heq r hmem hstatus
      apply committed_final hmem hstatus
      rintro part call rest rfl
      exact h (pre ++ part) call (rest ++ post) (by rw [heq]; simp)
    refine ⟨?_, hfinal, ?_, ?_, ?_, ?_, ?_⟩
    · intro s lifeId eventId lane basePriority payloadSha256 enqueuedAtMs coalesce new hentry
      exact enqueue_oneRow hentry
    · intro pre mid post lifeId lifeId' seq claimToken claimToken' heq hfirst hsecond
      obtain ⟨r, -, hseq, -, -, -, hdone⟩ := commit_true hfirst
      obtain ⟨r', hmem', hseq', -, -, hopen, -⟩ := commit_true hsecond
      have hstays := hfinal (pre ++ [.commit lifeId seq claimToken]) mid
        (.commit lifeId' seq claimToken' :: post) (by rw [heq]; simp) r.done hdone rfl
      rw [append_assoc, singleton_append] at hstays
      have hsame : r' = r.done := Table.eq_of_key_eq _ hmem' hstays (hseq'.trans hseq.symm)
      exact hopen (congrArg StimulusRow.status hsame)
    · intro pre post lifeId seq claimToken heq hanswer
      exact commit_holder hanswer (h pre _ post heq)
    · rintro pre post rfl r hmem
      rw [afterCalls_append]
      exact exec_kept hmem post
    · intro s lifeId claimToken nowMs r hentry
      obtain ⟨pre, call, post, -, heq⟩ := (inboxMachine maxForegroundStreak).mem_trace.mp hentry
      simp only [Prod.mk.injEq] at heq
      obtain ⟨rfl, rfl, hanswer⟩ := heq
      obtain ⟨found, s', hok, hrow⟩ := committed_answer hanswer.symm
      obtain rfl : found = some r := by simpa using hrow
      rcases StimulusInbox.selectNextStimulus_eq_ok hok with ⟨hnone, -⟩ | ⟨r', hsome, hchosen, -⟩
      · cases hnone
      · obtain rfl := Option.some.inj hsome
        exact StimulusInbox.nextOf_eq_some (StimulusInbox.chosen_eq_some hchosen).1
    · intro pre mid post lifeId heq hwaits hnone
      have hwaiting : ∀ part rest, mid = part ++ rest → rest ≠ [] →
          ((inboxMachine maxForegroundStreak).exec (afterCalls maxForegroundStreak pre)
            part).pendingRows lifeId .background ≠ [] := by
        intro part rest hsplit hne
        rw [← afterCalls_append]
        exact hwaits part rest hsplit hne
      have hcount := foreground_le hwaiting hnone
      omega

/-- A stimulus that is served, taken back and served again. -/
theorem stimulus_served_twice : ¬ Serves 8 [
    .enqueue "life" "event" "foreground" 1
      "0000000000000000000000000000000000000000000000000000000000000000" 1 false,
    .select "life" "worker" 2, .commit "life" 1 "worker", .release 1 "worker",
    .select "life" "other" 3, .commit "life" 1 "other"] := by
  intro h
  exact h.once [
    .enqueue "life" "event" "foreground" 1
      "0000000000000000000000000000000000000000000000000000000000000000" 1 false,
    .select "life" "worker" 2] [.release 1 "worker", .select "life" "other" 3] []
    "life" "life" 1 "worker" "other" rfl (by decide +kernel) (by decide +kernel)

end Run

end Tiangong.Stimulus
