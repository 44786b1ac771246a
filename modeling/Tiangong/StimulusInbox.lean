import Mathlib.Algebra.Group.Int.Defs
import Tiangong.Machines
import Tiangong.Tables

/-!
# The stimulus inbox of a life

Stimuli wait in two lanes. A selection claims the first one of a lane, under a token; the claim is
committed or released under the same token. Each call is one transaction.
-/
namespace Tiangong.Stimulus

inductive Lane where
  | foreground | background
  deriving DecidableEq

def Lane.ofText? : String → Option Lane
  | "foreground" => some .foreground
  | "background" => some .background
  | _ => none

inductive RowStatus where
  | pending | selected | committed
  deriving DecidableEq

/-- A row of `stimulus_inbox`. -/
structure StimulusRow where
  enqueueSeq : ℤ
  lifeId : String
  lane : Lane
  basePriority : ℤ
  eventId : String
  payloadSha256 : String
  enqueuedAtMs : ℤ
  selectedAtMs : Option ℤ
  claimToken : Option String
  status : RowStatus
  deriving DecidableEq

namespace StimulusRow

def claimed (claimToken : String) (nowMs : ℤ) (r : StimulusRow) : StimulusRow :=
  { r with status := .selected, selectedAtMs := some nowMs, claimToken := some claimToken }

def done (r : StimulusRow) : StimulusRow := { r with status := .committed }

def freed (r : StimulusRow) : StimulusRow :=
  { r with status := .pending, selectedAtMs := none, claimToken := none }

@[simp] theorem claimed_enqueueSeq (claimToken : String) (nowMs : ℤ) (r : StimulusRow) :
    (r.claimed claimToken nowMs).enqueueSeq = r.enqueueSeq := rfl

@[simp] theorem claimed_eventId (claimToken : String) (nowMs : ℤ) (r : StimulusRow) :
    (r.claimed claimToken nowMs).eventId = r.eventId := rfl

@[simp] theorem done_enqueueSeq (r : StimulusRow) : r.done.enqueueSeq = r.enqueueSeq := rfl

@[simp] theorem done_eventId (r : StimulusRow) : r.done.eventId = r.eventId := rfl

@[simp] theorem freed_enqueueSeq (r : StimulusRow) : r.freed.enqueueSeq = r.enqueueSeq := rfl

@[simp] theorem freed_eventId (r : StimulusRow) : r.freed.eventId = r.eventId := rfl

/-- `str(row["claim_token"])`. -/
def tokenText (r : StimulusRow) : String := r.claimToken.getD "None"

/-- What no call changes of a row. -/
def stimulus (r : StimulusRow) : ℤ × String × Lane × ℤ × String × String × ℤ :=
  (r.enqueueSeq, r.lifeId, r.lane, r.basePriority, r.eventId, r.payloadSha256, r.enqueuedAtMs)

/-- The order of a lane: the higher priority first, then the older one. -/
def ahead (r r' : StimulusRow) : Bool :=
  r'.basePriority < r.basePriority ∨
    (r.basePriority = r'.basePriority ∧ r.enqueueSeq ≤ r'.enqueueSeq)

theorem ahead_trans (r r' r'' : StimulusRow) (h : r.ahead r' = true) (h' : r'.ahead r'' = true) :
    r.ahead r'' = true := by
  simp only [ahead, decide_eq_true_eq] at *
  omega

theorem ahead_total (r r' : StimulusRow) : (r.ahead r' || r'.ahead r) = true := by
  simp only [ahead, Bool.or_eq_true, decide_eq_true_eq]
  omega

end StimulusRow

/-- A row of `cognition_state`. -/
structure CognitionState where
  foregroundStreak : ℕ
  lastSelectedLane : Lane
  updatedAtMs : ℤ
  deriving DecidableEq

/-- The tables. A row has its number, and its event has no other row. -/
structure StimulusInbox where
  rows : IndexedTable StimulusRow.enqueueSeq StimulusRow.eventId
  states : String → Option CognitionState

/-- Why a call raises: `LifeShadowStoreError`, a constraint of a table, an integer that the
database does not hold, or a table without free numbers. -/
inductive StimulusFault where
  | store (message : String)
  | integrity
  | overflow
  | full
  deriving DecidableEq

/-- An integer of the database. -/
def Fits (n : ℤ) : Prop := -2 ^ 63 ≤ n ∧ n < 2 ^ 63

instance decidableFits (n : ℤ) : Decidable (Fits n) := by
  unfold Fits
  infer_instance

namespace StimulusInbox

def empty : StimulusInbox := ⟨.empty, fun _ => none⟩

def pendingRows (s : StimulusInbox) (lifeId : String) (lane : Lane) : List StimulusRow :=
  s.rows.rows.filter fun r => r.lifeId = lifeId ∧ r.lane = lane ∧ r.status = .pending

/-- The first of the pending rows of a lane. -/
def nextOf (s : StimulusInbox) (lifeId : String) (lane : Lane) : Option StimulusRow :=
  ((s.pendingRows lifeId lane).mergeSort StimulusRow.ahead).head?

def streak (s : StimulusInbox) (lifeId : String) : ℕ :=
  ((s.states lifeId).map CognitionState.foregroundStreak).getD 0

/-- The next `AUTOINCREMENT` number. -/
def nextSeq (s : StimulusInbox) : ℤ := (s.rows.rows.map StimulusRow.enqueueSeq).foldr max 0 + 1

def enqueueStimulus (lifeId eventId lane : String) (basePriority : ℤ) (payloadSha256 : String)
    (enqueuedAtMs : ℤ) (coalesce : Bool) (s : StimulusInbox) :
    Except StimulusFault (Bool × StimulusInbox) := do
  let lane ← required (Lane.ofText? lane) (.store "stimulus inbox fields are invalid")
  rejectIf (basePriority < 0 ∨ payloadSha256.length ≠ 64 ∨ enqueuedAtMs < 0)
    (.store "stimulus inbox fields are invalid")
  if ∃ r ∈ s.rows.rows, r.eventId = eventId then pure (false, s)
  else if coalesce = true ∧ lane = .background ∧
      ∃ r ∈ s.pendingRows lifeId .background, r.payloadSha256 = payloadSha256 then pure (false, s)
  else do
    rejectIf (¬ Fits basePriority ∨ ¬ Fits enqueuedAtMs) .overflow
    rejectIf (¬ Fits s.nextSeq) .full
    let rows ← s.rows.insert .integrity ⟨s.nextSeq, lifeId, lane, basePriority, eventId,
      payloadSha256, enqueuedAtMs, none, none, .pending⟩
    pure (true, { s with rows })

/-- The row that is selected: the background gets its turn after so many of the foreground. -/
def chosen (maxForegroundStreak : ℕ) (lifeId : String) (s : StimulusInbox) : Option StimulusRow :=
  match s.nextOf lifeId .foreground, s.nextOf lifeId .background with
  | some foreground, some background =>
    if maxForegroundStreak ≤ s.streak lifeId then some background else some foreground
  | some foreground, none => some foreground
  | none, found => found

/-- The tables after a selection. -/
def claim (lifeId claimToken : String) (nowMs : ℤ) (r : StimulusRow) (s : StimulusInbox) :
    StimulusInbox where
  rows := s.rows.update (fun r' => r'.enqueueSeq = r.enqueueSeq && r'.status = .pending)
    (StimulusRow.claimed claimToken nowMs) (StimulusRow.claimed_enqueueSeq claimToken nowMs)
    (StimulusRow.claimed_eventId claimToken nowMs)
  states := Function.update s.states lifeId
    (some ⟨if r.lane = .foreground then s.streak lifeId + 1 else 0, r.lane, nowMs⟩)

def selectNextStimulus (maxForegroundStreak : ℕ) (lifeId claimToken : String) (nowMs : ℤ)
    (s : StimulusInbox) : Except StimulusFault (Option StimulusRow × StimulusInbox) := do
  rejectIf (maxForegroundStreak < 1) (.store "max foreground streak must be positive")
  match s.chosen maxForegroundStreak lifeId with
  | none => pure (none, s)
  | some r => do
    rejectIf (¬ Fits nowMs) .overflow
    rejectIf (nowMs < 0) .integrity
    pure (some r, s.claim lifeId claimToken nowMs r)

def commitStimulus (lifeId : String) (enqueueSeq : ℤ) (claimToken : String) (s : StimulusInbox) :
    Except StimulusFault (Bool × StimulusInbox) := do
  rejectIf (¬ Fits enqueueSeq) .overflow
  let r ← required ((s.rows.find enqueueSeq).filter fun r => r.lifeId = lifeId)
    (.store "stimulus claim token is invalid")
  rejectIf (r.tokenText ≠ claimToken) (.store "stimulus claim token is invalid")
  if r.status = .committed then pure (false, s)
  else pure (true, { s with
    rows := s.rows.update (fun r => r.enqueueSeq = enqueueSeq) StimulusRow.done
      StimulusRow.done_enqueueSeq StimulusRow.done_eventId })

def releaseStimulus (enqueueSeq : ℤ) (claimToken : String) (s : StimulusInbox) :
    Except StimulusFault (Bool × StimulusInbox) := do
  rejectIf (¬ Fits enqueueSeq) .overflow
  pure ((s.rows.find enqueueSeq).any fun r => r.claimToken = some claimToken, { s with
    rows := s.rows.update
      (fun r => r.enqueueSeq = enqueueSeq && r.claimToken = some claimToken) StimulusRow.freed
      StimulusRow.freed_enqueueSeq StimulusRow.freed_eventId })

end StimulusInbox

/-- The calls of the workers. -/
inductive InboxCall where
  | enqueue (lifeId eventId lane : String) (basePriority : ℤ) (payloadSha256 : String)
    (enqueuedAtMs : ℤ) (coalesce : Bool)
  | select (lifeId claimToken : String) (nowMs : ℤ)
  | commit (lifeId : String) (enqueueSeq : ℤ) (claimToken : String)
  | release (enqueueSeq : ℤ) (claimToken : String)

/-- What a call returns: a flag, or the row that is selected. -/
inductive InboxAnswer where
  | flag (value : Bool)
  | row (found : Option StimulusRow)
  deriving DecidableEq

/-- The inbox with a fixed `max_foreground_streak`. -/
def inboxMachine (maxForegroundStreak : ℕ) :
    Machine StimulusInbox InboxCall (Except StimulusFault InboxAnswer) where
  step s
    | .enqueue lifeId eventId lane basePriority payloadSha256 enqueuedAtMs coalesce =>
      committed s InboxAnswer.flag (s.enqueueStimulus lifeId eventId lane basePriority payloadSha256
        enqueuedAtMs coalesce)
    | .select lifeId claimToken nowMs =>
      committed s InboxAnswer.row (s.selectNextStimulus maxForegroundStreak lifeId claimToken nowMs)
    | .commit lifeId enqueueSeq claimToken =>
      committed s InboxAnswer.flag (s.commitStimulus lifeId enqueueSeq claimToken)
    | .release enqueueSeq claimToken =>
      committed s InboxAnswer.flag (s.releaseStimulus enqueueSeq claimToken)

end Tiangong.Stimulus
