import Tiangong.KeyedChains
import Tiangong.WorldStatePromises

/-!
# Chains of world cuts

The snapshots that a stream accepted over a run, of which each was compared with the one before.
A source that a cut leaves out and a later one carries again is compared with nothing.
-/
open List

namespace Tiangong

namespace WorldStateStore

variable {s s' : WorldStateStore} {key : StreamKey} {snapshot : MaterializedWorldSnapshot}

/-- The snapshot of a step that the stream accepted. -/
def acceptance (key : StreamKey) :
    WorldStateStore × Op × Except WorldStateError Reply → Option MaterializedWorldSnapshot
  | (_, .publish _ snapshot, .ok _) => if snapshot.streamKey = key then some snapshot else none
  | _ => none

def accepted (key : StreamKey) (s : WorldStateStore) (ops : List Op) :
    List MaterializedWorldSnapshot :=
  (machine.trace s ops).filterMap (acceptance key)

lemma accepted_concat (key : StreamKey) (s : WorldStateStore) (ops : List Op) (op : Op) :
    accepted key s (ops ++ [op]) = accepted key s ops ++ (acceptance key (machine.exec s ops, op,
        (machine.step (machine.exec s ops) op).2)).toList := by
  rw [accepted, Machine.trace_append, filterMap_append, accepted]
  rw [Machine.trace, Machine.trace]
  cases hlast : acceptance key (machine.exec s ops, op, (machine.step (machine.exec s ops) op).2) with
  | none => rw [filterMap_cons_none hlast]; rfl
  | some snapshot => rw [filterMap_cons_some hlast]; rfl

/-- A head that did not move is read as before. -/
lemma current_eq_of_lookup (hs : s.Sound) (hs' : s'.Sound)
    (hlookup : s'.memory.current.lookup key = s.memory.current.lookup key)
    (hholds : ∀ held, s.Holds held → s'.memory.referenced held.id = true → s'.Holds held) :
    ((current key).on s').1 = ((current key).on s).1 := by
  obtain ⟨snapshots, hwindow⟩ := hs.window key
  obtain ⟨snapshots', hwindow'⟩ := hs'.window key
  rw [hwindow.current_eq, hwindow'.current_eq, Except.ok.injEq]
  have hids := hlookup
  rw [hwindow.current, hwindow'.current] at hids
  cases hlast : snapshots.getLast? with
  | none =>
    rw [hlast, Option.map_none, Option.map_eq_none_iff] at hids
    exact hids
  | some a =>
    rw [hlast, Option.map_some, Option.map_eq_some_iff] at hids
    obtain ⟨b, hb, hid⟩ := hids
    have ha := (hwindow.held a (mem_of_getLast? hlast)).1
    have hb' := (hwindow'.held b (mem_of_getLast? hb)).1
    have href := hwindow'.referenced (mem_of_getLast? hb)
    rw [hb, (hholds a ha (by rw [← hid]; exact href)).unique hb' hid.symm]

/-- What an accepted publication followed, and what it left. -/
lemma publish_accepted {faults : StoreFaults} {old : Option MaterializedWorldSnapshot}
    (hold : ((current snapshot.streamKey).on s).1 = .ok old)
    {answer : MaterializedWorldSnapshot} (h : ((publish faults snapshot).on s).1 = .ok answer) :
    mayFollow snapshot old = .ok () ∧ ((publish faults snapshot).on s).2.Holds snapshot := by
  unfold publish at h ⊢
  rw [Call.on_bind] at h ⊢
  have hreads := checkPublication_reads snapshot s
  rcases hcheck : (checkPublication snapshot).on s with ⟨e | _, t⟩
  · simp [hcheck] at h
  · simp only [hcheck] at h hreads ⊢
    obtain ⟨old', hpublishable⟩ := checkPublication_eq_ok hcheck
    have hsame : old' = old := by
      have hhead := hpublishable.head
      rw [hold, Except.ok.injEq] at hhead
      exact hhead.symm
    subst hsame
    refine ⟨hpublishable.follows, ?_⟩
    rw [Call.on_bind] at h ⊢
    rcases commitPublication_cases faults snapshot t with heq | ⟨-, heq⟩ | ⟨t', hentered, heq⟩
    · simp [heq] at h
    · simp [heq] at h
    · rw [heq]
      have hprunes := (foldl_evict_prunes (evicted t.limits t.memory snapshot) t').1
      refine hprunes.holds (hentered.holds_new hpublishable.valid) ?_
      rw [StoreMemory.referenced_iff]
      refine .inl ⟨snapshot.streamKey, ?_⟩
      rw [hentered.current, proposed, AList.lookup_insert]

lemma acceptance_eq_some {op : Op} {answer : Except WorldStateError Reply}
    (h : acceptance key (s, op, answer) = some snapshot) :
    snapshot.streamKey = key ∧ ∃ faults reply, op = .publish faults snapshot ∧
      answer = .ok reply := by
  cases op with
  | publish faults snapshot' =>
    cases answer with
    | error e => cases h
    | ok reply =>
      by_cases hkey : snapshot'.streamKey = key
      · simp only [acceptance, if_pos hkey, Option.some.injEq] at h
        subst h
        exact ⟨hkey, faults, reply, rfl, rfl⟩
      · simp [acceptance, hkey] at h
  | retainState faults item => cases h
  | releaseRetainedState faults expected => cases h
  | putActiveCognitionRecord faults record => cases h
  | get stateId => cases h
  | reopen => cases h

/-- A step that accepts nothing on a stream leaves its head. -/
lemma head_of_not_accepted (hs : s.Sound) {op : Op} (hspared : Spared s op)
    (hnone : acceptance key (s, op, (machine.step s op).2) = none) :
    (machine.step s op).1.memory.current.lookup key = s.memory.current.lookup key := by
  have hkeeps := step_keeps hs hspared
  cases hanswer : (op.call.on s).1 with
  | error e => exact (hkeeps.raising e hanswer).contents.current key
  | ok reply =>
    have hheads := hkeeps.heads reply hanswer key
    have hstep : (machine.step s op).2 = .ok reply := hanswer
    rw [hstep] at hnone
    refine hheads.trans ?_
    cases op with
    | publish faults snapshot =>
      have hkey : key ≠ snapshot.streamKey := by
        rintro rfl
        simp [acceptance] at hnone
      exact AList.lookup_insert_ne hkey
    | retainState faults item => rfl
    | releaseRetainedState faults expected => rfl
    | putActiveCognitionRecord faults record => rfl
    | get stateId => rfl
    | reopen => rfl

/-- One step: the stream's head is the snapshot that was accepted, or the head before. -/
lemma current_step (hs : s.Sound) {op : Op} (hspared : Spared s op)
    {old : Option MaterializedWorldSnapshot} (hold : ((current key).on s).1 = .ok old) :
    ((current key).on (machine.step s op).1).1 =
        .ok ((acceptance key (s, op, (machine.step s op).2)).or old) ∧
      ∀ snapshot ∈ acceptance key (s, op, (machine.step s op).2),
        mayFollow snapshot old = .ok () := by
  have hkeeps := step_keeps hs hspared
  cases haccepted : acceptance key (s, op, (machine.step s op).2) with
  | none =>
    refine ⟨?_, fun _ hsame => by cases hsame⟩
    rw [Option.none_or, ← hold]
    exact current_eq_of_lookup hs hkeeps.sound (head_of_not_accepted hs hspared haccepted)
      hkeeps.holds
  | some snapshot =>
    obtain ⟨rfl, faults, reply, rfl, hanswer⟩ := acceptance_eq_some haccepted
    have hheads := hkeeps.heads reply hanswer snapshot.streamKey
    rw [headsAfter, AList.lookup_insert] at hheads
    have hon := Call.on_map Reply.published (publish faults snapshot) s
    have hreply : ((publish faults snapshot).on s).1.map Reply.published = .ok reply :=
      (congrArg Prod.fst hon).symm.trans hanswer
    obtain ⟨answer, hpublished, -⟩ := map_eq_ok.mp hreply
    obtain ⟨hfollows, hheld⟩ := publish_accepted hold hpublished
    refine ⟨?_, fun snapshot' hsame => ?_⟩
    · have hafter : (machine.step s (.publish faults snapshot)).1 =
          ((publish faults snapshot).on s).2 := congrArg Prod.snd hon
      rw [hafter]
      have hcurrent : ((publish faults snapshot).on s).2.memory.current.lookup
          snapshot.streamKey = some snapshot.id := by
        rw [← hafter]
        exact hheads
      unfold current
      rw [Call.on_bind, Call.on_read, hcurrent]
      exact get_of_holds hheld
    · rw [Option.mem_some_iff] at hsame
      subst hsame
      exact hfollows

lemma accepted_chain (key : StreamKey) (hs : s.Sound) (hnone : s.memory.current.lookup key = none)
    {ops : List Op} (hspared : machine.Steps Spared s ops) :
    ((current key).on (machine.exec s ops)).1 = .ok (accepted key s ops).getLast? ∧
      (accepted key s ops).IsChain fun before after => mayFollow after (some before) = .ok () := by
  induction ops using List.reverseRecOn with
  | nil =>
    refine ⟨?_, .nil⟩
    unfold current
    rw [Call.on_bind, Call.on_read, Machine.exec_nil, hnone]
    rfl
  | append_singleton ops op ih =>
    rw [Machine.steps_append] at hspared
    obtain ⟨hcurrent, hchain⟩ := ih hspared.1
    obtain ⟨hnext, hfollows⟩ := current_step (exec_sound hs hspared.1) hspared.2.1 hcurrent
    rw [Machine.exec_concat, accepted_concat]
    cases haccepted : acceptance key (machine.exec s ops, op,
        (machine.step (machine.exec s ops) op).2) with
    | none =>
      rw [hnext, haccepted, Option.none_or, Option.toList_none, append_nil]
      exact ⟨rfl, hchain⟩
    | some snapshot =>
      rw [hnext, haccepted, Option.some_or, Option.toList_some, List.getLast?_append]
      refine ⟨by simp, hchain.append (.singleton _) ?_⟩
      intro before hbefore after hafter
      rw [List.head?_singleton, Option.mem_some_iff] at hafter
      subst hafter
      have hlast := hfollows snapshot haccepted
      rw [Option.mem_def] at hbefore
      rwa [hbefore] at hlast

/-- The watermark that the comparison reads for a key. -/
def carriedWatermark (snapshot : MaterializedWorldSnapshot) (k : SourceWatermark.Key) :
    Option SourceWatermark :=
  snapshot.cut.watermarkMap.lookup k

/-- The cut of a later snapshot has no lower sequence for any source and does not compare as
behind or incompatible. -/
def NotRegressed (earlier later : MaterializedWorldSnapshot) : Prop :=
  (∀ w ∈ earlier.cut.watermarks, ∀ w' ∈ later.cut.watermarks, w'.key = w.key →
    ∀ m n, w.sequence = some m → w'.sequence = some n → m ≤ n) ∧
  (compareWorldCuts later.cut earlier.cut).regresses = false

lemma sameIdentity_of_not_regresses {left right : WorldCut}
    (h : (compareWorldCuts left right).regresses = false) :
    left.scope.sameIdentity right.scope = true := by
  by_contra hscope
  rw [Bool.not_eq_true] at hscope
  rw [compareWorldCuts, if_pos hscope] at h
  cases h

lemma commonKeys_iff {earlier later : MaterializedWorldSnapshot}
    (hscope : later.cut.scope.identity = earlier.cut.scope.identity) :
    CommonKeys carriedWatermark SourceWatermark.Follows earlier later ↔
      (compareWorldCuts later.cut earlier.cut).regresses = false := by
  rw [compareWorldCuts_regresses (WorldScope.sameIdentity_iff.mpr hscope)]
  constructor
  · intro hcommon a b hab
    obtain ⟨k, ha, hb⟩ := mem_overlap.mp hab
    exact hcommon k b a hb ha
  · intro hfollows k a b ha hb
    exact hfollows b a (mem_overlap.mpr ⟨k, hb, ha⟩)

/-- Where every key is carried once, the comparison alone decides. -/
lemma notRegressed_iff {earlier later : MaterializedWorldSnapshot}
    (hscope : later.cut.scope.identity = earlier.cut.scope.identity)
    (hearlier : earlier.cut.KeysOnce) (hlater : later.cut.KeysOnce) :
    NotRegressed earlier later ↔
      CommonKeys carriedWatermark SourceWatermark.Follows earlier later := by
  rw [commonKeys_iff hscope]
  refine ⟨fun h => h.2, fun h => ⟨?_, h⟩⟩
  intro w hw w' hw' hkey m n hm hn
  have hcommon := (commonKeys_iff hscope).mpr h
  have hlookup' := hlater.watermarkMap hw'
  rw [hkey] at hlookup'
  exact (hcommon w.key w w' (hearlier.watermarkMap hw) hlookup').le hm hn

/-- What a stream accepted belongs to one scope, and neighbours follow each other. -/
lemma accepted_commonKeys (key : StreamKey) (hs : s.Sound)
    (hnone : s.memory.current.lookup key = none) {ops : List Op}
    (hspared : machine.Steps Spared s ops) :
    (accepted key s ops).Pairwise
        (fun a b => b.cut.scope.identity = a.cut.scope.identity) ∧
      (accepted key s ops).IsChain (CommonKeys carriedWatermark SourceWatermark.Follows) := by
  have hchain := (accepted_chain key hs hnone hspared).2
  have hadjacent : (accepted key s ops).IsChain fun a b =>
      b.cut.scope.identity = a.cut.scope.identity ∧
        CommonKeys carriedWatermark SourceWatermark.Follows a b := by
    refine hchain.imp ?_
    intro a b hfollows
    rcases mayFollow_eq_ok hfollows with ⟨hnone, -⟩ | ⟨before, hbefore, -, hregress, -⟩
    · cases hnone
    · cases hbefore
      have hscope := WorldScope.sameIdentity_iff.mp (sameIdentity_of_not_regresses hregress)
      exact ⟨hscope, (commonKeys_iff hscope).mpr hregress⟩
  have htrans : IsTrans MaterializedWorldSnapshot fun a b =>
      b.cut.scope.identity = a.cut.scope.identity := ⟨fun _ _ _ h h' => h'.trans h⟩
  exact ⟨(hadjacent.imp fun _ _ h => h.1).pairwise, hadjacent.imp fun _ _ h => h.2⟩

/-- Over a run whose accepted cuts carry each source once, no accepted cut regresses behind any
earlier one of its stream exactly when every source that comes back does so in order. -/
theorem accepted_never_regress_iff (limits : StoreLimits) (persistent : Bool) (ops : List Op)
    (key : StreamKey) (hspared : machine.Steps Spared (fresh limits persistent) ops)
    (honce : ∀ snapshot ∈ accepted key (fresh limits persistent) ops, snapshot.cut.KeysOnce) :
    (accepted key (fresh limits persistent) ops).Pairwise NotRegressed ↔
      ∀ pre snapshot post, accepted key (fresh limits persistent) ops = pre ++ snapshot :: post →
        ReturnsInOrder carriedWatermark SourceWatermark.Follows pre snapshot := by
  obtain ⟨hscopes, hchain⟩ := accepted_commonKeys key (fresh_sound limits persistent)
    (AList.lookup_empty _) hspared
  rw [← pairwise_commonKeys_iff SourceWatermark.Follows.refl
    (fun _ _ _ h h' => h.trans h') hchain]
  constructor
  · intro h
    refine (h.and hscopes).imp ?_
    intro a b hab
    exact (commonKeys_iff hab.2).mpr hab.1.2
  · intro h
    refine (h.and hscopes).imp_of_mem ?_
    intro a b ha hb hab
    exact (notRegressed_iff hab.2 (honce a ha) (honce b hb)).mpr hab.1

end WorldStateStore

namespace WorldSample

open WorldStateStore

def bothSources (git metrics : ℕ) : CutFields :=
  cutFields [watermark .gitCode "code" git, watermark .metrics "metrics" metrics]

lemma firstCut_valid : (bothSources 5 1).valid = true := by decide

lemma gapCut_valid : (cutFields [watermark .metrics "metrics" 2]).valid = true := by decide

lemma lastCut_valid : (bothSources 1 3).valid = true := by decide

def firstCut : WorldCut := ⟨bothSources 5 1, firstCut_valid⟩

/-- The code is left out. -/
def gapCut : WorldCut := ⟨cutFields [watermark .metrics "metrics" 2], gapCut_valid⟩

/-- The code is back where it was long before. -/
def lastCut : WorldCut := ⟨bothSources 1 3, lastCut_valid⟩

def publications : List Op :=
  [.publish (faults false) (onBranch "main" firstCut 0),
    .publish (faults false) (onBranch "main" gapCut 1),
    .publish (faults false) (onBranch "main" lastCut 2)]

def mainKey : StreamKey := (branch "main").streamKey

theorem accepted_publications_regress : accepted mainKey (fresh limits true) publications =
        [onBranch "main" firstCut 0, onBranch "main" gapCut 1, onBranch "main" lastCut 2] ∧
      ¬ (accepted mainKey (fresh limits true) publications).Pairwise NotRegressed := by
  have haccepted : accepted mainKey (fresh limits true) publications =
      [onBranch "main" firstCut 0, onBranch "main" gapCut 1, onBranch "main" lastCut 2] := by
    decide
  refine ⟨haccepted, fun hall => ?_⟩
  rw [haccepted, pairwise_cons] at hall
  have hregressed := (hall.1 (onBranch "main" lastCut 2) (by simp)).2
  revert hregressed
  decide

theorem accepted_never_regress_iff_of_publications :
    (accepted mainKey (fresh limits true) (publications.take 2)).Pairwise NotRegressed ↔
      ∀ pre snapshot post, accepted mainKey (fresh limits true) (publications.take 2) =
        pre ++ snapshot :: post →
          ReturnsInOrder carriedWatermark SourceWatermark.Follows pre snapshot :=
  accepted_never_regress_iff limits true (publications.take 2) mainKey
    ⟨fun _ => by decide, fun _ => by decide, trivial⟩ (by decide)

end WorldSample

end Tiangong
