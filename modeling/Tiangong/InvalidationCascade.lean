import Tiangong.PromotionEchoes

/-!
# The invalidation cascade

A derivation that is corrected or forgotten takes with it every descendant that loses all of its
independent support. The cascade searches the derivations breadth first and then writes one record
for each member that is still active, so that a run that was cut short can be resumed.
-/
open List

namespace Tiangong.Invalidation

open Table

/-- `_text`; `nfc` is the Unicode normal form. -/
def textAccepted (nfc : String → String) (s : String) : Bool :=
  nfc s = s && '\x00' ∉ s.toList &&
    s.toList.all fun char => 32 ≤ char.toNat || char ∈ ['\t', '\n', '\r']

inductive Reason where
  | corrected | superseded | stale | privacyErasure | invalidated
  deriving DecidableEq

def Reason.canon : Reason → Canon
  | .corrected => .text "corrected"
  | .superseded => .text "superseded"
  | .stale => .text "stale"
  | .privacyErasure => .text "privacy_erasure"
  | .invalidated => .text "invalidated"

/-- `MemoryInvalidationRecord`. Only the cascade writes one, under the id that it computes. -/
structure InvalidationRecord where
  lifeId : String
  principalRef : String
  derivationId : Canon
  memoryId : Canon
  memoryRevision : ℕ
  assertionSha256 : Canon
  reason : Reason
  sourceTriggerRef : Option String
  invalidatedAtMs : ℕ
  descendantDerivationIds : List Canon
  deriving DecidableEq

namespace InvalidationRecord

variable (r : InvalidationRecord)

/-- `_invalidation_id`. -/
def invalidationId : Canon :=
  .ident "miv_" (.ofList [.text "tiangong.life.invalidation-id.v1", .text r.lifeId, r.derivationId,
    .num r.invalidatedAtMs, r.reason.canon, .option .text r.sourceTriggerRef])

def invalidationSha256 : Canon :=
  .sha256 (.ofList [.text "tiangong.life.memory-invalidation.v1", r.invalidationId,
    .text r.lifeId, .text r.principalRef, r.derivationId, r.memoryId, .num r.memoryRevision,
    r.assertionSha256, r.reason.canon, .option .text r.sourceTriggerRef, .num r.invalidatedAtMs,
    .ofList r.descendantDerivationIds])

/-- The validators of the contract that the fields of a stored derivation do not settle. -/
def Valid (nfc : String → String) : Prop :=
  textAccepted nfc r.principalRef ∧ (∀ trigger ∈ r.sourceTriggerRef, textAccepted nfc trigger) ∧
    r.invalidatedAtMs ≤ maxContractInteger ∧ r.descendantDerivationIds.length ≤ 4096 ∧
    r.descendantDerivationIds.Pairwise (· < ·)

instance (nfc : String → String) : Decidable (r.Valid nfc) := by unfold Valid; infer_instance

variable {r} {r' : InvalidationRecord}

lemma derivationId_of_id (h : r.invalidationId = r'.invalidationId) :
    r.derivationId = r'.derivationId := by
  have hfields := Canon.ofList_injective (Canon.ident_inj.mp h).2
  simp only [cons.injEq] at hfields
  exact hfields.2.2.1

lemma id_of_sha256 (h : r.invalidationSha256 = r'.invalidationSha256) :
    r.invalidationId = r'.invalidationId := by
  have hfields := Canon.ofList_injective (Canon.sha256.inj h)
  simp only [cons.injEq] at hfields
  exact hfields.2.1

end InvalidationRecord

/-- A row of `memory_active_heads`. -/
structure ActiveHead where
  lifeId : String
  principalRef : String
  claimKey : String
  layer : MemoryLayer
  derivationId : Canon

def ActiveHead.key (h : ActiveHead) : String × String × String × MemoryLayer :=
  (h.lifeId, h.principalRef, h.claimKey, h.layer)

/-- The tables of the cascade. The rows of `memory_derivation_parents` are the parent references of
the derivations. -/
structure DerivationStore (nfc : String → String) where
  derivations : Table MemoryDerivation.derivationId
  invalidations : Table InvalidationRecord.invalidationId
  activeHeads : Table ActiveHead.key
  principals_accepted : ∀ d ∈ derivations.rows, textAccepted nfc d.principalRef = true

variable {nfc : String → String}

namespace DerivationStore

variable (s : DerivationStore nfc)

def isDerivationActive (id : Canon) : Bool :=
  (s.derivations.find id).isSome && s.invalidations.rows.all (·.derivationId ≠ id)

def listDerivationParents (id : Canon) : List MemoryParentRef :=
  orderBy (fun p p' =>
      toLex (p.memoryId, p.memoryRevision) ≤ toLex (p'.memoryId, p'.memoryRevision))
    ((s.derivations.find id).elim [] MemoryDerivation.parentMemoryRefs)

def listDerivationChildren (id : Canon) : List MemoryDerivation :=
  orderBy (fun d d' =>
      toLex (d.createdAtMs, d.derivationId) ≤ toLex (d'.createdAtMs, d'.derivationId))
    (s.derivations.rows.filter fun d => d.parentMemoryRefs.any (·.parentDerivationId = some id))

/-- `_still_supported`. -/
def stillSupported (child : MemoryDerivation) (invalidatedIds : List Canon) : Bool :=
  (s.listDerivationParents child.derivationId).any fun p =>
    p.parentDerivationId.any fun id => id ∉ invalidatedIds && s.isDerivationActive id

def putMemoryInvalidation (r : InvalidationRecord) : Except String (DerivationStore nfc) :=
  if (s.invalidations.find r.invalidationId).isSome then .ok s
  else do
    rejectIf (∃ r' ∈ s.invalidations.rows, r'.invalidationSha256 = r.invalidationSha256)
      "memory invalidation digest collides with another id"
    let d ← required (s.derivations.find r.derivationId)
      "memory invalidation targets a missing derivation"
    rejectIf (d.lifeId ≠ r.lifeId ∨ d.principalRef ≠ r.principalRef ∨ d.memoryId ≠ r.memoryId ∨
      d.memoryRevision ≠ r.memoryRevision ∨ d.memoryAssertionSha256 ≠ r.assertionSha256)
      "memory invalidation binding is inconsistent"
    let rows ← s.invalidations.insert "UNIQUE constraint failed" r
    pure { s with invalidations := rows }

/-- `clear_active_head` for one derivation. -/
def clearActiveHead (d : MemoryDerivation) : DerivationStore nfc :=
  { s with activeHeads := s.activeHeads.delete fun h =>
      h.key = (d.lifeId, d.principalRef, d.claimKey, d.layer) && h.derivationId = d.derivationId }

end DerivationStore

/-- The arguments of `invalidate_cascade`. -/
structure Cascade where
  derivationId : Canon
  reason : Reason
  invalidatedAtMs : ℕ
  sourceTriggerRef : Option String
  preserveDerivationIds : List Canon

namespace Cascade

variable (c : Cascade)

def preserved : List Canon := if c.reason = .privacyErasure then [] else c.preserveDerivationIds

/-- The correction that replaces the corrected memory. -/
def replacement (d : MemoryDerivation) : Bool :=
  c.reason = .corrected && d.origin = .userExplicit && "corrected" ∈ d.promotionReasonCodes

def ids (invalidated : List MemoryDerivation) : List Canon :=
  invalidated.map MemoryDerivation.derivationId

/-- The child is appended to the queue. -/
def falls (s : DerivationStore nfc) (invalidated : List MemoryDerivation)
    (child : MemoryDerivation) : Bool :=
  child.derivationId ∉ ids invalidated && child.derivationId ∉ c.preserved &&
    !c.replacement child &&
      (c.reason = .privacyErasure || !s.stillSupported child (ids invalidated))

/-- `while queue`, where the children of a derivation are visited in the order of `children`;
nothing when the fuel runs out. -/
def traverse (s : DerivationStore nfc) (children : Canon → List MemoryDerivation) :
    ℕ → List MemoryDerivation → List MemoryDerivation → Option (List MemoryDerivation)
  | _, [], invalidated => some invalidated
  | 0, _ :: _, _ => none
  | fuel + 1, current :: queue, invalidated =>
    if current.derivationId ∈ ids invalidated then traverse s children fuel queue invalidated
    else traverse s children fuel
      (queue ++ (children current.derivationId).filter (c.falls s (invalidated ++ [current])))
      (invalidated ++ [current])

def record (invalidated : List MemoryDerivation) (d : MemoryDerivation) : InvalidationRecord where
  lifeId := d.lifeId
  principalRef := d.principalRef
  derivationId := d.derivationId
  memoryId := d.memoryId
  memoryRevision := d.memoryRevision
  assertionSha256 := d.memoryAssertionSha256
  reason := if d.derivationId = c.derivationId then c.reason else .stale
  sourceTriggerRef := c.sourceTriggerRef
  invalidatedAtMs := c.invalidatedAtMs
  descendantDerivationIds := sortedSet ((ids invalidated).filter (· ≠ d.derivationId))

/-- The store and the records written so far. -/
abbrev Written (nfc : String → String) := DerivationStore nfc × List InvalidationRecord

/-- One turn of the second loop. -/
def invalidateOne (invalidated : List MemoryDerivation) (w : Written nfc) (d : MemoryDerivation) :
    Except String (Written nfc) :=
  if d.derivationId ∈ c.preserved ∨ w.1.isDerivationActive d.derivationId = false then .ok w
  else do
    rejectIf (¬ (c.record invalidated d).Valid nfc) "memory invalidation record is invalid"
    let s ← w.1.putMemoryInvalidation (c.record invalidated d)
    pure (s.clearActiveHead d, w.2 ++ [c.record invalidated d])

/-- `invalidate_cascade`, with the order in which it visits the children of a derivation. -/
def run (s : DerivationStore nfc) (children : Canon → List MemoryDerivation) (fuel : ℕ) :
    Option (Except String (Written nfc)) :=
  (s.derivations.find c.derivationId).elim
    (some (.error "invalidation target derivation does not exist")) fun root =>
      (c.traverse s children fuel [root] []).map fun invalidated =>
        invalidated.foldlM (c.invalidateOne invalidated) (s, [])

def invalidateCascade (s : DerivationStore nfc) (fuel : ℕ) : Option (Except String (Written nfc)) :=
  c.run s s.listDerivationChildren fuel

/-- What a run leaves when it is cut short after some turns of the second loop, with the head of
the last one cleared or not. -/
def Interrupted (s : DerivationStore nfc) (children : Canon → List MemoryDerivation)
    (s' : DerivationStore nfc) : Prop :=
  ∃ root fuel invalidated turns w, s.derivations.find c.derivationId = some root ∧
    c.traverse s children fuel [root] [] = some invalidated ∧
    (invalidated.take turns).foldlM (c.invalidateOne invalidated) (s, []) = .ok w ∧
    s'.derivations = w.1.derivations ∧ s'.invalidations = w.1.invalidations

/-- The derivation names `id` as a parent. -/
def HasParent (d : MemoryDerivation) (id : Canon) : Prop :=
  ∃ p ∈ d.parentMemoryRefs, p.parentDerivationId = some id

/-- The least set that contains the root and every child of a member that is neither preserved nor
a replacement and all of whose active parents lie in the set. -/
inductive Affected (s : DerivationStore nfc) : Canon → Prop
  | root : Affected s c.derivationId
  | child {id : Canon} {d : MemoryDerivation} (member : Affected s id)
      (stored : d ∈ s.derivations.rows) (parent : HasParent d id)
      (exposed : d.derivationId ∉ c.preserveDerivationIds) (fresh : c.replacement d = false)
      (unsupported : ∀ q, HasParent d q → s.isDerivationActive q = true → Affected s q) :
      Affected s d.derivationId

variable {c} {s : DerivationStore nfc} {children : Canon → List MemoryDerivation}
  {d root : MemoryDerivation} {queue invalidated : List MemoryDerivation}

variable {id : Canon}

lemma mem_ids : id ∈ ids invalidated ↔ ∃ d ∈ invalidated, d.derivationId = id :=
  mem_map

lemma ids_append (ds ds' : List MemoryDerivation) : ids (ds ++ ds') = ids ds ++ ids ds' :=
  map_append

lemma mem_listDerivationChildren :
    d ∈ s.listDerivationChildren id ↔ d ∈ s.derivations.rows ∧ HasParent d id := by
  simp [DerivationStore.listDerivationChildren, HasParent]

lemma stillSupported_eq_false (hd : d ∈ s.derivations.rows) {known : List Canon} :
    s.stillSupported d known = false ↔
      ∀ q, HasParent d q → s.isDerivationActive q = true → q ∈ known := by
  have hparents : ∀ p, p ∈ s.listDerivationParents d.derivationId ↔ p ∈ d.parentMemoryRefs := by
    simp [DerivationStore.listDerivationParents, find_of_mem hd]
  simp only [DerivationStore.stillSupported, any_eq_false, hparents, Option.any_eq_true,
    Bool.and_eq_true, decide_eq_true_eq, not_exists, not_and, HasParent]
  constructor
  · intro h q hq hactive
    obtain ⟨p, hp, hparent⟩ := hq
    by_contra hnot
    exact h p hp q hparent hnot hactive
  · intro h p hp q hparent hnot hactive
    exact hnot (h q ⟨p, hp, hparent⟩ hactive)

/-- When a child is appended to the queue. -/
lemma falls_eq_true (hreason : c.reason ≠ .privacyErasure) (hd : d ∈ s.derivations.rows) :
    c.falls s invalidated d = true ↔ d.derivationId ∉ ids invalidated ∧
      d.derivationId ∉ c.preserveDerivationIds ∧ c.replacement d = false ∧
        ∀ q, HasParent d q → s.isDerivationActive q = true → q ∈ ids invalidated := by
  rw [← stillSupported_eq_false hd]
  simp [falls, preserved, hreason, and_assoc]

/-- The children are visited in an order of their own. -/
def Visits (s : DerivationStore nfc) (children : Canon → List MemoryDerivation) : Prop :=
  ∀ id, (children id).Perm (s.listDerivationChildren id)

theorem Visits.mem (hvisits : Visits s children) :
    d ∈ children id ↔ d ∈ s.derivations.rows ∧ HasParent d id := by
  rw [(hvisits id).mem_iff, mem_listDerivationChildren]

theorem Visits.length_le (hvisits : Visits s children) (id : Canon) :
    (children id).length ≤ s.derivations.rows.length := by
  rw [(hvisits id).length_eq, DerivationStore.listDerivationChildren, (orderBy_perm _ _).length_eq]
  exact length_filter_le _ _

variable (c s) in
/-- The search is between two turns: what it popped and queued is affected, and a child that has
lost its support to what was popped is there. -/
structure Searched (queue invalidated : List MemoryDerivation) : Prop where
  sound : ∀ d ∈ invalidated ++ queue, d ∈ s.derivations.rows ∧ c.Affected s d.derivationId
  nodup : (ids invalidated).Nodup
  root : c.derivationId ∈ ids (invalidated ++ queue)
  closed : ∀ d ∈ s.derivations.rows, d.derivationId ∉ c.preserveDerivationIds →
    c.replacement d = false → (∃ id ∈ ids invalidated, HasParent d id) →
      (∀ q, HasParent d q → s.isDerivationActive q = true → q ∈ ids invalidated) →
        d.derivationId ∈ ids (invalidated ++ queue)

namespace Searched

theorem start (hroot : s.derivations.find c.derivationId = some root) : c.Searched s [root] [] where
  sound := by
    intro d hd
    rw [nil_append, mem_singleton] at hd
    subst hd
    rw [key_of_find hroot]
    exact ⟨mem_of_find hroot, .root⟩
  nodup := nodup_nil
  root := by simp [ids, key_of_find hroot]
  closed := by simp [ids]

/-- A derivation that was popped before is dropped. -/
theorem skip (h : c.Searched s (d :: queue) invalidated) (hd : d.derivationId ∈ ids invalidated) :
    c.Searched s queue invalidated := by
  have hids : ids (invalidated ++ d :: queue) ⊆ ids (invalidated ++ queue) := by
    intro id
    simp only [ids, map_append, map_cons, mem_append, mem_cons]
    rintro (hid | rfl | hid)
    exacts [.inl hid, .inl hd, .inr hid]
  refine ⟨fun d' hd' => h.sound d' ?_, h.nodup, hids h.root, fun d' hstored hexposed hfresh hmember
    hparents => hids (h.closed d' hstored hexposed hfresh hmember hparents)⟩
  simp only [mem_append, mem_cons] at hd' ⊢
  tauto

/-- A derivation is popped, and the children that fall with it are queued. -/
theorem push (hreason : c.reason ≠ .privacyErasure) (hvisits : Visits s children)
    (h : c.Searched s (d :: queue) invalidated) (hd : d.derivationId ∉ ids invalidated) :
    c.Searched s
      (queue ++ (children d.derivationId).filter (c.falls s (invalidated ++ [d])))
      (invalidated ++ [d]) := by
  have hpopped : ids (invalidated ++ [d]) = ids invalidated ++ [d.derivationId] := ids_append _ _
  have hsound : ∀ d' ∈ invalidated ++ [d],
      d' ∈ s.derivations.rows ∧ c.Affected s d'.derivationId := by
    intro d' hd'
    apply h.sound
    simp only [mem_append, mem_cons, not_mem_nil, or_false] at hd' ⊢
    rcases hd' with hd' | hd'
    exacts [.inl hd', .inr (.inl hd')]
  have hmember : ∀ id ∈ ids (invalidated ++ [d]), c.Affected s id := by
    intro id hid
    obtain ⟨d', hd', rfl⟩ := mem_ids.mp hid
    exact (hsound d' hd').2
  refine ⟨?_, ?_, ?_, ?_⟩
  · intro d' hd'
    simp only [mem_append, mem_filter] at hd'
    rcases hd' with hd' | hd' | ⟨hchild, hfalls⟩
    · exact hsound d' (mem_append.mpr hd')
    · exact h.sound d' (mem_append_right _ (mem_cons_of_mem _ hd'))
    · obtain ⟨hstored, hparent⟩ := hvisits.mem.mp hchild
      obtain ⟨-, hexposed, hfresh, hparents⟩ := (falls_eq_true hreason hstored).mp hfalls
      have haffected := (h.sound d (mem_append_right _ mem_cons_self)).2
      exact ⟨hstored, .child haffected hstored hparent hexposed hfresh fun q hq hactive =>
        hmember q (hparents q hq hactive)⟩
  · rw [hpopped]
    simpa using h.nodup.concat hd
  · have hroot := h.root
    simp only [ids, map_append, map_cons, mem_append, mem_cons] at hroot ⊢
    tauto
  · intro d' hstored hexposed hfresh hex hparents
    by_cases hin : d'.derivationId ∈ ids (invalidated ++ [d])
    · rw [ids_append]
      exact mem_append_left _ hin
    by_cases hchild : HasParent d' d.derivationId
    · -- the popped derivation is the last parent that was missing
      have hfalls := (falls_eq_true hreason hstored).mpr ⟨hin, hexposed, hfresh, hparents⟩
      have hqueued := mem_filter.mpr ⟨hvisits.mem.mpr ⟨hstored, hchild⟩, hfalls⟩
      exact mem_map_of_mem (mem_append_right _ (mem_append_right _ hqueued))
    · have hbefore : ∀ q, HasParent d' q → q ∈ ids (invalidated ++ [d]) → q ∈ ids invalidated := by
        intro q hq hmem
        rw [hpopped, mem_append, mem_singleton] at hmem
        rcases hmem with hmem | rfl
        · exact hmem
        · exact absurd hq hchild
      obtain ⟨id, hid, hparent⟩ := hex
      have hclosed := h.closed d' hstored hexposed hfresh ⟨id, hbefore id hparent hid, hparent⟩
        fun q hq hactive => hbefore q hq (hparents q hq hactive)
      simp only [ids, map_append, map_cons, mem_append, mem_cons] at hclosed ⊢
      tauto

/-- When the queue is empty the affected derivations are those that were popped. -/
lemma eq_affected (h : c.Searched s [] invalidated) {id : Canon} :
    id ∈ ids invalidated ↔ c.Affected s id := by
  constructor
  · intro hid
    obtain ⟨d, hd, rfl⟩ := mem_ids.mp hid
    exact (h.sound d (mem_append_left _ hd)).2
  · intro haffected
    induction haffected with
    | root => simpa using h.root
    | child _ hstored hparent hexposed hfresh _ hmember hparents =>
      have := h.closed _ hstored hexposed hfresh ⟨_, hmember, hparent⟩ hparents
      simpa using this

end Searched

/-- A search that returns has found the affected derivations. -/
lemma traverse_searched (hreason : c.reason ≠ .privacyErasure) (hvisits : Visits s children)
    {fuel : ℕ} {found : List MemoryDerivation} (h : c.Searched s queue invalidated)
    (hfound : c.traverse s children fuel queue invalidated = some found) :
    c.Searched s [] found := by
  induction fuel generalizing queue invalidated with
  | zero =>
    cases queue with
    | nil => cases hfound; exact h
    | cons d queue => cases hfound
  | succ fuel ih =>
    cases queue with
    | nil => cases hfound; exact h
    | cons d queue =>
      rw [traverse] at hfound
      split at hfound
      · next hd => exact ih (h.skip hd) hfound
      · next hd => exact ih (h.push hreason hvisits hd) hfound

theorem Searched.length_le (h : c.Searched s queue invalidated) :
    invalidated.length ≤ s.derivations.rows.length := by
  have hsub : invalidated ⊆ s.derivations.rows := fun d hd => (h.sound d (mem_append_left _ hd)).1
  exact (h.nodup.of_map _).subperm hsub |>.length_le

/-- The search ends: each derivation is popped once, and queues at most all of them. -/
lemma traverse_isSome (hreason : c.reason ≠ .privacyErasure) (hvisits : Visits s children)
    {fuel : ℕ} (h : c.Searched s queue invalidated)
    (hfuel : queue.length + s.derivations.rows.length *
      (s.derivations.rows.length - invalidated.length) ≤ fuel) :
    ∃ found, c.traverse s children fuel queue invalidated = some found := by
  induction fuel generalizing queue invalidated with
  | zero =>
    cases queue with
    | nil => exact ⟨invalidated, rfl⟩
    | cons d queue => simp at hfuel
  | succ fuel ih =>
    cases queue with
    | nil => exact ⟨invalidated, rfl⟩
    | cons d queue =>
      rw [traverse]
      split
      · next hd =>
        apply ih (h.skip hd)
        rw [length_cons] at hfuel
        omega
      · next hd =>
        have hpush := h.push hreason hvisits hd
        apply ih hpush
        have hle := hpush.length_le
        have hchildren := (length_filter_le (c.falls s (invalidated ++ [d]))
          (children d.derivationId)).trans (hvisits.length_le _)
        rw [length_append, length_singleton] at hle
        have hleft : s.derivations.rows.length - invalidated.length =
            s.derivations.rows.length - (invalidated.length + 1) + 1 := by omega
        rw [hleft, Nat.mul_succ, length_cons] at hfuel
        rw [length_append, length_append, length_singleton]
        omega

lemma isDerivationActive_eq_true : s.isDerivationActive id = true ↔
    (s.derivations.find id).isSome ∧ ∀ r ∈ s.invalidations.rows, r.derivationId ≠ id := by
  simp [DerivationStore.isDerivationActive]

/-- One turn of the second loop leaves everything but its derivation as active as it was. -/
lemma invalidateOne_spec {w : Written nfc} (hd : d ∈ w.1.derivations.rows)
    (hexposed : d.derivationId ∉ c.preserved) (hvalid : (c.record invalidated d).Valid nfc) :
    ∃ w', c.invalidateOne invalidated w d = .ok w' ∧ w'.1.derivations = w.1.derivations ∧
      ∀ id, w'.1.isDerivationActive id = true ↔
        w.1.isDerivationActive id = true ∧ id ≠ d.derivationId := by
  by_cases hactive : w.1.isDerivationActive d.derivationId = true
  · have hnone := (isDerivationActive_eq_true.mp hactive).2
    have hfresh : w.1.invalidations.find (c.record invalidated d).invalidationId = none :=
      find_eq_none.mpr fun r hr hid =>
        hnone r hr (InvalidationRecord.derivationId_of_id hid)
    have hcollision : ¬ ∃ r ∈ w.1.invalidations.rows,
        r.invalidationSha256 = (c.record invalidated d).invalidationSha256 := by
      rintro ⟨r, hr, hsha⟩
      exact find_eq_none.mp hfresh r hr (InvalidationRecord.id_of_sha256 hsha)
    obtain ⟨rows, hrows⟩ := exists_insert hfresh "UNIQUE constraint failed"
    have hput : w.1.putMemoryInvalidation (c.record invalidated d) =
        .ok { w.1 with invalidations := rows } := by
      rw [DerivationStore.putMemoryInvalidation, hfresh]
      simp only [Option.isSome_none, Bool.false_eq_true, if_false, eq_ok_iff]
      exact ⟨hcollision, d, find_of_mem hd, by simp [record], rows, hrows, rfl⟩
    refine ⟨({ w.1 with invalidations := rows }.clearActiveHead d,
      w.2 ++ [c.record invalidated d]), ?_, rfl, fun id => ?_⟩
    · rw [invalidateOne, if_neg (by simp [hexposed, hactive])]
      simp only [eq_ok_iff]
      exact ⟨not_not.mpr hvalid, _, hput, rfl⟩
    · have hinserts := (insert_eq_ok.mp hrows).rows
      simp only [isDerivationActive_eq_true, DerivationStore.clearActiveHead, hinserts, mem_append,
        mem_singleton, or_imp, forall_and, forall_eq, and_assoc]
      exact and_congr_right fun _ => and_congr_right fun _ => ne_comm
  · refine ⟨w, if_pos (.inr (by simpa using hactive)), rfl, fun id => ?_⟩
    constructor
    · intro hid
      exact ⟨hid, fun heq => hactive (heq ▸ hid)⟩
    · exact And.left

/-- The second loop takes what it goes through out of the active derivations. -/
lemma invalidateAll_spec {ds : List MemoryDerivation} {w : Written nfc}
    (hds : ∀ d ∈ ds, d ∈ w.1.derivations.rows ∧ d.derivationId ∉ c.preserved ∧
      (c.record invalidated d).Valid nfc) :
    ∃ w', ds.foldlM (c.invalidateOne invalidated) w = .ok w' ∧
      w'.1.derivations = w.1.derivations ∧ ∀ id, w'.1.isDerivationActive id = true ↔
        w.1.isDerivationActive id = true ∧ id ∉ ids ds := by
  induction ds generalizing w with
  | nil => exact ⟨w, rfl, rfl, by simp [ids]⟩
  | cons d ds ih =>
    obtain ⟨hd, hexposed, hvalid⟩ := hds d mem_cons_self
    obtain ⟨w₁, hone, hkept, hactive⟩ := invalidateOne_spec hd hexposed hvalid
    obtain ⟨w', hrest, hkept', hactive'⟩ := @ih w₁ fun d' hd' => by
      rw [hkept]
      exact hds d' (mem_cons_of_mem _ hd')
    refine ⟨w', ?_, hkept'.trans hkept, fun id => ?_⟩
    · rw [foldlM_cons, hone]
      exact hrest
    · rw [hactive', hactive]
      simp [ids, and_assoc]

variable (c nfc) in
/-- The contract of the records accepts the time and the trigger. -/
def Accepted : Prop :=
  (∀ trigger ∈ c.sourceTriggerRef, textAccepted nfc trigger) ∧
    c.invalidatedAtMs ≤ maxContractInteger

variable (c s) in
/-- The call is not a privacy erasure, its root is stored and not preserved, and the affected
derivations fit into a record. -/
structure Admissible : Prop where
  reason : c.reason ≠ .privacyErasure
  stored : (s.derivations.find c.derivationId).isSome
  exposed : c.derivationId ∉ c.preserveDerivationIds
  bounded : ∀ members : List Canon, members.Nodup → (∀ id ∈ members, c.Affected s id) →
    members.length ≤ 4097
  accepted : c.Accepted nfc

lemma Affected.not_preserved (h : c.Admissible s) (haffected : c.Affected s id) :
    id ∉ c.preserved := by
  rw [preserved, if_neg h.reason]
  cases haffected with
  | root => exact h.exposed
  | child _ _ _ hexposed _ _ => exact hexposed

lemma record_valid (h : c.Admissible s) (hfound : c.Searched s [] invalidated)
    (hd : d ∈ invalidated) : (c.record invalidated d).Valid nfc := by
  have hstored := (hfound.sound d (mem_append_left _ hd)).1
  have hbound := h.bounded _ hfound.nodup fun id => hfound.eq_affected.mp
  have hfilter : ((ids invalidated).filter (· ≠ d.derivationId)).length <
      (ids invalidated).length :=
    length_filter_lt_length_iff_exists.mpr ⟨_, mem_map_of_mem hd, by simp⟩
  have hlength := length_sortedSet_le ((ids invalidated).filter (· ≠ d.derivationId))
  exact ⟨s.principals_accepted d hstored, h.accepted.1, h.accepted.2, by simp only [record]; omega,
    sortedSet_strict _⟩

/-- The second loop, as far as it gets. -/
lemma turns_spec (h : c.Admissible s) (hfound : c.Searched s [] invalidated) (turns : ℕ) :
    ∃ w, (invalidated.take turns).foldlM (c.invalidateOne invalidated) (s, []) = .ok w ∧
      w.1.derivations = s.derivations ∧ ∀ id, w.1.isDerivationActive id = true ↔
        s.isDerivationActive id = true ∧ id ∉ ids (invalidated.take turns) := by
  refine invalidateAll_spec fun d hd => ?_
  have hmem := mem_of_mem_take hd
  have hsound := hfound.sound d (mem_append_left _ hmem)
  exact ⟨hsound.1, hsound.2.not_preserved h, record_valid h hfound hmem⟩

/-- The searches that affect the same derivations: the same call, on a store in which some of the
affected derivations are inactive already. -/
lemma affected_congr {c' : Cascade} {s' : DerivationStore nfc}
    (hc : c'.derivationId = c.derivationId ∧ c'.reason = c.reason ∧
      c'.preserveDerivationIds = c.preserveDerivationIds)
    (hstored : s'.derivations = s.derivations)
    (hless : ∀ id, s'.isDerivationActive id = true → s.isDerivationActive id = true)
    (hkept : ∀ id, s.isDerivationActive id = true → ¬ c.Affected s id →
      s'.isDerivationActive id = true) : c'.Affected s' id ↔ c.Affected s id := by
  obtain ⟨hroot, hreason, hpreserve⟩ := hc
  have hreplacement : c'.replacement = c.replacement := by
    funext d
    rw [replacement, hreason, replacement]
  constructor
  · intro h
    induction h with
    | root => rw [hroot]; exact .root
    | child _ hd hparent hexposed hfresh _ hmember hparents =>
      rw [hstored] at hd
      rw [hpreserve] at hexposed
      rw [hreplacement] at hfresh
      refine .child hmember hd hparent hexposed hfresh fun q hq hactive => ?_
      by_contra hnot
      exact hnot (hparents q hq (hkept q hactive hnot))
  · intro h
    induction h with
    | root => rw [← hroot]; exact .root
    | child _ hd hparent hexposed hfresh _ hmember hparents =>
      rw [← hstored] at hd
      rw [← hpreserve] at hexposed
      rw [← hreplacement] at hfresh
      exact .child hmember hd hparent hexposed hfresh fun q hq hactive =>
        hparents q hq (hless q hactive)

variable (c s) in
/-- Whatever the order of the children, every long enough run of `c'` on `s'` returns, and leaves
active what is active in `s` and not affected by `c`. -/
def Ends (c' : Cascade) (s' : DerivationStore nfc) : Prop :=
  ∀ children, Visits s' children → ∀ fuel,
    s'.derivations.rows.length * s'.derivations.rows.length + 1 ≤ fuel →
      ∃ w, c'.run s' children fuel = some (.ok w) ∧ w.1.derivations = s.derivations ∧
        ∀ id, w.1.isDerivationActive id = true ↔ s.isDerivationActive id = true ∧ ¬ c.Affected s id

lemma run_ends (h : c.Admissible s) : c.Ends s c s := by
  intro children hvisits fuel hfuel
  obtain ⟨root, hroot⟩ := Option.isSome_iff_exists.mp h.stored
  have hstart := Searched.start hroot
  obtain ⟨found, hfound⟩ := traverse_isSome h.reason hvisits hstart
    (by simpa [add_comm] using hfuel)
  have hsearched := traverse_searched h.reason hvisits hstart hfound
  obtain ⟨w, hw, hkept, hactive⟩ := turns_spec h hsearched found.length
  rw [take_length] at hw hactive
  refine ⟨w, by simp [run, hroot, hfound, hw], hkept, fun id => ?_⟩
  rw [hactive, hsearched.eq_affected]

/-- A cascade takes exactly the affected derivations out of the active ones, whatever the order of
the children, and a run that was cut short is completed by running it again. -/
theorem invalidateCascade_exact (nfc : String → String) (s : DerivationStore nfc) (c : Cascade)
    (h : c.Admissible s) : c.Ends s c s ∧
      ∀ children s', Visits s children → c.Interrupted s children s' → ∀ c' : Cascade,
        c'.derivationId = c.derivationId → c'.reason = c.reason →
          c'.preserveDerivationIds = c.preserveDerivationIds → c'.Accepted nfc →
            c.Ends s c' s' := by
  refine ⟨run_ends h, ?_⟩
  intro children s' hvisits hcut c' hroot hreason hpreserve haccepted
  obtain ⟨root, fuel, found, turns, w, hfind, hfound, hw, hstored, hinvalidations⟩ := hcut
  have hsearched := traverse_searched h.reason hvisits (.start hfind) hfound
  obtain ⟨w', hw', hkept, hactive⟩ := turns_spec h hsearched turns
  cases hw.symm.trans hw'
  have hactive' : ∀ id, s'.isDerivationActive id = true ↔
      s.isDerivationActive id = true ∧ id ∉ ids (found.take turns) := by
    intro id
    rw [← hactive, DerivationStore.isDerivationActive, hstored, hinvalidations,
      DerivationStore.isDerivationActive]
  have hmember : ∀ id ∈ ids (found.take turns), c.Affected s id := fun id hid =>
    hsearched.eq_affected.mp (map_subset _ (take_subset _ _) hid)
  have hsame : ∀ id, c'.Affected s' id ↔ c.Affected s id := fun id =>
    affected_congr ⟨hroot, hreason, hpreserve⟩ (hstored.trans hkept)
      (fun id hid => ((hactive' id).mp hid).1) fun id hid hnot =>
        (hactive' id).mpr ⟨hid, fun hmem => hnot (hmember id hmem)⟩
  have hadmissible : c'.Admissible s' :=
    { reason := hreason ▸ h.reason
      stored := by rw [hstored, hkept, hroot]; exact h.stored
      exposed := by rw [hroot, hpreserve]; exact h.exposed
      bounded := fun members hnodup hmembers =>
        h.bounded members hnodup fun id hid => (hsame id).mp (hmembers id hid)
      accepted := haccepted }
  intro children' hvisits' fuel' hfuel
  obtain ⟨w', hrun, hstored', hends⟩ := run_ends hadmissible children' hvisits' fuel' hfuel
  refine ⟨w', hrun, hstored'.trans (hstored.trans hkept), fun id => ?_⟩
  rw [hends, hsame, hactive', and_assoc]
  exact and_congr_right fun _ => and_iff_right_of_imp fun hnot hmem => hnot (hmember id hmem)

/-- The affected derivations are stored. -/
lemma affected_length_le (hroot : (s.derivations.find c.derivationId).isSome)
    {members : List Canon} (hnodup : members.Nodup) (hmembers : ∀ id ∈ members, c.Affected s id) :
    members.length ≤ s.derivations.rows.length := by
  have hsub : members ⊆ ids s.derivations.rows := by
    intro id hid
    cases hmembers id hid with
    | root =>
      obtain ⟨root, hroot⟩ := Option.isSome_iff_exists.mp hroot
      rw [← key_of_find hroot]
      exact mem_map_of_mem (mem_of_find hroot)
    | child _ hd _ _ _ _ => exact mem_map_of_mem hd
  exact (hnodup.subperm hsub).length_le.trans (length_map _).le

end Cascade

/-- A correction of what the user said, from which another memory was promoted. -/
def correction : Cascade := ⟨.text "mdr_0", .corrected, 3000, none, []⟩

def promoted : MemoryDerivation :=
  { MemoryPromotion.statement "mdr_1" with
    parentMemoryRefs := [⟨some (.text "mdr_0"), .text "mem_a", 1, .text "1111"⟩]
    parents_sorted := by simp }

lemma corrected_accepted : ∀ d ∈ [MemoryPromotion.statement "mdr_0", promoted],
    textAccepted id d.principalRef = true := by
  simp [MemoryPromotion.statement, promoted, textAccepted]

def correctedStore : DerivationStore id where
  derivations := ⟨[MemoryPromotion.statement "mdr_0", promoted], by decide⟩
  invalidations := .empty
  activeHeads := .empty
  principals_accepted := corrected_accepted

lemma correction_admissible : correction.Admissible correctedStore where
  reason := by decide
  stored := by decide
  exposed := by decide
  bounded := fun members hnodup hmembers => by
    have hlength := Cascade.affected_length_le (by decide) hnodup hmembers
    have : correctedStore.derivations.rows.length = 2 := rfl
    omega
  accepted := ⟨by simp [correction], by decide⟩

theorem correction_takes_promoted : ∃ w,
    correction.invalidateCascade correctedStore 5 = some (.ok w) ∧
      w.1.isDerivationActive promoted.derivationId = false := by
  obtain ⟨hends, -⟩ := Cascade.invalidateCascade_exact id correctedStore correction
    correction_admissible
  obtain ⟨w, hrun, -, hactive⟩ := hends _ (fun _ => .refl _) 5 (by decide)
  refine ⟨w, hrun, Bool.eq_false_iff.mpr fun hstill => ((hactive _).mp hstill).2 ?_⟩
  refine .child .root (d := promoted) (by simp [correctedStore]) ⟨_, mem_singleton.mpr rfl, rfl⟩
    (by decide) (by decide) fun q hq _ => ?_
  obtain ⟨p, hp, hparent⟩ := hq
  cases mem_singleton.mp hp
  cases hparent
  exact .root

end Tiangong.Invalidation
