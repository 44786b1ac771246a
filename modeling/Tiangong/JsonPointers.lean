import Mathlib.Data.Nat.Digits.Defs
import Tiangong.JsonObjects

/-!
# JSON pointers

A step of a plan leaves holes in its arguments, which pointers name. The plan checks the pointers
when it is compiled, and the holes are filled when the step is dispatched.
-/
open List

namespace Tiangong.Pointers

open CodePoint PlatformJson

def unescape : PyStr → Option PyStr
  | [] => some []
  | [c] => if c = ofChar '~' then none else some [c]
  | c :: d :: rest =>
    if c ≠ ofChar '~' then (c :: ·) <$> unescape (d :: rest)
    else if d = ofChar '0' then (c :: ·) <$> unescape rest
    else if d = ofChar '1' then (ofChar '/' :: ·) <$> unescape rest
    else none

def isRooted (pointer : PyStr) : Bool := pointer = [] || pointer.head? = some (ofChar '/')

/-- The tokens of a rooted pointer. -/
def tokens (pointer : PyStr) : Option (List PyStr) :=
  if pointer = [] then some [] else (PyStr.split (ofChar '/') pointer.tail).mapM unescape

def leadingZero (token : PyStr) : Bool := 1 < token.length && token.head? = some (ofChar '0')

/-- `int(token)` of digits. -/
def intOf (token : PyStr) : Except String ℕ := do
  rejectIf (4300 < token.length) "Exceeds the limit (4300 digits) for integer string conversion"
  pure (digitValue token)

def requireNull (error : String) : PlatformJson → Except String Unit
  | .null => .ok ()
  | _ => .error error

/-- The errors of a walk. -/
structure WalkErrors where
  (missing index leading range scalar : String)

/-- One token of a walk. -/
def child (errors : WalkErrors) (current : PlatformJson) (token : PyStr) :
    Except String PlatformJson :=
  match current with
  | .object fields => required (fields.lookup token) errors.missing
  | .array items => do
    rejectIf (token = [] ∨ ¬ token.all isDigit) errors.index
    rejectIf (leadingZero token) errors.leading
    let offset ← intOf token
    required items[offset]? errors.range
  | _ => .error errors.scalar

namespace ExecutablePlan

variable (label : String) (nfc : PyStr → PyStr)

def jsonPointerTokens (pointer : PyStr) : Except String (List PyStr) := do
  rejectIf (2048 < pointer.length) (label ++ " is invalid")
  rejectIf (nfc pointer ≠ pointer) ((label ++ " must use NFC Unicode normalization"))
  rejectIf (isRooted pointer = false) ((label ++ " must be an RFC 6901 JSON Pointer"))
  required (tokens pointer) (label ++ " contains an invalid JSON Pointer escape")

def errors : WalkErrors where
  missing := label ++ " does not resolve in its document"
  index := label ++ " has an invalid array index"
  leading := label ++ " has a non-canonical array index"
  range := label ++ " array index is out of range"
  scalar := label ++ " traverses a scalar value"

def jsonPointerValue (document : PlatformJson) (pointer : PyStr) : Except String PlatformJson := do
  let path ← jsonPointerTokens label nfc pointer
  path.foldlM (child (errors label)) document

end ExecutablePlan

namespace ExecutionProjection

def error (code : String) : String := "composition.projection." ++ code

def jsonPointerTokens (pointer : PyStr) : Except String (List PyStr) := do
  rejectIf (isRooted pointer = false) (error "json_pointer_invalid")
  required (tokens pointer) (error "json_pointer_invalid")

def errors (what : String) : WalkErrors where
  missing := error (what ++ "_pointer_missing")
  index := error (what ++ "_pointer_invalid")
  leading := error (what ++ "_pointer_invalid")
  range := error (what ++ "_pointer_missing")
  scalar := error (what ++ "_pointer_missing")

def jsonPointerValue (value : PlatformJson) (pointer : PyStr) : Except String PlatformJson := do
  let path ← jsonPointerTokens pointer
  path.foldlM (child (errors "output")) value

/-- `current[token] = value`, where the token is there. -/
def setChild (current : PlatformJson) (token : PyStr) (value : PlatformJson) : PlatformJson :=
  match current with
  | .object fields => .object (JsonFields.put fields token value)
  | .array items => .array (items.set (digitValue token) value)
  | scalar => scalar

/-- What stands where a value is put. -/
def slot (current : PlatformJson) (final : PyStr) : Except String PlatformJson :=
  match current with
  | .object fields => required (fields.lookup final) (error "argument_slot_not_null")
  | _ => child (errors "argument") current final

def replaceAt (value : PlatformJson) : List PyStr → PlatformJson → Except String PlatformJson
  | [], _ => .error (error "argument_pointer_invalid")
  | [final], current => do
    let found ← slot current final
    requireNull (error "argument_slot_not_null") found
    pure (setChild current final value)
  | token :: rest, current => do
    let inner ← child (errors "argument") current token
    let inner ← replaceAt value rest inner
    pure (setChild current token inner)

def replaceJsonPointer (root : PlatformJson) (pointer : PyStr) (value : PlatformJson) :
    Except String PlatformJson := do
  let path ← jsonPointerTokens pointer
  replaceAt value path root

/-- The loop of `materialize_ready_composition_step` that fills the slots. -/
def fillSlots (arguments : PlatformJson) (slots : List (PyStr × PlatformJson)) :
    Except String PlatformJson :=
  slots.foldlM (fun root s => replaceJsonPointer root s.1 s.2) arguments

end ExecutionProjection

/-- The digits of an index that both readers accept. -/
def IsIndex (token : PyStr) : Prop :=
  token ≠ [] ∧ token.all isDigit ∧ leadingZero token = false ∧ token.length ≤ 4300

instance (token : PyStr) : Decidable (IsIndex token) := by unfold IsIndex; infer_instance

/-- The value under a key or an index. -/
def at? : PlatformJson → PyStr → Option PlatformJson
  | .object fields, token => fields.lookup token
  | .array items, token => if IsIndex token then items[digitValue token]? else none
  | _, _ => none

def readAt (path : List PyStr) (d : PlatformJson) : Option PlatformJson := path.foldlM at? d

/-- One path leads to a part of what the other one leads to. -/
def Nested (ts us : List PyStr) : Prop := ts <+: us ∨ us <+: ts

variable {t u pointer : PyStr} {ts us : List PyStr} {c d d' v : PlatformJson}
  {errors : WalkErrors} {fields : JsonFields}

lemma child_eq_ok : child errors d t = .ok c ↔ at? d t = some c := by
  cases d <;> simp [child, at?, IsIndex, intOf, and_assoc, and_comm, and_left_comm]

lemma walk_eq_ok : ts.foldlM (child errors) d = .ok c ↔ readAt ts d = some c := by
  induction ts generalizing d with
  | nil => simp [readAt, pure, Except.pure]
  | cons t ts ih => simp [readAt, child_eq_ok, ih, Option.bind_eq_some_iff]

/-- The index of a number. -/
def indexText (n : ℕ) : PyStr :=
  if n = 0 then [ofChar '0'] else (Nat.digits 10 n).reverse.map fun k => Fin.ofNat _ (k + 48)

/-- An index has no leading zeros, so that its number determines it. -/
lemma indexText_digitValue (h : IsIndex t) : indexText (digitValue t) = t := by
  obtain ⟨hne, hdigits, hleading, -⟩ := h
  obtain ⟨c, cs, rfl⟩ := exists_cons_of_ne_nil hne
  have hdigit : ∀ c' ∈ c :: cs, 48 ≤ c'.val ∧ c'.val ≤ 57 := by simpa [isDigit] using hdigits
  by_cases hc : c = ofChar '0'
  · have hcs : cs = [] := by simpa [leadingZero, hc] using hleading
    rw [hcs, hc]
    rfl
  have hzero : c.val ≠ 48 := fun heq => hc (Fin.ext heq)
  have hvalue : digitValue (c :: cs) = Nat.ofDigits 10 ((c :: cs).map (·.val - 48)).reverse := by
    simp [digitValue, Nat.ofDigits_eq_foldr, foldl_map, add_comm]
  have hread : Nat.digits 10 (digitValue (c :: cs)) = ((c :: cs).map (·.val - 48)).reverse := by
    rw [hvalue]
    apply Nat.digits_ofDigits 10 (by omega)
    · intro l hl
      obtain ⟨c', hc', rfl⟩ := mem_map.mp (mem_reverse.mp hl)
      have := hdigit c' hc'
      omega
    · have := hdigit c mem_cons_self
      simp
      omega
  have hpos : digitValue (c :: cs) ≠ 0 := by
    intro heq
    simp [heq] at hread
  rw [indexText, if_neg hpos, hread, reverse_reverse, map_map]
  refine (map_congr_left fun c' hc' => Fin.ext ?_).trans (map_id _)
  have := hdigit c' hc'
  simp [Fin.ofNat]
  omega

open ExecutionProjection

lemma at?_array {items : List PlatformJson} :
    at? (.array items) t = some c ↔ IsIndex t ∧ items[digitValue t]? = some c := by
  simp [at?]

lemma index_ne (hne : t ≠ u) (ht : IsIndex t) (hu : IsIndex u) : digitValue t ≠ digitValue u := by
  intro heq
  rw [← indexText_digitValue ht, heq, indexText_digitValue hu] at hne
  exact hne rfl

lemma at?_setChild (h : at? d t = some c) : at? (setChild d t v) t = some v := by
  cases d with
  | object fields => exact JsonFields.lookup_put_self fields t v
  | array items =>
    obtain ⟨ht, hitem⟩ := at?_array.mp h
    obtain ⟨hlt, -⟩ := List.getElem?_eq_some_iff.mp hitem
    exact at?_array.mpr ⟨ht, getElem?_set_self hlt⟩
  | _ => cases h

lemma at?_setChild_of_ne (hne : t ≠ u) (h : at? d t = some c) :
    at? (setChild d t v) u = at? d u := by
  cases d with
  | object fields => exact JsonFields.lookup_put_of_ne hne fields v
  | array items =>
    by_cases hu : IsIndex u
    · simp only [at?, setChild, getElem?_set_ne (index_ne hne (at?_array.mp h).1 hu)]
    · simp [at?, hu, setChild]
  | _ => cases h

/-- Fill the hole that a path leads to. -/
def fill (v : PlatformJson) : List PyStr → PlatformJson → Option PlatformJson
  | [], .null => some v
  | [], _ => none
  | t :: ts, d => (at? d t).bind fun c => (fill v ts c).map (setChild d t)

lemma fill_eq_some (h : fill v (t :: ts) d = some d') :
    ∃ c c', at? d t = some c ∧ fill v ts c = some c' ∧ setChild d t c' = d' := by
  obtain ⟨c, hc, hfill⟩ := Option.bind_eq_some_iff.mp h
  obtain ⟨c', hc', heq⟩ := Option.map_eq_some_iff.mp hfill
  exact ⟨c, c', hc, hc', heq⟩

lemma not_nested_cons (h : ¬ Nested (t :: ts) (u :: us)) : t ≠ u ∨ t = u ∧ ¬ Nested ts us := by
  simp only [Nested, cons_prefix_cons] at h ⊢
  grind

/-- What is apart from the hole stays as it is. -/
lemma readAt_fill_of_apart (hapart : ¬ Nested ts us) (h : fill v ts d = some d') :
    readAt us d' = readAt us d := by
  induction ts generalizing us d d' with
  | nil => exact absurd (.inl nil_prefix) hapart
  | cons t ts ih =>
    cases us with
    | nil => exact absurd (.inr nil_prefix) hapart
    | cons u us =>
      obtain ⟨c, c', hc, hc', rfl⟩ := fill_eq_some h
      simp only [readAt, foldlM_cons]
      rcases not_nested_cons hapart with hne | ⟨rfl, hrest⟩
      · rw [at?_setChild_of_ne hne hc]
      · rw [at?_setChild hc, hc]
        exact ih hrest hc'

/-- A hole can be filled, and it has the value then. -/
lemma exists_fill (h : readAt ts d = some .null) (v : PlatformJson) :
    ∃ d', fill v ts d = some d' ∧ readAt ts d' = some v := by
  induction ts generalizing d with
  | nil =>
    obtain rfl : d = .null := Option.some.inj h
    exact ⟨v, rfl, rfl⟩
  | cons t ts ih =>
    obtain ⟨c, hc, hrest⟩ := Option.bind_eq_some_iff.mp h
    obtain ⟨c', hfill, hread⟩ := ih hrest
    refine ⟨setChild d t c', by simp [fill, hc, hfill], ?_⟩
    simpa [readAt, at?_setChild hc] using hread

lemma replaceAt_of_fill (hne : ts ≠ []) (h : fill v ts d = some d') : replaceAt v ts d = .ok d' := by
  induction ts generalizing d d' with
  | nil => exact absurd rfl hne
  | cons t ts ih =>
    obtain ⟨c, c', hc, hc', rfl⟩ := fill_eq_some h
    cases ts with
    | nil =>
      obtain rfl : c = .null := by cases c <;> simp_all [fill]
      obtain rfl : v = c' := Option.some.inj hc'
      have hslot : slot d t = .ok .null := by
        cases d with
        | object fields => exact required_eq_ok.mpr hc
        | _ => exact child_eq_ok.mpr hc
      simp [replaceAt, hslot, requireNull]
    | cons u us =>
      have hchild := (@child_eq_ok t c d (errors "argument")).mpr hc
      simp [replaceAt, hchild, ih (cons_ne_nil u us) hc']

/-- The two readers agree on the pointers within the limits of a plan. -/
lemma planValue_eq_ok {nfc : PyStr → PyStr} {label : String} :
    ExecutablePlan.jsonPointerValue label nfc d pointer = .ok v ↔
      pointer.length ≤ 2048 ∧ nfc pointer = pointer ∧ jsonPointerValue d pointer = .ok v := by
  simp [ExecutablePlan.jsonPointerValue, ExecutablePlan.jsonPointerTokens, walk_eq_ok,
    jsonPointerValue, jsonPointerTokens]

/-- The path of a pointer. -/
def pathOf (pointer : PyStr) : List PyStr := (tokens pointer).getD []

lemma value_eq_ok : jsonPointerValue d pointer = .ok v ↔
    jsonPointerTokens pointer = .ok (pathOf pointer) ∧ readAt (pathOf pointer) d = some v := by
  cases h : tokens pointer <;> simp [jsonPointerValue, jsonPointerTokens, pathOf, h, walk_eq_ok]

/-- Holes that a plan reads, none of them within another, are filled at dispatch without a failure;
each holds its value then, and what is apart from them reads as before. -/
theorem holes_filled (nfc : PyStr → PyStr) (label : String) (args : PlatformJson)
    (slots : List (PyStr × PlatformJson))
    (hapart : slots.Pairwise fun s s' => ¬ Nested (pathOf s.1) (pathOf s'.1))
    (hholes : ∀ s ∈ slots, pathOf s.1 ≠ [] ∧
      ExecutablePlan.jsonPointerValue label nfc args s.1 = .ok .null) :
    ∃ filled, fillSlots args slots = .ok filled ∧
      (∀ s ∈ slots, jsonPointerValue filled s.1 = .ok s.2) ∧
      ∀ pointer, (∀ s ∈ slots, ¬ Nested (pathOf s.1) (pathOf pointer)) → ∀ v,
        jsonPointerValue filled pointer = .ok v ↔ jsonPointerValue args pointer = .ok v := by
  have hread : ∀ s ∈ slots, pathOf s.1 ≠ [] ∧ jsonPointerTokens s.1 = .ok (pathOf s.1) ∧
      readAt (pathOf s.1) args = some .null := by
    intro s hs
    obtain ⟨hne, hnull⟩ := hholes s hs
    exact ⟨hne, value_eq_ok.mp (planValue_eq_ok.mp hnull).2.2⟩
  clear hholes
  induction slots generalizing args with
  | nil => exact ⟨args, rfl, by simp, by simp⟩
  | cons slot slots ih =>
    rw [pairwise_cons] at hapart
    rw [forall_mem_cons] at hread
    obtain ⟨⟨hne, htokens, hhole⟩, hlater⟩ := hread
    obtain ⟨middle, hfill, hfilled⟩ := exists_fill hhole slot.2
    have hfirst : replaceJsonPointer args slot.1 slot.2 = .ok middle := by
      simp [replaceJsonPointer, htokens, replaceAt_of_fill hne hfill]
    obtain ⟨filled, hrun, hvalues, hkept⟩ := ih middle hapart.2 fun s hs => by
      rw [readAt_fill_of_apart (hapart.1 s hs) hfill]
      exact hlater s hs
    refine ⟨filled, ?_, forall_mem_cons.mpr ⟨?_, hvalues⟩, ?_⟩
    · rw [fillSlots, foldlM_cons, hfirst]
      exact hrun
    · rw [hkept slot.1 fun s hs hnested => hapart.1 s hs hnested.symm, value_eq_ok]
      exact ⟨htokens, hfilled⟩
    · intro p hp v
      rw [forall_mem_cons] at hp
      rw [hkept p hp.2, value_eq_ok, value_eq_ok, readAt_fill_of_apart hp.1 hfill]

theorem holes_filled_sample : ∃ filled, fillSlots (.object [(py "b", .array [.null])])
      [(py "/b/0", .flag true)] = .ok filled ∧
    jsonPointerValue filled (py "/b/0") = .ok (.flag true) := by
  obtain ⟨filled, hfilled, hvalues, -⟩ := holes_filled id "slot" (.object [(py "b", .array [.null])])
    [(py "/b/0", .flag true)] (pairwise_singleton _ _)
    (forall_mem_singleton.mpr ⟨by decide, rfl⟩)
  exact ⟨filled, hfilled, hvalues _ mem_cons_self⟩

end Tiangong.Pointers
