import Mathlib.Data.String.Basic
import Tiangong.PlatformJson

/-!
# Canonical JSON

`canonical_json_bytes` gives a contract value the bytes that the ledgers, the bindings and the
signatures hash: a value is normalised, its keys in the order of their UTF-16 units, written
without blanks and encoded in UTF-8.
-/
namespace Tiangong

open CodePoint

def CodePoint.toChar (c : CodePoint) : Option Char :=
  if h : c.val.isValidChar then some (Char.ofNatAux c.val h) else none

namespace PyStr

/-- `text.encode("utf-8")`, which refuses surrogates. -/
def encode (text : PyStr) : Option ByteArray :=
  (text.mapM toChar).map fun chars => (String.ofList chars).toByteArray

/-- `bytes.decode("utf-8")`. -/
def decode (bytes : ByteArray) : Option PyStr := (String.fromUTF8? bytes).map py

end PyStr

lemma CodePoint.ofChar_of_toChar {c : CodePoint} {char : Char} (h : c.toChar = some char) :
    ofChar char = c := by
  by_cases hvalid : c.val.isValidChar
  · rw [toChar, dif_pos hvalid] at h
    obtain rfl := Option.some.inj h
    rfl
  · rw [toChar, dif_neg hvalid] at h
    cases h

lemma CodePoint.exists_toChar {c : CodePoint} (h : c.isSurrogate = false) :
    ∃ char, c.toChar = some char := by
  have hbound := c.isLt
  have hvalid : c.val.isValidChar := by
    simp only [isSurrogate, Bool.and_eq_false_iff, decide_eq_false_iff_not] at h
    unfold Nat.isValidChar
    omega
  exact ⟨_, dif_pos hvalid⟩

namespace PyStr

theorem exists_encode {text : PyStr} (h : text.Encodable) : ∃ bytes, text.encode = some bytes := by
  have hchars : ∃ chars, text.mapM toChar = some chars := by
    induction text with
    | nil => exact ⟨[], rfl⟩
    | cons c text ih =>
      obtain ⟨char, hchar⟩ := exists_toChar (h c List.mem_cons_self)
      obtain ⟨chars, hchars⟩ := ih fun d hd => h d (List.mem_cons_of_mem _ hd)
      refine ⟨char :: chars, ?_⟩
      rw [List.mapM_cons, hchar, hchars]
      rfl
  obtain ⟨chars, hchars⟩ := hchars
  exact ⟨_, by rw [encode, hchars, Option.map_some]⟩

theorem decode_of_encode {text : PyStr} {bytes : ByteArray} (h : text.encode = some bytes) :
    decode bytes = some text := by
  have hchars : ∀ (cs : PyStr) chars, cs.mapM toChar = some chars →
      chars.map ofChar = cs := by
    intro cs
    induction cs with
    | nil =>
      intro chars hmap
      cases hmap
      rfl
    | cons c cs ih =>
      intro chars hmap
      rw [List.mapM_cons] at hmap
      obtain ⟨char, hchar, hbind⟩ := Option.bind_eq_some_iff.mp hmap
      obtain ⟨rest, hrest, heq⟩ := Option.bind_eq_some_iff.mp hbind
      obtain rfl := Option.some.inj heq
      rw [List.map_cons, ofChar_of_toChar hchar, ih rest hrest]
  obtain ⟨chars, hmap, rfl⟩ := Option.map_eq_some_iff.mp h
  have hdecode : String.fromUTF8? (String.ofList chars).toByteArray =
      some (String.ofList chars) := by
    rw [String.fromUTF8?, dif_pos (String.ofList chars).isValidUTF8]
    rfl
  rw [decode, hdecode, Option.map_some, py, String.toList_ofList, hchars text chars hmap]

end PyStr

inductive SequenceKind where
  | list
  | tuple
  deriving DecidableEq

/-- A mapping, or a contract record that stands for what `model_dump(mode="json")` makes of it. -/
inductive MappingKind where
  | dict
  | record
  deriving DecidableEq

inductive ContractKey where
  | text (key : PyStr)
  | other (typeName : String)
  deriving DecidableEq

/-- What the gateway may be asked to hash. -/
inductive PyValue where
  | none
  | flag (value : Bool)
  | int (value : ℤ)
  | real (literal : PyStr)
  | text (value : PyStr)
  | sequence (kind : SequenceKind) (items : List PyValue)
  | mapping (kind : MappingKind) (fields : List (ContractKey × PyValue))
  /-- Bytes, a set, a date, and so on. -/
  | other (typeName : String)

namespace PyValue

instance : Inhabited PyValue := ⟨none⟩

mutual

/-- No mapping holds a key twice. -/
def Distinct : PyValue → Prop
  | .sequence _ items => DistinctItems items
  | .mapping _ fields => (fields.map Prod.fst).Nodup ∧ DistinctFields fields
  | _ => True

def DistinctItems : List PyValue → Prop
  | [] => True
  | v :: vs => v.Distinct ∧ DistinctItems vs

def DistinctFields : List (ContractKey × PyValue) → Prop
  | [] => True
  | (_, v) :: fields => v.Distinct ∧ DistinctFields fields

end

mutual

/-- Equal values, where lists and tuples are the same, the order of a mapping plays no part and a
boolean is no integer. -/
def same : PyValue → PyValue → Bool
  | .none, .none => true
  | .flag value, .flag value' => value = value'
  | .int value, .int value' => value = value'
  | .real literal, .real literal' => literal = literal'
  | .text value, .text value' => value = value'
  | .sequence _ items, .sequence _ items' => sameItems items items'
  | .mapping _ fields, .mapping _ fields' =>
    fields.length = fields'.length && sameFields fields fields'
  | .other typeName, .other typeName' => typeName = typeName'
  | _, _ => false

def sameItems : List PyValue → List PyValue → Bool
  | [], [] => true
  | v :: vs, v' :: vs' => same v v' && sameItems vs vs'
  | _, _ => false

/-- Every member has an equal one under its key. -/
def sameFields : List (ContractKey × PyValue) → List (ContractKey × PyValue) → Bool
  | [], _ => true
  | (key, v) :: fields, fields' =>
    (match fields'.lookup key with
      | some v' => same v v'
      | Option.none => false) && sameFields fields fields'

end

end PyValue

/-- A value of the contracts: no mapping in it holds a key twice. -/
structure ContractValue where
  value : PyValue
  distinct : value.Distinct

/-- Why a value has no canonical bytes. -/
inductive CanonicalFault where
  | value (message : String)
  | type (message : String)
  /-- The encoder met more open containers than the interpreter allows. -/
  | recursion
  deriving DecidableEq, Repr

namespace PyValue

open PlatformJson (utf16 maxSafeInteger)

def utf16SortKey (text : PyStr) : Except CanonicalFault (List ℕ) :=
  if text.Encodable then .ok (utf16 text)
  else .error (.value "canonical JSON strings may not contain lone surrogates")

def stringKeys {α : Type} : List (ContractKey × α) → Except CanonicalFault (List (PyStr × α))
  | [] => .ok []
  | (.text key, v) :: members => (stringKeys members).map fun rest => (key, v) :: rest
  | (.other _, _) :: _ => .error (.type "canonical JSON object keys must be strings")

/-- `sorted(value, key=_utf16_sort_key)`. -/
def sortedByKey {α : Type} (members : List (PyStr × α)) :
    Except CanonicalFault (List (PyStr × α)) := do
  let _ ← members.mapM fun m => utf16SortKey m.1
  pure (orderBy (fun m m' => utf16 m.1 ≤ utf16 m'.1) members)

def canonicalMapping (members : List (ContractKey × Except CanonicalFault PlatformJson)) :
    Except CanonicalFault PlatformJson := do
  let named ← stringKeys members
  let ordered ← sortedByKey named
  let fields ← ordered.mapM fun m => m.2.map fun v => (m.1, v)
  pure (.object fields)

mutual

def canonicalValue : PyValue → Except CanonicalFault PlatformJson
  | .none => .ok .null
  | .flag value => .ok (.flag value)
  | .text value => (utf16SortKey value).map fun _ => .text value
  | .int value =>
    if value.natAbs ≤ maxSafeInteger then .ok (.int value)
    else .error (.value "integer is outside the interoperable JSON range")
  | .real _ =>
    .error (.type "floating-point values are forbidden in signed gateway contracts")
  | .mapping _ fields => canonicalMapping (canonicalMembers fields)
  | .sequence _ items => (canonicalSequence items).map .array
  | .other typeName => .error (.type ("unsupported canonical JSON value: " ++ typeName))

def canonicalSequence : List PyValue → Except CanonicalFault (List PlatformJson)
  | [] => .ok []
  | v :: vs => do
    let item ← canonicalValue v
    let items ← canonicalSequence vs
    pure (item :: items)

/-- What becomes of each member; the first fault in the order of the keys is the one raised. -/
def canonicalMembers :
    List (ContractKey × PyValue) → List (ContractKey × Except CanonicalFault PlatformJson)
  | [] => []
  | (key, v) :: fields => (key, canonicalValue v) :: canonicalMembers fields

end

end PyValue

namespace PlatformJson

mutual

/-- How many containers are open at most. -/
def depth : PlatformJson → ℕ
  | .array items => itemsDepth items + 1
  | .object fields => fieldsDepth fields + 1
  | _ => 0

def itemsDepth : List PlatformJson → ℕ
  | [] => 0
  | v :: vs => max v.depth (itemsDepth vs)

def fieldsDepth : List (PyStr × PlatformJson) → ℕ
  | [] => 0
  | (_, v) :: fields => max v.depth (fieldsDepth fields)

end

variable (interpreter : Interpreter)

mutual

/-- `json.dumps`, compact, keeping characters outside ASCII and the order of the keys. -/
def compactText : PlatformJson → PyStr
  | .null => py "null"
  | .flag true => py "true"
  | .flag false => py "false"
  | .int value => py (toString value)
  | .real literal => interpreter.floatText literal
  | .text s => jsonString s
  | .array items => .ofChar '[' :: PyStr.join (py ",") (compactItems items) ++ [.ofChar ']']
  | .object fields =>
    .ofChar '{' :: PyStr.join (py ",") (compactFields fields) ++ [.ofChar '}']

def compactItems : List PlatformJson → List PyStr
  | [] => []
  | v :: vs => compactText v :: compactItems vs

def compactFields : List (PyStr × PlatformJson) → List PyStr
  | [] => []
  | (key, v) :: fields => (jsonString key ++ .ofChar ':' :: compactText v) :: compactFields fields

end

/-- `json.loads` of bytes in UTF-8. -/
def loadsBytes (bytes : ByteArray) : Except JsonFault PlatformJson :=
  match PyStr.decode bytes with
  | some input => loads interpreter input
  | none => .error (.malformed "invalid UTF-8")

mutual

/-- The Python value that `json.loads` builds. -/
def toPython : PlatformJson → PyValue
  | .null => .none
  | .flag value => .flag value
  | .int value => .int value
  | .real literal => .real literal
  | .text value => .text value
  | .array items => .sequence .list (itemsToPython items)
  | .object fields => .mapping .dict (fieldsToPython fields)

def itemsToPython : List PlatformJson → List PyValue
  | [] => []
  | v :: vs => v.toPython :: itemsToPython vs

def fieldsToPython : List (PyStr × PlatformJson) → List (ContractKey × PyValue)
  | [] => []
  | (key, v) :: fields => (.text key, v.toPython) :: fieldsToPython fields

end

end PlatformJson

namespace ContractValue

def canonicalJsonBytes (interpreter : Interpreter) (v : ContractValue) :
    Except CanonicalFault ByteArray := do
  let normalized ← v.value.canonicalValue
  if interpreter.jsonDepth < normalized.depth then throw .recursion
  match (normalized.compactText interpreter).encode with
  | some bytes => pure bytes
  | none => throw (.value "surrogates not allowed")

/-- `canonical_sha256`; `sha256` gives the hexadecimal digest of bytes. -/
def canonicalSha256 (interpreter : Interpreter) (sha256 : ByteArray → String)
    (v : ContractValue) : Except CanonicalFault String :=
  (canonicalJsonBytes interpreter v).map sha256

def Same (v v' : ContractValue) : Prop := v.value.same v'.value = true

end ContractValue

end Tiangong
