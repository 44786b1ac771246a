import Tiangong.JsonText
import Tiangong.Tables

/-!
# Documents of the platforms

What `json.loads` makes of a text that a platform sends, numbers included, and the canonical form
that the gateway hashes. A float is kept as its literal; the interpreter says how it is shown.
-/
namespace Tiangong

open CodePoint

inductive PlatformJson where
  | null
  | flag (value : Bool)
  | int (value : ℤ)
  | real (literal : PyStr)
  | text (value : PyStr)
  | array (items : List PlatformJson)
  | object (fields : List (PyStr × PlatformJson))

/-- What is left to the interpreter: the containers that its JSON decoder opens at most, and the
text of a float. -/
structure Interpreter where
  jsonDepth : ℕ
  floatText : PyStr → PyStr

namespace PlatformJson

instance : Inhabited PlatformJson := ⟨null⟩

/-- `mapping.get(key)`, where a missing key and `None` are the same. -/
def get (fields : List (PyStr × PlatformJson)) (key : PyStr) : PlatformJson :=
  (fields.lookup key).getD null

def digitValue (digits : PyStr) : ℕ := digits.foldl (fun n c => 10 * n + (c.val - 0x30)) 0

/-- The number of a literal. The interpreter converts at most 4300 digits to an integer. -/
def ofLiteral (literal : PyStr) : Option PlatformJson :=
  let digits := literal.dropWhile (· = ofChar '-')
  if !digits.all isDigit then some (real literal)
  else if 4300 < digits.length then none
  else if digits.length < literal.length then some (int (-(digitValue digits : ℤ)))
  else some (int (digitValue digits))

def dropBlank (input : PyStr) : PyStr := input.dropWhile Scan.isBlank

/-- The words of JSON and the constants that become floats. -/
def words : List (PyStr × PlatformJson) :=
  [(py "null", null), (py "true", flag true), (py "false", flag false),
    (py "NaN", real (py "NaN")), (py "Infinity", real (py "Infinity")),
    (py "-Infinity", real (py "-Infinity"))]

/-- A word or a number at the start of a text, and the text after it. -/
def loadAtom (input : PyStr) : Except JsonFault (PlatformJson × PyStr) :=
  match words.find? fun word => word.1.isPrefixOf input with
  | some (word, v) => .ok (v, input.drop word.length)
  | none =>
    match numberLiteral input with
    | none => .error (.malformed "Expecting value")
    | some literal =>
      match ofLiteral literal with
      | none => .error (.number literal)
      | some v => .ok (v, input.drop literal.length)

/-- The string after an opening quote, and the text after its closing one. -/
def loadString (rest : PyStr) : Except JsonFault (PyStr × PyStr) :=
  (Scan.readString rest).map fun (s, n) => (s, rest.drop n)

mutual

/-- A value at the start of a text. `depth` containers may be opened in it; `fuel` bounds the
characters that are looked at. -/
def loadValue : ℕ → ℕ → PyStr → Except JsonFault (PlatformJson × PyStr)
  | 0, _, _ => .error (.malformed "Expecting value")
  | fuel + 1, depth, input =>
    match input with
    | [] => .error (.malformed "Expecting value")
    | c :: rest =>
      if c = ofChar '"' then (loadString rest).map fun (s, rest') => (.text s, rest')
      else if c = CodePoint.ofChar '{' then
        match depth with
        | 0 => .error .recursion
        | depth + 1 => (loadMembers fuel depth true [] (dropBlank rest)).map fun (fields, rest') =>
            (.object fields, rest')
      else if c = CodePoint.ofChar '[' then
        match depth with
        | 0 => .error .recursion
        | depth + 1 => (loadItems fuel depth true (dropBlank rest)).map fun (items, rest') =>
            (.array items, rest')
      else loadAtom (c :: rest)

/-- The items of an array up to its end; before the first one the end may stand. -/
def loadItems : ℕ → ℕ → Bool → PyStr → Except JsonFault (List PlatformJson × PyStr)
  | 0, _, _, _ => .error (.malformed "Expecting value")
  | fuel + 1, depth, first, input => do
    if first && input.head? = some (CodePoint.ofChar ']') then return ([], input.tail)
    let (v, rest) ← loadValue fuel depth input
    match dropBlank rest with
    | c :: rest' =>
      if c = CodePoint.ofChar ']' then return ([v], rest')
      else if c = CodePoint.ofChar ',' then
        let (vs, rest'') ← loadItems fuel depth false (dropBlank rest')
        return (v :: vs, rest'')
      else .error (.malformed "Expecting ',' delimiter")
    | [] => .error (.malformed "Expecting ',' delimiter")

/-- The members of an object up to its end. The hook for objects refuses a key it has seen. -/
def loadMembers :
    ℕ → ℕ → Bool → List PyStr → PyStr → Except JsonFault (List (PyStr × PlatformJson) × PyStr)
  | 0, _, _, _, _ => .error (.malformed "Expecting value")
  | fuel + 1, depth, first, seen, input => do
    if first && input.head? = some (CodePoint.ofChar '}') then return ([], input.tail)
    if input.head? ≠ some (CodePoint.ofChar '"') then
      throw (.malformed "Expecting property name enclosed in double quotes")
    let (key, afterKey) ← loadString input.tail
    match dropBlank afterKey with
    | colon :: rest =>
      if colon ≠ ofChar ':' then throw (.malformed "Expecting ':' delimiter")
      let (v, afterValue) ← loadValue fuel depth (dropBlank rest)
      match dropBlank afterValue with
      | c :: rest' =>
        if c = ofChar '}' then
          if key ∈ seen then throw (.duplicateKey key) else return ([(key, v)], rest')
        else if c = ofChar ',' then
          let (fields, rest'') ← loadMembers fuel depth false (key :: seen) (dropBlank rest')
          if key ∈ seen then throw (.duplicateKey key) else return ((key, v) :: fields, rest'')
        else .error (.malformed "Expecting ',' delimiter")
      | [] => .error (.malformed "Expecting ',' delimiter")
    | [] => .error (.malformed "Expecting ':' delimiter")

end

/-- `json.loads` with a hook that refuses repeated keys. -/
def loads (interpreter : Interpreter) (input : PyStr) : Except JsonFault PlatformJson := do
  let (v, rest) ← loadValue (2 * input.length + 2) interpreter.jsonDepth (dropBlank input)
  if dropBlank rest = [] then pure v else .error (.malformed "Extra data")

/-- The escapes of `json.dumps` that keep characters outside ASCII. -/
def escaped (c : CodePoint) : PyStr :=
  if c = ofChar '"' then py "\\\""
  else if c = ofChar '\\' then py "\\\\"
  else if c = ofChar '\n' then py "\\n"
  else if c = ofChar '\r' then py "\\r"
  else if c = ofChar '\t' then py "\\t"
  else if c.val = 0x0c then py "\\f"
  else if c.val = 0x08 then py "\\b"
  else if c.val < 0x20 then
    py "\\u00" ++ [if c.val < 0x10 then .ofChar '0' else .ofChar '1',
      if c.val % 0x10 < 10 then ofChar '0' + Fin.ofNat _ (c.val % 0x10)
      else ofChar 'a' + Fin.ofNat _ (c.val % 0x10 - 10)]
  else [c]

def jsonString (s : PyStr) : PyStr := .ofChar '"' :: s.flatMap escaped ++ [.ofChar '"']

/-- The code units of a text in UTF-16, by which keys are sorted. -/
def utf16 (s : PyStr) : List ℕ :=
  s.flatMap fun c =>
    if c.val < 0x10000 then [c.val]
    else [0xd800 + (c.val - 0x10000) / 0x400, 0xdc00 + (c.val - 0x10000) % 0x400]

def maxSafeInteger : ℕ := 9007199254740991

def joinMembers (members : List (PyStr × PyStr)) : PyStr :=
  .ofChar '{' :: PyStr.join (py ",")
    ((orderBy (fun m m' => utf16 m.1 ≤ utf16 m'.1) members).map fun m =>
      jsonString m.1 ++ .ofChar ':' :: m.2) ++ [.ofChar '}']

mutual

/-- `canonical_json_bytes` before its encoding. Floats, unsafe integers and surrogates have no
canonical form. -/
def canonicalText : PlatformJson → Option PyStr
  | .null => some (py "null")
  | .flag true => some (py "true")
  | .flag false => some (py "false")
  | .int value => if value.natAbs ≤ maxSafeInteger then some (py (toString value)) else none
  | .real _ => none
  | .text s => if s.Encodable then some (jsonString s) else none
  | .array items => (canonicalItems items).map fun parts =>
      .ofChar '[' :: PyStr.join (py ",") parts ++ [.ofChar ']']
  | .object fields => (canonicalFields fields).map joinMembers

def canonicalItems : List PlatformJson → Option (List PyStr)
  | [] => some []
  | v :: vs => do
    let part ← canonicalText v
    let parts ← canonicalItems vs
    pure (part :: parts)

def canonicalFields : List (PyStr × PlatformJson) → Option (List (PyStr × PyStr))
  | [] => some []
  | (key, v) :: fields => do
    if ¬ key.Encodable then none
    let part ← canonicalText v
    let parts ← canonicalFields fields
    pure ((key, part) :: parts)

end

end PlatformJson

end Tiangong
