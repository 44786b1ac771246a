import Mathlib.Order.MinMax
import Tiangong.PythonText

/-!
# Decoding JSON

`json.loads` with hooks that reject numbers and repeated keys. The decoder reads the text once from
the left; the containers that are still open form a stack, and the interpreter limits how many of
them may be open at once.
-/
namespace Tiangong

/-- A decoded document. The hooks let no number through. -/
inductive JsonValue where
  | null
  | flag (value : Bool)
  | text (value : PyStr)
  | array (items : List JsonValue)
  | object (fields : List (PyStr × JsonValue))

/-- Why a document is not decoded. -/
inductive JsonFault where
  /-- `JSONDecodeError`, with its message before the position. -/
  | malformed (message : String)
  /-- The hook for numbers and constants was called. -/
  | number (literal : PyStr)
  /-- The hook for objects met a key for the second time. -/
  | duplicateKey (key : PyStr)
  /-- `RecursionError`: too many containers are open. -/
  | recursion
  deriving DecidableEq, Repr

open CodePoint in
/-- The value of a hexadecimal digit. -/
def hexDigit (c : CodePoint) : Option ℕ :=
  if c.isDigit then some (c.val - 0x30)
  else if 0x61 ≤ c.val && c.val ≤ 0x66 then some (c.val - 0x61 + 10)
  else if 0x41 ≤ c.val && c.val ≤ 0x46 then some (c.val - 0x41 + 10)
  else none

/-- The code unit of four hexadecimal digits at the start of a text. -/
def hexUnit : PyStr → Option (Fin 0x10000)
  | a :: b :: c :: d :: _ => do
    let a ← hexDigit a
    let b ← hexDigit b
    let c ← hexDigit c
    let d ← hexDigit d
    pure (Fin.ofNat _ (((a * 16 + b) * 16 + c) * 16 + d))
  | _ => none

/-- The character that a letter after a backslash stands for. -/
def simpleEscape (c : CodePoint) : Option CodePoint :=
  [('"', '"'), ('\\', '\\'), ('/', '/'), ('b', '\x08'), ('f', '\x0c'), ('n', '\n'), ('r', '\r'),
    ('t', '\t')].findSome? fun (letter, char) =>
      if c = CodePoint.ofChar letter then some (CodePoint.ofChar char) else none

/-- The character of an escape after its backslash and the number of characters read. Two escapes
that are the halves of a surrogate pair are one character. -/
def scanEscape : PyStr → Except String (CodePoint × ℕ)
  | letter :: rest =>
    if letter = CodePoint.ofChar 'u' then
      match hexUnit rest with
      | none => .error "Invalid \\uXXXX escape"
      | some unit =>
        if 0xd800 ≤ unit.val && unit.val ≤ 0xdbff && (py "\\u").isPrefixOf (rest.drop 4) then
          match hexUnit (rest.drop 6) with
          | none => .error "Invalid \\uXXXX escape"
          | some low =>
            if 0xdc00 ≤ low.val && low.val ≤ 0xdfff then
              .ok (Fin.ofNat _ (0x10000 + (unit.val - 0xd800) * 0x400 + (low.val - 0xdc00)), 11)
            else .ok (Fin.ofNat _ unit.val, 5)
        else .ok (Fin.ofNat _ unit.val, 5)
    else
      match simpleEscape letter with
      | none => .error "Invalid \\escape"
      | some char => .ok (char, 1)
  | [] => .error "Unterminated string starting at"

/-- The string after an opening quote and the number of characters up to its closing quote, which is
counted. The first argument says how many characters an escape has already read. -/
def scanString : ℕ → PyStr → Except String (PyStr × ℕ)
  | _, [] => .error "Unterminated string starting at"
  | n + 1, _ :: rest => (scanString n rest).map fun (s, length) => (s, length + 1)
  | 0, c :: rest =>
    if c = CodePoint.ofChar '"' then .ok ([], 1)
    else if c = CodePoint.ofChar '\\' then do
      let (char, read) ← scanEscape rest
      let (s, length) ← scanString read rest
      pure (char :: s, length + 1)
    else if c.val < 0x20 then .error "Invalid control character at"
    else (scanString 0 rest).map fun (s, length) => (c :: s, length + 1)

/-- The digits of a fraction or an exponent with what comes before them, when there are any. -/
def digitsAfter (start rest : PyStr) : PyStr :=
  match rest.takeWhile CodePoint.isDigit with
  | [] => []
  | digits => start ++ digits

def fractionPart : PyStr → PyStr
  | c :: rest => if c = CodePoint.ofChar '.' then digitsAfter [c] rest else []
  | [] => []

def exponentPart : PyStr → PyStr
  | c :: rest =>
    if c = CodePoint.ofChar 'e' ∨ c = CodePoint.ofChar 'E' then
      match rest with
      | sign :: rest' =>
        if sign = CodePoint.ofChar '+' ∨ sign = CodePoint.ofChar '-' then digitsAfter [c, sign] rest'
        else digitsAfter [c] rest
      | [] => []
    else []
  | [] => []

def numberLiteral (text : PyStr) : Option PyStr :=
  let minus := text.takeWhile (· = CodePoint.ofChar '-')
  let rest := text.drop minus.length
  let digits := match rest with
    | c :: _ => if c = CodePoint.ofChar '0' then [c] else rest.takeWhile CodePoint.isDigit
    | [] => []
  if 1 < minus.length ∨ digits = [] then none
  else
    let fraction := fractionPart (rest.drop digits.length)
    let exponent := exponentPart (rest.drop (digits.length + fraction.length))
    some (minus ++ digits ++ fraction ++ exponent)

/-- An open container: its items in reverse, or its members in reverse and the key read last. -/
inductive Frame where
  | array (items : List JsonValue)
  | object (fields : List (PyStr × JsonValue)) (key : PyStr)

/-- What the decoder expects next. -/
inductive Expecting where
  | value
  /-- The first item of an array, or its end. -/
  | element
  /-- The first key of an object, or its end. -/
  | member
  | key
  | colon
  /-- A comma or the end of the container. -/
  | next
  | done (v : JsonValue)

structure Scan where
  expecting : Expecting
  stack : List Frame
  /-- The characters that the last token still covers. -/
  skip : ℕ

namespace Scan

def start : Scan := ⟨.value, [], 0⟩

/-- A value has been read; `skip` characters of it lie ahead. -/
def complete (v : JsonValue) (skip : ℕ) : List Frame → Scan
  | [] => ⟨.done v, [], skip⟩
  | .array items :: outer => ⟨.next, .array (v :: items) :: outer, skip⟩
  | .object fields key :: outer => ⟨.next, .object ((key, v) :: fields) key :: outer, skip⟩

/-- The first key that occurs before. -/
def firstDuplicate (seen : List PyStr) : List PyStr → Option PyStr
  | [] => none
  | key :: keys => if key ∈ seen then some key else firstDuplicate (key :: seen) keys

/-- The end of a container. -/
def close (closing : CodePoint) : List Frame → Option (Except JsonFault Scan)
  | .array items :: outer =>
    if closing = CodePoint.ofChar ']' then some (.ok (complete (.array items.reverse) 0 outer))
    else none
  | .object fields _ :: outer =>
    if closing = CodePoint.ofChar '}' then
      some (match firstDuplicate [] (fields.reverse.map (·.1)) with
        | some key => .error (.duplicateKey key)
        | none => .ok (complete (.object fields.reverse) 0 outer))
    else none
  | [] => none

/-- The words of JSON and the constants that go to the hook for numbers. -/
def words : List (PyStr × Except PyStr JsonValue) :=
  [(py "null", .ok .null), (py "true", .ok (.flag true)), (py "false", .ok (.flag false)),
    (py "NaN", .error (py "NaN")), (py "Infinity", .error (py "Infinity")),
    (py "-Infinity", .error (py "-Infinity"))]

def readString (rest : PyStr) : Except JsonFault (PyStr × ℕ) :=
  match scanString 0 rest with
  | .error message => .error (.malformed message)
  | .ok string => .ok string

/-- `scan_once`: the start of a value. -/
def readValue (stack : List Frame) (c : CodePoint) (rest : PyStr) : Except JsonFault Scan :=
  if c = CodePoint.ofChar '"' then (readString rest).map fun (s, n) => complete (.text s) n stack
  else if c = CodePoint.ofChar '{' then .ok ⟨.member, .object [] [] :: stack, 0⟩
  else if c = CodePoint.ofChar '[' then .ok ⟨.element, .array [] :: stack, 0⟩
  else
    match words.find? fun word => word.1.isPrefixOf (c :: rest) with
    | some (word, .ok v) => .ok (complete v (word.length - 1) stack)
    | some (_, .error constant) => .error (.number constant)
    | none =>
      match numberLiteral (c :: rest) with
      | some literal => .error (.number literal)
      | none => .error (.malformed "Expecting value")

/-- A key of the object on top of the stack. -/
def readKey (stack : List Frame) (c : CodePoint) (rest : PyStr) : Except JsonFault Scan :=
  match stack with
  | .object fields _ :: outer =>
    if c = CodePoint.ofChar '"' then
      (readString rest).map fun (s, n) => ⟨.colon, .object fields s :: outer, n⟩
    else .error (.malformed "Expecting property name enclosed in double quotes")
  | _ => .error (.malformed "Expecting property name enclosed in double quotes")

/-- What follows a value in a container that goes on. -/
def afterComma : List Frame → Expecting
  | .object _ _ :: _ => .key
  | _ => .value

def isBlank (c : CodePoint) : Bool :=
  c.val = 0x20 || c.val = 0x09 || c.val = 0x0a || c.val = 0x0d

/-- Read one character; the rest of the text may be looked at. -/
def advance (s : Scan) (c : CodePoint) (rest : PyStr) : Except JsonFault Scan :=
  match s.skip with
  | n + 1 => .ok { s with skip := n }
  | 0 =>
    if isBlank c then .ok s
    else
      match s.expecting with
      | .value => readValue s.stack c rest
      | .element => (close c s.stack).getD (readValue s.stack c rest)
      | .member => (close c s.stack).getD (readKey s.stack c rest)
      | .key => readKey s.stack c rest
      | .colon =>
        if c = CodePoint.ofChar ':' then .ok { s with expecting := .value }
        else .error (.malformed "Expecting ':' delimiter")
      | .next =>
        if c = CodePoint.ofChar ',' then .ok { s with expecting := afterComma s.stack }
        else (close c s.stack).getD (.error (.malformed "Expecting ',' delimiter"))
      | .done _ => .error (.malformed "Extra data")

/-- The end of the text. -/
def finish (s : Scan) : Except JsonFault JsonValue :=
  match s.expecting with
  | .done v => .ok v
  | .value | .element => .error (.malformed "Expecting value")
  | .member | .key => .error (.malformed "Expecting property name enclosed in double quotes")
  | .colon => .error (.malformed "Expecting ':' delimiter")
  | .next => .error (.malformed "Expecting ',' delimiter")

/-- Read a text with at most `limit` containers open. -/
def run (limit : ℕ) (s : Scan) : PyStr → Except JsonFault JsonValue
  | [] => s.finish
  | c :: rest =>
    match s.advance c rest with
    | .error e => .error e
    | .ok s' => if limit < s'.stack.length then .error .recursion else run limit s' rest

/-- The largest number of containers that are open while a text is read. -/
def deepest (s : Scan) : PyStr → ℕ
  | [] => s.stack.length
  | c :: rest =>
    max s.stack.length (match s.advance c rest with
      | .error _ => 0
      | .ok s' => s'.deepest rest)

end Scan

/-- `json.loads`, with the number of containers that the interpreter lets the decoder open. -/
def decodeJson (limit : ℕ) (text : PyStr) : Except JsonFault JsonValue := Scan.start.run limit text

/-- The nesting of a text up to the point where a decoder stops. -/
def nesting (text : PyStr) : ℕ := Scan.start.deepest text

namespace Scan

lemma readString_ne_recursion (rest : PyStr) : readString rest ≠ .error .recursion := by
  unfold readString
  cases scanString 0 rest with
  | error message => exact nofun
  | ok string => exact nofun

lemma close_ne_recursion (closing : CodePoint) (stack : List Frame) :
    close closing stack ≠ some (.error .recursion) := by
  rcases stack with _ | ⟨items | ⟨fields, key⟩, outer⟩
  · exact nofun
  · rw [close]
    split
    · exact nofun
    · exact nofun
  · rw [close]
    split
    · cases firstDuplicate [] (fields.reverse.map (·.1)) with
      | none => exact nofun
      | some key' => exact nofun
    · exact nofun

lemma readValue_ne_recursion (stack : List Frame) (c : CodePoint) (rest : PyStr) :
    readValue stack c rest ≠ .error .recursion := by
  unfold readValue
  split
  · intro h
    cases hstring : readString rest with
    | ok string => rw [hstring] at h; cases h
    | error e =>
      rw [hstring] at h
      cases h
      exact readString_ne_recursion rest hstring
  · split
    · exact nofun
    · split
      · exact nofun
      · split
        · exact nofun
        · exact nofun
        · cases numberLiteral (c :: rest) with
          | none => exact nofun
          | some literal => exact nofun

lemma readKey_ne_recursion (stack : List Frame) (c : CodePoint) (rest : PyStr) :
    readKey stack c rest ≠ .error .recursion := by
  unfold readKey
  split
  · split
    · intro h
      cases hstring : readString rest with
      | ok string => rw [hstring] at h; cases h
      | error e =>
        rw [hstring] at h
        cases h
        exact readString_ne_recursion rest hstring
    · exact nofun
  · exact nofun

/-- The end of a container is tried first. -/
lemma closeOr_ne_recursion {closing : CodePoint} {stack : List Frame}
    {otherwise : Except JsonFault Scan} (h : otherwise ≠ .error .recursion) :
    (close closing stack).getD otherwise ≠ .error .recursion := by
  cases hclose : close closing stack with
  | none => exact h
  | some result =>
    intro hresult
    rw [Option.getD_some] at hresult
    rw [hresult] at hclose
    exact close_ne_recursion closing stack hclose

/-- A step does not meet the limit by itself. -/
lemma advance_ne_recursion (s : Scan) (c : CodePoint) (rest : PyStr) :
    s.advance c rest ≠ .error .recursion := by
  unfold advance
  split
  · exact nofun
  · split
    · exact nofun
    · split
      · exact readValue_ne_recursion _ c rest
      · exact closeOr_ne_recursion (readValue_ne_recursion _ c rest)
      · exact closeOr_ne_recursion (readKey_ne_recursion _ c rest)
      · exact readKey_ne_recursion _ c rest
      · split
        · exact nofun
        · exact nofun
      · split
        · exact nofun
        · exact closeOr_ne_recursion nofun
      · exact nofun

lemma finish_ne_recursion (s : Scan) : s.finish ≠ .error .recursion := by
  unfold finish
  cases s.expecting with
  | done v => exact nofun
  | value | element | member | key | colon | next => exact nofun

/-- A run meets the limit exactly when more containers are open than it allows. -/
lemma run_eq_recursion {limit : ℕ} {s : Scan} {text : PyStr} (h : s.stack.length ≤ limit) :
    s.run limit text = .error .recursion ↔ limit < s.deepest text := by
  induction text generalizing s with
  | nil =>
    rw [run, deepest]
    exact iff_of_false (finish_ne_recursion s) (Nat.not_lt.mpr h)
  | cons c rest ih =>
    rw [run, deepest, lt_max_iff]
    have hnow : ¬ limit < s.stack.length := Nat.not_lt.mpr h
    cases hadvance : s.advance c rest with
    | error e =>
      have he : e ≠ .recursion := by
        rintro rfl
        exact advance_ne_recursion s c rest hadvance
      simp [hnow, he]
    | ok s' =>
      by_cases hdeep : limit < s'.stack.length
      · have hafter : limit < s'.deepest rest := by
          cases rest with
          | nil => exact hdeep
          | cons c' rest' => exact lt_max_of_lt_left hdeep
        simp [hdeep, hafter]
      · simp only [hdeep, if_false, hnow, false_or]
        exact ih (Nat.not_lt.mp hdeep)

end Scan

/-- The decoder runs into the recursion limit exactly on texts that nest deeper. -/
theorem decodeJson_recursion {limit : ℕ} {text : PyStr} :
    decodeJson limit text = .error .recursion ↔ limit < nesting text :=
  Scan.run_eq_recursion (Nat.zero_le _)

end Tiangong
