import Mathlib.Tactic.IntervalCases
import Tiangong.JsonObjects

/-!
# Texts of JSON values

The text of a value ends where a reader stands outside strings, with as many containers open as
before. So the values between commas can be told apart, and two objects with one text have the
same members: the same keys, with values of the same texts.
-/
namespace Tiangong

open List PyStr CodePoint

/-- Where a reader of a JSON text stands in a container. -/
inductive TextPlace where
  | outside
  | inString
  | afterBackslash
  deriving DecidableEq

/-- How many containers are open, and where the reader stands in the innermost. -/
abbrev TextState := ℕ × TextPlace

namespace TextState

/-- One character. A comma or a closing bracket ends the text that no container holds. -/
def read : TextState → CodePoint → Option TextState
  | (depth, .outside), c =>
    if c = .ofChar '"' then some (depth, .inString)
    else if c = .ofChar '[' ∨ c = .ofChar '{' then some (depth + 1, .outside)
    else if c = .ofChar ']' ∨ c = .ofChar '}' then
      match depth with
      | 0 => none
      | depth + 1 => some (depth, .outside)
    else if c = .ofChar ',' then
      match depth with
      | 0 => none
      | depth + 1 => some (depth + 1, .outside)
    else some (depth, .outside)
  | (depth, .inString), c =>
    if c = .ofChar '\\' then some (depth, .afterBackslash)
    else if c = .ofChar '"' then some (depth, .outside)
    else some (depth, .inString)
  | (depth, .afterBackslash), _ => some (depth, .inString)

def readAll (s : TextState) (text : PyStr) : Option TextState := text.foldlM read s

lemma readAll_append (s : TextState) (text rest : PyStr) :
    s.readAll (text ++ rest) = (s.readAll text).bind fun s' => s'.readAll rest :=
  foldlM_append

lemma readAll_cons (s : TextState) (c : CodePoint) (rest : PyStr) :
    s.readAll (c :: rest) = (s.read c).bind fun s' => s'.readAll rest := rfl

end TextState

/-- A text that a reader passes, whatever containers are open. -/
def Passes (text : PyStr) : Prop :=
  ∀ depth, TextState.readAll (depth, .outside) text = some (depth, .outside)

/-- A character at which the text of a value may end. -/
def Stops (c : CodePoint) : Prop := TextState.read (0, .outside) c = none

variable {text : PyStr}

lemma passes_append {rest : PyStr} (h : Passes text) (hrest : Passes rest) :
    Passes (text ++ rest) := by
  intro depth
  rw [TextState.readAll_append, h depth]
  exact hrest depth

/-- A character outside strings that is no bracket and no comma. -/
def isBare (c : CodePoint) : Bool :=
  c ≠ .ofChar '"' && c ≠ .ofChar '[' && c ≠ .ofChar '{' && c ≠ .ofChar ']' && c ≠ .ofChar '}' &&
    c ≠ .ofChar ','

lemma passes_bare (h : text.all isBare = true) : Passes text := by
  intro depth
  induction text with
  | nil => rfl
  | cons c text ih =>
    simp only [List.all_cons, Bool.and_eq_true] at h
    have hread : TextState.read (depth, .outside) c = some (depth, .outside) := by
      have hc := h.1
      simp only [isBare, holds_iff] at hc
      obtain ⟨⟨⟨⟨⟨hquote, hopen⟩, hbrace⟩, hclose⟩, hend⟩, hcomma⟩ := hc
      simp [TextState.read, hquote, hopen, hbrace, hclose, hend, hcomma]
    rw [TextState.readAll_cons, hread]
    exact ih h.2

/-- Where one of two texts that pass ends, the other ends. -/
lemma passes_ends {text' rest rest' : PyStr} {c c' : CodePoint} (h : Passes text)
    (h' : Passes text') (hc : Stops c) (hc' : Stops c')
    (heq : text ++ c :: rest = text' ++ c' :: rest') : text = text' ∧ c :: rest = c' :: rest' := by
  have hstop : ∀ {short tail : PyStr} {d : CodePoint}, Passes short →
      Passes (short ++ d :: tail) → ¬ Stops d := by
    intro short tail d hshort hlong hd
    have hall := hlong 0
    rw [TextState.readAll_append, hshort 0] at hall
    change (TextState.readAll (0, .outside) (d :: tail)) = _ at hall
    rw [TextState.readAll_cons, hd] at hall
    cases hall
  rcases List.append_eq_append_iff.mp heq with ⟨mid, hmid, hrest⟩ | ⟨mid, hmid, hrest⟩
  · cases mid with
    | nil => simp_all
    | cons d mid =>
      exfalso
      obtain ⟨rfl, -⟩ := List.cons.inj hrest
      rw [hmid] at h'
      exact hstop h h' hc
  · cases mid with
    | nil => simp_all
    | cons d mid =>
      exfalso
      obtain ⟨rfl, -⟩ := List.cons.inj hrest
      rw [hmid] at h
      exact hstop h' h hc'

lemma scanString_skip (read tail : PyStr) : scanString read.length (read ++ tail) =
      (scanString 0 tail).map fun found => (found.1, found.2 + read.length) := by
  induction read with
  | nil =>
    cases h : scanString 0 tail <;> simp [h, Except.map]
  | cons c read ih =>
    rw [List.length_cons, List.cons_append, scanString, ih]
    cases scanString 0 tail <;> rfl

lemma scanString_escape {escape tail : PyStr} {c : CodePoint}
    (h : scanEscape (escape ++ tail) = .ok (c, escape.length)) :
    scanString 0 (.ofChar '\\' :: escape ++ tail) =
      (scanString 0 tail).map fun found => (c :: found.1, found.2 + (escape.length + 1)) := by
  have hquote : CodePoint.ofChar '\\' ≠ .ofChar '"' := by decide
  rw [cons_append, scanString, if_neg hquote, if_pos rfl, h]
  change (scanString escape.length (escape ++ tail) >>= _) = _
  rw [scanString_skip]
  cases scanString 0 tail <;> rfl

namespace PlatformJson

lemma hexDigit_digit {k : ℕ} (hk : k < 10) :
    hexDigit (ofChar '0' + Fin.ofNat _ k) = some k := by
  interval_cases k <;> rfl

lemma hexDigit_letter {k : ℕ} (hk : k < 6) :
    hexDigit (ofChar 'a' + Fin.ofNat _ k) = some (k + 10) := by
  interval_cases k <;> rfl

variable {c : CodePoint}

lemma read_hexDigit {value : ℕ} (h : hexDigit c = some value) (depth : ℕ) :
    TextState.read (depth, .inString) c = some (depth, .inString) := by
  have hbackslash : c ≠ .ofChar '\\' := by
    rintro rfl
    cases h
  have hquote : c ≠ .ofChar '"' := by
    rintro rfl
    cases h
  rw [TextState.read, if_neg hbackslash, if_neg hquote]

/-- The escape of a character by its number. -/
lemma scanEscape_control {x y : CodePoint} (hc : c.val < 0x20)
    (hx : hexDigit x = some (c.val / 16)) (hy : hexDigit y = some (c.val % 16)) (tail : PyStr) :
    scanEscape (py "u00" ++ [x, y] ++ tail) = .ok (c, (py "u00" ++ [x, y]).length) := by
  have hnumber : ((0 * 16 + 0) * 16 + c.val / 16) * 16 + c.val % 16 = c.val := by omega
  have hunit : hexUnit (py "00" ++ [x, y] ++ tail) = some (Fin.ofNat _ c.val) := by
    change (do
      let a ← some 0
      let b ← some 0
      let c' ← hexDigit x
      let d ← hexDigit y
      pure (Fin.ofNat _ (((a * 16 + b) * 16 + c') * 16 + d)) : Option (Fin 0x10000)) = _
    rw [hx, hy]
    exact congrArg (fun n => some (Fin.ofNat _ n)) hnumber
  have hval : (Fin.ofNat 0x10000 c.val).val = c.val := by
    simp only [Fin.ofNat]
    omega
  change scanEscape (.ofChar 'u' :: (py "00" ++ [x, y] ++ tail)) = _
  rw [scanEscape, if_pos rfl, hunit]
  dsimp only
  rw [hval]
  have hlow : (decide (0xd800 ≤ c.val) && decide (c.val ≤ 0xdbff)) = false := by
    rw [Bool.and_eq_false_iff]
    left
    simp only [decide_eq_false_iff_not]
    omega
  rw [hlow]
  simp
  rfl

/-- A character that a string does not hold as it is has an escape that stands for it. -/
lemma escaped_special
    (hc : c.val < 0x20 ∨ c = .ofChar '"' ∨ c = .ofChar '\\') :
    ∃ escape, escaped c = .ofChar '\\' :: escape ∧
      (∀ tail, scanEscape (escape ++ tail) = .ok (c, escape.length)) ∧
      ∀ depth, TextState.readAll (depth, .afterBackslash) escape = some (depth, .inString) := by
  by_cases hquote : c = .ofChar '"'
  · subst hquote
    exact ⟨py "\"", rfl, fun _ => rfl, fun _ => rfl⟩
  by_cases hbackslash : c = .ofChar '\\'
  · subst hbackslash
    exact ⟨py "\\", rfl, fun _ => rfl, fun _ => rfl⟩
  by_cases hline : c = .ofChar '\n'
  · subst hline
    exact ⟨py "n", rfl, fun _ => rfl, fun _ => rfl⟩
  by_cases hreturn : c = .ofChar '\r'
  · subst hreturn
    exact ⟨py "r", rfl, fun _ => rfl, fun _ => rfl⟩
  by_cases htab : c = .ofChar '\t'
  · subst htab
    exact ⟨py "t", rfl, fun _ => rfl, fun _ => rfl⟩
  by_cases hfeed : c.val = 0x0c
  · obtain rfl : c = .ofChar '\x0c' := Fin.ext hfeed
    exact ⟨py "f", rfl, fun _ => rfl, fun _ => rfl⟩
  by_cases hback : c.val = 0x08
  · obtain rfl : c = .ofChar '\x08' := Fin.ext hback
    exact ⟨py "b", rfl, fun _ => rfl, fun _ => rfl⟩
  have hlow : c.val < 0x20 := by
    rcases hc with hlow | hc | hc
    · exact hlow
    · exact absurd hc hquote
    · exact absurd hc hbackslash
  have hescaped : ∃ x y, escaped c = .ofChar '\\' :: (py "u00" ++ [x, y]) ∧
      hexDigit x = some (c.val / 16) ∧ hexDigit y = some (c.val % 16) := by
    refine ⟨if c.val < 0x10 then .ofChar '0' else .ofChar '1',
      if c.val % 0x10 < 10 then ofChar '0' + Fin.ofNat _ (c.val % 0x10)
      else ofChar 'a' + Fin.ofNat _ (c.val % 0x10 - 10), ?_, ?_, ?_⟩
    · rw [escaped, if_neg hquote, if_neg hbackslash, if_neg hline, if_neg hreturn, if_neg htab,
        if_neg hfeed, if_neg hback, if_pos hlow]
      rfl
    · split
      · rw [show c.val / 16 = 0 by omega]
        rfl
      · rw [show c.val / 16 = 1 by omega]
        rfl
    · split
      · rename_i hdigit
        exact hexDigit_digit hdigit
      · rename_i hdigit
        rw [hexDigit_letter (by omega)]
        congr 1
        omega
  obtain ⟨x, y, heq, hx, hy⟩ := hescaped
  refine ⟨py "u00" ++ [x, y], heq, scanEscape_control hlow hx hy, fun depth => ?_⟩
  change (TextState.read (depth, .inString) x >>= fun s =>
    TextState.read s y >>= fun s => some s) = _
  rw [read_hexDigit hx]
  change (TextState.read (depth, .inString) y >>= fun s => some s) = _
  rw [read_hexDigit hy]
  rfl

lemma escaped_plain
    (hc : ¬ (c.val < 0x20 ∨ c = .ofChar '"' ∨ c = .ofChar '\\')) : escaped c = [c] := by
  simp only [not_or, not_lt] at hc
  obtain ⟨hcontrol, hquote, hbackslash⟩ := hc
  have hne : ∀ d : CodePoint, d.val < 0x20 → c ≠ d := by
    rintro d hd rfl
    omega
  have hline := hne (.ofChar '\n') (by decide)
  have hreturn := hne (.ofChar '\r') (by decide)
  have htab := hne (.ofChar '\t') (by decide)
  have hfeed : c.val ≠ 0x0c := by omega
  have hback : c.val ≠ 0x08 := by omega
  have hlow : ¬ c.val < 0x20 := by omega
  rw [escaped, if_neg hquote, if_neg hbackslash, if_neg hline, if_neg hreturn, if_neg htab,
    if_neg hfeed, if_neg hback, if_neg hlow]

lemma scanString_escaped (c : CodePoint) (tail : PyStr) : scanString 0 (escaped c ++ tail) =
      (scanString 0 tail).map fun found => (c :: found.1, found.2 + (escaped c).length) := by
  by_cases hc : c.val < 0x20 ∨ c = .ofChar '"' ∨ c = .ofChar '\\'
  · obtain ⟨escape, heq, hscan, -⟩ := escaped_special hc
    rw [heq, scanString_escape (hscan tail), length_cons]
  · rw [escaped_plain hc]
    simp only [not_or] at hc
    obtain ⟨hcontrol, hquote, hbackslash⟩ := hc
    rw [singleton_append, scanString, if_neg hquote, if_neg hbackslash, if_neg hcontrol]
    rfl

/-- The reader of strings reads a string back, and stops behind its quote. -/
theorem scanString_jsonString (s rest : PyStr) :
    scanString 0 (s.flatMap escaped ++ .ofChar '"' :: rest) =
      .ok (s, (s.flatMap escaped).length + 1) := by
  induction s with
  | nil => rfl
  | cons c s ih =>
    rw [List.flatMap_cons, List.append_assoc, scanString_escaped, ih]
    simp only [Except.map, List.length_append, Except.ok.injEq, Prod.mk.injEq, true_and]
    omega

lemma jsonString_append_inj {s s' rest rest' : PyStr}
    (h : jsonString s ++ rest = jsonString s' ++ rest') : s = s' ∧ rest = rest' := by
  have hbody : ∀ t tail, jsonString t ++ tail =
      .ofChar '"' :: (t.flatMap escaped ++ .ofChar '"' :: tail) := by
    intro t tail
    simp [jsonString]
  rw [hbody, hbody] at h
  obtain ⟨-, htails⟩ := List.cons.inj h
  have hscan := scanString_jsonString s rest
  rw [htails, scanString_jsonString s' rest'] at hscan
  simp only [Except.ok.injEq, Prod.mk.injEq] at hscan
  obtain ⟨rfl, -⟩ := hscan
  simpa using htails

lemma readAll_escaped (c : CodePoint) (depth : ℕ) :
    TextState.readAll (depth, .inString) (escaped c) = some (depth, .inString) := by
  by_cases hc : c.val < 0x20 ∨ c = .ofChar '"' ∨ c = .ofChar '\\'
  · obtain ⟨escape, heq, -, hread⟩ := escaped_special hc
    rw [heq]
    exact hread depth
  · rw [escaped_plain hc]
    simp only [not_or] at hc
    change TextState.read _ _ >>= _ = _
    rw [TextState.read, if_neg hc.2.2, if_neg hc.2.1]
    rfl

lemma passes_jsonString (s : PyStr) : Passes (jsonString s) := by
  intro depth
  have hbody : TextState.readAll (depth, .inString) (s.flatMap escaped) =
      some (depth, .inString) := by
    induction s with
    | nil => rfl
    | cons c s ih =>
      rw [flatMap_cons, TextState.readAll_append, readAll_escaped]
      exact ih
  rw [jsonString, TextState.readAll_append, TextState.readAll_cons]
  change (TextState.readAll (depth, .inString) (s.flatMap escaped)).bind _ = _
  rw [hbody]
  rfl

lemma isBare_ofChar {c : Char} (h : c.isDigit = true ∨ c = '-') :
    isBare (ofChar c) = true := by
  have hvalue : c.toNat ∉ [34, 44, 91, 93, 123, 125] := by
    rcases h with hdigit | rfl
    · have hrange : 48 ≤ c.toNat ∧ c.toNat ≤ 57 := by
        simpa [Char.isDigit, UInt32.le_iff_toNat_le] using hdigit
      simp only [mem_cons, not_mem_nil, or_false, not_or]
      omega
    · decide
  have hne : ∀ d : Char, d.toNat ∈ [34, 44, 91, 93, 123, 125] → ofChar c ≠ .ofChar d := by
    intro d hd heq
    have hsame : (ofChar c).val = (ofChar d).val := by rw [heq]
    change c.toNat = d.toNat at hsame
    exact hvalue (hsame ▸ hd)
  simp only [isBare, holds_iff]
  exact ⟨⟨⟨⟨⟨hne _ (by decide), hne _ (by decide)⟩, hne _ (by decide)⟩, hne _ (by decide)⟩,
    hne _ (by decide)⟩, hne _ (by decide)⟩

lemma passes_int (value : ℤ) : Passes (py (toString value)) := by
  have hdigits : ∀ n : ℕ, ∀ c ∈ n.repr.toList, c.isDigit = true := by
    intro n c hc
    rw [Nat.repr, String.toList_ofList] at hc
    exact Nat.isDigit_of_mem_toDigits (by decide) (by decide) hc
  apply passes_bare
  rw [Int.toString_eq_repr, Int.repr_eq_if, all_eq_true]
  intro c hc
  obtain ⟨c, hchar, rfl⟩ := mem_map.mp hc
  apply isBare_ofChar
  split at hchar
  · exact .inl (hdigits _ c hchar)
  · rw [String.toList_append, mem_append] at hchar
    rcases hchar with hminus | hrest
    · exact .inr (by simpa using hminus)
    · exact .inl (hdigits _ c hrest)

variable {parts : List PyStr}

/-- Texts between commas, in a container. -/
lemma readAll_join (h : ∀ part ∈ parts, Passes part) (depth : ℕ) :
    TextState.readAll (depth + 1, .outside) (join (py ",") parts) =
      some (depth + 1, .outside) := by
  change TextState.readAll _ (join [.ofChar ','] parts) = _
  induction parts with
  | nil => rfl
  | cons part parts ih =>
    have hpart := h part mem_cons_self (depth + 1)
    cases parts with
    | nil => rwa [join_singleton]
    | cons part' parts =>
      rw [join_cons_cons, TextState.readAll_append, hpart]
      exact ih fun part hp => h part (mem_cons_of_mem _ hp)

lemma passes_container {opening closing : CodePoint}
    (h : ∀ part ∈ parts, Passes part)
    (hopening : opening = .ofChar '[' ∨ opening = .ofChar '{')
    (hclosing : closing = .ofChar ']' ∨ closing = .ofChar '}') :
    Passes (opening :: join (py ",") parts ++ [closing]) := by
  intro depth
  have hopen : TextState.read (depth, .outside) opening = some (depth + 1, .outside) := by
    rcases hopening with rfl | rfl <;> rfl
  have hclose : TextState.read (depth + 1, .outside) closing = some (depth, .outside) := by
    rcases hclosing with rfl | rfl <;> rfl
  rw [TextState.readAll_append, TextState.readAll_cons, hopen]
  change (TextState.readAll (depth + 1, .outside) (join (py ",") parts)).bind _ = _
  rw [readAll_join h]
  change (TextState.read (depth + 1, .outside) closing >>= fun s => some s) = _
  rw [hclose]
  rfl

variable {runtime : JsonRuntime}

/-- The interpreter shows a float without quotes, brackets and commas. -/
def ShowsFloats (runtime : JsonRuntime) : Prop :=
  ∀ literal, (runtime.floatText literal).all isBare = true

/-- A member between the braces of an object. -/
lemma passes_member {key text : PyStr} (h : Passes text) :
    Passes (jsonString key ++ .ofChar ':' :: text) := by
  apply passes_append (passes_jsonString key)
  have hcolon : Passes [.ofChar ':'] := passes_bare rfl
  exact passes_append hcolon h

mutual

lemma passes_dumps (h : ShowsFloats runtime) : ∀ v : PlatformJson, Passes (v.dumps runtime)
  | .null => passes_bare rfl
  | .flag true => passes_bare rfl
  | .flag false => passes_bare rfl
  | .int value => passes_int value
  | .real literal => passes_bare (h literal)
  | .text s => passes_jsonString s
  | .array items => passes_container (passes_dumpItems h items) (.inl rfl) (.inl rfl)
  | .object fields => by
    apply passes_container _ (.inr rfl) (.inr rfl)
    intro part hpart
    obtain ⟨m, hm, rfl⟩ := mem_map.mp hpart
    exact passes_member (passes_dumpFields h fields m (mem_orderBy.mp hm))

lemma passes_dumpItems (h : ShowsFloats runtime) :
    ∀ items : List PlatformJson, ∀ part ∈ dumpItems runtime items, Passes part
  | [] => by
    intro part hpart
    cases hpart
  | v :: vs => by
    intro part hpart
    rcases mem_cons.mp hpart with rfl | hrest
    · exact passes_dumps h v
    · exact passes_dumpItems h vs part hrest

lemma passes_dumpFields (h : ShowsFloats runtime) :
    ∀ fields : JsonFields, ∀ m ∈ dumpFields runtime fields, Passes m.2
  | [] => by
    intro m hm
    cases hm
  | (key, v) :: fields => by
    intro m hm
    rcases mem_cons.mp hm with rfl | hrest
    · exact passes_dumps h v
    · exact passes_dumpFields h fields m hrest

end

lemma stops_comma : Stops (.ofChar ',') := rfl

lemma stops_brace : Stops (.ofChar '}') := rfl

/-- Texts that pass are told apart between commas. -/
lemma join_inj {parts' : List PyStr} {closing : CodePoint}
    (h : ∀ part ∈ parts, Passes part) (h' : ∀ part ∈ parts', Passes part)
    (hne : parts ≠ []) (hne' : parts' ≠ []) (hclosing : Stops closing)
    (hcomma : closing ≠ .ofChar ',')
    (heq : join [.ofChar ','] parts ++ [closing] =
      join [.ofChar ','] parts' ++ [closing]) : parts = parts' := by
  induction parts generalizing parts' with
  | nil => exact absurd rfl hne
  | cons part rest ih =>
    cases parts' with
    | nil => exact absurd rfl hne'
    | cons part' rest' =>
      have hpart := h part mem_cons_self
      have hpart' := h' part' mem_cons_self
      cases rest with
      | nil =>
        rw [join_singleton] at heq
        cases rest' with
        | nil =>
          rw [join_singleton] at heq
          rw [(passes_ends hpart hpart' hclosing hclosing heq).1]
        | cons second' rest' =>
          rw [join_cons_cons, append_assoc, cons_append] at heq
          have hends := (passes_ends hpart hpart' hclosing stops_comma heq).2
          exact absurd (List.cons.inj hends).1 hcomma
      | cons second rest =>
        rw [join_cons_cons, append_assoc, cons_append] at heq
        cases rest' with
        | nil =>
          rw [join_singleton] at heq
          have hends := (passes_ends hpart hpart' stops_comma hclosing heq).2
          exact absurd (List.cons.inj hends).1.symm hcomma
        | cons second' rest' =>
          rw [join_cons_cons, append_assoc, cons_append] at heq
          obtain ⟨rfl, hends⟩ := passes_ends hpart hpart' stops_comma stops_comma heq
          have htail := ih (fun p hp => h p (mem_cons_of_mem _ hp))
            (fun p hp => h' p (mem_cons_of_mem _ hp)) (cons_ne_nil _ _)
            (cons_ne_nil _ _) (List.cons.inj hends).2
          rw [htail]

def memberText (m : PyStr × PyStr) : PyStr := jsonString m.1 ++ .ofChar ':' :: m.2

lemma memberText_injective : Function.Injective memberText := by
  intro m m' heq
  obtain ⟨hkey, htext⟩ := jsonString_append_inj heq
  exact Prod.ext hkey (List.cons.inj htext).2

lemma join_members_inj {members members' : List (PyStr × PyStr)}
    (h : ∀ m ∈ members, Passes m.2) (h' : ∀ m ∈ members', Passes m.2)
    (heq : join [.ofChar ','] (members.map memberText) ++ [.ofChar '}'] =
      join [.ofChar ','] (members'.map memberText) ++ [.ofChar '}']) :
    members = members' := by
  have hpasses : ∀ ms : List (PyStr × PyStr), (∀ m ∈ ms, Passes m.2) →
      ∀ part ∈ ms.map memberText, Passes part := by
    intro ms hms part hpart
    obtain ⟨m, hm, rfl⟩ := mem_map.mp hpart
    exact passes_member (hms m hm)
  have hstart : ∀ m ms, join [.ofChar ','] ((m :: ms).map memberText) ≠ [] := by
    intro m ms hnil
    obtain ⟨rest, hrest⟩ := @PyStr.join_cons (.ofChar ',') (memberText m) (ms.map memberText)
    rw [map_cons, hrest] at hnil
    simp [memberText, jsonString] at hnil
  cases members with
  | nil =>
    cases members' with
    | nil => rfl
    | cons m' ms' =>
      have hnil := append_cancel_right heq
      exact absurd hnil.symm (hstart m' ms')
  | cons m ms =>
    cases members' with
    | nil =>
      have hnil := append_cancel_right heq
      exact absurd hnil (hstart m ms)
    | cons m' ms' =>
      have hmap := join_inj (hpasses _ h) (hpasses _ h') (by simp) (by simp) stops_brace
        (by decide) heq
      exact memberText_injective.list_map hmap

/-- Two objects with one text have the same members. -/
lemma joinSorted_inj {members members' : List (PyStr × PyStr)}
    (h : ∀ m ∈ members, Passes m.2) (h' : ∀ m ∈ members', Passes m.2)
    (heq : joinSorted members = joinSorted members') : members.Perm members' := by
  have hsorted := join_members_inj (fun m hm => h m (mem_orderBy.mp hm))
    (fun m hm => h' m (mem_orderBy.mp hm)) (List.cons.inj heq).2
  have hperm := orderBy_perm (fun m m' : PyStr × PyStr => decide (m.1 ≤ m'.1)) members
  rw [hsorted] at hperm
  exact hperm.symm.trans (orderBy_perm _ _)

/-- Objects with one text have members of the same texts. -/
lemma dumps_object_inj (h : ShowsFloats runtime) {fields fields' : JsonFields}
    (heq : (PlatformJson.object fields).dumps runtime =
      (PlatformJson.object fields').dumps runtime) :
    (dumpFields runtime fields).Perm (dumpFields runtime fields') :=
  joinSorted_inj (passes_dumpFields h fields) (passes_dumpFields h fields') heq

lemma dumpFields_eq (fields : JsonFields) :
    dumpFields runtime fields = fields.map fun field => (field.1, field.2.dumps runtime) := by
  induction fields with
  | nil => rfl
  | cons field fields ih =>
    obtain ⟨key, v⟩ := field
    rw [dumpFields, ih, map_cons]

lemma lookup_dumpFields (fields : JsonFields) (key : PyStr) :
    (dumpFields runtime fields).lookup key = (fields.lookup key).map fun v => v.dumps runtime := by
  induction fields with
  | nil => rfl
  | cons field fields ih =>
    obtain ⟨k, v⟩ := field
    rw [dumpFields, lookup_cons, lookup_cons, ih]
    cases key == k <;> rfl

/-- The order of entries with distinct keys plays no part in a lookup. -/
lemma lookup_perm {β : Type*} {entries entries' : List (PyStr × β)} (h : entries.Perm entries')
    (hnodup : (entries.map Prod.fst).Nodup) (key : PyStr) :
    entries.lookup key = entries'.lookup key := by
  induction h with
  | nil => rfl
  | cons entry _ ih =>
    rw [map_cons, nodup_cons] at hnodup
    obtain ⟨k, v⟩ := entry
    rw [lookup_cons, lookup_cons, ih hnodup.2]
  | swap entry entry' entries =>
    obtain ⟨k, v⟩ := entry
    obtain ⟨k', v'⟩ := entry'
    simp only [map_cons, nodup_cons, mem_cons, not_or] at hnodup
    simp only [lookup_cons]
    cases hk : key == k with
    | false => rfl
    | true =>
      have hk' : (key == k') = false := by
        rw [beq_eq_false_iff_ne, eq_of_beq hk]
        exact Ne.symm hnodup.1.1
      rw [hk']
  | trans h _ ih ih' =>
    rw [ih hnodup]
    exact ih' ((h.map Prod.fst).nodup_iff.mp hnodup)

/-- In objects without repeated keys that have one text, values under a key have one text. -/
theorem lookup_of_dumps_eq (h : ShowsFloats runtime) {fields fields' : JsonFields}
    (hnodup : (fields.map Prod.fst).Nodup)
    (heq : (PlatformJson.object fields).dumps runtime = (PlatformJson.object fields').dumps runtime)
    (key : PyStr) :
    (fields.lookup key).map (fun v => v.dumps runtime) =
      (fields'.lookup key).map fun v => v.dumps runtime := by
  rw [← lookup_dumpFields, ← lookup_dumpFields]
  apply lookup_perm (dumps_object_inj h heq)
  rwa [dumpFields_eq, map_map]

theorem dumps_text_inj {s s' : PyStr}
    (h : (PlatformJson.text s).dumps runtime = (PlatformJson.text s').dumps runtime) : s = s' := by
  have happend : jsonString s ++ [] = jsonString s' ++ [] := by
    rw [append_nil, append_nil]
    exact h
  exact (jsonString_append_inj happend).1

end PlatformJson

end Tiangong
