import Mathlib.Algebra.GroupWithZero.Nat
import Mathlib.Data.List.Dedup
import Mathlib.Data.List.DropRight
import Mathlib.Data.List.Lex
import Mathlib.Data.List.Sort

/-!
# Python texts

A Python string is a sequence of code points, lone surrogates included. The methods below are
those of `str` on such sequences; strings are ordered by their code points.
-/
namespace Tiangong

open List

abbrev CodePoint := Fin 0x110000

instance neZero_codePoints : NeZero 0x110000 := ⟨by decide⟩

lemma toNat_isCodePoint (c : Char) : c.toNat < 0x110000 := by
  rcases c.valid with hlow | ⟨-, hhigh⟩
  · exact lt_trans hlow (by decide)
  · exact hhigh

namespace CodePoint

def ofChar (c : Char) : CodePoint := ⟨c.toNat, toNat_isCodePoint c⟩

instance : Coe Char CodePoint := ⟨ofChar⟩

/-- Half of a surrogate pair, which no encoding accepts on its own. -/
def isSurrogate (c : CodePoint) : Bool := 0xd800 ≤ c.val && c.val ≤ 0xdfff

/-- `str.isspace` of one character. -/
def isSpace (c : CodePoint) : Bool :=
  (0x09 ≤ c.val && c.val ≤ 0x0d) || (0x1c ≤ c.val && c.val ≤ 0x20) || c.val = 0x85 ||
    c.val = 0xa0 || c.val = 0x1680 || (0x2000 ≤ c.val && c.val ≤ 0x200a) || c.val = 0x2028 ||
    c.val = 0x2029 || c.val = 0x202f || c.val = 0x205f || c.val = 0x3000

/-- The characters at which `str.splitlines` ends a line. -/
def isLineBreak (c : CodePoint) : Bool :=
  (0x0a ≤ c.val && c.val ≤ 0x0d) || (0x1c ≤ c.val && c.val ≤ 0x1e) || c.val = 0x85 ||
    c.val = 0x2028 || c.val = 0x2029

def isDigit (c : CodePoint) : Bool := 0x30 ≤ c.val && c.val ≤ 0x39

def isUpperLetter (c : CodePoint) : Bool := 0x41 ≤ c.val && c.val ≤ 0x5a

def isLowerLetter (c : CodePoint) : Bool := 0x61 ≤ c.val && c.val ≤ 0x7a

/-- The number of bytes of a character in UTF-8. -/
def utf8Size (c : CodePoint) : ℕ :=
  if c.val < 0x80 then 1 else if c.val < 0x800 then 2 else if c.val < 0x10000 then 3 else 4

end CodePoint

abbrev PyStr := List CodePoint

instance : LawfulBEq CodePoint := inferInstance

instance : LawfulBEq PyStr := inferInstance

def py (s : String) : PyStr := s.toList.map .ofChar

namespace PyStr

/-- The text has an encoding: it holds no surrogate. -/
def Encodable (text : PyStr) : Prop := ∀ c ∈ text, c.isSurrogate = false

instance (text : PyStr) : Decidable text.Encodable := List.decidableBAll _ _

def IsAscii (text : PyStr) : Prop := ∀ c ∈ text, c.val < 0x80

instance (text : PyStr) : Decidable text.IsAscii := List.decidableBAll _ _

/-- The text holds a zero character. -/
def hasNul (text : PyStr) : Bool := 0 ∈ text

def utf8Length (text : PyStr) : ℕ := (text.map CodePoint.utf8Size).sum

def strip (text : PyStr) : PyStr := (text.dropWhile CodePoint.isSpace).rdropWhile CodePoint.isSpace

/-- The text before the first separator, whether there is one, and the text after it. -/
def partition (sep : CodePoint) (text : PyStr) : PyStr × Bool × PyStr :=
  match text.dropWhile (· ≠ sep) with
  | [] => (text, false, [])
  | _ :: after => (text.takeWhile (· ≠ sep), true, after)

def split (sep : CodePoint) (text : PyStr) : List PyStr := text.splitOn sep

def join (sep : PyStr) (parts : List PyStr) : PyStr := sep.intercalate parts

/-- The lines of a text. `line` is the current line in reverse, and a line feed belongs to the
carriage return before it. -/
def splitLinesFrom (line : PyStr) (afterReturn : Bool) : PyStr → List PyStr
  | [] => if line = [] then [] else [line.reverse]
  | c :: rest =>
    if afterReturn && c = CodePoint.ofChar '\n' then splitLinesFrom line false rest
    else if c.isLineBreak then
      line.reverse :: splitLinesFrom [] (c = CodePoint.ofChar '\r') rest
    else splitLinesFrom (c :: line) false rest

def splitLines (text : PyStr) : List PyStr := splitLinesFrom [] false text

/-- The characters other than `a` to `z` whose upper case is ASCII. -/
def specialUpper : List (ℕ × PyStr) :=
  [(0xdf, py "SS"), (0x131, py "I"), (0x17f, py "S"), (0xfb00, py "FF"), (0xfb01, py "FI"),
    (0xfb02, py "FL"), (0xfb03, py "FFI"), (0xfb04, py "FFL"), (0xfb05, py "ST"),
    (0xfb06, py "ST")]

/-- `str.upper` as far as it leads to ASCII; other characters are kept, and neither they nor their
upper case are part of an ASCII word. -/
def upper (text : PyStr) : PyStr :=
  text.flatMap fun c =>
    if c.isLowerLetter then [c - 0x20] else (specialUpper.lookup c.val).getD [c]

def casefold (text : PyStr) : PyStr :=
  text.map fun c => if c.isUpperLetter then c + 0x20 else c

end PyStr

namespace PyStr

variable {sep : CodePoint} {text before after : PyStr}

theorem IsAscii.encodable (h : text.IsAscii) : text.Encodable := by
  intro c hc
  have hascii := h c hc
  simp only [CodePoint.isSurrogate, Bool.and_eq_false_iff, decide_eq_false_iff_not]
  omega

theorem utf8Length_append (left right : PyStr) :
    utf8Length (left ++ right) = utf8Length left + utf8Length right := by
  rw [utf8Length, map_append, sum_append]
  rfl

theorem utf8Length_cons (c : CodePoint) (text : PyStr) :
    utf8Length (c :: text) = c.utf8Size + utf8Length text := by
  rw [utf8Length, map_cons, sum_cons]
  rfl

/-- A text that neither starts nor ends with a blank. -/
theorem strip_eq_self (hhead : ∀ c ∈ text.head?, c.isSpace = false)
    (hlast : ∀ c ∈ text.getLast?, c.isSpace = false) : strip text = text := by
  have hstart : text.dropWhile CodePoint.isSpace = text := by
    cases text with
    | nil => rfl
    | cons c rest =>
      have hc := hhead c rfl
      rw [dropWhile_cons_of_neg (by simp [hc])]
  rw [strip, hstart, rdropWhile_eq_self_iff]
  intro hne
  rw [hlast _ (List.getLast?_eq_some_getLast hne)]
  exact Bool.false_ne_true

theorem strip_of_noSpace (h : ∀ c ∈ text, c.isSpace = false) : strip text = text := by
  apply strip_eq_self
  · intro c hc
    exact h c (mem_of_mem_head? hc)
  · intro c hc
    exact h c (mem_of_mem_getLast? hc)

/-- The first separator splits a text whose first part has none. -/
theorem partition_append (h : sep ∉ before) :
    partition sep (before ++ sep :: after) = (before, true, after) := by
  have hkeep : ∀ c ∈ before, (decide (c ≠ sep)) = true := by
    intro c hc
    exact decide_eq_true fun heq => h (heq ▸ hc)
  have hdrop : (before ++ sep :: after).dropWhile (· ≠ sep) = sep :: after := by
    rw [dropWhile_append_of_pos hkeep, dropWhile_cons_of_neg (by simp)]
  have htake : (before ++ sep :: after).takeWhile (· ≠ sep) = before := by
    rw [takeWhile_append_of_pos hkeep, takeWhile_cons_of_neg (by simp), append_nil]
  rw [partition, hdrop, htake]

variable {parts : List PyStr}

theorem split_join (h : ∀ part ∈ parts, sep ∉ part) (hne : parts ≠ []) :
    split sep (join [sep] parts) = parts :=
  splitOn_intercalate sep h hne

theorem join_cons_cons (part part' : PyStr) (parts : List PyStr) :
    join [sep] (part :: part' :: parts) = part ++ sep :: join [sep] (part' :: parts) := by
  simp [join, List.intercalate]

theorem join_singleton (part : PyStr) : join [sep] [part] = part := by
  simp [join, List.intercalate]

theorem join_cons (part : PyStr) (parts : List PyStr) :
    ∃ rest, join [sep] (part :: parts) = part ++ rest := by
  cases parts with
  | nil => exact ⟨[], by rw [join_singleton, append_nil]⟩
  | cons part' parts => exact ⟨_, join_cons_cons part part' parts⟩

theorem join_concat (hne : parts ≠ []) (part : PyStr) :
    join [sep] (parts ++ [part]) = join [sep] parts ++ sep :: part := by
  induction parts with
  | nil => exact absurd rfl hne
  | cons first parts ih =>
    cases parts with
    | nil => rw [singleton_append, join_cons_cons, join_singleton, join_singleton]
    | cons second parts =>
      have hrest := ih (cons_ne_nil _ _)
      rw [cons_append] at hrest
      rw [cons_append, cons_append, join_cons_cons, hrest, join_cons_cons,
        append_assoc, cons_append]

/-- The characters of a joined text are those of its parts and the separator. -/
theorem mem_join {c : CodePoint} (h : c ∈ join [sep] parts) :
    c = sep ∨ ∃ part ∈ parts, c ∈ part := by
  induction parts with
  | nil => cases h
  | cons part parts ih =>
    cases parts with
    | nil =>
      rw [join_singleton] at h
      exact .inr ⟨part, mem_cons_self, h⟩
    | cons part' parts =>
      rw [join_cons_cons, mem_append, mem_cons] at h
      rcases h with hpart | hsep | hrest
      · exact .inr ⟨part, mem_cons_self, hpart⟩
      · exact .inl hsep
      · rcases ih hrest with hsep | ⟨p, hp, hc⟩
        · exact .inl hsep
        · exact .inr ⟨p, mem_cons_of_mem _ hp, hc⟩

/-- A line is read up to its end. -/
lemma splitLinesFrom_append {line rest : PyStr} (read : PyStr)
    (h : ∀ c ∈ line, c.isLineBreak = false) :
    splitLinesFrom read false (line ++ rest) = splitLinesFrom (line.reverse ++ read) false rest := by
  induction line generalizing read with
  | nil => rfl
  | cons c line ih =>
    have hc := h c mem_cons_self
    rw [cons_append, splitLinesFrom]
    simp only [Bool.false_and, Bool.false_eq_true, if_false, hc]
    rw [ih (c :: read) fun c' hc' => h c' (mem_cons_of_mem _ hc'), reverse_cons, append_assoc]
    rfl

theorem splitLines_join {lines : List PyStr} (h : ∀ line ∈ lines, line ≠ [] ∧
    ∀ c ∈ line, c.isLineBreak = false) : splitLines (join [.ofChar '\n'] lines) = lines := by
  induction lines with
  | nil => rfl
  | cons line lines ih =>
    obtain ⟨hne, hbreaks⟩ := h line mem_cons_self
    have hrest := ih fun l hl => h l (mem_cons_of_mem _ hl)
    cases lines with
    | nil =>
      have hread := @splitLinesFrom_append line [] [] hbreaks
      rw [append_nil, append_nil] at hread
      rw [join_singleton, splitLines, hread, splitLinesFrom, if_neg (by simpa using hne),
        reverse_reverse]
    | cons line' lines =>
      have hfeed : CodePoint.isLineBreak (.ofChar '\n') = true := by decide
      have hreturn : decide (CodePoint.ofChar '\n' = .ofChar '\r') = false := by decide
      rw [join_cons_cons, splitLines, splitLinesFrom_append [] hbreaks, splitLinesFrom]
      simp only [Bool.false_and, Bool.false_eq_true, if_false, hfeed, if_true, hreturn,
        append_nil, reverse_reverse]
      rw [splitLines] at hrest
      rw [hrest]

end PyStr

/-- `sorted` of a list of strings. -/
def sortedTexts {α : Type*} [LinearOrder α] (texts : List α) : List α :=
  texts.insertionSort fun a b => a ≤ b

/-- `sorted(set(…))`. -/
def sortedSet {α : Type*} [LinearOrder α] (texts : List α) : List α := sortedTexts texts.dedup

@[simp] theorem mem_sortedTexts {α : Type*} [LinearOrder α] {texts : List α} {a : α} :
    a ∈ sortedTexts texts ↔ a ∈ texts :=
  mem_insertionSort _

theorem sortedTexts_perm {α : Type*} [LinearOrder α] (texts : List α) :
    (sortedTexts texts).Perm texts :=
  perm_insertionSort _ _

lemma sortedTexts_sorted {α : Type*} [LinearOrder α] (texts : List α) :
    (sortedTexts texts).Pairwise (· ≤ ·) :=
  pairwise_insertionSort _ texts

theorem sortedTexts_eq {α : Type*} [LinearOrder α] {texts sorted : List α}
    (h : texts.Perm sorted) (hsorted : sorted.Pairwise (· ≤ ·)) : sortedTexts texts = sorted :=
  ((sortedTexts_perm texts).trans h).eq_of_pairwise (fun _ _ _ _ => le_antisymm)
    (sortedTexts_sorted texts) hsorted

theorem sortedTexts_strict {α : Type*} [LinearOrder α] {texts : List α} (h : texts.Nodup) :
    (sortedTexts texts).Pairwise (· < ·) := by
  have hnodup : (sortedTexts texts).Pairwise (· ≠ ·) := (sortedTexts_perm texts).nodup_iff.mpr h
  refine ((sortedTexts_sorted texts).and hnodup).imp ?_
  intro a b hab
  exact lt_of_le_of_ne hab.1 hab.2

@[simp] theorem mem_sortedSet {α : Type*} [LinearOrder α] {texts : List α} {a : α} :
    a ∈ sortedSet texts ↔ a ∈ texts := by
  rw [sortedSet, mem_sortedTexts, mem_dedup]

theorem sortedSet_strict {α : Type*} [LinearOrder α] (texts : List α) :
    (sortedSet texts).Pairwise (· < ·) := sortedTexts_strict texts.nodup_dedup

theorem length_sortedSet_le {α : Type*} [LinearOrder α] (xs : List α) :
    (sortedSet xs).length ≤ xs.length := by
  rw [sortedSet, sortedTexts, length_insertionSort]
  exact (dedup_sublist xs).length_le

theorem sortedSet_eq {α : Type*} [LinearOrder α] {texts sorted : List α}
    (h : ∀ a, a ∈ texts ↔ a ∈ sorted) (hsorted : sorted.Pairwise (· < ·)) :
    sortedSet texts = sorted := by
  exact (sortedSet_strict texts).eq_of_mem_iff hsorted fun a => by rw [mem_sortedSet, h]

end Tiangong
