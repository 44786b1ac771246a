import Tiangong.CanonicalBytes
import Tiangong.JsonTexts

/-!
# Reading canonical JSON

The decoder gives back every value that stands in a canonical text, numbers included, and stops
where the text of the value ends.
-/
namespace Tiangong

open List PyStr CodePoint

namespace PlatformJson

/-- Where a number ends in a canonical text. -/
def Ends (rest : PyStr) : Prop :=
  ∀ c ∈ rest.head?, c = .ofChar ',' ∨ c = .ofChar ']' ∨ c = .ofChar '}'

lemma ends_nil : Ends [] := by
  intro c hc
  cases hc

variable {c : CodePoint}

lemma ends_cons (h : c = .ofChar ',' ∨ c = .ofChar ']' ∨ c = .ofChar '}')
    (rest : PyStr) : Ends (c :: rest) := by
  intro d hd
  obtain rfl : c = d := by simpa using hd
  exact h

/-- The digits of a natural number. -/
def digitText (n : ℕ) : PyStr := py n.repr

lemma digitText_isDigit (n : ℕ) : ∀ c ∈ digitText n, c.isDigit = true := by
  intro c hc
  obtain ⟨char, hchar, rfl⟩ := mem_map.mp hc
  rw [Nat.repr, String.toList_ofList] at hchar
  have hdigit := Nat.isDigit_of_mem_toDigits (by decide) (by decide) hchar
  have hrange : 48 ≤ char.toNat ∧ char.toNat ≤ 57 := by
    simpa [Char.isDigit, UInt32.le_iff_toNat_le] using hdigit
  simp only [isDigit, holds_iff]
  exact hrange

lemma digitText_ne_nil (n : ℕ) : digitText n ≠ [] := by
  have hpos := @Nat.length_repr_pos n
  intro hnil
  have hlist : n.repr.toList = [] := map_eq_nil_iff.mp hnil
  rw [← String.length_toList, hlist] at hpos
  exact absurd hpos (lt_irrefl 0)

lemma digitText_zero {n : ℕ} {rest : PyStr} (h : digitText n = .ofChar '0' :: rest) :
    digitText n = [.ofChar '0'] := by
  have hhead : ∀ m, 0 < m → (digitText m).head? ≠ some (.ofChar '0') := by
    intro m
    induction m using Nat.strong_induction_on with
    | _ m ih =>
      intro hm
      by_cases hsmall : m < 10
      · rw [digitText, Nat.repr_of_lt hsmall]
        interval_cases m <;> decide
      · have hrepr := Nat.repr_of_ge (n := m) (by omega)
        have hsplit : digitText m = digitText (m / 10) ++ py (.singleton (m % 10).digitChar) := by
          rw [digitText, hrepr, py, String.toList_append, map_append]
          rfl
        obtain ⟨c, cs, hcs⟩ := exists_cons_of_ne_nil (digitText_ne_nil (m / 10))
        have hrest := ih (m / 10) (by omega) (by omega)
        rw [hcs] at hrest
        rw [hsplit, hcs]
        exact hrest
  have hzero : n = 0 := by
    by_contra hne
    exact hhead n (by omega) (by rw [h]; rfl)
  subst hzero
  rfl

lemma digitValue_digitText (n : ℕ) : digitValue (digitText n) = n := by
  have hfold : digitValue (digitText n) = Nat.ofDigitChars 10 n.repr.toList 0 := by
    rw [digitValue, digitText, py, foldl_map, Nat.ofDigitChars_eq_foldl]
    rfl
  rw [hfold, Nat.repr, String.toList_ofList, Nat.ofDigitChars_ten_toDigits]

lemma length_digitText (n : ℕ) (h : n ≤ maxSafeInteger) : (digitText n).length ≤ 16 := by
  have hlength : n.repr.length ≤ 16 := by
    rw [Nat.length_repr_le_iff (by decide)]
    exact lt_of_le_of_lt h (by decide)
  rw [digitText, py, length_map, String.length_toList]
  exact hlength

def signText (value : ℤ) : PyStr := if value < 0 then [.ofChar '-'] else []

lemma intText_eq (value : ℤ) : py (toString value) = signText value ++ digitText value.natAbs := by
  rw [Int.toString_eq_repr, Int.repr_eq_if, signText, digitText]
  by_cases hneg : value < 0
  · rw [if_neg (by omega), if_pos hneg, py, String.toList_append, map_append,
      show (-value).toNat = value.natAbs by omega]
    rfl
  · rw [if_pos (by omega), if_neg hneg, show value.toNat = value.natAbs by omega]
    rfl

variable {rest : PyStr}

lemma takeWhile_digits {digits : PyStr} (h : ∀ c ∈ digits, c.isDigit = true)
    (hrest : Ends rest) : (digits ++ rest).takeWhile isDigit = digits := by
  have hstop : rest.takeWhile isDigit = [] := by
    cases rest with
    | nil => rfl
    | cons c rest =>
      have hdigit : ¬ c.isDigit = true := by
        rcases hrest c rfl with rfl | rfl | rfl <;> decide
      rw [takeWhile_cons, if_neg hdigit]
  rw [takeWhile_append_of_pos h, hstop, append_nil]

lemma parts_of_ends (h : Ends rest) : fractionPart rest = [] ∧ exponentPart rest = [] := by
  cases rest with
  | nil => exact ⟨rfl, rfl⟩
  | cons c rest =>
    have hpoint : c ≠ .ofChar '.' := by rcases h c rfl with rfl | rfl | rfl <;> decide
    have hexponent : ¬ (c = .ofChar 'e' ∨ c = .ofChar 'E') := by
      rcases h c rfl with rfl | rfl | rfl <;> decide
    constructor
    · rw [fractionPart, if_neg hpoint]
    · unfold exponentPart
      exact if_neg hexponent

/-- The sign of a number is the run of minus signs before its digits. -/
lemma takeWhile_sign (value : ℤ) {digits : PyStr} (h : ∀ c ∈ digits, c.isDigit = true)
    (hne : digits ≠ []) (rest : PyStr) :
    (signText value ++ (digits ++ rest)).takeWhile (· = .ofChar '-') = signText value := by
  obtain ⟨c, cs, rfl⟩ := exists_cons_of_ne_nil hne
  have hminus : c ≠ .ofChar '-' := by
    rintro rfl
    exact absurd (h _ mem_cons_self) (by decide)
  have hstop : (c :: cs ++ rest).takeWhile (· = .ofChar '-') = [] := by
    rw [cons_append, takeWhile_cons, if_neg (by simpa using hminus)]
  unfold signText
  split
  · rw [singleton_append, takeWhile_cons, if_pos (by simp), hstop]
  · rw [nil_append, hstop]

/-- The number at the start of a text is the integer that was written there. -/
lemma numberLiteral_int (value : ℤ) (h : Ends rest) :
    numberLiteral (py (toString value) ++ rest) = some (py (toString value)) := by
  have hdigits := digitText_isDigit value.natAbs
  have hne := digitText_ne_nil value.natAbs
  have hzero := @digitText_zero value.natAbs
  rw [intText_eq, append_assoc]
  generalize digitText value.natAbs = digits at hdigits hne hzero
  have hsign : (signText value).length ≤ 1 := by
    unfold signText
    split <;> simp
  obtain ⟨hfraction, hexponent⟩ := parts_of_ends h
  have hstart := takeWhile_sign value hdigits hne rest
  have hrun := takeWhile_digits hdigits h
  obtain ⟨c, cs, rfl⟩ := exists_cons_of_ne_nil hne
  have hdrop : (signText value ++ (c :: cs ++ rest)).drop (signText value).length =
      c :: (cs ++ rest) := drop_left
  have hread : (if c = .ofChar '0' then [c]
      else (c :: (cs ++ rest)).takeWhile isDigit) = c :: cs := by
    split
    · rename_i heq
      subst heq
      exact (hzero rfl).symm
    · exact hrun
  have hrest : (c :: cs ++ rest).drop (c :: cs).length = rest := drop_left
  rw [cons_append] at hrest
  unfold numberLiteral
  rw [hstart]
  simp only [hdrop, hread, hrest, hfraction, length_nil, Nat.add_zero, hexponent, append_nil]
  rw [if_neg]
  simp only [reduceCtorEq, or_false, not_lt]
  exact hsign

lemma ofLiteral_int {value : ℤ} (h : value.natAbs ≤ maxSafeInteger) :
    ofLiteral (py (toString value)) = some (.int value) := by
  have hdigits := digitText_isDigit value.natAbs
  have hlength := length_digitText value.natAbs h
  have hvalue := digitValue_digitText value.natAbs
  have hne := digitText_ne_nil value.natAbs
  have hdrop : (signText value ++ digitText value.natAbs).dropWhile (· = .ofChar '-') =
      digitText value.natAbs := by
    have hstart := takeWhile_sign value hdigits hne []
    have hall := takeWhile_append_dropWhile
      (p := (· = ofChar '-')) (l := signText value ++ digitText value.natAbs)
    rw [append_nil] at hstart
    rw [hstart] at hall
    exact append_cancel_left hall
  rw [intText_eq]
  unfold ofLiteral
  simp only [hdrop]
  rw [all_eq_true.mpr hdigits, Bool.not_true, if_neg Bool.false_ne_true,
    if_neg (by omega), hvalue, length_append]
  unfold signText
  by_cases hneg : value < 0
  · rw [if_pos hneg, length_singleton, if_pos (by omega), show -(value.natAbs : ℤ) = value by omega]
  · rw [if_neg hneg, length_nil, if_neg (by omega), show (value.natAbs : ℤ) = value by omega]

lemma isPrefixOf_cons_ne {a : CodePoint} (h : a ≠ c) (as cs : PyStr) :
    (a :: as).isPrefixOf (c :: cs) = false := by
  rw [isPrefixOf_cons_cons, beq_false_of_ne h, Bool.false_and]

/-- No word starts like a number. -/
lemma words_of_int (value : ℤ) (rest : PyStr) :
    (words.find? fun word => word.1.isPrefixOf (py (toString value) ++ rest)) = none := by
  have hdigits := digitText_isDigit value.natAbs
  obtain ⟨d, ds, hds⟩ := exists_cons_of_ne_nil (digitText_ne_nil value.natAbs)
  have hd : d.isDigit = true := hdigits d (by rw [hds]; exact mem_cons_self)
  have hne : ∀ c : CodePoint, c.isDigit = false → c ≠ d := by
    rintro c hc rfl
    rw [hd] at hc
    cases hc
  rw [intText_eq, hds, List.find?_eq_none]
  intro word hword
  have hfirst : ∃ c c' cs, word.1 = c :: c' :: cs ∧ c.isDigit = false ∧ c'.isDigit = false := by
    simp only [words, mem_cons, not_mem_nil, or_false] at hword
    rcases hword with rfl | rfl | rfl | rfl | rfl | rfl
    all_goals exact ⟨_, _, _, rfl, by decide, by decide⟩
  obtain ⟨c, c', cs, hcs, hc, hc'⟩ := hfirst
  rw [hcs, Bool.not_eq_true]
  unfold signText
  split
  · rw [singleton_append, cons_append, cons_append, isPrefixOf_cons_cons,
      isPrefixOf_cons_ne (hne c' hc'), Bool.and_false]
  · rw [nil_append, cons_append, isPrefixOf_cons_ne (hne c hc)]

lemma loadAtom_int {value : ℤ} (h : value.natAbs ≤ maxSafeInteger) (hrest : Ends rest) :
    loadAtom (py (toString value) ++ rest) = .ok (.int value, rest) := by
  unfold loadAtom
  rw [words_of_int, numberLiteral_int value hrest]
  dsimp only
  rw [ofLiteral_int h]
  dsimp only
  rw [drop_left]

lemma loadString_jsonString (s rest : PyStr) :
    loadString (s.flatMap escaped ++ .ofChar '"' :: rest) = .ok (s, rest) := by
  have hdrop : (s.flatMap escaped ++ .ofChar '"' :: rest).drop ((s.flatMap escaped).length + 1) =
      rest := by
    rw [← drop_drop, drop_left, drop_one, tail_cons]
  rw [loadString, Scan.readString, scanString_jsonString]
  change Except.ok (s, _) = _
  rw [hdrop]

mutual

/-- A value as it is normalised. -/
def Canonical : PlatformJson → Prop
  | .null => True
  | .flag _ => True
  | .int value => value.natAbs ≤ maxSafeInteger
  | .real _ => False
  | .text s => s.Encodable
  | .array items => CanonicalItems items
  | .object fields =>
    (fields.map Prod.fst).Pairwise (fun key key' => utf16 key < utf16 key') ∧ CanonicalFields fields

def CanonicalItems : List PlatformJson → Prop
  | [] => True
  | v :: vs => v.Canonical ∧ CanonicalItems vs

def CanonicalFields : List (PyStr × PlatformJson) → Prop
  | [] => True
  | (key, v) :: fields => key.Encodable ∧ v.Canonical ∧ CanonicalFields fields

end

variable {interpreter : Interpreter}

/-- The text of a value starts with no blank and with no end of an array. -/
lemma compactText_head {v : PlatformJson} (h : v.Canonical) :
    ∃ c cs, v.compactText interpreter = c :: cs ∧ Scan.isBlank c = false ∧ c ≠ .ofChar ']' := by
  cases v with
  | null => exact ⟨_, _, rfl, by decide, by decide⟩
  | flag value => cases value <;> exact ⟨_, _, rfl, by decide, by decide⟩
  | real literal => exact h.elim
  | text s => exact ⟨.ofChar '"', _, rfl, by decide, by decide⟩
  | array items => exact ⟨.ofChar '[', _, rfl, by decide, by decide⟩
  | object fields => exact ⟨.ofChar '{', _, rfl, by decide, by decide⟩
  | int value =>
    obtain ⟨d, ds, hds⟩ := List.exists_cons_of_ne_nil (digitText_ne_nil value.natAbs)
    have hd : d.isDigit = true :=
      digitText_isDigit value.natAbs d (by rw [hds]; exact List.mem_cons_self)
    have hblank : Scan.isBlank d = false ∧ d ≠ .ofChar ']' := by
      simp only [CodePoint.isDigit, holds_iff] at hd
      refine ⟨?_, ?_⟩
      · simp only [Scan.isBlank, Bool.or_eq_false_iff, decide_eq_false_iff_not]
        omega
      · rintro rfl
        exact absurd hd (by decide)
    rw [compactText, intText_eq, hds, signText]
    split
    · exact ⟨.ofChar '-', _, rfl, by decide, by decide⟩
    · exact ⟨d, ds, rfl, hblank.1, hblank.2⟩

lemma dropBlank_cons (h : Scan.isBlank c = false) (rest : PyStr) :
    dropBlank (c :: rest) = c :: rest := by
  rw [dropBlank, List.dropWhile_cons, h, if_neg Bool.false_ne_true]

lemma loadValue_text (fuel depth : ℕ) (rest : PyStr) :
    loadValue (fuel + 1) depth (.ofChar '"' :: rest) =
      (loadString rest).map fun read => (.text read.1, read.2) := rfl

lemma loadValue_object (fuel depth : ℕ) (rest : PyStr) :
    loadValue (fuel + 1) (depth + 1) (.ofChar '{' :: rest) =
      (loadMembers fuel depth true [] (dropBlank rest)).map fun read =>
        (.object read.1, read.2) := rfl

lemma loadValue_array (fuel depth : ℕ) (rest : PyStr) :
    loadValue (fuel + 1) (depth + 1) (.ofChar '[' :: rest) =
      (loadItems fuel depth true (dropBlank rest)).map fun read =>
        (.array read.1, read.2) := rfl

variable {input : PyStr} {v : PlatformJson}

lemma loadValue_atom {cs : PyStr}
    (hinput : input = c :: cs) (hstart : c ≠ .ofChar '"' ∧ c ≠ .ofChar '{' ∧ c ≠ .ofChar '[')
    (h : loadAtom input = .ok (v, rest)) (fuel depth : ℕ) :
    loadValue (fuel + 1) depth input = .ok (v, rest) := by
  subst hinput
  unfold loadValue
  dsimp only
  rw [if_neg hstart.1, if_neg hstart.2.1, if_neg hstart.2.2, h]

variable {fuel depth : ℕ} {first : Bool}

lemma loadItems_next (hfirst : input.head? ≠ some (.ofChar ']'))
    (h : loadValue fuel depth input = .ok (v, .ofChar ',' :: rest)) :
    loadItems (fuel + 1) depth first input =
      (loadItems fuel depth false (dropBlank rest)).map fun read => (v :: read.1, read.2) := by
  have hnot : (first && decide (input.head? = some (.ofChar ']'))) = false := by
    rw [decide_eq_false hfirst, Bool.and_false]
  conv_lhs => unfold loadItems
  rw [hnot]
  simp only [h]
  change (loadItems fuel depth false (dropBlank rest) >>= _) = _
  cases loadItems fuel depth false (dropBlank rest) <;> rfl

lemma loadItems_last (hfirst : input.head? ≠ some (.ofChar ']'))
    (h : loadValue fuel depth input = .ok (v, .ofChar ']' :: rest)) :
    loadItems (fuel + 1) depth first input = .ok ([v], rest) := by
  have hnot : (first && decide (input.head? = some (.ofChar ']'))) = false := by
    rw [decide_eq_false hfirst, Bool.and_false]
  unfold loadItems
  rw [hnot]
  simp only [h]
  rfl

lemma loadMembers_next {seen : List PyStr} {key : PyStr} (hkey : key ∉ seen)
    (hinput : dropBlank input = input)
    (h : loadValue fuel depth input = .ok (v, .ofChar ',' :: rest)) :
    loadMembers (fuel + 1) depth first seen (jsonString key ++ .ofChar ':' :: input) =
      (loadMembers fuel depth false (key :: seen) (dropBlank rest)).map fun read =>
        ((key, v) :: read.1, read.2) := by
  have htext : jsonString key ++ .ofChar ':' :: input =
      .ofChar '"' :: (key.flatMap escaped ++ .ofChar '"' :: .ofChar ':' :: input) := by
    simp [jsonString]
  have hnot : (first && decide ((.ofChar '"' :: (key.flatMap escaped ++ .ofChar '"' ::
      .ofChar ':' :: input)).head? = some (CodePoint.ofChar '}'))) = false := by
    cases first <;> rfl
  have hcolon : dropBlank (.ofChar ':' :: input) = .ofChar ':' :: input := rfl
  have hcomma : dropBlank (.ofChar ',' :: rest) = .ofChar ',' :: rest := rfl
  rw [htext]
  conv_lhs => unfold loadMembers
  rw [hnot]
  simp only [List.tail_cons, loadString_jsonString]
  change (loadValue fuel depth (dropBlank input) >>= _) = _
  rw [hinput, h]
  change (loadMembers fuel depth false (key :: seen) (dropBlank rest) >>= fun found =>
    if key ∈ seen then throw (.duplicateKey key) else pure ((key, v) :: found.1, found.2)) = _
  simp only [if_neg hkey]
  cases loadMembers fuel depth false (key :: seen) (dropBlank rest) <;> rfl

lemma loadMembers_last {seen : List PyStr} {key : PyStr} (hkey : key ∉ seen)
    (hinput : dropBlank input = input)
    (h : loadValue fuel depth input = .ok (v, .ofChar '}' :: rest)) :
    loadMembers (fuel + 1) depth first seen (jsonString key ++ .ofChar ':' :: input) =
      .ok ([(key, v)], rest) := by
  have htext : jsonString key ++ .ofChar ':' :: input =
      .ofChar '"' :: (key.flatMap escaped ++ .ofChar '"' :: .ofChar ':' :: input) := by
    simp [jsonString]
  have hnot : (first && decide ((.ofChar '"' :: (key.flatMap escaped ++ .ofChar '"' ::
      .ofChar ':' :: input)).head? = some (CodePoint.ofChar '}'))) = false := by
    cases first <;> rfl
  have hcolon : dropBlank (.ofChar ':' :: input) = .ofChar ':' :: input := rfl
  rw [htext]
  conv_lhs => unfold loadMembers
  rw [hnot]
  simp only [List.tail_cons, loadString_jsonString]
  change (loadValue fuel depth (dropBlank input) >>= _) = _
  rw [hinput, h]
  change (if key ∈ seen then throw (JsonFault.duplicateKey key) else pure ([(key, v)], rest)) = _
  rw [if_neg hkey]
  rfl

lemma intText_head (value : ℤ) : ∃ c cs, py (toString value) = c :: cs ∧
    c ≠ .ofChar '"' ∧ c ≠ .ofChar '{' ∧ c ≠ .ofChar '[' := by
  obtain ⟨d, ds, hds⟩ := exists_cons_of_ne_nil (digitText_ne_nil value.natAbs)
  have hd : d.isDigit = true :=
    digitText_isDigit value.natAbs d (by rw [hds]; exact mem_cons_self)
  have hne : ∀ c : CodePoint, c.isDigit = false → d ≠ c := by
    rintro c hc rfl
    rw [hd] at hc
    cases hc
  rw [intText_eq, hds, signText]
  split
  · exact ⟨.ofChar '-', _, rfl, by decide, by decide, by decide⟩
  · exact ⟨d, ds, rfl, hne _ (by decide), hne _ (by decide), hne _ (by decide)⟩

mutual

/-- The decoder reads the text of a value back, and stops behind it. -/
lemma loadValue_compactText (v : PlatformJson) (hv : v.Canonical) {fuel limit : ℕ}
    (hfuel : (v.compactText interpreter).length < fuel) (hlimit : v.depth ≤ limit)
    {rest : PyStr} (hrest : Ends rest) :
    loadValue fuel limit (v.compactText interpreter ++ rest) = .ok (v, rest) := by
  obtain ⟨fuel, rfl⟩ : ∃ n, fuel = n + 1 := ⟨fuel - 1, by omega⟩
  match v with
  | .null => exact loadValue_atom rfl (by decide) rfl fuel limit
  | .flag true => exact loadValue_atom rfl (by decide) rfl fuel limit
  | .flag false => exact loadValue_atom rfl (by decide) rfl fuel limit
  | .real _ => exact hv.elim
  | .int value =>
    obtain ⟨c, cs, hcs, hstart⟩ := intText_head value
    have hinput : py (toString value) ++ rest = c :: (cs ++ rest) := by
      rw [hcs, cons_append]
    exact loadValue_atom hinput hstart (loadAtom_int hv hrest) fuel limit
  | .text s =>
    have htext : (PlatformJson.text s).compactText interpreter ++ rest =
        .ofChar '"' :: (s.flatMap escaped ++ .ofChar '"' :: rest) := by
      simp [compactText, jsonString]
    rw [htext, loadValue_text, loadString_jsonString]
    rfl
  | .array items =>
    rw [depth] at hlimit
    obtain ⟨limit, rfl⟩ : ∃ n, limit = n + 1 := ⟨limit - 1, by omega⟩
    have htext : (PlatformJson.array items).compactText interpreter ++ rest =
        .ofChar '[' :: (join [.ofChar ','] (compactItems interpreter items) ++
          .ofChar ']' :: rest) := by
      simp only [compactText, cons_append, append_assoc, nil_append]
      rfl
    have hlength : (join [.ofChar ','] (compactItems interpreter items)).length + 1 <
        fuel := by
      have hcount := congrArg List.length htext
      simp only [length_append, length_cons] at hcount
      omega
    rw [htext, loadValue_array]
    cases items with
    | nil =>
      obtain ⟨fuel, rfl⟩ : ∃ n, fuel = n + 1 := ⟨fuel - 1, by omega⟩
      rfl
    | cons first items =>
      rw [loadItems_compactItems (first :: items) (cons_ne_nil _ _) hv hlength
        (by omega) true rest]
      rfl
  | .object fields =>
    rw [depth] at hlimit
    obtain ⟨limit, rfl⟩ : ∃ n, limit = n + 1 := ⟨limit - 1, by omega⟩
    have htext : (PlatformJson.object fields).compactText interpreter ++ rest =
        .ofChar '{' :: (join [.ofChar ','] (compactFields interpreter fields) ++
          .ofChar '}' :: rest) := by
      simp only [compactText, cons_append, append_assoc, nil_append]
      rfl
    have hlength : (join [.ofChar ','] (compactFields interpreter fields)).length + 1 <
        fuel := by
      have hcount := congrArg List.length htext
      simp only [length_append, length_cons] at hcount
      omega
    rw [htext, loadValue_object]
    cases fields with
    | nil =>
      obtain ⟨fuel, rfl⟩ : ∃ n, fuel = n + 1 := ⟨fuel - 1, by omega⟩
      rfl
    | cons first fields =>
      have hnodup : ((first :: fields).map Prod.fst).Nodup :=
        hv.1.imp fun hlt heq => absurd (heq ▸ hlt) (lt_irrefl _)
      rw [loadMembers_compactFields (first :: fields) (cons_ne_nil _ _) hv.2 [] (by simp)
        hnodup hlength (by omega) true rest]
      rfl

/-- The items of an array that is not empty, up to its end. -/
lemma loadItems_compactItems (items : List PlatformJson) (hne : items ≠ [])
    (hitems : CanonicalItems items) {fuel limit : ℕ}
    (hfuel : (join [.ofChar ','] (compactItems interpreter items)).length + 1 < fuel)
    (hlimit : itemsDepth items ≤ limit) (first : Bool) (rest : PyStr) :
    loadItems fuel limit first (dropBlank
      (join [.ofChar ','] (compactItems interpreter items) ++ .ofChar ']' :: rest)) =
      .ok (items, rest) := by
  obtain ⟨fuel, rfl⟩ : ∃ n, fuel = n + 1 := ⟨fuel - 1, by omega⟩
  match items with
  | [] => exact absurd rfl hne
  | v :: vs =>
    obtain ⟨hv, hvs⟩ := hitems
    rw [itemsDepth] at hlimit
    obtain ⟨c, cs, hcs, hblank, hend⟩ := @compactText_head interpreter v hv
    have hstart : ∀ tail : PyStr, dropBlank (v.compactText interpreter ++ tail) =
        v.compactText interpreter ++ tail ∧
        (v.compactText interpreter ++ tail).head? ≠ some (.ofChar ']') := by
      intro tail
      rw [hcs, cons_append]
      exact ⟨dropBlank_cons hblank _, fun heq => hend (Option.some.inj heq)⟩
    match vs with
    | [] =>
      rw [compactItems, compactItems, join_singleton] at hfuel ⊢
      rw [(hstart _).1]
      exact loadItems_last (hstart _).2 (loadValue_compactText v hv (by omega) (by omega)
        (ends_cons (.inr (.inl rfl)) rest))
    | w :: ws =>
      rw [compactItems, compactItems, join_cons_cons, length_append, length_cons] at hfuel
      rw [compactItems, compactItems, join_cons_cons, append_assoc, cons_append,
        (hstart _).1, loadItems_next (hstart _).2 (loadValue_compactText v hv (by omega)
        (by omega) (ends_cons (.inl rfl) _))]
      have hrest := @loadItems_compactItems (w :: ws) (cons_ne_nil _ _) hvs fuel limit
        (by rw [compactItems]; omega) (by omega) false rest
      rw [compactItems] at hrest
      rw [hrest]
      rfl

/-- The members of an object that is not empty, up to its end. -/
lemma loadMembers_compactFields (fields : List (PyStr × PlatformJson)) (hne : fields ≠ [])
    (hfields : CanonicalFields fields) (seen : List PyStr)
    (hseen : ∀ key ∈ fields.map Prod.fst, key ∉ seen) (hnodup : (fields.map Prod.fst).Nodup)
    {fuel limit : ℕ}
    (hfuel : (join [.ofChar ','] (compactFields interpreter fields)).length + 1 < fuel)
    (hlimit : fieldsDepth fields ≤ limit) (first : Bool) (rest : PyStr) :
    loadMembers fuel limit first seen (dropBlank
      (join [.ofChar ','] (compactFields interpreter fields) ++ .ofChar '}' :: rest)) =
      .ok (fields, rest) := by
  obtain ⟨fuel, rfl⟩ : ∃ n, fuel = n + 1 := ⟨fuel - 1, by omega⟩
  match fields with
  | [] => exact absurd rfl hne
  | (key, v) :: fields =>
    obtain ⟨-, hv, hfields⟩ := hfields
    rw [map_cons, nodup_cons] at hnodup
    rw [fieldsDepth] at hlimit
    have hkey : key ∉ seen := hseen key mem_cons_self
    obtain ⟨c, cs, hcs, hblank, -⟩ := @compactText_head interpreter v hv
    have hstart : ∀ tail : PyStr, dropBlank (v.compactText interpreter ++ tail) =
        v.compactText interpreter ++ tail := by
      intro tail
      rw [hcs, cons_append]
      exact dropBlank_cons hblank _
    have hmember : ∀ tail : PyStr, dropBlank (jsonString key ++ .ofChar ':' ::
        (v.compactText interpreter ++ tail)) =
        jsonString key ++ .ofChar ':' :: (v.compactText interpreter ++ tail) := by
      intro tail
      exact dropBlank_cons (by decide) _
    match fields with
    | [] =>
      rw [compactFields, compactFields, join_singleton, length_append, length_cons] at hfuel
      rw [compactFields, compactFields, join_singleton, append_assoc, cons_append, hmember]
      exact loadMembers_last hkey (hstart _) (loadValue_compactText v hv (by omega) (by omega)
        (ends_cons (.inr (.inr rfl)) rest))
    | (key', w) :: fields =>
      rw [compactFields, compactFields, join_cons_cons, length_append,
        length_cons, length_append, length_cons] at hfuel
      rw [compactFields, compactFields, join_cons_cons, append_assoc,
        append_assoc, cons_append, cons_append, hmember,
        loadMembers_next hkey (hstart _) (loadValue_compactText v hv (by omega) (by omega)
        (ends_cons (.inl rfl) _))]
      have hunseen : ∀ k ∈ ((key', w) :: fields).map Prod.fst, k ∉ key :: seen := by
        intro k hk hmem
        rcases mem_cons.mp hmem with rfl | hmem
        · exact hnodup.1 hk
        · exact hseen k (mem_cons_of_mem _ hk) hmem
      have hrest := @loadMembers_compactFields ((key', w) :: fields) (cons_ne_nil _ _)
        hfields (key :: seen) hunseen hnodup.2 fuel limit (by rw [compactFields]; omega)
        (by omega) false rest
      rw [compactFields] at hrest
      rw [hrest]
      rfl

end

/-- The decoder gives back what a canonical text says. -/
theorem loads_compactText (hv : v.Canonical) (hdepth : v.depth ≤ interpreter.jsonDepth) :
    loads interpreter (v.compactText interpreter) = .ok v := by
  obtain ⟨c, cs, hcs, hblank, -⟩ := @compactText_head interpreter v hv
  have hstart : dropBlank (v.compactText interpreter) = v.compactText interpreter := by
    rw [hcs]
    exact dropBlank_cons hblank cs
  have hread := @loadValue_compactText interpreter v hv
    (2 * (v.compactText interpreter).length + 2) interpreter.jsonDepth (by omega) hdepth []
    ends_nil
  rw [append_nil] at hread
  rw [loads, hstart, hread]
  rfl

end PlatformJson

end Tiangong
