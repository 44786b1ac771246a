import Tiangong.JsonText

/-!
# Rendering JSON

The compact rendering of a document whose strings need no escapes. A decoder that may open as many
containers as the document nests reads it back.
-/
open List

namespace Tiangong

open CodePoint

/-- An ASCII character that a JSON string holds as it is. -/
def CodePoint.isPlain (c : CodePoint) : Bool :=
  c ≠ .ofChar '"' && c ≠ .ofChar '\\' && 0x20 ≤ c.val && c.val < 0x80

def quoted (s : PyStr) : PyStr := .ofChar '"' :: s ++ [.ofChar '"']

namespace JsonValue

mutual

def render : JsonValue → PyStr
  | .null => py "null"
  | .flag true => py "true"
  | .flag false => py "false"
  | .text s => quoted s
  | .array [] => py "[]"
  | .array (v :: vs) => .ofChar '[' :: render v ++ renderItems vs
  | .object [] => [.ofChar '{', .ofChar '}']
  | .object ((key, v) :: fields) =>
    .ofChar '{' :: quoted key ++ .ofChar ':' :: render v ++ renderFields fields

/-- The items after the first, and the end of the array. -/
def renderItems : List JsonValue → PyStr
  | [] => [.ofChar ']']
  | v :: vs => .ofChar ',' :: render v ++ renderItems vs

/-- The members after the first, and the end of the object. -/
def renderFields : List (PyStr × JsonValue) → PyStr
  | [] => [.ofChar '}']
  | (key, v) :: fields => .ofChar ',' :: quoted key ++ .ofChar ':' :: render v ++ renderFields fields

end

mutual

/-- The largest number of containers around a value and the value itself. -/
def depth : JsonValue → ℕ
  | .array items => depthItems items + 1
  | .object fields => depthFields fields + 1
  | _ => 0

def depthItems : List JsonValue → ℕ
  | [] => 0
  | v :: vs => max (depth v) (depthItems vs)

def depthFields : List (PyStr × JsonValue) → ℕ
  | [] => 0
  | (_, v) :: fields => max (depth v) (depthFields fields)

end

mutual

/-- The strings of a value are plain and its objects repeat no key. -/
def Printable : JsonValue → Prop
  | .text s => s.all CodePoint.isPlain
  | .array items => PrintableItems items
  | .object fields => (fields.map (·.1)).Nodup ∧ PrintableFields fields
  | _ => True

def PrintableItems : List JsonValue → Prop
  | [] => True
  | v :: vs => Printable v ∧ PrintableItems vs

def PrintableFields : List (PyStr × JsonValue) → Prop
  | [] => True
  | (key, v) :: fields => key.all CodePoint.isPlain ∧ Printable v ∧ PrintableFields fields

end

end JsonValue

lemma scanString_plain {s : PyStr} (h : s.all CodePoint.isPlain) (rest : PyStr) :
    scanString 0 (s ++ .ofChar '"' :: rest) = .ok (s, s.length + 1) := by
  induction s with
  | nil => rfl
  | cons c s ih =>
    rw [all_cons, Bool.and_eq_true] at h
    obtain ⟨hc, hs⟩ := h
    simp only [isPlain, Bool.and_eq_true, decide_eq_true_eq] at hc
    obtain ⟨⟨⟨hquote, hbackslash⟩, hcontrol⟩, -⟩ := hc
    rw [cons_append, scanString, if_neg hquote, if_neg hbackslash,
      if_neg (Nat.not_lt.mpr hcontrol), ih hs]
    rfl

namespace Scan

variable {limit : ℕ} {s s' : Scan} {c : CodePoint} {rest : PyStr} {stack outer : List Frame}

lemma run_step (h : s.advance c rest = .ok s') (hlimit : s'.stack.length ≤ limit) :
    s.run limit (c :: rest) = s'.run limit rest := by
  rw [run, h]
  exact if_neg (Nat.not_lt.mpr hlimit)

/-- The characters that a token covers are passed over. -/
lemma run_skip (covered : PyStr) (hskip : s.skip = covered.length)
    (hlimit : s.stack.length ≤ limit) :
    s.run limit (covered ++ rest) = ({ s with skip := 0 } : Scan).run limit rest := by
  induction covered generalizing s with
  | nil =>
    have hsame : ({ s with skip := 0 } : Scan) = s := by
      cases s
      cases hskip
      rfl
    rw [hsame, nil_append]
  | cons c covered ih =>
    have hadvance : s.advance c (covered ++ rest) = .ok { s with skip := covered.length } := by
      rw [advance, hskip, length_cons]
    rw [cons_append, run_step hadvance hlimit]
    exact @ih { s with skip := covered.length } rfl hlimit

lemma complete_skip (v : JsonValue) (n : ℕ) (stack : List Frame) :
    (complete v n stack).skip = n ∧ ({ complete v n stack with skip := 0 } : Scan) =
      complete v 0 stack := by
  rcases stack with _ | ⟨_ | _, _⟩ <;> exact ⟨rfl, rfl⟩

lemma complete_length (v : JsonValue) (n : ℕ) (stack : List Frame) :
    (complete v n stack).stack.length = stack.length := by
  rcases stack with _ | ⟨_ | _, _⟩ <;> rfl

lemma run_token {v : JsonValue} {covered : PyStr} (hread : readValue stack c (covered ++ rest) =
    .ok (complete v covered.length stack)) (hblank : isBlank c = false)
    (hlimit : stack.length ≤ limit) :
    (⟨.value, stack, 0⟩ : Scan).run limit (c :: covered ++ rest) =
      (complete v 0 stack).run limit rest := by
  have hadvance : (⟨.value, stack, 0⟩ : Scan).advance c (covered ++ rest) =
      .ok (complete v covered.length stack) := by
    simp only [advance, hblank, hread, Bool.false_eq_true, if_false]
  have hlength : (complete v covered.length stack).stack.length ≤ limit := by
    rw [complete_length]
    exact hlimit
  obtain ⟨hskip, hdone⟩ := complete_skip v covered.length stack
  rw [cons_append, run_step hadvance hlength, run_skip covered hskip hlength, hdone]

lemma run_text {text : PyStr} (htext : text.all isPlain)
    (hlimit : stack.length ≤ limit) :
    (⟨.value, stack, 0⟩ : Scan).run limit (quoted text ++ rest) =
      (complete (.text text) 0 stack).run limit rest := by
  have hread : readValue stack (.ofChar '"') ((text ++ [.ofChar '"']) ++ rest) =
      .ok (complete (.text text) (text ++ [ofChar '"']).length stack) := by
    rw [List.append_assoc, List.length_append]
    simp only [readValue, if_true, readString, List.singleton_append, scanString_plain htext]
    rfl
  exact run_token hread (by decide) hlimit

lemma firstDuplicate_eq_none {seen keys : List PyStr} (h : (seen ++ keys).Nodup) :
    firstDuplicate seen keys = none := by
  induction keys generalizing seen with
  | nil => rfl
  | cons key keys ih =>
    have hmoved : (key :: seen ++ keys).Nodup := h.perm List.perm_middle
    have hfresh : key ∉ seen := by
      intro hmem
      exact (List.nodup_cons.mp hmoved).1 (List.mem_append_left _ hmem)
    rw [firstDuplicate, if_neg hfresh]
    exact ih hmoved

variable {expecting : Expecting}

/-- A key and its colon are read. -/
lemma run_key {key previous : PyStr} {fields : List (PyStr × JsonValue)}
    (hexpecting : expecting = .key ∨ expecting = .member) (hkey : key.all CodePoint.isPlain)
    (hlimit : outer.length + 1 ≤ limit) :
    (⟨expecting, .object fields previous :: outer, 0⟩ : Scan).run limit
        (quoted key ++ .ofChar ':' :: rest) =
      (⟨.value, .object fields key :: outer, 0⟩ : Scan).run limit rest := by
  have hread : readKey (.object fields previous :: outer) (.ofChar '"')
      ((key ++ [.ofChar '"']) ++ .ofChar ':' :: rest) =
      .ok ⟨.colon, .object fields key :: outer, (key ++ [CodePoint.ofChar '"']).length⟩ := by
    rw [append_assoc, length_append]
    simp only [readKey, if_true, readString, singleton_append, scanString_plain hkey]
    rfl
  have hadvance : (⟨expecting, .object fields previous :: outer, 0⟩ : Scan).advance (.ofChar '"')
      ((key ++ [.ofChar '"']) ++ .ofChar ':' :: rest) =
      .ok ⟨.colon, .object fields key :: outer, (key ++ [ofChar '"']).length⟩ := by
    rw [← hread]
    rcases hexpecting with rfl | rfl <;> rfl
  have hcolon : (⟨.colon, .object fields key :: outer, 0⟩ : Scan).advance (.ofChar ':') rest =
      .ok ⟨.value, .object fields key :: outer, 0⟩ := rfl
  rw [quoted, List.cons_append, List.cons_append, run_step hadvance hlimit,
    run_skip (key ++ [CodePoint.ofChar '"']) rfl hlimit, run_step hcolon hlimit]

/-- The first character of a rendered value does not end a container. -/
lemma render_head (v : JsonValue) : ∃ c cs, v.render = c :: cs ∧ isBlank c = false ∧
    c ≠ .ofChar ']' := by
  cases v with
  | null => exact ⟨_, _, rfl, by decide, by decide⟩
  | flag b => cases b <;> exact ⟨_, _, rfl, by decide, by decide⟩
  | text text => exact ⟨_, _, rfl, by decide, by decide⟩
  | array items => cases items <;> exact ⟨_, _, rfl, by decide, by decide⟩
  | object fields => rcases fields with _ | ⟨⟨key, v⟩, fields⟩ <;> exact ⟨_, _, rfl, by decide, by decide⟩

/-- The first item of an array is read as any other value. -/
lemma run_element (v : JsonValue) (items : List JsonValue) :
    (⟨.element, .array items :: outer, 0⟩ : Scan).run limit (v.render ++ rest) =
      (⟨.value, .array items :: outer, 0⟩ : Scan).run limit (v.render ++ rest) := by
  obtain ⟨c, cs, hrender, hblank, hclose⟩ := render_head v
  have hadvance : (⟨.element, .array items :: outer, 0⟩ : Scan).advance c (cs ++ rest) =
      (⟨.value, .array items :: outer, 0⟩ : Scan).advance c (cs ++ rest) := by
    simp only [advance, hblank, Bool.false_eq_true, if_false, close, hclose, Option.getD_none]
  rw [hrender, cons_append, run, run, hadvance]

lemma run_close_array {items : List JsonValue}
    (hexpecting : expecting = .next ∨ expecting = .element) (hlimit : outer.length ≤ limit) :
    (⟨expecting, .array items :: outer, 0⟩ : Scan).run limit (.ofChar ']' :: rest) =
      (complete (.array items.reverse) 0 outer).run limit rest := by
  have hadvance : (⟨expecting, .array items :: outer, 0⟩ : Scan).advance (.ofChar ']') rest =
      .ok (complete (.array items.reverse) 0 outer) := by
    rcases hexpecting with rfl | rfl <;> rfl
  exact run_step hadvance (by rw [complete_length]; exact hlimit)

/-- The end of an object whose keys differ. -/
lemma run_close_object {fields : List (PyStr × JsonValue)} {key : PyStr}
    (hexpecting : expecting = .next ∨ expecting = .member)
    (hkeys : (fields.reverse.map (·.1)).Nodup) (hlimit : outer.length ≤ limit) :
    (⟨expecting, .object fields key :: outer, 0⟩ : Scan).run limit (.ofChar '}' :: rest) =
      (complete (.object fields.reverse) 0 outer).run limit rest := by
  have hclose : close (.ofChar '}') (.object fields key :: outer) =
      some (.ok (complete (.object fields.reverse) 0 outer)) := by
    have hnone : firstDuplicate [] (fields.reverse.map (·.1)) = none := by
      apply firstDuplicate_eq_none
      exact hkeys
    simp only [close, if_true, hnone]
  have hadvance : (⟨expecting, .object fields key :: outer, 0⟩ : Scan).advance (.ofChar '}') rest =
      .ok (complete (.object fields.reverse) 0 outer) := by
    have hblank : isBlank (.ofChar '}') = false := by decide
    have hcomma : ofChar '}' ≠ .ofChar ',' := by decide
    rcases hexpecting with rfl | rfl
    · simp only [advance, hblank, Bool.false_eq_true, if_false, if_neg hcomma, hclose,
        Option.getD_some]
    · simp only [advance, hblank, Bool.false_eq_true, if_false, hclose, Option.getD_some]
  exact run_step hadvance (by rw [complete_length]; exact hlimit)

open JsonValue

mutual

/-- A rendered value is read back. -/
lemma run_value (v : JsonValue) (hv : v.Printable) (stack : List Frame) (rest : PyStr)
    (hlimit : stack.length + v.depth ≤ limit) :
    (⟨.value, stack, 0⟩ : Scan).run limit (v.render ++ rest) =
      (complete v 0 stack).run limit rest := by
  have hstack : stack.length ≤ limit := le_trans (Nat.le_add_right _ _) hlimit
  match v with
  | .null =>
    have hread : readValue stack (.ofChar 'n') (py "ull" ++ rest) =
        .ok (complete .null (py "ull").length stack) := rfl
    exact run_token hread (by decide) hstack
  | .flag true =>
    have hread : readValue stack (.ofChar 't') (py "rue" ++ rest) =
        .ok (complete (.flag true) (py "rue").length stack) := rfl
    exact run_token hread (by decide) hstack
  | .flag false =>
    have hread : readValue stack (.ofChar 'f') (py "alse" ++ rest) =
        .ok (complete (.flag false) (py "alse").length stack) := rfl
    exact run_token hread (by decide) hstack
  | .text s => exact run_text hv hstack
  | .array [] =>
    have hopen : (⟨.value, stack, 0⟩ : Scan).advance (.ofChar '[') (.ofChar ']' :: rest) =
        .ok ⟨.element, .array [] :: stack, 0⟩ := rfl
    have hlimit' : (Frame.array [] :: stack).length ≤ limit := hlimit
    exact (run_step hopen hlimit').trans (run_close_array (.inr rfl) hstack)
  | .array (v :: vs) =>
    obtain ⟨hhead, htail⟩ := hv
    have hdepth : stack.length + 1 + max v.depth (depthItems vs) ≤ limit := by
      rw [depth, depthItems] at hlimit
      omega
    have hopen : (⟨.value, stack, 0⟩ : Scan).advance (.ofChar '[')
        (v.render ++ (renderItems vs ++ rest)) = .ok ⟨.element, .array [] :: stack, 0⟩ := rfl
    have hlimit' : (Frame.array [] :: stack).length ≤ limit := by
      rw [length_cons]
      omega
    have hfirst := run_value v hhead (.array [] :: stack) (renderItems vs ++ rest) (by
      rw [length_cons]
      omega)
    have hrest := run_items vs htail [v] stack rest (by omega)
    have hrender : (JsonValue.array (v :: vs)).render ++ rest =
        .ofChar '[' :: (v.render ++ (renderItems vs ++ rest)) := by
      simp [render]
    rw [hrender, run_step hopen hlimit', run_element, hfirst]
    exact hrest
  | .object [] =>
    have hopen : (⟨.value, stack, 0⟩ : Scan).advance (.ofChar '{') (.ofChar '}' :: rest) =
        .ok ⟨.member, .object [] [] :: stack, 0⟩ := rfl
    have hlimit' : (Frame.object [] [] :: stack).length ≤ limit := hlimit
    exact (run_step hopen hlimit').trans (run_close_object (.inr rfl) nodup_nil hstack)
  | .object ((key, v) :: fields) =>
    obtain ⟨hkeys, hkey, hhead, htail⟩ := hv
    have hdepth : stack.length + 1 + max v.depth (depthFields fields) ≤ limit := by
      rw [depth, depthFields] at hlimit
      omega
    have hopen : (⟨.value, stack, 0⟩ : Scan).advance (.ofChar '{')
        (quoted key ++ .ofChar ':' :: (v.render ++ (renderFields fields ++ rest))) =
          .ok ⟨.member, .object [] [] :: stack, 0⟩ := rfl
    have hlimit' : (Frame.object [] [] :: stack).length ≤ limit := by
      rw [length_cons]
      omega
    have hfirst := run_value v hhead (.object [] key :: stack) (renderFields fields ++ rest) (by
      rw [length_cons]
      omega)
    have hrest := run_fields fields htail [(key, v)] key hkeys stack rest (by omega)
    have hrender : (JsonValue.object ((key, v) :: fields)).render ++ rest =
        .ofChar '{' :: (quoted key ++ .ofChar ':' :: (v.render ++ (renderFields fields ++ rest))) := by
      simp [render]
    rw [hrender, run_step hopen hlimit', run_key (.inr rfl) hkey (by omega), hfirst]
    exact hrest

lemma run_items (vs : List JsonValue) (hvs : PrintableItems vs) (read : List JsonValue)
    (outer : List Frame) (rest : PyStr) (hlimit : outer.length + 1 + depthItems vs ≤ limit) :
    (⟨.next, .array read :: outer, 0⟩ : Scan).run limit (renderItems vs ++ rest) =
      (complete (.array (read.reverse ++ vs)) 0 outer).run limit rest := by
  match vs with
  | [] =>
    rw [append_nil]
    exact run_close_array (.inl rfl) (by omega)
  | v :: vs =>
    obtain ⟨hhead, htail⟩ := hvs
    rw [depthItems] at hlimit
    have hcomma : (⟨.next, .array read :: outer, 0⟩ : Scan).advance (.ofChar ',')
        (v.render ++ (renderItems vs ++ rest)) = .ok ⟨.value, .array read :: outer, 0⟩ := rfl
    have hlimit' : (Frame.array read :: outer).length ≤ limit := by
      rw [length_cons]
      omega
    have hfirst := run_value v hhead (.array read :: outer) (renderItems vs ++ rest) (by
      rw [length_cons]
      omega)
    have hrest := run_items vs htail (v :: read) outer rest (by omega)
    rw [reverse_cons, append_assoc] at hrest
    have hrender : renderItems (v :: vs) ++ rest =
        .ofChar ',' :: (v.render ++ (renderItems vs ++ rest)) := by
      simp [renderItems]
    rw [hrender, run_step hcomma hlimit', hfirst]
    exact hrest

lemma run_fields (fields : List (PyStr × JsonValue)) (hfields : PrintableFields fields)
    (read : List (PyStr × JsonValue)) (previous : PyStr)
    (hkeys : ((read.reverse ++ fields).map (·.1)).Nodup) (outer : List Frame) (rest : PyStr)
    (hlimit : outer.length + 1 + depthFields fields ≤ limit) :
    (⟨.next, .object read previous :: outer, 0⟩ : Scan).run limit (renderFields fields ++ rest) =
      (complete (.object (read.reverse ++ fields)) 0 outer).run limit rest := by
  match fields with
  | [] =>
    rw [append_nil] at hkeys ⊢
    exact run_close_object (.inl rfl) hkeys (by omega)
  | (key, v) :: fields =>
    obtain ⟨hkey, hhead, htail⟩ := hfields
    rw [depthFields] at hlimit
    have hcomma : (⟨.next, .object read previous :: outer, 0⟩ : Scan).advance (.ofChar ',')
        (quoted key ++ .ofChar ':' :: (v.render ++ (renderFields fields ++ rest))) =
          .ok ⟨.key, .object read previous :: outer, 0⟩ := rfl
    have hlimit' : (Frame.object read previous :: outer).length ≤ limit := by
      rw [length_cons]
      omega
    have hfirst := run_value v hhead (.object read key :: outer) (renderFields fields ++ rest) (by
      rw [length_cons]
      omega)
    have hrest := run_fields fields htail ((key, v) :: read) key (by
      rw [reverse_cons, append_assoc]
      exact hkeys) outer rest (by omega)
    rw [reverse_cons, append_assoc] at hrest
    have hrender : renderFields ((key, v) :: fields) ++ rest =
        .ofChar ',' :: (quoted key ++ .ofChar ':' :: (v.render ++ (renderFields fields ++ rest))) := by
      simp [renderFields]
    rw [hrender, run_step hcomma hlimit', run_key (.inl rfl) hkey (by omega), hfirst]
    exact hrest

end

end Scan

/-- A rendered document is decoded to itself. -/
theorem decodeJson_render {limit : ℕ} {v : JsonValue} (hv : v.Printable) (hlimit : v.depth ≤ limit) :
    decodeJson limit v.render = .ok v := by
  have h := @Scan.run_value limit v hv [] [] (by rw [length_nil]; omega)
  rw [append_nil] at h
  exact h

namespace JsonValue

lemma ascii_cons {c : CodePoint} {text : PyStr} (hc : c.val < 0x80) (h : text.IsAscii) :
    PyStr.IsAscii (c :: text) := by
  intro d hd
  rcases mem_cons.mp hd with rfl | hd
  · exact hc
  · exact h d hd

lemma ascii_append {left right : PyStr} (hleft : left.IsAscii) (hright : right.IsAscii) :
    PyStr.IsAscii (left ++ right) := by
  intro c hc
  rcases mem_append.mp hc with hc | hc
  · exact hleft c hc
  · exact hright c hc

lemma quoted_ascii {s : PyStr} (h : s.all isPlain = true) :
    PyStr.IsAscii (quoted s) := by
  refine ascii_append (ascii_cons (by decide) ?_) (by decide)
  intro c hc
  have hplain := all_eq_true.mp h c hc
  simp only [isPlain, Bool.and_eq_true, decide_eq_true_eq] at hplain
  exact hplain.2

mutual

/-- A rendered value is an ASCII text. -/
theorem render_ascii (v : JsonValue) (hv : v.Printable) : v.render.IsAscii := by
  match v with
  | .null => decide
  | .flag true => decide
  | .flag false => decide
  | .text s => exact quoted_ascii hv
  | .array [] => decide
  | .array (v :: vs) =>
    rw [render]
    exact ascii_append (ascii_cons (by decide) (render_ascii v hv.1)) (renderItems_ascii vs hv.2)
  | .object [] => decide
  | .object ((key, v) :: fields) =>
    obtain ⟨-, hkey, hhead, htail⟩ := hv
    rw [render]
    refine ascii_append (ascii_append (ascii_cons (by decide) (quoted_ascii hkey)) ?_)
      (renderFields_ascii fields htail)
    exact ascii_cons (by decide) (render_ascii v hhead)

lemma renderItems_ascii (vs : List JsonValue) (hvs : PrintableItems vs) :
    (renderItems vs).IsAscii := by
  match vs with
  | [] => decide
  | v :: vs =>
    rw [renderItems]
    exact ascii_append (ascii_cons (by decide) (render_ascii v hvs.1)) (renderItems_ascii vs hvs.2)

lemma renderFields_ascii (fields : List (PyStr × JsonValue)) (hfields : PrintableFields fields) :
    (renderFields fields).IsAscii := by
  match fields with
  | [] => decide
  | (key, v) :: fields =>
    obtain ⟨hkey, hhead, htail⟩ := hfields
    rw [renderFields]
    refine ascii_append (ascii_append (ascii_cons (by decide) (quoted_ascii hkey)) ?_)
      (renderFields_ascii fields htail)
    exact ascii_cons (by decide) (render_ascii v hhead)

end

lemma renderFields_end (fields : List (PyStr × JsonValue)) :
    (renderFields fields).getLast? = some (.ofChar '}') := by
  induction fields with
  | nil => rfl
  | cons f fields ih =>
    rw [renderFields, List.getLast?_append, ih, Option.some_or]

/-- An object is rendered between its braces. -/
theorem render_object_ends (fields : List (PyStr × JsonValue)) :
    (render (.object fields)).head? = some (.ofChar '{') ∧
      (render (.object fields)).getLast? = some (.ofChar '}') := by
  cases fields with
  | nil => exact ⟨rfl, rfl⟩
  | cons f fields =>
    refine ⟨rfl, ?_⟩
    rw [render, List.getLast?_append, renderFields_end, Option.some_or]

mutual

/-- The length of the rendering. -/
def size : JsonValue → ℕ
  | .null => 4
  | .flag true => 4
  | .flag false => 5
  | .text s => PyStr.utf8Length s + 2
  | .array [] => 2
  | .array (v :: vs) => 1 + size v + sizeItems vs
  | .object [] => 2
  | .object ((key, v) :: fields) => PyStr.utf8Length key + 4 + size v + sizeFields fields

def sizeItems : List JsonValue → ℕ
  | [] => 1
  | v :: vs => 1 + size v + sizeItems vs

def sizeFields : List (PyStr × JsonValue) → ℕ
  | [] => 1
  | (key, v) :: fields => PyStr.utf8Length key + 4 + size v + sizeFields fields

end

lemma utf8Length_quoted (s : PyStr) : PyStr.utf8Length (quoted s) = PyStr.utf8Length s + 2 := by
  have hquote : utf8Size (.ofChar '"') = 1 := by decide
  rw [quoted, List.cons_append, PyStr.utf8Length_cons, PyStr.utf8Length_append,
    PyStr.utf8Length_cons, hquote]
  simp only [PyStr.utf8Length, List.map_nil, List.sum_nil]
  omega

mutual

theorem utf8Length_render (v : JsonValue) : PyStr.utf8Length v.render = v.size := by
  match v with
  | .null => rfl
  | .flag true => rfl
  | .flag false => rfl
  | .text s => exact utf8Length_quoted s
  | .array [] => rfl
  | .array (v :: vs) =>
    have hopen : CodePoint.utf8Size (.ofChar '[') = 1 := by decide
    rw [render, size, PyStr.utf8Length_append, PyStr.utf8Length_cons, hopen, utf8Length_render v,
      utf8Length_renderItems vs]
  | .object [] => rfl
  | .object ((key, v) :: fields) =>
    have hopen : CodePoint.utf8Size (.ofChar '{') = 1 := by decide
    have hcolon : CodePoint.utf8Size (.ofChar ':') = 1 := by decide
    rw [render, size, PyStr.utf8Length_append, PyStr.utf8Length_append, PyStr.utf8Length_cons,
      utf8Length_quoted, PyStr.utf8Length_cons, hopen, hcolon, utf8Length_render v,
      utf8Length_renderFields fields]
    omega

lemma utf8Length_renderItems (vs : List JsonValue) :
    PyStr.utf8Length (renderItems vs) = sizeItems vs := by
  match vs with
  | [] => rfl
  | v :: vs =>
    have hcomma : CodePoint.utf8Size (.ofChar ',') = 1 := by decide
    rw [renderItems, sizeItems, PyStr.utf8Length_append, PyStr.utf8Length_cons, hcomma,
      utf8Length_render v, utf8Length_renderItems vs]

lemma utf8Length_renderFields (fields : List (PyStr × JsonValue)) :
    PyStr.utf8Length (renderFields fields) = sizeFields fields := by
  match fields with
  | [] => rfl
  | (key, v) :: fields =>
    have hcomma : CodePoint.utf8Size (.ofChar ',') = 1 := by decide
    have hcolon : CodePoint.utf8Size (.ofChar ':') = 1 := by decide
    rw [renderFields, sizeFields, PyStr.utf8Length_append, PyStr.utf8Length_append,
      PyStr.utf8Length_cons, utf8Length_quoted, PyStr.utf8Length_cons, hcomma, hcolon,
      utf8Length_render v, utf8Length_renderFields fields]
    omega

end
end JsonValue

end Tiangong
