import Mathlib.Data.Rat.Defs
import Tiangong.PlatformJson

/-!
# Objects of JSON as dictionaries

What a program does with a decoded object: read, set and remove a key, and compare values. Keys keep
their places; a key that is set anew comes last.
-/
namespace Tiangong

/-- The members of an object. -/
abbrev JsonFields := List (PyStr × PlatformJson)

namespace JsonFields

/-- `fields[key] = value`. -/
def put (fields : JsonFields) (key : PyStr) (value : PlatformJson) : JsonFields :=
  match fields with
  | [] => [(key, value)]
  | field :: fields =>
    if field.1 = key then (key, value) :: fields else field :: put fields key value

/-- `fields.pop(key, None)`. -/
def remove (fields : JsonFields) (key : PyStr) : JsonFields :=
  fields.filter fun field => field.1 ≠ key

/-- `fields.setdefault(key, value)`, as far as the object goes. -/
def default (fields : JsonFields) (key : PyStr) (value : PlatformJson) : JsonFields :=
  if (fields.lookup key).isSome then fields else fields.put key value

theorem lookup_cons (field : PyStr × PlatformJson) (fields : JsonFields) (key : PyStr) :
    (field :: fields).lookup key = if field.1 = key then some field.2 else fields.lookup key := by
  obtain ⟨k, v⟩ := field
  rw [List.lookup_cons]
  by_cases h : k = key
  · subst h
    simp
  · have hne : (key == k) = false := beq_eq_false_iff_ne.mpr (Ne.symm h)
    simp [hne, h]

lemma lookup_put (fields : JsonFields) (key key' : PyStr) (value : PlatformJson) :
    (fields.put key value).lookup key' = if key = key' then some value else fields.lookup key' := by
  induction fields with
  | nil => rw [put, lookup_cons]
  | cons field fields ih =>
    rw [put]
    by_cases hfield : field.1 = key
    · rw [if_pos hfield, lookup_cons, lookup_cons]
      subst hfield
      split <;> rfl
    · rw [if_neg hfield, lookup_cons, ih, lookup_cons]
      split
      · rename_i hkey
        rw [if_neg fun h => hfield (hkey.trans h.symm)]
      · rfl

@[simp] theorem lookup_put_self (fields : JsonFields) (key : PyStr) (value : PlatformJson) :
    (fields.put key value).lookup key = some value := by
  rw [lookup_put, if_pos rfl]

theorem lookup_put_of_ne {key key' : PyStr} (h : key ≠ key') (fields : JsonFields)
    (value : PlatformJson) : (fields.put key value).lookup key' = fields.lookup key' := by
  rw [lookup_put, if_neg h]

/-- A key that is there is not set again. -/
theorem lookup_default (fields : JsonFields) (key key' : PyStr) (value : PlatformJson) :
    (fields.default key value).lookup key' =
      if key = key' then some ((fields.lookup key).getD value) else fields.lookup key' := by
  unfold default
  by_cases h : (fields.lookup key).isSome
  · rw [if_pos h]
    obtain ⟨v, hv⟩ := Option.isSome_iff_exists.mp h
    split
    · rename_i hkey
      subst hkey
      rw [hv]
      rfl
    · rfl
  · rw [if_neg h, lookup_put]
    rw [Option.not_isSome_iff_eq_none.mp h]
    rfl

/-- A key that is there keeps its place. -/
theorem put_middle {before after : JsonFields} {key : PyStr} (h : key ∉ before.map Prod.fst)
    (old value : PlatformJson) :
    put (before ++ (key, old) :: after) key value = before ++ (key, value) :: after := by
  induction before with
  | nil => rw [List.nil_append, List.nil_append, put, if_pos rfl]
  | cons field before ih =>
    rw [List.map_cons, List.mem_cons, not_or] at h
    rw [List.cons_append, put, if_neg (Ne.symm h.1), ih h.2, List.cons_append]

/-- A key that is not repeated is read where it stands. -/
theorem lookup_of_mem {fields : JsonFields} {key : PyStr} {value : PlatformJson}
    (hnodup : (fields.map Prod.fst).Nodup) (h : (key, value) ∈ fields) :
    fields.lookup key = some value := by
  induction fields with
  | nil => cases h
  | cons field fields ih =>
    rw [List.map_cons, List.nodup_cons] at hnodup
    rw [lookup_cons]
    rcases List.mem_cons.mp h with rfl | hrest
    · rw [if_pos rfl]
    · rw [if_neg, ih hnodup.2 hrest]
      intro heq
      exact hnodup.1 (heq ▸ List.mem_map_of_mem hrest)

end JsonFields

/-- What the interpreter makes of decoded values: the value of a float, its text, and the text of a
value that is no string. -/
structure JsonRuntime where
  floatValue : PyStr → ℚ
  floatText : PyStr → PyStr
  shown : PlatformJson → PyStr

namespace PlatformJson

variable (runtime : JsonRuntime)

/-- `bool(value)`. -/
def truthy : PlatformJson → Bool
  | .null => false
  | .flag value => value
  | .int value => value ≠ 0
  | .real literal => runtime.floatValue literal ≠ 0
  | .text value => value ≠ []
  | .array items => !items.isEmpty
  | .object fields => !fields.isEmpty

/-- `str(value)`. -/
def str : PlatformJson → PyStr
  | .text value => value
  | value => runtime.shown value

/-- `str(value or "")`. -/
def strOr (value : PlatformJson) : PyStr := if value.truthy runtime then value.str runtime else []

def number : PlatformJson → Option ℚ
  | .flag value => some (if value then 1 else 0)
  | .int value => some value
  | .real literal => some (runtime.floatValue literal)
  | _ => none

mutual

/-- `value == value'`. -/
def equal : PlatformJson → PlatformJson → Bool
  | .null, .null => true
  | .text s, .text s' => s = s'
  | .array items, .array items' => equalItems items items'
  | .object fields, .object fields' =>
    fields.length = fields'.length && equalFields fields fields'
  | v, v' => (number runtime v).isSome && number runtime v = number runtime v'

def equalItems : List PlatformJson → List PlatformJson → Bool
  | [], [] => true
  | v :: vs, v' :: vs' => equal v v' && equalItems vs vs'
  | _, _ => false

def equalFields : JsonFields → JsonFields → Bool
  | [], _ => true
  | (key, v) :: fields, fields' =>
    (match fields'.lookup key with
      | some v' => equal v v'
      | none => false) && equalFields fields fields'

end

/-- The members of an object between their braces, sorted by their keys. -/
def joinSorted (members : List (PyStr × PyStr)) : PyStr :=
  .ofChar '{' :: PyStr.join (py ",")
    ((orderBy (fun m m' => m.1 ≤ m'.1) members).map fun m =>
      jsonString m.1 ++ .ofChar ':' :: m.2) ++ [.ofChar '}']

mutual

/-- `json.dumps` with sorted keys, compact, keeping characters outside ASCII. -/
def dumps : PlatformJson → PyStr
  | .null => py "null"
  | .flag true => py "true"
  | .flag false => py "false"
  | .int value => py (toString value)
  | .real literal => runtime.floatText literal
  | .text s => jsonString s
  | .array items => .ofChar '[' :: PyStr.join (py ",") (dumpItems items) ++ [.ofChar ']']
  | .object fields => joinSorted (dumpFields fields)

def dumpItems : List PlatformJson → List PyStr
  | [] => []
  | v :: vs => dumps v :: dumpItems vs

def dumpFields : JsonFields → List (PyStr × PyStr)
  | [] => []
  | (key, v) :: fields => (key, dumps v) :: dumpFields fields

end

end PlatformJson

end Tiangong
