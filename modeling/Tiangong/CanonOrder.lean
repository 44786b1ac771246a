import Mathlib.Data.List.Lex
import Mathlib.Order.Lattice.Nat
import Tiangong.Canon

/-!
# An order of canonical values

A prefix-free code of canonical values, their order by it, and the text of a digest. The order
stands for that of their texts.
-/
open List

namespace Tiangong

namespace Canon

/-- A prefix-free code of a value. -/
def code : Canon → List ℕ
  | null => [0]
  | flag b => [1, b.toNat]
  | num n => [2, n]
  | text s => 3 :: s.length :: s.toList.map Char.toNat
  | cons head tail => 4 :: (code head ++ code tail)
  | sha256 content => 5 :: code content

lemma code_append_injective {v w : Canon} {rest rest' : List ℕ}
    (h : code v ++ rest = code w ++ rest') : v = w ∧ rest = rest' := by
  induction v generalizing w rest rest' with
  | null => cases w <;> simp_all [code]
  | flag b =>
    cases w with
    | flag b' => cases b <;> cases b' <;> simp_all [code]
    | null | num n | text s | cons v w | sha256 v => simp [code] at h
  | num n => cases w <;> simp_all [code]
  | text s =>
    cases w with
    | text s' =>
      simp only [code, cons_append, List.cons.injEq, true_and] at h
      obtain ⟨hlength, htexts⟩ := h
      have hlengths : (s.toList.map Char.toNat).length = (s'.toList.map Char.toNat).length := by
        rw [length_map, length_map, String.length_toList, String.length_toList, hlength]
      obtain ⟨hchars, hrest⟩ := append_inj htexts hlengths
      have hinjective : Function.Injective Char.toNat := fun _ _ hsame => Char.toNat_inj.mp hsame
      exact ⟨by rw [String.ext (map_injective_iff.mpr hinjective hchars)], hrest⟩
    | null | flag b | num n | cons v w | sha256 v => simp [code] at h
  | cons v v' ihv ihv' =>
    cases w with
    | cons w w' =>
      simp only [code, cons_append, append_assoc, List.cons.injEq, true_and] at h
      obtain ⟨rfl, htail⟩ := ihv h
      obtain ⟨rfl, hrest⟩ := ihv' htail
      exact ⟨rfl, hrest⟩
    | null | flag b | num n | text s | sha256 v => simp [code] at h
  | sha256 v ih =>
    cases w with
    | sha256 w =>
      simp only [code, cons_append, List.cons.injEq, true_and] at h
      obtain ⟨rfl, hrest⟩ := ih h
      exact ⟨rfl, hrest⟩
    | null | flag b | num n | text s | cons v w => simp [code] at h

lemma code_injective : Function.Injective code := by
  intro v w h
  have happend : code v ++ [] = code w ++ [] := by rw [h]
  exact (code_append_injective happend).1

/-- A fixed order of canonical values, which stands for the order of their texts. -/
instance : LinearOrder Canon := LinearOrder.lift' code code_injective

/-- The text of a value, which is read where an identifier or a reference holds a digest. -/
def digestText (v : Canon) : String :=
  String.ofList (v.code.flatMap fun n => Nat.toDigits 10 n ++ ['.'])

end Canon

end Tiangong
