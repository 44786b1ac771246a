import Mathlib.Data.List.Basic

/-!
# Canonical values

The terms that canonical JSON serialises, with SHA-256 as a constructor: two digests are equal
exactly when the hashed contents are, which is how every comparison of digests is read.
-/
namespace Tiangong

/-- A canonical JSON value. An object is the list of its field values in a fixed order. -/
inductive Canon where
  | null
  | flag (value : Bool)
  | num (value : ℕ)
  | text (value : String)
  | cons (head tail : Canon)
  | sha256 (content : Canon)
  deriving DecidableEq, Repr

namespace Canon

instance : Inhabited Canon := ⟨null⟩

/-- The object or array with the given values. -/
def ofList : List Canon → Canon
  | [] => null
  | v :: vs => cons v (ofList vs)

theorem ofList_injective : Function.Injective ofList := by
  intro vs ws
  induction vs generalizing ws with
  | nil => cases ws <;> simp [ofList]
  | cons v vs ih =>
    cases ws with
    | nil => simp [ofList]
    | cons w ws =>
      intro h
      simp only [ofList, cons.injEq] at h
      rw [h.1, ih h.2]

/-- A nullable field. -/
def option {α : Type*} (f : α → Canon) : Option α → Canon
  | none => null
  | some a => cons (f a) null

theorem option_injective {α : Type*} {f : α → Canon} (hf : Function.Injective f) :
    Function.Injective (option f) := by
  rintro (_ | a) (_ | b) h <;> simp_all [option, hf.eq_iff]

/-- An identifier derived from content: a tag before the digest of the content. -/
def ident (tag : String) (content : Canon) : Canon :=
  cons (text tag) (sha256 content)

@[simp] theorem ident_inj {tag tag' : String} {c c' : Canon} :
    ident tag c = ident tag' c' ↔ tag = tag' ∧ c = c' := by
  simp [ident]

end Canon

/-- A natural number of the canonical JSON. -/
abbrev JsonNat := Fin 9007199254740992

/-- The version of the contracts a record was written under. -/
inductive SchemaVersion where
  | legacy | current
  deriving DecidableEq, Repr

def SchemaVersion.canon : SchemaVersion → Canon
  | .legacy => .text "tiangong.gateway.contracts.v1"
  | .current => .text "tiangong.gateway.contracts.v2"

end Tiangong
