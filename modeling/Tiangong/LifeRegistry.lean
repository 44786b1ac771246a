import Mathlib.Data.List.DropRight
import Tiangong.Calls
import Tiangong.CompletionGate
import Tiangong.Dicts
import Tiangong.Machines

/-!
# The registry of life identities

One file names the identities that are bound on a device, which of them is active, and under which
writer epoch each one writes. The state here is every version of the file that was saved, the last
one being what is read. The directories of the identities are what the disk answers.
-/
namespace Tiangong

structure LifeCoreError where
  code : String
  message : String
  status : ℕ
  deriving DecidableEq

inductive BindingStatus where
  | active | dormant
  deriving DecidableEq

structure IdentityBinding where
  lifeId : String
  name : String
  root : String
  deviceId : String
  publicKey : String
  createdAt : String
  boundAt : String
  writerEpoch : ℕ
  identityRevision : ℕ
  status : BindingStatus
  deriving DecidableEq

structure IdentityAuditEntry where
  action : String
  lifeId : String
  actor : String
  name : String
  writtenAt : String
  deriving DecidableEq

structure LifeRegistry where
  revision : ℕ
  activeId : String
  bindings : Dict String IdentityBinding
  identityAudit : List IdentityAuditEntry
  updatedAt : String

/-- `text or default`. -/
def orText (text default : String) : String := if text = "" then default else text

namespace LifeRegistry

/-- `_empty_registry`. -/
def empty (now : String) : LifeRegistry := ⟨0, "", ∅, [], now⟩

/-- `_append_identity_audit`: the last two hundred entries are kept. -/
def appendIdentityAudit (registry : LifeRegistry) (action lifeId actor name now : String) :
    LifeRegistry :=
  let entries := registry.identityAudit ++ [⟨action, lifeId, orText actor "user", name, now⟩]
  { registry with identityAudit := entries.drop (entries.length - 200) }

section

variable (registry : LifeRegistry) (action lifeId actor name now : String)

@[simp] theorem appendIdentityAudit_revision :
    (registry.appendIdentityAudit action lifeId actor name now).revision = registry.revision := by
  simp only [appendIdentityAudit]

@[simp] theorem appendIdentityAudit_activeId :
    (registry.appendIdentityAudit action lifeId actor name now).activeId = registry.activeId := by
  simp only [appendIdentityAudit]

@[simp] theorem appendIdentityAudit_bindings :
    (registry.appendIdentityAudit action lifeId actor name now).bindings = registry.bindings := by
  simp only [appendIdentityAudit]

end

/-- The writer epoch recorded for an identity. -/
def epoch (registry : LifeRegistry) (lifeId : String) : Option ℕ :=
  (registry.bindings.lookup lifeId).map IdentityBinding.writerEpoch

end LifeRegistry

/-- All versions of the registry that were saved, the oldest first. -/
abbrev RegistryHistory := List LifeRegistry

abbrev LifeCall := Call LifeCoreError RegistryHistory

namespace RegistryHistory

/-- `_load_registry`. -/
def load (now : String) (h : RegistryHistory) : LifeRegistry :=
  h.getLast?.getD (LifeRegistry.empty now)

/-- `_save_registry`. -/
def save (now : String) (registry : LifeRegistry) (h : RegistryHistory) : RegistryHistory :=
  h ++ [{ registry with revision := registry.revision + 1, updatedAt := now }]

end RegistryHistory

structure IdentityDocument where
  schema : String
  organismId : String
  createdAt : String
  publicKey : String

inductive PrivateKeyFile where
  | missing
  | invalid (message : String)
  | belongs

/-- What the disk answers about the directory of an identity. -/
structure RootFiles where
  /-- The resolved path, and its last component. -/
  root : String
  name : String
  present : Bool
  /-- The document, if its signature verifies under its own key. -/
  signed : Except String IdentityDocument
  privateKey : PrivateKeyFile
  /-- `ensure_temperament`. -/
  temperament : Except LifeCoreError Unit

namespace LifeIdentityManager

def identitySchema : String := "tiangong.life.identity.v2"

/-- An identifier of an identity starts like this. -/
def isOrganismId (lifeId : String) : Bool := "org_".toList.isPrefixOf lifeId.toList

/-- The identity that the files hold under a valid signature. -/
def signedIdentity (files : RootFiles) : Except LifeCoreError IdentityDocument :=
  match files.signed with
  | .ok identity => .ok identity
  | .error message => .error ⟨"identity_signature_invalid", message, 409⟩

def checkPrivateKey (files : RootFiles) (lifeId : String) : Except LifeCoreError Unit :=
  match files.privateKey with
  | .missing => .error ⟨"identity_private_key_missing", lifeId, 409⟩
  | .invalid message => .error ⟨"identity_private_key_invalid", message, 409⟩
  | .belongs => .ok ()

/-- `verify_root` with `require_private`. -/
def verifyRoot (files : RootFiles) : Except LifeCoreError IdentityDocument := do
  rejectIf (files.present = false) ⟨"identity_files_missing", files.root, 404⟩
  let identity ← signedIdentity files
  rejectIf (identity.schema ≠ identitySchema ∨ isOrganismId identity.organismId = false)
    ⟨"identity_schema_invalid", identity.schema, 409⟩
  rejectIf (files.name ≠ identity.organismId)
    ⟨"identity_root_mismatch", files.name ++ " != " ++ identity.organismId, 409⟩
  checkPrivateKey files identity.organismId
  pure identity

def acceptRoot (files : RootFiles) : Except LifeCoreError IdentityDocument := do
  let identity ← verifyRoot files
  files.temperament
  pure identity

variable (deviceId now : String)

/-- The row that `bind` writes. -/
def boundRow (registry : LifeRegistry) (files : RootFiles) (identity : IdentityDocument)
    (name : String) : IdentityBinding :=
  let current := registry.bindings.lookup identity.organismId
  { lifeId := identity.organismId
    name := orText name (orText (current.elim "" IdentityBinding.name) "起源")
    root := files.root
    deviceId := deviceId
    publicKey := identity.publicKey
    createdAt := orText identity.createdAt
      (orText (current.elim "" IdentityBinding.createdAt) now)
    boundAt := orText (current.elim "" IdentityBinding.boundAt) now
    writerEpoch :=
      if current.elim 0 IdentityBinding.writerEpoch = 0 then 1
      else current.elim 0 IdentityBinding.writerEpoch
    identityRevision :=
      if current.elim 0 IdentityBinding.identityRevision = 0 then 1
      else current.elim 0 IdentityBinding.identityRevision
    status := if registry.activeId = identity.organismId then .active else .dormant }

/-- The registry that `bind` saves. -/
def withBound (registry : LifeRegistry) (files : RootFiles) (identity : IdentityDocument)
    (name actor : String) : LifeRegistry :=
  let row := boundRow deviceId now registry files identity name
  { registry with bindings := registry.bindings.insert identity.organismId row }
    |>.appendIdentityAudit "identity.bound" identity.organismId actor row.name now

def bind (files : RootFiles) (name actor : String) : LifeCall IdentityBinding :=
  Call.transaction fun h => do
    let identity ← acceptRoot files
    let registry := h.load now
    pure (boundRow deviceId now registry files identity name,
      h.save now (withBound deviceId now registry files identity name actor))

def activatedRow (registry : LifeRegistry) (lifeId key : String) (row : IdentityBinding) :
    IdentityBinding :=
  { row with
    status := if key = lifeId then .active else .dormant
    writerEpoch :=
      if key = lifeId then row.writerEpoch + (if registry.activeId = lifeId then 0 else 1)
      else row.writerEpoch }

/-- The registry that `activate` saves. -/
def withActive (registry : LifeRegistry) (lifeId actor : String) (row : IdentityBinding) :
    LifeRegistry :=
  let activated := { registry with
    bindings := registry.bindings.mapValues (activatedRow registry lifeId)
    activeId := lifeId }
  if registry.activeId = lifeId then activated
  else activated.appendIdentityAudit "identity.activated" lifeId actor row.name now

def activate (lifeId actor : String) : LifeCall IdentityBinding :=
  Call.transaction fun h => do
    let registry := h.load now
    let row ← required (registry.bindings.lookup lifeId) ⟨"life_identity_unknown", lifeId, 404⟩
    pure (activatedRow registry lifeId lifeId row,
      h.save now (withActive now registry lifeId actor row))

/-- `str.strip`. -/
def stripText (text : String) : String :=
  String.ofList ((text.toList.dropWhile isPythonSpace).rdropWhile isPythonSpace)

/-- The registry that `unbind` saves. -/
def withoutBinding (registry : LifeRegistry) (value actor : String) : LifeRegistry :=
  let kept := { registry with bindings := registry.bindings.erase value }
  match registry.bindings.lookup value with
  | some removed => kept.appendIdentityAudit "identity.unbound" value actor removed.name now
  | none => kept

/-- `unbind`. It answers whether something was removed. -/
def unbind (lifeId actor : String) : LifeCall Bool :=
  Call.transaction fun h => do
    let value := stripText lifeId
    let registry := h.load now
    rejectIf (value = registry.activeId) ⟨"active_life_unbind_forbidden", value, 409⟩
    pure ((registry.bindings.lookup value).isSome,
      h.save now (withoutBinding now registry value actor))

/-- What the disk answers about the directory that `delete` removes. -/
structure DeletedRoot where
  /-- The directory of all identities. -/
  livesRoot : String
  /-- The resolved path of the binding. -/
  boundRoot : String
  isSymlink : Bool
  /-- There is nothing, a directory that can or cannot be removed, or something else. -/
  present : Bool
  isDirectory : Bool
  removal : Except String Unit

/-- The path of an identity below the directory of all identities, if it is one component. -/
def managedPath (livesRoot value : String) : Option String :=
  if isOrganismId value ∧ '/' ∉ value.toList then some (livesRoot ++ "/" ++ value) else none

def removeDirectory (disk : DeletedRoot) : Except LifeCoreError Unit :=
  match disk.present, disk.removal with
  | true, .error message => .error ⟨"life_identity_delete_failed", message, 503⟩
  | _, _ => .ok ()

/-- The registry that `delete` saves. -/
def withDeleted (registry : LifeRegistry) (value actor : String) (binding : IdentityBinding) :
    LifeRegistry :=
  { registry with bindings := registry.bindings.erase value }
    |>.appendIdentityAudit "identity.deleted" value actor binding.name now

def delete (lifeId actor : String) (disk : DeletedRoot) : LifeCall Unit :=
  Call.transaction fun h => do
    let value := stripText lifeId
    let registry := h.load now
    let binding ← required (registry.bindings.lookup value) ⟨"life_identity_unknown", value, 404⟩
    rejectIf (value = registry.activeId) ⟨"active_life_delete_forbidden", value, 409⟩
    rejectIf (managedPath disk.livesRoot value ≠ some disk.boundRoot ∨ disk.isSymlink)
      ⟨"life_identity_delete_path_forbidden", disk.boundRoot, 409⟩
    rejectIf (disk.present ∧ disk.isDirectory = false)
      ⟨"life_identity_delete_path_unsafe", disk.livesRoot ++ "/" ++ value, 409⟩
    removeDirectory disk
    pure ((), h.save now (withDeleted now registry value actor binding))

/-- What the disk answers about the directory that `create` makes. -/
structure CreatedRoot where
  present : Bool
  prepared : Except LifeCoreError Unit
  files : RootFiles

/-- The last step of `create`. -/
def auditCreated (lifeId name actor : String) : LifeCall Unit :=
  Call.transaction fun h =>
    pure ((), h.save now
      ((h.load now).appendIdentityAudit "identity.created" lifeId actor (orText name "起源") now))

/-- `active` with `required`. -/
def active : LifeCall IdentityBinding :=
  Call.query fun h =>
    let registry := h.load now
    if registry.activeId = "" then
      .error ⟨"active_life_missing", "no active life identity", 409⟩
    else
      required (registry.bindings.lookup registry.activeId)
        ⟨"active_life_missing", "no active life identity", 409⟩

/-- The files of a fresh identity, in its own directory. -/
def CreatedRoot.rootFiles (disk : CreatedRoot) (lifeId : String) : RootFiles :=
  { disk.files with name := lifeId }

/-- `create`, whose fresh hexadecimal digits are given. -/
def create (digits name actor : String) (disk : CreatedRoot) : LifeCall IdentityBinding := do
  let lifeId := "org_" ++ digits
  Call.query fun _ => rejectIf (disk.present = true) ⟨"identity_collision", lifeId, 409⟩
  Call.query fun _ => disk.prepared
  let _ ← bind deviceId now (disk.rootFiles lifeId) name actor
  let _ ← activate now lifeId actor
  auditCreated now lifeId name actor
  active now

end LifeIdentityManager

/-- A call of the manager, with what the disk and the clock answer it. -/
inductive LifeOp where
  | create (now digits name actor : String) (disk : LifeIdentityManager.CreatedRoot)
  | bind (now name actor : String) (files : RootFiles)
  | activate (now lifeId actor : String)
  | unbind (now lifeId actor : String)
  | delete (now lifeId actor : String) (disk : LifeIdentityManager.DeletedRoot)

namespace LifeOp

/-- What a call answers, as far as the registry is concerned. -/
inductive Reply where
  | binding (row : IdentityBinding)
  | removed (found : Bool)
  | deleted

def call (deviceId : String) : LifeOp → LifeCall Reply
  | create now digits name actor disk =>
    Reply.binding <$> LifeIdentityManager.create deviceId now digits name actor disk
  | bind now name actor files =>
    Reply.binding <$> LifeIdentityManager.bind deviceId now files name actor
  | activate now lifeId actor => Reply.binding <$> LifeIdentityManager.activate now lifeId actor
  | unbind now lifeId actor => Reply.removed <$> LifeIdentityManager.unbind now lifeId actor
  | delete now lifeId actor disk =>
    (fun _ => Reply.deleted) <$> LifeIdentityManager.delete now lifeId actor disk

end LifeOp

/-- The runs of a manager. An operation that raises keeps what it saved before. -/
def lifeMachine (deviceId : String) :
    Machine RegistryHistory LifeOp (Except LifeCoreError LifeOp.Reply) where
  step h op := (((op.call deviceId).on h).2, ((op.call deviceId).on h).1)

end Tiangong
