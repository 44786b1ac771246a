import Tiangong.CompositionContracts
import Tiangong.Machines
import Tiangong.Tables

/-!
# The object store

Contents are kept once, in a file that is named by the digest of its bytes. A reference gives a
content a kind and a scope, and the revisions of a logical object number references. A put moves
its file into place first and indexes it in a transaction of its own.
-/
namespace Tiangong.Objects

inductive ObjectFault where
  | value (message : String)
  | type (message : String)
  | conflict (message : String)
  | corruption (message : String)
  /-- A constraint of the database. -/
  | database
  /-- What the iterator of the chunks raises. -/
  | raised
  deriving DecidableEq, Repr

abbrev Content := List UInt8

/-- `sha256(data).hexdigest()`. -/
def contentSha256 (data : Content) : Canon := .sha256 (.ofList (data.map fun byte => .num byte.toNat))

def contentObjectId (contentSha256 : Canon) : Canon := .cons (.text "obj_") contentSha256

def deriveObjectReferenceId (kind : PyStr) (contentSha256 : Canon)
    (tenantId linkAccountId conversationScopeHash : PyStr) : Canon :=
  .ident "oref_" (.ofList [.text "tiangong.gateway.object-reference.v1", .str kind, contentSha256,
    .str tenantId, .str linkAccountId, .str conversationScopeHash])

structure ObjectReference where
  schemaVersion : SchemaVersion
  objectId : Canon
  contentObjectId : Canon
  kind : PyStr
  sha256 : Canon
  sizeBytes : ℕ
  tenantId : PyStr
  linkAccountId : PyStr
  conversationScopeHash : PyStr
  createdAtMs : ℕ
  referenceSha256 : Canon
  deriving DecidableEq

def kinds : List PyStr := [py "attachment", py "artifact", py "delivery_package", py "payload"]

/-- `[0-9a-f]`. -/
def isLowerHex (c : CodePoint) : Bool := c.isDigit || (0x61 ≤ c.val && c.val ≤ 0x66)

def isDigest (text : PyStr) : Bool := text.length = 64 && text.all isLowerHex

def maxSafeInteger : ℕ := 9007199254740991

namespace ObjectReference

def computedSha256 (r : ObjectReference) : Canon :=
  .sha256 (.ofList [r.schemaVersion.canon, r.objectId, r.contentObjectId, .str r.kind, r.sha256,
    .num r.sizeBytes, .str r.tenantId, .str r.linkAccountId, .str r.conversationScopeHash,
    .num r.createdAtMs])

def hasValidSha256 (r : ObjectReference) : Bool := r.referenceSha256 = r.computedSha256

def withComputedSha256 (r : ObjectReference) : ObjectReference :=
  { r with referenceSha256 := r.computedSha256 }

/-- The validation of the model. -/
def validate (r : ObjectReference) : Except ObjectFault Unit := do
  rejectIf (¬ (r.kind ∈ kinds ∧ 1 ≤ r.sizeBytes ∧ r.sizeBytes ≤ 2147483648 ∧
      1 ≤ r.tenantId.length ∧ r.tenantId.length ≤ 160 ∧ 1 ≤ r.linkAccountId.length ∧
      r.linkAccountId.length ≤ 160 ∧ isDigest r.conversationScopeHash = true))
    (.value "ObjectReference")
  rejectIf (r.contentObjectId ≠ Objects.contentObjectId r.sha256)
    (.value "content object ID does not match content digest")
  rejectIf (r.objectId ≠ deriveObjectReferenceId r.kind r.sha256 r.tenantId r.linkAccountId
      r.conversationScopeHash)
    (.value "object reference ID is not scope and content bound")

/-- `model_dump(exclude={"created_at_ms", "reference_sha256"})`. -/
def withoutTime (r : ObjectReference) : ObjectReference :=
  { r with createdAtMs := 0, referenceSha256 := .null }

end ObjectReference

structure ObjectRevision where
  schemaVersion : SchemaVersion
  revisionId : Canon
  logicalObjectId : PyStr
  revision : ℕ
  objectId : Canon
  contentSha256 : Canon
  manifestSha256 : PyStr
  createdAtMs : ℕ
  revisionSha256 : Canon
  deriving DecidableEq

namespace ObjectRevision

def derivedId (logicalObjectId : PyStr) (revision : ℕ) (objectId contentSha256 : Canon)
    (manifestSha256 : PyStr) : Canon :=
  .ident "orv_" (.ofList [.text "tiangong.gateway.object-revision.v1", .str logicalObjectId,
    .num revision, objectId, contentSha256, .str manifestSha256])

def computedSha256 (r : ObjectRevision) : Canon :=
  .sha256 (.ofList [r.schemaVersion.canon, r.revisionId, .str r.logicalObjectId, .num r.revision,
    r.objectId, r.contentSha256, .str r.manifestSha256, .num r.createdAtMs])

def hasValidSha256 (r : ObjectRevision) : Bool := r.revisionSha256 = r.computedSha256

def withComputedSha256 (r : ObjectRevision) : ObjectRevision :=
  { r with revisionSha256 := r.computedSha256 }

def validate (r : ObjectRevision) : Except ObjectFault Unit := do
  rejectIf (¬ (1 ≤ r.logicalObjectId.length ∧ r.logicalObjectId.length ≤ 160 ∧ 1 ≤ r.revision ∧
    isDigest r.manifestSha256 = true)) (.value "ObjectRevision")
  rejectIf (r.revisionId ≠ derivedId r.logicalObjectId r.revision r.objectId r.contentSha256
      r.manifestSha256)
    (.value "object revision ID is not content and manifest bound")

end ObjectRevision

/-- A file below `blobs/sha256`. -/
structure Blob where
  path : Canon
  data : Content

structure ContentRow where
  contentSha256 : Canon
  contentObjectId : Canon
  sizeBytes : ℕ
  relativePath : Canon
  createdAtMs : ℕ

/-- A row of the references: its columns that are read, and what its JSON says. -/
structure ReferenceRow where
  objectId : Canon
  contentSha256 : Canon
  reference : ObjectReference
  referenceSha256 : Canon

structure RevisionRow where
  revision : ObjectRevision
  revisionSha256 : Canon

/-- `UNIQUE (logical_object_id, revision)`; the identifier of a revision is made of them too. -/
def RevisionRow.key (row : RevisionRow) : PyStr × ℕ :=
  (row.revision.logicalObjectId, row.revision.revision)

structure ObjectStore where
  blobs : Table Blob.path
  contents : Table ContentRow.contentSha256
  references : Table ReferenceRow.objectId
  revisions : Table RevisionRow.key

namespace ObjectStore

def empty : ObjectStore := ⟨.empty, .empty, .empty, .empty⟩

/-- `_blob_relative_path`. -/
def blobPath (digest : Canon) : Canon := .cons (.text "blobs/sha256/") digest

/-- The digest of the canonical JSON of the whole record, its own digest included. -/
def payloadSha256 (computed recorded : Canon) : Canon := .sha256 (.cons computed recorded)

def parseReference (row : ReferenceRow) : Except ObjectFault ObjectReference := do
  (row.reference.validate).mapError fun _ => .corruption "stored object reference is invalid"
  rejectIf (payloadSha256 row.reference.computedSha256 row.reference.referenceSha256 ≠
      row.referenceSha256 ∨ row.reference.hasValidSha256 = false)
    (.corruption "stored object reference digest is invalid")
  pure row.reference

def parseRevision (row : RevisionRow) : Except ObjectFault ObjectRevision := do
  (row.revision.validate).mapError fun _ => .corruption "stored object revision is invalid"
  rejectIf (payloadSha256 row.revision.computedSha256 row.revision.revisionSha256 ≠
      row.revisionSha256 ∨ row.revision.hasValidSha256 = false)
    (.corruption "stored object revision digest is invalid")
  pure row.revision

/-- What the iterator of a stream yields. -/
inductive Chunk where
  | bytes (data : Content)
  | other
  /-- The iterator raises. -/
  | fails

structure PutArgs where
  chunks : List Chunk
  kind : PyStr
  tenantId : PyStr
  linkAccountId : PyStr
  conversationScopeHash : PyStr
  createdAtMs : ℤ
  maxBytes : ℤ

def putBytes (data : Content) (kind tenantId linkAccountId conversationScopeHash : PyStr)
    (createdAtMs : ℤ) : PutArgs :=
  ⟨[.bytes data], kind, tenantId, linkAccountId, conversationScopeHash, createdAtMs,
    max 1 data.length⟩

def writeChunks (maxBytes : ℤ) : Content → List Chunk → Except ObjectFault Content
  | written, [] =>
    if written = [] then .error (.value "empty content object is forbidden") else .ok written
  | written, .bytes data :: chunks =>
    if data = [] then writeChunks maxBytes written chunks
    else if maxBytes < (written ++ data).length then
      .error (.value "object stream exceeds declared byte limit")
    else writeChunks maxBytes (written ++ data) chunks
  | _, .other :: _ => .error (.type "object stream chunks must be bytes")
  | _, .fails :: _ => .error .raised

/-- The temporary file of a put. -/
def stage (args : PutArgs) : Except ObjectFault Content := do
  rejectIf (args.createdAtMs < 0 ∨ args.tenantId = [] ∨ args.linkAccountId = [] ∨
      isDigest args.conversationScopeHash = false ∨
      ¬ (1 ≤ args.maxBytes ∧ args.maxBytes ≤ 2147483648))
    (.value "object reference scope or limit is invalid")
  writeChunks args.maxBytes [] args.chunks

/-- Move the temporary file to its place, unless the content is there; the answer says whether it
was moved. -/
def placeBlob (data : Content) (s : ObjectStore) : Except ObjectFault (Bool × ObjectStore) :=
  match s.blobs.find (blobPath (contentSha256 data)) with
  | some blob =>
    if (contentSha256 blob.data, blob.data.length) ≠ (contentSha256 data, data.length) then
      .error (.corruption "content-address collision or blob tamper detected")
    else .ok (false, s)
  | none => do
    let blobs ← s.blobs.insert .database ⟨blobPath (contentSha256 data), data⟩
    pure (true, { s with blobs })

/-- The reference of a content, before its digest. -/
def referenceOf (args : PutArgs) (data : Content) : ObjectReference where
  schemaVersion := .current
  objectId := deriveObjectReferenceId args.kind (contentSha256 data) args.tenantId
    args.linkAccountId args.conversationScopeHash
  contentObjectId := contentObjectId (contentSha256 data)
  kind := args.kind
  sha256 := contentSha256 data
  sizeBytes := data.length
  tenantId := args.tenantId
  linkAccountId := args.linkAccountId
  conversationScopeHash := args.conversationScopeHash
  createdAtMs := args.createdAtMs.toNat
  referenceSha256 := .null

def buildReference (args : PutArgs) (data : Content) : Except ObjectFault ObjectReference := do
  rejectIf (¬ (args.kind.Encodable ∧ args.tenantId.Encodable ∧ args.linkAccountId.Encodable))
    (.value "canonical JSON strings may not contain lone surrogates")
  (referenceOf args data).validate
  rejectIf (maxSafeInteger < args.createdAtMs.toNat)
    (.value "integer is outside the interoperable JSON range")
  pure (referenceOf args data).withComputedSha256

structure ObjectPutResult where
  reference : ObjectReference
  createdByThisCall : Bool
  contentCreatedByThisCall : Bool
  deriving DecidableEq

def indexContent (reference : ObjectReference) (s : ObjectStore) :
    Except ObjectFault (Table ContentRow.contentSha256) :=
  match s.contents.find reference.sha256 with
  | some content =>
    if content.sizeBytes ≠ reference.sizeBytes ∨
        content.relativePath ≠ blobPath reference.sha256 then
      .error (.corruption "content index disagrees with immutable blob")
    else .ok s.contents
  | none => s.contents.insert .database
      { contentSha256 := reference.sha256
        contentObjectId := reference.contentObjectId
        sizeBytes := reference.sizeBytes
        relativePath := blobPath reference.sha256
        createdAtMs := reference.createdAtMs }

/-- The transaction of a put. -/
def indexReference (reference : ObjectReference) (contentCreated : Bool) (s : ObjectStore) :
    Except ObjectFault (ObjectPutResult × ObjectStore) := do
  let contents ← s.indexContent reference
  match s.references.find reference.objectId with
  | some row =>
    let stored ← parseReference row
    rejectIf (stored.withoutTime ≠ reference.withoutTime)
      (.conflict "object reference identity was reused")
    pure (⟨stored, false, contentCreated⟩, { s with contents })
  | none =>
    let references ← s.references.insert .database
      { objectId := reference.objectId
        contentSha256 := reference.sha256
        reference
        referenceSha256 := payloadSha256 reference.computedSha256 reference.referenceSha256 }
    pure (⟨reference, true, contentCreated⟩, { s with contents, references })

/-- `put_stream`: what it answers or raises, and the store it leaves. -/
def putStream (args : PutArgs) (s : ObjectStore) :
    ObjectStore × Except ObjectFault ObjectPutResult :=
  match stage args with
  | .error fault => (s, .error fault)
  | .ok data =>
    match s.placeBlob data with
    | .error fault => (s, .error fault)
    | .ok (contentCreated, placed) =>
      committed placed id (do
        let reference ← buildReference args data
        placed.indexReference reference contentCreated)

/-- A put whose process dies before the transaction commits. -/
def crashedPut (args : PutArgs) (s : ObjectStore) : ObjectStore :=
  match stage args with
  | .error _ => s
  | .ok data =>
    match s.placeBlob data with
    | .error _ => s
    | .ok (_, placed) => placed

structure RevisionArgs where
  logicalObjectId : PyStr
  revision : ℤ
  objectId : Canon
  manifestSha256 : PyStr
  createdAtMs : ℤ

/-- `coalesce(max(revision), 0)`. -/
def currentRevision (s : ObjectStore) (logicalObjectId : PyStr) : ℕ :=
  ((s.revisions.rows.filter fun row => row.revision.logicalObjectId = logicalObjectId).map
    fun row => row.revision.revision).foldr max 0

/-- The revision that is asked for, before its digest. -/
def revisionOf (args : RevisionArgs) (contentSha256 : Canon) : ObjectRevision where
  schemaVersion := .current
  revisionId := ObjectRevision.derivedId args.logicalObjectId args.revision.toNat args.objectId
    contentSha256 args.manifestSha256
  logicalObjectId := args.logicalObjectId
  revision := args.revision.toNat
  objectId := args.objectId
  contentSha256 := contentSha256
  manifestSha256 := args.manifestSha256
  createdAtMs := args.createdAtMs.toNat
  revisionSha256 := .null

def buildRevision (args : RevisionArgs) (contentSha256 : Canon) :
    Except ObjectFault ObjectRevision := do
  rejectIf (¬ (args.logicalObjectId.Encodable ∧ args.manifestSha256.Encodable))
    (.value "canonical JSON strings may not contain lone surrogates")
  rejectIf (maxSafeInteger < args.revision.natAbs)
    (.value "integer is outside the interoperable JSON range")
  rejectIf (args.revision < 1 ∨ args.createdAtMs < 0) (.value "ObjectRevision")
  (revisionOf args contentSha256).validate
  rejectIf (maxSafeInteger < args.createdAtMs.toNat)
    (.value "integer is outside the interoperable JSON range")
  pure (revisionOf args contentSha256).withComputedSha256

def registerRevision (args : RevisionArgs) (s : ObjectStore) :
    Except ObjectFault ((ObjectRevision × Bool) × ObjectStore) := do
  let row ← required (s.references.find args.objectId)
    (.conflict "revision references an unknown content object")
  let reference ← parseReference row
  let candidate ← buildRevision args reference.sha256
  match s.revisions.find (candidate.logicalObjectId, candidate.revision) with
  | some existing =>
    let stored ← parseRevision existing
    rejectIf (stored ≠ candidate)
      (.conflict "logical revision cannot change content or manifest")
    pure ((stored, false), s)
  | none =>
    rejectIf (candidate.revision ≠ s.currentRevision candidate.logicalObjectId + 1)
      (.conflict "logical object revisions must be contiguous")
    let revisions ← s.revisions.insert .database
      ⟨candidate, payloadSha256 candidate.computedSha256 candidate.revisionSha256⟩
    pure ((candidate, true), { s with revisions })

def readBytes (objectId : Canon) (s : ObjectStore) : Except ObjectFault Content := do
  let row ← required (s.references.find objectId) (.conflict "object reference does not exist")
  let content ← required (s.contents.find row.contentSha256)
    (.conflict "object reference does not exist")
  let reference ← parseReference row
  let blob ← required (s.blobs.find content.relativePath)
    (.corruption "content blob is missing or unsafe")
  rejectIf (blob.data.length ≠ reference.sizeBytes ∨ contentSha256 blob.data ≠ reference.sha256)
    (.corruption "content blob failed read verification")
  pure blob.data

end ObjectStore

end Tiangong.Objects
