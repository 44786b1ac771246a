import Mathlib.Data.List.MinMax
import Mathlib.Order.Nat
import Tiangong.ObjectStore

/-!
# Runs of the object store

Every reference of the store can be read, and what was written under it is what is read. The store
only grows: contents, references and revisions stay as they were first written, whatever calls fail
or are lost between the file and its rows. A revision is bound to the time of its registration,
though, so that a replay with a later time is refused.
-/
namespace Tiangong.Objects

open ObjectStore List

/-- The chunks of a stream, one after the other. -/
def content : List Chunk → Content
  | [] => []
  | .bytes data :: chunks => data ++ content chunks
  | _ :: chunks => content chunks

variable {data : Content}

lemma contentSha256_inj {data' : Content} :
    contentSha256 data = contentSha256 data' ↔ data = data' := by
  constructor
  · intro h
    have hbyte : Function.Injective fun byte : UInt8 => Canon.num byte.toNat := by
      intro byte byte' heq
      exact UInt8.toNat_inj.mp (Canon.num.inj heq)
    exact hbyte.list_map (Canon.ofList_injective (Canon.sha256.inj h))
  · rintro rfl
    rfl

lemma deriveObjectReferenceId_inj {kind kind' tenantId tenantId' linkAccountId linkAccountId'
    scope scope' : PyStr} {sha sha' : Canon} :
    deriveObjectReferenceId kind sha tenantId linkAccountId scope =
      deriveObjectReferenceId kind' sha' tenantId' linkAccountId' scope' ↔
    kind = kind' ∧ sha = sha' ∧ tenantId = tenantId' ∧ linkAccountId = linkAccountId' ∧
      scope = scope' := by
  simp [deriveObjectReferenceId, Canon.ofList_injective.eq_iff, Canon.str_inj]

lemma writeChunks_eq_ok {maxBytes : ℤ} {written : Content} {chunks : List Chunk}
    (h : writeChunks maxBytes written chunks = .ok data) : data = written ++ content chunks := by
  induction chunks generalizing written with
  | nil =>
    unfold writeChunks at h
    split at h
    · cases h
    · rw [content, append_nil]
      exact (Except.ok.inj h).symm
  | cons chunk chunks ih =>
    cases chunk with
    | other => cases h
    | fails => cases h
    | bytes bytes =>
      unfold writeChunks at h
      rw [content]
      split at h
      · next hempty =>
        rw [hempty, nil_append]
        exact ih h
      · split at h
        · cases h
        · rw [ih h, append_assoc]

lemma stage_eq_ok {args : PutArgs} (h : stage args = .ok data) : data = content args.chunks := by
  simp only [stage, bind_eq_ok, rejectIf_eq_ok] at h
  obtain ⟨-, -, h⟩ := h
  simpa using writeChunks_eq_ok h

/-- The identifier that a put returns. -/
def ObjectStore.PutArgs.objectId (args : PutArgs) : Canon :=
  deriveObjectReferenceId args.kind (contentSha256 (content args.chunks)) args.tenantId
    args.linkAccountId args.conversationScopeHash

/-- A content stands in its file, and its row tells where. -/
def Filed (blobs : Table Blob.path) (row : ContentRow) : Prop :=
  ∃ data, blobs.find (blobPath (contentSha256 data)) = some ⟨blobPath (contentSha256 data), data⟩ ∧
    row.contentSha256 = contentSha256 data ∧ row.sizeBytes = data.length ∧
    row.relativePath = blobPath (contentSha256 data)

/-- A reference parses, and its content is filed. -/
structure Resolves (contents : Table ContentRow.contentSha256) (row : ReferenceRow) : Prop where
  parses : parseReference row = .ok row.reference
  identified : row.objectId = row.reference.objectId
  named : row.contentSha256 = row.reference.sha256
  filed : ∃ content, contents.find row.contentSha256 = some content ∧
    content.sizeBytes = row.reference.sizeBytes

structure Sound (s : ObjectStore) : Prop where
  blobs : ∀ blob ∈ s.blobs.rows, blob.path = blobPath (contentSha256 blob.data)
  contents : ∀ row ∈ s.contents.rows, Filed s.blobs row
  references : ∀ row ∈ s.references.rows, Resolves s.contents row
  revisions : ∀ row ∈ s.revisions.rows, parseRevision row = .ok row.revision
  contiguous : ∀ logicalObjectId, ∃ n, ∀ k,
    (s.revisions.find (logicalObjectId, k)).isSome = true ↔ 1 ≤ k ∧ k ≤ n

theorem empty_sound : Sound .empty := by
  refine ⟨by simp [empty], by simp [empty], by simp [empty], by simp [empty], fun _ => ⟨0, ?_⟩⟩
  intro k
  simp only [empty, Table.find_empty, Option.isSome_none, Bool.false_eq_true, false_iff]
  omega

/-- Rows stay where they are. -/
def Kept {ρ κ : Type} {key : ρ → κ} [DecidableEq κ] (t t' : Table key) : Prop :=
  ∀ k row, t.find k = some row → t'.find k = some row

theorem Kept.refl {ρ κ : Type} {key : ρ → κ} [DecidableEq κ] (t : Table key) : Kept t t :=
  fun _ _ h => h

theorem Kept.trans {ρ κ : Type} {key : ρ → κ} [DecidableEq κ] {t t' t'' : Table key}
    (h : Kept t t') (h' : Kept t' t'') : Kept t t'' :=
  fun k row hfind => h' k row (h k row hfind)

lemma kept_of_inserts {ρ κ : Type} {key : ρ → κ} [DecidableEq κ] {t t' : Table key} {r : ρ}
    (h : t.Inserts r t') : Kept t t' :=
  fun _ _ hfind => h.find_of_some hfind

/-- What was written stays as it was written. -/
structure Extends (s s' : ObjectStore) : Prop where
  blobs : Kept s.blobs s'.blobs
  contents : Kept s.contents s'.contents
  references : Kept s.references s'.references
  revisions : Kept s.revisions s'.revisions

theorem Extends.refl (s : ObjectStore) : Extends s s := ⟨.refl _, .refl _, .refl _, .refl _⟩

variable {s s' t : ObjectStore}

theorem Extends.trans (h : Extends s s') (h' : Extends s' t) : Extends s t :=
  ⟨h.blobs.trans h'.blobs, h.contents.trans h'.contents, h.references.trans h'.references,
    h.revisions.trans h'.revisions⟩

theorem Filed.kept {blobs blobs' : Table Blob.path} {row : ContentRow} (h : Filed blobs row)
    (hkept : Kept blobs blobs') : Filed blobs' row := by
  obtain ⟨data, hblob, hrow⟩ := h
  exact ⟨data, hkept _ _ hblob, hrow⟩

variable {row : ReferenceRow}

theorem Resolves.kept {contents contents' : Table ContentRow.contentSha256}
    (h : Resolves contents row) (hkept : Kept contents contents') : Resolves contents' row := by
  obtain ⟨content, hcontent, hsize⟩ := h.filed
  exact ⟨h.parses, h.identified, h.named, content, hkept _ _ hcontent, hsize⟩

variable {reference : ObjectReference}

lemma parseReference_eq_ok (h : parseReference row = .ok reference) : reference = row.reference ∧
      reference.objectId = deriveObjectReferenceId reference.kind reference.sha256
        reference.tenantId reference.linkAccountId reference.conversationScopeHash ∧
      reference.contentObjectId = contentObjectId reference.sha256 := by
  simp only [parseReference, eq_ok_iff, mapError_eq_ok, ObjectReference.validate, not_not] at h
  obtain ⟨⟨-, hcontent, hid⟩, -, rfl⟩ := h
  exact ⟨rfl, hid, hcontent⟩

/-- What stands under an identifier is the content that the identifier was made of. -/
theorem Sound.read (h : Sound s) {kind tenantId linkAccountId scope : PyStr} (hrow : s.references.find (deriveObjectReferenceId kind
      (contentSha256 data) tenantId linkAccountId scope) = some row) :
    s.readBytes (deriveObjectReferenceId kind (contentSha256 data) tenantId linkAccountId scope) =
      .ok data := by
  have hresolves := h.references row (Table.mem_of_find hrow)
  obtain ⟨-, hid, -⟩ := parseReference_eq_ok hresolves.parses
  rw [← hresolves.identified, Table.key_of_find hrow, deriveObjectReferenceId_inj] at hid
  obtain ⟨-, hsha, -⟩ := hid
  obtain ⟨content, hcontent, hsize⟩ := hresolves.filed
  obtain ⟨data', hblob, hdata, hlength, hpath⟩ := h.contents content (Table.mem_of_find hcontent)
  rw [Table.key_of_find hcontent, hresolves.named, ← hsha, contentSha256_inj] at hdata
  subst hdata
  have hmatches : ¬ (data.length ≠ row.reference.sizeBytes ∨
      contentSha256 data ≠ row.reference.sha256) := by
    rw [← hsize, hlength, ← hsha]
    simp
  unfold readBytes
  simp only [eq_ok_iff]
  refine ⟨row, hrow, content, hcontent, row.reference, hresolves.parses,
    ⟨blobPath (contentSha256 data), data⟩, ?_, hmatches, rfl⟩
  rw [hpath]
  exact hblob

/-- The content of a put stands in its file. -/
structure Placed (s placed : ObjectStore) (data : Content) : Prop where
  sound : Sound placed
  kept : Kept s.blobs placed.blobs
  contents : placed.contents = s.contents
  references : placed.references = s.references
  revisions : placed.revisions = s.revisions
  blob : placed.blobs.find (blobPath (contentSha256 data)) =
    some ⟨blobPath (contentSha256 data), data⟩

theorem Placed.extends {placed : ObjectStore} (h : Placed s placed data) : Extends s placed := by
  refine ⟨h.kept, ?_, ?_, ?_⟩
  · rw [h.contents]
    exact .refl _
  · rw [h.references]
    exact .refl _
  · rw [h.revisions]
    exact .refl _

variable {created : Bool}

lemma placed_of_ok {placed : ObjectStore} (hs : Sound s)
    (h : s.placeBlob data = .ok (created, placed)) : Placed s placed data := by
  unfold placeBlob at h
  cases hfind : s.blobs.find (blobPath (contentSha256 data)) with
  | some blob =>
    rw [hfind] at h
    dsimp only at h
    split at h
    · cases h
    · obtain ⟨-, rfl⟩ := Prod.mk.inj (Except.ok.inj h)
      have hpath := Table.key_of_find hfind
      have hdata := hs.blobs blob (Table.mem_of_find hfind)
      rw [hpath, blobPath, blobPath, Canon.cons.injEq, contentSha256_inj] at hdata
      refine ⟨hs, .refl _, rfl, rfl, rfl, ?_⟩
      rw [hfind, ← hpath, hdata.2]
  | none =>
    rw [hfind] at h
    simp only [eq_ok_iff, Table.insert_eq_ok] at h
    obtain ⟨blobs, hins, heq⟩ := h
    obtain ⟨-, rfl⟩ := Prod.mk.inj heq
    have hkept := kept_of_inserts hins
    refine ⟨⟨?_, ?_, hs.references, hs.revisions, hs.contiguous⟩, hkept, rfl, rfl, rfl, ?_⟩
    · intro blob hblob
      rw [hins.rows, mem_append, mem_singleton] at hblob
      rcases hblob with hblob | rfl
      · exact hs.blobs blob hblob
      · rfl
    · exact fun row hrow => (hs.contents row hrow).kept hkept
    · rw [hins.find, if_pos rfl]

/-- The content has its row, and the rows still tell where the contents stand. -/
lemma indexContent_spec {contents : Table ContentRow.contentSha256} (hs : Sound s)
    (hblob : s.blobs.find (blobPath (contentSha256 data)) =
      some ⟨blobPath (contentSha256 data), data⟩)
    (hsha : reference.sha256 = contentSha256 data) (hsize : reference.sizeBytes = data.length)
    (h : s.indexContent reference = .ok contents) :
    Kept s.contents contents ∧ (∀ row ∈ contents.rows, Filed s.blobs row) ∧
      ∃ row, contents.find reference.sha256 = some row ∧ row.sizeBytes = reference.sizeBytes := by
  unfold indexContent at h
  cases hfind : s.contents.find reference.sha256 with
  | some row =>
    rw [hfind] at h
    dsimp only at h
    split at h
    · cases h
    · rename_i hagrees
      obtain rfl := Except.ok.inj h
      simp only [not_or, not_not] at hagrees
      exact ⟨.refl _, hs.contents, row, hfind, hagrees.1⟩
  | none =>
    rw [hfind] at h
    have hins := Table.insert_eq_ok.mp h
    have hfound := (hins.find reference.sha256).trans (if_pos rfl)
    refine ⟨kept_of_inserts hins, ?_, _, hfound, rfl⟩
    · intro row hrow
      rw [hins.rows, mem_append, mem_singleton] at hrow
      rcases hrow with hrow | rfl
      · exact hs.contents row hrow
      · exact ⟨data, hblob, hsha, hsize, by rw [hsha]⟩

lemma indexReference_spec {result : ObjectPutResult} (hs : Sound s)
    (hblob : s.blobs.find (blobPath (contentSha256 data)) =
      some ⟨blobPath (contentSha256 data), data⟩)
    (hsha : reference.sha256 = contentSha256 data) (hsize : reference.sizeBytes = data.length)
    (hvalid : reference.validate = .ok ()) (hdigest : reference.hasValidSha256 = true)
    (h : s.indexReference reference created = .ok (result, s')) :
    Sound s' ∧ Extends s s' ∧ s'.revisions = s.revisions ∧
      result.reference.objectId = reference.objectId ∧
      ∃ row, s'.references.find reference.objectId = some row := by
  simp only [indexReference, bind_eq_ok] at h
  obtain ⟨contents, hcontents, h⟩ := h
  obtain ⟨hkept, hfiled, hrow⟩ := indexContent_spec hs hblob hsha hsize hcontents
  have hresolves : ∀ row ∈ s.references.rows, Resolves contents row :=
    fun row hrow => (hs.references row hrow).kept hkept
  cases hfind : s.references.find reference.objectId with
  | some row =>
    rw [hfind] at h
    simp only [eq_pair_iff] at h
    obtain ⟨stored, hparse, -, rfl, rfl⟩ := h
    obtain ⟨rfl, -, -⟩ := parseReference_eq_ok hparse
    refine ⟨⟨hs.blobs, hfiled, hresolves, hs.revisions, hs.contiguous⟩,
      ⟨.refl _, hkept, .refl _, .refl _⟩, rfl, ?_, row, hfind⟩
    rw [← (hs.references row (Table.mem_of_find hfind)).identified, Table.key_of_find hfind]
  | none =>
    rw [hfind] at h
    simp only [eq_pair_iff, Table.insert_eq_ok] at h
    obtain ⟨references, hins, rfl, rfl⟩ := h
    have hfound := (hins.find reference.objectId).trans (if_pos rfl)
    refine ⟨⟨hs.blobs, hfiled, ?_, hs.revisions, hs.contiguous⟩,
      ⟨.refl _, hkept, kept_of_inserts hins, .refl _⟩, rfl, rfl, _, hfound⟩
    · intro row hrow'
      rw [hins.rows, mem_append, mem_singleton] at hrow'
      rcases hrow' with hrow' | rfl
      · exact hresolves row hrow'
      · refine ⟨?_, rfl, rfl, hrow⟩
        simp only [parseReference, eq_ok_iff, mapError_eq_ok, hvalid, hdigest]
        simp

lemma buildReference_eq_ok {args : PutArgs} (h : buildReference args data = .ok reference) :
    reference = (referenceOf args data).withComputedSha256 ∧ reference.validate = .ok () ∧
      reference.hasValidSha256 = true := by
  simp only [buildReference, eq_ok_iff] at h
  obtain ⟨-, _, hvalid, -, rfl⟩ := h
  exact ⟨rfl, hvalid, decide_eq_true rfl⟩

/-- A put that answers has found or written the row of its identifier. -/
lemma putStream_spec (args : PutArgs) (hs : Sound s) :
    Sound (s.putStream args).1 ∧ Extends s (s.putStream args).1 ∧
      (s.putStream args).1.revisions = s.revisions ∧
      (∀ fault, (s.putStream args).2 = .error fault →
        (s.putStream args).1.references = s.references) ∧
      ∀ result, (s.putStream args).2 = .ok result → result.reference.objectId = args.objectId ∧
        ∃ row, (s.putStream args).1.references.find args.objectId = some row := by
  unfold putStream
  cases hstage : stage args with
  | error fault => exact ⟨hs, .refl s, rfl, fun _ _ => rfl, fun _ h => by cases h⟩
  | ok data =>
    dsimp only
    cases hplace : s.placeBlob data with
    | error fault => exact ⟨hs, .refl s, rfl, fun _ _ => rfl, fun _ h => by cases h⟩
    | ok pair =>
      have hplaced := placed_of_ok hs hplace
      dsimp only
      cases hput : (do
          let reference ← buildReference args data
          pair.2.indexReference reference pair.1) with
      | error fault =>
        exact ⟨hplaced.sound, hplaced.extends, hplaced.revisions, fun _ _ => hplaced.references,
          fun _ h => by cases h⟩
      | ok indexed =>
        rw [bind_eq_ok] at hput
        obtain ⟨reference, hbuild, hindex⟩ := hput
        obtain ⟨rfl, hvalid, hdigest⟩ := buildReference_eq_ok hbuild
        obtain ⟨hsound, hextends, hsame, hid, hrow⟩ := indexReference_spec hplaced.sound
          hplaced.blob rfl rfl hvalid hdigest hindex
        refine ⟨hsound, hplaced.extends.trans hextends, hsame.trans hplaced.revisions,
          fun _ h => ?_, fun result h => ?_⟩
        · cases h
        · cases h
          rw [PutArgs.objectId, ← stage_eq_ok hstage]
          exact ⟨hid, hrow⟩

lemma crashedPut_spec (args : PutArgs) (hs : Sound s) :
    Sound (s.crashedPut args) ∧ Extends s (s.crashedPut args) ∧
      (s.crashedPut args).revisions = s.revisions := by
  unfold crashedPut
  cases hstage : stage args with
  | error fault => exact ⟨hs, .refl s, rfl⟩
  | ok data =>
    dsimp only
    cases hplace : s.placeBlob data with
    | error fault => exact ⟨hs, .refl s, rfl⟩
    | ok placed =>
      have hplaced := placed_of_ok hs hplace
      exact ⟨hplaced.sound, hplaced.extends, hplaced.revisions⟩

lemma currentRevision_eq {logicalObjectId : PyStr} {n : ℕ}
    (h : ∀ k, (s.revisions.find (logicalObjectId, k)).isSome = true ↔ 1 ≤ k ∧ k ≤ n) :
    s.currentRevision logicalObjectId = n := by
  have hmem : ∀ k, k ∈ (s.revisions.rows.filter fun row =>
      row.revision.logicalObjectId = logicalObjectId).map (fun row => row.revision.revision) ↔
      1 ≤ k ∧ k ≤ n := by
    intro k
    rw [← h k, Option.isSome_iff_exists]
    simp only [mem_map, mem_filter, decide_eq_true_eq, Table.find_eq_some,
      RevisionRow.key, Prod.mk.injEq, and_assoc]
  apply Nat.le_antisymm
  · exact max_le_of_forall_le _ _ fun k hk => ((hmem k).mp hk).2
  · by_cases hn : n = 0
    · omega
    · exact le_max_of_le ((hmem n).mpr (by omega)) le_rfl

variable {args : RevisionArgs}

lemma buildRevision_eq_ok {sha : Canon} {candidate : ObjectRevision}
    (h : buildRevision args sha = .ok candidate) :
    candidate = (revisionOf args sha).withComputedSha256 ∧ candidate.validate = .ok () ∧
      candidate.hasValidSha256 = true ∧ 1 ≤ args.revision ∧ 0 ≤ args.createdAtMs := by
  simp only [buildRevision, eq_ok_iff] at h
  obtain ⟨-, -, hbounds, _, hvalid, -, rfl⟩ := h
  exact ⟨rfl, hvalid, decide_eq_true rfl, by omega, by omega⟩

/-- What a registration finds or writes. -/
structure Registered (args : RevisionArgs) (s s' : ObjectStore) (revision : ObjectRevision) :
    Prop where
  sound : Sound s'
  extends' : Extends s s'
  references : s'.references = s.references
  reference : ∃ row, s.references.find args.objectId = some row ∧
    parseReference row = .ok row.reference ∧
    buildRevision args row.reference.sha256 = .ok revision
  row : ∃ row, s'.revisions.find (args.logicalObjectId, args.revision.toNat) = some row ∧
    row.revision = revision

variable {revision : ObjectRevision}

theorem Registered.eq (h : Registered args s s' revision) :
    (∃ sha, revision = (revisionOf args sha).withComputedSha256) ∧ 1 ≤ args.revision ∧
      0 ≤ args.createdAtMs := by
  obtain ⟨row, -, -, hbuild⟩ := h.reference
  obtain ⟨heq, -, -, hbounds⟩ := buildRevision_eq_ok hbuild
  exact ⟨⟨_, heq⟩, hbounds⟩

lemma registerRevision_spec
    (hs : Sound s) (h : s.registerRevision args = .ok ((revision, created), s')) :
    Registered args s s' revision ∧ (created = false → s' = s) ∧
      (created = true → s.revisions.Inserts
        ⟨revision, payloadSha256 revision.computedSha256 revision.revisionSha256⟩
        s'.revisions) := by
  simp only [registerRevision, eq_ok_iff] at h
  obtain ⟨row, hrow, reference, hparse, candidate, hbuild, h⟩ := h
  obtain ⟨rfl, -, -⟩ := parseReference_eq_ok hparse
  obtain ⟨heq, hvalid, hdigest, hrevision, -⟩ := buildRevision_eq_ok hbuild
  have hkey : (candidate.logicalObjectId, candidate.revision) =
      (args.logicalObjectId, args.revision.toNat) := by
    rw [heq]
    rfl
  cases hfind : s.revisions.find (candidate.logicalObjectId, candidate.revision) with
  | some existing =>
    rw [hfind] at h
    simp only [eq_pair_iff] at h
    obtain ⟨stored, hstored, hsame, ⟨rfl, rfl⟩, rfl⟩ := h
    have hstored' := hs.revisions existing (Table.mem_of_find hfind)
    rw [hstored'] at hstored
    obtain rfl := Except.ok.inj hstored
    have hsame := not_not.mp hsame
    refine ⟨⟨hs, .refl _, rfl, ⟨row, hrow, hparse, ?_⟩, existing, ?_, rfl⟩, fun _ => rfl,
      fun h => by cases h⟩
    · rw [hsame]
      exact hbuild
    · rw [← hkey]
      exact hfind
  | none =>
    rw [hfind] at h
    simp only [eq_pair_iff, not_not, Table.insert_eq_ok] at h
    obtain ⟨hnext, revisions, hins, ⟨rfl, rfl⟩, rfl⟩ := h
    have hfound := (hins.find (candidate.logicalObjectId, candidate.revision)).trans (if_pos rfl)
    refine ⟨⟨⟨hs.blobs, hs.contents, hs.references, ?_, ?_⟩,
      ⟨.refl _, .refl _, .refl _, kept_of_inserts hins⟩, rfl, ⟨row, hrow, hparse, hbuild⟩,
      _, hkey ▸ hfound, rfl⟩, Bool.noConfusion, fun _ => hins⟩
    · intro row' hrow'
      rw [hins.rows, mem_append, mem_singleton] at hrow'
      rcases hrow' with hrow' | rfl
      · exact hs.revisions row' hrow'
      · simp only [parseRevision, eq_ok_iff, mapError_eq_ok, hvalid, hdigest]
        simp
    · intro logicalObjectId
      obtain ⟨n, hn⟩ := hs.contiguous logicalObjectId
      by_cases hlogical : candidate.logicalObjectId = logicalObjectId
      · subst hlogical
        rw [currentRevision_eq hn] at hnext
        refine ⟨n + 1, fun k => ?_⟩
        rw [hins.find]
        by_cases hk : candidate.revision = k
        · rw [if_pos (by rw [RevisionRow.key, hk])]
          simp only [Option.isSome_some, true_iff]
          omega
        · rw [if_neg (by simp [RevisionRow.key, hk]), hn k]
          omega
      · refine ⟨n, fun k => ?_⟩
        rw [hins.find, if_neg (by simp [RevisionRow.key, hlogical]), hn k]

/-- An accepted registration, made again, returns what it returned. -/
lemma registerRevision_again
    (h : Registered args s s' revision) (hsound : Sound t) (hextends : Extends s' t) :
    t.registerRevision args = .ok ((revision, false), t) := by
  obtain ⟨row, hrow, hparse, hbuild⟩ := h.reference
  obtain ⟨stored, hstored, hsame⟩ := h.row
  obtain ⟨heq, -, -, -, -⟩ := buildRevision_eq_ok hbuild
  have hrow' := (h.extends'.trans hextends).references _ _ hrow
  have hstored' := hextends.revisions _ _ hstored
  have hparsed := hsound.revisions stored (Table.mem_of_find hstored')
  have hkey : (revision.logicalObjectId, revision.revision) =
      (args.logicalObjectId, args.revision.toNat) := by
    rw [heq]
    rfl
  simp only [registerRevision, eq_ok_iff]
  refine ⟨row, hrow', row.reference, hparse, revision, hbuild, ?_⟩
  rw [hkey, hstored']
  simp only [eq_ok_iff, hparsed]
  exact ⟨stored.revision, rfl, not_not.mpr hsame, by rw [hsame]⟩

inductive StoreCall where
  /-- `put_stream`, or `put_bytes` by way of it. -/
  | put (args : PutArgs)
  /-- A put that is lost between its file and its rows. -/
  | crashedPut (args : PutArgs)
  | register (args : RevisionArgs)

inductive StoreReply where
  | put (result : ObjectPutResult)
  | lost
  | revision (revision : ObjectRevision) (created : Bool)

def objectMachine : Machine ObjectStore StoreCall (Except ObjectFault StoreReply) where
  step
    | s, .put args => ((s.putStream args).1, (s.putStream args).2.map .put)
    | s, .crashedPut args => (s.crashedPut args, .ok .lost)
    | s, .register args =>
      committed s (fun reply => .revision reply.1 reply.2) (s.registerRevision args)

theorem step_keeps (hs : Sound s) (call : StoreCall) :
    Sound (objectMachine.step s call).1 ∧ Extends s (objectMachine.step s call).1 := by
  cases call with
  | put args =>
    obtain ⟨hsound, hextends, -⟩ := putStream_spec args hs
    exact ⟨hsound, hextends⟩
  | crashedPut args =>
    obtain ⟨hsound, hextends, -⟩ := crashedPut_spec args hs
    exact ⟨hsound, hextends⟩
  | register args =>
    apply committed_fst (P := fun new => Sound new ∧ Extends s new) ⟨hs, .refl s⟩
    intro reply new h
    have hregistered := (registerRevision_spec hs h).1
    exact ⟨hregistered.sound, hregistered.extends'⟩

/-- A run keeps the store sound and what was written in it. -/
lemma exec_keeps (hs : Sound s) (calls : List StoreCall) :
    Sound (objectMachine.exec s calls) ∧ Extends s (objectMachine.exec s calls) := by
  induction calls generalizing s with
  | nil => exact ⟨hs, .refl s⟩
  | cons call calls ih =>
    obtain ⟨hsound, hextends⟩ := step_keeps hs call
    obtain ⟨hsound', hextends'⟩ := ih hsound
    exact ⟨hsound', hextends.trans hextends'⟩

theorem exec_sound (calls : List StoreCall) : Sound (objectMachine.exec .empty calls) :=
  (exec_keeps empty_sound calls).1

lemma exec_extends (calls later : List StoreCall) :
    Extends (objectMachine.exec .empty calls) (objectMachine.exec .empty (calls ++ later)) := by
  rw [Machine.exec_append]
  exact (exec_keeps (exec_sound calls) later).2

/-- Calls and crashes leave a sound store, and later ones take nothing from it. -/
theorem exec_sound_extends (calls later : List StoreCall) :
    let s := objectMachine.exec .empty calls
    Sound s ∧ Extends s (objectMachine.exec .empty (calls ++ later)) :=
  ⟨exec_sound calls, exec_extends calls later⟩

/-- The call names a revision that is registered for the same object and manifest, and a later
time than the registration did. -/
def RepeatsLater (s : ObjectStore) (call : StoreCall) : Prop :=
  ∃ args row, call = .register args ∧
    s.revisions.find (args.logicalObjectId, args.revision.toNat) = some row ∧
    row.revision.objectId = args.objectId ∧ row.revision.manifestSha256 = args.manifestSha256 ∧
    row.revision.createdAtMs < args.createdAtMs

/-- The record of a revision holds the time, and a replay has to equal it. -/
lemma registerRevision_of_repeatsLater (hs : Sound s)
    (h : RepeatsLater s (.register args)) {reply : (ObjectRevision × Bool) × ObjectStore} :
    s.registerRevision args ≠ .ok reply := by
  intro hok
  obtain ⟨args', row, hcall, hrow, -, -, hlater⟩ := h
  obtain rfl := StoreCall.register.inj hcall
  obtain ⟨⟨revision, created⟩, s'⟩ := reply
  have hregistered := (registerRevision_spec hs hok).1
  obtain ⟨⟨sha, heq⟩, -, hnonneg⟩ := hregistered.eq
  obtain ⟨row', hrow', hsame⟩ := hregistered.row
  rw [hregistered.extends'.revisions _ _ hrow] at hrow'
  obtain rfl := Option.some.inj hrow'
  have htime : row.revision.createdAtMs = args.createdAtMs.toNat := by
    rw [hsame, heq]
    rfl
  omega

/-- The answer to `call` after `calls`. -/
def answer (calls : List StoreCall) (call : StoreCall) : Except ObjectFault StoreReply :=
  (objectMachine.step (objectMachine.exec .empty calls) call).2

/-- What the store promises about a run. -/
structure Promises (calls : List StoreCall) : Prop where
  /-- What a put has answered for is read ever after. -/
  reads : ∀ before args between post result, calls = before ++ .put args :: between ++ post →
    answer before (.put args) = .ok (.put result) →
    (objectMachine.exec .empty (before ++ .put args :: between)).readBytes
      result.reference.objectId = .ok (content args.chunks)
  /-- The identifier is that of the kind, the content and the scope. -/
  identifies : ∀ before args between args' post result result',
    calls = before ++ .put args :: between ++ .put args' :: post →
    answer before (.put args) = .ok (.put result) →
    answer (before ++ .put args :: between) (.put args') = .ok (.put result') →
    (result.reference.objectId = result'.reference.objectId ↔
      args.kind = args'.kind ∧ content args.chunks = content args'.chunks ∧
      args.tenantId = args'.tenantId ∧ args.linkAccountId = args'.linkAccountId ∧
      args.conversationScopeHash = args'.conversationScopeHash)
  /-- A logical object has the revisions from one to some number. -/
  numbered : ∀ before post, calls = before ++ post → ∀ logicalObjectId, ∃ n, ∀ k,
    ((objectMachine.exec .empty before).revisions.find (logicalObjectId, k)).isSome = true ↔
      1 ≤ k ∧ k ≤ n
  /-- A revision stays what it first was, and an accepted registration is what it says. -/
  bound : ∀ before between post, calls = before ++ between ++ post → ∀ key row,
    (objectMachine.exec .empty before).revisions.find key = some row →
    (objectMachine.exec .empty (before ++ between)).revisions.find key = some row
  registers : ∀ before args post revision created, calls = before ++ .register args :: post →
    answer before (.register args) = .ok (.revision revision created) →
    revision.objectId = args.objectId ∧ revision.manifestSha256 = args.manifestSha256 ∧
      ∃ row, (objectMachine.exec .empty (before ++ [.register args])).revisions.find
        (args.logicalObjectId, args.revision.toNat) = some row ∧ row.revision = revision
  /-- An accepted registration can be made again, at its time or later. -/
  replayed : ∀ before args between createdAtMs post revision created,
    calls = before ++ .register args :: between ++ .register { args with createdAtMs } :: post →
    args.createdAtMs ≤ createdAtMs →
    answer before (.register args) = .ok (.revision revision created) →
    answer (before ++ .register args :: between) (.register { args with createdAtMs }) =
      .ok (.revision revision false)
  /-- A call that raises has changed no reference and no revision. -/
  undone : ∀ before call post fault, calls = before ++ call :: post →
    answer before call = .error fault →
    (objectMachine.exec .empty (before ++ [call])).references =
        (objectMachine.exec .empty before).references ∧
      (objectMachine.exec .empty (before ++ [call])).revisions =
        (objectMachine.exec .empty before).revisions

lemma answered_put {before : List StoreCall} {args : PutArgs} {result : ObjectPutResult}
    (h : answer before (.put args) = .ok (.put result)) :
    result.reference.objectId = args.objectId ∧
      ∃ row, (objectMachine.exec .empty (before ++ [.put args])).references.find args.objectId =
        some row := by
  obtain ⟨-, -, -, -, hok⟩ := putStream_spec args (exec_sound before)
  obtain ⟨result', hresult, heq⟩ := map_eq_ok.mp h
  obtain rfl := StoreReply.put.inj heq
  rw [Machine.exec_concat]
  exact hok result' hresult

lemma answered_register {before : List StoreCall}
    (h : answer before (.register args) = .ok (.revision revision created)) :
    Registered args (objectMachine.exec .empty before)
      (objectMachine.exec .empty (before ++ [.register args])) revision := by
  obtain ⟨reply, new, hok, heq⟩ := committed_answer h
  obtain ⟨rfl, rfl⟩ := StoreReply.revision.inj heq
  rw [Machine.exec_concat]
  have hnew : (objectMachine.step (objectMachine.exec .empty before) (.register args)).1 = new := by
    show (committed _ _ _).1 = new
    rw [hok]
    rfl
  rw [hnew]
  exact (registerRevision_spec (exec_sound before) hok).1

lemma registered_before (calls : List StoreCall) : ∀ key row,
    (objectMachine.exec .empty calls).revisions.find key = some row →
    ∃ before args between, calls = before ++ .register args :: between ∧
      answer before (.register args) = .ok (.revision row.revision true) := by
  induction calls using List.reverseRecOn with
  | nil =>
    intro key row hrow
    cases hrow
  | append_singleton calls call ih =>
    intro key row hrow
    by_cases hold : (objectMachine.exec .empty calls).revisions.find key = some row
    · obtain ⟨before, args, between, heq, hanswer⟩ := ih key row hold
      exact ⟨before, args, between ++ [call], by simp [heq], hanswer⟩
    · rw [Machine.exec_concat] at hrow
      cases call with
      | put args =>
        obtain ⟨-, -, hsame, -⟩ := putStream_spec args (exec_sound calls)
        exact absurd (hsame ▸ hrow) hold
      | crashedPut args =>
        obtain ⟨-, -, hsame⟩ := crashedPut_spec args (exec_sound calls)
        exact absurd (hsame ▸ hrow) hold
      | register args =>
        have hanswer : answer calls (.register args) = (committed _ _ _).2 := rfl
        have hafter : (objectMachine.step (objectMachine.exec .empty calls)
            (.register args)).1 = (committed _ _ _).1 := rfl
        rw [hafter] at hrow
        cases hok : (objectMachine.exec .empty calls).registerRevision args with
        | error fault =>
          rw [hok] at hrow
          exact absurd hrow hold
        | ok reply =>
          rw [hok] at hrow hanswer
          obtain ⟨⟨revision, created⟩, new⟩ := reply
          obtain ⟨-, hfound, hcreated⟩ := registerRevision_spec (exec_sound calls) hok
          cases created with
          | false =>
            have hnew := hfound rfl
            exact absurd (hnew ▸ hrow) hold
          | true =>
            have hfind := (hcreated rfl).find key
            have hnew : new.revisions.find key = some row := hrow
            rw [hnew] at hfind
            split at hfind
            · obtain rfl := Option.some.inj hfind
              exact ⟨calls, args, [], rfl, hanswer⟩
            · exact absurd hfind.symm hold

lemma promises_iff_replayed (calls : List StoreCall) : Promises calls ↔
    ∀ before args between createdAtMs post revision created,
      calls = before ++ .register args :: between ++ .register { args with createdAtMs } :: post →
      args.createdAtMs ≤ createdAtMs →
      answer before (.register args) = .ok (.revision revision created) →
      answer (before ++ .register args :: between) (.register { args with createdAtMs }) =
        .ok (.revision revision false) := by
  constructor
  · exact fun h => h.replayed
  intro hreplayed
  refine ⟨?_, ?_, ?_, ?_, ?_, hreplayed, ?_⟩
  · intro before args between post result heq hanswer
    obtain ⟨hid, row, hrow⟩ := answered_put hanswer
    rw [hid]
    have hkept := (exec_extends (before ++ [.put args]) between).references _ _ hrow
    rw [append_assoc, singleton_append] at hkept
    exact (exec_sound _).read hkept
  · intro before args between args' post result result' heq hanswer hanswer'
    rw [(answered_put hanswer).1, (answered_put hanswer').1, PutArgs.objectId, PutArgs.objectId,
      deriveObjectReferenceId_inj, contentSha256_inj]
  · exact fun before post _ => (exec_sound before).contiguous
  · intro before between post heq key row hrow
    exact (exec_extends before between).revisions key row hrow
  · intro before args post revision created heq hanswer
    have hregistered := answered_register hanswer
    obtain ⟨⟨sha, hrevision⟩, -⟩ := hregistered.eq
    refine ⟨?_, ?_, hregistered.row⟩
    · rw [hrevision]
      rfl
    · rw [hrevision]
      rfl
  · intro before call post fault heq hanswer
    rw [Machine.exec_concat]
    cases call with
    | put args =>
      obtain ⟨-, -, hrevisions, hreferences, -⟩ := putStream_spec args (exec_sound before)
      cases hput : ((objectMachine.exec .empty before).putStream args).2 with
      | error fault' => exact ⟨hreferences fault' hput, hrevisions⟩
      | ok result =>
        obtain ⟨_, hresult⟩ : ∃ reply, answer before (.put args) = .ok reply :=
          ⟨_, congrArg (Except.map StoreReply.put) hput⟩
        rw [hresult] at hanswer
        cases hanswer
    | crashedPut args => cases hanswer
    | register args =>
      have hsame : (objectMachine.step (objectMachine.exec .empty before) (.register args)).1 =
          objectMachine.exec .empty before := committed_error hanswer
      rw [hsame]
      exact ⟨rfl, rfl⟩

/-- The store keeps its promises in exactly the runs that register no revision again with a later
time. -/
theorem promises_iff (calls : List StoreCall) : Promises calls ↔
    objectMachine.Steps (fun s call => ¬ RepeatsLater s call) .empty calls := by
  rw [promises_iff_replayed, Machine.steps_iff_split]
  constructor
  · intro hreplayed before call post heq hlater
    obtain ⟨args, row, rfl, hrow, hobject, hmanifest, htime⟩ := id hlater
    obtain ⟨before', first, between, rfl, hanswer⟩ := registered_before before _ row hrow
    obtain ⟨⟨sha, hrevision⟩, hpos, hnonneg⟩ := (answered_register hanswer).eq
    have hkey := Table.key_of_find hrow
    rw [RevisionRow.key, hrevision, Prod.mk.injEq] at hkey
    obtain ⟨hlogical, hnumber⟩ := hkey
    have hnumber : first.revision.toNat = args.revision.toNat := hnumber
    rw [hrevision] at hobject hmanifest htime
    have htime : (first.createdAtMs.toNat : ℤ) < args.createdAtMs := htime
    have hargs : { first with createdAtMs := args.createdAtMs } = args := by
      have hrevisions : first.revision = args.revision := by omega
      cases args
      simp only [RevisionArgs.mk.injEq, and_true]
      exact ⟨hlogical, hrevisions, hobject, hmanifest⟩
    have hagain := hreplayed before' first between args.createdAtMs post row.revision true
      (by rw [hargs]; exact heq) (by omega) hanswer
    rw [hargs] at hagain
    obtain ⟨reply, new, hok, -⟩ := committed_answer hagain
    exact registerRevision_of_repeatsLater (exec_sound _) hlater hok
  · intro hsteps before args between createdAtMs post revision created heq hle hanswer
    have hregistered := answered_register hanswer
    obtain ⟨row, hrow, hsame⟩ := hregistered.row
    have hextends := exec_extends (before ++ [.register args]) between
    rw [append_assoc, singleton_append] at hextends
    obtain ⟨⟨sha, hrevision⟩, -, hnonneg⟩ := hregistered.eq
    have htime : createdAtMs = args.createdAtMs := by
      by_contra hne
      refine hsteps _ _ _ heq ⟨_, row, rfl, hextends.revisions _ _ hrow, ?_, ?_, ?_⟩
      · rw [hsame, hrevision]
        rfl
      · rw [hsame, hrevision]
        rfl
      · rw [hsame, hrevision]
        show (args.createdAtMs.toNat : ℤ) < createdAtMs
        omega
    subst htime
    have hagain := registerRevision_again hregistered (exec_sound _) hextends
    show (committed _ _ _).2 = _
    rw [hagain]
    rfl

/-! A revision is registered again a millisecond later. -/

def storedNote : PutArgs where
  chunks := [.bytes [104], .bytes [105]]
  kind := py "artifact"
  tenantId := py "tenant"
  linkAccountId := py "link"
  conversationScopeHash := List.replicate 64 (CodePoint.ofChar 'a')
  createdAtMs := 0
  maxBytes := 2

def noteRevision : RevisionArgs where
  logicalObjectId := py "note"
  revision := 1
  objectId := storedNote.objectId
  manifestSha256 := List.replicate 64 (CodePoint.ofChar 'b')
  createdAtMs := 0

theorem later_registration_refused : ¬ Promises
    [.put storedNote, .register noteRevision, .register { noteRevision with createdAtMs := 1 }] := by
  intro h
  have haccepted : answer [.put storedNote] (.register noteRevision) = .ok (.revision
      (revisionOf noteRevision (contentSha256 [104, 105])).withComputedSha256 true) := by
    rfl
  have hagain := h.replayed [.put storedNote] noteRevision [] 1 [] _ _ rfl (by decide) haccepted
  have hrefused : answer [.put storedNote, .register noteRevision]
      (.register { noteRevision with createdAtMs := 1 }) =
      .error (.conflict "logical revision cannot change content or manifest") := by
    rfl
  exact absurd (hrefused.symm.trans hagain) (by simp)

end Tiangong.Objects
