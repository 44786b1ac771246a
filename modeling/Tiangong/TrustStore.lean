import Mathlib.Data.List.Induction
import Tiangong.Machines
import Tiangong.TrustLineage

/-!
# The operational trust store

One file holds the bundle in force and the manifests that were applied. Every call reads the file
back under the reader's checks, verifies the signature of its manifest, asks the contract and
replaces the file.
-/
open List

namespace Tiangong

open Machine

inductive TrustStoreError where
  | operational (message : String)
  | authorization (error : ServiceAuthorizationError)
  | os
  deriving DecidableEq, Repr

inductive TrustManifestKind where
  | rotation | emergencyRevocation
  deriving DecidableEq, Repr

def TrustManifestKind.canon : TrustManifestKind → Canon
  | .rotation => .text "rotation"
  | .emergencyRevocation => .text "emergency_revocation"

structure AppliedManifest where
  kind : TrustManifestKind
  id : PyStr
  manifestSha256 : Canon
  beforeSha256 : Canon
  afterSha256 : Canon
  appliedAtMs : ℕ
  deriving DecidableEq

def AppliedManifest.canon (item : AppliedManifest) : Canon :=
  .ofList [item.kind.canon, .str item.id, item.manifestSha256, item.beforeSha256, item.afterSha256,
    .num item.appliedAtMs]

/-- The file as it is parsed. Its bundle is checked again by every reader. -/
structure TrustFile where
  currentBundle : BundleFields
  appliedManifests : List AppliedManifest
  updatedAtMs : ℕ
  stateSha256 : Canon
  deriving DecidableEq

namespace TrustFile

/-- `_state_digest`. -/
def digest (f : TrustFile) : Canon :=
  .sha256 <| .ofList
    [.text "tiangong.gateway.operational-trust.v1",
      .ofList [f.currentBundle.body, f.currentBundle.bundleSha256],
      .ofList (f.appliedManifests.map AppliedManifest.canon), .num f.updatedAtMs]

def withDigest (f : TrustFile) : TrustFile := { f with stateSha256 := f.digest }

def readState (f : TrustFile) : Except TrustStoreError TrustBundle := do
  rejectIf (f.stateSha256 ≠ f.digest ∨ 4096 < f.appliedManifests.length)
    (.operational "operational trust state integrity is invalid")
  let bundle : TrustBundle ← sealed BundleFields.valid (.operational "durable trust bundle is invalid")
    f.currentBundle
  rejectIf (bundle.hasValidSha256 = false ∨ bundle.1.productionReady = false)
    (.operational "durable trust bundle is not production ready")
  rejectIf (f.appliedManifests.any fun item => item.id.isEmpty)
    (.operational "operational trust audit chain is invalid")
  rejectIf (f.appliedManifests.getLast?.any fun item => item.afterSha256 ≠ bundle.1.bundleSha256)
    (.operational "operational trust audit head is detached")
  pure bundle

/-- `open`: read the state that is there, or create it from the initial bundle. -/
def openStore (stored : Option TrustFile) (initialBundle : Option TrustBundle) (nowMs : ℕ) :
    Except TrustStoreError TrustFile :=
  match stored with
  | some f => do
    let bundle ← f.readState
    rejectIf (initialBundle.any fun initial =>
        !initial.hasValidSha256 || bundle.1.bundleSha256 ≠ initial.1.bundleSha256)
      (.operational "initial trust bundle disagrees with durable state")
    pure f
  | none => do
    let initial ← required (initialBundle.filter fun initial =>
        initial.hasValidSha256 && initial.1.productionReady)
      (.operational "a production-ready initial trust bundle is required")
    pure (withDigest ⟨initial.1, [], nowMs, .null⟩)

/-- `_commit`, before it writes. -/
def commit (f : TrustFile) (after : TrustBundle) (kind : TrustManifestKind) (manifestId : OpaqueId)
    (manifestSha256 : Canon) (nowMs : ℕ) : Except TrustStoreError TrustFile := do
  rejectIf (f.appliedManifests.any fun item => item.manifestSha256 = manifestSha256)
    (.operational "trust manifest replay is forbidden")
  pure <| withDigest
    { currentBundle := after.1
      appliedManifests := f.appliedManifests ++
        [⟨kind, manifestId.1, manifestSha256, f.currentBundle.bundleSha256, after.1.bundleSha256,
          nowMs⟩]
      updatedAtMs := nowMs
      stateSha256 := .null }

end TrustFile

/-- `Ed25519PublicKey.verify` on the texts of a public key and a signature, with their decoding. -/
abbrev SignatureCheck := PyStr → PyStr → Canon → Bool

def verifyManifestSignature (verify : SignatureCheck) (signature : PyStr) (signerKid : OpaqueId)
    (componentManifestHash signingInput : Canon) (key : PublicKeyDescriptor) (nowMs : ℕ) :
    Except TrustStoreError Unit := do
  rejectIf (key.kid ≠ signerKid ∨ (key.state ≠ .active ∧ key.state ≠ .previous) ∨
    (nowMs < key.1.notBeforeMs ∨ key.1.notAfterMs ≤ nowMs) ∨
    key.1.componentManifestHash ≠ componentManifestHash)
    (.operational "trust manifest signer is not currently authorized")
  rejectIf (verify key.1.publicKeyBase64url signature signingInput = false)
    (.operational "trust manifest signature is invalid")

/-- `trust_manifest_signing_input`: all but the signature. -/
def RotationFields.signingInput (m : RotationFields) : Canon := .ofList [m.body, m.manifestSha256]

def RevocationFields.signingInput (m : RevocationFields) : Canon := .ofList [m.body, m.manifestSha256]

inductive TrustManifest where
  | rotation (manifest : KeyRotationManifest)
  | emergency (manifest : EmergencyKeyRevocationManifest)
  deriving DecidableEq

namespace TrustManifest

def manifestSha256 : TrustManifest → Canon
  | .rotation manifest => manifest.1.manifestSha256
  | .emergency manifest => manifest.1.manifestSha256

def manifestId : TrustManifest → OpaqueId
  | .rotation manifest => manifest.1.rotationId
  | .emergency manifest => manifest.1.incidentId

def kind : TrustManifest → TrustManifestKind
  | .rotation _ => .rotation
  | .emergency _ => .emergencyRevocation

/-- What the two calls check before they commit. -/
def authorize (verify : SignatureCheck) (recoveryKey : Option PublicKeyDescriptor)
    (before after : TrustBundle) (nowMs : ℕ) : TrustManifest → Except TrustStoreError TrustBundle
  | .rotation manifest => do
    let m := manifest.1
    let key ← required (before.keyById m.signerKid)
      (.operational "rotation signer is absent from current trust")
    verifyManifestSignature verify m.signature m.signerKid m.componentManifestHash m.signingInput key
      nowMs
    (authorizeKeyRotation manifest before after true nowMs).mapError .authorization
  | .emergency manifest => do
    let m := manifest.1
    let key ← required recoveryKey (.operational "offline recovery key is not pinned")
    verifyManifestSignature verify m.recoverySignature m.recoverySignerKid m.componentManifestHash
      m.signingInput key nowMs
    (authorizeEmergencyRevocation manifest before after true key.kid nowMs).mapError .authorization

end TrustManifest

/-- Where the operating system fails a call that writes: before the file is replaced, or after it
(`os.chmod` and the release of the lock come later). -/
inductive WriteFailure where
  | beforeReplace | afterReplace
  deriving DecidableEq, Repr

/-- A call of `apply_rotation` or `apply_emergency_revocation`, with what its surroundings do. -/
structure TrustCall where
  manifest : TrustManifest
  after : TrustBundle
  nowMs : ℕ
  lockHeld : Bool
  failure : Option WriteFailure
  deriving DecidableEq

namespace TrustCall

variable (verify : SignatureCheck) (recoveryKey : Option PublicKeyDescriptor)

def prepare (f : TrustFile) (call : TrustCall) : Except TrustStoreError TrustFile := do
  rejectIf (call.lockHeld = true) (.operational "operational trust writer is already active")
  let before ← f.readState
  let authorized ← call.manifest.authorize verify recoveryKey before call.after call.nowMs
  f.commit authorized call.manifest.kind call.manifest.manifestId call.manifest.manifestSha256
    call.nowMs

/-- The file that a call leaves, and what it returns. -/
def apply (f : TrustFile) (call : TrustCall) : TrustFile × Except TrustStoreError TrustBundle :=
  match call.prepare verify recoveryKey f, call.failure with
  | .error e, _ => (f, .error e)
  | .ok _, some .beforeReplace => (f, .error .os)
  | .ok next, some .afterReplace => (next, .error .os)
  | .ok next, none => (next, .ok call.after)

end TrustCall

def trustStore (verify : SignatureCheck) (recoveryKey : Option PublicKeyDescriptor) :
    Machine TrustFile TrustCall (Except TrustStoreError TrustBundle) where
  step := fun f call => call.apply verify recoveryKey f

lemma TrustFile.readState_eq_ok {f : TrustFile} {b : TrustBundle} : f.readState = .ok b ↔
      (f.stateSha256 = f.digest ∧ f.appliedManifests.length ≤ 4096) ∧ f.currentBundle = b.1 ∧
        (b.hasValidSha256 = true ∧ b.1.productionReady = true) ∧
        (∀ item ∈ f.appliedManifests, item.id ≠ []) ∧
        ∀ item, f.appliedManifests.getLast? = some item → item.afterSha256 = b.1.bundleSha256 := by
  have hhead : ∀ bundle : TrustBundle, (¬ (f.appliedManifests.getLast?.any fun item =>
      item.afterSha256 ≠ bundle.1.bundleSha256) = true) ↔
      ∀ item, f.appliedManifests.getLast? = some item → item.afterSha256 = bundle.1.bundleSha256 := by
    intro bundle
    cases f.appliedManifests.getLast? <;> simp
  simp only [readState, eq_ok_iff, sealed_eq_ok, hhead, not_or, not_not, not_lt, Bool.not_eq_false]
  constructor
  · rintro ⟨hstate, bundle, hbundle, hready, hids, hlast, rfl⟩
    exact ⟨hstate, hbundle.symm, hready, by simpa using hids, hlast⟩
  · rintro ⟨hstate, hbundle, hready, hids, hlast⟩
    exact ⟨hstate, b, hbundle.symm, hready, by simpa using hids, hlast, rfl⟩

/-- The bundle that an accepted rotation returns. -/
lemma authorizeKeyRotation_eq {manifest : KeyRotationManifest} {before after after' : TrustBundle}
    {signatureVerified : Bool} {nowMs : ℕ}
    (h : authorizeKeyRotation manifest before after signatureVerified nowMs = .ok after') :
    after' = after ∧ after.hasValidSha256 = true := by
  simp only [authorizeKeyRotation, eq_ok_iff] at h
  obtain ⟨-, -, hdigests, -, -, -, -, -, -, -, -, -, rfl⟩ := h
  push Not at hdigests
  exact ⟨rfl, Bool.eq_true_of_not_eq_false hdigests.2⟩

lemma authorizeEmergencyRevocation_eq {manifest : EmergencyKeyRevocationManifest}
    {before after after' : TrustBundle} {verified : Bool} {signer : OpaqueId} {nowMs : ℕ}
    (h : authorizeEmergencyRevocation manifest before after verified signer nowMs = .ok after') :
    after' = after ∧ after.hasValidSha256 = true := by
  simp only [authorizeEmergencyRevocation, eq_ok_iff] at h
  obtain ⟨-, -, -, hready, -, -, -, -, -, -, -, -, -, -, -, rfl⟩ := h
  push Not at hready
  exact ⟨rfl, Bool.eq_true_of_not_eq_false hready.2.1⟩

namespace TrustManifest

variable {verify : SignatureCheck} {recoveryKey : Option PublicKeyDescriptor}

lemma authorize_eq {manifest : TrustManifest} {before after after' : TrustBundle} {nowMs : ℕ}
    (h : manifest.authorize verify recoveryKey before after nowMs = .ok after') :
    after' = after ∧ after.hasValidSha256 = true := by
  cases manifest with
  | rotation manifest =>
    simp only [authorize, eq_ok_iff] at h
    obtain ⟨key, -, -, -, h⟩ := h
    exact authorizeKeyRotation_eq (mapError_eq_ok.mp h)
  | emergency manifest =>
    simp only [authorize, eq_ok_iff] at h
    obtain ⟨key, -, -, -, h⟩ := h
    exact authorizeEmergencyRevocation_eq (mapError_eq_ok.mp h)

end TrustManifest

/-- The file that an authorised call writes over a readable one. -/
structure Prepared (f : TrustFile) (call : TrustCall) (next : TrustFile) : Prop where
  readable : ∃ before, f.readState = .ok before
  fresh : call.manifest.manifestSha256 ∉ f.appliedManifests.map AppliedManifest.manifestSha256
  digest : call.after.hasValidSha256 = true
  written : next = TrustFile.withDigest
    { currentBundle := call.after.1
      appliedManifests := f.appliedManifests ++
        [⟨call.manifest.kind, call.manifest.manifestId.1, call.manifest.manifestSha256,
          f.currentBundle.bundleSha256, call.after.1.bundleSha256, call.nowMs⟩]
      updatedAtMs := call.nowMs
      stateSha256 := .null }

namespace TrustCall

variable {verify : SignatureCheck} {recoveryKey : Option PublicKeyDescriptor}
  {f next : TrustFile} {call : TrustCall}

theorem prepared (h : call.prepare verify recoveryKey f = .ok next) : Prepared f call next := by
  simp only [prepare, TrustFile.commit, eq_ok_iff] at h
  obtain ⟨-, before, hread, after, hauthorized, hfresh, rfl⟩ := h
  obtain ⟨rfl, hdigest⟩ := TrustManifest.authorize_eq hauthorized
  refine ⟨⟨before, hread⟩, ?_, hdigest, rfl⟩
  simpa using hfresh

/-- An unreadable file refuses every call. -/
lemma prepare_of_unreadable (h : ∀ b, f.readState ≠ .ok b) (call : TrustCall) :
    ∃ e, call.prepare verify recoveryKey f = .error e := by
  cases hprepare : call.prepare verify recoveryKey f with
  | error e => exact ⟨e, rfl⟩
  | ok next =>
    obtain ⟨b, hb⟩ := (prepared hprepare).readable
    exact (h b hb).elim

end TrustCall

namespace Prepared

variable {f next : TrustFile} {call : TrustCall}

theorem digests (h : Prepared f call next) :
    next.appliedManifests.map AppliedManifest.manifestSha256 =
      f.appliedManifests.map AppliedManifest.manifestSha256 ++ [call.manifest.manifestSha256] := by
  rw [h.written]
  simp [TrustFile.withDigest]

lemma ne (h : Prepared f call next) : next ≠ f := by
  intro heq
  have hlength := congrArg List.length h.digests
  rw [heq, length_append, length_singleton] at hlength
  omega

/-- The reader takes back what a call wrote exactly when its bundle is ready for production and the
history has room for one more manifest. -/
lemma readState_iff (h : Prepared f call next) {b : TrustBundle} : next.readState = .ok b ↔
      b = call.after ∧ call.after.1.productionReady = true ∧ f.appliedManifests.length < 4096 := by
  obtain ⟨before, hbefore⟩ := h.readable
  have hids := (TrustFile.readState_eq_ok.mp hbefore).2.2.2.1
  rw [TrustFile.readState_eq_ok, h.written]
  constructor
  · rintro ⟨⟨-, hlength⟩, hbundle, ⟨-, hready⟩, -, -⟩
    obtain rfl : call.after = b := Subtype.ext hbundle
    have hle : (f.appliedManifests ++ [_]).length ≤ 4096 := hlength
    rw [length_append, length_singleton] at hle
    exact ⟨rfl, hready, by omega⟩
  · rintro ⟨rfl, hready, hlength⟩
    refine ⟨⟨rfl, ?_⟩, rfl, ⟨h.digest, hready⟩, ?_, ?_⟩
    · show (f.appliedManifests ++ [_]).length ≤ 4096
      rw [length_append, length_singleton]
      exact hlength
    · intro item hitem
      rcases mem_append.mp hitem with hitem | hitem
      · exact hids item hitem
      · rw [mem_singleton.mp hitem]
        exact call.manifest.manifestId.ne_nil
    · intro item hitem
      have hlast : (f.appliedManifests ++ [_]).getLast? = some item := hitem
      rw [List.getLast?_concat] at hlast
      rw [← Option.some.inj hlast]

end Prepared

namespace TrustStore

variable (verify : SignatureCheck) (recoveryKey : Option PublicKeyDescriptor)

/-- The calls of a run that returned, in order. -/
def returned (f : TrustFile) (calls : List TrustCall) : List TrustCall :=
  ((trustStore verify recoveryKey).trace f calls).filterMap fun entry =>
    if entry.2.2.isOk then some entry.2.1 else none

/-- The bundle of the last manifest that was applied, or the one that the store was opened with. -/
def lastApplied (initial : TrustBundle) (applied : List TrustCall) : TrustBundle :=
  (applied.getLast?.map TrustCall.after).getD initial

/-- After the calls the store reads back the last bundle that it applied, no manifest was applied
twice, and a call that raised left the file as it was. -/
structure NeverLockedOut (f : TrustFile) (initial : TrustBundle) (calls : List TrustCall) :
    Prop where
  readable : ((trustStore verify recoveryKey).exec f calls).readState =
    .ok (lastApplied initial (returned verify recoveryKey f calls))
  once : ((returned verify recoveryKey f calls).map fun call => call.manifest.manifestSha256).Nodup
  unchanged : (trustStore verify recoveryKey).Steps (fun f call => ∀ e,
    (call.apply verify recoveryKey f).2 = .error e → (call.apply verify recoveryKey f).1 = f) f calls

/-- The call is refused before it writes, or it fails before the file is replaced, or it writes a
bundle that is ready for production over a history of fewer than 4096 manifests and returns. -/
def Harmless (f : TrustFile) (call : TrustCall) : Prop :=
  (call.prepare verify recoveryKey f).isOk = true → call.failure = some .beforeReplace ∨
      (call.failure = none ∧ call.after.1.productionReady = true ∧ f.appliedManifests.length < 4096)

variable {verify recoveryKey} {f : TrustFile} {call : TrustCall} {calls : List TrustCall}

/-- What a harmless call does: it leaves the file as it was and raises, or it returns and leaves
the file that it prepared, which the reader takes back. -/
lemma harmless_cases (h : Harmless verify recoveryKey f call) :
    (∃ e, call.apply verify recoveryKey f = (f, .error e)) ∨
      ∃ next, Prepared f call next ∧ next.readState = .ok call.after ∧
        call.apply verify recoveryKey f = (next, .ok call.after) := by
  cases hprepare : call.prepare verify recoveryKey f with
  | error e => exact .inl ⟨e, by rw [TrustCall.apply, hprepare]⟩
  | ok next =>
    have hnext := TrustCall.prepared hprepare
    rcases h (by rw [hprepare]; rfl) with hfailure | ⟨hfailure, hready, hlength⟩
    · exact .inl ⟨.os, by rw [TrustCall.apply, hprepare, hfailure]⟩
    · right
      refine ⟨next, hnext, hnext.readState_iff.mpr ⟨rfl, hready, hlength⟩, ?_⟩
      rw [TrustCall.apply, hprepare, hfailure]

/-- An unreadable file stays as it is. -/
lemma exec_of_unreadable (h : ∀ b, f.readState ≠ .ok b) (calls : List TrustCall) :
    (trustStore verify recoveryKey).exec f calls = f := by
  induction calls with
  | nil => rfl
  | cons call calls ih =>
    obtain ⟨e, he⟩ := @TrustCall.prepare_of_unreadable verify recoveryKey f h call
    have hstep : ((trustStore verify recoveryKey).step f call).1 = f := by
      show (call.apply verify recoveryKey f).1 = f
      rw [TrustCall.apply, he]
    rw [exec_cons, hstep, ih]

lemma returned_cons (f : TrustFile) (call : TrustCall) (calls : List TrustCall) :
    returned verify recoveryKey f (call :: calls) =
      (if (call.apply verify recoveryKey f).2.isOk then [call] else []) ++
        returned verify recoveryKey (call.apply verify recoveryKey f).1 calls := by
  have hstep : (trustStore verify recoveryKey).step f call = call.apply verify recoveryKey f := rfl
  simp only [returned, trace, filterMap_cons, hstep]
  by_cases hok : (call.apply verify recoveryKey f).2.isOk = true <;> simp [hok]

lemma lastApplied_cons (initial : TrustBundle) (call : TrustCall) (applied : List TrustCall) :
    lastApplied initial (call :: applied) = lastApplied call.after applied := by
  cases applied using List.reverseRecOn with
  | nil => rfl
  | append_singleton applied last =>
    rw [lastApplied, lastApplied, ← cons_append, List.getLast?_concat, List.getLast?_concat]
    rfl

/-- Harmless calls keep the file readable, and the history records what was applied. -/
lemma exec_of_harmless {b : TrustBundle}
    (h : (trustStore verify recoveryKey).Steps (Harmless verify recoveryKey) f calls)
    (hread : f.readState = .ok b)
    (honce : (f.appliedManifests.map AppliedManifest.manifestSha256).Nodup) :
    ((trustStore verify recoveryKey).exec f calls).readState =
        .ok (lastApplied b (returned verify recoveryKey f calls)) ∧
      (f.appliedManifests.map AppliedManifest.manifestSha256 ++
        (returned verify recoveryKey f calls).map fun call => call.manifest.manifestSha256).Nodup := by
  induction calls generalizing f b with
  | nil => exact ⟨hread, by simpa [returned, trace] using honce⟩
  | cons call calls ih =>
    obtain ⟨hcall, hcalls⟩ := h
    have hstep : (trustStore verify recoveryKey).step f call = call.apply verify recoveryKey f := rfl
    rw [exec_cons, returned_cons, hstep]
    rw [hstep] at hcalls
    rcases harmless_cases hcall with ⟨e, happly⟩ | ⟨next, hnext, hreadNext, happly⟩
    · rw [happly] at hcalls ⊢
      exact ih hcalls hread honce
    · rw [happly] at hcalls ⊢
      have honceNext : (next.appliedManifests.map AppliedManifest.manifestSha256).Nodup := by
        rw [hnext.digests, nodup_append_comm, singleton_append, nodup_cons]
        exact ⟨hnext.fresh, honce⟩
      obtain ⟨hreadable, honceAll⟩ := ih hcalls hreadNext honceNext
      rw [hnext.digests, append_assoc] at honceAll
      refine ⟨?_, honceAll⟩
      rw [hreadable]
      show _ = Except.ok (lastApplied b (call :: _))
      rw [lastApplied_cons]
      rfl

/-- A store opened on an initial bundle never locks itself out exactly when each of its calls is
harmless on the file that it finds. -/
theorem exec_neverLockedOut (verify : SignatureCheck) (recoveryKey : Option PublicKeyDescriptor)
    (initial : TrustBundle) (nowMs : ℕ) (f : TrustFile)
    (hopen : TrustFile.openStore none (some initial) nowMs = .ok f) (calls : List TrustCall) :
    NeverLockedOut verify recoveryKey f initial calls ↔
      (trustStore verify recoveryKey).Steps (Harmless verify recoveryKey) f calls := by
  constructor
  · intro h
    refine (steps_iff_split _).mpr ?_
    rintro pre call post rfl hprepare
    obtain ⟨next, hnext⟩ := toBool_eq_true.mp hprepare
    have hprepared := TrustCall.prepared hnext
    set g := (trustStore verify recoveryKey).exec f pre with hg
    cases hfailure : call.failure with
    | none =>
      right
      refine ⟨rfl, ?_⟩
      by_contra hharmful
      -- the file that the call leaves is unreadable, and so is the last one
      have hunreadable : ∀ b, next.readState ≠ .ok b := by
        intro b hb
        exact hharmful (hprepared.readState_iff.mp hb).2
      have hstep : ((trustStore verify recoveryKey).step g call).1 = next := by
        show (call.apply verify recoveryKey g).1 = next
        rw [TrustCall.apply, hnext, hfailure]
      have hlast := h.readable
      rw [exec_append, ← hg, exec_cons, hstep, exec_of_unreadable hunreadable] at hlast
      exact hunreadable _ hlast
    | some failure =>
      cases failure with
      | beforeReplace => exact .inl rfl
      | afterReplace =>
        have hunchanged := (steps_iff_split _).mp h.unchanged pre call post rfl .os
        rw [← hg, TrustCall.apply, hnext, hfailure] at hunchanged
        exact (hprepared.ne (hunchanged rfl)).elim
  · intro h
    have hfresh : f.readState = .ok initial ∧ f.appliedManifests = [] := by
      simp only [TrustFile.openStore, eq_ok_iff, Option.filter_eq_some_iff, Bool.and_eq_true] at hopen
      obtain ⟨bundle, ⟨hbundle, hready⟩, rfl⟩ := hopen
      obtain rfl := Option.some.inj hbundle
      refine ⟨TrustFile.readState_eq_ok.mpr ⟨⟨rfl, ?_⟩, rfl, hready, ?_, ?_⟩, rfl⟩
      · show ([] : List AppliedManifest).length ≤ 4096
        exact Nat.zero_le _
      · intro item hitem
        cases hitem
      · intro item hitem
        cases hitem
    obtain ⟨hread, hempty⟩ := hfresh
    obtain ⟨hreadable, honce⟩ := exec_of_harmless h hread (by simp [hempty])
    refine ⟨hreadable, by simpa [hempty] using honce, ?_⟩
    refine (steps_iff_split _).mpr ?_
    intro pre call post hsplit e he
    have hcall := (steps_iff_split _).mp h pre call post hsplit
    rcases harmless_cases hcall with ⟨e', happly⟩ | ⟨next, -, -, happly⟩
    · rw [happly]
    · rw [happly] at he
      cases he

end TrustStore

namespace TrustSample

lemma unready_valid : (retiredFields false).valid = true := by decide

lemma retireUnready_valid : (retireFields (retiredFields false)).valid = true := by decide

/-- The retirement of the old key under a bundle that is not ready for production. -/
def retireUnready : TrustCall where
  manifest := .rotation ⟨_, retireUnready_valid⟩
  after := ⟨_, unready_valid⟩
  nowMs := 20
  lockHeld := false
  failure := none

def retireReady : TrustCall where
  manifest := .rotation ⟨_, retireFields_valid⟩
  after := retiredBundle
  nowMs := 20
  lockHeld := false
  failure := none

def openedFile : TrustFile := TrustFile.withDigest ⟨previousBundle.1, [], 10, .null⟩

lemma openedFile_open : TrustFile.openStore none (some previousBundle) 10 = .ok openedFile := by
  rfl

/-- A check that takes every signature for good. -/
def trusting : SignatureCheck := fun _ _ _ => true

lemma retireUnready_returns :
    (retireUnready.apply trusting none openedFile).2 = .ok retireUnready.after := by
  rfl

end TrustSample

open TrustSample in
theorem exec_neverLockedOut_retired :
    TrustStore.NeverLockedOut trusting none openedFile previousBundle [retireReady] := by
  refine (TrustStore.exec_neverLockedOut trusting none previousBundle 10 openedFile openedFile_open
    [retireReady]).mpr ⟨?_, trivial⟩
  intro _
  exact .inr ⟨rfl, rfl, by decide⟩

open TrustSample in
/-- The contract of a rotation does not ask for a bundle that is ready for production. The call
returns, and the reader refuses the file that it left. -/
theorem retireUnready_lockedOut :
    (retireUnready.apply trusting none openedFile).2 = .ok retireUnready.after ∧
      ¬ TrustStore.NeverLockedOut trusting none openedFile previousBundle [retireUnready] := by
  refine ⟨retireUnready_returns, ?_⟩
  intro h
  have hrefused : ((trustStore trusting none).exec openedFile [retireUnready]).readState =
      .error (.operational "durable trust bundle is not production ready") := by
    rfl
  have hreadable := h.readable
  rw [hrefused] at hreadable
  cases hreadable

end Tiangong
