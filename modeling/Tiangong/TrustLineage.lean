import Mathlib.Data.List.Chain
import Tiangong.TrustBundles

/-!
# The lineage of trust

A chain of bundles in which every step was authorised. Keys are never dropped and never change
their bytes; a revoked key stays revoked as long as no emergency revocation names it as the
replacement, whose state in the bundle before the step the contract does not look at.
-/
namespace Tiangong

open List (IsChain)

namespace TrustBundle

lemma kids_nodup (b : TrustBundle) : (b.1.keys.map PublicKeyDescriptor.kid).Nodup := by
  have h := b.2
  simp only [BundleFields.valid, holds_iff] at h
  exact h.1.1.2

variable {kid : OpaqueId} {k : PublicKeyDescriptor}

lemma mem_of_keyById {b : TrustBundle}
    (h : b.keyById kid = some k) : k ∈ b.1.keys ∧ k.kid = kid :=
  ⟨List.mem_of_find?_eq_some h, by simpa using List.find?_some h⟩

lemma keyById_of_mem {b : TrustBundle} (h : k ∈ b.1.keys) :
    b.keyById k.kid = some k := by
  cases hf : b.keyById k.kid with
  | none =>
    have hne := List.find?_eq_none.mp hf k h
    simp at hne
  | some k' =>
    obtain ⟨hmem, hkid⟩ := mem_of_keyById hf
    rw [List.inj_on_of_nodup_map b.kids_nodup hmem h hkid]

/-- A key that is not a target stands in the next bundle as it was. -/
lemma keyById_of_unchanged {before after : TrustBundle} {targets : List OpaqueId} (hunchanged : before.unchangedNonTargetKeys after targets = true)
    (hkid : kid ∉ targets) (hk : before.keyById kid = some k) : after.keyById kid = some k := by
  obtain ⟨hmem, rfl⟩ := mem_of_keyById hk
  simp only [unchangedNonTargetKeys, holds_iff, List.all_eq_true, Bool.or_eq_true] at hunchanged
  have hafter := (hunchanged.1 k hmem).resolve_left hkid
  exact keyById_of_mem hafter

lemma keyState_eq_some {b : TrustBundle} {state : KeyState} :
    b.keyState kid = some state ↔ ∃ k, b.keyById kid = some k ∧ k.state = state :=
  Option.map_eq_some_iff

end TrustBundle

lemma authorizeServiceRequest_state {assertion : ServiceAuthAssertion} {b : TrustBundle}
    {e : ServiceExpectation} {claims : ServiceAuthClaims}
    (h : authorizeServiceRequest assertion b e = .ok claims) :
    b.keyState assertion.kid = some .active ∨ b.keyState assertion.kid = some .previous := by
  simp only [authorizeServiceRequest, eq_ok_iff] at h
  obtain ⟨-, -, -, -, -, -, -, key, hkey, -, hstate, -⟩ := h
  have hkeyState : b.keyState assertion.kid = some key.state := by
    rw [TrustBundle.keyState, hkey, Option.map_some]
  rw [hkeyState]
  by_cases hactive : key.state = .active
  · exact .inl (by rw [hactive])
  · right
    by_contra hprevious
    exact hstate ⟨hactive, fun h => hprevious (by rw [h])⟩

/-- What one authorised step keeps: the epoch does not fall, and the keys keep their identities. -/
structure Follows (before after : TrustBundle) : Prop where
  epoch : before.1.gatewayEpoch ≤ after.1.gatewayEpoch
  keys : ∀ kid k, before.keyById kid = some k →
    ∃ k', after.keyById kid = some k' ∧ k'.identity = k.identity

def KeepsRevoked (before after : TrustBundle) : Prop :=
  ∀ kid, before.keyState kid = some .revoked → after.keyState kid = some .revoked

lemma revision_of_lineageValid {before after : TrustBundle}
    (h : ¬ lineageValid before after = false) : after.1.revision = before.1.revision + 1 := by
  simp only [lineageValid, Bool.not_eq_false, holds_iff] at h
  exact h.1.2

/-- A target that stands in both bundles keeps its identity. -/
lemma exists_sameIdentity {before after : TrustBundle} {kid : OpaqueId} {k : PublicKeyDescriptor}
    {state : KeyState} (hsame : sameIdentity (before.keyById kid) (after.keyById kid) = true)
    (hafter : after.keyState kid = some state) (hk : before.keyById kid = some k) :
    ∃ k', after.keyById kid = some k' ∧ k'.identity = k.identity := by
  obtain ⟨k', hk', -⟩ := TrustBundle.keyState_eq_some.mp hafter
  refine ⟨k', hk', ?_⟩
  rw [hk, hk'] at hsame
  simpa [sameIdentity, eq_comm] using hsame

lemma exists_key_of_targets {before after : TrustBundle} {a b : OpaqueId} {sa sb : KeyState}
    (hunchanged : before.unchangedNonTargetKeys after [a, b] = true)
    (ha : sameIdentity (before.keyById a) (after.keyById a) = true)
    (hb : sameIdentity (before.keyById b) (after.keyById b) = true)
    (hsa : after.keyState a = some sa) (hsb : after.keyState b = some sb)
    (kid : OpaqueId) (k : PublicKeyDescriptor) (hk : before.keyById kid = some k) :
    ∃ k', after.keyById kid = some k' ∧ k'.identity = k.identity := by
  by_cases hka : kid = a
  · subst hka
    exact exists_sameIdentity ha hsa hk
  by_cases hkb : kid = b
  · subst hkb
    exact exists_sameIdentity hb hsb hk
  have hkid : kid ∉ [a, b] := by simp [hka, hkb]
  exact ⟨k, TrustBundle.keyById_of_unchanged hunchanged hkid hk, rfl⟩

lemma keepsRevoked_of_targets {before after : TrustBundle} {a b : OpaqueId}
    (hunchanged : before.unchangedNonTargetKeys after [a, b] = true)
    (ha : before.keyState a ≠ some .revoked) (hb : before.keyState b ≠ some .revoked) :
    KeepsRevoked before after := by
  intro kid hkid
  obtain ⟨k, hk, hstate⟩ := TrustBundle.keyState_eq_some.mp hkid
  have htarget : kid ∉ [a, b] := by
    intro hmem
    rcases List.mem_pair.mp hmem with rfl | rfl
    · exact ha hkid
    · exact hb hkid
  exact TrustBundle.keyState_eq_some.mpr
    ⟨k, TrustBundle.keyById_of_unchanged hunchanged htarget hk, hstate⟩

/-- What an authorised rotation passed of the checks that concern the keys. -/
lemma rotation_checks {manifest : KeyRotationManifest} {before after after' : TrustBundle}
    {signatureVerified : Bool} {nowMs : ℕ}
    (h : authorizeKeyRotation manifest before after signatureVerified nowMs = .ok after') :
    before.1.gatewayEpoch = after.1.gatewayEpoch ∧ after.1.revision = before.1.revision + 1 ∧
      (before.keyState manifest.1.oldKid, before.keyState manifest.1.newKid) =
        manifest.1.phase.expectedStates.1 ∧
      (after.keyState manifest.1.oldKid, after.keyState manifest.1.newKid) =
        manifest.1.phase.expectedStates.2 ∧
      before.unchangedNonTargetKeys after [manifest.1.oldKid, manifest.1.newKid] = true ∧
      sameIdentity (before.keyById manifest.1.oldKid) (after.keyById manifest.1.oldKid) = true ∧
      sameIdentity (before.keyById manifest.1.newKid) (after.keyById manifest.1.newKid) = true := by
  simp only [authorizeKeyRotation, eq_ok_iff] at h
  obtain ⟨-, -, -, -, hepoch, hlineage, hstates, hunchanged, -, hsame, -⟩ := h
  push Not at hepoch hstates hsame
  refine ⟨hepoch.1.trans hepoch.2.symm, revision_of_lineageValid hlineage, hstates.1, hstates.2,
    ?_, ?_, ?_⟩
  · exact Bool.eq_true_of_not_eq_false hunchanged
  · exact Bool.eq_true_of_not_eq_false hsame.1
  · exact Bool.eq_true_of_not_eq_false hsame.2

/-- What an authorised emergency revocation passed of the checks that concern the keys. -/
lemma revocation_checks {manifest : EmergencyKeyRevocationManifest}
    {before after after' : TrustBundle} {verified : Bool} {signer : OpaqueId} {nowMs : ℕ}
    (h : authorizeEmergencyRevocation manifest before after verified signer nowMs = .ok after') :
    after.1.gatewayEpoch = before.1.gatewayEpoch + 1 ∧ after.1.revision = before.1.revision + 1 ∧
      before.keyState manifest.1.compromisedKid ≠ some .revoked ∧
      after.keyState manifest.1.compromisedKid = some .revoked ∧
      after.keyState manifest.1.replacementKid = some .active ∧
      before.unchangedNonTargetKeys after
        [manifest.1.compromisedKid, manifest.1.replacementKid] = true ∧
      sameIdentity (before.keyById manifest.1.compromisedKid)
        (after.keyById manifest.1.compromisedKid) = true ∧
      sameIdentity (before.keyById manifest.1.replacementKid)
        (after.keyById manifest.1.replacementKid) = true := by
  simp only [authorizeEmergencyRevocation, eq_ok_iff] at h
  obtain ⟨-, -, -, -, -, hlineage, hepoch, hstates, hunchanged, -, hcompromised, -, hreplacement,
    -⟩ := h
  push Not at hepoch
  have hnew : manifest.1.newGatewayEpoch = manifest.1.previousGatewayEpoch + 1 := by
    have hvalid := manifest.2
    simp only [RevocationFields.valid, holds_iff] at hvalid
    exact hvalid.1.2
  simp only [revocationStates, Bool.not_eq_false, holds_iff, Bool.or_eq_true] at hstates
  obtain ⟨⟨hbefore, hafter⟩, hactive⟩ := hstates
  refine ⟨by rw [hepoch.2, hnew, hepoch.1], revision_of_lineageValid hlineage, ?_, hafter, hactive,
    Bool.eq_true_of_not_eq_false hunchanged, Bool.eq_true_of_not_eq_false hcompromised,
    Bool.eq_true_of_not_eq_false hreplacement⟩
  rcases hbefore with hbefore | hbefore <;> simp [hbefore]

/-- A step of the lineage, with the time and the verification that its caller supplies. -/
inductive TrustStep where
  | rotation (manifest : KeyRotationManifest) (after : TrustBundle) (signatureVerified : Bool)
      (nowMs : ℕ)
  | emergency (manifest : EmergencyKeyRevocationManifest) (after : TrustBundle)
      (recoverySignatureVerified : Bool) (expectedRecoverySignerKid : OpaqueId) (nowMs : ℕ)

namespace TrustStep

def after : TrustStep → TrustBundle
  | .rotation _ after _ _ => after
  | .emergency _ after _ _ _ => after

def authorize (before : TrustBundle) : TrustStep → Except ServiceAuthorizationError TrustBundle
  | .rotation manifest after signatureVerified nowMs =>
    authorizeKeyRotation manifest before after signatureVerified nowMs
  | .emergency manifest after verified signer nowMs =>
    authorizeEmergencyRevocation manifest before after verified signer nowMs

def Authorized (before : TrustBundle) (step : TrustStep) : Prop :=
  step.authorize before = .ok step.after

instance (before : TrustBundle) (step : TrustStep) : Decidable (step.Authorized before) :=
  inferInstanceAs (Decidable (_ = _))

def SparesRevoked (before : TrustBundle) : TrustStep → Prop
  | .rotation .. => True
  | .emergency manifest _ _ _ _ => before.keyState manifest.1.replacementKid ≠ some .revoked

variable {step : TrustStep}

theorem Authorized.follows {before : TrustBundle}
    (h : step.Authorized before) : Follows before step.after := by
  cases step with
  | rotation manifest after signatureVerified nowMs =>
    obtain ⟨hepoch, -, -, hstates, hunchanged, hold, hnew⟩ := rotation_checks h
    refine ⟨hepoch.le, ?_⟩
    cases hphase : manifest.1.phase <;>
      simp only [hphase, RotationPhase.expectedStates, Prod.mk.injEq] at hstates <;>
      exact exists_key_of_targets hunchanged hold hnew hstates.1 hstates.2
  | emergency manifest after verified signer nowMs =>
    obtain ⟨hepoch, -, -, hcompromised, hreplacement, hunchanged, hold, hnew⟩ :=
      revocation_checks h
    refine ⟨?_, ?_⟩
    · show before.1.gatewayEpoch ≤ after.1.gatewayEpoch
      omega
    · exact exists_key_of_targets hunchanged hold hnew hcompromised hreplacement

theorem Authorized.revision {before : TrustBundle}
    (h : step.Authorized before) : step.after.1.revision = before.1.revision + 1 := by
  cases step with
  | rotation => exact (rotation_checks h).2.1
  | emergency => exact (revocation_checks h).2.1

/-- An authorised step keeps the revoked keys revoked exactly when it spares them. -/
lemma Authorized.keepsRevoked_iff {before : TrustBundle}
    (h : step.Authorized before) :
    KeepsRevoked before step.after ↔ step.SparesRevoked before := by
  cases step with
  | rotation manifest after signatureVerified nowMs =>
    refine iff_of_true ?_ trivial
    obtain ⟨-, -, hstates, -, hunchanged, -⟩ := rotation_checks h
    cases hphase : manifest.1.phase <;>
      simp only [hphase, RotationPhase.expectedStates, Prod.mk.injEq] at hstates <;>
      exact keepsRevoked_of_targets hunchanged (by simp [hstates.1]) (by simp [hstates.2])
  | emergency manifest after verified signer nowMs =>
    obtain ⟨-, -, hcompromised, -, hreplacement, hunchanged, -⟩ := revocation_checks h
    constructor
    · intro hkeeps hrevoked
      have hafter := hkeeps _ hrevoked
      rw [show (TrustStep.emergency manifest after verified signer nowMs).after = after from rfl,
        hreplacement] at hafter
      exact KeyState.noConfusion (Option.some.inj hafter)
    · intro hspares
      exact keepsRevoked_of_targets hunchanged hcompromised hspares

end TrustStep

/-- Every step of a chain satisfies `P` on the bundle before it. -/
def Throughout (P : TrustBundle → TrustStep → Prop) : TrustBundle → List TrustStep → Prop
  | _, [] => True
  | before, step :: steps => P before step ∧ Throughout P step.after steps

/-- The bundles of a chain, oldest first. -/
def lineage (first : TrustBundle) (steps : List TrustStep) : List TrustBundle :=
  first :: steps.map TrustStep.after

section Chains

variable {P Q : TrustBundle → TrustStep → Prop} {first : TrustBundle} {steps : List TrustStep}

theorem Throughout.imp (himp : ∀ before step, P before step → Q before step)
    (h : Throughout P first steps) : Throughout Q first steps := by
  induction steps generalizing first with
  | nil => trivial
  | cons step steps ih => exact ⟨himp _ _ h.1, ih h.2⟩

theorem Throughout.and (hP : Throughout P first steps) (hQ : Throughout Q first steps) :
    Throughout (fun before step => P before step ∧ Q before step) first steps := by
  induction steps generalizing first with
  | nil => trivial
  | cons step steps ih => exact ⟨⟨hP.1, hQ.1⟩, ih hP.2 hQ.2⟩

/-- What relates the bundles of every step relates the neighbours of the lineage. -/
lemma throughout_iff_isChain {R : TrustBundle → TrustBundle → Prop} :
    Throughout (fun before step => R before step.after) first steps ↔
      IsChain R (lineage first steps) := by
  induction steps generalizing first with
  | nil => simp [Throughout, lineage]
  | cons step steps ih =>
    rw [Throughout, ih]
    simp [lineage]

end Chains

/-- What two bundles of a lineage have in common: the epoch did not fall, a key identifier keeps its
public key and its scope, and a revoked key is not live again and signs no accepted request. -/
structure Succeeds (before after : TrustBundle) : Prop where
  epoch : before.1.gatewayEpoch ≤ after.1.gatewayEpoch
  keys : ∀ kid k k', before.keyById kid = some k → after.keyById kid = some k' →
    k'.1.publicKeyBase64url = k.1.publicKeyBase64url ∧ k'.1.scope = k.1.scope
  revoked : ∀ kid state, before.keyState kid = some .revoked → after.keyState kid = some state →
    state = .revoked
  refused : ∀ (assertion : ServiceAuthAssertion) (e : ServiceExpectation)
    (claims : ServiceAuthClaims), before.keyState assertion.kid = some .revoked →
      authorizeServiceRequest assertion after e ≠ .ok claims

/-- The revision grows by one with each step, and each bundle succeeds those before it. -/
structure Monotone (bundles : List TrustBundle) : Prop where
  revisions : IsChain (fun before after => after.1.revision = before.1.revision + 1) bundles
  succeeds : bundles.Pairwise Succeeds

/-- The steps of a lineage compose. -/
def Sustains (before after : TrustBundle) : Prop := Follows before after ∧ KeepsRevoked before after

theorem Sustains.trans {a b c : TrustBundle} (hab : Sustains a b) (hbc : Sustains b c) :
    Sustains a c := by
  refine ⟨⟨hab.1.epoch.trans hbc.1.epoch, ?_⟩, fun kid hkid => hbc.2 kid (hab.2 kid hkid)⟩
  intro kid k hk
  obtain ⟨k', hk', hidentity⟩ := hab.1.keys kid k hk
  obtain ⟨k'', hk'', hidentity'⟩ := hbc.1.keys kid k' hk'
  exact ⟨k'', hk'', hidentity'.trans hidentity⟩

instance sustainsTrans : Trans Sustains Sustains Sustains := ⟨Sustains.trans⟩

theorem Sustains.succeeds {before after : TrustBundle} (h : Sustains before after) :
    Succeeds before after where
  epoch := h.1.epoch
  keys := by
    intro kid k k' hk hk'
    obtain ⟨k'', hk'', hidentity⟩ := h.1.keys kid k hk
    obtain rfl : k'' = k' := by simpa [hk''] using hk'
    simp only [PublicKeyDescriptor.identity, PublicKeyDescriptor.Identity.mk.injEq] at hidentity
    exact ⟨hidentity.2.2.1, hidentity.2.1⟩
  revoked := by
    intro kid state hrevoked hstate
    have hafter := h.2 kid hrevoked
    rw [hstate] at hafter
    exact Option.some.inj hafter
  refused := by
    intro assertion e claims hrevoked hok
    have hafter := h.2 assertion.kid hrevoked
    rcases authorizeServiceRequest_state hok with hstate | hstate <;>
      simp [hafter] at hstate

/-- A bundle that succeeds another through an authorised step keeps its revoked keys. -/
lemma Succeeds.keepsRevoked {before after : TrustBundle} (h : Succeeds before after)
    (hfollows : Follows before after) : KeepsRevoked before after := by
  intro kid hrevoked
  obtain ⟨k, hk, -⟩ := TrustBundle.keyState_eq_some.mp hrevoked
  obtain ⟨k', hk', -⟩ := hfollows.keys kid k hk
  have hafter : after.keyState kid = some k'.state := by simp [TrustBundle.keyState, hk']
  rw [hafter, h.revoked kid k'.state hrevoked hafter]

/-- In a chain of authorised steps the lineage is monotone exactly when no emergency revocation
names as its replacement a key that is revoked in the bundle before it. -/
theorem lineage_monotone (first : TrustBundle) (steps : List TrustStep)
    (h : Throughout (fun before step => step.Authorized before) first steps) :
    Monotone (lineage first steps) ↔
      Throughout (fun before step => step.SparesRevoked before) first steps := by
  constructor
  · intro hmonotone
    have hchain := throughout_iff_isChain.mpr hmonotone.succeeds.isChain
    refine (h.and hchain).imp ?_
    intro before step hstep
    exact hstep.1.keepsRevoked_iff.mp (hstep.2.keepsRevoked hstep.1.follows)
  · intro hspares
    have hrevisions := throughout_iff_isChain
      (R := fun before after => after.1.revision = before.1.revision + 1)
      |>.mp (h.imp fun before step hstep => hstep.revision)
    have hsustains : Throughout (fun before step => Sustains before step.after) first steps := by
      refine (h.and hspares).imp ?_
      intro before step hstep
      exact ⟨hstep.1.follows, hstep.1.keepsRevoked_iff.mpr hstep.2⟩
    refine ⟨hrevisions, ?_⟩
    have hpairwise := List.isChain_iff_pairwise.mp (throughout_iff_isChain.mp hsustains)
    exact hpairwise.imp Sustains.succeeds

namespace TrustSample

def scope : TrustScope where
  issuer := ⟨py "gateway", by decide⟩
  audience := ⟨py "runtime", by decide⟩
  purpose := .serviceAuth

def oldKid : OpaqueId := ⟨py "key-1", by decide⟩

def newKid : OpaqueId := ⟨py "key-2", by decide⟩

def recoveryKid : OpaqueId := ⟨py "recovery", by decide⟩

def publicKey (letter : Char) : PyStr := List.replicate 43 (CodePoint.ofChar letter)

def keyFields (kid : OpaqueId) (letter : Char) (state : KeyState) (revokedAtMs : Option ℕ) :
    KeyFields where
  schemaVersion := .current
  kid := kid
  scope := scope
  publicKeyBase64url := publicKey letter
  publicKeySha256 := .sha256 (.num ((rawPublicKey (publicKey letter)).getD 0))
  state := state
  notBeforeMs := 0
  notAfterMs := 100
  componentManifestHash := .text "components"
  revokedAtMs := revokedAtMs
  revocationReason := revokedAtMs.map fun _ => "key.retired"

lemma previous_valid : (keyFields oldKid 'A' .previous none).valid = true := by decide

lemma retired_valid : (keyFields oldKid 'A' .revoked (some 20)).valid = true := by decide

lemma restored_valid : (keyFields oldKid 'A' .active none).valid = true := by decide

lemma active_valid : (keyFields newKid 'E' .active none).valid = true := by decide

lemma compromised_valid : (keyFields newKid 'E' .revoked (some 30)).valid = true := by decide

def bundleFields (revision gatewayEpoch generatedAtMs : ℕ) (old new : PublicKeyDescriptor)
    (productionReady : Bool) : BundleFields :=
  let fields : BundleFields :=
    { schemaVersion := .current
      bundleId := ⟨py "bundle", by decide⟩
      revision := revision
      gatewayEpoch := gatewayEpoch
      generatedAtMs := generatedAtMs
      requiredScopes := [scope]
      keys := [old, new]
      productionReady := productionReady
      bundleSha256 := .null }
  { fields with bundleSha256 := fields.computedSha256 }

def previousFields : BundleFields :=
  bundleFields 3 1 10 ⟨_, previous_valid⟩ ⟨_, active_valid⟩ true

def retiredFields (productionReady : Bool) : BundleFields :=
  bundleFields 4 1 20 ⟨_, retired_valid⟩ ⟨_, active_valid⟩ productionReady

def restoredFields : BundleFields :=
  bundleFields 5 2 30 ⟨_, restored_valid⟩ ⟨_, compromised_valid⟩ true

lemma previousFields_valid : previousFields.valid = true := by decide

lemma retiredFields_valid : (retiredFields true).valid = true := by decide

lemma restoredFields_valid : restoredFields.valid = true := by decide

/-- The old key is in its grace period. -/
def previousBundle : TrustBundle := ⟨previousFields, previousFields_valid⟩

/-- The old key is retired. -/
def retiredBundle : TrustBundle := ⟨retiredFields true, retiredFields_valid⟩

/-- The new key is compromised, and the old one stands in for it. -/
def restoredBundle : TrustBundle := ⟨restoredFields, restoredFields_valid⟩

def retireFields (after : BundleFields) : RotationFields :=
  let fields : RotationFields :=
    { schemaVersion := .current
      rotationId := ⟨py "rotation", by decide⟩
      phase := .retire
      scope := scope
      gatewayEpoch := 1
      oldKid := oldKid
      newKid := newKid
      signerKid := oldKid
      preparedAtMs := 5
      effectiveAtMs := 10
      graceUntilMs := 20
      beforeBundleSha256 := previousFields.bundleSha256
      afterBundleSha256 := after.bundleSha256
      componentManifestHash := .text "components"
      signature := List.replicate 86 (CodePoint.ofChar 'A')
      manifestSha256 := .null }
  { fields with manifestSha256 := .sha256 fields.body }

def restoreFields : RevocationFields :=
  let fields : RevocationFields :=
    { schemaVersion := .current
      incidentId := ⟨py "incident", by decide⟩
      scope := scope
      compromisedKid := newKid
      replacementKid := oldKid
      recoverySignerKid := recoveryKid
      previousGatewayEpoch := 1
      newGatewayEpoch := 2
      detectedAtMs := 25
      effectiveAtMs := 30
      beforeBundleSha256 := (retiredFields true).bundleSha256
      afterBundleSha256 := restoredFields.bundleSha256
      componentManifestHash := .text "components"
      recoverySignature := List.replicate 86 (CodePoint.ofChar 'A')
      manifestSha256 := .null }
  { fields with manifestSha256 := .sha256 fields.body }

theorem retireFields_valid : (retireFields (retiredFields true)).valid = true := by decide

lemma restoreFields_valid : restoreFields.valid = true := by decide

def retire : TrustStep := .rotation ⟨_, retireFields_valid⟩ retiredBundle true 20

def restore : TrustStep :=
  .emergency ⟨_, restoreFields_valid⟩ restoredBundle true recoveryKid 30

lemma retire_authorized : retire.Authorized previousBundle := by decide

lemma restore_authorized : restore.Authorized retiredBundle := by decide

end TrustSample

open TrustSample in
theorem lineage_monotone_retired : Monotone (lineage previousBundle [retire]) :=
  (lineage_monotone previousBundle [retire] ⟨retire_authorized, trivial⟩).mpr ⟨trivial, trivial⟩

open TrustSample in
/-- A rotation retires the old key. The emergency revocation of the new key then names it as the
replacement, and the contract accepts the revoked key as active. -/
theorem restored_not_monotone : previousBundle.1.productionReady = true ∧
      Throughout (fun before step => step.Authorized before) previousBundle [retire, restore] ∧
      ¬ Monotone (lineage previousBundle [retire, restore]) := by
  refine ⟨rfl, ⟨retire_authorized, restore_authorized, trivial⟩, ?_⟩
  intro hmonotone
  have hsucceeds : Succeeds retiredBundle restoredBundle := by
    have hpairs := hmonotone.succeeds
    simp only [lineage, List.map_cons, List.map_nil, List.pairwise_cons] at hpairs
    exact hpairs.2.1 _ (List.mem_singleton_self _)
  have hrevoked : retiredBundle.keyState oldKid = some .revoked := by decide
  have hactive : restoredBundle.keyState oldKid = some .active := by decide
  exact KeyState.noConfusion (hsucceeds.revoked oldKid .active hrevoked hactive)

end Tiangong
