import Tiangong.ChannelOwnership

/-!
# Exclusive ownership of a channel

A new epoch waits for the active lease of the earlier ones. A renewal may end before the lease that
it replaces, whose document is out of the store's hands: an epoch that begins between the two
overlaps it. When no replaced lease outlasts the start of a later epoch, the epochs are apart.
-/
namespace Tiangong.Cutover

open ChannelStore Machine

def handedOut : Except CutoverFault ChannelAnswer → Option ChannelOwnershipLease
  | .ok answer => answer.lease
  | .error _ => none

def ReplacedExpired (s : ChannelStore) : ChannelCall → Prop
  | .beginCutover snapshot _ => s.ReplacedExpired snapshot
  | _ => True

namespace ChannelStore

variable {s s' : ChannelStore} {call : ChannelCall}

theorem step_cases (s : ChannelStore) (call : ChannelCall) : let step := channelMachine.step s call
    (step.1 = s ∧ handedOut step.2 = none) ∨
    (∃ snapshot epoch, call = .beginCutover snapshot epoch ∧ handedOut step.2 = none ∧
      s.cutovers.Inserts snapshot step.1.cutovers ∧ step.1.leases = s.leases ∧
      snapshot.stage = .draining ∧ snapshot.startedAtMs ≤ snapshot.updatedAtMs ∧
      ¬ s.PriorActive snapshot) ∨
    (∃ snapshot ∈ s.cutovers.rows, ∃ drain observedAtMs, handedOut step.2 = none ∧
      snapshot.stage = .draining ∧ snapshot.startedAtMs ≤ observedAtMs ∧
      step.1.leases = s.leases ∧
      step.1.cutovers = s.advance snapshot.cutoverId (.drained drain) observedAtMs) ∨
    ∃ lease, handedOut step.2 = some lease ∧ s.Registers step.1 lease := by
  cases call with
  | beginCutover snapshot epoch =>
    cases hr : s.beginChannelCutover snapshot epoch with
    | error e => simp [channelMachine, hr, committed, handedOut]
    | ok pair =>
      obtain ⟨created, s'⟩ := pair
      simp only [channelMachine, hr, committed, handedOut, ChannelAnswer.lease]
      rcases beginChannelCutover_eq_ok hr with rfl |
        ⟨hinsert, -, hleases, hstage, htimes, -, hprior⟩
      · exact .inl ⟨rfl, trivial⟩
      · exact .inr (.inl ⟨snapshot, epoch, rfl, trivial, hinsert, hleases, hstage, htimes, hprior⟩)
  | recordDrain evidence epoch =>
    cases hr : s.recordChannelDrain evidence epoch with
    | error e => simp [channelMachine, hr, committed, handedOut]
    | ok pair =>
      obtain ⟨snapshot', s'⟩ := pair
      simp only [channelMachine, hr, committed, handedOut, ChannelAnswer.lease]
      rcases recordChannelDrain_eq_ok hr with rfl |
        ⟨snapshot, hmem, hstage, hstarted, -, hleases, hcutovers⟩
      · exact .inl ⟨rfl, trivial⟩
      · exact .inr (.inr (.inl ⟨snapshot, hmem, evidence.binding, evidence.observedAtMs, trivial,
          hstage, hstarted, hleases, hcutovers⟩))
  | activate cutoverId epoch manifest issuedAtMs ttl =>
    cases hr : s.activateChannelCandidate cutoverId epoch manifest issuedAtMs ttl with
    | error e => simp [channelMachine, hr, committed, handedOut]
    | ok pair =>
      simp only [channelMachine, hr, committed, handedOut, ChannelAnswer.lease]
      exact .inr (.inr (.inr ⟨pair.1.lease, rfl, activateChannelCandidate_eq_ok hr⟩))
  | renew cutoverId epoch issuedAtMs ttl =>
    cases hr : s.renewChannelCandidate cutoverId epoch issuedAtMs ttl with
    | error e => simp [channelMachine, hr, committed, handedOut]
    | ok pair =>
      simp only [channelMachine, hr, committed, handedOut, ChannelAnswer.lease]
      exact .inr (.inr (.inr ⟨pair.1.lease, rfl, renewChannelCandidate_eq_ok hr⟩))

theorem Sound.step (hs : s.Sound) (call : ChannelCall) : (channelMachine.step s call).1.Sound := by
  rcases step_cases s call with ⟨hsame, -⟩ |
    ⟨snapshot, epoch, -, -, hinsert, hleases, hstage, htimes, -⟩ |
    ⟨snapshot, hmem, drain, observedAtMs, -, hstage, hstarted, hleases, hcutovers⟩ |
    ⟨lease, -, hregisters⟩
  · rwa [hsame]
  · exact hs.begun hinsert hleases hstage htimes
  · exact hs.drained hmem hstage hstarted hleases hcutovers
  · cases hregisters with
    | replayed heq => rwa [heq]
    | issued current h => exact hs.issued h

theorem Apart.step (ha : s.Apart) (hs : s.Sound) (hexpired : Cutover.ReplacedExpired s call) :
    (channelMachine.step s call).1.Apart := by
  rcases step_cases s call with ⟨hsame, -⟩ |
    ⟨snapshot, epoch, rfl, -, hinsert, hleases, -, -, hprior⟩ |
    ⟨snapshot, hmem, drain, observedAtMs, -, -, -, hleases, hcutovers⟩ |
    ⟨lease, -, hregisters⟩
  · rwa [hsame]
  · exact ha.begun hs hinsert hleases hprior hexpired
  · intro c hc r hr hscope hepoch
    rw [hcutovers] at hc
    rw [hleases] at hr
    obtain ⟨c₀, hc₀, -, hs₀, he₀, ht₀, -⟩ := mem_advance hc
    rw [ht₀]
    exact ha c₀ hc₀ r hr (hs₀ ▸ hscope) (he₀ ▸ hepoch)
  · cases hregisters with
    | replayed heq => rwa [heq]
    | issued current h => exact ha.issued h

lemma keeps_step (s : ChannelStore) (call : ChannelCall) :
    s.Keeps (channelMachine.step s call).1 := by
  rcases step_cases s call with ⟨hsame, -⟩ | ⟨snapshot, epoch, -, -, -, hleases, -⟩ |
    ⟨snapshot, -, drain, observedAtMs, -, -, -, hleases, -⟩ | ⟨lease, -, hregisters⟩
  · rw [hsame]
    exact .refl s
  · exact .of_leases hleases
  · exact .of_leases hleases
  · cases hregisters with
    | replayed heq =>
      rw [heq]
      exact .refl s
    | issued current h => exact h.keeps

lemma keeps_exec (s : ChannelStore) (calls : List ChannelCall) :
    s.Keeps (channelMachine.exec s calls) := by
  induction calls generalizing s with
  | nil => exact .refl s
  | cons call calls ih =>
    intro r hr
    obtain ⟨r₁, hr₁, hlease₁⟩ := keeps_step s call r hr
    obtain ⟨r₂, hr₂, hlease₂⟩ := ih _ r₁ hr₁
    exact ⟨r₂, hr₂, hlease₂.trans hlease₁⟩

/-- A lease is handed out after the drain of its cutover, and is on record. -/
lemma handedOut_step {lease : ChannelOwnershipLease}
    (h : handedOut (channelMachine.step s call).2 = some lease) :
    (∃ e ∈ s.evidence.rows, e.cutoverId = lease.cutoverId) ∧
      ∃ r ∈ (channelMachine.step s call).1.leases.rows, r.lease = lease := by
  rcases step_cases s call with ⟨-, hnone⟩ | ⟨snapshot, epoch, -, hnone, -⟩ |
    ⟨snapshot, -, drain, observedAtMs, hnone, -⟩ | ⟨lease', hsome, hregisters⟩
  · rw [hnone] at h
    cases h
  · rw [hnone] at h
    cases h
  · rw [hnone] at h
    cases h
  · rw [hsome] at h
    obtain rfl := Option.some.inj h
    cases hregisters with
    | replayed heq row hrow hlease drained =>
      rw [heq]
      exact ⟨drained, row, hrow, hlease⟩
    | issued current hissues =>
      refine ⟨hissues.drained, ⟨lease', true⟩, ?_, rfl⟩
      rw [hissues.rows]
      exact List.mem_append_right _ List.mem_cons_self

end ChannelStore

/-- What a run keeps to: leases of different epochs of a scope are apart, the leases of a cutover
are on record as one chain with the last one active, each was issued after the drain, and a call
that raises changes nothing. -/
structure OwnedExclusively (calls : List ChannelCall) : Prop where
  apart : ∀ entry ∈ channelMachine.trace .empty calls,
    ∀ entry' ∈ channelMachine.trace .empty calls, ∀ lease lease',
      handedOut entry.2.2 = some lease → handedOut entry'.2.2 = some lease' →
      lease.scope = lease'.scope → lease.gatewayEpoch < lease'.gatewayEpoch →
        lease.expiresAtMs.val + channelLeaseClockSkewMs ≤ lease'.issuedAtMs.val
  chained : ∀ c ∈ (channelMachine.exec .empty calls).cutovers.rows,
    ChannelStore.Chained ((channelMachine.exec .empty calls).leasesOf c.cutoverId) ∧
      ChannelStore.LastActive ((channelMachine.exec .empty calls).leasesOf c.cutoverId)
  kept : ∀ entry ∈ channelMachine.trace .empty calls, ∀ lease,
    handedOut entry.2.2 = some lease → ∃ c ∈ (channelMachine.exec .empty calls).cutovers.rows,
      ∃ r ∈ (channelMachine.exec .empty calls).leasesOf c.cutoverId, r.lease = lease
  drained : ∀ entry ∈ channelMachine.trace .empty calls, ∀ lease, handedOut entry.2.2 = some lease →
      ∃ e ∈ entry.1.evidence.rows, e.cutoverId = lease.cutoverId
  unchanged : ∀ entry ∈ channelMachine.trace .empty calls, ∀ fault,
    entry.2.2 = .error fault → (channelMachine.step entry.1 entry.2.1).1 = entry.1

theorem exec_sound (calls : List ChannelCall) : (channelMachine.exec .empty calls).Sound :=
  exec_preserves ChannelStore.Sound (fun _ call h => h.step call) empty_sound
    calls

/-- Whatever is called, leases stay on record in the chains of their cutovers, and none is handed
out before the drain of its cutover. -/
theorem exec_leases (calls later : List ChannelCall) :
    let s := channelMachine.exec .empty calls
    s.Sound ∧ s.Keeps (channelMachine.exec s later) ∧ ∀ call,
      ∀ lease ∈ handedOut (channelMachine.step s call).2,
        ∃ e ∈ s.evidence.rows, e.cutoverId = lease.cutoverId :=
  ⟨exec_sound calls, keeps_exec _ later, fun _ _ h => (handedOut_step h).1⟩

lemma exec_apart {calls : List ChannelCall}
    (h : channelMachine.Steps ReplacedExpired .empty calls) :
    (channelMachine.exec .empty calls).Apart := by
  have hboth : (channelMachine.exec .empty calls).Sound ∧
      (channelMachine.exec .empty calls).Apart :=
    exec_preserves_of_steps (fun s : ChannelStore => s.Sound ∧ s.Apart)
      (fun s call hs hcall => ⟨hs.1.step call, hs.2.step hs.1 hcall⟩)
      ⟨empty_sound, empty_apart⟩ h
  exact hboth.2

/-- A lease that was handed out stays on record. -/
lemma mem_exec_of_handedOut {calls : List ChannelCall}
    {entry : ChannelStore × ChannelCall × Except CutoverFault ChannelAnswer}
    (hentry : entry ∈ channelMachine.trace .empty calls) {lease : ChannelOwnershipLease}
    (h : handedOut entry.2.2 = some lease) :
    ∃ r ∈ (channelMachine.exec .empty calls).leases.rows, r.lease = lease := by
  obtain ⟨pre, call, post, rfl, rfl⟩ := (mem_trace _).mp hentry
  obtain ⟨-, r, hr, rfl⟩ := handedOut_step h
  rw [exec_append, exec_cons]
  exact keeps_exec _ post r hr

section Sample

def sampleScope : ChannelScope := ⟨.wechat, ⟨py "tenant", by decide⟩, ⟨py "account", by decide⟩⟩

def sampleOwner : OpaqueId := ⟨py "owner", by decide⟩

/-- A cutover of the scope that begins in an epoch. -/
def sampleCutover (epoch startedAtMs : JsonNat) (h : 1 ≤ epoch.val) : ChannelCutoverSnapshot :=
  ChannelCutoverSnapshot.advance .draining startedAtMs
    { schemaVersion := .current
      scope := sampleScope
      gatewayEpoch := epoch
      legacyOwnerComponentId := sampleOwner
      legacyOwnerInstanceId := sampleOwner
      candidateOwnerInstanceId := sampleOwner
      stage := .draining
      startedAtMs
      updatedAtMs := startedAtMs
      snapshotSha256 := .null
      epoch_pos := h }

def sampleEvidence (epoch observedAtMs : JsonNat) (h : 1 ≤ epoch.val) : ChannelDrainEvidence :=
  let evidence : ChannelDrainEvidence :=
    { schemaVersion := .current
      scope := sampleScope
      gatewayEpoch := epoch
      legacyOwnerComponentId := sampleOwner
      legacyOwnerInstanceId := sampleOwner
      inboxLedgerSha256 := .sha256 (.text "inbox")
      deliveryLedgerSha256 := .sha256 (.text "delivery")
      lastCursorSha256 := none
      observedAtMs
      evidenceSha256 := .null
      epoch_pos := h }
  { evidence with evidenceSha256 := evidence.computedSha256 }

def sampleActivation (epoch issuedAtMs : ℕ) (ttl : ℤ) : ChannelCall :=
  .activate (deriveCutoverId sampleScope epoch) epoch (.sha256 (.text "manifest")) issuedAtMs ttl

/-- An epoch whose candidate is activated when the drain is observed. -/
def sampleEpoch (epoch startedAtMs : JsonNat) (h : 1 ≤ epoch.val) (ttl : ℤ) : List ChannelCall :=
  [.beginCutover (sampleCutover epoch startedAtMs h) epoch.val,
    .recordDrain (sampleEvidence epoch startedAtMs h) epoch.val,
    sampleActivation epoch.val startedAtMs.val ttl]

/-- The first epoch's lease runs for a minute; its renewal ends after a second. -/
def earlyRenewal : List ChannelCall :=
  sampleEpoch 1 0 (by decide) 60000 ++
    .renew (deriveCutoverId sampleScope 1) 1 1 1000 :: sampleEpoch 2 6001 (by decide) 1000

def entryAfter (pre : List ChannelCall) (call : ChannelCall) :
    ChannelStore × ChannelCall × Except CutoverFault ChannelAnswer :=
  (channelMachine.exec .empty pre, call,
    (channelMachine.step (channelMachine.exec .empty pre) call).2)

lemma mem_earlyRenewal {pre post : List ChannelCall} {call : ChannelCall}
    (h : earlyRenewal = pre ++ call :: post) :
    entryAfter pre call ∈ channelMachine.trace .empty earlyRenewal :=
  (mem_trace _).mpr ⟨pre, call, post, h, rfl⟩

end Sample

end Tiangong.Cutover
