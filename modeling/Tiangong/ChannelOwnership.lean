import Tiangong.ChannelContracts
import Tiangong.ChannelCutovers
import Tiangong.LinkedLogs

/-!
# The ownership of a channel

The leases of a cutover are a chain whose last one is active. Where no later epoch has begun a new
lease may be issued, and an epoch begins when the active leases of the earlier ones have expired.
-/
open List

namespace Tiangong.Cutover

open Table

@[simp] theorem deriveCutoverId_inj {scope scope' : ChannelScope} {epoch epoch' : ℕ} :
    deriveCutoverId scope epoch = deriveCutoverId scope' epoch' ↔
      scope = scope' ∧ epoch = epoch' := by
  have hchannel : ∀ {c c' : CutoverChannel}, c.text = c'.text ↔ c = c' := by
    intro c c'
    cases c <;> cases c' <;> decide
  constructor
  · intro h
    obtain ⟨-, h⟩ := Canon.ident_inj.mp h
    have hlist := Canon.ofList_injective h
    simp only [List.cons.injEq, true_and, and_true, Canon.text.injEq, Canon.num.injEq, hchannel,
      Canon.str_inj] at hlist
    obtain ⟨h₁, h₂, h₃, h₄⟩ := hlist
    refine ⟨?_, h₄⟩
    cases scope
    cases scope'
    simp_all [Subtype.ext_iff]
  · rintro ⟨rfl, rfl⟩
    rfl

lemma buildOwnershipLease_eq_ok {snapshot : ChannelCutoverSnapshot}
    {evidence : ChannelDrainEvidence} {manifest : Canon} {previous : Option Canon}
    {issuedAtMs leaseTtlMs : ℤ} {lease : ChannelOwnershipLease}
    (h : buildOwnershipLease snapshot evidence manifest previous issuedAtMs leaseTtlMs =
      .ok lease) :
    lease.scope = snapshot.scope ∧ lease.gatewayEpoch = snapshot.gatewayEpoch ∧
      lease.previousLeaseSha256 = previous ∧ (lease.issuedAtMs.val : ℤ) = issuedAtMs := by
  unfold buildOwnershipLease at h
  split at h
  · next hfits =>
    cases h
    exact ⟨rfl, rfl, rfl, Int.toNat_of_nonneg hfits.1⟩
  · cases h

namespace ChannelStore

variable {s s' : ChannelStore}

/-- The leases of a cutover, in the order in which they were issued. -/
def leasesOf (s : ChannelStore) (cutoverId : Canon) : List LeaseRow :=
  s.leases.rows.filter fun r => r.cutoverId = cutoverId

variable {cutoverId : Canon} {r : LeaseRow}

theorem mem_leasesOf : r ∈ s.leasesOf cutoverId ↔ r ∈ s.leases.rows ∧ r.cutoverId = cutoverId := by
  simp [leasesOf]

variable {snapshot : ChannelCutoverSnapshot} {epoch : ℤ}

theorem beginChannelCutover_eq_ok {created : Bool}
    (h : s.beginChannelCutover snapshot epoch = .ok (created, s')) :
    s' = s ∨ (s.cutovers.Inserts snapshot s'.cutovers ∧ s'.evidence = s.evidence ∧
      s'.leases = s.leases ∧ snapshot.stage = .draining ∧
      snapshot.startedAtMs ≤ snapshot.updatedAtMs ∧
      ¬ s.HasNewer snapshot.scope snapshot.gatewayEpoch ∧ ¬ s.PriorActive snapshot) := by
  simp only [beginChannelCutover, eq_ok_iff, not_or, not_not, not_lt] at h
  obtain ⟨⟨hstage, -, -⟩, htimes, h⟩ := h
  split at h
  · simp only [eq_pair_iff] at h
    exact .inl h.2.2.symm
  · simp only [eq_pair_iff, insert_eq_ok] at h
    obtain ⟨hnewer, hprior, cutovers, hinsert, -, rfl⟩ := h
    exact .inr ⟨hinsert, rfl, rfl, hstage, htimes, hnewer, hprior⟩

theorem recordChannelDrain_eq_ok {evidence : ChannelDrainEvidence}
    {snapshot' : ChannelCutoverSnapshot}
    (h : s.recordChannelDrain evidence epoch = .ok (snapshot', s')) :
    s' = s ∨ ∃ snapshot ∈ s.cutovers.rows, snapshot.stage = .draining ∧
      snapshot.startedAtMs ≤ evidence.observedAtMs ∧
      s.evidence.Inserts evidence s'.evidence ∧ s'.leases = s.leases ∧
      s'.cutovers = s.advance snapshot.cutoverId (.drained evidence.binding)
        evidence.observedAtMs := by
  simp only [recordChannelDrain, eq_ok_iff] at h
  obtain ⟨-, snapshot, hfind, h⟩ := h
  split at h
  · simp only [eq_pair_iff] at h
    exact .inl h.2.2.2.symm
  · simp only [eq_pair_iff, applyChannelDrain, insert_eq_ok, not_or, not_not,
      not_lt] at h
    obtain ⟨-, ⟨⟨hstage, -, -, -, -, -, -, hstarted⟩, rfl⟩, table, hinsert, -, rfl⟩ := h
    exact .inr ⟨snapshot, mem_of_find hfind, hstage, hstarted, hinsert, rfl, rfl⟩

/-- A lease is issued to the candidate of a cutover. It continues `current`, when there is one. -/
structure Issues (s s' : ChannelStore) (lease : ChannelOwnershipLease)
    (current : Option LeaseRow) : Prop where
  cutover : ∃ snapshot ∈ s.cutovers.rows, snapshot.cutoverId = lease.cutoverId ∧
    (snapshot.updatedAtMs ≤ lease.issuedAtMs ∨ snapshot.startedAtMs ≤ lease.issuedAtMs) ∧
    (current = none → snapshot.stage.lease = none)
  notNewer : ¬ s.HasNewer lease.scope lease.gatewayEpoch
  drained : ∃ e ∈ s.evidence.rows, e.cutoverId = lease.cutoverId
  current_active : ∀ r, current = some r → s.activeLease lease.cutoverId = some r
  previous : lease.previousLeaseSha256 = current.map fun r => r.lease.sha256
  rows : s'.leases.rows = s.leases.rows.map (fun r =>
    if current.map LeaseRow.leaseId = some r.leaseId then r.deactivate else r) ++ [⟨lease, true⟩]
  evidence : s'.evidence = s.evidence
  cutovers : ∃ drain, s'.cutovers =
    s.advance lease.cutoverId (.candidateActive drain lease.binding) lease.issuedAtMs

/-- A registration hands out a stored lease again, or issues a new one. -/
inductive Registers (s s' : ChannelStore) (lease : ChannelOwnershipLease) : Prop
  | replayed (heq : s' = s) (row : LeaseRow) (hrow : row ∈ s.leases.rows)
    (hlease : row.lease = lease) (drained : ∃ e ∈ s.evidence.rows, e.cutoverId = lease.cutoverId)
  | issued (current : Option LeaseRow) (h : s.Issues s' lease current)

lemma mem_of_activeLease
    (h : s.activeLease cutoverId = some r) : r ∈ s.leasesOf cutoverId ∧ r.isActive = true := by
  have hsel := List.find?_some h
  simp only [holds_iff] at hsel
  exact ⟨mem_leasesOf.mpr ⟨mem_of_find?_eq_some h, hsel.1⟩, hsel.2⟩

lemma insertLease_eq_ok {lease : ChannelOwnershipLease} {leases leases' : Table LeaseRow.leaseId}
    (h : insertLease lease leases = .ok leases') :
    leases'.rows = leases.rows ++ [⟨lease, true⟩] := by
  simp only [insertLease, eq_ok_iff, insert_eq_ok] at h
  exact h.2.rows

theorem activateChannelCandidate_eq_ok {manifest : Canon} {issuedAtMs ttl : ℤ}
    {registration : ChannelOwnershipRegistration}
    (h : s.activateChannelCandidate cutoverId epoch manifest issuedAtMs ttl =
      .ok (registration, s')) : s.Registers s' registration.lease := by
  simp only [activateChannelCandidate, eq_ok_iff] at h
  obtain ⟨snapshot, hfind, -, hnewer, evidence, hevidence, h⟩ := h
  have hid : snapshot.cutoverId = cutoverId := key_of_find hfind
  have hdrained : ∃ e ∈ s.evidence.rows, e.cutoverId = cutoverId :=
    ⟨evidence, mem_of_find hevidence, key_of_find hevidence⟩
  split at h
  · simp only [replayActivation, eq_pair_iff] at h
    obtain ⟨row, hrow, -, rfl, rfl⟩ := h
    have hmem := mem_leasesOf.mp (mem_of_activeLease hrow).1
    have hkey : row.lease.cutoverId = cutoverId := hmem.2.trans hid
    exact .replayed rfl row hmem.1 rfl (hkey ▸ hdrained)
  · next hinactive =>
    simp only [eq_pair_iff, activateCandidateOwner, Prod.exists, not_or, not_not,
      not_lt] at h
    obtain ⟨active, lease, ⟨⟨-, -, -, hsince, -, -⟩, lease', hbuild, rfl, rfl⟩, leases, hinsert,
      rfl, rfl⟩ := h
    obtain ⟨hscope, hepoch, hprevious, hissued⟩ := buildOwnershipLease_eq_ok hbuild
    have hkey : lease'.cutoverId = cutoverId := by
      rw [← hid, ChannelOwnershipLease.cutoverId, hscope, hepoch]
      rfl
    refine .issued none ⟨⟨snapshot, mem_of_find hfind, hid.trans hkey.symm, .inl ?_, ?_⟩, ?_,
      hkey ▸ hdrained, (fun r hr => by cases hr), hprevious, ?_, rfl, evidence.binding, ?_⟩
    · show snapshot.updatedAtMs.val ≤ lease'.issuedAtMs.val
      omega
    · intro
      simpa using hinactive
    · rw [hscope, hepoch]
      exact hnewer
    · simpa using insertLease_eq_ok hinsert
    · rw [hkey]
      rfl

theorem renewChannelCandidate_eq_ok {issuedAtMs ttl : ℤ}
    {registration : ChannelOwnershipRegistration}
    (h : s.renewChannelCandidate cutoverId epoch issuedAtMs ttl = .ok (registration, s')) :
    s.Registers s' registration.lease := by
  simp only [renewChannelCandidate, eq_ok_iff] at h
  obtain ⟨snapshot, hfind, -, hnewer, evidence, hevidence, current, hcurrent, h⟩ := h
  have hid : snapshot.cutoverId = cutoverId := key_of_find hfind
  have hdrained : ∃ e ∈ s.evidence.rows, e.cutoverId = cutoverId :=
    ⟨evidence, mem_of_find hevidence, key_of_find hevidence⟩
  have hmem := mem_leasesOf.mp (mem_of_activeLease hcurrent).1
  split at h
  · obtain ⟨rfl, rfl⟩ := Prod.mk.inj (pure_eq_ok.mp h)
    have hkey : current.lease.cutoverId = cutoverId := hmem.2
    exact .replayed rfl current hmem.1 rfl (hkey ▸ hdrained)
  · simp only [eq_pair_iff, renewCandidateOwner, Prod.exists, not_or, not_not,
      not_lt] at h
    obtain ⟨renewed, lease, ⟨-, lease', hbuild, rfl, rfl⟩, leases, hinsert, hstarted, rfl, rfl⟩ := h
    obtain ⟨hscope, hepoch, hprevious, hissued⟩ := buildOwnershipLease_eq_ok hbuild
    have hkey : lease'.cutoverId = cutoverId := by
      rw [← hid, ChannelOwnershipLease.cutoverId, hscope, hepoch]
      rfl
    refine .issued (some current) ⟨⟨snapshot, mem_of_find hfind, hid.trans hkey.symm,
      .inr hstarted, fun hnone => by cases hnone⟩, ?_, hkey ▸ hdrained, ?_, hprevious, ?_, rfl,
      evidence.binding, ?_⟩
    · rw [hscope, hepoch]
      exact hnewer
    · intro r hr
      cases hr
      rw [hkey]
      exact hcurrent
    · rw [insertLease_eq_ok hinsert, update_rows]
      simp [eq_comm]
    · rw [hkey]
      rfl

/-- The leases of a cutover form one chain: each refers to the one before it, the first to none. -/
def Chained (rows : List LeaseRow) : Prop :=
  Linked (fun r => r.lease.previousLeaseSha256) (fun r => some r.lease.sha256) none rows

def LastActive (rows : List LeaseRow) : Prop :=
  ∀ front last, rows = front ++ [last] → last.isActive = true ∧ ∀ r ∈ front, r.isActive = false

/-- The lease that a snapshot is bound to is the last one of its cutover. -/
def BoundTo (rows : List LeaseRow) : Option LeaseBinding → Prop
  | none => rows = []
  | some binding => ∃ front last, rows = front ++ [last] ∧ last.lease.binding = binding

/-- What holds of the store whatever was called. -/
structure Sound (s : ChannelStore) : Prop where
  times : ∀ c ∈ s.cutovers.rows, c.startedAtMs ≤ c.updatedAtMs
  started : ∀ r ∈ s.leases.rows, ∃ c ∈ s.cutovers.rows, c.cutoverId = r.cutoverId ∧
    c.startedAtMs ≤ r.lease.issuedAtMs
  chained : ∀ c ∈ s.cutovers.rows, Chained (s.leasesOf c.cutoverId)
  active : ∀ c ∈ s.cutovers.rows, LastActive (s.leasesOf c.cutoverId)
  bound : ∀ c ∈ s.cutovers.rows, BoundTo (s.leasesOf c.cutoverId) c.stage.lease

/-- A cutover starts when every lease of the earlier epochs of its scope has expired safely. -/
def Apart (s : ChannelStore) : Prop :=
  ∀ c ∈ s.cutovers.rows, ∀ r ∈ s.leases.rows, r.lease.scope = c.scope →
    r.lease.gatewayEpoch < c.gatewayEpoch →
    r.lease.expiresAtMs.val + channelLeaseClockSkewMs ≤ c.startedAtMs.val

lemma lastActive_iff {front : List LeaseRow} {last : LeaseRow} : LastActive (front ++ [last]) ↔
      last.isActive = true ∧ ∀ r ∈ front, r.isActive = false := by
  constructor
  · exact fun h => h front last rfl
  · rintro h front' last' heq
    obtain ⟨rfl, hlast⟩ := append_inj' heq rfl
    cases hlast
    exact h

lemma lastActive_nil : LastActive [] := by
  intro front last h
  simp at h

theorem empty_sound : empty.Sound := by
  constructor <;> simp [empty]

theorem empty_apart : empty.Apart := by
  simp [Apart, empty]

lemma Sound.eq_last (h : s.Sound) {c : ChannelCutoverSnapshot} (hc : c ∈ s.cutovers.rows) (hr : r ∈ s.leasesOf c.cutoverId) (hactive : r.isActive = true) :
    ∃ front, s.leasesOf c.cutoverId = front ++ [r] ∧ c.stage.lease = some r.lease.binding := by
  have hbound := h.bound c hc
  cases hlease : c.stage.lease with
  | none =>
    rw [hlease] at hbound
    rw [show s.leasesOf c.cutoverId = [] from hbound] at hr
    cases hr
  | some binding =>
    rw [hlease] at hbound
    obtain ⟨front, last, hrows, rfl⟩ := hbound
    obtain ⟨-, hfront⟩ := h.active c hc front last hrows
    rw [hrows] at hr
    rcases mem_append.mp hr with hmem | hmem
    · rw [hfront r hmem] at hactive
      cases hactive
    · obtain rfl := mem_singleton.mp hmem
      exact ⟨front, hrows, rfl⟩

lemma leasesOf_congr (h : s'.leases = s.leases) :
    s'.leasesOf cutoverId = s.leasesOf cutoverId := by
  rw [leasesOf, h]
  rfl

/-- Cutovers whose stages change, with the leases as they are. -/
theorem mem_advance {stage : CutoverStage} {updatedAtMs : JsonNat}
    {c : ChannelCutoverSnapshot} (h : c ∈ (s.advance cutoverId stage updatedAtMs).rows) :
    ∃ c₀ ∈ s.cutovers.rows, c.cutoverId = c₀.cutoverId ∧ c.scope = c₀.scope ∧
      c.gatewayEpoch = c₀.gatewayEpoch ∧ c.startedAtMs = c₀.startedAtMs ∧
      ((c₀.cutoverId = cutoverId ∧ c.stage = stage ∧ c.updatedAtMs = updatedAtMs) ∨
        (c₀.cutoverId ≠ cutoverId ∧ c = c₀)) := by
  obtain ⟨c₀, hc₀, heq⟩ := mem_update.mp h
  by_cases hid : c₀.cutoverId = cutoverId
  · simp only [hid, decide_true, if_true] at heq
    subst heq
    exact ⟨c₀, hc₀, rfl, rfl, rfl, rfl, .inl ⟨hid, rfl, rfl⟩⟩
  · simp only [hid, decide_false, Bool.false_eq_true, if_false] at heq
    subst heq
    exact ⟨c, hc₀, rfl, rfl, rfl, rfl, .inr ⟨hid, rfl⟩⟩

lemma exists_advance {stage : CutoverStage} {updatedAtMs : JsonNat}
    {c₀ : ChannelCutoverSnapshot} (h : c₀ ∈ s.cutovers.rows) :
    ∃ c ∈ (s.advance cutoverId stage updatedAtMs).rows, c.cutoverId = c₀.cutoverId ∧
      c.startedAtMs = c₀.startedAtMs := by
  refine ⟨_, mem_update.mpr ⟨c₀, h, rfl⟩, ?_, ?_⟩
  · split <;> rfl
  · split <;> rfl

/-- A cutover that begins has no lease yet. -/
theorem Sound.begun (h : s.Sound)
    (hinsert : s.cutovers.Inserts snapshot s'.cutovers) (hleases : s'.leases = s.leases)
    (hstage : snapshot.stage = .draining) (htimes : snapshot.startedAtMs ≤ snapshot.updatedAtMs) :
    s'.Sound := by
  have hrows := hinsert.rows
  have hnone : s.leasesOf snapshot.cutoverId = [] := by
    refine eq_nil_iff_forall_not_mem.mpr fun r hr => ?_
    obtain ⟨hmem, hid⟩ := mem_leasesOf.mp hr
    obtain ⟨c, hc, hc', -⟩ := h.started r hmem
    exact find_eq_none.mp hinsert.fresh c hc (hc'.trans hid)
  have hcases : ∀ c ∈ s'.cutovers.rows, c ∈ s.cutovers.rows ∨ c = snapshot := by
    intro c hc
    rw [hrows] at hc
    simpa using hc
  refine ⟨fun c hc => ?_, fun r hr => ?_, fun c hc => ?_, fun c hc => ?_, fun c hc => ?_⟩
  · rcases hcases c hc with hold | rfl
    · exact h.times c hold
    · exact htimes
  · rw [hleases] at hr
    obtain ⟨c, hc, hrest⟩ := h.started r hr
    exact ⟨c, hrows ▸ mem_append_left _ hc, hrest⟩
  · rw [leasesOf_congr hleases]
    rcases hcases c hc with hold | rfl
    · exact h.chained c hold
    · rw [hnone]
      exact linked_nil
  · rw [leasesOf_congr hleases]
    rcases hcases c hc with hold | rfl
    · exact h.active c hold
    · rw [hnone]
      exact lastActive_nil
  · rw [leasesOf_congr hleases]
    rcases hcases c hc with hold | rfl
    · exact h.bound c hold
    · rw [hnone, hstage]
      rfl

/-- A drain goes on record before there is a lease. -/
theorem Sound.drained (h : s.Sound)
    (hmem : snapshot ∈ s.cutovers.rows) (hstage : snapshot.stage = .draining)
    {drain : DrainBinding} {observedAtMs : JsonNat} (hstarted : snapshot.startedAtMs ≤ observedAtMs)
    (hleases : s'.leases = s.leases)
    (hcutovers : s'.cutovers = s.advance snapshot.cutoverId (.drained drain) observedAtMs) :
    s'.Sound := by
  have hsame : ∀ {c₀ : ChannelCutoverSnapshot}, c₀ ∈ s.cutovers.rows →
      c₀.cutoverId = snapshot.cutoverId → c₀ = snapshot :=
    fun hc₀ hid => s.cutovers.eq_of_key_eq hc₀ hmem hid
  refine ⟨fun c hc => ?_, fun r hr => ?_, fun c hc => ?_, fun c hc => ?_, fun c hc => ?_⟩
  · rw [hcutovers] at hc
    obtain ⟨c₀, hc₀, -, -, -, hs, ⟨hid, -, hu⟩ | ⟨-, rfl⟩⟩ := mem_advance hc
    · rw [hs, hu, hsame hc₀ hid]
      exact hstarted
    · exact h.times _ hc₀
  · rw [hleases] at hr
    obtain ⟨c₀, hc₀, hid, hle⟩ := h.started r hr
    rw [hcutovers]
    obtain ⟨c, hc, hcid, hcs⟩ := exists_advance hc₀
    exact ⟨c, hc, hcid.trans hid, hcs ▸ hle⟩
  · rw [hcutovers] at hc
    obtain ⟨c₀, hc₀, hid, -⟩ := mem_advance hc
    rw [leasesOf_congr hleases, hid]
    exact h.chained c₀ hc₀
  · rw [hcutovers] at hc
    obtain ⟨c₀, hc₀, hid, -⟩ := mem_advance hc
    rw [leasesOf_congr hleases, hid]
    exact h.active c₀ hc₀
  · rw [hcutovers] at hc
    obtain ⟨c₀, hc₀, hcid, -, -, -, ⟨hid, hs, -⟩ | ⟨-, rfl⟩⟩ := mem_advance hc
    · have hbound := h.bound c₀ hc₀
      rw [hsame hc₀ hid, hstage] at hbound
      rw [leasesOf_congr hleases, hcid, hid, hs]
      exact hbound
    · rw [leasesOf_congr hleases]
      exact h.bound _ hc₀

section Issues

variable {lease : ChannelOwnershipLease} {current : Option LeaseRow}

/-- The row as it is when the lease is issued: the one that is continued is not active any more. -/
def replaced (current : Option LeaseRow) (r : LeaseRow) : LeaseRow :=
  if current.map LeaseRow.leaseId = some r.leaseId then r.deactivate else r

@[simp] theorem replaced_lease (r : LeaseRow) : (replaced current r).lease = r.lease := by
  unfold replaced
  split <;> rfl

lemma replaced_of_inactive {r : LeaseRow} (h : r.isActive = false) : replaced current r = r := by
  unfold replaced
  split
  · cases r
    cases h
    rfl
  · rfl

lemma Issues.leasesOf_self (h : s.Issues s' lease current) : s'.leasesOf lease.cutoverId =
    (s.leasesOf lease.cutoverId).map (replaced current) ++ [⟨lease, true⟩] := by
  have hkeep : ∀ r : LeaseRow, (replaced current r).cutoverId = r.cutoverId :=
    fun r => congrArg ChannelOwnershipLease.cutoverId (replaced_lease r)
  rw [leasesOf, h.rows, filter_append, leasesOf]
  congr 1
  · show List.filter _ (List.map (replaced current) _) = _
    rw [filter_map]
    congr 2
    funext r
    simp [hkeep]
  · simp [LeaseRow.cutoverId]

lemma Issues.leasesOf_other (h : s.Issues s' lease current) {cutoverId : Canon}
    (hne : cutoverId ≠ lease.cutoverId) : s'.leasesOf cutoverId = s.leasesOf cutoverId := by
  have hsame : ∀ r ∈ s.leases.rows, r.cutoverId = cutoverId → replaced current r = r := by
    intro r hr hid
    unfold replaced
    split
    · next heq =>
      obtain ⟨row, hcurrent, hkey⟩ := Option.map_eq_some_iff.mp heq
      obtain ⟨hrow, -⟩ := mem_of_activeLease (h.current_active row hcurrent)
      obtain ⟨hmem, hrowId⟩ := mem_leasesOf.mp hrow
      obtain rfl := s.leases.eq_of_key_eq hmem hr hkey
      exact absurd (hid.symm.trans hrowId) hne
    · rfl
  rw [leasesOf, h.rows, filter_append, leasesOf]
  have hnew : List.filter (fun r : LeaseRow => decide (r.cutoverId = cutoverId)) [⟨lease, true⟩] =
      [] := by
    simp [LeaseRow.cutoverId, hne.symm]
  rw [hnew, append_nil]
  show List.filter _ (List.map (replaced current) _) = _
  have hkeep : ∀ r : LeaseRow, (replaced current r).cutoverId = r.cutoverId :=
    fun r => congrArg ChannelOwnershipLease.cutoverId (replaced_lease r)
  rw [filter_map]
  have hfilter : (fun r : LeaseRow => decide (r.cutoverId = cutoverId)) ∘ replaced current =
      fun r => decide (r.cutoverId = cutoverId) := by
    funext r
    simp [hkeep]
  rw [hfilter]
  refine (map_congr_left fun r hr => ?_).trans (map_id _)
  simp only [mem_filter, decide_eq_true_eq] at hr
  exact hsame r hr.1 hr.2

lemma chained_map {rows : List LeaseRow} (h : Chained rows) :
    Chained (rows.map (replaced current)) := by
  refine (linked_map (fun r _ => ?_) fun r _ => ?_).mpr h
  · rw [replaced_lease]
  · rw [replaced_lease]

theorem Issues.continues (h : s.Issues s' lease current) (hs : s.Sound) :
    Chained (s'.leasesOf lease.cutoverId) ∧ LastActive (s'.leasesOf lease.cutoverId) := by
  obtain ⟨snapshot, hmem, hid, -, hnone⟩ := h.cutover
  rw [h.leasesOf_self]
  cases hcurrent : current with
  | none =>
    have hempty : s.leasesOf lease.cutoverId = [] := by
      have hbound := hs.bound snapshot hmem
      rw [hnone hcurrent, hid] at hbound
      exact hbound
    rw [hempty]
    refine ⟨⟨?_, trivial⟩, lastActive_iff.mpr ⟨rfl, by simp⟩⟩
    have hprevious := h.previous
    rwa [hcurrent] at hprevious
  | some row =>
    obtain ⟨hrow, hactive⟩ := mem_of_activeLease (h.current_active row hcurrent)
    rw [← hid] at hrow
    obtain ⟨front, hrows, -⟩ := hs.eq_last hmem hrow hactive
    have hchained := hs.chained snapshot hmem
    have hlast := hs.active snapshot hmem
    rw [hid] at hrows hchained hlast
    rw [hrows] at hchained hlast ⊢
    refine ⟨?_, lastActive_iff.mpr ⟨rfl, fun r hr => ?_⟩⟩
    · refine linked_concat.mpr ⟨chained_map hchained, ?_⟩
      rw [map_append, map_singleton, logEnd_concat, replaced_lease]
      have hprevious := h.previous
      rwa [hcurrent] at hprevious
    · rw [map_append, map_singleton] at hr
      rcases mem_append.mp hr with hfront | hreplaced
      · obtain ⟨r₀, hr₀, rfl⟩ := mem_map.mp hfront
        have hinactive := (lastActive_iff.mp hlast).2 r₀ hr₀
        rwa [replaced_of_inactive hinactive]
      · rw [mem_singleton.mp hreplaced, replaced, Option.map_some, if_pos rfl]
        rfl

/-- An issued lease keeps what holds of the store. -/
theorem Sound.issued (hs : s.Sound) (h : s.Issues s' lease current) : s'.Sound := by
  obtain ⟨drain, hcutovers⟩ := h.cutovers
  obtain ⟨snapshot, hmem, hid, hsince, -⟩ := h.cutover
  have hstart : snapshot.startedAtMs ≤ lease.issuedAtMs := by
    rcases hsince with hupdated | hstarted
    · exact le_trans (hs.times snapshot hmem) hupdated
    · exact hstarted
  have hsame : ∀ {c₀ : ChannelCutoverSnapshot}, c₀ ∈ s.cutovers.rows →
      c₀.cutoverId = lease.cutoverId → c₀ = snapshot :=
    fun hc₀ hcid => s.cutovers.eq_of_key_eq hc₀ hmem (hcid.trans hid.symm)
  refine ⟨fun c hc => ?_, fun r hr => ?_, fun c hc => ?_, fun c hc => ?_, fun c hc => ?_⟩
  · rw [hcutovers] at hc
    obtain ⟨c₀, hc₀, -, -, -, hs', ⟨hcid, -, hu⟩ | ⟨-, rfl⟩⟩ := mem_advance hc
    · rw [hs', hu, hsame hc₀ hcid]
      exact hstart
    · exact hs.times _ hc₀
  · rw [h.rows] at hr
    rw [hcutovers]
    rcases mem_append.mp hr with hold | hnew
    · obtain ⟨r₀, hr₀, rfl⟩ := mem_map.mp hold
      obtain ⟨c₀, hc₀, hcid, hle⟩ := hs.started r₀ hr₀
      obtain ⟨c, hc, hcid', hcs⟩ := exists_advance hc₀
      have hlease : (replaced current r₀).lease = r₀.lease := replaced_lease r₀
      refine ⟨c, hc, (hcid'.trans hcid).trans ?_, ?_⟩
      · exact (congrArg ChannelOwnershipLease.cutoverId hlease).symm
      · rw [hcs]
        exact hle.trans (le_of_eq (congrArg ChannelOwnershipLease.issuedAtMs hlease).symm)
    · obtain rfl := mem_singleton.mp hnew
      obtain ⟨c, hc, hcid, hcs⟩ := exists_advance hmem
      exact ⟨c, hc, hcid.trans hid, hcs ▸ hstart⟩
  · rw [hcutovers] at hc
    obtain ⟨c₀, hc₀, hcid, -⟩ := mem_advance hc
    rw [hcid]
    by_cases hself : c₀.cutoverId = lease.cutoverId
    · rw [hself]
      exact (h.continues hs).1
    · rw [h.leasesOf_other hself]
      exact hs.chained c₀ hc₀
  · rw [hcutovers] at hc
    obtain ⟨c₀, hc₀, hcid, -⟩ := mem_advance hc
    rw [hcid]
    by_cases hself : c₀.cutoverId = lease.cutoverId
    · rw [hself]
      exact (h.continues hs).2
    · rw [h.leasesOf_other hself]
      exact hs.active c₀ hc₀
  · rw [hcutovers] at hc
    obtain ⟨c₀, hc₀, hcid, -, -, -, ⟨hself, hstage, -⟩ | ⟨hself, rfl⟩⟩ := mem_advance hc
    · rw [hcid, hself, hstage, h.leasesOf_self]
      exact ⟨_, _, rfl, rfl⟩
    · rw [h.leasesOf_other hself]
      exact hs.bound _ hc₀

/-- No lease is issued once a later epoch has begun. -/
theorem Apart.issued (ha : s.Apart) (h : s.Issues s' lease current) : s'.Apart := by
  obtain ⟨drain, hcutovers⟩ := h.cutovers
  intro c hc r hr hscope hepoch
  rw [hcutovers] at hc
  obtain ⟨c₀, hc₀, -, hs₀, he₀, ht₀, -⟩ := mem_advance hc
  rw [h.rows] at hr
  rw [hs₀] at hscope
  rw [he₀] at hepoch
  rw [ht₀]
  rcases mem_append.mp hr with hold | hnew
  · obtain ⟨r₀, hr₀, rfl⟩ := mem_map.mp hold
    have hlease : (replaced current r₀).lease = r₀.lease := replaced_lease r₀
    change (replaced current r₀).lease.scope = c₀.scope at hscope
    change (replaced current r₀).lease.gatewayEpoch < c₀.gatewayEpoch at hepoch
    show (replaced current r₀).lease.expiresAtMs.val + _ ≤ _
    rw [hlease] at hscope hepoch ⊢
    exact ha c₀ hc₀ r₀ hr₀ hscope hepoch
  · obtain rfl := mem_singleton.mp hnew
    exact absurd ⟨c₀, hc₀, hscope.symm, hepoch⟩ h.notNewer

end Issues

/-- No replaced lease of an earlier epoch of the scope outlasts the start of a cutover. -/
def ReplacedExpired (s : ChannelStore) (snapshot : ChannelCutoverSnapshot) : Prop :=
  ∀ r ∈ s.leases.rows, r.isActive = false → r.lease.scope = snapshot.scope →
    r.lease.gatewayEpoch < snapshot.gatewayEpoch →
      r.lease.expiresAtMs.val + channelLeaseClockSkewMs ≤ snapshot.startedAtMs.val

/-- A cutover that begins waits for the active leases by its check, and for the replaced ones when
they have expired. -/
theorem Apart.begun (ha : s.Apart) (hs : s.Sound)
    (hinsert : s.cutovers.Inserts snapshot s'.cutovers) (hleases : s'.leases = s.leases)
    (hprior : ¬ s.PriorActive snapshot) (hreplaced : s.ReplacedExpired snapshot) : s'.Apart := by
  intro c hc r hr hscope hepoch
  rw [hleases] at hr
  rw [hinsert.rows] at hc
  rcases mem_append.mp hc with hold | hnew
  · exact ha c hold r hr hscope hepoch
  · obtain rfl := mem_singleton.mp hnew
    cases hactive : r.isActive with
    | false => exact hreplaced r hr hactive hscope hepoch
    | true =>
      by_contra hlate
      obtain ⟨c₀, hc₀, hid, -⟩ := hs.started r hr
      have hmem : r ∈ s.leasesOf c₀.cutoverId := mem_leasesOf.mpr ⟨hr, hid.symm⟩
      obtain ⟨-, -, hlease⟩ := hs.eq_last hc₀ hmem hactive
      obtain ⟨hscope₀, hepoch₀⟩ := deriveCutoverId_inj.mp hid
      refine hprior ⟨c₀, hc₀, hscope₀.trans hscope, ?_, r, hr, ?_, hactive, not_le.mp hlate⟩
      · rw [Fin.lt_def, hepoch₀]
        exact hepoch
      · rw [hlease]
        rfl

/-- Leases that were issued stay on record. -/
def Keeps (s s' : ChannelStore) : Prop :=
  ∀ r ∈ s.leases.rows, ∃ r' ∈ s'.leases.rows, r'.lease = r.lease

theorem Keeps.refl (s : ChannelStore) : s.Keeps s := fun r hr => ⟨r, hr, rfl⟩

theorem Keeps.of_leases (h : s'.leases = s.leases) : s.Keeps s' :=
  fun r hr => ⟨r, h ▸ hr, rfl⟩

theorem Issues.keeps {lease : ChannelOwnershipLease} {current : Option LeaseRow}
    (h : s.Issues s' lease current) : s.Keeps s' := by
  intro r hr
  refine ⟨replaced current r, ?_, replaced_lease r⟩
  rw [h.rows]
  exact mem_append_left _ (mem_map.mpr ⟨r, hr, rfl⟩)

end ChannelStore

end Tiangong.Cutover
