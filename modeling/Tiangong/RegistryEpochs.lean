import Tiangong.KeyedChains
import Tiangong.LifeRegistry

/-!
# Writer epochs over the history of a registry

Every call saves versions of the registry one after the other. From one version to the next the
epochs of the identities that stay bound only rise, and rise when an identity becomes active. An
identity that is bound again after it was removed starts at the first epoch.
-/
open List Option

namespace Tiangong

namespace LifeRegistry

variable {v v' : LifeRegistry}

/-- Only the active identity is marked as active, and epochs start at one. -/
structure Sound (v : LifeRegistry) : Prop where
  active : v.activeId = "" ∨ (v.bindings.lookup v.activeId).isSome
  rows : ∀ lifeId row, v.bindings.lookup lifeId = some row →
    LifeIdentityManager.isOrganismId lifeId = true ∧ 1 ≤ row.writerEpoch ∧
      (row.status = .active ↔ lifeId = v.activeId)

/-- What one version saves over another: an identity is bound, activated or removed, or only the
audit goes on. The identity that is bound is reported. -/
inductive Saves (v v' : LifeRegistry) : Option String → Prop
  | binds (lifeId : String) (row : IdentityBinding)
      (hid : LifeIdentityManager.isOrganismId lifeId = true)
      (hepoch : row.writerEpoch =
        if (v.epoch lifeId).getD 0 = 0 then 1 else (v.epoch lifeId).getD 0)
      (hstatus : row.status = if v.activeId = lifeId then .active else .dormant)
      (hlookup : ∀ k, v'.bindings.lookup k = if k = lifeId then some row else v.bindings.lookup k)
      (hactive : v'.activeId = v.activeId) : Saves v v' (some lifeId)
  | activates (lifeId : String) (hbound : (v.bindings.lookup lifeId).isSome)
      (hlookup : ∀ k, v'.bindings.lookup k = (v.bindings.lookup k).map
        (LifeIdentityManager.activatedRow v lifeId k))
      (hactive : v'.activeId = lifeId) : Saves v v' none
  | removes (lifeId : String) (hne : lifeId ≠ v.activeId)
      (hlookup : ∀ k, v'.bindings.lookup k = if k = lifeId then none else v.bindings.lookup k)
      (hactive : v'.activeId = v.activeId) : Saves v v' none
  | keeps (hlookup : ∀ k, v'.bindings.lookup k = v.bindings.lookup k)
      (hactive : v'.activeId = v.activeId) : Saves v v' none

theorem empty_sound (now : String) : (empty now).Sound where
  active := .inl rfl
  rows lifeId row h := by simp [empty] at h

lemma activatedRow_epoch_le (v : LifeRegistry) (lifeId k : String) (row : IdentityBinding) :
    row.writerEpoch ≤ (LifeIdentityManager.activatedRow v lifeId k row).writerEpoch := by
  show _ ≤ if _ then _ else _
  split
  · exact Nat.le_add_right _ _
  · exact le_rfl

variable {bound : Option String}

theorem Saves.sound (h : Saves v v' bound) (hv : v.Sound) : v'.Sound := by
  cases h with
  | binds lifeId row hid hepoch hstatus hlookup hactive =>
    refine ⟨?_, fun k row' hk => ?_⟩
    · rw [hactive, hlookup]
      rcases hv.active with hempty | hbound
      · exact .inl hempty
      · right
        split
        · rfl
        · exact hbound
    · rw [hlookup] at hk
      rw [hactive]
      by_cases heq : k = lifeId
      · subst heq
        rw [if_pos rfl, some.injEq] at hk
        subst hk
        refine ⟨hid, ?_, ?_⟩
        · rw [hepoch]
          split <;> omega
        · rw [hstatus]
          by_cases hsame : v.activeId = k
          · simp [hsame]
          · simp [hsame, Ne.symm hsame]
      · rw [if_neg heq] at hk
        exact hv.rows k row' hk
  | activates lifeId hbound hlookup hactive =>
    refine ⟨?_, fun k row hk => ?_⟩
    · right
      rw [hactive, hlookup, isSome_map]
      exact hbound
    · rw [hlookup, map_eq_some_iff] at hk
      obtain ⟨old, hold, rfl⟩ := hk
      obtain ⟨hid, hepoch, -⟩ := hv.rows k old hold
      refine ⟨hid, ?_, ?_⟩
      · exact hepoch.trans (activatedRow_epoch_le v lifeId k old)
      · rw [hactive]
        show (if k = lifeId then BindingStatus.active else .dormant) = _ ↔ _
        by_cases heq : k = lifeId <;> simp [heq]
  | removes lifeId hne hlookup hactive =>
    refine ⟨?_, fun k row hk => ?_⟩
    · rw [hactive, hlookup, if_neg (Ne.symm hne)]
      exact hv.active
    · rw [hlookup] at hk
      split at hk
      · cases hk
      · rw [hactive]
        exact hv.rows k row hk
  | keeps hlookup hactive =>
    refine ⟨?_, fun k row hk => ?_⟩
    · rw [hactive, hlookup]
      exact hv.active
    · rw [hlookup] at hk
      rw [hactive]
      exact hv.rows k row hk

/-- An identity that becomes active writes under the next epoch. -/
theorem Saves.activated (h : Saves v v' bound) (hne : v'.activeId ≠ v.activeId) :
    ∃ e, v.epoch v'.activeId = some e ∧ v'.epoch v'.activeId = some (e + 1) := by
  cases h with
  | binds _ _ _ _ _ _ hactive => exact absurd hactive hne
  | removes _ _ _ hactive => exact absurd hactive hne
  | keeps _ hactive => exact absurd hactive hne
  | activates lifeId hbound hlookup hactive =>
    obtain ⟨row, hrow⟩ := isSome_iff_exists.mp hbound
    rw [hactive] at hne
    refine ⟨row.writerEpoch, ?_, ?_⟩
    · rw [epoch, hactive, hrow]
      rfl
    · rw [epoch, hactive, hlookup, hrow]
      simp [LifeIdentityManager.activatedRow, Ne.symm hne]

/-- The active identity stays bound. -/
theorem Saves.kept (h : Saves v v' bound) (hactive : (v.bindings.lookup v.activeId).isSome) :
    (v'.bindings.lookup v.activeId).isSome := by
  cases h with
  | binds lifeId row _ _ _ hlookup _ =>
    rw [hlookup]
    split
    · rfl
    · exact hactive
  | activates lifeId _ hlookup _ =>
    rw [hlookup, isSome_map]
    exact hactive
  | removes lifeId hne hlookup _ =>
    rw [hlookup, if_neg (Ne.symm hne)]
    exact hactive
  | keeps hlookup _ =>
    rw [hlookup]
    exact hactive

/-- Epochs of identities that stay bound do not fall. -/
lemma Saves.epoch_le (h : Saves v v' bound) (hv : v.Sound) {k : String} {a b : ℕ}
    (ha : v.epoch k = some a) (hb : v'.epoch k = some b) : a ≤ b := by
  obtain ⟨row, hrow, rfl⟩ := map_eq_some_iff.mp ha
  obtain ⟨row', hrow', rfl⟩ := map_eq_some_iff.mp hb
  cases h with
  | binds lifeId new _ hepoch _ hlookup _ =>
    rw [hlookup] at hrow'
    by_cases heq : k = lifeId
    · subst heq
      rw [if_pos rfl, some.injEq] at hrow'
      subst hrow'
      rw [hepoch, epoch, hrow]
      have hpos := (hv.rows k row hrow).2.1
      simp only [map_some, getD_some]
      split <;> omega
    · rw [if_neg heq, hrow, some.injEq] at hrow'
      rw [hrow']
  | activates lifeId _ hlookup _ =>
    rw [hlookup, hrow, map_some, some.injEq] at hrow'
    rw [← hrow']
    exact activatedRow_epoch_le v lifeId k row
  | removes lifeId _ hlookup _ =>
    rw [hlookup] at hrow'
    split at hrow'
    · cases hrow'
    · rw [hrow, some.injEq] at hrow'
      rw [hrow']
  | keeps hlookup _ =>
    rw [hlookup, hrow, some.injEq] at hrow'
    rw [hrow']

/-- Only the identity that is bound comes new, and it comes with the first epoch. -/
lemma Saves.epoch_of_new (h : Saves v v' bound) {k : String} {b : ℕ} (ha : v.epoch k = none)
    (hb : v'.epoch k = some b) : bound = some k ∧ b = 1 := by
  have hnone : v.bindings.lookup k = none := map_eq_none_iff.mp ha
  obtain ⟨row, hrow, rfl⟩ := map_eq_some_iff.mp hb
  cases h with
  | binds lifeId new _ hepoch _ hlookup _ =>
    rw [hlookup] at hrow
    by_cases heq : k = lifeId
    · subst heq
      rw [if_pos rfl, some.injEq] at hrow
      subst hrow
      rw [hepoch, ha]
      exact ⟨rfl, rfl⟩
    · rw [if_neg heq, hnone] at hrow
      cases hrow
  | activates lifeId _ hlookup _ =>
    rw [hlookup, hnone] at hrow
    cases hrow
  | removes lifeId _ hlookup _ =>
    rw [hlookup, hnone] at hrow
    split at hrow <;> cases hrow
  | keeps hlookup _ =>
    rw [hlookup, hnone] at hrow
    cases hrow

lemma Saves.epoch_of_bound {lifeId : String} (h : Saves v v' (some lifeId))
    (hnone : v.epoch lifeId = none) : v'.epoch lifeId = some 1 := by
  cases h with
  | binds _ new _ hepoch _ hlookup _ =>
    rw [epoch, hlookup, if_pos rfl, map_some, hepoch, hnone]
    rfl

end LifeRegistry

/-- A history has grown by at most one version, which saved this. -/
def Grown (h h' : RegistryHistory) (bound : Option String) : Prop :=
  (h' = h ∧ bound = none) ∨ ∃ v', h' = h ++ [v'] ∧ v'.revision = (h.load "").revision + 1 ∧
      LifeRegistry.Saves (h.load "") v' bound

namespace LifeIdentityManager

variable {deviceId now : String} {h : RegistryHistory}

lemma load_same (now : String) (h : RegistryHistory) :
    (h.load now).bindings = (h.load "").bindings ∧ (h.load now).activeId = (h.load "").activeId ∧
      (h.load now).revision = (h.load "").revision := by
  unfold RegistryHistory.load
  cases h.getLast? <;> exact ⟨rfl, rfl, rfl⟩

lemma on_transaction {α : Type}
    (f : RegistryHistory → Except LifeCoreError (α × RegistryHistory)) :
    ((Call.transaction f).on h).2 = match f h with
      | .ok pair => pair.2
      | .error _ => h := by
  cases hf : f h with
  | error e => rw [Call.on_transaction_of_error hf]
  | ok pair => rw [Call.on_transaction_of_ok hf]

lemma acceptRoot_organismId {files : RootFiles} {identity : IdentityDocument}
    (haccept : acceptRoot files = .ok identity) : isOrganismId identity.organismId = true := by
  simp only [acceptRoot, verifyRoot, eq_ok_iff, not_or, Bool.not_eq_false] at haccept
  obtain ⟨_, ⟨-, _, -, ⟨-, hid⟩, -, -, -, rfl⟩, -, -, rfl⟩ := haccept
  exact hid

lemma bind_grown (files : RootFiles) (name actor : String) :
    Grown h ((bind deviceId now files name actor).on h).2
      ((acceptRoot files).toOption.map IdentityDocument.organismId) := by
  rw [bind, on_transaction]
  cases haccept : acceptRoot files with
  | error e => exact .inl ⟨rfl, rfl⟩
  | ok identity =>
    obtain ⟨hbindings, hactive, hrevision⟩ := load_same now h
    refine .inr ⟨_, rfl, ?_, ?_⟩
    · show (h.load now).revision + 1 = _
      rw [hrevision]
    · refine .binds identity.organismId
        (boundRow deviceId now (h.load now) files identity name) (acceptRoot_organismId haccept)
        ?_ ?_ ?_ hactive
      · show (if _ then 1 else _) = _
        rw [LifeRegistry.epoch, hbindings]
        cases (h.load "").bindings.lookup identity.organismId <;> rfl
      · rw [← hactive]
        rfl
      · intro k
        rw [← hbindings]
        exact Dict.lookup_insert_eq _ _ _ _

/-- A transaction that saves nothing about a new identity. -/
lemma grown_transaction {α : Type}
    {f : RegistryHistory → Except LifeCoreError (α × RegistryHistory)}
    (hf : ∀ a h', f h = .ok (a, h') → Grown h h' none) :
    Grown h ((Call.transaction f).on h).2 none := by
  rw [on_transaction]
  cases hanswer : f h with
  | error e => exact .inl ⟨rfl, rfl⟩
  | ok pair => exact hf pair.1 pair.2 hanswer

lemma activate_grown (lifeId actor : String) :
    Grown h ((activate now lifeId actor).on h).2 none := by
  refine grown_transaction fun row h' hanswer => ?_
  simp only [eq_pair_iff] at hanswer
  obtain ⟨row', hrow, -, rfl⟩ := hanswer
  obtain ⟨hbindings, hactive, hrevision⟩ := load_same now h
  have hrows : activatedRow (h.load "") lifeId = activatedRow (h.load now) lifeId := by
    funext k old
    rw [activatedRow, activatedRow, hactive]
  refine .inr ⟨_, rfl, ?_, .activates lifeId ?_ ?_ ?_⟩
  · rw [← hrevision]
    unfold withActive
    split <;> rfl
  · rw [← hbindings, hrow]
    rfl
  · intro k
    rw [← hbindings, hrows, ← Dict.lookup_mapValues]
    unfold withActive
    split <;> rfl
  · unfold withActive
    split <;> rfl

lemma unbind_grown (lifeId actor : String) : Grown h ((unbind now lifeId actor).on h).2 none := by
  refine grown_transaction fun found h' hanswer => ?_
  simp only [eq_pair_iff] at hanswer
  obtain ⟨hne, -, rfl⟩ := hanswer
  obtain ⟨hbindings, hactive, hrevision⟩ := load_same now h
  refine .inr ⟨_, rfl, ?_, .removes (stripText lifeId) (hactive ▸ hne) ?_ ?_⟩
  · rw [← hrevision]
    unfold withoutBinding
    cases (h.load now).bindings.lookup (stripText lifeId) <;> rfl
  · intro k
    rw [← hbindings, ← Dict.lookup_erase_eq]
    unfold withoutBinding
    cases (h.load now).bindings.lookup (stripText lifeId) <;> rfl
  · rw [← hactive]
    unfold withoutBinding
    cases (h.load now).bindings.lookup (stripText lifeId) <;> rfl

lemma delete_grown (lifeId actor : String) (disk : DeletedRoot) :
    Grown h ((delete now lifeId actor disk).on h).2 none := by
  refine grown_transaction fun u h' hanswer => ?_
  simp only [eq_pair_iff, true_and] at hanswer
  obtain ⟨binding, hbinding, hne, -, -, -, -, rfl⟩ := hanswer
  obtain ⟨hbindings, hactive, hrevision⟩ := load_same now h
  refine .inr ⟨_, rfl, ?_, .removes (stripText lifeId) (hactive ▸ hne) ?_ hactive⟩
  · rw [← hrevision]
    rfl
  · intro k
    rw [← hbindings, ← Dict.lookup_erase_eq]
    rfl

lemma auditCreated_grown (lifeId name actor : String) :
    Grown h ((auditCreated now lifeId name actor).on h).2 none := by
  refine grown_transaction fun u h' hanswer => ?_
  rw [pure_eq_ok, Prod.mk.injEq] at hanswer
  obtain ⟨-, rfl⟩ := hanswer
  obtain ⟨hbindings, hactive, hrevision⟩ := load_same now h
  refine .inr ⟨_, rfl, ?_, .keeps ?_ ?_⟩
  · simp [hrevision]
  · intro k
    simp [hbindings]
  · simp [hactive]

/-- The identity that a fresh directory is bound as, if it gets that far. -/
def CreatedRoot.binds (disk : CreatedRoot) (digits : String) : Option String :=
  match disk.present, disk.prepared with
  | false, .ok _ =>
    (acceptRoot (disk.rootFiles ("org_" ++ digits))).toOption.map IdentityDocument.organismId
  | _, _ => none

end LifeIdentityManager

/-- Later epochs are not below earlier ones. -/
def NotBelow (later earlier : ℕ) : Prop := earlier ≤ later

lemma notBelow_refl (a : ℕ) : NotBelow a a := Nat.le_refl a

lemma notBelow_trans (a b c : ℕ) (hcb : NotBelow c b) (hba : NotBelow b a) : NotBelow c a :=
  Nat.le_trans hba hcb

namespace RegistryHistory

/-- Every version is sound, and each saves something over the one before it. -/
structure Linked (h : RegistryHistory) : Prop where
  sound : ∀ v ∈ h, v.Sound
  saves : (LifeRegistry.empty "" :: h).IsChain fun v v' =>
    v'.revision = v.revision + 1 ∧ ∃ bound, LifeRegistry.Saves v v' bound

def lastEpoch (h : RegistryHistory) (lifeId : String) : Option ℕ :=
  lastCarried LifeRegistry.epoch lifeId h

/-- An identity that is bound now without being bound yet was never active before. -/
def BindsAnew (h : RegistryHistory) (bound : Option String) : Prop :=
  ∀ lifeId ∈ bound, (h.load "").epoch lifeId = none → ∀ e, h.lastEpoch lifeId = some e → e ≤ 1

/-- Epochs that come back are not below those that were recorded last. -/
def Orderly (h : RegistryHistory) : Prop :=
  ∀ pre v post, h = pre ++ v :: post → ReturnsInOrder LifeRegistry.epoch NotBelow pre v

variable {h h' : RegistryHistory} {v : LifeRegistry} {bound : Option String}

lemma orderly_concat : Orderly (h ++ [v]) ↔
    Orderly h ∧ ReturnsInOrder LifeRegistry.epoch NotBelow h v := by
  constructor
  · intro hall
    exact ⟨fun pre w post heq => hall pre w (post ++ [v]) (by simp [heq]), hall h v [] rfl⟩
  · rintro ⟨hold, hnew⟩ pre w post heq
    rcases eq_nil_or_concat post with rfl | ⟨post', last, rfl⟩
    · obtain ⟨rfl, hlast⟩ := append_inj' heq rfl
      cases hlast
      exact hnew
    · have heq' : h ++ [v] = (pre ++ w :: post') ++ [last] := by simp [heq]
      obtain ⟨hpre, -⟩ := append_inj' heq' rfl
      exact hold pre w post' hpre

theorem linked_nil : Linked [] where
  sound v hv := by cases hv
  saves := .singleton _

lemma load_eq (h : RegistryHistory) :
    some (h.load "") = (LifeRegistry.empty "" :: h).getLast? := by
  rw [load, List.getLast?_cons]

lemma Linked.load_sound (hlinked : h.Linked) : (h.load "").Sound := by
  rw [load]
  cases hlast : h.getLast? with
  | none => exact LifeRegistry.empty_sound ""
  | some v => exact hlinked.sound v (mem_of_getLast? hlast)

theorem Linked.grown (hlinked : h.Linked) (hgrown : Grown h h' bound) : h'.Linked := by
  rcases hgrown with ⟨rfl, -⟩ | ⟨v', rfl, hrevision, hsaves⟩
  · exact hlinked
  · refine ⟨fun v hv => ?_, ?_⟩
    · rcases mem_append.mp hv with hold | hnew
      · exact hlinked.sound v hold
      · rw [mem_singleton] at hnew
        subst hnew
        exact hsaves.sound hlinked.load_sound
    · rw [← cons_append, isChain_append]
      refine ⟨hlinked.saves, List.IsChain.singleton _, fun x hx y hy => ?_⟩
      rw [← load_eq, mem_def, some.injEq] at hx
      rw [List.head?_singleton, mem_def, some.injEq] at hy
      subst hx hy
      exact ⟨hrevision, bound, hsaves⟩

lemma load_epoch (h : RegistryHistory) (k : String) :
    (h.load "").epoch k = h.getLast?.bind fun v => v.epoch k := by
  rw [load]
  cases h.getLast? <;> rfl

/-- The history stays orderly exactly when no removed identity that was active is bound again. -/
lemma Linked.orderly_grown (hgrown : Grown h h' bound) :
    Orderly h' ↔ Orderly h ∧ h.BindsAnew bound := by
  rcases hgrown with ⟨rfl, rfl⟩ | ⟨v', rfl, -, hsaves⟩
  · simp [BindsAnew]
  · rw [orderly_concat]
    apply and_congr_right'
    constructor
    · intro hreturns lifeId hbound hnone e he
      cases mem_def.mp hbound
      have hepoch := hsaves.epoch_of_bound hnone
      exact hreturns lifeId e 1 hepoch (load_epoch h lifeId ▸ hnone) he
    · intro hanew k a b hb hnone ha
      rw [← load_epoch] at hnone
      obtain ⟨hbound, rfl⟩ := hsaves.epoch_of_new hnone hb
      exact hanew k hbound hnone a ha

end RegistryHistory

namespace LifeOp

/-- The identity that a call binds, if it gets that far. -/
def binds : LifeOp → Option String
  | create _ digits _ _ disk => disk.binds digits
  | bind _ _ _ files =>
    (LifeIdentityManager.acceptRoot files).toOption.map IdentityDocument.organismId
  | _ => none

variable {deviceId now : String} {h : RegistryHistory}

lemma grown_refl (h : RegistryHistory) : Grown h h none := .inl ⟨rfl, rfl⟩

/-- A creation whose directory is ready: the binding, and two more versions at most. -/
lemma created_grown (lifeId name actor : String) (files : RootFiles) :
    ∃ t u, Grown h t ((LifeIdentityManager.acceptRoot files).toOption.map
        IdentityDocument.organismId) ∧ Grown t u none ∧
      Grown u (Call.on (do
        let _ ← LifeIdentityManager.bind deviceId now files name actor
        let _ ← LifeIdentityManager.activate now lifeId actor
        LifeIdentityManager.auditCreated now lifeId name actor
        LifeIdentityManager.active now) h).2 none := by
  have hbind := @LifeIdentityManager.bind_grown deviceId now h files name actor
  rw [Call.on_bind]
  rcases hfirst : (LifeIdentityManager.bind deviceId now files name actor).on h with ⟨e | row, t⟩
  · rw [hfirst] at hbind
    exact ⟨t, t, hbind, grown_refl t, grown_refl t⟩
  · rw [hfirst] at hbind
    have hactivate := @LifeIdentityManager.activate_grown now t lifeId actor
    dsimp only
    rw [Call.on_bind]
    rcases hsecond : (LifeIdentityManager.activate now lifeId actor).on t with ⟨e | row', u⟩
    · rw [hsecond] at hactivate
      exact ⟨t, u, hbind, hactivate, grown_refl u⟩
    · rw [hsecond] at hactivate
      have haudit := @LifeIdentityManager.auditCreated_grown now u lifeId name actor
      dsimp only
      rw [Call.on_bind]
      rcases hthird : (LifeIdentityManager.auditCreated now lifeId name actor).on u
        with ⟨e | _, w⟩
      · rw [hthird] at haudit
        exact ⟨t, u, hbind, hactivate, haudit⟩
      · rw [hthird] at haudit
        exact ⟨t, u, hbind, hactivate, haudit⟩

lemma create_grown (digits name actor : String) (disk : LifeIdentityManager.CreatedRoot) :
    ∃ t u, Grown h t (disk.binds digits) ∧ Grown t u none ∧
      Grown u ((LifeIdentityManager.create deviceId now digits name actor disk).on h).2 none := by
  unfold LifeIdentityManager.create LifeIdentityManager.CreatedRoot.binds
  rw [Call.on_bind, Call.on_query]
  cases hpresent : disk.present with
  | true => exact ⟨h, h, grown_refl h, grown_refl h, grown_refl h⟩
  | false =>
    rw [rejectIf_of_not _ (by simp)]
    dsimp only
    rw [Call.on_bind, Call.on_query]
    cases hprepared : disk.prepared with
    | error e => exact ⟨h, h, grown_refl h, grown_refl h, grown_refl h⟩
    | ok u => exact created_grown _ _ _ _

/-- Every call saves three versions at most, and binds in the first one only. -/
theorem grown (op : LifeOp) : ∃ t u, Grown h t op.binds ∧ Grown t u none ∧
      Grown u ((lifeMachine deviceId).step h op).1 none := by
  cases op with
  | create now digits name actor disk =>
    show ∃ t u, _ ∧ _ ∧ Grown u (Call.on (_ <$> _) h).2 none
    rw [Call.on_map]
    exact create_grown digits name actor disk
  | bind now name actor files =>
    show ∃ t u, _ ∧ _ ∧ Grown u (Call.on (_ <$> _) h).2 none
    rw [Call.on_map]
    exact ⟨_, _, LifeIdentityManager.bind_grown files name actor, grown_refl _, grown_refl _⟩
  | activate now lifeId actor =>
    show ∃ t u, _ ∧ _ ∧ Grown u (Call.on (_ <$> _) h).2 none
    rw [Call.on_map]
    exact ⟨_, _, grown_refl _, grown_refl _, LifeIdentityManager.activate_grown lifeId actor⟩
  | unbind now lifeId actor =>
    show ∃ t u, _ ∧ _ ∧ Grown u (Call.on (_ <$> _) h).2 none
    rw [Call.on_map]
    exact ⟨_, _, grown_refl _, grown_refl _, LifeIdentityManager.unbind_grown lifeId actor⟩
  | delete now lifeId actor disk =>
    show ∃ t u, _ ∧ _ ∧ Grown u (Call.on (_ <$> _) h).2 none
    rw [Call.on_map]
    exact ⟨_, _, grown_refl _, grown_refl _, LifeIdentityManager.delete_grown lifeId actor disk⟩

end LifeOp

namespace RegistryHistory

/-- Writers are fenced: at most one identity is active, it is not removed, and the epochs over the
whole history only rise. -/
structure Fenced (h : RegistryHistory) : Prop where
  active : ∀ v ∈ h, v.activeId = "" ∨ (v.bindings.lookup v.activeId).isSome
  status : ∀ v ∈ h, ∀ lifeId row, v.bindings.lookup lifeId = some row →
    (row.status = .active ↔ lifeId = v.activeId)
  kept : ∀ pre v v' post, h = pre ++ v :: v' :: post → v.activeId ≠ "" →
    (v'.bindings.lookup v.activeId).isSome
  revision : ∀ i v, h[i]? = some v → v.revision = i + 1
  notBelow : h.Pairwise fun v v' => ∀ lifeId a b, v.epoch lifeId = some a →
    v'.epoch lifeId = some b → a ≤ b
  rises : ∀ pre v v' post, h = pre ++ v :: v' :: post → v'.activeId ≠ v.activeId →
    ∃ e, v'.epoch v'.activeId = some e ∧ ∀ w ∈ pre ++ [v], ∀ a, w.epoch v'.activeId = some a → a < e

variable {h : RegistryHistory}

/-- Neighbours in a history are one saving apart. -/
lemma Linked.saves_of_adjacent (hlinked : h.Linked) {pre post : RegistryHistory}
    {v v' : LifeRegistry} (heq : h = pre ++ v :: v' :: post) :
    ∃ bound, LifeRegistry.Saves v v' bound := by
  have hchain := hlinked.saves
  rw [heq, ← cons_append, isChain_append_cons_cons] at hchain
  exact hchain.2.1.2

lemma Linked.revision_eq (hlinked : h.Linked) (i : ℕ) (v : LifeRegistry)
    (hv : h[i]? = some v) : v.revision = i + 1 := by
  refine carries_of_isChain (P := fun n w => w.revision = n) hlinked.saves (Nat.zero_le (i + 1))
    ?_ ?_ v ?_
  · intro x hx
    cases hx
    rfl
  · intro n x y _ _ _ _ hsaves hx
    rw [hsaves.1, hx]
  · rwa [List.getElem?_cons_succ]

lemma Linked.chain_notBelow (hlinked : h.Linked) :
    h.IsChain (CommonKeys LifeRegistry.epoch NotBelow) := by
  refine hlinked.saves.tail.imp_of_mem_imp fun v v' hv _ hsaves k a b ha hb => ?_
  obtain ⟨-, bound, hsaves⟩ := hsaves
  exact hsaves.epoch_le (hlinked.sound v hv) ha hb

lemma Linked.pairwise_iff (hlinked : h.Linked) :
    h.Pairwise (CommonKeys LifeRegistry.epoch NotBelow) ↔ h.Orderly :=
  pairwise_commonKeys_iff notBelow_refl notBelow_trans hlinked.chain_notBelow

/-- All but the epochs of removed identities is fenced in any history of savings. -/
lemma Linked.fenced_iff (hlinked : h.Linked) : h.Fenced ↔ h.Orderly := by
  rw [← hlinked.pairwise_iff]
  constructor
  · intro hfenced
    exact hfenced.notBelow
  · intro hpairs
    refine ⟨fun v hv => (hlinked.sound v hv).active, fun v hv k row hrow =>
      ((hlinked.sound v hv).rows k row hrow).2.2, ?_, hlinked.revision_eq, hpairs, ?_⟩
    · intro pre v v' post heq hne
      obtain ⟨bound, hsaves⟩ := hlinked.saves_of_adjacent heq
      have hv : v ∈ h := by simp [heq]
      exact hsaves.kept ((hlinked.sound v hv).active.resolve_left hne)
    · intro pre v v' post heq hne
      obtain ⟨bound, hsaves⟩ := hlinked.saves_of_adjacent heq
      obtain ⟨e, hbefore, hafter⟩ := hsaves.activated hne
      refine ⟨e + 1, hafter, fun w hw a ha => ?_⟩
      have hle : a ≤ e := by
        rcases mem_append.mp hw with hpre | hlast
        · rw [heq, pairwise_append] at hpairs
          exact hpairs.2.2 w hpre v mem_cons_self _ a e ha hbefore
        · rw [mem_singleton] at hlast
          subst hlast
          rw [hbefore, some.injEq] at ha
          omega
      omega

end RegistryHistory

section Runs

variable (deviceId : String) (ops : List LifeOp)

/-- The history that a sequence of calls leaves. -/
def registryAfter : RegistryHistory := (lifeMachine deviceId).exec [] ops

lemma registryAfter_concat (op : LifeOp) : registryAfter deviceId (ops ++ [op]) =
    ((lifeMachine deviceId).step (registryAfter deviceId ops) op).1 :=
  Machine.exec_concat _ _ _ _

lemma registryAfter_linked : (registryAfter deviceId ops).Linked := by
  induction ops using List.reverseRecOn with
  | nil => exact RegistryHistory.linked_nil
  | append_singleton ops op ih =>
    rw [registryAfter_concat]
    obtain ⟨t, u, hbinds, hmore, hlast⟩ :=
      @LifeOp.grown deviceId (registryAfter deviceId ops) op
    exact ((ih.grown hbinds).grown hmore).grown hlast

/-- The history is orderly as long as every call binds anew. -/
lemma registryAfter_orderly_iff : (registryAfter deviceId ops).Orderly ↔
    (lifeMachine deviceId).Steps (fun h op => h.BindsAnew op.binds) [] ops := by
  induction ops using List.reverseRecOn with
  | nil =>
    refine iff_of_true ?_ trivial
    intro pre v post heq
    exact absurd heq (by simp [registryAfter])
  | append_singleton ops op ih =>
    obtain ⟨t, u, hbinds, hmore, hlast⟩ :=
      @LifeOp.grown deviceId (registryAfter deviceId ops) op
    have hlinked := registryAfter_linked deviceId ops
    have hnone : ∀ g : RegistryHistory, g.BindsAnew none := fun g lifeId hmem => by cases hmem
    rw [Machine.steps_append, ← ih, registryAfter_concat]
    rw [RegistryHistory.Linked.orderly_grown hlast, RegistryHistory.Linked.orderly_grown hmore,
      RegistryHistory.Linked.orderly_grown hbinds]
    simp only [hnone, and_true, Machine.steps_cons, Machine.steps_nil]
    rfl

end Runs

/-- Every version has the active identity alone marked as active and is one change away from the one
before it. Later calls add versions. -/
theorem registry_versions (deviceId : String) (ops later : List LifeOp) :
    (registryAfter deviceId ops).Linked ∧
      registryAfter deviceId ops <+: registryAfter deviceId (ops ++ later) := by
  have hadds : ∀ {h h' bound}, Grown h h' bound → h <+: h' := by
    rintro h h' bound (⟨rfl, -⟩ | ⟨v, rfl, -⟩)
    · exact prefix_rfl
    · exact prefix_append h [v]
  refine ⟨registryAfter_linked deviceId ops, ?_⟩
  induction later using List.reverseRecOn with
  | nil => simp
  | append_singleton later op ih =>
    rw [← append_assoc, registryAfter_concat]
    obtain ⟨t, u, hbinds, hmore, hlast⟩ :=
      @LifeOp.grown deviceId (registryAfter deviceId (ops ++ later)) op
    exact ih.trans ((hadds hbinds).trans ((hadds hmore).trans (hadds hlast)))

/-- Writers are fenced exactly as long as no identity that was active and then removed is bound
again: its binding starts at the first epoch. -/
theorem registry_fenced_iff (deviceId : String) (ops : List LifeOp) :
    (registryAfter deviceId ops).Fenced ↔
      (lifeMachine deviceId).Steps (fun h op => h.BindsAnew op.binds) [] ops := by
  rw [(registryAfter_linked deviceId ops).fenced_iff, registryAfter_orderly_iff]

/-- The files of an identity whose directory is in order. -/
def soundFiles (lifeId : String) : RootFiles :=
  { root := "/lives/" ++ lifeId
    name := lifeId
    present := true
    signed := .ok ⟨LifeIdentityManager.identitySchema, lifeId, "", "key"⟩
    privateKey := .belongs
    temperament := .ok () }

/-- Two identities are created, and the first one is unbound and bound again. -/
def reboundCalls : List LifeOp :=
  [.create "t0" "a" "Ada" "user" ⟨false, .ok (), soundFiles "org_a"⟩,
    .create "t1" "b" "Bob" "user" ⟨false, .ok (), soundFiles "org_b"⟩,
    .unbind "t2" "org_a" "user", .bind "t3" "Ada" "user" (soundFiles "org_a")]

/-- The identity that is bound again writes under the epoch one after two. -/
theorem rebound_not_fenced : ¬ (registryAfter "device" reboundCalls).Fenced := by
  intro hfenced
  have hbefore : ((registryAfter "device" reboundCalls)[3]?.bind fun v => v.epoch "org_a") =
      some 2 := by decide
  have hafter : ((registryAfter "device" reboundCalls)[7]?.bind fun v => v.epoch "org_a") =
      some 1 := by decide
  obtain ⟨v, hv, hepoch⟩ := bind_eq_some_iff.mp hbefore
  obtain ⟨v', hv', hepoch'⟩ := bind_eq_some_iff.mp hafter
  obtain ⟨hlt, rfl⟩ := List.getElem?_eq_some_iff.mp hv
  obtain ⟨hlt', rfl⟩ := List.getElem?_eq_some_iff.mp hv'
  have hle := pairwise_iff_getElem.mp hfenced.notBelow 3 7 hlt hlt' (by omega)
    "org_a" 2 1 hepoch hepoch'
  omega

end Tiangong
