import Tiangong.ChannelContracts

/-!
# Reply routes and resources of Feishu

The ledger behind replies and downloads. The protector gives back the payload that it was given, so
a row holds its payload; the digests of the payload and of the row are functions of the row.
-/
namespace Tiangong.Communication

open Table

structure FeishuReplyRoute where
  chatId : PyStr
  messageId : PyStr
  rootId : Option PyStr
  parentId : Option PyStr
  threadId : Option PyStr
  senderOpenId : Option PyStr
  deriving DecidableEq

/-- A row of `feishu_routes`. -/
structure FeishuRouteRow where
  tenantId : OpaqueId
  linkAccountId : OpaqueId
  conversationScopeHash : Canon
  route : FeishuReplyRoute
  updatedAtMs : ℕ
  deriving DecidableEq

inductive FeishuResourceType where
  | image | file
  deriving DecidableEq, Repr

def FeishuResourceType.canon : FeishuResourceType → Canon
  | .image => .text "image"
  | .file => .text "file"

/-- What a resource row protects. -/
structure FeishuProtectedResource where
  messageId : PyStr
  resourceType : FeishuResourceType
  resourceKey : PyStr
  filename : Option PyStr
  sourceMessageRef : Canon
  deriving DecidableEq

/-- A row of `feishu_resources`. -/
structure FeishuResourceRow where
  tenantId : OpaqueId
  linkAccountId : OpaqueId
  conversationScopeHash : Canon
  resource : FeishuProtectedResource
  createdAtMs : ℕ
  deriving DecidableEq

/-- `derive_feishu_route_key`. -/
def feishuRouteKey (tenantId linkAccountId : OpaqueId) (conversationScopeHash : Canon) : Canon :=
  .sha256 <| .ofList [.text "tiangong.communication.feishu-route.v1", .str tenantId.1,
    .str linkAccountId.1, conversationScopeHash]

/-- `derive_feishu_resource_id`. -/
def feishuResourceId (tenantId linkAccountId : OpaqueId)
    (conversationScopeHash sourceMessageRef : Canon) (resourceType : FeishuResourceType)
    (resourceKey : PyStr) : Canon :=
  .ident "fsres_" <| .ofList [.text "tiangong.communication.feishu-resource.v1", .str tenantId.1,
    .str linkAccountId.1, conversationScopeHash, sourceMessageRef, resourceType.canon,
    textSha256 resourceKey]

def FeishuRouteRow.routeKey (r : FeishuRouteRow) : Canon :=
  feishuRouteKey r.tenantId r.linkAccountId r.conversationScopeHash

def FeishuResourceRow.resourceId (r : FeishuResourceRow) : Canon :=
  feishuResourceId r.tenantId r.linkAccountId r.conversationScopeHash r.resource.sourceMessageRef
    r.resource.resourceType r.resource.resourceKey

/-- The row with the payload and the time of another. -/
def FeishuRouteRow.rewritten (row r : FeishuRouteRow) : FeishuRouteRow :=
  { r with route := row.route, updatedAtMs := row.updatedAtMs }

lemma FeishuRouteRow.routeKey_rewritten (row r : FeishuRouteRow) :
    (row.rewritten r).routeKey = r.routeKey := rfl

structure FeishuRoutes where
  routes : Table FeishuRouteRow.routeKey
  resources : Table FeishuResourceRow.resourceId

namespace FeishuRoutes

def empty : FeishuRoutes := ⟨.empty, .empty⟩

/-- `_safe`: the checked text; an empty one is none. -/
def safe (name : String) (value : Option PyStr) : Except ChannelError (Option PyStr) :=
  match value with
  | none | some [] => .ok none
  | some text =>
    if text ≠ text.strip ∨ text.hasNul = true then .error ⟨.value, "Feishu " ++ name ++ " is invalid"⟩
    else if ¬ text.Encodable then .error ⟨.unicodeEncode, "surrogates not allowed"⟩
    else if 2048 < text.utf8Length then .error ⟨.value, "Feishu " ++ name ++ " is too long"⟩
    else .ok (some text)

def safeRequired (name : String) (value : PyStr) : Except ChannelError PyStr := do
  let checked ← safe name (some value)
  required checked ⟨.value, "Feishu " ++ name ++ " is required"⟩

lemma safeRequired_eq {name : String} {value checked : PyStr}
    (h : safeRequired name value = .ok checked) : checked = value := by
  simp only [safeRequired, eq_ok_iff] at h
  obtain ⟨found, hsafe, rfl⟩ := h
  unfold safe at hsafe
  split at hsafe
  · cases hsafe
  · cases hsafe
  · next text _ htext =>
    cases htext
    split at hsafe
    · cases hsafe
    · split at hsafe
      · cases hsafe
      · split at hsafe
        · cases hsafe
        · cases hsafe
          rfl

/-- A route as the processor observes it. -/
structure Upsert where
  tenantId : OpaqueId
  linkAccountId : OpaqueId
  conversationScopeHash : Canon
  route : FeishuReplyRoute
  observedAtMs : ℕ
  deriving DecidableEq

def safeRoute (r : FeishuReplyRoute) : Except ChannelError FeishuReplyRoute := do
  let chatId ← safeRequired "chat_id" r.chatId
  let messageId ← safeRequired "message_id" r.messageId
  let rootId ← safe "root_id" r.rootId
  let parentId ← safe "parent_id" r.parentId
  let threadId ← safe "thread_id" r.threadId
  let senderOpenId ← safe "sender_open_id" r.senderOpenId
  pure ⟨chatId, messageId, rootId, parentId, threadId, senderOpenId⟩

/-- The row of a route, inserted or with its payload and time rewritten. -/
def writeRoute (row : FeishuRouteRow) (routes : Table FeishuRouteRow.routeKey) :
    Except ChannelError (Table FeishuRouteRow.routeKey) :=
  match routes.find row.routeKey with
  | none => routes.insert ⟨.integrity, "feishu_routes.route_key"⟩ row
  | some _ =>
    .ok (routes.update (fun r => r.routeKey = row.routeKey) row.rewritten row.routeKey_rewritten)

/-- The conflicts of a route with the one it replaces. -/
def checkPrevious (route : FeishuReplyRoute) (observedAtMs : ℕ) (previous : Option FeishuRouteRow) :
    Except ChannelError Unit :=
  match previous with
  | none => .ok ()
  | some row => do
    rejectIf (row.route.chatId ≠ route.chatId) ⟨.routeConflict, "Feishu route chat changed"⟩
    rejectIf (observedAtMs < row.updatedAtMs)
      ⟨.routeConflict, "Feishu route update is out of order"⟩

def upsert (u : Upsert) (s : FeishuRoutes) : Except ChannelError (Canon × FeishuRoutes) := do
  let route ← safeRoute u.route
  let row : FeishuRouteRow :=
    ⟨u.tenantId, u.linkAccountId, u.conversationScopeHash, route, u.observedAtMs⟩
  checkPrevious route u.observedAtMs (s.routes.find row.routeKey)
  let routes ← writeRoute row s.routes
  pure (row.routeKey, { s with routes })

/-- The arguments of `register_resource`. The scope hash and the message reference are digests,
which pass their checks. -/
structure Registration where
  tenantId : OpaqueId
  linkAccountId : OpaqueId
  conversationScopeHash : Canon
  sourceMessageRef : Canon
  messageId : PyStr
  resourceType : FeishuResourceType
  resourceKey : PyStr
  filename : Option PyStr
  createdAtMs : ℕ
  deriving DecidableEq

def Registration.resourceId (r : Registration) : Canon :=
  feishuResourceId r.tenantId r.linkAccountId r.conversationScopeHash r.sourceMessageRef
    r.resourceType r.resourceKey

/-- `register_resource`: the identifier of the resource. A row that is already there is compared
through `old.model_copy`, which is a method of models; the class of the rows is a dataclass. -/
def registerResource (r : Registration) (s : FeishuRoutes) :
    Except ChannelError (Canon × FeishuRoutes) := do
  let _ ← safeRequired "tenant_id" r.tenantId.1
  let _ ← safeRequired "link_account_id" r.linkAccountId.1
  let messageId ← safeRequired "message_id" r.messageId
  let resourceKey ← safeRequired "resource_key" r.resourceKey
  let cleanFilename ← safe "filename" r.filename
  match s.resources.find r.resourceId with
  | some _ =>
    .error ⟨.attribute, "'FeishuProtectedResource' object has no attribute 'model_copy'"⟩
  | none =>
    let resources ← s.resources.insert ⟨.integrity, "feishu_resources.resource_id"⟩
      ⟨r.tenantId, r.linkAccountId, r.conversationScopeHash,
        ⟨messageId, r.resourceType, resourceKey, cleanFilename, r.sourceMessageRef⟩,
        r.createdAtMs⟩
    pure (r.resourceId, { s with resources })

section Routes

variable {row row' : FeishuRouteRow} {routes routes' : Table FeishuRouteRow.routeKey}

/-- The written row carries the route and its time. -/
lemma find_writeRoute (h : writeRoute row routes = .ok routes') :
    ∃ r, routes'.find row.routeKey = some r ∧ r.route = row.route ∧
      r.updatedAtMs = row.updatedAtMs := by
  unfold writeRoute at h
  split at h
  · next hnone =>
    have hins := insert_eq_ok.mp h
    exact ⟨row, by rw [hins.find, if_pos rfl], rfl, rfl⟩
  · next old hold =>
    cases h
    rw [find_update, hold, Option.map_some]
    have hkey : old.routeKey = row.routeKey := key_of_find hold
    exact ⟨_, rfl, by simp [hkey, FeishuRouteRow.rewritten],
      by simp [hkey, FeishuRouteRow.rewritten]⟩

lemma writeRoute_twice (h : writeRoute row routes = .ok routes')
    (hkey : row.tenantId = row'.tenantId ∧ row.linkAccountId = row'.linkAccountId ∧
      row.conversationScopeHash = row'.conversationScopeHash) :
    writeRoute row' routes' = writeRoute row' routes := by
  have hroute : row.routeKey = row'.routeKey := by
    obtain ⟨htenant, haccount, hconversation⟩ := hkey
    simp only [FeishuRouteRow.routeKey, htenant, haccount, hconversation]
  obtain ⟨r, hr, -, -⟩ := find_writeRoute h
  rw [hroute] at hr
  unfold writeRoute at h ⊢
  rw [hr, ← hroute]
  cases hfind : routes.find row.routeKey with
  | none =>
    rw [hfind] at h
    have hins := insert_eq_ok.mp h
    have hfresh : ∀ s ∈ routes.rows, s.routeKey ≠ row.routeKey := find_eq_none.mp hfind
    dsimp only
    symm
    rw [insert_eq_ok]
    refine ⟨by rw [← hroute, hfind], ?_⟩
    rw [update_rows, hins.rows, List.map_append, List.map_singleton]
    congr 1
    · rw [List.map_congr_left (g := id), List.map_id]
      intro s hs
      simp [hfresh s hs]
    · obtain ⟨htenant, haccount, hconversation⟩ := hkey
      simp [FeishuRouteRow.rewritten, htenant, haccount, hconversation]
  | some old =>
    rw [hfind] at h
    cases h
    dsimp only
    congr 1
    apply ext_rows
    simp only [update_rows, List.map_map]
    refine List.map_congr_left fun s _ => ?_
    by_cases hs : s.routeKey = row.routeKey
    · simp only [Function.comp_apply, hs, decide_true, if_true]
      rw [if_pos (by rw [row.routeKey_rewritten, hs, decide_eq_true rfl])]
      rfl
    · simp [Function.comp_apply, hs]

end Routes

variable {s s' : FeishuRoutes}

theorem resources_of_upsert {u : Upsert} {key : Canon} (h : upsert u s = .ok (key, s')) :
    s'.resources = s.resources := by
  simp only [upsert, eq_pair_iff] at h
  obtain ⟨-, -, -, -, -, -, -, rfl⟩ := h
  rfl

/-- A route that is observed again later is written as if it were observed only then. -/
theorem upsert_twice {u : Upsert} {earlier : ℕ} {key key' : Canon} {t : FeishuRoutes}
    (hearlier : earlier ≤ u.observedAtMs)
    (hfirst : upsert { u with observedAtMs := earlier } s = .ok (key, s'))
    (hagain : upsert u s = .ok (key', t)) : upsert u s' = .ok (key', t) := by
  simp only [upsert, bind_eq_ok, pure_eq_ok, Prod.mk.injEq] at hfirst hagain ⊢
  obtain ⟨route, hroute, -, -, routes, hwrite, rfl, rfl⟩ := hfirst
  obtain ⟨route', hroute', -, -, routes', hwrite', rfl, rfl⟩ := hagain
  obtain rfl : route = route' := Except.ok.inj (hroute.symm.trans hroute')
  obtain ⟨r, hr, hrroute, hrtime⟩ := find_writeRoute hwrite
  have hcheck : checkPrevious route u.observedAtMs (some r) = .ok () := by
    simp only [checkPrevious, bind_eq_ok, rejectIf_eq_ok, hrroute, hrtime]
    exact ⟨(), not_not.mpr rfl, Nat.not_lt.mpr hearlier⟩
  refine ⟨route, hroute, (), ?_, routes', ?_, rfl, rfl⟩
  · exact hr ▸ hcheck
  · have hsame := @writeRoute_twice _ ⟨u.tenantId, u.linkAccountId, u.conversationScopeHash, route,
      u.observedAtMs⟩ _ _ hwrite ⟨rfl, rfl, rfl⟩
    exact hsame.trans hwrite'

/-- A resource is registered when its identifier is new. -/
structure Registered (s : FeishuRoutes) (r : Registration) (id : Canon) (s' : FeishuRoutes) :
    Prop where
  id : id = r.resourceId
  routes : s'.routes = s.routes
  fresh : s.resources.find r.resourceId = none
  kept : ∀ k, (s.resources.find k).isSome → (s'.resources.find k).isSome
  stored : (s'.resources.find r.resourceId).isSome

variable {r : Registration}

theorem registerResource_registered {id : Canon}
    (h : registerResource r s = .ok (id, s')) : Registered s r id s' := by
  simp only [registerResource, bind_eq_ok] at h
  obtain ⟨-, -, -, -, messageId, hmessage, resourceKey, hkey, filename, -, h⟩ := h
  split at h
  · cases h
  · next hfresh =>
    simp only [eq_pair_iff, insert_eq_ok] at h
    obtain ⟨resources, hins, rfl, rfl⟩ := h
    have hsame : resourceKey = r.resourceKey := safeRequired_eq hkey
    have hid : FeishuResourceRow.resourceId ⟨r.tenantId, r.linkAccountId,
        r.conversationScopeHash, ⟨messageId, r.resourceType, resourceKey, filename,
          r.sourceMessageRef⟩, r.createdAtMs⟩ = r.resourceId := by
      rw [hsame]
      rfl
    refine ⟨rfl, rfl, hfresh, fun k hk => ?_, ?_⟩
    · obtain ⟨row, hrow⟩ := Option.isSome_iff_exists.mp hk
      exact Option.isSome_iff_exists.mpr ⟨row, hins.find_of_some hrow⟩
    · rw [hins.find, if_pos hid]
      rfl

/-- A resource that is there already is never registered again. -/
theorem registerResource_of_stored
    (h : (s.resources.find r.resourceId).isSome) : ∃ e, registerResource r s = .error e := by
  cases hregister : registerResource r s with
  | error e => exact ⟨e, rfl⟩
  | ok pair =>
    have hfresh := (registerResource_registered hregister).fresh
    rw [hfresh] at h
    cases h

/-- Registering a resource again raises an attribute error, whenever it was created. -/
theorem registerResource_again {id : Canon} (createdAtMs : ℕ)
    (h : registerResource r s = .ok (id, s')) :
    registerResource { r with createdAtMs } s' =
      .error ⟨.attribute, "'FeishuProtectedResource' object has no attribute 'model_copy'"⟩ := by
  obtain ⟨row, hrow⟩ := Option.isSome_iff_exists.mp (registerResource_registered h).stored
  simp only [registerResource, bind_eq_ok] at h
  obtain ⟨tenant, htenant, account, haccount, messageId, hmessage, resourceKey, hkey, filename,
    hfilename, -⟩ := h
  have hfind : s'.resources.find { r with createdAtMs }.resourceId = some row := hrow
  simp only [registerResource, htenant, haccount, hmessage, hkey, hfilename, hfind, bind,
    Except.bind]

end FeishuRoutes

end Tiangong.Communication
