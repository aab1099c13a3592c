import VonkForge.AgentProtocol
import VonkForge.Transactions
import Mathlib.Data.List.Sort

/-!
# Rendering the routes of a reconciliation

`_render_routes` checks every route of a request against the evidence of its endpoint and lists the
models that LiteLLM serves: one for each route, then the Hermes deployments of the commit.
-/

namespace VonkForge.RouteRuntime

open Transactions

abbrev RouteRuntimeError := String

/-- An entry of a LiteLLM document's `model_list`. -/
structure Model where
  (modelName apiBase model : String)
  order : Option ℕ := none
  (rpm tpm : ℕ)
  deriving DecidableEq

structure Quota where
  (requestsPerMinute tokensPerMinute : ℕ)

/-- A route of the resolved plan, under its alias. -/
structure ResolvedRoute where
  workloadId : String
  nodes : List NodeId
  entrypointNodeId : NodeId
  scheme : String
  port : ℕ
  path : String
  quota : Quota
  quotaDigest : Digest

structure AcceptedEndpointEvidence where
  nodeId : NodeId
  address : String
  observedAt : Time
  /-- The workload and the node that the identifier of a `workload.verify` names. -/
  operationId : String × NodeId
  (verifyEvidenceDigest evidenceDigest : Digest)
  deriving DecidableEq

structure RouteBundleRequest where
  reconciliationId : Uuid
  (planDigest evidenceSetDigest : Digest)
  routes : List (String × ResolvedRoute)
  endpoints : List (NodeId × AcceptedEndpointEvidence)
  expiresAt : Time
  baseCommit : Commit

/-- An entry of the routes document: the evidence under its canonical address, and the endpoint. -/
structure RouteEntry where
  aliasName : String
  evidence : AcceptedEndpointEvidence
  (scheme path : String)
  port : ℕ
  deriving DecidableEq

structure PublishedRoute where
  (aliasName workloadId apiBase : String)
  (requestsPerMinute tokensPerMinute : ℕ)

structure LiteLlmDeployment where
  (modelName workload apiBase : String)
  (priority requestsPerMinute tokensPerMinute : ℕ)

/-- A canonical address, in brackets within a URL if it is of version 6. -/
structure Address where
  text : String
  isV6 : Bool := false

/-- What the publisher is built with.  Its default validators accept what it encodes. -/
structure Publisher where
  maximumLease : Time
  /-- `ManagementAddressPolicy.validate`. -/
  address : String → Except String Address
  /-- `endpoint_evidence_digest`, of evidence and its canonical address. -/
  endpointDigest : AcceptedEndpointEvidence → Address → Digest
  quotaDigest : Quota → Digest
  /-- The Hermes policy of a commit, with the text of the error if it raises. -/
  litellmDeployments : Option (Commit → List PublishedRoute →
    Except RouteRuntimeError (List LiteLlmDeployment)) := none
  /-- A URL of the form `http://<private IPv4 address>:<port>/v1`. -/
  localBase : String → Bool := fun _ => true
  redact : String → String
  /-- `_AUTHORITY_ID` of the recipe routes. -/
  authorityId : Uuid

def isIdentifier (s : String) : Bool :=
  match s.toList with
  | [] => false
  | c :: rest => c.isAlphanum && rest.length ≤ 127 &&
      rest.all fun c => c.isAlphanum || ['.', '_', '/', '-'].contains c

/-- `str.rstrip("/")`. -/
def rstrip (s : String) : String :=
  String.ofList (s.toList.reverse.dropWhile (· = '/')).reverse

def validEndpoint (r : ResolvedRoute) : Prop :=
  (r.scheme = "http" ∨ r.scheme = "https") ∧ (1 ≤ r.port ∧ r.port ≤ 65535) ∧
    r.path.toList.head? = some '/' ∧ '?' ∉ r.path.toList ∧ '#' ∉ r.path.toList ∧
    ¬ "//".toList <:+: r.path.toList ∧ ¬ "/../".toList <:+: r.path.toList ++ ['/']

instance (r : ResolvedRoute) : Decidable (validEndpoint r) := inferInstanceAs (Decidable (_ ∧ _))

def apiBase (r : ResolvedRoute) (a : Address) : String :=
  let host := if a.isV6 then "[" ++ a.text ++ "]" else a.text
  r.scheme ++ "://" ++ host ++ ":" ++ toString r.port ++ rstrip r.path

def PublishedRoute.model (r : PublishedRoute) : Model :=
  { modelName := r.aliasName, apiBase := r.apiBase, model := "openai/" ++ r.aliasName
    rpm := r.requestsPerMinute, tpm := r.tokensPerMinute }

def LiteLlmDeployment.model (d : LiteLlmDeployment) : Model :=
  { modelName := d.modelName, apiBase := d.apiBase, model := "openai/" ++ d.workload
    order := some d.priority, rpm := d.requestsPerMinute, tpm := d.tokensPerMinute }

section

variable (p : Publisher) (request : RouteBundleRequest) (now : Time) (x : String × ResolvedRoute)

def validQuota (r : ResolvedRoute) : Prop :=
  (1 ≤ r.quota.requestsPerMinute ∧ r.quota.requestsPerMinute ≤ 100000) ∧
    (1 ≤ r.quota.tokensPerMinute ∧ r.quota.tokensPerMinute ≤ 100000000) ∧
    p.quotaDigest r.quota = r.quotaDigest

instance (r : ResolvedRoute) : Decidable (validQuota p r) := inferInstanceAs (Decidable (_ ∧ _))

/-- `_validate_hermes_deployment`. -/
def validDeployment (d : LiteLlmDeployment) : Bool :=
  d.modelName = "hermes-agent" &&
    (match d.workload.toList with
      | [] => false
      | c :: rest => (c.isLower || c.isDigit) && rest.length ≤ 62 &&
          rest.all fun c => c.isLower || c.isDigit || c = '-') &&
    1 ≤ d.priority && 1 ≤ d.requestsPerMinute && 1 ≤ d.tokensPerMinute &&
    d.requestsPerMinute ≤ 100000 && d.tokensPerMinute ≤ 100000000 && p.localBase d.apiBase

def RouteBundleRequest.evidence (r : ResolvedRoute) : Option AcceptedEndpointEvidence :=
  (request.endpoints.lookup r.entrypointNodeId).filter (·.nodeId = r.entrypointNodeId)

/-- `sorted(request.routes.items())`. -/
def RouteBundleRequest.sorted : List (String × ResolvedRoute) :=
  request.routes.insertionSort fun x y => x.1 ≤ y.1

def routeEntry (e : AcceptedEndpointEvidence) (a : Address) : RouteEntry :=
  ⟨x.1, { e with address := a.text }, x.2.scheme, x.2.path, x.2.port⟩

def publishedRoute (a : Address) : PublishedRoute :=
  ⟨x.1, x.2.workloadId, apiBase x.2 a, x.2.quota.requestsPerMinute, x.2.quota.tokensPerMinute⟩

/-- One route of the loop in `_render_routes`. -/
def renderRoute : Except RouteRuntimeError (RouteEntry × PublishedRoute) := do
  require (isIdentifier x.1 = true) "route alias is invalid"
  require (isIdentifier x.2.workloadId = true ∧ x.2.nodes ≠ [] ∧ x.2.nodes.Nodup ∧
    x.2.entrypointNodeId ∈ x.2.nodes) "route entrypoint is invalid"
  let evidence ← fetch (request.evidence x.2) "route endpoint evidence is unavailable"
  require (evidence.operationId = (x.2.workloadId, x.2.entrypointNodeId))
    "route endpoint evidence is not exact verify evidence"
  require (evidence.observedAt ≤ now ∧ now - evidence.observedAt ≤ p.maximumLease)
    "route endpoint evidence is stale or in the future"
  let address ← (p.address evidence.address).mapError
    ("management address evidence is invalid: " ++ ·)
  require (evidence.evidenceDigest = p.endpointDigest evidence address)
    "endpoint evidence binding is invalid"
  require (request.expiresAt ≤ evidence.observedAt + p.maximumLease)
    "route lease exceeds endpoint freshness"
  require (validEndpoint x.2) "route structured endpoint is invalid"
  require (validQuota p x.2) "route quota or quota digest is invalid"
  .ok (routeEntry x evidence address, publishedRoute x address)

def hermesModels (published : List PublishedRoute) : Except RouteRuntimeError (List Model) :=
  match p.litellmDeployments with
  | none => .ok []
  | some policy => do
    let deployments ← policy request.baseCommit published
    require ((deployments.map (·.priority)).Nodup ∧ (deployments.map (·.workload)).Nodup ∧
      ∀ d ∈ deployments, validDeployment p d = true) "Hermes repository policy is invalid"
    .ok ((deployments.insertionSort fun d d' => d.priority ≤ d'.priority).map (·.model))

/-- `_render_routes`, without the generation, which it only copies into the routes. -/
def renderRoutes : Except RouteRuntimeError (List RouteEntry × List Model) := do
  require (request.routes ≠ []) "published routes must not be empty"
  let rendered ← request.sorted.mapM (renderRoute p request now)
  require (∀ e ∈ request.endpoints, e.1 ∈ request.routes.map (·.2.entrypointNodeId))
    "endpoint evidence must exactly cover route entrypoints"
  let hermes ← hermesModels p request (rendered.map (·.2))
  .ok (rendered.map (·.1), rendered.map (·.2.model) ++ hermes)

/-! ### What is rendered -/

structure ValidRoute (e : AcceptedEndpointEvidence) (a : Address) : Prop where
  aliasName : isIdentifier x.1 = true
  entrypoint : isIdentifier x.2.workloadId = true ∧ x.2.nodes ≠ [] ∧ x.2.nodes.Nodup ∧
    x.2.entrypointNodeId ∈ x.2.nodes
  evidence : request.evidence x.2 = some e
  operation : e.operationId = (x.2.workloadId, x.2.entrypointNodeId)
  fresh : e.observedAt ≤ now ∧ now - e.observedAt ≤ p.maximumLease
  address : p.address e.address = .ok a
  bound : e.evidenceDigest = p.endpointDigest e a
  lease : request.expiresAt ≤ e.observedAt + p.maximumLease
  endpoint : validEndpoint x.2
  quota : validQuota p x.2

/-- The route as a request that is accepted publishes it. -/
def RouteBundleRequest.ownRoute : Option (RouteEntry × PublishedRoute) := do
  let evidence ← request.evidence x.2
  let address ← (p.address evidence.address).toOption
  some (routeEntry x evidence address, publishedRoute x address)

def RouteBundleRequest.ownRoutes : List (RouteEntry × PublishedRoute) :=
  request.sorted.filterMap (request.ownRoute p)

/-- The models of the request's own routes, and those of its commit. -/
def RouteBundleRequest.models : List Model :=
  (request.ownRoutes p).map (·.2.model) ++
    (hermesModels p request ((request.ownRoutes p).map (·.2))).toOption.getD []

/-- A request that `_render_routes` accepts. -/
structure Acceptable : Prop where
  nonempty : request.routes ≠ []
  routes : ∀ x ∈ request.routes, ∃ evidence address, ValidRoute p request now x evidence address
  covered : ∀ e ∈ request.endpoints, e.1 ∈ request.routes.map (·.2.entrypointNodeId)
  hermes : ∃ models, hermesModels p request ((request.ownRoutes p).map (·.2)) = .ok models

end

section

variable {p : Publisher} {request : RouteBundleRequest} {now : Time} {x : String × ResolvedRoute}

lemma mapError_ok {α : Type} {y : Except String α} {f : String → RouteRuntimeError} {a : α} :
    y.mapError f = .ok a ↔ y = .ok a := by
  cases y <;> simp [Except.mapError]

lemma renderRoute_ok {y : RouteEntry × PublishedRoute} :
    renderRoute p request now x = .ok y ↔ ∃ evidence address,
      ValidRoute p request now x evidence address ∧
        y = (routeEntry x evidence address, publishedRoute x address) := by
  unfold renderRoute
  simp only [require_bind_ok, fetch_bind_ok]
  constructor
  · rintro ⟨halias, hentry, evidence, hevidence, hop, hfresh, h⟩
    obtain ⟨address, haddress, h⟩ := of_bind_ok h
    simp only [require_bind_ok] at h
    obtain ⟨hbound, hlease, hendpoint, hquota, h⟩ := h
    cases h
    exact ⟨evidence, address, ⟨halias, hentry, hevidence, hop, hfresh, mapError_ok.mp haddress,
      hbound, hlease, hendpoint, hquota⟩, rfl⟩
  rintro ⟨evidence, address, h, rfl⟩
  refine ⟨h.aliasName, h.entrypoint, evidence, h.evidence, h.operation, h.fresh, ?_⟩
  rw [mapError_ok.mpr h.address, ok_bind]
  simp only [require_bind_ok]
  exact ⟨h.bound, h.lease, h.endpoint, h.quota, trivial⟩

lemma ownRoute_of_render {y : RouteEntry × PublishedRoute}
    (h : renderRoute p request now x = .ok y) : request.ownRoute p x = some y := by
  obtain ⟨evidence, address, hvalid, rfl⟩ := renderRoute_ok.mp h
  simp [RouteBundleRequest.ownRoute, hvalid.evidence, hvalid.address, Except.toOption]

lemma renderRoutes_ok {entries : List RouteEntry} {models : List Model}
    (h : renderRoutes p request now = .ok (entries, models)) :
    Acceptable p request now ∧ models = request.models p := by
  unfold renderRoutes at h
  rw [require_bind_ok] at h
  obtain ⟨hne, h⟩ := h
  obtain ⟨rendered, hrendered, h⟩ := of_bind_ok h
  rw [require_bind_ok] at h
  obtain ⟨hcovered, h⟩ := h
  obtain ⟨hermes, hhermes, h⟩ := of_bind_ok h
  cases h
  obtain rfl := filterMap_of_mapM_ok (fun x _ hx => ownRoute_of_render hx) hrendered
  refine ⟨⟨hne, fun x hx => ?_, hcovered, hermes, hhermes⟩, ?_⟩
  · have hmem := (List.perm_insertionSort (fun x y : String × ResolvedRoute => x.1 ≤ y.1)
      request.routes).mem_iff.mpr hx
    obtain ⟨y, hy⟩ := (exists_mapM_ok_iff.mp ⟨_, hrendered⟩) x hmem
    obtain ⟨evidence, address, hvalid, -⟩ := renderRoute_ok.mp hy
    exact ⟨evidence, address, hvalid⟩
  simp only [RouteBundleRequest.models, RouteBundleRequest.ownRoutes] at hhermes ⊢
  rw [hhermes]
  rfl

lemma renderRoutes_of_acceptable (h : Acceptable p request now) :
    ∃ out, renderRoutes p request now = .ok out := by
  obtain ⟨rendered, hrendered⟩ : ∃ rendered,
      request.sorted.mapM (renderRoute p request now) = .ok rendered := by
    refine exists_mapM_ok_iff.mpr fun x hx => ?_
    obtain ⟨evidence, address, hvalid⟩ := h.routes x ((List.perm_insertionSort _ _).mem_iff.mp hx)
    exact ⟨_, renderRoute_ok.mpr ⟨evidence, address, hvalid, rfl⟩⟩
  obtain ⟨hermes, hhermes⟩ := h.hermes
  rw [RouteBundleRequest.ownRoutes,
    ← filterMap_of_mapM_ok (fun x _ hx => ownRoute_of_render hx) hrendered] at hhermes
  unfold renderRoutes
  rw [(require_ok (u := ())).mpr h.nonempty, ok_bind, hrendered, ok_bind,
    (require_ok (u := ())).mpr h.covered, ok_bind, hhermes, ok_bind]
  exact ⟨_, rfl⟩

end

end VonkForge.RouteRuntime
