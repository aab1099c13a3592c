import VonkForge.RouteRendering

/-!
# Two authorities on one route bundle

The worker hands one publisher to the reconciliation service and to the recipe routes; each
activates a whole bundle of its own.
-/

namespace VonkForge.RouteRuntime

inductive RoutesDocument
  | published (generation : ℕ) (routes : List RouteEntry)
  | maintenance (generation : ℕ) (reason : String) (targets : List NodeId)
  | staticProxy
  deriving DecidableEq

inductive BundleState
  | published
  | maintenance
  deriving DecidableEq

/-- The activation marker, with the two documents in the place of their digests. -/
structure ActiveBundle where
  generation : ℕ
  state : BundleState
  reconciliationId : Uuid
  (planDigest evidenceSetDigest : Digest)
  routes : RoutesDocument
  litellm : List Model
  (issuedAt expiresAt : Time)
  deriving DecidableEq

/-- What only an update boundary passes: its key, a forced renewal, and the marker to replace. -/
structure Fence where
  key : Option Digest := none
  renew : Bool := false
  expected : Option ActiveBundle := none

structure Routes where
  active : Option ActiveBundle := none
  updateBoundary : Option Digest := none

section Publisher

variable (p : Publisher) (s : Routes) (f : Fence) (now : Time)

def requireExactFence : Except RouteRuntimeError Unit :=
  if f.renew = true ∧ f.key = none then .error "route update renewal requires its exact fence"
  else .ok ()

def requireUpdateBoundary (key : Option Digest) : Except RouteRuntimeError Unit :=
  match s.updateBoundary with
  | none => if key.isSome = true then .error "route update boundary is not active" else .ok ()
  | some active =>
    if key ≠ some active then .error "route publication is fenced by an update boundary"
    else .ok ()

def lease (expiresAt : Time) : Except RouteRuntimeError Unit :=
  if expiresAt ≤ now ∨ p.maximumLease < expiresAt - now then
    .error "route lease is invalid or exceeds its configured bound"
  else .ok ()

def activate (make : ℕ → ActiveBundle) : Routes × ActiveBundle :=
  let bundle := make ((s.active.map (·.generation)).getD 0 + 1)
  ({ s with active := some bundle }, bundle)

/-- The end of `publish` and of `withdraw`: the bundle that is asked for is returned while it is
active and lasts, and replaces any other. -/
def replace (same : ActiveBundle → Bool) (make : ℕ → ActiveBundle) :
    Except RouteRuntimeError (Routes × ActiveBundle) :=
  match s.active.filter fun b => !f.renew && same b && decide (now < b.expiresAt) with
  | some current => .ok (s, current)
  | none =>
    if f.expected.isSome = true ∧ s.active ≠ f.expected then
      .error "route publication compare-and-swap failed"
    else .ok (activate s make)

def sameBundle (b b' : ActiveBundle) : Bool :=
  decide (b.state = b'.state ∧ b.reconciliationId = b'.reconciliationId ∧
    b.planDigest = b'.planDigest ∧ b.routes = b'.routes ∧ b.litellm = b'.litellm)

def publish (request : RouteBundleRequest) : Except RouteRuntimeError (Routes × ActiveBundle) := do
  requireExactFence f
  requireUpdateBoundary s f.key
  lease p now request.expiresAt
  let (routes, models) ← renderRoutes p request now
  let make generation := ⟨generation, .published, request.reconciliationId, request.planDigest,
    request.evidenceSetDigest, .published generation routes, models, now, request.expiresAt⟩
  replace s f now (fun b => sameBundle b (make b.generation) &&
    decide (b.evidenceSetDigest = request.evidenceSetDigest)) make

def publishCompiled (planDigest evidenceSetDigest : Digest) (routes : RoutesDocument)
    (litellm : List Model) (expiresAt : Time) (state : BundleState) :
    Except RouteRuntimeError (Routes × ActiveBundle) := do
  requireUpdateBoundary s none
  lease p now expiresAt
  .ok (activate s fun generation => ⟨generation, state, p.authorityId, planDigest,
    evidenceSetDigest, routes, litellm, now, expiresAt⟩)

def withdraw (reconciliationId : Uuid) (planDigest : Digest) (targets : List NodeId)
    (reason : String) : Except RouteRuntimeError (Routes × ActiveBundle) := do
  requireExactFence f
  if targets = [] ∨ ¬ targets.Nodup then .error "maintenance targets are invalid" else do
    requireUpdateBoundary s f.key
    let safe := if p.redact reason = "" then "maintenance" else p.redact reason
    let make generation := ⟨generation, .maintenance, reconciliationId, planDigest, 0,
      .maintenance generation safe (targets.insertionSort (· ≤ ·)), [], now, now + p.maximumLease⟩
    replace s f now (fun b => sameBundle b (make b.generation)) make

end Publisher

inductive Authority
  | reconciliation
  | recipes
  deriving DecidableEq

def Authority.other : Authority → Authority
  | .reconciliation => .recipes
  | .recipes => .reconciliation

/-- A publication or renewal and a withdrawal of a reconciliation, and what the recipe routes
publish: the aliases of the running runs with their endpoints, or none. -/
inductive Call
  | publish (request : RouteBundleRequest)
  | withdraw (reconciliationId : Uuid) (planDigest : Digest) (targets : List NodeId)
      (reason : String)
  | recipes (routeDigest : Digest) (aliases : List (String × String))

def Call.authority : Call → Authority
  | .recipes _ _ => .recipes
  | _ => .reconciliation

/-- `LiteLlmPublisher.render` under the policy of the recipe routes; without aliases it is
`render_empty`. -/
def recipeModels (aliases : List (String × String)) : List Model :=
  (aliases.insertionSort fun x y => x.1 ≤ y.1).map fun x =>
    { modelName := x.1, apiBase := rstrip x.2, model := "openai/" ++ x.1, rpm := 60, tpm := 1000000 }

section

variable (p : Publisher) (s : System)

def perform (s : Routes) (now : Time) : Call → Except RouteRuntimeError (Routes × ActiveBundle)
  | .publish request => publish p s {} now request
  | .withdraw id plan targets reason => withdraw p s {} now id plan targets reason
  | .recipes digest aliases =>
    publishCompiled p s now digest digest .staticProxy (recipeModels aliases) (now + seconds 300)
      (if aliases = [] then .maintenance else .published)

structure System where
  routes : Routes := {}
  /-- What each authority has published and not withdrawn. -/
  published : Authority → List Model := fun _ => []
  /-- The marker in the row of a completed publication. -/
  stored : Option ActiveBundle := none

structure Event where
  call : Call
  now : Time
  /-- Whether the supervisor acknowledges the marker; the activation stays without it. -/
  acknowledged : Bool := true

def step (e : Event) : System :=
  match perform p s.routes e.now e.call with
  | .error _ => s
  | .ok (routes, bundle) =>
    { routes
      published := Function.update s.published e.call.authority bundle.litellm
      stored := if e.acknowledged = false then s.stored else
        match e.call with
        | .publish _ => some bundle
        | .withdraw _ _ _ _ => none
        | .recipes _ _ => s.stored }

def run (events : List Event) : System := events.foldl (step p) {}

def live (s : Routes) : List Model := (s.active.map (·.litellm)).getD []

/-- A model that serves the same alias from the same endpoint. -/
def Routed (m : Model) (models : List Model) : Prop :=
  ∃ m' ∈ models, m'.modelName = m.modelName ∧ m'.apiBase = m.apiBase

instance (m : Model) (models : List Model) : Decidable (Routed m models) :=
  inferInstanceAs (Decidable (∃ m' ∈ models, _))

/-- An update drain begins: the stored marker is the active one and lasts, and the fence is free. -/
def drains (key : Digest) (now : Time) : Bool :=
  s.routes.active.any fun before => s.stored = some before && s.routes.updateBoundary.all (· = key) &&
    decide (before.issuedAt ≤ now ∧ now < before.expiresAt ∧
      before.expiresAt - before.issuedAt ≤ p.maximumLease)

/-- No live route of the authority goes, and no call or drain of it fails that did not before. -/
structure Unharmed (a : Authority) (s t : System) : Prop where
  live : ∀ m ∈ s.published a, Routed m (live s.routes) → Routed m (live t.routes)
  calls : ∀ (c : Call) now, c.authority = a → (∃ out, perform p s.routes now c = .ok out) →
    ∃ out, perform p t.routes now c = .ok out
  drains : a = .reconciliation → ∀ key now, drains p s key now = true → drains p t key now = true

/-- The calls that the publisher accepts: no update boundary is active, the lease is within its
bound, and the routes or targets are valid. -/
def Admissible (s : Routes) (now : Time) (c : Call) : Prop :=
  s.updateBoundary = none ∧
    match c with
    | .publish request => (now < request.expiresAt ∧ request.expiresAt - now ≤ p.maximumLease) ∧
        Acceptable p request now
    | .withdraw _ _ targets _ => targets ≠ [] ∧ targets.Nodup
    | .recipes _ _ => seconds 300 ≤ p.maximumLease

/-- The models of the routes that the call itself is about. -/
def Call.models : Call → List Model
  | .publish request => request.models p
  | .withdraw _ _ _ _ => []
  | .recipes _ aliases => recipeModels aliases

/-- The marker of the completed publication is the active one, under a lease of the publisher. -/
def Drainable : Prop :=
  ∃ b, s.routes.active = some b ∧ s.stored = some b ∧ b.issuedAt < b.expiresAt ∧
    b.expiresAt - b.issuedAt ≤ p.maximumLease

/-- The routes of an admissible call cover what is live of the other authority, and the recipe
routes make none while an update could drain. -/
def Spares (e : Event) : Prop :=
  Admissible p s.routes e.now e.call →
    (∀ m ∈ s.published e.call.authority.other, Routed m (live s.routes) →
      Routed m (e.call.models p)) ∧
    (e.call.authority = .recipes → ¬ Drainable p s)

end

section Calls

variable {p : Publisher} {s t : Routes} {now : Time} {b : ActiveBundle}

lemma replace_ok {same : ActiveBundle → Bool} {make : ℕ → ActiveBundle} {models : List Model}
    (hsame : ∀ b, same b = true → b.litellm = models) (hmake : ∀ n, (make n).litellm = models)
    (h : replace s {} now same make = .ok (t, b)) :
    t = { s with active := some b } ∧ b.litellm = models := by
  unfold replace at h
  split at h
  · next current hcurrent =>
    cases h
    obtain ⟨hactive, hkept⟩ := Option.filter_eq_some_iff.mp hcurrent
    simp only [Bool.and_eq_true] at hkept
    exact ⟨by rw [← hactive], hsame b hkept.1.2⟩
  cases h
  exact ⟨rfl, hmake _⟩

lemma boundary_ok {u : Unit} : requireUpdateBoundary s none = .ok u ↔ s.updateBoundary = none := by
  unfold requireUpdateBoundary
  cases s.updateBoundary <;> simp

lemma lease_ok {u : Unit} {expiresAt : Time} :
    lease p now expiresAt = .ok u ↔ now < expiresAt ∧ expiresAt - now ≤ p.maximumLease := by
  unfold lease
  split
  · next h =>
    refine ⟨fun h' => (by cases h'), fun h' => ?_⟩
    rcases h with h | h
    · exact absurd h'.1 h.not_gt
    exact absurd h'.2 h.not_ge
  next h =>
    rw [not_or, not_le, not_lt] at h
    exact ⟨fun _ => h, fun _ => rfl⟩

lemma perform_ok {c : Call} (h : perform p s now c = .ok (t, b)) :
    Admissible p s now c ∧ t = { s with active := some b } ∧ b.litellm = c.models p := by
  cases c with
  | publish request =>
    obtain ⟨_, -, _, hboundary, h⟩ := of_bind_ok₂ h
    obtain ⟨_, hlease, ⟨routes, models⟩, hrender, h⟩ := of_bind_ok₂ h
    obtain ⟨haccept, rfl⟩ := renderRoutes_ok hrender
    refine ⟨⟨boundary_ok.mp hboundary, lease_ok.mp hlease, haccept⟩,
      replace_ok (fun b hb => ?_) (fun _ => rfl) h⟩
    simp only [sameBundle, Bool.and_eq_true, decide_eq_true_eq] at hb
    exact hb.1.2.2.2.2
  | withdraw =>
    obtain ⟨_, -, h⟩ := of_bind_ok h
    split at h
    · cases h
    next htargets =>
    obtain ⟨_, hboundary, h⟩ := of_bind_ok h
    rw [not_or, not_not] at htargets
    refine ⟨⟨boundary_ok.mp hboundary, htargets⟩, replace_ok (fun b hb => ?_) (fun _ => rfl) h⟩
    simp only [sameBundle, decide_eq_true_eq] at hb
    exact hb.2.2.2.2
  | recipes =>
    obtain ⟨_, hboundary, _, hlease, h⟩ := of_bind_ok₂ h
    cases h
    have hbound := (lease_ok.mp hlease).2
    rw [Nat.add_sub_cancel_left] at hbound
    exact ⟨⟨boundary_ok.mp hboundary, hbound⟩, rfl, rfl⟩

lemma exists_replace_ok (s : Routes) (now : Time) (same : ActiveBundle → Bool)
    (make : ℕ → ActiveBundle) : ∃ out, replace s {} now same make = .ok out := by
  unfold replace
  split <;> exact ⟨_, rfl⟩

lemma perform_of_admissible {c : Call} (h : Admissible p s now c) :
    ∃ out, perform p s now c = .ok out := by
  obtain ⟨hboundary, h⟩ := h
  have hboundary := (@boundary_ok s ()).mpr hboundary
  cases c with
  | publish request =>
    obtain ⟨out, hrender⟩ := renderRoutes_of_acceptable h.2
    simp only [perform, publish, requireExactFence, hboundary, (@lease_ok p now () _).mpr h.1,
      hrender, ok_bind, Bool.false_eq_true, false_and, if_false]
    exact exists_replace_ok _ _ _ _
  | withdraw id plan targets reason =>
    simp only [perform, withdraw, requireExactFence, hboundary, ok_bind, Bool.false_eq_true,
      false_and, if_false, h.1, h.2, not_true_eq_false, or_self]
    exact exists_replace_ok _ _ _ _
  | recipes =>
    have hlease : now < now + seconds 300 ∧ now + seconds 300 - now ≤ p.maximumLease := by
      rw [Nat.add_sub_cancel_left]
      exact ⟨Nat.lt_add_of_pos_right (by decide), h⟩
    simp only [perform, publishCompiled, hboundary, (@lease_ok p now () _).mpr hlease, ok_bind]
    exact ⟨_, rfl⟩

end Calls

lemma Drainable.drains {p : Publisher} {s : System} (h : Drainable p s)
    (hfree : s.routes.updateBoundary = none) : ∃ now, drains p s 0 now = true := by
  obtain ⟨b, hactive, hstored, hlt, hlease⟩ := h
  refine ⟨b.issuedAt, ?_⟩
  simp only [RouteRuntime.drains, hactive, hstored, hfree, Option.any_some, Option.all_none,
    decide_true, Bool.true_and, decide_eq_true_eq]
  exact ⟨le_rfl, hlt, hlease⟩

lemma drainable_of_drains {p : Publisher} {s : System} {key : Digest} {now : Time}
    (h : drains p s key now = true) : Drainable p s := by
  obtain ⟨b, hactive, h⟩ := (Option.any_eq_true _ _).mp h
  simp only [Bool.and_eq_true, decide_eq_true_eq] at h
  exact ⟨b, hactive, h.1.1, h.2.1.trans_lt h.2.2.1, h.2.2.2⟩

lemma unharmed_iff (p : Publisher) (s : System) (e : Event) :
    Unharmed p e.call.authority.other s (step p s e) ↔ Spares p s e := by
  obtain ⟨call, now, acknowledged⟩ := e
  cases hperform : perform p s.routes now call with
  | error =>
    have hstep : step p s ⟨call, now, acknowledged⟩ = s := by simp only [step, hperform]
    rw [hstep]
    refine ⟨fun _ hadmissible => ?_, fun _ => ⟨fun _ _ h => h, fun _ _ _ h => h, fun _ _ _ h => h⟩⟩
    obtain ⟨out, hok⟩ := perform_of_admissible hadmissible
    rw [hperform] at hok
    cases hok
  | ok result =>
    obtain ⟨routes, b⟩ := result
    obtain ⟨hadmissible, rfl, hmodels⟩ := perform_ok hperform
    have hlive : live (step p s ⟨call, now, acknowledged⟩).routes = call.models p := by
      simp only [step, hperform, ← hmodels]
      rfl
    constructor
    · rintro ⟨hkept, -, hdrains⟩ -
      refine ⟨fun m hm hl => hlive ▸ hkept m hm hl, fun ha hdrainable => ?_⟩
      -- a drain that begins before and after needs one marker of two generations
      obtain ⟨now', hdrain⟩ := hdrainable.drains hadmissible.1
      cases call with
      | recipes =>
        have hafter := hdrains rfl 0 now' hdrain
        obtain ⟨_, -, _, -, h⟩ := of_bind_ok₂ hperform
        cases h
        obtain ⟨marker, hactive, hdrain⟩ := (Option.any_eq_true _ _).mp hdrain
        simp only [drains, step, hperform, hactive, ite_self, Option.any_some, Bool.and_eq_true,
          decide_eq_true_eq] at hafter hdrain
        have hmarker := Option.mem_unique hdrain.1.1 hafter.1.1
        have hgeneration := congrArg ActiveBundle.generation hmarker
        simp only [Option.map_some, Option.getD_some] at hgeneration
        omega
      | _ => cases ha
    intro hspares
    obtain ⟨hkept, hnone⟩ := hspares hadmissible
    refine ⟨fun m hm hl => hlive ▸ hkept m hm hl, fun c now' _ hok => ?_, ?_⟩
    · obtain ⟨out, hout⟩ := hok
      obtain ⟨hboundary, hrest⟩ := (perform_ok hout).1
      exact perform_of_admissible ⟨by simpa only [step, hperform] using hboundary, hrest⟩
    intro ha key now' hdrain
    exact absurd (drainable_of_drains hdrain) (hnone (by cases call <;> first | rfl | cases ha))

/-- Along every run, the calls of one authority do the other no harm exactly when they spare it. -/
theorem bundle_shared_iff_spared (p : Publisher) (events : List Event) :
    (∀ before e after, events = before ++ e :: after →
        Unharmed p e.call.authority.other (run p before) (step p (run p before) e)) ↔
      ∀ before e after, events = before ++ e :: after → Spares p (run p before) e := by
  simp only [unharmed_iff]

def examplePublisher : Publisher where
  maximumLease := seconds 300
  address a := .ok ⟨a, false⟩
  endpointDigest e _ := e.nodeId
  quotaDigest q := q.requestsPerMinute
  redact := id
  authorityId := 7

def chatRoute : ResolvedRoute :=
  ⟨"model-a", [1], 1, "http", 8000, "/v1", ⟨60, 1000⟩, 60⟩

def chatEvidence : AcceptedEndpointEvidence := ⟨1, "10.0.0.1", 0, ("model-a", 1), 5, 1⟩

def reconciled : Event :=
  ⟨.publish ⟨1, 2, 3, [("chat", chatRoute)], [(1, chatEvidence)], seconds 60, 4⟩, 0, true⟩

def recipe : Event := ⟨.recipes 5 [("code", "http://10.0.0.2:8000/v1")], 1, true⟩

/-- A recipe run is published after a reconciliation: its route is gone, and no update can drain. -/
theorem recipe_replaces_reconciliation : let before := run examplePublisher [reconciled]
    let after := run examplePublisher [reconciled, recipe]
    live before.routes = before.published .reconciliation ∧
      (live before.routes).map (fun m => (m.modelName, m.apiBase)) =
        [("chat", "http://10.0.0.1:8000/v1")] ∧
      (live after.routes).map (fun m => (m.modelName, m.apiBase)) =
        [("code", "http://10.0.0.2:8000/v1")] ∧
      after.published .reconciliation = before.published .reconciliation ∧
      drains examplePublisher before 9 2 = true ∧ drains examplePublisher after 9 2 = false := by
  decide

end VonkForge.RouteRuntime
