import VonkForge.ReconciliationResults
import VonkForge.Logged

/-!
# Ownership of the route publication

`_owns_publication` authorizes a call of the publisher; `_transfer_publication_owner` moves the
ownership to a later reconciliation once the publisher has answered.
-/

namespace VonkForge.AgentReconciliation

open AgentJobs OrderDual

structure ActivationMarker where
  generation : ℕ
  (planDigest evidenceSetDigest : Digest)
  (issuedAt expiresAt : Time)

structure AcceptedEndpointEvidence where
  nodeId : NodeId
  operationId : GraphId
  verifyEvidenceDigest : Digest
  deriving DecidableEq

structure RouteBundleRequest where
  reconciliationId : Uuid
  (planDigest evidenceSetDigest : Digest)
  routes : List PlannedRoute
  endpoints : List AcceptedEndpointEvidence
  expiresAt : Time
  baseCommit : Commit
  deriving DecidableEq

inductive PublisherAction
  | publish (request : RouteBundleRequest)
  | withdraw (planDigest : Digest) (targets : List NodeId) (reason : String)
  deriving DecidableEq

structure PublisherCall where
  caller : Reconciliation
  action : PublisherAction
  deriving DecidableEq

/-- What one tick reads outside the database: the fences and identifiers it draws, the publisher
with its answers, and the digest of an evidence set. -/
structure TickView extends View where
  fence : Uuid
  freshId : GraphId → Uuid
  authorizer : Bool := false
  publisher : Option (PublisherAction → Except JobError ActivationMarker)
  publicationLeaseSeconds : ℕ := 60
  evidenceSetDigest : List (GraphId × Digest × Digest) → Digest := fun _ => 0

section

variable (view : TickView) (db : Database) (r : Reconciliation)

def callPublisher (action : PublisherAction) : Logged JobError PublisherCall ActivationMarker :=
  match view.publisher with
  | none => .lift (.error (.typeError "'NoneType' object is not a publisher"))
  | some answer => .call ⟨r, action⟩ (answer action)

def withdraw (plan : ResolvedPlan) (reason : String) : Logged JobError PublisherCall
    ActivationMarker :=
  callPublisher view r (.withdraw plan.digest r.targets.nodes reason)

def publicationOrder : Time ×ₗ Uuid := toLex (r.createdAt, r.id)

def latestCompleted : Option Uuid :=
  (db.reconciliations.firstBy (fun r => toLex (toDual (r.completionGeneration.getD 0), toDual r.id))
    fun r => r.status = .succeeded && r.currentPhase = .completed &&
      r.completionGeneration.isSome).map (·.id)

/-- `_publication_owner`: the singleton row is created when it is missing, and the latest
completed reconciliation owns what nobody owns yet. -/
def publicationOwner (db : Database) : RoutePublicationOwner × Database :=
  let row := db.publicationOwner.getD {}
  let owner := match row.reconciliationId with
    | some _ => row
    | none => { row with reconciliationId := latestCompleted db }
  (owner, { db with publicationOwner := some owner })

def handoffPending : Bool :=
  r.currentPhase = .withdrawalPending &&
    match db.publications.get? r.id with
    | some p => p.state = .withdrawalPending
    | none => false

def pendingPublicationHandoff : Option Uuid :=
  (db.reconciliations.firstBy (fun r => toLex (toDual r.createdAt, toDual r.id))
    (handoffPending db)).map (·.id)

def ownsPublication (maySupersede : Bool) : Bool × Database :=
  let (owner, db') := publicationOwner db
  let pending := pendingPublicationHandoff db'
  let uncontested := decide (pending = none ∨ pending = some r.id)
  if owner.reconciliationId = some r.id then (uncontested, db')
  else
    match owner.reconciliationId.bind db'.reconciliations.get? with
    | none => (maySupersede && uncontested, db')
    | some current =>
      if LeaseHandoff.terminalPhase current.currentPhase = false then (false, db')
      else if maySupersede = false ∨ publicationOrder r ≤ publicationOrder current then (false, db')
      else (uncontested, db')

lemma ownsPublication_db (maySupersede : Bool) :
    (ownsPublication db r maySupersede).2 = (publicationOwner db).2 := by
  unfold ownsPublication
  simp only
  split
  · rfl
  split
  · rfl
  split_ifs <;> rfl

def setOwner (id : Uuid) (generation : ℕ) : Database :=
  { db with
    publicationOwner := some { reconciliationId := some id, ownerGeneration := generation } }

def transferPublicationOwner : Except JobError Database :=
  let (owner, db') := publicationOwner db
  let transferred := setOwner db' r.id (owner.ownerGeneration + 1)
  if owner.reconciliationId = some r.id then .ok db'
  else if pendingPublicationHandoff db' ≠ some r.id then
    .error (.valueError "route publication handoff is no longer authoritative")
  else
    match owner.reconciliationId.bind db'.reconciliations.get? with
    | none => .ok transferred
    | some current =>
      if publicationOrder r ≤ publicationOrder current then
        .error (.valueError "route publication handoff is stale")
      else .ok transferred

def publicationOf (id : Uuid) : Except JobError RoutePublication :=
  match db.publications.get? id with
  | some p => .ok p
  | none => .error (.valueError "reconciliation route withdrawal is not durable")

def updatePublication (id : Uuid) (f : RoutePublication → RoutePublication)
    (hf : ∀ p, Keyed.key (f p) = Keyed.key p := by intro _; rfl) : Database :=
  { db with
    publications := db.publications.updateWhere (fun p => decide (p.reconciliationId = id)) f hf }

def storeMarker (id : Uuid) (marker : ActivationMarker) (state : PublicationState) : Except
    JobError Database :=
  if marker.expiresAt ≤ marker.issuedAt then .error .integrityError
  else .ok (updatePublication db id fun p =>
    { p with
      state := state
      generation := some marker.generation
      planDigest := marker.planDigest
      evidenceDigest := some marker.evidenceSetDigest
      leaseIssuedAt := some marker.issuedAt
      leaseExpiresAt := some marker.expiresAt })

def acceptedEvidence (p : ReconciliationOperation) : Option (GraphId × Digest × Digest) :=
  match p.state, p.resultDigest, p.evidenceDigest with
  | .accepted, some result, some evidence => some (p.graphOperationId, result, evidence)
  | _, _, _ => none

def acceptedEvidenceDigest (rows : List ReconciliationOperation) : Except JobError Digest :=
  match rows, rows.mapM acceptedEvidence with
  | _ :: _, some evidence => .ok (view.evidenceSetDigest evidence)
  | _, _ => .error (.valueError "reconciliation operation evidence is incomplete")

/-- The endpoint evidence of one route; a later route with the same entrypoint replaces it. -/
def addEndpoint (rows : List ReconciliationOperation)
    (endpoints : List AcceptedEndpointEvidence) (route : PlannedRoute) : Except JobError
    (List AcceptedEndpointEvidence) :=
  match (rows.find? fun p => p.graphOperationId = route.verifyOperation).bind fun p =>
      if p.state = .accepted then p.evidenceDigest else none with
  | none => .error (.valueError "accepted route lacks exact verify evidence")
  | some digest =>
    match view.endpoint route.entrypointNodeId with
    | .address => .ok (endpoints.filter (·.nodeId ≠ route.entrypointNodeId) ++
        [⟨route.entrypointNodeId, route.verifyOperation, digest⟩])
    | .invalid => .error (.typeError "management address is invalid")
    | .unavailable => .error (.runtimeError "management address is unavailable")

def publicationRequest (plan : ResolvedPlan) (p : RoutePublication) : Except JobError
    RouteBundleRequest :=
  match p.evidenceDigest with
  | none => .error (.typeError "accepted reconciliation evidence set is unavailable")
  | some evidence =>
    if plan.routes = [] then
      .error (.valueError "accepted reconciliation routes are unavailable")
    else do
      let rows := projectionsOf db r.id [.primary]
      let endpoints ← plan.routes.foldlM (addEndpoint view rows) []
      .ok ⟨r.id, plan.digest, evidence, plan.routes, endpoints,
        view.now + seconds view.publicationLeaseSeconds, r.baseCommit⟩

end

end VonkForge.AgentReconciliation
