import VonkForge.Rollouts

/-!
# The calls of the update orchestrator

A call that reaches the route boundary or the signer does so between two of its transactions: what
the earlier one committed stays when a later one raises.
-/

namespace VonkForge.Updates

open AgentJobs NodeLeases AgentReconciliation

inductive BoundaryState
  | withdrawing
  | withdrawn
  | restored
  | superseded
  deriving DecidableEq

structure BoundaryRecord where
  rolloutId : Uuid
  batchIndex : ℕ
  state : BoundaryState
  deriving DecidableEq

instance : Keyed BoundaryRecord (Uuid × ℕ) := ⟨fun r => (r.rolloutId, r.batchIndex)⟩

structure RouteFence where
  records : Table BoundaryRecord := .empty
  active : Option (Uuid × ℕ) := none
  deriving DecidableEq

structure RouteDrainReceipt where
  rolloutId : Uuid
  batchIndex : ℕ
  targets : List NodeId
  (drainedAt expiresAt : Time)

section

variable (f : RouteFence) (key : Uuid × ℕ)

/-- How a call of the boundary ends: with its answer, or with an error after it may have written
the record of the batch and claimed the publication. -/
inductive RouteAnswer (α : Type)
  | done (a : α)
  | failed (error : JobError) (record : Option BoundaryState) (claimed : Bool)

def setRecord (state : BoundaryState) : RouteFence :=
  { f with
    records := (f.records.deleteWhere fun r => decide (Keyed.key r = key)).insertIgnore
      ⟨key.1, key.2, state⟩ }

def failBoundary (record : Option BoundaryState) (claimed : Bool) : RouteFence :=
  let f' := match record with
    | some state => setRecord f key state
    | none => f
  if claimed then { f' with active := some key } else f'

def withdrawRoutes {α : Type} : RouteAnswer α → RouteFence × Except JobError α
  | .done a => ({ setRecord f key .withdrawn with active := some key }, .ok a)
  | .failed e record claimed => (failBoundary f key record claimed, .error e)

def restoreRoutes {α : Type} : RouteAnswer α → RouteFence × Except JobError α
  | .done a =>
    let f' := setRecord f key .restored
    (if f'.active = some key then { f' with active := none } else f', .ok a)
  | .failed e record claimed => (failBoundary f key record claimed, .error e)

end

structure System where
  db : Database := {}
  fence : RouteFence := {}
  deriving DecidableEq

/-- What a call reads outside the system: the answers of the boundary and of the signer. -/
structure CallView extends RolloutView where
  withdrawal : RouteAnswer RouteDrainReceipt
  restoration : RouteAnswer Unit
  sign : SignerRequest → Except JobError SignerResponse

def reserveNodes (view : RolloutView) (u : UpdateRollout) (op : AgentOperation)
    (f : UpdateRolloutNode → UpdateRolloutNode) (hf : ∀ n, Keyed.key (f n) = Keyed.key n) :
    Database → List UpdateRolloutNode →
      Except JobError (List (UpdateRolloutNode × ReservedUpdateAuthorization) × Database)
  | db, [] => .ok ([], db)
  | db, n :: rest => do
    let payload := if op = .agentUpdate then nodePayload u n.nodeId else none
    let release := if op = .agentUpdate then some u.releaseDigest else none
    let (reserved, db') ← reserveUpdateAuthorization view.toReserveView (setNodes db [n] f hf) u.id
      n.nodeId op payload release
    let (others, db'') ← reserveNodes view u op f hf db' rest
    .ok ((n, reserved) :: others, db'')

def signNodes (view : CallView)
    (reserved : List (UpdateRolloutNode × ReservedUpdateAuthorization)) :
    Except JobError (List (UpdateRolloutNode × ReservedUpdateAuthorization × SignerResponse)) :=
  reserved.mapM fun p => do
    let response ← view.sign p.2.request
    .ok (p.1, p.2, response)

def finalizeNodes (now : Time) (f : Uuid → UpdateRolloutNode → UpdateRolloutNode)
    (hf : ∀ op n, Keyed.key (f op n) = Keyed.key n) :
    Database → List (UpdateRolloutNode × ReservedUpdateAuthorization × SignerResponse) →
      Except JobError Database
  | db, [] => .ok db
  | db, (n, reserved, response) :: rest => do
    match ← finalizeUpdateAuthorization db now reserved response with
    | (some op, db') => finalizeNodes now f hf (setNodes db' [n] (f op) (hf op)) rest
    | (none, _) => .error (.valueError "update authorization intent became stale")

section

variable (db : Database) (n : UpdateRolloutNode) (u : UpdateRollout)

section

variable (view : RolloutView) (now : Time) (nodes : List UpdateRolloutNode)

def quarantine (reserved : List (UpdateRolloutNode × ReservedUpdateAuthorization))
    (x : Except JobError Database) : Database × Except JobError Unit :=
  match x with
  | .ok db' => (db', .ok ())
  | .error (.valueError _) =>
    (markUpdateAuthorizationsStale db (reserved.map (·.2)),
      .error (.valueError "update authorization intent became stale"))
  | .error e => (db, .error e)

def batchLease : Except JobError NodeLeaseGrant :=
  match ownedGrantInSession db (nodes.map (·.nodeId)) .updateRollout u.id with
  | .ok (some grant) => .ok grant
  | .ok none => .error (.runtimeError "update rollout node mutation lease is absent")
  | .error _ => .error (.runtimeError "node mutation lease conflict")

def prepareRestoration (db : Database) (u : UpdateRollout) (nodes : List UpdateRolloutNode) :
    Except JobError (Bool × Database) := do
  let grant ← batchLease db u nodes
  match ← publicationBlockReason view db u nodes u.state with
  | some reason => do
    let held ← ofLease (LeaseHandoff.reholdBatch db view.now u)
    let paused ← pauseForIdentityLoss held u nodes reason view.now
    .ok (false, paused)
  | none => do
    let marked ← ofLease (markReleasingInSession db view.now grant)
    .ok (true, marked)

def hasNextBatch : Bool :=
  db.rolloutNodes.rows.any fun n => n.rolloutId = u.id && (u.currentBatch : ℤ) < n.batchIndex

def acceptBatch (db : Database) (u : UpdateRollout) (nodes : List UpdateRolloutNode) :
    Except JobError Database :=
  let db' := setNodes db nodes fun n => { n with state := .accepted }
  if hasNextBatch db' u then
    .ok (setRollout db' u.id fun r =>
      { r with currentBatch := r.currentBatch + 1, state := .planned, soakUntil := none })
  else if db'.rolloutNodes.rows.any fun n => n.rolloutId = u.id && n.state = .offlinePending then
    projectJob (setRollout db' u.id fun r => { r with state := .partly }) u .partly
      (some "offline nodes remain pending") view.now
  else
    projectJob (setRollout db' u.id fun r => { r with state := .completed }) u .succeeded none
      view.now

lemma id_compensated (o : StoredOperation) :
    { o with state := .compensated : StoredOperation }.id = o.id := rfl

lemma key_rolledBack (n : UpdateRolloutNode) :
    Keyed.key { n with state := .rolledBack } = Keyed.key n := rfl

def compensateNode : Except JobError Database :=
  if n.state ≠ .rollingBack then .ok db
  else do
    let op ← operationOf db n.operationId
    .ok (setNodes
      (setOperation db op.id (fun o => { o with state := .compensated }) id_compensated) [n]
      (fun r => { r with state := .rolledBack }) key_rolledBack)

def stagePublicationCompensation (reason : String) (now : Time) : Except JobError Database :=
  projectJob
    (setRollout (failNodes db nodes reason) u.id fun r =>
      { r with state := .compensatingWithdrawal, failureReason := some reason })
    u .waitingForOperator (some reason) now

def finishRestoration (db : Database) (u : UpdateRollout) (nodes : List UpdateRolloutNode) :
    Except JobError Database :=
  match u.state with
  | .publishing => acceptBatch view db u nodes
  | .failurePublishing =>
    projectJob (setRollout db u.id fun r => { r with state := .paused }) u .waitingForOperator
      u.failureReason view.now
  | _ => do
    let db' ← nodes.foldlM compensateNode db
    projectJob (setRollout db' u.id fun r => { r with state := .waitingForApproval }) u
      .waitingForOperator (some "rollout rollback requires administrator approval") view.now

def settleRestoration (db : Database) (u : UpdateRollout) (nodes : List UpdateRolloutNode) :
    Except JobError Database := do
  let grant ← batchLease db u nodes
  if grant.state ≠ .releasing then
    .error (.runtimeError "update rollout releasing mutation lease is absent")
  else
    match ← publicationBlockReason view db u nodes u.state with
    | some reason => stagePublicationCompensation db u nodes reason view.now
    | none => do
      let released ← ofLease (releaseInSession db grant)
      finishRestoration view released u nodes

/-- `_advance_route_side_effect` in a publishing state. -/
def advanceRestoration (view : CallView) (s : System) (u : UpdateRollout)
    (nodes : List UpdateRolloutNode) : System × Except JobError Unit :=
  match prepareRestoration view.toRolloutView s.db u nodes with
  | .error e => (s, .error e)
  | .ok (false, db) => ({ s with db := db }, .ok ())
  | .ok (true, db) =>
    match restoreRoutes s.fence (u.id, u.currentBatch) view.restoration with
    | (fence, .error e) => (⟨db, fence⟩, .error e)
    | (fence, .ok _) =>
      match settleRestoration view.toRolloutView db u nodes with
      | .error e => (⟨db, fence⟩, .error e)
      | .ok db' => (⟨db', fence⟩, .ok ())

def drainReceiptValid (u : UpdateRollout) (nodes : List UpdateRolloutNode) (r : RouteDrainReceipt) :
    Bool :=
  r.rolloutId = u.id && r.batchIndex = u.currentBatch &&
    r.targets = (nodes.map (·.nodeId)).insertionSort (· ≤ ·) && r.drainedAt ≤ now &&
    now < r.expiresAt

def heldLease : Except JobError Unit := do
  let grant ← batchLease db u nodes
  if grant.state ≠ .held then
    .error (.runtimeError "update rollout node mutation lease is releasing")
  else .ok ()

def withdrawnNode : UpdateRolloutNode := { n with state := .routesWithdrawn }

def dispatchedNode (op : Uuid) (n : UpdateRolloutNode) : UpdateRolloutNode :=
  { n with
    operationId := some op
    state := .updating
    dispatchAt := some now
    activationDeadline := some (now + seconds 600) }

def dispatchUpdates (view : CallView) (db : Database) (u : UpdateRollout)
    (reserved : List (UpdateRolloutNode × ReservedUpdateAuthorization)) :
    Database × Except JobError Unit :=
  match signNodes view reserved with
  | .error e => (db, .error e)
  | .ok signed => quarantine db reserved do
    let db' ← finalizeNodes view.now (dispatchedNode view.now) (fun _ _ => rfl) db signed
    .ok (setRollout db' u.id fun r => { r with state := .updating })

/-- `_advance_route_side_effect` in state `withdrawing`. -/
def advanceWithdrawing (view : CallView) (s : System) (u : UpdateRollout)
    (nodes : List UpdateRolloutNode) : System × Except JobError Unit :=
  match heldLease s.db u nodes with
  | .error e => (s, .error e)
  | .ok _ =>
    match withdrawRoutes s.fence (u.id, u.currentBatch) view.withdrawal with
    | (fence, .error e) => ({ s with fence := fence }, .error e)
    | (fence, .ok receipt) =>
      if drainReceiptValid view.now u nodes receipt = false then
        ({ s with fence := fence },
          .error (.runtimeError "route withdrawal drain receipt is invalid"))
      else
        match reserveNodes view.toRolloutView u .agentUpdate withdrawnNode (fun _ => rfl) s.db
          nodes with
        | .error e => ({ s with fence := fence }, .error e)
        | .ok (reserved, db) =>
          let (db', result) := dispatchUpdates view db u reserved
          (⟨db', fence⟩, result)

def advanceCompensation (view : CallView) (s : System) (u : UpdateRollout)
    (nodes : List UpdateRolloutNode) : System × Except JobError Unit :=
  match batchLease s.db u nodes with
  | .error e => (s, .error e)
  | .ok grant =>
    if grant.state ≠ .releasing then
      (s, .error (.runtimeError "update rollout compensating mutation lease is absent"))
    else
      match withdrawRoutes s.fence (u.id, u.currentBatch) view.withdrawal with
      | (fence, .error e) => ({ s with fence := fence }, .error e)
      | (fence, .ok _) =>
        match (do
          let held ← ofLease (LeaseHandoff.reholdBatch s.db view.now u)
          projectJob (setRollout held u.id fun r => { r with state := .paused }) u
            .waitingForOperator u.failureReason view.now : Except JobError Database) with
        | .error e => ({ s with fence := fence }, .error e)
        | .ok db => (⟨db, fence⟩, .ok ())

def advance (view : CallView) (s : System) (id : Uuid) : System × Except JobError Unit :=
  match (do
    let u ← rolloutOf s.db id
    let nodes ← batchNodes view.digests s.db u
    .ok (u, nodes) : Except JobError (UpdateRollout × List UpdateRolloutNode)) with
  | .error e => (s, .error e)
  | .ok (u, nodes) =>
    match u.state with
    | .compensatingWithdrawal => advanceCompensation view s u nodes
    | .withdrawing => advanceWithdrawing view s u nodes
    | .publishing | .failurePublishing | .rollbackPublishing => advanceRestoration view s u nodes
    | _ =>
      match advanceInSession view.toRolloutView s.db id with
      | .error e => (s, .error e)
      | .ok db => ({ s with db := db }, .ok ())

def pausedCandidates (db : Database) (id : Uuid) :
    Except JobError (UpdateRollout × List UpdateRolloutNode) := do
  let u ← rolloutOf db id
  if u.state ≠ .paused then .error (.valueError "update rollout is not paused")
  else
    let nodes ← batchNodes view.digests db u
    let failed := rollbackCandidates view.digests db u nodes view.now
    if failed = [] then .error (.valueError "update rollout has no mutated node to roll back")
    else .ok (u, failed)

/-- `authorize_rollback`: only the worker uses the grant. -/
def authorizeRollback (db : Database) (id : Uuid)
    (issue : Uuid → Uuid → List NodeId → Except JobError AdminGrant) :
    Except JobError Database := do
  let (u, failed) ← pausedCandidates view db id
  match u.jobId with
  | none => .error (.valueError "update rollout job binding is absent")
  | some jobId => do
    let grant ← issue u.id jobId (failed.map (·.nodeId))
    .ok (setRollout db id fun r => { r with rollbackAdminGrant := some grant })

def unboundNode : UpdateRolloutNode := { n with rollbackOperationId := none }

def rollingNode (op : Uuid) (n : UpdateRolloutNode) : UpdateRolloutNode :=
  { n with
    rollbackOperationId := some op
    state := .rollingBack
    activationDeadline := some (now + seconds 180) }

def storeRollbackGrant (db : Database) (id : Uuid) (grant : Option AdminGrant) : Database :=
  match grant with
  | some grant => setRollout db id fun r => { r with rollbackAdminGrant := some grant }
  | none => db

def reserveRollbacks (db : Database) (id : Uuid) (grant : Option AdminGrant) :
    Except JobError (UpdateRollout × List (UpdateRolloutNode × ReservedUpdateAuthorization) ×
      Database) := do
  let (u, failed) ← pausedCandidates view db id
  let (reserved, db'') ← reserveNodes view u .agentRollback unboundNode (fun _ => rfl)
    (storeRollbackGrant db id grant) failed
  .ok (u, reserved, db'')

end

/-- `begin_rollback` with the grant of the caller, or with the stored one. -/
def beginRollback (view : CallView) (db : Database) (id : Uuid) (grant : Option AdminGrant) :
    Database × Except JobError Unit :=
  match reserveRollbacks view.toRolloutView db id grant with
  | .error e => (db, .error e)
  | .ok (u, reserved, db') =>
    match signNodes view reserved with
    | .error e => (db', .error e)
    | .ok signed => quarantine db' reserved do
      let queued ← finalizeNodes view.now (rollingNode view.now) (fun _ _ => rfl) db' signed
      projectJob (setRollout queued u.id fun r => { r with state := .rollingBack }) u .running none
        view.now

def resetNode : UpdateRolloutNode :=
  if n.state = .failed ∨ n.state = .rolledBack then
    { n with
      operationId := none
      rollbackOperationId := none
      state := .pending
      dispatchAt := none
      activationDeadline := none
      failureReason := none }
  else n

end

lemma id_planned (u : UpdateRollout) :
    { u with state := .planned, failureReason := none : UpdateRollout }.id = u.id := rfl

lemma key_resetNode (n : UpdateRolloutNode) : Keyed.key (resetNode n) = Keyed.key n := by
  unfold resetNode
  split_ifs <;> rfl

/-- The characters that `strip` removes. -/
def isSpace (c : Char) : Bool :=
  let v := c.toNat
  (9 ≤ v && v ≤ 13) || (28 ≤ v && v ≤ 32) || v = 0x85 || v = 0xA0 || v = 0x1680 ||
    (0x2000 ≤ v && v ≤ 0x200A) || v = 0x2028 || v = 0x2029 || v = 0x202F || v = 0x205F || v = 0x3000

def reasonInvalid (reason : String) : Bool :=
  reason.toList.all isSpace || 1024 < reason.toList.length

def approveResume (view : RolloutView) (db : Database) (id : Uuid) (reason : String) :
    Except JobError Database := do
  if reasonInvalid reason then
    .error (.valueError "update rollout approval reason is invalid")
  else
    let u ← rolloutOf db id
    if u.state ≠ .paused ∧ u.state ≠ .waitingForApproval then
      .error (.valueError "update rollout is not waiting for approval")
    else
      let nodes ← batchNodes view.digests db u
      if u.state = .paused ∧ (nodes.all fun n =>
          n.state = .failed && sourceIsUnchanged db u n view.now false) = false then
        .error (.valueError "update rollout requires rollback before approval")
      else do
        let db' ← projectJob
          (setRollout db id (fun r => { r with state := .planned, failureReason := none }) id_planned) u
          .running none view.now
        .ok (setNodes db' nodes resetNode key_resetNode)

def plannedRows (d : Digests) (id : Uuid) (u : UpdateRollout) : List UpdateRolloutNode :=
  (u.batches.zipIdx.flatMap fun b => b.1.nodes.zipIdx.map fun n =>
    { rolloutId := id, nodeId := n.1, batchIndex := b.2, nodeOrder := n.2,
      sourceIdentityDigest := ((plannedSource u n.1).map d.source).getD 0,
      targetArtifactDigest := ((nodePayload u n.1).map (·.payloadSha256)).getD 0 }) ++
  u.offlinePending.zipIdx.map fun n =>
    { rolloutId := id, nodeId := n.1, batchIndex := -1, nodeOrder := n.2, state := .offlinePending,
      sourceIdentityDigest := ((plannedSource u n.1).map d.source).getD 0 }

def create (view : RolloutView) (db : Database) (plan : UpdatePlan) (id jobId : Uuid)
    (grant : Option AdminGrant) : Except JobError Database :=
  if plan.batches = [] then .error (.valueError "update plan has no online compatible targets")
  else if plan.incompatible ≠ [] then
    .error (.valueError "incompatible agent skew blocks platform update")
  else if db.rollouts.rows.any fun u => u.planDigest = plan.planDigest then .ok db
  else
    let u : UpdateRollout :=
      { plan with id := id, jobId := some jobId, updateAdminGrant := grant, createdAt := view.now }
    match db.rollouts.insert u, db.jobs.insert
      { id := jobId, kind := .platformUpdate, baseCommit := plan.baseCommit,
        targets := plan.batches.flatMap (·.nodes), updatedAt := view.now } with
    | some rollouts, some jobs =>
      .ok { db with
        rollouts := rollouts
        jobs := jobs
        rolloutNodes := db.rolloutNodes.insertAllIgnore (plannedRows view.digests id u) }
    | _, _ => .error .integrityError

end VonkForge.Updates
