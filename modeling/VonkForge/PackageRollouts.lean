import VonkForge.OperationGroups

/-!
# Package rollouts

`PackageRolloutOrchestrator`: every call of `advance` walks the current batch once, beneath the one
parent job of the rollout.
-/

namespace VonkForge.Packages

open OperationGroups
open AgentJobs (JobError)

abbrev DeploymentId := ℕ

structure GraphOperation where
  operationId : GraphId
  nodeId : NodeId
  workloadId : DeploymentId
  kind : AgentOperation
  dependencies : List GraphId := []
  deriving DecidableEq

/-- The kinds that `_package_graph` plans. -/
def plannedKind : AgentOperation → Bool
  | .packagePrepare | .packageActivate | .packageHealth | .packageStop => true
  | _ => false

structure PackagePlan (P : Type) where
  deploymentId : DeploymentId
  commit : Commit
  targets : List NodeId
  graph : List GraphOperation
  payloads : List (GraphId × P)
  /-- `release["rollback_payloads"]`. -/
  rollbackPayloads : List (NodeId × P) := []
  nodup : (graph.map (·.operationId)).Nodup
  backed : ∀ g ∈ graph, (payloads.lookup g.operationId).isSome
  targeted : ∀ g ∈ graph, g.nodeId ∈ targets
  kinds : ∀ g ∈ graph, plannedKind g.kind = true
  ordered : ∀ before g after, graph = before ++ g :: after → ∀ d ∈ g.dependencies,
    ∃ h ∈ before, h.operationId = d ∧ h.nodeId = g.nodeId

inductive RolloutState
  | planned
  | preparing
  | activating
  | healthChecking
  | soaking
  | paused
  | rollingBack
  | completed
  | failed
  | rolledBack
  | cancelled
  | running
  | partly
  | waitingForOperator
  deriving DecidableEq

structure PackageRollout (P : Type) where
  id : Uuid
  jobId : Option Uuid
  deploymentId : DeploymentId
  baseCommit : Commit
  planDigest : Digest
  plan : PackagePlan P
  state : RolloutState := .planned
  currentBatch : ℕ := 0
  failureReason : Option String := none

instance {P : Type} : Keyed (PackageRollout P) Uuid := ⟨PackageRollout.id⟩

inductive NodeState
  | offlinePending
  | pending
  | queued
  | running
  | preparing
  | prepared
  | activating
  | healthChecking
  | accepted
  | failed
  | rollingBack
  | rolledBack
  | cancelled
  deriving DecidableEq

/-- An entry of `operation_history`; a rollback has no graph operation. -/
structure HistoryItem where
  graphOperationId : Option GraphId
  kind : AgentOperation
  operationId : Uuid
  accepted : Bool := false
  deriving DecidableEq

structure PackageRolloutNode where
  rolloutId : Uuid
  nodeId : NodeId
  (batchIndex nodeOrder : ℕ)
  isCanary : Bool
  state : NodeState := .pending
  operationKind : AgentOperation
  graphOperationId : GraphId
  operationId : Option Uuid := none
  rollbackOperationId : Option Uuid := none
  operationHistory : List HistoryItem := []
  failureReason : Option String := none

instance : Keyed PackageRolloutNode (Uuid × NodeId) := ⟨fun n => (n.rolloutId, n.nodeId)⟩

/-- The document of a job: the rollout that a package job carries, or any other. -/
inductive JobDocument
  | packageRollout (rolloutId : Uuid) (planDigest : Digest)
  | other

structure System (P : Type) where
  queue : Queue JobDocument P := {}
  rollouts : Table (PackageRollout P) := .empty
  nodes : Table PackageRolloutNode := .empty

structure Config (P : Type) where
  planDigest : PackagePlan P → Digest
  /-- What the claim message says of a payload that it rejects. -/
  invalid : AgentOperation → P → Option String := fun _ _ => none

@[simp] lemma key_packageRollout {P : Type} (r : PackageRollout P) : Keyed.key r = r.id := rfl

@[simp] lemma key_packageNode (n : PackageRolloutNode) : Keyed.key n = (n.rolloutId, n.nodeId) :=
  rfl

section Orchestrator

variable {P : Type}

def isPackage : AgentOperation → Bool
  | .packagePrepare | .packageActivate | .packageHealth | .packageStop | .packageRollback
  | .packageRemove | .packageRepair | .packageGc => true
  | _ => false

section

variable (plan : PackagePlan P) (s : System P)

def packageNodes : List GraphOperation :=
  plan.graph.filter fun g => g.workloadId = plan.deploymentId && isPackage g.kind

def rolloutNodes : List NodeId :=
  ((packageNodes plan).map (·.nodeId)).dedup.insertionSort (· ≤ ·)

section

variable (n : PackageRolloutNode) (history : List HistoryItem) (id : Uuid)

def projectedNodes (plan : PackagePlan P) (rolloutId : Uuid) :
    ℕ → List NodeId → List PackageRolloutNode
  | _, [] => []
  | order, nodeId :: rest =>
    match (packageNodes plan).find? fun g => decide (g.nodeId = nodeId) with
    | none => projectedNodes plan rolloutId (order + 1) rest
    | some first =>
      { rolloutId := rolloutId, nodeId := nodeId, batchIndex := if order = 0 then 0 else 1,
        nodeOrder := order, isCanary := order = 0, operationKind := first.kind,
        graphOperationId := first.operationId } :: projectedNodes plan rolloutId (order + 1) rest

def insertRollout (rollouts : Table (PackageRollout P)) (r : PackageRollout P) :
    Except JobError (Table (PackageRollout P)) :=
  match rollouts.insert r with
  | some rollouts => .ok rollouts
  | none => .error .integrityError

def insertNode (nodes : Table PackageRolloutNode) (n : PackageRolloutNode) :
    Except JobError (Table PackageRolloutNode) :=
  match nodes.insert n with
  | some nodes => .ok nodes
  | none => .error .integrityError

structure CreateCall where
  (rolloutId jobId requestId : Uuid)

def create (cfg : Config P) (call : CreateCall) (plan : PackagePlan P) (s : System P) :
    Except JobError (Uuid × System P) :=
  if packageNodes plan = [] then .error (.valueError "package rollout has no target operations")
  else
    match s.rollouts.rows.find? fun r => decide (r.planDigest = cfg.planDigest plan) with
    | some existing => .ok (existing.id, s)
    | none => do
      let queue ← insertJob s.queue
        { id := call.jobId, requestId := call.requestId, baseCommit := plan.commit,
          targets := plan.targets,
          document := .packageRollout call.rolloutId (cfg.planDigest plan) }
      let rollouts ← insertRollout s.rollouts
        { id := call.rolloutId, jobId := some call.jobId, deploymentId := plan.deploymentId,
          baseCommit := plan.commit, planDigest := cfg.planDigest plan, plan := plan }
      let nodes ← (projectedNodes plan call.rolloutId 0 (rolloutNodes plan)).foldlM insertNode s.nodes
      .ok (call.rolloutId, { queue := queue, rollouts := rollouts, nodes := nodes })

structure AdvanceCall where
  operationIds : NodeId → Uuid
  jobId : Uuid := 0
  requestId : Uuid := 0

def setRolloutState (state : RolloutState) : System P :=
  { s with rollouts := s.rollouts.updateWhere (fun r => decide (r.id = id)) fun r =>
      { r with state := state } }

def failRollout (state : RolloutState) (reason : String) : System P :=
  { s with rollouts := s.rollouts.updateWhere (fun r => decide (r.id = id)) fun r =>
      { r with state := state, failureReason := some reason } }

def enterBatch (batch : ℕ) : System P :=
  { s with rollouts := s.rollouts.updateWhere (fun r => decide (r.id = id)) fun r =>
      { r with state := .planned, currentBatch := batch } }

def storeNode : System P :=
  { s with
    nodes := s.nodes.updateWhere
      (fun m => decide ((m.rolloutId, m.nodeId) = (n.rolloutId, n.nodeId)))
      (fun m => { n with rolloutId := m.rolloutId, nodeId := m.nodeId }) }

def nodesOf : List PackageRolloutNode :=
  (s.nodes.select fun n => n.rolloutId = id).insertionSort fun n m =>
    toLex (n.batchIndex, n.nodeOrder) ≤ toLex (m.batchIndex, m.nodeOrder)

def jobInSession (call : AdvanceCall) (s : System P) (r : PackageRollout P) :
    Except JobError (Uuid × System P) :=
  match r.jobId.bind s.queue.jobs.get? with
  | some job => .ok (job.id, s)
  | none =>
    match s.queue.jobs.rows.find? fun j =>
        match j.document with
        | .packageRollout id _ => decide (id = r.id)
        | .other => false with
    | some job => .ok (job.id, s)
    | none => do
      let queue ← insertJob s.queue
        { id := call.jobId, requestId := call.requestId, baseCommit := r.baseCommit,
          document := .packageRollout r.id r.planDigest }
      .ok (call.jobId, { s with queue := queue })

def completedOperations : List GraphId :=
  history.filterMap fun item => if item.accepted then item.graphOperationId else none

def readyOperation (nodeId : NodeId) (completed : List GraphId) (g : GraphOperation) : Option
    (GraphOperation × P) :=
  if g.nodeId = nodeId ∧ g.operationId ∉ completed ∧ ∀ d ∈ g.dependencies, d ∈ completed then
    (plan.payloads.lookup g.operationId).map fun payload => (g, payload)
  else none

def nextOperation (nodeId : NodeId) (history : List HistoryItem) : Option (GraphOperation × P) :=
  plan.graph.findSome? (readyOperation plan nodeId (completedOperations history))

def historyKind (operationId : Uuid) : Option AgentOperation :=
  (history.find? fun item => decide (item.operationId = operationId)).map (·.kind)

def acceptOperation (operationId : Uuid) : List HistoryItem :=
  history.map fun item => if item.operationId = operationId then { item with accepted := true } else item

def enqueuedState : AgentOperation → NodeState
  | .packageActivate => .activating
  | .packageHealth => .healthChecking
  | _ => .preparing

def enqueuedNode (g : GraphOperation) (id : Uuid) : PackageRolloutNode :=
  { n with
    operationId := some id, operationKind := g.kind, graphOperationId := g.operationId
    operationHistory := n.operationHistory ++ [⟨some g.operationId, g.kind, id, false⟩]
    state := enqueuedState g.kind }

end

structure Visit (P : Type) where
  rollout : PackageRollout P
  jobId : Uuid

variable (cfg : Config P) (call : AdvanceCall) (v : Visit P)

def proceed (s : System P) (n : PackageRolloutNode) : Except JobError (System P × Bool) :=
  if n.state = .accepted ∨ n.state = .cancelled ∨ n.state = .failed ∨ n.state = .rolledBack ∨
      n.state = .offlinePending then .ok (s, false)
  else
    match nextOperation v.rollout.plan n.nodeId n.operationHistory with
    | none => .ok (storeNode s { n with state := .accepted }, false)
    | some (g, payload) => do
      let id := call.operationIds n.nodeId
      let queue ← enqueueInSession cfg.invalid s.queue v.rollout.baseCommit
        { id := id, parentJobId := v.jobId, nodeId := n.nodeId, kind := g.kind, payload := payload }
      .ok (storeNode { s with queue := queue } (enqueuedNode n g id), true)

def rolledBack (s : System P) (n : PackageRolloutNode) : System P :=
  let s := setRolloutState (storeNode s { n with state := .rolledBack }) v.rollout.id .rolledBack
  { s with queue := setJobState s.queue v.jobId .failed }

/-- The operation of a node did not complete: it is rolled back where the plan says how, and waits
for an operator otherwise. -/
def failNode (s : System P) (n : PackageRolloutNode) (kind : Option AgentOperation) :
    Except JobError (System P × Bool) :=
  match v.rollout.plan.rollbackPayloads.lookup n.nodeId with
  | some payload =>
    if kind = some .packageActivate ∨ kind = some .packageHealth then do
      let id := call.operationIds n.nodeId
      let queue ← enqueueInSession cfg.invalid s.queue v.rollout.baseCommit
        { id := id, parentJobId := v.jobId, nodeId := n.nodeId, kind := .packageRollback,
          payload := payload }
      .ok (setRolloutState (storeNode { s with queue := queue }
        { n with
          operationId := some id, operationKind := .packageRollback
          rollbackOperationId := some id
          operationHistory := n.operationHistory ++ [⟨none, .packageRollback, id, false⟩]
          state := .rollingBack }) v.rollout.id .rollingBack, true)
    else .ok (waits, false)
  | none => .ok (waits, false)
where
  /-- The node failed, and the rollout and its job wait for an operator. -/
  waits : System P :=
    let reason := "package operation did not complete"
    let s := failRollout (storeNode s { n with state := .failed, failureReason := some reason })
      v.rollout.id .waitingForOperator reason
    { s with queue := setJobState s.queue v.jobId .waitingForOperator }

def visitNode (s : System P) (n : PackageRolloutNode) : Except JobError (System P × Bool) :=
  match n.operationId.bind s.queue.operations.get? with
  | none => proceed cfg call v s n
  | some active =>
    let kind := historyKind n.operationHistory active.id
    match active.state with
    | .queued | .running => .ok (s, false)
    | .succeeded =>
      let n := { n with operationHistory := acceptOperation n.operationHistory active.id }
      if kind = some .packageRollback then .ok (rolledBack v s n, false)
      else proceed cfg call v (storeNode s n) n
    | .failed | .waitingForOperator => failNode cfg call v s n kind
    | .compensated => proceed cfg call v s n

def visitBatch (cfg : Config P) (call : AdvanceCall) (v : Visit P) :
    System P → List PackageRolloutNode → Except JobError (System P × Bool)
  | s, [] => .ok (s, false)
  | s, n :: batch => do
    let (s, queued) ← visitNode cfg call v s n
    let (s, later) ← visitBatch cfg call v s batch
    .ok (s, queued || later)

def stateOf (id : Uuid) : Option RolloutState := (s.rollouts.get? id).map (·.state)

end

/-- What a call does after its walk: something was enqueued, the batch is accepted, or neither. -/
def settleBatch (v : Visit P) (later : Bool) (s : System P) (queued : Bool) : System P :=
  let id := v.rollout.id
  if queued then
    if stateOf s id = some .rollingBack then s else setRolloutState s id .running
  else if (nodesOf s id).all fun n => n.batchIndex ≠ v.rollout.currentBatch || n.state = .accepted then
    if later then enterBatch s id (v.rollout.currentBatch + 1)
    else
      { setRolloutState s id .completed with queue := setJobState s.queue v.jobId .succeeded }
  else s

/-- `advance`, with the state that it returns. -/
def advance (cfg : Config P) (call : AdvanceCall) (s : System P) (id : Uuid) :
    Except JobError (System P) :=
  match s.rollouts.get? id with
  | none => .error (.keyError id)
  | some r =>
    if r.state = .completed ∨ r.state = .failed ∨ r.state = .cancelled ∨ r.state = .partly then .ok s
    else
      let nodes := nodesOf s id
      if nodes = [] then
        .ok (failRollout s id .failed "package rollout has no target nodes")
      else do
        let (jobId, s) ← jobInSession call s r
        let batch := nodes.filter fun n => n.batchIndex = r.currentBatch
        let v : Visit P := ⟨r, jobId⟩
        if batch = [] then
          .ok { setRolloutState s id .completed with queue := setJobState s.queue jobId .succeeded }
        else do
          let (s, queued) ← visitBatch cfg call v s batch
          .ok (settleBatch v (nodes.any fun n => r.currentBatch < n.batchIndex) s queued)

end Orchestrator

end VonkForge.Packages
