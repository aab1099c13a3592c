import VonkForge.RecipeAdmission

/-!
# Recipe operations

`RecipeOperationService`: a call is answered from the job that its request key is bound to, or it
queues one group of operations.
-/

namespace VonkForge.Recipes

open OperationGroups
open AgentJobs (ResultState)

structure RecipeOperationView where
  (id requestId : Uuid)
  kind : AgentOperation
  ownerId : Uuid
  planDigest : Digest
  state : JobState
  nodes : List NodeId
  deriving DecidableEq

def view (job : GroupJob JobDocument) (doc : RecipeJob) : RecipeOperationView :=
  ⟨job.id, job.requestId, doc.kind, doc.ownerId, doc.planDigest, job.state, job.targets⟩

section

variable (cfg : Config) (db : Database)

def bound (requestId : Uuid) : Option (GroupJob JobDocument) :=
  db.queue.jobs.rows.find? fun j => decide (j.requestId = requestId)

def usedDifferently : RecipeError := .conflict "request key was already used differently"

/-- `_idempotent`: the answer that the request key is bound to. -/
def idempotent (requestId : Uuid) (kind : AgentOperation) (planDigest : Option Digest) : Except
    RecipeError (Option RecipeOperationView) :=
  match bound db requestId with
  | none => .ok none
  | some job =>
    match job.document with
    | .other => .error usedDifferently
    | .recipe doc =>
      if doc.kind ≠ kind ∨ (planDigest.isSome ∧ planDigest ≠ some doc.planDigest) then
        .error usedDifferently
      else .ok (some (view job doc))

section

variable (env : Env) (db : Database)

variable (doc : RecipeJob) (runId : Uuid) (nodeId : NodeId) (o : GroupOperation RecipePayload)
  (succeeded : Bool) (evidence : Evidence)

def enqueueFor (kind : AgentOperation) (authority : Digest)
    (q : Queue JobDocument RecipePayload) (target : NodeId × RecipePayload) : Except RecipeError
    (Queue JobDocument RecipePayload) :=
  queueResult (enqueueInSession cfg.invalid q authority
    { id := env.operationIds target.1, parentJobId := env.jobId, nodeId := target.1, kind := kind,
      payload := target.2 })

def queueInSession (requestId : Uuid) (authority : Digest)
    (nodePayloads : List (NodeId × RecipePayload)) : Except RecipeError
    (RecipeOperationView × Database) := do
  require (nodePayloads ≠ []) (.conflict "operation group has no target nodes")
  require (bound db requestId = none) usedDifferently
  let job : GroupJob JobDocument :=
    { id := env.jobId, requestId := requestId, baseCommit := authority,
      targets := (nodePayloads.map (·.1)).insertionSort (· ≤ ·), document := .recipe doc }
  let queue ← queueResult (insertJob db.queue job)
  let queue ← nodePayloads.foldlM (enqueueFor cfg env doc.kind authority) queue
  .ok (view job doc, { db with queue := queue })

def addArtifact (a : NodeArtifact) : Database :=
  { db with world := { db.world with artifacts := db.world.artifacts ++ [a] } }

def findArtifact (digest : Digest) : Option NodeArtifact :=
  db.world.artifacts.find? fun a => decide (a.nodeId = nodeId ∧ a.digest = digest)

def recordBuildEvidence (build : RecipeBuild) (evidence : Evidence) : Except RecipeError Database :=
  match evidence with
  | .build e => do
    require (e.buildInputSha256 = build.buildInputSha256 ∧
        1 ≤ e.imageBytes ∧ e.imageBytes ≤ 16 * 1024 ^ 4 ∧
        e.policy = (true, build.plan.dockerfile) ∧
        (build.imageDigest = none ∨ build.imageDigest = some e.imageDigest) ∧
        (build.ociLayoutSha256 = none ∨ build.ociLayoutSha256 = some e.ociLayoutSha256) ∧
        (build.imageBytes = none ∨ build.imageBytes = some e.imageBytes))
      (.conflict "recipe build evidence is invalid")
    let db := setBuild db build.id fun _ =>
      { state := .succeeded, imageDigest := some e.imageDigest
        ociLayoutSha256 := some e.ociLayoutSha256, imageBytes := some e.imageBytes, error := none }
    .ok (match findArtifact db build.builderNodeId e.imageDigest with
      | some _ => db
      | none => addArtifact db
          ⟨build.builderNodeId, true, e.imageDigest, "oci-layout:" ++ toString e.ociLayoutSha256,
            e.imageBytes, true⟩)
  | _ => .error (.conflict "recipe build evidence is invalid")

def recordImageImportEvidence (succeeded : Bool) : Except RecipeError Database :=
  if succeeded = false then .ok db
  else
    let invalid : RecipeError := .conflict "recipe image import evidence is invalid"
    match o.payload, evidence with
    | .imageImport p, .imageImport e => do
      let build ← fetch (db.builds.get? p.buildId) invalid
      let imageDigest ← fetch build.imageDigest invalid
      let layout ← fetch build.ociLayoutSha256 invalid
      let imageBytes ← fetch build.imageBytes invalid
      require (build.state = .succeeded ∧ e = ⟨build.id, imageBytes, imageDigest, layout⟩ ∧
        p.imageDigest = imageDigest ∧ p.ociLayoutSha256 = layout ∧ p.imageBytes = imageBytes) invalid
      match findArtifact db o.nodeId imageDigest with
      | none => .ok (addArtifact db
          ⟨o.nodeId, true, imageDigest, "oci-layout:" ++ toString layout, imageBytes, true⟩)
      | some a => do
        require (a.image = true ∧ a.sizeBytes = imageBytes ∧ a.verified = true)
          (.conflict "recipe image import conflicts with local artifact state")
        .ok db
    | _, _ => .error invalid

def validateStartEvidence : Except RecipeError (Endpoint × Digest) :=
  match evidence with
  | .start e digest => do
    require (e.ready = true) (.conflict "start evidence is invalid")
    let unavailable : RecipeError := .conflict "start evidence authority is unavailable"
    let run ← fetch (db.runs.get? runId) unavailable
    let installation ← fetch (db.installations.get? run.installationId) unavailable
    let revision ← fetch (db.world.revisions.get? installation.recipeRevisionId) unavailable
    let invalid : RecipeError := .conflict "start evidence authority is invalid"
    let first ← fetch revision.document.artifacts.head? invalid
    match o.payload with
    | .start p => do
      let endpoint : Endpoint := ⟨p.endpointAddress, p.port⟩
      require (e.recipeRevisionId = p.recipeRevisionId ∧
          e.recipeContentSha256 = p.recipeContentSha256 ∧
          e.imageDigest = installation.imageDigest ∧ e.modelIdentity = some first.source ∧
          e.rank = p.rank ∧ e.worldSize = p.worldSize ∧ e.endpoint = endpoint ∧
          e.memoryReservationBytes = p.reservedMemoryBytes)
        (.conflict "start evidence does not match its fenced request")
      require (digest = cfg.evidenceDigest e) (.conflict "start evidence digest is invalid")
      .ok (endpoint, digest)
    | _ => .error invalid
  | _ => .error (.conflict "start evidence is invalid")

def setInstallationNode (installationId : Uuid) (nodeId : NodeId)
    (f : InstallationNode → InstallationNodeState × ℕ) : Database :=
  { db with
    installationNodes := db.installationNodes.updateWhere
      (fun n => decide (n.installationId = installationId ∧ n.nodeId = nodeId))
      (fun n => { n with state := (f n).1, installedBytes := (f n).2 }) }

def setRunNode (state : RunNodeState) (ready : Option (Endpoint × Digest)) (now : Time) :
    Database :=
  { db with
    runNodes := db.runNodes.updateWhere (fun n => decide (n.runId = runId ∧ n.nodeId = nodeId))
      (fun n =>
        { n with
          state := state, updatedAt := now
          endpoint := (ready.map (·.1)).or n.endpoint
          evidenceDigest := (ready.map (·.2)).or n.evidenceDigest }) }

/-- What the result of one node changes in the rows of its owner. -/
def recordNode : Except RecipeError Database :=
  match doc.kind with
  | .recipeBuild => do
    let invalid : RecipeError := .conflict "recipe build authority is invalid"
    let build ← fetch (db.builds.get? doc.ownerId) invalid
    require (build.builderNodeId = o.nodeId) invalid
    if succeeded then recordBuildEvidence db build evidence
    else
      let reason := match evidence with
        | .other (some reason) => reason
        | _ => "agent build failed"
      .ok (setBuild db build.id fun b =>
        { b with state := .failed, error := some (String.ofList (reason.toList.take 512)) })
  | .recipeImageImport => recordImageImportEvidence db o evidence succeeded
  | .recipeInstall => do
    let _ ← fetch (db.installationNodes.get? (doc.ownerId, o.nodeId)) .assertion
    if succeeded then
      match evidence with
      | .install installedBytes =>
        .ok (setInstallationNode db doc.ownerId o.nodeId fun _ => (.installed, installedBytes))
      | _ => .error (.conflict "install evidence is invalid")
    else .ok (setInstallationNode db doc.ownerId o.nodeId fun n => (.failed, n.installedBytes))
  | .recipeStart => do
    let _ ← fetch (db.runNodes.get? (doc.ownerId, o.nodeId)) .assertion
    if succeeded then do
      let ready ← validateStartEvidence cfg db doc.ownerId o evidence
      .ok (setRunNode db doc.ownerId o.nodeId .running (some ready) env.now)
    else .ok (setRunNode db doc.ownerId o.nodeId .failed none env.now)
  | .recipeStop => do
    let _ ← fetch (db.runNodes.get? (doc.ownerId, o.nodeId)) .assertion
    .ok (setRunNode db doc.ownerId o.nodeId (if succeeded then .stopped else .failed) none env.now)
  | .recipeUninstall => do
    let _ ← fetch (db.installationNodes.get? (doc.ownerId, o.nodeId)) .assertion
    .ok (setInstallationNode db doc.ownerId o.nodeId fun n =>
      (if succeeded then .uninstalled else .failed, n.installedBytes))
  | _ => .ok db

/-- `_TERMINAL_JOB_STATES`: an operation that waits for an operator has not ended here. -/
def ended : OperationState → Bool
  | .succeeded | .failed => true
  | _ => false

def stopPayloads (planDigest : Digest) : List (NodeId × RecipePayload) :=
  (runRanks db runId).map fun n => (n.nodeId, .stop runId planDigest)

def cleanupQueued : String := "one or more ranks failed to start; cleanup queued"

/-- The last result of a group settles its owner. -/
def settleOwner (jobId : Uuid) (doc : RecipeJob) (failed : Bool) : Except RecipeError Database :=
  match doc.kind with
  | .recipeBuild => .ok (release db .recipeBuild doc.ownerId)
  | .recipeInstall => do
    let _ ← fetch (db.installations.get? doc.ownerId) .assertion
    .ok (setInstallationState db doc.ownerId (if failed then .partly else .installed))
  | .recipeStart => do
    let run ← fetch (db.runs.get? doc.ownerId) .assertion
    if failed then
      let db := setRun db run.id fun r =>
        { r with state := .stopping, routeState := .withdrawn, routeError := some cleanupQueued }
      -- the clean-up is queued once for each start
      if (bound db (cfg.cleanupKey jobId)).isSome then .ok db
      else do
        let (_, db) ← queueInSession cfg env db ⟨.recipeStop, .run, run.id, run.planDigest⟩
          (cfg.cleanupKey jobId) run.planDigest (stopPayloads db run.id run.planDigest)
        .ok db
    else .ok (setRun db run.id fun r =>
      { r with state := .running, routeState := .pending, routeError := none })
  | .recipeStop => do
    let run ← fetch (db.runs.get? doc.ownerId) .assertion
    let db := setRun db run.id fun r => { r with state := if failed then .failed else .stopped }
    .ok (if failed then db else release db .run run.id)
  | .recipeUninstall => do
    let installation ← fetch (db.installations.get? doc.ownerId) .assertion
    let db := setInstallationState db installation.id (if failed then .failed else .uninstalled)
    .ok (if failed then db else release db .installation installation.id)
  | _ => .ok db

def projectNodeResult (jobId : Uuid) (doc : RecipeJob) (o : GroupOperation RecipePayload)
    (succeeded : Bool) (evidence : Evidence) : Except RecipeError Database := do
  let db ← recordNode cfg env db doc o succeeded evidence
  let operations := children db.queue jobId
  if operations.all fun c => ended c.state then
    let failed := operations.any fun c => c.state = .failed
    settleOwner cfg env
      { db with queue := setJobState db.queue jobId (if failed then .failed else .succeeded) }
      jobId doc failed
  else .ok { db with queue := setJobState db.queue jobId .running }

def consumeAgentResult (state : ResultState) (evidence : Evidence) : Except RecipeError Database :=
  match db.queue.jobs.get? o.parentJobId with
  | none => .ok db
  | some job =>
    match job.document, state with
    | .other, _ => .ok db
    | .recipe _, .waitingForOperator => .error (.conflict "recipe agent result is invalid")
    | .recipe doc, .succeeded => projectNodeResult cfg env db job.id doc o true evidence
    | .recipe doc, .failed => projectNodeResult cfg env db job.id doc o false evidence

def recordResult (id : Uuid) (state : ResultState) (evidence : Evidence) : Except RecipeError
    Database := do
  let (o, queue) ← queueResult (finishOperation db.queue id state)
  let db ← consumeAgentResult cfg env { db with queue := queue } o state evidence
  let queue ← queueResult (aggregateParent db.queue o.parentJobId)
  .ok { db with queue := queue }

end

structure Route where
  aliasName : String
  runId : Uuid
  endpoint : Endpoint
  deriving DecidableEq

def aliasHead (c : Char) : Bool := ('a' ≤ c && c ≤ 'z') || ('0' ≤ c && c ≤ '9')

def validAlias (s : String) : Bool :=
  match s.toList with
  | [] => false
  | c :: rest => aliasHead c && rest.length ≤ 62 &&
      rest.all fun c => aliasHead c || c = '.' || c = '_' || c = '-'

def routeEndpoint (n : RunNode) : Except RecipeError Endpoint := do
  let endpoint ← fetch n.endpoint (.route "entrypoint endpoint evidence is missing")
  require (endpoint.port = n.port ∧ cfg.routable endpoint.address = true)
    (.route "entrypoint endpoint is outside management policy")
  .ok endpoint

def routeOf (now : Time) (db : Database) (routes : List Route) (r : RecipeRun) : Except
    RecipeError Route := do
  require (validAlias r.aliasName = true ∧ r.aliasName ∉ routes.map (·.aliasName))
    (.route "recipe run alias is invalid or duplicated")
  let nodes := runRanks db r.id
  require (nodes ≠ [] ∧ ∀ n ∈ nodes, n.state = .running) (.route "every recipe rank must be running")
  require (r.ranks = nodes.length) (.route "recipe rank set does not match accepted plan")
  let entrypoint ← match nodes.filter fun n => n.role = "entrypoint" with
    | [entrypoint] => .ok entrypoint
    | _ => .error (.route "recipe run must have one rank-zero entrypoint")
  require (entrypoint.rank = 0) (.route "recipe run must have one rank-zero entrypoint")
  nodes.forM fun n => do
    require (n.updatedAt ≤ now ∧ now - n.updatedAt ≤ seconds cfg.maximumAge)
      (.route "recipe rank readiness evidence is stale")
    require (n.evidenceDigest.isSome = true) (.route "recipe rank readiness identity is invalid")
  let endpoint ← routeEndpoint cfg entrypoint
  .ok ⟨r.aliasName, r.id, endpoint⟩

def routedRuns (exclude : Option Uuid) : List RecipeRun :=
  ((db.runs.select fun r => r.state = .running).insertionSort fun r t =>
    r.aliasName < t.aliasName ∨ (r.aliasName = t.aliasName ∧ r.id ≤ t.id)).filter fun r =>
      some r.id ≠ exclude

/-- The routes of the running runs; one that is not ready fails them all. -/
def candidate (now : Time) (db : Database) (exclude : Option Uuid) : Except RecipeError
    (List Route) :=
  (routedRuns db exclude).foldlM (fun routes r => do
    let route ← routeOf cfg now db routes r
    .ok (routes ++ [route])) []

end

end VonkForge.Recipes
