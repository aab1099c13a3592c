import VonkForge.RecipeOperations

/-!
# Calls of the recipe services

A call is a sequence of sessions; a `Task` is a call that has got so far.
-/

namespace VonkForge.Recipes

open OperationGroups
open AgentJobs (ResultState)

structure BuildCall where
  plan : RecipeBuildPlan
  buildInputSha256 : Digest
  requestId : Uuid
  deriving DecidableEq

structure DistributeCall where
  (recipeBuildId mappingId : Uuid)
  mappingGeneration : ℕ
  requestId : Uuid
  deriving DecidableEq

structure InstallCall where
  plan : InstallPlan
  planDigest : Digest
  requestId : Uuid
  deriving DecidableEq

structure StartCall where
  plan : RunPlan
  planDigest : Digest
  aliasName : String
  requestId : Uuid
  deriving DecidableEq

structure StopCall where
  (runId requestId : Uuid)
  deriving DecidableEq

structure UninstallCall where
  (installationId requestId : Uuid)
  deriving DecidableEq

structure RetryCall where
  (operationId requestId : Uuid)
  deriving DecidableEq

inductive Request
  | build (c : BuildCall)
  | distribute (c : DistributeCall)
  | install (c : InstallCall)
  | start (c : StartCall)
  | stop (c : StopCall)
  | uninstall (c : UninstallCall)
  | retry (c : RetryCall)
  | publish (runId : Uuid)
  | withdraw (runId : Uuid)
  | tick
  deriving DecidableEq

structure Uninstalling where
  (planDigest recipeContentSha256 : Digest)
  nodes : List NodeId
  deriving DecidableEq

/-- The stop that a withdrawal belongs to, with the plan digest that it has read. -/
abbrev Stopping := Option (StopCall × Digest)

/-- Where a call stands.  `worker` marks a publication by the worker, which records a failure. -/
inductive Task
  | begin (r : Request)
  | buildAdmitted (c : BuildCall)
  | buildInspected (c : BuildCall) (snapshot : NodeInventorySnapshot)
  | distributePlanned (c : DistributeCall) (plan : DistributionIdentity)
      (targets : List (NodeId × RecipePayload))
  | distributeAdmitted (c : DistributeCall) (plan : DistributionIdentity)
      (targets : List (NodeId × RecipePayload))
  | installAdmitted (c : InstallCall)
  | installPlanned (c : InstallCall) (fresh : InstallPlan)
  | startAdmitted (c : StartCall)
  | startPlanned (c : StartCall) (addresses : List Address) (fresh : RunPlan)
  | stopAdmitted (c : StopCall)
  | stopChecked (c : StopCall) (planDigest : Digest)
  | stopWithdrawn (c : StopCall) (planDigest : Digest)
  | uninstallAdmitted (c : UninstallCall)
  | uninstallChecked (c : UninstallCall) (u : Uninstalling)
  | publishBegin (runId : Uuid) (worker : Bool)
  | publishReady (runId : Uuid) (worker : Bool)
  | publishComputed (runId : Uuid) (worker : Bool) (routes : List Route)
  | publishActivated (runId : Uuid) (worker : Bool) (generation : ℕ)
  | publishFailed (runId : Uuid) (text : String)
  | withdrawReady (runId : Uuid) (stop : Stopping)
  | withdrawComputed (runId : Uuid) (stop : Stopping) (routes : List Route)
  | withdrawActivated (runId : Uuid) (stop : Stopping) (generation : ℕ)
  deriving DecidableEq

structure Shared where
  db : Database := {}
  bundle : List Route := []
  generation : ℕ := 0

inductive Progress
  | next (task : Task)
  | returned (view : Option RecipeOperationView)

section Sessions

variable (cfg : Config) (env : Env) (db : Database)

def replay (requestId : Uuid) (kind : AgentOperation) (planDigest : Option Digest) (rest : Task) :
    Except RecipeError Progress := do
  let existing ← idempotent db requestId kind planDigest
  .ok (match existing with
    | some v => .returned (some v)
    | none => .next rest)

def checkBuild (c : BuildCall) : Except RecipeError Unit := do
  let stale : RecipeError := .conflict "recipe build preview is stale"
  let build ← fetch (db.builds.get? c.plan.buildId) stale
  require (build.state = .planned ∧ build.buildInputSha256 = c.plan.buildInputSha256 ∧
    build.builderNodeId = c.plan.builderNodeId) stale

/-- `build`, to the inventory that it reserves from. -/
def inspectBuild (c : BuildCall) : Except RecipeError NodeInventorySnapshot := do
  require (c.buildInputSha256 = c.plan.buildInputSha256)
    (.conflict "submitted build input does not match preview")
  checkBuild db c
  fetch (db.world.latest c.plan.builderNodeId)
    (.build "build.inventory_missing" "fresh builder inventory is unavailable")

def commitBuild (c : BuildCall) (snapshot : NodeInventorySnapshot) :
    Except RecipeError (RecipeOperationView × Database) := do
  checkBuild db c
  let db ← reserveInSession cfg env db c.plan snapshot
  queueInSession cfg env (setBuild db c.plan.buildId fun b => { b with state := .building })
    ⟨.recipeBuild, .recipeBuild, c.plan.buildId, c.plan.buildInputSha256⟩ c.requestId
    c.plan.buildInputSha256 [(c.plan.builderNodeId, .build c.plan.agentPayload)]

/-- `except (KeyError, RuntimeError, ValueError)` of `distribute_image`. -/
def distributionConflict {α : Type} : Except RecipeError α → Except RecipeError α
  | .error (.key id) => .error (.conflict id)
  | x => asConflict x

def commitDistribution (c : DistributeCall) (plan : DistributionIdentity)
    (targets : List (NodeId × RecipePayload)) :
    Except RecipeError (RecipeOperationView × Database) := do
  require (targets ≠ []) (.conflict "exact built image is already present on every mapped GPU node")
  queueInSession cfg env db
    ⟨.recipeImageImport, .imageDistribution, plan.buildId, cfg.distributionDigest plan⟩ c.requestId
    (cfg.distributionDigest plan) targets

def planDigestMismatch : RecipeError := .conflict "submitted plan digest does not match preview"

/-- `install`, to the plan that acceptance computes again. -/
def refreshInstall (c : InstallCall) : Except RecipeError InstallPlan := do
  require (c.planDigest = c.plan.planDigest) planDigestMismatch
  asConflict (planInstall cfg db env.now c.plan.mappingId c.plan.recipeBuildId)

def installPayload (i : RecipeInstallation) (content : Digest) (rank : ℕ) (role : String)
    (bytes : ℕ) : RecipePayload :=
  .install ⟨i.id, i.recipeRevisionId, content, i.mappingId, i.mappingGeneration, i.recipeBuildId,
    i.imageDigest, i.planDigest, rank, role, bytes⟩

/-- `install`, from the locks of acceptance. -/
def commitInstall (c : InstallCall) (fresh : InstallPlan) :
    Except RecipeError (RecipeOperationView × Database) := do
  let (id, db) ← asConflict (acceptInstallInSession env db c.plan fresh)
  let installation ← fetch (db.installations.get? id) .assertion
  queueInSession cfg env (setInstallationState db id .installing)
    ⟨.recipeInstall, .installation, id, c.plan.planDigest⟩ c.requestId c.plan.recipeContentSha256
    (c.plan.nodes.map fun n =>
      (n.nodeId, installPayload installation c.plan.recipeContentSha256 n.rank n.role n.requiredBytes))

/-- `start`, to the plan that acceptance computes again. -/
def refreshStart (c : StartCall) : Except RecipeError (List Address × RunPlan) := do
  require (c.planDigest = c.plan.planDigest) planDigestMismatch
  let addresses ← c.plan.nodes.mapM fun n => do
    let presence ← fetch (db.world.presences.get? n.nodeId)
      (.conflict "recipe node endpoint evidence is unavailable")
    .ok presence.managementAddress
  let master ← fetch (c.plan.nodes.find? fun n => n.rank = 0)
    (.conflict "recipe run has no rank-zero entrypoint")
  require (c.plan.nodes.length ≤ 1 ∨
      (master.fabricAddress.isSome = true ∧ master.rendezvousPort.isSome = true))
    (.conflict "recipe direct-fabric rendezvous is unavailable")
  let fresh ← asConflict (planRun cfg db env.now c.plan.installationId)
  .ok (addresses, fresh)

def startPayload (plan : RunPlan) (aliasName : String) (runId : Uuid) (content imageDigest : Digest)
    (n : RunNodePlan) (address : Address) : RecipePayload :=
  let master := if plan.nodes.length ≤ 1 then none else plan.nodes.find? fun n => n.rank = 0
  .start
    { runId := runId, installationId := plan.installationId
      recipeRevisionId := plan.recipeRevisionId, recipeContentSha256 := content
      mappingId := plan.mappingId, mappingGeneration := plan.mappingGeneration
      imageDigest := imageDigest, planDigest := plan.planDigest, aliasName := aliasName
      rank := n.rank, role := n.role, port := n.port
      reservedMemoryBytes := n.requiredMemoryBytes, endpointAddress := address
      worldSize := plan.nodes.length
      localAddress := if plan.nodes.length ≤ 1 then none else n.fabricAddress
      masterAddress := master.bind (·.fabricAddress), masterPort := master.bind (·.rendezvousPort) }

/-- `start`, from the locks of acceptance. -/
def commitStart (c : StartCall) (addresses : List Address) (fresh : RunPlan) :
    Except RecipeError (RecipeOperationView × Database) := do
  let (runId, db) ← asConflict (acceptRunInSession cfg env db c.plan fresh c.aliasName)
  let revision ← fetch (db.world.revisions.get? c.plan.recipeRevisionId) .assertion
  let installation ← fetch (db.installations.get? c.plan.installationId) .assertion
  let content ← fetch revision.contentSha256 .assertion
  queueInSession cfg env (setRun db runId fun r => { r with state := .starting })
    ⟨.recipeStart, .run, runId, c.plan.planDigest⟩ c.requestId content
    ((c.plan.nodes.zip addresses).map fun (n, address) =>
      (n.nodeId, startPayload c.plan c.aliasName runId content installation.imageDigest n address))

def stoppable : RunState → Bool
  | .starting | .running | .failed | .lost => true
  | _ => false

def checkStop (c : StopCall) : Except RecipeError RecipeRun := do
  let run ← fetch (db.runs.get? c.runId) (.conflict "recipe run does not exist")
  require (stoppable run.state = true) (.conflict "recipe run is not stoppable")
  .ok run

/-- `stop`, after the route was withdrawn. -/
def commitStop (c : StopCall) (planDigest : Digest) :
    Except RecipeError (RecipeOperationView × Database) := do
  let run ← checkStop db c
  require (run.planDigest = planDigest) (.conflict "recipe run changed before stop admission")
  queueInSession cfg env
    (setRun db c.runId fun r =>
      { r with state := .stopping, routeState := .withdrawn, routeError := none })
    ⟨.recipeStop, .run, c.runId, planDigest⟩ c.requestId planDigest
    (stopPayloads db c.runId planDigest)

def uninstallable : InstallationState → Bool
  | .installed | .partly | .failed => true
  | _ => false

def activeRun (installationId : Uuid) : Bool :=
  db.runs.rows.any fun r => r.installationId = installationId && r.state ≠ .stopped

/-- `uninstall`, to what it reads. -/
def checkUninstall (c : UninstallCall) : Except RecipeError Uninstalling := do
  let installation ← fetch (db.installations.get? c.installationId)
    (.conflict "recipe installation does not exist")
  require (activeRun db c.installationId = false) (.conflict "installation has an active run")
  require (uninstallable installation.state = true)
    (.conflict "recipe installation is not uninstallable")
  let revision ← fetch (db.world.revisions.get? installation.recipeRevisionId) .assertion
  let content ← fetch revision.contentSha256 .assertion
  .ok ⟨installation.planDigest, content, (installationRanks db c.installationId).map (·.nodeId)⟩

/-- `uninstall`, from its queueing. -/
def commitUninstall (c : UninstallCall) (u : Uninstalling) :
    Except RecipeError (RecipeOperationView × Database) :=
  queueInSession cfg env db ⟨.recipeUninstall, .installation, c.installationId, u.planDigest⟩
    c.requestId u.recipeContentSha256
    (u.nodes.map fun n =>
      (n, .uninstall c.installationId u.recipeContentSha256 u.planDigest))

def onlyFailedInstalls : RecipeError := .conflict "only failed recipe installs can be retried"

def replanNodes (installationId : Uuid) : Database :=
  { db with
    installationNodes := db.installationNodes.updateWhere
      (fun n => decide (n.installationId = installationId)) (fun n => { n with state := .planned }) }

def retry (c : RetryCall) : Except RecipeError (RecipeOperationView × Database) := do
  let previous ← fetch (db.queue.jobs.get? c.operationId) onlyFailedInstalls
  match previous.document with
  | .other => .error onlyFailedInstalls
  | .recipe doc => do
    require (doc.kind = .recipeInstall ∧ previous.state = .failed) onlyFailedInstalls
    match bound db c.requestId with
    | some existing =>
      match existing.document with
      | .other => .error (.conflict "request key was already used")
      | .recipe other =>
        if other.kind ≠ .recipeInstall ∨ other.planDigest ≠ doc.planDigest then
          .error (.conflict "request key was already used")
        else .ok (view existing other, db)
    | none => do
      let notRetryable : RecipeError := .conflict "recipe installation is not retryable"
      let installation ← fetch (db.installations.get? doc.ownerId) notRetryable
      require (installation.state = .partly ∨ installation.state = .failed) notRetryable
      let revision ← fetch (db.world.revisions.get? installation.recipeRevisionId) .assertion
      let content ← fetch revision.contentSha256 .assertion
      queueInSession cfg env
        (replanNodes (setInstallationState db installation.id .installing) installation.id)
        ⟨.recipeInstall, .installation, doc.ownerId, doc.planDigest⟩ c.requestId content
        ((installationRanks db installation.id).map fun n =>
          (n.nodeId, installPayload { installation with planDigest := doc.planDigest } content n.rank
            n.role n.requiredBytes))

end Sessions

section Publication

variable (cfg : Config) (env : Env) (s : Shared)

section

variable (db : Database) (runId : Uuid) (generation : ℕ)

def activate (routes : List Route) : Except RecipeError Shared :=
  match env.publishError with
  | some text => .error (.os text)
  | none => .ok { s with bundle := routes, generation := s.generation + 1 }

/-- `publish_run`, to the run that it is for. -/
def checkPublish : Except RecipeError Unit := do
  let run ← fetch (db.runs.get? runId) (.key (toString runId))
  require (run.state = .running) (.route "recipe run is not ready for publication")

/-- `publish_run`, to its candidate. -/
def computePublish : Except RecipeError (List Route) := do
  let routes ← candidate cfg env.now s.db none
  require (runId ∈ routes.map (·.runId)) (.route "recipe run is absent from route candidate")
  .ok routes

def recordRoute (route : RouteState) (generation : ℕ) (r : RunStatus) : RunStatus :=
  { r with routeState := route, routeGeneration := some generation, routeError := none }

/-- `publish_run`, after the activation. -/
def recordPublish : Except RecipeError Database := do
  let changed : RecipeError := .route "recipe run changed during publication"
  let run ← fetch (db.runs.get? runId) changed
  require (run.state = .running) changed
  .ok (setRun db runId (recordRoute .published generation))

/-- `withdraw_run`, after the activation. -/
def recordWithdraw : Except RecipeError Database := do
  let _ ← fetch (db.runs.get? runId) (.route "recipe run changed during withdrawal")
  .ok (setRun db runId (recordRoute .withdrawn generation))

def pendingRun : Option RecipeRun :=
  db.runs.firstBy (fun r => toLex (r.createdAt, r.id)) fun r =>
    r.state = .running && r.routeState = .pending

def recordFailure (text : String) : Database :=
  match db.runs.get? runId with
  | some run =>
    if run.routeState = .pending then
      setRun db runId fun r => { r with routeState := .failed, routeError := some text }
    else db
  | none => db

end

def caught : RecipeError → Option String
  | .conflict text => some ("RecipeOperationConflict: " ++ text)
  | .value text => some ("ValueError: " ++ text)
  | .runtime text => some ("RuntimeError: " ++ text)
  | .type text => some ("TypeError: " ++ text)
  | .build _ text => some ("RecipeBuildError: " ++ text)
  | .route text => some ("RecipeRouteError: " ++ text)
  | .os text => some ("OSError: " ++ text)
  | _ => none

end Publication

section Resume

variable (cfg : Config) (env : Env) (s : Shared)

def returns (x : Except RecipeError (RecipeOperationView × Database)) :
    Except RecipeError (Shared × Progress) := do
  let (v, db) ← x
  .ok ({ s with db := db }, .returned (some v))

def reads (x : Except RecipeError Progress) : Except RecipeError (Shared × Progress) := do
  let progress ← x
  .ok (s, progress)

def firstSession : Request → Except RecipeError (Shared × Progress)
  | .build c =>
    reads s (replay s.db c.requestId .recipeBuild (some c.buildInputSha256) (.buildAdmitted c))
  | .distribute c => reads s do
    let (plan, targets) ← distributionConflict
      (planDistribution s.db c.recipeBuildId c.mappingId c.mappingGeneration)
    .ok (.next (.distributePlanned c plan targets))
  | .install c =>
    reads s (replay s.db c.requestId .recipeInstall (some c.planDigest) (.installAdmitted c))
  | .start c =>
    reads s (replay s.db c.requestId .recipeStart (some c.planDigest) (.startAdmitted c))
  | .stop c => reads s (replay s.db c.requestId .recipeStop none (.stopAdmitted c))
  | .uninstall c => reads s (replay s.db c.requestId .recipeUninstall none (.uninstallAdmitted c))
  | .retry c => returns s (retry cfg env s.db c)
  | .publish runId => reads s do
    checkPublish s.db runId
    .ok (.next (.publishReady runId false))
  | .withdraw runId => reads s do
    let _ ← fetch (s.db.runs.get? runId) (.key (toString runId))
    .ok (.next (.withdrawReady runId none))
  | .tick => reads s (.ok (match pendingRun s.db with
    | some run => .next (.publishBegin run.id true)
    | none => .returned none))

def resume : Task → Except RecipeError (Shared × Progress)
  | .begin r => firstSession cfg env s r
  | .buildAdmitted c => reads s do
    let snapshot ← inspectBuild s.db c
    .ok (.next (.buildInspected c snapshot))
  | .buildInspected c snapshot => returns s (commitBuild cfg env s.db c snapshot)
  | .distributePlanned c plan targets =>
    reads s (replay s.db c.requestId .recipeImageImport (some (cfg.distributionDigest plan))
      (.distributeAdmitted c plan targets))
  | .distributeAdmitted c plan targets => returns s (commitDistribution cfg env s.db c plan targets)
  | .installAdmitted c => reads s do
    let fresh ← refreshInstall cfg env s.db c
    .ok (.next (.installPlanned c fresh))
  | .installPlanned c fresh => returns s (commitInstall cfg env s.db c fresh)
  | .startAdmitted c => reads s do
    let (addresses, fresh) ← refreshStart cfg env s.db c
    .ok (.next (.startPlanned c addresses fresh))
  | .startPlanned c addresses fresh => returns s (commitStart cfg env s.db c addresses fresh)
  | .stopAdmitted c => reads s do
    let run ← checkStop s.db c
    .ok (.next (.stopChecked c run.planDigest))
  | .stopChecked c planDigest => reads s do
    let _ ← fetch (s.db.runs.get? c.runId) (.key (toString c.runId))
    .ok (.next (.withdrawReady c.runId (some (c, planDigest))))
  | .stopWithdrawn c planDigest => returns s (commitStop cfg env s.db c planDigest)
  | .uninstallAdmitted c => reads s do
    let u ← checkUninstall s.db c
    .ok (.next (.uninstallChecked c u))
  | .uninstallChecked c u => returns s (commitUninstall cfg env s.db c u)
  | .publishBegin runId worker => reads s do
    checkPublish s.db runId
    .ok (.next (.publishReady runId worker))
  | .publishReady runId worker => reads s do
    let routes ← computePublish cfg env s runId
    .ok (.next (.publishComputed runId worker routes))
  | .publishComputed runId worker routes => do
    let s ← activate env s routes
    .ok (s, .next (.publishActivated runId worker s.generation))
  | .publishActivated runId _ generation => do
    let db ← recordPublish s.db runId generation
    .ok ({ s with db := db }, .returned none)
  | .publishFailed runId text => .ok ({ s with db := recordFailure s.db runId text }, .returned none)
  | .withdrawReady runId stop => reads s do
    let routes ← candidate cfg env.now s.db (some runId)
    .ok (.next (.withdrawComputed runId stop routes))
  | .withdrawComputed runId stop routes => do
    let s ← activate env s routes
    .ok (s, .next (.withdrawActivated runId stop s.generation))
  | .withdrawActivated runId stop generation => do
    let db ← recordWithdraw s.db runId generation
    .ok ({ s with db := db }, match stop with
      | some (c, planDigest) => .next (.stopWithdrawn c planDigest)
      | none => .returned none)

def handler (task : Task) (e : RecipeError) : Option Task :=
  match task with
  | .publishBegin runId true | .publishReady runId true | .publishComputed runId true _
  | .publishActivated runId true _ =>
    (caught e).map fun text => .publishFailed runId (String.ofList (text.toList.take 512))
  | _ => none

end Resume

structure Pending where
  id : Uuid
  request : Request
  task : Task

instance : Keyed Pending Uuid := ⟨Pending.id⟩

structure System extends Shared where
  tasks : Table Pending := .empty

structure Output where
  request : Request
  result : Except RecipeError (Option RecipeOperationView)

/-- A call comes in, takes its next session or dies; a preview stores a build; an agent claims,
reports or lets its lease expire; anything else is observed or queued. -/
inductive Event
  | call (id : Uuid) (request : Request)
  | resume (id : Uuid) (env : Env)
  | vanish (id : Uuid)
  | previewBuild (env : Env) (recipeRevisionId : Uuid) (builderNodeId : NodeId)
  | claim (id : Uuid)
  | result (id : Uuid) (state : ResultState) (evidence : Evidence) (env : Env)
  | expire (id : Uuid)
  | observe (world : World) (nodes : Table AgentNode)
  | otherJob (id requestId : Uuid)

section Step

variable (cfg : Config)

def withDb (s : System) (db : Database) : System := { s with db := db }

def setTask (s : System) (id : Uuid) (task : Task) : System :=
  { s with tasks := s.tasks.updateWhere (fun p => decide (p.id = id)) fun p =>
      { p with task := task } }

def endTask (s : System) (id : Uuid) : System :=
  { s with tasks := s.tasks.deleteWhere fun p => decide (p.id = id) }

def resumeCall (env : Env) (s : System) (p : Pending) : System × Option Output :=
  match resume cfg env s.toShared p.task with
  | .ok (shared, .next task) => (setTask { s with toShared := shared } p.id task, none)
  | .ok (shared, .returned v) =>
    (endTask { s with toShared := shared } p.id, some ⟨p.request, .ok v⟩)
  | .error e =>
    match handler p.task e with
    | some task => (setTask s p.id task, none)
    | none => (endTask s p.id, some ⟨p.request, .error e⟩)

def step (s : System) : Event → Except RecipeError (System × Option Output)
  | .call id request => do
    let tasks ← fetch (s.tasks.insert ⟨id, request, .begin request⟩) .integrity
    .ok ({ s with tasks := tasks }, none)
  | .resume id env => do
    let p ← fetch (s.tasks.get? id) (.key (toString id))
    .ok (resumeCall cfg env s p)
  | .vanish id => .ok (endTask s id, none)
  | .previewBuild env recipeRevisionId builderNodeId => do
    let (_, db) ← planBuild cfg s.db env recipeRevisionId builderNodeId
    .ok (withDb s db, none)
  | .claim id => do
    let queue ← queueResult (claimOperation s.db.queue id)
    .ok (withDb s { s.db with queue := queue }, none)
  | .result id state evidence env => do
    let db ← recordResult cfg env s.db id state evidence
    .ok (withDb s db, none)
  | .expire id => do
    let queue ← queueResult (expireOperation s.db.queue id)
    .ok (withDb s { s.db with queue := queue }, none)
  | .observe world nodes =>
    .ok (withDb s { s.db with world := world, queue := { s.db.queue with nodes := nodes } }, none)
  | .otherJob id requestId => do
    let queue ← queueResult (insertJob s.db.queue
      { id := id, requestId := requestId, document := .other })
    .ok (withDb s { s.db with queue := queue }, none)

end Step

end VonkForge.Recipes
