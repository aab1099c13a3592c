import VonkForge.OperationGroups

/-!
# The rows of recipe operations

A recipe revision is built on one node, its image distributed, installed and run.
-/

namespace VonkForge.Recipes

open OperationGroups
open AgentJobs (JobError)

abbrev Address := ℕ

inductive MemoryKind
  | unified
  | host
  | accelerator
  deriving DecidableEq

structure MemoryNeeds where
  kind : MemoryKind
  (startupPeakBytes steadyStateBytes runtimeGrowthBytes systemReserveBytes : ℕ)
  deriving DecidableEq

structure DiskNeeds where
  (imageBytes artifactBytes stagingBytes cacheBytes rollbackBytes safetyMarginBytes : ℕ)
  deriving DecidableEq

structure Role where
  name : String
  count : ℕ
  memory : MemoryNeeds
  disk : DiskNeeds
  artifacts : List String
  deriving DecidableEq

inductive Connectivity
  | none
  | connected
  | fullMesh
  | switch
  deriving DecidableEq, Repr

structure Profile where
  name : String
  nodeCount : ℕ
  roles : List Role
  connectivity : Connectivity
  minimumBandwidthMbps : ℕ
  deriving DecidableEq

/-- An external artifact; `source` is its repository and revision. -/
structure ArtifactReference where
  (id source : String)
  deriving DecidableEq

structure ArtifactSize where
  source : String
  sizeBytes : ℕ

structure BuildSection where
  contextSha256 : Digest
  dockerfile : String
  publicNetwork : Bool
  (temporaryBytes memoryBytes : ℕ)
  deriving DecidableEq

/-- A validated recipe document; `port` is that of its runtime endpoint. -/
structure RecipeDocument where
  profiles : List Profile
  port : ℕ
  artifacts : List ArtifactReference
  build : BuildSection
  deriving DecidableEq

inductive Lifecycle
  | draft
  | resolved
  deriving DecidableEq

structure LocalRecipeRevision where
  id : Uuid
  lifecycle : Lifecycle
  contentSha256 : Option Digest
  document : RecipeDocument

instance : Keyed LocalRecipeRevision Uuid := ⟨LocalRecipeRevision.id⟩

inductive MappingState
  | planned
  | ready
  | stale
  deriving DecidableEq

structure ClusterMapping where
  (id recipeRevisionId : Uuid)
  profileName : String
  generation : ℕ
  state : MappingState

instance : Keyed ClusterMapping Uuid := ⟨ClusterMapping.id⟩

structure ClusterMappingNode where
  mappingId : Uuid
  nodeId : NodeId
  rank : ℕ
  role : String
  endpointOwner : Bool

inductive NodeCapability
  | runtimeVonkV1
  | recipeBuildV1
  | fabric (kind : Connectivity) (mbps : ℕ)
  deriving DecidableEq

structure NodeInventorySnapshot where
  nodeId : NodeId
  observedAt : Time
  (diskFreeBytes hostMemoryFreeBytes gpuMemoryFreeBytes : ℕ)
  artifactStoreReadOnly : Bool := false
  capabilities : List NodeCapability := []
  fabricAddress : Option Address := none
  fabricBandwidthMbps : Option ℕ := none
  deriving DecidableEq

structure AgentPresence where
  nodeId : NodeId
  managementAddress : Address

instance : Keyed AgentPresence NodeId := ⟨AgentPresence.nodeId⟩

structure NodeArtifact where
  nodeId : NodeId
  image : Bool
  digest : Digest
  source : String
  sizeBytes : ℕ
  verified : Bool := true

structure World where
  revisions : Table LocalRecipeRevision := .empty
  mappings : Table ClusterMapping := .empty
  mappingNodes : List ClusterMappingNode := []
  snapshots : List NodeInventorySnapshot := []
  presences : Table AgentPresence := .empty
  artifacts : List NodeArtifact := []
  sourceBundles : List Digest := []

def World.ranks (w : World) (mappingId : Uuid) : List ClusterMappingNode :=
  (w.mappingNodes.filter fun n => n.mappingId = mappingId).insertionSort fun n m => n.rank ≤ m.rank

def World.latest (w : World) (nodeId : NodeId) : Option NodeInventorySnapshot :=
  (w.snapshots.filter fun s => s.nodeId = nodeId).argmax (·.observedAt)

inductive BuildState
  | planned
  | building
  | succeeded
  | failed
  deriving DecidableEq

structure BuildPayload where
  (buildId recipeRevisionId : Uuid)
  (recipeContentSha256 sourceBundleSha256 : Digest)
  sourceBundleBytes : ℕ
  buildInputSha256 : Digest
  dockerfile : String
  (memoryBytes temporaryBytes outputBytes : ℕ)
  deriving DecidableEq

structure BuildStatus where
  state : BuildState := .planned
  imageDigest : Option Digest := none
  ociLayoutSha256 : Option Digest := none
  imageBytes : Option ℕ := none
  error : Option String := none
  deriving DecidableEq

structure RecipeBuild extends BuildStatus where
  (id recipeRevisionId : Uuid)
  builderNodeId : NodeId
  buildInputSha256 : Digest
  plan : BuildPayload

instance : Keyed RecipeBuild Uuid := ⟨RecipeBuild.id⟩

inductive InstallationState
  | planned
  | installing
  | installed
  | partly
  | failed
  | uninstalled
  deriving DecidableEq

structure RecipeInstallation where
  (id recipeRevisionId mappingId : Uuid)
  mappingGeneration : ℕ
  recipeBuildId : Uuid
  (imageDigest planDigest : Digest)
  state : InstallationState := .planned

instance : Keyed RecipeInstallation Uuid := ⟨RecipeInstallation.id⟩

inductive InstallationNodeState
  | planned
  | installed
  | failed
  | uninstalled
  deriving DecidableEq

structure InstallationNode where
  installationId : Uuid
  nodeId : NodeId
  rank : ℕ
  role : String
  state : InstallationNodeState := .planned
  requiredBytes : ℕ
  installedBytes : ℕ := 0

instance : Keyed InstallationNode (Uuid × NodeId) := ⟨fun n => (n.installationId, n.nodeId)⟩

inductive RunState
  | planned
  | starting
  | running
  | stopping
  | stopped
  | failed
  | lost
  deriving DecidableEq

inductive RouteState
  | withdrawn
  | pending
  | published
  | failed
  deriving DecidableEq

structure RunStatus where
  state : RunState := .planned
  routeState : RouteState := .withdrawn
  routeGeneration : Option ℕ := none
  routeError : Option String := none
  deriving DecidableEq

/-- A run; `ranks` is the number of nodes of its plan. -/
structure RecipeRun extends RunStatus where
  (id installationId mappingId : Uuid)
  mappingGeneration : ℕ
  aliasName : String
  planDigest : Digest
  ranks : ℕ
  createdAt : Time
  deriving DecidableEq

instance : Keyed RecipeRun Uuid := ⟨RecipeRun.id⟩

inductive RunNodeState
  | planned
  | running
  | stopped
  | failed
  deriving DecidableEq

structure Endpoint where
  address : Address
  port : ℕ
  deriving DecidableEq

structure RunNode where
  runId : Uuid
  nodeId : NodeId
  rank : ℕ
  role : String
  state : RunNodeState := .planned
  (port reservedMemoryBytes : ℕ)
  endpoint : Option Endpoint := none
  evidenceDigest : Option Digest := none
  updatedAt : Time

instance : Keyed RunNode (Uuid × NodeId) := ⟨fun n => (n.runId, n.nodeId)⟩

inductive ReservationKind
  | disk
  | unifiedMemory
  | hostMemory
  | gpuMemory
  | port
  deriving DecidableEq

def MemoryKind.reservation : MemoryKind → ReservationKind
  | .unified => .unifiedMemory
  | .host => .hostMemory
  | .accelerator => .gpuMemory

inductive OwnerKind
  | recipeBuild
  | imageDistribution
  | installation
  | run
  deriving DecidableEq

/-- `resourceKey` is a port where the kind is `port`, and a plan digest otherwise. -/
structure ResourceReservation where
  nodeId : NodeId
  kind : ReservationKind
  (resourceKey amountBytes : ℕ)
  ownerKind : OwnerKind
  ownerId : Uuid
  active : Bool := true

structure RecipeJob where
  kind : AgentOperation
  ownerKind : OwnerKind
  ownerId : Uuid
  planDigest : Digest
  deriving DecidableEq

inductive JobDocument
  | recipe (job : RecipeJob)
  | other

structure ImportPayload where
  (buildId mappingId : Uuid)
  mappingGeneration : ℕ
  sourceNodeId : NodeId
  (imageDigest ociLayoutSha256 : Digest)
  imageBytes : ℕ
  deriving DecidableEq

structure InstallPayload where
  (installationId recipeRevisionId : Uuid)
  recipeContentSha256 : Digest
  mappingId : Uuid
  mappingGeneration : ℕ
  recipeBuildId : Uuid
  (imageDigest planDigest : Digest)
  rank : ℕ
  role : String
  expectedBytes : ℕ
  deriving DecidableEq

structure StartPayload where
  (runId installationId recipeRevisionId : Uuid)
  recipeContentSha256 : Digest
  mappingId : Uuid
  mappingGeneration : ℕ
  (imageDigest planDigest : Digest)
  aliasName : String
  rank : ℕ
  role : String
  (port reservedMemoryBytes : ℕ)
  endpointAddress : Address
  worldSize : ℕ
  (localAddress masterAddress : Option Address)
  masterPort : Option ℕ
  deriving DecidableEq

inductive RecipePayload
  | build (payload : BuildPayload)
  | imageImport (payload : ImportPayload)
  | install (payload : InstallPayload)
  | start (payload : StartPayload)
  | stop (runId : Uuid) (planDigest : Digest)
  | uninstall (installationId : Uuid) (recipeContentSha256 planDigest : Digest)
  deriving DecidableEq

/-- `policy` is whether the agent's report has passed without findings, and its Dockerfile. -/
structure BuildEvidence where
  buildInputSha256 : Digest
  imageBytes : ℕ
  (imageDigest ociLayoutSha256 : Digest)
  policy : Bool × String
  deriving DecidableEq

structure ImportEvidence where
  buildId : Uuid
  imageBytes : ℕ
  (imageDigest ociLayoutSha256 : Digest)
  deriving DecidableEq

structure StartEvidence where
  recipeRevisionId : Uuid
  (recipeContentSha256 imageDigest artifactSetDigest : Digest)
  modelIdentity : Option String
  (rank worldSize : ℕ)
  endpoint : Endpoint
  memoryReservationBytes : ℕ
  ready : Bool
  deriving DecidableEq

inductive Evidence
  | build (evidence : BuildEvidence)
  | imageImport (evidence : ImportEvidence)
  | install (installedBytes : ℕ)
  | start (evidence : StartEvidence) (evidenceDigest : Digest)
  | other (reason : Option String)

structure Database where
  queue : Queue JobDocument RecipePayload := {}
  builds : Table RecipeBuild := .empty
  installations : Table RecipeInstallation := .empty
  installationNodes : Table InstallationNode := .empty
  runs : Table RecipeRun := .empty
  runNodes : Table RunNode := .empty
  reservations : List ResourceReservation := []
  world : World := {}

/-- What the services raise.  `build` is a `RecipeBuildError` with its code, `route` a
`RecipeRouteError`, `conflict` a `RecipeOperationConflict`. -/
inductive RecipeError
  | conflict (text : String)
  | key (id : String)
  | value (text : String)
  | runtime (text : String)
  | type (text : String)
  | build (code text : String)
  | route (text : String)
  | os (text : String)
  | integrity
  | assertion
  | queue (error : JobError)
  deriving DecidableEq

/-- `except (RuntimeError, ValueError) as error: raise RecipeOperationConflict(str(error))`. -/
def RecipeError.asConflict : RecipeError → RecipeError
  | .value text | .runtime text | .build _ text | .route text => .conflict text
  | e => e

def asConflict {α : Type} : Except RecipeError α → Except RecipeError α
  | .ok a => .ok a
  | .error e => .error e.asConflict

lemma asConflict_ok {α : Type} {x : Except RecipeError α} {a : α} :
    asConflict x = .ok a ↔ x = .ok a := by
  cases x with
  | ok b => exact Iff.rfl
  | error e => exact ⟨fun h => (by cases h), fun h => (by cases h)⟩

def queueResult {α : Type} : Except JobError α → Except RecipeError α
  | .ok a => .ok a
  | .error e => .error (.queue e)

lemma queueResult_ok {α : Type} {x : Except JobError α} {a : α} :
    queueResult x = .ok a ↔ x = .ok a := by
  cases x with
  | ok b => exact ⟨fun h => (by cases h; rfl), fun h => (by cases h; rfl)⟩
  | error e => exact ⟨fun h => (by cases h), fun h => (by cases h)⟩

section Rows

variable (db : Database)

variable (id : Uuid)

def reserved (nodeId : NodeId) (kind : ReservationKind) : ℕ :=
  ((db.reservations.filter fun r => r.nodeId = nodeId && r.kind = kind && r.active).map
    (·.amountBytes)).sum

def portOccupied (nodeId : NodeId) (port : ℕ) : Bool :=
  db.reservations.any fun r =>
    r.nodeId = nodeId && r.kind = .port && r.resourceKey = port && r.active

/-- `uq_active_node_port` is the only constraint of the table. -/
def addReservation (r : ResourceReservation) : Except RecipeError Database :=
  if r.kind = .port ∧ r.active = true ∧ portOccupied db r.nodeId r.resourceKey then .error .integrity
  else .ok { db with reservations := db.reservations ++ [r] }

def release (ownerKind : OwnerKind) (ownerId : Uuid) : Database :=
  { db with
    reservations := db.reservations.map fun r =>
      if r.ownerKind = ownerKind ∧ r.ownerId = ownerId then { r with active := false } else r }

def setBuild (f : BuildStatus → BuildStatus) : Database :=
  { db with builds := db.builds.updateWhere (fun b => decide (b.id = id)) fun b =>
      { b with toBuildStatus := f b.toBuildStatus } }

def setInstallationState (state : InstallationState) : Database :=
  { db with installations := db.installations.updateWhere (fun i => decide (i.id = id)) fun i =>
      { i with state := state } }

def setRun (f : RunStatus → RunStatus) : Database :=
  { db with runs := db.runs.updateWhere (fun r => decide (r.id = id)) fun r =>
      { r with toRunStatus := f r.toRunStatus } }

def runRanks : List RunNode :=
  (db.runNodes.select fun n => n.runId = id).insertionSort fun n m => n.rank ≤ m.rank

def installationRanks : List InstallationNode :=
  (db.installationNodes.select fun n => n.installationId = id).insertionSort fun n m =>
    n.nodeId ≤ m.nodeId

end Rows

end VonkForge.Recipes
