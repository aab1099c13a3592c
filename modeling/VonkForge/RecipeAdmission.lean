import VonkForge.RecipeModels

/-!
# Admission of builds, installations and runs

Acceptance computes a plan again, compares the digests, and checks the capacity of each node a
second time under the lock of its row.
-/

namespace VonkForge.Recipes

open OperationGroups

structure AdmissionReason where
  (code detail : String)
  deriving DecidableEq

structure Placement where
  nodeId : NodeId
  rank : ℕ
  role : String

def deploymentProfile (document : RecipeDocument) (name : String) : Option Profile :=
  match document.profiles.filter fun p => p.name = name with
  | [profile] => some profile
  | _ => none

def Connectivity.text : Connectivity → String
  | .none => "none"
  | .connected => "connected"
  | .fullMesh => "full_mesh"
  | .switch => "switch"

def Connectivity.accepted : Connectivity → List Connectivity
  | .none => []
  | .connected => [.connected, .fullMesh, .switch]
  | .fullMesh => [.fullMesh, .switch]
  | .switch => [.switch]

def fabricSpeeds (accepted : List Connectivity) (capabilities : List NodeCapability) : List ℕ :=
  capabilities.filterMap fun
    | .fabric kind mbps => if kind ∈ accepted then some mbps else none
    | _ => none

def validateTopology (document : RecipeDocument) (profileName : String)
    (placements : List Placement) (capabilities : NodeId → List NodeCapability) :
    Except AdmissionReason (List Placement) := do
  let profile ← fetch (deploymentProfile document profileName)
    ⟨"topology.profile_unknown", "deployment_profiles: profile name is missing or not unique"⟩
  let ordered := placements.insertionSort fun p q => p.rank ≤ q.rank
  require (ordered ≠ [] ∧ (ordered.map (·.nodeId)).Nodup ∧
      ordered.map (·.rank) = List.range ordered.length ∧ ordered.length = profile.nodeCount)
    ⟨"topology.placement_invalid",
      "placement must match the exact profile with unique contiguous ranks"⟩
  let expected := (profile.roles.flatMap fun r => List.replicate r.count r.name).insertionSort (· ≤ ·)
  require ((ordered.map (·.role)).insertionSort (· ≤ ·) = expected)
    ⟨"topology.role_mismatch", "placement roles do not match the profile"⟩
  require (∀ p ∈ ordered, NodeCapability.runtimeVonkV1 ∈ capabilities p.nodeId)
    ⟨"topology.runtime_capability_missing", "every GPU node must advertise runtime.vonk.v1"⟩
  if ordered.length = 1 then do
    require (profile.connectivity = .none)
      ⟨"topology.fabric_invalid", "single-node profile must use no fabric"⟩
    .ok ordered
  else do
    require (profile.connectivity ≠ .none)
      ⟨"topology.fabric_invalid", "multi-node profile must declare fabric"⟩
    ordered.forM fun p =>
      let speeds := fabricSpeeds profile.connectivity.accepted (capabilities p.nodeId)
      require (∃ speed ∈ speeds, profile.minimumBandwidthMbps ≤ speed)
        ⟨"topology.fabric_insufficient", toString p.nodeId ++ " lacks " ++
          toString profile.minimumBandwidthMbps ++ " Mbps " ++ profile.connectivity.text ++ " fabric"⟩
    .ok ordered

structure RunNodePlan where
  nodeId : NodeId
  rank : ℕ
  role : String
  endpointOwner : Bool
  port : ℕ
  allowed : Bool
  inventoryObservedAt : Option Time
  memoryKind : MemoryKind
  requiredMemoryBytes : ℕ
  availableMemoryBytes : Option ℕ
  activeReservedBytes : ℕ
  freeAfterBytes : Option ℤ
  memoryFloorBytes : ℕ
  fabricAddress : Option Address
  (fabricBandwidthMbps rendezvousPort : Option ℕ)
  blockers : List AdmissionReason
  deriving DecidableEq

structure RunIdentity where
  (installationId mappingId : Uuid)
  mappingGeneration : ℕ
  recipeRevisionId : Uuid
  nodes : List RunNodePlan
  deriving DecidableEq

structure RunPlan extends RunIdentity where
  allowed : Bool
  planDigest : Digest
  deriving DecidableEq

structure InstallNodePlan where
  nodeId : NodeId
  rank : ℕ
  role : String
  allowed : Bool
  inventoryObservedAt : Option Time
  freeBytes : Option ℕ
  (activeReservedBytes reusedBytes requiredDownloadBytes requiredBytes diskFloorBytes : ℕ)
  freeAfterBytes : Option ℤ
  blockers : List AdmissionReason
  deriving DecidableEq

structure InstallIdentity where
  mappingId : Uuid
  mappingGeneration : ℕ
  recipeBuildId : Uuid
  imageDigest : Digest
  recipeRevisionId : Uuid
  recipeContentSha256 : Digest
  nodes : List InstallNodePlan
  deriving DecidableEq

structure InstallPlan extends InstallIdentity where
  allowed : Bool
  planDigest : Digest
  deriving DecidableEq

structure BuildIdentity where
  recipeRevisionId : Uuid
  (recipeContentSha256 sourceBundleSha256 : Digest)
  build : BuildSection

structure RecipeBuildPlan where
  buildId : Uuid
  builderNodeId : NodeId
  buildInputSha256 : Digest
  agentPayload : BuildPayload
  deriving DecidableEq

structure DistributionIdentity where
  (buildId mappingId : Uuid)
  mappingGeneration : ℕ
  imageDigest : Digest
  targets : List NodeId
  deriving DecidableEq

structure Config where
  runDigest : RunIdentity → Digest
  installDigest : InstallIdentity → Digest
  buildDigest : BuildIdentity → Digest
  distributionDigest : DistributionIdentity → Digest
  evidenceDigest : StartEvidence → Digest
  /-- The key of the clean-up of a start job. -/
  cleanupKey : Uuid → Uuid
  /-- `ArtifactSizeResolver.resolve`, empty where it raises. -/
  sizes : RecipeDocument → List ArtifactSize := fun _ => []
  /-- The length of a stored source bundle, or the code and text of its error. -/
  bundleBytes : Digest → Except (String × String) ℕ := fun _ => .ok 0
  policyFinding : RecipeDocument → Option (String × String) := fun _ => none
  /-- What the claim message says of a payload that it rejects. -/
  invalid : AgentOperation → RecipePayload → Option String := fun _ _ => none
  /-- The management policy admits the address, and it is none of the special ones. -/
  routable : Address → Bool := fun _ => true
  linuxArm64 : NodeId → Bool := fun _ => true
  inventoryMaxAge : ℕ := 300
  memoryFloorBytes : ℕ := 4000000000
  diskFloorBytes : ℕ := 10000000000
  /-- `maximum_age_seconds` of the route service. -/
  maximumAge : ℕ := 300

/-- What one transaction draws: its time, and the identifiers of the rows that it may add. -/
structure Env where
  now : Time
  ownerId : Uuid := 0
  jobId : Uuid := 0
  operationIds : NodeId → Uuid := fun _ => 0
  publishError : Option String := none

section Plans

variable (cfg : Config) (db : Database) (now : Time)

def stale (snapshot : NodeInventorySnapshot) : Bool :=
  seconds cfg.inventoryMaxAge < now - snapshot.observedAt

def available (kind : MemoryKind) (snapshot : NodeInventorySnapshot) : ℕ :=
  match kind with
  | .unified => min snapshot.hostMemoryFreeBytes snapshot.gpuMemoryFreeBytes
  | .host => snapshot.hostMemoryFreeBytes
  | .accelerator => snapshot.gpuMemoryFreeBytes

def MemoryNeeds.requiredBytes (m : MemoryNeeds) : ℕ :=
  max m.startupPeakBytes (m.steadyStateBytes + m.runtimeGrowthBytes) + m.systemReserveBytes

def rendezvous : ℕ := 29500

def runNodePlan (topologyReason : Option AdmissionReason) (profile : Profile) (port : ℕ)
    (multiNode : Bool) (endpointOwner : NodeId) (installed : Placement → Bool) (p : Placement) :
    Except RecipeError RunNodePlan := do
  let role ← fetch (profile.roles.findRev? fun r => r.name = p.role)
    (.type "profile role memory is invalid")
  let snapshot := db.world.latest p.nodeId
  let required := role.memory.requiredBytes
  let active := reserved db p.nodeId role.memory.kind.reservation
  let owner := decide (p.nodeId = endpointOwner)
  let rendezvousPort := if multiNode && owner then some rendezvous else none
  let free := snapshot.map (available role.memory.kind)
  let freeAfter : Option ℤ := free.map fun a => (a : ℤ) - active - required
  let blockers : List AdmissionReason :=
    topologyReason.toList ++
    (if installed p then [] else
      [⟨"run.not_installed", "Recipe content is not installed for this mapped rank."⟩]) ++
    (match snapshot with
      | none => [⟨"run.inventory_missing", "No authenticated memory inventory is available."⟩]
      | some s => if stale cfg now s then
          [⟨"run.stale_inventory", "GPU node memory inventory is stale."⟩] else []) ++
    (if portOccupied db p.nodeId port then
      [⟨"run.port_occupied", "Port " ++ toString port ++ " is already reserved on this GPU node."⟩]
      else []) ++
    (if rendezvousPort = some port ∨
        (rendezvousPort.isSome ∧ portOccupied db p.nodeId rendezvous) then
      [⟨"run.rendezvous_port_occupied", "Multi-node rendezvous port 29500 is already reserved."⟩]
      else []) ++
    (if multiNode ∧ (snapshot.bind (·.fabricAddress) = none ∨
        snapshot.bind (·.fabricBandwidthMbps) = none) then
      [⟨"run.fabric_address_missing", "Authenticated direct-fabric evidence is unavailable."⟩]
      else []) ++
    (match freeAfter with
      | some f => if f < cfg.memoryFloorBytes then
          [⟨"run.insufficient_memory", "Run would leave " ++ toString f ++ " bytes, below the " ++
            toString cfg.memoryFloorBytes ++ "-byte memory floor."⟩] else []
      | none => [])
  .ok { nodeId := p.nodeId, rank := p.rank, role := p.role, endpointOwner := owner, port := port,
        allowed := blockers.isEmpty, inventoryObservedAt := snapshot.map (·.observedAt),
        memoryKind := role.memory.kind, requiredMemoryBytes := required,
        availableMemoryBytes := free, activeReservedBytes := active, freeAfterBytes := freeAfter,
        memoryFloorBytes := cfg.memoryFloorBytes, fabricAddress := snapshot.bind (·.fabricAddress),
        fabricBandwidthMbps := snapshot.bind (·.fabricBandwidthMbps),
        rendezvousPort := rendezvousPort, blockers := blockers }

def planRun (installationId : Uuid) : Except RecipeError RunPlan := do
  let installation ← fetch (db.installations.get? installationId) (.key (toString installationId))
  require (installation.state = .installed) (.value "recipe installation is not complete")
  let changed : RecipeError := .value "cluster mapping generation changed after installation"
  let mapping ← fetch (db.world.mappings.get? installation.mappingId) changed
  require (mapping.state = .ready ∧ mapping.generation = installation.mappingGeneration) changed
  let unavailable : RecipeError := .value "recipe revision is unavailable"
  let revision ← fetch (db.world.revisions.get? installation.recipeRevisionId) unavailable
  require (revision.lifecycle = .resolved) unavailable
  let mappingNodes := db.world.ranks mapping.id
  let placements := mappingNodes.map fun n => (⟨n.nodeId, n.rank, n.role⟩ : Placement)
  let capabilities := fun nodeId => ((db.world.latest nodeId).map (·.capabilities)).getD []
  let topology := validateTopology revision.document mapping.profileName placements capabilities
  let (ordered, topologyReason) := match topology with
    | .ok ordered => (ordered, none)
    | .error reason => (placements.insertionSort fun p q => p.rank ≤ q.rank, some reason)
  let profile ← fetch (deploymentProfile revision.document mapping.profileName)
    (.value "deployment_profiles: profile name is missing or not unique")
  let endpointOwner ← fetch (mappingNodes.find? (·.endpointOwner))
    (.type "mapping endpoint owner is missing")
  let multiNode := decide (1 < ordered.length)
  let installed : Placement → Bool := fun p => db.installationNodes.rows.any fun n =>
    n.installationId = installationId && n.state = .installed && n.nodeId = p.nodeId &&
      n.rank = p.rank && n.role = p.role
  let plans ← ordered.mapM (runNodePlan cfg db now topologyReason profile revision.document.port
    multiNode endpointOwner.nodeId installed)
  let addresses := ordered.filterMap fun p => (db.world.latest p.nodeId).bind (·.fabricAddress)
  let duplicate : AdmissionReason :=
    ⟨"run.fabric_address_duplicate", "Mapped GPU nodes must have unique direct-fabric addresses."⟩
  let nodes := if multiNode ∧ ¬ addresses.Nodup then
      plans.map fun n => { n with allowed := false, blockers := n.blockers ++ [duplicate] }
    else plans
  let identity : RunIdentity :=
    ⟨installationId, mapping.id, mapping.generation, revision.id, nodes⟩
  .ok { identity with allowed := nodes.all (·.allowed), planDigest := cfg.runDigest identity }

def installNodePlan (document : RecipeDocument) (profile : Profile) (imageDigest : Digest)
    (imageBytes : ℕ) (n : ClusterMappingNode) : Except RecipeError InstallNodePlan := do
  let role ← fetch (profile.roles.findRev? fun r => r.name = n.role)
    (.type "mapping role is absent from deployment profile")
  let sources ← role.artifacts.mapM fun id =>
    fetch ((document.artifacts.findRev? fun a => a.id = id).map (·.source)) (.key id)
  let sizes := cfg.sizes document
  let resolved := sources.map fun source => sizes.findRev? fun a => a.source = source
  let artifactBytes := ((resolved.filterMap id).map (·.sizeBytes)).sum
  let snapshot := db.world.latest n.nodeId
  let present := db.world.artifacts.filter fun a => a.nodeId = n.nodeId && a.verified
  let active := reserved db n.nodeId .disk
  let reusedImage := if present.any fun a =>
      a.image && a.digest = imageDigest && a.sizeBytes = imageBytes then imageBytes else 0
  let reusedArtifacts := ((sizes.filter fun a => decide (a.source ∈ sources) &&
    present.any fun b => b.source = a.source && b.sizeBytes = a.sizeBytes).map (·.sizeBytes)).sum
  let download := artifactBytes - reusedArtifacts
  let required := download + role.disk.stagingBytes + role.disk.cacheBytes + role.disk.rollbackBytes
  let floor := max cfg.diskFloorBytes role.disk.safetyMarginBytes
  let free := snapshot.map (·.diskFreeBytes)
  let freeAfter : Option ℤ := free.map fun f => (f : ℤ) - active - required
  let blockers : List AdmissionReason :=
    (if resolved.any (·.isNone) then
      [⟨"install.unknown_artifact_size", "External artifact size metadata is incomplete."⟩]
      else []) ++
    (if role.disk.imageBytes < imageBytes then
      [⟨"install.image_size_underdeclared", "Built image is larger than this role declares."⟩]
      else []) ++
    (if role.disk.artifactBytes < artifactBytes then
      [⟨"install.artifact_size_underdeclared",
        "External artifacts are larger than this role declares."⟩] else []) ++
    (match snapshot with
      | none => [⟨"install.inventory_missing",
          "No authenticated inventory is available for this GPU node."⟩]
      | some s =>
        (if stale cfg now s then [⟨"install.stale_inventory",
          "GPU node disk inventory is stale; refresh it before installing."⟩] else []) ++
        (if s.artifactStoreReadOnly then [⟨"install.artifact_store_read_only",
          "The GPU node artifact store is read-only."⟩] else [])) ++
    (if reusedImage = 0 then [⟨"install.image_not_distributed",
      "The exact built image must be imported on this GPU node before installation."⟩] else []) ++
    (match freeAfter with
      | some f => if f < floor then
          [⟨"install.insufficient_disk", "Installation would leave " ++ toString f ++
            " bytes, below the required " ++ toString floor ++ "-byte floor."⟩] else []
      | none => [])
  .ok { nodeId := n.nodeId, rank := n.rank, role := n.role, allowed := blockers.isEmpty,
        inventoryObservedAt := snapshot.map (·.observedAt), freeBytes := free,
        activeReservedBytes := active, reusedBytes := reusedImage + reusedArtifacts,
        requiredDownloadBytes := download, requiredBytes := required, diskFloorBytes := floor,
        freeAfterBytes := freeAfter, blockers := blockers }

def planInstall (mappingId recipeBuildId : Uuid) : Except RecipeError InstallPlan := do
  let mapping ← fetch (db.world.mappings.get? mappingId) (.key (toString mappingId))
  let build ← fetch (db.builds.get? recipeBuildId) (.key (toString recipeBuildId))
  require (mapping.state = .ready) (.value "cluster mapping is not ready")
  let mismatch : RecipeError := .value "successful recipe build does not match the mapping"
  let imageDigest ← fetch build.imageDigest mismatch
  let imageBytes ← fetch build.imageBytes mismatch
  require (build.state = .succeeded ∧ build.recipeRevisionId = mapping.recipeRevisionId) mismatch
  let unresolved : RecipeError := .value "recipe revision is not resolved"
  let revision ← fetch (db.world.revisions.get? mapping.recipeRevisionId) unresolved
  let content ← fetch revision.contentSha256 unresolved
  require (revision.lifecycle = .resolved) unresolved
  let profile ← fetch (deploymentProfile revision.document mapping.profileName)
    (.value "deployment_profiles: profile name is missing or not unique")
  let nodes ← (db.world.ranks mapping.id).mapM
    (installNodePlan cfg db now revision.document profile imageDigest imageBytes)
  let identity : InstallIdentity :=
    ⟨mappingId, mapping.generation, recipeBuildId, imageDigest, revision.id, content, nodes⟩
  .ok { identity with allowed := nodes.all (·.allowed), planDigest := cfg.installDigest identity }

def validateBuilder (node : AgentNode) : Except RecipeError Unit :=
  require (node.state = .active ∧ node.revokedAt = none ∧ cfg.linuxArm64 node.nodeId = true ∧
      node.agentImplementation = .rust ∧ node.migrationState = .complete ∧
      Capability.operation .recipeBuild ∈ node.capabilities)
    (.build "build.node_incompatible" "builder GPU node is inactive or incompatible")

def declaredImageBytes (document : RecipeDocument) : Except RecipeError ℕ := do
  let values := document.profiles.flatMap fun p => p.roles.map (·.disk.imageBytes)
  require (values ≠ [] ∧ ∀ v ∈ values, 1 ≤ v ∧ v ≤ 16 * 1024 ^ 4)
    (.build "build.image_size_invalid" "recipe profiles must declare a positive per-node image size")
  .ok (values.foldl max 0)

/-- `RecipeBuildService.plan`; it stores the build if there is none for its inputs. -/
def planBuild (env : Env) (recipeRevisionId : Uuid) (builderNodeId : NodeId) :
    Except RecipeError (RecipeBuildPlan × Database) := do
  let revision ← fetch (db.world.revisions.get? recipeRevisionId) (.key (toString recipeRevisionId))
  let unresolved : RecipeError :=
    .build "build.recipe_unresolved" "only a resolved recipe can be built"
  let content ← fetch revision.contentSha256 unresolved
  require (revision.lifecycle = .resolved) unresolved
  let node ← fetch (db.queue.nodes.get? builderNodeId)
    (.build "build.node_unknown" "builder GPU node is unknown")
  validateBuilder cfg node
  let section_ := revision.document.build
  require (section_.publicNetwork = false) (.build "build.network_unsupported"
    "public build networking is unavailable until a hostname-aware egress boundary is installed")
  let source := section_.contextSha256
  require (source ∈ db.world.sourceBundles)
    (.build "build.source_unavailable" "verified source bundle is unavailable")
  let sourceBytes ← (cfg.bundleBytes source).mapError fun e => .build e.1 e.2
  match cfg.policyFinding revision.document with
  | some (code, detail) => .error (.build code detail)
  | none => do
    let snapshot ← fetch (db.world.latest builderNodeId)
      (.build "build.inventory_missing" "fresh builder inventory is unavailable")
    require (stale cfg env.now snapshot = false)
      (.build "build.inventory_stale" "builder inventory is stale")
    require (NodeCapability.recipeBuildV1 ∈ snapshot.capabilities)
      (.build "build.capability_missing" "builder does not support typed recipe builds")
    let output ← declaredImageBytes revision.document
    let disk := section_.temporaryBytes + sourceBytes + output
    require (reserved db builderNodeId .disk + disk ≤ snapshot.diskFreeBytes)
      (.build "build.insufficient_disk" "builder lacks temporary disk capacity")
    require (reserved db builderNodeId .hostMemory + section_.memoryBytes ≤
        snapshot.hostMemoryFreeBytes)
      (.build "build.insufficient_memory" "builder lacks build memory capacity")
    let input := cfg.buildDigest ⟨revision.id, content, source, section_⟩
    let payload : BuildPayload :=
      { buildId := env.ownerId, recipeRevisionId := revision.id, recipeContentSha256 := content,
        sourceBundleSha256 := source, sourceBundleBytes := sourceBytes, buildInputSha256 := input,
        dockerfile := section_.dockerfile, memoryBytes := section_.memoryBytes,
        temporaryBytes := section_.temporaryBytes, outputBytes := output }
    match db.builds.rows.find? fun b => decide (b.recipeRevisionId = revision.id ∧
        b.builderNodeId = builderNodeId ∧ b.buildInputSha256 = input) with
    | some existing => .ok (⟨existing.id, builderNodeId, input, existing.plan⟩, db)
    | none => do
      let builds ← fetch (db.builds.insert
        { id := env.ownerId, recipeRevisionId := revision.id, builderNodeId := builderNodeId,
          buildInputSha256 := input, plan := payload }) .integrity
      .ok (⟨env.ownerId, builderNodeId, input, payload⟩, { db with builds := builds })

def planDistribution (buildId mappingId : Uuid) (generation : ℕ) :
    Except RecipeError (DistributionIdentity × List (NodeId × RecipePayload)) := do
  let build ← fetch (db.builds.get? buildId) (.key (toString buildId))
  let mapping ← fetch (db.world.mappings.get? mappingId) (.key (toString mappingId))
  let unavailable : RecipeError :=
    .build "build.result_unavailable" "successful OCI build is unavailable"
  let imageDigest ← fetch build.imageDigest unavailable
  let layout ← fetch build.ociLayoutSha256 unavailable
  let imageBytes ← fetch build.imageBytes unavailable
  require (build.state = .succeeded) unavailable
  require (mapping.state = .ready ∧ mapping.generation = generation ∧
      mapping.recipeRevisionId = build.recipeRevisionId)
    (.build "build.mapping_mismatch" "mapping generation does not match the build")
  let missing := (db.world.ranks mappingId).filter fun n => !(db.world.artifacts.any fun a =>
    a.nodeId = n.nodeId && a.image && a.digest = imageDigest && a.sizeBytes = imageBytes &&
      a.verified)
  missing.forM fun n => do
    let incapable : RecipeError := .build "build.import_capability_missing"
      "a mapped GPU node cannot import the exact OCI result"
    let node ← fetch (db.queue.nodes.get? n.nodeId) incapable
    require (node.state = .active ∧ Capability.operation .recipeImageImport ∈ node.capabilities)
      incapable
  let payload : RecipePayload := .imageImport
    ⟨build.id, mapping.id, mapping.generation, build.builderNodeId, imageDigest, layout, imageBytes⟩
  let targets := missing.map (·.nodeId)
  .ok (⟨build.id, mapping.id, mapping.generation, imageDigest, targets⟩,
    targets.map fun nodeId => (nodeId, payload))

end Plans

section Acceptance

variable (cfg : Config) (env : Env) (db : Database)

/-- `plan_digest` is unique beside the primary key. -/
def insertRun (r : RecipeRun) : Except RecipeError Database :=
  if db.runs.rows.any (·.planDigest = r.planDigest) then .error .integrity
  else do
    let runs ← fetch (db.runs.insert r) .integrity
    .ok { db with runs := runs }

def insertRunNode (n : RunNode) : Except RecipeError Database :=
  if db.runNodes.rows.any (fun m => m.runId = n.runId && m.rank = n.rank) then .error .integrity
  else do
    let nodes ← fetch (db.runNodes.insert n) .integrity
    .ok { db with runNodes := nodes }

def insertInstallation (i : RecipeInstallation) : Except RecipeError Database :=
  if db.installations.rows.any (·.planDigest = i.planDigest) then .error .integrity
  else do
    let installations ← fetch (db.installations.insert i) .integrity
    .ok { db with installations := installations }

def insertInstallationNode (n : InstallationNode) : Except RecipeError Database := do
  let nodes ← fetch (db.installationNodes.insert n) .integrity
  .ok { db with installationNodes := nodes }

def RunNodePlan.ports (n : RunNodePlan) : List ℕ := n.port :: n.rendezvousPort.toList

def checkRunNode (n : RunNodePlan) : Except RecipeError Unit := do
  let _ ← fetch (db.queue.nodes.get? n.nodeId) (.runtime "run node disappeared")
  let _ ← fetch (db.world.latest n.nodeId) (.runtime "run inventory disappeared")
  let changed : RecipeError := .runtime "memory capacity changed while reserving"
  let free ← fetch n.availableMemoryBytes changed
  require (reserved db n.nodeId n.memoryKind.reservation + n.requiredMemoryBytes +
    cfg.memoryFloorBytes ≤ free) changed
  require (∀ port ∈ n.ports, portOccupied db n.nodeId port = false)
    (.runtime "run port changed while reserving")

def reserveRunNode (runId : Uuid) (planDigest : Digest) (db : Database) (n : RunNodePlan) :
    Except RecipeError Database := do
  let db ← insertRunNode db
    { runId := runId, nodeId := n.nodeId, rank := n.rank, role := n.role, port := n.port,
      reservedMemoryBytes := n.requiredMemoryBytes, updatedAt := env.now }
  let db ← addReservation db
    { nodeId := n.nodeId, kind := n.memoryKind.reservation, resourceKey := planDigest,
      amountBytes := n.requiredMemoryBytes, ownerKind := .run, ownerId := runId }
  n.ports.foldlM (fun db port => addReservation db
    { nodeId := n.nodeId, kind := .port, resourceKey := port, amountBytes := 0,
      ownerKind := .run, ownerId := runId }) db

/-- `accept_run_in_session`, after its `plan_run` has returned `fresh`. -/
def acceptRunInSession (plan fresh : RunPlan) (aliasName : String) :
    Except RecipeError (Uuid × Database) := do
  require (fresh.allowed = true ∧ fresh.planDigest = plan.planDigest ∧
      fresh.mappingGeneration = plan.mappingGeneration) (.runtime "run plan is stale or blocked")
  let changed : RecipeError := .runtime "mapping generation changed while reserving"
  let mapping ← fetch (db.world.mappings.get? plan.mappingId) changed
  require (mapping.state = .ready ∧ mapping.generation = plan.mappingGeneration) changed
  (plan.nodes.insertionSort fun n m => n.nodeId ≤ m.nodeId).forM (checkRunNode cfg db)
  let db ← insertRun db
    { id := env.ownerId, installationId := plan.installationId, mappingId := plan.mappingId,
      mappingGeneration := plan.mappingGeneration, aliasName := aliasName,
      planDigest := plan.planDigest, ranks := plan.nodes.length, createdAt := env.now }
  let db ← plan.nodes.foldlM (reserveRunNode env env.ownerId plan.planDigest) db
  .ok (env.ownerId, db)

def checkInstallNode (n : InstallNodePlan) : Except RecipeError Unit := do
  let _ ← fetch (db.queue.nodes.get? n.nodeId) (.runtime "installation node disappeared")
  let changed : RecipeError := .runtime "disk capacity changed while reserving"
  let free ← fetch n.freeBytes changed
  require (reserved db n.nodeId .disk + n.requiredBytes + n.diskFloorBytes ≤ free) changed

def reserveInstallNode (installationId : Uuid) (planDigest : Digest) (db : Database)
    (n : InstallNodePlan) : Except RecipeError Database := do
  let db ← insertInstallationNode db
    { installationId := installationId, nodeId := n.nodeId, rank := n.rank, role := n.role,
      requiredBytes := n.requiredBytes }
  addReservation db
    { nodeId := n.nodeId, kind := .disk, resourceKey := planDigest, amountBytes := n.requiredBytes,
      ownerKind := .installation, ownerId := installationId }

/-- `accept_install_in_session`, after its `plan_install` has returned `fresh`. -/
def acceptInstallInSession (plan fresh : InstallPlan) : Except RecipeError (Uuid × Database) := do
  require (fresh.allowed = true ∧ fresh.planDigest = plan.planDigest ∧
      fresh.mappingGeneration = plan.mappingGeneration)
    (.runtime "installation plan is stale or blocked")
  let changed : RecipeError := .runtime "mapping or build changed while reserving"
  let mapping ← fetch (db.world.mappings.get? plan.mappingId) changed
  let build ← fetch (db.builds.get? plan.recipeBuildId) changed
  require (mapping.generation = plan.mappingGeneration ∧ mapping.state = .ready ∧
      build.state = .succeeded ∧ build.imageDigest = some plan.imageDigest) changed
  (plan.nodes.insertionSort fun n m => n.nodeId ≤ m.nodeId).forM (checkInstallNode db)
  let db ← insertInstallation db
    { id := env.ownerId, recipeRevisionId := plan.recipeRevisionId, mappingId := plan.mappingId,
      mappingGeneration := plan.mappingGeneration, recipeBuildId := plan.recipeBuildId,
      imageDigest := plan.imageDigest, planDigest := plan.planDigest }
  let db ← plan.nodes.foldlM (reserveInstallNode env.ownerId plan.planDigest) db
  .ok (env.ownerId, db)

/-- The disk that a build takes: staging and the export coexist until it is committed. -/
def BuildPayload.diskBytes (p : BuildPayload) : ℕ :=
  p.temporaryBytes + p.sourceBundleBytes + p.outputBytes

/-- `reserve_in_session`, after the snapshot was read. -/
def reserveInSession (plan : RecipeBuildPlan) (snapshot : NodeInventorySnapshot) :
    Except RecipeError Database := do
  let node ← fetch (db.queue.nodes.get? plan.builderNodeId)
    (.build "build.node_unknown" "builder GPU node is unknown")
  validateBuilder cfg node
  require (stale cfg env.now snapshot = false)
    (.build "build.inventory_stale" "builder inventory is stale")
  require (reserved db plan.builderNodeId .disk + plan.agentPayload.diskBytes ≤
      snapshot.diskFreeBytes)
    (.build "build.insufficient_disk" "builder disk capacity changed")
  require (reserved db plan.builderNodeId .hostMemory + plan.agentPayload.memoryBytes ≤
      snapshot.hostMemoryFreeBytes)
    (.build "build.insufficient_memory" "builder memory capacity changed")
  let reservation : ResourceReservation :=
    { nodeId := plan.builderNodeId, kind := .disk, resourceKey := plan.buildInputSha256,
      amountBytes := plan.agentPayload.diskBytes, ownerKind := .recipeBuild,
      ownerId := plan.buildId }
  let db ← addReservation db reservation
  addReservation db
    { reservation with kind := .hostMemory, amountBytes := plan.agentPayload.memoryBytes }

end Acceptance

end VonkForge.Recipes
