import VonkForge.GenerationStore
import Mathlib.Data.List.Dedup

/-!
# Upgrades of the control host

`HostUpgradeBoundary` observes and performs the phases of an upgrade; `PhaseDispatcher` probes,
performs, probes again and journals each of them.
-/

namespace VonkForge.HostUpgrade

open HostState Program

/-! ### Plans and phases -/

inductive OperationKind
  | apply
  | rollback
  deriving DecidableEq

structure Running where
  generation : GenerationReceipt
  nonce : ℕ
  deriving DecidableEq

/-- `ControlGenerationPlan`. The selection stands for its identifier, digests and sequence number,
and the processes for the digest of their identities. -/
structure Plan where
  operationId : String
  planDigest : Digest
  operationKind : OperationKind
  startNonce : ℕ
  generation : GenerationReceipt
  currentDatabaseRevision : String
  previous : Option SelectedGeneration
  siteConfigurationDigest : Digest
  running : Option Running
  requiredBytes : ℕ
  deriving DecidableEq

def Plan.generationId (plan : Plan) : String := plan.generation.generationId

def Plan.previousGeneration (plan : Plan) : Option String := plan.previous.map (·.generationId)

inductive Phase
  | authorized
  | bundleImagesAcquired
  | generationStaged
  | backupCompleted
  | servicesStoppedDatabaseMigrated
  | candidateReady
  | generationCommitted
  | generationSelected
  | servicesStarted
  | workerReady
  | completed
  | predecessorVerified
  | servicesStopped
  | rolledBack
  | compensationStarted
  | compensationServicesStopped
  | backupRestored
  | predecessorSelected
  | predecessorServicesStarted
  | predecessorWorkerReady
  | candidateCleaned
  | failed
  deriving DecidableEq

def Phase.text : Phase → String
  | authorized => "authorized"
  | bundleImagesAcquired => "bundle-images-acquired"
  | generationStaged => "generation-staged"
  | backupCompleted => "backup-completed"
  | servicesStoppedDatabaseMigrated => "services-stopped-database-migrated"
  | candidateReady => "candidate-ready"
  | generationCommitted => "generation-committed"
  | generationSelected => "generation-selected"
  | servicesStarted => "services-started"
  | workerReady => "worker-ready"
  | completed => "completed"
  | predecessorVerified => "predecessor-verified"
  | servicesStopped => "services-stopped"
  | rolledBack => "rolled-back"
  | compensationStarted => "compensation-started"
  | compensationServicesStopped => "compensation-services-stopped"
  | backupRestored => "backup-restored"
  | predecessorSelected => "predecessor-selected"
  | predecessorServicesStarted => "predecessor-services-started"
  | predecessorWorkerReady => "predecessor-worker-ready"
  | candidateCleaned => "candidate-cleaned"
  | failed => "failed"

def applyPhases : List Phase :=
  [.authorized, .bundleImagesAcquired, .generationStaged, .backupCompleted,
    .servicesStoppedDatabaseMigrated, .candidateReady, .generationCommitted, .generationSelected,
    .servicesStarted, .workerReady, .completed]

def rollbackPhases : List Phase :=
  [.authorized, .predecessorVerified, .servicesStopped, .generationSelected, .servicesStarted,
    .workerReady, .rolledBack]

def destructiveCompensationPhases : List Phase :=
  [.compensationStarted, .compensationServicesStopped, .backupRestored, .predecessorSelected,
    .predecessorServicesStarted, .predecessorWorkerReady, .candidateCleaned, .failed]

def nondestructiveCompensationPhases : List Phase :=
  [.compensationStarted, .candidateCleaned, .failed]

inductive Disposition
  | exact
  | absent
  | incomplete
  | conflict
  | ambiguous
  deriving DecidableEq

/-! ### The host -/

/-- `bundle.json`; the digests of the archive and of its manifest are those of the bundle. -/
structure BundleReceipt where
  layerDigest : Digest
  images : List String
  deriving DecidableEq

structure BundleDirectory where
  archive : Option (File Digest) := none
  receipt : Option (File BundleReceipt) := none

/-- `HostOperationPlan`, which the projection of a candidate shows. -/
structure Candidate where
  operationId : String
  planDigest : Digest
  generation : GenerationReceipt
  deriving DecidableEq

structure Backup where
  operationId : String
  generation : GenerationReceipt
  databaseRevision : String

structure Operation where
  plan : Plan
  phases : List Phase
  deriving DecidableEq

def Operation.terminal (op : Operation) : Bool :=
  op.phases.getLast?.any (· ∈ [Phase.completed, .failed, .rolledBack])

structure Host where
  store : Store := {}
  candidates : String → Option Candidate := fun _ => none
  bundles : Digest → Option BundleDirectory := fun _ => none
  images : String → Bool := fun _ => false
  backups : String → Option Backup := fun _ => none
  restored : String → Bool := fun _ => false
  database : String := "uninitialized"
  services : Option Running := none
  containers : String → Option Running := fun _ => none
  /-- `runtime-launches`. -/
  nonces : String → String → Option ℕ := fun _ _ => none
  siteConfigurationDigest : Digest := 0
  availableBytes : ℕ := 0
  /-- The journal that was created last; the ones before it are terminal. -/
  journal : Option Operation := none

/-- What comes from outside: the releases, and what commands print. -/
structure World where
  sizes : DocumentSizes
  /-- The images of `images.lock.json` in a bundle. -/
  bundleImages : Digest → List String
  bundleBytes : BundleReceipt → ℕ
  /-- The digest of what `docker compose config` prints. -/
  rendered : Plan → Digest
  /-- The release source names exactly the release of the plan. -/
  authorized : Plan → Bool
  /-- The release of the selected generation names the target of the plan as a predecessor. -/
  authorizesRollback : Plan → SelectedGeneration → Bool
  /-- The random nonces of launches. -/
  nonce : String → String → ℕ

def sameIdentity (a b : GenerationReceipt) : Bool :=
  a.buildDigest = b.buildDigest && a.databaseRevision = b.databaseRevision &&
    a.generationId = b.generationId && a.apiImage = b.apiImage && a.workerImage = b.workerImage &&
    a.platformVersion = b.platformVersion && a.releaseDigest = b.releaseDigest

def matchesPlan (g : GenerationReceipt) (plan : Plan) : Bool :=
  g = { plan.generation with tufTargetsVersion := g.tufTargetsVersion }

section Boundary

variable (w : World)

/-! ### Observing -/

def loadActive : Program Host HostError (Option SelectedGeneration) :=
  zoom Host.store (fun store h => { h with store }) (reconcileSelection w.sizes)

/-- The check of `_run_at_generation` on `compose.yaml`. -/
def requireCompose (g : GenerationReceipt) (h : Host) : Except HostError Unit :=
  match h.store.generations g.generationId with
  | some tree =>
    if "compose.yaml" ∈ tree.assets then .ok ()
    else .error (.conflict "generation Compose file is missing or unsafe")
  | none => .error (.conflict "generation Compose file is missing or unsafe")

section

variable (plan : Plan) (operation : String) (phase : Phase) (h : Host)

/-- The check of `_run_at_staging` on `compose.yaml`. -/
def requireStaged : Except HostError Unit :=
  match h.store.staging plan.generationId with
  | some tree =>
    if "compose.yaml" ∈ tree.assets then .ok ()
    else .error (.conflict "staged generation Compose file is missing or unsafe")
  | none => .error (.conflict "staged generation Compose file is missing or unsafe")

section

variable (g : GenerationReceipt) (active : SelectedGeneration) (h : Host)

def requireSelected : Except HostError Unit :=
  match h.store.generations g.generationId with
  | some tree =>
    if tree.generation = some (.whole g) ∧ w.sizes.generation g ≤ maxDocumentBytes ∧
        "compose.yaml" ∈ tree.assets then .ok ()
    else .error (.failed "selected generation")
  | none => .error (.failed "selected generation")

def databaseRevision : Program Host HostError String := do
  match ← loadActive w with
  | none => pure "uninitialized"
  | some active => do
    check (requireCompose active.generation)
    let h ← get
    pure h.database

def runningControlIdentities : Program Host HostError (Option Running) := do
  match ← loadActive w with
  | none => pure none
  | some active => do
    check (requireCompose active.generation)
    let h ← get
    match h.services with
    | none => pure none
    | some running =>
      if sameIdentity running.generation active.generation then pure (some running)
      else raise (.conflict "running control identity is inconsistent")

def selectedForGeneration (id : String) : Program Host HostError GenerationReceipt := do
  let active ← loadActive w
  match active with
  | some active =>
    if active.generationId = id then pure active.generation
    else check fun h => loadGeneration w.sizes id h.store
  | none => check fun h => loadGeneration w.sizes id h.store

def references : List String :=
  (plan.generation.apiImage :: plan.generation.workerImage ::
    w.bundleImages plan.generation.deploymentBundleDigest).dedup.insertionSort (· ≤ ·)

/-- `_load_bundle` and the verification of the bundle. -/
def loadBundle : Except HostError BundleReceipt :=
  match h.bundles plan.generation.deploymentBundleDigest with
  | none => .error (.conflict "deployment bundle is missing or unsafe")
  | some dir =>
    match dir.archive, dir.receipt with
    | none, _ => .error (.conflict "deployment bundle is missing or unsafe")
    | some .part, _ => .error (.conflict "deployment bundle is unsafe")
    | some (.whole _), none => .error (.conflict "deployment bundle receipt is missing")
    | some (.whole _), some .part => .error (.conflict "phase receipt is unsafe")
    | some (.whole digest), some (.whole receipt) =>
      if maxDocumentBytes < w.bundleBytes receipt then .error (.conflict "phase receipt is unsafe")
      else if digest ≠ plan.generation.deploymentBundleDigest then
        .error (.bundle "deployment bundle descriptor digest is invalid")
      else .ok receipt

/-- The reading of `staging.json` and of the rendered model. -/
def probeStaged (s : Store) : Except HostError Disposition :=
  match (s.staging plan.generationId).bind (·.staging) with
  | none => .ok .absent
  | some .part => .error (.conflict "phase receipt is unsafe")
  | some (.whole receipt) =>
    if receipt ≠ ⟨plan.generation.deploymentBundleDigest, plan.generationId, plan.planDigest,
        receipt.renderedComposeSha256⟩ then .ok .conflict
    else
      match (s.staging plan.generationId).bind (·.rendered) with
      | some (.whole rendered) =>
        if rendered ≠ receipt.renderedComposeSha256 then .ok .conflict else .ok .exact
      | _ => .error (.conflict "rendered Compose model is missing or unsafe")

/-- `_readiness_probe` of a process. -/
def readiness (process : Option Running) (g : GenerationReceipt) (nonce : ℕ) (h : Host) :
    Except HostError Unit :=
  match process with
  | none => .error (.failed "docker exec")
  | some running =>
    if h.database ≠ running.generation.databaseRevision then .error (.failed "not ready")
    else if sameIdentity running.generation g ∧ running.nonce = nonce then .ok ()
    else .error (.conflict "generation readiness identity is inconsistent")

def readinessDisposition (r : Except HostError Unit) : Except HostError Disposition :=
  match r with
  | .ok () => .ok .exact
  | .error (.failed _) => .ok .incomplete
  | .error e => .error e

def candidateReadiness : Except HostError Disposition :=
  readinessDisposition (readiness (h.containers plan.operationId) plan.generation plan.startNonce h)

def candidateIsClean : Bool :=
  (h.candidates operation).isNone && (h.containers operation).isNone

def candidateOf : Candidate :=
  ⟨plan.operationId, plan.planDigest, plan.generation⟩

def probeSelection (expected : Option String) (exact : SelectedGeneration → Bool) :
    Program Host HostError Disposition := do
  match ← loadActive w with
  | none => pure .absent
  | some active =>
    if some active.generationId ≠ expected then pure .conflict
    else if exact active then pure .exact
    else pure .conflict

def selectedByPlan : Bool :=
  matchesPlan active.generation plan && active.selection.operationId = plan.operationId &&
    active.selection.planDigest = plan.planDigest &&
    active.selection.previousGeneration = plan.previousGeneration

def selectedPredecessor : Bool :=
  some active = plan.previous ||
    active.selection.operationId = plan.operationId &&
      active.selection.planDigest = plan.planDigest &&
      active.selection.previousGeneration = some plan.generationId

def probeWorker (expected : Option String) (clean : Bool) : Program Host HostError Disposition := do
  match ← loadActive w with
  | none => pure .absent
  | some active =>
    if some active.generationId ≠ expected then pure .conflict
    else do
      let h ← get
      match h.nonces plan.operationId active.generationId with
      | none => pure .absent
      | some nonce => do
        check (requireCompose active.generation)
        if h.services.isNone then raise (.conflict "selected API container is unavailable")
        else do
          let ready ← check fun h =>
            readinessDisposition (readiness h.services active.generation nonce h)
          if ready = .exact ∧ clean ∧ candidateIsClean plan.operationId h = false then
            pure .incomplete
          else pure ready

def probe : Phase → Program Host HostError Disposition
  | .bundleImagesAcquired => do
    let h ← get
    match h.bundles plan.generation.deploymentBundleDigest with
    | none => pure .absent
    | some _ => do
      let receipt ← check (loadBundle w plan)
      if receipt ≠ ⟨plan.generation.deploymentBundleDigest, references w plan⟩ then
        pure .conflict
      else if (references w plan).all h.images then pure .exact
      else pure .incomplete
  | .generationStaged => check fun h => probeStaged plan h.store
  | .backupCompleted =>
    match plan.previous with
    | none => pure .exact
    | some previous => do
      let h ← get
      match h.backups plan.operationId with
      | none => pure .absent
      | some backup =>
        if backup.operationId = plan.operationId ∧ backup.generation = previous.generation then
          pure .exact
        else pure .conflict
  | .servicesStoppedDatabaseMigrated =>
    match plan.previous with
    | none => check fun h =>
      match (h.store.staging plan.generationId).bind (·.migration) with
      | none => .ok .absent
      | some .part => .error (.conflict "phase receipt is unsafe")
      | some (.whole revision) =>
        if revision = plan.generation.databaseRevision then .ok .exact else .ok .absent
    | some _ => do
      let revision ← databaseRevision w
      let running ← runningControlIdentities w
      if revision = plan.generation.databaseRevision ∧ running = none then pure .exact
      else if revision = plan.currentDatabaseRevision ∨
          revision = plan.generation.databaseRevision then pure .incomplete
      else pure .ambiguous
  | .candidateReady => do
    let h ← get
    match h.candidates plan.operationId with
    | none => pure .absent
    | some candidate =>
      if candidate ≠ candidateOf plan then pure .conflict
      else check (candidateReadiness plan)
  | .generationCommitted => do
    let h ← get
    match h.store.generations plan.generationId with
    | none => do
      let staged ← check fun h => probeStaged plan h.store
      if staged = .exact then pure .absent else pure .conflict
    | some _ => do
      let g ← selectedForGeneration w plan.generationId
      if matchesPlan g plan then pure .exact else pure .conflict
  | .backupRestored => do
    let h ← get
    match h.backups plan.operationId, plan.previous with
    | some backup, some previous => do
      let g ← selectedForGeneration w previous.generationId
      if h.restored plan.operationId = false then pure .absent
      else do
        check (requireSelected w g)
        if backup.generation = g ∧ h.database = g.databaseRevision then pure .exact
        else raise (.failed "restored site or database state is not exact")
    | _, _ => pure .absent
  | .generationSelected =>
    probeSelection w (some plan.generationId) (selectedByPlan plan)
  | .predecessorSelected =>
    probeSelection w plan.previousGeneration (selectedPredecessor plan)
  | .servicesStarted => do
    let running ← runningControlIdentities w
    if running.isSome then pure .exact else pure .absent
  | .predecessorServicesStarted => do
    let running ← runningControlIdentities w
    if running.isSome then pure .exact else pure .absent
  | .workerReady => probeWorker w plan (some plan.generationId) false
  | .completed => probeWorker w plan (some plan.generationId) true
  | .rolledBack => probeWorker w plan (some plan.generationId) true
  | .predecessorWorkerReady => probeWorker w plan plan.previousGeneration false
  | .failed => probeWorker w plan plan.previousGeneration true
  | .servicesStopped => do
    let running ← runningControlIdentities w
    if running.isNone then pure .exact else pure .incomplete
  | .compensationServicesStopped => do
    let running ← runningControlIdentities w
    if running.isNone then pure .exact else pure .incomplete
  | .candidateCleaned => do
    let h ← get
    if candidateIsClean plan.operationId h then pure .exact else pure .incomplete
  | _ => pure .absent

/-- `probe_phase`: an error that is not of a bundle is a conflict. -/
def probePhase : Program Host HostError Disposition :=
  (probe w plan phase).recover fun e =>
    match e with
    | .ambiguousMigration _ => .ok .ambiguous
    | .bundle m => .error (.bundle m)
    | _ => .ok .conflict

/-! ### Performing -/

def command (e : HostError) : Program Host HostError Unit := effect (fun h => h) e

def setBundle (digest : Digest) (dir : Option BundleDirectory) (h : Host) : Host :=
  { h with bundles := Function.update h.bundles digest dir }

def fetchBundle : Program Host HostError Unit := do
  let digest := plan.generation.deploymentBundleDigest
  let receipt : BundleReceipt := ⟨digest, references w plan⟩
  command (.upgrade "deployment bundle acquisition failed")
  effect (setBundle digest (some {})) (.failed "bundle directory")
  onRaise
    (do
      effect (setBundle digest (some { archive := some .part })) (.failed "bundle archive")
      effect (setBundle digest (some { archive := some (.whole digest) }))
        (.failed "bundle archive")
      effect (setBundle digest (some { archive := some (.whole digest), receipt := some .part }))
        (.failed "bundle receipt")
      effect (setBundle digest
        (some { archive := some (.whole digest), receipt := some (.whole receipt) }))
        (.failed "bundle receipt"))
    (attempt (effect (setBundle digest none) (.failed "bundle directory")))

def addImage (image : String) (h : Host) : Host :=
  { h with images := Function.update h.images image true }

def acquireBundle : Program Host HostError Unit := do
  command (.failed "host directories")
  let h ← get
  match h.bundles plan.generation.deploymentBundleDigest with
  | some _ => do
    let receipt ← check (loadBundle w plan)
    if receipt ≠ ⟨plan.generation.deploymentBundleDigest, references w plan⟩ then
      raise (.conflict "deployment bundle receipt is inconsistent")
    else pure ()
  | none => fetchBundle w plan
  (references w plan).forM fun image =>
    effectUnless (fun h => h.images image) (addImage image) (.failed "docker pull")

def onStore {α : Type} (x : Program Store HostError α) : Program Host HostError α :=
  zoom Host.store (fun store h => { h with store }) x

def stageGeneration : Program Host HostError Unit := do
  let _ ← check (loadBundle w plan)
  onStore (prepareStaging plan.generationId (populateStaging
    ⟨plan.generation.deploymentBundleDigest, plan.generationId, plan.planDigest, w.rendered plan⟩))

def setBackup : Host :=
  { h with backups := Function.update h.backups operation (some ⟨operation, g, h.database⟩) }

/-- `create_upgrade_backup`, as one effect. -/
def createBackup : Program Host HostError Unit := do
  check (requireSelected w active.generation)
  effect (setBackup plan.operationId active.generation) (.failed "backup")

def setServices (process : Option Running) (h : Host) : Host := { h with services := process }

def setDatabase (revision : String) (h : Host) : Host := { h with database := revision }

def setMigration (file : File String) (h : Host) : Host :=
  { h with
    store := updateStaging plan.generationId (fun t => { t with migration := some file }) h.store }

def migrate : Program Host HostError Unit := do
  check (requireStaged plan)
  effect (setDatabase plan.generation.databaseRevision)
    (.ambiguousMigration "database migration outcome is unknown")
  let h ← get
  if ((h.store.staging plan.generationId).bind (·.migration)).isSome then
    raise (.failed "migration receipt")
  else do
    effect (setMigration plan .part) (.failed "migration receipt")
    effect (setMigration plan (.whole plan.generation.databaseRevision))
      (.failed "migration receipt")

def stopAndMigrate : Program Host HostError Unit := do
  match ← loadActive w with
  | none => do
    let h ← get
    match (h.store.staging plan.generationId).bind (·.migration) with
    | some .part => raise (.conflict "phase receipt is unsafe")
    | some (.whole revision) =>
      if revision = plan.generation.databaseRevision then pure ()
      else do
        check (requireStaged plan)
        command (.failed "docker compose up postgres")
        migrate plan
    | none => do
      check (requireStaged plan)
      command (.failed "docker compose up postgres")
      migrate plan
  | some active => do
    check (requireCompose active.generation)
    effect (setServices none) (.failed "docker compose stop")
    command (.failed "database revision")
    let revision ← databaseRevision w
    if revision = plan.generation.databaseRevision then pure ()
    else if revision ≠ plan.currentDatabaseRevision then
      raise (.ambiguousMigration "database is neither at predecessor nor target revision")
    else migrate plan

def setCandidate (candidate : Option Candidate) (h : Host) : Host :=
  { h with candidates := Function.update h.candidates operation candidate }

def projectCandidate : Program Host HostError Unit := do
  let h ← get
  match h.candidates plan.operationId with
  | some existing =>
    if existing ≠ candidateOf plan then
      raise (.hostState ⟨"candidate projection operation already exists"⟩)
    else pure ()
  | none =>
    effect (setCandidate plan.operationId (some (candidateOf plan)))
      (.failed "candidate projection")

def setContainer (process : Option Running) (h : Host) : Host :=
  { h with containers := Function.update h.containers operation process }

/-- `_wait_for_readiness`: every failure is tried again until the deadline. -/
def awaitReady (process : Host → Option Running) (g : GenerationReceipt) (nonce : ℕ) :
    Program Host HostError Unit := do
  command (.upgrade "generation readiness deadline elapsed")
  check fun h =>
    match readiness (process h) g nonce h with
    | .ok () => .ok ()
    | .error _ => .error (.upgrade "generation readiness deadline elapsed")

end

def startCandidate : Program Host HostError Unit := do
  projectCandidate plan
  attempt (effect (setContainer plan.operationId none) (.failed "docker rm"))
  check (requireStaged plan)
  let h ← get
  if (h.containers plan.operationId).isSome then raise (.failed "docker compose run")
  else do
    effect (setContainer plan.operationId (some ⟨plan.generation, plan.startNonce⟩))
      (.failed "docker compose run")
    awaitReady (fun h => h.containers plan.operationId) plan.generation plan.startNonce

def setNonce (generation : String) (nonce : ℕ) (h : Host) : Host :=
  { h with
    nonces := Function.update h.nonces operation
      (Function.update (h.nonces operation) generation (some nonce)) }

def selectedRuntimeNonce (generation : String) : Program Host HostError ℕ := do
  let h ← get
  match h.nonces operation generation with
  | some nonce => pure nonce
  | none => do
    effect (setNonce operation generation (w.nonce operation generation))
      (.failed "selected runtime")
    pure (w.nonce operation generation)

def startServices (id : Option String) : Program Host HostError Unit :=
  match id with
  | none => raise (.conflict "predecessor generation is unavailable")
  | some id => do
    let g ← selectedForGeneration w id
    let nonce ← selectedRuntimeNonce w plan.operationId id
    check (requireCompose g)
    effect (setServices (some ⟨g, nonce⟩)) (.failed "docker compose up")

/-- `GENERATION_SELECTED` and `PREDECESSOR_SELECTED`. -/
def selectGeneration (id : Option String) : Program Host HostError Unit :=
  match id with
  | none => raise (.conflict "selection generation is unavailable")
  | some id => do
    let g ← check fun h => loadGeneration w.sizes id h.store
    let previous ← loadActive w
    let _ ← onStore (select w.sizes
      ⟨plan.operationId, plan.planDigest, g, previous.map (·.generationId)⟩)

def stopServices : Program Host HostError Unit := do
  match ← loadActive w with
  | none => pure ()
  | some active => do
    check (requireCompose active.generation)
    effect (setServices none) (.failed "docker compose stop")

def awaitWorker : Program Host HostError Unit := do
  match ← loadActive w with
  | none => raise (.conflict "an active control generation is required")
  | some active => do
    let nonce ← selectedRuntimeNonce w plan.operationId active.generationId
    check (requireCompose active.generation)
    let h ← get
    if h.services.isNone then raise (.conflict "selected API container is unavailable")
    else awaitReady Host.services active.generation nonce

def cleanCandidate : Program Host HostError Unit := do
  attempt (effect (setContainer plan.operationId none) (.failed "docker rm"))
  effectUnless (fun h => (h.candidates plan.operationId).isNone)
    (setCandidate plan.operationId none) (.failed "candidate projection")

def setRestored : Host :=
  { h with restored := Function.update h.restored operation true }

/-- `BACKUP_RESTORED`; `restore_for_compensation` is one effect here. -/
def restoreBackup : Program Host HostError Unit :=
  match plan.previous with
  | none => raise (.conflict "compensation predecessor is unavailable")
  | some previous => do
    let h ← get
    match h.backups plan.operationId with
    | none => raise (.upgrade "compensation backup is unavailable")
    | some backup => do
      let g ← selectedForGeneration w previous.generationId
      check (requireSelected w g)
      if backup.generation ≠ g then raise (.failed "restore generation does not match backup")
      else do
        effect (setDatabase backup.databaseRevision) (.failed "pg_restore")
        if backup.databaseRevision ≠ g.databaseRevision then
          raise (.failed "restored site or database state is not exact")
        else effect (setRestored plan.operationId) (.failed "restore receipt")

def perform : Phase → Program Host HostError Unit
  | .bundleImagesAcquired => acquireBundle w plan
  | .generationStaged => stageGeneration w plan
  | .backupCompleted => do
    match ← loadActive w, plan.previous with
    | none, none => pure ()
    | none, some _ => raise (.conflict "backup predecessor selection changed")
    | some active, _ =>
      if some active.generationId ≠ plan.previousGeneration then
        raise (.conflict "backup predecessor selection changed")
      else createBackup w plan active
  | .servicesStoppedDatabaseMigrated => stopAndMigrate w plan
  | .candidateReady => startCandidate plan
  | .generationCommitted => onStore (commitGeneration plan.generation)
  | .generationSelected => selectGeneration w plan (some plan.generationId)
  | .predecessorSelected => selectGeneration w plan plan.previousGeneration
  | .backupRestored => restoreBackup w plan
  | .servicesStarted => startServices w plan (some plan.generationId)
  | .predecessorServicesStarted => startServices w plan plan.previousGeneration
  | .servicesStopped => stopServices w
  | .compensationServicesStopped => stopServices w
  | .candidateCleaned => cleanCandidate plan
  | .completed => cleanCandidate plan
  | .workerReady => awaitWorker w plan
  | .predecessorWorkerReady => awaitWorker w plan
  | .predecessorVerified => pure ()
  | .rolledBack => pure ()
  | .failed => pure ()
  | phase => raise (.upgrade ("upgrade phase is not implemented: " ++ phase.text))

def performPhase : Program Host HostError Unit :=
  (perform w plan phase).mapError fun e =>
    match e with
    | .hostState _ => .conflict "upgrade host state changed"
    | .failed _ => .upgrade "upgrade phase command failed safely"
    | .bundle _ => .upgrade "upgrade phase command failed safely"
    | e => e

/-! ### The dispatcher -/

structure PhaseStep where
  phase : Phase
  probe : Program Host HostError Disposition
  perform : Program Host HostError Unit
  recheckOnResume : Bool := false

def record : Host :=
  { h with journal := h.journal.map fun op => { op with phases := op.phases ++ [phase] } }

def settle : Disposition → Program Host HostError Unit
  | .ambiguous =>
    raise (.recoveryRequired (phase.text ++ " outcome requires operator recovery"))
  | .conflict => raise (.conflict (phase.text ++ " exact probe conflicted"))
  | .exact => modify (record phase)
  | _ => raise (.recoveryRequired (phase.text ++ " did not establish an exact effect"))

/-- One step of the second loop of `run`. -/
def runStep (step : PhaseStep) : Program Host HostError Unit := do
  let observation ← step.probe
  if observation = .absent ∨ observation = .incomplete then do
    step.perform
    let observation ← step.probe
    settle step.phase observation
  else settle step.phase observation

/-- One step of the first loop of `run`. -/
def recheckStep (step : PhaseStep) : Program Host HostError Unit :=
  if step.recheckOnResume = false then pure ()
  else do
    let observation ← step.probe
    if observation = .conflict then
      raise (.conflict (step.phase.text ++ " exact probe conflicted"))
    else if observation ≠ .exact then
      raise (.recoveryRequired (step.phase.text ++ " could not be revalidated"))
    else pure ()

def dispatch (steps : List PhaseStep) : Program Host HostError Unit := do
  let h ← get
  match h.journal with
  | none => raise (.recoveryRequired "pending operation journal is unavailable")
  | some op =>
    if op.phases ≠ (steps.map (·.phase)).take op.phases.length then
      raise (.recoveryRequired "operation journal phase order is invalid")
    else do
      (steps.take op.phases.length).forM recheckStep
      (steps.drop op.phases.length).forM runStep

def boundaryStep : PhaseStep :=
  ⟨phase, probePhase w plan phase, performPhase w plan phase, false⟩

def authorizationStep : PhaseStep :=
  ⟨.authorized, pure (if w.authorized plan then .exact else .conflict), pure (), true⟩

def requireRollbackPredecessor : Program Host HostError Unit := do
  match ← loadActive w with
  | none => raise (.conflict "selected rollback source changed after planning")
  | some active =>
    if some active.generationId ≠ plan.previousGeneration then
      raise (.conflict "selected rollback source changed after planning")
    else do
      let receipt ← check fun h => loadGeneration w.sizes plan.generationId h.store
      if w.authorizesRollback plan active ∧ matchesPlan receipt plan then pure ()
      else raise (.conflict "rollback source no longer authorizes the exact predecessor")

def rollbackStep : PhaseStep :=
  ⟨.predecessorVerified,
    ((requireRollbackPredecessor w plan) >>= fun _ => pure Disposition.exact).recover
      fun _ => .ok .conflict, pure (), false⟩

def phaseProgram : List PhaseStep :=
  match plan.operationKind with
  | .apply => authorizationStep w plan :: applyPhases.tail.map (boundaryStep w plan)
  | .rollback =>
    authorizationStep w plan :: rollbackStep w plan ::
      (rollbackPhases.drop 2).map (boundaryStep w plan)

/-! ### Apply and recover -/

def requireNewPlanSnapshot : Program Host HostError Unit :=
  if w.authorized plan = false then
    raise (.conflict "platform authorization changed after planning")
  else do
    let revision ← databaseRevision w
    let running ← runningControlIdentities w
    let selected ← loadActive w
    let h ← get
    if revision = plan.currentDatabaseRevision ∧
        h.siteConfigurationDigest = plan.siteConfigurationDigest ∧ running = plan.running ∧
        plan.requiredBytes ≤ h.availableBytes ∧ selected = plan.previous then pure ()
    else raise (.conflict "control generation plan is stale")

def canCompensate : HostError → Bool
  | .upgrade _ => plan.operationKind = .apply
  | _ => false

def recordedStep : PhaseStep := ⟨phase, pure .exact, pure (), false⟩

def isCompensation : Bool := phase ∈ destructiveCompensationPhases

def compensationProgram (op : Operation) : Except HostError (List PhaseStep) :=
  let applied := op.phases.takeWhile (!isCompensation ·)
  let recorded := op.phases.drop applied.length
  let destructive := applied.contains .servicesStoppedDatabaseMigrated ||
    recorded.head? = some .compensationServicesStopped
  let compensation := if destructive then destructiveCompensationPhases
    else nondestructiveCompensationPhases
  if applied ≠ applyPhases.take applied.length then
    .error (.recoveryRequired "operation journal cannot transition to compensation")
  else if destructive ∧ plan.previous = none then
    .error (.recoveryRequired "destructive first-install failure has no predecessor to restore")
  else if recorded ≠ compensation.take recorded.length then
    .error (.recoveryRequired "compensation journal phase order is invalid")
  else
    .ok ((applyPhases.take applied.length).map recordedStep ++
      compensation.map fun phase =>
        if phase = .compensationStarted then recordedStep phase else boundaryStep w plan phase)

def pendingOperation : Option Operation := h.journal.filter (!·.terminal)

def runCompensation : Program Host HostError Unit := do
  let h ← get
  match pendingOperation h with
  | none => raise (.recoveryRequired "pending compensation journal is unavailable")
  | some op => do
    let steps ← check fun _ => compensationProgram w plan op
    dispatch steps
    let h ← get
    if h.journal.any (fun op => op.phases.getLast? = some .failed) then pure ()
    else raise (.recoveryRequired "compensation did not reach a terminal state")

def runOperation (compensated : HostError → Program Host HostError Unit) : Program Host
    HostError Unit := ⟨fun h fs =>
  match (dispatch (phaseProgram w plan)).run h fs with
  | ⟨.raised e, t, fs'⟩ =>
    if canCompensate plan e then
      (runCompensation w plan >>= fun _ => compensated e).run t fs'
    else ⟨.raised e, t, fs'⟩
  | ending => ending⟩

end

/-- `_apply_exact`; the error is raised again when it was compensated. -/
def apply (plan : Plan) : Program Host HostError Unit := do
  let h ← get
  if (pendingOperation h).isSome then
    raise (.recoveryRequired "a pending host operation must be recovered before apply")
  else do
    requireNewPlanSnapshot w plan
    if plan.operationKind = .rollback then requireRollbackPredecessor w plan
    modify fun h => { h with journal := some ⟨plan, []⟩ }
    runOperation w plan raise

def recoverOperation : Program Host HostError Unit := do
  let h ← get
  match pendingOperation h with
  | none => raise (.conflict "there is no pending host operation")
  | some op =>
    if op.phases.any isCompensation then runCompensation w op.plan
    else runOperation w op.plan fun _ => pure ()

end Boundary

end VonkForge.HostUpgrade
