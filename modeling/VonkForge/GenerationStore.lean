import VonkForge.PhaseJournal

/-!
# The generations of the control host

`HostGenerationStore`: staged and committed generations, candidates, and the selection.
-/

namespace VonkForge.HostState

open Program

inductive HostError
  | hostState (conflict : HostStateConflict)
  /-- `UpgradeConflict`. -/
  | conflict (message : String)
  /-- `AmbiguousMigrationError`. -/
  | ambiguousMigration (message : String)
  /-- `UpgradeRecoveryRequired`. -/
  | recoveryRequired (message : String)
  /-- `UpgradeError` itself. -/
  | upgrade (message : String)
  /-- An `OSError`, or a command that failed. -/
  | failed (what : String)
  /-- `DeploymentBundleError`. -/
  | bundle (message : String)
  /-- A `ValueError`, which no clause of `perform_phase` takes. -/
  | value (message : String)
  deriving DecidableEq

structure GenerationReceipt where
  (generationId platformTargetName : String)
  platformTargetSha256 : Digest
  tufTargetsVersion : ℕ
  (releaseDigest buildDigest : Digest)
  platformVersion : String
  deploymentBundleDigest : Digest
  (apiImage workerImage databaseRevision : String)
  valid : validIdentifier generationId = true
  deriving DecidableEq

structure SelectionReceipt where
  operationId : String
  planDigest : Digest
  generation : GenerationReceipt
  previousGeneration : Option String
  deriving DecidableEq

/-- `SelectedGeneration`: the fields of the selection and of its generation.  The digests of the two
receipts stand for the receipts. -/
structure SelectedGeneration where
  selection : SelectionReceipt
  projectionSequence : ℕ
  deriving DecidableEq

def SelectedGeneration.generation (g : SelectedGeneration) : GenerationReceipt :=
  g.selection.generation

def SelectedGeneration.generationId (g : SelectedGeneration) : String :=
  g.generation.generationId

structure StagingReceipt where
  bundleDigest : Digest
  generationId : String
  (planDigest renderedComposeSha256 : Digest)
  deriving DecidableEq

/-- The lengths of the documents that are read back. -/
structure DocumentSizes where
  generation : GenerationReceipt → ℕ
  (active intent : SelectedGeneration → ℕ)

/-- The directory of a generation. A part of a file is what a kill leaves before the write: an empty
file. -/
structure Tree where
  /-- The assets of the deployment bundle that are extracted. -/
  assets : List String := []
  /-- `compose.rendered.yaml`, by its digest. -/
  rendered : Option (File Digest) := none
  staging : Option (File StagingReceipt) := none
  /-- `migration.json`, by the database revision. -/
  migration : Option (File String) := none
  generation : Option (File GenerationReceipt) := none

structure Store where
  staging : String → Option Tree := fun _ => none
  generations : String → Option Tree := fun _ => none
  active : Option SelectedGeneration := none
  pointer : Option String := none
  intent : Option SelectedGeneration := none

/-- `_MANIFEST` and `REQUIRED_DEPLOYMENT_ASSETS`, in the order of extraction. -/
def deploymentAssets : List String :=
  ["Caddyfile", "bin/harden-hermes-egress", "caddy/entrypoint.sh", "compose.builtin-ca.yaml",
    "compose.step-ca.yaml", "compose.yaml", "deployment-bundle.json",
    "grafana/dashboards/fleet.json", "grafana/dashboards/jobs.json",
    "grafana/provisioning/dashboards/default.yaml",
    "grafana/provisioning/datasources/prometheus.yaml", "hermes-agent/compose.yaml",
    "images.lock.json", "litellm/bootstrap-config.json", "litellm/config.yaml",
    "litellm/config_supervisor.py", "litellm/entrypoint.sh", "prometheus/alerts.yaml",
    "prometheus/prometheus.yml", "registry/config.yml", "step-ca/ca.json",
    "tailscale/compose.yaml", "tailscale/configure.sh", "trust/litellm-cosign.pub"]

section Reading

variable (sizes : DocumentSizes)

/-- The bound of `_validate_file` on a document that is read. -/
def readBounded {α : Type} (label : String) (size : ℕ) (content : α) : Except HostError α :=
  if maxDocumentBytes < size then .error (.hostState ⟨label ++ " size is unsafe"⟩)
  else .ok content

def loadGeneration (id : String) (s : Store) : Except HostError GenerationReceipt :=
  match s.generations id with
  | none => .error (.hostState ⟨"selected generation directory is missing or unsafe"⟩)
  | some tree =>
    match tree.generation with
    | none => .error (.hostState ⟨"generation receipt is missing or unsafe"⟩)
    | some .part => .error (.hostState ⟨"generation receipt size is unsafe"⟩)
    | some (.whole receipt) => do
      let receipt ← readBounded "generation receipt" (sizes.generation receipt) receipt
      if receipt.generationId ≠ id then
        .error (.hostState ⟨"generation receipt binding is invalid"⟩)
      else .ok receipt

def loadIdentityActive (s : Store) : Except HostError (Option SelectedGeneration) :=
  match s.active with
  | none => .ok none
  | some active => some <$> readBounded "active identity projection" (sizes.active active) active

def loadSelectionIntent (s : Store) : Except HostError (Option SelectedGeneration) :=
  match s.intent with
  | none => .ok none
  | some intended => some <$> readBounded "selection intent" (sizes.intent intended) intended

end Reading

section Selection

variable (sizes : DocumentSizes)

section

variable (selected : SelectedGeneration) (s : Store)

def writeActive : Store :=
  { s with active := some selected }

def writePointer : Store :=
  { s with pointer := some selected.generationId }

def writeIntent : Store :=
  { s with intent := some selected }

def unlinkIntent : Store := { s with intent := none }

def completeSelection (intended : SelectedGeneration) : Program Store HostError Unit := do
  effectUnless (fun s => s.active = some intended) (writeActive intended)
    (.failed "active identity projection")
  effectUnless (fun s => s.pointer = some intended.generationId) (writePointer intended)
    (.failed "active generation pointer")
  effect unlinkIntent (.failed "selection intent")

/-- The projection and the pointer name the same generation, or are both missing. -/
def consistent : Bool := s.pointer = s.active.map (·.generationId)

def reconcileSelection : Program Store HostError (Option SelectedGeneration) := do
  let active ← check (loadIdentityActive sizes)
  let intent ← check (loadSelectionIntent sizes)
  let s ← get
  match intent with
  | some intended =>
    if active = some intended ∨ s.pointer = some intended.generationId then do
      completeSelection intended
      pure (some intended)
    else if consistent s then pure active
    else raise (.hostState ⟨"pending selection state is inconsistent"⟩)
  | none =>
    if consistent s then pure active
    else raise (.hostState ⟨"active pointer and projection disagree"⟩)

def nextSequence (current : Option SelectedGeneration) : ℕ :=
  match current with
  | none => 1
  | some selected => selected.projectionSequence + 1

def beginSelection : Program Store HostError Unit := do
  let s ← get
  match s.intent with
  | none => effect (writeIntent selected) (.failed "selection intent")
  | some existing =>
    if existing ≠ selected then raise (.hostState ⟨"another selection intent is pending"⟩)
    else pure ()

def finishSelection : Program Store HostError SelectedGeneration := do
  beginSelection selected
  effect (writeActive selected) (.failed "active identity projection")
  effect (writePointer selected) (.failed "active generation pointer")
  effect unlinkIntent (.failed "selection intent")
  pure selected

end

/-- `select`.  The receipt in the store and the one of the selection are equal, so that their
digests are. -/
def select (receipt : SelectionReceipt) : Program Store HostError SelectedGeneration := do
  let generation ← check (loadGeneration sizes receipt.generation.generationId)
  if generation ≠ receipt.generation then
    raise (.hostState ⟨"selection generation binding is invalid"⟩)
  else do
    let current ← reconcileSelection sizes
    finishSelection ⟨receipt, nextSequence current⟩

end Selection

section Staging

variable (id : String) (s : Store)

def setStaging (tree : Option Tree) (s : Store) : Store :=
  { s with staging := Function.update s.staging id tree }

def updateStaging (f : Tree → Tree) (s : Store) : Store :=
  setStaging id ((s.staging id).map f) s

/-- `_clear_directory` and the removal of the directory; the assets stand for all files but the
four whose content is modeled. -/
def clearStaging : Program Store HostError Unit := do
  let s ← get
  match s.staging id with
  | none => pure ()
  | some tree => do
    tree.assets.forM fun name =>
      effect (updateStaging id fun t => { t with assets := t.assets.erase name })
        (.failed "staging entry")
    effect (updateStaging id fun t => { t with rendered := none }) (.failed "staging entry")
    effect (updateStaging id fun t => { t with generation := none }) (.failed "staging entry")
    effect (updateStaging id fun t => { t with migration := none }) (.failed "staging entry")
    effect (updateStaging id fun t => { t with staging := none }) (.failed "staging entry")
    effect (setStaging id none) (.failed "staging directory")

/-- What a path names. -/
inductive PathKind
  | directory
  | symbolicLink

/-- `prepare_staging`.  The path for `populate` is `/proc/self/fd/N/.ID.staging`, whose parent is a
symbolic link. -/
def prepareStaging (populate : PathKind → Program Store HostError Unit) :
    Program Store HostError Unit := do
  let s ← get
  if (s.generations id).isSome then
    raise (.hostState ⟨"control generation already exists"⟩)
  else do
    clearStaging id
    onRaise (populate .symbolicLink) (clearStaging id)

/-- `os.open` with `O_DIRECTORY` and `O_NOFOLLOW`, which refuses a symbolic link. -/
def openDirectory : PathKind → Except HostError Unit
  | .directory => .ok ()
  | .symbolicLink => .error (.bundle "deployment destination must be a new directory")

/-- `extract_deployment_bundle`, where `parent` is the parent of the destination. -/
def extractDeploymentBundle (parent : PathKind) : Program Store HostError Unit := do
  check fun _ => openDirectory parent
  effect (setStaging id (some {})) (.bundle "deployment destination must be a new directory")
  onRaise
    (deploymentAssets.forM fun name =>
      effect (updateStaging id fun t => { t with assets := t.assets ++ [name] })
        (.bundle "deployment bundle extraction failed"))
    (attempt (clearStaging id))

/-- `_validate_invocation` on the directory of a command, which has to be its own resolution. -/
def requireCwd : PathKind → Except HostError Unit
  | .directory => .ok ()
  | .symbolicLink => .error (.value "command cwd is invalid")

/-- `populate` of `_stage_generation`; `rendered` is the digest of what `docker compose config`
printed. -/
def populateStaging (receipt : StagingReceipt) (parent : PathKind) :
    Program Store HostError Unit := do
  let id := receipt.generationId
  extractDeploymentBundle id parent
  check fun _ => requireCwd parent
  effect (fun s => s) (.failed "docker compose config")
  effect (updateStaging id fun t => { t with rendered := some .part }) (.failed "rendered model")
  effect (updateStaging id fun t =>
    { t with rendered := some (.whole receipt.renderedComposeSha256) }) (.failed "rendered model")
  effect (updateStaging id fun t => { t with staging := some .part }) (.failed "staging receipt")
  effect (updateStaging id fun t => { t with staging := some (.whole receipt) })
    (.failed "staging receipt")

/-- `_validate_generation_tree`: no file is empty. -/
def Tree.valid (t : Tree) : Bool :=
  t.rendered ≠ some .part && t.staging ≠ some .part && t.migration ≠ some .part &&
    t.generation ≠ some .part

def renameStaging : Store :=
  { s with
    generations := Function.update s.generations id (s.staging id)
    staging := Function.update s.staging id none }

def commitGeneration (receipt : GenerationReceipt) : Program Store HostError Unit := do
  let id := receipt.generationId
  let s ← get
  match s.staging id with
  | none => raise (.hostState ⟨"generation staging directory is missing or unsafe"⟩)
  | some tree =>
    if tree.valid = false then raise (.hostState ⟨"generation asset size is unsafe"⟩)
    else if tree.generation.isSome then
      raise (.hostState ⟨"generation receipt already exists or is unsafe"⟩)
    else do
      effect (updateStaging id fun t => { t with generation := some .part })
        (.failed "generation receipt")
      effect (updateStaging id fun t => { t with generation := some (.whole receipt) })
        (.failed "generation receipt")
      if (s.generations id).isSome then
        raise (.hostState ⟨"control generation already exists"⟩)
      else effect (renameStaging id) (.failed "generation rename")

end Staging

end VonkForge.HostState
