import VonkForge.AgentProtocol
import VonkForge.Transactions

/-!
# Agent slots

`SlotStore` of the agent supervisor.  An operation reads all it needs first, so that it is the list
of its durable writes, of which a crash keeps a part from the front.
-/

namespace VonkForge.AgentSlots

inductive SupervisorError
  | invalidManifest
  | invalidArtifact
  | invalidState
  | invalidTransition
  | io
  deriving DecidableEq

def lowerHex (value : String) (length : ℕ) : Bool :=
  value.toList.length = length &&
    value.toList.all fun c => ('0' ≤ c && c ≤ '9') || ('a' ≤ c && c ≤ 'f')

structure SlotManifestClaims where
  schemaVersion : ℕ := 1
  slot : Slot
  architecture : String := "aarch64"
  artifactSha256 : String
  artifactSize : ℕ := 64
  (writesStateSchema minReadableStateSchema maxReadableStateSchema : ℕ)
  deriving DecidableEq

def SlotManifestClaims.validate (c : SlotManifestClaims) : Bool :=
  c.schemaVersion = 1 && c.architecture = "aarch64" && lowerHex c.artifactSha256 64 &&
    64 ≤ c.artifactSize && c.artifactSize ≤ 512 * 1024 * 1024 && c.writesStateSchema ≠ 0 &&
    c.minReadableStateSchema ≠ 0 && c.minReadableStateSchema ≤ c.writesStateSchema &&
    c.writesStateSchema ≤ c.maxReadableStateSchema

def SlotManifestClaims.Reads (c : SlotManifestClaims) (schema : ℕ) : Prop :=
  c.minReadableStateSchema ≤ schema ∧ schema ≤ c.maxReadableStateSchema

instance (c : SlotManifestClaims) (schema : ℕ) : Decidable (c.Reads schema) :=
  inferInstanceAs (Decidable (_ ∧ _))

/-- The files of a slot: its manifest, whether that is canonical and signed by the release key, and
whether the executable is the one that it describes. -/
structure SlotFiles where
  claims : SlotManifestClaims
  signed : Bool := true
  executable : Bool := true

inductive SupervisorStatus
  | stable
  | pending
  | failed
  deriving DecidableEq

structure SupervisorState where
  schemaVersion : ℕ := 1
  generation : UInt64
  status : SupervisorStatus
  activeSlot : Slot
  previousSlot : Option Slot
  activeArtifactSha256 : String
  previousArtifactSha256 : Option String
  stateSchema : ℕ
  activationDeadline : Option Int64
  bootAttempts : ℕ
  rollbackPerformed : Bool
  challengeSha256 : String
  reason : Option String

def maxBootAttempts : ℕ := 3

def SupervisorState.validate (s : SupervisorState) : Bool :=
  s.schemaVersion = 1 && s.generation ≠ 0 && s.stateSchema ≠ 0 &&
    lowerHex s.activeArtifactSha256 64 && lowerHex s.challengeSha256 64 &&
    s.previousArtifactSha256.all (lowerHex · 64) &&
    s.previousSlot.isSome = s.previousArtifactSha256.isSome &&
    s.previousSlot ≠ some s.activeSlot && s.bootAttempts ≤ maxBootAttempts &&
    match s.status with
    | .stable => s.activationDeadline.isNone && s.bootAttempts = 0
    | .pending => s.activationDeadline.any fun deadline => !decide (deadline ≤ 0)
    | .failed => s.activationDeadline.isNone

/-- What a challenge is: 32 random bytes, in hexadecimal. -/
abbrev Challenge := { value : String // lowerHex value 64 = true }

structure Sha256 where
  digest : String → String
  hex : ∀ value, lowerHex (digest value) 64 = true

structure ReadinessEvidence where
  schemaVersion : ℕ := 1
  generation : UInt64
  slot : Slot
  artifactSha256 : String
  stateSchema : ℕ
  challenge : String
  pid : ℕ

def ReadinessEvidence.validate (r : ReadinessEvidence) : Bool :=
  r.schemaVersion = 1 && r.generation ≠ 0 && r.stateSchema ≠ 0 && r.pid ≠ 0 &&
    lowerHex r.artifactSha256 64 && lowerHex r.challenge 64

structure Reason where
  generation : UInt64
  activeSlot : Slot
  reason : String
  recordedAt : Int64

inductive Transition
  | stable
  | waiting
  | restart
  | rollbackStarted
  | recoveryRequired
  deriving DecidableEq

structure Disk where
  files : Slot → Option SlotFiles := fun _ => none
  state : Option SupervisorState := none
  challenge : Option Challenge := none
  rollbackReason : Option Reason := none
  current : Option Slot := none
  previous : Option Slot := none

inductive Write
  | challenge (value : Challenge)
  | state (s : SupervisorState)
  | reason (r : Reason)
  | current (slot : Slot)
  | previous (slot : Option Slot)

def Write.apply (d : Disk) : Write → Disk
  | .challenge value => { d with challenge := some value }
  | .state s => { d with state := some s }
  | .reason r => { d with rollbackReason := some r }
  | .current slot => { d with current := some slot }
  | .previous slot => { d with previous := slot }

def Disk.after (d : Disk) (writes : List Write) : Disk := writes.foldl Write.apply d

/-- What an operation writes, in order, and its answer; `initialize` and `activate` answer with the
state that they store. -/
structure Attempt where
  writes : List Write
  answer : Except SupervisorError (Option Transition)

def Attempt.refuse (e : SupervisorError) : Attempt := ⟨[], .error e⟩

/-- `publish_state`, then the other writes. -/
def publishState (s : SupervisorState) (rest : List Write) (answer : Option Transition) : Attempt :=
  if s.validate then ⟨.state s :: rest, .ok answer⟩ else .refuse .invalidState

/-- `publish_challenge`, then the rest of the operation. -/
def publishChallenge (value : Challenge) (a : Attempt) : Attempt :=
  { a with writes := .challenge value :: a.writes }

section Operations

variable (sha : Sha256) (d : Disk) (now : Int64) (value : Challenge)

section

variable (s : SupervisorState) (slot : Slot)

def verifySlot (expectedDigest : Option String) : Except SupervisorError SlotManifestClaims := do
  let files ← fetch (d.files slot) .io
  require (files.claims.slot = slot ∧ files.signed = true ∧ files.claims.validate = true)
    .invalidManifest
  require (expectedDigest.all (· = files.claims.artifactSha256) = true ∧ files.executable = true)
    .invalidArtifact
  .ok files.claims

def loadUnlocked : Except SupervisorError SupervisorState := do
  let s ← fetch d.state .io
  require (s.validate = true) .invalidState
  .ok s

def removePrevious : List Write := if d.previous.isSome then [.previous none] else []

def deadline : Int64 := now + 120

def initializeSlot : Attempt :=
  if d.state.isSome then .refuse .invalidTransition
  else match verifySlot d slot none with
    | .error e => .refuse e
    | .ok manifest => publishChallenge value (publishState
        { generation := 1, status := .stable, activeSlot := slot, previousSlot := none
          activeArtifactSha256 := manifest.artifactSha256, previousArtifactSha256 := none
          stateSchema := manifest.writesStateSchema, activationDeadline := none, bootAttempts := 0
          rollbackPerformed := false, challengeSha256 := sha.digest value.1, reason := none }
        (.current slot :: removePrevious d) none)

def activated (previous candidate : SlotManifestClaims) : SupervisorState :=
  { generation := s.generation + 1, status := .pending, activeSlot := slot
    previousSlot := some s.activeSlot, activeArtifactSha256 := candidate.artifactSha256
    previousArtifactSha256 := some previous.artifactSha256
    stateSchema := candidate.writesStateSchema, activationDeadline := some (deadline now)
    bootAttempts := 0, rollbackPerformed := false, challengeSha256 := sha.digest value.1
    reason := none }

/-- `activate`, up to its writes. -/
def admitActivation (expectedDigest : String) : Except SupervisorError
    (SupervisorState × SlotManifestClaims × SlotManifestClaims) := do
  let s ← loadUnlocked d
  require (s.status = .stable ∧ slot ≠ s.activeSlot ∧ ¬ now ≤ 0 ∧ lowerHex expectedDigest 64 = true)
    .invalidTransition
  let previous ← verifySlot d s.activeSlot (some s.activeArtifactSha256)
  let candidate ← verifySlot d slot (some expectedDigest)
  require (candidate.Reads s.stateSchema ∧ previous.Reads candidate.writesStateSchema)
    .invalidTransition
  .ok (s, previous, candidate)

def activate (expectedDigest : String) : Attempt :=
  match admitActivation d now slot expectedDigest with
  | .error e => .refuse e
  | .ok (s, previous, candidate) =>
    publishChallenge value (publishState (activated sha now value s slot previous candidate)
      [.previous (some s.activeSlot), .current slot] none)

def publishFailure (reason : String) : Attempt :=
  publishState { s with status := .failed, activationDeadline := none, reason := some reason }
    [.reason ⟨s.generation, s.activeSlot, reason, now⟩] (some .recoveryRequired)

def rolledBack (digest : String) (previous : SlotManifestClaims) (reason : String) :
    SupervisorState :=
  { s with
    generation := s.generation + 1, activeSlot := slot, previousSlot := some s.activeSlot
    activeArtifactSha256 := digest, previousArtifactSha256 := some s.activeArtifactSha256
    stateSchema := previous.writesStateSchema, activationDeadline := some (deadline now)
    bootAttempts := 0, rollbackPerformed := true, challengeSha256 := sha.digest value.1
    reason := some reason }

/-- `rollback_or_fail`, up to the writes of a rollback. -/
def admitRollback : Except SupervisorError (Slot × String × SlotManifestClaims) := do
  let slot ← fetch s.previousSlot .invalidTransition
  let digest ← fetch s.previousArtifactSha256 .invalidTransition
  let previous ← verifySlot d slot (some digest)
  require (previous.Reads s.stateSchema) .invalidTransition
  .ok (slot, digest, previous)

def rollbackOrFail (reason : String) : Attempt :=
  if s.rollbackPerformed then publishFailure now s reason
  else match admitRollback d s with
    | .error e => .refuse e
    | .ok (slot, digest, previous) =>
      publishChallenge value (publishState (rolledBack sha now value s slot digest previous reason)
        [.reason ⟨s.generation + 1, slot, reason, now⟩, .previous (some s.activeSlot), .current slot]
        (some .rollbackStarted))

def recover : Attempt :=
  match loadUnlocked d with
  | .error e => .refuse e
  | .ok s =>
    match verifySlot d s.activeSlot (some s.activeArtifactSha256) with
    | .error _ =>
      if s.status = .pending then rollbackOrFail sha d now value s "active-slot-invalid"
      else .refuse .invalidArtifact
    | .ok _ =>
      ⟨.current s.activeSlot :: (match s.previousSlot with
          | some slot => [.previous (some slot)]
          | none => removePrevious d),
        .ok (match s.status with
          | .stable => some .stable
          | .pending => some .waiting
          | .failed => some .recoveryRequired)⟩

def settledAnswer : Attempt :=
  ⟨[], .ok (if s.status = .stable then some .stable else some .recoveryRequired)⟩

end

def Proves (r : ReadinessEvidence) (s : SupervisorState) : Prop :=
  r.generation = s.generation ∧ r.slot = s.activeSlot ∧ r.artifactSha256 = s.activeArtifactSha256 ∧
    r.stateSchema = s.stateSchema ∧ sha.digest r.challenge = s.challengeSha256

instance (r : ReadinessEvidence) (s : SupervisorState) : Decidable (Proves sha r s) :=
  inferInstanceAs (Decidable (_ ∧ _))

def observeReadiness (r : ReadinessEvidence) : Attempt :=
  match loadUnlocked d with
  | .error e => .refuse e
  | .ok s =>
    if s.status ≠ .pending then settledAnswer s
    else if ¬ now ≤ s.activationDeadline.getD 0 then
      rollbackOrFail sha d now value s "readiness-timeout"
    else if r.validate = false then .refuse .invalidState
    else if ¬ Proves sha r s then ⟨[], .ok (some .waiting)⟩
    else match verifySlot d s.activeSlot (some s.activeArtifactSha256) with
      | .error e => .refuse e
      | .ok _ => publishState
          { s with status := .stable, activationDeadline := none, bootAttempts := 0 } []
          (some .stable)

def recordAgentFailure : Attempt :=
  match loadUnlocked d with
  | .error e => .refuse e
  | .ok s =>
    if s.status ≠ .pending then .refuse .invalidTransition
    else
      let s := { s with bootAttempts := s.bootAttempts + 1 }
      if s.bootAttempts < maxBootAttempts then publishState s [] (some .restart)
      else if s.rollbackPerformed then publishFailure now s "rollback-target-failed"
      else rollbackOrFail sha d now value s "agent-crash-loop"

def checkDeadline : Attempt :=
  match loadUnlocked d with
  | .error e => .refuse e
  | .ok s =>
    if s.status ≠ .pending then settledAnswer s
    else if now ≤ s.activationDeadline.getD 0 then ⟨[], .ok (some .waiting)⟩
    else rollbackOrFail sha d now value s "readiness-timeout"

end Operations

inductive Operation
  | initializeSlot (slot : Slot)
  | activate (slot : Slot) (expectedDigest : String)
  | recover
  | observeReadiness (r : ReadinessEvidence)
  | recordAgentFailure
  | checkDeadline

def attempt (sha : Sha256) (d : Disk) (now : Int64) (value : Challenge) : Operation → Attempt
  | .initializeSlot slot => initializeSlot sha d value slot
  | .activate slot expectedDigest => activate sha d now value slot expectedDigest
  | .recover => recover sha d now value
  | .observeReadiness r => observeReadiness sha d now value r
  | .recordAgentFailure => recordAgentFailure sha d now value
  | .checkDeadline => checkDeadline sha d now value

/-- An operation runs to its end, or the files of the slots change. -/
inductive Event
  | operation (now : Int64) (value : Challenge) (op : Operation)
  | files (files : Slot → Option SlotFiles)

def step (sha : Sha256) (d : Disk) :
    Event → Except SupervisorError (Disk × Except SupervisorError (Option Transition))
  | .operation now value op =>
    let a := attempt sha d now value op
    .ok (d.after a.writes, a.answer)
  | .files files => .ok ({ d with files := files }, .ok none)

end VonkForge.AgentSlots
