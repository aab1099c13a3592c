import Mathlib.Data.Nat.Bitwise

/-!
# The agent protocol

Operation kinds, and the documents that agents and the control plane exchange.
-/

namespace VonkForge

abbrev NodeId := ℕ
abbrev Uuid := ℕ
abbrev Time := ℕ
abbrev Digest := ℕ
abbrev Serial := ℕ
abbrev Commit := ℕ
abbrev GraphId := ℕ

def seconds (n : ℕ) : Time := n * 1000000

/-- `uuid.UUID(…).version == 4`: the version nibble, under the RFC 4122 variant. -/
def isVersion4 (u : Uuid) : Bool :=
  (u >>> 76) % 16 = 4 && u.testBit 63 && !u.testBit 62

inductive AgentOperation
  | nodeProbe
  | releaseInstall
  | workloadPrepare
  | workloadStart
  | workloadStop
  | workloadHealth
  | workloadVerify
  | agentUpdate
  | agentRollback
  | packagePrepare
  | packageActivate
  | packageHealth
  | packageStop
  | packageRollback
  | packageRemove
  | packageRepair
  | packageGc
  | recipeBuild
  | recipeImageImport
  | recipeInstall
  | recipeStart
  | recipeStop
  | recipeUninstall
  deriving DecidableEq, Repr

namespace AgentOperation

def safeAutomaticReclaim : AgentOperation → Bool
  | nodeProbe | packageHealth | workloadHealth | workloadVerify => true
  | _ => false

def packageOrRecipe : AgentOperation → Bool
  | packagePrepare | packageActivate | packageHealth | packageStop | packageRollback
  | packageRemove | packageRepair | packageGc
  | recipeBuild | recipeImageImport | recipeInstall | recipeStart | recipeStop
  | recipeUninstall => true
  | _ => false

def mutating : AgentOperation → Bool
  | agentRollback | agentUpdate | releaseInstall
  | packagePrepare | packageActivate | packageStop | packageRollback | packageRemove
  | packageRepair | packageGc
  | workloadPrepare | workloadStart | workloadStop
  | recipeBuild | recipeImageImport | recipeInstall | recipeStart | recipeStop
  | recipeUninstall => true
  | _ => false

/-- The operations among `_REQUIRED_CAPABILITIES`. -/
def required : List AgentOperation :=
  [nodeProbe, releaseInstall, workloadHealth, workloadPrepare, workloadStart, workloadStop,
    workloadVerify]

def signed : AgentOperation → Bool
  | agentUpdate | agentRollback => true
  | _ => false

def all : List AgentOperation :=
  [nodeProbe, releaseInstall, workloadPrepare, workloadStart, workloadStop, workloadHealth,
    workloadVerify, agentUpdate, agentRollback, packagePrepare, packageActivate, packageHealth,
    packageStop, packageRollback, packageRemove, packageRepair, packageGc, recipeBuild,
    recipeImageImport, recipeInstall, recipeStart, recipeStop, recipeUninstall]

lemma mem_all (k : AgentOperation) : k ∈ all := by
  cases k <;> decide

end AgentOperation

/-- What an agent may advertise: `_NEXT_CAPABILITIES`. -/
inductive Capability
  | operation (kind : AgentOperation)
  | packageAbiV1
  | packageBackendNativeV1
  | agentRuntimeRustV1
  deriving DecidableEq

inductive Slot
  | a
  | b
  deriving DecidableEq

inductive Architecture
  | linuxArm64
  | linuxX86
  deriving DecidableEq

structure PlatformVersion where
  (major minor patch : ℕ)
  deriving DecidableEq

structure RuntimeIdentity where
  architecture : Architecture
  platformVersion : PlatformVersion
  buildDigest : Digest
  activeSlot : Slot
  agentSha256 : Digest
  supervisorGeneration : ℕ
  (ready selfTestPassed : Bool)
  generation_range : 1 ≤ supervisorGeneration ∧ supervisorGeneration ≤ 999999999
  ready_of_selfTest : selfTestPassed = true → ready = true
  deriving DecidableEq

/-- `platform/releases/<version>/<digest>.json`. -/
structure TargetName where
  platformVersion : PlatformVersion
  digest : Digest
  deriving DecidableEq

structure PlatformTarget where
  name : TargetName
  sha256 : Digest
  targetsVersion : ℕ
  deriving DecidableEq

structure NodePayload where
  payloadSha256 : Digest
  artifact : ℕ := 0
  release : ℕ := 0
  deriving DecidableEq

structure UpdateReceipt where
  (operationId fence : Uuid)
  attempt : ℕ
  nodeId : NodeId
  (claimDeadline expiresAt : ℕ)
  operatorRollback : Bool
  sourceSlot : Slot
  sourceSha256 : Digest
  sourceGeneration : ℕ
  platformTarget : Option PlatformTarget := none
  deriving DecidableEq

structure Payload where
  canonicalDigest : Digest
  receipt : Option UpdateReceipt := none
  update : Option NodePayload := none
  requiresIdleGpu : Bool := false
  deriving DecidableEq

/-- A result and the parts that the queue projects; `probeHealth` is nothing when `_probe_health`
rejects the evidence. -/
structure ResultDocument where
  content : ℕ := 0
  reason : Option String := none
  errorCode : Option String := none
  probeHealth : Option (Option ℕ) := none
  deriving DecidableEq

inductive RetryDisposition
  | retry
  | other
  deriving DecidableEq

end VonkForge
