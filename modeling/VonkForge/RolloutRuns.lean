import VonkForge.RolloutRecovery
import VonkForge.QueueRuns

/-!
# Runs of one rollout

The calls of the orchestrator and of the agents, each at its own instant.
-/

namespace VonkForge.Updates

open AgentJobs AgentReconciliation

inductive RolloutEvent
  | create (view : RolloutView) (plan : UpdatePlan) (id jobId : Uuid) (grant : Option AdminGrant)
  | advance (view : CallView) (id : Uuid)
  | beginRollback (view : CallView) (id : Uuid) (grant : Option AdminGrant)
  | approveResume (view : RolloutView) (id : Uuid) (reason : String)
  | agent (cfg : Config) (now : Time) (event : QueueEvent)

def rolloutStep (s : System) : RolloutEvent → System
  | .create view plan id jobId grant =>
    match create view s.db plan id jobId grant with
    | .ok db => { s with db := db }
    | .error _ => s
  | .advance view id => (advance view s id).1
  | .beginRollback view id grant => { s with db := (beginRollback view s.db id grant).1 }
  | .approveResume view id reason =>
    match approveResume view s.db id reason with
    | .ok db => { s with db := db }
    | .error _ => s
  | .agent cfg now event =>
    match queueWrites cfg now s.db event with
    | .ok (db, _) => { s with db := db }
    | .error _ => s

def rolloutRun (s : System) (events : List RolloutEvent) : System := events.foldl rolloutStep s

namespace OneAgent

/-- Digests for the runs below; the planned observation has the same one in both encodings. -/
def digests : Digests :=
  ⟨fun _ => 5, fun _ => 5, fun r => r.intentId, fun o => o.observedAt⟩

def source (generation : ℕ) (h : 1 ≤ generation ∧ generation ≤ 999999999) : RuntimeIdentity :=
  ⟨.linuxArm64, ⟨1, 0, 0⟩, 20, .a, 10, generation, true, true, h, fun _ => rfl⟩

def target (generation : ℕ) (h : 1 ≤ generation ∧ generation ≤ 999999999) : RuntimeIdentity :=
  ⟨.linuxArm64, ⟨2, 0, 0⟩, 21, .b, 11, generation, true, true, h, fun _ => rfl⟩

lemma first_generation : 1 ≤ 1 ∧ 1 ≤ 999999999 := by decide

lemma second_generation : 1 ≤ 2 ∧ 2 ≤ 999999999 := by decide

def capabilities : List Capability := [.operation .agentRollback, .operation .agentUpdate]

def agent : AgentNode :=
  { nodeId := 1, runtime := some (source 1 first_generation), protocolVersion := some 3,
    capabilities := capabilities, lastSeenAt := some (seconds 10),
    contactCertificateSerial := some 7, contactObservationDigest := some (seconds 10) }

def enrolled : Database :=
  { nodes := .single agent
    certificates := .single
      { serial := 7, nodeId := 1, notBefore := 0, notAfter := seconds 100000, fingerprint := 0 } }

def plan : UpdatePlan :=
  { batches := [⟨[1], nodup_one, one_ne_nil⟩], sources := [⟨1, sourceIdentity agent, 0⟩],
    payloads := [(1, { payloadSha256 := 11 })], targetPlatformVersion := ⟨2, 0, 0⟩,
    targetBuildDigest := 21, protocolRange := (1, 5) }

def updateGrant : AdminGrant := ⟨⟨.agentUpdate, 3600, 0, [1], 3, 9, some 0⟩, 0, 0⟩
def rollbackGrant : AdminGrant := ⟨⟨.agentRollback, 3600, 0, [1], 3, 9, none⟩, 0, 0⟩

def receiptOf (r : SignerRequest) : UpdateReceipt :=
  { operationId := r.operationId, fence := r.fence, attempt := 1, nodeId := r.nodeId,
    claimDeadline := r.claimDeadline, expiresAt := r.expiresAt,
    operatorRollback := r.target.isNone, sourceSlot := r.source.slot,
    sourceSha256 := r.source.sha256, sourceGeneration := r.source.generation,
    platformTarget := r.target.map fun t =>
      ⟨t.platformTargetName, t.expectedTufTargetSha256, t.expectedTufTargetsVersion⟩ }

def answer (r : SignerRequest) : SignerResponse :=
  ⟨r.intentId, r.intentId,
    { canonicalDigest := 1, receipt := some (receiptOf r), update := r.target.map (·.payload) }⟩

/-- The environment of a call at a second: every identifier is drawn from `draw`. -/
def viewAt (t draw : ℕ) : CallView :=
  { now := seconds t, digests := digests,
    fresh := fun n => ⟨draw + 1000 * n, draw + 1000 * n + 1, 4 * 2 ^ 76 + 2 ^ 63 + draw + 1000 * n⟩,
    withdrawal := .done ⟨9, 0, [1], seconds t, seconds (t + 1)⟩, restoration := .done (),
    sign := fun r => .ok (answer r) }

def contact (t : ℕ) (identity : RuntimeIdentity) (fence : Uuid) : RolloutEvent :=
  .agent { contactDigest := digests.contact } (seconds t) (.claim none
    { nodeId := 1, certificateSerial := 7, leaseSeconds := 60, protocolVersion := some 3,
      capabilities := some capabilities, runtimeIdentity := some identity } fence)

def success (t : ℕ) (fence : Uuid) : RolloutEvent :=
  .agent { contactDigest := digests.contact } (seconds t)
    (.result (.bare fence) .succeeded (some {}) "" none 0 { now := 0 } {})

/-- The batch is dispatched and its operation succeeds, but the agent stays away. -/
def timedOut : List RolloutEvent :=
  [.create (viewAt 11 100).toRolloutView plan 9 3 (some updateGrant), .advance (viewAt 12 100) 9,
    .advance (viewAt 13 100) 9, contact 14 (source 1 first_generation) 50,
    success 15 (4 * 2 ^ 76 + 2 ^ 63 + 1100), .advance (viewAt 200 200) 9]

/-- Then the agent reports its source, under the planned generation or under the next one. -/
def pausedSystem : System :=
  rolloutRun { db := enrolled } (timedOut ++ [contact 201 (source 1 first_generation) 51])

def stuckSystem : System :=
  rolloutRun { db := enrolled } (timedOut ++ [contact 201 (source 2 second_generation) 51])

def pausedRollout : UpdateRollout :=
  { plan with
    id := 9, jobId := some 3, state := .paused, updateAdminGrant := some updateGrant,
    failureReason := some "agent activation reconnect timed out", createdAt := seconds 11 }

def failedNode : UpdateRolloutNode :=
  { rolloutId := 9, nodeId := 1, batchIndex := 0, nodeOrder := 0, state := .failed,
    operationId := some 1101, sourceIdentityDigest := 5, targetArtifactDigest := 11,
    failureReason := some "agent activation reconnect timed out",
    dispatchAt := some (seconds 13), activationDeadline := some (seconds 195) }

def waitingJob : Job :=
  { id := 3, kind := .platformUpdate, state := .waitingForOperator, targets := [1],
    statusReason := some "agent activation reconnect timed out", updatedAt := seconds 200 }

lemma waitingJob_linked {db : Database} (h : db.jobs.get? 3 = some waitingJob) :
    JobLinked db pausedRollout [failedNode] waitingJob :=
  ⟨h, rfl, rfl, by decide⟩

end OneAgent

open OneAgent

/-- The agent never left its source: the operator resumes the rollout. -/
theorem plannedGeneration_recovers :
    ((∃ db', approveResume (viewAt 202 300).toRolloutView pausedSystem.db 9 "retry" = .ok db') ∨
      (beginRollback (viewAt 202 300) pausedSystem.db 9 none).2 = .ok ()) ∧
    ∀ db', approveResume (viewAt 202 300).toRolloutView pausedSystem.db 9 "retry" = .ok db' →
      ∃ u' nodes', db'.rollouts.get? 9 = some u' ∧ batchNodes digests db' u' = .ok nodes' ∧
        ∀ view₁ view₂ : CallView, view₁.digests = digests → Unblocked view₁ view₂ db' u' nodes' →
          ((advance view₂ (advance view₁ { pausedSystem with db := db' } 9).1 9).1.db.rollouts.get?
            9).map (·.state) = some .updating := by
  refine paused_rollout_recovers (viewAt 202 300) pausedSystem pausedRollout [failedNode]
    waitingJob none "retry" (by decide +kernel) rfl (by decide +kernel)
    (waitingJob_linked (by decide +kernel)) ?_ (by decide +kernel) (.inl ?_)
  · decide +kernel
  decide +kernel

/-- Two calls of `advance` after the resumption, with a signer that answers. -/
example : ((rolloutRun pausedSystem
    [.approveResume (viewAt 202 300).toRolloutView 9 "retry", .advance (viewAt 203 400) 9,
      .advance (viewAt 204 500) 9]).db.rollouts.get? 9).map (·.state) = some .updating := by
  decide +kernel

/-- The agent is back on its source under the next generation: no operator's call is accepted. -/
theorem laterGeneration_stuck :
    stuckSystem.db.rollouts.get? 9 = some pausedRollout ∧ pausedRollout.state = .paused ∧
    batchNodes digests stuckSystem.db pausedRollout = .ok [failedNode] ∧
    failedNode.operationId.isSome = true ∧
    sourceBack digests stuckSystem.db pausedRollout (seconds 202) failedNode = true ∧
    ∀ grant reason,
      (¬ ∃ db', approveResume (viewAt 202 300).toRolloutView stuckSystem.db 9 reason = .ok db') ∧
        (beginRollback (viewAt 202 300) stuckSystem.db 9 grant).2 ≠ .ok () := by
  have hu : stuckSystem.db.rollouts.get? 9 = some pausedRollout := by decide +kernel
  have hnodes : batchNodes digests stuckSystem.db pausedRollout = .ok [failedNode] := by
    decide +kernel
  have hback : sourceBack digests stuckSystem.db pausedRollout (seconds 202) failedNode = true := by
    decide +kernel
  have hjob : stuckSystem.db.jobs.get? 3 = some waitingJob := by decide +kernel
  have hnone : rollbackCandidates digests stuckSystem.db pausedRollout [failedNode] (seconds 202) =
      [] := by decide +kernel
  have hgrew : ¬ ∀ n ∈ [failedNode],
      n.state = .failed ∧ plannedGeneration stuckSystem.db pausedRollout n = true := by
    decide +kernel
  refine ⟨hu, rfl, hnodes, rfl, hback, ?_⟩
  intro grant reason
  have hall : ∀ n ∈ [failedNode],
      sourceBack digests stuckSystem.db pausedRollout (seconds 202) n = true := by
    simpa using hback
  have hrejected (text : String) (htext : reasonInvalid text = false) :=
    @both_rejected (viewAt 202 300) stuckSystem.db pausedRollout [failedNode] waitingJob text grant
      hu rfl hnodes (waitingJob_linked hjob) htext hall hnone hgrew
  constructor
  · cases hreason : reasonInvalid reason with
    | false => exact (hrejected reason hreason).1
    | true =>
      rintro ⟨db', h⟩
      unfold approveResume at h
      rw [if_pos hreason] at h
      cases h
  have hbegin := (hrejected "retry" (by decide +kernel)).2
  change beginRollback (viewAt 202 300) stuckSystem.db 9 grant = _ at hbegin
  intro h
  cases h

end VonkForge.Updates
