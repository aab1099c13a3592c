import VonkForge.ReconciliationResults

/-!
# The two checks of a reconciliation's authority

A claim and a tick both ask whether the targets of a reconciliation may still work on it, each with
a ceiling of its own for what a target may advertise.
-/

namespace VonkForge.AgentReconciliation

open AgentJobs

variable {range : ℕ × ℕ}

/-- The agents of the targets that are stored, in the order of their identifiers. -/
def storedTargets (db : Database) (r : Reconciliation) : List AgentNode :=
  (r.targets.nodes.insertionSort (· ≤ ·)).filterMap db.nodes.get?

def TargetsStored (db : Database) (r : Reconciliation) : Prop :=
  (storedTargets db r).map (·.nodeId) = r.targets.nodes.insertionSort (· ≤ ·)

/-- Whatever the two checks read beside the target agents grants the authority. -/
structure OtherwiseGranted (call : Call) (view : View) (r : Reconciliation) (job : Job)
    (op : StoredOperation) (plan : ResolvedPlan) : Prop where
  plan : r.plan = some plan
  commit : ∃ c, call.commit = some c ∧ c.eligible r.baseCommit = some true ∧
    c.current = some r.baseCommit
  targets : job.targets = r.targets.nodes
  baseCommit : op.baseCommit = r.baseCommit
  authority : view.authority r.id = .granted
  endpoints : ∀ n ∈ r.targets.nodes, view.endpoint n = .address

section Agreement

variable {call : Call} {view : View} {db : Database} {r : Reconciliation} {job : Job}
  {op : StoredOperation} {plan : ResolvedPlan}

lemma endpointReason_eq_none {targets : List NodeId}
    (h : ∀ n ∈ targets, view.endpoint n = .address) : endpointReason view targets = none := by
  induction targets with
  | nil => rfl
  | cons n rest ih =>
    unfold endpointReason
    rw [h n List.mem_cons_self]
    exact ih fun m hm => h m (.tail _ hm)

lemma OtherwiseGranted.claim_iff (h : OtherwiseGranted call view r job op plan) :
    AgentJobs.continuousAuthorityReason call db r job op = none ↔
      TargetsStored db r ∧
        ∀ node ∈ storedTargets db r, incompatibleAgent plan.protocolRange node = false := by
  obtain ⟨c, hc, heligible, hcurrent⟩ := h.commit
  unfold AgentJobs.continuousAuthorityReason TargetsStored storedTargets
  simp only [hc, heligible, hcurrent, h.plan, h.targets, h.baseCommit]
  generalize (r.targets.nodes.insertionSort (· ≤ ·)).filterMap db.nodes.get? = nodes
  by_cases hstored : nodes.map (·.nodeId) = r.targets.nodes.insertionSort (· ≤ ·) <;> simp [hstored]

lemma OtherwiseGranted.tick_iff (h : OtherwiseGranted call view r job op plan) :
    continuousAuthorityReason view db r plan = none ↔
      TargetsStored db r ∧
        ∀ node ∈ storedTargets db r, incompatibleTarget plan.protocolRange node = false := by
  have hendpoints : endpointReason view (r.targets.nodes.insertionSort (· ≤ ·)) = none := by
    apply endpointReason_eq_none
    intro n hn
    exact h.endpoints n ((List.mem_insertionSort _).mp hn)
  unfold continuousAuthorityReason TargetsStored storedTargets
  simp only [h.authority, hendpoints]
  generalize (r.targets.nodes.insertionSort (· ≤ ·)).filterMap db.nodes.get? = nodes
  by_cases hstored : nodes.map (·.nodeId) = r.targets.nodes.insertionSort (· ≤ ·) <;> simp [hstored]

lemma incompatibleTarget_eq_false {node : AgentNode} :
    incompatibleTarget range node = false ↔
      incompatibleAgent range node = false ∧ node.capabilities.all nextAgentCapability := by
  simp [incompatibleTarget]

/-- An agent that serves within the protocol range. -/
structure Serving (range : ℕ × ℕ) (node : AgentNode) : Prop where
  state : node.state = .active
  revokedAt : node.revokedAt = none
  protocol : ∃ v, node.protocolVersion = some v ∧ range.1 ≤ v ∧ v ≤ range.2

/-- It serves, and advertises every required operation. -/
structure Able (range : ℕ × ℕ) (node : AgentNode) : Prop extends Serving range node where
  required : ∀ k ∈ AgentOperation.required, Capability.operation k ∈ node.capabilities

lemma Serving.incompatibleAgent_eq_false {node : AgentNode} (h : Serving range node) :
    incompatibleAgent range node = false ↔
      ∀ k ∈ AgentOperation.required, Capability.operation k ∈ node.capabilities := by
  obtain ⟨v, hv, hlow, hhigh⟩ := h.protocol
  simp [incompatibleAgent, h.state, h.revokedAt, hv, hlow, hhigh]

lemma incompatibleAgent_eq_false {node : AgentNode} :
    incompatibleAgent range node = false ↔ Able range node := by
  constructor
  · intro hfalse
    have hserving : Serving range node := by
      simp only [incompatibleAgent, Bool.or_eq_false_iff, Bool.not_eq_false', decide_eq_false_iff_not,
        not_not, Option.isSome_eq_false_iff, Option.isNone_iff_eq_none, Option.any_eq_true,
        Bool.and_eq_true, decide_eq_true_eq] at hfalse
      exact ⟨hfalse.1.1.1, hfalse.1.1.2, hfalse.1.2⟩
    exact ⟨hserving, hserving.incompatibleAgent_eq_false.mp hfalse⟩
  intro hable
  exact hable.toServing.incompatibleAgent_eq_false.mpr hable.required

/-- The two checks agree exactly when, for targets that are all stored, serve within the protocol
range of the plan and advertise the required operations, none advertises more than the ceiling of the
reconciliation service. -/
theorem authority_agrees_iff (h : OtherwiseGranted call view r job op plan) :
    ((AgentJobs.continuousAuthorityReason call db r job op = none ↔
        continuousAuthorityReason view db r plan = none) ↔
      (TargetsStored db r → (∀ node ∈ storedTargets db r, Able plan.protocolRange node) →
        ∀ node ∈ storedTargets db r, node.capabilities.all nextAgentCapability)) ∧
    ∀ node, Serving plan.protocolRange node →
      ((incompatibleAgent plan.protocolRange node = false ∧
          incompatibleTarget plan.protocolRange node = false) ↔
        (∀ k ∈ AgentOperation.required, Capability.operation k ∈ node.capabilities) ∧
          node.capabilities.all nextAgentCapability) := by
  constructor
  · rw [h.claim_iff, h.tick_iff]
    simp only [incompatibleTarget_eq_false, incompatibleAgent_eq_false]
    constructor
    · intro hagree hstored hable node hnode
      exact ((hagree.mp ⟨hstored, hable⟩).2 node hnode).2
    intro hceiling
    constructor
    · intro hclaim
      have hall := hceiling hclaim.1 hclaim.2
      exact ⟨hclaim.1, fun node hnode => ⟨hclaim.2 node hnode, hall node hnode⟩⟩
    intro htick
    exact ⟨htick.1, fun node hnode => (htick.2 node hnode).1⟩
  intro node hserving
  rw [incompatibleTarget_eq_false, hserving.incompatibleAgent_eq_false]
  constructor
  · exact fun hboth => hboth.2
  exact fun hboth => ⟨hboth.1, hboth⟩

end Agreement

namespace PackageAgent

def capabilities : List Capability :=
  AgentOperation.required.map .operation ++
    [.packageAbiV1, .operation .packagePrepare, .operation .packageActivate,
      .operation .packageHealth]

def certificate : AgentCertificate :=
  { serial := 1, nodeId := 1, notBefore := 0, notAfter := seconds 100, fingerprint := 1 }

def payload : Payload := { canonicalDigest := 7 }

def node (id : GraphId) (kind : AgentOperation) (dependencies : List GraphId) : OperationNode :=
  { operationId := id, nodeId := 1, workloadId := "model-a", kind := kind,
    dependencies := dependencies, payload := payload }

def plan : ResolvedPlan :=
  { digest := 5, protocolRange := (2, 2),
    nodes := [node 1 .packagePrepare [], node 2 .packageActivate [1], node 3 .packageHealth [2]] }

def reconciliation : Reconciliation :=
  { id := 2, targets := ⟨[1], nodup_one, one_ne_nil⟩, baseCommit := 3, status := .running,
    plan := some plan, currentPhase := .dispatching }

def job : Job := { id := 4, baseCommit := 3, targets := [1], reconciliationId := some 2 }

def operation : StoredOperation :=
  { id := 6, parentJobId := 4, nodeId := 1, kind := .packagePrepare, payloadDigest := 7,
    payload := payload, baseCommit := 3, createdAt := 0, updatedAt := 0 }

def projection : ReconciliationOperation :=
  { reconciliationId := 2, graphOperationId := 1, role := .primary, agentOperationId := some 6,
    expectedPayloadDigest := 7, state := .queued }

def database : Database :=
  { nodes := ⟨[{ nodeId := 1 }], by decide⟩
    certificates := ⟨[certificate], by decide⟩
    jobs := ⟨[job], by decide⟩
    operations := ⟨[operation], by decide⟩
    reconciliations := ⟨[reconciliation], by decide⟩
    projections := ⟨[projection], by decide⟩ }

def call : Call := { now := seconds 1, commit := some ⟨fun c => some (c = 3), some 3⟩ }

def view : View := { now := seconds 1, authority := fun _ => .granted }

def request : ClaimRequest :=
  { nodeId := 1, certificateSerial := 1, leaseSeconds := 60, protocolVersion := some 2,
    capabilities := some capabilities }

def claimed : Database := ((claim {} call request 9 database).toOption.map (·.2)).getD {}

lemma otherwiseGranted : OtherwiseGranted call view reconciliation job operation plan where
  plan := rfl
  commit := ⟨_, rfl, rfl, rfl⟩
  targets := rfl
  baseCommit := rfl
  authority := rfl
  endpoints := fun _ _ => rfl

/-- The claim is admitted and starts the operation; the next tick finds its agent incompatible. -/
theorem package_agent_claims_in_vain :
    ((claim {} call request 9 database).toOption.map fun out =>
        (out.1.map (·.operation), decide (out.2 = claimed))) =
      some (some .packagePrepare, true) ∧
    AgentJobs.continuousAuthorityReason call claimed reconciliation job operation = none ∧
    continuousAuthorityReason view claimed reconciliation plan =
      some "reconciliation target agent is incompatible" := by
  decide +kernel

/-- An agent that advertises no more than the ceiling is accepted by both. -/
theorem plain_agent_accepted :
    (AgentJobs.continuousAuthorityReason call
        (setNode claimed 1 fun n => { n with capabilities := AgentOperation.required.map .operation })
        reconciliation job operation = none ↔
      continuousAuthorityReason view
        (setNode claimed 1 fun n => { n with capabilities := AgentOperation.required.map .operation })
        reconciliation plan = none) :=
  (authority_agrees_iff otherwiseGranted).1.mpr fun _ _ => by decide +kernel

end PackageAgent

end VonkForge.AgentReconciliation
