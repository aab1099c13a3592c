import VonkForge.ReconciliationTick

/-!
# The life of one reconciliation

An abstract machine: the phase of one reconciliation, its projections, its cancellation and the
evidence of its publication.
-/

namespace VonkForge.AgentReconciliation

open AgentJobs

/-- The registry of graph operations, `_IMPLEMENTED_OPERATIONS`. -/
def implementedOperations : List AgentOperation :=
  [.nodeProbe, .releaseInstall, .workloadPrepare, .workloadStart, .workloadStop, .workloadHealth,
    .workloadVerify, .packagePrepare, .packageActivate, .packageHealth, .packageStop,
    .packageRollback, .packageRemove, .packageRepair, .packageGc]

/-- The workload that a gate names in place of one. -/
def nodeGate : String := "node-gate"

/-- The nodes stand in a topological order after those that were `seen`, under unique identifiers. -/
def orderedNodes : List GraphId → List OperationNode → Bool
  | _, [] => true
  | seen, n :: rest =>
    n.dependencies.all (· ∈ seen) && !(n.operationId ∈ seen) &&
      orderedNodes (seen ++ [n.operationId]) rest

section Graph

variable (nodes : List OperationNode)

/-- Dependencies cross workloads only from a gate to a stop and from an installation to a gate. -/
def crossWorkloadGate (node required : OperationNode) : Bool :=
  node.kind = .nodeProbe && node.workloadId = nodeGate && required.kind = .workloadStop ||
    node.kind = .releaseInstall && required.kind = .nodeProbe && required.workloadId = nodeGate

/-- What `_operation` and `_parse_plan` ask of a node, apart from its place. -/
def parsedNode (n : OperationNode) : Bool :=
  implementedOperations.contains n.kind &&
    n.compensationKind.all implementedOperations.contains &&
    decide (n.dependencies.Pairwise (· < ·)) &&
    nodes.all fun required => !n.dependencies.contains required.operationId ||
      required.workloadId = n.workloadId || crossWorkloadGate n required

def sortedIds (nodes : List OperationNode) : List GraphId :=
  (nodes.map (·.operationId)).insertionSort (· ≤ ·)

/-- Every node on which a workload stops or a release is installed has one gate: it waits for all
stops, and all installations wait for all gates. -/
def validGates : Bool :=
  let stops := nodes.filter (·.kind = .workloadStop)
  let installs := nodes.filter (·.kind = .releaseInstall)
  let gates := nodes.filter fun n => n.kind = .nodeProbe || n.workloadId = nodeGate
  let required : List NodeId := (stops ++ installs).map (·.nodeId)
  let actual : List NodeId := gates.map (·.nodeId)
  gates.all (fun n => n.kind = .nodeProbe && n.workloadId = nodeGate) &&
    decide actual.Nodup && actual.all required.contains && required.all actual.contains &&
    gates.all (fun n => n.payload.requiresIdleGpu && n.dependencies = sortedIds stops) &&
    installs.all fun n => n.dependencies = sortedIds gates

def packageFamily : List AgentOperation :=
  [.packagePrepare, .packageActivate, .packageHealth, .packageStop, .packageRollback,
    .packageRemove, .packageRepair]

/-- The operation of `kind` for the deployment of `n` on its node. -/
def familyMember (n : OperationNode) (kind : AgentOperation) : Option OperationNode :=
  nodes.find? fun m => m.kind = kind && m.workloadId = n.workloadId && m.nodeId = n.nodeId

def validLifecycle (n : OperationNode) : Bool :=
  match familyMember nodes n .packagePrepare, familyMember nodes n .packageActivate,
    familyMember nodes n .packageHealth with
  | none, none, some health => health.dependencies.isEmpty
  | some prepare, some activate, some health =>
    activate.dependencies =
        sortedIds (prepare :: (familyMember nodes n .packageStop).toList) &&
      health.dependencies = [activate.operationId] &&
      (activate.compensationKind = none ||
        activate.compensationKind = some .packageRollback &&
          !nodes.any fun m => m.kind = .packageRollback && m.workloadId = n.workloadId)
  | _, _, _ => false

/-- `_validate_package_plan`, for requests that name the deployment of their node. -/
def validPackages : Bool :=
  let members := nodes.filter fun n => packageFamily.contains n.kind
  !members.isEmpty &&
    decide (members.map fun n => (n.workloadId, n.nodeId, n.kind)).Nodup &&
    members.all (validLifecycle nodes)

/-- `validate_persisted_resolved_plan`, over the graph. -/
def validPlan (plan : ResolvedPlan) : Bool :=
  !plan.nodes.isEmpty && orderedNodes [] plan.nodes && plan.nodes.all (parsedNode plan.nodes) &&
    if plan.nodes.any fun n => packageFamily.contains n.kind || n.kind = .packageGc then
      validPackages plan.nodes
    else validGates plan.nodes

end Graph

section Plans

variable {seen : List GraphId} {nodes : List OperationNode}

variable (h : orderedNodes seen nodes = true)

include h

lemma orderedNodes_fresh : ∀ n ∈ nodes, n.operationId ∉ seen := by
  induction nodes generalizing seen with
  | nil => simp
  | cons m rest ih =>
    simp only [orderedNodes, Bool.and_eq_true, Bool.not_eq_true', decide_eq_false_iff_not] at h
    intro n hn
    rcases List.mem_cons.mp hn with rfl | hn
    · exact h.1.2
    exact fun hs => ih h.2 n hn (List.mem_append_left _ hs)

lemma orderedNodes_nodup : (nodes.map (·.operationId)).Nodup := by
  induction nodes generalizing seen with
  | nil => simp
  | cons m rest ih =>
    simp only [orderedNodes, Bool.and_eq_true] at h
    rw [List.map_cons, List.nodup_cons]
    refine ⟨?_, ih h.2⟩
    intro hm
    obtain ⟨n, hn, hid⟩ := List.mem_map.mp hm
    exact orderedNodes_fresh h.2 n hn (by rw [hid]; simp)

lemma orderedNodes_dependencies {a b : List OperationNode} {n : OperationNode}
    (hsplit : nodes = a ++ n :: b) : ∀ d ∈ n.dependencies, d ∈ seen ++ a.map (·.operationId) := by
  induction a generalizing seen nodes with
  | nil =>
    subst hsplit
    simp only [List.nil_append, orderedNodes, Bool.and_eq_true, List.all_eq_true,
      decide_eq_true_eq] at h
    intro d hd
    simpa using h.1.1 d hd
  | cons m a ih =>
    subst hsplit
    simp only [List.cons_append, orderedNodes, Bool.and_eq_true] at h
    intro d hd
    have := ih h.2 rfl d hd
    simpa using this

omit h

variable {plan : ResolvedPlan}

lemma orderedNodes_of_validPlan (h : validPlan plan = true) :
    orderedNodes [] plan.nodes = true := by
  simp only [validPlan, Bool.and_eq_true] at h
  exact h.1.1.2

lemma unsigned_of_implemented {kind : AgentOperation}
    (h : implementedOperations.contains kind = true) : kind.signed = false := by
  cases kind <;> first | rfl | cases h

/-- The registry of graph operations names none that the update signer authorizes. -/
theorem unsigned_of_mem (h : validPlan plan = true) {n : OperationNode} (hn : n ∈ plan.nodes) :
    n.kind.signed = false ∧ ∀ kind, n.compensationKind = some kind → kind.signed = false := by
  simp only [validPlan, Bool.and_eq_true] at h
  have hparsed := List.all_eq_true.mp h.1.2 n hn
  simp only [parsedNode, Bool.and_eq_true] at hparsed
  refine ⟨unsigned_of_implemented hparsed.1.1.1, ?_⟩
  intro kind hk
  have hcompensation := hparsed.1.1.2
  rw [hk, Option.all_some] at hcompensation
  exact unsigned_of_implemented hcompensation

end Plans

structure Life where
  plan : ResolvedPlan
  phase : ReconciliationPhase
  status : ReconciliationStatus
  rows : GraphId → ProjectionRole → Option ReconciliationOperation
  cancellation : Option CancellationState
  evidence : Option Digest

namespace Life

variable (l : Life) (g : GraphId)

def isAccepted : Bool := (l.rows g .primary).any (·.state = .accepted)

def Compensated : Prop :=
  ∃ p, l.rows g .compensation = some p ∧ p.state = .compensated

/-- The operations to compensate: accepted ones that declare a compensation, in reverse order. -/
def order : List GraphId :=
  (l.plan.nodes.reverse.filter fun n => n.compensationKind.isSome && l.isAccepted n.operationId).map
    (·.operationId)

/-- The accepted columns of every graph node, in the order of their identifiers. -/
def evidenceOf : Option (List (GraphId × Digest × Digest)) :=
  ((l.plan.nodes.map (·.operationId)).insertionSort (· ≤ ·)).mapM fun g =>
    (l.rows g .primary).bind acceptedEvidence

def setRow (role : ProjectionRole) (p : ReconciliationOperation) : Life :=
  { l with rows := fun g' role' => if g' = g ∧ role' = role then some p else l.rows g' role' }

def applies : Prop :=
  l.cancellation = some .withdrawn ∨ l.cancellation = some .processing

end Life

def ended : ReconciliationPhase → Bool
  | .failed | .cancelled => true
  | _ => false

/-- The phases in which a reconciliation undoes its work, or has stopped to work at all. -/
def recovering : ReconciliationPhase → Bool
  | .compensating | .waitingForOperator | .failed | .cancelled => true
  | _ => false

def accomplished : ReconciliationPhase → Bool
  | .accepting | .publicationPending | .completed => true
  | _ => false

def settledCancellation : CancellationState → Bool
  | .compensating | .completed | .waitingForOperator => true
  | _ => false

/-- The work of a projection is fenced off: it keeps its operation and has not succeeded. -/
structure RowFenced (p q : ReconciliationOperation) : Prop where
  pending : p.state = .planned ∨ p.state = .queued ∨ p.state = .failed ∨
    p.state = .waitingForOperator
  fenced : q.state = .failed ∨ q.state = .waitingForOperator
  operation : q.agentOperationId = p.agentOperationId

inductive RowMove (l : Life) (g : GraphId) : ProjectionRole → Option ReconciliationOperation →
    Option ReconciliationOperation → Prop
  | same {role : ProjectionRole} {row : Option ReconciliationOperation} : RowMove l g role row row
  | project {q : ReconciliationOperation} (hn : ∃ n ∈ l.plan.nodes, n.operationId = g)
      (hphase : l.phase = .routesWithdrawn) (hq : q.state = .planned)
      (hop : q.agentOperationId = none) : RowMove l g .primary none (some q)
  | dispatch {p : ReconciliationOperation} {id : Uuid} (hphase : l.phase = .dispatching)
      (hp : p.state = .planned)
      (hn : ∃ n ∈ l.plan.nodes, n.operationId = g ∧ ∀ d ∈ n.dependencies, l.isAccepted d = true) :
      RowMove l g .primary (some p) (some { p with agentOperationId := some id, state := .queued })
  | accept {role : ProjectionRole} {p : ReconciliationOperation} {result evidence : Digest}
      (hphase : l.phase = expectedPhase role) (hp : p.state = .queued) :
      RowMove l g role (some p) (some
        { p with
          resultDigest := some result
          evidenceDigest := some evidence
          state := if role = .compensation then .compensated else .accepted })
  | fence {role : ProjectionRole} {p q : ReconciliationOperation} (h : RowFenced p q) :
      RowMove l g role (some p) (some q)
  | compensate {a b : List GraphId} {q : ReconciliationOperation} {id : Uuid}
      (hphase : l.phase = .compensating) (horder : l.order = a ++ g :: b)
      (ha : ∀ x ∈ a, l.Compensated x) (hq : q.state = .queued)
      (hop : q.agentOperationId = some id) : RowMove l g .compensation none (some q)

/-- What the transactions that fence a reconciliation's work make of it; `owns` says that it owns
the publication. -/
inductive FenceMove (owns : Bool) (l : Life) :
    ReconciliationPhase → ReconciliationStatus → Option CancellationState → Prop
  | park (h : ended l.phase = false) : FenceMove owns l .waitingForOperator .failed l.cancellation
  | compensate (h : l.phase = .dispatching) : FenceMove owns l .compensating .running l.cancellation
  | fail (h : l.phase = .dispatching) : FenceMove owns l .failed .failed l.cancellation
  | cancelPark (h : l.applies) :
      FenceMove owns l .waitingForOperator .failed (some .waitingForOperator)
  | cancelParked (h : l.applies) (hphase : l.phase = .waitingForOperator) :
      FenceMove owns l .waitingForOperator l.status (some .waitingForOperator)
  | cancelCompensate (h : l.applies) (hphase : l.phase ≠ .waitingForOperator) :
      FenceMove owns l .compensating .running (some .compensating)
  | cancelDone (h : l.applies) (hphase : owns = true → l.phase ≠ .waitingForOperator)
      (hsafe : owns = true → ∀ n ∈ l.plan.nodes, mutation n.kind = true →
        l.isAccepted n.operationId = false) :
      FenceMove owns l .cancelled .cancelled (some .completed)

def CancellationAdvances (l : Life) (state : CancellationState) : Prop :=
  match l.cancellation with
  | some .requested => state = .withdrawalPending ∨ state = .processing
  | some .withdrawalPending => state = .processing
  | some .compensating => l.phase = .failed ∧ state = .completed ∨
      l.phase = .waitingForOperator ∧ state = .waitingForOperator
  | _ => False

abbrev EvidenceDigest := List (GraphId × Digest × Digest) → Digest

inductive Step (H : List (GraphId × Digest × Digest) → Digest) (owns : Bool) (l : Life) :
    Life → Prop
  | idle : Step H owns l l
  | request (hc : l.cancellation = none) (hphase : ended l.phase = false) :
      Step H owns l { l with cancellation := some .requested }
  | advance {state : CancellationState} (h : CancellationAdvances l state) :
      Step H owns l { l with cancellation := some state }
  | cancelWithdraw {digest : Digest} (hc : l.cancellation = some .withdrawalPending) :
      Step H owns l { l with cancellation := some .withdrawn, evidence := some digest }
  | start (hphase : l.phase = .planned) :
      Step H owns l { l with phase := .withdrawalPending, status := .running, evidence := none }
  | withdraw {digest : Digest} (hphase : l.phase = .withdrawalPending) :
      Step H owns l { l with phase := .routesWithdrawn, evidence := some digest }
  | project {rows : GraphId → ProjectionRole → Option ReconciliationOperation}
      (hphase : l.phase = .routesWithdrawn)
      (hrows : ∀ g role, rows g role = l.rows g role ∨ role = .primary ∧
        l.rows g role = none ∧ (∃ n ∈ l.plan.nodes, n.operationId = g) ∧
        ∃ q, rows g role = some q ∧ q.state = .planned ∧ q.agentOperationId = none) :
      Step H owns l { l with phase := .dispatching, rows := rows }
  | dispatch {rows : GraphId → ProjectionRole → Option ReconciliationOperation}
      (hphase : l.phase = .dispatching)
      (hrows : ∀ g role, rows g role = l.rows g role ∨ role = .primary ∧
        (∃ n ∈ l.plan.nodes, n.operationId = g ∧ ∀ d ∈ n.dependencies, l.isAccepted d = true) ∧
        ∃ p id, l.rows g role = some p ∧ p.state = .planned ∧
          rows g role = some { p with agentOperationId := some id, state := .queued }) :
      Step H owns l { l with rows := rows }
  | acceptAll (hphase : l.phase = .dispatching)
      (h : ∀ n ∈ l.plan.nodes, l.isAccepted n.operationId = true) :
      Step H owns l { l with phase := .accepting }
  | acceptEvidence {evidence : List (GraphId × Digest × Digest)} (hphase : l.phase = .accepting)
      (h : l.evidenceOf = some evidence) :
      Step H owns l { l with phase := .publicationPending, evidence := some (H evidence) }
  | publish {digest : Digest} (hphase : l.phase = .publicationPending) :
      Step H owns l { l with phase := .completed, status := .succeeded, evidence := some digest }
  | renew {digest : Digest} (hphase : l.phase = .completed) :
      Step H owns l { l with phase := .accepting, status := .running, evidence := some digest }
  | accept {g : GraphId} {role : ProjectionRole} {p : ReconciliationOperation}
      {result evidence : Digest} (hphase : l.phase = expectedPhase role)
      (hp : l.rows g role = some p) (hq : p.state = .queued) :
      Step H owns l (l.setRow g role
        { p with
          resultDigest := some result
          evidenceDigest := some evidence
          state := if role = .compensation then .compensated else .accepted })
  | fence {rows : GraphId → ProjectionRole → Option ReconciliationOperation}
      {phase : ReconciliationPhase} {status : ReconciliationStatus}
      {cancellation : Option CancellationState} {evidence : Option Digest}
      (hrows : ∀ g role, rows g role = l.rows g role ∨
        ∃ p q, l.rows g role = some p ∧ rows g role = some q ∧ RowFenced p q)
      (hcleared : ∀ g role q, rows g role = some q → q.state ≠ .queued)
      (h : FenceMove owns l phase status cancellation) :
      Step H owns l { l with rows, phase, status, cancellation, evidence }
  | compensate {a b : List GraphId} {g : GraphId} {q : ReconciliationOperation} {id : Uuid}
      (hphase : l.phase = .compensating) (horder : l.order = a ++ g :: b)
      (ha : ∀ x ∈ a, l.Compensated x) (hnone : l.rows g .compensation = none)
      (hq : q.state = .queued) (hop : q.agentOperationId = some id) :
      Step H owns l (l.setRow g .compensation q)
  | incomplete {a b : List GraphId} {g : GraphId} {p : ReconciliationOperation}
      (hphase : l.phase = .compensating) (horder : l.order = a ++ g :: b)
      (ha : ∀ x ∈ a, l.Compensated x) (hp : l.rows g .compensation = some p)
      (hq : p.state ≠ .queued) (hc : p.state ≠ .compensated) :
      Step H owns l { l with phase := .waitingForOperator, status := .failed }
  | complete (hphase : l.phase = .compensating) (h : ∀ g ∈ l.order, l.Compensated g) :
      Step H owns l { l with phase := .failed, status := .failed }

section Steps

variable {H : EvidenceDigest} {owns : Bool} {l l' : Life}

lemma Step.plan_eq (h : Step H owns l l') : l'.plan = l.plan := by
  cases h <;> rfl

lemma Step.row (h : Step H owns l l') (g : GraphId) (role : ProjectionRole) :
    RowMove l g role (l.rows g role) (l'.rows g role) := by
  cases h with
  | project hphase hrows =>
    rcases hrows g role with heq | ⟨rfl, hnone, hn, q, hq, hs, hop⟩
    · exact heq ▸ .same
    simp only [hnone, hq]
    exact .project hn hphase hs hop
  | dispatch hphase hrows =>
    rcases hrows g role with heq | ⟨rfl, hn, p, id, hp, hs, hq⟩
    · exact heq ▸ .same
    simp only [hp, hq]
    exact .dispatch hphase hs hn
  | @accept g' role' p result evidence hphase hp hq =>
    by_cases heq : g = g' ∧ role = role'
    · obtain ⟨rfl, rfl⟩ := heq
      simp only [Life.setRow, and_self, if_true, hp]
      exact .accept hphase hq
    simp only [Life.setRow, if_neg heq]
    exact .same
  | fence hrows =>
    rcases hrows g role with heq | ⟨p, q, hp, hq, hf⟩
    · exact heq ▸ .same
    simp only [hp, hq]
    exact .fence hf
  | @compensate a b g' q id hphase horder ha hnone hq hop =>
    by_cases heq : g = g' ∧ role = .compensation
    · obtain ⟨rfl, rfl⟩ := heq
      simp only [Life.setRow, and_self, if_true, hnone]
      exact .compensate hphase horder ha hq hop
    simp only [Life.setRow, if_neg heq]
    exact .same
  | _ => exact .same

lemma Step.isAccepted_eq (h : Step H owns l l') (hphase : l.phase ≠ .dispatching) (g : GraphId) :
    l'.isAccepted g = l.isAccepted g := by
  have hrow := h.row g .primary
  unfold Life.isAccepted
  revert hrow
  generalize l.rows g .primary = row
  generalize l'.rows g .primary = row'
  generalize hrole : ProjectionRole.primary = role
  intro hrow
  cases hrow with
  | same => rfl
  | project hn hp hq => simp [hq]
  | dispatch hd => exact absurd hd hphase
  | accept hd =>
    subst hrole
    exact absurd hd hphase
  | @fence _ p q hf =>
    have hp : p.state ≠ .accepted := by rcases hf.pending with h | h | h | h <;> simp [h]
    have hq : q.state ≠ .accepted := by rcases hf.fenced with h | h <;> simp [h]
    simp [hp, hq]
  | compensate => cases hrole

variable {g g' : GraphId} {p q : ReconciliationOperation} {a b : List GraphId}

lemma Step.isAccepted_mono (h : Step H owns l l') (hg : l.isAccepted g = true) :
    l'.isAccepted g = true := by
  have hrow := h.row g .primary
  unfold Life.isAccepted at hg ⊢
  revert hrow hg
  generalize l.rows g .primary = row
  generalize l'.rows g .primary = row'
  generalize hrole : ProjectionRole.primary = role
  intro hg hrow
  cases hrow with
  | same => exact hg
  | project => cases hg
  | dispatch _ hp | accept _ hp => simp [hp] at hg
  | fence hf =>
    exfalso
    rcases hf.pending with h | h | h | h <;> simp [h] at hg
  | compensate => cases hrole

lemma Step.order_eq (h : Step H owns l l') (hphase : l.phase ≠ .dispatching) :
    l'.order = l.order := by
  unfold Life.order
  rw [h.plan_eq]
  simp only [h.isAccepted_eq hphase]

lemma Step.compensated (h : Step H owns l l') (hg : l.Compensated g) : l'.Compensated g := by
  obtain ⟨p, hp, hs⟩ := hg
  have hrow := h.row g .compensation
  unfold Life.Compensated
  rw [hp] at hrow
  revert hrow
  generalize l'.rows g .compensation = row'
  generalize hrole : ProjectionRole.compensation = role
  intro hrow
  cases hrow with
  | same => exact ⟨p, rfl, hs⟩
  | dispatch => cases hrole
  | accept hd hpl =>
    rw [hs] at hpl
    cases hpl
  | fence hf =>
    exfalso
    rcases hf.pending with h | h | h | h <;> rw [hs] at h <;> cases h

def legalState : ProjectionRole → ProjectionState → Bool
  | .primary, .planned | .primary, .accepted => true
  | .compensation, .compensated => true
  | _, .queued | _, .failed | _, .waitingForOperator => true
  | _, _ => false

structure Sound (H : List (GraphId × Digest × Digest) → Digest) (l : Life) : Prop where
  plan : validPlan l.plan = true
  nodes : ∀ g p, l.rows g .primary = some p → ∃ n ∈ l.plan.nodes, n.operationId = g
  states : ∀ g role p, l.rows g role = some p → legalState role p.state = true
  unbound : ∀ g role p, l.rows g role = some p → p.state = .planned → p.agentOperationId = none
  digests : ∀ g p, l.rows g .primary = some p → p.state = .accepted →
    p.resultDigest.isSome = true ∧ p.evidenceDigest.isSome = true
  queued : ∀ g role p, l.rows g role = some p → p.state = .queued → l.phase = expectedPhase role
  accepted : accomplished l.phase = true → ∀ n ∈ l.plan.nodes, l.isAccepted n.operationId = true
  settled : ∀ c, l.cancellation = some c → settledCancellation c = true → recovering l.phase = true
  pending : l.phase = .publicationPending → l.cancellation ≠ some .withdrawn →
    l.cancellation ≠ some .processing → l.evidence = l.evidenceOf.map H
  compensations : ∀ g p, l.rows g .compensation = some p → recovering l.phase = true
  compensated : ∀ g p, l.rows g .compensation = some p →
    ∃ a b, l.order = a ++ g :: b ∧ ∀ x ∈ a, l.Compensated x
  failed : l.phase = .failed → ∀ g p, l.rows g .compensation = some p → p.state = .compensated

lemma Step.rows_of {P : GraphId → ProjectionRole → ReconciliationOperation → Prop}
    (h : Step H owns l l') (hl : ∀ g role p, l.rows g role = some p → P g role p)
    (hmove : ∀ g role row q, (∀ p, row = some p → P g role p) → RowMove l g role row (some q) →
      P g role q) :
    ∀ g role q, l'.rows g role = some q → P g role q := by
  intro g role q hq
  have hrow := h.row g role
  rw [hq] at hrow
  exact hmove g role _ q (hl g role) hrow

lemma split_cases {a' b' : List GraphId} (h : a ++ g :: b = a' ++ g' :: b') :
    g = g' ∨ g ∈ a' ∨ g' ∈ a := by
  rcases List.append_eq_append_iff.mp h with ⟨c, rfl, hc⟩ | ⟨c, rfl, hc⟩
  · cases c with
    | nil => exact .inl (by simpa using congrArg List.head? hc)
    | cons =>
      simp only [List.cons_append, List.cons.injEq] at hc
      exact .inr (.inl (by simp [hc.1]))
  cases c with
  | nil => exact .inl (by simpa using (congrArg List.head? hc).symm)
  | cons =>
    simp only [List.cons_append, List.cons.injEq] at hc
    exact .inr (.inr (by simp [hc.1]))

lemma Life.Compensated.state (h : l.Compensated g) (hp : l.rows g .compensation = some p) :
    p.state = .compensated := by
  obtain ⟨q, hq, hs⟩ := h
  rw [hp] at hq
  cases hq
  exact hs

lemma Sound.outstanding (hs : Sound H l) (horder : l.order = a ++ g :: b)
    (ha : ∀ x ∈ a, l.Compensated x) (hg : ¬ l.Compensated g) (hp : l.rows g' .compensation = some p)
    (hc : p.state ≠ .compensated) : g' = g := by
  obtain ⟨a', b', horder', ha'⟩ := hs.compensated g' p hp
  rcases split_cases (horder.symm.trans horder') with heq | hmem | hmem
  · exact heq.symm
  · exact absurd (ha' g hmem) hg
  exact absurd ((ha g' hmem).state hp) hc

lemma Sound.not_queued (hs : Sound H l) (hd : l.phase ≠ .dispatching)
    (hc : l.phase ≠ .compensating) {role : ProjectionRole} (hp : l.rows g role = some p) :
    p.state ≠ .queued := by
  intro hq
  have := hs.queued g role p hp hq
  cases role with
  | primary => exact hd this
  | compensation => exact hc this

section

variable (hs : Sound H l) (h : Step H owns l l')

include hs h

lemma Sound.step_nodes :
    ∀ g q, l'.rows g .primary = some q → ∃ n ∈ l'.plan.nodes, n.operationId = g := by
  have hall := @Step.rows_of H owns l l'
    (fun g role _ => role = .primary → ∃ n ∈ l.plan.nodes, n.operationId = g) h
    (fun g role p hp hr => hs.nodes g p (hr ▸ hp))
    (by
      intro g role row q hrow hm hr
      cases hm with
      | same => exact hrow q rfl hr
      | project hn => exact hn
      | dispatch _ _ hn =>
        obtain ⟨n, hn, hid, -⟩ := hn
        exact ⟨n, hn, hid⟩
      | @accept _ p | @fence _ p => exact hrow p rfl hr
      | compensate => cases hr)
  intro g q hq
  rw [h.plan_eq]
  exact hall g .primary q hq rfl

lemma Sound.step_states : ∀ g role q, l'.rows g role = some q → legalState role q.state = true := by
  refine h.rows_of hs.states ?_
  intro g role row q hrow hm
  cases hm with
  | same => exact hrow q rfl
  | project _ _ hq => rw [hq]; rfl
  | dispatch => rfl
  | accept => cases role <;> rfl
  | fence hf => rcases hf.fenced with hs | hs <;> rw [hs] <;> cases role <;> rfl
  | compensate _ _ _ hq => rw [hq]; rfl

lemma Sound.step_unbound :
    ∀ g role q, l'.rows g role = some q → q.state = .planned → q.agentOperationId = none := by
  refine h.rows_of hs.unbound ?_
  intro g role row q hrow hm hplanned
  cases hm with
  | same => exact hrow q rfl hplanned
  | project _ _ _ hop => exact hop
  | dispatch => cases hplanned
  | accept => cases role <;> cases hplanned
  | fence hf => rcases hf.fenced with h | h <;> rw [h] at hplanned <;> cases hplanned
  | compensate _ _ _ hq =>
    rw [hq] at hplanned
    cases hplanned

lemma Sound.step_digests :
    ∀ g q, l'.rows g .primary = some q → q.state = .accepted →
      q.resultDigest.isSome = true ∧ q.evidenceDigest.isSome = true := by
  have hall := @Step.rows_of H owns l l'
    (fun _ role p => role = .primary → p.state = .accepted →
      p.resultDigest.isSome = true ∧ p.evidenceDigest.isSome = true) h
    (fun g role p hp hr => hs.digests g p (hr ▸ hp))
    (by
      intro g role row q hrow hm hr hacc
      cases hm with
      | same => exact hrow q rfl hr hacc
      | project _ _ hq =>
        rw [hq] at hacc
        cases hacc
      | dispatch => cases hacc
      | accept => exact ⟨rfl, rfl⟩
      | fence hf => rcases hf.fenced with h | h <;> rw [h] at hacc <;> cases hacc
      | compensate => cases hr)
  exact fun g q hq => hall g .primary q hq rfl

lemma Sound.step_queued :
    ∀ g role q, l'.rows g role = some q → q.state = .queued → l'.phase = expectedPhase role := by
  intro g role q hq hqueued
  -- the row was queued before, unless the step queued it
  have hstart : ∀ {phase}, l.phase = phase → phase ≠ .dispatching → phase ≠ .compensating →
      l.rows g role = some q → False := by
    intro phase hphase hd hc hrow
    exact hs.not_queued (hphase ▸ hd) (hphase ▸ hc) hrow hqueued
  cases h with
  | idle | request | advance | cancelWithdraw => exact hs.queued g role q hq hqueued
  | start hphase | withdraw hphase | acceptEvidence hphase | publish hphase | renew hphase =>
    exact (hstart hphase (by decide) (by decide) hq).elim
  | project hphase hrows =>
    rcases hrows g role with heq | ⟨-, -, -, q', hq', hs', -⟩
    · exact (hstart hphase (by decide) (by decide) (heq.symm.trans hq)).elim
    rw [show q = q' from Option.mem_unique hq hq', hs'] at hqueued
    cases hqueued
  | dispatch hphase hrows =>
    rcases hrows g role with heq | ⟨rfl, -⟩
    · exact hs.queued g role q (heq.symm.trans hq) hqueued
    exact hphase
  | acceptAll hphase hall =>
    have hexp := hs.queued g role q hq hqueued
    rw [hphase] at hexp
    cases role with
    | compensation => cases hexp
    | primary =>
      obtain ⟨n, hn, rfl⟩ := hs.nodes g q hq
      have := hall n hn
      simp only [Life.isAccepted] at this hq
      rw [hq] at this
      simp [hqueued] at this
  | @accept g' role' =>
    by_cases heq : g = g' ∧ role = role'
    · simp only [Life.setRow, if_pos heq] at hq
      cases hq
      cases role' <;> cases hqueued
    simp only [Life.setRow, if_neg heq] at hq
    exact hs.queued g role q hq hqueued
  | fence hrows hcleared => exact absurd hqueued (hcleared g role q hq)
  | @compensate a b g' q' id hphase =>
    by_cases heq : g = g' ∧ role = .compensation
    · rw [heq.2]
      exact hphase
    simp only [Life.setRow, if_neg heq] at hq
    exact hs.queued g role q hq hqueued
  | @incomplete a b g' p hphase horder ha hp hpq hpc =>
    exfalso
    have hexp := hs.queued g role q hq hqueued
    rw [hphase] at hexp
    cases role with
    | primary => cases hexp
    | compensation =>
      have heq := hs.outstanding horder ha (fun hc => hpc (hc.state hp)) hq (by simp [hqueued])
      subst heq
      exact hpq (Option.mem_unique hq hp ▸ hqueued)
  | complete hphase hall =>
    exfalso
    have hexp := hs.queued g role q hq hqueued
    rw [hphase] at hexp
    cases role with
    | primary => cases hexp
    | compensation =>
      obtain ⟨a, b, horder, -⟩ := hs.compensated g q hq
      have := (hall g (by rw [horder]; simp)).state hq
      rw [hqueued] at this
      cases this

end

lemma Step.recovering (h : Step H owns l l') (hr : recovering l.phase = true) :
    recovering l'.phase = true := by
  cases h with
  | start hphase | withdraw hphase | project hphase | acceptAll hphase | acceptEvidence hphase
  | publish hphase | renew hphase => rw [hphase] at hr; cases hr
  | fence _ _ hmove => cases hmove <;> rfl
  | incomplete | complete => rfl
  | _ => exact hr

variable (hs : Sound H l) (h : Step H owns l l')

include hs h

lemma Sound.step_accepted (ha : accomplished l'.phase = true) :
    ∀ n ∈ l'.plan.nodes, l'.isAccepted n.operationId = true := by
  -- whatever step it was, every operation was accepted before
  have hbefore : ∀ n ∈ l.plan.nodes, l.isAccepted n.operationId = true := by
    cases h with
    | acceptAll _ hall => exact hall
    | acceptEvidence hphase | publish hphase | renew hphase =>
      exact hs.accepted (by rw [hphase]; rfl)
    | start | withdraw | project | incomplete | complete => cases ha
    | fence _ _ hmove => cases hmove <;> cases ha
    | _ => exact hs.accepted ha
  rw [h.plan_eq]
  exact fun n hn => h.isAccepted_mono (hbefore n hn)

lemma Sound.step_settled :
    ∀ c, l'.cancellation = some c → settledCancellation c = true →
      AgentReconciliation.recovering l'.phase = true := by
  intro c hc hset
  -- a step that leaves the cancellation alone keeps the reconciliation recovering
  have hkeep : l'.cancellation = l.cancellation →
      AgentReconciliation.recovering l'.phase = true := by
    intro heq
    exact h.recovering (hs.settled c (heq.symm.trans hc) hset)
  cases h with
  | request | cancelWithdraw =>
    cases hc
    cases hset
  | @advance state hadv =>
    cases hc
    unfold CancellationAdvances at hadv
    split at hadv
    · rcases hadv with rfl | rfl <;> cases hset
    · rw [hadv] at hset
      cases hset
    · rcases hadv with ⟨hphase, -⟩ | ⟨hphase, -⟩ <;> rw [hphase] <;> rfl
    exact hadv.elim
  | fence _ _ hmove => cases hmove <;> rfl
  | _ => exact hkeep rfl

lemma Sound.step_pending (hphase' : l'.phase = .publicationPending)
    (hw : l'.cancellation ≠ some .withdrawn) (hp : l'.cancellation ≠ some .processing) :
    l'.evidence = l'.evidenceOf.map H := by
  cases h with
  | idle => exact hs.pending hphase' hw hp
  | request hc => exact hs.pending hphase' (by simp [hc]) (by simp [hc])
  | @advance state hadv =>
    refine hs.pending hphase' ?_ ?_ <;>
    · intro heq
      simp only [CancellationAdvances, heq] at hadv
  | cancelWithdraw => exact absurd rfl hw
  | acceptEvidence _ hev =>
    show _ = l.evidenceOf.map H
    rw [hev]
    rfl
  | dispatch hphase =>
    simp only [hphase] at hphase'
    cases hphase'
  | @accept g role p _ _ hphase =>
    simp only [Life.setRow, hphase] at hphase'
    cases role <;> cases hphase'
  | compensate hphase =>
    simp only [Life.setRow, hphase] at hphase'
    cases hphase'
  | fence _ _ hmove => cases hmove <;> cases hphase'
  | start | withdraw | project | acceptAll | publish | renew | incomplete | complete =>
    cases hphase'

lemma Sound.step_compensation (hq : l'.rows g .compensation = some q) :
    AgentReconciliation.recovering l.phase = true ∧
      ∃ a b, l.order = a ++ g :: b ∧ ∀ x ∈ a, l.Compensated x := by
  have hrow := h.row g .compensation
  rw [hq] at hrow
  have hbefore : ∀ p, l.rows g .compensation = some p →
      AgentReconciliation.recovering l.phase = true ∧
        ∃ a b, l.order = a ++ g :: b ∧ ∀ x ∈ a, l.Compensated x :=
    fun p hp => ⟨hs.compensations g p hp, hs.compensated g p hp⟩
  revert hrow hbefore
  generalize l.rows g .compensation = row
  generalize hrole : ProjectionRole.compensation = role
  intro hrow hbefore
  cases hrow with
  | same => exact hbefore q rfl
  | project | dispatch => cases hrole
  | @accept _ p | @fence _ p => exact hbefore p rfl
  | @compensate a b _ _ hphase horder ha =>
    rw [hphase]
    exact ⟨rfl, a, b, horder, ha⟩

lemma Sound.step_compensated :
    ∀ g q, l'.rows g .compensation = some q →
      ∃ a b, l'.order = a ++ g :: b ∧ ∀ x ∈ a, l'.Compensated x := by
  intro g q hq
  obtain ⟨hrec, a, b, horder, ha⟩ := hs.step_compensation h hq
  have hphase : l.phase ≠ .dispatching := by
    intro heq
    rw [heq] at hrec
    cases hrec
  exact ⟨a, b, (h.order_eq hphase).trans horder, fun x hx => h.compensated (ha x hx)⟩

lemma Sound.step_failed (hphase' : l'.phase = .failed) :
    ∀ g q, l'.rows g .compensation = some q → q.state = .compensated := by
  intro g q hq
  have hrec := (hs.step_compensation h hq).1
  cases h with
  | idle | request | advance | cancelWithdraw => exact hs.failed hphase' g q hq
  | dispatch hphase =>
    simp only [hphase] at hphase'
    cases hphase'
  | @accept _ role _ _ _ hphase =>
    simp only [Life.setRow, hphase] at hphase'
    cases role <;> cases hphase'
  | compensate hphase =>
    simp only [Life.setRow, hphase] at hphase'
    cases hphase'
  | fence hrows hcleared hmove =>
    cases hmove with
    | fail hphase =>
      rw [hphase] at hrec
      cases hrec
    | _ => cases hphase'
  | complete _ hall =>
    obtain ⟨a, b, horder, -⟩ := hs.compensated g q hq
    exact (hall g (by rw [horder]; simp)).state hq
  | start | withdraw | project | acceptAll | acceptEvidence | publish | renew | incomplete =>
    cases hphase'

lemma Sound.step : Sound H l' where
  plan := by rw [h.plan_eq]; exact hs.plan
  nodes := hs.step_nodes h
  states := hs.step_states h
  unbound := hs.step_unbound h
  digests := hs.step_digests h
  queued := hs.step_queued h
  accepted := hs.step_accepted h
  settled := hs.step_settled h
  pending := hs.step_pending h
  compensations := fun _ _ hq => h.recovering (hs.step_compensation h hq).1
  compensated := hs.step_compensated h
  failed := hs.step_failed h

end Steps

end VonkForge.AgentReconciliation
