import VonkForge.PackageRuns

/-!
# What becomes of a package rollout

Which plans `advance` and successful results bring to an end, and which contain a failure.
-/

namespace VonkForge.Packages

open OperationGroups
open AgentJobs (JobError terminalParent terminalOperation ResultState)

variable {call : AdvanceCall} {job : GroupJob JobDocument} {rest : List PackageRolloutNode}
  {c : PackageRolloutNode} {J id : Uuid} {P : Type}

section

variable (cfg : Config P) (plan : PackagePlan P) (s : System P)

/-! ### Alternating calls and results -/

def applyEvents (q : Queue JobDocument P) (events : List GroupEvent) : Queue JobDocument P :=
  events.foldl (fun q e => match groupStep q e with | .ok q' => q' | .error _ => q) q

/-- Every queued operation beneath a job is claimed and succeeds. -/
def reports (jobId : Uuid) : List GroupEvent :=
  ((children s.queue jobId).filter fun o => o.state = .queued).flatMap fun o =>
    [.claim o.id, .result o.id .succeeded]

/-- One call of `advance`, and the results of what it enqueued. -/
def round (call : AdvanceCall) (jobId id : Uuid) (s : System P) : System P :=
  match advance cfg call s id with
  | .ok t => { t with queue := applyEvents t.queue (reports t jobId) }
  | .error _ => s

def rounds (cfg : Config P) (calls : ℕ → AdvanceCall) (jobId id : Uuid) (s : System P) : ℕ → System P
  | 0 => s
  | n + 1 => round cfg (calls n) jobId id (rounds cfg calls jobId id s n)

def enqueued (id : Uuid) : List (NodeId × GraphId) :=
  (nodesOf s id).flatMap fun n =>
    n.operationHistory.filterMap fun item => item.graphOperationId.map fun g => (n.nodeId, g)

def rolloutOperations : List GraphOperation :=
  plan.graph.filter fun g => decide (g.nodeId ∈ rolloutNodes plan)

/-- No call raises, the rollout is completed, and every operation is enqueued once and in order. -/
structure Progresses (calls : ℕ → AdvanceCall) (plan : PackagePlan P) (jobId id : Uuid)
    (s : System P) : Prop where
  advances : ∀ n, ∃ t, advance cfg (calls n) (rounds cfg calls jobId id s n) id = .ok t
  completes : ∃ n, stateOf (rounds cfg calls jobId id s n) id = some .completed
  once : ∀ n, (enqueued (rounds cfg calls jobId id s n) id).Nodup
  every : ∃ n, ∀ g ∈ rolloutOperations plan,
    (g.nodeId, g.operationId) ∈ enqueued (rounds cfg calls jobId id s n) id
  fenced : ∀ n, ∀ m ∈ nodesOf (rounds cfg calls jobId id s n) id, ∀ g ∈ plan.graph,
    (∃ item ∈ m.operationHistory, item.graphOperationId = some g.operationId) →
    ∀ d ∈ g.dependencies, ∃ item ∈ m.operationHistory,
      item.graphOperationId = some d ∧ item.accepted = true
  canary : ∀ n, ∀ m ∈ nodesOf (rounds cfg calls jobId id s n) id, m.isCanary = false →
    m.operationHistory ≠ [] →
    ∀ c ∈ nodesOf (rounds cfg calls jobId id s n) id, c.isCanary = true → c.state = .accepted

/-- The queue takes the operations of the plan for reasons of their nodes and payloads. -/
def Deliverable (q : Queue JobDocument P) : Prop :=
  ∀ g ∈ rolloutOperations plan, (∃ node, q.nodes.get? g.nodeId = some node ∧ node.state = .active ∧
      node.revokedAt = none ∧ (node.agentImplementation = .rust → node.migrationState = .complete →
        Capability.operation g.kind ∈ node.capabilities)) ∧
    ∀ payload, plan.payloads.lookup g.operationId = some payload → cfg.invalid g.kind payload = none

end

section Progress

variable {cfg : Config P} {plan : PackagePlan P} {s t : System P} {r : PackageRollout P}
  {calls : ℕ → AdvanceCall} {q : Queue JobDocument P} {g : GraphOperation} {o : GroupOperation P}
  {node : AgentNode} {m : PackageRolloutNode}

lemma enqueue_succeeds (invalid : AgentOperation → P → Option String)
    (hnode : q.nodes.get? o.nodeId = some node) (hactive : node.state = .active)
    (hrevoked : node.revokedAt = none)
    (hcapable : node.agentImplementation = .rust → node.migrationState = .complete →
      Capability.operation o.kind ∈ node.capabilities) (hjob : q.jobs.get? o.parentJobId = some job)
    (hopen : terminalParent job.state = false) (htarget : o.nodeId ∈ job.targets)
    (hkind : plannedKind o.kind = true) (hvalid : invalid o.kind o.payload = none)
    (hnew : q.operations.get? o.id = none) :
    ∃ q', enqueueInSession invalid q job.baseCommit o = .ok q' := by
  have hrollback : o.kind ≠ .agentRollback := by
    rintro hk
    rw [hk] at hkind
    cases hkind
  have hupdate : o.kind ≠ .agentUpdate := by
    rintro hk
    rw [hk] at hkind
    cases hkind
  obtain ⟨operations, hinsert⟩ := Table.exists_insert (t := q.operations)
    (r := { o with state := .queued }) hnew
  refine ⟨{ q with operations := operations }, ?_⟩
  unfold enqueueInSession
  simp only [hnode]
  rw [if_neg (by simp [hactive, hrevoked]), if_neg (fun h => h.2.2 (hcapable h.1 h.2.1))]
  simp only [hjob]
  rw [if_neg hrollback, if_neg (by simp [hopen]), if_neg (by simp), if_neg (by simp [htarget]),
    if_neg hupdate]
  simp only [hvalid, insertOperation, hinsert]

section

variable (h : Rows plan J s r c rest job) (hkids : children s.queue J = [o])
  (ho : o.state = .queued) (hjob : job.state = .running)

include h hkids ho hjob

lemma Rows.ended (state : ResultState) :
    ∃ q₁ q₂, groupStep s.queue (.claim o.id) = .ok q₁ ∧ groupStep q₁ (.result o.id state) = .ok q₂ ∧
      Rows plan J { s with queue := q₂ } r c rest { job with state := parentState state.operation } ∧
      children q₂ J = [{ o with state := state.operation }] := by
  have hmem := mem_children.mp (hkids ▸ List.mem_singleton_self o)
  have hget : s.queue.operations.get? o.id = some o := Table.get?_of_mem hmem.1
  let q₁ := setOperationState s.queue o.id .running
  let q₂ := setOperationState q₁ o.id state.operation
  have hclaim : groupStep s.queue (.claim o.id) = .ok q₁ := by
    simp only [groupStep, claimOperation, hget, hmem.2, h.parent, ho, hjob]
    rfl
  have hget₁ : q₁.operations.get? o.id = some { o with state := .running } := by
    rw [get?_setOperationState, hget]
    simp
  have hkids₂ : children q₂ J = [{ o with state := state.operation }] := by
    rw [children_setOperationState, children_setOperationState, hkids]
    simp
  have hparent₂ : q₂.jobs.get? J = some job := h.parent
  have haggregate : aggregateParent q₂ J = .ok (setJobState q₂ J (parentState state.operation)) := by
    unfold aggregateParent
    rw [hparent₂]
    simp only [hkids₂]
    cases state <;> rfl
  have hresult : groupStep q₁ (.result o.id state) =
      .ok (setJobState q₂ J (parentState state.operation)) := by
    simp only [groupStep, finishOperation, hget₁]
    exact hmem.2 ▸ haggregate
  refine ⟨q₁, _, hclaim, hresult, h.queue ?_ rfl rfl, hkids₂⟩
  rw [get?_setJobState, hparent₂, Option.map_some, if_pos h.job_id]

lemma Rows.reported :
    Rows plan J { s with queue := applyEvents s.queue (reports s J) } r c rest
      { job with state := .succeeded } ∧
    children (applyEvents s.queue (reports s J)) J = [{ o with state := .succeeded }] := by
  have hreports : reports s J = [.claim o.id, .result o.id .succeeded] := by
    unfold reports
    rw [hkids]
    simp [ho]
  obtain ⟨q₁, q₂, hclaim, hresult, hrows, hkids'⟩ := h.ended hkids ho hjob .succeeded
  have happly : applyEvents s.queue (reports s J) = q₂ := by
    rw [hreports]
    simp only [applyEvents, List.foldl_cons, List.foldl_nil, hclaim, hresult]
  rw [happly]
  exact ⟨hrows, hkids'⟩

end

lemma reports_eq_nil (hkids : children s.queue J = [o]) (ho : o.state = .succeeded) :
    { s with queue := applyEvents s.queue (reports s J) } = s := by
  have hreports : reports s J = [] := by
    unfold reports
    rw [hkids]
    simp [ho]
  rw [hreports]
  rfl

section

variable (h : Tracked plan J id s)

include h

lemma Tracked.history :
    ∃ c rest, nodesOf s id = c :: rest ∧ c.isCanary = true ∧ (∀ n ∈ rest, n.operationHistory = []) ∧
      (c.operationHistory = [] ∨ ∃ g o accepted, firstOperation plan c.nodeId = some g ∧
        c.operationHistory = [⟨some g.operationId, g.kind, o, accepted⟩]) := by
  obtain ⟨r, c, rest, job, _, _, _, _, rfl, hrows, -, -, -, -, hstage, -⟩ := h.stage
  refine ⟨c, rest, hrows.nodes, hrows.canary, fun n hn => (hrows.untouched n hn).history, ?_⟩
  cases hstage with
  | planned _ _ hh => exact .inl hh
  | dispatched hg _ hh | accepted hg hh | completed hg hh | waits hg _ hh =>
    exact .inr ⟨_, _, _, hg, hh⟩

lemma Tracked.applyEvents (events : List GroupEvent) :
    Tracked plan J id { s with queue := applyEvents s.queue events } := by
  induction events generalizing s with
  | nil => exact h
  | cons e events ih =>
    unfold Packages.applyEvents
    rw [List.foldl_cons]
    cases he : groupStep s.queue e with
    | error => exact ih h
    | ok => exact ih (h.moves (groupStep_moves he))

lemma Tracked.rounds (calls : ℕ → AdvanceCall) (n : ℕ) :
    Tracked plan J id (rounds cfg calls J id s n) := by
  induction n with
  | zero => exact h
  | succ n ih =>
    unfold Packages.rounds round
    split
    · next t ht => exact (ih.advance ht).applyEvents _
    exact ih

lemma Tracked.once : (enqueued s id).Nodup := by
  obtain ⟨c, rest, hnodes, -, hrest, hcanary⟩ := h.history
  have hnil : (rest.flatMap fun n => n.operationHistory.filterMap fun item =>
      item.graphOperationId.map fun g => (n.nodeId, g)) = [] := by
    refine List.flatMap_eq_nil_iff.mpr fun n hn => ?_
    rw [hrest n hn]
    rfl
  unfold enqueued
  rw [hnodes, List.flatMap_cons, hnil, List.append_nil]
  rcases hcanary with hh | ⟨g, o, accepted, -, hh⟩
  · rw [hh]
    exact List.nodup_nil
  rw [hh]
  exact List.nodup_singleton _

lemma Tracked.fenced (hm : m ∈ nodesOf s id) (hg : g ∈ plan.graph)
    (hitem : ∃ item ∈ m.operationHistory, item.graphOperationId = some g.operationId) :
    g.dependencies = [] := by
  obtain ⟨c, rest, hnodes, -, hrest, hcanary⟩ := h.history
  obtain ⟨item, hmem, hid⟩ := hitem
  rw [hnodes] at hm
  rcases List.mem_cons.mp hm with rfl | hm
  · rcases hcanary with hh | ⟨first, o, accepted, hfirst, hh⟩
    · rw [hh] at hmem
      cases hmem
    rw [hh] at hmem
    cases List.mem_singleton.mp hmem
    have hsame : g = first := List.inj_on_of_nodup_map plan.nodup hg
      (mem_of_firstOperation hfirst).1 (Option.some.inj hid).symm
    rw [hsame]
    exact firstOperation_dependencies hfirst
  rw [hrest m hm] at hmem
  cases hmem

lemma Tracked.canary_first (hm : m ∈ nodesOf s id) (hstable : m.isCanary = false) :
    m.operationHistory = [] := by
  obtain ⟨c, rest, hnodes, hcanary, hrest, -⟩ := h.history
  rw [hnodes] at hm
  rcases List.mem_cons.mp hm with rfl | hm
  · rw [hcanary] at hstable
    cases hstable
  exact hrest m hm

end

lemma mem_rolloutOperations :
    g ∈ rolloutOperations plan ↔ g ∈ plan.graph ∧ g.nodeId ∈ rolloutNodes plan := by
  unfold rolloutOperations
  rw [List.mem_filter, decide_eq_true_eq]

lemma Tracked.single (h : Tracked plan J id s)
    (hevery : ∀ g ∈ rolloutOperations plan, (g.nodeId, g.operationId) ∈ enqueued s id) :
    ∃ g, rolloutOperations plan = [g] := by
  have hhistory := h.history
  obtain ⟨r, c, rest, job, rfl, hrows, -, -⟩ := h
  obtain ⟨first, hfirst⟩ := exists_firstOperation hrows.member
  obtain ⟨hmem, hnode⟩ := mem_of_firstOperation hfirst
  -- whatever was enqueued is the first operation of the canary
  have hall : ∀ g ∈ rolloutOperations plan, g = first := by
    intro g hg
    obtain ⟨n, hn, hin⟩ := List.mem_flatMap.mp (hevery g hg)
    obtain ⟨item, hitem, hpair⟩ := List.mem_filterMap.mp hin
    obtain ⟨c', rest', hnodes, -, hrest, hcanary⟩ := hhistory
    have hsame : c :: rest = c' :: rest' := hrows.nodes.symm.trans hnodes
    cases hsame
    rw [hnodes] at hn
    rcases List.mem_cons.mp hn with rfl | hn
    · rcases hcanary with hh | ⟨g', o, accepted, hg', hh⟩
      · rw [hh] at hitem
        cases hitem
      rw [hh] at hitem
      cases List.mem_singleton.mp hitem
      rw [hfirst] at hg'
      cases hg'
      rw [Option.map_some, Option.some.injEq, Prod.mk.injEq] at hpair
      exact List.inj_on_of_nodup_map plan.nodup (mem_rolloutOperations.mp hg).1 hmem hpair.2.symm
    rw [hrest n hn] at hitem
    cases hitem
  have hin : first ∈ rolloutOperations plan :=
    mem_rolloutOperations.mpr ⟨hmem, hnode ▸ hrows.member⟩
  have hnodup : (rolloutOperations plan).Nodup :=
    (List.Nodup.of_map _ plan.nodup).sublist List.filter_sublist
  refine ⟨first, ?_⟩
  obtain ⟨x, l, hl⟩ := List.exists_cons_of_ne_nil (List.ne_nil_of_mem hin)
  rw [hl] at hall hnodup ⊢
  rw [hall x List.mem_cons_self] at hnodup ⊢
  congr 1
  refine List.eq_nil_iff_forall_not_mem.mpr fun y hy => ?_
  rw [hall y (List.mem_cons_of_mem x hy)] at hy
  exact (List.nodup_cons.mp hnodup).1 hy

section

variable (h : Rows plan J s r c rest job)

include h

lemma Rows.no_stable (hsingle : rolloutOperations plan = [g]) : rest = [] := by
  have hown : ∀ m ∈ rolloutNodes plan, m = g.nodeId := by
    intro m hm
    obtain ⟨x, hx⟩ := exists_firstOperation hm
    obtain ⟨hmem, rfl⟩ := mem_of_firstOperation hx
    have hin := mem_rolloutOperations.mpr ⟨hmem, hm⟩
    rw [hsingle] at hin
    rw [List.mem_singleton.mp hin]
  refine List.eq_nil_iff_forall_not_mem.mpr fun n hn => ?_
  have hkeys := nodup_nodesOf s r.id
  rw [h.nodes, List.map_cons, List.nodup_cons] at hkeys
  have howner : n.rolloutId = r.id :=
    (mem_nodesOf.mp (h.nodes ▸ List.mem_cons_of_mem c hn)).2
  have hnode : n.nodeId = c.nodeId := (hown _ (h.untouched n hn).member).trans (hown _ h.member).symm
  refine hkeys.1 (List.mem_map.mpr ⟨n, hn, ?_⟩)
  rw [hnode, howner, h.owner]

lemma Rows.advance_first (hnew : Unbegun J s r c job) (cfg : Config P) (call : AdvanceCall)
    {payload : P} (hg : firstOperation plan c.nodeId = some g)
    (hpayload : plan.payloads.lookup g.operationId = some payload)
    (hvalid : cfg.invalid g.kind payload = none) (hnode : s.queue.nodes.get? c.nodeId = some node)
    (hactive : node.state = .active) (hrevoked : node.revokedAt = none)
    (hcapable : node.agentImplementation = .rust → node.migrationState = .complete →
      Capability.operation g.kind ∈ node.capabilities)
    (hfresh : s.queue.operations.get? (call.operationIds c.nodeId) = none) :
    ∃ t, advance cfg call s r.id = .ok t := by
  obtain ⟨hmem, hgnode⟩ := mem_of_firstOperation hg
  have htarget : c.nodeId ∈ job.targets := by
    rw [h.targets, ← hgnode]
    exact plan.targeted g hmem
  have hopen : terminalParent job.state = false := by
    rw [hnew.job]
    rfl
  obtain ⟨queue, hqueue⟩ := enqueue_succeeds cfg.invalid
    (o := ⟨call.operationIds c.nodeId, J, c.nodeId, g.kind, payload, .queued⟩) hnode hactive hrevoked
    hcapable h.parent hopen htarget (plan.kinds g hmem) hvalid hfresh
  rw [h.jobCommit, ← h.commit] at hqueue
  rw [h.advance_unbegun hnew hg hpayload, hqueue]
  exact ⟨_, rfl⟩

lemma Rows.advance_completed (hstate : r.state = .completed) (cfg : Config P)
    (call : AdvanceCall) :
    advance cfg call s r.id = .ok s := by
  unfold advance
  rw [h.rollout]
  simp only [hstate, true_or, if_true]

lemma Rows.rounds_single (hnew : Unbegun J s r c job) (cfg : Config P) (calls : ℕ → AdvanceCall)
    (hdeliver : Deliverable cfg plan s.queue)
    (hfresh : s.queue.operations.get? ((calls 0).operationIds c.nodeId) = none)
    (hsingle : rolloutOperations plan = [g]) :
    (∀ n, ∃ t, advance cfg (calls n) (rounds cfg calls J r.id s n) r.id = .ok t) ∧
    stateOf (rounds cfg calls J r.id s 2) r.id = some .completed ∧
    (g.nodeId, g.operationId) ∈ enqueued (rounds cfg calls J r.id s 2) r.id := by
  have hrest := h.no_stable hsingle
  obtain ⟨first, hg⟩ := exists_firstOperation h.member
  obtain ⟨hmem, hnode⟩ := mem_of_firstOperation hg
  have hin : first ∈ rolloutOperations plan := mem_rolloutOperations.mpr ⟨hmem, hnode ▸ h.member⟩
  have hfirst : first = g := by
    rw [hsingle] at hin
    exact List.mem_singleton.mp hin
  subst hfirst
  have honly : ∀ x ∈ plan.graph, x.nodeId = c.nodeId → x = first := by
    intro x hx hxc
    have hxin := mem_rolloutOperations.mpr ⟨hx, hxc ▸ h.member⟩
    rw [hsingle] at hxin
    exact List.mem_singleton.mp hxin
  -- the first round dispatches the operation and takes its result
  obtain ⟨⟨node, hget, hactive, hrevoked, hcapable⟩, hvalid⟩ := hdeliver first hin
  obtain ⟨payload, hpayload, -⟩ := nextOperation_nil hg
  rw [hnode] at hget
  obtain ⟨s₁, hadv₀⟩ := h.advance_first hnew cfg (calls 0) hg hpayload (hvalid payload hpayload)
    hget hactive hrevoked hcapable hfresh
  obtain ⟨c₁, o, hrows₁, hnode₁, hkids₁, hqueued, hstage⟩ := h.advance_planned hnew hadv₀
  obtain ⟨hrows₂, hkids₂⟩ := hrows₁.reported hkids₁ hqueued hnew.job
  have hround₁ : rounds cfg calls J r.id s 1 =
      { s₁ with queue := applyEvents s₁.queue (reports s₁ J) } := by
    simp only [rounds, round, hadv₀]
  obtain ⟨-, -, -, -, first', hg', hop, hh₁, hc₁⟩ :=
    hstage.of_unfinished (List.mem_singleton_self o) (.inl hqueued)
  rw [hnode₁, hg] at hg'
  cases hg'
  -- the second one accepts the canary, and nothing comes after it
  rw [← hnode₁] at hg honly
  have hspec := hrows₂.advance_succeeded (o := { o with state := .succeeded }) cfg (calls 1) rfl
    hnew.batch hg hop hh₁ hc₁ hkids₂ rfl rfl
  rw [if_pos honly] at hspec
  obtain ⟨s₃, hs₃, hkids₃, hdone, -⟩ := @Rows.accept_canary P plan J _ _ c₁ rest _ hrows₂ hnew.batch rfl
    { c₁ with operationHistory := [⟨some first.operationId, first.kind, o.id, true⟩] }
    { c₁ with
      operationHistory := [⟨some first.operationId, first.kind, o.id, true⟩], state := .accepted }
    rfl rfl
  have hspec' : advance cfg (calls 1) (rounds cfg calls J r.id s 1) r.id = .ok s₃ := by
    rw [hround₁, ← hs₃]
    exact hspec
  have hrows₃ := hdone hrest
  have hfinal : ∀ call, advance cfg call s₃ r.id = .ok s₃ := hrows₃.advance_completed rfl cfg
  have hround₂ : rounds cfg calls J r.id s 2 = s₃ := by
    unfold rounds round
    rw [hspec']
    exact reports_eq_nil (hkids₃.trans hkids₂) rfl
  have hstay : ∀ n, rounds cfg calls J r.id s (n + 2) = s₃ := by
    intro n
    induction n with
    | zero => exact hround₂
    | succ n ih =>
      unfold rounds round
      rw [ih, hfinal]
      exact reports_eq_nil (hkids₃.trans hkids₂) rfl
  refine ⟨?_, ?_, ?_⟩
  · intro n
    match n with
    | 0 => exact ⟨s₁, hadv₀⟩
    | 1 => exact ⟨s₃, hspec'⟩
    | n + 2 =>
      rw [hstay n]
      exact ⟨s₃, hfinal _⟩
  · rw [hround₂]
    unfold stateOf
    rw [hrows₃.rollout]
    rfl
  rw [hround₂]
  unfold enqueued
  rw [hrows₃.nodes, hrest, hnode, ← hnode₁]
  simp

end

/-- A new rollout makes progress to completion exactly when its nodes have one operation in all:
the queue closes the parent of the rollout after the first one. -/
theorem rollout_progresses_iff (cfg : Config P) (plan : PackagePlan P) (new : CreateCall)
    (calls : ℕ → AdvanceCall) (s t : System P) (id : Uuid) (hnew : Unreferenced new s)
    (hplan : ∀ r ∈ s.rollouts.rows, r.planDigest ≠ cfg.planDigest plan)
    (hdeliver : Deliverable cfg plan s.queue)
    (hfresh : ∀ n m, s.queue.operations.get? ((calls n).operationIds m) = none)
    (hcreate : create cfg new plan s = .ok (id, t)) :
    Progresses cfg calls plan new.jobId id t ↔ ∃ g, rolloutOperations plan = [g] := by
  obtain ⟨-, htracked, r, c, rest, job, rfl, hrows, hunbegun, hnodes, hoperations⟩ :=
    create_tracked hnew hplan hcreate
  constructor
  · intro hprogress
    obtain ⟨n, hevery⟩ := hprogress.every
    exact (htracked.rounds calls n).single hevery
  rintro ⟨g, hsingle⟩
  have hdeliver' : Deliverable cfg plan t.queue := by
    unfold Deliverable
    rw [hnodes]
    exact hdeliver
  obtain ⟨hadvances, hcompleted, henqueued⟩ := hrows.rounds_single hunbegun cfg calls hdeliver'
    (hoperations ▸ hfresh 0 c.nodeId) hsingle
  refine ⟨hadvances, ⟨2, hcompleted⟩, fun n => (htracked.rounds calls n).once, ⟨2, ?_⟩, ?_, ?_⟩
  · intro x hx
    rw [hsingle] at hx
    rw [List.mem_singleton.mp hx]
    exact henqueued
  · intro n m hm x hx hitem d hd
    rw [(htracked.rounds calls n).fenced hm hx hitem] at hd
    cases hd
  intro n m hm hstable hhistory
  exact absurd ((htracked.rounds calls n).canary_first hm hstable) hhistory

end Progress

/-! ### Two plans for one node -/

lemma ordered_of_get {graph : List GraphOperation}
    (h : ∀ i : Fin graph.length, ∀ d ∈ (graph.get i).dependencies,
      ∃ x ∈ graph.take i, x.operationId = d ∧ x.nodeId = (graph.get i).nodeId)
    (before : List GraphOperation) (g : GraphOperation) (after : List GraphOperation)
    (hgraph : graph = before ++ g :: after) (d : GraphId) (hd : d ∈ g.dependencies) :
    ∃ x ∈ before, x.operationId = d ∧ x.nodeId = g.nodeId := by
  subst hgraph
  have hlt : before.length < (before ++ g :: after).length := by
    rw [List.length_append, List.length_cons]
    omega
  have hget : (before ++ g :: after).get ⟨before.length, hlt⟩ = g := by simp
  have hspec := h ⟨before.length, hlt⟩ d (by rw [hget]; exact hd)
  simpa using hspec

def recheckPlan : PackagePlan Unit where
  deploymentId := 5
  commit := 0
  targets := [1]
  graph := [⟨10, 1, 5, .packageHealth, []⟩]
  payloads := [(10, ())]
  nodup := by decide
  backed := by decide
  targeted := by decide
  kinds := by decide
  ordered := ordered_of_get (by decide)

def installPlan : PackagePlan Unit where
  deploymentId := 5
  commit := 0
  targets := [1]
  graph := [⟨10, 1, 5, .packagePrepare, []⟩, ⟨11, 1, 5, .packageActivate, [10]⟩,
    ⟨12, 1, 5, .packageHealth, [11]⟩]
  payloads := [(10, ()), (11, ()), (12, ())]
  nodup := by decide
  backed := by decide
  targeted := by decide
  kinds := by decide
  ordered := ordered_of_get (by decide)

def activeNode : System Unit := { queue := { nodes := .single { nodeId := 1 } } }

def anyDigest : Config Unit := { planDigest := fun _ => 7 }

def newRollout : CreateCall := ⟨100, 200, 300⟩

def numberedCalls (n : ℕ) : AdvanceCall := { operationIds := fun _ => n + 400 }

def stored (plan : PackagePlan Unit) : System Unit :=
  match create anyDigest newRollout plan activeNode with
  | .ok (_, t) => t
  | .error _ => activeNode

theorem recheck_progresses :
    Progresses anyDigest numberedCalls recheckPlan 200 100 (stored recheckPlan) := by
  refine (rollout_progresses_iff anyDigest recheckPlan newRollout numberedCalls activeNode
    (stored recheckPlan) 100 ⟨by decide, by decide⟩ (by decide) ?_ (fun _ _ => rfl) rfl).mpr
    ⟨⟨10, 1, 5, .packageHealth, []⟩, by decide⟩
  intro g hg
  cases List.mem_singleton.mp hg
  exact ⟨⟨_, rfl, rfl, rfl, by decide⟩, fun _ _ => rfl⟩

def raised {α : Type} : Except JobError α → Option JobError
  | .ok _ => none
  | .error e => some e

/-- The prepare of a first release succeeds, and the call that should enqueue its activation
raises. -/
theorem install_stops_after_prepare :
    raised (advance anyDigest (numberedCalls 1)
      (rounds anyDigest numberedCalls 200 100 (stored installPlan) 1) 100) =
      some (.valueError "cannot enqueue an agent operation beneath a terminal parent") ∧
    stateOf (rounds anyDigest numberedCalls 200 100 (stored installPlan) 1) 100 = some .running ∧
    enqueued (rounds anyDigest numberedCalls 200 100 (stored installPlan) 1) 100 = [(1, 10)] := by
  decide +kernel

/-! ### Failures -/

/-- An `advance` that commits, a transaction of the queue, or anything that leaves the rollout's
rows alone. -/
inductive RolloutStep (cfg : Config P) (J id : Uuid) (s : System P) : System P → Prop
  | advance (call : AdvanceCall) {t : System P} (h : Packages.advance cfg call s id = .ok t) :
      RolloutStep cfg J id s t
  | event (e : GroupEvent) {q : Queue JobDocument P} (h : groupStep s.queue e = .ok q) :
      RolloutStep cfg J id s { s with queue := q }
  | elsewhere {t : System P} (h : Elsewhere J id s t) : RolloutStep cfg J id s t

def Unsuccessful (o : GroupOperation P) : Prop :=
  o.state = .failed ∨ o.state = .waitingForOperator

def Recorded (s : System P) (id : Uuid) : Prop :=
  (stateOf s id = some .waitingForOperator ∧ ∃ n ∈ nodesOf s id, n.state = .failed) ∨
  (stateOf s id = some .rollingBack ∧ ∃ n ∈ nodesOf s id, n.state = .rollingBack) ∨
  (stateOf s id = some .rolledBack ∧ ∃ n ∈ nodesOf s id, n.state = .rolledBack)

/-- After a failure no call raises, and the next one enqueues nothing but rollbacks. -/
structure Contained (cfg : Config P) (J id : Uuid) (s : System P) : Prop where
  advances : ∀ o ∈ children s.queue J, Unsuccessful o → ∀ call, ∃ t, advance cfg call s id = .ok t
  recorded : ∀ o ∈ children s.queue J, Unsuccessful o → ∀ call t, advance cfg call s id = .ok t →
    Recorded t id
  stops : ∀ o ∈ children s.queue J, Unsuccessful o → ∀ call t, advance cfg call s id = .ok t →
    ∀ o' ∈ children t.queue J, o' ∈ children s.queue J ∨ o'.nodeId = o.nodeId ∨
      o'.kind = .packageRollback
  ended : stateOf s id = some .rolledBack ∨ stateOf s id = some .waitingForOperator →
    ∀ t, Relation.ReflTransGen (RolloutStep cfg J id) s t →
      stateOf t id ≠ some .running ∧ stateOf t id ≠ some .completed

def Dispatchable (cfg : Config P) (plan : PackagePlan P) (m : NodeId) : Prop :=
  ∃ g payload, firstOperation plan m = some g ∧
    plan.payloads.lookup g.operationId = some payload ∧ cfg.invalid g.kind payload = none

section Failures

variable {cfg : Config P} {plan : PackagePlan P} {s t : System P} {r : PackageRollout P}

section

variable (h : Tracked plan J id s)

include h

lemma Tracked.step (hstep : RolloutStep cfg J id s t) : Tracked plan J id t := by
  cases hstep with
  | advance call hadv => exact h.advance hadv
  | event e hq => exact h.moves (groupStep_moves hq)
  | elsewhere he => exact h.elsewhere he

lemma Tracked.steps (hsteps : Relation.ReflTransGen (RolloutStep cfg J id) s t) :
    Tracked plan J id t := by
  induction hsteps with
  | refl => exact h
  | tail _ hstep ih => exact ih.step hstep

lemma Tracked.unsuccessful {o : GroupOperation P} (ho : o ∈ children s.queue J)
    (hbad : Unsuccessful o) :
    ∃ r c rest job g, r.id = id ∧ Rows plan J s r c rest job ∧
      (r.state = .running ∨ r.state = .waitingForOperator) ∧ r.currentBatch = 0 ∧
      firstOperation plan c.nodeId = some g ∧ c.operationId = some o.id ∧
      c.operationHistory = [⟨some g.operationId, g.kind, o.id, false⟩] ∧
      children s.queue J = [o] ∧ terminalParent job.state = true := by
  obtain ⟨r, c, rest, job, _, _, _, _, rfl, hrows, hr, hb, hj, hk, hstage, -⟩ := h.stage
  rw [hk] at ho ⊢
  cases hstage with
  | planned => cases ho
  | dispatched hg hop hh =>
    cases List.mem_singleton.mp ho
    refine ⟨r, c, rest, job, _, rfl, hrows, .inl hr, hb, hg, hop, hh, rfl, ?_⟩
    rw [hj]
    apply terminalParent_parentState
    rcases hbad with hs | hs <;> rw [hs] <;> rfl
  | accepted _ _ _ hs | completed _ _ _ hs =>
    cases List.mem_singleton.mp ho
    unfold Unsuccessful at hbad
    rw [hs] at hbad
    rcases hbad with hbad | hbad <;> cases hbad
  | waits hg hop hh =>
    cases List.mem_singleton.mp ho
    refine ⟨r, c, rest, job, _, rfl, hrows, .inr hr, hb, hg, hop, hh, rfl, ?_⟩
    rw [hj]
    rfl

lemma Tracked.keeps_waiting (hwaits : stateOf s id = some .waitingForOperator)
    (hstep : RolloutStep cfg J id s t) : stateOf t id = some .waitingForOperator := by
  cases hstep with
  | event => exact hwaits
  | elsewhere he =>
    unfold stateOf
    rw [he.rollout]
    exact hwaits
  | advance call hadv =>
    obtain ⟨r, c, rest, job, _, _, _, _, rfl, hrows, rfl, hb, hj, hk, hstage, -⟩ := h.stage
    have hstate : r.state = .waitingForOperator := by
      unfold stateOf at hwaits
      rw [hrows.rollout, Option.map_some] at hwaits
      exact Option.some.inj hwaits
    rw [hstate] at hstage
    cases hstage with
    | waits hg hop hh _ hs hroll =>
      obtain ⟨-, hrecord⟩ :=
        hrows.advance_failed cfg call (.inr hstate) hb hop hh hk hs (by rw [hj]; rfl)
      obtain ⟨t', reason, hadv', hrows', -⟩ := hrecord hroll
      rw [hadv'] at hadv
      cases hadv
      exact congrArg (Option.map _) hrows'.rollout

lemma Tracked.never_rolledBack : stateOf s id ≠ some .rolledBack := by
  obtain ⟨r, c, rest, job, rfl, hrows, hstage, -⟩ := h
  unfold stateOf
  rw [hrows.rollout, Option.map_some]
  intro hstate
  rw [Option.some.inj hstate] at hstage
  cases hstage

lemma Tracked.ended
    (hend : stateOf s id = some .rolledBack ∨ stateOf s id = some .waitingForOperator)
    (hsteps : Relation.ReflTransGen (RolloutStep cfg J id) s t) :
    stateOf t id ≠ some .running ∧ stateOf t id ≠ some .completed := by
  have hwaits : stateOf t id = some .waitingForOperator := by
    have hstart := hend.resolve_left h.never_rolledBack
    induction hsteps with
    | refl => exact hstart
    | tail hsteps hstep ih => exact (h.steps hsteps).keeps_waiting ih hstep
  rw [hwaits]
  decide

end

lemma Rows.head (h : Rows plan J s r c rest job) : (rolloutNodes plan).head? = some c.nodeId := by
  rw [← h.members]
  rfl

lemma Tracked.contained (h : Tracked plan J id s)
    (hroll : ∀ m g, (rolloutNodes plan).head? = some m → firstOperation plan m = some g →
      ¬ RollsBack plan m g.kind) : Contained cfg J id s := by
  have hrecord : ∀ o ∈ children s.queue J, Unsuccessful o → ∀ call,
      ∃ t, Packages.advance cfg call s id = .ok t ∧ Recorded t id ∧
        children t.queue J = children s.queue J := by
    intro o ho hbad call
    obtain ⟨r, c, rest, job, g, rfl, hrows, hstate, hb, hg, hop, hh, hk, hj⟩ := h.unsuccessful ho hbad
    obtain ⟨-, hwaits⟩ := hrows.advance_failed cfg call hstate hb hop hh hk hbad hj
    obtain ⟨t, reason, hadv, hrows', hk'⟩ := hwaits (hroll c.nodeId g hrows.head hg)
    refine ⟨t, hadv, .inl ⟨?_, ?_⟩, hk'.trans hk.symm⟩
    · exact congrArg (Option.map _) hrows'.rollout
    refine ⟨{ c with state := .failed, failureReason := reason }, ?_, rfl⟩
    rw [show nodesOf t r.id = _ from hrows'.nodes]
    exact List.mem_cons_self
  refine ⟨?_, ?_, ?_, fun hend t hsteps => h.ended hend hsteps⟩
  · intro o ho hbad call
    obtain ⟨t, hadv, -⟩ := hrecord o ho hbad call
    exact ⟨t, hadv⟩
  · intro o ho hbad call t hadv
    obtain ⟨t', hadv', hrecorded, -⟩ := hrecord o ho hbad call
    rw [hadv'] at hadv
    cases hadv
    exact hrecorded
  intro o ho hbad call t hadv o' ho'
  obtain ⟨t', hadv', -, hkids⟩ := hrecord o ho hbad call
  rw [hadv'] at hadv
  cases hadv
  exact .inl (hkids ▸ ho')

lemma Rows.dispatchable (h : Rows plan J s r c rest job) (hnew : Unbegun J s r c job)
    (hadv : advance cfg call s r.id = .ok t) : Dispatchable cfg plan c.nodeId := by
  obtain ⟨g, hg⟩ := exists_firstOperation h.member
  obtain ⟨payload, hpayload, -⟩ := nextOperation_nil hg
  rw [h.advance_unbegun hnew hg hpayload] at hadv
  obtain ⟨queue, henqueue, -⟩ := of_bind_ok hadv
  obtain ⟨-, -, -, -, hvalid, -⟩ := enqueue_ok henqueue
  exact ⟨g, payload, hg, hpayload, hvalid⟩

lemma Tracked.undispatched (h : Tracked plan J id s) (hnone : children s.queue J = [])
    (hrefused : ∀ m, (rolloutNodes plan).head? = some m → ¬ Dispatchable cfg plan m)
    (hsteps : Relation.ReflTransGen (RolloutStep cfg J id) s t) : children t.queue J = [] := by
  induction hsteps with
  | refl => exact hnone
  | tail hsteps hstep ih =>
    cases hstep with
    | elsewhere he =>
      rw [he.operations]
      exact ih
    | event e hq =>
      cases groupStep_moves hq with
      | same hq =>
        rw [hq]
        exact ih
      | starts o _ _ hq =>
        rw [hq, children_setOperationState, ih]
        rfl
      | ends o state _ _ hq =>
        have hkids := children_aggregateParent hq J
        rw [hkids, children_setOperationState, ih]
        rfl
    | advance call hadv =>
      obtain ⟨r, c, rest, job, _, _, _, _, rfl, hrows, hr, hb, hj, rfl, hstage, -⟩ :=
        (h.steps hsteps).stage
      rw [ih] at hstage
      cases hstage with
      | planned hc ho hh =>
        exact absurd (hrows.dispatchable ⟨hr, hb, hc, ho, hh, hj, ih⟩ hadv)
          (hrefused c.nodeId hrows.head)

lemma Rows.escapes (h : Rows plan J s r c rest job) (hnew : Unbegun J s r c job) (cfg : Config P)
    (hvalid : Dispatchable cfg plan c.nodeId)
    (hroll : ∀ g, firstOperation plan c.nodeId = some g → RollsBack plan c.nodeId g.kind) :
    ∃ t, Relation.ReflTransGen (RolloutStep cfg J r.id) s t ∧
      ∃ o ∈ children t.queue J, Unsuccessful o ∧ ∀ call t', advance cfg call t r.id ≠ .ok t' := by
  obtain ⟨g, payload, hg, hpayload, hvalid⟩ := hvalid
  -- the canary is, or becomes, an active node
  let node : AgentNode := { nodeId := c.nodeId }
  let s₀ : System P := { s with queue := { s.queue with nodes := .single node } }
  have henv : RolloutStep cfg J r.id s s₀ := .elsewhere ⟨rfl, rfl, rfl, rfl⟩
  have hrows₀ : Rows plan J s₀ r c rest job := h.queue h.parent rfl rfl
  have hnode : s₀.queue.nodes.get? c.nodeId = some node := by
    simp [s₀, node, Table.single, Table.get?, Keyed.key]
  obtain ⟨fresh, hfresh⟩ := Table.exists_unused s₀.queue.operations
  let call : AdvanceCall := { operationIds := fun _ => fresh }
  have hnew₀ : Unbegun J s₀ r c job := { hnew with operations := hnew.operations }
  obtain ⟨s₁, hadv⟩ := hrows₀.advance_first hnew₀ cfg call hg hpayload hvalid hnode rfl rfl
    (fun himpl => by cases himpl) hfresh
  obtain ⟨c₁, o, hrows₁, hnode₁, hkids₁, hqueued, hstage⟩ := hrows₀.advance_planned hnew₀ hadv
  obtain ⟨q₁, q₂, hclaim, hresult, hrows₂, hkids₂⟩ := hrows₁.ended hkids₁ hqueued hnew.job .failed
  obtain ⟨-, -, -, -, g', hg', hop, hh₁, -⟩ :=
    hstage.of_unfinished (List.mem_singleton_self o) (.inl hqueued)
  rw [hnode₁, hg] at hg'
  cases hg'
  have hbad : Unsuccessful ({ o with state := .failed } : GroupOperation P) := .inl rfl
  refine ⟨{ s₁ with queue := q₂ }, ?_, { o with state := .failed }, ?_, hbad, ?_⟩
  · have hrun : Relation.ReflTransGen (RolloutStep cfg J r.id) s s₁ :=
      (Relation.ReflTransGen.single henv).tail (.advance call hadv)
    exact (hrun.tail (.event _ hclaim)).tail (RolloutStep.event _ hresult)
  · rw [hkids₂]
    exact List.mem_singleton_self _
  intro call'
  obtain ⟨hraises, -⟩ := hrows₂.advance_failed (o := { o with state := .failed }) cfg call'
    (.inl rfl) hnew.batch hop hh₁ hkids₂ (.inl rfl) rfl
  exact hraises (hnode₁ ▸ hroll g hg)

/-- Failures of a new rollout are contained exactly when the canary's first operation is none that
would be rolled back: a rollback cannot be enqueued beneath the failed parent. -/
theorem failures_contained_iff (cfg : Config P) (plan : PackagePlan P) (new : CreateCall)
    (s t : System P) (id : Uuid) (hnew : Unreferenced new s)
    (hplan : ∀ r ∈ s.rollouts.rows, r.planDigest ≠ cfg.planDigest plan)
    (hcreate : create cfg new plan s = .ok (id, t)) :
    (∀ u, Relation.ReflTransGen (RolloutStep cfg new.jobId id) t u → Contained cfg new.jobId id u) ↔
      ∀ m g payload, (rolloutNodes plan).head? = some m → firstOperation plan m = some g →
        plan.payloads.lookup g.operationId = some payload → cfg.invalid g.kind payload = none →
          ¬ RollsBack plan m g.kind := by
  obtain ⟨-, htracked, r, c, rest, job, rfl, hrows, hunbegun, -⟩ :=
    create_tracked hnew hplan hcreate
  have hhead := hrows.head
  constructor
  · intro hcontained m g payload hm hg hpayload hvalid hroll
    rw [hhead] at hm
    cases hm
    obtain ⟨u, hsteps, o, ho', hbad, hraises⟩ := hrows.escapes hunbegun cfg
      ⟨g, payload, hg, hpayload, hvalid⟩ fun g' hg' => by
        rw [hg] at hg'
        cases hg'
        exact hroll
    obtain ⟨t', hadv⟩ := (hcontained u hsteps).advances o ho' hbad { operationIds := fun _ => 0 }
    exact hraises _ t' hadv
  intro hcond u hsteps
  by_cases hvalid : Dispatchable cfg plan c.nodeId
  · obtain ⟨g, payload, hg, hpayload, hvalid⟩ := hvalid
    refine (htracked.steps hsteps).contained fun m g' hm hg' => ?_
    rw [hhead] at hm
    cases hm
    rw [hg] at hg'
    cases hg'
    exact hcond c.nodeId g payload hhead hg hpayload hvalid
  -- nothing is ever enqueued
  have hnone : children u.queue new.jobId = [] := by
    refine htracked.undispatched hunbegun.operations (fun m hm => ?_) hsteps
    rw [hhead] at hm
    cases hm
    exact hvalid
  have hno : ∀ o, o ∉ children u.queue new.jobId := by
    rw [hnone]
    exact fun o => List.not_mem_nil
  exact ⟨fun o ho' => absurd ho' (hno o), fun o ho' => absurd ho' (hno o),
    fun o ho' => absurd ho' (hno o), fun hend v hv => (htracked.steps hsteps).ended hend hv⟩

/-- Whatever becomes of a new rollout, its nodes are those of the plan, at most one operation is
enqueued, and no node but the canary is ever touched. -/
theorem rollout_touches_canary_only (cfg : Config P) (plan : PackagePlan P) (new : CreateCall)
    (s t u : System P) (id : Uuid) (hnew : Unreferenced new s)
    (hplan : ∀ r ∈ s.rollouts.rows, r.planDigest ≠ cfg.planDigest plan)
    (hcreate : create cfg new plan s = .ok (id, t))
    (hsteps : Relation.ReflTransGen (RolloutStep cfg new.jobId id) t u) :
    (nodesOf u id).map (·.nodeId) = rolloutNodes plan ∧ (children u.queue new.jobId).length ≤ 1 ∧
      ∀ n ∈ (nodesOf u id).tail, Untouched plan n := by
  obtain ⟨-, htracked, -⟩ := create_tracked hnew hplan hcreate
  obtain ⟨r, c, rest, job, _, _, _, _, rfl, hrows, -, -, -, hk, hstage, -⟩ :=
    (htracked.steps hsteps).stage
  rw [hrows.nodes, hk]
  refine ⟨hrows.members, ?_, hrows.untouched⟩
  cases hstage <;> simp

end Failures

/-- A first release for two nodes. -/
def pairPlan : PackagePlan Unit where
  deploymentId := 5
  commit := 0
  targets := [1, 2]
  graph := [⟨10, 1, 5, .packagePrepare, []⟩, ⟨11, 1, 5, .packageActivate, [10]⟩,
    ⟨12, 1, 5, .packageHealth, [11]⟩, ⟨20, 2, 5, .packagePrepare, []⟩,
    ⟨21, 2, 5, .packageActivate, [20]⟩, ⟨22, 2, 5, .packageHealth, [21]⟩]
  payloads := [(10, ()), (11, ()), (12, ()), (20, ()), (21, ()), (22, ())]
  nodup := by decide
  backed := by decide
  targeted := by decide
  kinds := by decide
  ordered := ordered_of_get (by decide)

/-- The first operation of a new rollout is enqueued, claimed and fails. -/
def firstFailed (plan : PackagePlan Unit) : System Unit :=
  match advance anyDigest (numberedCalls 0) (stored plan) 100 with
  | .ok t => { t with queue := applyEvents t.queue [.claim 400, .result 400 .failed] }
  | .error _ => stored plan

lemma failing_run {s t : System Unit} {claimed failed : Queue JobDocument Unit}
    (hadv : advance anyDigest (numberedCalls 0) s 100 = .ok t)
    (hclaim : groupStep t.queue (.claim 400) = .ok claimed)
    (hresult : groupStep claimed (.result 400 .failed) = .ok failed) :
    Relation.ReflTransGen (RolloutStep anyDigest 200 100) s { t with queue := failed } := by
  have hdispatched : Relation.ReflTransGen (RolloutStep anyDigest 200 100) s t :=
    .single (.advance _ hadv)
  exact (hdispatched.tail (.event _ hclaim)).tail (RolloutStep.event _ hresult)

/-- The canary's first operation failed, and the second node is as it was created. -/
theorem pair_touches_canary :
    (children (firstFailed pairPlan).queue 200).map (·.state) = [.failed] ∧
    (nodesOf (firstFailed pairPlan) 100).map (·.nodeId) = [1, 2] ∧
    ∀ n ∈ (nodesOf (firstFailed pairPlan) 100).tail, Untouched pairPlan n := by
  obtain ⟨hnodes, -, hrest⟩ := rollout_touches_canary_only anyDigest pairPlan newRollout activeNode
    (stored pairPlan) (firstFailed pairPlan) 100 ⟨by decide, by decide⟩ (by decide) rfl
    (failing_run rfl rfl rfl)
  exact ⟨by decide +kernel, hnodes, hrest⟩

/-- Two deployments on one node: the first is checked again, the second is replaced, and has a
release to go back to. -/
def replacePlan : PackagePlan Unit where
  deploymentId := 6
  commit := 0
  targets := [1]
  graph := [⟨10, 1, 5, .packageHealth, []⟩, ⟨20, 1, 6, .packagePrepare, []⟩,
    ⟨21, 1, 6, .packageStop, [20]⟩, ⟨22, 1, 6, .packageActivate, [20, 21]⟩,
    ⟨23, 1, 6, .packageHealth, [22]⟩]
  payloads := [(10, ()), (20, ()), (21, ()), (22, ()), (23, ())]
  rollbackPayloads := [(1, ())]
  nodup := by decide
  backed := by decide
  targeted := by decide
  kinds := by decide
  ordered := ordered_of_get (by decide)

/-- The failure of the canary's first operation is contained. -/
theorem pair_failure_contained :
    (∃ o ∈ children (firstFailed pairPlan).queue 200, Unsuccessful o) ∧
      Contained anyDigest 200 100 (firstFailed pairPlan) := by
  refine ⟨⟨_, List.mem_cons_self, .inl rfl⟩, ?_⟩
  refine (failures_contained_iff anyDigest pairPlan newRollout activeNode (stored pairPlan) 100
    ⟨by decide, by decide⟩ (by decide) rfl).mpr ?_ _ (failing_run rfl rfl rfl)
  rintro m g payload hm - - - ⟨hsome, -⟩
  cases hsome

/-- The health check of the first deployment fails, and no call records it. -/
theorem replace_failure_raises :
    ((children (firstFailed replacePlan).queue 200).map fun o => (o.kind, o.state)) =
      [(.packageHealth, .failed)] ∧
    raised (advance anyDigest (numberedCalls 1) (firstFailed replacePlan) 100) =
      some (.valueError "cannot enqueue an agent operation beneath a terminal parent") ∧
    stateOf (firstFailed replacePlan) 100 = some .running := by
  decide +kernel

end VonkForge.Packages
