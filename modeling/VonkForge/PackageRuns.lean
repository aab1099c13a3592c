import VonkForge.PackageRollouts
import Mathlib.Data.List.Dedup

/-!
# Runs of a package rollout

The queue aggregates the parent job after every result, so that it is terminal as soon as the
canary's first operation has ended.
-/

namespace VonkForge.Packages

open OperationGroups Table
open AgentJobs (JobError terminalParent terminalOperation ResultState)

variable {call : AdvanceCall} {g : GraphOperation} {parent : JobState} {m : NodeId}
  {n : PackageRolloutNode} {state : RolloutState} {id : Uuid} {batch : ℕ} {P : Type}

section Plans

variable {plan : PackagePlan P}

def firstOperation (plan : PackagePlan P) (m : NodeId) : Option GraphOperation :=
  plan.graph.find? fun g => decide (g.nodeId = m)

lemma readyOperation_of (hmem : g ∈ plan.graph) (hnode : g.nodeId = m) {completed : List GraphId}
    (hnew : g.operationId ∉ completed) (hdeps : ∀ d ∈ g.dependencies, d ∈ completed) :
    ∃ payload, plan.payloads.lookup g.operationId = some payload ∧
      readyOperation plan m completed g = some (g, payload) := by
  obtain ⟨payload, hpayload⟩ := Option.isSome_iff_exists.mp (plan.backed g hmem)
  refine ⟨payload, hpayload, ?_⟩
  unfold readyOperation
  rw [if_pos ⟨hnode, hnew, hdeps⟩, hpayload]
  rfl

section

variable (h : firstOperation plan m = some g)

include h

lemma mem_of_firstOperation : g ∈ plan.graph ∧ g.nodeId = m :=
  ⟨List.mem_of_find?_eq_some h, by simpa using List.find?_some h⟩

lemma firstOperation_dependencies : g.dependencies = [] := by
  obtain ⟨hg, before, after, hgraph, hbefore⟩ := List.find?_eq_some_iff_append.mp h
  have hm : g.nodeId = m := by simpa using hg
  refine List.eq_nil_iff_forall_not_mem.mpr fun d hd => ?_
  obtain ⟨x, hx, -, hnode⟩ := plan.ordered before g after hgraph d hd
  have hne : x.nodeId ≠ m := by simpa using hbefore x hx
  exact hne (hnode.trans hm)

lemma nextOperation_nil :
    ∃ payload, plan.payloads.lookup g.operationId = some payload ∧
      nextOperation plan m [] = some (g, payload) := by
  obtain ⟨hmem, hnode⟩ := mem_of_firstOperation h
  have hdeps : ∀ d ∈ g.dependencies, d ∈ ([] : List GraphId) := by
    rw [firstOperation_dependencies h]
    simp
  obtain ⟨payload, hpayload, hready⟩ := readyOperation_of hmem hnode (by simp) hdeps
  obtain ⟨-, before, after, hgraph, hbefore⟩ := List.find?_eq_some_iff_append.mp h
  refine ⟨payload, hpayload, ?_⟩
  have hnone : before.findSome? (readyOperation plan m []) = none := by
    rw [List.findSome?_eq_none_iff]
    intro x hx
    have hne : x.nodeId ≠ m := by simpa using hbefore x hx
    unfold readyOperation
    rw [if_neg fun hc => hne hc.1]
  have hcompleted : completedOperations [] = [] := rfl
  unfold nextOperation
  rw [hcompleted, hgraph, List.findSome?_append, hnone, Option.none_or, List.findSome?_cons, hready]

end

lemma nextOperation_accepted (hmem : g ∈ plan.graph) (id : Uuid) :
    nextOperation plan m [⟨some g.operationId, g.kind, id, true⟩] = none ↔
      ∀ x ∈ plan.graph, x.nodeId = m → x = g := by
  have hcompleted : completedOperations [⟨some g.operationId, g.kind, id, true⟩] =
      [g.operationId] := rfl
  unfold nextOperation
  rw [hcompleted, List.findSome?_eq_none_iff]
  constructor
  · intro hall
    by_contra hother
    push Not at hother
    -- the first other operation of the node depends on nothing but `g`
    have hsome : (plan.graph.find? fun x => decide (x.nodeId = m ∧ x ≠ g)).isSome := by
      rw [List.find?_isSome]
      obtain ⟨x, hx, hn, hne⟩ := hother
      exact ⟨x, hx, by simp [hn, hne]⟩
    obtain ⟨x, hx⟩ := Option.isSome_iff_exists.mp hsome
    obtain ⟨hxp, before, after, hgraph, hbefore⟩ := List.find?_eq_some_iff_append.mp hx
    obtain ⟨hxm, hxg⟩ : x.nodeId = m ∧ x ≠ g := by simpa using hxp
    have hxmem : x ∈ plan.graph := List.mem_of_find?_eq_some hx
    have hid : x.operationId ≠ g.operationId := fun he =>
      hxg (List.inj_on_of_nodup_map plan.nodup hxmem hmem he)
    have hdeps : ∀ d ∈ x.dependencies, d ∈ [g.operationId] := by
      intro d hd
      obtain ⟨y, hy, hyd, hyn⟩ := plan.ordered before x after hgraph d hd
      have hyg : y.nodeId = m → y = g := by
        simpa [imp_iff_not_or] using hbefore y hy
      rw [hyg (hyn.trans hxm)] at hyd
      simp [hyd]
    obtain ⟨payload, -, hready⟩ := readyOperation_of hxmem hxm (by simpa using hid) hdeps
    rw [hall x hxmem] at hready
    cases hready
  intro hall x hx
  unfold readyOperation
  by_cases hn : x.nodeId = m
  · rw [if_neg fun hc => hc.2.1 (by simp [hall x hx hn])]
  rw [if_neg fun hc => hn hc.1]

end Plans

section Rows

variable {s : System P} {c : PackageRolloutNode} {rest : List PackageRolloutNode}

lemma mem_nodesOf : n ∈ nodesOf s id ↔ n ∈ s.nodes.rows ∧ n.rolloutId = id := by
  unfold nodesOf
  rw [List.mem_insertionSort, mem_select, decide_eq_true_eq]

lemma nodup_nodesOf (s : System P) (id : Uuid) :
    ((nodesOf s id).map fun n => (n.rolloutId, n.nodeId)).Nodup := by
  refine ((List.perm_insertionSort _ _).map _).nodup_iff.mpr ?_
  exact s.nodes.nodup_keys.sublist (List.filter_sublist.map _)

lemma nodesOf_storeNode (h : nodesOf s id = c :: rest) (hid : n.rolloutId = c.rolloutId)
    (hnode : n.nodeId = c.nodeId) (hbatch : n.batchIndex = c.batchIndex)
    (horder : n.nodeOrder = c.nodeOrder) : nodesOf (storeNode s n) id = n :: rest := by
  have hkeys := nodup_nodesOf s id
  rw [h, List.map_cons, List.nodup_cons] at hkeys
  have hc : c ∈ s.nodes.rows := (mem_nodesOf.mp (h ▸ List.mem_cons_self)).1
  let f : PackageRolloutNode → PackageRolloutNode := fun m =>
    if decide ((m.rolloutId, m.nodeId) = (n.rolloutId, n.nodeId)) = true then
      { n with rolloutId := m.rolloutId, nodeId := m.nodeId } else m
  have hrolloutId : ∀ m, (f m).rolloutId = m.rolloutId := by
    intro m
    simp only [f]
    split <;> rfl
  have hplace : ∀ m ∈ s.nodes.rows, toLex ((f m).batchIndex, (f m).nodeOrder) =
      toLex (m.batchIndex, m.nodeOrder) := by
    intro m hm
    simp only [f]
    split
    · next hk =>
      have hmc : m = c := eq_of_key hm hc (by
        simp only [decide_eq_true_eq] at hk
        rw [key_packageNode, key_packageNode, hk, hid, hnode])
      rw [hmc, hbatch, horder]
    rfl
  have hselect : ((storeNode s n).nodes.select fun m => m.rolloutId = id) =
      (s.nodes.select fun m => m.rolloutId = id).map f := by
    unfold storeNode Table.select Table.updateWhere
    rw [List.filter_map]
    congr 1
    apply List.filter_congr
    intro m _
    simp only [Function.comp_apply]
    rw [show (if decide ((m.rolloutId, m.nodeId) = (n.rolloutId, n.nodeId)) = true then
      { n with rolloutId := m.rolloutId, nodeId := m.nodeId } else m) = f m from rfl, hrolloutId]
  have hsort : nodesOf (storeNode s n) id = (nodesOf s id).map f := by
    unfold nodesOf
    rw [hselect]
    symm
    apply List.map_insertionSort
    intro a ha b hb
    rw [hplace a (mem_select.mp ha).1, hplace b (mem_select.mp hb).1]
  rw [hsort, h, List.map_cons]
  congr 1
  · have hk : decide ((c.rolloutId, c.nodeId) = (n.rolloutId, n.nodeId)) = true := by
      simp [hid, hnode]
    simp only [f]
    rw [if_pos hk, ← hid, ← hnode]
  refine (List.map_congr_left fun m hm => ?_).trans (List.map_id _)
  simp only [f, id_eq]
  rw [if_neg]
  intro hk
  simp only [decide_eq_true_eq] at hk
  rw [hid, hnode] at hk
  exact hkeys.1 (hk ▸ List.mem_map_of_mem hm)

end Rows

structure Untouched (plan : PackagePlan P) (n : PackageRolloutNode) : Prop where
  batch : n.batchIndex = 1
  stable : n.isCanary = false
  state : n.state = .pending
  operation : n.operationId = none
  history : n.operationHistory = []
  member : n.nodeId ∈ rolloutNodes plan

structure Rows (plan : PackagePlan P) (J : Uuid) (s : System P) (r : PackageRollout P)
    (c : PackageRolloutNode) (rest : List PackageRolloutNode) (job : GroupJob JobDocument) :
    Prop where
  rollout : s.rollouts.get? r.id = some r
  plan_eq : r.plan = plan
  link : r.jobId = some J
  commit : r.baseCommit = plan.commit
  parent : s.queue.jobs.get? J = some job
  jobCommit : job.baseCommit = plan.commit
  targets : job.targets = plan.targets
  nodes : nodesOf s r.id = c :: rest
  batch : c.batchIndex = 0
  canary : c.isCanary = true
  untouched : ∀ n ∈ rest, Untouched plan n
  members : (c :: rest).map (·.nodeId) = rolloutNodes plan

def parentState : OperationState → JobState
  | .queued | .running => .running
  | .succeeded | .compensated => .succeeded
  | .failed => .failed
  | .waitingForOperator => .waitingForOperator

/-- A failure of the operation makes the rollout roll the canary back. -/
def RollsBack (plan : PackagePlan P) (m : NodeId) (kind : AgentOperation) : Prop :=
  (plan.rollbackPayloads.lookup m).isSome ∧ (kind = .packageActivate ∨ kind = .packageHealth)

/-- How far a rollout can get: its state and batch, its canary, its job and the operations that
were enqueued beneath it. -/
inductive Stage (plan : PackagePlan P) :
    RolloutState → ℕ → PackageRolloutNode → JobState → List (GroupOperation P) → Prop
  | planned {c : PackageRolloutNode} (hc : c.state = .pending) (ho : c.operationId = none)
      (hh : c.operationHistory = []) : Stage plan .planned 0 c .running []
  | dispatched {c : PackageRolloutNode} {o : GroupOperation P} {g : GraphOperation}
      (hg : firstOperation plan c.nodeId = some g) (ho : c.operationId = some o.id)
      (hh : c.operationHistory = [⟨some g.operationId, g.kind, o.id, false⟩])
      (hc : c.state = enqueuedState g.kind) (hs : o.state ≠ .compensated) :
      Stage plan .running 0 c (parentState o.state) [o]
  | accepted {c : PackageRolloutNode} {o : GroupOperation P} {g : GraphOperation}
      (hg : firstOperation plan c.nodeId = some g)
      (hh : c.operationHistory = [⟨some g.operationId, g.kind, o.id, true⟩])
      (hc : c.state = .accepted) (hs : o.state = .succeeded) :
      Stage plan .planned 1 c .succeeded [o]
  | completed {c : PackageRolloutNode} {o : GroupOperation P} {g : GraphOperation}
      (hg : firstOperation plan c.nodeId = some g)
      (hh : c.operationHistory = [⟨some g.operationId, g.kind, o.id, true⟩])
      (hc : c.state = .accepted) (hs : o.state = .succeeded) :
      Stage plan .completed 0 c .succeeded [o]
  | waits {c : PackageRolloutNode} {o : GroupOperation P} {g : GraphOperation}
      (hg : firstOperation plan c.nodeId = some g) (ho : c.operationId = some o.id)
      (hh : c.operationHistory = [⟨some g.operationId, g.kind, o.id, false⟩])
      (hc : c.state = .failed) (hs : o.state = .failed ∨ o.state = .waitingForOperator)
      (hr : ¬ RollsBack plan c.nodeId g.kind) :
      Stage plan .waitingForOperator 0 c .waitingForOperator [o]

def Tracked (plan : PackagePlan P) (J id : Uuid) (s : System P) : Prop :=
  ∃ r c rest job, r.id = id ∧ Rows plan J s r c rest job ∧
    Stage plan r.state r.currentBatch c job.state (children s.queue J) ∧
    (r.currentBatch = 1 → rest ≠ [])

/-- A rollout that no call of `advance` has seen yet. -/
structure Unbegun (J : Uuid) (s : System P) (r : PackageRollout P) (c : PackageRolloutNode)
    (job : GroupJob JobDocument) : Prop where
  state : r.state = .planned
  batch : r.currentBatch = 0
  canary : c.state = .pending
  operation : c.operationId = none
  history : c.operationHistory = []
  job : job.state = .running
  operations : children s.queue J = []

section Advance

variable {plan : PackagePlan P} {J : Uuid} {s : System P} {r : PackageRollout P}
  {c : PackageRolloutNode} {rest : List PackageRolloutNode} {job : GroupJob JobDocument}
  {cfg : Config P} {o : GroupOperation P} {payload : P}

lemma exists_firstOperation (h : m ∈ rolloutNodes plan) : ∃ g, firstOperation plan m = some g := by
  unfold rolloutNodes at h
  rw [List.mem_insertionSort, List.mem_dedup, List.mem_map] at h
  obtain ⟨g, hg, rfl⟩ := h
  have hsome : (firstOperation plan g.nodeId).isSome := by
    unfold firstOperation
    rw [List.find?_isSome]
    exact ⟨g, (List.mem_filter.mp hg).1, by simp⟩
  exact Option.isSome_iff_exists.mp hsome

section

variable (h : Rows plan J s r c rest job)

include h

lemma Rows.owner : c.rolloutId = r.id :=
  (mem_nodesOf.mp (h.nodes ▸ List.mem_cons_self)).2

lemma Rows.member : c.nodeId ∈ rolloutNodes plan := by
  rw [← h.members, List.map_cons]
  exact List.mem_cons_self

lemma Rows.job_id : job.id = J := get?_key h.parent

lemma Rows.jobInSession : jobInSession call s r = .ok (J, s) := by
  unfold Packages.jobInSession
  rw [h.link, Option.bind_some, h.parent]
  simp only [h.job_id]

lemma Rows.advance_canary (hbatch : r.currentBatch = 0)
    (hopen : r.state = .planned ∨ r.state = .running ∨ r.state = .waitingForOperator) :
    advance cfg call s r.id = visitNode cfg call ⟨r, J⟩ s c >>= fun x =>
      .ok (settleBatch ⟨r, J⟩ (!rest.isEmpty) x.1 x.2) := by
  have hterminal : ¬ (r.state = .completed ∨ r.state = .failed ∨ r.state = .cancelled ∨
      r.state = .partly) := by
    rcases hopen with hs | hs | hs <;> rw [hs] <;> decide
  have hcurrent : (c :: rest).filter (fun n => n.batchIndex = r.currentBatch) = [c] := by
    rw [List.filter_cons_of_pos (by simp [h.batch, hbatch])]
    congr 1
    refine List.filter_eq_nil_iff.mpr fun n hn => ?_
    simp [(h.untouched n hn).batch, hbatch]
  have hlater : ((c :: rest).any fun n => decide (r.currentBatch < n.batchIndex)) =
      !rest.isEmpty := by
    rw [List.any_cons, hbatch, h.batch]
    cases rest with
    | nil => rfl
    | cons n => simp [(h.untouched n List.mem_cons_self).batch]
  unfold advance
  rw [h.rollout]
  simp only [if_neg hterminal, h.nodes, reduceCtorEq, if_false, h.jobInSession, ok_bind, hcurrent,
    hlater]
  simp only [visitBatch]
  cases visitNode cfg call ⟨r, J⟩ s c with
  | error => rfl
  | ok => simp only [ok_bind, Bool.or_false]

end

lemma settleBatch_open (hnodes : nodesOf s r.id = c :: rest) (hbatch : c.batchIndex = r.currentBatch)
    (hstate : c.state ≠ .accepted) (later : Bool) : settleBatch ⟨r, J⟩ later s false = s := by
  unfold settleBatch
  simp only [hnodes, List.all_cons, hbatch]
  simp [hstate]

lemma settleBatch_queued (hstate : stateOf s r.id ≠ some .rollingBack) (later : Bool) :
    settleBatch ⟨r, J⟩ later s true = setRolloutState s r.id .running := by
  unfold settleBatch
  simp only [if_true]
  rw [if_neg hstate]

lemma get?_setRolloutState (h : s.rollouts.get? r.id = some r) (state : RolloutState) :
    (setRolloutState s r.id state).rollouts.get? r.id = some { r with state := state } := by
  unfold setRolloutState
  rw [get?_updateWhere, h]
  simp

lemma get?_failRollout (h : s.rollouts.get? r.id = some r) (state : RolloutState)
    (reason : String) : (failRollout s r.id state reason).rollouts.get? r.id =
      some { r with state := state, failureReason := some reason } := by
  unfold failRollout
  rw [get?_updateWhere, h]
  simp

lemma get?_enterBatch (h : s.rollouts.get? r.id = some r) (batch : ℕ) :
    (enterBatch s r.id batch).rollouts.get? r.id =
      some { r with state := .planned, currentBatch := batch } := by
  unfold enterBatch
  rw [get?_updateWhere, h]
  simp

lemma Rows.advance_unbegun (h : Rows plan J s r c rest job) (hnew : Unbegun J s r c job)
    (hg : firstOperation plan c.nodeId = some g)
    (hpayload : plan.payloads.lookup g.operationId = some payload) :
    advance cfg call s r.id = enqueueInSession cfg.invalid s.queue r.baseCommit
        ⟨call.operationIds c.nodeId, J, c.nodeId, g.kind, payload, .queued⟩ >>= fun queue =>
      .ok (setRolloutState (storeNode { s with queue := queue }
        (enqueuedNode c g (call.operationIds c.nodeId))) r.id .running) := by
  obtain ⟨payload', hpayload', hnext⟩ := nextOperation_nil hg
  obtain rfl : payload = payload' := Option.mem_unique hpayload hpayload'
  rw [h.advance_canary hnew.batch (.inl hnew.state)]
  unfold visitNode
  simp only [hnew.operation, Option.bind_none]
  unfold proceed
  simp only [hnew.canary, reduceCtorEq, or_self, if_false, h.plan_eq, hnew.history, hnext]
  cases enqueueInSession cfg.invalid s.queue r.baseCommit
    ⟨call.operationIds c.nodeId, J, c.nodeId, g.kind, payload, .queued⟩ with
  | error => rfl
  | ok =>
    simp only [ok_bind]
    rw [settleBatch_queued]
    show (s.rollouts.get? r.id).map (·.state) ≠ _
    rw [h.rollout, Option.map_some, hnew.state]
    decide

lemma Rows.advance_planned (h : Rows plan J s r c rest job) (hnew : Unbegun J s r c job)
    {t : System P} (hadv : advance cfg call s r.id = .ok t) :
    ∃ c' o, Rows plan J t { r with state := .running } c' rest job ∧ c'.nodeId = c.nodeId ∧
      children t.queue J = [o] ∧ o.state = .queued ∧
      Stage plan .running 0 c' (parentState o.state) [o] := by
  obtain ⟨g, hg⟩ := exists_firstOperation h.member
  obtain ⟨payload, hpayload, -⟩ := nextOperation_nil hg
  rw [h.advance_unbegun hnew hg hpayload] at hadv
  obtain ⟨queue, henqueue, hadv⟩ := of_bind_ok hadv
  cases hadv
  obtain ⟨-, hjobs, -, -, -, hrows⟩ := enqueue_ok henqueue
  let o : GroupOperation P := ⟨call.operationIds c.nodeId, J, c.nodeId, g.kind, payload, .queued⟩
  have hhistory : (enqueuedNode c g o.id).operationHistory =
      [⟨some g.operationId, g.kind, o.id, false⟩] := by
    unfold enqueuedNode
    rw [hnew.history, List.nil_append]
  refine ⟨enqueuedNode c g o.id, o, ⟨get?_setRolloutState h.rollout _, h.plan_eq, h.link, h.commit,
    ?_, h.jobCommit, h.targets, ?_, h.batch, h.canary, h.untouched, h.members⟩, rfl, ?_, rfl,
    .dispatched hg rfl hhistory rfl ?_⟩
  · show queue.jobs.get? J = some job
    rw [hjobs]
    exact h.parent
  · exact nodesOf_storeNode h.nodes rfl rfl rfl rfl
  · show queue.operations.rows.filter _ = _
    rw [hrows, List.filter_append]
    have hnone : s.queue.operations.rows.filter (fun o => decide (o.parentJobId = J)) = [] :=
      hnew.operations
    rw [hnone]
    simp [o]
  simp [o]

lemma Rows.enqueue_refused (h : Rows plan J s r c rest job)
    (hjob : terminalParent job.state = true) {commit : Commit} {q : Queue JobDocument P}
    (ho : o.parentJobId = J) : enqueueInSession cfg.invalid s.queue commit o ≠ .ok q := by
  intro henqueue
  obtain ⟨-, -, ⟨parent, hparent, hopen⟩, -⟩ := enqueue_ok henqueue
  rw [ho, h.parent] at hparent
  cases hparent
  rw [hjob] at hopen
  cases hopen

lemma active_of_children (ho : c.operationId = some o.id) (hkids : children s.queue J = [o]) :
    c.operationId.bind s.queue.operations.get? = some o := by
  rw [ho, Option.bind_some]
  exact get?_of_mem (mem_children.mp (hkids ▸ List.mem_singleton_self o)).1

variable (h : Rows plan J s r c rest job)

include h

lemma Rows.advance_unfinished (hstate : r.state = .running) (hbatch : r.currentBatch = 0)
    (ho : c.operationId = some o.id) (hkids : children s.queue J = [o]) (hc : c.state ≠ .accepted)
    (hopen : o.state = .queued ∨ o.state = .running) : advance cfg call s r.id = .ok s := by
  rw [h.advance_canary hbatch (.inr (.inl hstate))]
  have hvisit : visitNode cfg call ⟨r, J⟩ s c = .ok (s, false) := by
    unfold visitNode
    rw [active_of_children ho hkids]
    rcases hopen with hs | hs <;> simp only [hs]
  rw [hvisit, ok_bind, settleBatch_open h.nodes (h.batch.trans hbatch.symm) hc]

lemma Rows.advance_succeeded (cfg : Config P) (call : AdvanceCall) (hstate : r.state = .running)
    (hbatch : r.currentBatch = 0) (hg : firstOperation plan c.nodeId = some g)
    (ho : c.operationId = some o.id)
    (hh : c.operationHistory = [⟨some g.operationId, g.kind, o.id, false⟩])
    (hc : c.state = enqueuedState g.kind) (hkids : children s.queue J = [o])
    (hs : o.state = .succeeded) (hjob : job.state = .succeeded) :
    if ∀ x ∈ plan.graph, x.nodeId = c.nodeId → x = g then
      advance cfg call s r.id = .ok (settleBatch ⟨r, J⟩ (!rest.isEmpty)
        (storeNode (storeNode s
            { c with operationHistory := [⟨some g.operationId, g.kind, o.id, true⟩] })
          { c with
            operationHistory := [⟨some g.operationId, g.kind, o.id, true⟩], state := .accepted })
        false)
    else ∀ t, advance cfg call s r.id ≠ .ok t := by
  obtain ⟨hmem, -⟩ := mem_of_firstOperation hg
  have hproceed : ¬ (c.state = .accepted ∨ c.state = .cancelled ∨ c.state = .failed ∨
      c.state = .rolledBack ∨ c.state = .offlinePending) := by
    rw [hc]
    cases g.kind <;> decide
  have haccept : acceptOperation c.operationHistory o.id =
      [⟨some g.operationId, g.kind, o.id, true⟩] := by
    rw [hh]
    simp [acceptOperation]
  have hkind : ¬ historyKind c.operationHistory o.id = some .packageRollback := by
    rw [hh]
    simp only [historyKind, List.find?_cons, decide_true, Option.map_some, Option.some.injEq]
    intro he
    have hplanned := plan.kinds g hmem
    rw [he] at hplanned
    cases hplanned
  rw [h.advance_canary hbatch (.inr (.inl hstate))]
  unfold visitNode
  rw [active_of_children ho hkids]
  simp only [hs, if_neg hkind, haccept]
  unfold proceed
  simp only [if_neg hproceed, h.plan_eq]
  split_ifs with hall
  · rw [(nextOperation_accepted hmem o.id).mpr hall]
    rfl
  intro t hadv
  have hsome : nextOperation plan c.nodeId [⟨some g.operationId, g.kind, o.id, true⟩] ≠ none :=
    fun hnone => hall ((nextOperation_accepted hmem o.id).mp hnone)
  obtain ⟨next, hnext⟩ := Option.ne_none_iff_exists'.mp hsome
  simp only [hnext] at hadv
  obtain ⟨x, hx, -⟩ := of_bind_ok hadv
  obtain ⟨queue, henqueue, -⟩ := of_bind_ok hx
  exact h.enqueue_refused (by rw [hjob]; rfl) rfl henqueue

lemma Rows.accept_canary (hbatch : r.currentBatch = 0) (hjob : job.state = .succeeded)
    {c₁ c₂ : PackageRolloutNode} (h₁ : c₁ = { c with operationHistory := c₁.operationHistory })
    (h₂ : c₂ = { c with operationHistory := c₂.operationHistory, state := .accepted }) :
    ∃ t, settleBatch ⟨r, J⟩ (!rest.isEmpty) (storeNode (storeNode s c₁) c₂) false = t ∧
      children t.queue J = children s.queue J ∧
      (rest = [] → Rows plan J t { r with state := .completed } c₂ rest job) ∧
      (rest ≠ [] → Rows plan J t { r with state := .planned, currentBatch := 1 } c₂ rest job) := by
  have hstored : nodesOf (storeNode (storeNode s c₁) c₂) r.id = c₂ :: rest := by
    have hfirst : nodesOf (storeNode s c₁) r.id = c₁ :: rest := by
      apply nodesOf_storeNode h.nodes <;> rw [h₁]
    apply nodesOf_storeNode hfirst <;> rw [h₁, h₂]
  have hall : (nodesOf (storeNode (storeNode s c₁) c₂) r.id).all (fun n =>
      decide (n.batchIndex ≠ r.currentBatch) || decide (n.state = .accepted)) = true := by
    rw [hstored, List.all_eq_true]
    intro n hn
    rcases List.mem_cons.mp hn with rfl | hn
    · rw [h₂]
      simp
    simp [(h.untouched n hn).batch, hbatch]
  have hmembers : (c₂ :: rest).map (·.nodeId) = rolloutNodes plan := by
    rw [h₂]
    exact h.members
  have hcanary : c₂.batchIndex = 0 ∧ c₂.isCanary = true := by
    rw [h₂]
    exact ⟨h.batch, h.canary⟩
  refine ⟨_, rfl, ?_, ?_, ?_⟩
  · unfold settleBatch
    simp only [Bool.false_eq_true, if_false]
    rw [if_pos hall]
    cases rest <;> rfl
  · rintro rfl
    unfold settleBatch
    simp only [Bool.false_eq_true, if_false, List.isEmpty_nil, Bool.not_true]
    rw [if_pos hall]
    refine ⟨get?_setRolloutState h.rollout _, h.plan_eq, h.link, h.commit, ?_, h.jobCommit, h.targets,
      hstored, hcanary.1, hcanary.2, h.untouched, hmembers⟩
    show (setJobState s.queue J .succeeded).jobs.get? J = some job
    rw [get?_setJobState, h.parent, Option.map_some, if_pos h.job_id, ← hjob]
  intro hrest
  have hlater : (!rest.isEmpty) = true := by simpa using hrest
  unfold settleBatch
  simp only [Bool.false_eq_true, if_false, hlater, if_true]
  rw [if_pos hall]
  rw [hbatch]
  exact ⟨get?_enterBatch h.rollout _, h.plan_eq, h.link, h.commit, h.parent, h.jobCommit, h.targets,
    hstored, hcanary.1, hcanary.2, h.untouched, hmembers⟩

lemma Rows.advance_failed (cfg : Config P) (call : AdvanceCall)
    (hstate : r.state = .running ∨ r.state = .waitingForOperator) (hbatch : r.currentBatch = 0)
    (ho : c.operationId = some o.id)
    (hh : c.operationHistory = [⟨some g.operationId, g.kind, o.id, false⟩])
    (hkids : children s.queue J = [o]) (hs : o.state = .failed ∨ o.state = .waitingForOperator)
    (hjob : terminalParent job.state = true) :
    (RollsBack plan c.nodeId g.kind → ∀ t, advance cfg call s r.id ≠ .ok t) ∧
    (¬ RollsBack plan c.nodeId g.kind → ∃ t reason, advance cfg call s r.id = .ok t ∧
      Rows plan J t { r with state := .waitingForOperator, failureReason := reason }
        { c with state := .failed, failureReason := reason } rest
        { job with state := .waitingForOperator } ∧ children t.queue J = [o]) := by
  have hopen : r.state = .planned ∨ r.state = .running ∨ r.state = .waitingForOperator := by
    rcases hstate with hs | hs
    · exact .inr (.inl hs)
    exact .inr (.inr hs)
  have hkind : historyKind c.operationHistory o.id = some g.kind := by
    rw [hh]
    simp [historyKind]
  have hvisit : visitNode cfg call ⟨r, J⟩ s c = failNode cfg call ⟨r, J⟩ s c (some g.kind) := by
    unfold visitNode
    rw [active_of_children ho hkids]
    rcases hs with hs | hs <;> simp only [hs, hkind]
  rw [h.advance_canary hbatch hopen, hvisit]
  constructor
  · rintro ⟨hsome, hrolls⟩ t hadv
    obtain ⟨payload, hpayload⟩ := Option.isSome_iff_exists.mp hsome
    have hkinds : some g.kind = some .packageActivate ∨ some g.kind = some .packageHealth := by
      rcases hrolls with hk | hk <;> simp [hk]
    obtain ⟨x, hx, -⟩ := of_bind_ok hadv
    unfold failNode at hx
    simp only [h.plan_eq, hpayload, if_pos hkinds] at hx
    obtain ⟨queue, henqueue, -⟩ := of_bind_ok hx
    exact h.enqueue_refused hjob rfl henqueue
  intro hnot
  have hfail : failNode cfg call ⟨r, J⟩ s c (some g.kind) = .ok (failNode.waits ⟨r, J⟩ s c, false) := by
    unfold failNode
    rw [h.plan_eq]
    cases hl : plan.rollbackPayloads.lookup c.nodeId with
    | none => rfl
    | some =>
      simp only
      rw [if_neg]
      intro hk
      refine hnot ⟨by rw [hl]; rfl, ?_⟩
      simpa using hk
  have hnodes : nodesOf (failNode.waits ⟨r, J⟩ s c) r.id =
      { c with state := .failed, failureReason := some "package operation did not complete" } ::
        rest := nodesOf_storeNode h.nodes rfl rfl rfl rfl
  rw [hfail, ok_bind]
  rw [settleBatch_open hnodes (h.batch.trans hbatch.symm) (by simp)]
  refine ⟨_, some "package operation did not complete", rfl, ⟨get?_failRollout h.rollout _ _, h.plan_eq,
    h.link, h.commit, ?_, h.jobCommit, h.targets, hnodes, h.batch, h.canary, h.untouched,
    h.members⟩, hkids⟩
  show (setJobState s.queue J .waitingForOperator).jobs.get? J = _
  rw [get?_setJobState, h.parent, Option.map_some, if_pos h.job_id]

lemma Rows.advance_stable (hstate : r.state = .planned) (hbatch : r.currentBatch = 1)
    (hrest : rest ≠ []) (hjob : terminalParent job.state = true) (t : System P) :
    advance cfg call s r.id ≠ .ok t := by
  obtain ⟨n, rest, rfl⟩ := List.exists_cons_of_ne_nil hrest
  have hn := h.untouched n List.mem_cons_self
  obtain ⟨g, hg⟩ := exists_firstOperation hn.member
  obtain ⟨payload, -, hnext⟩ := nextOperation_nil hg
  have hcurrent : (c :: n :: rest).filter (fun m => m.batchIndex = r.currentBatch) = n :: rest := by
    rw [List.filter_cons_of_neg (by simp [h.batch, hbatch])]
    refine List.filter_eq_self.mpr fun m hm => ?_
    simp [(h.untouched m hm).batch, hbatch]
  intro hadv
  unfold advance at hadv
  rw [h.rollout] at hadv
  simp only [hstate, reduceCtorEq, or_self, if_false, h.nodes, h.jobInSession, ok_bind, hcurrent]
    at hadv
  obtain ⟨x, hx, -⟩ := of_bind_ok hadv
  obtain ⟨y, hy, -⟩ := of_bind_ok hx
  unfold visitNode at hy
  simp only [hn.operation, Option.bind_none] at hy
  unfold proceed at hy
  simp only [hn.state, reduceCtorEq, or_self, if_false, h.plan_eq, hn.history, hnext] at hy
  obtain ⟨queue, henqueue, -⟩ := of_bind_ok hy
  exact h.enqueue_refused hjob rfl henqueue

end Advance

section Runs

variable {plan : PackagePlan P} {J : Uuid} {s t : System P} {r : PackageRollout P}
  {c : PackageRolloutNode} {rest : List PackageRolloutNode} {job job' : GroupJob JobDocument}
  {cfg : Config P} {q : Queue JobDocument P}

lemma Rows.queue (h : Rows plan J s r c rest job) (hjob : q.jobs.get? J = some job')
    (hcommit : job'.baseCommit = job.baseCommit) (htargets : job'.targets = job.targets) :
    Rows plan J { s with queue := q } r c rest job' :=
  ⟨h.rollout, h.plan_eq, h.link, h.commit, hjob, hcommit.trans h.jobCommit,
    htargets.trans h.targets, h.nodes, h.batch, h.canary, h.untouched, h.members⟩

lemma Rows.tracked (h : Rows plan J s r c rest job) (hid : r.id = id)
    {ops : List (GroupOperation P)} (hr : r.state = state) (hb : r.currentBatch = batch)
    (hj : job.state = parent) (hk : children s.queue J = ops)
    (hstage : Stage plan state batch c parent ops) (hstable : batch = 1 → rest ≠ []) :
    Tracked plan J id s := by
  refine ⟨r, c, rest, job, hid, h, ?_, hb ▸ hstable⟩
  rw [hr, hb, hj, hk]
  exact hstage

lemma Stage.of_unfinished {ops : List (GroupOperation P)} {o : GroupOperation P}
    (h : Stage plan state batch c parent ops) (ho : o ∈ ops)
    (hs : o.state = .queued ∨ o.state = .running) :
    state = .running ∧ batch = 0 ∧ parent = parentState o.state ∧ ops = [o] ∧
      ∃ g, firstOperation plan c.nodeId = some g ∧ c.operationId = some o.id ∧
        c.operationHistory = [⟨some g.operationId, g.kind, o.id, false⟩] ∧
        c.state = enqueuedState g.kind := by
  cases h with
  | planned => cases ho
  | dispatched hg hop hh hc =>
    cases List.mem_singleton.mp ho
    exact ⟨rfl, rfl, rfl, rfl, _, hg, hop, hh, hc⟩
  | accepted _ _ _ hdone | completed _ _ _ hdone =>
    cases List.mem_singleton.mp ho
    simp [hdone] at hs
  | waits _ _ _ _ hdone =>
    cases List.mem_singleton.mp ho
    rcases hdone with hdone | hdone <;> simp [hdone] at hs

lemma terminalParent_parentState {state : OperationState} (h : terminalOperation state = true) :
    terminalParent (parentState state) = true := by
  cases state <;> first | rfl | cases h

structure Elsewhere (J id : Uuid) (s t : System P) : Prop where
  rollout : t.rollouts.get? id = s.rollouts.get? id
  nodes : nodesOf t id = nodesOf s id
  job : t.queue.jobs.get? J = s.queue.jobs.get? J
  operations : children t.queue J = children s.queue J

section

variable (h : Tracked plan J id s)

include h

lemma Tracked.stage : ∃ r c rest job state batch parent ops,
    r.id = id ∧ Rows plan J s r c rest job ∧ r.state = state ∧ r.currentBatch = batch ∧
      job.state = parent ∧ children s.queue J = ops ∧ Stage plan state batch c parent ops ∧
      (batch = 1 → rest ≠ []) := by
  obtain ⟨r, c, rest, job, hid, hrows, hstage, hstable⟩ := h
  exact ⟨r, c, rest, job, _, _, _, _, hid, hrows, rfl, rfl, rfl, rfl, hstage, hstable⟩

lemma Tracked.advance (hadv : advance cfg call s id = .ok t) : Tracked plan J id t := by
  obtain ⟨r, c, rest, job, _, _, _, _, rfl, hrows, hr, hb, hj, hk, hstage, hstable⟩ := h.stage
  cases hstage with
  | planned hc ho hh =>
    obtain ⟨c', o, hrows', -, hkids, hqueued, hnext⟩ :=
      hrows.advance_planned ⟨hr, hb, hc, ho, hh, hj, hk⟩ hadv
    rw [hqueued] at hnext
    exact hrows'.tracked rfl rfl hb hj hkids hnext (by simp)
  | @dispatched _ o g hg ho hh hc hs =>
    have hne : c.state ≠ .accepted := by
      rw [hc]
      cases g.kind <;> decide
    have hbad : (o.state = .failed ∨ o.state = .waitingForOperator) → Tracked plan J r.id t := by
      intro hbad
      have hterminal : terminalParent job.state = true := by
        rw [hj]
        apply terminalParent_parentState
        rcases hbad with hb | hb <;> rw [hb] <;> rfl
      obtain ⟨hrolls, hwaits⟩ := hrows.advance_failed cfg call (.inl hr) hb ho hh hk hbad hterminal
      by_cases hroll : RollsBack plan c.nodeId g.kind
      · exact absurd hadv (hrolls hroll t)
      obtain ⟨t', reason, hadv', hrows', hkids⟩ := hwaits hroll
      rw [hadv'] at hadv
      cases hadv
      exact hrows'.tracked rfl rfl hb rfl hkids (.waits hg ho hh rfl hbad hroll) (by simp)
    cases hstate : o.state with
    | queued | running =>
      rw [hrows.advance_unfinished hr hb ho hk hne (by rw [hstate]; simp)] at hadv
      cases hadv
      exact hrows.tracked rfl hr hb hj hk (.dispatched hg ho hh hc hs) (by simp)
    | succeeded =>
      have hj' : job.state = .succeeded := by rw [hj, hstate]; rfl
      have hspec := hrows.advance_succeeded cfg call hr hb hg ho hh hc hk hstate hj'
      split_ifs at hspec
      · rw [hspec] at hadv
        obtain ⟨t', ht', hkids, hdone, hnext⟩ := @Rows.accept_canary P plan J s r c rest job hrows hb hj'
          { c with operationHistory := [⟨some g.operationId, g.kind, o.id, true⟩] }
          { c with
            operationHistory := [⟨some g.operationId, g.kind, o.id, true⟩], state := .accepted }
          rfl rfl
        rw [ht'] at hadv
        cases hadv
        by_cases hrest : rest = []
        · exact (hdone hrest).tracked rfl rfl hb hj' (hkids.trans hk) (.completed hg rfl rfl hstate)
            (by simp)
        exact (hnext hrest).tracked rfl rfl rfl hj' (hkids.trans hk) (.accepted hg rfl rfl hstate)
          fun _ => hrest
      exact absurd hadv (hspec t)
    | failed => exact hbad (.inl hstate)
    | waitingForOperator => exact hbad (.inr hstate)
    | compensated => exact absurd hstate hs
  | accepted =>
    exact absurd hadv (hrows.advance_stable hr hb (hstable rfl) (by rw [hj]; rfl) t)
  | completed hg hh hc hs =>
    unfold Packages.advance at hadv
    rw [hrows.rollout] at hadv
    simp only [hr, true_or, if_true] at hadv
    cases hadv
    exact hrows.tracked rfl hr hb hj hk (.completed hg hh hc hs) (by simp)
  | waits hg ho hh hc hs hroll =>
    obtain ⟨-, hwaits⟩ := hrows.advance_failed cfg call (.inr hr) hb ho hh hk hs (by rw [hj]; rfl)
    obtain ⟨t', reason, hadv', hrows', hkids⟩ := hwaits hroll
    rw [hadv'] at hadv
    cases hadv
    exact hrows'.tracked rfl rfl hb rfl hkids (.waits hg ho hh rfl hs hroll) (by simp)

lemma Tracked.moves (hmoves : Moves s.queue q) : Tracked plan J id { s with queue := q } := by
  obtain ⟨r, c, rest, job, _, _, _, _, rfl, hrows, hr, hb, hj, hk, hstage, hstable⟩ := h.stage
  cases hmoves with
  | same hq =>
    subst hq
    exact h
  | starts o ho hs hq =>
    subst hq
    have hrows' : Rows plan J { s with queue := setOperationState s.queue o.id .running } r c rest job :=
      hrows.queue hrows.parent rfl rfl
    by_cases hparent : o.parentJobId = J
    · have hmem : o ∈ children s.queue J := mem_children.mpr ⟨mem_of_get? ho, hparent⟩
      obtain ⟨rfl, rfl, rfl, rfl, g, hg, hop, hh, hc⟩ := hstage.of_unfinished (hk ▸ hmem) (.inl hs)
      rw [hs] at hj
      refine hrows'.tracked rfl hr hb hj ?_
        (.dispatched (o := { o with state := .running }) hg hop hh hc (by simp)) (by simp)
      rw [children_setOperationState, hk]
      simp
    exact hrows'.tracked rfl hr hb hj ((children_of_ne ho hparent _).trans hk) hstage hstable
  | ends o state ho hs hq =>
    by_cases hparent : o.parentJobId = J
    · have hmem : o ∈ children s.queue J := mem_children.mpr ⟨mem_of_get? ho, hparent⟩
      obtain ⟨rfl, rfl, rfl, rfl, g, hg, hop, hh, hc⟩ := hstage.of_unfinished (hk ▸ hmem) (.inr hs)
      have hkids : children (setOperationState s.queue o.id state.operation) J =
          [{ o with state := state.operation }] := by
        rw [children_setOperationState, hk]
        simp
      have hterminal : terminalOperation state.operation = true := by cases state <;> rfl
      rw [hparent] at hq
      rcases aggregateParent_ok hq with ⟨⟨x, hx, hopen⟩, -⟩ | ⟨hnil, -⟩ | ⟨-, rfl⟩
      · rw [hkids] at hx
        cases List.mem_singleton.mp hx
        rw [hterminal] at hopen
        cases hopen
      · rw [hkids] at hnil
        cases hnil
      have hgroup : groupState (children (setOperationState s.queue o.id state.operation) J) =
          parentState state.operation := by
        rw [hkids]
        cases state <;> rfl
      have hjob : (setJobState (setOperationState s.queue o.id state.operation) J
          (parentState state.operation)).jobs.get? J =
            some { job with state := parentState state.operation } := by
        rw [get?_setJobState]
        show (s.queue.jobs.get? J).map _ = _
        rw [hrows.parent, Option.map_some, if_pos hrows.job_id]
      rw [hgroup]
      exact (hrows.queue hjob rfl rfl).tracked rfl hr hb rfl hkids
        (.dispatched (o := { o with state := state.operation }) hg hop hh hc
          (by cases state <;> simp [ResultState.operation])) (by simp)
    obtain ⟨hjobs, hops, -⟩ := aggregateParent_of_ne hq (Ne.symm hparent)
    have hkids : children q J = children s.queue J := by
      unfold children
      rw [hops]
      exact children_of_ne ho hparent _
    exact (hrows.queue (hjobs.trans hrows.parent) rfl rfl).tracked rfl hr hb hj (hkids.trans hk)
      hstage hstable

lemma Tracked.elsewhere (he : Elsewhere J id s t) : Tracked plan J id t := by
  obtain ⟨r, c, rest, job, rfl, hrows, hstage, hstable⟩ := h
  refine ⟨r, c, rest, job, rfl, ⟨he.rollout.trans hrows.rollout, hrows.plan_eq, hrows.link,
    hrows.commit, he.job.trans hrows.parent, hrows.jobCommit, hrows.targets,
    he.nodes.trans hrows.nodes, hrows.batch, hrows.canary, hrows.untouched, hrows.members⟩, ?_,
    hstable⟩
  rw [he.operations]
  exact hstage

end

/-! ### A new rollout -/

lemma exists_package (h : m ∈ rolloutNodes plan) :
    ∃ g, (packageNodes plan).find? (fun g => decide (g.nodeId = m)) = some g := by
  unfold rolloutNodes at h
  rw [List.mem_insertionSort, List.mem_dedup, List.mem_map] at h
  obtain ⟨g, hg, rfl⟩ := h
  apply Option.isSome_iff_exists.mp
  rw [List.find?_isSome]
  exact ⟨g, hg, by simp⟩

lemma projectedNodes_rest (id : Uuid) {k : ℕ} (hk : 0 < k) {l : List NodeId}
    (hl : ∀ m ∈ l, m ∈ rolloutNodes plan) :
    (∀ n ∈ projectedNodes plan id k l, Untouched plan n ∧ n.rolloutId = id ∧ k ≤ n.nodeOrder) ∧
    (projectedNodes plan id k l).map (·.nodeId) = l ∧
    (projectedNodes plan id k l).Pairwise fun n m =>
      toLex (n.batchIndex, n.nodeOrder) ≤ toLex (m.batchIndex, m.nodeOrder) := by
  induction l generalizing k with
  | nil => exact ⟨by simp [projectedNodes], rfl, List.Pairwise.nil⟩
  | cons m l ih =>
    obtain ⟨g, hg⟩ := exists_package (hl m List.mem_cons_self)
    obtain ⟨hall, hmap, hsorted⟩ :=
      ih (Nat.succ_pos k) fun x hx => hl x (.tail _ hx)
    unfold projectedNodes
    simp only [hg, if_neg hk.ne', decide_eq_false hk.ne']
    refine ⟨?_, by rw [List.map_cons, hmap], List.pairwise_cons.mpr ⟨?_, hsorted⟩⟩
    · intro n hn
      rcases List.mem_cons.mp hn with rfl | hn
      · exact ⟨⟨rfl, rfl, rfl, rfl, rfl, hl m List.mem_cons_self⟩, rfl, le_refl k⟩
      obtain ⟨hu, hid, hle⟩ := hall n hn
      exact ⟨hu, hid, by omega⟩
    intro n hn
    obtain ⟨hu, -, hle⟩ := hall n hn
    rw [hu.batch, Prod.Lex.le_iff]
    exact .inr ⟨rfl, by show k ≤ n.nodeOrder; omega⟩

lemma insertNodes_rows {l : List PackageRolloutNode} {nodes nodes' : Table PackageRolloutNode}
    (h : l.foldlM insertNode nodes = .ok nodes') : nodes'.rows = nodes.rows ++ l := by
  induction l generalizing nodes with
  | nil =>
    cases h
    simp
  | cons n l ih =>
    obtain ⟨mid, hmid, h⟩ := of_bind_ok h
    unfold insertNode at hmid
    split at hmid
    · next hinsert =>
      cases hmid
      rw [ih h, (insert_eq_some.mp hinsert).2, List.append_assoc, List.singleton_append]
    cases hmid

/-- No row refers to the identifiers that a new rollout gets. -/
structure Unreferenced (call : CreateCall) (s : System P) : Prop where
  nodes : ∀ n ∈ s.nodes.rows, n.rolloutId ≠ call.rolloutId
  operations : ∀ o ∈ s.queue.operations.rows, o.parentJobId ≠ call.jobId

lemma create_tracked {new : CreateCall} (hnew : Unreferenced new s)
    (hplan : ∀ r ∈ s.rollouts.rows, r.planDigest ≠ cfg.planDigest plan)
    (h : create cfg new plan s = .ok (id, t)) :
    id = new.rolloutId ∧ Tracked plan new.jobId id t ∧
      ∃ r c rest job, r.id = id ∧ Rows plan new.jobId t r c rest job ∧
        Unbegun new.jobId t r c job ∧ t.queue.nodes = s.queue.nodes ∧
        t.queue.operations = s.queue.operations := by
  unfold create at h
  split at h
  · cases h
  next hnodes =>
  have hfind : s.rollouts.rows.find? (fun r => decide (r.planDigest = cfg.planDigest plan)) = none := by
    rw [List.find?_eq_none]
    intro r hr
    simpa using hplan r hr
  simp only [hfind] at h
  obtain ⟨queue, hqueue, rollouts, hrollouts, h⟩ := of_bind_ok₂ h
  obtain ⟨nodes, hinsert, h⟩ := of_bind_ok h
  cases h
  unfold insertJob at hqueue
  split_ifs at hqueue
  split at hqueue
  swap
  · cases hqueue
  next jobs hjobs =>
  cases hqueue
  unfold insertRollout at hrollouts
  split at hrollouts
  swap
  · cases hrollouts
  next rollouts' hr =>
  cases hrollouts
  obtain ⟨m, ms, hms⟩ : ∃ m ms, rolloutNodes plan = m :: ms := by
    apply List.exists_cons_of_ne_nil
    obtain ⟨g, l, hg⟩ := List.exists_cons_of_ne_nil hnodes
    apply List.ne_nil_of_mem
    unfold rolloutNodes
    rw [List.mem_insertionSort, List.mem_dedup, hg, List.map_cons]
    exact List.mem_cons_self
  have hmem : ∀ x ∈ m :: ms, x ∈ rolloutNodes plan := fun x hx => hms ▸ hx
  obtain ⟨g, hg⟩ := exists_package (hmem m List.mem_cons_self)
  obtain ⟨hall, hmap, hsorted⟩ := projectedNodes_rest new.rolloutId Nat.one_pos
    fun x hx => hmem x (.tail _ hx)
  let c : PackageRolloutNode :=
    { rolloutId := new.rolloutId, nodeId := m, batchIndex := 0, nodeOrder := 0, isCanary := true,
      operationKind := g.kind, graphOperationId := g.operationId }
  have hprojected : projectedNodes plan new.rolloutId 0 (rolloutNodes plan) =
      c :: projectedNodes plan new.rolloutId 1 ms := by
    rw [hms]
    simp only [projectedNodes, hg, if_true, decide_true, c]
  rw [hprojected] at hinsert
  have hrows := insertNodes_rows hinsert
  have hof : nodesOf ⟨{ s.queue with jobs := jobs }, rollouts, nodes⟩ new.rolloutId =
      c :: projectedNodes plan new.rolloutId 1 ms := by
    unfold nodesOf Table.select
    simp only [hrows]
    rw [List.filter_append]
    have hold : s.nodes.rows.filter (fun n => decide (n.rolloutId = new.rolloutId)) = [] :=
      List.filter_eq_nil_iff.mpr fun n hn => by simpa using hnew.nodes n hn
    have hown : (c :: projectedNodes plan new.rolloutId 1 ms).filter
        (fun n => decide (n.rolloutId = new.rolloutId)) =
          c :: projectedNodes plan new.rolloutId 1 ms := by
      refine List.filter_eq_self.mpr fun n hn => ?_
      rcases List.mem_cons.mp hn with rfl | hn
      · simp [c]
      simpa using (hall n hn).2.1
    rw [hold, hown, List.nil_append]
    apply List.Pairwise.insertionSort_eq
    refine List.pairwise_cons.mpr ⟨fun n hn => ?_, hsorted⟩
    rw [(hall n hn).1.batch, Prod.Lex.le_iff]
    exact .inl (by show 0 < 1; decide)
  have hkids : children ({ s.queue with jobs := jobs } : Queue JobDocument P) new.jobId = [] := by
    refine List.filter_eq_nil_iff.mpr fun o ho => ?_
    simpa using hnew.operations o ho
  have hjob := get?_insert hjobs new.jobId
  rw [key_groupJob, if_pos rfl] at hjob
  have hrollout := get?_insert hr new.rolloutId
  rw [key_packageRollout, if_pos rfl] at hrollout
  have hmembers : (c :: projectedNodes plan new.rolloutId 1 ms).map (·.nodeId) =
      rolloutNodes plan := by
    rw [List.map_cons, hmap, hms]
  let r : PackageRollout P :=
    { id := new.rolloutId, jobId := some new.jobId, deploymentId := plan.deploymentId,
      baseCommit := plan.commit, planDigest := cfg.planDigest plan, plan := plan }
  have hall' : Rows plan new.jobId ⟨{ s.queue with jobs := jobs }, rollouts, nodes⟩ r c _ _ :=
    ⟨hrollout, rfl, rfl, rfl, hjob, rfl, rfl, hof, rfl, rfl, fun n hn => (hall n hn).1, hmembers⟩
  exact ⟨rfl, hall'.tracked rfl rfl rfl rfl hkids (.planned rfl rfl rfl) (by simp),
    _, _, _, _, rfl, hall', ⟨rfl, rfl, rfl, rfl, rfl, rfl, hkids⟩, rfl, rfl⟩

end Runs

end VonkForge.Packages
