import VonkForge.AuthorizationProgress
import VonkForge.LeaseGroups

/-!
# Recovery of a paused rollout

When every agent of the batch is back on its planned source, an operator resumes
a paused rollout that never changed an agent and rolls back one that did.
-/

namespace VonkForge.Updates

open AgentJobs NodeLeases AgentReconciliation
open Keyed (key)

variable {view : CallView} {db db' : Database} {d : Digests} {now : Time} {v : UpdateRollout}
  {n : UpdateRolloutNode} {f : UpdateRolloutNode → UpdateRolloutNode} {fence : Uuid}

section Batch

variable {u : UpdateRollout} {nodes : List UpdateRolloutNode}

lemma batchNodes_eq_ok :
    batchNodes d db u = .ok nodes ↔ nodes = batchRows db u ∧ nodes ≠ [] ∧
      u.batches[u.currentBatch]?.map (·.nodes) = some (nodes.map (·.nodeId)) ∧
      ∀ n ∈ nodes, nodeBound d u n = true := by
  unfold batchNodes
  constructor
  · intro h
    simp only at h
    split_ifs at h with hnil hbatch hbound
    cases h
    exact ⟨rfl, hnil, not_not.mp hbatch, List.all_eq_true.mp (Bool.eq_true_of_not_eq_false hbound)⟩
  rintro ⟨rfl, hnil, hbatch, hbound⟩
  rw [if_neg hnil, if_neg (not_not.mpr hbatch), if_neg (by simp [List.all_eq_true.mpr hbound])]

lemma mem_batchRows :
    n ∈ batchRows db u ↔
      n ∈ db.rolloutNodes.rows ∧ n.rolloutId = u.id ∧ n.batchIndex = u.currentBatch := by
  unfold batchRows
  simp [inBatch]

lemma batchNodes_congr (hnodes : db'.rolloutNodes = db.rolloutNodes) (hid : v.id = u.id)
    (hplan : v.toUpdatePlan = u.toUpdatePlan) (hbatch : v.currentBatch = u.currentBatch) :
    batchNodes d db' v = batchNodes d db u := by
  have hrows : batchRows db' v = batchRows db u := by
    unfold batchRows inBatch
    rw [hnodes, hid, hbatch]
  have hsource (n : NodeId) : plannedSource v n = plannedSource u n := by
    unfold plannedSource
    rw [hplan]
  have hpayload (n : NodeId) : nodePayload v n = nodePayload u n := by
    unfold nodePayload
    rw [hplan]
  have hbound : nodeBound d v = nodeBound d u := by
    funext n
    unfold nodeBound
    rw [hsource, hpayload]
  unfold batchNodes
  simp only [hrows, hplan, hbatch, hbound]

lemma select_setNodes (db : Database) (u : UpdateRollout) (hf : ∀ n, key (f n) = key n)
    (hplace : ∀ n, (f n).batchIndex = n.batchIndex) :
    (setNodes db (batchRows db u) f hf).rolloutNodes.select (inBatch u) =
      (db.rolloutNodes.select (inBatch u)).map f := by
  have hmem {n : UpdateRolloutNode} (hn : n ∈ db.rolloutNodes.rows) (hbatch : inBatch u n = true) :
      key n ∈ (batchRows db u).map key := by
    simp only [inBatch, Bool.and_eq_true, decide_eq_true_eq] at hbatch
    exact List.mem_map_of_mem (mem_batchRows.mpr ⟨hn, hbatch⟩)
  have hkept (n : UpdateRolloutNode) : inBatch u (f n) = inBatch u n := by
    have hkey := hf n
    simp only [key_rolloutNode, Prod.mk.injEq] at hkey
    unfold inBatch
    rw [hkey.1, hplace]
  unfold Table.select setNodes Table.updateWhere
  simp only [List.filter_map]
  rw [List.filter_congr (q := inBatch u)]
  · apply List.map_congr_left
    intro n hn
    obtain ⟨hrow, hbatch⟩ := List.mem_filter.mp hn
    exact if_pos (decide_eq_true (hmem hrow hbatch))
  intro n _
  simp only [Function.comp_apply]
  split
  · exact hkept n
  rfl

variable (h : batchNodes d db u = .ok nodes)

include h

lemma get?_of_batch (hn : n ∈ nodes) :
    n.rolloutId = u.id ∧ db.rolloutNodes.get? (u.id, n.nodeId) = some n := by
  obtain ⟨rfl, -⟩ := batchNodes_eq_ok.mp h
  obtain ⟨hrow, hid, -⟩ := mem_batchRows.mp hn
  refine ⟨hid, ?_⟩
  have hget := Table.get?_of_mem hrow
  rw [key_rolloutNode, hid] at hget
  exact hget

lemma group_of_batch :
    ∃ g : NodeGroup, u.batches[u.currentBatch]? = some g ∧ g.nodes = nodes.map (·.nodeId) := by
  obtain ⟨-, -, hbatch, -⟩ := batchNodes_eq_ok.mp h
  exact Option.map_eq_some_iff.mp hbatch

lemma keys_nodup_of_batch : (nodes.map key).Nodup := by
  obtain ⟨g, -, hg⟩ := group_of_batch h
  have hkeys : nodes.map key = (nodes.map (·.nodeId)).map fun n => (u.id, n) := by
    rw [List.map_map]
    apply List.map_congr_left
    intro n hn
    rw [key_rolloutNode, (get?_of_batch h hn).1]
    rfl
  rw [hkeys, ← hg]
  exact g.nodup.map fun a b hab => congrArg Prod.snd hab

lemma batchNodes_setNodes {f : UpdateRolloutNode → UpdateRolloutNode}
    {hf : ∀ n, key (f n) = key n}
    (hplace : ∀ n, (f n).batchIndex = n.batchIndex ∧ (f n).nodeOrder = n.nodeOrder)
    (hbinding : ∀ n, (f n).sourceIdentityDigest = n.sourceIdentityDigest ∧
      (f n).targetArtifactDigest = n.targetArtifactDigest) :
    batchNodes d (setNodes db nodes f hf) u = .ok (nodes.map f) := by
  obtain ⟨rfl, hnil, hbatch, hbound⟩ := batchNodes_eq_ok.mp h
  have hid (n : UpdateRolloutNode) : (f n).rolloutId = n.rolloutId ∧ (f n).nodeId = n.nodeId := by
    have hkey := hf n
    simp only [key_rolloutNode, Prod.mk.injEq] at hkey
    exact hkey
  have hrows : batchRows (setNodes db (batchRows db u) f hf) u = (batchRows db u).map f := by
    have hselect := select_setNodes db u hf fun n => (hplace n).1
    unfold batchRows at hselect ⊢
    rw [hselect]
    refine (List.map_insertionSort _ _ f _ ?_).symm
    intro a _ b _
    rw [(hplace a).2, (hplace b).2]
  have hids : ((batchRows db u).map f).map (·.nodeId) = (batchRows db u).map (·.nodeId) := by
    rw [List.map_map]
    apply List.map_congr_left
    intro n _
    exact (hid n).2
  refine batchNodes_eq_ok.mpr ⟨hrows.symm, ?_, ?_, ?_⟩
  · simpa using hnil
  · rw [hids]
    exact hbatch
  intro n hn
  obtain ⟨m, hm, rfl⟩ := List.mem_map.mp hn
  have hmb := hbound m hm
  unfold nodeBound at hmb ⊢
  rw [(hid m).2, (hbinding m).1, (hbinding m).2]
  exact hmb

end Batch

/-! ### Agents back on their sources -/

/-- The agent is fresh and authentic and runs its planned source, under the planned generation or
under a later one. -/
def sourceBack (d : Digests) (db : Database) (u : UpdateRollout) (now : Time)
    (n : UpdateRolloutNode) : Bool :=
  match plannedSource u n.nodeId, db.nodes.get? n.nodeId with
  | some source, some running =>
    agentIsCurrent running now && authenticatedContactIsCurrent d db running now &&
      sameSource (sourceIdentity running) source.identity &&
      (generationGrew (sourceIdentity running) source.identity ||
        (sourceIdentity running).supervisorGeneration = source.identity.supervisorGeneration)
  | _, _ => false

def plannedGeneration (db : Database) (u : UpdateRollout) (n : UpdateRolloutNode) : Bool :=
  match plannedSource u n.nodeId, db.nodes.get? n.nodeId with
  | some source, some running =>
    (sourceIdentity running).supervisorGeneration = source.identity.supervisorGeneration
  | _, _ => false

section Identities

variable {u : UpdateRollout}

lemma identity_eq_iff (a b : SourceIdentity) :
    a = b ↔ sameSource a b = true ∧ a.supervisorGeneration = b.supervisorGeneration := by
  obtain ⟨a1, a2, a3, a4, a5, a6⟩ := a
  obtain ⟨b1, b2, b3, b4, b5, b6⟩ := b
  simp only [sameSource, SourceIdentity.mk.injEq, Bool.and_eq_true, decide_eq_true_eq]
  tauto

lemma unchanged_of_back (h : sourceBack d db u now n = true) :
    sourceIsUnchanged db u n now false = plannedGeneration db u n := by
  unfold sourceBack at h
  unfold sourceIsUnchanged plannedGeneration
  cases hs : plannedSource u n.nodeId with
  | none => simp [hs] at h
  | some =>
    cases hr : db.nodes.get? n.nodeId with
    | none => simp [hs, hr] at h
    | some =>
      simp only [hs, hr, Bool.and_eq_true] at h
      obtain ⟨⟨⟨hcurrent, -⟩, hsame⟩, -⟩ := h
      simp only [hcurrent, Bool.true_and, Bool.not_false, Bool.true_or, Bool.and_true]
      rw [decide_eq_decide, identity_eq_iff]
      exact ⟨fun hi => hi.2, fun hg => ⟨hsame, hg⟩⟩

end Identities

/-! ### The calls of an operator -/

/-- The job of the rollout, as `create` stores it. -/
structure JobLinked (db : Database) (u : UpdateRollout) (nodes : List UpdateRolloutNode) (job : Job) :
    Prop where
  stored : u.jobId.bind db.jobs.get? = some job
  kind : job.kind = .platformUpdate
  baseCommit : job.baseCommit = u.baseCommit
  targets : ∀ n ∈ nodes, n.nodeId ∈ job.targets

/-- The signer is configured, and the identifiers that are drawn are new. -/
structure ReservationReady (view : RolloutView) (db : Database) : Prop where
  configured : view.signer = true
  intents : ∀ n, db.intents.get? (view.fresh n).intentId = none
  operations : ∀ n, db.operations.get? (view.fresh n).operationId = none
  distinctIntents : ∀ m n, (view.fresh m).intentId = (view.fresh n).intentId → m = n
  distinctOperations : ∀ m n, (view.fresh m).operationId = (view.fresh n).operationId → m = n

/-- The signer answers as well. -/
structure SignerUp (view : CallView) (db : Database) : Prop
    extends ReservationReady view.toRolloutView db where
  answers : ∀ request, ∃ response, view.sign request = .ok response ∧
    Answers view.digests request response

/-- The rollout holds the lease, the agent reports its identity and is not revoked, and no
authorization is open. -/
structure NodeAuthorizable (db : Database) (now : Time) (id : Uuid) (op : AgentOperation)
    (n : NodeId) : Prop where
  lease : leaseHeld db id n = true
  agent : ∃ node, db.nodes.get? n = some node ∧ node.runtime.isSome = true ∧
    node.state = .active ∧ node.revokedAt = none
  spent : Spent db now id n op

def agentSource (db : Database) (n : NodeId) : SignerSource :=
  match (db.nodes.get? n).bind (·.runtime) with
  | some r => ⟨r.activeSlot, r.agentSha256, r.supervisorGeneration⟩
  | none => ⟨.a, 0, 0⟩

lemma admitted_of_authorizable {view : ReserveView} {v : UpdateRollout} {rn : UpdateRolloutNode}
    {nodes : List UpdateRolloutNode} {job : Job} {grant : AdminGrant} {op : AgentOperation}
    {payload : Option NodePayload} {release : Option Digest} (hv : db.rollouts.get? v.id = some v)
    (hrn : db.rolloutNodes.get? (v.id, rn.nodeId) = some rn) (hjob : JobLinked db v nodes job)
    (htarget : rn.nodeId ∈ job.targets) (hauth : NodeAuthorizable db view.now v.id op rn.nodeId)
    (hsigner : view.signer = true) (hsigned : op.signed = true)
    (hplanned : op = .agentUpdate → ∀ node, db.nodes.get? rn.nodeId = some node →
      plannedSourceHolds view.digests v rn node = true)
    (hstate : authorizationState v rn job op payload release = .ok ())
    (hgrant : adminGrant v op = .ok grant) :
    Admitted view db v.id rn.nodeId op payload release
      (signerRequest view v rn.nodeId job (agentSource db rn.nodeId) grant op payload release) := by
  obtain ⟨node, hnode, hruntime, hactive, hrevoked⟩ := hauth.agent
  obtain ⟨r, hr⟩ := Option.isSome_iff_exists.mp hruntime
  refine ⟨hsigner, hsigned, v, rn, node, job, hv, hrn, hnode, hjob.stored, ?_⟩
  have hsource : signerSource node = .ok (agentSource db rn.nodeId) := by
    simp [signerSource, agentSource, hr, hnode, hactive, hrevoked]
  have hplan : ¬ (op = .agentUpdate ∧ plannedSourceHolds view.digests v rn node = false) := by
    rintro ⟨hop, hfalse⟩
    rw [hplanned hop node hnode] at hfalse
    cases hfalse
  have hauthority : ¬ (job.kind ≠ .platformUpdate ∨ job.baseCommit ≠ v.baseCommit ∨
      rn.nodeId ∉ job.targets ∨ leaseHeld db v.id rn.nodeId = false) := by
    simp [hjob.kind, hjob.baseCommit, htarget, hauth.lease]
  unfold admitAuthorization
  rw [hsource]
  simp only [bind, Except.bind]
  rw [if_neg hplan, if_neg hauthority, hstate]
  simp only [hgrant]

section Operator

variable {u : UpdateRollout} {nodes : List UpdateRolloutNode} {job : Job} {reason : String}

lemma projectJob_of_stored {state : JobState} {why : Option String}
    (h : u.jobId.bind db.jobs.get? = some job) :
    projectJob db u state why now = .ok (setJob db job.id state why now) := by
  unfold projectJob
  rw [h]

def resumed (db : Database) (u : UpdateRollout) (nodes : List UpdateRolloutNode) (job : Job)
    (now : Time) : Database :=
  setNodes
    (setJob
      (setRollout db u.id (fun r => { r with state := .planned, failureReason := none }) id_planned)
      job.id .running none now)
    nodes resetNode key_resetNode

lemma mem_candidates (h : n ∈ rollbackCandidates d db u nodes now) :
    n ∈ nodes ∧ n.state = .failed := by
  obtain ⟨hn, hcandidate⟩ := List.mem_filter.mp h
  simp only [Bool.and_eq_true, decide_eq_true_eq] at hcandidate
  exact ⟨hn, hcandidate.1.1⟩

def withRollbackGrant (u : UpdateRollout) (grant : Option AdminGrant) : UpdateRollout :=
  { u with rollbackAdminGrant := grant <|> u.rollbackAdminGrant }

variable {grant : Option AdminGrant} {g : AdminGrant}

lemma get?_storeRollbackGrant (hu : db.rollouts.get? u.id = some u) :
    (storeRollbackGrant db u.id grant).rollouts.get? u.id = some (withRollbackGrant u grant) := by
  cases grant with
  | none => simpa [storeRollbackGrant, withRollbackGrant] using hu
  | some => exact get?_setRollout_self hu _ _

lemma storeRollbackGrant_eq (grant : Option AdminGrant) : storeRollbackGrant db u.id grant =
    { db with rollouts := (storeRollbackGrant db u.id grant).rollouts } := by
  cases grant <;> rfl

variable (hu : db.rollouts.get? u.id = some u) (hpaused : u.state = .paused)
  (hnodes : batchNodes view.digests db u = .ok nodes) (hjob : JobLinked db u nodes job)

include hu hpaused hnodes hjob

lemma approve_eq (hreason : reasonInvalid reason = false) :
    approveResume view.toRolloutView db u.id reason =
      if (nodes.all fun n => n.state = .failed && sourceIsUnchanged db u n view.now false) = true then
        .ok (resumed db u nodes job view.now)
      else .error (.valueError "update rollout requires rollback before approval") := by
  have hproject : projectJob
      (setRollout db u.id fun r => { r with state := .planned, failureReason := none }) u .running
        none view.now = .ok (setJob (setRollout db u.id fun r =>
          { r with state := .planned, failureReason := none }) job.id .running none view.now) :=
    projectJob_of_stored hjob.stored
  unfold approveResume rolloutOf resumed
  rw [if_neg (by simp [hreason]), hu]
  simp only [Except.bind, bind, hpaused, ne_eq, not_true_eq_false, false_and, if_false, hnodes,
    true_and, hproject]
  cases hb : nodes.all fun n => n.state = .failed && sourceIsUnchanged db u n view.now false <;> simp

lemma approve_eq_ok (hreason : reasonInvalid reason = false) :
    (∃ db', approveResume view.toRolloutView db u.id reason = .ok db') ↔
      ∀ n ∈ nodes, n.state = .failed ∧ sourceIsUnchanged db u n view.now false = true := by
  have hall : (nodes.all fun n => n.state = .failed && sourceIsUnchanged db u n view.now false) =
      true ↔ ∀ n ∈ nodes, n.state = .failed ∧ sourceIsUnchanged db u n view.now false = true := by
    simp
  rw [approve_eq hu hpaused hnodes hjob hreason, ← hall]
  split_ifs with h
  · exact ⟨fun _ => h, fun _ => ⟨_, rfl⟩⟩
  exact ⟨fun ⟨_, he⟩ => (by cases he), fun h' => absurd h' h⟩

lemma candidates_reservable {failed : List UpdateRolloutNode}
    (hwaiting : job.state = .waitingForOperator) (hready : ReservationReady view.toRolloutView db)
    (hfailed : failed = rollbackCandidates view.digests db u nodes view.now)
    (hauth : ∀ n ∈ failed, NodeAuthorizable db view.now u.id .agentRollback n.nodeId)
    (hgrant : (grant <|> u.rollbackAdminGrant) = some g) :
    Reservable view.toRolloutView u .agentRollback unboundNode (fun _ => rfl)
      (storeRollbackGrant db u.id grant) failed fun n =>
        signerRequest view.toReserveView (withRollbackGrant u grant) n job (agentSource db n) g
          .agentRollback none none := by
  subst hfailed
  have hsub : (rollbackCandidates view.digests db u nodes view.now).Sublist nodes :=
    List.filter_sublist
  rw [storeRollbackGrant_eq]
  refine ⟨(keys_nodup_of_batch hnodes).sublist (hsub.map _),
    fun n hn => (get?_of_batch hnodes (mem_candidates hn).1).1, ?_,
    fun n hn => (hauth n hn).spent, fun n _ => hready.intents n.nodeId, hready.distinctIntents⟩
  intro n hn
  obtain ⟨hmem, hstate⟩ := mem_candidates hn
  obtain ⟨hid, hrow⟩ := get?_of_batch hnodes hmem
  have hunbound : (setNodes { db with rollouts := (storeRollbackGrant db u.id grant).rollouts } [n]
      unboundNode (fun _ => rfl)).rolloutNodes.get? (u.id, n.nodeId) = some (unboundNode n) := by
    apply get?_setNodes_of_mem _ _ hrow
    rw [List.map_singleton, List.mem_singleton, key_rolloutNode, hid]
  exact @admitted_of_authorizable _ view.toReserveView (withRollbackGrant u grant) (unboundNode n)
    nodes job g .agentRollback none none (get?_storeRollbackGrant hu) hunbound
    ⟨hjob.stored, hjob.kind, hjob.baseCommit, hjob.targets⟩ (hjob.targets n hmem)
    ⟨(hauth n hn).lease, (hauth n hn).agent, (hauth n hn).spent⟩ hready.configured rfl
    (fun h => by cases h) (by simp [authorizationState, withRollbackGrant, hpaused, unboundNode,
      hstate, hwaiting]) (by simp [adminGrant, withRollbackGrant, hgrant])

omit hjob in
lemma reserveRollbacks_eq
    (hcandidates : rollbackCandidates view.digests db u nodes view.now ≠ []) :
    reserveRollbacks view.toRolloutView db u.id grant = (do
      let (reserved, db'') ← reserveNodes view.toRolloutView u .agentRollback unboundNode
        (fun _ => rfl) (storeRollbackGrant db u.id grant)
        (rollbackCandidates view.digests db u nodes view.now)
      Except.ok (u, reserved, db'')) := by
  have hpausedCandidates : pausedCandidates view.toRolloutView db u.id =
      .ok (u, rollbackCandidates view.digests db u nodes view.now) := by
    simp only [pausedCandidates, rolloutOf, hu, bind, Except.bind, hpaused, hnodes, ne_eq,
      not_true_eq_false, if_false]
    rw [if_neg hcandidates]
  unfold reserveRollbacks
  rw [hpausedCandidates]
  rfl

section

variable (hwaiting : job.state = .waitingForOperator)

include hwaiting

lemma begin_answered (hready : ReservationReady view.toRolloutView db)
    (hcandidates : rollbackCandidates view.digests db u nodes view.now ≠ [])
    (hauth : ∀ n ∈ rollbackCandidates view.digests db u nodes view.now,
      NodeAuthorizable db view.now u.id .agentRollback n.nodeId)
    (hgrant : (grant <|> u.rollbackAdminGrant) = some g)
    (hanswers : ∀ n ∈ rollbackCandidates view.digests db u nodes view.now, ∃ response,
      view.sign (signerRequest view.toReserveView (withRollbackGrant u grant) n.nodeId job
        (agentSource db n.nodeId) g .agentRollback none none) = .ok response ∧
      Answers view.digests (signerRequest view.toReserveView (withRollbackGrant u grant) n.nodeId job
        (agentSource db n.nodeId) g .agentRollback none none) response) :
    (beginRollback view db u.id grant).2 = .ok () := by
  have hreservable := candidates_reservable hu hpaused hnodes hjob hwaiting hready rfl hauth hgrant
  obtain ⟨reserved, db₁, signed, db₂, hreserve, hsign, hfinal, -, -, -, hjobs⟩ :=
    authorize_succeeds hreservable (fun h => by cases h) (fun h => by cases h) hanswers
      (fun n _ => by rw [storeRollbackGrant_eq]; exact hready.operations n.nodeId)
      hready.distinctOperations hcandidates (rollingNode view.now) (fun _ _ => rfl)
  have hproject : projectJob (setRollout db₂ u.id fun r => { r with state := .rollingBack }) u
      .running none view.now = .ok (setJob (setRollout db₂ u.id fun r =>
        { r with state := .rollingBack }) job.id .running none view.now) := by
    apply projectJob_of_stored
    change u.jobId.bind db₂.jobs.get? = _
    rw [hjobs, storeRollbackGrant_eq, hjob.stored]
  unfold beginRollback
  rw [reserveRollbacks_eq hu hpaused hnodes hcandidates, hreserve]
  simp only [hsign, hfinal, bind, Except.bind, hproject, quarantine]

lemma begin_accepted (hsigner : SignerUp view db)
    (hcandidates : rollbackCandidates view.digests db u nodes view.now ≠ [])
    (hauth : ∀ n ∈ rollbackCandidates view.digests db u nodes view.now,
      NodeAuthorizable db view.now u.id .agentRollback n.nodeId)
    (hgrant : (grant <|> u.rollbackAdminGrant).isSome = true) :
    (beginRollback view db u.id grant).2 = .ok () := by
  obtain ⟨g, hg⟩ := Option.isSome_iff_exists.mp hgrant
  exact begin_answered hu hpaused hnodes hjob hwaiting hsigner.toReservationReady hcandidates hauth hg
    fun n _ => hsigner.answers _

end

theorem both_rejected (hreason : reasonInvalid reason = false)
    (hback : ∀ n ∈ nodes, sourceBack view.digests db u view.now n = true)
    (hcandidates : rollbackCandidates view.digests db u nodes view.now = [])
    (hnot : ¬ ∀ n ∈ nodes, n.state = .failed ∧ plannedGeneration db u n = true) :
    (¬ ∃ db', approveResume view.toRolloutView db u.id reason = .ok db') ∧
      beginRollback view db u.id grant =
        (db, .error (.valueError "update rollout has no mutated node to roll back")) := by
  constructor
  · rw [approve_eq_ok hu hpaused hnodes hjob hreason]
    intro h
    apply hnot
    intro n hn
    rw [← unchanged_of_back (hback n hn)]
    exact h n hn
  simp [beginRollback, reserveRollbacks, pausedCandidates, rolloutOf, hu, bind, Except.bind,
    hpaused, hnodes, hcandidates]

end Operator

/-! ### From planned to updating -/

lemma acquired_held {g : NodeGroup} {kind : LeaseOwnerKind} {owner : Uuid}
    {grant : NodeLeaseGrant}
    (h : acquireInSession db now fence g.nodes kind owner = .ok (grant, db')) :
    GroupAt db'.leases (groupNodes g) kind owner grant.fence .held ∧
      db' = { db with leases := db'.leases } := by
  rcases acquire_cases h with ⟨rfl, hheld⟩ | ⟨hfree, -, hfence, rfl⟩
  · exact ⟨hheld, rfl⟩
  refine ⟨?_, rfl⟩
  intro n hn
  refine ⟨⟨n, kind, owner, fence, .held, now, now⟩, ?_, ⟨rfl, rfl, hfence.symm⟩, rfl⟩
  rw [get?_heldRows hfree, if_pos hn]

structure Unblocked (view₁ view₂ : CallView) (db : Database) (u : UpdateRollout)
    (nodes : List UpdateRolloutNode) : Prop where
  digests : view₂.digests = view₁.digests
  source : ∀ n ∈ nodes, sourceIsUnchanged db u n view₁.now false = true
  encodings : ∀ n ∈ nodes, ∀ s, plannedSource u n.nodeId = some s →
    view₂.digests.signerSource s = view₂.digests.source s
  agent : ∀ n ∈ nodes, ∃ node, db.nodes.get? n.nodeId = some node ∧ node.runtime.isSome = true ∧
    node.state = .active ∧ node.revokedAt = none
  quorum : u.workloads.all (quorumHolds view₁.toRolloutView db u nodes) = true
  idle : mutationIsRunning db nodes = false
  leases : ∃ grant db', acquireInSession db view₁.now view₁.fence (nodes.map (·.nodeId))
    .updateRollout u.id = .ok (grant, db')
  grant : u.updateAdminGrant.isSome = true
  spent : ∀ n ∈ nodes, Spent db view₂.now u.id n.nodeId .agentUpdate
  signer : SignerUp view₂ db
  receipt : ∃ r, view₂.withdrawal = .done r ∧ drainReceiptValid view₂.now u nodes r = true

/-- The worker takes up a planned batch that passes its preflight. -/
structure PlannedDue (view : CallView) (s : System) (u : UpdateRollout)
    (nodes : List UpdateRolloutNode) : Prop where
  row : s.db.rollouts.get? u.id = some u
  state : u.state = .planned
  batch : batchNodes view.digests s.db u = .ok nodes
  source : ∀ n ∈ nodes, sourceIsUnchanged s.db u n view.now false = true
  quorum : u.workloads.all (quorumHolds view.toRolloutView s.db u nodes) = true
  idle : mutationIsRunning s.db nodes = false
  leases : ∃ grant db', acquireInSession s.db view.now view.fence (nodes.map (·.nodeId))
    .updateRollout u.id = .ok (grant, db')

/-- The worker takes up a batch in state `withdrawing`, everything but its authority being in
order. -/
structure UpdateDue (view : CallView) (s : System) (u : UpdateRollout)
    (nodes : List UpdateRolloutNode) (job : Job) (grant : AdminGrant) : Prop where
  row : s.db.rollouts.get? u.id = some u
  state : u.state = .withdrawing
  batch : batchNodes view.digests s.db u = .ok nodes
  linked : JobLinked s.db u nodes job
  running : job.state = .running
  leases : ∃ fence, GroupAt s.db.leases (nodes.map (·.nodeId)) .updateRollout u.id fence .held
  agent : ∀ n ∈ nodes, ∃ node, s.db.nodes.get? n.nodeId = some node ∧ node.runtime.isSome = true ∧
    node.state = .active ∧ node.revokedAt = none
  planned : ∀ n ∈ nodes, ∀ node, s.db.nodes.get? n.nodeId = some node →
    plannedSourceHolds view.digests u n node = true
  spent : ∀ n ∈ nodes, Spent s.db view.now u.id n.nodeId .agentUpdate
  receipt : ∃ r, view.withdrawal = .done r ∧ drainReceiptValid view.now u nodes r = true
  grant : u.updateAdminGrant = some grant

section Planned

variable {view₁ view₂ : CallView} {u : UpdateRollout} {nodes : List UpdateRolloutNode} {job : Job}
  {grant : AdminGrant} {s : System}

lemma ready_of_unchanged (h : sourceIsUnchanged db u n now false = true) :
    sourceReady d db u now n = true := by
  unfold sourceReady
  rw [h, Bool.true_or, Bool.and_true]
  unfold sourceIsUnchanged at h
  split at h
  · next hs hr =>
    simp only [Bool.and_eq_true] at h
    simp [hr, h.1.1]
  cases h

lemma advance_planned (h : PlannedDue view₁ s u nodes) :
    ∃ db₁ fence, GroupAt db₁.leases (nodes.map (·.nodeId)) .updateRollout u.id fence .held ∧
      db₁ = { s.db with leases := db₁.leases } ∧
      advance view₁ s u.id =
        ({ s with db := setRollout db₁ u.id fun r => { r with state := .withdrawing } }, .ok ()) := by
  have hready : nodes.all (sourceReady view₁.digests s.db u view₁.now) = true :=
    List.all_eq_true.mpr fun n hn => ready_of_unchanged (h.source n hn)
  have hpreflight : executionBlockReason view₁.toRolloutView s.db u nodes = none := by
    unfold executionBlockReason
    rw [if_neg (by simp [hready]), if_neg (by simp [h.quorum])]
  obtain ⟨g, -, hg⟩ := group_of_batch h.batch
  obtain ⟨grant, db₁, hacquire⟩ := h.leases
  have hheld := acquired_held (g := g) (by rw [hg]; exact hacquire)
  refine ⟨db₁, grant.fence, ?_, hheld.2, ?_⟩
  · intro n hn
    apply hheld.1
    rw [mem_groupNodes, hg]
    exact hn
  have hsession : advanceInSession view₁.toRolloutView s.db u.id =
      .ok (setRollout db₁ u.id fun r => { r with state := .withdrawing }) := by
    simp only [advanceInSession, rolloutOf, h.row, bind, Except.bind, h.batch, h.state,
      advancePlanned, hpreflight, h.idle, Bool.false_eq_true, if_false, hacquire]
  simp only [advance, rolloutOf, h.row, bind, Except.bind, h.batch, h.state, hsession]

lemma heldLease_of_group (hnodes : batchNodes view₂.digests db u = .ok nodes)
    (h : GroupAt db.leases (nodes.map (·.nodeId)) .updateRollout u.id fence .held) :
    heldLease db u nodes = .ok () := by
  obtain ⟨g, -, hg⟩ := group_of_batch hnodes
  have howned : ownedGrantInSession db (nodes.map (·.nodeId)) .updateRollout u.id =
      .ok (some ⟨.updateRollout, u.id, fence, groupNodes g, .held⟩) := by
    rw [← hg]
    apply ownedGrant_eq_some.mpr
    refine ⟨rfl, ?_⟩
    intro n hn
    apply h
    rw [← hg]
    exact mem_groupNodes.mp hn
  simp [heldLease, batchLease, howned, bind, Except.bind]

lemma payload_of_batch (hnodes : batchNodes d db u = .ok nodes) :
    ∀ n ∈ nodes, (nodePayload u n.nodeId).isSome = true := by
  obtain ⟨-, -, -, hbound⟩ := batchNodes_eq_ok.mp hnodes
  intro n hn
  have hb := hbound n hn
  cases hp : nodePayload u n.nodeId with
  | none => simp [nodeBound, hp] at hb
  | some => rfl

section

variable (h : UpdateDue view₂ s u nodes job grant)

include h

lemma advance_reserved {db₁ : Database}
    {reserved : List (UpdateRolloutNode × ReservedUpdateAuthorization)}
    (hreserve : reserveNodes view₂.toRolloutView u .agentUpdate withdrawnNode (fun _ => rfl) s.db
      nodes = .ok (reserved, db₁)) :
    (advance view₂ s u.id).1.db = (dispatchUpdates view₂ db₁ u reserved).1 := by
  obtain ⟨fence, hheld⟩ := h.leases
  obtain ⟨r, hr, hvalid⟩ := h.receipt
  have hadvance : advance view₂ s u.id = advanceWithdrawing view₂ s u nodes := by
    simp only [advance, rolloutOf, h.row, bind, Except.bind, h.batch, h.state]
  rw [hadvance]
  simp only [advanceWithdrawing, heldLease_of_group h.batch hheld, hr, withdrawRoutes, hvalid,
    Bool.true_eq_false, if_false, hreserve]

variable (hready : ReservationReady view₂.toRolloutView s.db)

include hready

lemma updates_reservable :
    Reservable view₂.toRolloutView u .agentUpdate withdrawnNode (fun _ => rfl) s.db nodes fun n =>
      signerRequest view₂.toReserveView u n job (agentSource s.db n) grant .agentUpdate
        (nodePayload u n) (some u.releaseDigest) := by
  obtain ⟨fence, hheld⟩ := h.leases
  refine ⟨keys_nodup_of_batch h.batch, fun n hn => (get?_of_batch h.batch hn).1, ?_, h.spent,
    fun n _ => hready.intents n.nodeId, hready.distinctIntents⟩
  intro n hn
  obtain ⟨hid, hrow⟩ := get?_of_batch h.batch hn
  have hwithdrawn : (setNodes s.db [n] withdrawnNode (fun _ => rfl)).rolloutNodes.get?
      (u.id, n.nodeId) = some (withdrawnNode n) := by
    apply get?_setNodes_of_mem _ _ hrow
    rw [List.map_singleton, List.mem_singleton, key_rolloutNode, hid]
  have hlease : leaseHeld s.db u.id n.nodeId = true := by
    obtain ⟨row, hget, ⟨hkind, howner, -⟩, hstate⟩ := hheld n.nodeId (List.mem_map_of_mem hn)
    simp [leaseHeld, hget, hkind, howner, hstate]
  exact @admitted_of_authorizable _ view₂.toReserveView u (withdrawnNode n) nodes job grant
    .agentUpdate _ _ h.row hwithdrawn
    ⟨h.linked.stored, h.linked.kind, h.linked.baseCommit, h.linked.targets⟩ (h.linked.targets n hn)
    ⟨hlease, h.agent n hn, h.spent n hn⟩ hready.configured rfl (fun _ => h.planned n hn)
    (by simp [authorizationState, h.state, withdrawnNode]) (by simp [adminGrant, h.grant])

lemma advance_withdrawing
    (hanswers : ∀ n ∈ nodes, ∃ response,
      view₂.sign (signerRequest view₂.toReserveView u n.nodeId job (agentSource s.db n.nodeId) grant
        .agentUpdate (nodePayload u n.nodeId) (some u.releaseDigest)) = .ok response ∧
      Answers view₂.digests (signerRequest view₂.toReserveView u n.nodeId job
        (agentSource s.db n.nodeId) grant .agentUpdate (nodePayload u n.nodeId)
        (some u.releaseDigest)) response) :
    ((advance view₂ s u.id).1.db.rollouts.get? u.id).map (·.state) = some .updating := by
  have hjobRunning : ∀ v, s.db.rollouts.get? u.id = some v →
      ∀ job, v.jobId.bind s.db.jobs.get? = some job → job.state = .running := by
    intro v hv job' hjob'
    obtain rfl : u = v := Option.mem_unique h.row hv
    obtain rfl : job = job' := Option.mem_unique h.linked.stored hjob'
    exact h.running
  obtain ⟨reserved, db₁, signed, db₂, hreserve, hsign, hfinal, -, -, hrollouts, -⟩ :=
    authorize_succeeds (updates_reservable h hready) (fun _ => payload_of_batch h.batch)
      (fun _ => hjobRunning) hanswers (fun n _ => hready.operations n.nodeId)
      hready.distinctOperations (batchNodes_eq_ok.mp h.batch).2.1 (dispatchedNode view₂.now)
      (fun _ _ => rfl)
  rw [advance_reserved h hreserve]
  simp only [dispatchUpdates, hsign, hfinal, bind, Except.bind, quarantine]
  have hstored : db₂.rollouts.get? u.id = some u := by
    rw [hrollouts]
    exact h.row
  rw [get?_setRollout_self hstored]
  rfl

end

lemma planned_reaches_updating (s : System) (hu : s.db.rollouts.get? u.id = some u)
    (hstate : u.state = .planned) (hnodes : batchNodes view₁.digests s.db u = .ok nodes)
    (hjob : JobLinked s.db u nodes job) (hrunning : job.state = .running)
    (h : Unblocked view₁ view₂ s.db u nodes) :
    ((advance view₂ (advance view₁ s u.id).1 u.id).1.db.rollouts.get? u.id).map (·.state) =
      some .updating := by
  obtain ⟨db₁, fence, hheld, hdb₁, hfirst⟩ := advance_planned
    ⟨hu, hstate, hnodes, h.source, h.quorum, h.idle, h.leases⟩
  obtain ⟨grant, hgrant⟩ := Option.isSome_iff_exists.mp h.grant
  rw [hfirst, hdb₁]
  have hplanned : ∀ n ∈ nodes, ∀ node, s.db.nodes.get? n.nodeId = some node →
      plannedSourceHolds view₂.digests u n node = true := by
    intro n hn node hnode
    have hb := (batchNodes_eq_ok.mp hnodes).2.2.2 n hn
    have hunchanged := h.source n hn
    have hkey : node.nodeId = n.nodeId := Table.get?_key hnode
    unfold nodeBound at hb
    unfold sourceIsUnchanged at hunchanged
    unfold plannedSourceHolds
    rw [hkey]
    cases hs : plannedSource u n.nodeId with
    | none => simp [hs] at hunchanged
    | some source =>
      simp only [hs, hnode, Bool.and_eq_true, decide_eq_true_eq, Option.any_some] at hunchanged hb
      have hencoded := h.encodings n hn source hs
      rw [h.digests] at hencoded ⊢
      simp [hencoded, hb.1, hunchanged.1.2]
  -- the second call reads what the first one left: the rollout in its new state and the leases
  let v : UpdateRollout := { u with state := .withdrawing }
  let db₂ : Database := setRollout { s.db with leases := db₁.leases } u.id
    fun r => { r with state := .withdrawing }
  have hv : db₂.rollouts.get? v.id = some v :=
    @get?_setRollout_self { s.db with leases := db₁.leases } u hu _ _
  have hnodes₂ : batchNodes view₂.digests db₂ v = .ok nodes := by
    rw [h.digests, ← hnodes]
    exact batchNodes_congr rfl rfl rfl rfl
  exact @advance_withdrawing view₂ v nodes job grant { s with db := db₂ }
    ⟨hv, rfl, hnodes₂, ⟨hjob.stored, hjob.kind, hjob.baseCommit, hjob.targets⟩, hrunning,
      ⟨fence, hheld⟩, h.agent, hplanned, h.spent, h.receipt, hgrant⟩
    ⟨h.signer.configured, h.signer.intents, h.signer.operations, h.signer.distinctIntents,
      h.signer.distinctOperations⟩ fun n _ => h.signer.answers _

lemma resumed_batch (hu : db.rollouts.get? u.id = some u) (hnodes : batchNodes d db u = .ok nodes)
    (hjob : JobLinked db u nodes job) :
    ∃ u' job', (resumed db u nodes job now).rollouts.get? u.id = some u' ∧ u'.id = u.id ∧
      u'.state = .planned ∧ batchNodes d (resumed db u nodes job now) u' = .ok (nodes.map resetNode) ∧
      JobLinked (resumed db u nodes job now) u' (nodes.map resetNode) job' ∧
      job'.state = .running := by
  have hids (n : UpdateRolloutNode) : (resetNode n).nodeId = n.nodeId := by
    unfold resetNode
    split_ifs <;> rfl
  have hplace (n : UpdateRolloutNode) : (resetNode n).batchIndex = n.batchIndex ∧
      (resetNode n).nodeOrder = n.nodeOrder := by
    unfold resetNode
    split_ifs <;> exact ⟨rfl, rfl⟩
  have hbinding (n : UpdateRolloutNode) :
      (resetNode n).sourceIdentityDigest = n.sourceIdentityDigest ∧
        (resetNode n).targetArtifactDigest = n.targetArtifactDigest := by
    unfold resetNode
    split_ifs <;> exact ⟨rfl, rfl⟩
  obtain ⟨jobId, hjobId, hstored⟩ := Option.bind_eq_some_iff.mp hjob.stored
  refine ⟨{ u with state := .planned, failureReason := none },
    { job with state := .running, statusReason := none, updatedAt := now },
    get?_setRollout_self hu (fun r => { r with state := .planned, failureReason := none })
      (fun _ => rfl), rfl, rfl, ?_, ⟨?_, hjob.kind, hjob.baseCommit, ?_⟩, rfl⟩
  · apply batchNodes_setNodes _ hplace hbinding
    rw [← hnodes]
    exact batchNodes_congr rfl rfl rfl rfl
  · change u.jobId.bind (setJob db job.id .running none now).jobs.get? = _
    rw [hjobId, Option.bind_some]
    simp only [setJob, Table.get?_updateWhere, hstored, Option.map_some, decide_true, if_true]
  intro n hn
  obtain ⟨m, hm, rfl⟩ := List.mem_map.mp hn
  rw [hids]
  exact hjob.targets m hm

end Planned

/-! ### A paused rollout -/

/-- Each node failed under its planned generation, or some node is a rollback candidate and the
rollout may act on every one. -/
def Recoverable (view : CallView) (db : Database) (u : UpdateRollout)
    (nodes : List UpdateRolloutNode) (job : Job) (grant : Option AdminGrant) : Prop :=
  (∀ n ∈ nodes, n.state = .failed ∧ plannedGeneration db u n = true) ∨
  (rollbackCandidates view.digests db u nodes view.now ≠ [] ∧
    job.state = .waitingForOperator ∧ (grant <|> u.rollbackAdminGrant).isSome = true ∧
    SignerUp view db ∧
    ∀ n ∈ rollbackCandidates view.digests db u nodes view.now,
      NodeAuthorizable db view.now u.id .agentRollback n.nodeId)

/-- A paused rollout with its agents back on their sources and a way out: an operator's call is
accepted, and a resumed rollout reaches `updating`. -/
theorem paused_rollout_recovers (view : CallView) (s : System) (u : UpdateRollout)
    (nodes : List UpdateRolloutNode) (job : Job) (grant : Option AdminGrant) (reason : String)
    (hu : s.db.rollouts.get? u.id = some u) (hpaused : u.state = .paused)
    (hnodes : batchNodes view.digests s.db u = .ok nodes) (hjob : JobLinked s.db u nodes job)
    (hback : ∀ n ∈ nodes, sourceBack view.digests s.db u view.now n = true)
    (hreason : reasonInvalid reason = false)
    (hway : Recoverable view s.db u nodes job grant) :
    ((∃ db', approveResume view.toRolloutView s.db u.id reason = .ok db') ∨
      (beginRollback view s.db u.id grant).2 = .ok ()) ∧
    ∀ db', approveResume view.toRolloutView s.db u.id reason = .ok db' →
      ∃ u' nodes', db'.rollouts.get? u.id = some u' ∧ batchNodes view.digests db' u' = .ok nodes' ∧
        ∀ view₁ view₂ : CallView, view₁.digests = view.digests →
          Unblocked view₁ view₂ db' u' nodes' →
          ((advance view₂ (advance view₁ { s with db := db' } u.id).1 u.id).1.db.rollouts.get?
            u.id).map (·.state) = some .updating := by
  constructor
  · rcases hway with hplanned | ⟨hcandidates, hwaiting, hgrant, hsigner, hauth⟩
    · left
      apply (approve_eq_ok hu hpaused hnodes hjob hreason).mpr
      intro n hn
      rw [unchanged_of_back (hback n hn)]
      exact hplanned n hn
    right
    exact begin_accepted hu hpaused hnodes hjob hwaiting hsigner hcandidates hauth hgrant
  intro db' h
  rw [approve_eq hu hpaused hnodes hjob hreason] at h
  split_ifs at h
  cases h
  obtain ⟨u', job', hu', hid, hstate, hnodes', hjob', hrunning⟩ := resumed_batch hu hnodes hjob
  refine ⟨u', nodes.map resetNode, hu', hnodes', ?_⟩
  intro view₁ view₂ hdigests hunblocked
  rw [← hid] at hu' ⊢
  rw [← hdigests] at hnodes'
  exact planned_reaches_updating { s with db := resumed s.db u nodes job view.now } hu' hstate
    hnodes' hjob' hrunning hunblocked

end VonkForge.Updates
