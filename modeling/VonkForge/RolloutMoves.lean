import VonkForge.QueueRuns
import VonkForge.RolloutRecovery

/-!
# What a call of the orchestrator does to a rollout

Every call writes the rows of one rollout only, which stays busy, goes on, keeps its place or stops.
-/

namespace VonkForge.Updates

open AgentJobs NodeLeases AgentReconciliation Table

variable {db db' db'' db₀ : Database} {d : Digests} {nodes : List UpdateRolloutNode}
  {f f' : RouteFence} {now : Time} {u u' : UpdateRollout} {n : UpdateRolloutNode} {id : Uuid}
  {A : SignerRequest → Prop}

/-! ### Other rollouts -/

/-- The rows of every other rollout stay. -/
structure OthersKept (id : Uuid) (db db' : Database) : Prop where
  rollouts : ∀ k, k ≠ id → db'.rollouts.get? k = db.rollouts.get? k
  nodes : ∀ k n, k ≠ id → db'.rolloutNodes.get? (k, n) = db.rolloutNodes.get? (k, n)

section Others

lemma OthersKept.refl (id : Uuid) (db : Database) : OthersKept id db db :=
  ⟨fun _ _ => rfl, fun _ _ _ => rfl⟩

lemma OthersKept.trans (h : OthersKept id db db') (h' : OthersKept id db' db'') :
    OthersKept id db db'' :=
  ⟨fun k hk => (h'.rollouts k hk).trans (h.rollouts k hk),
    fun k n hk => (h'.nodes k n hk).trans (h.nodes k n hk)⟩

lemma OthersKept.of_eq (hrollouts : db'.rollouts = db.rollouts)
    (hnodes : db'.rolloutNodes = db.rolloutNodes) : OthersKept id db db' :=
  ⟨fun k _ => by rw [hrollouts], fun k n _ => by rw [hnodes]⟩

lemma OthersKept.setRollout (f : UpdateRollout → UpdateRollout) (hf : ∀ u, (f u).id = u.id) :
    OthersKept id db (setRollout db id f hf) := by
  refine ⟨?_, fun _ _ _ => rfl⟩
  intro k hk
  rw [get?_setRollout]
  cases hget : db.rollouts.get? k with
  | none => rfl
  | some u =>
    have hkey : u.id = k := get?_key hget
    rw [Option.map_some, if_neg (by rw [hkey]; exact hk)]

lemma OthersKept.setNodes (hid : ∀ n ∈ nodes, n.rolloutId = id)
    (f : UpdateRolloutNode → UpdateRolloutNode) (hf : ∀ n, Keyed.key (f n) = Keyed.key n) :
    OthersKept id db (setNodes db nodes f hf) := by
  refine ⟨fun _ _ => rfl, ?_⟩
  intro k n hk
  apply get?_setNodes_of_notMem
  intro hmem
  obtain ⟨m, hm, he⟩ := List.mem_map.mp hmem
  exact hk ((congrArg Prod.fst he).symm.trans (hid m hm))

end Others

/-- The rows of rollouts stay, and the signer is asked for nothing new. -/
structure RowsKept (db db' : Database) : Prop extends Quiet db db' where
  rollouts : db'.rollouts = db.rollouts
  nodes : db'.rolloutNodes = db.rolloutNodes
  requests : ∀ j ∈ db'.intents.rows, ∃ i ∈ db.intents.rows, i.request = j.request

section Rows

lemma RowsKept.of_tables (h : Quiet db db') (hrollouts : db'.rollouts = db.rollouts)
    (hnodes : db'.rolloutNodes = db.rolloutNodes) (hintents : db'.intents = db.intents) :
    RowsKept db db' :=
  ⟨h, hrollouts, hnodes, fun j hj => ⟨j, by rwa [← hintents], rfl⟩⟩

lemma RowsKept.refl (db : Database) : RowsKept db db := .of_tables (.refl db) rfl rfl rfl

lemma RowsKept.of_intents (p : UpdateAuthorizationIntent → Bool) (state : IntentState) :
    RowsKept db { db with intents := db.intents.updateWhere p fun i => { i with state := state } } := by
  refine ⟨quiet_of_tables rfl rfl, rfl, rfl, ?_⟩
  intro j hj
  simp only [mem_updateWhere] at hj
  rcases hj with ⟨i, hi, -, rfl⟩ | ⟨hj, -⟩
  · exact ⟨i, hi, rfl⟩
  exact ⟨j, hj, rfl⟩

lemma RowsKept.trans (h : RowsKept db db') (h' : RowsKept db' db'') : RowsKept db db'' := by
  refine ⟨h.toQuiet.trans h'.toQuiet, h'.rollouts.trans h.rollouts, h'.nodes.trans h.nodes, ?_⟩
  intro j hj
  obtain ⟨i, hi, heq⟩ := h'.requests j hj
  rw [← heq]
  exact h.requests i hi

lemma RowsKept.others (h : RowsKept db db') (id : Uuid) : OthersKept id db db' :=
  .of_eq h.rollouts h.nodes

lemma rowsKept_projectJob {state : JobState} {reason : Option String}
    (h : projectJob db u state reason now = .ok db') : RowsKept db db' := by
  unfold projectJob at h
  split at h
  · cases h
  cases h
  exact .of_tables (quiet_of_tables rfl rfl) rfl rfl rfl

lemma rowsKept_closing {op : StoredOperation} {f : StoredOperation → StoredOperation}
    {hf : ∀ o, (f o).id = o.id} (hop : Quiet db (setOperation db op.id f hf))
    (hrun : ∀ o, (f o).state ≠ .running) :
    RowsKept db (setOperation (expireActiveAttempt db now op) op.id f hf) := by
  refine .of_tables (quiet_expireActiveAttempt hop hrun) ?_ ?_ ?_ <;> unfold expireActiveAttempt <;>
    split_ifs <;> rfl

lemma rowsKept_expireOperation (now : Time) (op : StoredOperation) :
    RowsKept db (expireOperation db now op) := by
  unfold expireOperation
  split
  · exact .of_tables (quiet_setOperation_state db op.id now rfl) rfl rfl rfl
  · exact rowsKept_closing (quiet_setOperation_state db op.id now rfl) fun _ => by simp
  exact .refl db

lemma quiet_setState (db : Database) (id : Uuid) {state : OperationState}
    (h : state.unfinished = false) :
    Quiet db (setOperation db id fun o => { o with state := state }) := by
  refine quiet_setOperation (fun o => ⟨rfl, rfl, rfl, rfl, rfl, ?_, ?_⟩) fun _ _ hn => hn
  all_goals
    rintro rfl
    cases h

lemma rowsKept_closeOperation (now : Time) (op : StoredOperation) :
    RowsKept db (closeOperation db now op) := by
  unfold closeOperation
  split
  · exact .of_tables (quiet_setState db op.id rfl) rfl rfl rfl
  · exact rowsKept_closing (quiet_setState db op.id rfl) fun _ => by simp
  exact .refl db

lemma rowsKept_expireOverdue (now : Time) (batch : List (UpdateRolloutNode × StoredOperation)) :
    RowsKept db (batch.foldl (expireOverdue now) db) := by
  induction batch generalizing db with
  | nil => exact .refl db
  | cons p batch ih =>
    have hstep : RowsKept db (expireOverdue now db p) := by
      unfold expireOverdue
      split
      · exact rowsKept_expireOperation now p.2
      exact .refl db
    exact hstep.trans ih

lemma RowsKept.of_leases (h : LeaseHandoff.LeasesOnly db db') : RowsKept db db' := by
  obtain ⟨leases, rfl⟩ := h
  exact .of_tables (quiet_of_tables rfl rfl) rfl rfl rfl

lemma ofLease_eq_ok {α : Type} {x : Except LeaseError α} {a : α} (h : ofLease x = .ok a) :
    x = .ok a := by
  cases x with
  | error => cases h
  | ok => simpa [ofLease] using h

lemma rowsKept_reholdBatch (h : LeaseHandoff.reholdBatch db now u = .ok db') : RowsKept db db' := by
  obtain ⟨g, -, grant, -, h⟩ := of_bind_ok₂ h
  split_ifs at h
  · unfold LeaseHandoff.reholdLeaseInSession at h
    simp only at h
    split_ifs at h
    cases h
    exact .of_leases ⟨_, rfl⟩
  cases h
  exact .refl db

lemma reserve_requests {view : ReserveView} {n : NodeId} {op : AgentOperation}
    {payload : Option NodePayload} {release : Option Digest} {r : ReservedUpdateAuthorization}
    (h : reserveUpdateAuthorization view db id n op payload release = .ok (r, db')) :
    ∀ j ∈ db'.intents.rows, (∃ i ∈ db.intents.rows, i.request = j.request) ∨
      Admitted view db id n op payload release j.request := by
  intro j hj
  obtain ⟨request, hadmitted, ⟨i, -, -, -, rfl⟩ | ⟨-, -, -, hinsert⟩⟩ := reserve_cases h
  · exact .inl ⟨j, hj, rfl⟩
  rcases (mem_insert hinsert).mp hj with hj | rfl
  · left
    unfold retireIntent at hj
    split at hj
    · exact ⟨j, hj, rfl⟩
    exact (RowsKept.of_intents _ _).requests j hj
  exact .inr hadmitted

lemma rowsKept_finalize {reserved : ReservedUpdateAuthorization} {response : SignerResponse}
    {op : Option Uuid} (h : finalizeUpdateAuthorization db now reserved response = .ok (op, db')) :
    RowsKept db db' := by
  unfold finalizeUpdateAuthorization at h
  split at h
  · cases h
  split_ifs at h
  · split at h
    · cases h
      exact .refl db
    cases h
  · cases h
    exact .of_intents _ _
  split at h
  · cases h
  obtain ⟨queued, hqueued, h⟩ := of_bind_ok h
  cases h
  have hstored : RowsKept db queued := by
    refine .of_tables (quiet_insertOperation hqueued) ?_ ?_ ?_ <;>
      unfold insertOperation at hqueued <;> split at hqueued <;> cases hqueued <;> rfl
  exact hstored.trans (.of_intents _ _)

end Rows

/-! ### The rollout of the call -/

/-- What no call of the orchestrator changes of a rollout. -/
def binding (u : UpdateRollout) : UpdateRollout :=
  { u with state := .planned, currentBatch := 0, soakUntil := none, failureReason := none }

/-- The call writes rows of one rollout only, which is `u` before it and `u'` after it, and asks the
signer for what `A` admits. -/
structure Writes (A : SignerRequest → Prop) (db db' : Database) (u u' : UpdateRollout) : Prop
    extends Calm db db' where
  others : OthersKept u.id db db'
  own : db'.rollouts.get? u.id = some u'
  bound : binding u' = binding u
  requests : ∀ j ∈ db'.intents.rows, (∃ i ∈ db.intents.rows, i.request = j.request) ∨ A j.request

section Writes

lemma Writes.refl (hu : db.rollouts.get? u.id = some u) : Writes A db db u u :=
  ⟨(Quiet.refl db).toCalm, .refl u.id db, hu, rfl, fun j hj => .inl ⟨j, hj, rfl⟩⟩

variable (h : Writes A db db' u u')

include h

lemma Writes.rowsKept (hrows : RowsKept db' db'') : Writes A db db'' u u' := by
  refine ⟨h.toCalm.trans hrows.toCalm, h.others.trans (hrows.others u.id), ?_, h.bound, ?_⟩
  · rw [hrows.rollouts]
    exact h.own
  intro j hj
  obtain ⟨i, hi, heq⟩ := hrows.requests j hj
  rw [← heq]
  exact h.requests i hi

lemma Writes.withIntents {t : Table UpdateAuthorizationIntent}
    (ht : ∀ j ∈ t.rows, (∃ i ∈ db'.intents.rows, i.request = j.request) ∨ A j.request) :
    Writes A db { db' with intents := t } u u' := by
  refine ⟨⟨h.operations, h.attempts⟩, h.others.trans (.of_eq rfl rfl), h.own, h.bound, ?_⟩
  intro j hj
  rcases ht j hj with ⟨i, hi, heq⟩ | hasked
  · rw [← heq]
    exact h.requests i hi
  exact .inr hasked

lemma Writes.setNodes (hid : ∀ n ∈ nodes, n.rolloutId = u.id)
    (f : UpdateRolloutNode → UpdateRolloutNode) (hf : ∀ n, Keyed.key (f n) = Keyed.key n) :
    Writes A db (setNodes db' nodes f hf) u u' :=
  ⟨⟨h.operations, h.attempts⟩, h.others.trans (.setNodes hid f hf), h.own, h.bound, h.requests⟩

lemma Writes.setNode (hid : n.rolloutId = u.id) (f : UpdateRolloutNode → UpdateRolloutNode)
    (hf : ∀ n, Keyed.key (f n) = Keyed.key n) : Writes A db (Updates.setNodes db' [n] f hf) u u' :=
  h.setNodes (List.forall_mem_singleton.mpr hid) f hf

lemma Writes.setRollout (f : UpdateRollout → UpdateRollout) (hf : ∀ u, (f u).id = u.id)
    (hbound : ∀ u, binding (f u) = binding u) :
    Writes A db (setRollout db' u.id f hf) u (f u') := by
  refine ⟨⟨h.operations, h.attempts⟩, h.others.trans (.setRollout f hf), ?_,
    (hbound u').trans h.bound, h.requests⟩
  have hid : u'.id = u.id := get?_key h.own
  rw [get?_setRollout, h.own, Option.map_some, if_pos hid]

end Writes

/-! ### The nodes of its batch -/

/-- Some node of the current batch is no longer pending. -/
def Stopped (db : Database) (u : UpdateRollout) : Prop :=
  ∃ n r, db.rolloutNodes.get? (u.id, n) = some r ∧ r.batchIndex = u.currentBatch ∧
    r.state ≠ .pending

def StatesKept (id : Uuid) (db db' : Database) : Prop :=
  ∀ n r, db.rolloutNodes.get? (id, n) = some r →
    ∃ r', db'.rolloutNodes.get? (id, n) = some r' ∧ r'.batchIndex = r.batchIndex ∧
      r'.state = r.state

section Nodes

variable {written : List UpdateRolloutNode} (f : UpdateRolloutNode → UpdateRolloutNode)
  (hf : ∀ n, Keyed.key (f n) = Keyed.key n)

lemma StatesKept.of_eq (h : db'.rolloutNodes = db.rolloutNodes) : StatesKept id db db' := by
  intro n r hr
  rw [h]
  exact ⟨r, hr, rfl, rfl⟩

lemma StatesKept.trans (h : StatesKept id db db') (h' : StatesKept id db' db'') :
    StatesKept id db db'' := by
  intro n r hr
  obtain ⟨r₁, hr₁, hbatch, hstate⟩ := h n r hr
  obtain ⟨r₂, hr₂, hbatch', hstate'⟩ := h' n r₁ hr₁
  exact ⟨r₂, hr₂, hbatch'.trans hbatch, hstate'.trans hstate⟩

lemma StatesKept.rowsKept (h : StatesKept id db db') (hrows : RowsKept db' db'') :
    StatesKept id db db'' :=
  h.trans (.of_eq hrows.nodes)

lemma StatesKept.setNodes (h : StatesKept id db db') (nodes : List UpdateRolloutNode)
    (hkept : ∀ n, (f n).batchIndex = n.batchIndex ∧ (f n).state = n.state) :
    StatesKept id db (setNodes db' nodes f hf) := by
  refine h.trans ?_
  intro n r hr
  rw [get?_setNodes, hr, Option.map_some]
  refine ⟨_, rfl, ?_⟩
  split_ifs
  · exact hkept r
  exact ⟨rfl, rfl⟩

lemma Stopped.kept (h : Stopped db u) (hkept : StatesKept u.id db db') (hid : u'.id = u.id)
    (hbatch : u'.currentBatch = u.currentBatch) : Stopped db' u' := by
  obtain ⟨n, r, hr, hrbatch, hstate⟩ := h
  obtain ⟨r', hr', hbatch', hstate'⟩ := hkept n r hr
  refine ⟨n, r', ?_, ?_, ?_⟩
  · rw [hid]
    exact hr'
  · rw [hbatch', hrbatch, hbatch]
  rw [hstate']
  exact hstate

variable (hnodes : batchNodes d db u = .ok nodes)

include hnodes

lemma rolloutId_of_batch :
    ∀ n ∈ nodes, n.rolloutId = u.id := fun _ hn => (get?_of_batch hnodes hn).1

lemma batchIndex_of_batch (hn : n ∈ nodes) : n.batchIndex = u.currentBatch := by
  obtain ⟨rfl, -⟩ := batchNodes_eq_ok.mp hnodes
  exact (mem_batchRows.mp hn).2.2

lemma exists_of_batch : ∃ n, n ∈ nodes :=
  List.exists_mem_of_ne_nil nodes (batchNodes_eq_ok.mp hnodes).2.1

lemma stopped_of_setNodes (hn : n ∈ nodes) (hwritten : n ∈ written)
    (hrow : ∃ r, db'.rolloutNodes.get? (u.id, n.nodeId) = some r ∧ r.batchIndex = n.batchIndex)
    (hstate : ∀ n, (f n).state ≠ .pending ∧ (f n).batchIndex = n.batchIndex) :
    Stopped (setNodes db' written f hf) u := by
  obtain ⟨hid, -⟩ := get?_of_batch hnodes hn
  obtain ⟨r, hr, hbatch⟩ := hrow
  have hkey : (u.id, n.nodeId) ∈ written.map Keyed.key := by
    rw [← hid]
    exact List.mem_map_of_mem hwritten
  refine ⟨n.nodeId, f r, get?_setNodes_of_mem f hf hr hkey, ?_, (hstate r).1⟩
  rw [(hstate r).2, hbatch, batchIndex_of_batch hnodes hn]

lemma stopped_of_batch (hkept : StatesKept u.id db db')
    (hstate : ∀ n, (f n).state ≠ .pending ∧ (f n).batchIndex = n.batchIndex) :
    Stopped (setNodes db' nodes f hf) u := by
  obtain ⟨n, hn⟩ := exists_of_batch hnodes
  obtain ⟨r, hr, hbatch, -⟩ := hkept n.nodeId n (get?_of_batch hnodes hn).2
  exact stopped_of_setNodes f hf hnodes hn hn ⟨r, hr, hbatch⟩ hstate

end Nodes

/-! ### The moves -/

/-- The routes of the batch are not withdrawn, or are restored. -/
def Inactive (f : RouteFence) (key : Uuid × ℕ) : Prop :=
  ∀ r, f.records.get? key = some r → r.state = .restored

def restStates : List RolloutState :=
  [.planned, .paused, .waitingForApproval, .compensatingWithdrawal]

/-- Where one call may take a rollout. -/
inductive Move (f f' : RouteFence) (db db' : Database) (u u' : UpdateRollout) : Prop
  | busy (state : u'.state ∉ restStates) (batch : u'.currentBatch = u.currentBatch)
  | next (state : u'.state = .planned) (batch : u'.currentBatch = u.currentBatch + 1)
  | kept (state : u'.state = u.state ∨
        u'.state ∈ [RolloutState.planned, .paused] ∧ u.state ∈ [RolloutState.planned, .paused])
      (batch : u'.currentBatch = u.currentBatch) (nodes : StatesKept u.id db db')
      (record : f'.records.get? (u.id, u.currentBatch) = f.records.get? (u.id, u.currentBatch))
  | stopped (state : u'.state ∈ [RolloutState.paused, .compensatingWithdrawal])
      (batch : u'.currentBatch = u.currentBatch) (nodes : Stopped db' u)
  | restored (state : u'.state ∈ [RolloutState.planned, .paused, .waitingForApproval])
      (batch : u'.currentBatch = u.currentBatch) (record : Inactive f' (u.id, u.currentBatch))
  | compensating (before : u.state = .compensatingWithdrawal)
      (state : u'.state ∈ [RolloutState.paused, .compensatingWithdrawal])
      (batch : u'.currentBatch = u.currentBatch) (nodes : StatesKept u.id db db')

def Moves (A : SignerRequest → Prop) (f f' : RouteFence) (db db' : Database) (u : UpdateRollout) : Prop :=
  ∃ u', Writes A db db' u u' ∧ Move f f' db db' u u'

section Session

variable {view : RolloutView}

lemma Moves.of_rowsKept (hu : db.rollouts.get? u.id = some u) (h : RowsKept db db') :
    Moves A f f db db' u :=
  ⟨u, (Writes.refl hu).rowsKept h, .kept (.inl rfl) rfl (.of_eq h.nodes) rfl⟩

variable {reason : String} {batch : List (UpdateRolloutNode × StoredOperation)}

lemma moves_pauseForIdentityLoss (hnodes : batchNodes d db u = .ok nodes)
    (hwrites : Writes A db db₀ u u) (hkept : StatesKept u.id db db₀)
    (h : pauseForIdentityLoss db₀ u nodes reason now = .ok db') : Moves A f f' db db' u := by
  have hrows := rowsKept_projectJob h
  refine ⟨_, ((hwrites.setNodes (rolloutId_of_batch hnodes) _ _).setRollout _ _
    fun _ => by rfl).rowsKept hrows, .stopped (by simp) rfl ?_⟩
  have hstopped := stopped_of_batch
    (fun n => { n with state := .failed, failureReason := some reason }) (fun _ => rfl) hnodes
    hkept fun n => ⟨by simp, rfl⟩
  exact hstopped.kept (.of_eq hrows.nodes) rfl rfl

lemma writes_failPeers (batch : List (UpdateRolloutNode × StoredOperation))
    (hbatch : ∀ p ∈ batch, p.1.rolloutId = u.id) (hwrites : Writes A db db₀ u u) :
    Writes A db (batch.foldl (failPeer now reason) db₀) u u := by
  induction batch generalizing db₀ with
  | nil => exact hwrites
  | cons p batch ih =>
    refine ih (fun q hq => hbatch q (.tail _ hq)) ?_
    exact (hwrites.rowsKept (rowsKept_closeOperation now p.2)).setNode
      (hbatch p List.mem_cons_self) _ _

lemma stopped_failPeers (batch : List (UpdateRolloutNode × StoredOperation)) (h : Stopped db u) :
    Stopped (batch.foldl (failPeer now reason) db) u := by
  induction batch generalizing db with
  | nil => exact h
  | cons p batch ih =>
    refine ih ?_
    obtain ⟨n, r, hr, hbatch, hstate⟩ := h
    have hr' : (closeOperation db now p.2).rolloutNodes.get? (u.id, n) = some r := by
      rw [(rowsKept_closeOperation now p.2).nodes]
      exact hr
    by_cases hk : (u.id, n) ∈ [p.1].map Keyed.key
    · exact ⟨n, _, get?_setNodes_of_mem _ _ hr' hk, hbatch, by simp⟩
    refine ⟨n, r, ?_, hbatch, hstate⟩
    exact (get?_setNodes_of_notMem _ _ hk).trans hr'

lemma writes_setDeadlines (batch : List (UpdateRolloutNode × StoredOperation))
    (hbatch : ∀ p ∈ batch, p.1.rolloutId = u.id) (hwrites : Writes A db db₀ u u)
    (hkept : StatesKept u.id db db₀) :
    Writes A db (batch.foldl setDeadline db₀) u u ∧
      StatesKept u.id db (batch.foldl setDeadline db₀) := by
  induction batch generalizing db₀ with
  | nil => exact ⟨hwrites, hkept⟩
  | cons p batch ih =>
    exact ih (fun q hq => hbatch q (.tail _ hq))
      (hwrites.setNode (hbatch p List.mem_cons_self) _ _)
      (hkept.setNodes _ _ _ fun _ => ⟨rfl, rfl⟩)

lemma moves_mixedActivation {sources : List UpdateRolloutNode}
    (hnodes : batchNodes d db u = .ok nodes) (hsources : sources ≠ []) (hsub : ∀ n ∈ sources, n ∈ nodes)
    (hwrites : Writes A db db₀ u u) (hkept : StatesKept u.id db db₀)
    (h : mixedActivation view db₀ u nodes sources = .ok db') : Moves A f f db db' u := by
  have hrows := rowsKept_projectJob h
  have hids := rolloutId_of_batch hnodes
  refine ⟨_, (((hwrites.setNodes (fun n hn => hids n (List.mem_of_mem_filter hn)) _ _).setNodes
    (fun n hn => hids n (hsub n hn)) _ _).setRollout _ _ fun _ => by rfl).rowsKept hrows,
    .stopped (by simp) rfl ?_⟩
  obtain ⟨n, hn⟩ := List.exists_mem_of_ne_nil sources hsources
  obtain ⟨r, hr, hbatch, -⟩ := hkept n.nodeId n (get?_of_batch hnodes (hsub n hn)).2
  have hstopped : Stopped (setNodes (failNodes db₀ (nodes.filter fun n => n.nodeId ∉
      sources.map (·.nodeId)) uncertainReason) sources fun n => { n with state := .rolledBack }) u := by
    refine stopped_of_setNodes _ _ hnodes (hsub n hn) hn ?_ fun n => ⟨by simp, rfl⟩
    unfold failNodes
    rw [get?_setNodes, hr, Option.map_some]
    refine ⟨_, rfl, ?_⟩
    split_ifs <;> exact hbatch
  exact hstopped.kept (.of_eq hrows.nodes) rfl rfl

section

variable (hu : db.rollouts.get? u.id = some u) (hrows : RowsKept db db₀)
  (hnodes : batchNodes d db u = .ok nodes) (hbatch : batch.map (·.1) = nodes)

include hu hrows hnodes hbatch

lemma moves_failBatch {failed : StoredOperation}
    (h : failBatch view db₀ u batch failed = .ok db') :
    Moves A f f db db' u := by
  have hprojected := rowsKept_projectJob h
  have hids : ∀ p ∈ batch, p.1.rolloutId = u.id := by
    intro p hp
    refine rolloutId_of_batch hnodes p.1 ?_
    rw [← hbatch]
    exact List.mem_map_of_mem hp
  have hkept : Writes A db db₀ u u := (Writes.refl hu).rowsKept hrows
  have hwrites :=
    ((writes_failPeers batch hids hkept).setRollout _ _ fun _ => by rfl).rowsKept hprojected
  have hstopped : Stopped (batch.foldl (failPeer view.now (operationReason db₀ failed)) db₀) u := by
    cases batch with
    | nil =>
      obtain ⟨n, hn⟩ := exists_of_batch hnodes
      rw [← hbatch] at hn
      cases hn
    | cons p batch =>
      refine stopped_failPeers batch ?_
      have hp : p.1 ∈ nodes := by
        rw [← hbatch]
        exact List.mem_cons_self ..
      refine stopped_of_setNodes _ _ hnodes hp (List.mem_singleton_self p.1) ⟨p.1, ?_, rfl⟩
        fun n => ⟨by simp, rfl⟩
      rw [(rowsKept_closeOperation view.now p.2).nodes, hrows.nodes]
      exact (get?_of_batch hnodes hp).2
  refine ⟨_, hwrites, ?_⟩
  split_ifs
  · exact .busy (by simp [restStates]) rfl
  exact .stopped (by simp) rfl (hstopped.kept (.of_eq hprojected.nodes) rfl rfl)

lemma moves_settleActivation (h : settleActivation view db₀ u batch = .ok db') :
    Moves A f f db db' u := by
  have hids := rolloutId_of_batch hnodes
  have hbefore : Writes A db db₀ u u := (Writes.refl hu).rowsKept hrows
  obtain ⟨hwrites, hkept⟩ := writes_setDeadlines batch
    (fun p hp => hids p.1 (hbatch ▸ List.mem_map_of_mem hp)) hbefore (.of_eq hrows.nodes)
  unfold settleActivation at h
  rw [hbatch] at h
  obtain ⟨targets, -, h⟩ := of_bind_ok h
  simp only at h
  split_ifs at h with htargets hall hsome hdeadline
  iterate 2
    · cases h
      exact ⟨_, (hwrites.setNodes hids _ _).setRollout _ _ fun _ => by rfl,
        .busy (by simp [restStates]) rfl⟩
  · exact moves_mixedActivation hnodes hsome (fun n hn => List.mem_of_mem_filter hn) hwrites hkept h
  · exact moves_pauseForIdentityLoss hnodes hwrites hkept h
  cases h
  exact ⟨u, hwrites, .kept (.inl rfl) rfl hkept rfl⟩

end

lemma map_fst_zip_operations {ops : List StoredOperation}
    (h : nodes.mapM (fun n => operationOf db n.operationId) = .ok ops) :
    (nodes.zip ops).map (·.1) = nodes := by
  apply List.map_fst_zip
  rw [length_of_mapM_ok h]

lemma moves_paused (hu : db.rollouts.get? u.id = some u) (hstate : u.state = .paused)
    (h : advancePaused view db u nodes = .ok db') : Moves A f f db db' u := by
  unfold advancePaused at h
  split_ifs at h
  · have hrows := rowsKept_projectJob h
    exact ⟨_, ((Writes.refl hu).setRollout _ _ fun _ => by rfl).rowsKept hrows,
      .kept (.inr ⟨by simp, by simp [hstate]⟩) rfl (.of_eq hrows.nodes) rfl⟩
  cases h
  exact .of_rowsKept hu (.refl db)

variable (hu : db.rollouts.get? u.id = some u)

include hu

lemma planned_writes (h : advancePlanned view db u nodes = .ok db') :
    ∃ u', Writes A db db' u u' ∧ db'.rolloutNodes = db.rolloutNodes ∧
      u'.currentBatch = u.currentBatch ∧ (u'.state = .paused ∨
        u'.state = .withdrawing ∧ mutationIsRunning db nodes = false) := by
  have hpause {reason : String} (h : pauseRollout db u reason view.now = .ok db') :
      ∃ u', Writes A db db' u u' ∧ db'.rolloutNodes = db.rolloutNodes ∧
        u'.currentBatch = u.currentBatch ∧ (u'.state = .paused ∨
          u'.state = .withdrawing ∧ mutationIsRunning db nodes = false) := by
    have hrows := rowsKept_projectJob h
    exact ⟨_, ((Writes.refl hu).setRollout _ _ fun _ => by rfl).rowsKept hrows, hrows.nodes, rfl,
      .inl rfl⟩
  unfold advancePlanned at h
  split at h
  · exact hpause h
  split_ifs at h with hidle
  · exact hpause h
  split at h
  · next hlease =>
    cases h
    have hrows := RowsKept.of_leases (LeaseHandoff.leasesOnly_acquire hlease)
    exact ⟨_, ((Writes.refl hu).rowsKept hrows).setRollout _ _ fun _ => by rfl, hrows.nodes, rfl,
      .inr ⟨rfl, by simpa using hidle⟩⟩
  · exact hpause h
  cases h

lemma moves_planned (hstate : u.state = .planned)
    (h : advancePlanned view db u nodes = .ok db') : Moves A f f db db' u := by
  obtain ⟨u', hwrites, hrows, hbatch, hpaused | ⟨hwithdrawing, -⟩⟩ := planned_writes hu h
  · exact ⟨u', hwrites, .kept (.inr ⟨by simp [hpaused], by simp [hstate]⟩) hbatch (.of_eq hrows) rfl⟩
  exact ⟨u', hwrites, .busy (by simp [hwithdrawing, restStates]) hbatch⟩

variable (hnodes : batchNodes view.digests db u = .ok nodes)

include hnodes

lemma moves_updating (h : advanceUpdating view db u nodes = .ok db') : Moves A f f db db' u := by
  obtain ⟨ops, -, ops', hops', h⟩ := of_bind_ok₂ h
  have hrows : RowsKept db ((nodes.zip ops).foldl (expireOverdue view.now) db) :=
    rowsKept_expireOverdue view.now _
  split at h
  · exact moves_failBatch hu hrows hnodes (map_fst_zip_operations hops') h
  split_ifs at h
  · exact moves_settleActivation hu hrows hnodes (map_fst_zip_operations hops') h
  cases h
  exact .of_rowsKept hu hrows

lemma moves_soaking (h : advanceSoaking view db u nodes = .ok db') : Moves A f f db db' u := by
  unfold advanceSoaking at h
  split at h
  · cases h
  split_ifs at h
  · cases h
    exact .of_rowsKept hu (.refl db)
  obtain ⟨running, -, h⟩ := of_bind_ok h
  split_ifs at h
  · cases h
    exact ⟨_, (Writes.refl hu).setRollout _ _ fun _ => by rfl, .busy (by simp [restStates]) rfl⟩
  exact moves_pauseForIdentityLoss hnodes (.refl hu) (.of_eq rfl) h

lemma moves_rollingBack (h : advanceRollingBack view db u nodes = .ok db') : Moves A f f db db' u := by
  obtain ⟨ops, -, h⟩ := of_bind_ok h
  split_ifs at h
  · exact moves_pauseForIdentityLoss hnodes (.refl hu) (.of_eq rfl) h
  · cases h
    exact ⟨_, (Writes.refl hu).setRollout _ _ fun _ => by rfl, .busy (by simp [restStates]) rfl⟩
  · exact moves_pauseForIdentityLoss hnodes (.refl hu) (.of_eq rfl) h
  cases h
  exact .of_rowsKept hu (.refl db)

lemma moves_advanceInSession (h : advanceInSession view db u.id = .ok db') : Moves A f f db db' u := by
  obtain ⟨u₁, hu₁, h⟩ := of_bind_ok h
  obtain rfl := eq_of_rolloutOf hu hu₁
  obtain ⟨nodes₁, hnodes₁, h⟩ := of_bind_ok h
  obtain rfl : nodes = nodes₁ := Except.ok.inj (hnodes.symm.trans hnodes₁)
  split at h
  · next hstate => exact moves_planned hu hstate h
  · exact moves_updating hu hnodes h
  · exact moves_soaking hu hnodes h
  · exact moves_rollingBack hu hnodes h
  · next hstate => exact moves_paused hu hstate h
  cases h
  exact .of_rowsKept hu (.refl db)

end Session

/-! ### Calls of the route boundary -/

def RecordsKept (key : Uuid × ℕ) (f f' : RouteFence) : Prop :=
  ∀ k, k ≠ key → f'.records.get? k = f.records.get? k

section Fence

variable {key : Uuid × ℕ} {α : Type}

lemma get?_setRecord (f : RouteFence) (key k : Uuid × ℕ) (state : BoundaryState) :
    (setRecord f key state).records.get? k =
      if k = key then some ⟨key.1, key.2, state⟩ else f.records.get? k := by
  have hkey : Keyed.key (⟨key.1, key.2, state⟩ : BoundaryRecord) = key := rfl
  unfold setRecord
  rw [get?_insertIgnore, get?_deleteWhere, hkey]
  cases hget : f.records.get? k with
  | none => split_ifs <;> rfl
  | some r =>
    have hr : Keyed.key r = k := get?_key hget
    by_cases hk : k = key <;> simp [Option.filter, hr, hk]

lemma RecordsKept.refl (key : Uuid × ℕ) (f : RouteFence) : RecordsKept key f f := fun _ _ => rfl

lemma recordsKept_setRecord (state : BoundaryState) : RecordsKept key f (setRecord f key state) := by
  intro k hk
  rw [get?_setRecord, if_neg hk]

lemma recordsKept_failBoundary (record : Option BoundaryState) (claimed : Bool) :
    RecordsKept key f (failBoundary f key record claimed) := by
  cases record with
  | none => cases claimed <;> exact .refl key f
  | some state => cases claimed <;> exact recordsKept_setRecord state

variable {answer : RouteAnswer α} {r : Except JobError α} {a : α}

lemma recordsKept_withdrawRoutes (h : withdrawRoutes f key answer = (f', r)) :
    RecordsKept key f f' := by
  cases answer with
  | done =>
    cases h
    exact recordsKept_setRecord .withdrawn
  | failed e record claimed =>
    cases h
    exact recordsKept_failBoundary record claimed

lemma restoreRoutes_ok (h : restoreRoutes f key answer = (f', .ok a)) :
    f'.records = (setRecord f key .restored).records := by
  cases answer with
  | done =>
    unfold restoreRoutes at h
    simp only at h
    split_ifs at h <;> cases h <;> rfl
  | failed => cases h

lemma inactive_of_restoreRoutes (h : restoreRoutes f key answer = (f', .ok a)) :
    Inactive f' key := by
  intro r hr
  rw [restoreRoutes_ok h, get?_setRecord, if_pos rfl] at hr
  cases hr
  rfl

lemma recordsKept_restoreRoutes (h : restoreRoutes f key answer = (f', r)) :
    RecordsKept key f f' := by
  cases r with
  | ok =>
    intro k hk
    rw [restoreRoutes_ok h]
    exact recordsKept_setRecord .restored k hk
  | error e =>
    cases answer with
    | done => cases h
    | failed e record claimed =>
      cases h
      exact recordsKept_failBoundary record claimed

end Fence

/-- What a reservation for a node of the rollout asks the signer for. -/
def Asks (view : ReserveView) (u : UpdateRollout) (op : AgentOperation) (r : SignerRequest) : Prop :=
  ∃ db n, db.rollouts.get? u.id = some u ∧
    (op = .agentUpdate → (nodePayload u n).isSome = true) ∧
    Admitted view db u.id n op (if op = .agentUpdate then nodePayload u n else none)
      (if op = .agentUpdate then some u.releaseDigest else none) r

structure CallMoves (A : SignerRequest → Prop) (s s' : System) (u : UpdateRollout) : Prop where
  moves : Moves A s.fence s'.fence s.db s'.db u
  records : RecordsKept (u.id, u.currentBatch) s.fence s'.fence

section Calls

variable {view : CallView} {s s' : System}

lemma CallMoves.refl (hu : s.db.rollouts.get? u.id = some u) : CallMoves A s s u :=
  ⟨.of_rowsKept hu (.refl s.db), .refl _ s.fence⟩

lemma CallMoves.of_session (h : Moves A s.fence s.fence s.db db u) :
    CallMoves A s { s with db := db } u :=
  ⟨h, .refl _ s.fence⟩

lemma CallMoves.of_fence (hu : s.db.rollouts.get? u.id = some u) (hrows : RowsKept s.db s'.db)
    (hstate : u.state ∉ restStates ∨ u.state = .compensatingWithdrawal)
    (hfence : RecordsKept (u.id, u.currentBatch) s.fence s'.fence) : CallMoves A s s' u := by
  refine ⟨⟨u, (Writes.refl hu).rowsKept hrows, ?_⟩, hfence⟩
  rcases hstate with hstate | hstate
  · exact .busy hstate rfl
  exact .compensating hstate (by simp [hstate]) rfl (.of_eq hrows.nodes)

lemma prepareRestoration_moves {marked : Bool} (hu : db.rollouts.get? u.id = some u)
    (hnodes : batchNodes view.digests db u = .ok nodes)
    (h : prepareRestoration view.toRolloutView db u nodes = .ok (marked, db')) :
    RowsKept db db' ∨ marked = false ∧ Moves A f f db db' u := by
  obtain ⟨grant, -, reason, -, h⟩ := of_bind_ok₂ h
  cases reason with
  | some =>
    right
    obtain ⟨held, hheld, paused, hpaused, h⟩ := of_bind_ok₂ h
    cases h
    have hrows := rowsKept_reholdBatch (ofLease_eq_ok hheld)
    exact ⟨rfl, moves_pauseForIdentityLoss hnodes ((Writes.refl hu).rowsKept hrows)
      (.of_eq hrows.nodes) hpaused⟩
  | none =>
    left
    obtain ⟨held, hheld, h⟩ := of_bind_ok h
    cases h
    exact .of_leases (LeaseHandoff.leasesOnly_mark (ofLease_eq_ok hheld))

variable {reserved : List (UpdateRolloutNode × ReservedUpdateAuthorization)} {u₀ : UpdateRollout}
  {signed : List (UpdateRolloutNode × ReservedUpdateAuthorization × SignerResponse)}
  {op : AgentOperation} {g : UpdateRolloutNode → UpdateRolloutNode}

section

variable (hids : ∀ n ∈ nodes, n.rolloutId = u.id) (hwrites : Writes A db db₀ u u)

include hids hwrites

lemma moves_acceptBatch (h : acceptBatch view.toRolloutView db₀ u nodes = .ok db') :
    Moves A f f' db db' u := by
  have hwritten := hwrites.setNodes hids (fun n => { n with state := .accepted }) fun _ => rfl
  unfold acceptBatch at h
  simp only at h
  split_ifs at h
  · cases h
    exact ⟨_, hwritten.setRollout _ _ fun _ => by rfl, .next rfl rfl⟩
  all_goals exact ⟨_, (hwritten.setRollout _ _ fun _ => by rfl).rowsKept (rowsKept_projectJob h),
    .busy (by simp [restStates]) rfl⟩

lemma writes_compensateNodes (h : nodes.foldlM compensateNode db₀ = .ok db') :
    Writes A db db' u u := by
  induction nodes generalizing db₀ with
  | nil =>
    cases h
    exact hwrites
  | cons n nodes ih =>
    obtain ⟨db₁, hstep, h⟩ := of_bind_ok h
    refine ih (fun m hm => hids m (.tail _ hm)) ?_ h
    unfold compensateNode at hstep
    split_ifs at hstep
    · cases hstep
      exact hwrites
    obtain ⟨op, -, hstep⟩ := of_bind_ok hstep
    cases hstep
    have hrows : RowsKept db₀ (setOperation db₀ op.id fun o => { o with state := .compensated }) :=
      .of_tables (quiet_setState db₀ op.id rfl) rfl rfl rfl
    exact (hwrites.rowsKept hrows).setNode (hids n List.mem_cons_self) _ _

lemma moves_finishRestoration (hinactive : Inactive f' (u.id, u.currentBatch))
    (h : finishRestoration view.toRolloutView db₀ u nodes = .ok db') : Moves A f f' db db' u := by
  unfold finishRestoration at h
  split at h
  · exact moves_acceptBatch hids hwrites h
  · exact ⟨_, (hwrites.setRollout _ _ fun _ => by rfl).rowsKept (rowsKept_projectJob h),
      .restored (by simp) rfl hinactive⟩
  obtain ⟨db₁, hdb₁, h⟩ := of_bind_ok h
  exact ⟨_, ((writes_compensateNodes hids hwrites hdb₁).setRollout _ _ fun _ => by rfl).rowsKept
    (rowsKept_projectJob h), .restored (by simp) rfl hinactive⟩

end

lemma moves_settleRestoration (hu : db.rollouts.get? u.id = some u)
    (hnodes : batchNodes d db u = .ok nodes) (hrows : RowsKept db db₀)
    (hinactive : Inactive f' (u.id, u.currentBatch))
    (h : settleRestoration view.toRolloutView db₀ u nodes = .ok db') : Moves A f f' db db' u := by
  have hids := rolloutId_of_batch hnodes
  have hwrites : Writes A db db₀ u u := (Writes.refl hu).rowsKept hrows
  obtain ⟨grant, -, h⟩ := of_bind_ok h
  split_ifs at h
  obtain ⟨reason, -, h⟩ := of_bind_ok h
  cases reason with
  | some reason =>
    have hprojected := rowsKept_projectJob h
    refine ⟨_, ((hwrites.setNodes hids _ _).setRollout _ _ fun _ => by rfl).rowsKept hprojected,
      .stopped (by simp) rfl ?_⟩
    have hstopped := stopped_of_batch
      (fun n => { n with state := .failed, failureReason := some reason }) (fun _ => rfl) hnodes
      (.of_eq hrows.nodes) fun n => ⟨by simp, rfl⟩
    exact hstopped.kept (.of_eq hprojected.nodes) rfl rfl
  | none =>
    obtain ⟨released, hreleased, h⟩ := of_bind_ok h
    exact moves_finishRestoration hids
      (hwrites.rowsKept (.of_leases (LeaseHandoff.leasesOnly_release (ofLease_eq_ok hreleased))))
      hinactive h

lemma moves_restoration (hu : s.db.rollouts.get? u.id = some u)
    (hnodes : batchNodes view.digests s.db u = .ok nodes) (hstate : u.state ∉ restStates) :
    CallMoves A s (advanceRestoration view s u nodes).1 u := by
  unfold advanceRestoration
  split
  · exact .refl hu
  · next db hprepare =>
    rcases prepareRestoration_moves hu hnodes hprepare with hrows | ⟨-, hmoves⟩
    · exact .of_session (.of_rowsKept hu hrows)
    exact .of_session hmoves
  next db hprepare =>
  rcases prepareRestoration_moves (f := s.fence) (A := A) hu hnodes hprepare with hrows | ⟨hfalse, -⟩
  · split
    · next fence e hrestore =>
      exact .of_fence hu hrows (.inl hstate) (recordsKept_restoreRoutes hrestore)
    next fence a hrestore =>
    split
    · exact .of_fence hu hrows (.inl hstate) (recordsKept_restoreRoutes hrestore)
    next db' hsettle =>
    exact ⟨moves_settleRestoration hu hnodes hrows (inactive_of_restoreRoutes hrestore) hsettle,
      recordsKept_restoreRoutes hrestore⟩
  cases hfalse

lemma map_fst_reserveNodes {view : RolloutView} {hg : ∀ n, Keyed.key (g n) = Keyed.key n}
    (h : reserveNodes view u op g hg db₀ nodes = .ok (reserved, db')) :
    reserved.map (·.1) = nodes := by
  induction nodes generalizing db₀ reserved with
  | nil =>
    cases h
    rfl
  | cons n nodes ih =>
    obtain ⟨⟨r, db₁⟩, -, ⟨others, db₂⟩, hrest, h⟩ := of_bind_ok₂ h
    cases h
    rw [List.map_cons, ih hrest]

lemma reserveNodes_induction (P : Database → Prop) {view : RolloutView}
    {hg : ∀ n, Keyed.key (g n) = Keyed.key n}
    (hset : ∀ n ∈ nodes, ∀ db, P db → P (setNodes db [n] g hg))
    (hstep : ∀ n ∈ nodes, ∀ db t, P db →
      (∀ j ∈ t.rows, (∃ i ∈ db.intents.rows, i.request = j.request) ∨
        Admitted view.toReserveView db u.id n.nodeId op
          (if op = .agentUpdate then nodePayload u n.nodeId else none)
          (if op = .agentUpdate then some u.releaseDigest else none) j.request) →
      P { db with intents := t })
    (hP : P db₀) (h : reserveNodes view u op g hg db₀ nodes = .ok (reserved, db')) : P db' := by
  induction nodes generalizing db₀ reserved with
  | nil =>
    cases h
    exact hP
  | cons n nodes ih =>
    obtain ⟨⟨r, db₁⟩, hreserve, ⟨others, db₂⟩, hrest, h⟩ := of_bind_ok₂ h
    cases h
    have hnext := hstep n List.mem_cons_self _ db₁.intents (hset n List.mem_cons_self db₀ hP)
      (reserve_requests hreserve)
    rw [← reserve_intents hreserve] at hnext
    exact ih (fun m hm => hset m (.tail _ hm)) (fun m hm => hstep m (.tail _ hm)) hnext hrest

lemma writes_reserveNodes {view : RolloutView} {hg : ∀ n, Keyed.key (g n) = Keyed.key n}
    (hasks : ∀ r, Asks view.toReserveView u op r → A r)
    (hids : ∀ n ∈ nodes, n.rolloutId = u.id)
    (hpayload : op = .agentUpdate → ∀ n ∈ nodes, (nodePayload u n.nodeId).isSome = true)
    (hwrites : Writes A db db₀ u u)
    (h : reserveNodes view u op g hg db₀ nodes = .ok (reserved, db')) : Writes A db db' u u := by
  refine reserveNodes_induction (Writes A db · u u) (fun n hn _ hw => hw.setNode (hids n hn) g hg) ?_
    hwrites h
  intro n hn db t hw ht
  refine hw.withIntents fun j hj => (ht j hj).imp_right fun hadmitted => hasks _ ?_
  exact ⟨db, n.nodeId, hw.own, fun hop => hpayload hop n hn, hadmitted⟩

lemma writes_finalizeNodes {g : Uuid → UpdateRolloutNode → UpdateRolloutNode}
    {hg : ∀ op n, Keyed.key (g op n) = Keyed.key n} (hids : ∀ p ∈ signed, p.1.rolloutId = u.id)
    (hwrites : Writes A db db₀ u u') (h : finalizeNodes now g hg db₀ signed = .ok db') :
    Writes A db db' u u' := by
  induction signed generalizing db₀ with
  | nil =>
    cases h
    exact hwrites
  | cons p signed ih =>
    obtain ⟨n, reserved, response⟩ := p
    obtain ⟨⟨op, db₁⟩, hfinal, h⟩ := of_bind_ok h
    cases op with
    | none => cases h
    | some =>
      refine ih (fun q hq => hids q (.tail _ hq)) ?_ h
      exact (hwrites.rowsKept (rowsKept_finalize hfinal)).setNode
        (hids _ List.mem_cons_self) _ _

lemma mem_of_signNodes (h : signNodes view reserved = .ok signed) :
    signed.map (·.1) = reserved.map (·.1) := by
  induction reserved generalizing signed with
  | nil =>
    cases h
    rfl
  | cons p reserved ih =>
    unfold signNodes at h
    rw [List.mapM_cons] at h
    obtain ⟨q, hq, rest, hrest, h⟩ := of_bind_ok₂ h
    obtain ⟨response, -, hq⟩ := of_bind_ok hq
    cases h
    cases hq
    rw [List.map_cons, List.map_cons, ih hrest]

lemma quarantine_cases (x : Except JobError Database) :
    RowsKept db (quarantine db reserved x).1 ∨ ∃ db', x = .ok db' ∧ (quarantine db reserved x).1 = db' := by
  unfold quarantine
  split
  · exact .inr ⟨_, rfl, rfl⟩
  · exact .inl (.of_intents _ _)
  exact .inl (.refl db)

lemma rolloutId_of_signed (hids : ∀ n ∈ nodes, n.rolloutId = u.id)
    (hreserved : reserved.map (·.1) = nodes) (h : signNodes view reserved = .ok signed) :
    ∀ p ∈ signed, p.1.rolloutId = u.id := by
  intro p hp
  refine hids p.1 ?_
  rw [← hreserved, ← mem_of_signNodes h]
  exact List.mem_map_of_mem hp

lemma writes_dispatchUpdates (view : CallView) (hids : ∀ n ∈ nodes, n.rolloutId = u.id)
    (hreserved : reserved.map (·.1) = nodes) (hstate : u.state ∉ restStates)
    (hwrites : Writes A db db₀ u u) :
    ∃ u', Writes A db (dispatchUpdates view db₀ u reserved).1 u u' ∧ u'.state ∉ restStates ∧
      u'.currentBatch = u.currentBatch := by
  unfold dispatchUpdates
  split
  · exact ⟨u, hwrites, hstate, rfl⟩
  next signed hsigned =>
  rcases quarantine_cases _ with hrows | ⟨db', hdb', heq⟩
  · exact ⟨u, hwrites.rowsKept hrows, hstate, rfl⟩
  obtain ⟨db₁, hfinal, hset⟩ := of_bind_ok hdb'
  rw [heq]
  cases hset
  exact ⟨_, (writes_finalizeNodes (rolloutId_of_signed hids hreserved hsigned) hwrites
    hfinal).setRollout _ _ fun _ => by rfl, by simp [restStates], rfl⟩

section

variable (hu : s.db.rollouts.get? u.id = some u)

include hu

lemma moves_withdrawing (hasks : ∀ r, Asks view.toReserveView u .agentUpdate r → A r)
    (hnodes : batchNodes view.digests s.db u = .ok nodes)
    (hstate : u.state ∉ restStates) : CallMoves A s (advanceWithdrawing view s u nodes).1 u := by
  have hfence {s' : System} (hdb : s'.db = s.db)
      (h : RecordsKept (u.id, u.currentBatch) s.fence s'.fence) : CallMoves A s s' u :=
    .of_fence hu (by rw [hdb]; exact .refl s.db) (.inl hstate) h
  unfold advanceWithdrawing
  split
  · exact .refl hu
  split
  · next fence e hwithdraw => exact hfence rfl (recordsKept_withdrawRoutes hwithdraw)
  next fence receipt hwithdraw =>
  have hrecords := recordsKept_withdrawRoutes hwithdraw
  split
  · exact hfence rfl hrecords
  split
  · exact hfence rfl hrecords
  next reserved db hreserve =>
  have hids := rolloutId_of_batch hnodes
  have hwrites := writes_reserveNodes hasks hids (fun _ => payload_of_batch hnodes) (.refl hu) hreserve
  obtain ⟨u', hwritten, hbusy, hbatch⟩ :=
    writes_dispatchUpdates view hids (map_fst_reserveNodes hreserve) hstate hwrites
  exact ⟨⟨u', hwritten, .busy hbusy hbatch⟩, hrecords⟩

lemma moves_compensation (hstate : u.state = .compensatingWithdrawal) :
    CallMoves A s (advanceCompensation view s u nodes).1 u := by
  unfold advanceCompensation
  split
  · exact .refl hu
  split
  · exact .refl hu
  split
  · next fence e hwithdraw =>
    exact .of_fence hu (.refl s.db) (.inr hstate) (recordsKept_withdrawRoutes hwithdraw)
  next fence receipt hwithdraw =>
  split
  · exact .of_fence hu (.refl s.db) (.inr hstate) (recordsKept_withdrawRoutes hwithdraw)
  next db hdb =>
  obtain ⟨held, hheld, hproject⟩ := of_bind_ok hdb
  have hrows := rowsKept_reholdBatch (ofLease_eq_ok hheld)
  have hprojected := rowsKept_projectJob hproject
  refine ⟨⟨_, (((Writes.refl hu).rowsKept hrows).setRollout _ _
    fun _ => by rfl).rowsKept hprojected, ?_⟩, recordsKept_withdrawRoutes hwithdraw⟩
  refine .compensating hstate (by simp) rfl ?_
  exact StatesKept.of_eq (hprojected.nodes.trans hrows.nodes)

lemma moves_advance (hasks : ∀ r, Asks view.toReserveView u .agentUpdate r → A r) :
    CallMoves A s (advance view s u.id).1 u := by
  unfold advance
  split
  · exact .refl hu
  next u₁ nodes hsnapshot =>
  obtain ⟨u₂, hu₂, nodes₂, hnodes, hsnapshot⟩ := of_bind_ok₂ hsnapshot
  cases hsnapshot
  obtain rfl := eq_of_rolloutOf hu hu₂
  split
  · next hstate => exact moves_compensation hu hstate
  · next hstate => exact moves_withdrawing hu hasks hnodes (by simp [hstate, restStates])
  iterate 3
    · next hstate => exact moves_restoration hu hnodes (by simp [hstate, restStates])
  split
  · exact .refl hu
  next db hdb => exact .of_session (moves_advanceInSession hu hnodes hdb)

lemma advance_planned_kept (hstate : u.state = .planned) :
    (advance view s u.id).1.fence = s.fence ∧
      ∃ u', (advance view s u.id).1.db.rollouts.get? u.id = some u' ∧
        (advance view s u.id).1.db.rolloutNodes = s.db.rolloutNodes ∧
        u'.currentBatch = u.currentBatch ∧ (u'.state = .withdrawing → ∃ nodes,
          batchNodes view.digests s.db u = .ok nodes ∧ mutationIsRunning s.db nodes = false) := by
  have hrollout : rolloutOf s.db u.id = .ok u := by
    unfold rolloutOf
    rw [hu]
  unfold advance
  cases hnodes : batchNodes view.digests s.db u with
  | error =>
    simp only [hrollout, hnodes, ok_bind]
    exact ⟨rfl, u, hu, rfl, rfl, by simp [hstate]⟩
  | ok nodes =>
    simp only [hrollout, hnodes, ok_bind, hstate]
    split
    · exact ⟨rfl, u, hu, rfl, rfl, by simp [hstate]⟩
    next db hdb =>
    unfold advanceInSession at hdb
    simp only [hrollout, hnodes, ok_bind, hstate] at hdb
    obtain ⟨u', hwrites, hrows, hbatch, hpaused | ⟨-, hidle⟩⟩ :=
      planned_writes (A := fun _ => True) hu hdb
    · exact ⟨rfl, u', hwrites.own, hrows, hbatch, by simp [hpaused]⟩
    exact ⟨rfl, u', hwrites.own, hrows, hbatch, fun _ => ⟨nodes, rfl, hidle⟩⟩

end

lemma Moves.of_paused (hwrites : Writes A db db' u u') (hkept : StatesKept u.id db db')
    (hstate : u'.state = u.state) (hbatch : u'.currentBatch = u.currentBatch) :
    Moves A f f db db' u :=
  ⟨u', hwrites, .kept (.inl hstate) hbatch hkept rfl⟩

lemma pausedCandidates_ok {view : RolloutView} (hu : db.rollouts.get? u.id = some u)
    (h : pausedCandidates view db u.id = .ok (u', nodes)) :
    u' = u ∧ u.state = .paused ∧ nodes ≠ [] ∧ ∃ batch, batchNodes view.digests db u = .ok batch ∧
      nodes = rollbackCandidates view.digests db u batch view.now := by
  obtain ⟨u₁, hu₁, h⟩ := of_bind_ok h
  obtain rfl := eq_of_rolloutOf hu hu₁
  split_ifs at h with hstate
  obtain ⟨batch, hbatch, h⟩ := of_bind_ok h
  simp only at h
  split_ifs at h with hne
  cases h
  exact ⟨rfl, not_not.mp hstate, hne, batch, hbatch, rfl⟩

lemma moves_beginRollback (hu : s.db.rollouts.get? u.id = some u)
    (hasks : ∀ r, Asks view.toReserveView u .agentRollback r → A r) :
    CallMoves A s { s with db := (beginRollback view s.db u.id none).1 } u := by
  unfold beginRollback
  split
  · exact .refl hu
  next u₁ reserved db hreserve =>
  obtain ⟨⟨u₂, failed⟩, hcandidates, hreserve⟩ := of_bind_ok hreserve
  obtain ⟨⟨reserved', db₁⟩, hreserve', hreserve⟩ := of_bind_ok hreserve
  cases hreserve
  obtain ⟨rfl, -, -, batch, hbatch, rfl⟩ := pausedCandidates_ok hu hcandidates
  have hids : ∀ n ∈ rollbackCandidates view.digests s.db u₁ batch view.now, n.rolloutId = u₁.id :=
    fun n hn => rolloutId_of_batch hbatch n (mem_candidates hn).1
  have hwritten := writes_reserveNodes hasks hids (fun hop => by cases hop) (.refl hu) hreserve'
  have hkept := reserveNodes_induction (StatesKept u₁.id s.db)
    (fun n _ _ hk => hk.setNodes unboundNode _ [n] fun _ => ⟨rfl, rfl⟩)
    (fun _ _ _ _ hk _ => hk) (.of_eq rfl) hreserve'
  split
  · exact .of_session (.of_paused hwritten hkept rfl rfl)
  next signed hsigned =>
  rcases quarantine_cases _ with hrows | ⟨db', hdb', heq⟩
  · exact .of_session (.of_paused (hwritten.rowsKept hrows) (hkept.rowsKept hrows) rfl rfl)
  obtain ⟨queued, hfinal, hproject⟩ := of_bind_ok hdb'
  rw [heq]
  have hqueued := writes_finalizeNodes (rolloutId_of_signed hids (map_fst_reserveNodes hreserve') hsigned)
    hwritten hfinal
  exact .of_session ⟨_, (hqueued.setRollout _ _ fun _ => by rfl).rowsKept (rowsKept_projectJob hproject),
    .busy (by simp [restStates]) rfl⟩

end Calls

end VonkForge.Updates
