import VonkForge.NodeLeases

/-!
# Lease groups of reconciliations and rollouts

The call sites of the lease service in `AgentReconciliationService` and `UpdateOrchestrator`.
-/

namespace VonkForge.LeaseHandoff

open NodeLeases

/-- The phases in which `_ensure_node_lease` treats a lease holder as a terminal predecessor. -/
def terminalPhase : ReconciliationPhase → Bool
  | .completed | .failed | .cancelled | .waitingForOperator => true
  | _ => false

section

variable (db : Database) (now : Time)

variable (fence : Uuid) (r : Reconciliation)

/-- A completed reconciliation whose cancellation still has to withdraw its routes. -/
def cancellationWithdrawing (p : Reconciliation) : Bool :=
  p.currentPhase = .completed &&
    match db.cancellations.get? p.id with
    | some c => c.state = .withdrawalPending
    | none => false

def markHeld (grant : NodeLeaseGrant) : Except LeaseError Database :=
  if grant.state = .held then markReleasingInSession db now grant else .ok db

def takeOver (grant : NodeLeaseGrant) : Except LeaseError (Option NodeLeaseGrant × Database) := do
  let marked ← markHeld db now grant
  let released ← releaseInSession marked { grant with state := .releasing }
  match acquireInSession released now fence r.targets.nodes .reconciliation r.id with
  | .ok (grant, db') => .ok (some grant, db')
  | .error (.conflict _) => .ok (none, released)
  | .error e => .error e

/-- The handler of `NodeLeaseConflict` in `_ensure_node_lease`. -/
def handOff : Except LeaseError (Option NodeLeaseGrant × Database) :=
  let nodes := groupNodes r.targets
  let rows := leaseRows db.leases nodes
  match (rows.map fun row => (row.ownerKind, row.ownerId, row.fence)).dedup with
  | [(LeaseOwnerKind.reconciliation, owner, held)] =>
    match db.reconciliations.get? owner with
    | none => .ok (none, db)
    | some p =>
      let anyHeld := rows.any (·.state = .held)
      if terminalPhase p.currentPhase = false then .ok (none, db)
      else if anyHeld = true ∧ cancellationWithdrawing db p = false then .ok (none, db)
      else takeOver db now fence r
        ⟨.reconciliation, owner, held, nodes, if anyHeld then .held else .releasing⟩
  | _ => .ok (none, db)

def ensureNodeLease : Except LeaseError (Option NodeLeaseGrant × Database) :=
  match ownedGrantInSession db r.targets.nodes .reconciliation r.id with
  | .ok (some grant) => .ok (if grant.state = .held then some grant else none, db)
  | .ok none =>
    match acquireInSession db now fence r.targets.nodes .reconciliation r.id with
    | .ok (grant, db') => .ok (some grant, db')
    | .error (.conflict _) => handOff db now fence r
    | .error e => .error e
  | .error (.conflict _) => handOff db now fence r
  | .error e => .error e

def releasePendingNodeLease : Except LeaseError (Bool × Database) :=
  match ownedGrantInSession db r.targets.nodes .reconciliation r.id with
  | .ok (some grant) =>
    if grant.state = .releasing then
      match releaseInSession db grant with
      | .ok db' => .ok (true, db')
      | .error (.conflict _) => .ok (false, db)
      | .error e => .error e
    else .ok (false, db)
  | .ok none => .ok (false, db)
  | .error (.conflict _) => .ok (false, db)
  | .error e => .error e

def markNodeLeaseReleasing : Except LeaseError (Bool × Database) :=
  match ownedGrantInSession db r.targets.nodes .reconciliation r.id with
  | .ok (some grant) =>
    if grant.state = .held then do
      let db' ← markReleasingInSession db now grant
      .ok (true, db')
    else .ok (false, db)
  | .ok none => .ok (false, db)
  | .error (.conflict _) => .ok (false, db)
  | .error e => .error e

end

section Tables

variable {db db' : Database} {now : Time} {fence : Uuid} {r : Reconciliation}

def LeasesOnly (db db' : Database) : Prop := ∃ leases, db' = { db with leases := leases }

lemma LeasesOnly.refl (db : Database) : LeasesOnly db db := ⟨db.leases, rfl⟩

lemma LeasesOnly.trans {mid : Database} (h : LeasesOnly db mid) (h' : LeasesOnly mid db') :
    LeasesOnly db db' := by
  obtain ⟨_, rfl⟩ := h
  obtain ⟨leases, rfl⟩ := h'
  exact ⟨leases, rfl⟩

variable {grant : NodeLeaseGrant} {taken : Option NodeLeaseGrant} {b : Bool}

lemma leasesOnly_acquire {nodes : List NodeId} {kind : LeaseOwnerKind} {owner : Uuid}
    (h : acquireInSession db now fence nodes kind owner = .ok (grant, db')) :
    LeasesOnly db db' := by
  obtain ⟨nodes, _, h⟩ := of_bind_ok h
  simp only at h
  split at h
  · cases h
    exact .refl db
  split_ifs at h
  cases h
  exact ⟨_, rfl⟩

lemma leasesOnly_mark (h : markReleasingInSession db now grant = .ok db') : LeasesOnly db db' := by
  obtain ⟨rows, _, h⟩ := of_bind_ok h
  cases h
  exact ⟨_, rfl⟩

lemma leasesOnly_release (h : releaseInSession db grant = .ok db') : LeasesOnly db db' := by
  obtain ⟨rows, _, h⟩ := of_bind_ok h
  split_ifs at h
  cases h
  exact ⟨_, rfl⟩

lemma leasesOnly_takeOver (h : takeOver db now fence r grant = .ok (taken, db')) :
    LeasesOnly db db' := by
  obtain ⟨marked, hmark, released, hrel, h⟩ := of_bind_ok₂ h
  have hmarked : LeasesOnly db marked := by
    unfold markHeld at hmark
    split_ifs at hmark
    · exact leasesOnly_mark hmark
    cases hmark
    exact .refl db
  have hreleased := hmarked.trans (leasesOnly_release hrel)
  split at h
  · next hacq =>
    cases h
    exact hreleased.trans (leasesOnly_acquire hacq)
  · cases h
    exact hreleased
  cases h

lemma leasesOnly_handOff (h : handOff db now fence r = .ok (taken, db')) : LeasesOnly db db' := by
  unfold handOff at h
  simp only at h
  split at h
  · split at h
    · cases h
      exact .refl db
    split_ifs at h
    · cases h
      exact .refl db
    · cases h
      exact .refl db
    · exact leasesOnly_takeOver h
    exact leasesOnly_takeOver h
  cases h
  exact .refl db

lemma leasesOnly_ensure (h : ensureNodeLease db now fence r = .ok (taken, db')) :
    LeasesOnly db db' := by
  unfold ensureNodeLease at h
  split at h
  · cases h
    exact .refl db
  · split at h
    · next hacq =>
      cases h
      exact leasesOnly_acquire hacq
    · exact leasesOnly_handOff h
    cases h
  · exact leasesOnly_handOff h
  cases h

lemma leasesOnly_releasePending (h : releasePendingNodeLease db r = .ok (b, db')) :
    LeasesOnly db db' := by
  unfold releasePendingNodeLease at h
  split at h
  · split_ifs at h
    · split at h
      · next hrel =>
        cases h
        exact leasesOnly_release hrel
      · cases h
        exact .refl db
      cases h
    cases h
    exact .refl db
  · cases h
    exact .refl db
  · cases h
    exact .refl db
  cases h

lemma leasesOnly_markNode (h : markNodeLeaseReleasing db now r = .ok (b, db')) :
    LeasesOnly db db' := by
  unfold markNodeLeaseReleasing at h
  split at h
  · split_ifs at h
    · obtain ⟨d, hmark, h⟩ := of_bind_ok h
      cases h
      exact leasesOnly_mark hmark
    cases h
    exact .refl db
  · cases h
    exact .refl db
  · cases h
    exact .refl db
  cases h

end Tables

variable (db : Database) (now : Time) (u : UpdateRollout)

def batchNodes : Except LeaseError NodeGroup :=
  match u.batches[u.currentBatch]? with
  | some g => .ok g
  | none => .error .unknownRow

def acquireBatch (fence : Uuid) (u : UpdateRollout) : Except LeaseError Database := do
  let g ← batchNodes u
  match acquireInSession db now fence g.nodes .updateRollout u.id with
  | .ok (_, db') => .ok db'
  | .error (.conflict _) => .ok db
  | .error e => .error e

def batchGrant (g : NodeGroup) : Except LeaseError NodeLeaseGrant := do
  match ← ownedGrantInSession db g.nodes .updateRollout u.id with
  | some grant => .ok grant
  | none => .error .leaseAbsent

def markBatchReleasing : Except LeaseError Database := do
  let g ← batchNodes u
  let grant ← batchGrant db u g
  markReleasingInSession db now grant

def reholdLeaseInSession (g : NodeGroup) : Except LeaseError Database :=
  let rows := leaseRows db.leases (groupNodes g)
  if rows.map (·.nodeId) ≠ groupNodes g ∨
      ¬ ∀ row ∈ rows, ownedBy .updateRollout u.id row = true ∧ row.state = .releasing then
    .error .leaseAbsent
  else .ok { db with leases := setLeaseState db.leases (rows.map (·.nodeId)) .held now }

def reholdBatch : Except LeaseError Database := do
  let g ← batchNodes u
  let grant ← batchGrant db u g
  if grant.state = .releasing then reholdLeaseInSession db now u g else .ok db

def moveCursor (t : Table UpdateRollout) (id : Uuid) : Table UpdateRollout :=
  t.updateWhere (fun u => decide (u.id = id)) fun u => { u with currentBatch := u.currentBatch + 1 }

def releaseBatch (accepted : Bool) : Except LeaseError Database := do
  let g ← batchNodes u
  let grant ← batchGrant db u g
  if grant.state ≠ .releasing then .error .leaseAbsent
  else
    let db' ← releaseInSession db grant
    if accepted = true ∧ u.currentBatch + 1 < u.batches.length then
      .ok { db' with rollouts := moveCursor db'.rollouts u.id }
    else .ok db'

/-- The steps of a run: plans, phases and cancellations change freely between the lease calls. -/
inductive LeaseEvent
  | enroll (node : NodeId)
  | plan (id : Uuid) (targets : NodeGroup)
  | createRollout (id : Uuid) (batches : List NodeGroup)
  | setPhase (id : Uuid) (phase : ReconciliationPhase)
  | setCancellation (id : Uuid) (state : CancellationState)
  | ensureNodeLease (now : Time) (fence : Uuid) (id : Uuid)
  | releasePendingNodeLease (id : Uuid)
  | markNodeLeaseReleasing (now : Time) (id : Uuid)
  | acquireBatch (now : Time) (fence : Uuid) (id : Uuid)
  | markBatchReleasing (now : Time) (id : Uuid)
  | reholdBatch (now : Time) (id : Uuid)
  | releaseBatch (id : Uuid) (accepted : Bool)

def load {α : Type} : Option α → Except LeaseError α
  | some a => .ok a
  | none => .error .unknownRow

def setPhase (t : Table Reconciliation) (id : Uuid) (phase : ReconciliationPhase) :
    Table Reconciliation :=
  t.updateWhere (fun r => decide (r.id = id)) fun r => { r with currentPhase := phase }

def setCancellation (t : Table ReconciliationCancellation) (c : ReconciliationCancellation) :
    Table ReconciliationCancellation :=
  (t.deleteWhere fun d => decide (d.reconciliationId = c.reconciliationId)).insertIgnore c

def leaseStep : LeaseEvent → Except LeaseError (Database × Unit)
  | .enroll node => .ok ({ db with nodes := db.nodes.insertIgnore { nodeId := node } }, ())
  | .plan id targets => do
    let ts ← load (db.reconciliations.insert { id, targets })
    .ok ({ db with reconciliations := ts }, ())
  | .createRollout id batches => do
    let ts ← load (db.rollouts.insert { id, batches })
    .ok ({ db with rollouts := ts }, ())
  | .setPhase id phase =>
    .ok ({ db with reconciliations := setPhase db.reconciliations id phase }, ())
  | .setCancellation id state =>
    .ok ({ db with
      cancellations := setCancellation db.cancellations { reconciliationId := id, state } }, ())
  | .ensureNodeLease now fence id => do
    let r ← load (db.reconciliations.get? id)
    let (_, db') ← ensureNodeLease db now fence r
    .ok (db', ())
  | .releasePendingNodeLease id => do
    let r ← load (db.reconciliations.get? id)
    let (_, db') ← releasePendingNodeLease db r
    .ok (db', ())
  | .markNodeLeaseReleasing now id => do
    let r ← load (db.reconciliations.get? id)
    let (_, db') ← markNodeLeaseReleasing db now r
    .ok (db', ())
  | .acquireBatch now fence id => do
    let u ← load (db.rollouts.get? id)
    let db' ← acquireBatch db now fence u
    .ok (db', ())
  | .markBatchReleasing now id => do
    let u ← load (db.rollouts.get? id)
    let db' ← markBatchReleasing db now u
    .ok (db', ())
  | .reholdBatch now id => do
    let u ← load (db.rollouts.get? id)
    let db' ← reholdBatch db now u
    .ok (db', ())
  | .releaseBatch id accepted => do
    let u ← load (db.rollouts.get? id)
    let db' ← releaseBatch db u accepted
    .ok (db', ())

end VonkForge.LeaseHandoff
