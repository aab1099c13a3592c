import VonkForge.ReconciliationRuns

/-!
# Dispatch fenced by dependencies

Operations are enqueued for one projection each, primary ones after their dependencies.
-/

namespace VonkForge.AgentReconciliation

open AgentJobs Logged Transactions Table
open Keyed (key)

variable {db : Database} {l : Life} {row : Option ReconciliationOperation}
  {p : ReconciliationOperation} {id : Uuid}

section Rows

variable {g : GraphId} {role : ProjectionRole} {i : Uuid}

lemma RowMove.operation (h : RowMove l g role (some p) row) (hp : p.agentOperationId = some i)
    (hplanned : p.state = .planned → p.agentOperationId = none) :
    ∃ q, row = some q ∧ q.agentOperationId = some i := by
  cases h with
  | same => exact ⟨p, rfl, hp⟩
  | dispatch _ hs =>
    rw [hplanned hs] at hp
    cases hp
  | accept => exact ⟨_, rfl, hp⟩
  | fence hf => exact ⟨_, rfl, hf.operation.trans hp⟩

lemma RowMove.enqueues {q : ReconciliationOperation} (h : RowMove l g role row (some q))
    (hq : q.agentOperationId = some i) (hnew : ∀ p, row = some p → p.agentOperationId ≠ some i)
    (hrole : role = .primary) :
    ∃ n ∈ l.plan.nodes, n.operationId = g ∧ ∀ d ∈ n.dependencies, l.isAccepted d = true := by
  cases h with
  | same => exact absurd hq (hnew q rfl)
  | project _ _ _ hop =>
    rw [hop] at hq
    cases hq
  | dispatch _ _ hn => exact hn
  | @accept _ p _ _ _ _ => exact absurd hq (hnew p rfl)
  | @fence _ p _ hf => exact absurd (hf.operation.symm.trans hq) (hnew p rfl)
  | compensate => cases hrole

lemma rows_of_life (h : lifeOf db id = some l) (g : GraphId) (role : ProjectionRole) :
    l.rows g role = db.projections.get? (id, g, role) := by
  obtain ⟨r, plan, rfl, -, -, rfl⟩ := exists_row_of_life h
  rfl

end Rows

section Enqueued

variable {H : EvidenceDigest} {db' : Database} {e : ReconciliationEvent}
  {k : Option (Uuid × GraphId × ProjectionRole)}

def Dispatched (db : Database) (k : Option (Uuid × GraphId × ProjectionRole)) : Prop :=
  ∃ p, k = some (key p) ∧ db.projections.get? (key p) = some p ∧ p.agentOperationId.isSome = true

structure EnqueuedFor (db db' : Database) (o : StoredOperation) (p : ReconciliationOperation) :
    Prop where
  fresh : db.operations.get? o.id = none
  projection : db'.projections.get? (key p) = some p
  bound : p.agentOperationId = some o.id
  found : projectionOf db' o.id = some p

lemma enqueuedFor_of_new (hs : Consistent H db') {o : StoredOperation} (ho : o ∈ db'.operations.rows)
    (hnew : (db.operations.get? o.id).isNone = true) (hr : reconciles db' o.parentJobId = true) :
    ∃ p, EnqueuedFor db db' o p := by
  obtain ⟨job, hjob, hsome⟩ : ∃ job, db'.jobs.get? o.parentJobId = some job ∧
      job.reconciliationId.isSome = true := by
    unfold reconciles at hr
    cases hj : db'.jobs.get? o.parentJobId with
    | none =>
      rw [hj] at hr
      cases hr
    | some job => exact ⟨job, rfl, by simpa [hj] using hr⟩
  obtain ⟨r, hr⟩ := Option.isSome_iff_exists.mp hsome
  obtain ⟨g, role, p, hp, hid⟩ := hs.working.projected o.id o job r (get?_of_mem ho) hjob hr
  cases hfind : projectionOf db' o.id with
  | none =>
    have := List.find?_eq_none.mp hfind p (mem_of_get? hp)
    simp [hid] at this
  | some q =>
    obtain ⟨hq, hmatch⟩ := get?_of_find hfind
    exact ⟨q, by simpa using hnew, hq, by simpa using hmatch, hfind⟩

lemma mem_enqueuedWork (hs : Consistent H db') (hk : k ∈ enqueuedWork db db') :
    ∃ o p, EnqueuedFor db db' o p ∧ k = some (key p) := by
  obtain ⟨o, ho, rfl⟩ := List.mem_map.mp hk
  obtain ⟨hmem, hcond⟩ := List.mem_filter.mp ho
  simp only [Bool.and_eq_true] at hcond
  obtain ⟨p, hp⟩ := enqueuedFor_of_new hs hmem hcond.1 hcond.2
  exact ⟨o, p, hp, by rw [hp.found, Option.map_some]⟩

lemma enqueuedWork_nodup (hs : Consistent H db') : (enqueuedWork db db').Nodup := by
  refine List.Nodup.map_on ?_ (List.Nodup.filter _ (List.Nodup.of_map _ db'.operations.nodup_keys))
  intro o ho o' ho' heq
  obtain ⟨hmem, hcond⟩ := List.mem_filter.mp ho
  obtain ⟨hmem', hcond'⟩ := List.mem_filter.mp ho'
  simp only [Bool.and_eq_true] at hcond hcond'
  obtain ⟨p, hp⟩ := enqueuedFor_of_new hs hmem hcond.1 hcond.2
  obtain ⟨p', hp'⟩ := enqueuedFor_of_new hs hmem' hcond'.1 hcond'.2
  rw [hp.found, hp'.found, Option.map_some, Option.map_some] at heq
  have hkey : key p = key p' := Option.some.inj heq
  obtain rfl : p = p' := Option.mem_unique hp.projection (hkey ▸ hp'.projection)
  exact eq_of_key hmem hmem' (Option.mem_unique hp.bound hp'.bound)

lemma row_of_key (hid : p.reconciliationId = id) (hl : lifeOf db id = some l) :
    l.rows p.graphOperationId p.role = db.projections.get? (key p) := by
  rw [rows_of_life hl, ← hid]
  rfl

lemma Dispatched.step (h : Dispatched db k) (hs : Consistent H db) (ht : Transition H e db db') :
    Dispatched db' k := by
  obtain ⟨p, rfl, hp, hop⟩ := h
  obtain ⟨i, hi⟩ := Option.isSome_iff_exists.mp hop
  obtain ⟨l, hl⟩ := hs.lived _ p hp
  obtain ⟨l', hl', hstep, -⟩ := ht.steps _ l hl
  have hrow := hstep.row p.graphOperationId p.role
  rw [row_of_key rfl hl, hp] at hrow
  obtain ⟨q, hq, hqi⟩ := hrow.operation hi
    ((hs.sound _ l hl).unbound p.graphOperationId p.role p (by rw [row_of_key rfl hl, hp]))
  have hstored : db'.projections.get? (key p) = some q := by
    rw [← row_of_key rfl hl', hq]
  have hkey : key q = key p := get?_key hstored
  exact ⟨q, by rw [hkey], by rw [hkey]; exact hstored, by rw [hqi]; rfl⟩

def DependenciesAccepted (db : Database) (id : Uuid) (g : GraphId) : Prop :=
  ∃ l n, lifeOf db id = some l ∧ n ∈ l.plan.nodes ∧ n.operationId = g ∧
    ∀ d ∈ n.dependencies, l.isAccepted d = true

variable (hs : Consistent H db) (ht : Transition H e db db') (hk : k ∈ enqueuedWork db db')

include hs ht hk

lemma enqueued_fresh : ¬ Dispatched db k ∧ Dispatched db' k := by
  obtain ⟨o, p, hfor, rfl⟩ := mem_enqueuedWork ht.consistent hk
  refine ⟨?_, p, rfl, hfor.projection, by rw [hfor.bound]; rfl⟩
  rintro ⟨q, hkey, hq, hop⟩
  obtain ⟨i, hi⟩ := Option.isSome_iff_exists.mp hop
  have hkey : key p = key q := Option.some.inj hkey
  obtain ⟨l, hl⟩ := hs.lived _ q hq
  obtain ⟨l', hl', hstep, -⟩ := ht.steps _ l hl
  have hrow := hstep.row q.graphOperationId q.role
  rw [row_of_key rfl hl, row_of_key rfl hl', hq, ← hkey, hfor.projection] at hrow
  obtain ⟨p', hp', hpi⟩ := hrow.operation hi
    ((hs.sound _ l hl).unbound q.graphOperationId q.role q (by rw [row_of_key rfl hl, hq]))
  cases hp'
  -- its operation was stored before
  obtain ⟨o', job, hb⟩ := hs.working.bound _ q i hq hi
  have hid : i = o.id := Option.mem_unique hpi hfor.bound
  have hfresh := hfor.fresh
  rw [← hid, hb.operation] at hfresh
  cases hfresh

lemma enqueued_dependencies :
    ∃ id g role, k = some (id, g, role) ∧ (role = .primary → DependenciesAccepted db id g) := by
  obtain ⟨o, p, hfor, rfl⟩ := mem_enqueuedWork ht.consistent hk
  refine ⟨p.reconciliationId, p.graphOperationId, p.role, rfl, fun hrole => ?_⟩
  obtain ⟨l', hl'⟩ := ht.consistent.lived _ p hfor.projection
  have hafter : l'.rows p.graphOperationId p.role = some p :=
    (row_of_key rfl hl').trans hfor.projection
  cases hl : lifeOf db p.reconciliationId with
  | none =>
    rw [ht.born _ l' hl hl'] at hafter
    cases hafter
  | some l =>
    obtain ⟨l₂, hl₂, hstep, -⟩ := ht.steps _ l hl
    obtain rfl : l' = l₂ := Option.mem_unique hl' hl₂
    have hrow := hstep.row p.graphOperationId p.role
    rw [hafter] at hrow
    obtain ⟨n, hn, hid, hdeps⟩ := hrow.enqueues hfor.bound (by
      intro q hq hqi
      rw [row_of_key rfl hl] at hq
      obtain ⟨o', job, hb⟩ := hs.working.bound _ q o.id hq hqi
      have hfresh := hfor.fresh
      rw [hb.operation] at hfresh
      cases hfresh) hrole
    exact ⟨l, n, hl, hn, hid, hdeps⟩

end Enqueued

/-- What holds after a run of the operations that it and the next transaction enqueue, and of the
routes that the next one publishes. -/
structure DispatchFenced (H : List (GraphId × Digest × Digest) → Digest)
    (events : List ReconciliationEvent) : Prop where
  /-- Each operation is enqueued for a projection, a primary one after its dependencies. -/
  dispatched : ∀ e db' out, reconciliationCommit H (afterRun H events) e = .ok (db', out) →
    ∀ k ∈ out.enqueued, ∃ id g role, k = some (id, g, role) ∧
      (role = .primary → DependenciesAccepted (afterRun H events) id g)
  /-- Over the whole run each graph operation is enqueued once in each role at most. -/
  once : ((trace (reconciliationCommit H) {} events).flatMap fun x => x.2.enqueued).Nodup
  /-- Even a transaction that is rolled back publishes only complete accepted evidence. -/
  published : ∀ e, ∀ call ∈ (reconciliationStep H (afterRun H events) e).log,
    ∀ request, call.action = .publish request →
      PublishSound H (afterRun H events) call.caller.id request

lemma enqueued_once (H : List (GraphId × Digest × Digest) → Digest)
    (events : List ReconciliationEvent) :
    ((trace (reconciliationCommit H) {} events).flatMap fun x => x.2.enqueued).Nodup := by
  refine (@trace_outputs_pairwise _ _ _ _ (reconciliationCommit H) (Consistent H) _
    (fun x => x.2.enqueued) (fun k k' => k ≠ k') Dispatched
    (fun _ _ _ _ hs h => (reconciliationCommit_transition hs h).consistent)
    (fun _ _ _ _ _ hs h hd => hd.step hs (reconciliationCommit_transition hs h)) ?_ {}
    consistent_empty events).1
  intro s e t out hs h
  have ht := reconciliationCommit_transition hs h
  rw [(reconciliationCommit_eq_ok h).2]
  refine ⟨enqueuedWork_nodup ht.consistent, fun k hk => ?_⟩
  obtain ⟨hbefore, hafter⟩ := enqueued_fresh hs ht hk
  refine ⟨hafter, ?_⟩
  rintro k' hseen rfl
  exact hbefore hseen

theorem run_dispatch_fenced (H : List (GraphId × Digest × Digest) → Digest)
    (events : List ReconciliationEvent) : DispatchFenced H events where
  dispatched := by
    intro e db' out h k hk
    have hs := @consistent_afterRun H events
    rw [(reconciliationCommit_eq_ok h).2] at hk
    exact enqueued_dependencies hs (reconciliationCommit_transition hs h) hk
  once := enqueued_once H events
  published := by
    intro e call hcall request hrequest
    exact (reconciliationStep_ensures (consistent_afterRun events) e).1 call hcall request hrequest

end VonkForge.AgentReconciliation
