import VonkForge.QueueDispatch

/-!
# The order of a node's queue

A running mutation comes before every queued mutation of its node as long as no operation is stored
ahead of it.
-/

namespace VonkForge.AgentJobs

open Transactions Table

def Unstarted (db : Database) : Prop :=
  ∀ id o, db.operations.get? id = some o → o.state = .queued → o.currentAttempt = 0

def Paired (db : Database) : Prop :=
  ∀ id o, db.operations.get? id = some o → o.state = .running →
    ∃ a, db.attempts.get? (id, o.currentAttempt) = some a ∧ a.state = .running

def InOrder (db : Database) : Prop :=
  ∀ id id' m x, db.operations.get? id = some m → db.operations.get? id' = some x →
    m.nodeId = x.nodeId → m.kind.mutating = true → m.state = .running →
    x.kind.mutating = true → x.state = .queued → queueOrder m < queueOrder x

/-- Every mutation that is new in `db'` comes after the mutations running on its node in `db`. -/
def ArrivesInOrder (db db' : Database) : Prop :=
  ∀ x ∈ db'.operations.rows, db.operations.get? x.id = none → x.kind.mutating = true →
    ∀ m ∈ db.operations.rows, m.nodeId = x.nodeId → m.kind.mutating = true →
      m.state = .running → queueOrder m < queueOrder x

instance (db db' : Database) : Decidable (ArrivesInOrder db db') :=
  inferInstanceAs (Decidable (∀ x ∈ db'.operations.rows, _))

section Invariants

variable {db db' mid : Database} {now : Time} {call : Call} {nodeId : NodeId} {c : AgentClaim}
  {o : StoredOperation}

lemma Settles.queueOrder {o' : StoredOperation} (h : Settles o o') :
    queueOrder o' = queueOrder o := by
  simp only [AgentJobs.queueOrder, h.createdAt, h.id]

lemma Unstarted.calm (h : Unstarted db) (hc : Calm db db') : Unstarted db' := by
  intro id o' ho' hq
  rcases hc.operation_of ho' with ⟨o, ho, hs⟩ | ⟨_, hf⟩
  · rw [hs.currentAttempt]
    exact h id o ho (hs.queued hq)
  exact hf.currentAttempt

lemma Unstarted.dispatch (h : Unstarted db) (hd : Dispatch call nodeId c db db') :
    Unstarted db' := by
  obtain ⟨mid, s, quiet, -, -, -, -, hops⟩ := hd.started
  intro id o ho hq
  rw [hops] at ho
  obtain ⟨x, hx, rfl⟩ := Option.map_eq_some_iff.mp ho
  split at hq
  · cases hq
  next hid =>
  rw [if_neg hid]
  exact h.calm quiet.toCalm id x hx hq

lemma Paired.quiet (h : Paired db) (hq : Quiet db db') : Paired db' := by
  intro id o' ho' hrun
  obtain ⟨o, ho, hs, hr⟩ := hq.toCalm.running_of ho' hrun
  obtain ⟨a, ha, hstate⟩ := h id o ho hr
  have hsame := hq.paired id o' ho' hrun o.currentAttempt
  rw [ha, Option.map_some, hstate] at hsame
  obtain ⟨a', ha', hstate'⟩ := Option.map_eq_some_iff.mp hsame
  exact ⟨a', by rw [hs.currentAttempt, ha'], hstate'⟩

lemma get?_expirePrevious_of_ne {k : Uuid × ℕ} (h : k.1 ≠ o.id) :
    (expirePrevious db o).attempts.get? k = db.attempts.get? k := by
  unfold expirePrevious
  split
  · rfl
  simp only [setAttempt, get?_updateWhere]
  cases ha : db.attempts.get? k with
  | none => rfl
  | some a =>
    have hkey : (a.operationId, a.attempt) = k := get?_key ha
    have hne : a.operationId ≠ o.id := by
      rw [← hkey] at h
      exact h
    simp [hne]

lemma Paired.dispatch (h : Paired db) (hd : Dispatch call nodeId c db db') : Paired db' := by
  obtain ⟨mid, s, quiet, -, -, -, hstarted, hops⟩ := hd.started
  have hmid := h.quiet quiet
  intro id o ho hrun
  rw [hops] at ho
  obtain ⟨x, hx, rfl⟩ := Option.map_eq_some_iff.mp ho
  by_cases hid : id = s.id
  · subst hid
    obtain ⟨_, hatts⟩ := hstarted.attempts
    simp only [if_true, startedOperation]
    rw [hatts, if_pos rfl]
    exact ⟨_, rfl, rfl⟩
  simp only [if_neg hid] at hrun ⊢
  obtain ⟨a, ha, hstate⟩ := hmid id x hx hrun
  refine ⟨a, hstarted.attempt_to ?_, hstate⟩
  rw [get?_expirePrevious_of_ne hid, ha]

lemma Paired.disposition (h : Paired db) {id : Uuid} {answer : Option RetryDisposition}
    {attempt : Option ℕ} (hr : recordDisposition db id answer attempt = .ok db') :
    Paired db' := by
  obtain ⟨op, _, hr⟩ := of_bind_ok hr
  cases hr
  intro k o ho hrun
  rw [get?_setOperation] at ho
  obtain ⟨x, hx, rfl⟩ := Option.map_eq_some_iff.mp ho
  have hstate : x.state = .running := by
    split at hrun
    · exact hrun
    exact hrun
  obtain ⟨a, ha, has⟩ := h k x hx hstate
  refine ⟨a, ?_, has⟩
  rw [← ha]
  split <;> rfl

lemma InOrder.calm (h : InOrder db) (hc : Calm db db') (harr : ArrivesInOrder db db') :
    InOrder db' := by
  intro id id' m' x' hm' hx' hnode hmut hrun hmut' hq
  obtain ⟨m, hm, hs, hr⟩ := hc.running_of hm' hrun
  rw [hs.queueOrder]
  rw [hs.nodeId] at hnode
  rw [hs.kind] at hmut
  rcases hc.operation_of hx' with ⟨x, hx, hsx⟩ | ⟨hnone, _⟩
  · rw [hsx.queueOrder]
    rw [hsx.nodeId] at hnode
    rw [hsx.kind] at hmut'
    exact h id id' m x hm hx hnode hmut hr hmut' (hsx.queued hq)
  have hid : x'.id = id' := get?_key hx'
  subst hid
  exact harr x' (mem_of_get? hx') hnone hmut' m (mem_of_get? hm) hnode hmut hr

lemma ArrivesInOrder.before_start {s : StoredOperation} (h : ArrivesInOrder db db')
    (hops : ∀ k, db'.operations.get? k = (mid.operations.get? k).map fun x =>
      if k = s.id then startedOperation (s.currentAttempt + 1) now x else x) :
    ArrivesInOrder db mid := by
  intro x hx hnone hmut m hm hnode hmm hrun
  have hx' := hops x.id
  rw [← key_operation, get?_of_mem hx, Option.map_some] at hx'
  have hlt := h _ (mem_of_get? hx')
  split at hlt <;> exact hlt hnone hmut m hm hnode hmm hrun

lemma InOrder.dispatch (h : InOrder db) (hu : Unstarted db)
    (harr : ArrivesInOrder db db') (hd : Dispatch call nodeId c db db') : InOrder db' := by
  obtain ⟨mid, s, quiet, selected, mayStart, exclusive, -, hops⟩ := hd.started
  have hmid := h.calm quiet.toCalm (harr.before_start hops)
  have humid := hu.calm quiet.toCalm
  intro id id' m' x' hm' hx' hnode hmut hrun hmut' hq
  rw [hops] at hm' hx'
  obtain ⟨m, hm, rfl⟩ := Option.map_eq_some_iff.mp hm'
  obtain ⟨x, hx, rfl⟩ := Option.map_eq_some_iff.mp hx'
  -- the queued operation is not the one that was started
  have hid' : id' ≠ s.id := by
    intro he
    simp only [if_pos he, startedOperation] at hq
    cases hq
  simp only [if_neg hid'] at hnode hmut' hq ⊢
  have hxid : x.id = id' := get?_key hx
  by_cases hid : id = s.id
  · subst hid
    rw [selected.stored] at hm
    cases hm
    simp only [if_true, startedOperation] at hnode hmut ⊢
    have hle := selected.first x (hxid ▸ hx) (hnode.symm.trans selected.onNode) hq
      (humid id' x hx hq)
    apply lt_of_le_of_ne hle
    intro he
    have hsame := congrArg (fun p => (ofLex p).2) he
    exact hid' (hxid.symm.trans hsame.symm)
  simp only [if_neg hid] at hnode hmut hrun ⊢
  exact hmid id id' m x hm hx hnode hmut hrun hmut' hq

end Invariants

/-- The step stores no mutation ahead of one that is running on its node. -/
def StoresInOrder (cfg : Config) (s : QueueState) (e : Time × QueueEvent) : Prop :=
  match queueStep cfg s e with
  | .ok (t, _) => ArrivesInOrder s.db t.db
  | .error _ => True

instance (cfg : Config) (s : QueueState) (e : Time × QueueEvent) :
    Decidable (StoresInOrder cfg s e) := by
  unfold StoresInOrder
  split <;> infer_instance

structure QueueInv (db : Database) : Prop where
  fenced : Fenced db
  exclusive : Exclusive db
  unstarted : Unstarted db
  paired : Paired db
  inOrder : InOrder db

lemma QueueInv.step {cfg : Config} {s t : QueueState} {e : Time × QueueEvent}
    {output : QueueOutput} (h : QueueInv s.db) (horder : StoresInOrder cfg s e)
    (hstep : queueStep cfg s e = .ok (t, output)) : QueueInv t.db := by
  have harr : ArrivesInOrder s.db t.db := by
    rw [StoresInOrder, hstep] at horder
    exact horder
  have heff := queueStep_effect hstep
  refine ⟨h.fenced.step heff, h.exclusive.step heff, ?_, ?_, ?_⟩
  · obtain hcalm | ⟨_, _, _, hd, -⟩ := heff.calm_or_dispatch
    · exact h.unstarted.calm hcalm
    exact h.unstarted.dispatch hd
  · generalize e.2 = event at heff
    cases heff with
    | quiet hq _ | beats hq _ | finishes hq _ _ => exact h.paired.quiet hq
    | answers hr => exact h.paired.disposition hr
    | claims hd => exact h.paired.dispatch hd
  obtain hcalm | ⟨_, _, _, hd, -⟩ := heff.calm_or_dispatch
  · exact h.inOrder.calm hcalm harr
  exact h.inOrder.dispatch h.unstarted harr hd

lemma queueInv_initial : QueueInv QueueState.initial.db where
  fenced := fenced_empty
  exclusive id id' o o' ho := by cases ho
  unstarted id o ho := by cases ho
  paired id o ho := by cases ho
  inOrder id id' m x hm := by cases hm

lemma queueInv_run (cfg : Config) {events : List (Time × QueueEvent)}
    (h : Along (queueStep cfg) (StoresInOrder cfg) .initial events) :
    QueueInv (run (queueStep cfg) .initial events).db :=
  @run_preserves_of_along _ _ _ _ (queueStep cfg) (StoresInOrder cfg) (fun s => QueueInv s.db)
    (fun _ _ _ _ hs hP hstep => hs.step hP hstep) .initial events queueInv_initial h

end VonkForge.AgentJobs
