import VonkForge.AgentResults

/-!
# What the queue transactions do to operations and attempts

Outside a claim, no transaction starts an attempt.
-/

namespace VonkForge.AgentJobs

open Table

variable {a : AgentOperationAttempt} {call : Call} {cfg : Config} {db db' : Database}
  {p : ReconciliationOperation} {op : StoredOperation} {reason : String} {now : Time}
  {id jobId : Uuid} {k : Uuid × ℕ}

def Answered (o : StoredOperation) (n : ℕ) : Prop :=
  o.retryDisposition = some .retry ∧ o.retryDispositionAttempt = some n

/-- The operation keeps its work and its attempt number, and is neither queued again nor set
running. -/
structure Settles (o o' : StoredOperation) : Prop where
  id : o'.id = o.id
  nodeId : o'.nodeId = o.nodeId
  kind : o'.kind = o.kind
  createdAt : o'.createdAt = o.createdAt
  currentAttempt : o'.currentAttempt = o.currentAttempt
  queued : o'.state = .queued → o.state = .queued
  running : o'.state = .running → o.state = .running

structure Closes (a a' : AgentOperationAttempt) : Prop where
  operationId : a'.operationId = a.operationId
  attempt : a'.attempt = a.attempt
  fence : a'.fence = a.fence
  running : a'.state = .running → a.state = .running

structure Fresh (o : StoredOperation) : Prop where
  currentAttempt : o.currentAttempt = 0
  running : o.state ≠ .running

inductive OperationEffect : Option StoredOperation → Option StoredOperation → Prop
  | absent : OperationEffect none none
  | arrives {o : StoredOperation} (h : Fresh o) : OperationEffect none (some o)
  | settles {o o' : StoredOperation} (h : Settles o o') : OperationEffect (some o) (some o')

inductive AttemptEffect : Option AgentOperationAttempt → Option AgentOperationAttempt → Prop
  | absent : AttemptEffect none none
  | closes {a a' : AgentOperationAttempt} (h : Closes a a') : AttemptEffect (some a) (some a')

structure Calm (db db' : Database) : Prop where
  operations : ∀ id, OperationEffect (db.operations.get? id) (db'.operations.get? id)
  attempts : ∀ k, AttemptEffect (db.attempts.get? k) (db'.attempts.get? k)

/-- No attempt starts, the attempts of an operation that stays running keep their state, and no
operator answers an attempt. -/
structure Quiet (db db' : Database) : Prop extends Calm db db' where
  paired : ∀ id o', db'.operations.get? id = some o' → o'.state = .running →
    ∀ n, (db'.attempts.get? (id, n)).map (·.state) = (db.attempts.get? (id, n)).map (·.state)
  answered : ∀ id o' n, db'.operations.get? id = some o' → Answered o' n →
    ∃ o, db.operations.get? id = some o ∧ Answered o n

section Preorder

variable {db'' : Database} {o o' o'' : StoredOperation} {a' a'' : AgentOperationAttempt}

lemma Settles.refl (o : StoredOperation) : Settles o o :=
  ⟨rfl, rfl, rfl, rfl, rfl, fun h => h, fun h => h⟩

lemma Settles.trans (h : Settles o o') (h' : Settles o' o'') : Settles o o'' where
  id := h'.id.trans h.id
  nodeId := h'.nodeId.trans h.nodeId
  kind := h'.kind.trans h.kind
  createdAt := h'.createdAt.trans h.createdAt
  currentAttempt := h'.currentAttempt.trans h.currentAttempt
  queued hq := h.queued (h'.queued hq)
  running hr := h.running (h'.running hr)

lemma Closes.refl (a : AgentOperationAttempt) : Closes a a := ⟨rfl, rfl, rfl, fun h => h⟩

lemma Closes.trans (h : Closes a a') (h' : Closes a' a'') : Closes a a'' where
  operationId := h'.operationId.trans h.operationId
  attempt := h'.attempt.trans h.attempt
  fence := h'.fence.trans h.fence
  running hr := h.running (h'.running hr)

lemma Fresh.settles (h : Fresh o) (hs : Settles o o') : Fresh o' where
  currentAttempt := hs.currentAttempt.trans h.currentAttempt
  running hr := h.running (hs.running hr)

lemma OperationEffect.refl (x : Option StoredOperation) : OperationEffect x x := by
  cases x with
  | none => exact .absent
  | some o => exact .settles (.refl o)

lemma OperationEffect.trans {x y z : Option StoredOperation} (h : OperationEffect x y)
    (h' : OperationEffect y z) : OperationEffect x z := by
  cases h with
  | absent => exact h'
  | arrives hf =>
    cases h' with
    | settles hs => exact .arrives (hf.settles hs)
  | settles hs =>
    cases h' with
    | settles hs' => exact .settles (hs.trans hs')

lemma AttemptEffect.refl (x : Option AgentOperationAttempt) : AttemptEffect x x := by
  cases x with
  | none => exact .absent
  | some a => exact .closes (.refl a)

lemma AttemptEffect.trans {x y z : Option AgentOperationAttempt} (h : AttemptEffect x y)
    (h' : AttemptEffect y z) : AttemptEffect x z := by
  cases h with
  | absent => exact h'
  | closes hc =>
    cases h' with
    | closes hc' => exact .closes (hc.trans hc')

section

variable (h : Calm db db')

include h

lemma Calm.trans (h' : Calm db' db'') : Calm db db'' :=
  ⟨fun id => (h.operations id).trans (h'.operations id),
    fun k => (h.attempts k).trans (h'.attempts k)⟩

lemma Calm.operation_of (ho' : db'.operations.get? id = some o') :
    (∃ o, db.operations.get? id = some o ∧ Settles o o') ∨
      (db.operations.get? id = none ∧ Fresh o') := by
  have he := h.operations id
  rw [ho'] at he
  generalize hx : db.operations.get? id = x at he
  cases he with
  | arrives hf => exact .inr ⟨rfl, hf⟩
  | settles hs => exact .inl ⟨_, rfl, hs⟩

lemma Calm.operation_to (ho : db.operations.get? id = some o) :
    ∃ o', db'.operations.get? id = some o' ∧ Settles o o' := by
  have he := h.operations id
  rw [ho] at he
  generalize hx : db'.operations.get? id = x at he
  cases he with
  | settles hs => exact ⟨_, rfl, hs⟩

lemma Calm.attempt_of (ha' : db'.attempts.get? k = some a') :
    ∃ a, db.attempts.get? k = some a ∧ Closes a a' := by
  have he := h.attempts k
  rw [ha'] at he
  generalize hx : db.attempts.get? k = x at he
  cases he with
  | closes hc => exact ⟨_, rfl, hc⟩

lemma Calm.attempt_to (ha : db.attempts.get? k = some a) :
    ∃ a', db'.attempts.get? k = some a' ∧ Closes a a' := by
  have he := h.attempts k
  rw [ha] at he
  generalize hx : db'.attempts.get? k = x at he
  cases he with
  | closes hc => exact ⟨_, rfl, hc⟩

lemma Calm.running_of (ho' : db'.operations.get? id = some o') (hrun : o'.state = .running) :
    ∃ o, db.operations.get? id = some o ∧ Settles o o' ∧ o.state = .running := by
  rcases h.operation_of ho' with ⟨o, ho, hs⟩ | ⟨_, hf⟩
  · exact ⟨o, ho, hs, hs.running hrun⟩
  exact absurd hrun hf.running

end

lemma Quiet.refl (db : Database) : Quiet db db :=
  ⟨⟨fun _ => .refl _, fun _ => .refl _⟩, fun _ _ _ _ _ => rfl, fun _ o _ ho hn => ⟨o, ho, hn⟩⟩

lemma Quiet.trans (h : Quiet db db') (h' : Quiet db' db'') : Quiet db db'' where
  toCalm := h.toCalm.trans h'.toCalm
  paired := by
    intro id o ho hrun n
    obtain ⟨o', ho', _, hrun'⟩ := h'.toCalm.running_of ho hrun
    rw [h'.paired id o ho hrun n, h.paired id o' ho' hrun' n]
  answered := by
    intro id o n ho hn
    obtain ⟨o', ho', hn'⟩ := h'.answered id o n ho hn
    exact h.answered id o' n ho' hn'

lemma quiet_of_tables (ho : db'.operations = db.operations) (ha : db'.attempts = db.attempts) :
    Quiet db db' := by
  refine ⟨⟨?_, ?_⟩, ?_, ?_⟩
  · intro id
    rw [ho]
    exact .refl _
  · intro k
    rw [ha]
    exact .refl _
  · intro id o _ _ n
    rw [ha]
  intro id o n hget hn
  rw [ho] at hget
  exact ⟨o, hget, hn⟩

end Preorder

section Writes

lemma get?_setOperation (db : Database) (id : Uuid) (f : StoredOperation → StoredOperation)
    (hf : ∀ o, (f o).id = o.id) (k : Uuid) :
    (setOperation db id f hf).operations.get? k =
      (db.operations.get? k).map fun o => if k = id then f o else o := by
  simp only [setOperation, get?_updateWhere]
  cases ho : db.operations.get? k with
  | none => rfl
  | some o =>
    have hk : o.id = k := get?_key ho
    simp [hk]

variable {f : StoredOperation → StoredOperation} {n : NewOperation} {authorizer : Bool}

lemma calm_setOperation {hf : ∀ o, (f o).id = o.id} (h : ∀ o, Settles o (f o)) :
    Calm db (setOperation db id f hf) := by
  constructor
  · intro k
    rw [get?_setOperation]
    cases db.operations.get? k with
    | none => exact .absent
    | some o =>
      split
      · exact .settles (h o)
      exact .refl _
  intro k
  exact .refl _

lemma quiet_setOperation {hf : ∀ o, (f o).id = o.id} (h : ∀ o, Settles o (f o))
    (hans : ∀ o n, Answered (f o) n → Answered o n) :
    Quiet db (setOperation db id f hf) := by
  refine ⟨calm_setOperation h, fun _ _ _ _ _ => rfl, ?_⟩
  intro k o' n ho' hn
  rw [get?_setOperation] at ho'
  obtain ⟨o, ho, rfl⟩ := Option.map_eq_some_iff.mp ho'
  refine ⟨o, ho, ?_⟩
  split at hn
  · exact hans o n hn
  exact hn

lemma quiet_setAttempt {n : ℕ} {f : AgentOperationAttempt → AgentOperationAttempt}
    {hf : ∀ a, ((f a).operationId, (f a).attempt) = (a.operationId, a.attempt)}
    (h : ∀ a, Closes a (f a)) (hstate : (∀ a, (f a).state = a.state) ∨
      ∀ o, db.operations.get? id = some o → o.state ≠ .running) :
    Quiet db (setAttempt db id n f hf) := by
  refine ⟨⟨fun k => .refl _, ?_⟩, ?_, fun k o n ho hn => ⟨o, ho, hn⟩⟩
  · intro k
    simp only [setAttempt, get?_updateWhere]
    cases db.attempts.get? k with
    | none => exact .absent
    | some a =>
      simp only [Option.map_some]
      split
      · exact .closes (h a)
      exact .refl _
  intro k o ho hrun m
  simp only [setAttempt, get?_updateWhere, Option.map_map]
  cases ha : db.attempts.get? (k, m) with
  | none => rfl
  | some a =>
    simp only [Option.map_some, Function.comp]
    split
    · next hp =>
      have hkey : (a.operationId, a.attempt) = (k, m) := get?_key ha
      cases hkey
      simp only [decide_eq_true_eq] at hp
      rcases hstate with hs | hidle
      · rw [hs a]
      exact absurd hrun (hidle o (hp.1 ▸ ho))
    rfl

lemma quiet_setProjection (p : ReconciliationOperation) (state : ProjectionState) :
    Quiet db (setProjection db p state) := quiet_of_tables rfl rfl

lemma quiet_setJob (id : Uuid) (state : JobState) (reason : Option String) :
    Quiet db (setJob db id state reason now) := quiet_of_tables rfl rfl

lemma quiet_setReconciliation (id : Uuid) (phase : ReconciliationPhase)
    (status : ReconciliationStatus) (reason : Option String) :
    Quiet db (setReconciliation db id phase status reason) := quiet_of_tables rfl rfl

lemma quiet_setOperation_state (db : Database) (id : Uuid) (now : Time) {state : OperationState}
    (h : state.unfinished = false) :
    Quiet db (setOperation db id fun o => { o with state := state, updatedAt := now }) := by
  apply quiet_setOperation
  · intro o
    refine ⟨rfl, rfl, rfl, rfl, rfl, ?_, ?_⟩
    all_goals
      intro hs
      subst hs
      cases h
  intro o n hn
  exact hn

lemma quiet_close {n : ℕ} {hf : ∀ o, (f o).id = o.id}
    {g : AgentOperationAttempt → AgentOperationAttempt} (hop : Quiet db (setOperation db id f hf))
    (hrun : ∀ o, (f o).state ≠ .running) (hat : ∀ a, Closes a (g a))
    (hg : ∀ a, ((g a).operationId, (g a).attempt) = (a.operationId, a.attempt) := by
      intro _; rfl) :
    Quiet db (setAttempt (setOperation db id f hf) id n g hg) := by
  refine hop.trans (quiet_setAttempt hat (.inr ?_))
  intro o ho
  rw [get?_setOperation] at ho
  obtain ⟨x, _, rfl⟩ := Option.map_eq_some_iff.mp ho
  simpa using hrun x

lemma closes_state (a : AgentOperationAttempt) {state : AttemptState} (h : state ≠ .running) :
    Closes a { a with state := state } :=
  ⟨rfl, rfl, rfl, fun hr => absurd hr h⟩

lemma quiet_parkOperation (now : Time) (id : Uuid) : Quiet db (parkOperation db now id) := by
  apply quiet_setOperation
  · intro o
    exact ⟨rfl, rfl, rfl, rfl, rfl, fun hq => (by cases hq), fun hr => (by cases hr)⟩
  intro o n hn
  cases hn.1

lemma quiet_insertOperation (h : insertOperation db now n = .ok db') : Quiet db db' := by
  unfold insertOperation at h
  split at h
  · next operations hi =>
    cases h
    refine ⟨⟨?_, fun k => .refl _⟩, fun _ _ _ _ _ => rfl, ?_⟩
    · intro k
      simp only [get?_insert hi]
      split
      · next hk =>
        rw [hk, (insert_eq_some.mp hi).1]
        exact .arrives ⟨rfl, fun hr => by cases hr⟩
      exact .refl _
    intro k o m ho hm
    simp only [get?_insert hi] at ho
    split at ho
    · cases ho
      cases hm.1
    exact ⟨o, ho, hm⟩
  cases h

lemma insertOperation_of_enqueue (h : enqueueInSession db now n authorizer = .ok db') :
    insertOperation db now n = .ok db' := by
  unfold enqueueInSession at h
  simp only at h
  -- every check but the last raises
  repeat' split at h
  all_goals first
    | cases h
    | exact h

lemma quiet_enqueueInSession (h : enqueueInSession db now n authorizer = .ok db') : Quiet db db' :=
  quiet_insertOperation (insertOperation_of_enqueue h)

end Writes

section Quiesce

lemma unfinished_quiescedOperation (uncertain : Bool) :
    (quiescedOperation uncertain).unfinished = false := by
  cases uncertain <;> rfl

lemma quiescedAttempt_ne (uncertain : Bool) : quiescedAttempt uncertain ≠ .running := by
  cases uncertain <;> simp [quiescedAttempt]

lemma OperationState.ne_running {state : OperationState} (h : state.unfinished = false) :
    state ≠ .running := by
  rintro rfl
  cases h

lemma quiet_close_state (db : Database) (id : Uuid) (n : ℕ) (now : Time)
    {state : OperationState} {attempt : AttemptState} (h : state.unfinished = false)
    (ha : attempt ≠ .running) :
    Quiet db (setAttempt (setOperation db id fun o => { o with state := state, updatedAt := now })
      id n fun a => { a with state := attempt }) :=
  quiet_close (quiet_setOperation_state db id now h) (fun _ => OperationState.ne_running h)
    (fun a => closes_state a ha)

lemma quiet_quiesceOperation {uncertain : Bool}
    (h : quiesceOperation db now p op uncertain = .ok db') : Quiet db db' := by
  unfold quiesceOperation at h
  split at h
  · cases h
    have hop := @quiet_setOperation_state db op.id now .failed rfl
    exact hop.trans (quiet_setProjection _ _)
  · split at h
    · cases h
    split at h
    · cases h
    cases h
    have hclose := quiet_close_state db op.id op.currentAttempt now
      (unfinished_quiescedOperation uncertain) (quiescedAttempt_ne uncertain)
    exact hclose.trans (quiet_setProjection _ _)
  cases h
  exact .refl db

lemma quiet_quiesceProjection (h : quiesceProjection now db p = .ok db') : Quiet db db' := by
  unfold quiesceProjection at h
  split at h
  · cases h
    exact quiet_setProjection _ _
  split at h
  · cases h
    exact .refl db
  split at h
  · cases h
  exact quiet_quiesceOperation h

lemma quiet_quiesceProjections {rows : List ReconciliationOperation}
    (h : rows.foldlM (quiesceProjection now) db = .ok db') : Quiet db db' :=
  foldlM_ok_rel Quiet.refl (fun _ _ _ => Quiet.trans) (fun _ _ _ => quiet_quiesceProjection) h

lemma quiet_aggregateParent (h : aggregateParent db now jobId = .ok db') : Quiet db db' := by
  unfold aggregateParent at h
  split at h
  · cases h
  split at h
  · cases h
    exact .refl db
  simp only at h
  split at h
  · cases h
    exact .refl db
  cases h
  exact quiet_setJob _ _ _

lemma negotiateImplementation_eq {node : AgentNode} {certificate : AgentCertificate}
    {advertised : Option AgentImplementation} {protocolVersion : Option ℕ}
    {capabilities : Option (List Capability)}
    (h : negotiateImplementation db now node certificate advertised protocolVersion capabilities =
      .ok db') :
    ∃ nodes certificates, db' = { db with nodes := nodes, certificates := certificates } := by
  unfold negotiateImplementation at h
  simp only at h
  repeat' split at h
  all_goals cases h <;> exact ⟨_, _, rfl⟩

lemma quiet_loseReconciliation (h : loseReconciliation db now id jobId reason = .ok db') :
    Quiet db db' := by
  obtain ⟨d, hd, h⟩ := of_bind_ok h
  cases h
  have hq := quiet_quiesceProjections hd
  exact (hq.trans (quiet_setReconciliation _ _ _ _)).trans (quiet_setJob _ _ _)

end Quiesce

section Claims

lemma claimHasAuthority_effect {authority : Bool}
    (h : claimHasAuthority call db op = .ok (authority, db')) :
    Quiet db db' ∧ (authority = true →
      db'.operations = db.operations ∧ db'.attempts = db.attempts) := by
  unfold claimHasAuthority at h
  split at h
  · cases h
  split at h
  · repeat' split at h
    all_goals
      cases h
      exact ⟨quiet_of_tables rfl rfl, fun _ => ⟨rfl, rfl⟩⟩
  split at h
  · split at h
    · cases h
      exact ⟨.refl db, fun _ => ⟨rfl, rfl⟩⟩
    obtain ⟨d, hd, h⟩ := of_bind_ok h
    cases h
    exact ⟨quiet_loseReconciliation hd, fun hf => by cases hf⟩
  cases h

/-- The operation was selected: it is stored, eligible, and the first of the queued ones. -/
structure Selected (call : Call) (nodeId : NodeId) (db : Database) (o : StoredOperation) :
    Prop where
  stored : db.operations.get? o.id = some o
  onNode : o.nodeId = nodeId
  eligible : eligible db call.now o = true
  first : ∀ x, db.operations.get? x.id = some x → x.nodeId = nodeId → x.state = .queued →
    x.currentAttempt = 0 → queueOrder o ≤ queueOrder x

def SetAside (db : Database) (excluded : List Uuid) : Prop :=
  ∀ id ∈ excluded, ∀ o, db.operations.get? id = some o → o.state ≠ .queued

variable {nodeId : NodeId} {claimed : Option AgentClaim} {excluded : List Uuid} {fence : Uuid}
  {req : ClaimRequest}

lemma SetAside.calm (h : SetAside db excluded) (hstored : ∀ id ∈ excluded,
    ∃ o, db.operations.get? id = some o) (hc : Calm db db') : SetAside db' excluded := by
  intro id hid o' ho' hq
  obtain ⟨o, ho⟩ := hstored id hid
  obtain ⟨o'', ho'', hs⟩ := hc.operation_to ho
  rw [ho'] at ho''
  cases ho''
  exact h id hid o ho (hs.queued hq)

lemma firstBy_queued {o : StoredOperation} (hset : SetAside db excluded)
    (h : db.operations.firstBy queueOrder (fun o =>
      o.nodeId = nodeId && !(o.id ∈ excluded) && eligible db call.now o) = some o)
    (x : StoredOperation) (hx : db.operations.get? x.id = some x) (hnode : x.nodeId = nodeId)
    (hq : x.state = .queued) (hzero : x.currentAttempt = 0) : queueOrder o ≤ queueOrder x := by
  apply Table.firstBy_le h (mem_of_get? hx)
  have hout : x.id ∉ excluded := fun hin => hset x.id hin x hx hq
  simp [hnode, hout, eligible, hq, hzero]

lemma selectOperation_effect {rounds : ℕ} {selected : Option StoredOperation}
    (hset : SetAside db excluded) (hstored : ∀ id ∈ excluded, ∃ o, db.operations.get? id = some o)
    (h : selectOperation call nodeId rounds excluded db = .ok (selected, db')) :
    Quiet db db' ∧ ∀ o, selected = some o → Selected call nodeId db' o := by
  induction rounds generalizing db excluded with
  | zero =>
    cases h
    exact ⟨.refl db', fun o ho => by cases ho⟩
  | succ rounds ih =>
    unfold selectOperation at h
    split at h
    · cases h
      exact ⟨.refl db', fun o ho => by cases ho⟩
    next o ho =>
    obtain ⟨⟨authority, d⟩, ha, h⟩ := of_bind_ok h
    obtain ⟨hquiet, hsame⟩ := claimHasAuthority_effect ha
    obtain ⟨hmem, hp⟩ := mem_of_firstBy ho
    simp only at h
    split at h
    · next htrue =>
      cases h
      obtain ⟨hops, hatt⟩ := hsame htrue
      simp only [Bool.and_eq_true, decide_eq_true_eq] at hp
      refine ⟨hquiet, fun o' ho' => ?_⟩
      cases ho'
      constructor
      · rw [hops]
        exact get?_of_mem hmem
      · exact hp.1.1
      · simpa only [eligible, expiredAttempt, hatt] using hp.2
      rw [hops]
      exact firstBy_queued hset ho
    split at h
    · have hpark : Quiet db (parkOperation d call.now o.id) :=
        hquiet.trans (quiet_parkOperation call.now o.id)
      have hkept : ∀ id ∈ excluded ++ [o.id],
          ∃ x, (parkOperation d call.now o.id).operations.get? id = some x := by
        intro id hid
        have hbefore : ∃ x, db.operations.get? id = some x := by
          rcases List.mem_append.mp hid with hid | hid
          · exact hstored id hid
          rw [List.mem_singleton.mp hid]
          exact ⟨o, get?_of_mem hmem⟩
        obtain ⟨x, hx⟩ := hbefore
        obtain ⟨x', hx', _⟩ := hpark.operation_to hx
        exact ⟨x', hx'⟩
      have haside : SetAside (parkOperation d call.now o.id) (excluded ++ [o.id]) := by
        intro id hid x hx
        rcases List.mem_append.mp hid with hid | hid
        · exact hset.calm hstored hpark.toCalm id hid x hx
        rw [List.mem_singleton.mp hid, parkOperation, get?_setOperation] at hx
        obtain ⟨y, _, rfl⟩ := Option.map_eq_some_iff.mp hx
        simp
      obtain ⟨hrest, hsel⟩ := ih haside hkept h
      exact ⟨hpark.trans hrest, hsel⟩
    cases h
    exact ⟨hquiet, fun o ho => by cases ho⟩

lemma quiet_projectUnsafeExpiry {projected : Bool}
    (h : projectUnsafeExpiry db now op = .ok (projected, db')) : Quiet db db' := by
  unfold projectUnsafeExpiry at h
  split at h
  · cases h
    exact .refl db
  split at h
  · split at h
    · cases h
    obtain ⟨d, hd, h⟩ := of_bind_ok h
    cases h
    exact (quiet_setProjection _ _).trans (quiet_loseReconciliation hd)
  cases h

lemma calm_expirePrevious (db : Database) (op : StoredOperation) :
    Calm db (expirePrevious db op) := by
  unfold expirePrevious
  split
  · exact (Quiet.refl db).toCalm
  refine ⟨fun _ => .refl _, ?_⟩
  intro k
  simp only [setAttempt, get?_updateWhere]
  cases db.attempts.get? k with
  | none => exact .absent
  | some a =>
    simp only [Option.map_some]
    split
    · exact .closes (closes_state a (by simp))
    exact .refl _

@[simp]
lemma operations_expirePrevious (db : Database) (op : StoredOperation) :
    (expirePrevious db op).operations = db.operations := by
  unfold expirePrevious
  split <;> rfl

lemma quiet_park_expirePrevious (db : Database) (now : Time) (op : StoredOperation) :
    Quiet db (parkOperation (expirePrevious db op) now op.id) := by
  unfold expirePrevious
  split
  · exact quiet_parkOperation now op.id
  exact quiet_close (quiet_parkOperation now op.id) (fun _ => by simp)
    (fun a => closes_state a (by simp))

lemma expirePrevious_closes (hpos : op.currentAttempt ≠ 0)
    (h : (expirePrevious db op).attempts.get? (op.id, op.currentAttempt) = some a) :
    a.state ≠ .running := by
  rw [expirePrevious, if_neg hpos] at h
  simp only [setAttempt, get?_updateWhere] at h
  cases hg : db.attempts.get? (op.id, op.currentAttempt) with
  | none => simp [hg] at h
  | some b =>
    have hb := get?_key hg
    simp only [key_attempt, Prod.mk.injEq] at hb
    simp only [hg, Option.map_some, hb, and_self, decide_true, if_true, Option.some.injEq] at h
    subst h
    simp

lemma quarantine_effect (h : quarantine (expirePrevious db op) now op = .ok (claimed, db')) :
    claimed = none ∧ Quiet db db' := by
  obtain ⟨⟨projected, d⟩, hd, h⟩ := of_bind_ok h
  have hq := (quiet_park_expirePrevious db now op).trans (quiet_projectUnsafeExpiry hd)
  simp only at h
  split at h
  · cases h
    exact ⟨rfl, hq⟩
  obtain ⟨e, he, h⟩ := of_bind_ok h
  cases h
  exact ⟨rfl, hq.trans (quiet_aggregateParent he)⟩

/-- The operation may be started: it never was, it may be reclaimed, or an operator said so. -/
def MayStart (o : StoredOperation) : Prop :=
  (o.state = .queued ∧ o.currentAttempt = 0) ∨
    (o.state = .running ∧ o.kind.safeAutomaticReclaim = true) ∨
    (o.state = .waitingForOperator ∧ Answered o o.currentAttempt)

/-- Quiet work up to `mid`, then the next attempt of the operation selected there starts, while its
node runs no other mutation. -/
inductive Dispatch (call : Call) (nodeId : NodeId) (c : AgentClaim) (db db' : Database) : Prop
  | intro {mid : Database} {o : StoredOperation} {serial : Serial} {fence : Uuid} {deadline : Time}
      (quiet : Quiet db mid)
      (selected : Selected call nodeId mid o)
      (mayStart : MayStart o)
      (exclusive : o.kind.mutating = true → activeMutation mid o = false)
      (starts : startAttempt (expirePrevious mid o) call.now o serial fence deadline =
        .ok (some c, db')) :
      Dispatch call nodeId c db db'

def ClaimEffect (call : Call) (nodeId : NodeId) (db db' : Database) : Option AgentClaim → Prop
  | some c => Dispatch call nodeId c db db'
  | none => Quiet db db'

lemma ClaimEffect.after {before : Database} (hq : Quiet before db)
    (h : ClaimEffect call nodeId db db' claimed) : ClaimEffect call nodeId before db' claimed := by
  cases claimed with
  | none => exact hq.trans h
  | some c =>
    cases h with
    | intro quiet selected mayStart exclusive starts =>
      exact .intro (hq.trans quiet) selected mayStart exclusive starts

lemma startAttempt_effect {serial : Serial} {deadline : Time} (hsel : Selected call nodeId db op)
    (hstart : MayStart op) (hexcl : op.kind.mutating = true → activeMutation db op = false)
    (h : startAttempt (expirePrevious db op) call.now op serial fence deadline =
      .ok (claimed, db')) : ClaimEffect call nodeId db db' claimed := by
  cases claimed with
  | none =>
    obtain ⟨d, _, h⟩ := of_bind_ok h
    cases h
  | some c => exact .intro (.refl db) hsel hstart hexcl h

lemma mayStart_of_eligible (h : eligible db now op = true)
    (hsafe : ¬ (op.state = .running ∧ op.kind.safeAutomaticReclaim = false)) : MayStart op := by
  simp only [eligible, Bool.or_eq_true, Bool.and_eq_true, decide_eq_true_eq] at h
  rcases h with (⟨hs, hn⟩ | ⟨hs, _⟩) | ⟨hs, hr⟩
  · exact .inl ⟨hs, hn⟩
  · refine .inr (.inl ⟨hs, ?_⟩)
    by_contra hk
    exact hsafe ⟨hs, by simpa using hk⟩
  exact .inr (.inr ⟨hs, by simpa [retryRequested, Answered] using hr⟩)

lemma claimSelected_effect {node : AgentNode} (hsel : Selected call nodeId db op)
    (h : claimSelected call req fence node db op = .ok (claimed, db')) :
    ClaimEffect call nodeId db db' claimed := by
  unfold claimSelected at h
  split at h
  · cases h
    exact Quiet.refl db
  split at h
  · cases h
    exact Quiet.refl db
  next hactive =>
  have hexcl : op.kind.mutating = true → activeMutation db op = false := by
    intro hm
    simpa [hm] using hactive
  split at h
  · obtain ⟨rfl, hq⟩ := quarantine_effect h
    exact hq
  next hsafe =>
  have hstart := mayStart_of_eligible hsel.eligible hsafe
  split at h
  · exact startAttempt_effect hsel hstart hexcl h
  split at h
  · obtain ⟨d, hd, h⟩ := of_bind_ok h
    cases h
    exact (quiet_park_expirePrevious db call.now op).trans (quiet_aggregateParent hd)
  exact startAttempt_effect hsel hstart hexcl h

lemma claim_cases (h : claim cfg call req fence db = .ok (claimed, db')) :
    (claimed = none ∧ db' = db) ∨ ∃ nodes certificates selected mid,
      selectOperation call req.nodeId db.operations.rows.length []
        { db with nodes := nodes, certificates := certificates } = .ok (selected, mid) ∧
      ((claimed = none ∧ db' = mid) ∨ ∃ op node, selected = some op ∧
        claimSelected call req fence node mid op = .ok (claimed, db')) := by
  unfold claim at h
  split at h
  · cases h
  split at h
  · cases h
  split at h
  · cases h
  obtain ⟨_, _, h⟩ := of_bind_ok h
  split at h
  · cases h
    exact .inl ⟨rfl, rfl⟩
  split at h
  · cases h
    exact .inl ⟨rfl, rfl⟩
  obtain ⟨negotiated, hn, _, _, h⟩ := of_bind_ok₂ h
  obtain ⟨⟨selected, mid⟩, hsel, h⟩ := of_bind_ok h
  obtain ⟨nodes, certificates, rfl⟩ := negotiateImplementation_eq hn
  refine .inr ⟨_, _, selected, mid, hsel, ?_⟩
  simp only at h
  split at h
  · exact .inr ⟨_, _, rfl, h⟩
  cases h
  exact .inl ⟨rfl, rfl⟩

lemma claim_effect (h : claim cfg call req fence db = .ok (claimed, db')) :
    ClaimEffect call req.nodeId db db' claimed := by
  rcases claim_cases h with ⟨rfl, rfl⟩ | ⟨nodes, certificates, selected, mid, hsel, h⟩
  · exact Quiet.refl _
  obtain ⟨hquiet, hop⟩ := selectOperation_effect (fun _ hid => by cases hid)
    (fun _ hid => by cases hid) hsel
  have hcontact : Quiet db { db with nodes := nodes, certificates := certificates } :=
    quiet_of_tables rfl rfl
  rcases h with ⟨rfl, rfl⟩ | ⟨op, node, rfl, h⟩
  · exact hcontact.trans hquiet
  exact (claimSelected_effect (hop op rfl) h).after (hcontact.trans hquiet)

end Claims

section Results

variable {fence : AgentFence} {source : Option AgentSource} {later : Time} {state : ResultState}

lemma active_spec {attempt : AgentOperationAttempt}
    (h : active cfg call db fence source = .ok (op, attempt, db')) :
    Quiet db db' ∧ attempt ∈ db.attempts.rows ∧ attempt.fence = fence.token ∧
      db.operations.get? attempt.operationId = some op ∧ attempt.state = .running ∧
      call.now < attempt.leaseDeadline ∧ requireActiveReconciliationAuthority db op = .ok () ∧
      ∃ nodes, db' = { db with nodes := nodes } := by
  unfold active at h
  split at h
  · cases h
  next a ha =>
  split at h
  · cases h
  next o ho =>
  obtain ⟨_, _, h⟩ := of_bind_ok h
  split at h
  · cases h
  split at h
  · cases h
  obtain ⟨_, _, _, hauthority, h⟩ := of_bind_ok₂ h
  split at h
  · cases h
  next hok =>
  cases h
  simp only [not_or, not_not, not_le] at hok
  have hfence : attempt.fence = fence.token := by simpa using List.find?_some ha
  exact ⟨quiet_of_tables rfl rfl, List.mem_of_find?_eq_some ha, hfence, ho, hok.2.1, hok.2.2, hauthority,
    _, rfl⟩

/-- What an accepted heartbeat or result knows of the attempt that it came from. -/
structure Accepted (now : Time) (token : Uuid) (db : Database) (a : AgentOperationAttempt) :
    Prop where
  stored : a ∈ db.attempts.rows
  fence : a.fence = token
  operation : ∃ o, db.operations.get? a.operationId = some o
  running : a.state = .running
  lease : now < a.leaseDeadline

lemma heartbeat_effect {leaseSeconds : ℕ}
    (h : heartbeat cfg call later db fence leaseSeconds source = .ok (a, db')) :
    Quiet db db' ∧ Accepted call.now fence.token db a := by
  unfold heartbeat at h
  split at h
  · cases h
  obtain ⟨⟨op, attempt, d⟩, hact, h⟩ := of_bind_ok h
  obtain ⟨deadline, _, h⟩ := of_bind_ok h
  cases h
  obtain ⟨hq, hmem, hfence, hop, hrun, hlease, -⟩ := active_spec hact
  have hat : Quiet d (setAttempt d op.id a.attempt fun x => { x with leaseDeadline := deadline }) :=
    quiet_setAttempt (fun _ => ⟨rfl, rfl, rfl, fun hr => hr⟩) (.inl fun _ => rfl)
  have htouch : ∀ e, Quiet e (setOperation e op.id fun o => { o with updatedAt := later }) :=
    fun e => quiet_setOperation
      (fun _ => ⟨rfl, rfl, rfl, rfl, rfl, fun hq => hq, fun hr => hr⟩) (fun _ _ hn => hn)
  exact ⟨(hq.trans hat).trans (htouch _), hmem, hfence, ⟨op, hop⟩, hrun, hlease⟩

lemma quiet_closeAttempt (op : StoredOperation) (a : AgentOperationAttempt) (state : ResultState)
    (result : ResultDocument) :
    Quiet db (closeAttempt db now op a state result) := by
  have hop : state.operation.unfinished = false := by cases state <;> rfl
  have hat : state.attempt ≠ .running := by cases state <;> simp [ResultState.attempt]
  refine quiet_close (quiet_setOperation_state db op.id now hop)
    (fun _ => OperationState.ne_running hop) ?_
  intro a
  exact ⟨rfl, rfl, rfl, fun hr => absurd hr hat⟩

lemma closeAttempt_closes {b : AgentOperationAttempt} {result : ResultDocument}
    (h : (closeAttempt db now op a state result).attempts.get? (op.id, a.attempt) = some b) :
    b.state ≠ .running := by
  simp only [closeAttempt, setOperation, setAttempt, get?_updateWhere] at h
  cases hg : db.attempts.get? (op.id, a.attempt) with
  | none => simp [hg] at h
  | some c =>
    have hc := get?_key hg
    simp only [key_attempt, Prod.mk.injEq] at hc
    simp only [hg, Option.map_some, hc, and_self, decide_true, if_true, Option.some.injEq] at h
    subst h
    cases state <;> simp [ResultState.attempt]

lemma Quiet.not_running {k : Uuid × ℕ} (h : Quiet db db')
    (hc : ∀ a, db.attempts.get? k = some a → a.state ≠ .running) (ha : db'.attempts.get? k = some a)
    : a.state ≠ .running := by
  have he := h.attempts k
  rw [ha] at he
  generalize hx : db.attempts.get? k = x at he
  cases he with
  | closes hcl => exact fun hr => hc _ hx (hcl.running hr)

def QuietConsumer (consumer : ResultConsumer) : Prop :=
  ∀ db op attempt message db', consumer db op attempt message = .ok db' → Quiet db db'

lemma finish_effect {consumer : ResultConsumer} (hcons : QuietConsumer consumer)
    {result : Option ResultDocument}
    (h : finish cfg consumer call later db fence state result reason source = .ok (a, db')) :
    Quiet db db' ∧ Accepted call.now fence.token db a ∧
      ∀ b, db'.attempts.get? (a.operationId, a.attempt) = some b → b.state ≠ .running := by
  obtain ⟨⟨op, attempt, d⟩, hact, h⟩ := of_bind_ok h
  obtain ⟨message, _, _, _, h⟩ := of_bind_ok₂ h
  obtain ⟨consumed, hconsumed, h⟩ := of_bind_ok h
  obtain ⟨aggregated, hagg, h⟩ := of_bind_ok h
  cases h
  obtain ⟨hq, hmem, hfence, hop, hrun, hlease, -⟩ := active_spec hact
  have hid : op.id = a.operationId := get?_key hop
  have hconsume : Quiet (closeAttempt d later op a state message.result) consumed := by
    unfold handToConsumer at hconsumed
    split at hconsumed
    · cases hconsumed
      exact .refl _
    exact hcons _ _ _ _ _ hconsumed
  have hrest := hconsume.trans (quiet_aggregateParent hagg)
  refine ⟨(hq.trans (quiet_closeAttempt op a state message.result)).trans hrest,
    ⟨hmem, hfence, ⟨op, hop⟩, hrun, hlease⟩, ?_⟩
  intro b hb
  rw [← hid] at hb
  exact hrest.not_running (fun c hc => closeAttempt_closes hc) hb

end Results

end VonkForge.AgentJobs
