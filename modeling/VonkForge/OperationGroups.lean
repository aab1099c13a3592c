import VonkForge.AgentResults

/-!
# Groups of agent operations

What the queue does to the operations beneath one parent job that belongs to neither a
reconciliation nor a platform update.
-/

namespace VonkForge.OperationGroups

open AgentJobs Table

variable {state : OperationState} {k : Uuid}

/-- A parent job: the columns that the queue reads, and the document of its owner. -/
structure GroupJob (D : Type) where
  (id requestId : Uuid)
  state : JobState := .running
  baseCommit : Commit := 0
  targets : List NodeId := []
  document : D

instance {D : Type} : Keyed (GroupJob D) Uuid := ⟨GroupJob.id⟩

structure GroupOperation (P : Type) where
  (id parentJobId : Uuid)
  nodeId : NodeId
  kind : AgentOperation
  payload : P
  state : OperationState := .queued

instance {P : Type} : Keyed (GroupOperation P) Uuid := ⟨GroupOperation.id⟩

structure Queue (D P : Type) where
  nodes : Table AgentNode := .empty
  jobs : Table (GroupJob D) := .empty
  operations : Table (GroupOperation P) := .empty

@[simp] lemma key_groupJob {D : Type} (j : GroupJob D) : Keyed.key j = j.id := rfl

section Transactions

variable {D P : Type}

section

variable (q : Queue D P) (id : Uuid)

def setJobState (state : JobState) : Queue D P :=
  { q with jobs := q.jobs.updateWhere (fun j => decide (j.id = id)) fun j =>
      { j with state := state } }

def setOperationState (state : OperationState) : Queue D P :=
  { q with operations := q.operations.updateWhere (fun o => decide (o.id = id)) fun o =>
      { o with state := state } }

def children (jobId : Uuid) : List (GroupOperation P) :=
  q.operations.select fun o => o.parentJobId = jobId

def insertOperation (o : GroupOperation P) : Except JobError (Queue D P) :=
  match q.operations.insert o with
  | some operations => .ok { q with operations := operations }
  | none => .error .integrityError

/-- `request_id` is unique beside the primary key. -/
def insertJob (job : GroupJob D) : Except JobError (Queue D P) :=
  if q.jobs.rows.any (·.requestId = job.requestId) then .error .integrityError
  else
    match q.jobs.insert job with
    | some jobs => .ok { q with jobs := jobs }
    | none => .error .integrityError

/-- `enqueue_in_session`.  `invalid` is what the claim message says of the payload when it is
built; no caller beneath such a parent has a prepared update. -/
def enqueueInSession (invalid : AgentOperation → P → Option String) (q : Queue D P)
    (baseCommit : Commit) (o : GroupOperation P) : Except JobError (Queue D P) :=
  match q.nodes.get? o.nodeId with
  | none => .error (.keyError o.nodeId)
  | some node =>
    if node.state ≠ .active ∨ node.revokedAt.isSome then
      .error (.valueError "agent operation node must be active")
    else if node.agentImplementation = .rust ∧ node.migrationState = .complete ∧
        Capability.operation o.kind ∉ node.capabilities then
      .error (.valueError "Rust agent does not advertise operation capability")
    else
      match q.jobs.get? o.parentJobId with
      | none => .error (.keyError o.parentJobId)
      | some parent =>
        if o.kind = .agentRollback then
          .error (.valueError "agent rollback requires a waiting platform update parent")
        else if terminalParent parent.state then
          .error (.valueError "cannot enqueue an agent operation beneath a terminal parent")
        else if parent.baseCommit ≠ baseCommit then
          .error (.valueError "agent operation base commit must match its parent")
        else if o.nodeId ∉ parent.targets then
          .error (.valueError "agent operation node must be a parent target")
        else if o.kind = .agentUpdate then
          .error (.runtimeError "agent update authorization is unavailable")
        else
          match invalid o.kind o.payload with
          | some text => .error (.valueError text)
          | none => insertOperation q { o with state := .queued }

def groupState (operations : List (GroupOperation P)) : JobState :=
  if operations.any (·.state = .failed) then .failed
  else if operations.any (·.state = .waitingForOperator) then .waitingForOperator
  else .succeeded

def aggregateParent (jobId : Uuid) : Except JobError (Queue D P) :=
  match q.jobs.get? jobId with
  | none => .error (.keyError jobId)
  | some _ =>
    let operations := children q jobId
    if operations = [] ∨ operations.any (fun o => !terminalOperation o.state) then .ok q
    else .ok (setJobState q jobId (groupState operations))

def claimOperation : Except JobError (Queue D P) :=
  match q.operations.get? id with
  | none => .error (.keyError id)
  | some o =>
    match q.jobs.get? o.parentJobId with
    | none => .error (.valueError "agent operation lacks its parent job")
    | some job =>
      if o.state ≠ .queued ∨ terminalParent job.state then .ok q
      else .ok (setOperationState q id .running)

/-- A running operation takes the state of its result; its consumer and the parent come after. -/
def finishOperation (state : ResultState) : Except JobError (GroupOperation P × Queue D P) :=
  match q.operations.get? id with
  | none => .error stale
  | some o =>
    if o.state ≠ .running then .error stale
    else .ok ({ o with state := state.operation }, setOperationState q id state.operation)

def expireOperation : Except JobError (Queue D P) :=
  match q.operations.get? id with
  | none => .error (.keyError id)
  | some o =>
    if o.state ≠ .running ∨ o.kind.safeAutomaticReclaim then .ok q
    else aggregateParent (setOperationState q id .waitingForOperator) o.parentJobId

inductive GroupEvent
  | claim (id : Uuid)
  | result (id : Uuid) (state : ResultState)
  | expire (id : Uuid)

def groupStep : GroupEvent → Except JobError (Queue D P)
  | .claim id => claimOperation q id
  | .result id state => do
    let (o, q) ← finishOperation q id state
    aggregateParent q o.parentJobId
  | .expire id => expireOperation q id

end

end Transactions

section Queue

variable {D P : Type} {q q' : Queue D P} {id jobId : Uuid}

lemma get?_setJobState (q : Queue D P) (id : Uuid) (state : JobState) (k : Uuid) :
    (setJobState q id state).jobs.get? k =
      (q.jobs.get? k).map fun j => if j.id = id then { j with state := state } else j := by
  unfold setJobState
  rw [get?_updateWhere]
  simp only [decide_eq_true_eq]

lemma get?_setOperationState (q : Queue D P) (id : Uuid) (state : OperationState) (k : Uuid) :
    (setOperationState q id state).operations.get? k =
      (q.operations.get? k).map fun o => if o.id = id then { o with state := state } else o := by
  unfold setOperationState
  rw [get?_updateWhere]
  simp only [decide_eq_true_eq]

lemma children_setOperationState (q : Queue D P) (id : Uuid) (state : OperationState)
    (jobId : Uuid) :
    children (setOperationState q id state) jobId =
      (children q jobId).map fun o => if o.id = id then { o with state := state } else o := by
  unfold children setOperationState Table.select Table.updateWhere
  rw [List.filter_map]
  congr 1
  · funext o
    simp only [decide_eq_true_eq]
  apply List.filter_congr
  intro o _
  by_cases ho : o.id = id <;> simp [ho]

variable {o : GroupOperation P} {ops : List (GroupOperation P)}
  {invalid : AgentOperation → P → Option String} {commit : Commit}

lemma mem_children : o ∈ children q jobId ↔ o ∈ q.operations.rows ∧ o.parentJobId = jobId := by
  unfold children
  rw [mem_select, decide_eq_true_eq]

lemma enqueue_ok (h : enqueueInSession invalid q commit o = .ok q') :
    q'.nodes = q.nodes ∧ q'.jobs = q.jobs ∧
    (∃ parent, q.jobs.get? o.parentJobId = some parent ∧ terminalParent parent.state = false) ∧
    q.operations.get? o.id = none ∧ invalid o.kind o.payload = none ∧
    q'.operations.rows = q.operations.rows ++ [{ o with state := .queued }] := by
  unfold enqueueInSession at h
  split at h
  · cases h
  split at h
  · cases h
  split at h
  · cases h
  split at h
  · cases h
  next parent hparent =>
  split_ifs at h with _ hterminal _ _ _
  split at h
  · cases h
  next hvalid =>
  unfold insertOperation at h
  split at h
  · next operations hinsert =>
    cases h
    obtain ⟨hnone, hrows⟩ := insert_eq_some.mp hinsert
    exact ⟨rfl, rfl, ⟨parent, hparent, by simpa using hterminal⟩, hnone, hvalid, hrows⟩
  cases h

/-- What one transaction of the queue does: a queued operation starts, a running one ends and the
parent is aggregated, or nothing. -/
inductive Moves (q q' : Queue D P) : Prop
  | same (h : q' = q)
  | starts (o : GroupOperation P) (ho : q.operations.get? o.id = some o) (hs : o.state = .queued)
      (h : q' = setOperationState q o.id .running)
  | ends (o : GroupOperation P) (state : ResultState) (ho : q.operations.get? o.id = some o)
      (hs : o.state = .running)
      (h : aggregateParent (setOperationState q o.id state.operation) o.parentJobId = .ok q')

lemma groupStep_moves {e : GroupEvent} (h : groupStep q e = .ok q') : Moves q q' := by
  cases e with
  | claim id =>
    simp only [groupStep, claimOperation] at h
    split at h
    · cases h
    next o ho =>
    obtain rfl : o.id = id := get?_key ho
    split at h
    · cases h
    split_ifs at h with hs
    · cases h
      exact .same rfl
    cases h
    exact .starts o ho (by simpa using (not_or.mp hs).1) rfl
  | result id state =>
    obtain ⟨⟨o', q₁⟩, hfinish, h⟩ := of_bind_ok h
    unfold finishOperation at hfinish
    split at hfinish
    · cases hfinish
    next o ho =>
    obtain rfl : o.id = id := get?_key ho
    split_ifs at hfinish with hs
    cases hfinish
    exact .ends o state ho (by simpa using hs) h
  | expire id =>
    simp only [groupStep, expireOperation] at h
    split at h
    · cases h
    next o ho =>
    obtain rfl : o.id = id := get?_key ho
    split_ifs at h with hs
    · cases h
      exact .same rfl
    exact .ends o .waitingForOperator ho (by simpa using (not_or.mp hs).1) h

lemma children_of_ne (ho : q.operations.get? o.id = some o) (hne : o.parentJobId ≠ jobId)
    (state : OperationState) :
    children (setOperationState q o.id state) jobId = children q jobId := by
  rw [children_setOperationState]
  refine (List.map_congr_left fun x hx => ?_).trans (List.map_id _)
  obtain ⟨hmem, hparent⟩ := mem_children.mp hx
  rw [if_neg, id_eq]
  intro hid
  have hsame : x = o := eq_of_key hmem (mem_of_get? ho) hid
  exact hne (hsame ▸ hparent)

structure Ticket (D : Type) where
  (id requestId : Uuid)
  document : D

def GroupJob.ticket (j : GroupJob D) : Ticket D := ⟨j.id, j.requestId, j.document⟩

def tickets (q : Queue D P) : List (Ticket D) := q.jobs.rows.map GroupJob.ticket

@[simp]
lemma tickets_setJobState (q : Queue D P) (id : Uuid) (state : JobState) :
    tickets (setJobState q id state) = tickets q := by
  unfold tickets setJobState Table.updateWhere
  rw [List.map_map]
  apply List.map_congr_left
  intro j _
  by_cases hid : j.id = id <;> simp [hid, GroupJob.ticket]

section

variable (h : aggregateParent q jobId = .ok q')

include h

lemma aggregateParent_ok : (∃ o ∈ children q jobId, terminalOperation o.state = false) ∧ q' = q ∨
    children q jobId = [] ∧ q' = q ∨
    (∀ o ∈ children q jobId, terminalOperation o.state = true) ∧
      q' = setJobState q jobId (groupState (children q jobId)) := by
  unfold aggregateParent at h
  split at h
  · cases h
  simp only [List.any_eq_true, Bool.not_eq_eq_eq_not, Bool.not_true] at h
  split_ifs at h with hopen
  · cases h
    rcases hopen with hnil | hopen
    · exact .inr (.inl ⟨hnil, rfl⟩)
    exact .inl ⟨hopen, rfl⟩
  cases h
  refine .inr (.inr ⟨?_, rfl⟩)
  intro o ho
  by_contra hstate
  exact hopen (.inr ⟨o, ho, by simpa using hstate⟩)

lemma children_aggregateParent (k : Uuid) : children q' k = children q k := by
  rcases aggregateParent_ok h with ⟨-, rfl⟩ | ⟨-, rfl⟩ | ⟨-, rfl⟩ <;> rfl

lemma aggregateParent_of_ne (hne : k ≠ jobId) :
    q'.jobs.get? k = q.jobs.get? k ∧ q'.operations = q.operations ∧ q'.nodes = q.nodes := by
  rcases aggregateParent_ok h with ⟨-, rfl⟩ | ⟨-, rfl⟩ | ⟨-, rfl⟩
  · exact ⟨rfl, rfl, rfl⟩
  · exact ⟨rfl, rfl, rfl⟩
  refine ⟨?_, rfl, rfl⟩
  rw [get?_setJobState]
  cases hj : q.jobs.get? k with
  | none => rfl
  | some j =>
    have hid : j.id = k := get?_key hj
    rw [Option.map_some, if_neg (hid ▸ hne)]

lemma tickets_aggregateParent : tickets q' = tickets q ∧ q'.operations = q.operations := by
  rcases aggregateParent_ok h with ⟨-, rfl⟩ | ⟨-, rfl⟩ | ⟨-, rfl⟩
  · exact ⟨rfl, rfl⟩
  · exact ⟨rfl, rfl⟩
  exact ⟨tickets_setJobState _ _ _, rfl⟩

end

variable {t : Ticket D}

lemma eq_of_ticket_id {t' : Ticket D} (ht : t ∈ tickets q) (ht' : t' ∈ tickets q)
    (h : t.id = t'.id) : t = t' := by
  obtain ⟨j, hj, rfl⟩ := List.mem_map.mp ht
  obtain ⟨j', hj', rfl⟩ := List.mem_map.mp ht'
  rw [eq_of_key hj hj' h]

structure Added (q q' : Queue D P) (t : Ticket D) (ops : List (GroupOperation P)) : Prop where
  tickets_eq : tickets q' = tickets q ++ [t]
  operations : q'.operations.rows = q.operations.rows ++ ops
  fresh : ∀ u ∈ tickets q, u.id ≠ t.id
  unused : ∀ u ∈ tickets q, u.requestId ≠ t.requestId
  beneath : ∀ o ∈ ops, o.parentJobId = t.id ∧ o.state = .queued

lemma insertJob_ok {job : GroupJob D} (h : insertJob q job = .ok q') :
    Added q q' job.ticket [] ∧ q'.nodes = q.nodes ∧ q'.jobs.get? job.id = some job := by
  unfold insertJob at h
  split_ifs at h with hused
  split at h
  · next jobs hinsert =>
    cases h
    obtain ⟨hfresh, hrows⟩ := insert_eq_some.mp hinsert
    refine ⟨⟨?_, (List.append_nil _).symm, ?_, ?_, by simp⟩, rfl, ?_⟩
    · unfold tickets
      rw [hrows, List.map_append]
      rfl
    · intro u hu
      obtain ⟨j, hj, rfl⟩ := List.mem_map.mp hu
      exact get?_eq_none.mp hfresh j hj
    · intro u hu
      obtain ⟨j, hj, rfl⟩ := List.mem_map.mp hu
      intro he
      exact hused (List.any_eq_true.mpr ⟨j, hj, decide_eq_true he⟩)
    have hget := get?_insert hinsert job.id
    rw [key_groupJob, if_pos rfl] at hget
    exact hget
  cases h

def Linked (q : Queue D P) : Prop :=
  ∀ o ∈ q.operations.rows, ∃ t ∈ tickets q, t.id = o.parentJobId

section Added

variable {t : Ticket D} {ops : List (GroupOperation P)}

variable (h : Added q q' t ops)

include h

lemma Added.mem_tickets {u : Ticket D} : u ∈ tickets q' ↔ u ∈ tickets q ∨ u = t := by
  rw [h.tickets_eq, List.mem_append, List.mem_singleton]

lemma Added.children_new (hlinked : Linked q) : children q' t.id = ops := by
  unfold children Table.select
  rw [h.operations, List.filter_append]
  have hold : q.operations.rows.filter (fun o => decide (o.parentJobId = t.id)) = [] := by
    refine List.filter_eq_nil_iff.mpr fun o ho => ?_
    obtain ⟨u, hu, hid⟩ := hlinked o ho
    rw [decide_eq_true_eq, ← hid]
    exact h.fresh u hu
  have hnew : ops.filter (fun o => decide (o.parentJobId = t.id)) = ops :=
    List.filter_eq_self.mpr fun o ho => by simpa using (h.beneath o ho).1
  rw [hold, hnew, List.nil_append]

lemma Added.children_old (hne : k ≠ t.id) : children q' k = children q k := by
  unfold children Table.select
  rw [h.operations, List.filter_append]
  have hnew : ops.filter (fun o => decide (o.parentJobId = k)) = [] := by
    refine List.filter_eq_nil_iff.mpr fun o ho => ?_
    rw [decide_eq_true_eq, (h.beneath o ho).1]
    exact Ne.symm hne
  rw [hnew, List.append_nil]

lemma Added.linked (hlinked : Linked q) : Linked q' := by
  intro o ho
  rw [h.operations, List.mem_append] at ho
  rcases ho with ho | ho
  · obtain ⟨u, hu, hid⟩ := hlinked o ho
    exact ⟨u, h.mem_tickets.mpr (.inl hu), hid⟩
  exact ⟨t, h.mem_tickets.mpr (.inr rfl), (h.beneath o ho).1.symm⟩

end Added

def Underway : OperationState → Prop
  | .queued | .running => True
  | _ => False

instance : DecidablePred Underway := fun s => by
  cases s <;> unfold Underway <;> infer_instance

def Parked : OperationState → Prop
  | .waitingForOperator | .compensated => True
  | _ => False

instance : DecidablePred Parked := fun s => by
  cases s <;> unfold Parked <;> infer_instance

lemma Underway.not_parked (h : Underway state) : ¬ Parked state := by
  cases state <;> first | exact False.elim h | exact id

def Live (q : Queue D P) (jobId : Uuid) : Prop :=
  (∃ o ∈ children q jobId, Underway o.state) ∧ ∀ o ∈ children q jobId, ¬ Parked o.state

instance (q : Queue D P) (jobId : Uuid) : Decidable (Live q jobId) :=
  inferInstanceAs (Decidable (_ ∧ _))

lemma live_of_setOperationState (ho : q.operations.get? o.id = some o) (hopen : Underway o.state)
    (h : Live (setOperationState q o.id state) jobId) : Live q jobId := by
  by_cases hparent : o.parentJobId = jobId
  · have hmem : o ∈ children q jobId := mem_children.mpr ⟨mem_of_get? ho, hparent⟩
    refine ⟨⟨o, hmem, hopen⟩, fun x hx => ?_⟩
    by_cases hid : x.id = o.id
    · have hsame : x = o :=
        eq_of_key (mem_children.mp hx).1 (mem_of_get? ho) hid
      rw [hsame]
      exact hopen.not_parked
    apply h.2
    rw [children_setOperationState]
    exact List.mem_map.mpr ⟨x, hx, by rw [if_neg hid]⟩
  unfold Live at h
  rw [children_of_ne ho hparent] at h
  exact h

lemma Live.setOperationState (h : Live q jobId) (hstate : ¬ Parked state)
    (hmore : ∃ c ∈ children (setOperationState q o.id state) jobId, Underway c.state ∨
      Parked c.state) :
    Live (OperationGroups.setOperationState q o.id state) jobId := by
  have hfree : ∀ c ∈ children (OperationGroups.setOperationState q o.id state) jobId,
      ¬ Parked c.state := by
    intro c hc
    rw [children_setOperationState] at hc
    obtain ⟨x, hx, rfl⟩ := List.mem_map.mp hc
    split_ifs
    · exact hstate
    exact h.2 x hx
  obtain ⟨c, hc, hopen | hparked⟩ := hmore
  · exact ⟨⟨c, hc, hopen⟩, hfree⟩
  exact absurd hparked (hfree c hc)

lemma Added.live (h : Added q q' t ops) (hne : k ≠ t.id) : Live q' k ↔ Live q k := by
  unfold Live
  rw [h.children_old hne]

lemma Added.live_new (h : Added q q' t ops) (hlinked : Linked q) (hne : ops ≠ []) :
    Live q' t.id := by
  unfold Live
  rw [h.children_new hlinked]
  obtain ⟨o, rest, rfl⟩ := List.exists_cons_of_ne_nil hne
  refine ⟨⟨o, List.mem_cons_self, ?_⟩, fun x hx => ?_⟩
  · rw [(h.beneath o List.mem_cons_self).2]
    trivial
  rw [(h.beneath x hx).2]
  decide

/-- The tickets of a queue and its live groups after one step: at most one group ends or is given
up, and at most one is added. -/
structure Turn (q q' : Queue D P) (gone : Option Uuid) (new : Option (Ticket D)) : Prop where
  tickets_eq : tickets q' = tickets q ++ new.toList
  fresh : ∀ t ∈ new, ∀ u ∈ tickets q, u.id ≠ t.id
  unused : ∀ t ∈ new, ∀ u ∈ tickets q, u.requestId ≠ t.requestId
  linked : Linked q → Linked q'
  live : ∀ k, some k ≠ gone → (∀ t ∈ new, k ≠ t.id) → (Live q' k ↔ Live q k)
  dead : ∀ k, some k = gone → ¬ Live q' k

lemma turn_of_same (htickets : tickets q' = tickets q) (hoperations : q'.operations = q.operations) :
    Turn q q' none none := by
  refine ⟨by simp [htickets], by simp, by simp, fun h o ho => ?_, fun k _ _ => ?_, by simp⟩
  · rw [htickets]
    exact h o (hoperations ▸ ho)
  unfold Live children
  rw [hoperations]

lemma linked_setOperationState (h : Linked q) (id : Uuid) (state : OperationState) :
    Linked (setOperationState q id state) := by
  intro o ho
  unfold setOperationState at ho
  rw [mem_updateWhere] at ho
  rcases ho with ⟨x, hx, -, rfl⟩ | ⟨ho, -⟩
  · exact h x hx
  exact h o ho

section Operation

variable {o : GroupOperation P}

variable (ho : q.operations.get? o.id = some o)

include ho

lemma turn_setOperationState {gone : Option Uuid}
    (hlive : some o.parentJobId ≠ gone →
      (Live (setOperationState q o.id state) o.parentJobId ↔ Live q o.parentJobId))
    (hdead : ∀ k, some k = gone → ¬ Live (setOperationState q o.id state) k) :
    Turn q (setOperationState q o.id state) gone none := by
  refine ⟨(List.append_nil _).symm, by simp, by simp,
    fun h => linked_setOperationState h o.id state, ?_, hdead⟩
  intro k hgone _
  by_cases hk : o.parentJobId = k
  · exact hk ▸ hlive (hk ▸ hgone)
  unfold Live
  rw [children_of_ne ho hk]

lemma mem_children_setOperationState :
    { o with state := state } ∈ children (setOperationState q o.id state) o.parentJobId := by
  rw [children_setOperationState]
  exact List.mem_map.mpr ⟨o, mem_children.mpr ⟨mem_of_get? ho, rfl⟩, if_pos rfl⟩

lemma turn_park :
    Turn q (setOperationState q o.id .waitingForOperator) (some o.parentJobId) none := by
  refine turn_setOperationState ho (fun h => absurd rfl h) fun k hk h => ?_
  cases hk
  exact h.2 _ (mem_children_setOperationState ho) trivial

lemma turn_result (hs : Underway o.state) (hstate : ¬ Parked state)
    (hmore : ∃ c ∈ children (setOperationState q o.id state) o.parentJobId,
      Underway c.state ∨ Parked c.state) :
    Turn q (setOperationState q o.id state) none none := by
  refine turn_setOperationState ho (fun _ => ⟨fun h => ?_, fun h => ?_⟩) (by simp)
  · exact live_of_setOperationState ho hs h
  exact h.setOperationState hstate hmore

lemma turn_claim (hs : o.state = .queued) : Turn q (setOperationState q o.id .running) none none :=
  turn_result ho (by rw [hs]; trivial) id ⟨_, mem_children_setOperationState ho, .inl trivial⟩

lemma turn_last (hs : o.state = .running)
    (hall : ∀ c ∈ children (setOperationState q o.id state) o.parentJobId,
      ¬ Underway c.state ∧ ¬ Parked c.state) :
    Live q o.parentJobId ∧ Turn q (setOperationState q o.id state) (some o.parentJobId) none := by
  have hmem : o ∈ children q o.parentJobId := mem_children.mpr ⟨mem_of_get? ho, rfl⟩
  refine ⟨⟨⟨o, hmem, by rw [hs]; trivial⟩, fun x hx => ?_⟩, turn_setOperationState ho
    (fun h => absurd rfl h) fun k hk h => ?_⟩
  · by_cases hid : x.id = o.id
    · have hsame : x = o := eq_of_key (mem_children.mp hx).1 (mem_of_get? ho) hid
      rw [hsame, hs]
      exact id
    refine (hall x ?_).2
    rw [children_setOperationState]
    exact List.mem_map.mpr ⟨x, hx, if_neg hid⟩
  cases hk
  obtain ⟨c, hc, hopen⟩ := h.1
  exact (hall c hc).1 hopen

end Operation

lemma Added.turn (h : Added q q' t ops) : Turn q q' none (some t) := by
  refine ⟨h.tickets_eq, ?_, ?_, h.linked, fun k _ hk => h.live (hk t rfl), by simp⟩
  · rintro _ ⟨⟩
    exact h.fresh
  rintro _ ⟨⟩
  exact h.unused

lemma Turn.trans {q'' : Queue D P} {gone : Option Uuid} {new : Option (Ticket D)}
    (h : Turn q q' gone none) (h' : Turn q' q'' none new)
    (hgone : ∀ k, some k = gone → ∀ t ∈ new, k ≠ t.id) : Turn q q'' gone new := by
  have htickets : tickets q' = tickets q := by
    rw [h.tickets_eq]
    exact List.append_nil _
  refine ⟨by rw [h'.tickets_eq, htickets], htickets ▸ h'.fresh, htickets ▸ h'.unused,
    fun hl => h'.linked (h.linked hl), fun k hk hnew => ?_, fun k hk => ?_⟩
  · exact (h'.live k (by simp) hnew).trans (h.live k hk (by simp))
  rw [h'.live k (by simp) (hgone k hk)]
  exact h.dead k hk

end Queue

end VonkForge.OperationGroups
