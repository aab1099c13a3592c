import VonkForge.QueueRuns

/-!
# Fencing, mutual exclusion and dispatch of the agent queue

Attempts are numbered and fenced, mutations exclude each other, retries are an operator's.
-/

namespace VonkForge.AgentJobs

open Transactions Table

variable {c : AgentClaim} {a : AgentOperationAttempt} {db db' : Database} {o : StoredOperation}
  {now : Time} {k : Uuid × ℕ}

/-- The start of an attempt writes one operation and adds one attempt, under a fresh fence. -/
structure Started (now : Time) (db : Database) (o : StoredOperation) (c : AgentClaim)
    (db' : Database) : Prop where
  operationId : c.operationId = o.id
  attempt : c.attempt = o.currentAttempt + 1
  nodeId : c.nodeId = o.nodeId
  kind : c.operation = o.kind
  fresh : ∀ a ∈ db.attempts.rows, a.fence ≠ c.fence
  absent : db.attempts.get? (o.id, o.currentAttempt + 1) = none
  operations : ∀ k, db'.operations.get? k = (db.operations.get? k).map fun x =>
    if k = o.id then startedOperation (o.currentAttempt + 1) now x else x
  attempts : ∃ serial, ∀ k, db'.attempts.get? k =
    if k = (o.id, o.currentAttempt + 1) then
      some ⟨o.id, o.currentAttempt + 1, c.fence, c.deadline, serial, .running, none⟩
    else db.attempts.get? k

lemma startAttempt_started {serial : Serial} {fence : Uuid} {deadline : Time}
    (h : startAttempt db now o serial fence deadline = .ok (some c, db')) :
    Started now db o c db' := by
  obtain ⟨d, hd, h⟩ := of_bind_ok h
  cases h
  unfold insertAttempt at hd
  split at hd
  · cases hd
  next hfence =>
  split at hd
  · next attempts hi =>
    cases hd
    refine ⟨rfl, rfl, rfl, rfl, ?_, (insert_eq_some.mp hi).1, ?_, serial, ?_⟩
    · intro a ha he
      apply hfence
      rw [List.any_eq_true]
      exact ⟨a, ha, by simpa using he⟩
    · intro k
      exact get?_setOperation db o.id (startedOperation (o.currentAttempt + 1) now) (fun _ => rfl) k
    intro k
    exact get?_insert hi k
  cases hd

lemma Dispatch.started (h : Dispatch call nodeId c db db') :
    ∃ mid o, Quiet db mid ∧ Selected call nodeId mid o ∧ MayStart o ∧
      (o.kind.mutating = true → activeMutation mid o = false) ∧
      Started call.now (expirePrevious mid o) o c db' ∧
      ∀ k, db'.operations.get? k = (mid.operations.get? k).map fun x =>
        if k = o.id then startedOperation (o.currentAttempt + 1) call.now x else x := by
  obtain ⟨quiet, selected, mayStart, exclusive, starts⟩ := h
  have hstarted := startAttempt_started starts
  refine ⟨_, _, quiet, selected, mayStart, exclusive, hstarted, fun k => ?_⟩
  rw [hstarted.operations, operations_expirePrevious]

lemma Started.attempt_to (h : Started now db o c db') (ha : db.attempts.get? k = some a) :
    db'.attempts.get? k = some a := by
  obtain ⟨serial, hatts⟩ := h.attempts
  rw [hatts]
  split
  · next hk =>
    rw [hk, h.absent] at ha
    cases ha
  exact ha

/-- Attempts are numbered without gaps, only the last one can run, and fences are unique. -/
structure Fenced (db : Database) : Prop where
  numbered : ∀ id n, (∃ a, db.attempts.get? (id, n) = some a) ↔
    ∃ o, db.operations.get? id = some o ∧ 1 ≤ n ∧ n ≤ o.currentAttempt
  current : ∀ id n a o, db.attempts.get? (id, n) = some a → a.state = .running →
    db.operations.get? id = some o → n = o.currentAttempt
  fences : ∀ k k' a a', db.attempts.get? k = some a → db.attempts.get? k' = some a' →
    a.fence = a'.fence → k = k'

section Fencing

variable {call : Call} {nodeId : NodeId}

lemma fenced_empty : Fenced {} where
  numbered id n := by
    constructor
    · rintro ⟨a, ha⟩
      cases ha
    rintro ⟨o, ho, _⟩
    cases ho
  current id n a o ha := by cases ha
  fences k k' a a' ha := by cases ha

lemma Fenced.calm (h : Fenced db) (hc : Calm db db') : Fenced db' where
  numbered id n := by
    constructor
    · rintro ⟨a', ha'⟩
      obtain ⟨a, ha, _⟩ := hc.attempt_of ha'
      obtain ⟨o, ho, hn⟩ := (h.numbered id n).mp ⟨a, ha⟩
      obtain ⟨o', ho', hs⟩ := hc.operation_to ho
      exact ⟨o', ho', by rw [hs.currentAttempt]; exact hn⟩
    rintro ⟨o', ho', hn⟩
    rcases hc.operation_of ho' with ⟨o, ho, hs⟩ | ⟨_, hf⟩
    · rw [hs.currentAttempt] at hn
      obtain ⟨a, ha⟩ := (h.numbered id n).mpr ⟨o, ho, hn⟩
      obtain ⟨a', ha', _⟩ := hc.attempt_to ha
      exact ⟨a', ha'⟩
    have hzero := hf.currentAttempt
    omega
  current := by
    intro id n a' o' ha' hrun ho'
    obtain ⟨a, ha, hcl⟩ := hc.attempt_of ha'
    obtain ⟨o, ho, _⟩ := (h.numbered id n).mp ⟨a, ha⟩
    obtain ⟨o'', ho'', hs⟩ := hc.operation_to ho
    rw [ho'] at ho''
    cases ho''
    rw [hs.currentAttempt]
    exact h.current id n a o ha (hcl.running hrun) ho
  fences := by
    intro k k' a b ha hb he
    obtain ⟨a₀, ha₀, hac⟩ := hc.attempt_of ha
    obtain ⟨b₀, hb₀, hbc⟩ := hc.attempt_of hb
    exact h.fences k k' a₀ b₀ ha₀ hb₀ (by rw [← hac.fence, ← hbc.fence, he])

variable {e : QueueEvent} {output : QueueOutput}

section

variable (h : Fenced db) (hstored : db.operations.get? o.id = some o)
  (hprev : ∀ a, o.currentAttempt ≠ 0 → db.attempts.get? (o.id, o.currentAttempt) = some a →
    a.state ≠ .running)

include h hstored hprev

lemma Fenced.not_running {n : ℕ} (ha : db.attempts.get? (o.id, n) = some a) :
    a.state ≠ .running := by
  intro hrun
  have hn := h.current o.id n a o ha hrun hstored
  obtain ⟨o', ho', hpos, _⟩ := (h.numbered o.id n).mp ⟨a, ha⟩
  subst hn
  exact hprev a (by omega) ha hrun

lemma Fenced.started (hs : Started now db o c db') : Fenced db' := by
  obtain ⟨serial, hatts⟩ := hs.attempts
  have hops := hs.operations
  refine ⟨?_, ?_, ?_⟩
  · intro id n
    rw [hops, hatts]
    by_cases hid : id = o.id
    · subst hid
      simp only [hstored, Option.map_some, if_true, Option.some.injEq, exists_eq_left',
        startedOperation]
      by_cases hn : n = o.currentAttempt + 1
      · subst hn
        simp
      have hold := h.numbered o.id n
      simp only [hstored, Option.some.injEq, exists_eq_left'] at hold
      simp only [Prod.mk.injEq, hn, and_false, if_false, hold]
      omega
    simp only [Prod.mk.injEq, hid, false_and, if_false, Option.map_id']
    exact h.numbered id n
  · intro id n a x ha hrun hx
    rw [hops] at hx
    rw [hatts] at ha
    obtain ⟨y, hy, rfl⟩ := Option.map_eq_some_iff.mp hx
    split at ha
    · next hk =>
      cases hk
      simp [startedOperation]
    next hk =>
    by_cases hid : id = o.id
    · subst hid
      exact absurd hrun (h.not_running hstored hprev ha)
    simp only [hid, if_false]
    exact h.current id n a y ha hrun hy
  intro k k' a b ha hb he
  rw [hatts] at ha hb
  split at ha
  · next hk =>
    split at hb
    · next hk' => rw [hk, hk']
    cases ha
    exact absurd he.symm (hs.fresh b (mem_of_get? hb))
  split at hb
  · cases hb
    exact absurd he (hs.fresh a (mem_of_get? ha))
  exact h.fences k k' a b ha hb he

end

lemma Fenced.dispatch (h : Fenced db) (hd : Dispatch call nodeId c db db') : Fenced db' := by
  obtain ⟨mid, o, quiet, selected, -, -, hstarted, -⟩ := hd.started
  have hclosed := h.calm (quiet.toCalm.trans (calm_expirePrevious mid o))
  apply hclosed.started ?_ ?_ hstarted
  · rw [operations_expirePrevious]
    exact selected.stored
  intro a hpos ha
  exact expirePrevious_closes hpos ha

lemma Fenced.step (h : Fenced db) (he : StepEffect now db db' e output) : Fenced db' := by
  obtain hcalm | ⟨_, _, _, hd, -⟩ := he.calm_or_dispatch
  · exact h.calm hcalm
  exact h.dispatch hd

lemma Fenced.run (cfg : Config) (events : List (Time × QueueEvent)) :
    Fenced (run (queueStep cfg) .initial events).db :=
  @run_preserves _ _ _ _ (queueStep cfg) (fun s => Fenced s.db)
    (fun _ _ _ _ hs h => hs.step (queueStep_effect h)) .initial fenced_empty events

def Current (db : Database) (a : AgentOperationAttempt) : Prop :=
  ∃ o, db.operations.get? a.operationId = some o ∧ o.currentAttempt = a.attempt

def Superseded (db : Database) (a : AgentOperationAttempt) : Prop :=
  ∃ o, db.operations.get? a.operationId = some o ∧ a.attempt < o.currentAttempt

lemma Fenced.current_of_accepted (h : Fenced db) {token : Uuid} (ha : Accepted now token db a) :
    Current db a := by
  obtain ⟨o, ho⟩ := ha.operation
  refine ⟨o, ho, ?_⟩
  have hget := get?_of_mem ha.stored
  exact (h.current a.operationId a.attempt a o hget ha.running ho).symm

lemma Fenced.not_superseded (h : Fenced db) {b : AgentOperationAttempt}
    (ha : Accepted now b.fence db a) (hb : b ∈ db.attempts.rows) : ¬ Superseded db b := by
  rintro ⟨o, ho, hlt⟩
  have hga := get?_of_mem ha.stored
  have hgb := get?_of_mem hb
  have hk := h.fences _ _ a b hga hgb ha.fence
  have hab : a = b := eq_of_key ha.stored hb hk
  subst hab
  obtain ⟨o', ho', he⟩ := h.current_of_accepted ha
  rw [ho] at ho'
  cases ho'
  omega

lemma StepEffect.closes (he : StepEffect now db db' e (.finished a)) :
    (∃ token, Accepted now token db a) ∧
      ∃ b, db'.attempts.get? (a.operationId, a.attempt) = some b ∧ b.state ≠ .running := by
  cases he with
  | finishes hq hacc hclosed =>
    obtain ⟨b, hb, _⟩ := hq.attempt_to (get?_of_mem hacc.stored)
    exact ⟨⟨_, hacc⟩, b, hb, hclosed b hb⟩

def resultKey (x : (Time × QueueEvent) × QueueOutput) : Option (Uuid × ℕ) :=
  match x.2 with
  | .finished a => some (a.operationId, a.attempt)
  | _ => none

def Closed (db : Database) (k : Uuid × ℕ) : Prop :=
  ∃ a, db.attempts.get? k = some a ∧ a.state ≠ .running

section

variable (he : StepEffect now db db' e output)

include he

lemma StepEffect.accepted (ha : output.accepted = some a) :
    ∃ fence, e.fence? = some fence ∧ Accepted now fence.token db a := by
  cases he with
  | quiet _ | answers _ | claims _ => cases ha
  | beats _ hacc | finishes _ hacc _ =>
    cases ha
    exact ⟨_, rfl, hacc⟩

lemma StepEffect.accepts {fence : AgentFence} (hf : e.fence? = some fence) :
    ∃ a, Accepted now fence.token db a := by
  cases he with
  | quiet _ hn =>
    rw [hf] at hn
    cases hn
  | answers _ | claims _ => cases hf
  | beats _ hacc | finishes _ hacc _ =>
    cases hf
    exact ⟨_, hacc⟩

lemma StepEffect.attempt_to (ha : db.attempts.get? k = some a) :
    ∃ a', db'.attempts.get? k = some a' ∧ Closes a a' := by
  obtain hcalm | ⟨_, _, _, hd, -⟩ := he.calm_or_dispatch
  · exact hcalm.attempt_to ha
  obtain ⟨mid, o, quiet, -, -, -, hstarted, -⟩ := hd.started
  obtain ⟨a', ha', hcl⟩ := (quiet.toCalm.trans (calm_expirePrevious mid o)).attempt_to ha
  exact ⟨a', hstarted.attempt_to ha', hcl⟩

end

lemma Closed.step (h : Closed db k) (he : StepEffect now db db' e output) : Closed db' k := by
  obtain ⟨a, ha, hrun⟩ := h
  obtain ⟨a', ha', hcl⟩ := he.attempt_to ha
  exact ⟨a', ha', fun hr => hrun (hcl.running hr)⟩

/-- The queue is fenced in every run: messages are accepted from the current attempt only, and no
attempt has two results. -/
theorem run_queue_fenced (cfg : Config) (events : List (Time × QueueEvent)) :
    Fenced (run (queueStep cfg) .initial events).db ∧
    (∀ e t output a, queueStep cfg (run (queueStep cfg) .initial events) e = .ok (t, output) →
      output.accepted = some a →
        a ∈ (run (queueStep cfg) .initial events).db.attempts.rows ∧ a.state = .running ∧
        Current (run (queueStep cfg) .initial events).db a ∧
        (run (queueStep cfg) .initial events).clock + e.1 < a.leaseDeadline) ∧
    (∀ a ∈ (run (queueStep cfg) .initial events).db.attempts.rows,
      Superseded (run (queueStep cfg) .initial events).db a →
        ∀ e, e.2.fence? = some (.bare a.fence) → ∀ t output,
          queueStep cfg (run (queueStep cfg) .initial events) e ≠ .ok (t, output)) ∧
    ((trace (queueStep cfg) .initial events).filterMap resultKey).Nodup := by
  have hfenced := Fenced.run cfg events
  refine ⟨hfenced, ?_, ?_, ?_⟩
  · intro e t output a hstep hacc
    obtain ⟨fence, _, ha⟩ := (queueStep_effect hstep).accepted hacc
    exact ⟨ha.stored, ha.running, hfenced.current_of_accepted ha, ha.lease⟩
  · intro a ha hsup e hf t output hstep
    obtain ⟨b, hb⟩ := (queueStep_effect hstep).accepts hf
    exact hfenced.not_superseded hb ha hsup
  apply And.left
  apply @trace_keys_nodup _ _ _ _ (queueStep cfg) (fun s => Fenced s.db) _ resultKey
    (fun s k => Closed s.db k)
  · intro s e t o hs h
    exact hs.step (queueStep_effect h)
  · intro s e t o k _ h hc
    exact hc.step (queueStep_effect h)
  · intro s e t o k hs h hk
    have heff := queueStep_effect h
    unfold resultKey at hk
    split at hk
    · next a ho =>
      subst ho
      cases hk
      obtain ⟨⟨_, hacc⟩, hclosed⟩ := heff.closes
      refine ⟨?_, hclosed⟩
      rintro ⟨b, hb, hrun⟩
      have hab := (get?_of_mem hacc.stored).symm.trans hb
      cases hab
      exact hrun hacc.running
    cases hk
  exact fenced_empty

end Fencing

end VonkForge.AgentJobs
