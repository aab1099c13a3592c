import VonkForge.QueueFencing

/-!
# What the agent queue dispatches

A node runs at most one mutation at a time, and an operation that may not be reclaimed is
dispatched again only after an operator's answer.
-/

namespace VonkForge.AgentJobs

open Transactions Table

variable {c : AgentClaim} {call : Call} {db db' : Database} {nodeId : NodeId} {e : QueueEvent}
  {output : QueueOutput} {now : Time}

def Exclusive (db : Database) : Prop :=
  ∀ id id' o o', db.operations.get? id = some o → db.operations.get? id' = some o' →
    o.nodeId = o'.nodeId → o.kind.mutating = true → o'.kind.mutating = true →
    o.state = .running → o'.state = .running → id = id'

section Exclusion

lemma Exclusive.calm (h : Exclusive db) (hc : Calm db db') : Exclusive db' := by
  intro id id' o o' ho ho' hnode hm hm' hrun hrun'
  obtain ⟨p, hp, hs, hpr⟩ := hc.running_of ho hrun
  obtain ⟨p', hp', hs', hpr'⟩ := hc.running_of ho' hrun'
  rw [hs.nodeId, hs'.nodeId] at hnode
  rw [hs.kind] at hm
  rw [hs'.kind] at hm'
  exact h id id' p p' hp hp' hnode hm hm' hpr hpr'

lemma not_running_of_activeMutation {o x : StoredOperation} (h : activeMutation db o = false)
    (hx : db.operations.get? x.id = some x) (hnode : x.nodeId = o.nodeId) (hid : x.id ≠ o.id)
    (hm : x.kind.mutating = true) : x.state ≠ .running := by
  intro hrun
  have hall := List.any_eq_false.mp h x (mem_of_get? hx)
  simp [hnode, hid, hm, hrun] at hall

lemma Exclusive.dispatch (h : Exclusive db) (hd : Dispatch call nodeId c db db') :
    Exclusive db' := by
  obtain ⟨mid, s, quiet, selected, -, exclusive, -, hops⟩ := hd.started
  have hmid := h.calm quiet.toCalm
  have stored := selected.stored
  -- any other mutation of the node would have been active when the claim looked
  have hothers : ∀ id x, mid.operations.get? id = some x → id ≠ s.id → x.nodeId = s.nodeId →
      x.kind.mutating = true → s.kind.mutating = true → x.state ≠ .running := by
    intro id x hx hid hnode hm hms
    have hkey : x.id = id := get?_key hx
    subst hkey
    exact not_running_of_activeMutation (exclusive hms) hx hnode hid hm
  intro id id' o o' ho ho' hnode hm hm' hrun hrun'
  rw [hops] at ho ho'
  obtain ⟨x, hx, rfl⟩ := Option.map_eq_some_iff.mp ho
  obtain ⟨x', hx', rfl⟩ := Option.map_eq_some_iff.mp ho'
  by_cases hid : id = s.id
  · by_cases hid' : id' = s.id
    · rw [hid, hid']
    subst hid
    rw [stored] at hx
    cases hx
    simp only [if_true, if_neg hid', startedOperation] at hnode hm hm' hrun'
    exact absurd hrun' (hothers id' x' hx' hid' hnode.symm hm' hm)
  by_cases hid' : id' = s.id
  · subst hid'
    rw [stored] at hx'
    cases hx'
    simp only [if_true, if_neg hid, startedOperation] at hnode hm hm' hrun
    exact absurd hrun (hothers id x hx hid hnode hm hm')
  simp only [if_neg hid, if_neg hid'] at hnode hm hm' hrun hrun'
  exact hmid id id' x x' hx hx' hnode hm hm' hrun hrun'

lemma Exclusive.step (h : Exclusive db) (he : StepEffect now db db' e output) : Exclusive db' := by
  obtain hcalm | ⟨_, _, _, hd, -⟩ := he.calm_or_dispatch
  · exact h.calm hcalm
  exact h.dispatch hd

def runningMutations (db : Database) (nodeId : NodeId) : List StoredOperation :=
  db.operations.select fun o => o.nodeId = nodeId && o.kind.mutating && o.state = .running

lemma Exclusive.length_le_one (h : Exclusive db) (nodeId : NodeId) :
    (runningMutations db nodeId).length ≤ 1 := by
  have hnodup : ((runningMutations db nodeId).map Keyed.key).Nodup :=
    db.operations.nodup_keys.sublist (List.filter_sublist.map _)
  have hsame : ∀ o ∈ runningMutations db nodeId, ∀ o' ∈ runningMutations db nodeId,
      o.id = o'.id := by
    intro o ho o' ho'
    simp only [runningMutations, mem_select, Bool.and_eq_true, decide_eq_true_eq] at ho ho'
    obtain ⟨hmem, ⟨hn, hm⟩, hr⟩ := ho
    obtain ⟨hmem', ⟨hn', hm'⟩, hr'⟩ := ho'
    have hget := get?_of_mem hmem
    have hget' := get?_of_mem hmem'
    exact h o.id o'.id o o' hget hget' (hn.trans hn'.symm) hm hm' hr hr'
  generalize runningMutations db nodeId = l at hnodup hsame
  cases l with
  | nil => exact Nat.zero_le 1
  | cons o l =>
    cases l with
    | nil => exact Nat.le_refl 1
    | cons o' l =>
    have he := hsame o (by simp) o' (by simp)
    simp [he] at hnodup

/-- In every reachable state a node runs at most one mutation, whatever its lease. -/
theorem run_one_mutation (cfg : Config) (events : List (Time × QueueEvent)) (nodeId : NodeId) :
    (runningMutations (run (queueStep cfg) .initial events).db nodeId).length ≤ 1 := by
  apply Exclusive.length_le_one
  apply @run_preserves _ _ _ _ (queueStep cfg) (fun s => Exclusive s.db)
  · intro s e t o hs h
    exact hs.step (queueStep_effect h)
  intro id id' o o' ho
  cases ho

end Exclusion

section Dispatch

variable {D : Uuid → ℕ → Prop}

def AnswersFrom (D : Uuid → ℕ → Prop) (db : Database) : Prop :=
  ∀ id o n, db.operations.get? id = some o → Answered o n → D id n

variable {id : Uuid}

def claimKey (x : (Time × QueueEvent) × QueueOutput) : Option (Uuid × ℕ) :=
  match x.2 with
  | .claimed c => some (c.operationId, c.attempt)
  | _ => none

/-- The dispatches of one operation whose kind may not be reclaimed automatically. -/
def unsafeClaimKey (id : Uuid) (x : (Time × QueueEvent) × QueueOutput) : Option (Uuid × ℕ) :=
  match x.2 with
  | .claimed c =>
    if c.operationId = id ∧ c.operation.safeAutomaticReclaim = false then
      some (c.operationId, c.attempt)
    else none
  | _ => none

lemma claimKey_of_unsafeClaimKey {x : (Time × QueueEvent) × QueueOutput} {k : Uuid × ℕ}
    (h : unsafeClaimKey id x = some k) :
    claimKey x = some k ∧ k.1 = id ∧
      ∃ c, x.2 = .claimed c ∧ c.operation.safeAutomaticReclaim = false := by
  unfold unsafeClaimKey at h
  split at h
  · next c hc =>
    split at h
    · next hcond =>
      cases h
      exact ⟨by simp only [claimKey, hc], hcond.1, c, hc, hcond.2⟩
    cases h
  cases h

/-- An operator answered attempt `n` of the operation with a retry, in a committed transaction. -/
def RetryRecorded (tr : List ((Time × QueueEvent) × QueueOutput)) (id : Uuid) (n : ℕ) : Prop :=
  ∃ delay, ((delay, .disposition id (some .retry) (some n)), .done) ∈ tr

lemma answersFrom_initial : AnswersFrom D QueueState.initial.db := by
  intro id o n ho
  cases ho

section

variable (h : AnswersFrom D db)

include h

lemma AnswersFrom.quiet (hq : Quiet db db') : AnswersFrom D db' := by
  intro id o n ho hn
  obtain ⟨o', ho', hn'⟩ := hq.answered id o n ho hn
  exact h id o' n ho' hn'

lemma AnswersFrom.dispatch (hd : Dispatch call nodeId c db db') : AnswersFrom D db' := by
  obtain ⟨mid, s, quiet, -, -, -, -, hops⟩ := hd.started
  intro id o n ho hn
  rw [hops] at ho
  obtain ⟨x, hx, rfl⟩ := Option.map_eq_some_iff.mp ho
  apply h.quiet quiet id x n hx
  split at hn
  · exact hn
  exact hn

lemma AnswersFrom.step
    (hD : ∀ id n, e = .disposition id (some .retry) (some n) → output = .done → D id n)
    (he : StepEffect now db db' e output) : AnswersFrom D db' := by
  cases he with
  | quiet hq _ | beats hq _ | finishes hq _ _ => exact h.quiet hq
  | claims hd => exact h.dispatch hd
  | answers hr =>
    intro k o n ho hn
    rcases answered_recordDisposition hr ho hn with ⟨x, hx, hxn⟩ | ⟨rfl, rfl, rfl⟩
    · exact h k x n hx hxn
    exact hD k n rfl rfl

lemma Dispatch.answered (hd : Dispatch call nodeId c db db')
    (huncertain : c.operation.safeAutomaticReclaim = false) {n : ℕ} (hpos : 1 ≤ n)
    (hn : c.attempt = n + 1) : D c.operationId n := by
  obtain ⟨mid, s, quiet, selected, mayStart, -, hstarted, -⟩ := hd.started
  have hs : s.currentAttempt = n := by
    have hattempt := hstarted.attempt
    omega
  rw [hstarted.kind] at huncertain
  rw [hstarted.operationId]
  rcases mayStart with ⟨_, hzero⟩ | ⟨_, hsafe⟩ | ⟨_, hans⟩
  · omega
  · rw [huncertain] at hsafe
    cases hsafe
  rw [hs] at hans
  exact h.quiet quiet s.id s n selected.stored hans

lemma StepEffect.attempt_of_claim (he : StepEffect now db db' e (.claimed c))
    (huncertain : c.operation.safeAutomaticReclaim = false) (hD : ∀ n, ¬ D c.operationId n) :
    c.attempt = 1 := by
  cases he with
  | claims hd =>
  have hpos : 1 ≤ c.attempt := by
    obtain ⟨_, _, -, -, -, -, hstarted, -⟩ := hd.started
    have hattempt := hstarted.attempt
    omega
  by_contra hne
  obtain ⟨n, hn⟩ : ∃ n, c.attempt = n + 1 := ⟨c.attempt - 1, by omega⟩
  exact hD n (hd.answered h huncertain (by omega) hn)

end

section

variable (cfg : Config) (events : List (Time × QueueEvent))

lemma StepEffect.claim_fresh (he : StepEffect now db db' e (.claimed c)) :
    db.attempts.get? (c.operationId, c.attempt) = none ∧
      ∃ a, db'.attempts.get? (c.operationId, c.attempt) = some a := by
  cases he with
  | claims hd =>
  obtain ⟨mid, s, quiet, -, -, -, hstarted, -⟩ := hd.started
  rw [hstarted.operationId, hstarted.attempt]
  constructor
  · cases hget : db.attempts.get? (s.id, s.currentAttempt + 1) with
    | none => rfl
    | some a =>
      obtain ⟨a', ha', _⟩ := (quiet.toCalm.trans (calm_expirePrevious mid s)).attempt_to hget
      rw [hstarted.absent] at ha'
      cases ha'
  obtain ⟨_, hatts⟩ := hstarted.attempts
  rw [hatts, if_pos rfl]
  exact ⟨_, rfl⟩

lemma StepEffect.attempt_of (he : StepEffect now db db' e output) (x : Time × QueueEvent)
    {k : Uuid × ℕ} {a : AgentOperationAttempt} (ha : db'.attempts.get? k = some a) :
    (∃ b, db.attempts.get? k = some b) ∨ claimKey (x, output) = some k := by
  obtain hcalm | ⟨_, _, c, hd, rfl⟩ := he.calm_or_dispatch
  · exact .inl ((hcalm.attempt_of ha).imp fun _ h => h.1)
  obtain ⟨mid, o, quiet, -, -, -, hstarted, -⟩ := hd.started
  obtain ⟨serial, hattempts⟩ := hstarted.attempts
  rw [hattempts] at ha
  split_ifs at ha with hk
  · rw [hk, ← hstarted.operationId, ← hstarted.attempt]
    exact .inr rfl
  exact .inl (((quiet.toCalm.trans (calm_expirePrevious mid o)).attempt_of ha).imp fun _ h => h.1)

lemma claims_nodup {key : (Time × QueueEvent) × QueueOutput → Option (Uuid × ℕ)}
    (hkey : ∀ x k, key x = some k → claimKey x = some k) :
    ((trace (queueStep cfg) .initial events).filterMap key).Nodup := by
  apply And.left
  apply @trace_keys_nodup _ _ _ _ (queueStep cfg) (fun _ => True) _ key
    (fun s k => ∃ a, s.db.attempts.get? k = some a)
  · intro _ _ _ _ _ _
    trivial
  · rintro s e t o k _ h ⟨a, ha⟩
    obtain ⟨a', ha', _⟩ := (queueStep_effect h).attempt_to ha
    exact ⟨a', ha'⟩
  · intro s e t o k _ h hk
    have hclaim := hkey _ k hk
    unfold claimKey at hclaim
    split at hclaim
    · next c ho =>
      subst ho
      cases hclaim
      obtain ⟨hnone, hsome⟩ := (queueStep_effect h).claim_fresh
      refine ⟨?_, hsome⟩
      rintro ⟨a, ha⟩
      rw [hnone] at ha
      cases ha
    cases hclaim
  trivial

lemma AnswersFrom.commit {cfg : Config} {s t : QueueState} {e : Time × QueueEvent}
    {tr : List ((Time × QueueEvent) × QueueOutput)} (hs : AnswersFrom (RetryRecorded tr) s.db)
    (hmem : ∀ t o, queueStep cfg s e = .ok (t, o) → (e, o) ∈ tr)
    (h : queueStep cfg s e = .ok (t, output)) : AnswersFrom (RetryRecorded tr) t.db := by
  apply hs.step ?_ (queueStep_effect h)
  intro id n he ho
  obtain ⟨delay, e⟩ := e
  cases he
  cases ho
  exact ⟨delay, hmem t .done h⟩

lemma answersFrom_trace :
    AnswersFrom (RetryRecorded (trace (queueStep cfg) .initial events))
      (run (queueStep cfg) .initial events).db :=
  @run_preserves_of_along _ _ _ _ (queueStep cfg) _
    (fun s => AnswersFrom (RetryRecorded (trace (queueStep cfg) .initial events)) s.db)
    (fun _ _ _ _ hs hmem h => hs.commit hmem h) .initial events answersFrom_initial
    (along_mem_trace QueueState.initial events)

lemma unsafeClaims_first
    (hnone : ∀ n, ¬ RetryRecorded (trace (queueStep cfg) .initial events) id n) :
    ∀ k ∈ (trace (queueStep cfg) .initial events).filterMap (unsafeClaimKey id), k = (id, 1) := by
  intro k hk
  obtain ⟨x, hx, hkey⟩ := List.mem_filterMap.mp hk
  have hall := @forall_trace _ _ _ _ (queueStep cfg) _
    (fun s => AnswersFrom (RetryRecorded (trace (queueStep cfg) .initial events)) s.db)
    (fun e o => unsafeClaimKey id (e, o) = some k → k = (id, 1)) ?_ .initial events
    answersFrom_initial (along_mem_trace QueueState.initial events)
  · exact hall x hx hkey
  intro s e t o hs hmem h
  refine ⟨hs.commit hmem h, ?_⟩
  intro hkey
  obtain ⟨hclaim, hid, c, hc, huncertain⟩ := claimKey_of_unsafeClaimKey hkey
  subst hc
  cases hclaim
  subst hid
  rw [(queueStep_effect h).attempt_of_claim hs huncertain hnone]

end

/-- An operation that may not be reclaimed automatically is dispatched as attempt `n + 1` only after
an operator answered attempt `n` with a retry. -/
theorem run_dispatch_answered (cfg : Config) (events : List (Time × QueueEvent)) :
    (∀ e t c n, queueStep cfg (run (queueStep cfg) .initial events) e = .ok (t, .claimed c) →
      c.operation.safeAutomaticReclaim = false → 1 ≤ n → c.attempt = n + 1 →
        RetryRecorded (trace (queueStep cfg) .initial events) c.operationId n) ∧
    (∀ id, (∀ n, ¬ RetryRecorded (trace (queueStep cfg) .initial events) id n) →
      ((trace (queueStep cfg) .initial events).filterMap (unsafeClaimKey id)).length ≤ 1) := by
  constructor
  · intro e t c n h huncertain hpos hn
    have heff := queueStep_effect h
    generalize e.2 = event at heff
    cases heff with
    | claims hd => exact hd.answered (answersFrom_trace cfg events) huncertain hpos hn
  intro id hnone
  have hall := List.eq_replicate_of_mem (unsafeClaims_first cfg events hnone)
  have hnodup := @claims_nodup cfg events (unsafeClaimKey id)
    fun x k hk => (claimKey_of_unsafeClaimKey hk).1
  rw [hall, List.nodup_replicate] at hnodup
  exact hnodup

/-- In every run the claims of an operation are its attempts, from the first to the current one, and
each of them was claimed once. -/
theorem claims_are_attempts (cfg : Config) (events : List (Time × QueueEvent)) :
    ((trace (queueStep cfg) .initial events).filterMap claimKey).Nodup ∧
    ∀ id n, (id, n) ∈ (trace (queueStep cfg) .initial events).filterMap claimKey ↔
      ∃ o, (run (queueStep cfg) .initial events).db.operations.get? id = some o ∧
        1 ≤ n ∧ n ≤ o.currentAttempt := by
  refine ⟨claims_nodup cfg events fun _ _ h => h, fun id n => ?_⟩
  rw [← (Fenced.run cfg events).numbered, List.filterMap_eq_flatMap_toList]
  have hseen := @seen_run_iff _ _ _ _ (queueStep cfg) (fun _ => True) _
    (fun o => (claimKey ((0, .rolloutExpiry 0), o)).toList)
    (fun s k => ∃ a, s.db.attempts.get? k = some a) (fun _ _ _ _ _ _ => trivial) ?_ .initial trivial
    events (id, n)
  · rw [hseen]
    constructor
    · exact .inr
    rintro (⟨a, ha⟩ | h)
    · cases ha
    exact h
  intro s e t o k _ h
  have he := queueStep_effect h
  constructor
  · rintro ⟨a, ha⟩
    exact (he.attempt_of _ ha).imp_right Option.mem_toList.mpr
  rintro (⟨a, ha⟩ | hk)
  · obtain ⟨a', ha', -⟩ := he.attempt_to ha
    exact ⟨a', ha'⟩
  cases o with
  | claimed c =>
    cases Option.mem_toList.mp hk
    exact he.claim_fresh.2
  | _ => cases hk

end Dispatch

end VonkForge.AgentJobs
