import VonkForge.PublicationTicks

/-!
# The order of the publisher's callers

The owner of the publication only ever changes to a later reconciliation.
-/

namespace VonkForge.AgentReconciliation

open AgentJobs Logged Transactions Table

variable {db db' : Database} {r : Reconciliation}

inductive PublicationEvent
  /-- `get_or_create_resolved_plan` stores a new reconciliation. -/
  | plan (r : Reconciliation)
  /-- One transaction of `tick`, for any candidate that it may have selected. -/
  | tick (view : TickView) (auto : Bool) (id : Uuid)
  | enqueueCancel (id : Uuid) (reason : String)
  | consumeResult (view : View) (op : StoredOperation) (attempt : AgentOperationAttempt)
      (message : AgentResult)
  /-- Any other transaction: it may write everything but the owner and the creation of
  reconciliations. -/
  | environment (tables : Database)

def keepsReconciliations (db tables : Database) : Bool :=
  db.reconciliations.rows.all fun r =>
    match tables.reconciliations.get? r.id with
    | some r' => r'.createdAt = r.createdAt
    | none => false

def publicationStep (db : Database) : PublicationEvent → Logged JobError PublisherCall Database
  | .plan r =>
    match db.reconciliations.insert
      { r with status := .planned, currentPhase := .planned, completionGeneration := none } with
    | some reconciliations => pure { db with reconciliations := reconciliations }
    | none => .lift (.error .integrityError)
  | .tick view auto id => do
    let (_, db') ← tickCandidate view auto db id
    pure db'
  | .enqueueCancel id reason => .lift (enqueueCancel db id reason)
  | .consumeResult view op attempt message => .lift (consumeResult view db op attempt message)
  | .environment tables =>
    if keepsReconciliations db tables then
      pure { tables with publicationOwner := db.publicationOwner }
    else .lift (.error .integrityError)

def commitStep (db : Database) (e : PublicationEvent) :
    Except JobError (Database × List PublisherCall) :=
  (publicationStep db e).commits

def after (events : List PublicationEvent) : Database := run commitStep {} events

def ownerRow (db : Database) : Option Reconciliation := (owner db).bind db.reconciliations.get?

/-- What a committed transaction with the calls `log` did to the ownership. -/
structure OwnerStep (db db' : Database) (log : List PublisherCall) : Prop where
  stored : ∀ o, owner db' = some o → ∃ q, db'.reconciliations.get? o = some q
  row : ∀ q, ownerRow db = some q → ∃ q', ownerRow db' = some q' ∧
    ((q'.id = q.id ∧ publicationOrder q' = publicationOrder q ∧
        ownerGeneration db' = ownerGeneration db) ∨
      (q'.id ≠ q.id ∧ publicationOrder q < publicationOrder q' ∧
        ownerGeneration db' = ownerGeneration db + 1))
  calls : ∀ k ∈ log, ∃ q, ownerRow db' = some q ∧ q.id = k.caller.id ∧
    publicationOrder q = publicationOrder k.caller
  same : ∀ k ∈ log, ∀ k' ∈ log, k.caller = k'.caller

section Step

lemma ownerRow_eq_some {q : Reconciliation} :
    ownerRow db = some q ↔ owner db = some q.id ∧ db.reconciliations.get? q.id = some q := by
  unfold ownerRow
  rw [Option.bind_eq_some_iff]
  constructor
  · rintro ⟨o, ho, hq⟩
    have hid : q.id = o := get?_key hq
    subst hid
    exact ⟨ho, hq⟩
  intro h
  exact ⟨q.id, h.1, h.2⟩

lemma Known.ownerRow_self (hk : Known r db) (ho : owner db = some r.id) :
    ∃ q, ownerRow db = some q ∧ q.id = r.id ∧ publicationOrder q = publicationOrder r := by
  obtain ⟨q, hq, hc⟩ := hk.self
  have hid : q.id = r.id := get?_key hq
  refine ⟨q, ownerRow_eq_some.mpr ⟨hid ▸ ho, hid ▸ hq⟩, hid, ?_⟩
  unfold publicationOrder
  rw [hc, hid]

lemma ownerStep_of_moves {log : List PublisherCall} (hk : Known r db) (hm : Moves r db db')
    (hlog : ∀ k ∈ log, k.caller = r) (ho : log ≠ [] → owner db' = some r.id) :
    OwnerStep db db' log := by
  have hk' := hm.known hk
  refine ⟨hk'.stored, ?_, ?_, fun k h k' h' => (hlog k h).trans (hlog k' h').symm⟩
  · intro q hq
    obtain ⟨hown, hstored⟩ := ownerRow_eq_some.mp hq
    rcases hm.moved with ⟨hsame, hgen⟩ | ⟨hnone, -⟩ | ht
    · obtain ⟨q', hq', hord⟩ := hm.keeps.order hstored
      have hid : q'.id = q.id := get?_key hq'
      exact ⟨q', ownerRow_eq_some.mpr ⟨hid ▸ hsame.trans hown, hid ▸ hq'⟩, .inl ⟨hid, hord, hgen⟩⟩
    · rw [hown] at hnone
      cases hnone
    obtain ⟨q', hq', hid, hord⟩ := hk'.ownerRow_self ht.after
    refine ⟨q', hq', .inr ⟨?_, hord ▸ ht.later q.id q hown hstored, ht.generation⟩⟩
    intro heq
    exact ht.before (by rw [hown, ← heq, hid])
  intro k hkm
  rw [hlog k hkm]
  exact hk'.ownerRow_self (ho (List.ne_nil_of_mem hkm))

lemma steady_enqueueCancel {id : Uuid} {reason : String}
    (h : enqueueCancel db id reason = .ok db') : Steady db db' := by
  unfold enqueueCancel at h
  split at h
  · cases h
  split at h
  · cases h
    exact .refl db
  obtain ⟨context, _, h⟩ := of_bind_ok h
  simp only at h
  split at h
  · cases h
  cases h
  exact steady_of_tables rfl rfl

lemma steady_environment {tables : Database} (h : keepsReconciliations db tables = true) :
    Steady db { tables with publicationOwner := db.publicationOwner } := by
  refine ⟨?_, rfl⟩
  intro id r hr
  have hid : r.id = id := get?_key hr
  subst hid
  have hrow := List.all_eq_true.mp h r (mem_of_get? hr)
  split at hrow
  · next r' hr' => exact ⟨r', hr', by simpa using hrow⟩
  cases hrow

variable (hs : ∀ o, owner db = some o → ∃ q, db.reconciliations.get? o = some q)

include hs

lemma ownerStep_of_steady (h : Steady db db') : OwnerStep db db' [] := by
  refine ⟨?_, ?_, fun k hk => (by cases hk), fun k hk => (by cases hk)⟩
  · intro o ho
    rw [h.owner_eq] at ho
    obtain ⟨q, hq⟩ := hs o ho
    obtain ⟨q', hq', -⟩ := h.keeps o q hq
    exact ⟨q', hq'⟩
  intro q hq
  obtain ⟨hown, hstored⟩ := ownerRow_eq_some.mp hq
  obtain ⟨q', hq', hord⟩ := h.keeps.order hstored
  have hid : q'.id = q.id := get?_key hq'
  have hgen : ownerGeneration db' = ownerGeneration db := by
    unfold ownerGeneration
    rw [h.owner]
  exact ⟨q', ownerRow_eq_some.mpr ⟨hid ▸ h.owner_eq.trans hown, hid ▸ hq'⟩,
    .inl ⟨hid, hord, hgen⟩⟩

lemma publicationStep_ensures (e : PublicationEvent) :
    Ensures (fun k => ∀ q, ownerRow db = some q → publicationOrder q ≤ publicationOrder k.caller)
      (fun log db' => OwnerStep db db' log) (publicationStep db e) := by
  cases e with
  | plan =>
    simp only [publicationStep]
    split
    · next reconciliations hins =>
      apply ensures_pure
      apply ownerStep_of_steady hs
      refine ⟨?_, rfl⟩
      exact fun id q hq => ⟨q, get?_insert_of_some hins hq, rfl⟩
    exact ensures_lift fun _ h => (by cases h)
  | tick view auto id =>
    simp only [publicationStep]
    cases hr : db.reconciliations.get? id with
    | none =>
      have herror : lockedContext db id = .error (.keyError id) := by
        unfold lockedContext
        rw [hr]
      unfold tickCandidate
      rw [herror]
      exact ⟨fun k hk => (by cases hk), fun _ h => (by cases h)⟩
    | some r =>
      have hid : r.id = id := get?_key hr
      have hk : Known r db := ⟨⟨r, hid ▸ hr, rfl⟩, hs⟩
      have htick := (@publishes_tickCandidate view db r auto id hr hk).with_calls
      have hcalls : ∀ k : PublisherCall, k.caller = r ∧ MayCall r db →
          ∀ q, ownerRow db = some q → publicationOrder q ≤ publicationOrder k.caller := by
        intro k hc q hq
        obtain ⟨ho, hstored⟩ := ownerRow_eq_some.mp hq
        rw [hc.1]
        exact hc.2 q.id q ho hstored
      apply (htick.mono hcalls fun _ _ h => h).bind
      intro log out hout
      apply ensures_pure
      rw [List.append_nil]
      exact ownerStep_of_moves hk hout.2.1 (fun k hk' => (hout.1 k hk').1) hout.2.2
  | enqueueCancel =>
    exact ensures_lift fun _ h => ownerStep_of_steady hs (steady_enqueueCancel h)
  | consumeResult =>
    exact ensures_lift fun _ h => ownerStep_of_steady hs (settled_consumeResult h).toSteady
  | environment =>
    simp only [publicationStep]
    split
    · next h => exact ensures_pure (ownerStep_of_steady hs (steady_environment h))
    exact ensures_lift fun _ h => (by cases h)

end Step

def OwnerStored (db : Database) : Prop :=
  ∀ o, owner db = some o → ∃ q, db.reconciliations.get? o = some q

variable {e : PublicationEvent} {calls : List PublisherCall}

lemma commitStep_owner (hs : OwnerStored db) (h : commitStep db e = .ok (db', calls)) :
    OwnerStep db db' calls := by
  obtain ⟨hresult, hlog⟩ := commits_eq_ok.mp h
  rw [← hlog]
  exact (publicationStep_ensures hs e).2 db' hresult

lemma ownerStored_run (hs : OwnerStored db) (events : List PublicationEvent) :
    OwnerStored (run commitStep db events) :=
  run_preserves (fun _ _ _ _ hs h => (commitStep_owner hs h).stored) hs events

lemma ownerStored_empty : OwnerStored {} := fun o h => (by cases h)

lemma ownerStored_after (events : List PublicationEvent) : OwnerStored (after events) :=
  ownerStored_run ownerStored_empty events

def Reached (db : Database) (r : Reconciliation) : Prop :=
  ∃ q, ownerRow db = some q ∧ publicationOrder r ≤ publicationOrder q

lemma Reached.step (hr : Reached db r) (hs : OwnerStored db)
    (h : commitStep db e = .ok (db', calls)) : Reached db' r := by
  obtain ⟨q, hq, hle⟩ := hr
  obtain ⟨q', hq', ⟨-, hord, -⟩ | ⟨-, hord, -⟩⟩ := (commitStep_owner hs h).row q hq
  · exact ⟨q', hq', hord ▸ hle⟩
  exact ⟨q', hq', le_of_lt (lt_of_le_of_lt hle hord)⟩

lemma Reached.run (hr : Reached db r) (hs : OwnerStored db) (events : List PublicationEvent) :
    Reached (run commitStep db events) r := by
  have hrun := @run_preserves _ _ _ _ commitStep (fun s => OwnerStored s ∧ Reached s r)
    (fun _ _ _ _ h hstep => ⟨(commitStep_owner h.1 hstep).stored, h.2.step h.1 hstep⟩)
    db ⟨hs, hr⟩ events
  exact hrun.2

lemma reached_of_call {k : PublisherCall} (hs : OwnerStored db)
    (h : commitStep db e = .ok (db', calls)) (hk : k ∈ calls) :
    Reached db' k.caller ∧ ∀ r, Reached db r → publicationOrder r ≤ publicationOrder k.caller := by
  obtain ⟨q, hq, -, hord⟩ := (commitStep_owner hs h).calls k hk
  refine ⟨⟨q, hq, le_of_eq hord.symm⟩, ?_⟩
  rintro r ⟨q', hq', hle⟩
  obtain ⟨-, hlog⟩ := commits_eq_ok.mp h
  exact le_trans hle ((publicationStep_ensures hs e).1 k (hlog ▸ hk) q' hq')

lemma calls_ordered (hs : OwnerStored db) (events : List PublicationEvent) :
    ((trace commitStep db events).flatMap fun x => x.2).Pairwise
      fun k k' => publicationOrder k.caller ≤ publicationOrder k'.caller := by
  refine (@trace_outputs_pairwise _ _ _ _ commitStep OwnerStored _ Prod.snd
    (fun k k' => publicationOrder k.caller ≤ publicationOrder k'.caller)
    (fun s k => Reached s k.caller) (fun _ _ _ _ hs h => (commitStep_owner hs h).stored)
    (fun _ _ _ _ _ hs h hr => hr.step hs h) ?_ db hs events).1
  intro s i t o hs h
  refine ⟨List.pairwise_of_forall_mem_list ?_, ?_⟩
  · intro k hk k' hk'
    rw [(commitStep_owner hs h).same k hk k' hk']
  intro k hk
  obtain ⟨hreached, hlater⟩ := reached_of_call hs h hk
  exact ⟨hreached, fun k' => hlater k'.caller⟩

/-- What holds after a list of transactions of their publisher calls and of the next one. -/
structure PublisherOrdered (events : List PublicationEvent) : Prop where
  /-- At the end of a transaction with a call its reconciliation is the owner. -/
  owned : ∀ e db' calls, commitStep (after events) e = .ok (db', calls) →
    ∀ k ∈ calls, owner db' = some k.caller.id
  /-- The owner stays, or is replaced by a later one under the next generation. -/
  generation : ∀ e db' calls o, commitStep (after events) e = .ok (db', calls) →
    owner (after events) = some o → ∃ o', owner db' = some o' ∧
      ownerGeneration db' = ownerGeneration (after events) + if o' = o then 0 else 1
  /-- The callers of the committed calls never get earlier. -/
  ordered : ((trace commitStep {} events).flatMap fun x => x.2).Pairwise
    fun k k' => publicationOrder k.caller ≤ publicationOrder k'.caller
  /-- Even a call whose transaction is rolled back is never made for a reconciliation that is
  earlier than one that has been the owner before. -/
  superseded : ∀ later e q, ownerRow (after events) = some q →
    ∀ k ∈ (publicationStep (after (events ++ later)) e).log,
      publicationOrder q ≤ publicationOrder k.caller

/-- In every run the publisher is called on behalf of later and later reconciliations. -/
theorem run_publisher_ordered (events : List PublicationEvent) : PublisherOrdered events where
  owned := by
    intro e db' calls h k hk
    obtain ⟨q, hq, hid, -⟩ := (commitStep_owner (ownerStored_after events) h).calls k hk
    rw [← hid]
    exact (ownerRow_eq_some.mp hq).1
  generation := by
    intro e db' calls o h ho
    obtain ⟨q, hq⟩ := ownerStored_after events o ho
    have hid : q.id = o := get?_key hq
    subst hid
    obtain ⟨q', hq', hstep⟩ := (commitStep_owner (ownerStored_after events) h).row q
      (ownerRow_eq_some.mpr ⟨ho, hq⟩)
    refine ⟨q'.id, (ownerRow_eq_some.mp hq').1, ?_⟩
    rcases hstep with ⟨hid, -, hgen⟩ | ⟨hid, -, hgen⟩
    · rw [if_pos hid, hgen, Nat.add_zero]
    rw [if_neg hid, hgen]
  ordered := calls_ordered ownerStored_empty events
  superseded := by
    intro later e q hq k hk
    have hreached : Reached (after (events ++ later)) q := by
      unfold after
      rw [run_append]
      exact Reached.run ⟨q, hq, le_refl _⟩ (ownerStored_after events) later
    obtain ⟨q', hq', hle⟩ := hreached
    have hcall := (publicationStep_ensures (ownerStored_after (events ++ later)) e).1 k hk q' hq'
    exact le_trans hle hcall

end VonkForge.AgentReconciliation
