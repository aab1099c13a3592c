import VonkForge.PublicationEffects

/-!
# Who may call the publisher

A tick calls the publisher for a reconciliation that owns the publication or is later than its
owner.
-/

namespace VonkForge.AgentReconciliation

open AgentJobs LeaseHandoff Logged

variable {maySupersede : Bool} {db mid db' : Database} {r : Reconciliation}

/-- The reconciliation of the tick is stored as it was read, and so is the owner. -/
structure Known (r : Reconciliation) (db : Database) : Prop where
  self : ∃ q, db.reconciliations.get? r.id = some q ∧ q.createdAt = r.createdAt
  stored : ∀ o, owner db = some o → ∃ q, db.reconciliations.get? o = some q

structure Transferred (r : Reconciliation) (db db' : Database) : Prop where
  before : owner db ≠ some r.id
  after : owner db' = some r.id
  generation : ownerGeneration db' = ownerGeneration db + 1
  later : ∀ o q, owner db = some o → db.reconciliations.get? o = some q →
    publicationOrder q < publicationOrder r

/-- What a tick of `r` may do to the ownership: nothing, give it to somebody when nobody has it,
or transfer it to `r`. -/
structure Moves (r : Reconciliation) (db db' : Database) : Prop where
  keeps : Keeps db db'
  known : Known r db → Known r db'
  moved : (owner db' = owner db ∧ ownerGeneration db' = ownerGeneration db) ∨
    (owner db = none ∧ ownerGeneration db' = ownerGeneration db) ∨ Transferred r db db'

section Moves

lemma Steady.owner_eq (h : Steady db db') :
    AgentReconciliation.owner db' = AgentReconciliation.owner db := by
  unfold AgentReconciliation.owner
  rw [h.owner]

lemma Known.steady (hk : Known r db) (h : Steady db db') : Known r db' := by
  obtain ⟨q, hq, hc⟩ := hk.self
  obtain ⟨q', hq', hc'⟩ := h.keeps r.id q hq
  refine ⟨⟨q', hq', hc'.trans hc⟩, ?_⟩
  intro o ho
  rw [h.owner_eq] at ho
  obtain ⟨p, hp⟩ := hk.stored o ho
  obtain ⟨p', hp', -⟩ := h.keeps o p hp
  exact ⟨p', hp'⟩

lemma Steady.moves (h : Steady db db') : Moves r db db' := by
  refine ⟨h.keeps, fun hk => hk.steady h, .inl ⟨h.owner_eq, ?_⟩⟩
  unfold ownerGeneration
  rw [h.owner]

lemma Moves.refl (r : Reconciliation) (db : Database) : Moves r db db := (Steady.refl db).moves

lemma Moves.trans (h : Moves r db mid) (h' : Moves r mid db') : Moves r db db' := by
  refine ⟨h.keeps.trans h'.keeps, fun hk => h'.known (h.known hk), ?_⟩
  rcases h.moved with ⟨ho, hg⟩ | ⟨ho, hg⟩ | ht
  · rcases h'.moved with ⟨ho', hg'⟩ | ⟨ho', hg'⟩ | ht'
    · exact .inl ⟨ho'.trans ho, hg'.trans hg⟩
    · exact .inr (.inl ⟨ho.symm.trans ho', hg'.trans hg⟩)
    refine .inr (.inr ⟨ho ▸ ht'.before, ht'.after, by rw [ht'.generation, hg], ?_⟩)
    intro o q hown hq
    obtain ⟨q', hq', hord⟩ := h.keeps.order hq
    exact hord ▸ ht'.later o q' (ho.trans hown) hq'
  · rcases h'.moved with ⟨-, hg'⟩ | ⟨-, hg'⟩ | ht'
    · exact .inr (.inl ⟨ho, hg'.trans hg⟩)
    · exact .inr (.inl ⟨ho, hg'.trans hg⟩)
    refine .inr (.inr ⟨by simp [ho], ht'.after, by rw [ht'.generation, hg], ?_⟩)
    intro o q hown
    rw [ho] at hown
    cases hown
  rcases h'.moved with ⟨ho', hg'⟩ | ⟨ho', -⟩ | ht'
  · exact .inr (.inr ⟨ht.before, ho'.trans ht.after, hg'.trans ht.generation, ht.later⟩)
  · rw [ht.after] at ho'
    cases ho'
  exact absurd ht.after ht'.before

lemma Moves.owner_self (h : Moves r db db') (ho : owner db = some r.id) :
    owner db' = some r.id := by
  rcases h.moved with ⟨ho', -⟩ | ⟨hnone, -⟩ | ht
  · exact ho'.trans ho
  · rw [ho] at hnone
    cases hnone
  exact ht.after

/-- `r` is not superseded: no owner is later. -/
def MayCall (r : Reconciliation) (db : Database) : Prop :=
  ∀ o q, owner db = some o → db.reconciliations.get? o = some q →
    publicationOrder q ≤ publicationOrder r

lemma Known.mayCall (hk : Known r db) (ho : owner db = some r.id) : MayCall r db := by
  intro o q hown hq
  rw [ho] at hown
  cases hown
  obtain ⟨p, hp, hc⟩ := hk.self
  obtain rfl : p = q := Option.mem_unique hp hq
  have hid : p.id = r.id := Table.get?_key hp
  unfold publicationOrder
  rw [hc, hid]

lemma MayCall.of_moves (h : Moves r db db') (hc : MayCall r db') : MayCall r db := by
  intro o q ho hq
  rcases h.moved with ⟨ho', -⟩ | ⟨hnone, -⟩ | ht
  · obtain ⟨q', hq', hord⟩ := h.keeps.order hq
    exact hord ▸ hc o q' (ho'.trans ho) hq'
  · rw [ho] at hnone
    cases hnone
  exact le_of_lt (ht.later o q ho hq)

lemma owner_publicationOwner :
    owner (publicationOwner db).2 = (publicationOwner db).1.reconciliationId := rfl

lemma publicationOwner_of_none (h : owner db = none) :
    (publicationOwner db).1.reconciliationId = latestCompleted db := by
  unfold publicationOwner
  cases hrow : db.publicationOwner with
  | none => rfl
  | some row =>
    have ho : row.reconciliationId = none := by simpa [owner, hrow] using h
    simp [ho]

lemma ownerGeneration_publicationOwner :
    ownerGeneration (publicationOwner db).2 = ownerGeneration db := by
  unfold ownerGeneration publicationOwner
  simp only [Option.getD_some]
  split <;> rfl

lemma moves_publicationOwner : Moves r db (publicationOwner db).2 := by
  have hkeeps : Keeps db (publicationOwner db).2 := fun id q hq => ⟨q, hq, rfl⟩
  cases ho : owner db with
  | some o =>
    have hsame : owner (publicationOwner db).2 = owner db := by
      obtain ⟨row, hrow, hid⟩ := Option.bind_eq_some_iff.mp ho
      rw [owner_publicationOwner, ho]
      simp [publicationOwner, hrow, hid]
    exact ⟨hkeeps, fun hk => ⟨hk.self, fun o' ho' => hk.stored o' (hsame ▸ ho')⟩,
      .inl ⟨hsame, ownerGeneration_publicationOwner⟩⟩
  | none =>
    refine ⟨hkeeps, ?_, .inr (.inl ⟨ho, ownerGeneration_publicationOwner⟩)⟩
    intro hk
    refine ⟨hk.self, ?_⟩
    intro o ho'
    rw [owner_publicationOwner, publicationOwner_of_none ho] at ho'
    obtain ⟨q, hq, rfl⟩ := Option.map_eq_some_iff.mp ho'
    exact ⟨q, Table.get?_of_mem (Table.mem_of_firstBy hq).1⟩

lemma ownsPublication_cases (h : (ownsPublication db r maySupersede).1 = true) :
    owner (publicationOwner db).2 = some r.id ∨ (maySupersede = true ∧
      ∀ o q, owner (publicationOwner db).2 = some o →
        (publicationOwner db).2.reconciliations.get? o = some q →
        publicationOrder q < publicationOrder r) := by
  rw [owner_publicationOwner]
  unfold ownsPublication at h
  simp only at h
  split at h
  · next ho => exact .inl ho
  right
  split at h
  · next hnone =>
    refine ⟨(Bool.and_eq_true _ _ ▸ h).1, ?_⟩
    intro o q ho hq
    rw [ho, Option.bind_some, hq] at hnone
    cases hnone
  next current hcurrent =>
  split_ifs at h with hterm hold
  · push Not at hold
    refine ⟨by simpa using hold.1, ?_⟩
    intro o q ho hq
    rw [ho, Option.bind_some, hq] at hcurrent
    cases hcurrent
    exact hold.2

lemma ownsPublication_self (h : (ownsPublication db r false).1 = true) :
    owner (ownsPublication db r false).2 = some r.id := by
  rw [ownsPublication_db]
  rcases ownsPublication_cases h with ho | ⟨hfalse, -⟩
  · exact ho
  cases hfalse

lemma moves_ownsPublication (maySupersede : Bool) :
    Moves r db (ownsPublication db r maySupersede).2 :=
  ownsPublication_db db r maySupersede ▸ moves_publicationOwner

lemma Known.mayCall_of_owns (hk : Known r db) (h : (ownsPublication db r maySupersede).1 = true) :
    MayCall r (ownsPublication db r maySupersede).2 := by
  rw [ownsPublication_db]
  rcases ownsPublication_cases h with ho | ⟨-, hlater⟩
  · exact (moves_publicationOwner.known hk).mayCall ho
  exact fun o q ho hq => le_of_lt (hlater o q ho hq)

lemma moves_setOwner (hne : owner db ≠ some r.id)
    (hlater : ∀ o q, owner db = some o → db.reconciliations.get? o = some q →
      publicationOrder q < publicationOrder r) :
    Moves r db (setOwner db r.id (ownerGeneration db + 1)) := by
  refine ⟨fun id q hq => ⟨q, hq, rfl⟩, ?_, .inr (.inr ⟨hne, rfl, rfl, hlater⟩)⟩
  intro hk
  refine ⟨hk.self, ?_⟩
  intro o ho
  cases ho
  obtain ⟨q, hq, -⟩ := hk.self
  exact ⟨q, hq⟩

lemma transferPublicationOwner_owner (h : transferPublicationOwner db r = .ok db') :
    Moves r db db' ∧ owner db' = some r.id := by
  have hmoves : Moves r db (publicationOwner db).2 := moves_publicationOwner
  unfold transferPublicationOwner at h
  simp only at h
  split at h
  · next ho =>
    cases h
    exact ⟨hmoves, ho⟩
  next hne =>
  split at h
  · cases h
  -- the owner before the transfer is earlier, where there is one
  split at h
  · next hnone =>
    cases h
    refine ⟨hmoves.trans (moves_setOwner hne ?_), rfl⟩
    intro o q ho hq
    rw [owner_publicationOwner] at ho
    rw [ho, Option.bind_some, hq] at hnone
    cases hnone
  next current hcurrent =>
  split_ifs at h with hle
  cases h
  refine ⟨hmoves.trans (moves_setOwner hne ?_), rfl⟩
  intro o q ho hq
  rw [owner_publicationOwner] at ho
  rw [ho, Option.bind_some, hq] at hcurrent
  cases hcurrent
  exact not_le.mp hle

end Moves

section Calls

variable {α β γ : Type}

/-- Calls are made for `r` while it is not superseded, and with a call goes the ownership. -/
def Publishes (r : Reconciliation) (db : Database)
    (x : Logged JobError PublisherCall (γ × Database)) : Prop :=
  Known r db → Ensures (fun k => k.caller = r ∧ MayCall r db)
    (fun log out => Moves r db out.2 ∧ (log ≠ [] → owner out.2 = some r.id)) x

/-- What follows a call makes no other one and ends with `r` as the owner. -/
def Closes (r : Reconciliation) (db : Database)
    (x : Logged JobError PublisherCall (γ × Database)) : Prop :=
  Ensures (fun _ => False) (fun _ out => Moves r db out.2 ∧ owner out.2 = some r.id) x

lemma publishes_pure {a : γ} (h : Moves r db db') : Publishes r db (pure (a, db')) :=
  fun _ => ensures_pure ⟨h, fun hlog => absurd rfl hlog⟩

lemma publishes_lift {x : Except JobError (γ × Database)}
    (h : ∀ out, x = .ok out → Moves r db out.2) : Publishes r db (.lift x) :=
  fun _ => ensures_lift fun out hout => ⟨h out hout, fun hlog => absurd rfl hlog⟩

lemma publishes_bind {x : Except JobError α} {f : α → Logged JobError PublisherCall (γ × Database)}
    (h : ∀ a, x = .ok a → Publishes r db (f a)) : Publishes r db (.lift x >>= f) :=
  fun hk => ensures_lift_bind fun a ha => h a ha hk

lemma Publishes.after {x : Logged JobError PublisherCall (γ × Database)} (hm : Moves r db mid)
    (h : Publishes r mid x) : Publishes r db x :=
  fun hk => (h (hm.known hk)).mono (fun _ hc => ⟨hc.1, hc.2.of_moves hm⟩)
    fun _ _ hq => ⟨hm.trans hq.1, hq.2⟩

/-- Two stages of a tick: a call of the first one leaves `r` the owner through the second. -/
theorem Publishes.bind {x : Logged JobError PublisherCall (β × Database)}
    {f : β × Database → Logged JobError PublisherCall (γ × Database)} (hx : Publishes r db x)
    (hf : ∀ out, Publishes r out.2 (f out)) : Publishes r db (x >>= f) := by
  intro hk
  apply (hx hk).bind
  intro log out hout
  have hnext := hf out (hout.1.known hk)
  apply hnext.mono
  · exact fun k hc => ⟨hc.1, hc.2.of_moves hout.1⟩
  intro log' out' hout'
  refine ⟨hout.1.trans hout'.1, ?_⟩
  intro hlog
  by_cases hfirst : log = []
  · rw [hfirst] at hlog
    exact hout'.2 hlog
  exact hout'.1.owner_self (hout.2 hfirst)

lemma publishes_call {view : TickView} {action : PublisherAction}
    {f : ActivationMarker → Logged JobError PublisherCall (γ × Database)}
    (hc : Known r db → MayCall r db) (h : ∀ marker, Closes r db (f marker)) :
    Publishes r db (callPublisher view r action >>= f) := by
  intro hk
  unfold callPublisher
  split
  · exact ensures_lift_bind fun marker hm => (by cases hm)
  apply ensures_call_bind ⟨rfl, hc hk⟩
  intro marker _
  exact (h marker).mono (fun _ hf => hf.elim) fun _ _ hq => ⟨hq.1, fun _ => hq.2⟩

lemma closes_pure {a : γ} (h : Moves r db db') (ho : owner db' = some r.id) :
    Closes r db (pure (a, db')) := ensures_pure ⟨h, ho⟩

lemma closes_bind {x : Except JobError α} {f : α → Logged JobError PublisherCall (γ × Database)}
    (h : ∀ a, x = .ok a → Closes r db (f a)) : Closes r db (.lift x >>= f) :=
  ensures_lift_bind h

lemma Closes.after {x : Logged JobError PublisherCall (γ × Database)} (hm : Moves r db mid)
    (h : Closes r mid x) : Closes r db x :=
  Ensures.mono h (fun _ hf => hf) fun _ _ hq => ⟨hm.trans hq.1, hq.2⟩

end Calls

end VonkForge.AgentReconciliation
