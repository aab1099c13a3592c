import VonkForge.ReconciliationSteps

/-!
# Dispatch and acceptance as steps

The routines of the owner's phases: the next wave, the next compensation and the evidence set are
functions of the life at hand.
-/

namespace VonkForge.AgentReconciliation

open AgentJobs Table

variable {db db' : Database} {job : Job} {node : OperationNode} {r : Reconciliation}
  {p : ReconciliationOperation} {view : TickView} {id : Uuid}

section Rows

variable {role : ProjectionRole}

lemma get?_of_row (h : p ∈ projectionsOf db id [role]) :
    db.projections.get? (id, p.graphOperationId, role) = some p := by
  obtain ⟨hget, hid, hrole⟩ := get?_of_projectionsOf h
  rwa [key_projection, hid, List.mem_singleton.mp hrole] at hget

lemma row_of_get? {g : GraphId} (h : db.projections.get? (id, g, role) = some p) :
    p ∈ projectionsOf db id [role] ∧ p.graphOperationId = g := by
  have hkey : Keyed.key p = (id, g, role) := get?_key h
  simp only [key_projection, Prod.mk.injEq] at hkey
  exact ⟨mem_projectionsOf.mpr ⟨mem_of_get? h, hkey.1, by simp [hkey.2.2]⟩, hkey.2.1⟩

lemma find_projectionsOf (g : GraphId) :
    (projectionsOf db id [role]).find? (fun p => decide (p.graphOperationId = g)) =
      db.projections.get? (id, g, role) := by
  cases hget : db.projections.get? (id, g, role) with
  | none =>
    rw [List.find?_eq_none]
    intro p hp hg
    have hg := of_decide_eq_true hg
    have := get?_of_row hp
    rw [hg, hget] at this
    cases this
  | some p =>
    obtain ⟨hp, hg⟩ := row_of_get? hget
    cases hfind : (projectionsOf db id [role]).find? fun p => decide (p.graphOperationId = g) with
    | none =>
      have := List.find?_eq_none.mp hfind p hp
      simp [hg] at this
    | some q =>
      have hq := List.mem_of_find?_eq_some hfind
      have hqg : q.graphOperationId = g := by simpa using List.find?_some hfind
      have := get?_of_row hq
      rw [hqg, hget] at this
      exact this.symm

lemma any_projectionsOf (g : GraphId) (state : ProjectionState) :
    ((projectionsOf db id [role]).any fun p =>
        decide (p.graphOperationId = g) && decide (p.state = state)) =
      (db.projections.get? (id, g, role)).any fun p => decide (p.state = state) := by
  rw [Bool.eq_iff_iff, List.any_eq_true]
  constructor
  · rintro ⟨p, hp, h⟩
    simp only [Bool.and_eq_true, decide_eq_true_eq] at h
    have := get?_of_row hp
    rw [h.1] at this
    simp [this, h.2]
  intro h
  cases hget : db.projections.get? (id, g, role) with
  | none =>
    rw [hget] at h
    cases h
  | some p =>
    rw [hget] at h
    obtain ⟨hp, hg⟩ := row_of_get? hget
    exact ⟨p, hp, by simpa [hg] using h⟩

lemma ids_nodup : ((projectionsOf db id [role]).map (·.graphOperationId)).Nodup := by
  rw [List.nodup_map_iff_inj_on]
  · intro p hp q hq heq
    have hpg := get?_of_row hp
    rw [heq, get?_of_row hq] at hpg
    exact (Option.some.inj hpg).symm
  have hsel : (db.projections.select fun p => decide (p.reconciliationId = id) &&
      decide (p.role ∈ [role])).Nodup := (List.Nodup.of_map _ db.projections.nodup_keys).filter _
  exact (List.perm_insertionSort _ _).nodup_iff.mpr hsel

lemma ids_sorted : ((projectionsOf db id [role]).map (·.graphOperationId)).SortedLE := by
  have hmap : (projectionsOf db id [role]).map (·.graphOperationId) =
      ((db.projections.select fun p => decide (p.reconciliationId = id) &&
        decide (p.role ∈ [role])).map (·.graphOperationId)).insertionSort (· ≤ ·) := by
    refine List.map_insertionSort _ _ _ _ ?_
    intro p hp q hq
    have hrole : ∀ x ∈ db.projections.select fun p => decide (p.reconciliationId = id) &&
        decide (p.role ∈ [role]), x.role = role := by
      intro x hx
      have := (mem_select.mp hx).2
      simp only [Bool.and_eq_true, decide_eq_true_eq, List.mem_singleton] at this
      exact this.2
    rw [hrole p hp, hrole q hq, Prod.Lex.toLex_le_toLex]
    constructor
    · rintro (h | ⟨h, -⟩)
      · exact le_of_lt h
      exact le_of_eq h
    intro h
    rcases lt_or_eq_of_le h with h | h
    · exact .inl h
    exact .inr ⟨h, le_rfl⟩
  rw [hmap]
  exact List.sortedLE_insertionSort

lemma mapM_congr_of_mem {α β γ : Type} {l : List α} {f : α → Option γ} {g : β → Option γ}
    {h : α → β} (heq : ∀ a ∈ l, f a = g (h a)) : l.mapM f = (l.map h).mapM g := by
  induction l with
  | nil => rfl
  | cons a l ih =>
    rw [List.map_cons, List.mapM_cons, List.mapM_cons, heq a List.mem_cons_self,
      ih fun b hb => heq b (.tail _ hb)]

end Rows

lemma graphNode_eq_ok {plan : ResolvedPlan} {g : GraphId} (h : graphNode plan g = .ok node) :
    node ∈ plan.nodes ∧ node.operationId = g := by
  unfold graphNode at h
  split at h
  · next n hfind =>
    cases h
    exact ⟨List.mem_of_find?_eq_some hfind, by simpa using List.find?_some hfind⟩
  cases h

section Enqueue

/-- A projection without an operation gets a new one. -/
theorem Working.enqueue (h : Working none db) {o : StoredOperation}
    {key : Uuid × GraphId × ProjectionRole} {q : ReconciliationOperation} {parent : Job}
    (hnew : db.operations.get? o.id = none)
    (hops : ∀ k, db'.operations.get? k = if k = o.id then some o else db.operations.get? k)
    (hjobs : db'.jobs = db.jobs)
    (hrows : ∀ k, db'.projections.get? k = if k = key then some q else db.projections.get? k)
    (hfree : ∀ p, db.projections.get? key = some p → p.agentOperationId = none)
    (hkey : Keyed.key q = key) (hop : q.agentOperationId = some o.id) (hq : q.state = .queued)
    (hparent : db.jobs.get? o.parentJobId = some parent)
    (hr : parent.reconciliationId = some q.reconciliationId) (hs : o.kind.signed = false)
    (ha : o.retryDisposition = none) (ho : o.state = .queued) : Working none db' := by
  -- no projection has the new operation yet
  have hstored : ∀ k p id, db.projections.get? k = some p → p.agentOperationId = some id →
      id ≠ o.id ∧ k ≠ key := by
    intro k p id hk hid
    obtain ⟨o', job, hb⟩ := h.bound k p id hk hid
    constructor
    · rintro rfl
      rw [hb.operation] at hnew
      cases hnew
    rintro rfl
    rw [hfree p hk] at hid
    cases hid
  constructor
  · intro id o' job' rid ho' hjob' hrid
    rw [hops] at ho'
    rw [hjobs] at hjob'
    split at ho'
    · next hid =>
      cases ho'
      obtain rfl : parent = job' := Option.mem_unique hparent hjob'
      have hqr : q.reconciliationId = rid := Option.mem_unique hr hrid
      refine ⟨q.graphOperationId, q.role, q, ?_, hid ▸ hop⟩
      rw [hrows, ← hqr, ← hkey, key_projection, if_pos rfl]
    obtain ⟨g, role, p, hp, hpo⟩ := h.projected id o' job' rid ho' hjob' hrid
    refine ⟨g, role, p, ?_, hpo⟩
    rw [hrows, if_neg (hstored _ p id hp hpo).2]
    exact hp
  · intro k p id hk hid
    rw [hrows] at hk
    split at hk
    · cases hk
      obtain rfl : o.id = id := Option.mem_unique hop hid
      refine ⟨o, parent, by rw [hops, if_pos rfl], hjobs ▸ hparent, hr, hs, ha, ?_⟩
      intro _
      simp [ho, hq, OperationState.unfinished]
    obtain ⟨o', job', hb⟩ := h.bound k p id hk hid
    refine ⟨o', job', ?_, hjobs ▸ hb.parent, hb.reconciliation, hb.unsigned, hb.unanswered,
      hb.unfinished⟩
    rw [hops, if_neg (hstored k p id hk hid).1]
    exact hb.operation
  · intro k k' p p' id hk hk' hid hid'
    rw [hrows] at hk hk'
    split at hk
    · next heq =>
      cases hk
      split at hk'
      · next heq' => exact heq.trans heq'.symm
      obtain rfl : o.id = id := Option.mem_unique hop hid
      exact absurd rfl (hstored k' p' _ hk' hid').1
    split at hk'
    · cases hk'
      obtain rfl : o.id = id := Option.mem_unique hop hid'
      exact absurd rfl (hstored k p _ hk hid).1
    exact h.unique k k' p p' id hk hk' hid hid'
  · intro k p hk hstate
    rw [hrows] at hk
    split at hk
    · cases hk
      rw [hop]
      rfl
    exact h.queued k p hk hstate
  rw [hjobs]
  exact h.jobs

/-- A dispatch adds operations, and writes rows of its own reconciliation. -/
structure DispatchFrame (id : Uuid) (db db' : Database) : Prop where
  reconciliations : db'.reconciliations = db.reconciliations
  cancellations : db'.cancellations = db.cancellations
  publications : db'.publications = db.publications
  jobs : db'.jobs = db.jobs
  rows : ∀ k : Uuid × GraphId × ProjectionRole, k.1 ≠ id →
    db'.projections.get? k = db.projections.get? k
  kept : ∀ i, db'.operations.get? i = none → db.operations.get? i = none
  fresh : ∀ k p i, db'.projections.get? k = some p → p.agentOperationId = some i →
    HadOperation db k i ∨ db.operations.get? i = none

lemma DispatchFrame.refl (id : Uuid) (db : Database) : DispatchFrame id db db :=
  ⟨rfl, rfl, rfl, rfl, fun _ _ => rfl, fun _ hi => hi, fun _ p _ hp hi => .inl ⟨p, hp, hi⟩⟩

lemma DispatchFrame.trans {mid : Database} (h : DispatchFrame id db mid)
    (h' : DispatchFrame id mid db') : DispatchFrame id db db' := by
  refine ⟨h'.reconciliations.trans h.reconciliations, h'.cancellations.trans h.cancellations,
    h'.publications.trans h.publications, h'.jobs.trans h.jobs,
    fun k hk => (h'.rows k hk).trans (h.rows k hk), fun i hi => h.kept i (h'.kept i hi), ?_⟩
  intro k p i hp hi
  rcases h'.fresh k p i hp hi with ⟨q, hq, hqi⟩ | hnone
  · exact h.fresh k q i hq hqi
  exact .inr (h.kept i hnone)

def boundTo (p : ReconciliationOperation) (id : Uuid) : ReconciliationOperation :=
  { p with agentOperationId := some id, state := .queued }

/-- One row is bound to one new operation. -/
theorem queueProjection_effect (hw : Working none db) {kind : AgentOperation} {payload : Payload}
    (hjob : db.jobs.get? job.id = some job)
    (hparent : job.reconciliationId = some p.reconciliationId) (hs : kind.signed = false)
    (hrow : db.projections.get? (Keyed.key p) = some p) (hfree : p.agentOperationId = none)
    (h : queueProjection view db r job node kind payload p = .ok db') :
    Working none db' ∧ DispatchFrame p.reconciliationId db db' ∧
      ∀ k, db'.projections.get? k = if k = Keyed.key p then
        some (boundTo p (view.freshId p.graphOperationId)) else db.projections.get? k := by
  obtain ⟨d, hd, h⟩ := of_bind_ok h
  cases h
  have hinsert := insertOperation_of_enqueue hd
  unfold insertOperation at hinsert
  split at hinsert
  case h_2 => cases hinsert
  next t ht =>
  cases hinsert
  have hrows : ∀ k, (updateProjection { db with operations := t } p fun q =>
      { q with agentOperationId := some (view.freshId p.graphOperationId),
               state := .queued }).projections.get? k = if k = Keyed.key p then
        some (boundTo p (view.freshId p.graphOperationId)) else db.projections.get? k := by
    intro k
    rw [get?_updateProjection]
    by_cases hk : k = Keyed.key p
    · subst hk
      simp only [hrow, Option.map_some, if_true]
      rfl
    simp only [if_neg hk, Option.map_id']
  have hnew : db.operations.get? (view.freshId p.graphOperationId) = none :=
    (insert_eq_some.mp ht).1
  refine ⟨?_, ⟨rfl, rfl, rfl, rfl, ?_, ?_, ?_⟩, hrows⟩
  · refine hw.enqueue ((insert_eq_some.mp ht).1) (fun k => get?_insert ht k) rfl hrows
      ?_ rfl rfl rfl hjob hparent hs rfl rfl
    intro q hq
    obtain rfl : q = p := Option.mem_unique hq hrow
    exact hfree
  · intro k hk
    rw [hrows k, if_neg]
    rintro rfl
    exact hk rfl
  · intro i hi
    have hget := get?_insert ht i
    simp only [updateProjection] at hi
    rw [hi] at hget
    split at hget
    · cases hget
    exact hget.symm
  intro k q i hq hi
  rw [hrows k] at hq
  split at hq
  · cases hq
    obtain rfl : view.freshId p.graphOperationId = i := Option.some.inj hi
    exact .inr hnew
  exact .inl ⟨q, hq, hi⟩

end Enqueue

section Wave

variable {H : EvidenceDigest} {owns : Bool} {plan : ResolvedPlan}

lemma stateOf_projectionsOf (db : Database) (id : Uuid) (role : ProjectionRole) (g : GraphId) :
    stateOf (projectionsOf db id [role]) g = (db.projections.get? (id, g, role)).map (·.state) := by
  rw [stateOf, find_projectionsOf]

variable {out : Bool × Database} {g : GraphId} {rows : List ReconciliationOperation}
  {a : List GraphId}

/-- A ready node is still planned, and what it depends on is accepted. -/
theorem ready_of_mem (h : g ∈ readyOperationIds plan.nodes (projectionsOf db r.id [.primary])) :
    (∃ n ∈ plan.nodes, n.operationId = g ∧
      ∀ d ∈ n.dependencies, (lifeRow db r plan).isAccepted d = true) ∧
    ∀ p, db.projections.get? (r.id, g, .primary) = some p → p.state = .planned := by
  unfold readyOperationIds at h
  rw [List.mem_insertionSort, List.mem_dedup] at h
  obtain ⟨n, hn, rfl⟩ := List.mem_map.mp h
  rw [List.mem_filter] at hn
  simp only [Bool.and_eq_true, decide_eq_true_eq, List.all_eq_true, stateOf_projectionsOf] at hn
  refine ⟨⟨n, hn.1, rfl, ?_⟩, ?_⟩
  · intro d hd
    have hacc := hn.2.2 d hd
    obtain ⟨p, hp, hs⟩ := Option.map_eq_some_iff.mp hacc
    simp [Life.isAccepted, lifeRow, hp, hs]
  intro p hp
  have := hn.2.1
  rw [hp] at this
  simpa using this

/-- Of two operations in a row the second is ready once the first is accepted. -/
example : readyOperationIds
    [⟨1, 1, "chat", .workloadPrepare, [], none, { canonicalDigest := 0 }, none⟩,
      ⟨2, 1, "chat", .workloadStart, [1], none, { canonicalDigest := 0 }, none⟩]
    [{ reconciliationId := 7, graphOperationId := 1, role := .primary, expectedPayloadDigest := 0,
       state := .accepted }] = [2] := by decide +kernel

/-- A wave binds each of its rows to a new operation. -/
theorem dispatch_fold {ids : List GraphId} (hvalid : validPlan plan = true)
    (hparent : job.reconciliationId = some r.id) (hnodup : ids.Nodup) (hw : Working none db)
    (hjob : db.jobs.get? job.id = some job)
    (hrows : ∀ g ∈ ids, ∀ p, rows.find? (fun p => decide (p.graphOperationId = g)) = some p →
      db.projections.get? (r.id, g, .primary) = some p ∧ p.agentOperationId = none)
    (h : ids.foldlM (dispatchOne view r job plan rows) db = .ok db') :
    Working none db' ∧ DispatchFrame r.id db db' ∧
      ∀ k, db'.projections.get? k = db.projections.get? k ∨ ∃ g ∈ ids, k = (r.id, g, .primary) ∧
        ∃ p id, db.projections.get? k = some p ∧ db'.projections.get? k = some (boundTo p id) := by
  induction ids generalizing db with
  | nil =>
    cases h
    exact ⟨hw, .refl r.id db', fun _ => .inl rfl⟩
  | cons g ids ih =>
    obtain ⟨u, hu, h⟩ := of_bind_ok h
    obtain ⟨node, hnode, hu⟩ := of_bind_ok hu
    split at hu
    · cases hu
    next p hp =>
    obtain ⟨hget, hfree⟩ := hrows g List.mem_cons_self p hp
    have hkey : Keyed.key p = (r.id, g, .primary) := get?_key hget
    have hid : p.reconciliationId = r.id := congrArg Prod.fst hkey
    have hunsigned := (unsigned_of_mem hvalid (graphNode_eq_ok hnode).1).1
    obtain ⟨hwu, hfu, hru⟩ := queueProjection_effect hw hjob (hid.symm ▸ hparent) hunsigned
      (hkey ▸ hget) hfree hu
    rw [hid] at hfu
    rw [hkey] at hru
    obtain ⟨hg, hnodup⟩ := List.nodup_cons.mp hnodup
    -- the other operations of the wave are still planned
    have hother : ∀ g' ∈ ids, u.projections.get? (r.id, g', .primary) =
        db.projections.get? (r.id, g', .primary) := by
      intro g' hg'
      rw [hru, if_neg]
      intro heq
      simp only [Prod.mk.injEq, and_true, true_and] at heq
      exact hg (heq ▸ hg')
    obtain ⟨hw', hf', hr'⟩ := ih hnodup hwu (by rw [hfu.jobs]; exact hjob)
      (fun g' hg' q hq => hother g' hg' ▸ hrows g' (.tail _ hg') q hq) h
    refine ⟨hw', hfu.trans hf', ?_⟩
    intro k
    rcases hr' k with heq | ⟨g', hg', rfl, q, i, hq, hq'⟩
    · by_cases hk : k = (r.id, g, .primary)
      · refine .inr ⟨g, List.mem_cons_self, hk, p, view.freshId p.graphOperationId, ?_, ?_⟩
        · rw [hk]
          exact hget
        rw [heq, hru, if_pos hk]
      rw [hru, if_neg hk] at heq
      exact .inl heq
    exact .inr ⟨g', .tail _ hg', rfl, q, i, hother g' hg' ▸ hq, hq'⟩

lemma Working.addRows (hw : Working none db) (hops : db'.operations = db.operations)
    (hjobs : db'.jobs = db.jobs)
    (hold : ∀ k q, db'.projections.get? k = some q → db.projections.get? k = some q ∨
      q.agentOperationId = none ∧ q.state = .planned)
    (hkept : ∀ k q, db.projections.get? k = some q → db'.projections.get? k = some q) :
    Working none db' := by
  constructor
  · rw [hops, hjobs]
    intro id o job rid ho hjob hr
    obtain ⟨g, role, p, hp, hop⟩ := hw.projected id o job rid ho hjob hr
    exact ⟨g, role, p, hkept _ p hp, hop⟩
  · intro k p id hk hid
    rcases hold k p hk with hk | ⟨hnone, -⟩
    · obtain ⟨o, job, hb⟩ := hw.bound k p id hk hid
      exact ⟨o, job, hops ▸ hb.operation, hjobs ▸ hb.parent, hb.reconciliation, hb.unsigned,
        hb.unanswered, hb.unfinished⟩
    rw [hnone] at hid
    cases hid
  · intro k k' p p' id hk hk' hid hid'
    rcases hold k p hk with hk | ⟨hnone, -⟩
    · rcases hold k' p' hk' with hk' | ⟨hnone, -⟩
      · exact hw.unique k k' p p' id hk hk' hid hid'
      rw [hnone] at hid'
      cases hid'
    rw [hnone] at hid
    cases hid
  · intro k p hk hstate
    rcases hold k p hk with hk | ⟨-, hplanned⟩
    · exact hw.queued k p hk hstate
    rw [hplanned] at hstate
    cases hstate
  rw [hjobs]
  exact hw.jobs

/-- The row of a graph node before its dispatch. -/
def plannedRow (id : Uuid) (n : OperationNode) : ReconciliationOperation :=
  { reconciliationId := id, graphOperationId := n.operationId, role := .primary,
    expectedPayloadDigest := n.payload.canonicalDigest }

lemma get?_planProjections (db : Database) (r : Reconciliation) (plan : ResolvedPlan)
    (k : Uuid × GraphId × ProjectionRole) :
    (planProjections db r plan).projections.get? k = (db.projections.get? k).or
      ((plan.nodes.map (plannedRow r.id)).find? fun p => decide (Keyed.key p = k)) := by
  simp only [planProjections, get?_insertAllIgnore]
  rfl

lemma planProjections_cases (db : Database) (r : Reconciliation) (plan : ResolvedPlan)
    (k : Uuid × GraphId × ProjectionRole) :
    (planProjections db r plan).projections.get? k = db.projections.get? k ∨
      db.projections.get? k = none ∧ ∃ n ∈ plan.nodes, k = (r.id, n.operationId, .primary) ∧
        (planProjections db r plan).projections.get? k = some (plannedRow r.id n) := by
  rw [get?_planProjections]
  cases db.projections.get? k with
  | some p => exact .inl rfl
  | none =>
    cases hfind : (plan.nodes.map (plannedRow r.id)).find? fun p => decide (Keyed.key p = k) with
    | none => exact .inl rfl
    | some q =>
      obtain ⟨n, hn, rfl⟩ := List.mem_map.mp (List.mem_of_find?_eq_some hfind)
      have hkey := List.find?_some hfind
      simp only [decide_eq_true_eq] at hkey
      exact .inr ⟨rfl, n, hn, hkey.symm, rfl⟩

lemma acceptedEvidenceDigest_eq_ok {digest : Digest}
    (h : acceptedEvidenceDigest view rows = .ok digest) :
    ∃ evidence, rows.mapM acceptedEvidence = some evidence ∧
      digest = view.evidenceSetDigest evidence := by
  unfold acceptedEvidenceDigest at h
  split at h
  · next evidence hrows =>
    cases h
    exact ⟨evidence, hrows, rfl⟩
  cases h

section

variable (h : Context H db r job plan)

include h

lemma ids_subset : (projectionsOf db r.id [.primary]).map (·.graphOperationId) ⊆
    plan.nodes.map (·.operationId) := by
  intro g hg
  obtain ⟨p, hp, rfl⟩ := List.mem_map.mp hg
  obtain ⟨n, hn, hid⟩ := h.sound.nodes p.graphOperationId p (get?_of_row hp)
  exact List.mem_map.mpr ⟨n, hn, hid⟩

lemma all_accepted (hlen : (projectionsOf db r.id [.primary]).length = plan.nodes.length)
    (hall : ((projectionsOf db r.id [.primary]).all fun p => decide (p.state = .accepted)) = true) :
    ∀ n ∈ plan.nodes, (lifeRow db r plan).isAccepted n.operationId = true := by
  have hperm : ((projectionsOf db r.id [.primary]).map (·.graphOperationId)).Perm
      (plan.nodes.map (·.operationId)) := by
    refine (List.subperm_of_subset ids_nodup (ids_subset h)).perm_of_length_le ?_
    rw [List.length_map, List.length_map, hlen]
  intro n hn
  have hmem := hperm.mem_iff.mpr (List.mem_map.mpr ⟨n, hn, rfl⟩)
  obtain ⟨p, hp, hid⟩ := List.mem_map.mp hmem
  have hget := get?_of_row hp
  have hstate := List.all_eq_true.mp hall p hp
  rw [hid] at hget
  simpa [Life.isAccepted, lifeRow, hget] using hstate

/-- The next wave is one step. -/
theorem advances_dispatchPrimary (hphase : r.currentPhase = .dispatching) {notify : Bool}
    (hd : dispatchPrimary view db r job plan = .ok (notify, db')) :
    Advances H owns r.id db db' := by
  unfold dispatchPrimary at hd
  simp only at hd
  split at hd
  · cases hd
  next hlen =>
  split at hd
  · next hall =>
    cases hd
    refine h.advances (h.working.of_tables rfl rfl rfl) (fun k => lifeOf_setPhase _ _ k) ?_ rfl
    exact .acceptAll hphase (all_accepted h (not_not.mp hlen) hall)
  obtain ⟨d, hd', hd⟩ := of_bind_ok hd
  cases hd
  have hready : (readyOperationIds plan.nodes (projectionsOf db r.id [.primary])).Nodup :=
    (List.perm_insertionSort _ _).nodup_iff.mpr (List.nodup_dedup _)
  obtain ⟨hw, hf, hrows⟩ := dispatch_fold h.sound.plan h.parent hready h.working h.stored
    (fun g hg p hp => by
      rw [find_projectionsOf] at hp
      exact ⟨hp, h.sound.unbound g .primary p hp ((ready_of_mem hg).2 p hp)⟩) hd'
  refine h.advancesRows hw
    (lifeOf_rows hf.reconciliations hf.cancellations hf.publications hf.rows) ?_ hf.rows hf.fresh
  refine .dispatch hphase ?_
  intro g role
  rcases hrows (r.id, g, role) with heq | ⟨g', hg', hkey, p, id, hp, hq⟩
  · exact .inl heq
  simp only [Prod.mk.injEq, true_and] at hkey
  obtain ⟨rfl, rfl⟩ := hkey
  obtain ⟨hn, hplanned⟩ := @ready_of_mem db r plan _ hg'
  exact .inr ⟨rfl, hn, p, id, hp, hplanned p hp, hq⟩

lemma advances_planProjections (hphase : r.currentPhase = .routesWithdrawn) :
    Advances H owns r.id db (setPhase (planProjections db r plan) r.id .dispatching) := by
  have hother : ∀ k : Uuid × GraphId × ProjectionRole, k.1 ≠ r.id →
      (planProjections db r plan).projections.get? k = db.projections.get? k := by
    intro k hk
    rcases planProjections_cases db r plan k with heq | ⟨-, n, -, rfl, -⟩
    · exact heq
    exact absurd rfl hk
  have hlife : ∀ k, lifeOf (setPhase (planProjections db r plan) r.id .dispatching) k =
      (lifeOf db k).map fun l => if k = r.id then
        { l with
          phase := .dispatching
          rows := fun g role => (planProjections db r plan).projections.get? (r.id, g, role) }
        else l := by
    intro k
    rw [lifeOf_setPhase, @lifeOf_rows db (planProjections db r plan) r.id rfl rfl rfl hother k,
      map_write_map]
  have hfresh : ∀ k p i, (planProjections db r plan).projections.get? k = some p →
      p.agentOperationId = some i → HadOperation db k i ∨ db.operations.get? i = none := by
    intro k p i hp hi
    rcases planProjections_cases db r plan k with heq | ⟨-, n, -, -, hn⟩
    · exact .inl ⟨p, heq ▸ hp, hi⟩
    obtain rfl : p = plannedRow r.id n := Option.mem_unique hp hn
    cases hi
  have hw : Working none (planProjections db r plan) := by
    refine h.working.addRows rfl rfl ?_ ?_
    · intro k q hq
      rcases planProjections_cases db r plan k with heq | ⟨-, n, -, -, hn⟩
      · exact .inl (heq ▸ hq)
      obtain rfl : q = plannedRow r.id n := Option.mem_unique hq hn
      exact .inr ⟨rfl, rfl⟩
    intro k q hq
    rw [get?_planProjections, hq, Option.some_or]
  refine h.advancesRows (hw.of_tables rfl rfl rfl) hlife (.project hphase ?_) hother hfresh
  intro g role
  rcases planProjections_cases db r plan (r.id, g, role) with heq | ⟨hnone, n, hn, hkey, hrow⟩
  · exact .inl heq
  simp only [Prod.mk.injEq, true_and] at hkey
  exact .inr ⟨hkey.2, hnone, ⟨n, hn, hkey.1.symm⟩, plannedRow r.id n, hrow, rfl, rfl⟩

lemma ids_of_accomplished (hphase : accomplished r.currentPhase = true) :
    (projectionsOf db r.id [.primary]).map (·.graphOperationId) =
      (plan.nodes.map (·.operationId)).insertionSort (· ≤ ·) := by
  have hordered := orderedNodes_of_validPlan h.sound.plan
  refine List.Perm.eq_of_sortedLE ids_sorted List.sortedLE_insertionSort ?_
  refine List.Perm.trans ?_ (List.perm_insertionSort _ _).symm
  refine (List.perm_ext_iff_of_nodup ids_nodup (orderedNodes_nodup hordered)).mpr ?_
  intro g
  constructor
  · exact fun hg => ids_subset h hg
  intro hg
  obtain ⟨n, hn, rfl⟩ := List.mem_map.mp hg
  have hacc := h.sound.accepted hphase n hn
  simp only [Life.isAccepted, lifeRow] at hacc
  cases hget : db.projections.get? (r.id, n.operationId, .primary) with
  | none =>
    rw [hget] at hacc
    cases hacc
  | some p =>
    obtain ⟨hp, hid⟩ := row_of_get? hget
    exact List.mem_map.mpr ⟨p, hp, hid⟩

lemma evidenceOf_eq (hphase : accomplished r.currentPhase = true) :
    (projectionsOf db r.id [.primary]).mapM acceptedEvidence = (lifeRow db r plan).evidenceOf := by
  unfold Life.evidenceOf
  rw [show (lifeRow db r plan).plan.nodes.map (·.operationId) =
    plan.nodes.map (·.operationId) from rfl, ← ids_of_accomplished h hphase]
  refine mapM_congr_of_mem ?_
  intro p hp
  simp only [lifeRow, get?_of_row hp, Option.bind_some]

lemma advances_acceptEvidence (hview : view.evidenceSetDigest = H)
    (hphase : r.currentPhase = .accepting) (hpub : (db.publications.get? r.id).isSome = true)
    (ha : acceptEvidence view db r = .ok out) : Advances H owns r.id db out.2 := by
  obtain ⟨digest, hdigest, ha⟩ := of_bind_ok ha
  cases ha
  obtain ⟨evidence, hev, rfl⟩ := acceptedEvidenceDigest_eq_ok hdigest
  rw [evidenceOf_eq h (by rw [hphase]; rfl)] at hev
  refine h.advances (h.working.of_tables rfl rfl rfl) (f := fun l =>
    { l with phase := .publicationPending, evidence := some (H evidence) }) ?_
    (.acceptEvidence hphase hev) rfl
  intro k
  have hwrite : lifeOf (updatePublication db r.id fun p =>
      { p with
        state := .publicationPending
        evidenceDigest := some (view.evidenceSetDigest evidence) }) k =
      (lifeOf db k).map fun l =>
        if k = r.id then { l with evidence := some (H evidence) } else l := by
    refine lifeOf_updatePublication ?_ hpub k
    intro p
    rw [hview]
  rw [lifeOf_setPhase, hwrite, map_write_map]

end

lemma compensationOrder_eq (db : Database) (r : Reconciliation) (plan : ResolvedPlan) :
    compensationOrder plan (projectionsOf db r.id [.primary]) = (lifeRow db r plan).order := by
  simp only [compensationOrder, Life.order, Life.isAccepted, lifeRow, any_projectionsOf]

variable (h : Context H db r job plan) (hphase : r.currentPhase = .compensating)

include h hphase

lemma advances_finishFailed
    (hall : ∀ g ∈ (lifeRow db r plan).order, (lifeRow db r plan).Compensated g) (now : Time) :
    Advances H owns r.id db (finishFailed db now r job) := by
  refine h.advances ((h.working.setReconciliation _ _ _ _).setJob _ _ _ _)
    (f := fun l => { l with phase := .failed, status := .failed }) ?_ (.complete hphase hall) rfl
  intro k
  simp only [finishFailed, lifeOf_setJob, lifeOf_setReconciliation]

lemma advances_compensateOne {b : List GraphId} (horder : (lifeRow db r plan).order = a ++ g :: b)
    (ha : ∀ x ∈ a, (lifeRow db r plan).Compensated x)
    (hc : compensateOne view db r job plan g = .ok db') : Advances H owns r.id db db' := by
  obtain ⟨node, hnode, hc⟩ := of_bind_ok hc
  split at hc
  case h_2 => cases hc
  next kind payload hkind hpayload =>
  simp only at hc
  split at hc
  · cases hc
  next t ht =>
  have hunsigned := (unsigned_of_mem h.sound.plan (graphNode_eq_ok hnode).1).2 kind hkind
  obtain ⟨hnone, -⟩ := insert_eq_some.mp ht
  have hrow := fun k => get?_insert ht k
  -- the projection is stored before its operation is queued
  have hw : Working none { db with projections := t } := by
    refine h.working.addRows rfl rfl ?_ ?_
    · intro k q hq
      rw [hrow k] at hq
      split at hq
      · cases hq
        exact .inr ⟨rfl, rfl⟩
      exact .inl hq
    intro k q hq
    rw [hrow k, if_neg]
    · exact hq
    rintro rfl
    rw [hnone] at hq
    cases hq
  obtain ⟨hw', hf, hrows⟩ := queueProjection_effect hw h.stored h.parent hunsigned
    ((hrow _).trans (if_pos rfl)) rfl hc
  have hkey : ∀ k, db'.projections.get? k = if k = (r.id, g, .compensation) then
      some (boundTo { reconciliationId := r.id, graphOperationId := g, role := .compensation,
                      expectedPayloadDigest := payload.canonicalDigest } (view.freshId g))
      else db.projections.get? k := by
    intro k
    refine (hrows k).trans ?_
    by_cases hk : k = (r.id, g, .compensation)
    · exact (if_pos hk).trans (if_pos hk).symm
    exact (if_neg hk).trans (((hrow k).trans (if_neg hk)).trans (if_neg hk).symm)
  have hother : ∀ k : Uuid × GraphId × ProjectionRole, k.1 ≠ r.id →
      db'.projections.get? k = db.projections.get? k := by
    intro k hk
    rw [hkey k, if_neg]
    rintro rfl
    exact hk rfl
  have hfresh : ∀ k q i, db'.projections.get? k = some q → q.agentOperationId = some i →
      HadOperation db k i ∨ db.operations.get? i = none := by
    intro k q i hq hi
    rcases hf.fresh k q i hq hi with ⟨q', hq', hi'⟩ | hnone
    · rw [hrow k] at hq'
      split at hq'
      · cases hq'
        cases hi'
      exact .inl ⟨q', hq', hi'⟩
    exact .inr hnone
  refine h.advancesRows hw'
    (lifeOf_rows hf.reconciliations hf.cancellations hf.publications hother) ?_ hother hfresh
  have hset : ({ lifeRow db r plan with
      rows := fun g role => db'.projections.get? (r.id, g, role) } : Life) =
      (lifeRow db r plan).setRow g .compensation (boundTo
        { reconciliationId := r.id, graphOperationId := g, role := .compensation,
          expectedPayloadDigest := payload.canonicalDigest } (view.freshId g)) := by
    simp only [Life.setRow, hkey, Prod.mk.injEq, true_and]
    rfl
  rw [hset]
  exact .compensate hphase horder ha hnone rfl rfl

lemma advances_compensateNext {rest : List GraphId}
    (horder : (lifeRow db r plan).order = a ++ rest)
    (ha : ∀ x ∈ a, (lifeRow db r plan).Compensated x)
    (hc : compensateNext view db r job plan (projectionsOf db r.id [.compensation]) rest =
      .ok out) :
    Advances H owns r.id db out.2 := by
  induction rest generalizing a with
  | nil =>
    cases hc
    exact advances_finishFailed h hphase (by rw [horder, List.append_nil]; exact ha) _
  | cons g rest ih =>
    -- the projection of a compensation that has not ended well
    have hincomplete : ∀ {state}, stateOf (projectionsOf db r.id [.compensation]) g = some state →
        state ≠ .queued → state ≠ .compensated →
        Advances H owns r.id db (waitForOperator db view.now r.id job.id
          "reconciliation compensation is incomplete") := by
      intro state hstate hq hcomp
      rw [stateOf_projectionsOf] at hstate
      obtain ⟨p, hp, rfl⟩ := Option.map_eq_some_iff.mp hstate
      exact h.advances (h.working.waitForOperator _ _ _)
        (fun k => lifeOf_waitForOperator _ _ _ _ k) (.incomplete hphase horder ha hp hq hcomp) rfl
    unfold compensateNext at hc
    split at hc
    · cases hc
      exact h.idle (.refl db)
    · cases hc
      exact h.idle (.refl db)
    · next hstate =>
      rw [stateOf_projectionsOf] at hstate
      obtain ⟨p, hp, hs⟩ := Option.map_eq_some_iff.mp hstate
      refine ih (a := a ++ [g]) (by rw [horder]; simp) ?_ hc
      intro x hx
      rcases List.mem_append.mp hx with hx | hx
      · exact ha x hx
      rw [List.mem_singleton.mp hx]
      exact ⟨p, hp, hs⟩
    iterate 3
      · next hstate =>
        cases hc
        exact hincomplete hstate (by simp) (by simp)
    obtain ⟨d, hd, hc⟩ := of_bind_ok hc
    cases hc
    exact advances_compensateOne h hphase horder ha hd

/-- The next compensation is one step. -/
theorem advances_compensate (hc : compensate view db r job plan = .ok out) :
    Advances H owns r.id db out.2 := by
  obtain ⟨⟨notify, d⟩, hd, hc⟩ := of_bind_ok hc
  unfold dispatchCompensation at hd
  rw [compensationOrder_eq] at hd
  have hstep : Advances H owns r.id db d :=
    advances_compensateNext h hphase (a := []) rfl (fun x hx => by cases hx) hd
  simp only at hc
  split at hc
  · obtain ⟨e, he, hc⟩ := of_bind_ok hc
    cases hc
    exact hstep.still (still_of_leases (leasesOnly_markReleasing he))
  cases hc
  exact hstep

end Wave

end VonkForge.AgentReconciliation
