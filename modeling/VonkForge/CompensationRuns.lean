import VonkForge.DispatchRuns
import VonkForge.TerminalRuns
import Mathlib.Logic.Relation

/-!
# Compensation along a run

Accepted operations are undone one after another, dependents first, each once.
-/

namespace VonkForge.AgentReconciliation

open AgentJobs Logged Transactions Table
open Keyed (key)

variable {owns : Bool} {db : Database} {H : EvidenceDigest} {g : GraphId} {l l' : Life}
  {e : ReconciliationEvent} {p : ReconciliationOperation}

def Depends (plan : ResolvedPlan) (g m : GraphId) : Prop :=
  Relation.TransGen (fun g m => ∃ n ∈ plan.nodes, n.operationId = m ∧ g ∈ n.dependencies) g m

def Compensatable (l : Life) (g : GraphId) : Prop :=
  ∃ n ∈ l.plan.nodes, n.operationId = g ∧ n.compensationKind.isSome = true ∧ l.isAccepted g = true

variable {m : GraphId} {plan : ResolvedPlan} {id : Uuid} {a b : List GraphId} {view : TickView}
  {r : Reconciliation} {job : Job}

lemma mem_order : g ∈ l.order ↔ Compensatable l g := by
  unfold Life.order Compensatable
  simp only [List.mem_map, List.mem_filter, List.mem_reverse, Bool.and_eq_true]
  constructor
  · rintro ⟨n, ⟨hn, hkind, hacc⟩, rfl⟩
    exact ⟨n, hn, rfl, hkind, hacc⟩
  rintro ⟨n, hn, rfl, hkind, hacc⟩
  exact ⟨n, ⟨hn, hkind, hacc⟩, rfl⟩

def place (plan : ResolvedPlan) (g : GraphId) : ℕ := (plan.nodes.map (·.operationId)).idxOf g

lemma place_lt_of_dependency (hplan : validPlan plan = true) {n : OperationNode}
    (hn : n ∈ plan.nodes) {d : GraphId} (hd : d ∈ n.dependencies) :
    place plan d < place plan n.operationId := by
  obtain ⟨a, b, hsplit⟩ := List.append_of_mem hn
  have hordered := orderedNodes_of_validPlan hplan
  have hbefore := orderedNodes_dependencies hordered hsplit d hd
  rw [List.nil_append] at hbefore
  have hids : plan.nodes.map (·.operationId) =
      a.map (·.operationId) ++ n.operationId :: b.map (·.operationId) := by
    rw [hsplit, List.map_append, List.map_cons]
  -- identifiers are unique, so the node itself is not among those before it
  have hfresh : n.operationId ∉ a.map (·.operationId) := by
    have hnodup := orderedNodes_nodup hordered
    rw [hids] at hnodup
    exact fun hmem => (List.nodup_append.mp hnodup).2.2 _ hmem _ List.mem_cons_self rfl
  unfold place
  rw [hids, List.idxOf_append_of_mem hbefore, List.idxOf_append_of_notMem hfresh]
  exact Nat.lt_add_right _ (List.idxOf_lt_length_of_mem hbefore)

lemma place_lt_of_depends (hplan : validPlan plan = true) (h : Depends plan g m) :
    place plan g < place plan m := by
  induction h with
  | single hstep =>
    obtain ⟨n, hn, rfl, hd⟩ := hstep
    exact place_lt_of_dependency hplan hn hd
  | tail _ hstep ih =>
    obtain ⟨n, hn, rfl, hd⟩ := hstep
    exact ih.trans (place_lt_of_dependency hplan hn hd)

lemma order_pairwise (hplan : validPlan l.plan = true) :
    l.order.Pairwise fun g m => place l.plan m < place l.plan g := by
  have hnodup := orderedNodes_nodup (orderedNodes_of_validPlan hplan)
  have hids : (l.plan.nodes.map (·.operationId)).Pairwise
      fun g m => place l.plan g < place l.plan m := by
    rw [List.pairwise_iff_getElem]
    intro i j hi hj hij
    unfold place
    rw [hnodup.idxOf_getElem, hnodup.idxOf_getElem]
    exact hij
  have hsub : l.order.Sublist (l.plan.nodes.map (·.operationId)).reverse := by
    rw [← List.map_reverse]
    exact List.filter_sublist.map _
  exact (List.pairwise_reverse.mpr hids).sublist hsub

lemma mem_before_of_depends (hplan : validPlan l.plan = true) (horder : l.order = a ++ g :: b)
    (hm : Compensatable l m) (hdep : Depends l.plan g m) : m ∈ a := by
  have hplace := place_lt_of_depends hplan hdep
  have hpair := order_pairwise hplan
  rw [horder] at hpair
  have hmem := mem_order.mpr hm
  rw [horder] at hmem
  rcases List.mem_append.mp hmem with hmem | hmem
  · exact hmem
  exfalso
  rcases List.mem_cons.mp hmem with rfl | hmem
  · exact lt_irrefl _ hplace
  have hafter := (List.pairwise_cons.mp (List.pairwise_append.mp hpair).2.1).1 m hmem
  exact lt_asymm hplace hafter

section Lives

def Uncompensated (l : Life) (g : GraphId) : Prop :=
  ∃ p, l.rows g .compensation = some p ∧ p.state ≠ .compensated

def Unsuccessful (l : Life) (g : GraphId) : Prop :=
  ∃ p, l.rows g .compensation = some p ∧ p.state ≠ .compensated ∧ p.state ≠ .queued

lemma Sound.one_outstanding (hs : Sound H l) {g' : GraphId} (hg : Uncompensated l g)
    (hg' : Uncompensated l g') : g = g' := by
  obtain ⟨p, hp, hc⟩ := hg
  obtain ⟨p', hp', hc'⟩ := hg'
  obtain ⟨a, b, horder, ha⟩ := hs.compensated g' p' hp'
  exact hs.outstanding horder ha (fun hdone => hc' (hdone.state hp')) hp hc

lemma Sound.reverse_ordered (hs : Sound H l) (hp : l.rows g .compensation = some p) :
    Compensatable l g ∧ ∀ m, Compensatable l m → Depends l.plan g m → l.Compensated m := by
  obtain ⟨a, b, horder, ha⟩ := hs.compensated g p hp
  refine ⟨mem_order.mp (by rw [horder]; simp), ?_⟩
  intro m hm hdep
  exact ha m (mem_before_of_depends hs.plan horder hm hdep)

lemma Step.compensated_of_failed (h : Step H owns l l') (hphase : l.phase = .compensating)
    (hphase' : l'.phase = .failed) : ∀ g, Compensatable l' g → l'.Compensated g := by
  intro g hg
  have horder := h.order_eq (by simp [hphase])
  have hmem := mem_order.mpr hg
  rw [horder] at hmem
  suffices hall : ∀ g ∈ l.order, l.Compensated g from h.compensated (hall g hmem)
  cases h with
  | complete _ hall => exact hall
  | fence _ _ hmove =>
    cases hmove with
    | fail hd =>
      rw [hphase] at hd
      cases hd
    | _ => cases hphase'
  | idle | request | advance | cancelWithdraw | dispatch | compensate | accept =>
    have heq := hphase.symm.trans hphase'
    cases heq
  | _ => cases hphase'

/-- What keeps an applied cancellation from ending a reconciliation that undoes its work: it owns
the publication, and while it compensates there is a mutation to undo. -/
def UndoesMutation (owns : Bool) (l : Life) : Prop :=
  owns = true ∧ (l.phase = .compensating →
    ∃ n ∈ l.plan.nodes, mutation n.kind = true ∧ l.isAccepted n.operationId = true)

/-- A reconciliation with a compensation that ended badly still compensates or waits for an
operator. -/
def Held (l : Life) : Prop :=
  ∀ g, Unsuccessful l g → l.phase = .compensating ∨ l.phase = .waitingForOperator

lemma Step.uncompensated_of_unsuccessful (h : Step H owns l l') (hg : Unsuccessful l' g) :
    Uncompensated l g := by
  obtain ⟨q, hq, hnc, hnq⟩ := hg
  have hrow := h.row g .compensation
  rw [hq] at hrow
  cases hl : l.rows g .compensation with
  | some p =>
    refine ⟨p, hl, fun hdone => ?_⟩
    exact hnc ((h.compensated ⟨p, hl, hdone⟩).state hq)
  | none =>
    rw [hl] at hrow
    cases hrow with
    | compensate _ _ _ hqueued => exact absurd hqueued hnq

lemma Held.phase (hheld : Held l) (hs : Sound H l) (hg : Uncompensated l g) :
    l.phase = .compensating ∨ l.phase = .waitingForOperator := by
  obtain ⟨p, hp, hnc⟩ := hg
  by_cases hq : p.state = .queued
  · exact .inl (hs.queued g .compensation p hp hq)
  exact hheld g ⟨p, hp, hnc, hq⟩

lemma Step.waiting_kept (h : Step H owns l l') (hphase : l.phase = .waitingForOperator)
    (howns : l'.cancellation ≠ l.cancellation → l.applies → owns = true) :
    l'.phase = .waitingForOperator := by
  cases h with
  | start hp | withdraw hp | project hp | acceptAll hp | acceptEvidence hp | publish hp | renew hp
  | complete hp =>
    rw [hphase] at hp
    cases hp
  | incomplete => rfl
  | fence _ _ hmove =>
    cases hmove with
    | park | cancelPark | cancelParked => rfl
    | compensate hp | fail hp =>
      rw [hphase] at hp
      cases hp
    | cancelCompensate _ hne => exact absurd hphase hne
    | cancelDone happlies hopen =>
      have hchanged : some CancellationState.completed ≠ l.cancellation := by
        rcases happlies with hc | hc <;> rw [hc] <;> simp
      exact absurd hphase (hopen (howns hchanged happlies))
  | _ => exact hphase

lemma Step.held_of_compensating (h : Step H owns l l') (hs : Sound H l)
    (hphase : l.phase = .compensating)
    (hspares : l'.cancellation ≠ l.cancellation → l.applies → (∃ g, Uncompensated l g) →
      UndoesMutation owns l) : Held l' := by
  intro g hg
  have hs' := hs.step h
  have hbefore := h.uncompensated_of_unsuccessful hg
  obtain ⟨q, hq, hnc, hnq⟩ := hg
  cases h with
  | start hp | withdraw hp | project hp | acceptAll hp | acceptEvidence hp | publish hp
  | renew hp =>
    rw [hphase] at hp
    cases hp
  | complete => exact absurd (hs'.failed rfl g q hq) hnc
  | incomplete => exact .inr rfl
  | fence _ _ hmove =>
    cases hmove with
    | park | cancelPark | cancelParked => exact .inr rfl
    | compensate | cancelCompensate => exact .inl rfl
    | fail hp =>
      rw [hphase] at hp
      cases hp
    | cancelDone happlies _ hsafe =>
      have hchanged : some CancellationState.completed ≠ l.cancellation := by
        rcases happlies with hc | hc <;> rw [hc] <;> simp
      obtain ⟨howns, hundo⟩ := hspares hchanged happlies ⟨g, hbefore⟩
      obtain ⟨n, hn, hmut, hacc⟩ := hundo hphase
      rw [hsafe howns n hn hmut] at hacc
      cases hacc
  | _ => exact .inl hphase

lemma Held.step (hheld : Held l) (hs : Sound H l) (h : Step H owns l l')
    (hspares : l'.cancellation ≠ l.cancellation → l.applies → (∃ g, Uncompensated l g) →
      UndoesMutation owns l) : Held l' := by
  intro g hg
  have hbefore := h.uncompensated_of_unsuccessful hg
  rcases hheld.phase hs hbefore with hphase | hphase
  · exact h.held_of_compensating hs hphase hspares g hg
  exact .inr (h.waiting_kept hphase fun hc ha => (hspares hc ha ⟨g, hbefore⟩).1)

end Lives

section Enqueued

variable {db' : Database} {k : Option (Uuid × GraphId × ProjectionRole)}

lemma Dispatched.enqueued (h : Dispatched db' k) (ht : Transition H e db db') :
    Dispatched db k ∨ k ∈ enqueuedWork db db' := by
  obtain ⟨p, rfl, hp, hop⟩ := h
  obtain ⟨i, hi⟩ := Option.isSome_iff_exists.mp hop
  rcases ht.fresh _ p i hp hi with ⟨q, hq, hqi⟩ | hnone
  · have hkey : key q = key p := get?_key hq
    exact .inl ⟨q, by rw [hkey], by rw [hkey]; exact hq, by rw [hqi]; rfl⟩
  right
  obtain ⟨o, job, hb⟩ := ht.consistent.working.bound _ p i hp hi
  have hid : o.id = i := get?_key hb.operation
  have hreconciles : reconciles db' o.parentJobId = true := by
    simp [reconciles, hb.parent, hb.reconciliation]
  have hmem := mem_of_get? hb.operation
  obtain ⟨q, hfor⟩ := enqueuedFor_of_new ht.consistent hmem (by rw [hid, hnone]; rfl) hreconciles
  have hkey : key q = key p :=
    ht.consistent.working.unique _ _ q p i hfor.projection hp (by rw [hfor.bound, hid]) hi
  refine List.mem_map.mpr ⟨o, List.mem_filter.mpr ⟨hmem, ?_⟩, ?_⟩
  · simp [hid, hnone, hreconciles]
  rw [hfor.found, Option.map_some, hkey]

lemma dispatched_iff_enqueued (H : List (GraphId × Digest × Digest) → Digest)
    (events : List ReconciliationEvent) (k : Option (Uuid × GraphId × ProjectionRole)) :
    Dispatched (afterRun H events) k ↔
      k ∈ (trace (reconciliationCommit H) {} events).flatMap fun x => x.2.enqueued := by
  have h := @seen_run_iff _ _ _ _ (reconciliationCommit H) (Consistent H) _
    (fun out : Committed => out.enqueued) Dispatched
    (fun _ _ _ _ hs h => (reconciliationCommit_transition hs h).consistent)
    (fun s e t out k hs h => by
      have ht := reconciliationCommit_transition hs h
      rw [(reconciliationCommit_eq_ok h).2]
      constructor
      · exact fun hd => hd.enqueued ht
      rintro (hd | hk)
      · exact hd.step hs ht
      exact (enqueued_fresh hs ht hk).2)
    {} consistent_empty events k
  refine h.trans (or_iff_right ?_)
  rintro ⟨p, -, hp, -⟩
  cases hp

end Enqueued

def CompensationsBound (l : Life) : Prop :=
  ∀ g p, l.rows g .compensation = some p → p.agentOperationId.isSome = true

lemma CompensationsBound.step (hb : CompensationsBound l) (h : Step H owns l l') :
    CompensationsBound l' := by
  have hall := @Step.rows_of H owns l l'
    (fun _ role p => role = .compensation → p.agentOperationId.isSome = true) h
    (fun g role p hp hr => hb g p (hr ▸ hp))
    (by
      intro g role row q hrow hm hr
      cases hm with
      | same => exact hrow q rfl hr
      | project | dispatch => cases hr
      | @accept _ p => exact hrow p rfl hr
      | @fence _ p _ hf =>
        rw [hf.operation]
        exact hrow p rfl hr
      | compensate _ _ _ _ hop =>
        rw [hop]
        rfl)
  exact fun g p hp => hall g .compensation p hp rfl

lemma compensationsBound_afterRun (events : List ReconciliationEvent)
    (hl : lifeOf (afterRun H events) id = some l) : CompensationsBound l := by
  refine (@run_preserves _ _ _ _ (reconciliationCommit H)
    (fun db => Consistent H db ∧ ∀ id l, lifeOf db id = some l → CompensationsBound l) ?_ {}
    ⟨consistent_empty, fun _ _ h => by cases h⟩ events).2 id l hl
  rintro db e db' out ⟨hs, hb⟩ h
  have ht := reconciliationCommit_transition hs h
  refine ⟨ht.consistent, fun id l' hl' => ?_⟩
  cases hl : lifeOf db id with
  | none =>
    intro g p hp
    rw [ht.born id l' hl hl'] at hp
    cases hp
  | some l =>
    obtain ⟨m, hm, hstep, -⟩ := ht.steps id l hl
    obtain rfl : l' = m := Option.mem_unique hl' hm
    exact (hb id l hl).step hstep

def compensationsEnqueued (H : List (GraphId × Digest × Digest) → Digest)
    (events : List ReconciliationEvent) (id : Uuid) (g : GraphId) : ℕ :=
  ((trace (reconciliationCommit H) {} events).flatMap fun x => x.2.enqueued).count
    (some (id, g, .compensation))

lemma compensationsEnqueued_of_row {events : List ReconciliationEvent}
    (hl : lifeOf (afterRun H events) id = some l) (g : GraphId) :
    (l.Compensated g → compensationsEnqueued H events id g = 1) ∧
      (¬ Compensatable l g → compensationsEnqueued H events id g = 0) := by
  have hs := @consistent_afterRun H events
  constructor
  · rintro ⟨p, hp, hdone⟩
    rw [rows_of_life hl] at hp
    have hkey : key p = (id, g, .compensation) := get?_key hp
    refine List.count_eq_one_of_mem (enqueued_once H events) ?_
    rw [← dispatched_iff_enqueued]
    refine ⟨p, by rw [hkey], by rw [hkey]; exact hp, ?_⟩
    exact compensationsBound_afterRun events hl g p (by rw [rows_of_life hl]; exact hp)
  intro hnot
  refine List.count_eq_zero_of_not_mem ?_
  rw [← dispatched_iff_enqueued]
  rintro ⟨p, hkey, hp, -⟩
  obtain ⟨rfl, rfl, hrole⟩ : id = p.reconciliationId ∧ g = p.graphOperationId ∧
      .compensation = p.role := by simpa using hkey
  refine hnot ((hs.sound _ l hl).reverse_ordered (p := p) ?_).1
  rw [rows_of_life hl, hrole]
  exact hp

lemma compensateNext_parks (ha : ∀ x ∈ a, (lifeRow db r plan).Compensated x)
    (hp : (lifeRow db r plan).rows g .compensation = some p)
    (hstate : p.state = .failed ∨ p.state = .waitingForOperator) :
    compensateNext view db r job plan (projectionsOf db r.id [.compensation]) (a ++ g :: b) =
      .ok (false, waitForOperator db view.now r.id job.id
        "reconciliation compensation is incomplete") := by
  have hrow : ∀ {x q}, (lifeRow db r plan).rows x .compensation = some q →
      stateOf (projectionsOf db r.id [.compensation]) x = some q.state := by
    intro x q hq
    rw [stateOf_projectionsOf]
    exact congrArg (Option.map (·.state)) hq
  induction a with
  | nil =>
    rw [List.nil_append, compensateNext, hrow hp]
    rcases hstate with hs | hs <;> rw [hs]
  | cons x a ih =>
    obtain ⟨q, hq, hdone⟩ := ha x List.mem_cons_self
    rw [List.cons_append, compensateNext, hrow hq, hdone]
    exact ih fun y hy => ha y (.tail _ hy)

lemma dispatchCompensation_parks (hs : Sound H (lifeRow db r plan))
    (hg : Unsuccessful (lifeRow db r plan) g) :
    dispatchCompensation view db r job plan =
      .ok (false, waitForOperator db view.now r.id job.id
        "reconciliation compensation is incomplete") := by
  obtain ⟨p, hp, hnc, hnq⟩ := hg
  obtain ⟨a, b, horder, ha⟩ := hs.compensated g p hp
  unfold dispatchCompensation
  rw [compensationOrder_eq, horder]
  refine compensateNext_parks ha hp ?_
  have hlegal := hs.states g .compensation p hp
  cases hstate : p.state <;> simp_all [legalState]

/-- A cancellation that is applied beside an unfinished compensation owns the publication, and has a
mutation to undo while the reconciliation compensates. -/
def sparesCompensation (db : Database) : ReconciliationEvent → Bool
  | .tick _ _ id => (lifeOf db id).all fun l =>
      !decide l.applies ||
        !(db.projections.rows.any fun p => p.reconciliationId = id && p.role = .compensation &&
          p.state ≠ .compensated) ||
        ownsNow db id && (l.phase ≠ .compensating ||
          l.plan.nodes.any fun n => mutation n.kind && l.isAccepted n.operationId)
  | _ => true

lemma undoesMutation_of_spares (hspares : sparesCompensation db e = true)
    (hticks : e.ticks id = true) (hl : lifeOf db id = some l) (happlies : l.applies)
    (hg : Uncompensated l g) : UndoesMutation (ownsNow db id) l := by
  obtain ⟨p, hp, hnc⟩ := hg
  rw [rows_of_life hl] at hp
  have hkey : key p = (id, g, .compensation) := get?_key hp
  simp only [key_projection, Prod.mk.injEq] at hkey
  obtain ⟨hid, -, hrole⟩ := hkey
  have hany : (db.projections.rows.any fun p => p.reconciliationId = id &&
      p.role = .compensation && p.state ≠ .compensated) = true :=
    List.any_eq_true.mpr ⟨p, mem_of_get? hp, by simp [hid, hrole, hnc]⟩
  cases e with
  | tick view auto k =>
    obtain rfl : k = id := by simpa [ReconciliationEvent.ticks] using hticks
    simp only [sparesCompensation, hl, Option.all_some, happlies, hany, decide_true, Bool.not_true,
      Bool.or_self, Bool.false_or, Bool.and_eq_true] at hspares
    refine ⟨hspares.1, fun hphase => ?_⟩
    simpa [hphase] using hspares.2
  | _ => cases hticks

lemma Held.transition {db' : Database} (hheld : Held l) (hs : Consistent H db)
    (ht : Transition H e db db') (hspares : sparesCompensation db e = true)
    (hl : lifeOf db id = some l) (hl' : lifeOf db' id = some l') :
    Held l' ∧ (l.phase = .waitingForOperator → (∃ g, Unsuccessful l g) →
      l'.phase = .waitingForOperator) := by
  obtain ⟨m, hm, hstep, hcan⟩ := ht.steps id l hl
  obtain rfl : l' = m := Option.mem_unique hl' hm
  have hundoes : l'.cancellation ≠ l.cancellation → l.applies → (∃ g, Uncompensated l g) →
      UndoesMutation (ownsNow db id) l := by
    rintro hchanged happlies ⟨g, hg⟩
    have hticks : e.ticks id = true := by
      by_contra hnot
      exact hchanged (hcan (by simpa using hnot) happlies)
    exact undoesMutation_of_spares hspares hticks hl happlies hg
  refine ⟨hheld.step (hs.sound id l hl) hstep hundoes, ?_⟩
  rintro hphase ⟨g, p, hp, hnc, -⟩
  exact hstep.waiting_kept hphase fun hc ha => (hundoes hc ha ⟨g, p, hp, hnc⟩).1

lemma held_afterRun {events : List ReconciliationEvent}
    (hspares : Along (reconciliationCommit H) (fun db e => sparesCompensation db e = true) {} events)
    (hl : lifeOf (afterRun H events) id = some l) : Held l := by
  refine (@run_preserves_of_along _ _ _ _ (reconciliationCommit H)
    (fun db e => sparesCompensation db e = true)
    (fun db => Consistent H db ∧ ∀ id l, lifeOf db id = some l → Held l) ?_ {} events
    ⟨consistent_empty, fun _ _ h => by cases h⟩ hspares).2 id l hl
  rintro db e db' out ⟨hs, hheld⟩ hspare h
  have ht := reconciliationCommit_transition hs h
  refine ⟨ht.consistent, fun id l' hl' => ?_⟩
  cases hl : lifeOf db id with
  | none =>
    rintro g ⟨p, hp, -⟩
    rw [ht.born id l' hl hl'] at hp
    cases hp
  | some l => exact ((hheld id l hl).transition hs ht hspare hl hl').1

structure CompensationExact (H : List (GraphId × Digest × Digest) → Digest)
    (events : List ReconciliationEvent) : Prop where
  /-- At most one compensation is outstanding. -/
  outstanding : ∀ id l, lifeOf (afterRun H events) id = some l →
    ∀ g g', Uncompensated l g → Uncompensated l g' → g = g'
  /-- What is compensated was accepted and declares it, and everything that depends on it was
  compensated before. -/
  reversed : ∀ id l, lifeOf (afterRun H events) id = some l →
    ∀ g p, l.rows g .compensation = some p → Compensatable l g ∧
      ∀ m, Compensatable l m → Depends l.plan g m → l.Compensated m
  /-- No compensation is enqueued twice. -/
  once : ∀ id g, compensationsEnqueued H events id g ≤ 1
  /-- A reconciliation that fails after it compensated has compensated exactly what it had to, each
  operation once. -/
  exact : ∀ before e rest db' out id l l', events = before ++ e :: rest →
    reconciliationCommit H (afterRun H before) e = .ok (db', out) →
    lifeOf (afterRun H before) id = some l → lifeOf db' id = some l' →
    l.phase = .compensating → l'.phase = .failed →
    ∀ g, (l'.Compensated g ↔ Compensatable l' g) ∧
      (Compensatable l' g → compensationsEnqueued H (before ++ [e]) id g = 1) ∧
      (¬ Compensatable l' g → compensationsEnqueued H (before ++ [e]) id g = 0)
  /-- A reconciliation with a compensation that ended badly still compensates or waits for an
  operator. -/
  parked : ∀ id l, lifeOf (afterRun H events) id = some l → (∃ g, Unsuccessful l g) →
    l.phase = .compensating ∨ l.phase = .waitingForOperator
  /-- Once it waits for an operator it does so in every later state. -/
  kept : ∀ before e rest db' out id l l', events = before ++ e :: rest →
    reconciliationCommit H (afterRun H before) e = .ok (db', out) →
    lifeOf (afterRun H before) id = some l → lifeOf db' id = some l' →
    l.phase = .waitingForOperator → (∃ g, Unsuccessful l g) → l'.phase = .waitingForOperator
  /-- As long as such a reconciliation still compensates, its next dispatch parks it. -/
  incomplete : ∀ r plan job view, (afterRun H events).reconciliations.get? r.id = some r →
    r.plan = some plan → (∃ g, Unsuccessful (lifeRow (afterRun H events) r plan) g) →
    dispatchCompensation view (afterRun H events) r job plan =
      .ok (false, waitForOperator (afterRun H events) view.now r.id job.id
        "reconciliation compensation is incomplete")

/-- Compensation is complete, exact and in reverse order in every run whose applied cancellations
spare it. -/
theorem run_compensation_exact (H : List (GraphId × Digest × Digest) → Digest)
    (events : List ReconciliationEvent)
    (hspares : Along (reconciliationCommit H) (fun db e => sparesCompensation db e = true) {}
      events) : CompensationExact H events where
  outstanding := by
    intro id l hl g g' hg hg'
    exact ((consistent_afterRun events).sound id l hl).one_outstanding hg hg'
  reversed := by
    intro id l hl g p hp
    exact ((consistent_afterRun events).sound id l hl).reverse_ordered hp
  once := fun id g => List.nodup_iff_count_le_one.mp (enqueued_once H events) _
  exact := by
    intro before e rest db' out id l l' _ h hl hl' hphase hphase' g
    have hs := @consistent_afterRun H before
    have ht := reconciliationCommit_transition hs h
    obtain ⟨m, hm, hstep, -⟩ := ht.steps id l hl
    obtain rfl : l' = m := Option.mem_unique hl' hm
    have hafter : afterRun H (before ++ [e]) = db' := by
      unfold afterRun at h ⊢
      rw [run_append, run_cons, run_nil, commit, h]
    have hall := hstep.compensated_of_failed hphase hphase' g
    have hcount := compensationsEnqueued_of_row (hafter.symm ▸ hl') g
    refine ⟨⟨?_, hall⟩, fun hg => hcount.1 (hall hg), hcount.2⟩
    rintro ⟨p, hp, -⟩
    exact ((ht.consistent.sound id l' hl').reverse_ordered hp).1
  parked := by
    rintro id l hl ⟨g, hg⟩
    exact held_afterRun hspares hl g hg
  kept := by
    intro before e rest db' out id l l' hsplit h hl hl'
    have hs := @consistent_afterRun H before
    rw [hsplit, along_append] at hspares
    exact ((held_afterRun hspares.1 hl).transition hs (reconciliationCommit_transition hs h)
      hspares.2.1 hl hl').2
  incomplete := by
    intro r plan job view hr hplan hg
    obtain ⟨g, hg⟩ := hg
    have hl : lifeOf (afterRun H events) r.id = some (lifeRow (afterRun H events) r plan) := by
      simp only [lifeOf, hr, Option.bind_some, hplan, Option.map_some]
    exact dispatchCompensation_parks ((consistent_afterRun events).sound r.id _ hl) hg

/-- An accepted operation declares `workload.stop` as its compensation; the verification fails, and
a tick enqueues the compensation. -/
def compensatingRun (kind : AgentOperation) : List ReconciliationEvent :=
  dispatchedRun
      [{ operationId := 1, nodeId := 1, workloadId := "model-a", kind,
         compensationKind := some .workloadStop, payload := { canonicalDigest := 5 },
         compensationPayload := some { canonicalDigest := 6 } },
        { operationId := 2, nodeId := 1, workloadId := "model-a", kind := .workloadVerify,
          dependencies := [1], payload := { canonicalDigest := 7 } }] ++
    executed 30 .succeeded ++ [tickFrom 20] ++ executed 31 .failed ++ [tickFrom 30]

/-- The compensation of a started workload succeeds and the reconciliation fails. -/
theorem started_workload_compensated :
    StandsAt (afterRun (fun _ => 0)
        (compensatingRun .workloadStart ++ executed 32 .succeeded ++ [tickFrom 40])) 7 .failed
        .failed ∧
      CompensationExact (fun _ => 0)
        (compensatingRun .workloadStart ++ executed 32 .succeeded ++ [tickFrom 40]) :=
  ⟨by decide +kernel, run_compensation_exact _ _ (by decide +kernel)⟩

def interruptedRun : List ReconciliationEvent :=
  compensatingRun .workloadHealth ++ (executed 32 .succeeded).take 1 ++
    [.enqueueCancel 7 "stop", tickFrom 40]

/-- The compensation is interrupted while it runs, so what it did is not known; the reconciliation
ends as cancelled, and no operator is asked. -/
theorem interrupted_compensation_cancelled :
    StandsAt (afterRun (fun _ => 0) interruptedRun) 7 .compensating .running ∧
      ((afterRun (fun _ => 0) interruptedRun).operations.get? 31).map (fun o => (o.kind, o.state)) =
        some (.workloadStop, .running) ∧
      StandsAt (afterRun (fun _ => 0) (interruptedRun ++ [tickFrom 40])) 7 .cancelled .cancelled ∧
      ((afterRun (fun _ => 0) (interruptedRun ++ [tickFrom 40])).projections.get?
        (7, 1, .compensation)).map (·.state) = some .failed := by
  decide +kernel

end VonkForge.AgentReconciliation
