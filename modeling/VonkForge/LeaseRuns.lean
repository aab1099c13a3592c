import VonkForge.LeaseGroups

/-!
# Runs of the lease calls

Hand-offs that contain the predecessor's group keep all groups whole; a strict one breaks one.
-/

namespace VonkForge.LeaseHandoff

open NodeLeases Transactions Table

lemma load_eq_ok {α : Type} {x : Option α} {a : α} : load x = .ok a ↔ x = some a := by
  cases x <;> simp [load]

lemma get?_of_load {R : Type} [Keyed R Uuid] {t : Table R} {id : Uuid} {r : R}
    (h : load (t.get? id) = .ok r) : t.get? (Keyed.key r) = some r := by
  have hr := load_eq_ok.mp h
  rw [get?_key hr]
  exact hr

variable {db : Database} {r p : Reconciliation} {now : Time} {fence held : Uuid}
  {row : NodeMutationLease} {state : LeaseState}

lemma targetsOf_setPhase (db : Database) (id : Uuid) (phase : ReconciliationPhase)
    (kind : LeaseOwnerKind) (owner : Uuid) :
    targetsOf { db with reconciliations := setPhase db.reconciliations id phase } kind owner =
      targetsOf db kind owner := by
  cases kind with
  | updateRollout => rfl
  | reconciliation =>
    simp only [targetsOf, setPhase, get?_updateWhere, Option.map_map]
    congr 1
    funext r
    by_cases hid : r.id = id <;> simp [hid]

lemma leaseInv_empty : LeaseInv {} := by
  constructor
  · intro n row hrow
    cases hrow
  intro n row hrow
  cases hrow

lemma ensureNodeLease_of_conflict {nodes : List NodeId}
    (h : ownedGrantInSession db r.targets.nodes .reconciliation r.id = .error (.conflict nodes)) :
    ensureNodeLease db now fence r = handOff db now fence r := by
  unfold ensureNodeLease
  rw [h]

/-- The call returns a held grant of exactly the targets, or nothing and changes nothing. -/
def Concludes (db db' : Database) (r : Reconciliation) : Option NodeLeaseGrant → Prop
  | some grant => grant = ⟨.reconciliation, r.id, grant.fence, groupNodes r.targets, .held⟩ ∧
      GroupAt db'.leases (groupNodes r.targets) .reconciliation r.id grant.fence .held
  | none => db' = db

/-- The group is its own; or free targets, and those of a predecessor with a row on each of them,
are enrolled. -/
def Leasable (db : Database) (r : Reconciliation) : Prop :=
  (∃ fence state, GroupAt db.leases (groupNodes r.targets) .reconciliation r.id fence state) ∨
    ((∀ n ∈ groupNodes r.targets, db.leases.get? n = none) →
      ∀ n ∈ groupNodes r.targets, ∃ node, db.nodes.get? n = some node) ∧
    ∀ p held state, Predecessor db r p held state → ∀ n ∈ groupNodes r.targets,
      (∃ row, db.leases.get? n = some row) ∧ ∃ node, db.nodes.get? n = some node

section

variable (h : Predecessor db r p held state)
  (hrows : ∀ n ∈ groupNodes r.targets, ∃ row, db.leases.get? n = some row)

include h hrows

lemma Predecessor.mark (now : Time) :
    ∃ leases, markHeld db now ⟨.reconciliation, p.id, held, groupNodes r.targets, state⟩ =
        .ok { db with leases := leases } ∧
      GroupAt leases (groupNodes r.targets) .reconciliation p.id held .releasing ∧
      ∀ n, n ∉ groupNodes r.targets → leases.get? n = db.leases.get? n := by
  have hall := covered_iff.mpr ⟨hrows, h.fenced⟩
  unfold markHeld
  split
  · have hget := get?_setLeaseState db.leases (groupNodes r.targets) .releasing now
    refine ⟨_, (markReleasing_eq_ok rfl).mpr ⟨hall, rfl⟩, ?_, ?_⟩
    · intro n hmem
      obtain ⟨row, hrow, hf⟩ := hall n hmem
      refine ⟨{ row with state := .releasing, updatedAt := now }, ?_, hf, rfl⟩
      rw [hget, hrow, Option.map_some, if_pos hmem]
    intro n hmem
    rw [hget]
    simp [hmem]
  next hs =>
  have hstate : state = .releasing := by
    cases state with
    | held => exact absurd rfl hs
    | releasing => rfl
  exact ⟨db.leases, rfl, covered_iff.mpr ⟨hrows, fun row hrow =>
    ⟨h.fenced row hrow, h.releasing hstate row hrow⟩⟩, fun _ _ => rfl⟩

lemma Predecessor.takeOver_eq (now : Time) (fence : Uuid) :
    ∃ freed, (∀ n, freed.get? n = if n ∈ groupNodes r.targets then none else db.leases.get? n) ∧
      ∀ acquired, acquireInSession { db with leases := freed } now fence r.targets.nodes
          .reconciliation r.id = acquired →
        (∀ grant db', acquired = .ok (grant, db') → takeOver db now fence r
          ⟨.reconciliation, p.id, held, groupNodes r.targets, state⟩ = .ok (some grant, db')) ∧
        ∀ missing, acquired = .error (.unknownNodes missing) → takeOver db now fence r
          ⟨.reconciliation, p.id, held, groupNodes r.targets, state⟩ =
            .error (.unknownNodes missing) := by
  obtain ⟨marked, hmark, hmarked, hrest⟩ := h.mark hrows now
  have hrel := (@release_eq_ok r.targets { db with leases := marked } _
    ⟨.reconciliation, p.id, held, groupNodes r.targets, .releasing⟩ rfl).mpr ⟨hmarked, rfl⟩
  refine ⟨deleteNodes marked (groupNodes r.targets), fun n => ?_, fun _ hacq => ?_⟩
  · rw [get?_deleteNodes]
    split
    · rfl
    next hn => exact hrest n hn
  rw [takeOver, hmark, ok_bind, hrel, ok_bind, hacq]
  exact ⟨fun _ _ hok => by rw [hok], fun _ herr => by rw [herr]⟩

lemma Predecessor.takeOver_eq_ok (now : Time) (fence : Uuid)
    (hknown : ∀ n ∈ groupNodes r.targets, ∃ node, db.nodes.get? n = some node) :
    ∃ leases, takeOver db now fence r
        ⟨.reconciliation, p.id, held, groupNodes r.targets, state⟩ =
          .ok (some ⟨.reconciliation, r.id, fence, groupNodes r.targets, .held⟩,
            { db with leases := leases }) ∧
      ∀ n, leases.get? n = if n ∈ groupNodes r.targets then
        some ⟨n, .reconciliation, r.id, fence, .held, now, now⟩ else db.leases.get? n := by
  obtain ⟨freed, hget, htake⟩ := h.takeOver_eq hrows now fence
  have hfree : ∀ n ∈ groupNodes r.targets, freed.get? n = none := by
    intro n hn
    rw [hget, if_pos hn]
  refine ⟨_, (htake _ (acquire_of_free hfree hknown)).1 _ _ rfl, fun n => ?_⟩
  rw [get?_heldRows hfree]
  split
  · rfl
  next hn => rw [hget, if_neg hn]

end

lemma Predecessor.targets_of_takeOver {o : Option NodeLeaseGrant} {db' : Database}
    (h : Predecessor db r p held state) (htake : takeOver db now fence r
      ⟨.reconciliation, p.id, held, groupNodes r.targets, state⟩ = .ok (o, db')) :
    ∀ n ∈ groupNodes r.targets,
      (∃ row, db.leases.get? n = some row) ∧ ∃ node, db.nodes.get? n = some node := by
  have hrows : ∀ n ∈ groupNodes r.targets, ∃ row, db.leases.get? n = some row := by
    intro n hn
    obtain ⟨row, hrow, -⟩ := takeOver_covers rfl htake n hn
    exact ⟨row, hrow⟩
  obtain ⟨freed, hget, heq⟩ := h.takeOver_eq hrows now fence
  suffices hknown : ∀ n ∈ groupNodes r.targets, ∃ node, db.nodes.get? n = some node from
    fun n hn => ⟨hrows n hn, hknown n hn⟩
  by_contra hunknown
  obtain ⟨missing, hacq⟩ := @acquire_unknown r.targets { db with leases := freed } .reconciliation
    r.id fence now (fun n hn => by rw [hget, if_pos hn]) hunknown
  rw [(heq _ hacq).2 missing rfl] at htake
  cases htake

theorem ensureNodeLease_settles_iff (db : Database) (now : Time) (fence : Uuid)
    (r : Reconciliation) :
    (∃ o db', ensureNodeLease db now fence r = .ok (o, db') ∧ Concludes db db' r o) ↔
      Leasable db r := by
  cases hown : ownedGrantInSession db r.targets.nodes .reconciliation r.id with
  | error e =>
    obtain ⟨nodes, rfl⟩ := ownedGrant_error hown
    rw [ensureNodeLease_of_conflict hown]
    constructor
    · rintro ⟨o, db', hok, -⟩
      refine .inr ⟨fun hfree => ?_, fun p held state hp => ?_⟩
      · rw [ownedGrant_eq_none.mpr hfree] at hown
        cases hown
      rw [hp.handOff_eq] at hok
      exact hp.targets_of_takeOver hok
    rintro (⟨held, state, hall⟩ | ⟨-, hpred⟩)
    · rw [(@ownedGrant_eq_some r.targets db .reconciliation r.id
        ⟨.reconciliation, r.id, held, groupNodes r.targets, state⟩).mpr ⟨rfl, hall⟩] at hown
      cases hown
    by_cases hp : ∃ p held state, Predecessor db r p held state
    · obtain ⟨p, held, state, hp⟩ := hp
      have htargets := hpred p held state hp
      obtain ⟨leases, htake, hleases⟩ := hp.takeOver_eq_ok (fun n hn => (htargets n hn).1) now
        fence fun n hn => (htargets n hn).2
      refine ⟨_, _, hp.handOff_eq.trans htake, rfl, fun n hn => ?_⟩
      exact ⟨_, (hleases n).trans (if_pos hn), ⟨rfl, rfl, rfl⟩, rfl⟩
    push Not at hp
    exact ⟨none, db, handOff_of_forall_not hp, rfl⟩
  | ok owned =>
    unfold ensureNodeLease
    rw [hown]
    cases owned with
    | some grant =>
      obtain ⟨hgrant, hall⟩ := ownedGrant_eq_some.mp hown
      refine iff_of_true ⟨_, db, rfl, ?_⟩ (.inl ⟨_, _, hall⟩)
      split
      · next hheld =>
        rw [hheld] at hgrant hall
        exact ⟨hgrant, hall⟩
      rfl
    | none =>
      have hfree := ownedGrant_eq_none.mp hown
      by_cases hknown : ∀ n ∈ groupNodes r.targets, ∃ node, db.nodes.get? n = some node
      · rw [acquire_of_free hfree hknown]
        refine iff_of_true ⟨_, _, rfl, rfl, fun n hn => ?_⟩
          (.inr ⟨fun _ => hknown, fun _ _ _ hp => absurd (leaseRows_eq_nil.mpr hfree) hp.rows⟩)
        exact ⟨_, (get?_heldRows hfree n).trans (if_pos hn), ⟨rfl, rfl, rfl⟩, rfl⟩
      obtain ⟨missing, hacq⟩ :=
        @acquire_unknown r.targets db .reconciliation r.id fence now hfree hknown
      rw [hacq]
      refine iff_of_false (fun ⟨_, _, h, _⟩ => by cases h) ?_
      rintro (⟨held, state, hall⟩ | ⟨h, -⟩)
      · obtain ⟨n, hn⟩ := List.exists_mem_of_ne_nil _ (groupNodes_ne_nil r.targets)
        obtain ⟨row, hrow, -⟩ := hall n hn
        rw [hfree n hn] at hrow
        cases hrow
      exact hknown (h hfree)

/-- Lease groups are all or nothing, and an owner can always recover and remove its own. -/
structure AllOrNothing (db : Database) : Prop where
  groups : ∀ kind owner, (∀ row ∈ db.leases.rows, ownedBy kind owner row = false) ∨
    ∃ g fence state, targetsOf db kind owner = some g ∧
      (∀ n, n ∈ g.nodes ↔ ∃ row, db.leases.get? n = some row ∧ ownedBy kind owner row = true) ∧
      ∀ row ∈ db.leases.rows, ownedBy kind owner row = true → row.fence = fence ∧ row.state = state
  recovers : ∀ kind owner g, targetsOf db kind owner = some g →
    ∀ n ∈ g.nodes, ∀ row, db.leases.get? n = some row → ownedBy kind owner row = true →
      ∃ grant, ownedGrantInSession db g.nodes kind owner = .ok (some grant)
  removes : ∀ row ∈ db.leases.rows, row.state = .releasing →
    ∃ g grant db', targetsOf db row.ownerKind row.ownerId = some g ∧
      ownedGrantInSession db g.nodes row.ownerKind row.ownerId = .ok (some grant) ∧
      releaseInSession db grant = .ok db' ∧
      ∀ row' ∈ db'.leases.rows, ownedBy row.ownerKind row.ownerId row' = false

section

variable (hinv : LeaseInv db)

include hinv

lemma LeaseInv.plan {ts : Table Reconciliation} (h : db.reconciliations.insert r = some ts) :
    LeaseInv { db with reconciliations := ts } := by
  refine hinv.frame rfl ?_ fun n node hnode => ⟨node, hnode⟩
  intro n row g _ hg
  cases hk : row.ownerKind with
  | updateRollout => simpa only [targetsOf, hk] using hg
  | reconciliation =>
    rw [hk] at hg
    simp only [targetsOf] at hg ⊢
    obtain ⟨x, hx, hxg⟩ := Option.map_eq_some_iff.mp hg
    rw [get?_insert_of_some h hx, Option.map_some, hxg]

lemma LeaseInv.createRollout {u : UpdateRollout} {ts : Table UpdateRollout}
    (h : db.rollouts.insert u = some ts) : LeaseInv { db with rollouts := ts } := by
  refine hinv.frame rfl ?_ fun n node hnode => ⟨node, hnode⟩
  intro n row g _ hg
  cases hk : row.ownerKind with
  | reconciliation => simpa only [targetsOf, hk] using hg
  | updateRollout =>
    rw [hk] at hg
    simp only [targetsOf] at hg ⊢
    obtain ⟨x, hx, hxg⟩ := Option.bind_eq_some_iff.mp hg
    rw [get?_insert_of_some h hx, Option.bind_some, hxg]

lemma StrictHandoff.groupAt (h : StrictHandoff db r p) : ∃ fence state,
      GroupAt db.leases p.targets.nodes .reconciliation p.id fence state ∧
      (state = .releasing ∨ cancellationWithdrawing db p = true) := by
  obtain ⟨hp, -, ⟨n, hn, row, hrow, hk, ho, hs⟩, hsub, -⟩ := h
  obtain ⟨g, hg, -, hall⟩ := hinv.whole n row hrow
  rw [hk, ho, targetsOf_reconciliation hp] at hg
  cases hg
  rw [hk, ho] at hall
  exact ⟨row.fence, row.state, hall, hs⟩

section

variable (hr : db.reconciliations.get? r.id = some r) (h : StrictHandoff db r p)

include hr h

lemma StrictHandoff.conflict :
    ∃ nodes, ownedGrantInSession db r.targets.nodes .reconciliation r.id =
      .error (.conflict nodes) := by
  obtain ⟨fence, state, hall, -⟩ := h.groupAt hinv
  obtain ⟨hp, -, -, hsub, m, hm, hmr⟩ := h
  obtain ⟨n, hn⟩ := List.exists_mem_of_ne_nil _ (groupNodes_ne_nil r.targets)
  obtain ⟨row, hrow, hf, -⟩ := hall n (hsub n (mem_groupNodes.mp hn))
  cases hg : ownedGrantInSession db r.targets.nodes .reconciliation r.id with
  | error =>
    obtain ⟨nodes, rfl⟩ := ownedGrant_error hg
    exact ⟨nodes, rfl⟩
  | ok og =>
    cases og with
    | none =>
      have hnone := ownedGrant_eq_none.mp hg n hn
      rw [hrow] at hnone
      cases hnone
    | some =>
      obtain ⟨row', hrow', hf', -⟩ := (ownedGrant_eq_some.mp hg).2 n hn
      rw [hrow] at hrow'
      cases hrow'
      have hid : r.id = p.id := hf'.2.1.symm.trans hf.2.1
      rw [hid, hp] at hr
      cases hr
      exact absurd hm hmr

lemma StrictHandoff.breaks :
    ∃ o db', ensureNodeLease db now fence r = .ok (o, db') ∧ ¬ LeaseInv db' := by
  obtain ⟨held, state, hgroup, hstate⟩ := h.groupAt hinv
  obtain ⟨nodes, hconflict⟩ := h.conflict hinv hr
  obtain ⟨hp, hterm, -, hsub, m, hm, hmr⟩ := h
  have hall : GroupAt db.leases (groupNodes r.targets) .reconciliation p.id held state := by
    intro n hn
    exact hgroup n (hsub n (mem_groupNodes.mp hn))
  obtain ⟨hrows, hrow⟩ := covered_iff.mp hall
  obtain ⟨n, hn⟩ := List.exists_mem_of_ne_nil _ (groupNodes_ne_nil r.targets)
  obtain ⟨row, hget, -⟩ := hall n hn
  have hkey : row.nodeId = n := get?_key hget
  have hmem : row ∈ leaseRows db.leases (groupNodes r.targets) :=
    mem_leaseRows.mpr ⟨hkey ▸ hn, hkey ▸ hget⟩
  have hpred : Predecessor db r p held state := by
    refine ⟨hp, hterm, List.ne_nil_of_mem hmem, fun row' h' => (hrow row' h').1, ?_, ?_⟩
    · constructor
      · intro hs
        exact ⟨row, hmem, hs ▸ (hrow row hmem).2⟩
      rintro ⟨row', h', hs⟩
      rw [← hs, (hrow row' h').2]
    rintro rfl
    rcases hstate with hs | hcancel
    · cases hs
    exact hcancel
  have hknown : ∀ n ∈ groupNodes r.targets, ∃ node, db.nodes.get? n = some node := by
    intro n hn
    obtain ⟨row, hrow, -⟩ := hall n hn
    exact hinv.known n row hrow
  obtain ⟨leases, htake, hleases⟩ := hpred.takeOver_eq_ok hrows now fence hknown
  have hok := (ensureNodeLease_of_conflict hconflict).trans (hpred.handOff_eq.trans htake)
  refine ⟨_, _, hok, ?_⟩
  · intro hinv'
    have hmg : m ∉ groupNodes r.targets := fun hmem => hmr (mem_groupNodes.mp hmem)
    obtain ⟨row', hrow', ⟨hk, ho, -⟩, -⟩ := hgroup m hm
    have hm' : leases.get? m = some row' := by rw [hleases, if_neg hmg, hrow']
    obtain ⟨g, hg, -, hwhole⟩ := hinv'.whole m row' hm'
    have htargets : targetsOf { db with leases := leases } .reconciliation p.id = some p.targets :=
      targetsOf_reconciliation hp
    rw [hk, ho, htargets] at hg
    cases hg
    obtain ⟨row'', hrow'', ⟨-, ho'', -⟩, -⟩ := hwhole n (hsub n (mem_groupNodes.mp hn))
    rw [hleases, if_pos hn] at hrow''
    cases hrow''
    have hid : r.id = p.id := ho''.trans ho
    rw [hid, hp] at hr
    cases hr
    exact hmr hm

end

lemma LeaseInv.recover {n : NodeId} (hrow : db.leases.get? n = some row) :
    ∃ g, targetsOf db row.ownerKind row.ownerId = some g ∧ n ∈ g.nodes ∧
      GroupAt db.leases (groupNodes g) row.ownerKind row.ownerId row.fence row.state ∧
      ownedGrantInSession db g.nodes row.ownerKind row.ownerId =
        .ok (some ⟨row.ownerKind, row.ownerId, row.fence, groupNodes g, row.state⟩) := by
  obtain ⟨g, hg, hn, hall⟩ := hinv.whole n row hrow
  have hall' : GroupAt db.leases (groupNodes g) row.ownerKind row.ownerId row.fence row.state := by
    intro m hm
    exact hall m (mem_groupNodes.mp hm)
  exact ⟨g, hg, hn, hall', ownedGrant_eq_some.mpr ⟨rfl, hall'⟩⟩

lemma LeaseInv.same_owner {row' : NodeMutationLease} (hrow : row ∈ db.leases.rows)
    (hrow' : row' ∈ db.leases.rows)
    (hown : row'.ownerKind = row.ownerKind ∧ row'.ownerId = row.ownerId) :
    row'.fence = row.fence ∧ row'.state = row.state := by
  obtain ⟨g, hg, -, hall⟩ := hinv.whole row.nodeId row (get?_of_mem hrow)
  obtain ⟨g', hg', hn', -⟩ := hinv.whole row'.nodeId row' (get?_of_mem hrow')
  rw [hown.1, hown.2, hg] at hg'
  cases hg'
  obtain ⟨x, hx, hf, hs⟩ := hall row'.nodeId hn'
  have hself : db.leases.get? row'.nodeId = some row' := get?_of_mem hrow'
  rw [hself] at hx
  cases hx
  exact ⟨hf.2.2, hs⟩

lemma LeaseInv.allOrNothing : AllOrNothing db := by
  constructor
  · intro kind owner
    by_cases hex : ∃ row ∈ db.leases.rows, ownedBy kind owner row = true
    · obtain ⟨row, hrow, hown⟩ := hex
      obtain ⟨rfl, rfl⟩ := ownedBy_eq_true.mp hown
      obtain ⟨g, hg, -, hall, -⟩ := hinv.recover (get?_of_mem hrow)
      refine .inr ⟨g, row.fence, row.state, hg, ?_, ?_⟩
      · intro n
        constructor
        · intro hn
          obtain ⟨row', hrow', hf, -⟩ := hall n (mem_groupNodes.mpr hn)
          exact ⟨row', hrow', ownedBy_eq_true.mpr ⟨hf.1, hf.2.1⟩⟩
        rintro ⟨row', hrow', hown'⟩
        obtain ⟨hk, ho⟩ := ownedBy_eq_true.mp hown'
        obtain ⟨g', hg', hn', -⟩ := hinv.whole n row' hrow'
        rw [hk, ho, hg] at hg'
        cases hg'
        exact hn'
      intro row' hrow' hown'
      exact hinv.same_owner hrow hrow' (ownedBy_eq_true.mp hown')
    refine .inl ?_
    intro row hrow
    exact Bool.eq_false_iff.mpr fun hown => hex ⟨row, hrow, hown⟩
  · intro kind owner g hg n _ row hrow hown
    obtain ⟨rfl, rfl⟩ := ownedBy_eq_true.mp hown
    obtain ⟨g', hg', -, -, hgrant⟩ := hinv.recover hrow
    rw [hg] at hg'
    cases hg'
    exact ⟨_, hgrant⟩
  intro row hrow hstate
  obtain ⟨g, hg, -, hall, hgrant⟩ := hinv.recover (get?_of_mem hrow)
  refine ⟨g, _, _, hg, hgrant, (release_eq_ok (g := g) rfl).mpr ⟨hstate ▸ hall, rfl⟩, ?_⟩
  intro row' hrow'
  obtain ⟨hmem, hkeep⟩ := mem_deleteWhere.mp hrow'
  apply Bool.eq_false_iff.mpr
  intro hown'
  obtain ⟨hk, ho⟩ := ownedBy_eq_true.mp hown'
  obtain ⟨g', hg', hn', -⟩ := hinv.whole row'.nodeId row' (get?_of_mem hmem)
  rw [hk, ho, hg] at hg'
  cases hg'
  exact of_decide_eq_false hkeep (mem_groupNodes.mpr hn')

end

lemma leaseStep_inv (db : Database) (e : LeaseEvent) (db' : Database) (u : Unit)
    (hinv : LeaseInv db) (hwhole : HandoffWhole db e) (h : leaseStep db e = .ok (db', u)) :
    LeaseInv db' := by
  cases e with
  | enroll =>
    cases h
    refine hinv.frame rfl (fun _ _ _ _ hg => hg) ?_
    intro n row hrow
    rw [get?_insertIgnore, hrow]
    exact ⟨row, Option.some_or⟩
  | plan =>
    obtain ⟨ts, hts, h⟩ := of_bind_ok h
    cases h
    exact hinv.plan (load_eq_ok.mp hts)
  | createRollout =>
    obtain ⟨ts, hts, h⟩ := of_bind_ok h
    cases h
    exact hinv.createRollout (load_eq_ok.mp hts)
  | setPhase =>
    cases h
    refine hinv.frame rfl ?_ fun n node hnode => ⟨node, hnode⟩
    intro n row g _ hg
    rw [targetsOf_setPhase, hg]
  | setCancellation =>
    cases h
    exact hinv.frame rfl (fun _ _ _ _ hg => hg) fun n node hnode => ⟨node, hnode⟩
  | ensureNodeLease =>
    obtain ⟨r, hr, ⟨o, db''⟩, hens, h⟩ := of_bind_ok₂ h
    cases h
    exact hinv.ensureNodeLease (get?_of_load hr) (hwhole r (load_eq_ok.mp hr)) hens
  | releasePendingNodeLease =>
    obtain ⟨r, hr, ⟨b, db''⟩, hrel, h⟩ := of_bind_ok₂ h
    cases h
    exact hinv.releasePending (get?_of_load hr) hrel
  | markNodeLeaseReleasing =>
    obtain ⟨r, hr, ⟨b, db''⟩, hmark, h⟩ := of_bind_ok₂ h
    cases h
    exact hinv.markNode (get?_of_load hr) hmark
  | acquireBatch =>
    obtain ⟨v, hv, db'', hacq, h⟩ := of_bind_ok₂ h
    cases h
    exact hinv.acquireBatch (get?_of_load hv) hacq
  | markBatchReleasing =>
    obtain ⟨v, hv, db'', hmark, h⟩ := of_bind_ok₂ h
    cases h
    exact hinv.markBatch (get?_of_load hv) hmark
  | reholdBatch =>
    obtain ⟨v, hv, db'', hre, h⟩ := of_bind_ok₂ h
    cases h
    exact hinv.reholdBatch (get?_of_load hv) hre
  | releaseBatch =>
    obtain ⟨v, hv, db'', hrel, h⟩ := of_bind_ok₂ h
    cases h
    exact hinv.releaseBatch (get?_of_load hv) hrel

lemma leaseInv_run {events : List LeaseEvent} (h : Along leaseStep HandoffWhole {} events) :
    LeaseInv (run leaseStep {} events) :=
  run_preserves_of_along leaseStep_inv leaseInv_empty h

/-- The groups of leases are whole after every transaction of a run exactly when none of them is a
hand-off that leaves a part of the predecessor's group behind. -/
theorem leases_whole_iff (events : List LeaseEvent) :
    (∀ before after, events = before ++ after → LeaseInv (run leaseStep {} before)) ↔
      Along leaseStep HandoffWhole {} events := by
  constructor
  · generalize ({} : Database) = db
    induction events generalizing db with
    | nil => exact fun _ => trivial
    | cons e events ih =>
      intro hinv
      refine ⟨?_, ih _ fun before after heq => hinv (e :: before) after (congrArg _ heq)⟩
      cases e with
      | ensureNodeLease now fence id =>
        intro r hr p hstrict
        obtain rfl : r.id = id := get?_key hr
        obtain ⟨o, db', hok, hbroken⟩ := @StrictHandoff.breaks db r p now fence
          (hinv [] _ rfl) hr hstrict
        have hnext := hinv [.ensureNodeLease now fence r.id] events rfl
        simp only [run_cons, run_nil, commit, leaseStep, load_eq_ok.mpr hr, hok, ok_bind] at hnext
        exact hbroken hnext
      | _ => trivial
  rintro halong before after rfl
  exact leaseInv_run ((along_append _ _ _).mp halong).1

/-- In every state reached without a strict hand-off, lease groups are all or nothing. -/
theorem run_allOrNothing (events : List LeaseEvent)
    (h : Along leaseStep HandoffWhole {} events) : AllOrNothing (run leaseStep {} events) :=
  (leaseInv_run h).allOrNothing

def pairGroup : NodeGroup := ⟨[1, 2], by decide, by decide⟩
def singleGroup : NodeGroup := ⟨[1], by decide, by decide⟩

/-- A failed predecessor still has its releasing row on one of the two targets. -/
theorem ensureNodeLease_raises_conflict : ensureNodeLease (run leaseStep {}
    [.enroll 1, .enroll 2, .plan 10 singleGroup, .ensureNodeLease 5 100 10,
      .markNodeLeaseReleasing 6 10, .setPhase 10 .failed, .plan 11 pairGroup]) 7 101
        { id := 11, targets := pairGroup } = .error (.conflict [1, 2]) := rfl

/-- One reconciliation acquires its two nodes and fails while it releases them; a successor on both
takes them over. -/
def wholeHandoffRun : List LeaseEvent :=
  [.enroll 1, .enroll 2, .plan 10 pairGroup, .ensureNodeLease 5 100 10,
    .markNodeLeaseReleasing 6 10, .setPhase 10 .failed, .plan 11 pairGroup,
    .ensureNodeLease 7 101 11]

theorem run_allOrNothing_single : AllOrNothing (run leaseStep {} wholeHandoffRun) ∧
    ∀ n ∈ pairGroup.nodes, (run leaseStep {} wholeHandoffRun).leases.get? n =
      some ⟨n, .reconciliation, 11, 101, .held, 7, 7⟩ := by
  refine ⟨run_allOrNothing _ ?_, by decide⟩
  refine ⟨trivial, trivial, trivial, ?_, trivial, trivial, trivial, ?_, trivial⟩
  · rintro r - p ⟨-, -, ⟨n, -, row, hrow, -⟩, -⟩
    cases hrow
  have hpair : ∀ r ∈ (run leaseStep {} (wholeHandoffRun.take 7)).reconciliations.rows,
      r.targets = pairGroup := by decide
  rintro r hr p ⟨hp, -, -, -, n, hn, hout⟩
  rw [hpair r (mem_of_get? hr)] at hout
  rw [hpair p (mem_of_get? hp)] at hn
  exact hout hn

/-- A completed reconciliation on two nodes withdraws its routes; a successor on one of them takes
it over. -/
def strictHandoffRun : List LeaseEvent :=
  [.enroll 1, .enroll 2, .plan 10 pairGroup, .setPhase 10 .completed,
    .setCancellation 10 .withdrawalPending, .ensureNodeLease 5 100 10,
    .plan 11 singleGroup, .setPhase 11 .withdrawalPending, .ensureNodeLease 6 101 11]

/-- The predecessor keeps one of its two rows and can no longer recover its grant. -/
theorem strictHandoffRun_not_allOrNothing : ¬ AllOrNothing (run leaseStep {} strictHandoffRun) := by
  intro h
  have hrow : (run leaseStep {} strictHandoffRun).leases.get? 2 =
      some ⟨2, .reconciliation, 10, 100, .held, 5, 5⟩ := by decide
  have htargets : targetsOf (run leaseStep {} strictHandoffRun) .reconciliation 10 =
      some pairGroup := by decide
  obtain ⟨grant, hgrant⟩ := h.recovers .reconciliation 10 pairGroup htargets 2 (by decide) _ hrow rfl
  have hconflict : ownedGrantInSession (run leaseStep {} strictHandoffRun) pairGroup.nodes
      .reconciliation 10 = .error (.conflict [1, 2]) := by decide
  cases hgrant

end VonkForge.LeaseHandoff
