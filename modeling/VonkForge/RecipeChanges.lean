import VonkForge.RecipeCalls

/-!
# What a step of the recipe services changes

Every event has one of a few effects on the groups and their owners.
-/

namespace VonkForge.Recipes

open OperationGroups Table
open AgentJobs (JobError ResultState)

variable {cfg : Config} {db db' db₁ : Database} {env : Env} {o : GroupOperation RecipePayload}
  {q q' : Queue JobDocument RecipePayload} {doc : RecipeJob} {v : RecipeOperationView} {task : Task}
  {id requestId : Uuid}

/-! ### Owners -/

structure Owners where
  builds : Table RecipeBuild
  installations : Table RecipeInstallation
  runs : Table RecipeRun
  reservations : List ResourceReservation

def Database.owners (db : Database) : Owners :=
  ⟨db.builds, db.installations, db.runs, db.reservations⟩

section Rows

variable (db : Database) (id : Uuid)

lemma get?_setRun_self (f : RunStatus → RunStatus) : (setRun db id f).runs.get? id =
    (db.runs.get? id).map fun r => { r with toRunStatus := f r.toRunStatus } := by
  unfold setRun
  rw [get?_updateWhere_of_eq]
  exact fun r hr => decide_eq_true hr

lemma get?_setInstallationState_self (state : InstallationState) :
    (setInstallationState db id state).installations.get? id =
      (db.installations.get? id).map fun i => { i with state := state } := by
  unfold setInstallationState
  rw [get?_updateWhere_of_eq]
  exact fun i hi => decide_eq_true hi

variable {id} {k : Uuid}

lemma get?_setRun_of_ne (hne : k ≠ id) (f : RunStatus → RunStatus) :
    (setRun db id f).runs.get? k = db.runs.get? k := by
  unfold setRun
  rw [get?_updateWhere_of_ne]
  exact fun r hr => decide_eq_false (ne_of_eq_of_ne hr hne)

lemma get?_setInstallationState_of_ne (hne : k ≠ id) (state : InstallationState) :
    (setInstallationState db id state).installations.get? k = db.installations.get? k := by
  unfold setInstallationState
  rw [get?_updateWhere_of_ne]
  exact fun i hi => decide_eq_false (ne_of_eq_of_ne hi hne)

end Rows

/-! ### Groups -/

structure SameGroups (q q' : Queue JobDocument RecipePayload) : Prop where
  tickets : tickets q' = tickets q
  operations : q'.operations = q.operations

/-- Every operation is of the kind of a recipe job that is stored, and a build has but one. -/
structure Grouped (q : Queue JobDocument RecipePayload) : Prop where
  parent : ∀ o ∈ q.operations.rows, ∃ t ∈ tickets q, t.id = o.parentJobId ∧
    ∃ doc, t.document = .recipe doc ∧ o.kind = doc.kind
  alone : ∀ o ∈ q.operations.rows, ∀ o' ∈ q.operations.rows, o.kind = .recipeBuild →
    o'.parentJobId = o.parentJobId → o'.id = o.id

structure NewGroup (doc : RecipeJob) (requestId : Uuid) (q q' : Queue JobDocument RecipePayload)
    (t : Ticket JobDocument) (ops : List (GroupOperation RecipePayload)) : Prop
    extends Added q q' t ops where
  document : t.document = .recipe doc
  key : t.requestId = requestId
  nonempty : ops ≠ []
  kinds : ∀ o ∈ ops, o.kind = doc.kind
  alone : doc.kind = .recipeBuild → ∃ o, ops = [o]

section Groups

lemma SameGroups.refl (q : Queue JobDocument RecipePayload) : SameGroups q q := ⟨rfl, rfl⟩

lemma SameGroups.turn (h : SameGroups q q') : Turn q q' none none :=
  turn_of_same h.tickets h.operations

lemma Grouped.linked (h : Grouped q) : Linked q := by
  intro o ho
  obtain ⟨t, ht, hid, -⟩ := h.parent o ho
  exact ⟨t, ht, hid⟩

lemma SameGroups.grouped (h : SameGroups q q') (hq : Grouped q) : Grouped q' := by
  refine ⟨fun o ho => ?_, ?_⟩
  · rw [h.operations] at ho
    rw [h.tickets]
    exact hq.parent o ho
  rw [h.operations]
  exact hq.alone

lemma sameGroups_setJobState (q : Queue JobDocument RecipePayload) (id : Uuid) (state : JobState) :
    SameGroups q (setJobState q id state) :=
  ⟨tickets_setJobState q id state, rfl⟩

lemma exists_of_setOperationState {state : OperationState}
    (ho : o ∈ (setOperationState q id state).operations.rows) :
    ∃ x ∈ q.operations.rows, x.id = o.id ∧ x.parentJobId = o.parentJobId ∧ x.kind = o.kind := by
  unfold OperationGroups.setOperationState at ho
  rw [mem_updateWhere] at ho
  rcases ho with ⟨x, hx, -, rfl⟩ | ⟨ho, -⟩
  · exact ⟨x, hx, rfl, rfl, rfl⟩
  exact ⟨o, ho, rfl, rfl, rfl⟩

lemma Grouped.setOperationState (h : Grouped q) (id : Uuid) (state : OperationState) :
    Grouped (setOperationState q id state) := by
  refine ⟨fun o ho => ?_, fun o ho o' ho' hbuild hparent => ?_⟩
  · obtain ⟨x, hx, -, hparent, hkind⟩ := exists_of_setOperationState ho
    rw [← hparent, ← hkind]
    exact h.parent x hx
  obtain ⟨x, hx, hid, hp, hkind⟩ := exists_of_setOperationState ho
  obtain ⟨x', hx', hid', hp', -⟩ := exists_of_setOperationState ho'
  rw [← hid, ← hid']
  exact h.alone x hx x' hx' (hkind.trans hbuild) (by rw [hp, hp', hparent])

variable {t : Ticket JobDocument} {ops : List (GroupOperation RecipePayload)}

lemma NewGroup.grouped (h : NewGroup doc requestId q q' t ops) (hq : Grouped q) : Grouped q' := by
  have hmem : ∀ o, o ∈ q'.operations.rows ↔ o ∈ q.operations.rows ∨ o ∈ ops := fun o => by
    rw [h.operations, List.mem_append]
  -- an operation of the new group is beneath a ticket that no other operation has
  have hapart : ∀ o ∈ q.operations.rows, ∀ o' ∈ ops, o'.parentJobId ≠ o.parentJobId := by
    intro o ho o' ho' he
    obtain ⟨u, hu, hid⟩ := hq.linked o ho
    exact h.fresh u hu (by rw [hid, ← he, (h.beneath o' ho').1])
  refine ⟨fun o ho => ?_, fun o ho o' ho' hbuild hparent => ?_⟩
  · rcases (hmem o).mp ho with ho | ho
    · obtain ⟨u, hu, hid, hdoc⟩ := hq.parent o ho
      exact ⟨u, h.mem_tickets.mpr (.inl hu), hid, hdoc⟩
    exact ⟨t, h.mem_tickets.mpr (.inr rfl), (h.beneath o ho).1.symm, doc, h.document, h.kinds o ho⟩
  rcases (hmem o).mp ho with ho | ho
  · rcases (hmem o').mp ho' with ho' | ho'
    · exact hq.alone o ho o' ho' hbuild hparent
    exact absurd hparent (hapart o ho o' ho')
  rcases (hmem o').mp ho' with ho' | ho'
  · exact absurd hparent.symm (hapart o' ho' o ho)
  obtain ⟨x, rfl⟩ := h.alone ((h.kinds o ho).symm.trans hbuild)
  rw [List.mem_singleton.mp ho, List.mem_singleton.mp ho']

lemma grouped_of_added (h : Added q q' t []) (hq : Grouped q) : Grouped q' := by
  have hoperations : q'.operations.rows = q.operations.rows := by
    rw [h.operations, List.append_nil]
  refine ⟨fun o ho => ?_, ?_⟩
  · rw [hoperations] at ho
    obtain ⟨u, hu, hid, hdoc⟩ := hq.parent o ho
    exact ⟨u, h.mem_tickets.mpr (.inl hu), hid, hdoc⟩
  rw [hoperations]
  exact hq.alone

lemma NewGroup.live (h : NewGroup doc requestId q q' t ops) (hq : Grouped q) : Live q' t.id :=
  h.toAdded.live_new hq.linked h.nonempty

end Groups

/-! ### Acceptance -/

def Holds (kind : OwnerKind) (id : Uuid) (r : ResourceReservation) : Prop :=
  r.ownerKind = kind ∧ r.ownerId = id ∧ r.active = true

inductive Accepts (db : Database) (after : Owners) : Task → RecipeJob → Prop
  | build (c : BuildCall) (snapshot : NodeInventorySnapshot) (b : RecipeBuild)
      (rs : List ResourceReservation) (hb : db.builds.get? c.plan.buildId = some b)
      (hs : b.state = .planned) (hrs : ∀ r ∈ rs, Holds .recipeBuild c.plan.buildId r)
      (owners : after =
        { (setBuild db c.plan.buildId fun b => { b with state := .building }).owners with
          reservations := db.reservations ++ rs }) :
      Accepts db after (.buildInspected c snapshot)
        ⟨.recipeBuild, .recipeBuild, c.plan.buildId, c.plan.buildInputSha256⟩
  | distribute (c : DistributeCall) (plan : DistributionIdentity)
      (targets : List (NodeId × RecipePayload)) {digest : Digest} (owners : after = db.owners) :
      Accepts db after (.distributeAdmitted c plan targets)
        ⟨.recipeImageImport, .imageDistribution, plan.buildId, digest⟩
  | install (c : InstallCall) (fresh : InstallPlan) (i : RecipeInstallation)
      (rows : Table RecipeInstallation) (rs : List ResourceReservation)
      (hi : db.installations.get? i.id = none) (hs : i.state = .installing)
      (hplan : i.planDigest = c.plan.planDigest)
      (hrows : ∀ k, rows.get? k = if k = i.id then some i else db.installations.get? k)
      (hrs : ∀ r ∈ rs, Holds .installation i.id r)
      (owners : after =
        { db.owners with installations := rows, reservations := db.reservations ++ rs }) :
      Accepts db after (.installPlanned c fresh)
        ⟨.recipeInstall, .installation, i.id, c.plan.planDigest⟩
  | retry (c : RetryCall) (i : RecipeInstallation) {digest : Digest}
      (hi : db.installations.get? i.id = some i) (hs : i.state = .partly ∨ i.state = .failed)
      (owners : after = (setInstallationState db i.id .installing).owners) :
      Accepts db after (.begin (.retry c)) ⟨.recipeInstall, .installation, i.id, digest⟩
  | start (c : StartCall) (addresses : List Address) (fresh : RunPlan) (r : RecipeRun)
      (rows : Table RecipeRun) (rs : List ResourceReservation) (hr : db.runs.get? r.id = none)
      (hs : r.state = .starting) (hroute : r.routeState = .withdrawn)
      (hplan : r.planDigest = c.plan.planDigest)
      (hinstallation : r.installationId = c.plan.installationId)
      (hrows : ∀ k, rows.get? k = if k = r.id then some r else db.runs.get? k)
      (hrs : ∀ x ∈ rs, Holds .run r.id x)
      (owners : after = { db.owners with runs := rows, reservations := db.reservations ++ rs }) :
      Accepts db after (.startPlanned c addresses fresh)
        ⟨.recipeStart, .run, r.id, c.plan.planDigest⟩
  | stop (c : StopCall) (digest : Digest) (r : RecipeRun) (hr : db.runs.get? c.runId = some r)
      (hs : stoppable r.state = true) (hplan : r.planDigest = digest)
      (owners : after = (setRun db c.runId fun r =>
        { r with state := .stopping, routeState := .withdrawn, routeError := none }).owners) :
      Accepts db after (.stopWithdrawn c digest) ⟨.recipeStop, .run, c.runId, digest⟩
  | uninstall (c : UninstallCall) (u : Uninstalling) (owners : after = db.owners) :
      Accepts db after (.uninstallChecked c u)
        ⟨.recipeUninstall, .installation, c.installationId, u.planDigest⟩

/-- A call has committed: its owner is changed, its group is new, and its answer names the two. -/
structure Commits (db db' : Database) (task : Task) (v : RecipeOperationView) (requestId : Uuid)
    (doc : RecipeJob) : Prop where
  accepts : Accepts db db'.owners task doc
  group : ∃ t ops, NewGroup doc requestId db.queue db'.queue t ops ∧ v.id = t.id
  requestId_eq : v.requestId = requestId
  kind : v.kind = doc.kind
  ownerId : v.ownerId = doc.ownerId
  planDigest : v.planDigest = doc.planDigest

section Acceptance

variable {targets : List (NodeId × RecipePayload)} {authority digest : Digest} {kind : OwnerKind}
  {snapshot : NodeInventorySnapshot} {fresh : RunPlan}

lemma enqueueAll_ok {kind : AgentOperation}
    (h : targets.foldlM (enqueueFor cfg env kind authority) q = .ok q') :
    q'.jobs = q.jobs ∧ q'.operations.rows = q.operations.rows ++ targets.map fun target =>
      ⟨env.operationIds target.1, env.jobId, target.1, kind, target.2, .queued⟩ := by
  induction targets generalizing q with
  | nil =>
    cases h
    exact ⟨rfl, (List.append_nil _).symm⟩
  | cons target targets ih =>
    obtain ⟨q₁, h₁, h⟩ := of_bind_ok h
    obtain ⟨-, hjobs₁, -, -, -, hrows₁⟩ := enqueue_ok (queueResult_ok.mp h₁)
    obtain ⟨hjobs, hrows⟩ := ih h
    refine ⟨hjobs.trans hjobs₁, ?_⟩
    rw [hrows, hrows₁, List.map_cons, List.append_assoc, List.singleton_append]

lemma queueInSession_ok (halone : doc.kind = .recipeBuild → ∃ target, targets = [target])
    (h : queueInSession cfg env db doc requestId authority targets = .ok (v, db')) :
    db' = { db with queue := db'.queue } ∧
    ∃ t ops, NewGroup doc requestId db.queue db'.queue t ops ∧ v.id = t.id ∧
      v.requestId = requestId ∧ v.kind = doc.kind ∧ v.ownerId = doc.ownerId ∧
      v.planDigest = doc.planDigest := by
  unfold queueInSession at h
  simp only [require_bind_ok] at h
  obtain ⟨hne, -, h⟩ := h
  obtain ⟨q₁, hjob, h⟩ := of_bind_ok h
  rw [queueResult_ok] at hjob
  obtain ⟨q₂, hall, h⟩ := of_bind_ok h
  cases h
  obtain ⟨hadded, -, -⟩ := insertJob_ok hjob
  obtain ⟨hjobs, hrows⟩ := enqueueAll_ok hall
  have htickets : tickets q₂ = tickets q₁ := by
    unfold tickets
    rw [hjobs]
  have hops : q₁.operations.rows = db.queue.operations.rows := by
    rw [hadded.operations, List.append_nil]
  refine ⟨rfl, _, _, ⟨⟨htickets.trans hadded.tickets_eq, hops ▸ hrows, hadded.fresh, hadded.unused, ?_⟩,
    rfl, rfl, by simpa using hne, ?_, ?_⟩, rfl, rfl, rfl, rfl, rfl⟩
  · intro o ho
    obtain ⟨target, -, rfl⟩ := List.mem_map.mp ho
    exact ⟨rfl, rfl⟩
  · intro o ho
    obtain ⟨target, -, rfl⟩ := List.mem_map.mp ho
    rfl
  intro hbuild
  obtain ⟨target, rfl⟩ := halone hbuild
  exact ⟨_, rfl⟩

structure Furnishes (kind : OwnerKind) (id : Uuid) (db db' : Database) : Prop where
  queue : db'.queue = db.queue
  owners : ∃ rs, db'.owners = { db.owners with reservations := db.reservations ++ rs } ∧
    ∀ r ∈ rs, Holds kind id r

lemma furnishes_of_same (hqueue : db'.queue = db.queue) (howners : db'.owners = db.owners) :
    Furnishes kind id db db' :=
  ⟨hqueue, [], by rw [List.append_nil]; exact howners, by simp⟩

lemma Furnishes.refl (kind : OwnerKind) (id : Uuid) (db : Database) : Furnishes kind id db db :=
  furnishes_of_same rfl rfl

lemma Furnishes.trans {db₂ db₃ : Database} (h : Furnishes kind id db₁ db₂)
    (h' : Furnishes kind id db₂ db₃) : Furnishes kind id db₁ db₃ := by
  obtain ⟨rs, hrs, hall⟩ := h.owners
  obtain ⟨rs', hrs', hall'⟩ := h'.owners
  have hreservations : db₂.reservations = db₁.reservations ++ rs := congrArg Owners.reservations hrs
  refine ⟨h'.queue.trans h.queue, rs ++ rs', ?_, fun r hr => ?_⟩
  · rw [hrs', hrs, hreservations, List.append_assoc]
  rcases List.mem_append.mp hr with hr | hr
  · exact hall r hr
  exact hall' r hr

lemma furnishes_addReservation {r : ResourceReservation} (hr : Holds kind id r)
    (h : addReservation db r = .ok db') : Furnishes kind id db db' := by
  unfold addReservation at h
  split_ifs at h
  cases h
  exact ⟨rfl, [r], rfl, by simpa using hr⟩

lemma furnishes_reserveRunNode {n : RunNodePlan} (h : reserveRunNode env id digest db n = .ok db')
    : Furnishes .run id db db' := by
  obtain ⟨db₁, h₁, db₂, h₂, h⟩ := of_bind_ok₂ h
  have hrow : Furnishes .run id db db₁ := by
    unfold insertRunNode at h₁
    split_ifs at h₁
    obtain ⟨nodes, -, h₁⟩ := of_bind_ok h₁
    cases h₁
    exact furnishes_of_same rfl rfl
  refine (hrow.trans (furnishes_addReservation ⟨rfl, rfl, rfl⟩ h₂)).trans ?_
  exact foldlM_ok_rel (Furnishes.refl .run id) (fun _ _ _ => Furnishes.trans)
    (fun _ _ _ hp => furnishes_addReservation ⟨rfl, rfl, rfl⟩ hp) h

lemma furnishes_reserveInstallNode {n : InstallNodePlan}
    (h : reserveInstallNode id digest db n = .ok db') : Furnishes .installation id db db' := by
  obtain ⟨db₁, h₁, h⟩ := of_bind_ok h
  have hrow : Furnishes .installation id db db₁ := by
    obtain ⟨nodes, -, h₁⟩ := of_bind_ok h₁
    cases h₁
    exact furnishes_of_same rfl rfl
  exact hrow.trans (furnishes_addReservation ⟨rfl, rfl, rfl⟩ h)

lemma furnishes_reserveInSession {plan : RecipeBuildPlan}
    (h : reserveInSession cfg env db plan snapshot = .ok db') :
    Furnishes .recipeBuild plan.buildId db db' := by
  iterate 5 obtain ⟨_, -, h⟩ := of_bind_ok h
  obtain ⟨db₂, h₂, h⟩ := of_bind_ok h
  refine (furnishes_addReservation ?_ h₂).trans (furnishes_addReservation ?_ h)
  · exact ⟨rfl, rfl, rfl⟩
  exact ⟨rfl, rfl, rfl⟩

lemma acceptRun_ok {plan : RunPlan} {aliasName : String}
    (h : acceptRunInSession cfg env db plan fresh aliasName = .ok (id, db')) :
    ∃ r runs, db.runs.insert r = some runs ∧ r.id = id ∧ r.planDigest = plan.planDigest ∧
      r.installationId = plan.installationId ∧ r.routeState = .withdrawn ∧
      (∀ x ∈ db.runs.rows, x.planDigest ≠ plan.planDigest) ∧
      Furnishes .run id { db with runs := runs } db' := by
  iterate 4 obtain ⟨_, -, h⟩ := of_bind_ok h
  obtain ⟨db₁, hrun, db₂, hnodes, h⟩ := of_bind_ok₂ h
  cases h
  unfold insertRun at hrun
  split_ifs at hrun with hunique
  obtain ⟨runs, hinsert, hrun⟩ := of_bind_ok hrun
  cases hrun
  rw [fetch_ok] at hinsert
  refine ⟨_, runs, hinsert, rfl, rfl, rfl, rfl, ?_, ?_⟩
  · intro x hx he
    exact hunique (List.any_eq_true.mpr ⟨x, hx, decide_eq_true he⟩)
  exact foldlM_ok_rel (Furnishes.refl .run _) (fun _ _ _ => Furnishes.trans)
    (fun _ _ _ hn => furnishes_reserveRunNode hn) hnodes

lemma acceptInstall_ok {plan fresh : InstallPlan}
    (h : acceptInstallInSession env db plan fresh = .ok (id, db')) :
    ∃ i installations, db.installations.insert i = some installations ∧ i.id = id ∧
      i.planDigest = plan.planDigest ∧
      (∀ x ∈ db.installations.rows, x.planDigest ≠ plan.planDigest) ∧
      Furnishes .installation id { db with installations := installations } db' := by
  iterate 5 obtain ⟨_, -, h⟩ := of_bind_ok h
  obtain ⟨db₁, hrow, db₂, hnodes, h⟩ := of_bind_ok₂ h
  cases h
  unfold insertInstallation at hrow
  split_ifs at hrow with hunique
  obtain ⟨installations, hinsert, hrow⟩ := of_bind_ok hrow
  cases hrow
  rw [fetch_ok] at hinsert
  refine ⟨_, installations, hinsert, rfl, rfl, ?_, ?_⟩
  · intro x hx he
    exact hunique (List.any_eq_true.mpr ⟨x, hx, decide_eq_true he⟩)
  exact foldlM_ok_rel (Furnishes.refl .installation _) (fun _ _ _ => Furnishes.trans)
    (fun _ _ _ hn => furnishes_reserveInstallNode hn) hnodes

lemma commits_of_queue (halone : doc.kind = .recipeBuild → ∃ target, targets = [target])
    (h : queueInSession cfg env db₁ doc requestId authority targets = .ok (v, db'))
    (hqueue : db₁.queue = db.queue) (haccepts : Accepts db db₁.owners task doc) :
    Commits db db' task v requestId doc := by
  obtain ⟨hdb, t, ops, hgroup, hid, hkey, hkind, howner, hplan⟩ := queueInSession_ok halone h
  rw [hqueue] at hgroup
  have howners : db'.owners = db₁.owners := by
    rw [hdb]
    rfl
  exact ⟨howners ▸ haccepts, ⟨t, ops, hgroup, hid⟩, hkey, hkind, howner, hplan⟩

lemma commitBuild_ok {c : BuildCall} (h : commitBuild cfg env db c snapshot = .ok (v, db')) :
    Commits db db' (.buildInspected c snapshot) v c.requestId
      ⟨.recipeBuild, .recipeBuild, c.plan.buildId, c.plan.buildInputSha256⟩ := by
  unfold commitBuild checkBuild at h
  obtain ⟨u, hcheck, h⟩ := of_bind_ok h
  rw [fetch_bind_ok] at hcheck
  obtain ⟨b, hb, hcheck⟩ := hcheck
  rw [require_ok] at hcheck
  obtain ⟨db₁, hreserve, h⟩ := of_bind_ok h
  obtain ⟨hqueue, rs, howners, hrs⟩ := furnishes_reserveInSession hreserve
  refine commits_of_queue (fun _ => ⟨_, rfl⟩) h hqueue <| .build c snapshot b rs hb hcheck.1 hrs ?_
  simp only [Database.owners, Owners.mk.injEq] at howners
  obtain ⟨hbuilds, hinstallations, hruns, hreservations⟩ := howners
  simp only [Database.owners, setBuild, hbuilds, hinstallations, hruns, hreservations]

lemma commitDistribution_ok {c : DistributeCall} {plan : DistributionIdentity}
    (h : commitDistribution cfg env db c plan targets = .ok (v, db')) :
    Commits db db' (.distributeAdmitted c plan targets) v c.requestId
      ⟨.recipeImageImport, .imageDistribution, plan.buildId, cfg.distributionDigest plan⟩ := by
  obtain ⟨u, -, h⟩ := of_bind_ok h
  exact commits_of_queue (fun hk => by cases hk) h rfl <| .distribute c plan targets rfl

lemma commitInstall_ok {c : InstallCall} {fresh : InstallPlan}
    (h : commitInstall cfg env db c fresh = .ok (v, db')) :
    ∃ id, Commits db db' (.installPlanned c fresh) v c.requestId
      ⟨.recipeInstall, .installation, id, c.plan.planDigest⟩ := by
  obtain ⟨⟨id, db₁⟩, haccept, h⟩ := of_bind_ok h
  rw [asConflict_ok] at haccept
  obtain ⟨row, -, h⟩ := of_bind_ok h
  obtain ⟨i, rows, hinsert, rfl, hdigest, -, hqueue, rs, howners, hrs⟩ := acceptInstall_ok haccept
  have hrows : db₁.installations = rows := congrArg Owners.installations howners
  refine ⟨i.id, commits_of_queue (fun hk => by cases hk) h hqueue <|
    .install c fresh { i with state := .installing }
      (setInstallationState db₁ i.id .installing).installations rs
      (insert_eq_some.mp hinsert).1 rfl hdigest (fun k => ?_) hrs ?_⟩
  · by_cases hk : k = i.id
    · rw [hk, get?_setInstallationState_self, hrows, get?_insert hinsert, if_pos rfl]
      exact congrArg (Option.map _) (if_pos rfl)
    rw [get?_setInstallationState_of_ne db₁ hk, hrows, get?_insert hinsert, if_neg hk]
    exact if_neg hk
  simp only [Database.owners, Owners.mk.injEq] at howners
  simp only [Database.owners, setInstallationState, howners]

lemma commitStart_ok {c : StartCall} {addresses : List Address}
    (h : commitStart cfg env db c addresses fresh = .ok (v, db')) :
    ∃ id, Commits db db' (.startPlanned c addresses fresh) v c.requestId
      ⟨.recipeStart, .run, id, c.plan.planDigest⟩ := by
  obtain ⟨⟨id, db₁⟩, haccept, h⟩ := of_bind_ok h
  rw [asConflict_ok] at haccept
  iterate 3 obtain ⟨_, -, h⟩ := of_bind_ok h
  obtain ⟨r, rows, hinsert, rfl, hdigest, hinstallation, hroute, -, hqueue, rs, howners, hrs⟩ :=
    acceptRun_ok haccept
  have hrows : db₁.runs = rows := congrArg Owners.runs howners
  refine ⟨r.id, commits_of_queue (fun hk => by cases hk) h hqueue <|
    .start c addresses fresh { r with state := .starting }
      (setRun db₁ r.id fun r => { r with state := .starting }).runs rs
      (insert_eq_some.mp hinsert).1 rfl hroute hdigest hinstallation (fun k => ?_) hrs ?_⟩
  · by_cases hk : k = r.id
    · rw [hk, get?_setRun_self, hrows, get?_insert hinsert, if_pos rfl]
      exact congrArg (Option.map _) (if_pos rfl)
    rw [get?_setRun_of_ne db₁ hk, hrows, get?_insert hinsert, if_neg hk]
    exact if_neg hk
  simp only [Database.owners, Owners.mk.injEq] at howners
  simp only [Database.owners, setRun, howners]

lemma commitStop_ok {c : StopCall} (h : commitStop cfg env db c digest = .ok (v, db')) :
    Commits db db' (.stopWithdrawn c digest) v c.requestId ⟨.recipeStop, .run, c.runId, digest⟩ := by
  unfold commitStop checkStop at h
  obtain ⟨r, hcheck, h⟩ := of_bind_ok h
  simp only [fetch_bind_ok, require_bind_ok] at hcheck
  obtain ⟨_, hr, hs, hok⟩ := hcheck
  cases hok
  rw [require_bind_ok] at h
  obtain ⟨hdigest, h⟩ := h
  exact commits_of_queue (fun hk => by cases hk) h rfl <| .stop c digest _ hr hs hdigest rfl

lemma retry_ok {c : RetryCall} (h : retry cfg env db c = .ok (v, db')) :
    ∃ previous doc, db.queue.jobs.get? c.operationId = some previous ∧
      previous.document = .recipe doc ∧ doc.kind = .recipeInstall ∧ previous.state = .failed ∧
      ((∃ existing other, bound db c.requestId = some existing ∧
          existing.document = .recipe other ∧ other.kind = .recipeInstall ∧
          other.planDigest = doc.planDigest ∧ v = view existing other ∧ db' = db) ∨
        (bound db c.requestId = none ∧
          Commits db db' (.begin (.retry c)) v c.requestId
            ⟨.recipeInstall, .installation, doc.ownerId, doc.planDigest⟩)) := by
  unfold retry at h
  rw [fetch_bind_ok] at h
  obtain ⟨previous, hprevious, h⟩ := h
  split at h
  · cases h
  next doc hdoc =>
  rw [require_bind_ok] at h
  obtain ⟨⟨hkind, hfailed⟩, h⟩ := h
  refine ⟨previous, doc, hprevious, hdoc, hkind, hfailed, ?_⟩
  split at h
  · next existing hbound =>
    split at h
    · cases h
    next other hother =>
    split_ifs at h with hused
    cases h
    rw [not_or, not_not, not_not] at hused
    exact .inl ⟨existing, other, hbound, hother, hused.1, hused.2, rfl, rfl⟩
  next hbound =>
  simp only [fetch_bind_ok, require_bind_ok] at h
  obtain ⟨i, hi, hs, revision, -, content, -, h⟩ := h
  refine .inr ⟨hbound, commits_of_queue (fun hk => by cases hk) h rfl ?_⟩
  have hid : i.id = doc.ownerId := get?_key hi
  rw [← hid]
  exact .retry c i (hid ▸ hi) hs rfl

end Acceptance

/-! ### Results -/

def resultState (succeeded : Bool) : OperationState := if succeeded then .succeeded else .failed

lemma Grouped.build_result {q : Queue JobDocument RecipePayload} {o : GroupOperation RecipePayload}
    (hq : Grouped q) (ho : q.operations.get? o.id = some o) (hbuild : o.kind = .recipeBuild)
    (state : OperationState) :
    ∀ c ∈ children (OperationGroups.setOperationState q o.id state) o.parentJobId, c.state = state := by
  intro c hc
  rw [children_setOperationState] at hc
  obtain ⟨x, hx, rfl⟩ := List.mem_map.mp hc
  rw [mem_children] at hx
  rw [if_pos (hq.alone o (mem_of_get? ho) x hx.1 hbuild hx.2)]

def Noted (doc : RecipeJob) (succeeded : Bool) (db db' : Database) : Prop :=
  (doc.kind ≠ .recipeBuild ∧ db'.owners = db.owners) ∨
  (doc.kind = .recipeBuild ∧ ∃ f : BuildStatus → BuildStatus,
    (∀ b, (f b).state = if succeeded then .succeeded else .failed) ∧
      db'.owners = (setBuild db doc.ownerId f).owners)

inductive Settles (doc : RecipeJob) (failed : Bool) (db : Database) (after : Owners) : Prop
  | build (hk : doc.kind = .recipeBuild) (f : BuildStatus → BuildStatus)
      (hf : ∀ b, (f b).state = if failed then .failed else .succeeded)
      (owners : after = { (setBuild db doc.ownerId f).owners with
        reservations := (release db .recipeBuild doc.ownerId).reservations })
  | install (hk : doc.kind = .recipeInstall)
      (owners : after =
        (setInstallationState db doc.ownerId (if failed then .partly else .installed)).owners)
  | start (hk : doc.kind = .recipeStart) (hf : failed = false)
      (owners : after = (setRun db doc.ownerId fun r =>
        { r with state := .running, routeState := .pending, routeError := none }).owners)
  | cleanup (hk : doc.kind = .recipeStart) (hf : failed = true)
      (owners : after = (setRun db doc.ownerId fun r =>
        { r with
          state := .stopping, routeState := .withdrawn, routeError := some cleanupQueued }).owners)
  | stop (hk : doc.kind = .recipeStop)
      (owners : after =
        { (setRun db doc.ownerId fun r =>
            { r with state := if failed then .failed else .stopped }).owners with
          reservations :=
            if failed then db.reservations else (release db .run doc.ownerId).reservations })
  | uninstall (hk : doc.kind = .recipeUninstall)
      (owners : after =
        { (setInstallationState db doc.ownerId
            (if failed then .failed else .uninstalled)).owners with
          reservations := if failed then db.reservations
            else (release db .installation doc.ownerId).reservations })
  | other (hk : doc.kind ∉ [.recipeBuild, .recipeInstall, .recipeStart, .recipeStop, .recipeUninstall])
      (owners : after = db.owners)

/-- The groups after a settlement are those before, but for the clean-up of a failed start. -/
def CleansUp (cfg : Config) (jobId : Uuid) (doc : RecipeJob) (failed : Bool)
    (q q' : Queue JobDocument RecipePayload) : Prop :=
  (SameGroups q q' ∧ (doc.kind = .recipeStart → failed = true →
    ∃ u ∈ tickets q, u.requestId = cfg.cleanupKey jobId)) ∨
  (doc.kind = .recipeStart ∧ failed = true ∧ ∃ t ops digest,
    NewGroup ⟨.recipeStop, .run, doc.ownerId, digest⟩ (cfg.cleanupKey jobId) q q' t ops)

section Results

variable {jobId : Uuid} {succeeded failed : Bool} {evidence : Evidence}

lemma recordBuildEvidence_ok {b : RecipeBuild} (h : recordBuildEvidence db b evidence = .ok db') :
    db'.queue = db.queue ∧ ∃ f : BuildStatus → BuildStatus, (∀ x, (f x).state = .succeeded) ∧
      db'.owners = (setBuild db b.id f).owners := by
  unfold recordBuildEvidence at h
  split at h
  · next e =>
    obtain ⟨u, -, h⟩ := of_bind_ok h
    cases h
    let f : BuildStatus → BuildStatus := fun _ =>
      ⟨.succeeded, some e.imageDigest, some e.ociLayoutSha256, some e.imageBytes, none⟩
    split
    · exact ⟨rfl, f, fun _ => rfl, rfl⟩
    exact ⟨rfl, f, fun _ => rfl, rfl⟩
  cases h

lemma recordImageImportEvidence_ok
    (h : recordImageImportEvidence db o evidence succeeded = .ok db') :
    db'.queue = db.queue ∧ db'.owners = db.owners := by
  unfold recordImageImportEvidence at h
  split_ifs at h
  · cases h
    exact ⟨rfl, rfl⟩
  split at h
  · iterate 5 obtain ⟨_, -, h⟩ := of_bind_ok h
    split at h
    · cases h
      exact ⟨rfl, rfl⟩
    obtain ⟨u, -, h⟩ := of_bind_ok h
    cases h
    exact ⟨rfl, rfl⟩
  cases h

lemma recordNode_ok (h : recordNode cfg env db doc o succeeded evidence = .ok db') :
    db'.queue = db.queue ∧ Noted doc succeeded db db' := by
  by_cases hk : doc.kind = .recipeBuild
  · simp only [recordNode, hk] at h
    obtain ⟨b, hb, h⟩ := of_bind_ok h
    rw [fetch_ok] at hb
    have hid : b.id = doc.ownerId := get?_key hb
    obtain ⟨u, -, h⟩ := of_bind_ok h
    rw [hid] at h
    split_ifs at h with hs
    · obtain ⟨hq, f, hf, howners⟩ := recordBuildEvidence_ok h
      exact ⟨hq, .inr ⟨hk, f, fun x => (hf x).trans (if_pos hs).symm, hid ▸ howners⟩⟩
    cases h
    exact ⟨rfl, .inr ⟨hk, _, fun x => (if_neg hs).symm, rfl⟩⟩
  suffices hsame : db'.queue = db.queue ∧ db'.owners = db.owners from
    ⟨hsame.1, .inl ⟨hk, hsame.2⟩⟩
  unfold recordNode at h
  split at h
  · contradiction
  · exact recordImageImportEvidence_ok h
  · obtain ⟨n, -, h⟩ := of_bind_ok h
    split_ifs at h
    · split at h
      · cases h
        exact ⟨rfl, rfl⟩
      cases h
    cases h
    exact ⟨rfl, rfl⟩
  · obtain ⟨n, -, h⟩ := of_bind_ok h
    split_ifs at h
    · obtain ⟨ready, -, h⟩ := of_bind_ok h
      cases h
      exact ⟨rfl, rfl⟩
    cases h
    exact ⟨rfl, rfl⟩
  iterate 2
    · obtain ⟨n, -, h⟩ := of_bind_ok h
      cases h
      exact ⟨rfl, rfl⟩
  cases h
  exact ⟨rfl, rfl⟩

lemma bound_isSome (h : (bound db requestId).isSome = true) :
    ∃ t ∈ tickets db.queue, t.requestId = requestId := by
  unfold bound at h
  rw [List.find?_isSome] at h
  obtain ⟨j, hj, he⟩ := h
  exact ⟨j.ticket, List.mem_map_of_mem hj, of_decide_eq_true he⟩

lemma settleOwner_groups (h : settleOwner cfg env db jobId doc failed = .ok db') :
    CleansUp cfg jobId doc failed db.queue db'.queue := by
  by_cases hstart : doc.kind = .recipeStart ∧ failed = true
  · obtain ⟨hk, rfl⟩ := hstart
    simp only [settleOwner, hk, fetch_bind_ok, if_true] at h
    obtain ⟨r, hr, h⟩ := h
    have hid : r.id = doc.ownerId := get?_key hr
    rw [hid] at h
    split_ifs at h with hbound
    · cases h
      exact .inl ⟨.refl _, fun _ _ => bound_isSome hbound⟩
    obtain ⟨⟨v, db₁⟩, hqueue, h⟩ := of_bind_ok h
    cases h
    obtain ⟨-, t, ops, hgroup, -⟩ := queueInSession_ok (fun hk => by cases hk) hqueue
    exact .inr ⟨hk, rfl, t, ops, r.planDigest, hgroup⟩
  refine .inl ⟨?_, fun hk hf => absurd ⟨hk, hf⟩ hstart⟩
  unfold settleOwner at h
  split at h
  · cases h
    exact .refl _
  · obtain ⟨i, -, h⟩ := of_bind_ok h
    cases h
    exact .refl _
  · next hk =>
    obtain ⟨r, -, h⟩ := of_bind_ok h
    rw [if_neg fun hf => hstart ⟨hk, hf⟩] at h
    cases h
    exact .refl _
  · obtain ⟨r, -, h⟩ := of_bind_ok h
    cases h
    cases failed <;> exact .refl _
  · obtain ⟨i, -, h⟩ := of_bind_ok h
    cases h
    cases failed <;> exact .refl _
  cases h
  exact .refl _

lemma settleOwner_owners (h : settleOwner cfg env db jobId doc failed = .ok db')
    (hk : doc.kind ≠ .recipeBuild) : Settles doc failed db db'.owners := by
  unfold settleOwner at h
  split at h
  · contradiction
  · next hk =>
    obtain ⟨i, -, h⟩ := of_bind_ok h
    cases h
    exact .install hk rfl
  · next hk =>
    obtain ⟨r, hr, h⟩ := of_bind_ok h
    have hid : r.id = doc.ownerId := get?_key (fetch_ok.mp hr)
    rw [hid] at h
    split_ifs at h with hf
    · refine .cleanup hk hf ?_
      dsimp only at h
      split_ifs at h
      · cases h
        rfl
      obtain ⟨⟨v, db₁⟩, hqueue, h⟩ := of_bind_ok h
      cases h
      rw [(queueInSession_ok (fun hk => by cases hk) hqueue).1]
      rfl
    cases h
    exact .start hk (by simpa using hf) rfl
  · next hk =>
    obtain ⟨r, hr, h⟩ := of_bind_ok h
    have hid : r.id = doc.ownerId := get?_key (fetch_ok.mp hr)
    rw [hid] at h
    cases h
    refine .stop hk ?_
    cases failed <;> rfl
  · next hk =>
    obtain ⟨i, hi, h⟩ := of_bind_ok h
    have hid : i.id = doc.ownerId := get?_key (fetch_ok.mp hi)
    rw [hid] at h
    cases h
    refine .uninstall hk ?_
    cases failed <;> rfl
  next hb hi hs ht hu =>
  cases h
  exact .other (by simpa using ⟨hb, hi, hs, ht, hu⟩) rfl

lemma Settles.of_owners {after : Owners} (h : Settles doc failed db after)
    (hk : doc.kind ≠ .recipeBuild) (hsame : db.owners = db₁.owners) :
    Settles doc failed db₁ after := by
  simp only [Database.owners, Owners.mk.injEq] at hsame
  cases h with
  | build => contradiction
  | install hk owners =>
    refine .install hk (owners.trans ?_)
    simp only [Database.owners, setInstallationState, hsame]
  | start hk hf owners =>
    refine .start hk hf (owners.trans ?_)
    simp only [Database.owners, setRun, hsame]
  | cleanup hk hf owners =>
    refine .cleanup hk hf (owners.trans ?_)
    simp only [Database.owners, setRun, hsame]
  | stop hk owners =>
    refine .stop hk (owners.trans ?_)
    simp only [Database.owners, setRun, release, hsame]
  | uninstall hk owners =>
    refine .uninstall hk (owners.trans ?_)
    simp only [Database.owners, setInstallationState, release, hsame]
  | other hk owners =>
    refine .other hk (owners.trans ?_)
    simp only [Database.owners, hsame]

lemma settles_of_noted (hnoted : Noted doc succeeded db db₁)
    (hfailed : doc.kind = .recipeBuild → failed = !succeeded)
    (h : settleOwner cfg env { db₁ with queue := q } jobId doc failed = .ok db') :
    Settles doc failed db db'.owners := by
  rcases hnoted with ⟨hk, hsame⟩ | ⟨hk, f, hf, howners⟩
  · exact (settleOwner_owners h hk).of_owners hk hsame
  simp only [settleOwner, hk] at h
  cases h
  refine .build hk f (fun b => ?_) ?_
  · rw [hf, hfailed hk]
    cases succeeded <;> rfl
  simp only [Database.owners, Owners.mk.injEq] at howners
  simp only [Database.owners, release, howners, setBuild]

end Results

/-! ### Sessions of the calls -/

def Task.request : Task → Request
  | .begin r => r
  | .buildAdmitted c | .buildInspected c _ => .build c
  | .distributePlanned c _ _ | .distributeAdmitted c _ _ => .distribute c
  | .installAdmitted c | .installPlanned c _ => .install c
  | .startAdmitted c | .startPlanned c _ _ => .start c
  | .stopAdmitted c | .stopChecked c _ | .stopWithdrawn c _ => .stop c
  | .uninstallAdmitted c | .uninstallChecked c _ => .uninstall c
  | .publishBegin id worker | .publishReady id worker | .publishComputed id worker _
  | .publishActivated id worker _ => if worker then .tick else .publish id
  | .publishFailed _ _ => .tick
  | .withdrawReady id stop | .withdrawComputed id stop _ | .withdrawActivated id stop _ =>
    match stop with
    | some (c, _) => .stop c
    | none => .withdraw id

def held : Task → List Route
  | .publishComputed _ _ routes | .withdrawComputed _ _ routes => routes
  | _ => []

/-- What a task looks its answer up by: the key of its request, the kind of its job, and the digest
of its plan where the call has it. -/
def lookup (cfg : Config) : Task → Option (Uuid × AgentOperation × Option Digest)
  | .begin (.build c) => some (c.requestId, .recipeBuild, some c.buildInputSha256)
  | .begin (.install c) => some (c.requestId, .recipeInstall, some c.planDigest)
  | .begin (.start c) => some (c.requestId, .recipeStart, some c.planDigest)
  | .begin (.stop c) => some (c.requestId, .recipeStop, none)
  | .begin (.uninstall c) => some (c.requestId, .recipeUninstall, none)
  | .distributePlanned c plan _ =>
    some (c.requestId, .recipeImageImport, some (cfg.distributionDigest plan))
  | _ => none

inductive Answers (cfg : Config) (env : Env) (db db' : Database) (v : RecipeOperationView)
    (task : Task) : Prop
  | replayed (requestId : Uuid) (kind : AgentOperation) (digest : Option Digest)
      (hkey : lookup cfg task = some (requestId, kind, digest))
      (hv : idempotent db requestId kind digest = .ok (some v)) (same : db' = db)
  | retried (c : RetryCall) (htask : task = .begin (.retry c))
      (hv : retry cfg env db c = .ok (v, db'))
  | committed (requestId : Uuid) (doc : RecipeJob) (commits : Commits db db' task v requestId doc)

def Reroutes (task : Task) (k : Uuid) (r s : RunStatus) : Prop :=
  s.state = r.state ∧
    ((s.routeState = .withdrawn ∧ ∃ stop generation,
      task = .withdrawActivated k stop generation ∧ s.routeGeneration = some generation) ∨
    (r.state = .running ∧ s.routeState = .published) ∨
    (r.routeState = .pending ∧ s.routeState = .failed))

def Records (task : Task) (db db' : Database) : Prop :=
  db' = db ∨ ∃ r f, db.runs.get? r.id = some r ∧
    Reroutes task r.id r.toRunStatus (f r.toRunStatus) ∧ db' = setRun db r.id f

/-- Where a session may leave a call: with a bundle that it has computed from the database, with the
generation of one that a withdrawal has made live, or with neither. -/
def Leaves (cfg : Config) (now : Time) (s : Shared) (task : Task) : Task → Prop
  | .publishComputed _ _ routes => candidate cfg now s.db none = .ok routes
  | .withdrawComputed id _ routes => candidate cfg now s.db (some id) = .ok routes
  | .withdrawActivated id stop generation => generation = s.generation ∧
    task = .withdrawComputed id stop s.bundle
  | _ => True

inductive Session (cfg : Config) (env : Env) (s : Shared) (task : Task) : Shared → Progress → Prop
  | goesOn (next : Task) (hrequest : next.request = task.request)
      (hnext : Leaves cfg env.now s task next) :
      Session cfg env s task s (.next next)
  | ends : Session cfg env s task s (.returned none)
  | answers (db : Database) (v : RecipeOperationView) (h : Answers cfg env s.db db v task) :
      Session cfg env s task { s with db := db } (.returned (some v))
  | activates (next : Task) (hrequest : next.request = task.request)
      (hnext : Leaves cfg env.now { s with bundle := held task, generation := s.generation + 1 } task
        next) :
      Session cfg env s task { s with bundle := held task, generation := s.generation + 1 }
        (.next next)
  | records (db : Database) (h : Records task s.db db) (p : Progress)
      (hp : p = .returned none ∨ ∃ next, p = .next next ∧ next.request = task.request ∧
        Leaves cfg env.now { s with db := db } task next) :
      Session cfg env s task { s with db := db } p

section Sessions

variable {s s' : Shared} {p : Progress}

lemma Leaves.held {now : Time} {next : Task} (h : Leaves cfg now s task next) :
    held next = [] ∨ ∃ exclude, candidate cfg now s.db exclude = .ok (Recipes.held next) := by
  cases next with
  | publishComputed | withdrawComputed => exact .inr ⟨_, h⟩
  | _ => exact .inl rfl

lemma reads_ok {x : Except RecipeError Progress} (h : reads s x = .ok (s', p)) :
    s' = s ∧ x = .ok p := by
  obtain ⟨p', hx, h⟩ := of_bind_ok h
  cases h
  exact ⟨rfl, hx⟩

variable {x : Except RecipeError (RecipeOperationView × Database)} {generation : ℕ}
  {kind : AgentOperation} {digest : Option Digest}

lemma returns_ok (h : returns s x = .ok (s', p)) :
    ∃ v db, x = .ok (v, db) ∧ p = .returned (some v) ∧ s' = { s with db := db } := by
  obtain ⟨⟨v, db₁⟩, hx, h⟩ := of_bind_ok h
  cases h
  exact ⟨v, db₁, hx, rfl, rfl⟩

lemma activate_ok {routes : List Route} (h : activate env s routes = .ok s') :
    s' = { s with bundle := routes, generation := s.generation + 1 } := by
  unfold activate at h
  split at h
  · cases h
  cases h
  rfl

lemma records_setRun {r : RecipeRun} {f : RunStatus → RunStatus} (hr : db.runs.get? id = some r)
    (h : Reroutes task id r.toRunStatus (f r.toRunStatus)) :
    Records task db (setRun db id f) := by
  obtain rfl : r.id = id := get?_key hr
  exact .inr ⟨r, f, hr, h, rfl⟩

lemma recordPublish_records (h : recordPublish db id generation = .ok db') :
    Records task db db' := by
  unfold recordPublish at h
  simp only [fetch_bind_ok, require_bind_ok] at h
  obtain ⟨r, hr, hs, h⟩ := h
  cases h
  exact records_setRun hr ⟨rfl, .inr (.inl ⟨hs, rfl⟩)⟩

lemma recordWithdraw_records {stop : Stopping} (h : recordWithdraw db id generation = .ok db') :
    Records (.withdrawActivated id stop generation) db db' := by
  unfold recordWithdraw at h
  rw [fetch_bind_ok] at h
  obtain ⟨r, hr, h⟩ := h
  cases h
  exact records_setRun hr ⟨rfl, .inl ⟨rfl, stop, generation, rfl, rfl⟩⟩

lemma recordFailure_records (db : Database) (id : Uuid) (text : String) :
    Records task db (recordFailure db id text) := by
  unfold recordFailure
  split
  · next r hr =>
    split_ifs with hpending
    · exact records_setRun hr ⟨rfl, .inr (.inr ⟨hpending, rfl⟩)⟩
    exact .inl rfl
  exact .inl rfl

lemma session_replay {rest : Task}
    (h : reads s (replay s.db requestId kind digest rest) = .ok (s', p))
    (hkey : lookup cfg task = some (requestId, kind, digest))
    (hrequest : rest.request = task.request) (hnext : Leaves cfg env.now s task rest) :
    Session cfg env s task s' p := by
  obtain ⟨rfl, h⟩ := reads_ok h
  obtain ⟨existing, hexisting, h⟩ := of_bind_ok h
  cases h
  cases existing with
  | none => exact .goesOn rest hrequest hnext
  | some v => exact .answers s'.db v (.replayed requestId kind digest hkey hexisting rfl)

lemma session_returns (h : returns s x = .ok (s', p))
    (hanswers : ∀ v db, x = .ok (v, db) → Answers cfg env s.db db v task) :
    Session cfg env s task s' p := by
  obtain ⟨v, db, hx, rfl, rfl⟩ := returns_ok h
  exact .answers db v (hanswers v db hx)

lemma resume_session (h : resume cfg env s task = .ok (s', p)) : Session cfg env s task s' p := by
  cases task with
  | begin r =>
    cases r with
    | build c | install c | start c | stop c | uninstall c => exact session_replay h rfl rfl trivial
    | retry c => exact session_returns h fun v db hx => .retried c rfl hx
    | distribute c | publish id | withdraw id =>
      obtain ⟨rfl, hp⟩ := reads_ok h
      obtain ⟨u, -, hp⟩ := of_bind_ok hp
      cases hp
      exact .goesOn _ rfl trivial
    | tick =>
      obtain ⟨rfl, hp⟩ := reads_ok h
      cases hp
      split
      · exact .goesOn _ rfl trivial
      exact .ends
  | distributePlanned => exact session_replay h rfl rfl trivial
  | buildInspected =>
    exact session_returns h fun v db hx => .committed _ _ (commitBuild_ok hx)
  | distributeAdmitted =>
    exact session_returns h fun v db hx => .committed _ _ (commitDistribution_ok hx)
  | installPlanned =>
    refine session_returns h fun v db hx => ?_
    obtain ⟨id, hcommits⟩ := commitInstall_ok hx
    exact .committed _ _ hcommits
  | startPlanned =>
    refine session_returns h fun v db hx => ?_
    obtain ⟨id, hcommits⟩ := commitStart_ok hx
    exact .committed _ _ hcommits
  | stopWithdrawn =>
    exact session_returns h fun v db hx => .committed _ _ (commitStop_ok hx)
  | uninstallChecked c u =>
    exact session_returns h fun v db hx => .committed _ _
      (commits_of_queue (fun hk => by cases hk) hx rfl <| .uninstall c u rfl)
  | publishReady =>
    obtain ⟨rfl, hp⟩ := reads_ok h
    obtain ⟨routes, hroutes, hp⟩ := of_bind_ok hp
    cases hp
    obtain ⟨routes', hc, hroutes⟩ := of_bind_ok hroutes
    rw [require_bind_ok] at hroutes
    cases hroutes.2
    exact .goesOn _ rfl hc
  | withdrawReady id =>
    obtain ⟨rfl, hp⟩ := reads_ok h
    obtain ⟨routes, hroutes, hp⟩ := of_bind_ok hp
    cases hp
    exact .goesOn _ rfl hroutes
  | publishComputed id worker routes =>
    obtain ⟨s₁, hs₁, h⟩ := of_bind_ok h
    cases h
    rw [activate_ok hs₁]
    exact .activates _ rfl trivial
  | withdrawComputed id stop routes =>
    obtain ⟨s₁, hs₁, h⟩ := of_bind_ok h
    cases h
    rw [activate_ok hs₁]
    exact .activates _ rfl ⟨rfl, rfl⟩
  | publishActivated =>
    obtain ⟨db, hdb, h⟩ := of_bind_ok h
    cases h
    exact .records db (recordPublish_records hdb) _ (.inl rfl)
  | withdrawActivated id stop =>
    obtain ⟨db, hdb, h⟩ := of_bind_ok h
    cases h
    refine .records db (recordWithdraw_records hdb) _ ?_
    cases stop with
    | none => exact .inl rfl
    | some => exact .inr ⟨_, rfl, rfl, trivial⟩
  | publishFailed id text =>
    cases h
    exact .records _ (recordFailure_records s.db id text) _ (.inl rfl)
  | buildAdmitted c | installAdmitted c | startAdmitted c | stopAdmitted c | stopChecked c digest
  | uninstallAdmitted c | publishBegin id worker =>
    obtain ⟨rfl, hp⟩ := reads_ok h
    obtain ⟨u, -, hp⟩ := of_bind_ok hp
    cases hp
    exact .goesOn _ rfl trivial

lemma handler_eq_some {next : Task} {e : RecipeError} (h : handler task e = some next) :
    next.request = task.request ∧ Leaves cfg env.now s task next := by
  unfold handler at h
  split at h
  case h_5 => cases h
  all_goals
    obtain ⟨text, -, rfl⟩ := Option.map_eq_some_iff.mp h
    exact ⟨rfl, trivial⟩

lemma idempotent_some :
    idempotent db requestId kind digest = .ok (some v) ↔
      ∃ job doc, bound db requestId = some job ∧ job.document = .recipe doc ∧ doc.kind = kind ∧
        (∀ d ∈ digest, d = doc.planDigest) ∧ v = view job doc := by
  unfold idempotent
  constructor
  · intro h
    split at h
    · cases h
    next job hjob =>
    split at h
    · cases h
    next doc hdoc =>
    split_ifs at h with hused
    cases h
    rw [not_or, not_not, not_and_or, not_not] at hused
    refine ⟨job, doc, hjob, hdoc, hused.1, fun d hd => ?_, rfl⟩
    rw [hd] at hused
    rcases hused.2 with hnone | hsame
    · exact absurd rfl hnone
    exact Option.some.inj hsame
  rintro ⟨job, doc, hjob, hdoc, hkind, hdigest, rfl⟩
  simp only [hjob, hdoc]
  rw [if_neg]
  rintro (hk | ⟨hsome, hne⟩)
  · exact hk hkind
  obtain ⟨d, rfl⟩ := Option.isSome_iff_exists.mp hsome
  exact hne (congrArg some (hdigest d rfl))

lemma bound_ticket {job : GroupJob JobDocument} (h : bound db requestId = some job) :
    job.ticket ∈ tickets db.queue ∧ job.requestId = requestId := by
  have hkey := List.find?_some h
  exact ⟨List.mem_map_of_mem (List.mem_of_find?_eq_some h), of_decide_eq_true hkey⟩

end Sessions

/-! ### Pending calls -/

def Coherent (s : System) : Prop := ∀ p ∈ s.tasks.rows, p.task.request = p.request

section Pending

variable {σ τ : System} {e : Event} {out : Option Output} {p : Pending}

lemma mem_setTask (h : p ∈ (setTask σ id task).tasks.rows) :
    (∃ p' ∈ σ.tasks.rows, p'.id = id ∧ p = { p' with task := task }) ∨ p ∈ σ.tasks.rows := by
  unfold setTask at h
  rw [mem_updateWhere] at h
  rcases h with ⟨p', hp, hid, rfl⟩ | ⟨hp, -⟩
  · exact .inl ⟨p', hp, of_decide_eq_true hid, rfl⟩
  exact .inr hp

lemma mem_endTask (h : p ∈ (endTask σ id).tasks.rows) : p ∈ σ.tasks.rows := by
  unfold endTask at h
  rw [mem_deleteWhere] at h
  exact h.1

/-- The session of a step, with its outcome.  A session that fails leaves what is shared. -/
inductive Served (cfg : Config) (σ τ : System) (id : Uuid) (env : Env) (p : Pending) :
    Option Output → Prop
  | next (task : Task) (h : Session cfg env σ.toShared p.task τ.toShared (.next task))
      (tasks : τ = setTask { σ with toShared := τ.toShared } p.id task) : Served cfg σ τ id env p none
  | returned (v : Option RecipeOperationView)
      (hresume : resume cfg env σ.toShared p.task = .ok (τ.toShared, .returned v))
      (h : Session cfg env σ.toShared p.task τ.toShared (.returned v))
      (tasks : τ = endTask { σ with toShared := τ.toShared } p.id) :
      Served cfg σ τ id env p (some ⟨p.request, .ok v⟩)
  | handled (task : Task) (hrequest : task.request = p.task.request)
      (hnext : Leaves cfg env.now σ.toShared p.task task)
      (tasks : τ = setTask σ p.id task) : Served cfg σ τ id env p none
  | failed (e : RecipeError) (he : resume cfg env σ.toShared p.task = .error e)
      (tasks : τ = endTask σ p.id) : Served cfg σ τ id env p (some ⟨p.request, .error e⟩)

lemma resume_served (h : step cfg σ (.resume id env) = .ok (τ, out)) :
    ∃ p, σ.tasks.get? id = some p ∧ Served cfg σ τ id env p out := by
  obtain ⟨p, hp, h⟩ := of_bind_ok h
  rw [fetch_ok] at hp
  refine ⟨p, hp, ?_⟩
  have hresume := Except.ok.inj h
  unfold resumeCall at hresume
  split at hresume
  · next s task hs =>
    cases hresume
    exact .next task (resume_session hs) rfl
  · next s v hs =>
    cases hresume
    exact .returned v hs (resume_session hs) rfl
  next e he =>
  split at hresume
  · next task htask =>
    cases hresume
    obtain ⟨hrequest, hnext⟩ := handler_eq_some htask
    exact .handled task hrequest hnext rfl
  cases hresume
  exact .failed e he rfl

lemma step_tasks (h : step cfg σ e = .ok (τ, out)) (hp : p ∈ τ.tasks.rows) :
    p.task = .begin p.request ∨ p ∈ σ.tasks.rows ∨
      ∃ p' ∈ σ.tasks.rows, p.request = p'.request ∧ p.task.request = p'.task.request ∧
        ∃ now, Leaves cfg now τ.toShared p'.task p.task := by
  cases e with
  | call =>
    obtain ⟨tasks, hinsert, h⟩ := of_bind_ok h
    rw [fetch_ok] at hinsert
    cases h
    rcases (mem_insert hinsert).mp hp with hp | rfl
    · exact .inr (.inl hp)
    exact .inl rfl
  | resume id env =>
    obtain ⟨q, hq, hserved⟩ := resume_served h
    have hmem := mem_of_get? hq
    cases hserved with
    | next task hsession tasks =>
      rw [tasks] at hp
      rcases mem_setTask hp with ⟨p', hp', hid, rfl⟩ | hp
      · -- the pending call with the identifier is the one that was resumed
        obtain rfl : p' = q := eq_of_key hp' hmem hid
        refine .inr (.inr ⟨p', hmem, rfl, ?_⟩)
        generalize τ.toShared = s at hsession
        cases hsession with
        | goesOn _ hrequest hnext | activates _ hrequest hnext => exact ⟨hrequest, env.now, hnext⟩
        | records db _ _ hp =>
          rcases hp with hp | ⟨next, hp, hrequest, hnext⟩
          · cases hp
          cases hp
          exact ⟨hrequest, env.now, hnext⟩
      exact .inr (.inl hp)
    | handled task hrequest hnext tasks =>
      rw [tasks] at hp
      rcases mem_setTask hp with ⟨p', hp', hid, rfl⟩ | hp
      · obtain rfl : p' = q := eq_of_key hp' hmem hid
        refine .inr (.inr ⟨p', hmem, rfl, hrequest, env.now, ?_⟩)
        rw [tasks]
        exact hnext
      exact .inr (.inl hp)
    | returned v _ _ tasks | failed _ _ tasks =>
      rw [tasks] at hp
      exact .inr (.inl (mem_endTask hp))
  | vanish =>
    cases h
    exact .inr (.inl (mem_endTask hp))
  | observe =>
    cases h
    exact .inr (.inl hp)
  | _ =>
    obtain ⟨x, -, h⟩ := of_bind_ok h
    cases h
    exact .inr (.inl hp)

lemma coherent_run (cfg : Config) (events : List Event) :
    Coherent (Transactions.run (step cfg) {} events) := by
  refine Transactions.run_preserves ?_ (fun p hp => by cases hp) events
  intro s e t out hs h p hp
  rcases step_tasks h hp with hbegin | hold | ⟨p', hp', hrequest, hnext, -⟩
  · rw [hbegin]
    rfl
  · exact hs p hold
  rw [hnext, hrequest]
  exact hs p' hp'

lemma answer_returned {request : Request}
    (h : step cfg σ e = .ok (τ, some ⟨request, .ok (some v)⟩)) :
    ∃ id env p, e = .resume id env ∧ σ.tasks.get? id = some p ∧ p.request = request ∧
      Answers cfg env σ.db τ.db v p.task := by
  cases e with
  | resume id env =>
    obtain ⟨p, hp, hserved⟩ := resume_served h
    refine ⟨id, env, p, rfl, hp, ?_⟩
    cases hserved with
    | returned _ _ hsession =>
      refine ⟨rfl, ?_⟩
      generalize τ.toShared = s at hsession
      cases hsession with
      | answers db _ hanswers => exact hanswers
      | records _ _ _ hp =>
        rcases hp with hp | ⟨next, hp, -⟩
        · cases hp
        cases hp
  | vanish id | observe world nodes => cases h
  | _ =>
    obtain ⟨x, -, h⟩ := of_bind_ok h
    cases h

end Pending

end VonkForge.Recipes
