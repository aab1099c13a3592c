import VonkForge.RecipeChanges

/-!
# The groups of an owner

A step that settles an owner ends a live group, and only an acceptance or the clean-up of a failed
start makes a new one.
-/

namespace VonkForge.Recipes

open OperationGroups Table
open AgentJobs (JobError ResultState)

variable {cfg : Config} {db db' : Database} {l : Label} {new : Option (Ticket JobDocument)}
  {gone : Option Uuid} {q q' : Queue JobDocument RecipePayload} {doc : RecipeJob} {task : Task}
  {t : Ticket JobDocument}

/-- The group is of this kind, for this owner. -/
def IsFor (kind : AgentOperation) (owner : Uuid) (t : Ticket JobDocument) : Prop :=
  match t.document with
  | .recipe doc => doc.kind = kind ∧ doc.ownerId = owner
  | .other => False

instance (kind : AgentOperation) (owner : Uuid) : DecidablePred (IsFor kind owner) := fun t => by
  unfold IsFor
  split <;> infer_instance

variable {k owner : Uuid} {kind : AgentOperation}

lemma isFor_recipe (h : t.document = .recipe doc) :
    IsFor kind owner t ↔ doc.kind = kind ∧ doc.ownerId = owner := by
  unfold IsFor
  rw [h]

lemma not_isFor_other (h : t.document = .other) : ¬ IsFor kind owner t := by
  unfold IsFor
  rw [h]
  exact id

lemma IsFor.unique {kind' : AgentOperation} {owner' : Uuid} (h : IsFor kind owner t)
    (h' : IsFor kind' owner' t) : kind = kind' ∧ owner = owner' := by
  unfold IsFor at h h'
  split at h
  · next doc hdoc =>
    rw [hdoc] at h'
    exact ⟨h.1.symm.trans h'.1, h.2.symm.trans h'.2⟩
  exact False.elim h

def LiveFor (q : Queue JobDocument RecipePayload) (kind : AgentOperation) (owner : Uuid) : Prop :=
  ∃ t ∈ tickets q, IsFor kind owner t ∧ Live q t.id

instance (q : Queue JobDocument RecipePayload) (kind : AgentOperation) (owner : Uuid) :
    Decidable (LiveFor q kind owner) :=
  inferInstanceAs (Decidable (∃ t ∈ tickets q, IsFor kind owner t ∧ Live q t.id))

/-- What an event comes to: a session of a task, a result or an expiry, or none of these. -/
inductive Label
  | session (task : Task)
  | result (id : Uuid) (state : OperationState)
  | expiry (id : Uuid)
  | silent

def label (s : System) : Event → Label
  | .resume id _ =>
    match s.tasks.get? id with
    | some p => .session p.task
    | none => .silent
  | .result id state _ _ => .result id state.operation
  | .expire id => .expiry id
  | _ => .silent

/-- What one transaction of the service does to the groups and to their owners. -/
inductive Effect (cfg : Config) (l : Label) (db db' : Database) : Prop
  | idle (new : Option (Ticket JobDocument)) (hother : ∀ t ∈ new, t.document = .other)
      (turn : Turn db.queue db'.queue none new) (owners : db'.owners = db.owners)
  | newBuild (b : RecipeBuild) (rows : Table RecipeBuild) (hs : b.state = .planned)
      (hb : db.builds.get? b.id = none)
      (hrows : ∀ k, rows.get? k = if k = b.id then some b else db.builds.get? k)
      (turn : Turn db.queue db'.queue none none) (owners : db'.owners = { db.owners with builds := rows })
  | routed (task : Task) (hl : l = .session task) (r : RecipeRun) (f : RunStatus → RunStatus)
      (hr : db.runs.get? r.id = some r) (hroute : Reroutes task r.id r.toRunStatus (f r.toRunStatus))
      (turn : Turn db.queue db'.queue none none) (owners : db'.owners = (setRun db r.id f).owners)
  | accepted (task : Task) (hl : l = .session task) (doc : RecipeJob) (t : Ticket JobDocument)
      (hdoc : t.document = .recipe doc) (turn : Turn db.queue db'.queue none (some t))
      (born : Live db'.queue t.id) (accepts : Accepts db db'.owners task doc)
  | waits (o : GroupOperation RecipePayload) (hl : l = .expiry o.id)
      (ho : db.queue.operations.get? o.id = some o)
      (turn : Turn db.queue db'.queue (some o.parentJobId) none) (owners : db'.owners = db.owners)
  | settled (t : Ticket JobDocument) (ht : t ∈ tickets db.queue) (doc : RecipeJob)
      (hdoc : t.document = .recipe doc) (o : GroupOperation RecipePayload) (succeeded failed : Bool)
      (ho : o ∈ children db.queue t.id) (hl : l = .result o.id (resultState succeeded))
      (hfailed : doc.kind = .recipeBuild → failed = !succeeded)
      (live : Live db.queue t.id) (new : Option (Ticket JobDocument))
      (turn : Turn db.queue db'.queue (some t.id) new)
      (hnew : ∀ u ∈ new, doc.kind = .recipeStart ∧ failed = true ∧
        IsFor .recipeStop doc.ownerId u ∧ Live db'.queue u.id)
      (hnone : doc.kind = .recipeStart → failed = true → new = none →
        ∃ u ∈ tickets db.queue, u.requestId = cfg.cleanupKey t.id)
      (settles : Settles doc failed db db'.owners)

section Effects

variable {env : Env}

lemma effect_of_same (hgroups : SameGroups db.queue db'.queue) (howners : db'.owners = db.owners)
    (hq : Grouped db.queue) : Effect cfg l db db' ∧ Grouped db'.queue :=
  ⟨.idle none (by simp) hgroups.turn howners, hgroups.grouped hq⟩

lemma effect_refl (cfg : Config) (l : Label) (hq : Grouped db.queue) :
    Effect cfg l db db ∧ Grouped db.queue :=
  effect_of_same (.refl _) rfl hq

variable {id : Uuid} {v : RecipeOperationView} {state : OperationState} {evidence : Evidence}

lemma Commits.effect {requestId : Uuid} (h : Commits db db' task v requestId doc)
    (hq : Grouped db.queue) :
    Effect cfg (.session task) db db' ∧ Grouped db'.queue := by
  obtain ⟨t, ops, hgroup, -⟩ := h.group
  exact ⟨.accepted task rfl doc t hgroup.document hgroup.toAdded.turn (hgroup.live hq) h.accepts,
    hgroup.grouped hq⟩

lemma Answers.effect (h : Answers cfg env db db' v task) (hq : Grouped db.queue) :
    Effect cfg (.session task) db db' ∧ Grouped db'.queue := by
  cases h with
  | replayed requestId kind digest hkey hv same =>
    rw [same]
    exact effect_refl cfg _ hq
  | retried c htask hv =>
    subst htask
    obtain ⟨_, _, -, -, -, -, ⟨_, _, -, -, -, -, -, hsame⟩ | ⟨-, hcommits⟩⟩ := retry_ok hv
    · rw [hsame]
      exact effect_refl cfg _ hq
    exact hcommits.effect hq
  | committed requestId doc commits => exact commits.effect hq

lemma Session.effect {s s' : Shared} {p : Progress} (h : Session cfg env s task s' p)
    (hq : Grouped s.db.queue) :
    Effect cfg (.session task) s.db s'.db ∧ Grouped s'.db.queue := by
  cases h with
  | goesOn | ends | activates => exact effect_refl cfg _ hq
  | answers db v hanswers => exact hanswers.effect hq
  | records db hrecords =>
    rcases hrecords with rfl | ⟨r, f, hr, hroute, rfl⟩
    · exact effect_refl cfg _ hq
    exact ⟨.routed task rfl r f hr hroute (SameGroups.refl s.db.queue).turn rfl, hq⟩

lemma planBuild_effect {revisionId : Uuid} {builder : NodeId} {plan : RecipeBuildPlan}
    (h : planBuild cfg db env revisionId builder = .ok (plan, db')) (hq : Grouped db.queue) :
    Effect cfg l db db' ∧ Grouped db'.queue := by
  iterate 8 obtain ⟨_, -, h⟩ := of_bind_ok h
  split at h
  · cases h
  iterate 6 obtain ⟨_, -, h⟩ := of_bind_ok h
  dsimp only at h
  split at h
  · cases h
    exact effect_refl cfg l hq
  obtain ⟨builds, hinsert, h⟩ := of_bind_ok h
  rw [fetch_ok] at hinsert
  cases h
  exact ⟨.newBuild _ builds rfl (insert_eq_some.mp hinsert).1 (get?_insert hinsert)
    (SameGroups.refl db.queue).turn rfl, hq⟩

lemma claim_effect (h : claimOperation db.queue id = .ok q) (hq : Grouped db.queue) :
    Effect cfg l db { db with queue := q } ∧ Grouped q := by
  unfold claimOperation at h
  split at h
  · cases h
  next o ho =>
  obtain rfl : o.id = id := get?_key ho
  split at h
  · cases h
  split_ifs at h with hs
  · cases h
    exact effect_of_same (.refl _) rfl hq
  cases h
  have hqueued : o.state = .queued := by simpa using (not_or.mp hs).1
  exact ⟨.idle none (by simp) (turn_claim ho hqueued) rfl, hq.setOperationState _ _⟩

lemma expire_effect (h : expireOperation db.queue id = .ok q) (hq : Grouped db.queue) :
    Effect cfg (.expiry id) db { db with queue := q } ∧ Grouped q := by
  unfold expireOperation at h
  split at h
  · cases h
  next o ho =>
  obtain rfl : o.id = id := get?_key ho
  split_ifs at h with hs
  · cases h
    exact effect_of_same (.refl _) rfl hq
  obtain ⟨htickets, hoperations⟩ := tickets_aggregateParent h
  have hgroups : SameGroups (setOperationState db.queue o.id .waitingForOperator) q :=
    ⟨htickets, hoperations⟩
  exact ⟨.waits o rfl ho ((turn_park ho).trans hgroups.turn (by simp)) rfl,
    hgroups.grouped (hq.setOperationState _ _)⟩

lemma ended_eq_true (h : ended state = true) : ¬ Underway state ∧ ¬ Parked state := by
  cases state <;> simp [ended, Underway, Parked] at h ⊢

lemma ended_eq_false (h : ended state = false) : Underway state ∨ Parked state := by
  cases state <;> simp [ended, Underway, Parked] at h ⊢

lemma CleansUp.turn {jobId : Uuid} {failed : Bool} (h : CleansUp cfg jobId doc failed q q')
    (hq : Grouped q) : Grouped q' ∧ ∃ new, Turn q q' none new ∧
      (∀ u ∈ new, doc.kind = .recipeStart ∧ failed = true ∧ IsFor .recipeStop doc.ownerId u ∧
        Live q' u.id) ∧
      (doc.kind = .recipeStart → failed = true → new = none →
        ∃ u ∈ tickets q, u.requestId = cfg.cleanupKey jobId) := by
  rcases h with ⟨hgroups, hkey⟩ | ⟨hk, hf, t, ops, digest, hgroup⟩
  · exact ⟨hgroups.grouped hq, none, hgroups.turn, by simp, fun hk hf _ => hkey hk hf⟩
  refine ⟨hgroup.grouped hq, some t, hgroup.toAdded.turn, ?_, fun _ _ h => by cases h⟩
  rintro _ ⟨⟩
  exact ⟨hk, hf, (isFor_recipe hgroup.document).mpr ⟨rfl, rfl⟩, hgroup.live hq⟩

lemma Effect.groups (h : Effect cfg l db db') (hgroups : SameGroups db'.queue q) :
    Effect cfg l db { db' with queue := q } := by
  have hlive : ∀ k, Live q k ↔ Live db'.queue k := fun k =>
    hgroups.turn.live k (by simp) (by simp)
  have hturn : ∀ {gone new}, Turn db.queue db'.queue gone new → Turn db.queue q gone new := by
    intro gone new turn
    refine ⟨hgroups.tickets.trans turn.tickets_eq, turn.fresh, turn.unused,
      fun hl => hgroups.turn.linked (turn.linked hl), fun k hk hnew => ?_, fun k hk => ?_⟩
    · exact (hlive k).trans (turn.live k hk hnew)
    rw [hlive]
    exact turn.dead k hk
  cases h with
  | idle new hother turn owners => exact .idle new hother (hturn turn) owners
  | newBuild b rows hs hb hrows turn owners => exact .newBuild b rows hs hb hrows (hturn turn) owners
  | routed task hl r f hr hroute turn owners => exact .routed task hl r f hr hroute (hturn turn) owners
  | accepted task hl doc t hdoc turn born accepts =>
    exact .accepted task hl doc t hdoc (hturn turn) ((hlive _).mpr born) accepts
  | waits o hl ho turn owners => exact .waits o hl ho (hturn turn) owners
  | settled t ht doc hdoc o succeeded failed ho hl hfailed live new turn hnew hnone settles =>
    refine .settled t ht doc hdoc o succeeded failed ho hl hfailed live new (hturn turn)
      (fun u hu => ?_) hnone settles
    obtain ⟨hk, hf, hfor, hborn⟩ := hnew u hu
    exact ⟨hk, hf, hfor, (hlive u.id).mpr hborn⟩

lemma projectNodeResult_effect {o x : GroupOperation RecipePayload} {succeeded : Bool}
    (ht : t ∈ tickets db.queue) (hdoc : t.document = .recipe doc)
    (ho : db.queue.operations.get? o.id = some o) (hs : o.state = .running)
    (hid : t.id = o.parentJobId) (hq : Grouped db.queue) (hkind : o.kind = doc.kind)
    (h : projectNodeResult cfg env
      { db with queue := setOperationState db.queue o.id (resultState succeeded) } t.id doc x
        succeeded evidence = .ok db') :
    Effect cfg (.result o.id (resultState succeeded)) db db' ∧ Grouped db'.queue := by
  obtain ⟨db₁, hnode, h⟩ := of_bind_ok h
  obtain ⟨hqueue, hnoted⟩ := recordNode_ok hnode
  have hq₁ : Grouped db₁.queue := hqueue ▸ hq.setOperationState _ _
  have hmem : o ∈ children db.queue t.id := mem_children.mpr ⟨mem_of_get? ho, hid.symm⟩
  have hchildren : children db₁.queue t.id =
      children (setOperationState db.queue o.id (resultState succeeded)) o.parentJobId := by
    rw [hqueue, hid]
  by_cases hall : (children db₁.queue t.id).all (fun c => ended c.state) = true
  · simp only [if_pos hall] at h
    rw [hchildren, List.all_eq_true] at hall
    obtain ⟨hlive, hturn⟩ := turn_last ho hs fun c hc => ended_eq_true (hall c hc)
    rw [← hid] at hlive hturn
    have hfailed : doc.kind = .recipeBuild →
        (children db₁.queue t.id).any (fun c => c.state = .failed) = !succeeded := by
      intro hbuild
      have hstates := hq.build_result ho (hkind.trans hbuild) (resultState succeeded)
      rw [hchildren, Bool.eq_iff_iff, List.any_eq_true]
      constructor
      · rintro ⟨c, hc, hf⟩
        rw [decide_eq_true_eq, hstates c hc] at hf
        cases succeeded
        · rfl
        cases hf
      intro hf
      refine ⟨_, mem_children_setOperationState ho, ?_⟩
      cases succeeded
      · rfl
      cases hf
    have hgroups := sameGroups_setJobState db₁.queue t.id
      (if (children db₁.queue t.id).any fun c => c.state = .failed then .failed else .succeeded)
    obtain ⟨hq', new, hturn', hnew, hnone⟩ :=
      CleansUp.turn (settleOwner_groups h) (hgroups.grouped hq₁)
    have htickets := hgroups.tickets.trans (congrArg tickets hqueue)
    have hturn₁ := (congrArg (Turn · _ none none) hqueue).mp hgroups.turn
    refine ⟨.settled t ht doc hdoc o succeeded _ hmem rfl hfailed hlive new
      (hturn.trans (hturn₁.trans hturn' (by simp)) ?_) hnew ?_ (settles_of_noted hnoted hfailed h), hq'⟩
    · rintro k ⟨⟩ u hu
      refine hturn'.fresh u hu t ?_
      rw [htickets]
      exact ht
    intro hk hf hn
    obtain ⟨u, hu, hkey⟩ := hnone hk hf hn
    rw [htickets] at hu
    exact ⟨u, hu, hkey⟩
  simp only [if_neg hall] at h
  cases h
  obtain ⟨c, hc, hopen⟩ : ∃ c ∈ children db₁.queue t.id, ended c.state = false := by
    simpa using hall
  rw [hchildren] at hc
  -- another operation of the group has not ended, so this is no build
  have hkind' : doc.kind ≠ .recipeBuild := by
    intro hbuild
    rw [hq.build_result ho (hkind.trans hbuild) _ c hc] at hopen
    cases succeeded <;> cases hopen
  have hparked : ¬ Parked (resultState succeeded) := by
    cases succeeded <;> exact id
  have hturn := turn_result ho (by rw [hs]; trivial) hparked ⟨c, hc, ended_eq_false hopen⟩
  have hgroups := sameGroups_setJobState db₁.queue t.id .running
  have hturn₁ := hgroups.turn
  rw [hqueue] at hturn₁
  rcases hnoted with ⟨-, hsame⟩ | ⟨hbuild, -⟩
  · refine ⟨.idle none (by simp) ?_ hsame, hgroups.grouped hq₁⟩
    rw [hqueue]
    exact hturn.trans hturn₁ (by simp)
  exact absurd hbuild hkind'

lemma result_effect {state : ResultState}
    (h : recordResult cfg env db id state evidence = .ok db') (hq : Grouped db.queue) :
    Effect cfg (.result id state.operation) db db' ∧ Grouped db'.queue := by
  obtain ⟨⟨o', q₁⟩, hfinish, h⟩ := of_bind_ok h
  rw [queueResult_ok] at hfinish
  obtain ⟨db₁, hconsume, q₂, haggregate, h⟩ := of_bind_ok₂ h
  rw [queueResult_ok] at haggregate
  cases h
  unfold finishOperation at hfinish
  split at hfinish
  · cases hfinish
  next o ho =>
  obtain rfl : o.id = id := get?_key ho
  split_ifs at hfinish with hrunning
  cases hfinish
  rw [not_not] at hrunning
  obtain ⟨htickets, hoperations⟩ := tickets_aggregateParent haggregate
  have hgroups : SameGroups db₁.queue q₂ := ⟨htickets, hoperations⟩
  suffices heffect : Effect cfg (.result o.id state.operation) db db₁ ∧ Grouped db₁.queue from
    ⟨heffect.1.groups hgroups, hgroups.grouped heffect.2⟩
  obtain ⟨t, ht, hid, doc, hdoc, hkind⟩ := hq.parent o (mem_of_get? ho)
  obtain ⟨job, hjob, rfl⟩ := List.mem_map.mp ht
  have hget : db.queue.jobs.get? o.parentJobId = some job := by
    rw [← hid]
    exact get?_of_mem hjob
  unfold consumeAgentResult at hconsume
  have hjob' : (setOperationState db.queue o.id state.operation).jobs.get? o.parentJobId =
      some job := hget
  have hrecipe : job.document = .recipe doc := hdoc
  simp only [hjob', hrecipe] at hconsume
  cases state with
  | waitingForOperator => cases hconsume
  | _ => exact projectNodeResult_effect ht hdoc ho hrunning hid hq hkind hconsume

lemma step_effect {σ τ : System} {e : Event} {out : Option Output}
    (h : step cfg σ e = .ok (τ, out)) (hq : Grouped σ.db.queue) :
    Effect cfg (label σ e) σ.db τ.db ∧ Grouped τ.db.queue := by
  cases e with
  | call =>
    obtain ⟨tasks, -, h⟩ := of_bind_ok h
    cases h
    exact effect_refl cfg _ hq
  | resume =>
    obtain ⟨p, hp, hserved⟩ := resume_served h
    simp only [label, hp]
    cases hserved with
    | next _ hsession | returned _ _ hsession => exact hsession.effect hq
    | handled task _ _ tasks | failed e _ tasks =>
      rw [tasks]
      exact effect_refl cfg _ hq
  | vanish =>
    cases h
    exact effect_refl cfg _ hq
  | previewBuild =>
    obtain ⟨⟨plan, db'⟩, hplan, h⟩ := of_bind_ok h
    cases h
    exact planBuild_effect hplan hq
  | claim =>
    obtain ⟨q, hclaim, h⟩ := of_bind_ok h
    rw [queueResult_ok] at hclaim
    cases h
    exact claim_effect hclaim hq
  | result =>
    obtain ⟨db', hresult, h⟩ := of_bind_ok h
    cases h
    exact result_effect hresult hq
  | expire =>
    obtain ⟨q, hexpire, h⟩ := of_bind_ok h
    rw [queueResult_ok] at hexpire
    cases h
    exact expire_effect hexpire hq
  | observe =>
    cases h
    exact effect_of_same ⟨rfl, rfl⟩ rfl hq
  | otherJob =>
    obtain ⟨q, hjob, h⟩ := of_bind_ok h
    rw [queueResult_ok] at hjob
    cases h
    obtain ⟨hadded, -, -⟩ := insertJob_ok hjob
    refine ⟨.idle _ ?_ hadded.turn rfl, grouped_of_added hadded hq⟩
    rintro _ ⟨⟩
    rfl

lemma Effect.turn (h : Effect cfg l db db') : ∃ gone new, Turn db.queue db'.queue gone new := by
  cases h with
  | idle _ _ turn | newBuild _ _ _ _ _ turn | routed _ _ _ _ _ _ turn | accepted _ _ _ _ _ turn
  | waits _ _ _ turn | settled _ _ _ _ _ _ _ _ _ _ _ _ turn => exact ⟨_, _, turn⟩

lemma Turn.kept (h : Turn q q' gone new) (ht : t ∈ tickets q) : t ∈ tickets q' := by
  rw [h.tickets_eq]
  exact List.mem_append_left _ ht

end Effects

/-- The groups that start or stop the run `k`. -/
def Drives (k : Uuid) (t : Ticket JobDocument) : Prop :=
  IsFor .recipeStart k t ∨ IsFor .recipeStop k t

structure RunTurn (k : Uuid) (q q' : Queue JobDocument RecipePayload) (gone : Option Uuid)
    (new : Option (Ticket JobDocument)) : Prop where
  old : ∀ t ∈ tickets q', Drives k t → t ∈ tickets q ∨ new = some t
  kept : ∀ t ∈ tickets q, t ∈ tickets q'
  live : ∀ t ∈ tickets q, Drives k t → some t.id ≠ gone → (Live q' t.id ↔ Live q t.id)
  dead : ∀ t ∈ tickets q, some t.id = gone → ¬ Live q' t.id
  fresh : ∀ t ∈ new, ∀ u ∈ tickets q, u ≠ t
  born : ∀ t ∈ new, t ∈ tickets q'

lemma runTurn (h : Turn q q' gone new) (k : Uuid) : RunTurn k q q' gone new := by
  refine ⟨fun t ht _ => ?_, fun t ht => ?_, fun t ht _ hgone => ?_, fun t _ => h.dead t.id, ?_, ?_⟩
  · rw [h.tickets_eq, List.mem_append, Option.mem_toList] at ht
    exact ht
  · exact Turn.kept h ht
  · exact h.live t.id hgone fun u hu he => h.fresh u hu t ht he
  · rintro t hnew u hu rfl
    exact h.fresh u hnew u hu rfl
  intro t hnew
  rw [h.tickets_eq]
  exact List.mem_append_right _ (Option.mem_toList.mpr hnew)

lemma otherTurn (h : Turn q q' gone new) (hgone : ∀ t ∈ tickets q, Drives k t → some t.id ≠ gone)
    (hnew : ∀ u ∈ new, ¬ Drives k u) :
    RunTurn k q q' none none := by
  have hrun := runTurn h k
  refine ⟨fun t ht hd => ?_, hrun.kept, fun t ht hd _ => hrun.live t ht hd (hgone t ht hd), by simp,
    by simp, by simp⟩
  rcases hrun.old t ht hd with hold | hold
  · exact .inl hold
  exact absurd hd (hnew t hold)

lemma not_drives_of_kind (hdoc : t.document = .recipe doc) (hstart : doc.kind ≠ .recipeStart)
    (hstop : doc.kind ≠ .recipeStop) : ¬ Drives k t := by
  rintro (h | h)
  · exact hstart ((isFor_recipe hdoc).mp h).1
  exact hstop ((isFor_recipe hdoc).mp h).1

lemma not_drives_of_owner (hdoc : t.document = .recipe doc) (howner : doc.ownerId ≠ k) :
    ¬ Drives k t := by
  rintro (h | h) <;> exact howner ((isFor_recipe hdoc).mp h).2

lemma not_drives_other (hdoc : t.document = .other) : ¬ Drives k t := by
  rintro (h | h) <;> exact not_isFor_other hdoc h

/-- What a transaction does to the run `k` and to the groups that drive it. -/
inductive RunEffect (cfg : Config) (l : Label) (k : Uuid) (db db' : Database) : Prop
  | same (row : db'.runs.get? k = db.runs.get? k) (turn : RunTurn k db.queue db'.queue none none)
  | waits (o : GroupOperation RecipePayload) (hl : l = .expiry o.id)
      (ho : db.queue.operations.get? o.id = some o) (row : db'.runs.get? k = db.runs.get? k)
      (turn : RunTurn k db.queue db'.queue (some o.parentJobId) none)
  | routed (task : Task) (hl : l = .session task) (r : RecipeRun) (f : RunStatus → RunStatus)
      (hr : db.runs.get? k = some r) (hroute : Reroutes task k r.toRunStatus (f r.toRunStatus))
      (row : db'.runs.get? k = some { r with toRunStatus := f r.toRunStatus })
      (turn : RunTurn k db.queue db'.queue none none)
  | starts (c : StartCall) (addresses : List Address) (fresh : RunPlan)
      (hl : l = .session (.startPlanned c addresses fresh)) (r : RecipeRun)
      (hnone : db.runs.get? k = none) (row : db'.runs.get? k = some r) (hs : r.state = .starting)
      (hroute : r.routeState = .withdrawn) (hinstallation : r.installationId = c.plan.installationId)
      (t : Ticket JobDocument) (hfor : IsFor .recipeStart k t) (live : Live db'.queue t.id)
      (turn : RunTurn k db.queue db'.queue none (some t))
  | stops (c : StopCall) (digest : Digest) (hl : l = .session (.stopWithdrawn c digest))
      (hid : c.runId = k) (r : RecipeRun) (hr : db.runs.get? k = some r)
      (hs : stoppable r.state = true)
      (row : db'.runs.get? k = some { r with
        toRunStatus := { r.toRunStatus with
          state := .stopping, routeState := .withdrawn, routeError := none } })
      (t : Ticket JobDocument) (hfor : IsFor .recipeStop k t) (live : Live db'.queue t.id)
      (turn : RunTurn k db.queue db'.queue none (some t))
  | runs (t : Ticket JobDocument) (ht : t ∈ tickets db.queue) (hfor : IsFor .recipeStart k t)
      (live : Live db.queue t.id)
      (row : db'.runs.get? k = (db.runs.get? k).map fun r => { r with
        toRunStatus := { r.toRunStatus with
          state := .running, routeState := .pending, routeError := none } })
      (turn : RunTurn k db.queue db'.queue (some t.id) none)
  | cleans (t : Ticket JobDocument) (ht : t ∈ tickets db.queue) (hfor : IsFor .recipeStart k t)
      (live : Live db.queue t.id)
      (row : db'.runs.get? k = (db.runs.get? k).map fun r => { r with
        toRunStatus := { r.toRunStatus with
          state := .stopping, routeState := .withdrawn, routeError := some cleanupQueued } })
      (new : Option (Ticket JobDocument)) (turn : RunTurn k db.queue db'.queue (some t.id) new)
      (hnew : ∀ u ∈ new, IsFor .recipeStop k u ∧ Live db'.queue u.id)
      (hnone : new = none → ∃ u ∈ tickets db.queue, u.requestId = cfg.cleanupKey t.id)
  | ends (t : Ticket JobDocument) (ht : t ∈ tickets db.queue) (hfor : IsFor .recipeStop k t)
      (live : Live db.queue t.id) (failed : Bool)
      (row : db'.runs.get? k = (db.runs.get? k).map fun r => { r with
        toRunStatus := { r.toRunStatus with state := if failed then .failed else .stopped } })
      (turn : RunTurn k db.queue db'.queue (some t.id) none)

section RunEffects

lemma Accepts.forRun (h : Accepts db db'.owners task doc) (hl : l = .session task)
    (hdoc : t.document = .recipe doc) (turn : Turn db.queue db'.queue none (some t))
    (born : Live db'.queue t.id) (k : Uuid) : RunEffect cfg l k db db' := by
  have hother : db'.runs.get? k = db.runs.get? k → ¬ Drives k t → RunEffect cfg l k db db' := by
    intro hrow hd
    refine .same hrow (otherTurn turn (by simp) ?_)
    rintro _ ⟨⟩
    exact hd
  have helse : db'.runs = db.runs → doc.kind ≠ .recipeStart → doc.kind ≠ .recipeStop →
      RunEffect cfg l k db db' := fun hruns hstart hstop =>
    hother (by rw [hruns]) (not_drives_of_kind hdoc hstart hstop)
  cases h with
  | build _ _ _ _ _ _ _ owners | distribute _ _ _ owners | install _ _ _ _ _ _ _ _ _ _ owners
  | retry _ _ _ _ owners | uninstall _ _ owners =>
    exact helse (congrArg Owners.runs owners) AgentOperation.noConfusion AgentOperation.noConfusion
  | start c addresses fresh r rows rs hr hs hroute hplan hinstallation hrows hrs owners =>
    have hruns : db'.runs = rows := congrArg Owners.runs owners
    by_cases hk : r.id = k
    · subst hk
      exact .starts c addresses fresh hl r hr (by rw [hruns, hrows, if_pos rfl]) hs hroute
        hinstallation t ((isFor_recipe hdoc).mpr ⟨rfl, rfl⟩) born (runTurn turn r.id)
    exact hother (by rw [hruns, hrows, if_neg (Ne.symm hk)]) (not_drives_of_owner hdoc hk)
  | stop c digest r hr hs hplan owners =>
    have hruns := congrArg Owners.runs owners
    dsimp only [Database.owners] at hruns
    by_cases hk : c.runId = k
    · subst hk
      refine .stops c digest hl rfl r hr hs ?_ t ((isFor_recipe hdoc).mpr ⟨rfl, rfl⟩) born
        (runTurn turn c.runId)
      rw [hruns, get?_setRun_self, hr]
      rfl
    exact hother (by rw [hruns, get?_setRun_of_ne db (Ne.symm hk)]) (not_drives_of_owner hdoc hk)

lemma Settles.forRun {t : Ticket JobDocument} {doc : RecipeJob} {failed : Bool}
    {new : Option (Ticket JobDocument)} (h : Settles doc failed db db'.owners)
    (ht : t ∈ tickets db.queue) (hdoc : t.document = .recipe doc)
    (live : Live db.queue t.id) (turn : Turn db.queue db'.queue (some t.id) new)
    (hnew : ∀ u ∈ new, doc.kind = .recipeStart ∧ failed = true ∧
      IsFor .recipeStop doc.ownerId u ∧ Live db'.queue u.id)
    (hnone : doc.kind = .recipeStart → failed = true → new = none →
      ∃ u ∈ tickets db.queue, u.requestId = cfg.cleanupKey t.id) (k : Uuid) :
    RunEffect cfg l k db db' := by
  have hsame : ¬ Drives k t → RunTurn k db.queue db'.queue none none := by
    intro hd
    refine otherTurn turn ?_ ?_
    · intro u hu hdu he
      rw [eq_of_ticket_id hu ht (Option.some.inj he)] at hdu
      exact hd hdu
    intro u hu hdu
    obtain ⟨hk, -, hstop, -⟩ := hnew u hu
    -- a new group is the clean-up of the same run
    rcases hdu with hdu | hdu
    · exact absurd (hstop.unique hdu).1 (by decide)
    exact hd (.inl ((isFor_recipe hdoc).mpr ⟨hk, (hstop.unique hdu).2⟩))
  have hidle : db'.runs = db.runs → doc.kind ≠ .recipeStart → doc.kind ≠ .recipeStop →
      RunEffect cfg l k db db' := fun hr hstart hstop =>
    .same (by rw [hr]) (hsame (not_drives_of_kind hdoc hstart hstop))
  have hnewNone : doc.kind ≠ .recipeStart ∨ failed = false → new = none := by
    intro hno
    rcases new with - | u
    · rfl
    obtain ⟨hk, hf, -⟩ := hnew u rfl
    rcases hno with hno | hno
    · exact absurd hk hno
    rw [hf] at hno
    cases hno
  have hrow : ∀ f, db'.runs = (setRun db doc.ownerId f).runs → doc.ownerId = k →
      db'.runs.get? k = (db.runs.get? k).map fun r => { r with toRunStatus := f r.toRunStatus } := by
    rintro f hf rfl
    rw [hf, get?_setRun_self]
  have helse : ∀ f, db'.runs = (setRun db doc.ownerId f).runs → doc.ownerId ≠ k →
      RunEffect cfg l k db db' := by
    intro f hf hk
    refine .same ?_ (hsame (not_drives_of_owner hdoc hk))
    rw [hf, get?_setRun_of_ne db (Ne.symm hk)]
  cases h with
  | build hk _ _ owners | install hk owners | uninstall hk owners =>
    exact hidle (congrArg Owners.runs owners) (by rw [hk]; decide) (by rw [hk]; decide)
  | other hk owners =>
    exact hidle (congrArg Owners.runs owners) (fun h => hk (by simp [h])) (fun h => hk (by simp [h]))
  | start hk hf owners =>
    have hruns := congrArg Owners.runs owners
    dsimp only [Database.owners] at hruns
    by_cases howner : doc.ownerId = k
    · rw [hnewNone (.inr hf)] at turn
      exact .runs t ht ((isFor_recipe hdoc).mpr ⟨hk, howner⟩) live (hrow _ hruns howner)
        (runTurn turn k)
    exact helse _ hruns howner
  | cleanup hk hf owners =>
    have hruns := congrArg Owners.runs owners
    dsimp only [Database.owners] at hruns
    by_cases howner : doc.ownerId = k
    · refine .cleans t ht ((isFor_recipe hdoc).mpr ⟨hk, howner⟩) live (hrow _ hruns howner) new
        (runTurn turn k) (fun u hu => ?_) (hnone hk hf)
      obtain ⟨-, -, hstop, hlive⟩ := hnew u hu
      exact ⟨howner ▸ hstop, hlive⟩
    exact helse _ hruns howner
  | stop hk owners =>
    have hruns := congrArg Owners.runs owners
    dsimp only [Database.owners] at hruns
    by_cases howner : doc.ownerId = k
    · rw [hnewNone (.inl (by rw [hk]; decide))] at turn
      exact .ends t ht ((isFor_recipe hdoc).mpr ⟨hk, howner⟩) live failed (hrow _ hruns howner)
        (runTurn turn k)
    exact helse _ hruns howner

lemma Effect.forRun (h : Effect cfg l db db') (k : Uuid) : RunEffect cfg l k db db' := by
  cases h with
  | idle new hother turn owners =>
    have hruns : db'.runs = db.runs := congrArg Owners.runs owners
    exact .same (by rw [hruns]) (otherTurn turn (by simp) fun u hu => not_drives_other (hother u hu))
  | newBuild b rows hs hb hrows turn owners =>
    have hruns : db'.runs = db.runs := congrArg Owners.runs owners
    exact .same (by rw [hruns]) (runTurn turn k)
  | routed task hl r f hr hroute turn owners =>
    have hruns : db'.runs = (setRun db r.id f).runs := congrArg Owners.runs owners
    by_cases hk : r.id = k
    · subst hk
      refine .routed task hl r f hr hroute ?_ (runTurn turn r.id)
      rw [hruns, get?_setRun_self, hr]
      rfl
    refine .same ?_ (runTurn turn k)
    rw [hruns, get?_setRun_of_ne db (Ne.symm hk)]
  | accepted task hl doc t hdoc turn born accepts => exact accepts.forRun hl hdoc turn born k
  | waits o hl ho turn owners =>
    have hruns : db'.runs = db.runs := congrArg Owners.runs owners
    exact .waits o hl ho (by rw [hruns]) (runTurn turn k)
  | settled t ht doc hdoc o succeeded failed ho hl hfailed live new turn hnew hnone settles =>
    exact settles.forRun ht hdoc live turn hnew hnone k

end RunEffects

end VonkForge.Recipes
