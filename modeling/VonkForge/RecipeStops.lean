import VonkForge.RecipeGroups

/-!
# Stopped runs

A stop takes a run down for good when no group of it is live; a start that is on its way is not
cancelled.
-/

namespace VonkForge.Recipes

open OperationGroups Transactions
open AgentJobs (ResultState)

variable {cfg : Config} {db db' : Database} {q : Queue JobDocument RecipePayload} {r : RecipeRun}
  {s : System} {t : Ticket JobDocument} {k : Uuid}

lemma grouped_run (cfg : Config) (events : List Event) :
    Grouped (run (step cfg) {} events).db.queue := by
  have hempty : Grouped ({} : System).db.queue :=
    ⟨fun o ho => (by cases ho), fun o ho => by cases ho⟩
  exact @run_preserves _ _ _ _ (step cfg) (fun s => Grouped s.db.queue)
    (fun _ _ _ _ hs h => (step_effect h hs).2) {} hempty events

/-- No recipe job is lost or rewritten: later ones come after it.  Once it is not live, it never is
again. -/
theorem recipe_jobs_appended (cfg : Config) (before after : List Event) :
    let q := (run (step cfg) {} before).db.queue
    let q' := (run (step cfg) {} (before ++ after)).db.queue
    tickets q <+: tickets q' ∧ ∀ t ∈ tickets q, Live q' t.id → Live q t.id := by
  intro q q'
  let Inv : System → Prop := fun s => Grouped s.db.queue ∧ tickets q <+: tickets s.db.queue ∧
    ∀ t ∈ tickets q, Live s.db.queue t.id → Live q t.id
  have hstep : ∀ (s : System) (e : Event) (u : System) (out : Option Output), Inv s →
      step cfg s e = .ok (u, out) → Inv u := by
    rintro s e u out ⟨hgrouped, happended, hlive⟩ he
    obtain ⟨heffect, hgrouped'⟩ := step_effect he hgrouped
    obtain ⟨gone, new, hturn⟩ := heffect.turn
    refine ⟨hgrouped', ?_, fun t ht hl => hlive t ht ?_⟩
    · rw [hturn.tickets_eq]
      exact happended.trans (List.prefix_append ..)
    by_cases hgone : some t.id = gone
    · exact absurd hl (hturn.dead _ hgone)
    exact (hturn.live _ hgone fun v hv => hturn.fresh v hv t (happended.subset ht)).mp hl
  have hrun := run_preserves hstep ⟨grouped_run cfg before, List.prefix_rfl, fun _ _ h => h⟩ after
  rw [← run_append] at hrun
  exact hrun.2

def Quiet (q : Queue JobDocument RecipePayload) (k : Uuid) : Prop :=
  ¬ LiveFor q .recipeStart k ∧ ¬ LiveFor q .recipeStop k

instance (q : Queue JobDocument RecipePayload) (k : Uuid) : Decidable (Quiet q k) :=
  inferInstanceAs (Decidable (¬ LiveFor q .recipeStart k ∧ ¬ LiveFor q .recipeStop k))

lemma Quiet.not_live (h : Quiet q k) (ht : t ∈ tickets q) (hd : Drives k t) : ¬ Live q t.id := by
  intro hlive
  rcases hd with hd | hd
  · exact h.1 ⟨t, ht, hd, hlive⟩
  exact h.2 ⟨t, ht, hd, hlive⟩

def Halted (r : RecipeRun) : Prop :=
  (r.state = .stopping ∨ r.state = .stopped ∨ r.state = .failed) ∧ r.routeState = .withdrawn

/-- The run is halted, and nothing but one stop of it, while it is stopping, can still end. -/
structure Down (k : Uuid) (db : Database) (r : RecipeRun) : Prop where
  row : db.runs.get? k = some r
  halted : Halted r
  stops : ∀ t ∈ tickets db.queue, Drives k t → Live db.queue t.id →
    IsFor .recipeStop k t ∧ r.state = .stopping
  unique : ∀ t ∈ tickets db.queue, ∀ u ∈ tickets db.queue, Drives k t → Drives k u →
    Live db.queue t.id → Live db.queue u.id → t = u

section Down

variable {l : Label} {gone : Option Uuid} {new : Option (Ticket JobDocument)} {r' : RecipeRun}

lemma RunTurn.live_before {q' : Queue JobDocument RecipePayload} (h : RunTurn k q q' gone new)
    (ht : t ∈ tickets q') (hd : Drives k t) (hlive : Live q' t.id) :
    (t ∈ tickets q ∧ Live q t.id ∧ some t.id ≠ gone) ∨ new = some t := by
  rcases h.old t ht hd with hold | hnew
  · have hgone : some t.id ≠ gone := fun he => h.dead t hold he hlive
    exact .inl ⟨hold, (h.live t hold hd hgone).mp hlive, hgone⟩
  exact .inr hnew

lemma Down.shrink (h : Down k db r) (turn : RunTurn k db.queue db'.queue gone none)
    (row : db'.runs.get? k = some r') (halted : Halted r')
    (hstate : r'.state = r.state ∨ ∃ t ∈ tickets db.queue, Drives k t ∧ Live db.queue t.id ∧ gone =
      some t.id) :
    Down k db' r' := by
  have hbefore : ∀ t ∈ tickets db'.queue, Drives k t → Live db'.queue t.id →
      t ∈ tickets db.queue ∧ Live db.queue t.id ∧ some t.id ≠ gone := by
    intro t ht hd hlive
    rcases turn.live_before ht hd hlive with hold | hnew
    · exact hold
    cases hnew
  refine ⟨row, halted, fun t ht hd hlive => ?_, fun t ht u hu hdt hdu hlt hlu => ?_⟩
  · obtain ⟨hold, hlive', hgone⟩ := hbefore t ht hd hlive
    obtain ⟨hstop, hstopping⟩ := h.stops t hold hd hlive'
    rcases hstate with hstate | ⟨u, hu, hdu, hlu, rfl⟩
    · exact ⟨hstop, hstate.trans hstopping⟩
    -- the live group is the one that has ended
    rw [h.unique t hold u hu hd hdu hlive' hlu] at hgone
    exact absurd rfl hgone
  obtain ⟨hold, hlive, -⟩ := hbefore t ht hdt hlt
  obtain ⟨hold', hlive', -⟩ := hbefore u hu hdu hlu
  exact h.unique t hold u hold' hdt hdu hlive hlive'

lemma down_of_stop (turn : RunTurn k db.queue db'.queue gone new)
    (hquiet : ∀ u ∈ tickets db.queue, Drives k u → Live db.queue u.id → some u.id = gone)
    (hnew : ∀ t ∈ new, IsFor .recipeStop k t) (row : db'.runs.get? k = some r')
    (hs : r'.state = .stopping) (hroute : r'.routeState = .withdrawn) : Down k db' r' := by
  have honly : ∀ u ∈ tickets db'.queue, Drives k u → Live db'.queue u.id → new = some u := by
    intro u hu hd hlive
    rcases turn.live_before hu hd hlive with ⟨hold, hlive', hgone⟩ | hnew
    · exact absurd (hquiet u hold hd hlive') hgone
    exact hnew
  refine ⟨row, ⟨.inl hs, hroute⟩, fun u hu hd hlive => ?_, fun u hu v hv hdu hdv hlu hlv => ?_⟩
  · exact ⟨hnew u (honly u hu hd hlive), hs⟩
  exact Option.some.inj ((honly u hu hdu hlu).symm.trans (honly v hv hdv hlv))

lemma Down.step (h : Down k db r) (heffect : RunEffect cfg l k db db') :
    ∃ r', Down k db' r' ∧ (r.state = .stopped → r'.state = .stopped) := by
  have hnostart : ∀ t ∈ tickets db.queue, IsFor .recipeStart k t → ¬ Live db.queue t.id := by
    intro t ht hfor hlive
    obtain ⟨hstop, -⟩ := h.stops t ht (.inl hfor) hlive
    exact absurd (hfor.unique hstop).1 (by decide)
  cases heffect with
  | same row turn | waits _ _ _ row turn =>
    exact ⟨r, h.shrink turn (row.trans h.row) h.halted (.inl rfl), id⟩
  | routed _ _ r₀ f hr hroute row turn =>
    rw [h.row] at hr
    cases hr
    obtain ⟨hstate, hroute⟩ := hroute
    have hwithdrawn : (f r.toRunStatus).routeState = .withdrawn := by
      rcases hroute with ⟨hroute, -⟩ | ⟨hrunning, -⟩ | ⟨hpending, -⟩
      · exact hroute
      · rcases h.halted.1 with hs | hs | hs <;> rw [hs] at hrunning <;> cases hrunning
      rw [h.halted.2] at hpending
      cases hpending
    refine ⟨_, h.shrink turn row ⟨?_, hwithdrawn⟩ (.inl hstate), fun hs => hstate.trans hs⟩
    have hs : (f r.toRunStatus).state = r.state := hstate
    simp only [hs]
    exact h.halted.1
  | starts c addresses fresh hl r₀ hnone row =>
    rw [h.row] at hnone
    cases hnone
  | stops c digest hl hid r₀ hr hs row t hfor live turn =>
    rw [h.row] at hr
    cases hr
    -- of the halted states only a failed stop can be stopped again
    have hfailed : r.state = .failed := by
      rcases h.halted.1 with hstate | hstate | hstate
      iterate 2
        · rw [hstate] at hs
          cases hs
      exact hstate
    refine ⟨_, down_of_stop turn (fun u hu hd hlive => ?_) ?_ row rfl rfl, fun hstopped => ?_⟩
    · have hstopping := (h.stops u hu hd hlive).2
      rw [hfailed] at hstopping
      cases hstopping
    · rintro _ ⟨⟩
      exact hfor
    rw [hfailed] at hstopped
    cases hstopped
  | runs t ht hfor live | cleans t ht hfor live => exact absurd live (hnostart t ht hfor)
  | ends t ht hfor live failed row turn =>
    rw [h.row, Option.map_some] at row
    refine ⟨_, h.shrink turn row ⟨?_, h.halted.2⟩ (.inr ⟨t, ht, .inr hfor, live, rfl⟩), fun hs => ?_⟩
    · cases failed
      · exact .inr (.inl rfl)
      exact .inr (.inr rfl)
    have hstopping := (h.stops t ht (.inr hfor) live).2
    rw [hs] at hstopping
    cases hstopping

end Down

def stopCommitted (cfg : Config) (s : System) : Event → Option StopCall
  | .resume id env =>
    match s.tasks.get? id with
    | some ⟨_, _, .stopWithdrawn c digest⟩ =>
      match commitStop cfg env s.db c digest with
      | .ok _ => some c
      | .error _ => none
    | _ => none
  | _ => none

section Accepted

variable {c : StopCall}

lemma stopCommitted_eq_some {e : Event} (h : stopCommitted cfg s e = some c) :
    ∃ id env p digest v db', e = .resume id env ∧ s.tasks.get? id = some p ∧
      p.task = .stopWithdrawn c digest ∧ commitStop cfg env s.db c digest = .ok (v, db') ∧
      commit (step cfg) s e = endTask { s with db := db' } p.id := by
  cases e with
  | resume id env =>
    unfold stopCommitted at h
    simp only at h
    split at h
    · next key request c' digest hp =>
      split at h
      · next committed hcommit =>
        cases h
        obtain ⟨v, db'⟩ := committed
        refine ⟨id, env, _, digest, v, db', rfl, hp, rfl, hcommit, ?_⟩
        have hresume : resume cfg env s.toShared (.stopWithdrawn c digest) =
            .ok ({ s.toShared with db := db' }, .returned (some v)) := by
          simp only [resume, returns, hcommit, ok_bind]
        simp only [commit, step, hp, fetch, ok_bind, resumeCall, hresume]
      cases h
    cases h
  | _ => cases h

lemma down_of_commitStop {env : Env} {digest : Digest} {v : RecipeOperationView}
    (h : commitStop cfg env db c digest = .ok (v, db')) (hquiet : Quiet db.queue c.runId) :
    ∃ r, Down c.runId db' r := by
  have hcommits := commitStop_ok h
  obtain ⟨t, ops, hgroup, -⟩ := hcommits.group
  cases hcommits.accepts with
  | stop _ _ r hr hs hplan owners =>
    have hrow := congrArg (fun o : Owners => o.runs.get? c.runId) owners
    simp only [Database.owners, get?_setRun_self, hr, Option.map_some] at hrow
    refine ⟨_, down_of_stop (runTurn hgroup.toAdded.turn c.runId)
      (fun u hu hd hlive => absurd hlive (hquiet.not_live hu hd)) ?_ hrow rfl rfl⟩
    rintro _ ⟨⟩
    exact (isFor_recipe hgroup.document).mpr ⟨rfl, rfl⟩

lemma Down.run (hgrouped : Grouped s.db.queue) (h : Down k s.db r) (events : List Event) :
    ∃ r', Down k (Transactions.run (VonkForge.Recipes.step cfg) s events).db r' ∧
      (r.state = .stopped → r'.state = .stopped) := by
  refine (@run_preserves _ _ _ _ (VonkForge.Recipes.step cfg) (fun t => Grouped t.db.queue ∧
    ∃ r', Down k t.db r' ∧ (r.state = .stopped → r'.state = .stopped)) ?_ s
    ⟨hgrouped, r, h, id⟩ events).2
  rintro t e u out ⟨hl, r', hdown, hstopped⟩ he
  obtain ⟨heffect, hl'⟩ := step_effect he hl
  obtain ⟨r'', hdown', hstopped'⟩ := hdown.step (heffect.forRun k)
  exact ⟨hl', r'', hdown', fun hs => hstopped' (hstopped hs)⟩

/-- A stop accepted while no group of its run can still end is final: the run never starts again,
its route is never published again, and once stopped it stays so. -/
theorem accepted_stop_final (cfg : Config) (before after later : List Event) (e : Event)
    (c : StopCall) (hstop : stopCommitted cfg (run (step cfg) {} before) e = some c)
    (hquiet : Quiet (run (step cfg) {} before).db.queue c.runId) :
    ∃ r, (run (step cfg) {} (before ++ e :: after)).db.runs.get? c.runId = some r ∧
      r.state ≠ .starting ∧ r.state ≠ .running ∧
      r.routeState ≠ .pending ∧ r.routeState ≠ .published ∧
      (r.state = .stopped →
        ∃ r', (run (step cfg) {} (before ++ e :: after ++ later)).db.runs.get? c.runId = some r' ∧
          r'.state = .stopped) := by
  obtain ⟨id, env, p, digest, v, db', -, -, -, hcommit, hnext⟩ := stopCommitted_eq_some hstop
  obtain ⟨r₀, hdown₀⟩ := down_of_commitStop hcommit hquiet
  have hgrouped : ∀ events, Grouped (run (step cfg) {} events).db.queue := grouped_run cfg
  have hdown₁ : Down c.runId (run (step cfg) {} (before ++ [e])).db r₀ := by
    rw [run_append, run_cons, run_nil, hnext]
    exact hdown₀
  obtain ⟨r, hdown, -⟩ := hdown₁.run (hgrouped _) after
  rw [← run_append, List.append_assoc, List.singleton_append] at hdown
  obtain ⟨r', hdown', hstays⟩ := hdown.run (hgrouped _) later
  rw [← run_append] at hdown'
  obtain ⟨hstate, hroute⟩ := hdown.halted
  refine ⟨r, hdown.row, ?_, ?_, ?_, ?_, fun hs => ⟨r', hdown'.row, hstays hs⟩⟩
  · rcases hstate with hs | hs | hs <;> rw [hs] <;> decide
  · rcases hstate with hs | hs | hs <;> rw [hs] <;> decide
  · rw [hroute]
    decide
  rw [hroute]
  decide

end Accepted

def soloDocument : RecipeDocument where
  profiles := [⟨"solo", 1,
    [⟨"entrypoint", 1, ⟨.unified, 10, 10, 0, 0⟩, ⟨100, 0, 0, 0, 0, 0⟩, []⟩], .none, 0⟩]
  port := 8000
  artifacts := [⟨"weights", "repository"⟩]
  build := ⟨3, "Dockerfile", false, 10, 10⟩

def soloConfig : Config where
  runDigest p := p.installationId
  installDigest p := p.recipeBuildId
  buildDigest p := p.sourceBundleSha256
  distributionDigest p := p.buildId
  evidenceDigest e := e.rank
  cleanupKey id := id + 1000
  memoryFloorBytes := 0
  diskFloorBytes := 0

def soloWorld : World where
  revisions := .single ⟨1, .resolved, some 5, soloDocument⟩
  mappings := .single ⟨2, 1, "solo", 1, .ready⟩
  mappingNodes := [⟨2, 1, 0, "entrypoint", true⟩]
  snapshots := [⟨1, 0, 1000, 1000, 1000, false, [.runtimeVonkV1, .recipeBuildV1], none, none⟩]
  presences := .single ⟨1, 7⟩
  sourceBundles := [3]

def soloNodes : Table AgentNode := .single
  { nodeId := 1, agentImplementation := .rust, migrationState := .complete
    capabilities := [.recipeBuild, .recipeInstall, .recipeStart, .recipeStop, .recipeUninstall].map
      .operation }

def drawn (n : ℕ) : Env :=
  { now := 0, ownerId := n, jobId := 100 + n, operationIds := fun _ => 200 + n }

def calls (n : ℕ) (request : Request) (sessions : ℕ) : List Event :=
  .call n request :: List.replicate sessions (.resume n (drawn n))

def finishes (n : ℕ) (state : ResultState) (evidence : Evidence) : List Event :=
  [.claim (200 + n), .result (200 + n) state evidence (drawn (50 + n))]

def soloBuild : BuildCall := ⟨⟨10, 1, 3, ⟨10, 1, 5, 3, 0, 3, "Dockerfile", 10, 10, 100⟩⟩, 3, 21⟩

def soloInstall : InstallCall where
  plan := ⟨⟨2, 1, 10, 6, 1, 5,
    [⟨1, 0, "entrypoint", true, some 0, some 1000, 0, 100, 0, 0, 0, some 1000, []⟩]⟩, true, 10⟩
  planDigest := 10
  requestId := 22

def soloStart : StartCall where
  plan := ⟨⟨12, 2, 1, 1, [⟨1, 0, "entrypoint", true, 8000, true, some 0, .unified, 10, some 1000, 0,
    some 990, 0, none, none, none, []⟩]⟩, true, 12⟩
  planDigest := 12
  aliasName := "chat"
  requestId := 23

def soloReady : Evidence :=
  .start ⟨1, 5, 6, 0, some "repository", 0, 1, ⟨7, 8000⟩, 10, true⟩ 0

def soloBuilt : List Event :=
  [.observe soloWorld soloNodes, .previewBuild (drawn 10) 1 1] ++ calls 11 (.build soloBuild) 3 ++
    finishes 11 .succeeded (.build ⟨3, 100, 6, 9, (true, "Dockerfile")⟩)

def soloInstalled : List Event :=
  soloBuilt ++ calls 12 (.install soloInstall) 3 ++ finishes 12 .succeeded (.install 0)

def soloStarting : List Event := soloInstalled ++ calls 13 (.start soloStart) 3

def soloRunning : List Event := soloStarting ++ finishes 13 .succeeded soloReady

def soloStop : List Event := calls 14 (.stop ⟨13, 24⟩) 6

def statusOf (s : System) (k : Uuid) : Option (RunState × RouteState) :=
  (s.db.runs.get? k).map fun r => (r.state, r.routeState)

theorem running_stop_final :
    ∃ r, (run (step soloConfig) {} (soloRunning ++ soloStop ++ .resume 14 (drawn 14) ::
        finishes 14 .succeeded (.other none))).db.runs.get? 13 = some r ∧
      r.state ≠ .starting ∧ r.state ≠ .running ∧
      r.routeState ≠ .pending ∧ r.routeState ≠ .published ∧
      (r.state = .stopped →
        ∃ r', (run (step soloConfig) {} (soloRunning ++ soloStop ++ .resume 14 (drawn 14) ::
            finishes 14 .succeeded (.other none) ++ [])).db.runs.get? 13 = some r' ∧
          r'.state = .stopped) :=
  accepted_stop_final soloConfig (soloRunning ++ soloStop) (finishes 14 .succeeded (.other none)) []
    (.resume 14 (drawn 14)) ⟨13, 24⟩ (by decide +kernel) (by decide +kernel)

/-- The stop is accepted while the start waits for its agent; the run is live again when the agent
reports. -/
theorem start_overtakes_stop :
    stopCommitted soloConfig (run (step soloConfig) {} (soloStarting ++ soloStop))
      (.resume 14 (drawn 14)) = some ⟨13, 24⟩ ∧
    statusOf (run (step soloConfig) {} (soloStarting ++ soloStop ++ .resume 14 (drawn 14) ::
      finishes 13 .succeeded soloReady)) 13 = some (.running, .pending) := by
  decide +kernel

end VonkForge.Recipes
