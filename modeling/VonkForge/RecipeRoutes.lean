import VonkForge.RecipeStops

/-!
# The routes of recipe runs

Publishing and withdrawing a run both compute the bundle of all running runs, so each fails when
any of them fails a check.
-/

namespace VonkForge.Recipes

open OperationGroups Transactions Table
open AgentJobs (ResultState)

variable {cfg : Config} {db : Database} {digest : Digest} {env : Env} {e : Event}
  {routes : List Route} {out : Option Output} {exclude : Option Uuid} {r : RecipeRun} {s : Shared}
  {c : StopCall} {σ τ : System} {task : Task} {now : Time} {k key : Uuid}

/-! ### Candidates -/

structure RoutableAt (cfg : Config) (now : Time) (db : Database) (r : RecipeRun)
    (endpoint : Endpoint) : Prop where
  aliasName : validAlias r.aliasName = true
  running : runRanks db r.id ≠ [] ∧ ∀ n ∈ runRanks db r.id, n.state = .running
  ranks : r.ranks = (runRanks db r.id).length
  fresh : ∀ n ∈ runRanks db r.id, (n.updatedAt ≤ now ∧ now - n.updatedAt ≤ seconds cfg.maximumAge) ∧
    n.evidenceDigest.isSome = true
  entrypoint : ∃ n, (runRanks db r.id).filter (fun n => n.role = "entrypoint") = [n] ∧ n.rank = 0 ∧
    n.endpoint = some endpoint ∧ endpoint.port = n.port ∧ cfg.routable endpoint.address = true

def Routable (cfg : Config) (now : Time) (db : Database) (r : RecipeRun) : Prop :=
  ∃ endpoint, RoutableAt cfg now db r endpoint

section Candidates

variable {x : Route}

lemma routeEndpoint_ok {n : RunNode} {endpoint : Endpoint} :
    routeEndpoint cfg n = .ok endpoint ↔ n.endpoint = some endpoint ∧ endpoint.port = n.port ∧
      cfg.routable endpoint.address = true := by
  unfold routeEndpoint
  simp only [fetch_bind_ok, require_bind_ok, Except.ok.injEq]
  constructor
  · rintro ⟨e, he, hpolicy, rfl⟩
    exact ⟨he, hpolicy⟩
  rintro ⟨he, hpolicy⟩
  exact ⟨endpoint, he, hpolicy, rfl⟩

lemma routeOf_ok : routeOf cfg now db routes r = .ok x ↔ r.aliasName ∉ routes.map (·.aliasName) ∧
    ∃ endpoint, RoutableAt cfg now db r endpoint ∧ x = ⟨r.aliasName, r.id, endpoint⟩ := by
  constructor
  · intro h
    unfold routeOf at h
    simp only [require_bind_ok] at h
    obtain ⟨⟨halias, hunique⟩, hrunning, hranks, h⟩ := h
    split at h
    · next n hone =>
      rw [ok_bind, require_bind_ok] at h
      obtain ⟨hzero, h⟩ := h
      obtain ⟨u, hfresh, endpoint, hendpoint, h⟩ := of_bind_ok₂ h
      cases h
      rw [routeEndpoint_ok] at hendpoint
      rw [forM_ok_iff] at hfresh
      simp only [require_bind_ok, require_ok] at hfresh
      exact ⟨hunique, endpoint, ⟨halias, hrunning, hranks, hfresh, n, hone, hzero, hendpoint⟩, rfl⟩
    cases h
  rintro ⟨hunique, endpoint, h, rfl⟩
  obtain ⟨n, hone, hzero, hendpoint⟩ := h.entrypoint
  have hfresh : ((runRanks db r.id).forM fun n => do
      require (n.updatedAt ≤ now ∧ now - n.updatedAt ≤ seconds cfg.maximumAge)
        (RecipeError.route "recipe rank readiness evidence is stale")
      require (n.evidenceDigest.isSome = true)
        (.route "recipe rank readiness identity is invalid")) = .ok () := by
    rw [forM_ok_iff]
    simpa only [require_bind_ok, require_ok] using h.fresh
  unfold routeOf
  simp only [require_bind_ok, hone, ok_bind, hfresh, routeEndpoint_ok.mpr hendpoint]
  exact ⟨⟨h.aliasName, hunique⟩, h.running, h.ranks, hzero, trivial⟩

lemma entries_ok {runs : List RecipeRun} {out : List Route}
    (h : runs.foldlM (fun routes r => do
      let route ← routeOf cfg now db routes r
      .ok (routes ++ [route])) routes = .ok out) :
    ∃ new, out = routes ++ new ∧
      new.map (fun x => (x.runId, x.aliasName)) = runs.map fun r => (r.id, r.aliasName) := by
  induction runs generalizing routes with
  | nil =>
    cases h
    exact ⟨[], (List.append_nil _).symm, rfl⟩
  | cons r runs ih =>
    obtain ⟨routes₁, h₁, h⟩ := of_bind_ok h
    obtain ⟨x, hx, h₁⟩ := of_bind_ok h₁
    cases h₁
    obtain ⟨-, endpoint, -, rfl⟩ := routeOf_ok.mp hx
    obtain ⟨new, rfl, hnew⟩ := ih h
    exact ⟨_ :: new, by rw [List.append_assoc, List.singleton_append], by simp [hnew]⟩

lemma entries_iff {runs : List RecipeRun} :
    (∃ out, runs.foldlM (fun routes r => do
      let route ← routeOf cfg now db routes r
      .ok (routes ++ [route])) routes = .ok out) ↔
    (∀ r ∈ runs, Routable cfg now db r) ∧ (runs.map (·.aliasName)).Nodup ∧
      ∀ r ∈ runs, r.aliasName ∉ routes.map (·.aliasName) := by
  induction runs generalizing routes with
  | nil => exact ⟨fun _ => ⟨by simp, List.nodup_nil, by simp⟩, fun _ => ⟨routes, rfl⟩⟩
  | cons r runs ih =>
    rw [List.foldlM_cons]
    constructor
    · rintro ⟨out, h⟩
      obtain ⟨routes₁, h₁, h⟩ := of_bind_ok h
      obtain ⟨x, hx, h₁⟩ := of_bind_ok h₁
      cases h₁
      obtain ⟨hunique, endpoint, hroutable, rfl⟩ := routeOf_ok.mp hx
      obtain ⟨hall, hnodup, hdisjoint⟩ := ih.mp ⟨out, h⟩
      simp only [List.map_append, List.map_cons, List.map_nil, List.mem_append, List.mem_singleton,
        not_or] at hdisjoint
      refine ⟨List.forall_mem_cons.mpr ⟨⟨endpoint, hroutable⟩, hall⟩, ?_,
        List.forall_mem_cons.mpr ⟨hunique, fun t ht => (hdisjoint t ht).1⟩⟩
      rw [List.map_cons, List.nodup_cons]
      refine ⟨fun hmem => ?_, hnodup⟩
      obtain ⟨t, ht, he⟩ := List.mem_map.mp hmem
      exact (hdisjoint t ht).2 he
    rintro ⟨hall, hnodup, hdisjoint⟩
    obtain ⟨⟨endpoint, hroutable⟩, hall⟩ := List.forall_mem_cons.mp hall
    obtain ⟨hunique, hdisjoint⟩ := List.forall_mem_cons.mp hdisjoint
    rw [List.map_cons, List.nodup_cons] at hnodup
    have hx := routeOf_ok.mpr ⟨hunique, endpoint, hroutable, rfl⟩
    rw [hx]
    refine ih.mpr ⟨hall, hnodup.2, fun t ht => ?_⟩
    simp only [List.map_append, List.map_cons, List.map_nil, List.mem_append, List.mem_singleton,
      not_or]
    exact ⟨hdisjoint t ht, fun he => hnodup.1 (List.mem_map.mpr ⟨t, ht, he⟩)⟩

lemma nodup_routedRuns : (routedRuns db exclude).Nodup := by
  have hrows : db.runs.rows.Nodup := List.Nodup.of_map _ db.runs.nodup_keys
  exact ((List.perm_insertionSort _ _).nodup_iff.mpr (hrows.filter _)).filter _

lemma candidate_ok_iff : (∃ out, candidate cfg now db exclude = .ok out) ↔
    ∀ r ∈ routedRuns db exclude, Routable cfg now db r ∧
      ∀ t ∈ routedRuns db exclude, t.aliasName = r.aliasName → t = r := by
  unfold candidate
  rw [entries_iff, List.nodup_map_iff_inj_on nodup_routedRuns]
  constructor
  · rintro ⟨hall, hinj, -⟩ r hr
    exact ⟨hall r hr, fun t ht he => hinj t ht r hr he⟩
  intro h
  exact ⟨fun r hr => (h r hr).1, fun t ht r hr he => (h r hr).2 t ht he, by simp⟩

lemma mem_routedRuns : r ∈ routedRuns db exclude ↔
    r ∈ db.runs.rows ∧ r.state = .running ∧ some r.id ≠ exclude := by
  unfold routedRuns
  simp [and_assoc]

lemma mem_candidate (h : candidate cfg now db exclude = .ok routes) :
    (∃ x ∈ routes, x.runId = k) ↔
      ∃ r, db.runs.get? k = some r ∧ r.state = .running ∧ some k ≠ exclude := by
  obtain ⟨new, hroutes, hnew⟩ := entries_ok h
  subst hroutes
  have hids : routes.map (·.runId) = (routedRuns db exclude).map (·.id) := by
    simpa [Function.comp_def] using congrArg (List.map Prod.fst) hnew
  have hmem : (∃ x ∈ routes, x.runId = k) ↔ k ∈ (routedRuns db exclude).map (·.id) := by
    rw [← hids, List.mem_map]
  rw [hmem, List.mem_map]
  constructor
  · rintro ⟨r, hr, rfl⟩
    obtain ⟨hrow, hrunning, hne⟩ := mem_routedRuns.mp hr
    exact ⟨r, get?_of_mem hrow, hrunning, hne⟩
  rintro ⟨r, hr, hrunning, hne⟩
  have hid : r.id = k := get?_key hr
  exact ⟨r, mem_routedRuns.mpr ⟨mem_of_get? hr, hrunning, hid ▸ hne⟩, hid⟩

end Candidates

section

variable (cfg : Config) (env : Env) (s : Shared) (id : Uuid)

/-! ### Calls of the route service -/

def serve (cfg : Config) (env : Env) :
    ℕ → Shared → Task → Except RecipeError (Shared × Option RecipeOperationView)
  | 0, _, _ => .error .assertion
  | n + 1, s, task => do
    let (s, progress) ← resume cfg env s task
    match progress with
    | .next task => serve cfg env n s task
    | .returned v => .ok (s, v)

def withdrawRun :=
  serve cfg env 4 s (.begin (.withdraw id))

def publishRun :=
  serve cfg env 4 s (.begin (.publish id))

def stopRun (c : StopCall) :=
  serve cfg env 7 s (.begin (.stop c))

def withdrawn (routes : List Route) : Shared :=
  ⟨setRun s.db id (recordRoute .withdrawn (s.generation + 1)), routes, s.generation + 1⟩

end

section Calls

variable {n : ℕ}

lemma serve_reads {x : Except RecipeError Progress} (h : resume cfg env s task = reads s x) :
    serve cfg env (n + 1) s task = x >>= fun progress =>
      match progress with
      | .next task => serve cfg env n s task
      | .returned v => .ok (s, v) := by
  simp only [serve, h, reads]
  cases x <;> rfl

section

variable (hpublish : env.publishError = none) (hr : s.db.runs.get? r.id = some r)

include hpublish hr

lemma serve_withdrawReady (stop : Stopping) :
    serve cfg env (n + 3) s (.withdrawReady r.id stop) =
      candidate cfg env.now s.db (some r.id) >>= fun routes =>
        match stop with
        | some (c, digest) => serve cfg env n (withdrawn s r.id routes) (.stopWithdrawn c digest)
        | none => .ok (withdrawn s r.id routes, none) := by
  rw [serve_reads rfl]
  cases hc : candidate cfg env.now s.db (some r.id) with
  | error => rfl
  | ok routes =>
    have hactivate : activate env s routes =
        .ok { s with bundle := routes, generation := s.generation + 1 } := by
      simp only [activate, hpublish]
    have hrecord : recordWithdraw s.db r.id (s.generation + 1) =
        .ok (setRun s.db r.id (recordRoute .withdrawn (s.generation + 1))) := by
      simp only [recordWithdraw, hr, fetch, ok_bind]
    cases stop <;> simp only [ok_bind, serve, resume, hactivate, hrecord, withdrawn]

lemma withdrawRun_eq :
    withdrawRun cfg env s r.id = candidate cfg env.now s.db (some r.id) >>= fun routes =>
      .ok (withdrawn s r.id routes, none) := by
  unfold withdrawRun
  rw [serve_reads rfl]
  simp only [hr, fetch, ok_bind]
  exact serve_withdrawReady hpublish hr none

lemma stopRun_eq (hs : stoppable r.state = true) (hkey : bound s.db key = none) :
    stopRun cfg env s ⟨r.id, key⟩ = candidate cfg env.now s.db (some r.id) >>= fun routes =>
      serve cfg env 1 (withdrawn s r.id routes) (.stopWithdrawn ⟨r.id, key⟩ r.planDigest) := by
  unfold stopRun
  rw [serve_reads rfl]
  simp only [replay, idempotent, hkey, ok_bind]
  rw [serve_reads rfl]
  simp only [checkStop, hr, fetch, ok_bind, require, if_pos hs]
  rw [serve_reads rfl]
  simp only [hr, fetch, ok_bind]
  exact serve_withdrawReady hpublish hr (some (⟨r.id, key⟩, r.planDigest))

end

lemma publishRun_eq (hr : s.db.runs.get? r.id = some r) (hs : r.state = .running) :
    publishRun cfg env s r.id = candidate cfg env.now s.db none >>= fun routes =>
      match env.publishError with
      | some text => .error (.os text)
      | none => .ok (⟨setRun s.db r.id (recordRoute .published (s.generation + 1)), routes,
          s.generation + 1⟩, none) := by
  unfold publishRun
  rw [serve_reads rfl]
  simp only [checkPublish, hr, fetch, ok_bind, require, if_pos hs]
  rw [serve_reads rfl]
  unfold computePublish
  cases hc : candidate cfg env.now s.db none with
  | error => rfl
  | ok routes =>
    have hmem : r.id ∈ routes.map (·.runId) :=
      List.mem_map.mpr ((mem_candidate hc).mpr ⟨r, hr, hs, by simp⟩)
    have hrecord : recordPublish s.db r.id (s.generation + 1) =
        .ok (setRun s.db r.id (recordRoute .published (s.generation + 1))) := by
      simp only [recordPublish, hr, fetch, ok_bind, require, if_pos hs]
    simp only [ok_bind, require, if_pos hmem, serve, resume, activate]
    cases env.publishError with
    | some => rfl
    | none => simp only [ok_bind, hrecord]

end Calls

section Errors

variable {e : RecipeError}

lemma routeOf_error (h : routeOf cfg now db routes r = .error e) : ∃ text, e = .route text := by
  iterate 3
    rcases of_bind_error h with h | ⟨u, -, h⟩
    · exact ⟨_, eq_of_require_error h⟩
  split at h
  · rw [ok_bind] at h
    rcases of_bind_error h with h | ⟨u, -, h⟩
    · exact ⟨_, eq_of_require_error h⟩
    rcases of_bind_error h with h | ⟨u, -, h⟩
    · obtain ⟨n, -, h⟩ := forM_error h
      rcases of_bind_error h with h | ⟨u, -, h⟩ <;> exact ⟨_, eq_of_require_error h⟩
    rcases of_bind_error h with h | ⟨u, -, h⟩
    · rcases of_bind_error h with h | ⟨u, -, h⟩
      · exact ⟨_, eq_of_fetch_error h⟩
      rcases of_bind_error h with h | ⟨u, -, h⟩
      · exact ⟨_, eq_of_require_error h⟩
      cases h
    cases h
  cases h
  exact ⟨_, rfl⟩

lemma candidate_error (h : candidate cfg now db exclude = .error e) : ∃ text, e = .route text := by
  obtain ⟨routes, r, -, h⟩ := foldlM_error h
  rcases of_bind_error h with h | ⟨x, -, h⟩
  · exact routeOf_error h
  cases h

lemma queueResult_error {α : Type} {x : Except AgentJobs.JobError α}
    (h : queueResult x = .error e) : ∃ error, e = .queue error := by
  cases x with
  | ok => cases h
  | error error =>
    cases h
    exact ⟨error, rfl⟩

lemma commitStop_error {text : String} : commitStop cfg env db c digest ≠ .error (.route text) := by
  intro h
  rcases of_bind_error h with h | ⟨r, -, h⟩
  · rcases of_bind_error h with h | ⟨r, -, h⟩
    · cases eq_of_fetch_error h
    rcases of_bind_error h with h | ⟨u, -, h⟩
    · cases eq_of_require_error h
    cases h
  iterate 3
    rcases of_bind_error h with h | ⟨u, -, h⟩
    · cases eq_of_require_error h
  rcases of_bind_error h with h | ⟨q, -, h⟩
  · obtain ⟨error, he⟩ := queueResult_error h
    cases he
  rcases of_bind_error h with h | ⟨q, -, h⟩
  · obtain ⟨q, target, -, h⟩ := foldlM_error h
    obtain ⟨error, he⟩ := queueResult_error h
    cases he
  cases h

end Errors

/-! ### Isolation -/

/-- Every running run but one passes its checks, under an alias that no other of them has. -/
def OthersRoutable (cfg : Config) (now : Time) (db : Database) (id : Uuid) : Prop :=
  ∀ r ∈ db.runs.rows, r.state = .running → r.id ≠ id → Routable cfg now db r ∧
    ∀ t ∈ db.runs.rows, t.state = .running → t.id ≠ id → t.aliasName = r.aliasName → t = r

def AliasFree (db : Database) (r : RecipeRun) : Prop :=
  ∀ t ∈ db.runs.rows, t.state = .running → t.id ≠ r.id → t.aliasName ≠ r.aliasName

section Isolation

lemma candidate_without_iff {id : Uuid} :
    (∃ routes, candidate cfg now db (some id) = .ok routes) ↔ OthersRoutable cfg now db id := by
  have hmem : ∀ t, t ∈ routedRuns db (some id) ↔ t ∈ db.runs.rows ∧ t.state = .running ∧ t.id ≠ id := by
    intro t
    rw [mem_routedRuns]
    simp
  rw [candidate_ok_iff]
  simp only [hmem]
  constructor
  · intro h t ht hs hne
    obtain ⟨hroutable, hinj⟩ := h t ⟨ht, hs, hne⟩
    exact ⟨hroutable, fun u hu hsu hneu => hinj u ⟨hu, hsu, hneu⟩⟩
  rintro h t ⟨ht, hs, hne⟩
  obtain ⟨hroutable, hinj⟩ := h t ht hs hne
  exact ⟨hroutable, fun u ⟨hu, hsu, hneu⟩ => hinj u hu hsu hneu⟩

lemma candidate_with_iff (hr : db.runs.get? r.id = some r) (hs : r.state = .running)
    (hroutable : Routable cfg now db r) :
    (∃ routes, candidate cfg now db none = .ok routes) ↔
      OthersRoutable cfg now db r.id ∧ AliasFree db r := by
  have hmem : ∀ t, t ∈ routedRuns db none ↔ t ∈ db.runs.rows ∧ t.state = .running := by
    intro t
    rw [mem_routedRuns]
    simp
  have hrow : r ∈ db.runs.rows := mem_of_get? hr
  rw [candidate_ok_iff]
  simp only [hmem]
  constructor
  · intro h
    refine ⟨fun t ht hst hne => ?_, fun t ht hst hne he => ?_⟩
    · obtain ⟨hroutable', hinj⟩ := h t ⟨ht, hst⟩
      exact ⟨hroutable', fun u hu hsu _ => hinj u ⟨hu, hsu⟩⟩
    exact hne (congrArg RecipeRun.id ((h r ⟨hrow, hs⟩).2 t ⟨ht, hst⟩ he))
  rintro ⟨hothers, hfree⟩ t ⟨ht, hst⟩
  by_cases hid : t.id = r.id
  · obtain rfl : t = r := eq_of_key ht hrow hid
    refine ⟨hroutable, fun u ⟨hu, hsu⟩ he => ?_⟩
    by_contra hne
    exact hfree u hu hsu (fun hid => hne (eq_of_key hu hrow hid)) he
  obtain ⟨hroutable', hinj⟩ := hothers t ht hst hid
  refine ⟨hroutable', fun u ⟨hu, hsu⟩ he => ?_⟩
  by_cases hidu : u.id = r.id
  · obtain rfl : u = r := eq_of_key hu hrow hidu
    exact absurd he.symm (hfree t ht hst hid)
  exact hinj u hu hsu hidu he

lemma bind_ok_iff {α β : Type} {x : Except RecipeError α} {f : α → β} :
    (∃ b, (x >>= fun a => .ok (f a)) = .ok b) ↔ ∃ a, x = .ok a := by
  cases x with
  | ok a => exact ⟨fun _ => ⟨a, rfl⟩, fun _ => ⟨f a, rfl⟩⟩
  | error => exact ⟨fun ⟨_, h⟩ => (by cases h), fun ⟨_, h⟩ => (by cases h)⟩

lemma stopRun_blocked_iff (hpublish : env.publishError = none) (hr : s.db.runs.get? r.id = some r)
    (hs : stoppable r.state = true) (hkey : bound s.db key = none) :
    (∃ text, stopRun cfg env s ⟨r.id, key⟩ = .error (.route text)) ↔
      ¬ ∃ routes, candidate cfg env.now s.db (some r.id) = .ok routes := by
  rw [stopRun_eq hpublish hr hs hkey]
  cases hc : candidate cfg env.now s.db (some r.id) with
  | error =>
    obtain ⟨text, rfl⟩ := candidate_error hc
    exact ⟨fun _ ⟨_, h⟩ => (by cases h), fun _ => ⟨text, rfl⟩⟩
  | ok routes =>
    refine ⟨?_, fun h => absurd ⟨routes, rfl⟩ h⟩
    rintro ⟨text, h⟩
    simp only [ok_bind, serve, resume, returns] at h
    rcases of_bind_error h with h | ⟨⟨s', progress⟩, h', h⟩
    · rcases of_bind_error h with h | ⟨x, -, h⟩
      · exact absurd h commitStop_error
      cases h
    obtain ⟨x, -, h'⟩ := of_bind_ok h'
    cases h'
    cases h

/-- A run can be withdrawn, stopped and published by its own checks exactly when every other running
run passes its checks. -/
theorem route_isolation_iff (cfg : Config) (env : Env) (s : Shared) (r : RecipeRun)
    (hpublish : env.publishError = none) (hr : s.db.runs.get? r.id = some r) :
    ((∃ out, withdrawRun cfg env s r.id = .ok out) ↔ OthersRoutable cfg env.now s.db r.id) ∧
    (∀ key, stoppable r.state = true → bound s.db key = none →
      ((∀ text, stopRun cfg env s ⟨r.id, key⟩ ≠ .error (.route text)) ↔
        OthersRoutable cfg env.now s.db r.id)) ∧
    (r.state = .running → Routable cfg env.now s.db r →
      ((∃ out, publishRun cfg env s r.id = .ok out) ↔
        OthersRoutable cfg env.now s.db r.id ∧ AliasFree s.db r)) := by
  refine ⟨?_, fun key hs hkey => ?_, fun hs hroutable => ?_⟩
  · rw [withdrawRun_eq hpublish hr, bind_ok_iff, candidate_without_iff]
  · rw [← not_exists, stopRun_blocked_iff hpublish hr hs hkey, not_not, candidate_without_iff]
  simp only [publishRun_eq hr hs, hpublish]
  rw [bind_ok_iff, candidate_with_iff hr hs hroutable]

end Isolation

def chatRun : RecipeRun := ⟨⟨.running, .published, some 1, none⟩, 1, 12, 2, 1, "chat", 12, 1, 0⟩

def codeRun : RecipeRun :=
  ⟨⟨.running, .pending, none, none⟩, 2, 14, 2, 1, "code", 14, 1, seconds 301⟩

/-- A published run whose evidence is from the given time, beside one that was started later. -/
def twoRuns (evidence : Time) : Shared where
  db := {
    runs := ⟨[chatRun, codeRun], by decide⟩
    runNodes := ⟨[⟨1, 1, 0, "entrypoint", .running, 8000, 10, some ⟨7, 8000⟩, some 0, evidence⟩,
        ⟨2, 2, 0, "entrypoint", .running, 8000, 10, some ⟨8, 8000⟩, some 0, seconds 301⟩], by
      show [((1 : Uuid), (1 : NodeId)), (2, 2)].Nodup
      decide⟩ }

/-- While the evidence of the published run is fresh, the other one is withdrawn, stopped and
published. -/
theorem fresh_evidence_isolates :
    (∃ out, withdrawRun soloConfig { now := seconds 301 } (twoRuns (seconds 200)) 2 = .ok out) ∧
    (∀ text, stopRun soloConfig { now := seconds 301 } (twoRuns (seconds 200)) ⟨2, 9⟩ ≠
      .error (.route text)) ∧
    ∃ out, publishRun soloConfig { now := seconds 301 } (twoRuns (seconds 200)) 2 = .ok out := by
  obtain ⟨hwithdraw, hstop, hpublish⟩ := route_isolation_iff soloConfig { now := seconds 301 }
    (twoRuns (seconds 200)) codeRun rfl (by decide +kernel)
  have hchat : Routable soloConfig (seconds 301) (twoRuns (seconds 200)).db chatRun :=
    ⟨⟨7, 8000⟩, by decide, by decide, by decide, by decide, _, rfl, rfl, rfl, rfl, rfl⟩
  have hcode : Routable soloConfig (seconds 301) (twoRuns (seconds 200)).db codeRun :=
    ⟨⟨8, 8000⟩, by decide, by decide, by decide, by decide, _, rfl, rfl, rfl, rfl, rfl⟩
  have hothers : OthersRoutable soloConfig (seconds 301) (twoRuns (seconds 200)).db 2 := by
    intro r hr _ hne
    have honly : ∀ r ∈ (twoRuns (seconds 200)).db.runs.rows, r.id ≠ 2 → r = chatRun := by decide
    rw [honly r hr hne]
    exact ⟨hchat, fun t ht _ hid _ => honly t ht hid⟩
  have hfree : AliasFree (twoRuns (seconds 200)).db codeRun := by
    unfold AliasFree
    decide
  exact ⟨hwithdraw.mpr hothers, (hstop 9 rfl (by decide +kernel)).mpr hothers,
    (hpublish rfl hcode).mpr ⟨hothers, hfree⟩⟩

def failure {α : Type} : Except RecipeError α → Option RecipeError
  | .ok _ => none
  | .error e => some e

/-- The age of the evidence of run 1 keeps run 2 from being published, withdrawn and stopped. -/
theorem aged_evidence_blocks_others :
    let stale : RecipeError := .route "recipe rank readiness evidence is stale"
    failure (publishRun soloConfig { now := seconds 301 } (twoRuns 0) 2) = some stale ∧
    failure (withdrawRun soloConfig { now := seconds 301 } (twoRuns 0) 2) = some stale ∧
    failure (stopRun soloConfig { now := seconds 301 } (twoRuns 0) ⟨2, 9⟩) = some stale := by
  decide +kernel

/-! ### Activations and stops -/

/-- Neither the live bundle has an entry of the run, nor one that a call has computed. -/
def Absent (k : Uuid) (s : System) : Prop :=
  (∀ x ∈ s.bundle, x.runId ≠ k) ∧ ∀ p ∈ s.tasks.rows, ∀ x ∈ held p.task, x.runId ≠ k

instance (k : Uuid) (s : System) : Decidable (Absent k s) :=
  inferInstanceAs (Decidable ((∀ x ∈ s.bundle, x.runId ≠ k) ∧
    ∀ p ∈ s.tasks.rows, ∀ x ∈ held p.task, x.runId ≠ k))

section Activations

lemma Session.bundle {s' : Shared} {p : Progress} (h : Session cfg env s task s' p) :
    s'.bundle = s.bundle ∧ s'.generation = s.generation ∨
      s'.bundle = held task ∧ s'.generation = s.generation + 1 := by
  cases h with
  | activates => exact .inr ⟨rfl, rfl⟩
  | goesOn | ends | answers | records => exact .inl ⟨rfl, rfl⟩

lemma step_bundle (h : step cfg σ e = .ok (τ, out)) :
    τ.bundle = σ.bundle ∧ τ.generation = σ.generation ∨
      τ.generation = σ.generation + 1 ∧ ∃ p ∈ σ.tasks.rows, τ.bundle = held p.task := by
  cases e with
  | resume =>
    obtain ⟨p, hp, hserved⟩ := resume_served h
    cases hserved with
    | next _ hsession | returned _ _ hsession =>
      exact hsession.bundle.imp_right fun hb => ⟨hb.2, p, mem_of_get? hp, hb.1⟩
    | handled task _ _ tasks | failed e _ tasks =>
      rw [tasks]
      exact .inl ⟨rfl, rfl⟩
  | vanish id | observe world nodes =>
    cases h
    exact .inl ⟨rfl, rfl⟩
  | _ =>
    obtain ⟨x, -, h⟩ := of_bind_ok h
    cases h
    exact .inl ⟨rfl, rfl⟩

lemma Absent.step (h : Absent k σ) (hstep : VonkForge.Recipes.step cfg σ e = .ok (τ, out))
    (hdown : ∀ r, τ.db.runs.get? k = some r → r.state ≠ .running) : Absent k τ := by
  refine ⟨fun x hx => ?_, fun p hp x hx => ?_⟩
  · rcases step_bundle hstep with ⟨hb, -⟩ | ⟨-, p, hp, hb⟩
    · exact h.1 x (hb ▸ hx)
    exact h.2 p hp x (hb ▸ hx)
  rcases step_tasks hstep hp with hbegin | hold | ⟨p', hp', -, -, now, hnext⟩
  · rw [hbegin] at hx
    cases hx
  · exact h.2 p hold x hx
  rcases hnext.held with hnone | ⟨exclude, hc⟩
  · rw [hnone] at hx
    cases hx
  rintro rfl
  obtain ⟨r, hr, hrunning, -⟩ := (mem_candidate hc).mp ⟨x, hx, rfl⟩
  exact hdown r hr hrunning

end Activations

/-- The bundle of a generation is no longer live, or has no entry of the run. -/
def ClearedAt (k : Uuid) (s : Shared) (generation : ℕ) : Prop :=
  generation ≤ s.generation ∧ (generation = s.generation → ∀ x ∈ s.bundle, x.runId ≠ k)

/-- What the withdrawals of a run have computed, activated and recorded is without an entry of it. -/
structure Withdrawals (k : Uuid) (s : System) : Prop where
  computed : ∀ p ∈ s.tasks.rows, ∀ stop routes, p.task = .withdrawComputed k stop routes →
    ∀ x ∈ routes, x.runId ≠ k
  activated : ∀ p ∈ s.tasks.rows, ∀ stop generation, p.task = .withdrawActivated k stop generation →
    ClearedAt k s.toShared generation
  recorded : ∀ r generation, s.db.runs.get? k = some r → r.state = .running →
    r.routeState = .withdrawn → r.routeGeneration = some generation → ClearedAt k s.toShared generation

section Withdrawals

variable {generation : ℕ}

lemma ClearedAt.step (h : ClearedAt k σ.toShared generation)
    (hstep : VonkForge.Recipes.step cfg σ e = .ok (τ, out)) : ClearedAt k τ.toShared generation := by
  unfold ClearedAt at h ⊢
  rcases step_bundle hstep with ⟨hbundle, hsame⟩ | ⟨hnext, -⟩
  · rw [hbundle, hsame]
    exact h
  exact ⟨by omega, fun he => by omega⟩

lemma mem_of_label (h : label σ e = .session task) : ∃ p ∈ σ.tasks.rows, p.task = task := by
  cases e with
  | resume id =>
    cases hp : σ.tasks.get? id with
    | none => simp [label, hp] at h
    | some p => exact ⟨p, mem_of_get? hp, by simpa [label, hp] using h⟩
  | _ => cases h

lemma Withdrawals.step (h : Withdrawals k σ)
    (hstep : VonkForge.Recipes.step cfg σ e = .ok (τ, out))
    (heffect : RunEffect cfg (label σ e) k σ.db τ.db) : Withdrawals k τ := by
  refine ⟨fun p hp stop routes ht => ?_, fun p hp stop g ht => ?_, fun r g hr hs hroute hg => ?_⟩
  · rcases step_tasks hstep hp with hbegin | hold | ⟨p', -, -, -, now, hnext⟩
    · cases hbegin.symm.trans ht
    · exact h.computed p hold stop routes ht
    rw [ht] at hnext
    intro x hx hid
    obtain ⟨-, -, -, hne⟩ := (mem_candidate hnext).mp ⟨x, hx, hid⟩
    exact hne rfl
  · rcases step_tasks hstep hp with hbegin | hold | ⟨p', hp', -, -, now, hnext⟩
    · cases hbegin.symm.trans ht
    · exact (h.activated p hold stop g ht).step hstep
    rw [ht] at hnext
    obtain ⟨rfl, htask⟩ := hnext
    exact ⟨le_rfl, fun _ => h.computed p' hp' stop _ htask⟩
  cases heffect with
  | same row | waits _ _ _ row => exact (h.recorded r g (row ▸ hr) hs hroute hg).step hstep
  | routed task hl r₀ f hr₀ hreroutes row =>
    rw [row] at hr
    cases hr
    rcases hreroutes.2 with ⟨-, stop, g', rfl, hg'⟩ | ⟨-, hother⟩ | ⟨-, hother⟩
    · obtain ⟨p, hp, htask⟩ := mem_of_label hl
      cases hg'.symm.trans hg
      exact (h.activated p hp stop g htask).step hstep
    all_goals cases hother.symm.trans hroute
  | starts c addresses fresh hl r₀ hnone row hstarting =>
    cases hr.symm.trans row
    cases hs.symm.trans hstarting
  | stops c digest hl hid r₀ hr₀ hstoppable row =>
    cases hr.symm.trans row
    cases hs
  | runs t ht hfor live row =>
    obtain ⟨r₀, -, rfl⟩ := Option.map_eq_some_iff.mp (row.symm.trans hr)
    cases hroute
  | cleans t ht hfor live row =>
    obtain ⟨r₀, -, rfl⟩ := Option.map_eq_some_iff.mp (row.symm.trans hr)
    cases hs
  | ends t ht hfor live failed row =>
    obtain ⟨r₀, -, rfl⟩ := Option.map_eq_some_iff.mp (row.symm.trans hr)
    cases failed <;> cases hs

end Withdrawals

/-! ### Runs without entries -/

/-- What the entries of a run depend on: there is none before it runs, and none once there is a stop
of it.  While its start is live, nothing else of it is. -/
structure Tame (k : Uuid) (s : System) : Prop where
  unknown : s.db.runs.get? k = none → Absent k s ∧ ∀ t ∈ tickets s.db.queue, ¬ Drives k t
  starting : ∀ r, s.db.runs.get? k = some r → r.state = .starting → Absent k s
  alone : ∀ t ∈ tickets s.db.queue, IsFor .recipeStart k t → Live s.db.queue t.id →
    (∃ r, s.db.runs.get? k = some r ∧ r.state = .starting) ∧
      ∀ u ∈ tickets s.db.queue, Drives k u → Live s.db.queue u.id → u = t
  stopped : (∃ t ∈ tickets s.db.queue, IsFor .recipeStop k t) → Absent k s ∧ ∃ r, Down k s.db r

section Tame

lemma Halted.not_running (h : Halted r) : r.state ≠ .running := by
  rcases h.1 with hs | hs | hs <;> rw [hs] <;> decide

lemma tame_of_down (habsent : Absent k σ) (h : Down k σ.db r) : Tame k σ := by
  refine ⟨fun hnone => ?_, fun r' hr hs => ?_, fun t ht hfor hlive => ?_, fun _ => ⟨habsent, r, h⟩⟩
  · rw [h.row] at hnone
    cases hnone
  · rw [h.row] at hr
    cases hr
    rcases h.halted.1 with hs' | hs' | hs' <;> rw [hs'] at hs <;> cases hs
  obtain ⟨hstop, -⟩ := h.stops t ht (.inl hfor) hlive
  exact absurd (hfor.unique hstop).1 (by decide)

lemma Absent.step_down (h : Absent k σ) (hdown : Down k τ.db r)
    (hstep : VonkForge.Recipes.step cfg σ e = .ok (τ, out)) : Absent k τ := by
  refine h.step hstep fun r' hr => ?_
  rw [hdown.row] at hr
  cases hr
  exact hdown.halted.not_running

variable (h : Tame k σ) (hstep : VonkForge.Recipes.step cfg σ e = .ok (τ, out))

include h hstep

lemma Tame.shrink {gone : Option Uuid}
    (hnostop : ∀ t ∈ tickets σ.db.queue, ¬ IsFor .recipeStop k t)
    (turn : RunTurn k σ.db.queue τ.db.queue gone none)
    (hrow : (τ.db.runs.get? k).map (·.state) = (σ.db.runs.get? k).map (·.state)) : Tame k τ := by
  have hold : ∀ t ∈ tickets τ.db.queue, Drives k t → t ∈ tickets σ.db.queue := by
    intro t ht hd
    rcases turn.old t ht hd with hold | hnew
    · exact hold
    cases hnew
  refine ⟨fun hnone => ?_, fun r hr hs => ?_, fun t ht hfor hlive => ?_, fun ⟨t, ht, hfor⟩ => ?_⟩
  · rw [hnone, Option.map_none] at hrow
    obtain ⟨habsent, hno⟩ := h.unknown (Option.map_eq_none_iff.mp hrow.symm)
    exact ⟨habsent.step hstep (fun r hr => by rw [hnone] at hr; cases hr),
      fun t ht hd => hno t (hold t ht hd) hd⟩
  · rw [hr, Option.map_some] at hrow
    obtain ⟨r₀, hr₀, hstate⟩ := Option.map_eq_some_iff.mp hrow.symm
    refine (h.starting r₀ hr₀ (hstate.trans hs)).step hstep fun r' hr' => ?_
    rw [hr] at hr'
    cases hr'
    rw [hs]
    decide
  · have hlive' : ∀ u ∈ tickets τ.db.queue, Drives k u → Live τ.db.queue u.id →
        u ∈ tickets σ.db.queue ∧ Live σ.db.queue u.id := by
      intro u hu hd hl
      rcases turn.live_before hu hd hl with ⟨hu', hl', -⟩ | hnew
      · exact ⟨hu', hl'⟩
      cases hnew
    obtain ⟨ht', hl'⟩ := hlive' t ht (.inl hfor) hlive
    obtain ⟨⟨r, hr, hs⟩, honly⟩ := h.alone t ht' hfor hl'
    rw [hr, Option.map_some] at hrow
    obtain ⟨r', hr', hstate⟩ := Option.map_eq_some_iff.mp hrow
    refine ⟨⟨r', hr', hstate.trans hs⟩, fun u hu hd hl => ?_⟩
    obtain ⟨hu', hl''⟩ := hlive' u hu hd hl
    exact honly u hu' hd hl''
  exact absurd hfor (hnostop t (hold t ht (.inr hfor)))

lemma Tame.step {l : Label} (heffect : RunEffect cfg l k σ.db τ.db)
    (hclean : ∀ c digest, l = .session (.stopWithdrawn c digest) → c.runId = k →
      tickets τ.db.queue ≠ tickets σ.db.queue → Quiet σ.db.queue k ∧ Absent k σ) :
    Tame k τ := by
  by_cases hstop : ∃ t ∈ tickets σ.db.queue, IsFor .recipeStop k t
  · obtain ⟨habsent, r, hdown⟩ := h.stopped hstop
    obtain ⟨r', hdown', -⟩ := hdown.step heffect
    exact tame_of_down (habsent.step_down hdown' hstep) hdown'
  have hnostop : ∀ t ∈ tickets σ.db.queue, ¬ IsFor .recipeStop k t := fun t ht hfor =>
    hstop ⟨t, ht, hfor⟩
  cases heffect with
  | same row turn | waits _ _ _ row turn => exact h.shrink hstep hnostop turn (by rw [row])
  | routed _ _ r f hr hroute row turn =>
    refine h.shrink hstep hnostop turn ?_
    rw [row, hr, Option.map_some, Option.map_some]
    exact congrArg some hroute.1
  | starts c addresses fresh hl r hnone row hs hroute hinstallation t hfor live turn =>
    obtain ⟨habsent, hno⟩ := h.unknown hnone
    have honly : ∀ u ∈ tickets τ.db.queue, Drives k u → u = t := by
      intro u hu hd
      rcases turn.old u hu hd with hold | hnew
      · exact absurd hd (hno u hold)
      exact (Option.some.inj hnew).symm
    have habsent' : Absent k τ := by
      refine habsent.step hstep fun r' hr' => ?_
      rw [row] at hr'
      cases hr'
      rw [hs]
      decide
    refine ⟨fun hn => ?_, fun _ _ _ => habsent', fun u hu hforu hl => ?_, fun ⟨u, hu, hforu⟩ => ?_⟩
    · rw [row] at hn
      cases hn
    · refine ⟨⟨r, row, hs⟩, fun v hv hd _ => ?_⟩
      rw [honly v hv hd, honly u hu (.inl hforu)]
    rw [honly u hu (.inr hforu)] at hforu
    exact absurd (hforu.unique hfor).1 (by decide)
  | stops c digest hl hid r hr hs row t hfor live turn =>
    have hnew : tickets τ.db.queue ≠ tickets σ.db.queue := by
      intro he
      exact turn.fresh t rfl t (he ▸ turn.born t rfl) rfl
    obtain ⟨hquiet, habsent⟩ := hclean c digest hl hid hnew
    have honly : ∀ u ∈ some t, IsFor .recipeStop k u := by
      rintro _ ⟨⟩
      exact hfor
    have hdown := down_of_stop turn
      (fun u hu hd hlive => absurd hlive (hquiet.not_live hu hd)) honly row rfl rfl
    exact tame_of_down (habsent.step_down hdown hstep) hdown
  | runs t ht hfor live row turn =>
    obtain ⟨⟨r, hr, hs⟩, honly⟩ := h.alone t ht hfor live
    rw [hr, Option.map_some] at row
    refine ⟨fun hn => ?_, fun r' hr' hs' => ?_, fun u hu hforu hl => ?_, fun ⟨u, hu, hforu⟩ => ?_⟩
    · rw [row] at hn
      cases hn
    · rw [row] at hr'
      cases hr'
      cases hs'
    · rcases turn.live_before hu (.inl hforu) hl with ⟨hu', hl', hgone⟩ | hnew
      · rw [honly u hu' (.inl hforu) hl'] at hgone
        exact absurd rfl hgone
      cases hnew
    rcases turn.old u hu (.inr hforu) with hold | hnew
    · exact absurd hforu (hnostop u hold)
    cases hnew
  | cleans t ht hfor live row new turn hnew =>
    obtain ⟨⟨r, hr, hs⟩, honly⟩ := h.alone t ht hfor live
    rw [hr, Option.map_some] at row
    have hdown := down_of_stop turn (fun u hu hd hl => by rw [honly u hu hd hl])
      (fun u hu => (hnew u hu).1) row rfl rfl
    exact tame_of_down ((h.starting r hr hs).step_down hdown hstep) hdown
  | ends t ht hfor => exact absurd hfor (hnostop t ht)

end Tame

/-! ### Stops that have returned -/

/-- The view that a call is answered with at an event, and its request. -/
def answered (cfg : Config) (s : System) (e : Event) : Option (Request × RecipeOperationView) :=
  match step cfg s e with
  | .ok (_, some ⟨request, .ok (some v)⟩) => some (request, v)
  | _ => none

/-- The live bundle is that of the withdrawal that was recorded for the run. -/
def lastWithdrawn (s : Shared) (k : Uuid) : Bool :=
  (s.db.runs.get? k).any fun r => r.state = .running && r.routeState = .withdrawn &&
    r.routeGeneration = some s.generation

/-- A stop that commits finds no group of its run live and no entry of it in a bundle that a call has
computed; and unless its withdrawal was the last activation, none in the live bundle. -/
def StopsClean (cfg : Config) (s : System) (e : Event) : Prop :=
  ∀ c ∈ stopCommitted cfg s e, Quiet s.db.queue c.runId ∧
    (∀ p ∈ s.tasks.rows, ∀ x ∈ held p.task, x.runId ≠ c.runId) ∧
    (lastWithdrawn s.toShared c.runId = false → ∀ x ∈ s.bundle, x.runId ≠ c.runId)

/-- The key of the request is free, or bound to a job for the same run. -/
def KeyFits (db : Database) (c : StopCall) : Prop :=
  ∀ job, bound db c.requestId = some job → ∀ doc, job.document = .recipe doc → doc.ownerId = c.runId

instance (cfg : Config) (s : System) (e : Event) : Decidable (StopsClean cfg s e) :=
  inferInstanceAs (Decidable (∀ c ∈ stopCommitted cfg s e, _))

section Stopped

lemma stopCommitted_of_label (h : step cfg σ e = .ok (τ, out))
    (hl : label σ e = .session (.stopWithdrawn c digest))
    (hchanged : tickets τ.db.queue ≠ tickets σ.db.queue) : stopCommitted cfg σ e = some c := by
  cases e with
  | resume id env =>
    obtain ⟨p, hp, h⟩ := of_bind_ok h
    rw [fetch_ok] at hp
    have hresume := Except.ok.inj h
    simp only [label, hp, Label.session.injEq] at hl
    obtain ⟨key, request, task⟩ := p
    subst hl
    unfold stopCommitted
    simp only [hp]
    cases hcommit : commitStop cfg env σ.db c digest with
    | ok => rfl
    | error e =>
      refine absurd ?_ hchanged
      have hfail : resume cfg env σ.toShared (.stopWithdrawn c digest) = .error e := by
        simp only [resume, returns, hcommit]
        rfl
      simp only [resumeCall, hfail, handler] at hresume
      cases hresume
      rfl
  | _ => cases hl

lemma Withdrawals.absent (h : Withdrawals k σ)
    (hheld : ∀ p ∈ σ.tasks.rows, ∀ x ∈ held p.task, x.runId ≠ k)
    (hlive : lastWithdrawn σ.toShared k = false → ∀ x ∈ σ.bundle, x.runId ≠ k) : Absent k σ := by
  refine ⟨?_, hheld⟩
  cases hlast : lastWithdrawn σ.toShared k with
  | false => exact hlive hlast
  | true =>
    unfold lastWithdrawn at hlast
    cases hr : σ.db.runs.get? k with
    | none => simp [hr] at hlast
    | some r =>
      simp only [hr, Option.any_some, Bool.and_eq_true, decide_eq_true_eq] at hlast
      exact (h.recorded r _ hr hlast.1.1 hlast.1.2 hlast.2).2 rfl

lemma tame_run (cfg : Config) {events : List Event}
    (h : Along (step cfg) (StopsClean cfg) {} events) (k : Uuid) : Tame k (run (step cfg) {} events) := by
  have habsent : Absent k {} := ⟨fun x hx => (by cases hx), fun p hp => (by cases hp)⟩
  have hnone : ∀ t, t ∉ tickets ({} : System).db.queue := fun t ht => by cases ht
  refine (@run_preserves_of_along _ _ _ _ (step cfg) (StopsClean cfg)
    (fun s => Grouped s.db.queue ∧ Withdrawals k s ∧ Tame k s) ?_ {} events ⟨grouped_run cfg [],
      ⟨fun p hp => (by cases hp), fun p hp => (by cases hp), fun r g hr => (by cases hr)⟩, ⟨fun _ => ⟨habsent, fun t ht => absurd ht (hnone t)⟩, fun _ _ _ => habsent,
        fun t ht => absurd ht (hnone t), fun ⟨t, ht, _⟩ => absurd ht (hnone t)⟩⟩ h).2.2
  rintro s e t out ⟨hgrouped, hwithdrawals, htame⟩ hclean he
  obtain ⟨heffect, hgrouped'⟩ := step_effect he hgrouped
  refine ⟨hgrouped', hwithdrawals.step he (heffect.forRun k),
    htame.step he (heffect.forRun k) fun c digest hl hid hchanged => ?_⟩
  subst hid
  obtain ⟨hquiet, hheld, hlive⟩ := hclean c (stopCommitted_of_label he hl hchanged)
  exact ⟨hquiet, hwithdrawals.absent hheld hlive⟩

lemma lookup_stop {requestId : Uuid} {kind : AgentOperation} {digest : Option Digest}
    (h : task.request = .stop c) (hkey : lookup cfg task = some (requestId, kind, digest)) :
    kind = .recipeStop ∧ requestId = c.requestId := by
  unfold lookup at hkey
  split at hkey <;> cases hkey <;> cases h
  exact ⟨rfl, rfl⟩

lemma answered_stop {v : RecipeOperationView} (hcoherent : Coherent σ) (hfits : KeyFits σ.db c)
    (h : answered cfg σ e = some (.stop c, v)) :
    ∃ t ∈ tickets (commit (step cfg) σ e).db.queue, IsFor .recipeStop c.runId t := by
  unfold answered at h
  split at h
  · next τ request v' hstep =>
    cases h
    have hcommit : commit (step cfg) σ e = τ := by simp only [commit, hstep]
    rw [hcommit]
    obtain ⟨id, env, p, -, hp, hrequest, hanswers⟩ := answer_returned hstep
    have hserves : p.task.request = .stop c := (hcoherent p (mem_of_get? hp)).trans hrequest
    generalize p.task = task at hserves hanswers
    cases hanswers with
    | replayed requestId kind digest hkey hv same =>
      obtain ⟨rfl, rfl⟩ := lookup_stop hserves hkey
      obtain ⟨job, doc, hjob, hdoc, hkind, -, rfl⟩ := idempotent_some.mp hv
      refine ⟨job.ticket, ?_, (isFor_recipe hdoc).mpr ⟨hkind, hfits job hjob doc hdoc⟩⟩
      rw [same]
      exact (bound_ticket hjob).1
    | retried c htask =>
      rw [htask] at hserves
      cases hserves
    | committed requestId doc commits =>
      obtain ⟨t, ops, hgroup, -⟩ := commits.group
      refine ⟨t, (runTurn hgroup.toAdded.turn 0).born t rfl, (isFor_recipe hgroup.document).mpr ?_⟩
      cases commits.accepts with
      | stop =>
        cases hserves
        exact ⟨rfl, rfl⟩
      | _ => cases hserves
  cases h

/-- While every stop commits with no live group of its run, and after its withdrawal no bundle with
an entry of the run was activated or is held, no bundle that is live after its answer has one. -/
theorem stopped_run_not_routed (cfg : Config) (before after : List Event) (e : Event) (c : StopCall)
    (v : RecipeOperationView)
    (hclean : Along (step cfg) (StopsClean cfg) {} (before ++ e :: after))
    (hanswered : answered cfg (run (step cfg) {} before) e = some (.stop c, v))
    (hfits : KeyFits (run (step cfg) {} before).db c) :
    ∀ x ∈ (run (step cfg) {} (before ++ e :: after)).bundle, x.runId ≠ c.runId := by
  obtain ⟨t, ht, hfor⟩ := answered_stop (coherent_run cfg before) hfits hanswered
  have hkept : t ∈ tickets (run (step cfg) {} (before ++ e :: after)).db.queue := by
    rw [run_append, run_cons]
    let Inv : System → Prop := fun s => Grouped s.db.queue ∧ t ∈ tickets s.db.queue
    have hstep : ∀ (s : System) (e : Event) (u : System) (out : Option Output), Inv s →
        step cfg s e = .ok (u, out) → Inv u := by
      rintro s e u out ⟨hgrouped, ht⟩ he
      obtain ⟨heffect, hgrouped'⟩ := step_effect he hgrouped
      obtain ⟨gone, new, hturn⟩ := heffect.turn
      exact ⟨hgrouped', Turn.kept hturn ht⟩
    have hgrouped := grouped_run cfg (before ++ [e])
    rw [run_append, run_cons, run_nil] at hgrouped
    have hrun : Inv (run (step cfg) (commit (step cfg) (run (step cfg) {} before) e) after) :=
      run_preserves hstep ⟨hgrouped, ht⟩ after
    exact hrun.2
  exact ((tame_run cfg hclean c.runId).stopped ⟨t, hkept, hfor⟩).1.1

end Stopped

/-- The stop of a running run finds nothing of it underway. -/
theorem running_stop_not_routed :
    ((run (step soloConfig) {} (soloRunning ++ calls 15 (.publish 13) 4 ++ soloStop ++
      .resume 14 (drawn 14) :: finishes 14 .succeeded (.other none))).bundle.any
        fun x => decide (x.runId = 13)) = false := by
  have hfree : (bound (run (step soloConfig) {} (soloRunning ++ calls 15 (.publish 13) 4 ++
      soloStop)).db 24).isNone := by decide +kernel
  have hrouted := stopped_run_not_routed soloConfig (soloRunning ++ calls 15 (.publish 13) 4 ++ soloStop)
    (finishes 14 .succeeded (.other none)) (.resume 14 (drawn 14)) ⟨13, 24⟩
    ⟨114, 24, .recipeStop, 13, 12, .running, [1]⟩ (by decide +kernel) (by decide +kernel)
    fun job hjob => by
      rw [hjob] at hfree
      cases hfree
  exact List.any_eq_false.mpr fun x hx => by simpa using hrouted x hx

/-- A publication that has computed its bundle before the stop makes it live after the stop has
returned. -/
theorem publication_overtakes_stop :
    answered soloConfig (run (step soloConfig) {} (soloRunning ++ calls 15 (.publish 13) 2 ++ soloStop))
      (.resume 14 (drawn 14)) =
        some (.stop ⟨13, 24⟩, ⟨114, 24, .recipeStop, 13, 12, .running, [1]⟩) ∧
    (run (step soloConfig) {} (soloRunning ++ calls 15 (.publish 13) 2 ++ soloStop ++
      [.resume 14 (drawn 14), .resume 15 (drawn 15)])).bundle = [⟨"chat", 13, ⟨7, 8000⟩⟩] := by
  decide +kernel

end VonkForge.Recipes
