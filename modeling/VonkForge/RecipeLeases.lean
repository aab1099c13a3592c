import VonkForge.RecipeRoutes

/-!
# The lease of the recipe routes

A bundle is activated for 300 seconds, and again only when some run waits for its publication.
-/

namespace VonkForge.Recipes

open Transactions Table

structure Live extends Shared where
  expiresAt : Time := 0

section Ticks

variable (cfg : Config)

/-- `RecipeOperationWorker.tick`.  A publication that raises counts as not made; in the source its
bundle is already live where only the supervisor's acknowledgement is missing. -/
def tick (env : Env) (w : Live) : Live :=
  match pendingRun w.db with
  | none => w
  | some run =>
    match publishRun cfg env w.toShared run.id with
    | .ok (s, _) => ⟨s, env.now + seconds 300⟩
    | .error e =>
      match caught e with
      | some text =>
        { w with db := recordFailure w.db run.id (String.ofList (text.toList.take 512)) }
      | none => w

/-- The state before tick `n`; each tick finds the database that all other calls have left. -/
def ticks (w : Live) (calls : ℕ → Env × Database) : ℕ → Live
  | 0 => w
  | n + 1 => tick cfg (calls n).1 { ticks w calls n with db := (calls n).2 }

end Ticks

/-- At instant `t` the bundle has not expired, and it has the entry of the run. -/
def Serves (w : Live) (t : Time) (id : Uuid) (aliasName : String) : Prop :=
  t < w.expiresAt ∧ ∃ x ∈ w.bundle, x.runId = id ∧ x.aliasName = aliasName

instance (w : Live) (t : Time) (id : Uuid) (aliasName : String) :
    Decidable (Serves w t id aliasName) :=
  inferInstanceAs (Decidable (_ ∧ _))

/-- A tick activates a bundle: a run waits for its publication, and every running run passes its
checks under an alias of its own. -/
structure Renews (cfg : Config) (env : Env) (db : Database) : Prop where
  publisher : env.publishError = none
  pending : ∃ r ∈ db.runs.rows, r.state = .running ∧ r.routeState = .pending
  routable : ∀ r ∈ db.runs.rows, r.state = .running → Routable cfg env.now db r ∧
    ∀ t ∈ db.runs.rows, t.state = .running → t.aliasName = r.aliasName → t = r

section Renewals

variable {cfg : Config} {env : Env} {w : Live} {r : RecipeRun} {db : Database} {now : Time}
  {routes : List Route} {id : Uuid} {name : String}

lemma candidate_all_iff : (∃ routes, candidate cfg now db none = .ok routes) ↔
    ∀ r ∈ db.runs.rows, r.state = .running → Routable cfg now db r ∧
      ∀ t ∈ db.runs.rows, t.state = .running → t.aliasName = r.aliasName → t = r := by
  rw [candidate_ok_iff]
  simp [mem_routedRuns]

lemma alias_of_candidate (h : candidate cfg now db none = .ok routes) (hr : r ∈ db.runs.rows)
    (hs : r.state = .running) : ∃ x ∈ routes, x.runId = r.id ∧ x.aliasName = r.aliasName := by
  obtain ⟨new, hroutes, hnew⟩ := entries_ok h
  rw [List.nil_append] at hroutes
  have hmem : (r.id, r.aliasName) ∈ routes.map fun x => (x.runId, x.aliasName) := by
    rw [hroutes, hnew]
    exact List.mem_map_of_mem (mem_routedRuns.mpr ⟨hr, hs, by simp⟩)
  obtain ⟨x, hx, he⟩ := List.mem_map.mp hmem
  exact ⟨x, hx, congrArg Prod.fst he, congrArg Prod.snd he⟩

lemma pendingRun_spec (h : pendingRun db = some r) :
    db.runs.get? r.id = some r ∧ r.state = .running ∧ r.routeState = .pending := by
  obtain ⟨hr, hp⟩ := mem_of_firstBy h
  simp only [Bool.and_eq_true, decide_eq_true_eq] at hp
  exact ⟨get?_of_mem hr, hp⟩

lemma tick_renews (h : Renews cfg env w.db) (hr : w.db.runs.get? id = some r)
    (hs : r.state = .running) : (tick cfg env w).expiresAt = env.now + seconds 300 ∧
      ∃ x ∈ (tick cfg env w).bundle, x.runId = id ∧ x.aliasName = r.aliasName := by
  obtain ⟨routes, hroutes⟩ := candidate_all_iff.mpr h.routable
  have hmem : r ∈ w.db.runs.rows := mem_of_get? hr
  obtain rfl : r.id = id := get?_key hr
  cases hp : pendingRun w.db with
  | none =>
    obtain ⟨q, hq, hstate, hroute⟩ := h.pending
    have hmiss := Table.firstBy_eq_none.mp hp q hq
    simp [hstate, hroute] at hmiss
  | some q =>
    obtain ⟨hq, hrunning, -⟩ := pendingRun_spec hp
    simp only [tick, hp, publishRun_eq hq hrunning, h.publisher, hroutes, ok_bind]
    exact ⟨trivial, alias_of_candidate hroutes hmem hs⟩

lemma tick_keeps (h : ¬ Renews cfg env w.db) :
    (tick cfg env w).expiresAt = w.expiresAt ∧ (tick cfg env w).bundle = w.bundle := by
  unfold tick
  cases hp : pendingRun w.db with
  | none => exact ⟨rfl, rfl⟩
  | some q =>
    obtain ⟨hq, hrunning, hpending⟩ := pendingRun_spec hp
    -- what fails is the publisher or a check of some running run
    have herror : ∃ e, publishRun cfg env w.toShared q.id = .error e := by
      rw [publishRun_eq hq hrunning]
      cases hc : candidate cfg env.now w.db none with
      | error e => exact ⟨e, rfl⟩
      | ok routes =>
        cases hpublish : env.publishError with
        | some text => exact ⟨.os text, rfl⟩
        | none =>
          exact absurd ⟨hpublish, ⟨q, mem_of_get? hq, hrunning, hpending⟩,
            candidate_all_iff.mp ⟨routes, hc⟩⟩ h
    obtain ⟨e, he⟩ := herror
    simp only [he]
    split <;> exact ⟨rfl, rfl⟩

lemma last_renewal {calls : ℕ → Env × Database} {n : ℕ}
    (hfirst : Renews cfg (calls 0).1 (calls 0).2)
    (hrun : ∀ k ≤ n, ∃ r, (calls k).2.runs.get? id = some r ∧ r.state = .running ∧
      r.aliasName = name) :
    (∃ x ∈ (ticks cfg w calls (n + 1)).bundle, x.runId = id ∧ x.aliasName = name) ∧
    ∃ k ≤ n, Renews cfg (calls k).1 (calls k).2 ∧
      (ticks cfg w calls (n + 1)).expiresAt = (calls k).1.now + seconds 300 ∧
      ∀ j ≤ n, Renews cfg (calls j).1 (calls j).2 → j ≤ k := by
  have hrenew (m : ℕ) (hm : m ≤ n) (h : Renews cfg (calls m).1 (calls m).2) :
      (ticks cfg w calls (m + 1)).expiresAt = (calls m).1.now + seconds 300 ∧
        ∃ x ∈ (ticks cfg w calls (m + 1)).bundle, x.runId = id ∧ x.aliasName = name := by
    obtain ⟨r, hr, hs, rfl⟩ := hrun m hm
    exact @tick_renews _ _ { ticks cfg w calls m with db := (calls m).2 } _ _ h hr hs
  induction n with
  | zero =>
    obtain ⟨hexpiry, hentry⟩ := hrenew 0 le_rfl hfirst
    exact ⟨hentry, 0, le_rfl, hfirst, hexpiry, fun j hj _ => hj⟩
  | succ n ih =>
    by_cases h : Renews cfg (calls (n + 1)).1 (calls (n + 1)).2
    · obtain ⟨hexpiry, hentry⟩ := hrenew (n + 1) le_rfl h
      exact ⟨hentry, n + 1, le_rfl, h, hexpiry, fun j hj _ => hj⟩
    obtain ⟨hexpiry, hbundle⟩ :=
      @tick_keeps _ _ { ticks cfg w calls (n + 1) with db := (calls (n + 1)).2 } h
    obtain ⟨hentry, k, hk, hrenews, hlease, hlast⟩ := ih
      (fun k hk => hrun k (by omega)) (fun m hm => hrenew m (by omega))
    refine ⟨hbundle ▸ hentry, k, by omega, hrenews, hexpiry.trans hlease, fun j hj hr => ?_⟩
    have hne : j ≠ n + 1 := fun he => h (he ▸ hr)
    exact hlast j (by omega) hr

end Renewals

/-- A published run that stays running is served at an instant exactly when some tick activated a
bundle in the 300 seconds before, as long as no run is withdrawn: that too activates a bundle. -/
theorem served_iff_recent_publication (cfg : Config) (w : Live) (calls : ℕ → Env × Database)
    (hclock : Monotone fun k => (calls k).1.now) (id : Uuid) (name : String) (n : ℕ) (t : Time)
    (hfirst : Renews cfg (calls 0).1 (calls 0).2)
    (hrun : ∀ k ≤ n, ∃ r, (calls k).2.runs.get? id = some r ∧ r.state = .running ∧
      r.aliasName = name) :
    Serves (ticks cfg w calls (n + 1)) t id name ↔
      ∃ k ≤ n, Renews cfg (calls k).1 (calls k).2 ∧ t < (calls k).1.now + seconds 300 := by
  obtain ⟨hentry, k, hk, hrenews, hlease, hlast⟩ := @last_renewal cfg w id name calls n hfirst hrun
  unfold Serves
  rw [hlease]
  constructor
  · exact fun h => ⟨k, hk, hrenews, h.1⟩
  rintro ⟨j, hj, hr, ht⟩
  have hle : (calls j).1.now ≤ (calls k).1.now := hclock (hlast j hj hr)
  exact ⟨Nat.lt_of_lt_of_le ht (Nat.add_le_add_right hle _), hentry⟩

def chatWaiting : Database where
  runs := .single ⟨⟨.running, .pending, none, none⟩, 1, 12, 2, 1, "chat", 12, 1, 0⟩
  runNodes := .single ⟨1, 1, 0, "entrypoint", .running, 8000, 10, some ⟨7, 8000⟩, some 0, 0⟩

/-- The first tick publishes the run, and no other call writes afterwards. -/
def minutely : ℕ → Env × Database
  | 0 => ({ now := 0 }, chatWaiting)
  | n + 1 => ({ now := seconds (60 * (n + 1)) }, (tick soloConfig { now := 0 } { db := chatWaiting }).db)

lemma minutely_published (n : ℕ) :
    ((minutely (n + 1)).2.runs.get? 1).map (fun r => (r.state, r.routeState, r.aliasName)) =
      some (.running, .published, "chat") := by
  change ((tick soloConfig { now := 0 } { db := chatWaiting }).db.runs.get? 1).map _ = _
  decide +kernel

theorem minutely_served_iff :
    Serves (ticks soloConfig {} minutely 1) (seconds 299) 1 "chat" ↔
      ∃ k ≤ 0, Renews soloConfig (minutely k).1 (minutely k).2 ∧
        seconds 299 < (minutely k).1.now + seconds 300 := by
  refine served_iff_recent_publication soloConfig {} minutely ?_ 1 "chat" 0 (seconds 299) ?_ ?_
  · refine monotone_nat_of_le_succ fun n => ?_
    cases n with
    | zero => exact Nat.zero_le _
    | succ n => exact Nat.mul_le_mul_right _ (by omega)
  · exact ⟨rfl, by decide +kernel, candidate_all_iff.mp ⟨[⟨"chat", 1, 7, 8000⟩], by decide +kernel⟩⟩
  intro k hk
  obtain rfl : k = 0 := by omega
  exact ⟨_, rfl, rfl, rfl⟩

/-- The run is running and published at every later tick, and after 300 seconds it is not served. -/
theorem minutely_expires :
    (∀ n, ((minutely (n + 1)).2.runs.get? 1).map (fun r => (r.state, r.routeState, r.aliasName)) =
      some (.running, .published, "chat")) ∧
    Serves (ticks soloConfig {} minutely 5) (seconds 299) 1 "chat" ∧
    ¬ Serves (ticks soloConfig {} minutely 6) (seconds 300) 1 "chat" :=
  ⟨minutely_published, by decide +kernel, by decide +kernel⟩

end VonkForge.Recipes
