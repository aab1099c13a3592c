import VonkForge.UpdateSigner
import VonkForge.WorkerRuns

/-!
# The authority of a batch

The grant of a planned batch lasts ten minutes from when the worker takes it up; the request for the
signer is built later and lasts ten minutes from then on.  In every run of the worker the grants are
those of its issuer, and every request was built under one of them.
-/

namespace VonkForge.Updates

open AgentJobs NodeLeases UpdateSigner Table

variable {grant : AdminGrant} {view : CallView} {db db' : Database}
  {reserved : List (UpdateRolloutNode × ReservedUpdateAuthorization)}
  {nodes : List UpdateRolloutNode} {σ : Signer} {s : System} {now : Time} {u u' : UpdateRollout}
  {k : ℕ} {r : SignerRequest} {op : AgentOperation}

/-! ### The grants of the issuer -/

/-- The worker's issuer signs with the key that the signer verifies with, and only what it issues
verifies. -/
structure IssuerTrusted (issuer : GrantIssuer) (σ : Signer) : Prop where
  key : issuer.keyId = σ.keyId
  verify : ∀ claims signature, issuer.verify claims signature = σ.verify claims signature
  signs : ∀ claims, isVersion4 claims.nonce = true → isVersion4 claims.parentJobId = true →
    σ.verify claims (issuer.sign claims) = true
  issued : ∀ claims signature, σ.verify claims signature = true →
    isVersion4 claims.nonce = true ∧ isVersion4 claims.parentJobId = true

section Issuer

variable {issuer : GrantIssuer} {jobId : Uuid}

lemma issued_grant {targets : List NodeId} {target : Option Digest} {expiresAt : ℕ}
    (htrusted : IssuerTrusted issuer σ)
    (h : issueGrant issuer now op u.id jobId targets target expiresAt = .ok grant)
    (htarget : target = if op = .agentUpdate then some u.releaseDigest else none) :
    GrantFor σ u jobId op grant ∧ grant.claims.nodeIds = targets.insertionSort (· ≤ ·) ∧
      grant.claims.expiresAt = expiresAt := by
  unfold issueGrant at h
  split_ifs at h with hid hjob hnodes hexpiry hnonce
  cases h
  rw [Bool.not_eq_false] at hid hjob hnonce
  push Not at hnodes
  have hperm : (targets.insertionSort (· ≤ ·)).Perm targets := List.perm_insertionSort _ _
  refine ⟨⟨htrusted.key, htrusted.signs _ hnonce hjob, rfl, rfl, rfl, ?_, ?_, ?_, htarget, hnonce,
    hid, hjob⟩, rfl, rfl⟩
  · intro hnil
    have hsorted : targets.insertionSort (· ≤ ·) = [] := hnil
    rw [hsorted] at hperm
    exact hnodes.1 hperm.nil_eq.symm
  · exact hperm.nodup_iff.mpr hnodes.2.2
  exact (List.pairwise_insertionSort _ _).insertionSort_eq

lemma refreshed_grant {id : Uuid} {batch : ℕ} {targets : List NodeId}
    (htrusted : IssuerTrusted issuer σ) (hu : db.rollouts.get? id = some u)
    (h : refreshUpdateGrant issuer now db id batch targets = .ok db') :
    ∃ jobId grant, u.jobId = some jobId ∧
      db'.rollouts.get? id = some { u with updateAdminGrant := some grant } ∧
      db' = { db with rollouts := db'.rollouts } ∧ OthersKept id db db' ∧
      epoch now + 600 ≤ grant.claims.expiresAt ∧ grant.claims.nodeIds = targets ∧
      GrantFor σ u jobId .agentUpdate grant ∧
      (u.updateAdminGrant = some grant ∨ grant.claims.expiresAt = epoch now + 3600) := by
  obtain rfl : u.id = id := get?_key hu
  unfold refreshUpdateGrant at h
  split_ifs at h with hversion htargets
  push Not at htargets
  obtain ⟨hne, hsorted, hnodup⟩ := htargets
  rw [Bool.not_eq_false] at hversion
  rw [hu] at h
  simp only at h
  split at h
  · cases h
  next jobId hjob =>
  split_ifs at h with hstate hnodes hreuse
  · cases h
    cases hgrant : u.updateAdminGrant with
    | none => simp [hgrant] at hreuse
    | some grant =>
      rw [hgrant] at hreuse
      simp only [Option.any_some, reusable, Bool.and_eq_true, decide_eq_true_eq] at hreuse
      obtain ⟨⟨⟨⟨⟨⟨⟨haction, hrollout⟩, hparent⟩, hids⟩, htarget⟩, hexpiry⟩, hkey⟩, hverify⟩ := hreuse
      rw [htrusted.verify] at hverify
      obtain ⟨hnonce, hjobId⟩ := htrusted.issued _ _ hverify
      have hsame : ({ u with updateAdminGrant := some grant } : UpdateRollout) = u := by
        rw [← hgrant]
      refine ⟨jobId, grant, hjob, by rw [hsame]; exact hu, rfl, .refl u.id db, hexpiry, hids, ?_,
        .inl rfl⟩
      rw [← hids] at hne hsorted hnodup
      exact ⟨hkey.trans htrusted.key, hverify, haction, hrollout, hparent, hne, hnodup, hsorted,
        htarget, hnonce, hversion, by rw [← hparent]; exact hjobId⟩
  obtain ⟨grant, hissue, h⟩ := of_bind_ok h
  cases h
  obtain ⟨hfor, hids, hexpiry⟩ := issued_grant htrusted hissue rfl
  exact ⟨jobId, grant, hjob, get?_setRollout_self hu _ _, rfl, .setRollout _ _, by omega,
    hids.trans hsorted, hfor, .inr hexpiry⟩

lemma acquire_of_rollouts {fence owner : Uuid} {values : List NodeId} {kind : LeaseOwnerKind}
    {lease : NodeLeaseGrant} {rollouts : Table UpdateRollout}
    (h : acquireInSession db now fence values kind owner = .ok (lease, db')) :
    acquireInSession { db with rollouts := rollouts } now fence values kind owner =
      .ok (lease, { db' with rollouts := rollouts }) := by
  unfold acquireInSession at h ⊢
  obtain ⟨group, hgroup, h⟩ := of_bind_ok h
  rw [hgroup, ok_bind]
  simp only at h ⊢
  split at h
  · cases h
    rfl
  split_ifs at h ⊢
  cases h
  rfl

lemma PlannedDue.granted (h : PlannedDue view s u nodes) (htrusted : IssuerTrusted issuer σ)
    (hrefresh : refreshUpdateGrant issuer now s.db u.id u.currentBatch (nodes.map (·.nodeId)) =
      .ok db) :
    ∃ jobId grant, u.jobId = some jobId ∧
      (advance view { s with db := db } u.id).1.db.rollouts.get? u.id =
        some { u with state := .withdrawing, updateAdminGrant := some grant } ∧
      epoch now + 600 ≤ grant.claims.expiresAt ∧
      grant.claims.nodeIds = nodes.map (·.nodeId) ∧ GrantFor σ u jobId .agentUpdate grant := by
  obtain ⟨jobId, grant, hjob, hrow, hdb, -, hlasts, hids, hgrant, -⟩ :=
    refreshed_grant htrusted h.row hrefresh
  refine ⟨jobId, grant, hjob, ?_, hlasts, hids, hgrant⟩
  let v : UpdateRollout := { u with updateAdminGrant := some grant }
  have hv : db.rollouts.get? v.id = some v := hrow
  have hbatch : batchNodes view.digests db v = .ok nodes := by
    rw [← h.batch, hdb]
    exact batchNodes_congr rfl rfl rfl rfl
  have hfirst := @advance_planned view v nodes { s with db := db } ⟨hv, h.state, hbatch,
    by rw [hdb]; exact h.source, by rw [hdb]; exact h.quorum, by rw [hdb]; exact h.idle, ?_⟩
  · obtain ⟨db₁, fence, -, hdb₁, hadvance⟩ := hfirst
    have hadvance' : advance view { s with db := db } u.id = _ := hadvance
    rw [hadvance']
    have hv₁ : db₁.rollouts.get? v.id = some v := by
      rw [hdb₁]
      exact hv
    exact get?_setRollout_self hv₁ _ _
  obtain ⟨lease, leased, hlease⟩ := h.leases
  rw [hdb]
  exact ⟨lease, _, acquire_of_rollouts hlease⟩

end Issuer

/-! ### Grants and requests along a run -/

/-- The issuer has signed the grant for this action of the rollout, less than an hour ago. -/
def Genuine (σ : Signer) (now : Time) (u : UpdateRollout) (op : AgentOperation) (grant : AdminGrant) :
    Prop :=
  grant.claims.expiresAt ≤ epoch now + 3600 ∧ ∃ jobId, u.jobId = some jobId ∧
    GrantFor σ u jobId op grant

/-- The request was built for a node of the rollout under a genuine grant, at some earlier time. -/
def Sound (σ : Signer) (now : Time) (u : UpdateRollout) (r : SignerRequest) : Prop :=
  ∃ view n job source grant, view.now ≤ now ∧ DrawsVersion4 view ∧
    (1 ≤ source.generation ∧ source.generation ≤ 999999999) ∧ u.jobId = some job.id ∧
    ((∃ p, nodePayload u n = some p ∧ Genuine σ now u .agentUpdate grant ∧
        r = signerRequest view u n job source grant .agentUpdate (some p) (some u.releaseDigest)) ∨
      Genuine σ now u .agentRollback grant ∧
        r = signerRequest view u n job source grant .agentRollback none none)

/-- What the database of the worker keeps. -/
structure Lawful (σ : Signer) (now : Time) (db : Database) : Prop where
  grants : ∀ u, db.rollouts.get? u.id = some u → ∀ op grant, op.signed = true →
    adminGrant u op = .ok grant → Genuine σ now u op grant
  requests : ∀ i ∈ db.intents.rows, ∃ u, i.request.rolloutId = u.id ∧
    db.rollouts.get? u.id = some u ∧ Sound σ now u i.request

/-- Every party of the run is the one that it should be: the issuers are trusted, the calls come
before `now` and draw new identifiers, a rollout is created with a genuine grant if with any, and
nobody else writes the requests. -/
def Proper (σ : Signer) (now : Time) (s : System) : WorkerEvent → Prop
  | .tick view => IssuerTrusted view.issuer σ ∧ view.now ≤ now ∧
    ∀ id, (view.call id).now ≤ now ∧ DrawsVersion4 (view.call id).toReserveView
  | .approveResume view issuer _ _ => IssuerTrusted issuer σ ∧ view.now ≤ now
  | .create view plan id jobId grant => ∀ g ∈ grant, Genuine σ now
    { plan with id := id, jobId := some jobId, updateAdminGrant := grant, createdAt := view.now }
    .agentUpdate g
  | .environment tables => tables.intents = s.db.intents

def Orderly (σ : Signer) (now : Time) : System → List WorkerEvent → Prop
  | _, [] => True
  | s, e :: events => Proper σ now s e ∧ Orderly σ now (workerStep s e) events

lemma orderly_cons {e : WorkerEvent} {events : List WorkerEvent} (h : Proper σ now s e)
    (hrest : Orderly σ now (workerStep s e) events) : Orderly σ now s (e :: events) :=
  ⟨h, hrest⟩

structure SamePlan (u u' : UpdateRollout) : Prop where
  id : u'.id = u.id
  plan : u'.toUpdatePlan = u.toUpdatePlan
  job : u'.jobId = u.jobId

section Run

lemma SamePlan.signerRequest (h : SamePlan u u') (view : ReserveView) (n : NodeId) (job : Job)
    (source : SignerSource) (grant : AdminGrant) (op : AgentOperation) (payload : Option NodePayload)
    (release : Option Digest) : signerRequest view u' n job source grant op payload release =
      AgentJobs.signerRequest view u n job source grant op payload release := by
  unfold AgentJobs.signerRequest
  rw [h.id, h.plan]

lemma Genuine.of_plan (hg : Genuine σ now u op grant) (h : SamePlan u u') :
    Genuine σ now u' op grant := by
  obtain ⟨hhour, jobId, hlinked, hfor⟩ := hg
  refine ⟨hhour, jobId, h.job.trans hlinked, hfor.key, hfor.signature, hfor.action,
    hfor.rollout.trans h.id.symm, hfor.job, hfor.nonempty, hfor.nodup, hfor.sorted, ?_, ?_⟩
  · rw [h.plan]
    exact hfor.target
  rw [h.id]
  exact hfor.identities

lemma Sound.of_plan (hr : Sound σ now u r) (h : SamePlan u u') : Sound σ now u' r := by
  obtain ⟨view, n, job, source, grant, htime, hdraws, hsource, hlinked, hr⟩ := hr
  refine ⟨view, n, job, source, grant, htime, hdraws, hsource, h.job.trans hlinked, ?_⟩
  unfold nodePayload at hr ⊢
  simp only [h.signerRequest, h.plan]
  rcases hr with ⟨p, hp, hg, rfl⟩ | ⟨hg, rfl⟩
  · exact .inl ⟨p, hp, hg.of_plan h, rfl⟩
  exact .inr ⟨hg.of_plan h, rfl⟩

lemma Sound.rolloutId (h : Sound σ now u r) : r.rolloutId = u.id := by
  obtain ⟨view, n, job, source, grant, -, -, -, -, ⟨p, -, -, rfl⟩ | ⟨-, rfl⟩⟩ := h <;> rfl

lemma generation_of_source {node : AgentNode} {source : SignerSource}
    (h : signerSource node = .ok source) :
    1 ≤ source.generation ∧ source.generation ≤ 999999999 := by
  obtain ⟨running, -, -, -, hgeneration⟩ := signerSource_eq_ok h
  rw [← hgeneration]
  exact running.generation_range

lemma sound_of_asks {view : ReserveView} (htime : view.now ≤ now) (hdraws : DrawsVersion4 view)
    (hgrants : ∀ op grant, op.signed = true → adminGrant u op = .ok grant → Genuine σ now u op grant)
    (h : Asks view u op r) : Sound σ now u r := by
  obtain ⟨db, n, hu, hpayload, -, hop, v, rn, node, parent, hv, hrn, -, hparent, hadmit⟩ := h
  obtain rfl : u = v := Option.mem_unique hu hv
  obtain ⟨source, grant, hsource, -, -, hstate, hgrant, rfl⟩ := admit_eq_ok hadmit
  have hgenuine := hgrants op grant hop hgrant
  obtain ⟨jobId, hjob, hstored⟩ := Option.bind_eq_some_iff.mp hparent
  have hlinked : u.jobId = some parent.id := by
    rw [hjob, show parent.id = jobId from get?_key hstored]
  have hkey : (rn.rolloutId, rn.nodeId) = (u.id, n) := get?_key hrn
  obtain rfl : rn.nodeId = n := congrArg Prod.snd hkey
  refine ⟨view, rn.nodeId, parent, source, grant, htime, hdraws, generation_of_source hsource,
    hlinked, ?_⟩
  cases op with
  | agentUpdate =>
    obtain ⟨p, hp⟩ := Option.isSome_iff_exists.mp (hpayload rfl)
    exact .inl ⟨p, hp, hgenuine, by rw [if_pos rfl, if_pos rfl, hp]⟩
  | agentRollback => exact .inr ⟨hgenuine, by simp⟩
  | _ => cases hop

/-- A step writes the row of one rollout: its plan stays, and its grants are genuine. -/
theorem Lawful.own (h : Lawful σ now db) (hu : db.rollouts.get? u.id = some u)
    (hothers : OthersKept u.id db db') (hown : db'.rollouts.get? u.id = some u')
    (hplan : SamePlan u u')
    (hgrants : ∀ op grant, op.signed = true → adminGrant u' op = .ok grant →
      Genuine σ now u op grant)
    (hrequests : ∀ j ∈ db'.intents.rows, (∃ i ∈ db.intents.rows, i.request = j.request) ∨
      Sound σ now u j.request) : Lawful σ now db' := by
  have hrow : db'.rollouts.get? u'.id = some u' := by
    rw [hplan.id]
    exact hown
  refine ⟨?_, ?_⟩
  · intro v hv op grant hop hgrant
    by_cases hid : v.id = u.id
    · rw [hid] at hv
      obtain rfl : u' = v := Option.mem_unique hown hv
      exact (hgrants op grant hop hgrant).of_plan hplan
    rw [hothers.rollouts v.id hid] at hv
    exact h.grants v hv op grant hop hgrant
  intro j hj
  rcases hrequests j hj with ⟨i, hi, heq⟩ | hnew
  · obtain ⟨v, hvid, hv, hsound⟩ := h.requests i hi
    rw [heq] at hvid hsound
    by_cases hid : v.id = u.id
    · rw [hid] at hv
      obtain rfl : u = v := Option.mem_unique hu hv
      exact ⟨u', hvid.trans hplan.id.symm, hrow, hsound.of_plan hplan⟩
    exact ⟨v, hvid, (hothers.rollouts v.id hid).trans hv, hsound⟩
  exact ⟨u', hnew.rolloutId.trans hplan.id.symm, hrow, hnew.of_plan hplan⟩

lemma Lawful.writes {A : SignerRequest → Prop} (h : Lawful σ now db)
    (hu : db.rollouts.get? u.id = some u) (hA : ∀ r, A r → Sound σ now u r)
    (hw : Writes A db db' u u') : Lawful σ now db' := by
  have hplan : SamePlan u u' :=
    ⟨congrArg (·.id) hw.bound, congrArg (·.toUpdatePlan) hw.bound, congrArg (·.jobId) hw.bound⟩
  refine h.own hu hw.others hw.own hplan ?_ fun j hj => (hw.requests j hj).imp_right (hA _)
  intro op grant hop hgrant
  refine h.grants u hu op grant hop ?_
  rw [← hgrant]
  exact (congrArg (adminGrant · op) hw.bound).symm

lemma Lawful.call {view : TickView} (h : Lawful σ now s.db) (hproper : Proper σ now s (.tick view))
    (hu : s.db.rollouts.get? u.id = some u') (hid : u'.id = u.id) :
    Lawful σ now (callOrchestrator view s u).1.db := by
  have hu' : s.db.rollouts.get? u'.id = some u' := by
    rw [hid]
    exact hu
  obtain ⟨htime, hdraws⟩ := hproper.2.2 u'.id
  obtain ⟨⟨v, hwrites, -⟩, -⟩ := callOrchestrator_moves (A := Sound σ now u') hu hid
    fun op r hasks => sound_of_asks htime hdraws (h.grants u' hu') hasks
  exact h.writes hu' (fun _ hr => hr) hwrites

lemma Lawful.tick {view : TickView} (h : Lawful σ now s.db)
    (hproper : Proper σ now s (.tick view)) : Lawful σ now (Updates.tick view s).1.db := by
  unfold Updates.tick
  split
  · exact h
  next id s' result hhandled =>
  obtain ⟨u, hu, hcases⟩ := tickRollout_cases (firstHandled_mem hhandled).2
  obtain rfl : u.id = id := get?_key hu
  rcases hcases with hsame | ⟨hset, -⟩ | ⟨-, targets, db, hrefresh, hcall⟩ | ⟨-, hcall, -⟩
  · obtain rfl : s' = s := hsame
    exact h
  · obtain rfl : s' = _ := hset
    exact h
  · have hs : s' = (callOrchestrator view { s with db := db } u).1 := congrArg Prod.fst hcall
    rw [hs]
    obtain ⟨jobId, grant, hjob, hrow, hdb, hothers, -, -, hfor, hexpiry⟩ :=
      refreshed_grant hproper.1 hu hrefresh
    suffices hlawful : Lawful σ now db from Lawful.call hlawful hproper hrow rfl
    refine h.own hu hothers hrow ⟨rfl, rfl, rfl⟩ ?_ fun j hj => .inl ⟨j, ?_, rfl⟩
    · intro op g hop hg
      by_cases hupdate : op = .agentUpdate
      · subst hupdate
        simp only [adminGrant, if_true, Except.ok.injEq] at hg
        subst hg
        rcases hexpiry with hold | hexpiry
        · exact h.grants u hu .agentUpdate grant hop (by simp [adminGrant, hold])
        have htime := epoch_mono hproper.2.1
        exact ⟨by omega, jobId, hjob, hfor⟩
      refine h.grants u hu op g hop ?_
      rw [← hg]
      simp [adminGrant, hupdate]
    have hj' : j ∈ db.intents.rows := hj
    rwa [hdb] at hj'
  have hs : s' = (callOrchestrator view s u).1 := congrArg Prod.fst hcall
  rw [hs]
  exact h.call hproper hu rfl

lemma Lawful.approve {view : RolloutView} {issuer : GrantIssuer} {reason : String}
    (h : Lawful σ now db) (htrusted : IssuerTrusted issuer σ) (htime : view.now ≤ now)
    (hu : db.rollouts.get? u.id = some u)
    (happrove : adminApproveResume view issuer db u.id reason = .ok db') : Lawful σ now db' := by
  rcases approve_cases hu happrove with
    ⟨-, jobId, targets, grant, hjob, hissue, rfl⟩ | ⟨-, u', hwrites, -⟩
  · obtain ⟨hfor, -, hexpiry⟩ := issued_grant htrusted hissue (by simp)
    refine h.own hu (.setRollout _ _) (get?_setRollout_self hu _ _) ⟨rfl, rfl, rfl⟩ ?_
      fun j hj => .inl ⟨j, hj, rfl⟩
    intro op g hop hg
    by_cases hupdate : op = .agentUpdate
    · refine h.grants u hu op g hop ?_
      rw [← hg]
      simp [adminGrant, hupdate]
    obtain rfl : op = .agentRollback := by
      cases op <;> first | rfl | exact absurd rfl hupdate | cases hop
    simp only [adminGrant, reduceCtorEq, if_false, Except.ok.injEq] at hg
    subst hg
    have hepoch := epoch_mono htime
    exact ⟨by omega, jobId, hjob, hfor⟩
  exact h.writes hu (fun _ hfalse => hfalse.elim) hwrites

lemma Lawful.create {view : RolloutView} {plan : UpdatePlan} {id jobId : Uuid}
    {grant : Option AdminGrant} (h : Lawful σ now s.db)
    (hproper : Proper σ now s (.create view plan id jobId grant))
    (hcreate : Updates.create view s.db plan id jobId grant = .ok db) : Lawful σ now db := by
  rcases create_cases hcreate with rfl | ⟨hnone, hothers, hintents, hrow⟩
  · exact h
  refine ⟨?_, ?_⟩
  · intro v hv op g hop hg
    by_cases hid : v.id = id
    · rw [hid] at hv
      obtain rfl := Option.mem_unique hrow hv
      by_cases hupdate : op = .agentUpdate
      · subst hupdate
        refine hproper g ?_
        cases grant with
        | none => simp [adminGrant] at hg
        | some g' => simpa [adminGrant] using hg
      simp [adminGrant, hupdate] at hg
    rw [hothers.rollouts v.id hid] at hv
    exact h.grants v hv op g hop hg
  intro j hj
  rw [hintents] at hj
  obtain ⟨v, hvid, hv, hsound⟩ := h.requests j hj
  refine ⟨v, hvid, ?_, hsound⟩
  rw [hothers.rollouts v.id ?_]
  · exact hv
  rintro rfl
  rw [hv] at hnone
  cases hnone

lemma Lawful.step (h : Lawful σ now s.db) {e : WorkerEvent} (hproper : Proper σ now s e) :
    Lawful σ now (workerStep s e).db := by
  cases e with
  | tick view => exact h.tick hproper
  | approveResume view issuer id reason =>
    simp only [workerStep]
    split
    · next db hdb =>
      obtain ⟨u, rfl, hu⟩ := approved_row hdb
      exact h.approve hproper.1 hproper.2 hu hdb
    exact h
  | create view plan id jobId grant =>
    simp only [workerStep]
    split
    · next db hdb => exact h.create hproper hdb
    exact h
  | environment tables =>
    refine ⟨h.grants, fun i hi => h.requests i ?_⟩
    rw [← show tables.intents = s.db.intents from hproper]
    exact hi

lemma Lawful.run (h : Lawful σ now s.db) {events : List WorkerEvent}
    (horderly : Orderly σ now s events) : Lawful σ now (workerRun s events).db := by
  induction events generalizing s with
  | nil => exact h
  | cons e events ih => exact ih (h.step horderly.1) horderly.2

lemma Lawful.start (tables : Database) (h : tables.intents = .empty) :
    Lawful σ now (startWorker tables).db := by
  refine ⟨fun u hu => (by cases hu), fun i hi => ?_⟩
  rw [show (startWorker tables).db.intents = .empty from h] at hi
  cases hi

end Run

/-! ### The request that is signed -/

/-- The request of an earlier reservation, while it has not run out. -/
def openRequest (db : Database) (u : UpdateRollout) (op : AgentOperation) (now : Time) (n : NodeId) :
    Option SignerRequest :=
  ((existingIntent db u.id n op).filter (intentCurrent db now)).map (·.request)

/-- The open request of a node is covered by the grant that it carries; if there is none, the stored
grant covers the request that is built at `now`. -/
def Covers (db : Database) (u : UpdateRollout) (op : AgentOperation) (now signedAt : Time)
    (n : NodeId) : Prop :=
  match openRequest db u op now n with
  | some r => Lasts signedAt r.adminGrant n r.expiresAt
  | none => ∀ grant, adminGrant u op = .ok grant → Lasts signedAt grant n (epoch now + 600)

section Reserved

lemma mem_of_openRequest {n : NodeId} (h : openRequest db u op now n = some r) :
    ∃ i ∈ db.intents.rows, i.request = r ∧ r.rolloutId = u.id ∧ r.nodeId = n ∧ r.action = op := by
  obtain ⟨i, hi, rfl⟩ := Option.map_eq_some_iff.mp h
  obtain ⟨hi, hmatch⟩ := mem_of_firstBy (Option.filter_eq_some_iff.mp hi).1
  simp only [Bool.and_eq_true, decide_eq_true_eq] at hmatch
  exact ⟨i, hi, rfl, hmatch.1.1.1, hmatch.1.1.2, hmatch.1.2⟩

lemma Asks.request_eq {view : ReserveView} (h : Asks view u op r) :
    adminGrant u op = .ok r.adminGrant ∧ r.expiresAt = epoch view.now + 600 := by
  obtain ⟨db, n, hu, -, -, -, v, rn, node, parent, hv, -, -, -, hadmit⟩ := h
  obtain rfl : u = v := Option.mem_unique hu hv
  obtain ⟨source, grant, -, -, -, -, hgrant, rfl⟩ := admit_eq_ok hadmit
  exact ⟨hgrant, epoch_add_seconds view.now 600⟩

/-- A reservation for one node leaves the open requests of the others. -/
theorem existingIntent_reserve {view : ReserveView} {id : Uuid} {n m : NodeId}
    {payload : Option NodePayload} {release : Option Digest} {x : ReservedUpdateAuthorization}
    (h : reserveUpdateAuthorization view db id n op payload release = .ok (x, db')) (hm : m ≠ n) :
    existingIntent db' id m op = existingIntent db id m op := by
  obtain ⟨request, hadmitted, ⟨i, -, -, -, rfl⟩ | ⟨-, -, -, hinsert⟩⟩ := reserve_cases h
  · rfl
  unfold existingIntent firstBy
  refine congrArg (List.argmin _) ?_
  have hnew : request.nodeId ≠ m := by
    rw [hadmitted.request_eq.2.1]
    exact hm.symm
  unfold select
  rw [(insert_eq_some.mp hinsert).2, List.filter_append]
  refine (congrArg₂ (· ++ ·) ?_ (List.filter_eq_nil_iff.mpr (by simp [newIntent, hnew]))).trans
    (List.append_nil _)
  unfold retireIntent
  split
  · rfl
  next i hexisting =>
  obtain ⟨hi, hmatch⟩ := mem_of_firstBy hexisting
  simp only [Bool.and_eq_true, decide_eq_true_eq] at hmatch
  have hother : i.request.nodeId ≠ m := by
    rw [hmatch.1.1.2]
    exact hm.symm
  refine select_updateWhere (t := db.intents) (f := fun j => { j with state := .stale }) (fun _ => rfl)
    fun j hj hid => ?_
  obtain rfl : j = i := eq_of_key hj hi (of_decide_eq_true hid)
  simp [hother]

lemma reserveNodes_requests {view : RolloutView} {g : UpdateRolloutNode → UpdateRolloutNode}
    {hg : ∀ n, Keyed.key (g n) = Keyed.key n} (hu : db.rollouts.get? u.id = some u)
    (hnodup : (nodes.map Keyed.key).Nodup) (hids : ∀ n ∈ nodes, n.rolloutId = u.id)
    (hpayload : op = .agentUpdate → ∀ n ∈ nodes, (nodePayload u n.nodeId).isSome = true)
    (h : reserveNodes view u op g hg db nodes = .ok (reserved, db')) :
    ∀ p ∈ reserved, p.2.request.nodeId = p.1.nodeId ∧ p.2.request.action = op ∧
      (openRequest db u op view.now p.1.nodeId = some p.2.request ∨
        openRequest db u op view.now p.1.nodeId = none ∧ Asks view.toReserveView u op p.2.request) := by
  induction nodes generalizing db reserved with
  | nil =>
    cases h
    intro p hp
    cases hp
  | cons n nodes ih =>
    obtain ⟨⟨x, db₁⟩, hreserve, ⟨others, db₂⟩, hrest, h⟩ := of_bind_ok₂ h
    cases h
    have hkept : db₁ = { setNodes db [n] g hg with intents := db₁.intents } := reserve_intents hreserve
    intro p hp
    rcases List.mem_cons.mp hp with rfl | hp
    · obtain ⟨request, hadmitted, hcases⟩ := reserve_cases hreserve
      rcases hcases with ⟨i, hexisting, hcurrent, rfl, -⟩ | ⟨hspent, rfl, -⟩
      · have hopen : openRequest db u op view.now n.nodeId = some i.request := by
          unfold openRequest
          have hsame : intentCurrent db view.now i = true := hcurrent
          rw [show existingIntent db u.id n.nodeId op = some i from hexisting,
            Option.filter_some_pos hsame, Option.map_some]
        obtain ⟨-, -, -, -, hnode, haction⟩ := mem_of_openRequest hopen
        exact ⟨hnode, haction, .inl hopen⟩
      have hclosed : openRequest db u op view.now n.nodeId = none := by
        unfold openRequest
        rw [Option.map_eq_none_iff, Option.filter_eq_none_iff]
        intro i hi
        rw [show intentCurrent db view.now i = false from hspent i hi]
        exact Bool.false_ne_true
      refine ⟨hadmitted.request_eq.2.1, hadmitted.request_eq.2.2.1, .inr ⟨hclosed, ?_⟩⟩
      exact ⟨setNodes db [n] g hg, n.nodeId, hu, fun hop => hpayload hop n List.mem_cons_self,
        hadmitted⟩
    have hu₁ : db₁.rollouts.get? u.id = some u := by
      rw [hkept]
      exact hu
    have hmem : p.1 ∈ nodes := by
      rw [← map_fst_reserveNodes hrest]
      exact List.mem_map_of_mem hp
    have hne : p.1.nodeId ≠ n.nodeId := nodeId_ne_of_nodup hnodup hids hmem
    have hsame : openRequest db₁ u op view.now p.1.nodeId = openRequest db u op view.now p.1.nodeId := by
      unfold openRequest
      rw [existingIntent_reserve hreserve hne, hkept]
      rfl
    rw [← hsame]
    exact ih hu₁ (List.nodup_cons.mp hnodup).2 (fun m hm => hids m (.tail _ hm))
      (fun hop m hm => hpayload hop m (.tail _ hm)) hrest p hp

section

variable {g : SelectedGeneration} {file : TargetFile}

lemma Sound.update_iff (h : Sound σ now u r) (haction : r.action = .agentUpdate)
    (hdeployed : Deployed σ g file) (hserved : TargetServed file u (u.payloads.map (·.2))) :
    (∃ payload, authorize σ now r = .ok payload) ↔ g.tufTargetsVersion = σ.publication.version ∧
      u.tufTargetsVersion = σ.publication.version ∧
      Lasts now r.adminGrant r.nodeId r.expiresAt := by
  obtain ⟨view, n, job, source, grant, htime, hdraws, hsource, hlinked, hr⟩ := h
  rcases hr with ⟨p, hp, ⟨hhour, jobId, hjob, hfor⟩, rfl⟩ | ⟨-, rfl⟩
  · obtain rfl : job.id = jobId := Option.mem_unique hlinked hjob
    have hpayload : p ∈ u.payloads.map (·.2) := by
      obtain ⟨q, hq, rfl⟩ := Option.map_eq_some_iff.mp hp
      exact List.mem_map_of_mem (List.mem_of_find?_eq_some hq)
    rw [update_accepted_iff hdeployed hfor hdraws hsource htime hhour rfl
      ⟨hserved.name, hserved.digest, fun q hq => by
        rw [List.mem_singleton.mp hq]
        exact hserved.payloads p hpayload⟩, ← epoch_add_seconds]
    rfl
  cases haction

lemma Sound.rollback_iff (h : Sound σ now u r) (haction : r.action = .agentRollback)
    (hdeployed : Deployed σ g file) :
    (∃ payload, authorize σ now r = .ok payload) ↔ g.tufTargetsVersion = σ.publication.version ∧
      Lasts now r.adminGrant r.nodeId r.expiresAt := by
  obtain ⟨view, n, job, source, grant, htime, hdraws, hsource, hlinked, hr⟩ := h
  rcases hr with ⟨p, -, -, rfl⟩ | ⟨⟨hhour, jobId, hjob, hfor⟩, rfl⟩
  · cases haction
  obtain rfl : job.id = jobId := Option.mem_unique hlinked hjob
  rw [rollback_accepted_iff hdeployed hfor hdraws hsource htime hhour rfl, ← epoch_add_seconds]
  rfl

end

/-- Every request that is reserved is sound, and covered as the state before says. -/
theorem reserved_covers {view : RolloutView} {g : UpdateRolloutNode → UpdateRolloutNode}
    {hg : ∀ n, Keyed.key (g n) = Keyed.key n} (hlawful : Lawful σ now db)
    (hu : db.rollouts.get? u.id = some u) (htime : view.now ≤ now)
    (hdraws : DrawsVersion4 view.toReserveView) (hnodup : (nodes.map Keyed.key).Nodup)
    (hids : ∀ n ∈ nodes, n.rolloutId = u.id)
    (hpayload : op = .agentUpdate → ∀ n ∈ nodes, (nodePayload u n.nodeId).isSome = true)
    (h : reserveNodes view u op g hg db nodes = .ok (reserved, db'))
    {p : UpdateRolloutNode × ReservedUpdateAuthorization} (hp : p ∈ reserved) :
    Sound σ now u p.2.request ∧ p.2.request.action = op ∧
      (Lasts now p.2.request.adminGrant p.2.request.nodeId p.2.request.expiresAt ↔
        Covers db u op view.now now p.1.nodeId) := by
  obtain ⟨hnode, haction, hcases⟩ := reserveNodes_requests hu hnodup hids hpayload h p hp
  unfold Covers
  rw [hnode]
  rcases hcases with hopen | ⟨hclosed, hasks⟩
  · obtain ⟨i, hi, heq, hid, -⟩ := mem_of_openRequest hopen
    obtain ⟨v, hvid, hv, hsound⟩ := hlawful.requests i hi
    rw [heq] at hvid hsound
    rw [← hvid, hid] at hv
    obtain rfl : u = v := Option.mem_unique hu hv
    rw [hopen]
    exact ⟨hsound, haction, Iff.rfl⟩
  obtain ⟨hgrant, hexpiry⟩ := hasks.request_eq
  rw [hclosed, hexpiry]
  refine ⟨sound_of_asks htime hdraws (hlawful.grants u hu) hasks, haction, ?_⟩
  constructor
  · intro hlasts grant hgrant'
    cases hgrant.symm.trans hgrant'
    exact hlasts
  exact fun hcovers => hcovers _ hgrant

end Reserved

/-- After any orderly run the signer accepts the requests of a batch, and those of a rollback, just
when the version of the target set is the recorded one and the grants cover them; and the worker
takes up a planned batch with a grant that lasts ten minutes. -/
theorem update_authority_iff (σ : Signer) (now : Time) (tables : Database)
    (events : List WorkerEvent) (g : SelectedGeneration) (file : TargetFile)
    (hempty : tables.intents = .empty) (horderly : Orderly σ now (startWorker tables) events)
    (hdeployed : Deployed σ g file) :
    let s := workerRun (startWorker tables) events
    ∀ (u : UpdateRollout) (view : CallView), s.db.rollouts.get? u.id = some u → view.now ≤ now →
      DrawsVersion4 view.toReserveView →
      (∀ nodes reserved db, TargetServed file u (u.payloads.map (·.2)) →
        batchNodes view.digests s.db u = .ok nodes →
        reserveNodes view.toRolloutView u .agentUpdate withdrawnNode (fun _ => rfl) s.db nodes =
          .ok (reserved, db) →
        ∀ p ∈ reserved, (∃ payload, authorize σ now p.2.request = .ok payload) ↔
          g.tufTargetsVersion = σ.publication.version ∧
          u.tufTargetsVersion = σ.publication.version ∧
          Covers s.db u .agentUpdate view.now now p.1.nodeId) ∧
      (∀ v reserved db, reserveRollbacks view.toRolloutView s.db u.id none = .ok (v, reserved, db) →
        ∀ p ∈ reserved, (∃ payload, authorize σ now p.2.request = .ok payload) ↔
          g.tufTargetsVersion = σ.publication.version ∧
          Covers s.db u .agentRollback view.now now p.1.nodeId) ∧
      ∀ nodes issuer t db, PlannedDue view s u nodes → IssuerTrusted issuer σ →
        refreshUpdateGrant issuer t s.db u.id u.currentBatch (nodes.map (·.nodeId)) = .ok db →
        ∃ jobId grant, u.jobId = some jobId ∧
          (advance view { s with db := db } u.id).1.db.rollouts.get? u.id =
            some { u with state := .withdrawing, updateAdminGrant := some grant } ∧
          epoch t + 600 ≤ grant.claims.expiresAt ∧
          grant.claims.nodeIds = nodes.map (·.nodeId) ∧ GrantFor σ u jobId .agentUpdate grant := by
  intro s u view hu htime hdraws
  have hlawful : Lawful σ now s.db := (Lawful.start tables hempty).run horderly
  refine ⟨?_, ?_, fun nodes issuer t db h htrusted hrefresh => h.granted htrusted hrefresh⟩
  · intro nodes reserved db hserved hnodes hreserve p hp
    obtain ⟨hsound, haction, hcovers⟩ := reserved_covers hlawful hu htime hdraws
      (keys_nodup_of_batch hnodes) (rolloutId_of_batch hnodes) (fun _ => payload_of_batch hnodes)
      hreserve hp
    rw [hsound.update_iff haction hdeployed hserved, hcovers]
  intro v reserved db hreserve p hp
  obtain ⟨⟨v', failed⟩, hcandidates, hreserve⟩ := of_bind_ok hreserve
  obtain ⟨⟨reserved', db₁⟩, hreserve', hreserve⟩ := of_bind_ok hreserve
  cases hreserve
  obtain ⟨rfl, -, -, batch, hbatch, rfl⟩ := pausedCandidates_ok hu hcandidates
  have hsub : (rollbackCandidates view.digests s.db v batch view.now).Sublist batch :=
    List.filter_sublist
  obtain ⟨hsound, haction, hcovers⟩ := reserved_covers hlawful hu htime hdraws
    ((keys_nodup_of_batch hbatch).sublist (hsub.map _))
    (fun n hn => rolloutId_of_batch hbatch n (mem_candidates hn).1) (fun hop => by cases hop)
    hreserve' hp
  rw [hsound.rollback_iff haction hdeployed, hcovers]

/-! ### A grant that ran out -/

lemma answerRequest_of_rejected {d : Digests} (h : ¬ ∃ payload, authorize σ now r = .ok payload) :
    answerRequest σ d now r = .error (.runtimeError "signer message bounds are invalid") := by
  unfold answerRequest
  cases hauthorize : authorize σ now r with
  | ok payload => exact absurd ⟨payload, hauthorize⟩ h
  | error e => rfl

lemma signNodes_rejected {p : UpdateRolloutNode × ReservedUpdateAuthorization}
    (hsign : view.sign = answerRequest σ view.digests now) (hp : p ∈ reserved)
    (h : ¬ ∃ payload, authorize σ now p.2.request = .ok payload) :
    ∃ e, signNodes view reserved = .error e := by
  cases hsigned : signNodes view reserved with
  | error e => exact ⟨e, rfl⟩
  | ok signed =>
    exfalso
    induction reserved generalizing signed with
    | nil => cases hp
    | cons q reserved ih =>
      unfold signNodes at hsigned ih
      rw [List.mapM_cons] at hsigned
      obtain ⟨x, hx, hsigned⟩ := of_bind_ok hsigned
      obtain ⟨rest, hrest, -⟩ := of_bind_ok hsigned
      rcases List.mem_cons.mp hp with rfl | hp
      · rw [hsign, answerRequest_of_rejected h] at hx
        cases hx
      exact ih hp rest hrest

def Uncovered (r : SignerRequest) : Prop := r.adminGrant.claims.expiresAt < r.expiresAt

lemma uncovered_rejected (h : Uncovered r) : ¬ ∃ payload, authorize σ now r = .ok payload := by
  rintro ⟨payload, hpayload⟩
  obtain ⟨⟨⟩, -, active, -, hpayload⟩ := of_bind_ok₂ hpayload
  obtain ⟨⟨⟩, hverify, -⟩ := of_bind_ok hpayload
  unfold verifyGrant at hverify
  simp only at hverify
  split_ifs at hverify with h₁ h₂ h₃ h₄ h₅
  simp only [grantAuthorizes, Bool.not_eq_false, Bool.and_eq_true, decide_eq_true_eq] at h₅
  exact absurd h₅.2 (not_le.mpr h)

/-- The only rollout is withdrawing under the grant, and no request is covered. -/
structure RanOut (s : System) (u : UpdateRollout) (grant : AdminGrant) : Prop where
  row : s.db.rollouts.get? u.id = some u
  state : u.state = .withdrawing
  stored : u.updateAdminGrant = some grant
  alone : ∀ v ∈ s.db.rollouts.rows, v.id = u.id
  intents : ∀ i ∈ s.db.intents.rows, Uncovered i.request

section RanOut

lemma RanOut.of_db {s' : System} (h : RanOut s u grant) (hrollouts : s'.db.rollouts = s.db.rollouts)
    (hintents : ∀ i ∈ s'.db.intents.rows, Uncovered i.request) : RanOut s' u grant := by
  refine ⟨?_, h.state, h.stored, ?_, hintents⟩
  · rw [hrollouts]
    exact h.row
  rw [hrollouts]
  exact h.alone

/-- The calls of the worker are those of a signer, and come too late for the grant. -/
structure TooLate (view : CallView) (grant : AdminGrant) : Prop where
  late : grant.claims.expiresAt < epoch view.now + 600
  sign : ∃ σ now, view.sign = answerRequest σ view.digests now

lemma RanOut.reserves (h : RanOut s u grant) (hlate : grant.claims.expiresAt < epoch view.now + 600)
    (hnodes : batchNodes view.digests s.db u = .ok nodes)
    (hreserve : reserveNodes view.toRolloutView u .agentUpdate withdrawnNode (fun _ => rfl) s.db nodes =
      .ok (reserved, db)) :
    RanOut { s with db := db } u grant ∧ ∀ p ∈ reserved, Uncovered p.2.request := by
  have hids := rolloutId_of_batch hnodes
  have hpayload := payload_of_batch hnodes
  have hasks : ∀ r, Asks view.toReserveView u .agentUpdate r → Uncovered r := by
    intro r hr
    obtain ⟨hgrant, hexpiry⟩ := hr.request_eq
    simp only [adminGrant, if_true, h.stored, Except.ok.injEq] at hgrant
    unfold Uncovered
    rw [← hgrant, hexpiry]
    exact hlate
  have hrollouts := reserveNodes_induction (fun db => db.rollouts = s.db.rollouts)
    (fun _ _ _ hkept => hkept) (fun _ _ _ _ hkept _ => hkept) rfl hreserve
  have hwrites := writes_reserveNodes hasks hids (fun _ => hpayload) (.refl h.row) hreserve
  refine ⟨h.of_db hrollouts fun i hi => ?_, fun p hp => ?_⟩
  · rcases hwrites.requests i hi with ⟨j, hj, hsame⟩ | hnew
    · rw [← hsame]
      exact h.intents j hj
    exact hnew
  obtain ⟨-, -, hopen | ⟨-, hr⟩⟩ :=
    reserveNodes_requests h.row (keys_nodup_of_batch hnodes) hids (fun _ => hpayload) hreserve p hp
  · obtain ⟨i, hi, hsame, -⟩ := mem_of_openRequest hopen
    rw [← hsame]
    exact h.intents i hi
  exact hasks _ hr

lemma RanOut.advance (h : RanOut s u grant) (hlate : TooLate view grant) :
    RanOut (Updates.advance view s u.id).1 u grant := by
  unfold Updates.advance
  split
  · exact h
  next u₁ nodes hsnapshot =>
  obtain ⟨u₂, hu₂, nodes₂, hnodes, hsnapshot⟩ := of_bind_ok₂ hsnapshot
  cases hsnapshot
  obtain rfl := eq_of_rolloutOf h.row hu₂
  simp only [h.state]
  unfold advanceWithdrawing
  split
  · exact h
  split
  · exact h.of_db rfl h.intents
  split
  · exact h.of_db rfl h.intents
  split
  · exact h.of_db rfl h.intents
  next reserved db hreserve =>
  obtain ⟨hranOut, huncovered⟩ := h.reserves hlate.late hnodes hreserve
  obtain ⟨n, hn⟩ := exists_of_batch hnodes
  rw [← map_fst_reserveNodes hreserve] at hn
  obtain ⟨p, hp, -⟩ := List.mem_map.mp hn
  obtain ⟨σ, now, hsign⟩ := hlate.sign
  obtain ⟨e, he⟩ := signNodes_rejected hsign hp (uncovered_rejected (huncovered p hp))
  unfold dispatchUpdates
  rw [he]
  exact hranOut.of_db rfl hranOut.intents

lemma RanOut.tick {view : TickView} (h : RanOut s u grant) (hlate : TooLate (view.call u.id) grant) :
    RanOut (Updates.tick view s).1 u grant := by
  unfold Updates.tick
  split
  · exact h
  next id s' result hhandled =>
  obtain ⟨⟨v, hv, rfl⟩, hr⟩ := firstHandled_mem hhandled
  have hid := h.alone v (mem_candidates_iff.mp hv).1
  rw [hid] at hr
  obtain ⟨w, hw, hcases⟩ := tickRollout_cases hr
  obtain rfl : u = w := Option.mem_unique h.row hw
  rcases hcases with hsame | ⟨hset, -⟩ | ⟨hplanned, -⟩ | ⟨-, hcall, -⟩
  · rw [hsame]
    exact h
  · rw [hset]
    exact h.of_db rfl h.intents
  · exact absurd (h.state.symm.trans hplanned) (by simp)
  have hs' : s' = (Updates.advance (view.call u.id) s u.id).1 := by
    rw [← callOrchestrator_advance (by simp [h.state]), ← hcall]
  rw [hs']
  exact h.advance hlate

def ticksFrom (s : System) (later : List (Table AgentNode × TickView)) : System :=
  later.foldl (fun s p => (Updates.tick p.2 { s with db := { s.db with nodes := p.1 } }).1) s

lemma RanOut.forever (h : RanOut s u grant) (later : List (Table AgentNode × TickView))
    (hlate : ∀ p ∈ later, TooLate (p.2.call u.id) grant) :
    stateOf (ticksFrom s later) u.id = some .withdrawing := by
  induction later generalizing s with
  | nil =>
    rw [stateOf_eq_some]
    exact ⟨u, h.row, h.state⟩
  | cons p later ih =>
    have hcontact : RanOut { s with db := { s.db with nodes := p.1 } } u grant :=
      h.of_db rfl h.intents
    exact ih (hcontact.tick (hlate p List.mem_cons_self))
      fun q hq => hlate q (.tail _ hq)

end RanOut

namespace TwoAgents

open OneAgent (digests target)

def drawn (n k : ℕ) : Uuid := 2 ^ 128 * n + (4 * 2 ^ 76 + 2 ^ 63 + k)

lemma isVersion4_drawn (n : ℕ) (hk : k < 2 ^ 62) : isVersion4 (drawn n k) = true := by
  have hlow : 4 * 2 ^ 76 + 2 ^ 63 + k < 2 ^ 128 := by omega
  have hvariant : (4 * 2 ^ 76 + 2 ^ 63 + k).testBit 63 = true ∧
      (4 * 2 ^ 76 + 2 ^ 63 + k).testBit 62 = false := by
    constructor
    · rw [Nat.testBit_eq_decide_div_mod_eq]
      simp only [decide_eq_true_eq]
      omega
    rw [Nat.testBit_eq_decide_div_mod_eq]
    simp only [decide_eq_false_iff_not]
    omega
  have hsplit : 2 ^ 128 * n = 2 ^ 76 * (2 ^ 52 * n) := by rw [← Nat.mul_assoc, ← Nat.pow_add]
  have hnibble : (4 * 2 ^ 76 + 2 ^ 63 + k) / 2 ^ 76 = 4 := by omega
  have hsixteen : 2 ^ 52 * n = 16 * (2 ^ 48 * n) := by
    rw [← Nat.mul_assoc, show 16 * 2 ^ 48 = 2 ^ 52 from rfl]
  unfold isVersion4 drawn
  rw [Nat.testBit_two_pow_mul_add _ hlow, Nat.testBit_two_pow_mul_add _ hlow, if_pos (by omega),
    if_pos (by omega), hvariant.1, hvariant.2, Nat.shiftRight_eq_div_pow]
  simp only [Bool.and_true, Bool.not_false, decide_eq_true_eq]
  rw [hsplit, Nat.mul_add_div (Nat.two_pow_pos 76), hnibble, hsixteen, Nat.mul_add_mod]

def file : TargetFile :=
  { sha256 := 0
    release := ⟨0, 21, ⟨2, 0, 0⟩, 0, 0, 0, 0, [{ payloadSha256 := 11 }]⟩ }

/-- The control plane runs that release, selected under version 1 of the target set. -/
def generation : SelectedGeneration := ⟨⟨⟨2, 0, 0⟩, 0⟩, 0, 1, 0, 21, ⟨2, 0, 0⟩, 0, 0, 0, 0⟩

def verified (claims : GrantClaims) (_ : ℕ) : Bool :=
  isVersion4 claims.nonce && isVersion4 claims.parentJobId

/-- The signer while the target set has the given version; the release stays published. -/
def signer (version : ℕ) : Signer :=
  { selected := some generation
    publication := ⟨version, fun name => if name = ⟨⟨2, 0, 0⟩, 0⟩ then some file else none⟩
    running := ⟨0, 21, ⟨2, 0, 0⟩, 0⟩
    keyId := 0
    verify := verified
    payloadDigest := fun _ _ => 1 }

def signedIssuer : GrantIssuer := ⟨0, uuid4 77, fun _ => 0, verified⟩

def signedCallAt (t version k : ℕ) : CallView :=
  { callAt t with
    fresh := fun n => ⟨drawn n k, drawn n (k + 1), drawn n (k + 2)⟩
    sign := answerRequest (signer version) digests (seconds t) }

def signedTickAt (t version k : ℕ) : TickView :=
  { now := seconds t, issuer := signedIssuer, renewal := fun _ => .done,
    call := fun _ => signedCallAt t version k }

/-- The batch is created and taken up at second 12, with a grant until second 3612. -/
def takenUp : System :=
  workerRun (startWorker enrolled) (created ++ [.tick (signedTickAt 12 1 1)])

def takenUpRollout : UpdateRollout := { older with state := .withdrawing }

def pendingNode : UpdateRolloutNode :=
  { rolloutId := uuid4 9, nodeId := 1, batchIndex := 0, nodeOrder := 0, sourceIdentityDigest := 5,
    targetArtifactDigest := 11 }

def heldRow : NodeMutationLease := ⟨1, .updateRollout, uuid4 9, 5, .held, seconds 12, seconds 12⟩

def updateJob : Job :=
  { id := uuid4 3, kind := .platformUpdate, targets := [1], updatedAt := seconds 11 }

def activated (s : System) : WorkerEvent :=
  .environment { s.db with
    nodes := s.db.nodes.updateWhere (fun n => decide (n.nodeId = 1)) fun n =>
      { n with runtime := some (target 2 OneAgent.second_generation), lastSeenAt := some (seconds 22) } }

/-- The batch is taken up, and the signer is down at the next tick: the request stays open. -/
def outage : List WorkerEvent :=
  created ++ [.tick (signedTickAt 12 1 1), .tick { signedTickAt 13 1 1 with
    call := fun _ => { signedCallAt 13 1 1 with
      sign := fun _ => .error (.runtimeError "the update signer is unavailable") } }]

def outageSystem : System := workerRun (startWorker enrolled) outage

def drainedNode : UpdateRolloutNode := { pendingNode with state := .routesWithdrawn }

def openedRequest : SignerRequest :=
  signerRequest (signedCallAt 13 1 1).toReserveView takenUpRollout 1 updateJob
    (agentSource outageSystem.db 1) olderGrant .agentUpdate (some { payloadSha256 := 11 }) (some 0)

def signedDispatch : System := workerStep takenUp (.tick (signedTickAt 13 1 1))

def signedFailure : System :=
  workerRun signedDispatch [failedAt 20 signedDispatch, .tick (signedTickAt 21 1 1)]

/-- The operation fails after the agent has changed, and the administrator authorizes the
rollback at second 23. -/
def rolledBack : List WorkerEvent :=
  created ++ [.tick (signedTickAt 12 1 1), .tick (signedTickAt 13 1 1), failedAt 20 signedDispatch,
    .tick (signedTickAt 21 1 1), activated signedFailure,
    .approveResume (signedCallAt 23 1 1).toRolloutView signedIssuer (uuid4 9) "roll back"]

def rollbackSystem : System := workerRun (startWorker enrolled) rolledBack

end TwoAgents

open TwoAgents

section Signed

variable {t version : ℕ}

lemma signer_deployed (h : 1 ≤ version ∧ version ≤ 2147483647) :
    Deployed (signer version) generation file := by
  refine ⟨rfl, rfl, h, rfl, ?_, ?_⟩
  · simp [projectionAgrees, signer, generation, file]
  simp [runningAgrees, signer, generation]

lemma issuer_trusted : IssuerTrusted signedIssuer (signer version) := by
  refine ⟨rfl, fun _ _ => rfl, ?_, ?_⟩
  · intro claims hnonce hjob
    simp [signer, verified, hnonce, hjob]
  intro claims signature h
  simpa [signer, verified] using h

lemma takenUp_due : UpdateDue (signedCallAt t version 1) takenUp takenUpRollout [pendingNode]
    updateJob olderGrant := by
  refine ⟨by decide +kernel, rfl, ?_, ⟨by decide +kernel, rfl, rfl, by decide⟩, rfl,
    ⟨5, ?_⟩, ?_, ?_, ?_, ?_, rfl⟩
  · have hbatch : batchNodes OneAgent.digests takenUp.db takenUpRollout = .ok [pendingNode] := by
      decide +kernel
    exact hbatch
  · intro n hn
    rw [List.mem_singleton.mp hn]
    exact ⟨heldRow, by decide +kernel, ⟨rfl, rfl, rfl⟩, rfl⟩
  · intro n hn
    rw [List.mem_singleton.mp hn]
    exact ⟨agent 1, by decide +kernel, rfl, rfl, rfl⟩
  · intro n hn node hnode
    rw [List.mem_singleton.mp hn] at hnode ⊢
    obtain rfl : agent 1 = node := by
      have hagent : takenUp.db.nodes.get? pendingNode.nodeId = some (agent 1) := by decide +kernel
      exact Option.mem_unique hagent hnode
    have hplanned : plannedSourceHolds OneAgent.digests takenUpRollout pendingNode (agent 1) = true := by
      decide +kernel
    exact hplanned
  · intro n _ i hi
    cases hi
  refine ⟨_, rfl, ?_⟩
  have hlater : seconds t < seconds (t + 1) :=
    Nat.mul_lt_mul_of_pos_right (Nat.lt_succ_self t) (by decide)
  simp [drainReceiptValid, signedCallAt, callAt, takenUpRollout, older, pendingNode, hlater]

end Signed

namespace TwoAgents

def rollbackGrant : AdminGrant :=
  ⟨⟨.agentRollback, 3623, uuid4 77, [1], uuid4 3, uuid4 9, none⟩, 0, 0⟩

def rollbackRollout : UpdateRollout :=
  { failedRollout with rollbackAdminGrant := some rollbackGrant }

def createdSystem : System := workerRun (startWorker enrolled) created

def createdRollout : UpdateRollout := { older with state := .planned, updateAdminGrant := none }

def granted : Database :=
  setRollout createdSystem.db (uuid4 9) fun r => { r with updateAdminGrant := some olderGrant }

end TwoAgents

lemma created_due : PlannedDue (signedCallAt 12 1 1) createdSystem createdRollout [pendingNode] := by
  refine ⟨by decide +kernel, rfl, by decide +kernel, by decide +kernel, by decide +kernel,
    by decide +kernel, ?_⟩
  exact ⟨⟨.updateRollout, uuid4 9, 5, [1], .held⟩,
    { createdSystem.db with leases := .single heldRow }, by decide +kernel⟩

lemma ok_of_toOption {α β : Type} {x : Except JobError α} {f : α → β} {b : β}
    (h : x.toOption.map f = some b) : ∃ a, x = .ok a ∧ f a = b := by
  cases x with
  | error e => cases h
  | ok a => exact ⟨a, rfl, Option.some.inj h⟩

lemma signed_draws (t : ℕ) (hk : k + 2 < 2 ^ 62) :
    DrawsVersion4 (signedCallAt t 1 k).toReserveView := fun n =>
  ⟨isVersion4_drawn n (by omega), isVersion4_drawn n (by omega), isVersion4_drawn n hk⟩

lemma signed_tick_proper {t : ℕ} (s : System) (h : seconds t ≤ now) :
    Proper (signer 1) now s (.tick (signedTickAt t 1 1)) :=
  ⟨issuer_trusted, h, fun _ => ⟨h, signed_draws t (by decide)⟩⟩

lemma created_proper (s : System) : ∀ e ∈ created, Proper σ now s e := by
  intro e he
  rw [List.mem_singleton.mp he]
  intro g hg
  cases hg

lemma outage_orderly : Orderly (signer 1) (seconds 14) (startWorker enrolled) outage := by
  refine orderly_cons (created_proper _ _ List.mem_cons_self) <|
    orderly_cons (signed_tick_proper _ (by decide)) <| orderly_cons ?_ trivial
  have hearlier : seconds 13 ≤ seconds 14 := by decide
  exact ⟨issuer_trusted, hearlier, fun _ => ⟨hearlier, signed_draws 13 (by decide)⟩⟩

lemma rolledBack_orderly : Orderly (signer 1) (seconds 24) (startWorker enrolled) rolledBack := by
  refine orderly_cons (created_proper _ _ List.mem_cons_self) <|
    orderly_cons (signed_tick_proper _ (by decide)) <|
    orderly_cons (signed_tick_proper _ (by decide)) <| orderly_cons ?_ <|
    orderly_cons (signed_tick_proper _ (by decide)) <| orderly_cons ?_ <|
    orderly_cons ⟨issuer_trusted, by decide⟩ trivial
  · exact rfl
  exact rfl

lemma outage_covered :
    Covers outageSystem.db takenUpRollout .agentUpdate (seconds 14) (seconds 14) 1 := by
  have hopen : openRequest outageSystem.db takenUpRollout .agentUpdate (seconds 14) 1 =
      some openedRequest := by decide +kernel
  unfold Covers
  rw [hopen]
  exact ⟨by decide, by decide +kernel, by decide +kernel⟩

lemma rollback_covered :
    Covers rollbackSystem.db rollbackRollout .agentRollback (seconds 24) (seconds 24) 1 := by
  have hclosed : openRequest rollbackSystem.db rollbackRollout .agentRollback (seconds 24) 1 = none := by
    decide +kernel
  unfold Covers
  rw [hclosed]
  intro grant hgrant
  obtain rfl : rollbackGrant = grant := by
    have hstored : adminGrant rollbackRollout .agentRollback = .ok rollbackGrant := rfl
    exact Except.ok.inj (hstored.symm.trans hgrant)
  exact ⟨by decide, by decide, by decide⟩

/-- The request that a signer outage left open is accepted, and so are the request of the rollback
and the grant of a planned batch. -/
theorem batch_authorized_in_time :
    (∃ reserved db, reserveNodes (signedCallAt 14 1 11).toRolloutView takenUpRollout .agentUpdate
        withdrawnNode (fun _ => rfl) outageSystem.db [drainedNode] = .ok (reserved, db) ∧
      reserved.map (·.1) = [drainedNode] ∧
      ∀ p ∈ reserved, ∃ payload, authorize (signer 1) (seconds 14) p.2.request = .ok payload) ∧
    (∃ v reserved db, reserveRollbacks (signedCallAt 24 1 11).toRolloutView rollbackSystem.db
        (uuid4 9) none = .ok (v, reserved, db) ∧ reserved.map (·.1.nodeId) = [1] ∧
      ∀ p ∈ reserved, ∃ payload, authorize (signer 1) (seconds 24) p.2.request = .ok payload) ∧
    (∃ jobId grant, createdRollout.jobId = some jobId ∧
      (advance (signedCallAt 12 1 1) { createdSystem with db := granted }
        (uuid4 9)).1.db.rollouts.get? (uuid4 9) =
          some { createdRollout with state := .withdrawing, updateAdminGrant := some grant } ∧
      epoch (seconds 12) + 600 ≤ grant.claims.expiresAt ∧ grant.claims.nodeIds = [1] ∧
      GrantFor (signer 1) createdRollout jobId .agentUpdate grant) := by
  have hupdate := update_authority_iff (signer 1) (seconds 14) enrolled outage generation file rfl
    outage_orderly (signer_deployed (by decide)) takenUpRollout (signedCallAt 14 1 11)
    (by decide +kernel) (by decide) (signed_draws 14 (by decide))
  have hrollback := update_authority_iff (signer 1) (seconds 24) enrolled rolledBack generation file
    rfl rolledBack_orderly (signer_deployed (by decide)) rollbackRollout (signedCallAt 24 1 11)
    (by decide +kernel) (by decide) (signed_draws 24 (by decide))
  have hplanned := update_authority_iff (signer 1) (seconds 12) enrolled created generation file rfl
    (orderly_cons (created_proper _ _ List.mem_cons_self) trivial) (signer_deployed (by decide))
    createdRollout (signedCallAt 12 1 1) (by decide +kernel) (by decide)
    (signed_draws 12 (by decide))
  refine ⟨?_, ?_, hplanned.2.2 _ _ _ _ created_due issuer_trusted (by decide +kernel)⟩
  · have hlength : (reserveNodes (signedCallAt 14 1 11).toRolloutView takenUpRollout .agentUpdate
        withdrawnNode (fun _ => rfl) outageSystem.db [drainedNode]).toOption.map (·.1.length) =
          some 1 := by decide +kernel
    obtain ⟨⟨reserved, db⟩, hreserve, -⟩ := ok_of_toOption hlength
    have hmap := map_fst_reserveNodes hreserve
    refine ⟨reserved, db, hreserve, hmap, fun p hp => ?_⟩
    refine (hupdate.1 [drainedNode] reserved db ⟨by decide, by decide, by decide⟩ (by decide +kernel)
      hreserve p hp).mpr ⟨rfl, rfl, ?_⟩
    have hmem : p.1 ∈ [drainedNode] := by
      rw [← hmap]
      exact List.mem_map_of_mem hp
    rw [List.mem_singleton.mp hmem]
    exact outage_covered
  have hlength : (reserveRollbacks (signedCallAt 24 1 11).toRolloutView rollbackSystem.db
      (uuid4 9) none).toOption.map (fun x => x.2.1.map (·.1.nodeId)) = some [1] := by decide +kernel
  obtain ⟨⟨v, reserved, db⟩, hreserve, hone⟩ := ok_of_toOption hlength
  have hnode : ∀ p ∈ reserved, p.1.nodeId = 1 := by
    intro p hp
    have hmem : p.1.nodeId ∈ [1] := by
      rw [← hone]
      exact List.mem_map_of_mem hp
    exact List.mem_singleton.mp hmem
  refine ⟨v, reserved, db, hreserve, hone, fun p hp => ?_⟩
  refine (hrollback.2.1 v reserved db hreserve p hp).mpr ⟨rfl, ?_⟩
  rw [hnode p hp]
  exact rollback_covered

/-- The worker was away until the grant was too short; and another release has raised the version of
the target set. -/
theorem late_batch_never_authorized :
    UpdateDue (signedCallAt 3013 1 1) takenUp takenUpRollout [pendingNode] updateJob olderGrant ∧
    Deployed (signer 1) generation file ∧
    (∀ later : List (Table AgentNode × TickView),
      (∀ p ∈ later, seconds 3013 ≤ (p.2.call (uuid4 9)).now ∧ ∃ σ now,
        (p.2.call (uuid4 9)).sign = answerRequest σ (p.2.call (uuid4 9)).digests now) →
      stateOf (ticksFrom takenUp later) (uuid4 9) = some .withdrawing) ∧
    stateOf (tick (signedTickAt 13 2 1) takenUp).1 (uuid4 9) = some .withdrawing := by
  refine ⟨takenUp_due, signer_deployed (by decide), ?_, by decide +kernel⟩
  intro later hlater
  have hranOut : RanOut takenUp takenUpRollout olderGrant :=
    ⟨by decide +kernel, rfl, rfl, by decide +kernel, by
      have hnone : takenUp.db.intents.rows = [] := by decide +kernel
      rw [hnone]
      simp⟩
  refine hranOut.forever later ?_
  intro p hp
  obtain ⟨hnow, hsign⟩ := hlater p hp
  refine ⟨?_, hsign⟩
  have hepoch := epoch_mono hnow
  rw [show epoch (seconds 3013) = 3013 from rfl] at hepoch
  change 3612 < epoch (p.2.call (uuid4 9)).now + 600
  omega

end VonkForge.Updates
