import VonkForge.AuthorizationProgress

/-!
# Interleaved authorizations

Any number of workers reserve, sign, finalize and quarantine authorizations.
-/

namespace VonkForge.Updates

open AgentJobs Transactions Table

variable {op : AgentOperation} {db db' : Database} {stored : List (Uuid × Uuid)} {n : NodeId}
  {release : Option Digest} {payload : Option NodePayload} {view : ReserveView}
  {o : StoredOperation} {i : UpdateAuthorizationIntent} {id : Uuid}

inductive AuthorizationCall
  | reserve (view : ReserveView) (rolloutId : Uuid) (nodeId : NodeId) (op : AgentOperation)
      (payload : Option NodePayload) (release : Option Digest)
  /-- `sign_update_authorization` calls the signer; it reads and writes no row. -/
  | sign (reserved : ReservedUpdateAuthorization)
  | finalize (now : Time) (reserved : ReservedUpdateAuthorization) (response : SignerResponse)
  | markStale (reserved : List ReservedUpdateAuthorization)

inductive AuthorizationEvent
  /-- The calls of one transaction, which commits all of them or none. -/
  | transaction (calls : List AuthorizationCall)
  /-- Any other transaction: it writes no intent and deletes no operation. -/
  | environment (tables : Database)

section

variable (db : Database) (i : UpdateAuthorizationIntent)

def storedSince (db' : Database) : List Uuid :=
  (db'.operations.rows.filter fun o => (db.operations.get? o.id).isNone).map (·.id)

/-- One call, with the operations that it stored and the intents that it stored them for. -/
def authorizationCall : AuthorizationCall → Except JobError (Database × List (Uuid × Uuid))
  | .reserve view rolloutId nodeId op payload release => do
    let (_, db') ← reserveUpdateAuthorization view db rolloutId nodeId op payload release
    .ok (db', [])
  | .sign _ => .ok (db, [])
  | .finalize now reserved response => do
    let (_, db') ← finalizeUpdateAuthorization db now reserved response
    .ok (db', (storedSince db db').map fun o => (reserved.intentId, o))
  | .markStale reserved => .ok (markUpdateAuthorizationsStale db reserved, [])

def nextCall (acc : Database × List (Uuid × Uuid)) (call : AuthorizationCall) :
    Except JobError (Database × List (Uuid × Uuid)) := do
  let (db', stored) ← authorizationCall acc.1 call
  .ok (db', acc.2 ++ stored)

def keepsOperations (tables : Database) : Bool :=
  db.operations.rows.all fun o => (tables.operations.get? o.id).isSome

def authorizationStep : AuthorizationEvent → Except JobError (Database × List (Uuid × Uuid))
  | .transaction calls => calls.foldlM nextCall (db, [])
  | .environment tables =>
    if keepsOperations db tables then .ok ({ tables with intents := db.intents }, [])
    else .error .integrityError

def authorizationsAfter (events : List AuthorizationEvent) : Database :=
  run authorizationStep {} events

def storedBy (events : List AuthorizationEvent) : List (Uuid × Uuid) :=
  (trace authorizationStep {} events).flatMap (·.2)

def SameSubject (j : UpdateAuthorizationIntent) : Prop :=
  i.request.rolloutId = j.request.rolloutId ∧ i.request.nodeId = j.request.nodeId ∧
    i.request.action = j.request.action

def liveIntent : Bool :=
  match i.state with
  | .reserved | .signed => true
  | .queued => (db.operations.get? i.request.operationId).any (·.state.unfinished)
  | .stale => false

def AtMostOneLive : Prop :=
  ∀ i ∈ db.intents.rows, ∀ j ∈ db.intents.rows,
    liveIntent db i = true → liveIntent db j = true → SameSubject i j → i = j

/-- A queued intent is finalized again, with whatever response, without a write. -/
def FinalizeIdempotent : Prop :=
  ∀ i ∈ db.intents.rows, i.state = .queued → ∀ now reserved response, reserved.intentId = i.id →
    finalizeUpdateAuthorization db now reserved response = .ok (some i.request.operationId, db)

def StaleKept (db' : Database) : Prop :=
  ∀ k i, db.intents.get? k = some i → i.state = .stale → db'.intents.get? k = some i

/-- The rows under which an intent is reserved: the states of the rollout and of its node, the
lease, the running identity and the expiry. -/
structure BoundTo (now : Time) (i : UpdateAuthorizationIntent) : Prop where
  rollout : ∃ u, db.rollouts.get? i.request.rolloutId = some u ∧
    u.jobId = some i.request.parentJobId ∧
    u.state = if i.request.action = .agentUpdate then .withdrawing else .paused
  rolloutNode : ∃ n, db.rolloutNodes.get? (i.request.rolloutId, i.request.nodeId) = some n ∧
    n.state = if i.request.action = .agentUpdate then .routesWithdrawn else .failed
  lease : ∃ l, db.leases.get? i.request.nodeId = some l ∧ l.ownerKind = .updateRollout ∧
    l.ownerId = i.request.rolloutId ∧ l.state = .held
  source : ∃ node running, db.nodes.get? i.request.nodeId = some node ∧
    node.runtime = some running ∧ running.activeSlot = i.request.source.slot ∧
    running.agentSha256 = i.request.source.sha256 ∧
    running.supervisorGeneration = i.request.source.generation
  unexpired : now < i.expiresAt

/-- Every new intent is reserved under the rows that it is bound to. -/
def ReservesBound : Prop :=
  ∀ view id n op payload release r db',
    reserveUpdateAuthorization view db id n op payload release = .ok (r, db') →
    db'.intents ≠ db.intents → ∃ i, db'.intents.get? r.intentId = some i ∧ BoundTo db view.now i

/-- Every operation is stored under the rows that its intent is bound to. -/
def StoresBound : Prop :=
  ∀ now reserved response out db',
    finalizeUpdateAuthorization db now reserved response = .ok (out, db') →
    db'.operations ≠ db.operations →
      ∃ i, db.intents.get? reserved.intentId = some i ∧ BoundTo db now i

end

section Bindings

variable {now : Time} {request : SignerRequest}

lemma leaseHeld_eq_true (h : leaseHeld db id n = true) :
    ∃ l, db.leases.get? n = some l ∧ l.ownerKind = .updateRollout ∧ l.ownerId = id ∧
      l.state = .held := by
  unfold leaseHeld at h
  cases hl : db.leases.get? n with
  | none =>
    rw [hl] at h
    cases h
  | some l =>
    simp only [hl, Option.any_some, Bool.and_eq_true, decide_eq_true_eq] at h
    exact ⟨l, rfl, h.1.1, h.1.2, h.2⟩

lemma authorizationState_eq_ok {u : UpdateRollout} {rolloutNode : UpdateRolloutNode}
    {parent : Job} (h : authorizationState u rolloutNode parent op payload release = .ok ()) :
    (u.state = if op = .agentUpdate then .withdrawing else .paused) ∧
      rolloutNode.state = if op = .agentUpdate then .routesWithdrawn else .failed := by
  unfold authorizationState at h
  by_cases hop : op = .agentUpdate
  · simp only [if_pos hop] at h ⊢
    split_ifs at h with hbad
    simp only [not_or, not_not] at hbad
    exact ⟨hbad.1, hbad.2.1⟩
  simp only [if_neg hop] at h ⊢
  split_ifs at h with hbad
  simp only [not_or, not_not] at hbad
  exact ⟨hbad.1, hbad.2.1⟩

lemma Admitted.boundTo (h : Admitted view db id n op payload release request) :
    BoundTo db view.now (newIntent view request) := by
  obtain ⟨-, -, u, rn, node, parent, hu, hrn, hnode, hparent, hgranted⟩ := h
  obtain ⟨source, grant, hsource, -, hlease, hstate, -, rfl⟩ := admit_eq_ok hgranted
  obtain ⟨hustate, hnstate⟩ := authorizationState_eq_ok hstate
  obtain ⟨running, hrunning, hslot, hsha, hgeneration⟩ := signerSource_eq_ok hsource
  have hid : u.id = id := get?_key hu
  have hkey : (rn.rolloutId, rn.nodeId) = (id, n) := get?_key hrn
  have hn : rn.nodeId = n := congrArg Prod.snd hkey
  subst hid hn
  obtain ⟨jobId, hjob, hget⟩ := Option.bind_eq_some_iff.mp hparent
  have hjobId : parent.id = jobId := get?_key hget
  subst hjobId
  exact ⟨⟨u, hu, hjob, hustate⟩, ⟨rn, hrn, hnstate⟩, leaseHeld_eq_true hlease,
    ⟨node, running, hnode, hrunning, hslot, hsha, hgeneration⟩,
    Nat.lt_add_of_pos_right (by decide)⟩

lemma boundTo_of_unchanged (h : authorityUnchanged db i = true) (hexpiry : now < i.expiresAt) :
    BoundTo db now i := by
  unfold authorityUnchanged at h
  split at h
  · next u rn node parent hu hrn hnode hparent =>
    simp only [Bool.and_eq_true, decide_eq_true_eq] at h
    obtain ⟨⟨⟨hjob, hlease⟩, hsource⟩, hstates⟩ := h
    have hid : u.id = i.request.rolloutId := get?_key hu
    have hjobId : parent.id = i.request.parentJobId := get?_key hparent
    rw [hjobId] at hjob
    obtain ⟨running, hrunning⟩ : ∃ running, node.runtime = some running := by
      rw [← Option.isSome_iff_exists]
      exact Option.isSome_of_any hsource
    simp only [hrunning, Option.any_some, Bool.and_eq_true, decide_eq_true_eq] at hsource
    have hlease' := leaseHeld_eq_true hlease
    rw [hid] at hlease'
    have hstates' : (u.state = if i.request.action = .agentUpdate then .withdrawing else .paused) ∧
        rn.state = if i.request.action = .agentUpdate then .routesWithdrawn else .failed := by
      by_cases hop : i.request.action = .agentUpdate
      · simp only [if_pos hop, Bool.and_eq_true, decide_eq_true_eq] at hstates ⊢
        exact hstates.1.1
      simp only [if_neg hop, Bool.and_eq_true, decide_eq_true_eq] at hstates ⊢
      exact hstates.1
    exact ⟨⟨u, hu, hjob, hstates'.1⟩, ⟨rn, hrn, hstates'.2⟩, hlease',
      ⟨node, running, hnode, hrunning, hsource.1.1, hsource.1.2, hsource.2⟩, hexpiry⟩
  cases h

lemma finalize_cases {reserved : ReservedUpdateAuthorization} {response : SignerResponse}
    {out : Option Uuid}
    (h : finalizeUpdateAuthorization db now reserved response = .ok (out, db')) :
    ∃ i, db.intents.get? reserved.intentId = some i ∧
      ((i.state = .queued ∧ db' = db) ∨ (i.state ≠ .queued ∧ db' = setIntent db i.id .stale) ∨
        ((i.state = .reserved ∨ i.state = .signed) ∧ BoundTo db now i ∧ ∃ o operations,
          o.id = i.request.operationId ∧ db.operations.insert o = some operations ∧
          db' = setIntent { db with operations := operations } i.id .queued)) := by
  unfold finalizeUpdateAuthorization at h
  split at h
  · cases h
  next i hi =>
  refine ⟨i, hi, ?_⟩
  split_ifs at h with hqueued hstale
  · split at h
    · cases h
      exact .inl ⟨hqueued, rfl⟩
    cases h
  · cases h
    exact .inr (.inl ⟨hqueued, rfl⟩)
  split at h
  · cases h
  obtain ⟨queued, hinsert, h⟩ := of_bind_ok h
  cases h
  unfold insertOperation at hinsert
  split at hinsert
  · next operations hops =>
    cases hinsert
    simp only [not_or, Bool.not_eq_false] at hstale
    have hexact := hstale.1
    unfold responseExact at hexact
    simp only [Bool.and_eq_true, Bool.or_eq_true, decide_eq_true_eq] at hexact
    exact .inr (.inr ⟨hexact.1.1.1.1.1,
      boundTo_of_unchanged hstale.2 hexact.1.1.1.1.2, _, operations, rfl, hops, rfl⟩)
  cases hinsert

lemma storesBound (db : Database) : StoresBound db := by
  intro now reserved response out db' h hnew
  obtain ⟨i, hi, ⟨-, rfl⟩ | ⟨-, rfl⟩ | ⟨-, hbound, -⟩⟩ := finalize_cases h
  · exact absurd rfl hnew
  · exact absurd rfl hnew
  exact ⟨i, hi, hbound⟩

lemma reservesBound (db : Database) : ReservesBound db := by
  intro view id n op payload release r db' h hnew
  obtain ⟨request, hadmitted, ⟨i, -, -, -, rfl⟩ | ⟨-, rfl, -, hinsert⟩⟩ := reserve_cases h
  · exact absurd rfl hnew
  refine ⟨newIntent view request, ?_, hadmitted.boundTo⟩
  rw [get?_insert hinsert]
  exact if_pos rfl

end Bindings

/-- A rollout node has at most one intent for an action that is not stale, and the operation of a
queued intent is stored. -/
structure Exclusive (db : Database) : Prop where
  unique : ∀ i ∈ db.intents.rows, ∀ j ∈ db.intents.rows, i.state ≠ .stale → j.state ≠ .stale →
    SameSubject i j → i = j
  queued : ∀ i ∈ db.intents.rows, i.state = .queued →
    (db.operations.get? i.request.operationId).isSome

def Settled (db : Database) (k : Uuid) : Prop :=
  ∃ i, db.intents.get? k = some i ∧ (i.state = .queued ∨ i.state = .stale)

/-- What a call, or a transaction of several ones, does when it stores operations for the given
intents. -/
structure CallEffect (db db' : Database) (stored : List Uuid) : Prop where
  exclusive : Exclusive db → Exclusive db'
  settled : ∀ k, Settled db k → Settled db' k
  stale : StaleKept db db'
  fresh : ∀ k ∈ stored, ¬ Settled db k ∧ Settled db' k
  nodup : stored.Nodup

lemma CallEffect.refl (db : Database) : CallEffect db db [] :=
  ⟨fun h => h, fun _ h => h, fun _ _ hi _ => hi, fun _ hk => (by cases hk), List.nodup_nil⟩

lemma CallEffect.trans {a b c : Database} {l m : List Uuid} (h : CallEffect a b l)
    (h' : CallEffect b c m) : CallEffect a c (l ++ m) := by
  refine ⟨fun hs => h'.exclusive (h.exclusive hs), fun k hk => h'.settled k (h.settled k hk),
    fun k i hi hs => h'.stale k i (h.stale k i hi hs) hs, ?_, ?_⟩
  · intro k hk
    rcases List.mem_append.mp hk with hk | hk
    · exact ⟨(h.fresh k hk).1, h'.settled k (h.fresh k hk).2⟩
    exact ⟨fun hs => (h'.fresh k hk).1 (h.settled k hs), (h'.fresh k hk).2⟩
  apply List.Nodup.append h.nodup h'.nodup
  -- what the first stored is settled when the second begins
  intro k hk hk'
  exact (h'.fresh k hk').1 (h.fresh k hk).2

section Effects

lemma get?_setIntent (db : Database) (id k : Uuid) (state : IntentState) :
    (setIntent db id state).intents.get? k =
      (db.intents.get? k).map fun i => if i.id = id then { i with state := state } else i := by
  simp only [setIntent, get?_updateWhere, decide_eq_true_eq]

lemma unique_of_descends
    (h : ∀ i ∈ db.intents.rows, ∀ j ∈ db.intents.rows, i.state ≠ .stale → j.state ≠ .stale →
      SameSubject i j → i = j)
    (hd : ∀ j ∈ db'.intents.rows, j.state ≠ .stale →
      ∃ i ∈ db.intents.rows, i.state ≠ .stale ∧ i.id = j.id ∧ i.request = j.request) :
    ∀ i ∈ db'.intents.rows, ∀ j ∈ db'.intents.rows, i.state ≠ .stale → j.state ≠ .stale →
      SameSubject i j → i = j := by
  intro i hi j hj hsi hsj hsame
  obtain ⟨x, hx, hxs, hxid, hxr⟩ := hd i hi hsi
  obtain ⟨y, hy, hys, hyid, hyr⟩ := hd j hj hsj
  have hxy : x = y := by
    apply h x hx y hy hxs hys
    unfold SameSubject
    rw [hxr, hyr]
    exact hsame
  apply eq_of_key hi hj
  change i.id = j.id
  rw [← hxid, ← hyid, hxy]

lemma effect_retire {p : UpdateAuthorizationIntent → Bool}
    (hintents : db'.intents = db.intents.updateWhere p fun i => { i with state := .stale })
    (hops : ∀ k, (db.operations.get? k).isSome → (db'.operations.get? k).isSome) :
    CallEffect db db' [] := by
  have hget : ∀ k, db'.intents.get? k =
      (db.intents.get? k).map fun i => if p i then { i with state := .stale } else i := by
    intro k
    rw [hintents, get?_updateWhere]
  have hrows : ∀ j ∈ db'.intents.rows, j.state ≠ .stale → j ∈ db.intents.rows := by
    intro j hj hs
    rw [hintents, mem_updateWhere] at hj
    rcases hj with ⟨i, hi, -, rfl⟩ | ⟨hj, -⟩
    · exact absurd rfl hs
    exact hj
  refine ⟨fun h => ⟨?_, ?_⟩, ?_, ?_, fun k hk => (by cases hk), List.nodup_nil⟩
  · exact unique_of_descends h.unique fun j hj hs => ⟨j, hrows j hj hs, hs, rfl, rfl⟩
  · intro j hj hq
    exact hops _ (h.queued j (hrows j hj (by simp [hq])) hq)
  · rintro k ⟨i, hi, hs⟩
    refine ⟨if p i then { i with state := .stale } else i, by rw [hget, hi, Option.map_some], ?_⟩
    split
    · exact .inr rfl
    exact hs
  intro k i hi hs
  rw [hget, hi, Option.map_some]
  split
  · rw [← hs]
  rfl

lemma effect_setIntent_stale (id : Uuid) : CallEffect db (setIntent db id .stale) [] :=
  effect_retire rfl fun _ h => h

lemma effect_queue {operations : Table StoredOperation} (hi : db.intents.get? i.id = some i)
    (hstate : i.state = .reserved ∨ i.state = .signed) (ho : o.id = i.request.operationId)
    (hops : db.operations.insert o = some operations) :
    CallEffect db (setIntent { db with operations := operations } i.id .queued) [i.id] := by
  have hget := get?_setIntent { db with operations := operations } i.id
  have hopen : i.state ≠ .queued ∧ i.state ≠ .stale := by
    rcases hstate with h | h <;> simp [h]
  have hself : (setIntent { db with operations := operations } i.id .queued).intents.get? i.id =
      some { i with state := .queued } := by
    rw [hget]
    simp only [hi, Option.map_some, if_true]
  have hrows : ∀ j ∈ (setIntent { db with operations := operations } i.id .queued).intents.rows,
      j = { i with state := .queued } ∨ j ∈ db.intents.rows := by
    intro j hj
    simp only [setIntent, mem_updateWhere, decide_eq_true_eq] at hj
    rcases hj with ⟨x, hx, hid, rfl⟩ | ⟨hj, -⟩
    · rw [eq_of_key hx (mem_of_get? hi) hid]
      exact .inl rfl
    exact .inr hj
  refine ⟨fun h => ⟨?_, ?_⟩, ?_, ?_, ?_, List.nodup_singleton _⟩
  · apply unique_of_descends h.unique
    intro j hj hs
    rcases hrows j hj with rfl | hj
    · exact ⟨i, mem_of_get? hi, hopen.2, rfl, rfl⟩
    exact ⟨j, hj, hs, rfl, rfl⟩
  · intro j hj hq
    change (operations.get? j.request.operationId).isSome
    rw [get?_insert hops]
    split
    · rfl
    next hne =>
    rcases hrows j hj with rfl | hj
    · exact absurd ho.symm hne
    exact h.queued j hj hq
  · rintro k ⟨j, hj, hs⟩
    refine ⟨if j.id = i.id then { j with state := .queued } else j, ?_, ?_⟩
    · rw [hget]
      simp only [hj, Option.map_some]
    split
    · exact .inl rfl
    exact hs
  · intro k j hj hs
    have hne : j.id ≠ i.id := by
      intro he
      rw [eq_of_key (mem_of_get? hj) (mem_of_get? hi) he] at hs
      exact hopen.2 hs
    rw [hget]
    simp only [hj, Option.map_some, if_neg hne]
  intro k hk
  rw [List.mem_singleton.mp hk]
  refine ⟨?_, _, hself, .inl rfl⟩
  rintro ⟨j, hj, hs⟩
  rw [Option.mem_unique hj hi] at hs
  exact hs.elim hopen.1 hopen.2

section Insert

variable {intents : Table UpdateAuthorizationIntent}

lemma exclusive_insert (hins : db.intents.insert i = some intents) (hstate : i.state = .reserved)
    (hother : ∀ j ∈ db.intents.rows, SameSubject j i → j.state = .stale) (h : Exclusive db) :
    Exclusive { db with intents := intents } := by
  refine ⟨?_, ?_⟩
  · intro x hx y hy hsx hsy hsame
    rcases (mem_insert hins).mp hx with hx | rfl <;> rcases (mem_insert hins).mp hy with hy | rfl
    · exact h.unique x hx y hy hsx hsy hsame
    · exact absurd (hother x hx hsame) hsx
    · exact absurd (hother y hy ⟨hsame.1.symm, hsame.2.1.symm, hsame.2.2.symm⟩) hsy
    rfl
  intro j hj hq
  rcases (mem_insert hins).mp hj with hj | rfl
  · exact h.queued j hj hq
  rw [hstate] at hq
  cases hq

end Insert

lemma retireIntent_stale (h : Exclusive db) :
    ∀ j ∈ (retireIntent db id n op).intents.rows, j.request.rolloutId = id →
      j.request.nodeId = n → j.request.action = op → j.state = .stale := by
  intro j hj hid hn hop
  by_contra hs
  have hmatch : ∀ x : UpdateAuthorizationIntent, x.request = j.request → x.state ≠ .stale →
      (x.request.rolloutId = id && x.request.nodeId = n && x.request.action = op &&
        x.state ≠ .stale) = true := by
    intro x hx hxs
    simp [hx, hid, hn, hop, hxs]
  unfold retireIntent at hj
  cases hexisting : existingIntent db id n op with
  | none =>
    rw [hexisting] at hj
    have hnone := Table.firstBy_eq_none.mp hexisting j hj
    rw [hmatch j rfl hs] at hnone
    cases hnone
  | some i =>
    rw [hexisting] at hj
    obtain ⟨hi, hsubject⟩ := mem_of_firstBy hexisting
    simp only [Bool.and_eq_true, decide_eq_true_eq] at hsubject
    simp only [setIntent, mem_updateWhere, decide_eq_true_eq, decide_eq_false_iff_not] at hj
    rcases hj with ⟨x, -, -, rfl⟩ | ⟨hj, hne⟩
    · exact hs rfl
    -- an intent besides the latest would be a second one
    apply hne
    have hij : i = j := by
      apply h.unique i hi j hj hsubject.2 hs
      exact ⟨hsubject.1.1.1.trans hid.symm, hsubject.1.1.2.trans hn.symm,
        hsubject.1.2.trans hop.symm⟩
    rw [hij]

lemma effect_reserve {r : ReservedUpdateAuthorization}
    (h : reserveUpdateAuthorization view db id n op payload release = .ok (r, db')) :
    CallEffect db db' [] := by
  obtain ⟨request, hadmitted, ⟨i, -, -, -, rfl⟩ | ⟨-, -, hdb, hinsert⟩⟩ := reserve_cases h
  · exact .refl _
  obtain ⟨hid, hn, hop, -⟩ := hadmitted.request_eq
  have hretire : CallEffect db (retireIntent db id n op) [] := by
    unfold retireIntent
    split
    · exact .refl db
    exact effect_setIntent_stale _
  have hsame : { retireIntent db id n op with intents := db'.intents } = db' := by
    rw [hdb]
    unfold retireIntent
    split <;> rfl
  refine ⟨?_, ?_, ?_, fun k hk => (by cases hk), List.nodup_nil⟩
  · intro hex
    rw [← hsame]
    refine exclusive_insert hinsert rfl ?_ (hretire.exclusive hex)
    rintro j hj ⟨hjid, hjn, hjop⟩
    exact retireIntent_stale hex j hj (hjid.trans hid) (hjn.trans hn) (hjop.trans hop)
  · intro k hk
    obtain ⟨j, hj, hs⟩ := hretire.settled k hk
    exact ⟨j, get?_insert_of_some hinsert hj, hs⟩
  intro k j hj hs
  exact get?_insert_of_some hinsert (hretire.stale k j hj hs)

lemma storedSince_insert (h : db.operations.insert o = some db'.operations) :
    storedSince db db' = [o.id] := by
  obtain ⟨hnone, hrows⟩ := insert_eq_some.mp h
  have hold : db.operations.rows.filter (fun o => (db.operations.get? o.id).isNone) = [] := by
    rw [List.filter_eq_nil_iff]
    intro x hx
    rw [show db.operations.get? x.id = some x from get?_of_mem hx]
    simp
  unfold storedSince
  rw [hrows, List.filter_append, hold, List.nil_append, List.filter_singleton]
  rw [show db.operations.get? o.id = none from hnone]
  rfl

lemma storedSince_same (h : db'.operations = db.operations) : storedSince db db' = [] := by
  unfold storedSince
  rw [h, List.map_eq_nil_iff, List.filter_eq_nil_iff]
  intro x hx
  rw [show db.operations.get? x.id = some x from get?_of_mem hx]
  simp

lemma effect_call {call : AuthorizationCall} (h : authorizationCall db call = .ok (db', stored)) :
    CallEffect db db' (stored.map Prod.fst) := by
  cases call with
  | reserve =>
    obtain ⟨⟨r, d⟩, hd, h⟩ := of_bind_ok h
    cases h
    exact effect_reserve hd
  | sign =>
    cases h
    exact .refl db
  | finalize now reserved =>
    obtain ⟨⟨out, d⟩, hd, h⟩ := of_bind_ok h
    cases h
    obtain ⟨i, hi, ⟨-, rfl⟩ | ⟨-, rfl⟩ | ⟨hstate, -, o, operations, ho, hops, rfl⟩⟩ :=
      finalize_cases hd
    · rw [storedSince_same rfl]
      exact .refl _
    · rw [@storedSince_same db (setIntent db i.id .stale) rfl]
      exact effect_setIntent_stale i.id
    have hid : i.id = reserved.intentId := get?_key hi
    rw [storedSince_insert hops, ← hid]
    rw [← hid] at hi
    exact effect_queue hi hstate ho hops
  | markStale =>
    cases h
    exact effect_retire rfl fun _ h => h

lemma effect_step {e : AuthorizationEvent} (h : authorizationStep db e = .ok (db', stored)) :
    CallEffect db db' (stored.map Prod.fst) := by
  cases e with
  | transaction calls =>
    -- the log of the transaction grows with the calls
    have hfold := @foldlM_ok_rel _ _ _ nextCall
      (fun a b => ∃ new, b.2 = a.2 ++ new ∧ CallEffect a.1 b.1 (new.map Prod.fst))
      (fun a => ⟨[], (List.append_nil _).symm, .refl a.1⟩)
      (fun a b c ⟨l, hl, hab⟩ ⟨m, hm, hbc⟩ => ⟨l ++ m, by rw [hm, hl, List.append_assoc], by
        rw [List.map_append]
        exact hab.trans hbc⟩)
      (fun a call b hcall => by
        obtain ⟨⟨d, new⟩, hd, hcall⟩ := of_bind_ok hcall
        cases hcall
        exact ⟨new, rfl, effect_call hd⟩) _ _ _ h
    obtain ⟨new, hnew, heffect⟩ := hfold
    subst hnew
    exact heffect
  | environment =>
    simp only [authorizationStep] at h
    split_ifs at h with hkeep
    cases h
    refine ⟨fun hex => ⟨hex.unique, ?_⟩, fun _ hk => hk, fun _ _ hi _ => hi,
      fun k hk => (by cases hk), List.nodup_nil⟩
    intro i hi hq
    obtain ⟨o, ho⟩ := Option.isSome_iff_exists.mp (hex.queued i hi hq)
    have hid : o.id = i.request.operationId := get?_key ho
    rw [← hid]
    exact List.all_eq_true.mp hkeep o (mem_of_get? ho)

end Effects

section

variable (events : List AuthorizationEvent)

lemma exclusive_after : Exclusive (authorizationsAfter events) :=
  run_preserves (fun _ _ _ _ hs hstep => (effect_step hstep).exclusive hs)
    ⟨fun _ hi => (by cases hi), fun _ hi => (by cases hi)⟩ events

lemma stale_kept : StaleKept db (run authorizationStep db events) := by
  intro k i hi hs
  exact @run_preserves _ _ _ _ authorizationStep (fun d => d.intents.get? k = some i)
    (fun _ _ _ _ hd hstep => (effect_step hstep).stale k i hd hs) db hi events

lemma stored_nodup : ((storedBy events).map Prod.fst).Nodup := by
  have h := (@trace_outputs_pairwise _ _ _ _ authorizationStep (fun _ => True) Uuid
    (fun x => x.2.map Prod.fst) (· ≠ ·) Settled (fun _ _ _ _ _ _ => trivial)
    (fun _ _ _ _ k _ hstep => (effect_step hstep).settled k)
    (fun s _ t _ _ hstep => ⟨(effect_step hstep).nodup, fun k hk =>
      ⟨((effect_step hstep).fresh k hk).2, fun k' hk' he =>
        ((effect_step hstep).fresh k hk).1 (he ▸ hk')⟩⟩) {} trivial events).1
  unfold storedBy
  rw [List.map_flatMap]
  exact h

end

lemma Exclusive.atMostOneLive (h : Exclusive db) : AtMostOneLive db := by
  have hopen : ∀ i, liveIntent db i = true → i.state ≠ .stale := by
    intro i hlive hs
    simp [liveIntent, hs] at hlive
  intro i hi j hj hli hlj hsame
  exact h.unique i hi j hj (hopen i hli) (hopen j hlj) hsame

lemma Exclusive.finalizeIdempotent (h : Exclusive db) : FinalizeIdempotent db := by
  intro i hi hq now reserved response hid
  obtain ⟨o, ho⟩ := Option.isSome_iff_exists.mp (h.queued i hi hq)
  have hoid : o.id = i.request.operationId := get?_key ho
  unfold finalizeUpdateAuthorization
  rw [hid, show db.intents.get? i.id = some i from get?_of_mem hi]
  simp only [hq, if_true, ho, hoid]

/-- In every interleaving a rollout node has at most one live authorization for an action, and an
intent yields at most one operation. -/
theorem authorization_exclusive (events later : List AuthorizationEvent) :
    AtMostOneLive (authorizationsAfter events) ∧
    ((storedBy events).map Prod.fst).Nodup ∧
    FinalizeIdempotent (authorizationsAfter events) ∧
    StaleKept (authorizationsAfter events) (authorizationsAfter (events ++ later)) ∧
    (∀ db, ReservesBound db) ∧ ∀ db, StoresBound db := by
  refine ⟨(exclusive_after events).atMostOneLive, stored_nodup events,
    (exclusive_after events).finalizeIdempotent, ?_, reservesBound, storesBound⟩
  unfold authorizationsAfter
  rw [run_append]
  exact stale_kept later

end VonkForge.Updates
