import Mathlib.Data.List.Basic

/-!
# Transactions and their runs

A transaction commits a new state with an output, or it raises and leaves the state as it was.
-/

namespace VonkForge

section

variable {ε α β σ : Type} {e e' : ε} {a : α} {b : β} {l : List α} {s t : σ} {x : Option α} {p : Prop}
  [Decidable p] {f : σ → α → Except ε σ}

/-- A computation that succeeded was a success at each of its binds. -/
theorem of_bind_ok {x : Except ε α} {f : α → Except ε β} (h : (x >>= f) = .ok b) :
    ∃ a, x = .ok a ∧ f a = .ok b := by
  rcases x with e | a
  · cases h
  exact ⟨a, rfl, h⟩

lemma of_bind_ok₂ {γ : Type} {x : Except ε α} {f : α → Except ε β} {g : α → β → Except ε γ} {c : γ}
    (h : (x >>= fun a => f a >>= g a) = .ok c) :
    ∃ a, x = .ok a ∧ ∃ b, f a = .ok b ∧ g a b = .ok c :=
  (of_bind_ok h).imp fun _ ⟨ha, h⟩ => ⟨ha, of_bind_ok h⟩

/-- A computation that failed has failed at one of its binds. -/
theorem of_bind_error {x : Except ε α} {f : α → Except ε β} (h : (x >>= f) = .error e) :
    x = .error e ∨ ∃ a, x = .ok a ∧ f a = .error e := by
  rcases x with e' | a
  · cases h
    exact .inl rfl
  exact .inr ⟨a, rfl, h⟩

@[simp]
lemma ok_bind (a : α) (f : α → Except ε β) : ((Except.ok a : Except ε α) >>= f) = f a := rfl

def require {ε : Type} (p : Prop) [Decidable p] (e : ε) : Except ε Unit :=
  if p then .ok () else .error e

lemma require_ok {u : Unit} : require p e = .ok u ↔ p := by
  unfold require
  split
  · next hp => exact ⟨fun _ => hp, fun _ => rfl⟩
  next hp => exact ⟨fun h => (by cases h), fun h => absurd h hp⟩

def fetch {ε α : Type} (x : Option α) (e : ε) : Except ε α :=
  match x with
  | some a => .ok a
  | none => .error e

lemma fetch_ok : fetch x e = .ok a ↔ x = some a := by
  cases x with
  | none => exact ⟨fun h => (by cases h), fun h => (by cases h)⟩
  | some => exact ⟨fun h => (by cases h; rfl), fun h => (by cases h; rfl)⟩

lemma eq_of_require_error (h : require p e = .error e') : e' = e := by
  unfold require at h
  split at h
  · cases h
  cases h
  rfl

lemma eq_of_fetch_error (h : fetch x e = .error e') : e' = e := by
  cases x with
  | none =>
    cases h
    rfl
  | some => cases h

lemma require_bind_ok {f : Unit → Except ε β} : (require p e >>= f) = .ok b ↔ p ∧ f () = .ok b := by
  unfold require
  split
  · next hp => exact ⟨fun h => ⟨hp, h⟩, fun h => h.2⟩
  next hp => exact ⟨fun h => (by cases h), fun h => absurd h.1 hp⟩

lemma fetch_bind_ok {f : α → Except ε β} :
    (fetch x e >>= f) = .ok b ↔ ∃ a, x = some a ∧ f a = .ok b := by
  cases x with
  | none => exact ⟨fun h => (by cases h), fun ⟨a, ha, _⟩ => (by cases ha)⟩
  | some a => exact ⟨fun h => ⟨a, rfl, h⟩, fun ⟨_, ha, h⟩ => (by cases ha; exact h)⟩

lemma length_of_mapM_ok {f : α → Except ε β} {bs : List β} (h : l.mapM f = .ok bs) :
    bs.length = l.length := by
  induction l generalizing bs with
  | nil =>
    cases h
    rfl
  | cons a l ih =>
    rw [List.mapM_cons] at h
    obtain ⟨b, -, h⟩ := of_bind_ok h
    obtain ⟨bs', hbs, h⟩ := of_bind_ok h
    cases h
    rw [List.length_cons, List.length_cons, ih hbs]

lemma exists_mapM_ok_iff {f : α → Except ε β} :
    (∃ bs, l.mapM f = .ok bs) ↔ ∀ a ∈ l, ∃ b, f a = .ok b := by
  induction l with
  | nil => exact ⟨fun _ a ha => (by cases ha), fun _ => ⟨[], rfl⟩⟩
  | cons a l ih =>
    rw [List.forall_mem_cons, ← ih]
    simp only [List.mapM_cons]
    constructor
    · rintro ⟨bs, h⟩
      obtain ⟨b, hb, h⟩ := of_bind_ok h
      obtain ⟨bs', hbs, -⟩ := of_bind_ok h
      exact ⟨⟨b, hb⟩, bs', hbs⟩
    rintro ⟨⟨b, hb⟩, bs, hbs⟩
    exact ⟨b :: bs, by rw [hb, ok_bind, hbs]; rfl⟩

lemma filterMap_of_mapM_ok {f : α → Except ε β} {g : α → Option β} {bs : List β}
    (hg : ∀ a b, f a = .ok b → g a = some b) (h : l.mapM f = .ok bs) : bs = l.filterMap g := by
  induction l generalizing bs with
  | nil =>
    cases h
    rfl
  | cons a l ih =>
    rw [List.mapM_cons] at h
    obtain ⟨b, hb, h⟩ := of_bind_ok h
    obtain ⟨bs', hbs, h⟩ := of_bind_ok h
    cases h
    rw [List.filterMap_cons_some (hg a b hb), ih hbs]

lemma forM_ok_iff {f : α → Except ε Unit} : l.forM f = .ok () ↔ ∀ a ∈ l, f a = .ok () := by
  induction l with
  | nil => exact ⟨fun _ a ha => (by cases ha), fun _ => rfl⟩
  | cons a l ih =>
    have hcons : (a :: l).forM f = (f a >>= fun _ => l.forM f) := rfl
    rw [hcons, List.forall_mem_cons]
    cases hf : f a with
    | error => exact ⟨fun h => (by cases h), fun h => (by cases h.1)⟩
    | ok => exact ⟨fun h => ⟨rfl, ih.mp h⟩, fun h => ih.mpr h.2⟩

/-- A fold of transactions is in every preorder that each of them is in. -/
theorem foldlM_ok_rel {ε α σ : Type} {f : σ → α → Except ε σ} {R : σ → σ → Prop}
    (hrefl : ∀ s, R s s) (htrans : ∀ s t u, R s t → R t u → R s u)
    (hstep : ∀ s a t, f s a = .ok t → R s t) {l : List α} {s t : σ}
    (h : l.foldlM f s = .ok t) : R s t := by
  induction l generalizing s with
  | nil =>
    cases h
    exact hrefl t
  | cons a l ih =>
    rw [List.foldlM_cons] at h
    obtain ⟨u, hu, h⟩ := of_bind_ok h
    exact htrans s u t (hstep s a u hu) (ih h)

/-- A fold of transactions raises only what one of them raises. -/
theorem foldlM_error (h : l.foldlM f s = .error e) : ∃ t, ∃ a ∈ l, f t a = .error e := by
  induction l generalizing s with
  | nil => cases h
  | cons a l ih =>
    rw [List.foldlM_cons] at h
    rcases of_bind_error h with h | ⟨t, -, h⟩
    · exact ⟨s, a, List.mem_cons_self, h⟩
    obtain ⟨u, b, hb, h⟩ := ih h
    exact ⟨u, b, .tail _ hb, h⟩

lemma forM_error {f : α → Except ε Unit} (h : l.forM f = .error e) : ∃ a ∈ l, f a = .error e := by
  induction l with
  | nil => cases h
  | cons a l ih =>
    have hcons : (a :: l).forM f = (f a >>= fun _ => l.forM f) := rfl
    rw [hcons] at h
    rcases of_bind_error h with h | ⟨u, -, h⟩
    · exact ⟨a, List.mem_cons_self, h⟩
    obtain ⟨b, hb, h⟩ := ih h
    exact ⟨b, .tail _ hb, h⟩

/-- A fold of transactions succeeds when each of them does under an invariant that it keeps. -/
theorem foldlM_succeeds {Inv : σ → Prop} (hstep : ∀ s, ∀ a ∈ l, Inv s → ∃ t, f s a = .ok t ∧ Inv t)
    (hs : Inv s) : ∃ t, l.foldlM f s = .ok t := by
  induction l generalizing s with
  | nil => exact ⟨s, rfl⟩
  | cons a l ih =>
    obtain ⟨t, ht, hinv⟩ := hstep s a List.mem_cons_self hs
    rw [List.foldlM_cons, ht, ok_bind]
    exact ih (fun u b hb => hstep u b (.tail _ hb)) hinv

/-- A fold of transactions that succeeded took each of its members in some state on its way. -/
theorem foldlM_ok_mem (ha : a ∈ l) (h : l.foldlM f s = .ok t) :
    ∃ l₁ l₂ u v, l = l₁ ++ a :: l₂ ∧ l₁.foldlM f s = .ok u ∧ f u a = .ok v ∧
      l₂.foldlM f v = .ok t := by
  obtain ⟨l₁, l₂, rfl⟩ := List.append_of_mem ha
  rw [List.foldlM_append] at h
  obtain ⟨u, hu, h⟩ := of_bind_ok h
  rw [List.foldlM_cons] at h
  obtain ⟨v, hv, h⟩ := of_bind_ok h
  exact ⟨l₁, l₂, u, v, rfl, hu, hv, h⟩

end

namespace Transactions

variable {σ ι ω ε : Type}

/-- The state after one transaction: the new one if it commits, the old one if it raises. -/
def commit (step : σ → ι → Except ε (σ × ω)) (s : σ) (i : ι) : σ :=
  match step s i with
  | .ok (t, _) => t
  | .error _ => s

def run (step : σ → ι → Except ε (σ × ω)) (s : σ) (is : List ι) : σ :=
  is.foldl (commit step) s

/-- The committed transactions of a run with their outputs, in order. -/
def trace (step : σ → ι → Except ε (σ × ω)) : σ → List ι → List (ι × ω)
  | _, [] => []
  | s, i :: is =>
    match step s i with
    | .ok (t, o) => (i, o) :: trace step t is
    | .error _ => trace step s is

/-- Every transaction of the run is taken in a state that satisfies `P` for it. -/
def Along (step : σ → ι → Except ε (σ × ω)) (P : σ → ι → Prop) : σ → List ι → Prop
  | _, [] => True
  | s, i :: is => P s i ∧ Along step P (commit step s i) is

variable {step : σ → ι → Except ε (σ × ω)} {P : σ → ι → Prop} {Inv : σ → Prop}

instance instDecidableAlong [∀ s i, Decidable (P s i)] : ∀ (s : σ) (is : List ι), Decidable (Along step P s is)
  | _, [] => inferInstanceAs (Decidable True)
  | s, i :: is =>
    have : Decidable (Along step P (commit step s i) is) := instDecidableAlong _ is
    inferInstanceAs (Decidable (P s i ∧ Along step P (commit step s i) is))

@[simp]
lemma run_nil (s : σ) : run step s [] = s := rfl

@[simp]
lemma run_cons (s : σ) (i : ι) (is : List ι) :
    run step s (i :: is) = run step (commit step s i) is := rfl

lemma run_append (s : σ) (is js : List ι) :
    run step s (is ++ js) = run step (run step s is) js := List.foldl_append

lemma Along.mono {Q : σ → ι → Prop} {s : σ} {is : List ι} (hs : Along step P s is)
    (h : ∀ s i, P s i → Q s i) : Along step Q s is := by
  induction is generalizing s with
  | nil => trivial
  | cons i is ih => exact ⟨h s i hs.1, ih hs.2⟩

lemma along_append (s : σ) (is js : List ι) :
    Along step P s (is ++ js) ↔ Along step P s is ∧ Along step P (run step s is) js := by
  induction is generalizing s with
  | nil => simp [Along]
  | cons i is ih => simp only [List.cons_append, Along, ih, run_cons, and_assoc]

/-- What every committed transaction preserves, a rolled back one preserves as well. -/
theorem commit_preserves {s : σ} {i : ι} (hs : Inv s)
    (h : ∀ t o, step s i = .ok (t, o) → Inv t) : Inv (commit step s i) := by
  unfold commit
  split
  · next t o he => exact h t o he
  exact hs

/-- A run whose transactions all satisfy `P` keeps what a transaction that satisfies `P` keeps. -/
theorem run_preserves_of_along (hstep : ∀ s i t o, Inv s → P s i → step s i = .ok (t, o) → Inv t)
    {s : σ} {is : List ι} (hs : Inv s) (hP : Along step P s is) : Inv (run step s is) := by
  induction is generalizing s with
  | nil => exact hs
  | cons i is ih => exact ih (commit_preserves hs fun t o => hstep s i t o hs hP.1) hP.2

lemma run_preserves (hstep : ∀ s i t o, Inv s → step s i = .ok (t, o) → Inv t)
    {s : σ} (hs : Inv s) (is : List ι) : Inv (run step s is) := by
  induction is generalizing s with
  | nil => exact hs
  | cons i is ih => exact ih (commit_preserves hs fun t o => hstep s i t o hs)

@[simp]
lemma trace_nil (s : σ) : trace step s [] = [] := rfl

lemma trace_of_error {s : σ} {i : ι} {e : ε} (h : step s i = .error e) (is : List ι) :
    trace step s (i :: is) = trace step s is := by
  simp only [trace, h]

lemma trace_of_ok {s t : σ} {i : ι} {o : ω} (h : step s i = .ok (t, o)) (is : List ι) :
    trace step s (i :: is) = (i, o) :: trace step t is := by
  simp only [trace, h]

/-- Along a run, every transaction that commits is in the trace of the run. -/
theorem along_mem_trace (s : σ) (is : List ι) :
    Along step (fun u i => ∀ t o, step u i = .ok (t, o) → (i, o) ∈ trace step s is) s is := by
  suffices h : ∀ (T : List (ι × ω)) (is : List ι) (s : σ), (∀ x ∈ trace step s is, x ∈ T) →
      Along step (fun u i => ∀ t o, step u i = .ok (t, o) → (i, o) ∈ T) s is from
    h _ is s fun _ hx => hx
  intro T is
  induction is with
  | nil => exact fun _ _ => trivial
  | cons i is ih =>
    intro s hT
    cases hstep : step s i with
    | error =>
      rw [trace_of_error hstep] at hT
      simp only [Along, commit, hstep]
      exact ⟨fun t o h => (by cases h), ih s hT⟩
    | ok committed =>
      obtain ⟨t, o⟩ := committed
      rw [trace_of_ok hstep] at hT
      simp only [Along, commit, hstep]
      refine ⟨?_, ih t fun x hx => hT x (.tail _ hx)⟩
      intro t' o' h
      cases h
      exact hT _ List.mem_cons_self

/-- What holds of every transaction committed in a state with the invariant holds of a trace. -/
theorem forall_trace {Q : ι → ω → Prop}
    (hstep : ∀ s i t o, Inv s → P s i → step s i = .ok (t, o) → Inv t ∧ Q i o)
    {s : σ} {is : List ι} (hs : Inv s) (hP : Along step P s is) :
    ∀ x ∈ trace step s is, Q x.1 x.2 := by
  induction is generalizing s with
  | nil => simp
  | cons i is ih =>
    obtain ⟨hi, hrest⟩ := hP
    unfold commit at hrest
    intro x hx
    cases he : step s i with
    | error =>
      rw [trace_of_error he] at hx
      simp only [he] at hrest
      exact ih hs hrest x hx
    | ok committed =>
      obtain ⟨t, o⟩ := committed
      rw [trace_of_ok he] at hx
      simp only [he] at hrest
      obtain ⟨ht, hq⟩ := hstep s i t o hs hi he
      rcases List.mem_cons.mp hx with rfl | hx
      · exact hq
      exact ih ht hrest x hx

/-- Outputs along a trace are ordered when each comes after those its state has seen. -/
theorem trace_outputs_pairwise {κ : Type} {out : ι × ω → List κ} {R : κ → κ → Prop}
    {Seen : σ → κ → Prop}
    (hinv : ∀ s i t o, Inv s → step s i = .ok (t, o) → Inv t)
    (hkeep : ∀ s i t o k, Inv s → step s i = .ok (t, o) → Seen s k → Seen t k)
    (hout : ∀ s i t o, Inv s → step s i = .ok (t, o) → (out (i, o)).Pairwise R ∧
      ∀ k ∈ out (i, o), Seen t k ∧ ∀ k', Seen s k' → R k' k)
    {s : σ} (hs : Inv s) (is : List ι) :
    ((trace step s is).flatMap out).Pairwise R ∧
      ∀ k ∈ (trace step s is).flatMap out, ∀ k', Seen s k' → R k' k := by
  induction is generalizing s with
  | nil => simp
  | cons i is ih =>
    cases hstep : step s i with
    | error =>
      rw [trace_of_error hstep]
      exact ih hs
    | ok committed =>
      obtain ⟨t, o⟩ := committed
      obtain ⟨hrest, hlater⟩ := ih (hinv s i t o hs hstep)
      obtain ⟨hnow, hnew⟩ := hout s i t o hs hstep
      rw [trace_of_ok hstep, List.flatMap_cons]
      refine ⟨List.pairwise_append.mpr ⟨hnow, hrest, ?_⟩, ?_⟩
      · intro k hk k' hk'
        exact hlater k' hk' k (hnew k hk).1
      intro k hk k' hseen
      rcases List.mem_append.mp hk with hk | hk
      · exact (hnew k hk).2 k' hseen
      exact hlater k hk k' (hkeep s i t o k' hs hstep hseen)

/-- A key that no committed transaction can have once it is done occurs at most once in a trace. -/
theorem trace_keys_nodup {κ : Type} {key : ι × ω → Option κ} {Done : σ → κ → Prop}
    (hinv : ∀ s i t o, Inv s → step s i = .ok (t, o) → Inv t)
    (hkeep : ∀ s i t o k, Inv s → step s i = .ok (t, o) → Done s k → Done t k)
    (hkey : ∀ s i t o k, Inv s → step s i = .ok (t, o) → key (i, o) = some k →
      ¬ Done s k ∧ Done t k)
    {s : σ} (hs : Inv s) (is : List ι) :
    ((trace step s is).filterMap key).Nodup ∧
      ∀ k ∈ (trace step s is).filterMap key, ¬ Done s k := by
  have hout : ∀ s i t o, Inv s → step s i = .ok (t, o) → (key (i, o)).toList.Pairwise (· ≠ ·) ∧
      ∀ k ∈ (key (i, o)).toList, Done t k ∧ ∀ k', Done s k' → k' ≠ k := by
    intro s i t o hs hstep
    refine ⟨by cases key (i, o) <;> simp, fun k hk => ?_⟩
    obtain ⟨hfresh, hdone⟩ := hkey s i t o k hs hstep (Option.mem_toList.mp hk)
    exact ⟨hdone, fun k' hk' he => hfresh (he ▸ hk')⟩
  obtain ⟨hnodup, hnew⟩ := @trace_outputs_pairwise _ _ _ _ step Inv κ (fun x => (key x).toList)
    (· ≠ ·) Done hinv hkeep hout s hs is
  rw [List.filterMap_eq_flatMap_toList]
  exact ⟨hnodup, fun k hk hd => hnew k hk k hd rfl⟩

/-- What a run has seen is what its start had seen and what its transactions put out. -/
theorem seen_run_iff {κ : Type} {out : ω → List κ} {Seen : σ → κ → Prop}
    (hinv : ∀ s i t o, Inv s → step s i = .ok (t, o) → Inv t)
    (hseen : ∀ s i t o k, Inv s → step s i = .ok (t, o) → (Seen t k ↔ Seen s k ∨ k ∈ out o))
    {s : σ} (hs : Inv s) (is : List ι) (k : κ) :
    Seen (run step s is) k ↔ Seen s k ∨ k ∈ (trace step s is).flatMap fun x => out x.2 := by
  induction is generalizing s with
  | nil => simp
  | cons i is ih =>
    cases hstep : step s i with
    | error =>
      have hcommit : commit step s i = s := by simp only [commit, hstep]
      rw [trace_of_error hstep, run_cons, hcommit]
      exact ih hs
    | ok committed =>
      obtain ⟨t, o⟩ := committed
      have hcommit : commit step s i = t := by simp only [commit, hstep]
      rw [trace_of_ok hstep, run_cons, hcommit, List.flatMap_cons, List.mem_append,
        ih (hinv s i t o hs hstep), hseen s i t o k hs hstep, or_assoc]

end Transactions

end VonkForge
