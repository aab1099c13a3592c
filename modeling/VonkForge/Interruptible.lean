import Mathlib.Data.List.Basic

/-!
# Programs that may be interrupted

A program makes durable effects on a state.  Before each of them it can be killed, and each can
raise, with or without having taken place: the fates, of which the missing ones are successes.
-/

namespace VonkForge

inductive Fate
  | goes
  /-- It does not take place, and raises. -/
  | fails
  /-- It takes place, and raises all the same. -/
  | breaks
  | kills
  deriving DecidableEq

inductive Outcome (ε α : Type)
  | done (a : α)
  | raised (e : ε)
  | killed
  deriving DecidableEq

/-- How a program ended, the state it left, and the fates of effects that it did not reach. -/
structure Ending (σ ε α : Type) where
  outcome : Outcome ε α
  state : σ
  fates : List Fate
  deriving DecidableEq

/-- A program, by how it ends from each state under the fates of its effects. -/
structure Program (σ ε α : Type) where
  run : σ → List Fate → Ending σ ε α

namespace Program

variable {σ ε α β : Type}

instance : Monad (Program σ ε) where
  pure a := ⟨fun s fs => ⟨.done a, s, fs⟩⟩
  bind x f := ⟨fun s fs =>
    match x.run s fs with
    | ⟨.done a, t, fs'⟩ => (f a).run t fs'
    | ⟨.raised e, t, fs'⟩ => ⟨.raised e, t, fs'⟩
    | ⟨.killed, t, fs'⟩ => ⟨.killed, t, fs'⟩⟩

def get : Program σ ε σ := ⟨fun s fs => ⟨.done s, s, fs⟩⟩

def raise (e : ε) : Program σ ε α := ⟨fun s fs => ⟨.raised e, s, fs⟩⟩

def check (f : σ → Except ε α) : Program σ ε α := ⟨fun s fs =>
  match f s with
  | .ok a => ⟨.done a, s, fs⟩
  | .error e => ⟨.raised e, s, fs⟩⟩

/-- One durable effect; when it does not succeed it raises `e`. -/
def effect (f : σ → σ) (e : ε) : Program σ ε Unit := ⟨fun s fs =>
  match fs with
  | [] => ⟨.done (), f s, []⟩
  | .goes :: fs => ⟨.done (), f s, fs⟩
  | .fails :: fs => ⟨.raised e, s, fs⟩
  | .breaks :: fs => ⟨.raised e, f s, fs⟩
  | .kills :: fs => ⟨.killed, s, fs⟩⟩

/-- An effect that is needed only in some states. -/
def effectUnless (p : σ → Bool) (f : σ → σ) (e : ε) : Program σ ε Unit := ⟨fun s fs =>
  if p s then ⟨.done (), s, fs⟩ else (effect f e).run s fs⟩

/-- A change that is not one of the effects. -/
def modify (f : σ → σ) : Program σ ε Unit := ⟨fun s fs => ⟨.done (), f s, fs⟩⟩

/-- When the program raises, `cleanup` runs before the error is raised again. -/
def onRaise (x : Program σ ε α) (cleanup : Program σ ε Unit) : Program σ ε α := ⟨fun s fs =>
  match x.run s fs with
  | ⟨.done a, t, fs'⟩ => ⟨.done a, t, fs'⟩
  | ⟨.raised e, t, fs'⟩ => (cleanup >>= fun _ => raise e).run t fs'
  | ⟨.killed, t, fs'⟩ => ⟨.killed, t, fs'⟩⟩

/-- The program, whose errors are passed over. -/
def attempt (x : Program σ ε Unit) : Program σ ε Unit := ⟨fun s fs =>
  match x.run s fs with
  | ⟨.raised _, t, fs'⟩ => ⟨.done (), t, fs'⟩
  | ending => ending⟩

/-- The program with what `f` makes of its errors: a result, or another error. -/
def recover (f : ε → Except ε α) (x : Program σ ε α) : Program σ ε α := ⟨fun s fs =>
  match x.run s fs with
  | ⟨.raised e, t, fs'⟩ =>
    match f e with
    | .ok a => ⟨.done a, t, fs'⟩
    | .error e' => ⟨.raised e', t, fs'⟩
  | ending => ending⟩

def mapError {ε' : Type} (f : ε → ε') (x : Program σ ε α) : Program σ ε' α := ⟨fun s fs =>
  match x.run s fs with
  | ⟨.done a, t, fs'⟩ => ⟨.done a, t, fs'⟩
  | ⟨.raised e, t, fs'⟩ => ⟨.raised (f e), t, fs'⟩
  | ⟨.killed, t, fs'⟩ => ⟨.killed, t, fs'⟩⟩

def zoom {τ : Type} (view : τ → σ) (put : σ → τ → τ) (x : Program σ ε α) : Program τ ε α :=
  ⟨fun t fs =>
    let ending := x.run (view t) fs
    ⟨ending.outcome, put ending.state t, ending.fates⟩⟩

/-- The process is killed after `n` effects. -/
def killAfter (n : ℕ) : List Fate := List.replicate n .goes ++ [.kills]

/-- The fates of a process that may be killed, but whose effects do not raise. -/
def Killable (f : Fate) : Prop := f = .goes ∨ f = .kills

/-- A process that runs to its end, or is killed after some of its effects. -/
def fatesOf : Option ℕ → List Fate
  | none => []
  | some n => killAfter n

lemma killable_of_mem_fatesOf {kill : Option ℕ} : ∀ f ∈ fatesOf kill, Killable f := by
  intro f hf
  cases kill with
  | none => exact (List.not_mem_nil hf).elim
  | some n =>
    rcases List.mem_append.mp hf with hf | hf
    · exact .inl (List.eq_of_mem_replicate hf)
    exact .inr (List.mem_singleton.mp hf)

section Evaluation

variable {s t : σ} {fs fs' : List Fate} {x : Program σ ε α} {a : α} {e : ε} {ε' : Type}

lemma run_bind (x : Program σ ε α) (f : α → Program σ ε β) (s : σ) (fs : List Fate) :
    (x >>= f).run s fs =
      match x.run s fs with
      | ⟨.done a, t, fs'⟩ => (f a).run t fs'
      | ⟨.raised e, t, fs'⟩ => ⟨.raised e, t, fs'⟩
      | ⟨.killed, t, fs'⟩ => ⟨.killed, t, fs'⟩ := rfl

@[simp]
lemma run_pure (a : α) : (pure a : Program σ ε α).run s fs = ⟨.done a, s, fs⟩ := rfl

@[simp]
lemma run_get_bind (f : σ → Program σ ε β) : (get >>= f).run s fs = (f s).run s fs := rfl

lemma run_bind_done {f : α → Program σ ε β} (h : x.run s fs = ⟨.done a, t, fs'⟩) :
    (x >>= f).run s fs = (f a).run t fs' := by
  rw [run_bind, h]

lemma run_bind_of_raised {f : α → Program σ ε β} (h : x.run s fs = ⟨.raised e, t, fs'⟩) :
    (x >>= f).run s fs = ⟨.raised e, t, fs'⟩ := by
  rw [run_bind, h]

lemma run_bind_of_killed {f : α → Program σ ε β} (h : x.run s fs = ⟨.killed, t, fs'⟩) :
    (x >>= f).run s fs = ⟨.killed, t, fs'⟩ := by
  rw [run_bind, h]

lemma run_check_of_ok {f : σ → Except ε α} (h : f s = .ok a) :
    (check f).run s fs = ⟨.done a, s, fs⟩ := by
  simp only [check, h]

lemma run_check_of_error {f : σ → Except ε α} (h : f s = .error e) :
    (check f).run s fs = ⟨.raised e, s, fs⟩ := by
  simp only [check, h]

lemma run_check_state (f : σ → Except ε α) : ((check f).run s fs).state = s := by
  unfold check
  cases hf : f s <;> simp [hf]

lemma run_recover_of_done {f : ε → Except ε α} (h : x.run s fs = ⟨.done a, t, fs'⟩) :
    (recover f x).run s fs = ⟨.done a, t, fs'⟩ := by
  simp only [recover, h]

lemma run_recover_of_raised {f : ε → Except ε α} (h : x.run s fs = ⟨.raised e, t, fs'⟩)
    (hf : f e = .ok a) : (recover f x).run s fs = ⟨.done a, t, fs'⟩ := by
  simp only [recover, h, hf]

end Evaluation

/-- From every state with `P`, whatever the fates that `A` allows: the program returns with `Q`,
raises with `R`, or is killed in a state with `C`. -/
def Meets (A : Fate → Prop) (P : σ → Prop) (x : Program σ ε α) (Q : α → σ → Prop)
    (R : ε → σ → Prop) (C : σ → Prop) : Prop :=
  ∀ s fs, (∀ f ∈ fs, A f) → P s → (∀ f ∈ (x.run s fs).fates, A f) ∧
    match (x.run s fs).outcome with
    | .done a => Q a (x.run s fs).state
    | .raised e => R e (x.run s fs).state
    | .killed => C (x.run s fs).state

section Triples

variable {A : Fate → Prop} {P : σ → Prop} {Q : α → σ → Prop} {R : ε → σ → Prop} {C : σ → Prop}
  {x : Program σ ε α} {f : σ → σ} {e : ε}

lemma meets_pure {a : α} (h : ∀ s, P s → Q a s) : Meets A P (pure a) Q R C :=
  fun s _ hA hP => ⟨hA, h s hP⟩

lemma meets_raise (h : ∀ s, P s → R e s) : Meets A P (raise e) Q R C :=
  fun s _ hA hP => ⟨hA, h s hP⟩

lemma meets_get {Q : σ → σ → Prop} (h : ∀ s, P s → Q s s) : Meets A P (get : Program σ ε σ) Q R C :=
  fun s _ hA hP => ⟨hA, h s hP⟩

lemma meets_check {f : σ → Except ε α} (hok : ∀ s a, P s → f s = .ok a → Q a s)
    (herr : ∀ s e, P s → f s = .error e → R e s) : Meets A P (check f) Q R C := by
  intro s fs hA hP
  cases hf : f s with
  | ok a =>
    rw [run_check_of_ok hf]
    exact ⟨hA, hok s a hP hf⟩
  | error e =>
    rw [run_check_of_error hf]
    exact ⟨hA, herr s e hP hf⟩

lemma meets_effect {Q : Unit → σ → Prop} (hgo : ∀ s, P s → Q () (f s))
    (hfail : A .fails → ∀ s, P s → R e s) (hbreak : A .breaks → ∀ s, P s → R e (f s))
    (hkill : A .kills → ∀ s, P s → C s) : Meets A P (effect f e) Q R C := by
  intro s fs hA hP
  match fs with
  | [] => exact ⟨hA, hgo s hP⟩
  | .goes :: fs => exact ⟨fun x hx => hA x (.tail _ hx), hgo s hP⟩
  | .fails :: fs =>
    exact ⟨fun x hx => hA x (.tail _ hx), hfail (hA _ List.mem_cons_self) s hP⟩
  | .breaks :: fs =>
    exact ⟨fun x hx => hA x (.tail _ hx), hbreak (hA _ List.mem_cons_self) s hP⟩
  | .kills :: fs =>
    exact ⟨fun x hx => hA x (.tail _ hx), hkill (hA _ List.mem_cons_self) s hP⟩

/-- An effect on one state, that does not raise. -/
theorem meets_effect_at {t : σ} (hfail : ¬ A .fails) (hbreak : ¬ A .breaks)
    (hkill : A .kills → C t) : Meets A (· = t) (effect f e) (fun _ u => u = f t) R C := by
  refine meets_effect ?_ (fun hA => absurd hA hfail) (fun hA => absurd hA hbreak) ?_
  · rintro u rfl
    rfl
  rintro hA u rfl
  exact hkill hA

lemma meets_effectUnless {p : σ → Bool} {Q : Unit → σ → Prop}
    (hskip : ∀ s, P s → p s = true → Q () s) (hgo : ∀ s, P s → Q () (f s))
    (hfail : A .fails → ∀ s, P s → R e s) (hbreak : A .breaks → ∀ s, P s → R e (f s))
    (hkill : A .kills → ∀ s, P s → C s) : Meets A P (effectUnless p f e) Q R C := by
  intro s fs hA hP
  cases hp : p s with
  | true =>
    have hrun : (effectUnless p f e).run s fs = ⟨.done (), s, fs⟩ := if_pos hp
    rw [hrun]
    exact ⟨hA, hskip s hP hp⟩
  | false =>
    have hrun : (effectUnless p f e).run s fs = (effect f e).run s fs := if_neg (by simp [hp])
    rw [hrun]
    exact meets_effect hgo hfail hbreak hkill s fs hA hP

lemma Meets.bind {f : α → Program σ ε β} {Q' : β → σ → Prop} (hx : Meets A P x Q R C)
    (hf : ∀ a, Meets A (Q a) (f a) Q' R C) : Meets A P (x >>= f) Q' R C := by
  intro s fs hA hP
  have h := hx s fs hA hP
  rw [run_bind]
  revert h
  match x.run s fs with
  | ⟨.done a, t, fs'⟩ => exact fun h => hf a t fs' h.1 h.2
  | ⟨.raised e, t, fs'⟩ => exact fun h => h
  | ⟨.killed, t, fs'⟩ => exact fun h => h

lemma meets_modify {Q : Unit → σ → Prop} (h : ∀ s, P s → Q () (f s)) :
    Meets A P (modify f : Program σ ε Unit) Q R C :=
  fun s _ hA hP => ⟨hA, h s hP⟩

lemma meets_of_done (h : ∀ s fs, P s → ∃ a, x.run s fs = ⟨.done a, s, fs⟩ ∧ Q a s) :
    Meets A P x Q R C := by
  intro s fs hA hP
  obtain ⟨a, hrun, hq⟩ := h s fs hP
  rw [hrun]
  exact ⟨hA, hq⟩

/-- A triple of the program that runs alike from the states in question. -/
theorem Meets.of_run_eq {x y : Program σ ε α} (hy : Meets A P y Q R C)
    (h : ∀ s fs, P s → x.run s fs = y.run s fs) : Meets A P x Q R C := by
  intro s fs hA hP
  rw [h s fs hP]
  exact hy s fs hA hP

lemma Meets.mono {P' : σ → Prop} {Q' : α → σ → Prop} {R' : ε → σ → Prop} {C' : σ → Prop}
    (h : Meets A P x Q R C) (hP : ∀ s, P' s → P s) (hQ : ∀ a s, Q a s → Q' a s)
    (hR : ∀ e s, R e s → R' e s) (hC : ∀ s, C s → C' s) : Meets A P' x Q' R' C' := by
  intro s fs hA hs
  have hx := h s fs hA (hP s hs)
  revert hx
  match x.run s fs with
  | ⟨.done a, t, fs'⟩ => exact fun hx => ⟨hx.1, hQ a t hx.2⟩
  | ⟨.raised e, t, fs'⟩ => exact fun hx => ⟨hx.1, hR e t hx.2⟩
  | ⟨.killed, t, fs'⟩ => exact fun hx => ⟨hx.1, hC t hx.2⟩

/-- A program that neither raises nor is killed comes to its end. -/
theorem Meets.exists_done (h : Meets (fun _ => False) P x Q (fun _ _ => False) (fun _ => False))
    {s : σ} (hs : P s) : ∃ a t, x.run s [] = ⟨.done a, t, []⟩ ∧ Q a t := by
  have hx := h s [] (fun _ hf => nomatch hf) hs
  revert hx
  match x.run s [] with
  | ⟨.done a, t, []⟩ => exact fun hx => ⟨a, t, rfl, hx.2⟩
  | ⟨.done a, t, f :: fs⟩ => exact fun hx => (hx.1 f List.mem_cons_self).elim
  | ⟨.raised e, t, fs⟩ => exact fun hx => hx.2.elim
  | ⟨.killed, t, fs⟩ => exact fun hx => hx.2.elim

lemma Meets.state {I : σ → Prop} (h : Meets A P x Q R C) (hQ : ∀ a t, Q a t → I t)
    (hR : ∀ e t, R e t → I t) (hC : ∀ t, C t → I t) {s : σ} {fs : List Fate} (hA : ∀ f ∈ fs, A f)
    (hs : P s) : I (x.run s fs).state := by
  have hx := h s fs hA hs
  revert hx
  match x.run s fs with
  | ⟨.done a, t, _⟩ => exact fun hx => hQ a t hx.2
  | ⟨.raised e, t, _⟩ => exact fun hx => hR e t hx.2
  | ⟨.killed, t, _⟩ => exact fun hx => hC t hx.2

/-- Two facts about the same program hold together. -/
theorem Meets.and {P' : σ → Prop} {Q' : α → σ → Prop} {R' : ε → σ → Prop} {C' : σ → Prop}
    (h : Meets A P x Q R C) (h' : Meets A P' x Q' R' C') :
    Meets A (fun s => P s ∧ P' s) x (fun a s => Q a s ∧ Q' a s) (fun e s => R e s ∧ R' e s)
      (fun s => C s ∧ C' s) := by
  intro s fs hA hs
  have hx := h s fs hA hs.1
  have hx' := h' s fs hA hs.2
  revert hx hx'
  match x.run s fs with
  | ⟨.done a, t, fs'⟩ => exact fun hx hx' => ⟨hx.1, hx.2, hx'.2⟩
  | ⟨.raised e, t, fs'⟩ => exact fun hx hx' => ⟨hx.1, hx.2, hx'.2⟩
  | ⟨.killed, t, fs'⟩ => exact fun hx hx' => ⟨hx.1, hx.2, hx'.2⟩

end Triples

/-- Whatever the fates, the program keeps `P`. -/
def Keeps (P : σ → Prop) (x : Program σ ε α) : Prop :=
  Meets (fun _ => True) P x (fun _ => P) (fun _ => P) P

section Keeps

variable {P : σ → Prop} {x y : Program σ ε α} {ε' : Type}

lemma keeps_iff : Keeps P x ↔ ∀ s fs, P s → P (x.run s fs).state := by
  constructor
  · intro h s fs hs
    exact h.state (fun _ _ hq => hq) (fun _ _ hr => hr) (fun _ hc => hc) (fun _ _ => trivial) hs
  intro h s fs _ hs
  have hP := h s fs hs
  refine ⟨fun _ _ => trivial, ?_⟩
  cases (x.run s fs).outcome <;> exact hP

lemma Keeps.run (h : Keeps P x) {s : σ} (hs : P s) (fs : List Fate) : P (x.run s fs).state :=
  keeps_iff.mp h s fs hs

lemma keeps_pure (a : α) : Keeps P (pure a : Program σ ε α) := meets_pure fun _ hs => hs

lemma keeps_raise (e : ε) : Keeps P (raise e : Program σ ε α) := meets_raise fun _ hs => hs

lemma keeps_get : Keeps P (get : Program σ ε σ) := meets_get fun _ hs => hs

lemma keeps_check (f : σ → Except ε α) : Keeps P (check f) :=
  meets_check (fun _ _ hs _ => hs) fun _ _ hs _ => hs

lemma keeps_effect {f : σ → σ} (e : ε) (hf : ∀ s, P s → P (f s)) : Keeps P (effect f e) :=
  meets_effect hf (fun _ _ hs => hs) (fun _ => hf) fun _ _ hs => hs

lemma keeps_effectUnless {p : σ → Bool} {f : σ → σ} (e : ε) (hf : ∀ s, P s → P (f s)) :
    Keeps P (effectUnless p f e) :=
  meets_effectUnless (fun _ hs _ => hs) hf (fun _ _ hs => hs) (fun _ => hf) fun _ _ hs => hs

lemma Keeps.bind {f : α → Program σ ε β} (hx : Keeps P x) (hf : ∀ a, Keeps P (f a)) :
    Keeps P (x >>= f) :=
  Meets.bind hx hf

lemma Keeps.of_run_eq (hy : Keeps P y) (h : ∀ s fs, P s → x.run s fs = y.run s fs) : Keeps P x :=
  Meets.of_run_eq hy h

lemma Keeps.ite {c : Prop} [Decidable c] (hx : c → Keeps P x) (hy : ¬c → Keeps P y) :
    Keeps P (if c then x else y) := by
  split
  · next h => exact hx h
  next h => exact hy h

lemma Keeps.ite_pure {c : Prop} [Decidable c] {a : α} (hy : ¬c → Keeps P y) :
    Keeps P (if c then pure a else y) := .ite (fun _ => keeps_pure a) hy

lemma Keeps.ite_raise {c : Prop} [Decidable c] {e : ε} (hy : ¬c → Keeps P y) :
    Keeps P (if c then raise e else y) := .ite (fun _ => keeps_raise e) hy

lemma Keeps.forM {γ : Type} {l : List γ} {f : γ → Program σ ε Unit}
    (hf : ∀ a ∈ l, Keeps P (f a)) : Keeps P (l.forM f) := by
  induction l with
  | nil => exact keeps_pure ()
  | cons a l ih =>
    have hcons : (a :: l).forM f = (f a >>= fun _ => l.forM f) := rfl
    rw [hcons]
    exact (hf a List.mem_cons_self).bind fun _ => ih fun b hb => hf b (.tail _ hb)

lemma Keeps.onRaise {cleanup : Program σ ε Unit} (hx : Keeps P x) (hc : Keeps P cleanup) :
    Keeps P (onRaise x cleanup) := by
  refine keeps_iff.mpr fun s fs hs => ?_
  have hP := hx.run hs fs
  unfold Program.onRaise
  revert hP
  simp only
  match x.run s fs with
  | ⟨.done a, t, fs'⟩ => exact fun hP => hP
  | ⟨.raised e, t, fs'⟩ => exact fun hP => (hc.bind fun _ => keeps_raise e).run hP fs'
  | ⟨.killed, t, fs'⟩ => exact fun hP => hP

lemma Keeps.attempt {x : Program σ ε Unit} (hx : Keeps P x) : Keeps P (attempt x) := by
  refine keeps_iff.mpr fun s fs hs => ?_
  have hP := hx.run hs fs
  unfold Program.attempt
  revert hP
  simp only
  match x.run s fs with
  | ⟨.done a, t, fs'⟩ => exact fun hP => hP
  | ⟨.raised e, t, fs'⟩ => exact fun hP => hP
  | ⟨.killed, t, fs'⟩ => exact fun hP => hP

lemma recover_state (f : ε → Except ε α) (x : Program σ ε α) (s : σ) (fs : List Fate) :
    ((recover f x).run s fs).state = (x.run s fs).state := by
  unfold Program.recover
  simp only
  match x.run s fs with
  | ⟨.done a, t, fs'⟩ => rfl
  | ⟨.raised e, t, fs'⟩ => cases hf : f e <;> simp [hf]
  | ⟨.killed, t, fs'⟩ => rfl

lemma Meets.recover {A : Fate → Prop} {Q : α → σ → Prop} {R : ε → σ → Prop} {C : σ → Prop}
    {f : ε → Except ε α} (hx : Meets A P x Q R C)
    (hok : ∀ e a s, R e s → f e = .ok a → Q a s) (herr : ∀ e e' s, R e s → f e = .error e' → R e' s) :
    Meets A P (recover f x) Q R C := by
  intro s fs hA hs
  have hmeets := hx s fs hA hs
  unfold Program.recover
  revert hmeets
  simp only
  match x.run s fs with
  | ⟨.done a, t, fs'⟩ => exact fun h => h
  | ⟨.raised e, t, fs'⟩ =>
    intro h
    cases hf : f e with
    | ok a =>
      simp only [hf]
      exact ⟨h.1, hok e a t h.2 hf⟩
    | error e' =>
      simp only [hf]
      exact ⟨h.1, herr e e' t h.2 hf⟩
  | ⟨.killed, t, fs'⟩ => exact fun h => h

lemma Keeps.recover {f : ε → Except ε α} (hx : Keeps P x) : Keeps P (recover f x) :=
  keeps_iff.mpr fun s fs hs => by rw [recover_state]; exact hx.run hs fs

lemma mapError_state (f : ε → ε') (x : Program σ ε α) (s : σ) (fs : List Fate) :
    ((mapError f x).run s fs).state = (x.run s fs).state := by
  unfold Program.mapError
  simp only
  match x.run s fs with
  | ⟨.done a, t, fs'⟩ => rfl
  | ⟨.raised e, t, fs'⟩ => rfl
  | ⟨.killed, t, fs'⟩ => rfl

lemma Keeps.mapError {f : ε → ε'} (hx : Keeps P x) : Keeps P (mapError f x) :=
  keeps_iff.mpr fun s fs hs => by rw [mapError_state]; exact hx.run hs fs

lemma Meets.zoom {τ : Type} {A : Fate → Prop} {Q : α → σ → Prop} {R : ε → σ → Prop}
    {C : σ → Prop} {view : τ → σ} {put : σ → τ → τ} (hx : Meets A P x Q R C)
    (hput : ∀ s t, view (put s t) = s) :
    Meets A (fun t => P (view t)) (zoom view put x) (fun a t => Q a (view t))
      (fun e t => R e (view t)) (fun t => C (view t)) := by
  intro t fs hA ht
  have hmeets := hx (view t) fs hA ht
  unfold Program.zoom
  simp only [hput]
  exact hmeets

/-- On a part of the state, what the program keeps there is kept in the whole. -/
theorem Keeps.zoom {τ : Type} {view : τ → σ} {put : σ → τ → τ} {R : σ → σ → Prop} {P : τ → Prop}
    (hx : ∀ s fs, R s (x.run s fs).state) (hput : ∀ t s, P t → R (view t) s → P (put s t)) :
    Keeps P (zoom view put x) :=
  keeps_iff.mpr fun t fs ht => hput t _ ht (hx (view t) fs)

end Keeps

/-- From a state with `P` the program never returns, whatever the fates. -/
def Blocked (P : σ → Prop) (x : Program σ ε α) : Prop :=
  ∀ s fs a, P s → (x.run s fs).outcome ≠ .done a

section Blocked

variable {P : σ → Prop} {x : Program σ ε α} {ε' : Type}

lemma blocked_raise (e : ε) : Blocked P (raise e : Program σ ε α) :=
  fun _ _ _ _ => by simp [raise]

lemma Blocked.mono {Q : σ → Prop} (hx : Blocked P x) (h : ∀ s, Q s → P s) : Blocked Q x :=
  fun s fs a hs => hx s fs a (h s hs)

lemma Blocked.bind {f : α → Program σ ε β} (hx : Blocked P x) : Blocked P (x >>= f) := by
  intro s fs b hs
  have hnot := hx s fs
  rw [run_bind]
  revert hnot
  match x.run s fs with
  | ⟨.done a, t, fs'⟩ => exact fun hnot => absurd rfl (hnot a hs)
  | ⟨.raised e, t, fs'⟩ => simp
  | ⟨.killed, t, fs'⟩ => simp

/-- What follows a program is blocked when it is so from all states in which the program returns. -/
theorem Meets.blocked_bind {Q : α → σ → Prop} {R : ε → σ → Prop} {C : σ → Prop}
    {f : α → Program σ ε β} (hx : Meets (fun _ => True) P x Q R C)
    (hf : ∀ a, Blocked (Q a) (f a)) : Blocked P (x >>= f) := by
  intro s fs b hs
  have hmeets := hx s fs (fun _ _ => trivial) hs
  rw [run_bind]
  revert hmeets
  match x.run s fs with
  | ⟨.done a, t, fs'⟩ => exact fun hmeets => hf a t fs' b hmeets.2
  | ⟨.raised e, t, fs'⟩ => simp
  | ⟨.killed, t, fs'⟩ => simp

lemma Keeps.blocked_bind {f : α → Program σ ε β} (hx : Keeps P x) (hf : ∀ a, Blocked P (f a)) :
    Blocked P (x >>= f) :=
  Meets.blocked_bind hx hf

lemma Blocked.onRaise {cleanup : Program σ ε Unit} (hx : Blocked P x) :
    Blocked P (onRaise x cleanup) := by
  intro s fs a hs
  have hnot := hx s fs
  unfold Program.onRaise
  revert hnot
  simp only
  match x.run s fs with
  | ⟨.done a', t, fs'⟩ => exact fun hnot => absurd rfl (hnot a' hs)
  | ⟨.raised e, t, fs'⟩ =>
    intro _
    have hclean : Keeps (fun _ => True) cleanup := keeps_iff.mpr fun _ _ _ => trivial
    exact hclean.blocked_bind (fun _ => blocked_raise e) t fs' a trivial
  | ⟨.killed, t, fs'⟩ => simp

lemma Blocked.mapError {f : ε → ε'} (hx : Blocked P x) : Blocked P (mapError f x) := by
  intro s fs a hs
  have hnot := hx s fs
  unfold Program.mapError
  revert hnot
  simp only
  match x.run s fs with
  | ⟨.done a', t, fs'⟩ => exact fun hnot => absurd rfl (hnot a' hs)
  | ⟨.raised e, t, fs'⟩ => simp
  | ⟨.killed, t, fs'⟩ => simp

lemma Blocked.zoom {τ : Type} {view : τ → σ} {put : σ → τ → τ} {P : τ → Prop}
    (hx : Blocked (fun _ => True) x) : Blocked P (zoom view put x) :=
  fun t fs a _ => hx (view t) fs a trivial

/-- A program that never returns raises or is killed. -/
theorem Meets.halts {Q : α → σ → Prop} {R : ε → σ → Prop} {C : σ → Prop}
    (hx : Meets (fun _ => True) P x Q R C) (hblocked : Blocked P x) :
    Meets (fun _ => True) P x (fun _ _ => False) R C := by
  intro s fs hA hs
  have hmeets := hx s fs hA hs
  have hnot := hblocked s fs
  revert hmeets hnot
  match x.run s fs with
  | ⟨.done a, t, fs'⟩ => exact fun _ hnot => absurd rfl (hnot a hs)
  | ⟨.raised e, t, fs'⟩ => exact fun hmeets _ => hmeets
  | ⟨.killed, t, fs'⟩ => exact fun hmeets _ => hmeets

end Blocked

end Program

end VonkForge
