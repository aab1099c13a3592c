import VonkForge.Transactions

/-!
# Transactions that call another system

A transaction that raises rolls its writes back, but the calls that it made to another system stay
made; so a computation returns its calls beside its result.
-/

namespace VonkForge

/-- The calls of a computation in their order, and how it ended. -/
structure Logged (ε κ α : Type) where
  log : List κ
  result : Except ε α

namespace Logged

variable {ε κ α β : Type}

instance : Monad (Logged ε κ) where
  pure a := ⟨[], .ok a⟩
  bind x f :=
    match x.result with
    | .ok a => ⟨x.log ++ (f a).log, (f a).result⟩
    | .error e => ⟨x.log, .error e⟩

def lift (x : Except ε α) : Logged ε κ α := ⟨[], x⟩

/-- The call `k`, which the other system answers with `x`. -/
def call (k : κ) (x : Except ε α) : Logged ε κ α := ⟨[k], x⟩

/-- The result with the calls, when there is a result to commit. -/
def commits (x : Logged ε κ α) : Except ε (α × List κ) :=
  x.result.map fun a => (a, x.log)

lemma commits_eq_ok {x : Logged ε κ α} {a : α} {l : List κ} :
    x.commits = .ok (a, l) ↔ x.result = .ok a ∧ x.log = l := by
  unfold commits
  cases x.result <;> simp [Except.map]

/-- Every call satisfies `C`, and a result satisfies `Q` together with the calls made for it. -/
def Ensures (C : κ → Prop) (Q : List κ → α → Prop) (x : Logged ε κ α) : Prop :=
  (∀ k ∈ x.log, C k) ∧ ∀ a, x.result = .ok a → Q x.log a

variable {C : κ → Prop} {Q : List κ → β → Prop}

lemma ensures_pure {b : β} (h : Q [] b) : Ensures C Q (pure b : Logged ε κ β) := by
  refine ⟨fun k hk => (by cases hk), ?_⟩
  intro b' hb'
  cases hb'
  exact h

lemma ensures_lift {x : Except ε β} (h : ∀ b, x = .ok b → Q [] b) :
    Ensures C Q (lift x : Logged ε κ β) :=
  ⟨fun k hk => (by cases hk), h⟩

lemma Ensures.mono {C' : κ → Prop} {Q' : List κ → β → Prop} {x : Logged ε κ β}
    (h : Ensures C Q x) (hC : ∀ k, C k → C' k) (hQ : ∀ l b, Q l b → Q' l b) : Ensures C' Q' x :=
  ⟨fun k hk => hC k (h.1 k hk), fun b hb => hQ x.log b (h.2 b hb)⟩

lemma Ensures.with_calls {x : Logged ε κ β} (h : Ensures C Q x) :
    Ensures C (fun l b => (∀ k ∈ l, C k) ∧ Q l b) x :=
  ⟨h.1, fun b hb => ⟨h.1, h.2 b hb⟩⟩

/-- The calls before a bind come first; those after it are made only with a result. -/
theorem Ensures.bind {P : List κ → α → Prop} {x : Logged ε κ α} {f : α → Logged ε κ β}
    (hx : Ensures C P x)
    (hf : ∀ l a, P l a → Ensures C (fun l' b => Q (l ++ l') b) (f a)) :
    Ensures C Q (x >>= f) := by
  obtain ⟨log, result⟩ := x
  cases result with
  | error e =>
    refine ⟨hx.1, ?_⟩
    intro b hb
    cases hb
  | ok a =>
    have ha := hf log a (hx.2 a rfl)
    refine ⟨?_, fun b hb => ha.2 b hb⟩
    intro k hk
    rcases List.mem_append.mp hk with hk | hk
    · exact hx.1 k hk
    exact ha.1 k hk

lemma ensures_lift_bind {x : Except ε α} {f : α → Logged ε κ β}
    (h : ∀ a, x = .ok a → Ensures C Q (f a)) : Ensures C Q (lift x >>= f) := by
  have hx : Ensures C (fun l a => l = [] ∧ x = .ok a) (lift x : Logged ε κ α) :=
    ensures_lift fun a ha => ⟨rfl, ha⟩
  apply hx.bind
  rintro l a ⟨rfl, ha⟩
  exact h a ha

lemma ensures_call_bind {k : κ} {x : Except ε α} {f : α → Logged ε κ β} (hk : C k)
    (h : ∀ a, x = .ok a → Ensures C (fun l b => Q (k :: l) b) (f a)) :
    Ensures C Q (call k x >>= f) := by
  have hx : Ensures C (fun l a => l = [k] ∧ x = .ok a) (call k x : Logged ε κ α) :=
    ⟨fun k' hk' => List.mem_singleton.mp hk' ▸ hk, fun a ha => ⟨rfl, ha⟩⟩
  apply hx.bind
  rintro l a ⟨rfl, ha⟩
  exact h a ha

end Logged

end VonkForge
