import Mathlib.Data.Nat.Nth
import Mathlib.Logic.Function.Iterate

/-!
# The sources of the worker

`Worker.run_once` calls its tick sources from a cursor on, which is in memory only.
-/

namespace VonkForge.WorkerSources

/-- How a call of a source ends, and how `run_once` does. -/
inductive Answer
  | advanced
  | idle
  | raised
  deriving DecidableEq

/-- What each source answers, call after call.  A source is known by its place in the list of
`run_once`. -/
abbrev Behaviour := ℕ → ℕ → Answer

structure Worker where
  cursor : ℕ := 0
  calls : ℕ → ℕ := fun _ => 0

section

variable (b : Behaviour) (n : ℕ) (w : Worker)

def Worker.call (i : ℕ) : Worker :=
  { w with calls := Function.update w.calls i (w.calls i + 1) }

/-- The source at the given offset from the cursor and the next ones, `k` in all. -/
def callSources (b : Behaviour) (n cursor : ℕ) : ℕ → ℕ → Worker → Answer × Worker
  | _, 0, w => (.idle, w)
  | offset, k + 1, w =>
    let i := (cursor + offset) % n
    match b i (w.calls i) with
    | .advanced => (.advanced, { w.call i with cursor := (i + 1) % n })
    | .raised => (.raised, w.call i)
    | .idle => callSources b n cursor (offset + 1) k (w.call i)

def runOnce : Answer × Worker :=
  let cursor := if n ≤ w.cursor then 0 else w.cursor
  callSources b n cursor 0 n { w with cursor := cursor }

/-- The loop of `__main__` goes on, or a new process takes its place. -/
def proceed : Answer × Worker → Worker
  | (.raised, w) => { w with cursor := 0 }
  | (_, w) => w

def turn : Worker := proceed (runOnce b n w)

def run (t : ℕ) : Worker := (turn b n)^[t] {}

end

section

variable (b : Behaviour) (n : ℕ)

def Failed (t : ℕ) : Prop := (runOnce b n (run b n t)).1 = .raised

def Failing (i : ℕ) : Prop := ∃ m, ∀ k ≥ m, b i k = .raised

def CouldAdvance (i : ℕ) : Prop := ∀ m, ∃ k ≥ m, b i k = .advanced

def CalledForever (i : ℕ) : Prop := ∀ m, ∃ t, m ≤ (run b n t).calls i

/-- No failing source keeps another one from being called, and a source that would advance is
called within `n` turns without a failure. -/
structure Fair : Prop where
  unblocked : ∀ s < n, Failing b s → ∀ i < n, i ≠ s → CouldAdvance b i → CalledForever b n i
  prompt : ∀ t, ∀ i < n, (∀ u < n, ¬ Failed b n (t + u)) → b i ((run b n t).calls i) = .advanced →
    (run b n t).calls i < (run b n (t + n)).calls i

end

abbrev Raises (b : Behaviour) (w : Worker) : Prop := b w.cursor (w.calls w.cursor) = .raised

def next (b : Behaviour) (n : ℕ) (w : Worker) : Worker :=
  { w.call w.cursor with cursor := if Raises b w then 0 else (w.cursor + 1) % n }

section Calls

variable {b : Behaviour} {n i k m o s t : ℕ} {w w' : Worker}

lemma proceed_callSources (hk : o + k = n) (w : Worker) (hc : w.cursor < n) :
    ∃ m, (0 < k → 0 < m) ∧ proceed (callSources b n w.cursor o k w) =
        (next b n)^[m] ⟨(w.cursor + o) % n, w.calls⟩ ∧
      ((callSources b n w.cursor o k w).1 ≠ .raised →
        ∀ j < m, ¬ Raises b ((next b n)^[j] ⟨(w.cursor + o) % n, w.calls⟩)) := by
  induction k generalizing o w with
  | zero =>
    refine ⟨0, by simp, ?_, by simp⟩
    have hcursor : (w.cursor + o) % n = w.cursor := by
      rw [← hk, Nat.add_zero, Nat.add_mod_right, Nat.mod_eq_of_lt (by omega)]
    rw [hcursor]
    rfl
  | succ k ih =>
    obtain ⟨m, -, hm, hquiet⟩ := ih (by omega : o + 1 + k = n) (w.call ((w.cursor + o) % n)) hc
    rw [callSources]
    cases hb : b ((w.cursor + o) % n) (w.calls ((w.cursor + o) % n)) with
    | advanced => exact ⟨1, by simp, by simp [next, hb, proceed, Worker.call], by simp [hb]⟩
    | raised => exact ⟨1, by simp, by simp [next, hb, proceed, Worker.call], by simp⟩
    | idle =>
      have hnext : next b n ⟨(w.cursor + o) % n, w.calls⟩ = ⟨(w.cursor + (o + 1)) % n,
          (w.call ((w.cursor + o) % n)).calls⟩ := by
        simp [next, hb, Worker.call, Nat.add_assoc]
      refine ⟨m + 1, by simp, ?_, fun hok j hj => ?_⟩
      · rw [Function.iterate_succ_apply, hnext]
        exact hm
      cases j with
      | zero => simp [hb]
      | succ j =>
        rw [Function.iterate_succ_apply, hnext]
        exact hquiet hok j (by omega)

lemma turn_eq (hc : w.cursor < n) : ∃ m > 0, turn b n w = (next b n)^[m] w ∧
    ((runOnce b n w).1 ≠ .raised → ∀ j < m, ¬ Raises b ((next b n)^[j] w)) := by
  obtain ⟨m, hm, hturn, hquiet⟩ := proceed_callSources (b := b) (Nat.zero_add n) w hc
  rw [Nat.add_zero, Nat.mod_eq_of_lt hc] at hturn hquiet
  have hrun : runOnce b n w = callSources b n w.cursor 0 n w := by
    rw [runOnce, if_neg (not_le.mpr hc)]
  rw [turn, hrun]
  exact ⟨m, hm (by omega), hturn, hquiet⟩

lemma next_calls (x : ℕ) :
    (next b n w).calls x = if x = w.cursor then w.calls x + 1 else w.calls x := by
  by_cases hx : x = w.cursor <;> simp [next, Worker.call, hx]

lemma next_cursor (hc : w.cursor < n) :
    (next b n w).cursor = if Raises b w ∨ w.cursor + 1 = n then 0 else w.cursor + 1 := by
  split_ifs with h
  · rcases h with hr | hlast
    · exact if_pos hr
    simp [next, hlast]
  push Not at h
  exact (if_neg h.1).trans (Nat.mod_eq_of_lt (by omega))

/-- After `k` calls every source but the first has been called once for each call of the one before
it that did not raise, or is to be called next. -/
structure Counted (b : Behaviour) (n k : ℕ) (w : Worker) : Prop where
  cursor : w.cursor < n
  first : k + (if w.cursor = 0 then 0 else n - w.cursor) ≤ n * w.calls 0
  chain : ∀ i, i + 1 < n → Nat.count (fun j => b i j ≠ .raised) (w.calls i) =
    w.calls (i + 1) + if w.cursor = i + 1 then 1 else 0

lemma Counted.step (h : Counted b n k w) : Counted b n (k + 1) (next b n w) := by
  have hc := h.cursor
  have hcursor := next_cursor (b := b) hc
  refine ⟨?_, ?_, fun i hi => ?_⟩
  · rw [hcursor]
    split <;> omega
  · have hfirst := h.first
    rw [next_calls, hcursor]
    by_cases hzero : w.cursor = 0
    · rw [if_pos hzero] at hfirst
      rw [if_pos hzero.symm, Nat.mul_succ]
      split_ifs <;> omega
    rw [if_neg hzero] at hfirst
    rw [if_neg (Ne.symm hzero)]
    split_ifs <;> omega
  have hchain := h.chain i hi
  rw [next_calls, next_calls]
  by_cases hat : w.cursor = i
  · subst hat
    rw [if_pos rfl, Nat.count_succ, hchain, hcursor]
    by_cases hr : Raises b w
    · simp [hr]
    simp [hr, hi.ne]
  have hnext : (next b n w).cursor ≠ i + 1 := by
    rw [hcursor]
    split <;> omega
  rw [if_neg (Ne.symm hat), hchain, if_neg hnext]
  split_ifs <;> omega

lemma Counted.iterate (h : Counted b n k w) (m : ℕ) : Counted b n (k + m) ((next b n)^[m] w) := by
  induction m with
  | zero => exact h
  | succ m ih =>
    rw [Function.iterate_succ_apply']
    exact ih.step

lemma counted_run (hn : 0 < n) (t : ℕ) : ∃ k ≥ t, Counted b n k (run b n t) := by
  induction t with
  | zero => exact ⟨0, le_rfl, hn, by simp [run], by simp [run]⟩
  | succ t ih =>
    obtain ⟨k, hk, hrun⟩ := ih
    obtain ⟨m, hm, hturn, -⟩ := turn_eq (b := b) hrun.cursor
    refine ⟨k + m, by omega, ?_⟩
    rw [run, Function.iterate_succ_apply', ← run, hturn]
    exact hrun.iterate m

lemma calledForever (hi : i < n) (h : ∀ r < i, ¬ Failing b r) : CalledForever b n i := by
  induction i with
  | zero =>
    intro m
    obtain ⟨k, hk, hrun⟩ := counted_run (b := b) hi (n * m)
    exact ⟨n * m, Nat.le_of_mul_le_mul_left (hk.trans (le_of_add_le_left hrun.first)) hi⟩
  | succ i ih =>
    intro m
    have hoften : {j | b i j ≠ .raised}.Infinite := by
      refine Set.infinite_of_forall_exists_gt fun m => ?_
      have hnot := h i (by omega)
      unfold Failing at hnot
      push Not at hnot
      obtain ⟨j, hj, hquiet⟩ := hnot (m + 1)
      exact ⟨j, hquiet, hj⟩
    obtain ⟨c, hcount⟩ := Nat.surjective_count_of_infinite_setOfPred hoften (m + 1)
    obtain ⟨t, ht⟩ := ih (by omega) (fun r hr => h r (by omega)) c
    obtain ⟨k, -, hrun⟩ := counted_run (b := b) (by omega : 0 < n) t
    have hmono := Nat.count_monotone (fun j => b i j ≠ .raised) ht
    rw [hcount, hrun.chain i hi] at hmono
    refine ⟨t, ?_⟩
    split_ifs at hmono <;> omega

lemma not_calledForever (hi : i < n) (hs : s < i) (h : Failing b s) : ¬ CalledForever b n i := by
  obtain ⟨m, hm⟩ := h
  have hbound : ∀ t, (run b n t).calls i ≤ m := by
    intro t
    obtain ⟨k, -, hrun⟩ := counted_run (b := b) (by omega : 0 < n) t
    induction i, hs using Nat.le_induction with
    | base =>
      have hnone : ∀ c, Nat.count (fun j => b s j ≠ .raised) c ≤ m := by
        intro c
        induction c with
        | zero => simp
        | succ c ih =>
          rw [Nat.count_succ]
          split
          · next hquiet =>
            have hc : c < m := not_le.mp fun hle => hquiet (hm c hle)
            exact Nat.succ_le_of_lt ((Nat.count_le _).trans_lt hc)
          exact ih
      exact (Nat.le_add_right _ _).trans ((hrun.chain s hi).symm.le.trans (hnone _))
    | succ i _ ih =>
      have hchain := (hrun.chain i hi).symm.le.trans (Nat.count_le _)
      exact (Nat.le_add_right _ _).trans (hchain.trans (ih (by omega)))
  intro hforever
  obtain ⟨t, ht⟩ := hforever (m + 1)
  have := hbound t
  omega

/-- How many sources come before source `i` is next. -/
def away (n i : ℕ) (w : Worker) : ℕ :=
  if w.cursor ≤ i then i - w.cursor else i + n - w.cursor

/-- The source is called, or it is nearer to its turn by `k` places. -/
def Nearer (n i k : ℕ) (w w' : Worker) : Prop :=
  w.calls i < w'.calls i ∨ (w'.calls i = w.calls i ∧ away n i w' + k ≤ away n i w)

lemma Nearer.trans {w'' : Worker} (h : Nearer n i k w w') (h' : Nearer n i m w' w'') :
    Nearer n i (k + m) w w'' := by
  unfold Nearer at *
  omega

lemma nearer_next (hc : w.cursor < n) (hi : i < n) (hr : ¬ Raises b w) :
    Nearer n i 1 w (next b n w) := by
  have hcursor := next_cursor (b := b) hc
  unfold Nearer away
  rw [next_calls]
  by_cases hlast : w.cursor + 1 = n
  · rw [if_pos (.inr hlast)] at hcursor
    rw [hcursor]
    split_ifs <;> omega
  rw [if_neg (not_or.mpr ⟨hr, hlast⟩)] at hcursor
  rw [hcursor]
  split_ifs <;> omega

lemma nearer_iterate (h : Counted b n k w) (hi : i < n)
    (hquiet : ∀ j < m, ¬ Raises b ((next b n)^[j] w)) : Nearer n i m w ((next b n)^[m] w) := by
  induction m with
  | zero => exact .inr ⟨rfl, le_rfl⟩
  | succ m ih =>
    rw [Function.iterate_succ_apply']
    exact (ih fun j hj => hquiet j (by omega)).trans
      (nearer_next (h.iterate m).cursor hi (hquiet m (by omega)))

lemma nearer_run (hi : i < n) (hok : ∀ u < k, ¬ Failed b n (t + u)) :
    Nearer n i k (run b n t) (run b n (t + k)) := by
  induction k with
  | zero => exact .inr ⟨rfl, le_rfl⟩
  | succ k ih =>
    obtain ⟨_, -, hrun⟩ := counted_run (b := b) (by omega : 0 < n) (t + k)
    obtain ⟨m, hm, hturn, hquiet⟩ := turn_eq (b := b) hrun.cursor
    have hnear := (ih fun u hu => hok u (by omega)).trans
      (nearer_iterate hrun hi (hquiet (hok k (by omega))))
    rw [← hturn] at hnear
    have hsucc : run b n (t + (k + 1)) = turn b n (run b n (t + k)) :=
      Function.iterate_succ_apply' ..
    rw [hsucc]
    unfold Nearer at *
    omega

end Calls

theorem fair_iff (b : Behaviour) (n : ℕ) :
    Fair b n ↔ ∀ s < n, Failing b s → ∀ i < n, CouldAdvance b i → i < s := by
  constructor
  · intro h s hs hfailing i hi hcould
    have hne : i ≠ s := by
      rintro rfl
      obtain ⟨m, hm⟩ := hfailing
      obtain ⟨k, hk, hadvanced⟩ := hcould m
      rw [hm k hk] at hadvanced
      cases hadvanced
    by_contra hlt
    exact not_calledForever hi (by omega) hfailing (h.unblocked s hs hfailing i hi hne hcould)
  intro h
  refine ⟨fun s hs hfailing i hi _ hcould => ?_, fun t i hi hok _ => ?_⟩
  · refine calledForever hi fun r hr hr' => ?_
    have := h r (by omega) hr' i hi hcould
    omega
  rcases nearer_run hi hok with hcalled | ⟨-, hnear⟩
  · exact hcalled
  obtain ⟨_, -, hrun⟩ := counted_run (b := b) (by omega : 0 < n) t
  have hc := hrun.cursor
  have haway : away n i (run b n t) < n := by
    unfold away
    split <;> omega
  omega

/-- The first of two sources always raises, the second always advances. -/
def failingFirst : Behaviour := fun i _ => if i = 0 then .raised else .advanced

theorem second_source_starves :
    Failing failingFirst 0 ∧ CouldAdvance failingFirst 1 ∧ ¬ CalledForever failingFirst 2 1 := by
  have hfailing : Failing failingFirst 0 := ⟨0, fun _ _ => rfl⟩
  exact ⟨hfailing, fun m => ⟨m, le_rfl, rfl⟩,
    not_calledForever (by decide) Nat.zero_lt_one hfailing⟩

end VonkForge.WorkerSources
