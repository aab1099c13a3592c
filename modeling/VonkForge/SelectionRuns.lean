import VonkForge.GenerationStore
import VonkForge.Transactions

/-!
# Selections through kills

Calls of `select` and `reconcile_selection`, killed between any writes: the three files stand for one
selection, `selectionOf`, which is left or replaced by the intended one.
-/

namespace VonkForge.HostState

open Program Transactions

variable {sizes : DocumentSizes} {A : Fate → Prop} {fs : List Fate} {selected : SelectedGeneration}
  {s t : Store} {id : String}

/-! ### What the files stand for -/

def begun (s : Store) (intended : SelectedGeneration) : Bool :=
  s.active = some intended || s.pointer = some intended.generationId

def selectionOf (s : Store) : Option SelectedGeneration :=
  match s.intent with
  | some intended => if begun s intended then some intended else s.active
  | none => s.active

def stuck (s : Store) : Bool := s.intent.any fun intended => !begun s intended

def sequenceOf (current : Option SelectedGeneration) : ℕ :=
  current.elim 0 (·.projectionSequence)

lemma nextSequence_eq (current : Option SelectedGeneration) :
    nextSequence current = sequenceOf current + 1 := by
  cases current <;> rfl

def SelectedGeneration.fits (sizes : DocumentSizes) (selected : SelectedGeneration) : Bool :=
  sizes.active selected ≤ maxDocumentBytes && sizes.intent selected ≤ maxDocumentBytes

structure Sound (sizes : DocumentSizes) (s : Store) : Prop where
  shape : consistent s = true ∨ s.intent ≠ none ∧ s.active = s.intent
  active : ∀ a, s.active = some a → sizes.active a ≤ maxDocumentBytes
  intent : ∀ i, s.intent = some i → i.fits sizes = true
  activeCommitted : ∀ a, s.active = some a →
    loadGeneration sizes a.generationId s = .ok a.generation
  committed : ∀ i, s.intent = some i → loadGeneration sizes i.generationId s = .ok i.generation

section Reading

lemma readBounded_of_le {α : Type} {label : String} {size : ℕ} {content : α}
    (h : size ≤ maxDocumentBytes) : readBounded label size content = .ok content :=
  if_neg (not_lt.mpr h)

lemma SelectedGeneration.fits_iff :
    selected.fits sizes = true ↔
      sizes.active selected ≤ maxDocumentBytes ∧ sizes.intent selected ≤ maxDocumentBytes := by
  simp [SelectedGeneration.fits]

lemma loadGeneration_congr (h : t.generations = s.generations) :
    loadGeneration sizes id t = loadGeneration sizes id s := by
  unfold loadGeneration
  rw [h]

variable (h : Sound sizes s)

include h

lemma Sound.loadIdentityActive : loadIdentityActive sizes s = .ok s.active := by
  unfold HostState.loadIdentityActive
  cases ha : s.active with
  | none => rfl
  | some a => simp [readBounded_of_le (h.active a ha)]

lemma Sound.loadSelectionIntent : loadSelectionIntent sizes s = .ok s.intent := by
  unfold HostState.loadSelectionIntent
  cases hi : s.intent with
  | none => rfl
  | some i => simp [readBounded_of_le (SelectedGeneration.fits_iff.mp (h.intent i hi)).2]

lemma Sound.consistent_of_not_begun (hb : ∀ i, s.intent = some i → begun s i = false) :
    consistent s = true := by
  rcases h.shape with hc | ⟨hne, heq⟩
  · exact hc
  obtain ⟨i, hi⟩ := Option.ne_none_iff_exists'.mp hne
  have := hb i hi
  simp [begun, heq, hi] at this

lemma Sound.of_files (ha : t.active = s.active) (hp : t.pointer = s.pointer)
    (hi : t.intent = s.intent)
    (hload : ∀ id g, loadGeneration sizes id s = .ok g → loadGeneration sizes id t = .ok g) :
    Sound sizes t := by
  refine ⟨?_, ?_, ?_, ?_, ?_⟩
  · simpa only [consistent, ha, hp, hi] using h.shape
  · simpa only [ha] using h.active
  · simpa only [hi] using h.intent
  · intro a ha'
    exact hload _ _ (h.activeCommitted a (ha ▸ ha'))
  intro i hi'
  exact hload _ _ (h.committed i (hi ▸ hi'))

end Reading

section Reconcile

variable {i : SelectedGeneration}

structure Settled (sizes : DocumentSizes) (s : Store) : Prop where
  active : ∀ a, s.active = some a → sizes.active a ≤ maxDocumentBytes
  intent : ∀ i, s.intent = some i → sizes.intent i ≤ maxDocumentBytes ∧ begun s i = false
  consistent : consistent s = true

lemma Settled.reconcile (h : Settled sizes s) :
    (reconcileSelection sizes).run s fs = ⟨.done s.active, s, fs⟩ := by
  have hactive : loadIdentityActive sizes s = .ok s.active := by
    unfold loadIdentityActive
    cases ha : s.active with
    | none => rfl
    | some a => simp [readBounded_of_le (h.active a ha)]
  have hintent : loadSelectionIntent sizes s = .ok s.intent := by
    unfold loadSelectionIntent
    cases hi : s.intent with
    | none => rfl
    | some i => simp [readBounded_of_le (h.intent i hi).1]
  have hc := h.consistent
  unfold reconcileSelection
  rw [run_bind_done (run_check_of_ok hactive), run_bind_done (run_check_of_ok hintent),
    run_get_bind]
  cases hi : s.intent with
  | none =>
    simp only [hc, if_true]
    rfl
  | some i =>
    have hor : ¬(s.active = some i ∨ s.pointer = some i.generationId) := by
      simpa [begun] using (h.intent i hi).2
    simp only [if_neg hor, hc, if_true]
    rfl

lemma Sound.settled (h : Sound sizes s) (hb : ∀ i, s.intent = some i → begun s i = false) :
    Settled sizes s :=
  ⟨h.active, fun i hi => ⟨(SelectedGeneration.fits_iff.mp (h.intent i hi)).2, hb i hi⟩,
    h.consistent_of_not_begun hb⟩

def reconciled (s : Store) : Store :=
  match s.intent with
  | some i =>
    if begun s i then unlinkIntent (writePointer i (writeActive i s)) else s
  | none => s

structure Between (sizes : DocumentSizes) (s : Store) (selected : Option SelectedGeneration)
    (t : Store) : Prop where
  sound : Sound sizes t
  selection : selectionOf t = selected
  generations : t.generations = s.generations

lemma selectionOf_of_begun (hi : s.intent = some i) (hb : begun s i = true) :
    selectionOf s = some i := by
  simp [selectionOf, hi, hb]

section

variable (h : Sound sizes s) (hi : s.intent = some i)

include h hi

lemma reconcile_of_begun (hb : begun s i = true) :
    (reconcileSelection sizes).run s fs =
      (completeSelection i >>= fun _ => pure (some i)).run s fs := by
  have hor : s.active = some i ∨ s.pointer = some i.generationId := by
    simpa [begun] using hb
  unfold reconcileSelection
  rw [run_bind_done (run_check_of_ok h.loadIdentityActive),
    run_bind_done (run_check_of_ok h.loadSelectionIntent), run_get_bind, hi]
  exact congrArg (fun p : Program Store HostError _ => p.run s fs) (if_pos hor)

lemma between_writeActive : Between sizes s (some i) (writeActive i s) := by
  refine ⟨⟨.inr ⟨?_, hi.symm⟩, ?_, h.intent, ?_, h.committed⟩, ?_, rfl⟩
  · exact fun hnone => nomatch hnone.symm.trans hi
  · intro a ha
    obtain rfl : i = a := Option.some.inj ha
    exact (SelectedGeneration.fits_iff.mp (h.intent i hi)).1
  · intro a ha
    obtain rfl : i = a := Option.some.inj ha
    exact h.committed i hi
  exact selectionOf_of_begun hi (by simp [begun, writeActive])

lemma between_writePointer : Between sizes s (some i) (writePointer i (writeActive i s)) := by
  have hactive := between_writeActive h hi
  refine ⟨⟨.inl ?_, hactive.sound.active, h.intent, hactive.sound.activeCommitted,
    h.committed⟩, ?_, rfl⟩
  · simp [consistent, writePointer, writeActive]
  exact selectionOf_of_begun hi (by simp [begun, writeActive, writePointer])

end

lemma completeSelection_meets (hfail : ¬A .fails) (hbreak : ¬A .breaks) (h : Sound sizes s)
    (hi : s.intent = some i) (hb : begun s i = true) :
    Meets A (· = s) (completeSelection i)
      (fun _ t => t = unlinkIntent (writePointer i (writeActive i s)))
      (fun _ _ => False) (fun t => A .kills ∧ Between sizes s (some i) t) := by
  have hself : Between sizes s (some i) s := ⟨h, selectionOf_of_begun hi hb, rfl⟩
  -- a write that is skipped would have changed nothing
  refine Meets.bind (Q := fun _ t => t = writeActive i s) ?_ fun _ => ?_
  · refine meets_effectUnless ?_ ?_ (fun hA => absurd hA hfail) (fun hA => absurd hA hbreak) ?_
    · rintro t rfl hp
      obtain ⟨_, _, active, _, _⟩ := t
      simp only [decide_eq_true_eq] at hp
      subst hp
      rfl
    · rintro t rfl
      rfl
    rintro hkill t rfl
    exact ⟨hkill, hself⟩
  refine Meets.bind (Q := fun _ t => t = writePointer i (writeActive i s)) ?_ fun _ => ?_
  · refine meets_effectUnless ?_ ?_ (fun hA => absurd hA hfail) (fun hA => absurd hA hbreak) ?_
    · rintro t rfl hp
      simp only [decide_eq_true_eq] at hp
      unfold writePointer
      rw [← hp]
    · rintro t rfl
      rfl
    rintro hkill t rfl
    exact ⟨hkill, between_writeActive h hi⟩
  exact meets_effect_at hfail hbreak fun hkill => ⟨hkill, between_writePointer h hi⟩

lemma not_begun (hb : ¬ ∃ i, s.intent = some i ∧ begun s i = true) :
    ∀ i, s.intent = some i → begun s i = false := by
  intro i hi
  by_contra hne
  exact hb ⟨i, hi, by simpa using hne⟩

lemma reconcile_meets (hfail : ¬A .fails) (hbreak : ¬A .breaks) (h : Sound sizes s) :
    Meets A (· = s) (reconcileSelection sizes)
      (fun a t => a = selectionOf s ∧ t = reconciled s) (fun _ _ => False)
      (fun t => A .kills ∧ Between sizes s (selectionOf s) t) := by
  by_cases hb : ∃ i, s.intent = some i ∧ begun s i = true
  · obtain ⟨i, hi, hb⟩ := hb
    have hsel := selectionOf_of_begun hi hb
    have hrec : reconciled s = unlinkIntent (writePointer i (writeActive i s)) := by
      simp [reconciled, hi, hb]
    rw [hsel, hrec]
    refine Meets.of_run_eq (y := completeSelection i >>= fun _ => pure (some i)) ?_ ?_
    · refine Meets.bind (completeSelection_meets hfail hbreak h hi hb) fun _ => ?_
      exact meets_pure fun t ht => ⟨rfl, ht⟩
    rintro t fs rfl
    exact reconcile_of_begun h hi hb
  have hnot := not_begun hb
  have hsame : selectionOf s = s.active ∧ reconciled s = s := by
    cases hi : s.intent with
    | none => simp [selectionOf, reconciled, hi]
    | some i => simp [selectionOf, reconciled, hi, hnot i hi]
  rw [hsame.1, hsame.2]
  refine Meets.of_run_eq (meets_pure fun t ht => ⟨rfl, ht⟩) ?_
  rintro t fs rfl
  exact (h.settled hnot).reconcile

structure Reconciled (sizes : DocumentSizes) (s t : Store) : Prop where
  sound : Sound sizes t
  active : t.active = selectionOf s
  pointer : t.pointer = (selectionOf s).map (·.generationId)
  intent : t.intent = if stuck s then s.intent else none
  stuck : stuck t = stuck s
  generations : t.generations = s.generations

lemma reconciled_spec (h : Sound sizes s) : Reconciled sizes s (reconciled s) := by
  by_cases hb : ∃ i, s.intent = some i ∧ begun s i = true
  · obtain ⟨i, hi, hb⟩ := hb
    have hrec : reconciled s = unlinkIntent (writePointer i (writeActive i s)) := by
      simp [reconciled, hi, hb]
    have hstuck : HostState.stuck s = false := by simp [HostState.stuck, hi, hb]
    rw [hrec]
    refine ⟨⟨.inl ?_, ?_, ?_, ?_, ?_⟩, ?_, ?_, ?_, ?_, rfl⟩
    · simp [consistent, unlinkIntent, writePointer, writeActive]
    · intro a ha
      obtain rfl : i = a := Option.some.inj ha
      exact (SelectedGeneration.fits_iff.mp (h.intent i hi)).1
    · exact fun j hj => nomatch hj
    · intro a ha
      obtain rfl : i = a := Option.some.inj ha
      exact h.committed i hi
    · exact fun j hj => nomatch hj
    · rw [selectionOf_of_begun hi hb]
      rfl
    · rw [selectionOf_of_begun hi hb]
      rfl
    · rw [hstuck]
      rfl
    rw [hstuck]
    rfl
  have hnot := not_begun hb
  have hc : s.pointer = s.active.map (·.generationId) := by
    simpa [consistent] using h.consistent_of_not_begun hnot
  cases hi : s.intent with
  | none =>
    have hrec : reconciled s = s := by simp [reconciled, hi]
    have hsel : selectionOf s = s.active := by simp [selectionOf, hi]
    rw [hrec]
    exact ⟨h, hsel.symm, by rw [hsel, hc], by simp [hi], rfl, rfl⟩
  | some i =>
    have hrec : reconciled s = s := by simp [reconciled, hi, hnot i hi]
    have hsel : selectionOf s = s.active := by simp [selectionOf, hi, hnot i hi]
    have hstuck : HostState.stuck s = true := by simp [HostState.stuck, hi, hnot i hi]
    rw [hrec]
    exact ⟨h, hsel.symm, by rw [hsel, hc], by simp [hstuck], rfl, rfl⟩

lemma Reconciled.consistent (h : Reconciled sizes s t) : HostState.consistent t = true := by
  simp [HostState.consistent, h.pointer, h.active]

lemma Reconciled.selection (h : Reconciled sizes s t) : selectionOf t = selectionOf s := by
  cases hs : HostState.stuck s with
  | false =>
    have hi : t.intent = none := by rw [h.intent, hs]; rfl
    simp [selectionOf, hi, h.active]
  | true =>
    have hstuck := h.stuck
    rw [hs] at hstuck
    cases hi : t.intent with
    | none => simp [HostState.stuck, hi] at hstuck
    | some i =>
      have hb : begun t i = false := by simpa [HostState.stuck, hi] using hstuck
      rw [← h.active]
      simp [selectionOf, hi, hb]

end Reconcile

section Select

variable {receipt : SelectionReceipt}

def Free (t : Store) (selected : SelectedGeneration) : Prop :=
  t.intent = none ∨ t.intent = some selected

lemma sound_writeIntent (h : Sound sizes t) (hc : consistent t = true)
    (hfits : selected.fits sizes = true)
    (hload : loadGeneration sizes selected.generationId t = .ok selected.generation) :
    Sound sizes (writeIntent selected t) := by
  refine ⟨.inl hc, h.active, ?_, h.activeCommitted, ?_⟩
  · intro i hi
    obtain rfl : selected = i := Option.some.inj hi
    exact hfits
  intro i hi
  obtain rfl : selected = i := Option.some.inj hi
  exact hload

lemma selectionOf_writeIntent (h : selectionOf t = t.active) :
    selectionOf (writeIntent selected t) = selectionOf t ∨
      selectionOf (writeIntent selected t) = some selected := by
  have hcases : selectionOf (writeIntent selected t) =
      if begun (writeIntent selected t) selected then some selected else t.active := rfl
  rw [hcases, h]
  split
  · exact .inr rfl
  exact .inl rfl

structure Interrupted (sizes : DocumentSizes) (s : Store) (selected : SelectedGeneration)
    (t : Store) : Prop where
  sound : Sound sizes t
  selection : selectionOf t = selectionOf s ∨ selectionOf t = some selected
  generations : t.generations = s.generations

lemma finishSelection_meets (hfail : ¬A .fails) (hbreak : ¬A .breaks) (h : Sound sizes t)
    (hc : consistent t = true) (hsel : selectionOf t = t.active)
    (hfits : selected.fits sizes = true)
    (hload : loadGeneration sizes selected.generationId t = .ok selected.generation)
    (hfree : Free t selected) :
    Meets A (· = t) (finishSelection selected)
      (fun a u => a = selected ∧
        u = unlinkIntent (writePointer selected (writeActive selected (writeIntent selected t))))
      (fun _ _ => False) (fun u => A .kills ∧ Interrupted sizes t selected u) := by
  have hwritten := sound_writeIntent h hc hfits hload
  have hintent : (writeIntent selected t).intent = some selected := rfl
  have hself : Interrupted sizes t selected t := ⟨h, .inl rfl, rfl⟩
  have hbegin : Interrupted sizes t selected (writeIntent selected t) :=
    ⟨hwritten, selectionOf_writeIntent hsel, rfl⟩
  have hactive : Interrupted sizes t selected (writeActive selected (writeIntent selected t)) :=
    have hb := between_writeActive hwritten hintent
    ⟨hb.sound, .inr hb.selection, rfl⟩
  have hpointer : Interrupted sizes t selected
      (writePointer selected (writeActive selected (writeIntent selected t))) :=
    have hb := between_writePointer hwritten hintent
    ⟨hb.sound, .inr hb.selection, rfl⟩
  refine Meets.bind (Q := fun _ u => u = writeIntent selected t) ?_ fun _ => ?_
  · rcases hfree with hnone | hsome
    · refine Meets.of_run_eq
        (y := effect (writeIntent selected) (HostError.failed "selection intent")) ?_ ?_
      · exact meets_effect_at hfail hbreak fun hkill => ⟨hkill, hself⟩
      rintro u fs rfl
      unfold beginSelection
      rw [run_get_bind, hnone]
    refine Meets.of_run_eq (y := pure ()) (meets_pure ?_) ?_
    · rintro u rfl
      unfold writeIntent
      rw [← hsome]
    rintro u fs rfl
    unfold beginSelection
    rw [run_get_bind, hsome]
    simp
  refine Meets.bind (Q := fun _ u => u = writeActive selected (writeIntent selected t)) ?_
    fun _ => ?_
  · exact meets_effect_at hfail hbreak fun hkill => ⟨hkill, hbegin⟩
  refine Meets.bind (Q := fun _ u => u =
    writePointer selected (writeActive selected (writeIntent selected t))) ?_ fun _ => ?_
  · exact meets_effect_at hfail hbreak fun hkill => ⟨hkill, hactive⟩
  refine Meets.bind (Q := fun _ u => u = unlinkIntent
    (writePointer selected (writeActive selected (writeIntent selected t)))) ?_ fun _ => ?_
  · exact meets_effect_at hfail hbreak fun hkill => ⟨hkill, hpointer⟩
  exact meets_pure fun u hu => ⟨rfl, hu⟩

/-- The receipt is of a generation that is committed and can be read. -/
def Committed (sizes : DocumentSizes) (s : Store) (receipt : SelectionReceipt) : Prop :=
  loadGeneration sizes receipt.generation.generationId s = .ok receipt.generation

def intendedOf (s : Store) (receipt : SelectionReceipt) : SelectedGeneration :=
  ⟨receipt, nextSequence (selectionOf s)⟩

def selectedStore (s : Store) (receipt : SelectionReceipt) : Store :=
  let selected := intendedOf s receipt
  unlinkIntent (writePointer selected (writeActive selected (writeIntent selected (reconciled s))))

lemma select_of_committed (h : Committed sizes s receipt) (fs : List Fate) :
    (select sizes receipt).run s fs =
      (reconcileSelection sizes >>= fun current =>
        finishSelection ⟨receipt, nextSequence current⟩).run s fs := by
  unfold select
  rw [run_bind_done (run_check_of_ok h), if_neg (by simp)]

section

variable (hfail : ¬A .fails) (hbreak : ¬A .breaks) (h : Sound sizes s)
  (hcom : Committed sizes s receipt)

include hfail hbreak h hcom

lemma select_meets_of {Q : SelectedGeneration → Store → Prop} {R : HostError → Store → Prop}
    (hfinish : Meets A (· = reconciled s) (finishSelection (intendedOf s receipt)) Q R
      (fun t => A .kills ∧ Interrupted sizes s (intendedOf s receipt) t)) :
    Meets A (· = s) (select sizes receipt) Q R
      (fun t => A .kills ∧ Interrupted sizes s (intendedOf s receipt) t) := by
  refine Meets.of_run_eq (y := reconcileSelection sizes >>= fun current =>
    finishSelection ⟨receipt, nextSequence current⟩) ?_ ?_
  · refine Meets.bind (Q := fun a t => a = selectionOf s ∧ t = reconciled s) ?_ fun current => ?_
    · refine (reconcile_meets hfail hbreak h).mono (fun _ ht => ht) (fun _ _ hq => hq)
        (fun _ _ hr => hr.elim) ?_
      rintro t ⟨hkill, hb⟩
      exact ⟨hkill, hb.sound, .inl hb.selection, hb.generations⟩
    refine Meets.of_run_eq (hfinish.mono (fun u (hu : current = selectionOf s ∧ _) => hu.2)
      (fun _ _ hq => hq) (fun _ _ hr => hr) fun _ hu => hu) ?_
    rintro u fs ⟨rfl, -⟩
    rfl
  rintro t fs rfl
  exact select_of_committed hcom fs

lemma select_meets (hfits : (intendedOf s receipt).fits sizes = true)
    (hfree : Free (reconciled s) (intendedOf s receipt)) :
    Meets A (· = s) (select sizes receipt)
      (fun a t => a = intendedOf s receipt ∧ t = selectedStore s receipt)
      (fun _ _ => False)
      (fun t => A .kills ∧ Interrupted sizes s (intendedOf s receipt) t) := by
  have hrec := reconciled_spec h
  have hload : loadGeneration sizes (intendedOf s receipt).generationId (reconciled s) =
      .ok (intendedOf s receipt).generation := by
    rw [loadGeneration_congr hrec.generations]
    exact hcom
  have hfinish := finishSelection_meets hfail hbreak hrec.sound hrec.consistent
    (hrec.selection.trans hrec.active.symm) hfits hload hfree
  refine select_meets_of hfail hbreak h hcom (hfinish.mono (fun _ hu => hu) (fun _ _ hq => hq)
    (fun _ _ hr => hr) ?_)
  rintro u ⟨hkill, hu⟩
  refine ⟨hkill, hu.sound, ?_, hu.generations.trans hrec.generations⟩
  rw [← hrec.selection]
  exact hu.selection

lemma select_meets_refused (hfree : ¬Free (reconciled s) (intendedOf s receipt)) :
    Meets A (· = s) (select sizes receipt) (fun _ _ => False)
      (fun e t => e = .hostState ⟨"another selection intent is pending"⟩ ∧ t = reconciled s)
      (fun t => A .kills ∧ Interrupted sizes s (intendedOf s receipt) t) := by
  refine select_meets_of hfail hbreak h hcom (Meets.of_run_eq
    (y := raise (.hostState ⟨"another selection intent is pending"⟩)) (meets_raise ?_) ?_)
  · rintro t rfl
    exact ⟨rfl, rfl⟩
  rintro t fs rfl
  refine run_bind_of_raised ?_
  unfold beginSelection
  rw [run_get_bind]
  cases hi : (reconciled s).intent with
  | none => exact absurd (.inl hi) hfree
  | some i =>
    have hne : i ≠ intendedOf s receipt := fun heq => hfree (.inr (heq ▸ hi))
    exact congrArg (fun p : Program Store HostError Unit => p.run (reconciled s) fs) (if_pos hne)

end

lemma select_of_not_committed (h : ¬Committed sizes s receipt) (fs : List Fate) :
    ∃ e, (select sizes receipt).run s fs = ⟨.raised e, s, fs⟩ := by
  unfold select
  cases hload : loadGeneration sizes receipt.generation.generationId s with
  | error e =>
    exact ⟨e, run_bind_of_raised (run_check_of_error hload)⟩
  | ok generation =>
    have hne : generation ≠ receipt.generation := by
      rintro rfl
      exact h hload
    refine ⟨.hostState ⟨"selection generation binding is invalid"⟩, ?_⟩
    rw [run_bind_done (run_check_of_ok hload), if_pos hne]
    rfl

variable (h : Sound sizes s)

include h

lemma free_iff : Free (reconciled s) selected ↔ stuck s = false ∨ s.intent = some selected := by
  unfold Free
  rw [(reconciled_spec h).intent]
  cases hs : stuck s with
  | false => simp
  | true =>
    have hne : s.intent ≠ none := by
      intro hnone
      simp [stuck, hnone] at hs
    simp [hne]

lemma reconcile_done :
    (reconcileSelection sizes).run s [] = ⟨.done (selectionOf s), reconciled s, []⟩ := by
  have hmeets := reconcile_meets (A := fun _ => False) id id h
  obtain ⟨a, t, hrun, rfl, rfl⟩ := (hmeets.mono (fun _ hs => hs) (fun _ _ hq => hq)
    (fun _ _ hr => hr) fun _ hc => hc.1).exists_done rfl
  exact hrun

section

variable (hcom : Committed sizes s receipt)

include hcom

lemma sound_selectedStore (hfits : sizes.active (intendedOf s receipt) ≤ maxDocumentBytes) :
    Interrupted sizes s (intendedOf s receipt) (selectedStore s receipt) := by
  have hrec := reconciled_spec h
  refine ⟨⟨.inl ?_, ?_, fun _ hi => (nomatch hi), ?_, fun _ hi => (nomatch hi)⟩, .inr rfl,
    hrec.generations⟩
  · simp [consistent, selectedStore, unlinkIntent, writePointer, writeActive]
  · intro a ha
    obtain rfl : intendedOf s receipt = a := Option.some.inj ha
    exact hfits
  intro a ha
  obtain rfl : intendedOf s receipt = a := Option.some.inj ha
  exact (loadGeneration_congr hrec.generations).trans hcom

lemma select_done (hfree : Free (reconciled s) (intendedOf s receipt)) :
    (select sizes receipt).run s [] =
      ⟨.done (intendedOf s receipt), selectedStore s receipt, []⟩ := by
  have hbegin : (beginSelection (intendedOf s receipt)).run (reconciled s) [] =
      ⟨.done (), writeIntent (intendedOf s receipt) (reconciled s), []⟩ := by
    unfold beginSelection
    rw [run_get_bind]
    rcases hfree with hnone | hsome
    · rw [hnone]
      rfl
    rw [hsome]
    simp only [ne_eq, not_true_eq_false, if_false, run_pure]
    unfold writeIntent
    rw [← hsome]
  rw [select_of_committed hcom, run_bind_done (reconcile_done h)]
  exact (run_bind_done hbegin).trans rfl

lemma select_refused (hfree : ¬Free (reconciled s) (intendedOf s receipt)) :
    (select sizes receipt).run s [] =
      ⟨.raised (.hostState ⟨"another selection intent is pending"⟩), reconciled s, []⟩ := by
  have hmeets := select_meets_refused (A := fun _ => False) id id h hcom hfree s []
    (fun _ hf => nomatch hf) rfl
  revert hmeets
  match (select sizes receipt).run s [] with
  | ⟨.done a, t, fs⟩ => exact fun hx => hx.2.elim
  | ⟨.raised e, t, []⟩ =>
    rintro ⟨-, rfl, rfl⟩
    rfl
  | ⟨.raised e, t, f :: fs⟩ => exact fun hx => (hx.1 f List.mem_cons_self).elim
  | ⟨.killed, t, fs⟩ => exact fun hx => hx.2.1.elim

lemma select_done_iff :
    (select sizes receipt).run s [] =
      ⟨.done (intendedOf s receipt), selectedStore s receipt, []⟩ ↔
        stuck s = false ∨ s.intent = some (intendedOf s receipt) := by
  rw [← free_iff h]
  refine ⟨fun hdone => ?_, select_done h hcom⟩
  by_contra hfree
  rw [select_refused h hcom hfree] at hdone
  cases hdone

end

lemma select_interrupted (hfits : (intendedOf s receipt).fits sizes = true)
    (hfs : ∀ f ∈ fs, Killable f) :
    Interrupted sizes s (intendedOf s receipt) ((select sizes receipt).run s fs).state := by
  have hfail : ¬Killable .fails := by simp [Killable]
  have hbreak : ¬Killable .breaks := by simp [Killable]
  have hrec := reconciled_spec h
  by_cases hcom : Committed sizes s receipt
  · by_cases hfree : Free (reconciled s) (intendedOf s receipt)
    · refine (select_meets hfail hbreak h hcom hfits hfree).state ?_ (fun _ _ hr => hr.elim)
        (fun _ hc => hc.2) hfs rfl
      rintro a t ⟨-, rfl⟩
      exact sound_selectedStore h hcom (SelectedGeneration.fits_iff.mp hfits).1
    refine (select_meets_refused hfail hbreak h hcom hfree).state (fun _ _ hq => hq.elim) ?_
      (fun _ hc => hc.2) hfs rfl
    rintro e t ⟨-, rfl⟩
    exact ⟨hrec.sound, .inl hrec.selection, hrec.generations⟩
  obtain ⟨e, he⟩ := select_of_not_committed hcom fs
  rw [he]
  exact ⟨h, .inl rfl, rfl⟩

lemma refused_of_stuck (hs : stuck s = true) :
    ∃ receipt, Committed sizes s receipt ∧ (select sizes receipt).run s [] ≠
      ⟨.done (intendedOf s receipt), selectedStore s receipt, []⟩ := by
  cases hi : s.intent with
  | none => simp [stuck, hi] at hs
  | some i =>
    have hcom : Committed sizes s { i.selection with planDigest := i.selection.planDigest + 1 } :=
      h.committed i hi
    refine ⟨_, hcom, fun hdone => ?_⟩
    rcases (select_done_iff h hcom).mp hdone with hfalse | heq
    · rw [hs] at hfalse
      cases hfalse
    have hsame : i = intendedOf s _ := Option.mem_unique hi heq
    have hdigest := congrArg (fun g : SelectedGeneration => g.selection.planDigest) hsame
    exact absurd hdigest (Nat.ne_of_lt (Nat.lt_succ_self _))

end Select

/-! ### Runs -/

/-- A commit of a generation, or a call that may be killed after some of its writes. -/
inductive StoreEvent
  | commit (receipt : GenerationReceipt)
  | select (receipt : SelectionReceipt) (kill : Option ℕ)
  | reconcile (kill : Option ℕ)

section

variable (sizes : DocumentSizes) (s : Store)

def addGeneration (receipt : GenerationReceipt) (s : Store) : Store :=
  match s.generations receipt.generationId with
  | some _ => s
  | none =>
    { s with
      generations := Function.update s.generations receipt.generationId
        (some { generation := some (.whole receipt) }) }

def afterEvent : StoreEvent → Store
  | .commit receipt => addGeneration receipt s
  | .select receipt kill => ((select sizes receipt).run s (fatesOf kill)).state
  | .reconcile kill => ((reconcileSelection sizes).run s (fatesOf kill)).state

def storeStep (e : StoreEvent) : Except Empty (Store × Unit) :=
  .ok (afterEvent sizes s e, ())

def storeRun (events : List StoreEvent) : Store :=
  run (storeStep sizes) {} events

def eventFits : StoreEvent → Bool
  | .select receipt _ => (intendedOf s receipt).fits sizes
  | _ => true

end

def selections (sizes : DocumentSizes) : Store → List StoreEvent → ℕ
  | _, [] => 0
  | s, e :: es =>
    (if selectionOf (afterEvent sizes s e) = selectionOf s then 0 else 1) +
      selections sizes (afterEvent sizes s e) es

section Runs

variable {e : StoreEvent}

lemma loadGeneration_addGeneration {receipt g : GenerationReceipt}
    (h : loadGeneration sizes id s = .ok g) :
    loadGeneration sizes id (addGeneration receipt s) = .ok g := by
  unfold addGeneration
  cases hfree : s.generations receipt.generationId with
  | some tree => exact h
  | none =>
    have hne : id ≠ receipt.generationId := by
      rintro rfl
      simp [loadGeneration, hfree] at h
    simpa [loadGeneration, Function.update_of_ne hne] using h

lemma addGeneration_files (receipt : GenerationReceipt) (s : Store) :
    (addGeneration receipt s).active = s.active ∧ (addGeneration receipt s).pointer = s.pointer ∧
      (addGeneration receipt s).intent = s.intent := by
  unfold addGeneration
  split <;> exact ⟨rfl, rfl, rfl⟩

lemma selectionOf_congr (ha : t.active = s.active) (hp : t.pointer = s.pointer)
    (hi : t.intent = s.intent) : selectionOf t = selectionOf s := by
  unfold selectionOf begun
  rw [ha, hp, hi]

lemma sound_event (h : Sound sizes s) (hfits : eventFits sizes s e = true) :
    Sound sizes (afterEvent sizes s e) ∧
      (selectionOf (afterEvent sizes s e) = selectionOf s ∨
        sequenceOf (selectionOf (afterEvent sizes s e)) = sequenceOf (selectionOf s) + 1) := by
  cases e with
  | commit receipt =>
    obtain ⟨ha, hp, hi⟩ := addGeneration_files receipt s
    exact ⟨h.of_files ha hp hi fun _ _ hload => loadGeneration_addGeneration hload,
      .inl (selectionOf_congr ha hp hi)⟩
  | select receipt kill =>
    have hint : Interrupted sizes s (intendedOf s receipt) (afterEvent sizes s (.select receipt kill)) :=
      select_interrupted h hfits killable_of_mem_fatesOf
    refine ⟨hint.sound, hint.selection.imp id fun hsel => ?_⟩
    rw [hsel]
    exact nextSequence_eq _
  | reconcile kill =>
    have hrec := reconciled_spec h
    have hmeets := reconcile_meets (A := Killable) (by simp [Killable]) (by simp [Killable]) h
    have hbetween : Between sizes s (selectionOf s)
        ((reconcileSelection sizes).run s (fatesOf kill)).state := by
      refine hmeets.state ?_ (fun _ _ hr => hr.elim) (fun _ hc => hc.2) killable_of_mem_fatesOf rfl
      rintro a t ⟨-, rfl⟩
      exact ⟨hrec.sound, hrec.selection, hrec.generations⟩
    exact ⟨hbetween.sound, .inl hbetween.selection⟩

lemma sequenceOf_run (h : Sound sizes s) (events : List StoreEvent)
    (hfits : Along (storeStep sizes) (fun s e => eventFits sizes s e = true) s events) :
    Sound sizes (run (storeStep sizes) s events) ∧
      sequenceOf (selectionOf (run (storeStep sizes) s events)) =
        sequenceOf (selectionOf s) + selections sizes s events := by
  induction events generalizing s with
  | nil => exact ⟨h, rfl⟩
  | cons e es ih =>
    obtain ⟨hsound, hmove⟩ := sound_event h hfits.1
    obtain ⟨hrun, hseq⟩ := ih hsound hfits.2
    refine ⟨hrun, hseq.trans ?_⟩
    rw [selections]
    by_cases hsame : selectionOf (afterEvent sizes s e) = selectionOf s
    · rw [if_pos hsame, hsame, Nat.zero_add]
    rw [if_neg hsame, hmove.resolve_left hsame, Nat.add_assoc]

end Runs

/-- The files stand for one selection, and calls treat it as one. -/
structure SelectionAtomic (sizes : DocumentSizes) (s : Store) : Prop where
  /-- A reconciliation returns the selection, and the pointer and the projection then name it. -/
  reconciles : (reconcileSelection sizes).run s [] = ⟨.done (selectionOf s), reconciled s, []⟩ ∧
    (reconciled s).active = selectionOf s ∧
    (reconciled s).pointer = (selectionOf s).map (·.generationId)
  /-- A call that is killed leaves the old selection or the intended one. -/
  interrupted : ∀ receipt kill, (intendedOf s receipt).fits sizes = true →
    selectionOf ((select sizes receipt).run s (fatesOf kill)).state = selectionOf s ∨
    selectionOf ((select sizes receipt).run s (fatesOf kill)).state = some (intendedOf s receipt)
  /-- A call that returns has made the selection that it returns. -/
  completed : ∀ receipt selected t, (select sizes receipt).run s [] = ⟨.done selected, t, []⟩ →
    selected = intendedOf s receipt ∧ selectionOf t = some selected

lemma Sound.atomic (h : Sound sizes s) : SelectionAtomic sizes s := by
  have hrec := reconciled_spec h
  refine ⟨⟨reconcile_done h, hrec.active, hrec.pointer⟩, ?_, ?_⟩
  · intro receipt kill hfits
    exact (select_interrupted h hfits killable_of_mem_fatesOf).selection
  intro receipt selected t hrun
  have hcom : Committed sizes s receipt := by
    by_contra hcom
    obtain ⟨e, he⟩ := select_of_not_committed hcom []
    rw [hrun] at he
    cases he
  have hfree : Free (reconciled s) (intendedOf s receipt) := by
    by_contra hfree
    have hraised := select_meets_refused (A := fun _ => False) id id h hcom hfree s []
      (fun _ hf => nomatch hf) rfl
    rw [hrun] at hraised
    exact hraised.2
  have hdone := select_done h hcom hfree
  rw [hrun] at hdone
  cases hdone
  exact ⟨rfl, rfl⟩

lemma sound_empty (sizes : DocumentSizes) : Sound sizes {} :=
  ⟨.inl rfl, fun _ h => (nomatch h), fun _ h => (nomatch h), fun _ h => (nomatch h),
    fun _ h => (nomatch h)⟩

/-- After every run the selection is atomic and counted; every committed generation can be selected
next exactly when no intent is stuck. -/
theorem run_selection_atomic (sizes : DocumentSizes) (events : List StoreEvent)
    (hfits : Along (storeStep sizes) (fun s e => eventFits sizes s e = true) {} events) :
    SelectionAtomic sizes (storeRun sizes events) ∧
    sequenceOf (selectionOf (storeRun sizes events)) = selections sizes {} events ∧
    ((∀ receipt, Committed sizes (storeRun sizes events) receipt →
        (select sizes receipt).run (storeRun sizes events) [] =
          ⟨.done (intendedOf (storeRun sizes events) receipt),
            selectedStore (storeRun sizes events) receipt, []⟩) ↔
      stuck (storeRun sizes events) = false) := by
  obtain ⟨hsound, hseq⟩ := sequenceOf_run (sound_empty sizes) events hfits
  have hzero : sequenceOf (selectionOf {}) = 0 := rfl
  rw [hzero, Nat.zero_add] at hseq
  refine ⟨hsound.atomic, hseq, ?_, ?_⟩
  · intro hall
    by_contra hs
    have hstuck : stuck (storeRun sizes events) = true := by simpa using hs
    obtain ⟨receipt, hcom, hne⟩ := refused_of_stuck hsound hstuck
    exact hne (hall receipt hcom)
  intro hfree receipt hcom
  exact (select_done_iff hsound hcom).mpr (.inl hfree)

def smallDocuments : DocumentSizes := ⟨fun _ => 1, fun _ => 1, fun _ => 1⟩

def plainGeneration (id : String) (h : validIdentifier id = true) : GenerationReceipt :=
  { generationId := id, platformTargetName := id, platformTargetSha256 := 1, tufTargetsVersion := 1
    releaseDigest := 1, buildDigest := 1, platformVersion := "1.0.0", deploymentBundleDigest := 1
    apiImage := "api", workerImage := "worker", databaseRevision := "r1", valid := h }

def firstGeneration : GenerationReceipt := plainGeneration "gen-a" (by decide)

def secondGeneration : GenerationReceipt := plainGeneration "gen-b" (by decide)

def selectionReceipt (operation : String) (generation : GenerationReceipt)
    (previous : Option String) : SelectionReceipt :=
  ⟨operation, 7, generation, previous⟩

def twoGenerations : List StoreEvent :=
  [.commit firstGeneration, .commit secondGeneration,
    .select (selectionReceipt "op-1" firstGeneration none) none]

def lateKill : List StoreEvent :=
  twoGenerations ++ [.select (selectionReceipt "op-2" secondGeneration (some "gen-a")) (some 2)]

theorem late_kill_atomic :
    SelectionAtomic smallDocuments (storeRun smallDocuments lateKill) ∧
      selectionOf (storeRun smallDocuments lateKill) =
        some ⟨selectionReceipt "op-2" secondGeneration (some "gen-a"), 2⟩ ∧
      stuck (storeRun smallDocuments lateKill) = false :=
  ⟨(run_selection_atomic smallDocuments lateKill (by decide +kernel)).1, by decide +kernel,
    by decide +kernel⟩

/-- A selection that is killed after its intent: another one of the same generation is refused,
also after a reconciliation. -/
theorem killed_intent_blocks :
    let s := storeRun smallDocuments (twoGenerations ++
      [.select (selectionReceipt "op-2" secondGeneration (some "gen-a")) (some 1), .reconcile none])
    loadGeneration smallDocuments "gen-b" s = .ok secondGeneration ∧
      ((select smallDocuments (selectionReceipt "op-3" secondGeneration (some "gen-a"))).run
        s []).outcome = .raised (.hostState ⟨"another selection intent is pending"⟩) := by
  decide +kernel

end VonkForge.HostState
