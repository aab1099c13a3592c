import VonkForge.HostUpgrade

/-!
# Steps of the dispatcher

What a step, a run of the dispatcher, a compensation and a call of the host keep, from what their
probes and effects keep.
-/

namespace VonkForge.HostUpgrade

open HostState Program

variable {P : Host → Prop} {w : World} {plan : Plan} {s : PhaseStep}

section

variable (phase : Phase) (h : Host)

lemma record_journal : (record phase h).journal =
    h.journal.map fun op => { op with phases := op.phases ++ [phase] } := rfl

end

/-! ### Steps -/

/-- A step keeps `P`, and where its probe finds the effect it journals the phase. -/
theorem meets_runStep {Q : Host → Prop} (hperform : Keeps P s.perform)
    (hexact : Meets (fun _ => True) P s.probe (fun d h => P h ∧ (d = .exact → Q (record s.phase h)))
      (fun _ => P) P) :
    Meets (fun _ => True) P (runStep s) (fun _ => Q) (fun _ => P) P := by
  have hsettle : ∀ d, Meets (fun _ => True) (fun h => P h ∧ (d = .exact → Q (record s.phase h)))
      (settle s.phase d) (fun _ => Q) (fun _ => P) P := by
    intro d
    cases d with
    | exact => exact meets_modify fun h hh => hh.2 rfl
    | _ => exact meets_raise fun h hh => hh.1
  refine hexact.bind fun d => ?_
  by_cases hd : d = .absent ∨ d = .incomplete
  · rw [if_pos hd]
    refine Meets.bind ?_ fun _ => hexact.bind hsettle
    exact hperform.mono (fun h hh => hh.1) (fun _ _ hq => hq) (fun _ _ hr => hr) fun _ hc => hc
  rw [if_neg hd]
  exact hsettle d

lemma keeps_runStep (hrecord : ∀ phase h, P h → P (record phase h)) (hprobe : Keeps P s.probe)
    (hperform : Keeps P s.perform) : Keeps P (runStep s) :=
  meets_runStep hperform (hprobe.mono (fun _ hh => hh)
    (fun _ h hh => ⟨hh, fun _ => hrecord s.phase h hh⟩) (fun _ _ hr => hr) fun _ hc => hc)

lemma keeps_recheckStep (hprobe : Keeps P s.probe) : Keeps P (recheckStep s) := by
  refine Keeps.ite_pure fun _ => hprobe.bind fun _ => ?_
  exact Keeps.ite_raise fun _ => Keeps.ite_raise fun _ => keeps_pure _

/-- The probe of a step keeps `P` and never finds the effect. -/
abbrev Misses (P : Host → Prop) (x : Program Host HostError Disposition) : Prop :=
  Meets (fun _ => True) P x (fun d h => P h ∧ d ≠ .exact) (fun _ => P) P

lemma blocked_settle {phase : Phase} {d : Disposition} :
    Blocked (fun h => P h ∧ d ≠ .exact) (settle phase d) := by
  rintro h fs a ⟨-, hd⟩
  cases d <;> simp_all [settle, raise]

/-- A step whose probe never finds the effect does not end. -/
theorem blocked_runStep (hprobe : Misses P s.probe)
    (hperform : Keeps P s.perform ∨ Blocked P s.perform) : Blocked P (runStep s) := by
  refine hprobe.blocked_bind fun d => ?_
  by_cases hd : d = .absent ∨ d = .incomplete
  · rw [if_pos hd]
    refine Blocked.mono (P := P) ?_ fun _ hh => hh.1
    rcases hperform with hkeeps | hblocked
    · exact hkeeps.blocked_bind fun _ => hprobe.blocked_bind fun _ => blocked_settle
    exact hblocked.bind
  rw [if_neg hd]
  exact blocked_settle

/-- A step whose probe finds a conflict does not end. -/
theorem blocked_of_conflict {R : HostError → Host → Prop} {C : Host → Prop}
    (hprobe : Meets (fun _ => True) P s.probe (fun d _ => d = .conflict ∨ d = .ambiguous) R C) :
    Blocked P (runStep s) := by
  refine hprobe.blocked_bind fun d => ?_
  rintro h fs a (rfl | rfl) <;> simp [settle, raise]

lemma rollbackStep_probe (w : World) (plan : Plan) : (rollbackStep w plan).probe =
    (requireRollbackPredecessor w plan >>= fun _ => pure Disposition.exact).recover
      fun _ => .ok .conflict := rfl

/-! ### Runs -/

/-- The steps of the phases of a compensation. -/
def compensationSteps (w : World) (plan : Plan) (phases : List Phase) : List PhaseStep :=
  phases.map fun phase =>
    if phase = .compensationStarted then recordedStep phase else boundaryStep w plan phase

lemma compensationProgram_cases {op : Operation} {steps : List PhaseStep}
    (hok : compensationProgram w plan op = .ok steps) :
    ∃ applied compensation : List Phase,
      steps = applied.map recordedStep ++ compensationSteps w plan compensation := by
  unfold compensationProgram at hok
  extract_lets applied recorded destructive compensation at hok
  split at hok
  · cases hok
  split at hok
  · cases hok
  split at hok
  · cases hok
  exact ⟨_, compensation, (Except.ok.inj hok).symm⟩

section Runs

variable (hrecord : ∀ phase h, P h → P (record phase h))

include hrecord

lemma keeps_dispatch {steps : List PhaseStep}
    (hsteps : ∀ s ∈ steps, Keeps P s.probe ∧ Keeps P s.perform) : Keeps P (dispatch steps) := by
  refine keeps_get.bind fun h => ?_
  cases h.journal with
  | none => exact keeps_raise _
  | some op =>
    refine Keeps.ite_raise fun _ => Keeps.bind ?_ fun _ => ?_
    · exact Keeps.forM fun s hs => keeps_recheckStep (hsteps s (List.mem_of_mem_take hs)).1
    refine Keeps.forM fun s hs => ?_
    have hs' := hsteps s (List.mem_of_mem_drop hs)
    exact keeps_runStep hrecord hs'.1 hs'.2

variable (hboundary : ∀ phase,
  Keeps P (probePhase w plan phase) ∧ Keeps P (performPhase w plan phase))

include hboundary

lemma keeps_runCompensation : Keeps P (runCompensation w plan) := by
  refine keeps_get.bind fun h => ?_
  cases pendingOperation h with
  | none => exact keeps_raise _
  | some op =>
    have hsteps : ∀ steps, compensationProgram w plan op = .ok steps →
        ∀ s ∈ steps, Keeps P s.probe ∧ Keeps P s.perform := by
      intro steps hok s hs
      obtain ⟨applied, compensation, rfl⟩ := compensationProgram_cases hok
      rcases List.mem_append.mp hs with hs | hs
      · obtain ⟨phase, -, rfl⟩ := List.mem_map.mp hs
        exact ⟨keeps_pure _, keeps_pure _⟩
      obtain ⟨phase, -, rfl⟩ := List.mem_map.mp hs
      split
      · exact ⟨keeps_pure _, keeps_pure _⟩
      exact hboundary phase
    have hend : Keeps P (do
        let h ← get
        if h.journal.any (fun op => op.phases.getLast? = some .failed) then pure ()
        else raise (HostError.recoveryRequired "compensation did not reach a terminal state")) :=
      keeps_get.bind fun _ => Keeps.ite_pure fun _ => keeps_raise _
    cases hprogram : compensationProgram w plan op with
    | error e => exact (keeps_raise e).of_run_eq fun h fs _ => run_bind_of_raised (run_check_of_error hprogram)
    | ok steps =>
      have hdispatch := keeps_dispatch hrecord (hsteps steps hprogram)
      exact (hdispatch.bind fun _ => hend).of_run_eq fun h fs _ =>
        run_bind_done (run_check_of_ok hprogram)

end Runs

lemma keeps_runOperation {compensated : HostError → Program Host HostError Unit}
    (hdispatch : Keeps P (dispatch (phaseProgram w plan)))
    (hcompensation : Keeps P (runCompensation w plan))
    (hcompensated : ∀ e, Keeps P (compensated e)) : Keeps P (runOperation w plan compensated) := by
  refine keeps_iff.mpr fun h fs hh => ?_
  have hstate := hdispatch.run hh fs
  unfold runOperation
  revert hstate
  simp only
  match (dispatch (phaseProgram w plan)).run h fs with
  | ⟨.done a, t, fs'⟩ => exact fun ht => ht
  | ⟨.killed, t, fs'⟩ => exact fun ht => ht
  | ⟨.raised e, t, fs'⟩ =>
    intro ht
    simp only
    split
    · exact (hcompensation.bind fun _ => hcompensated e).run ht fs'
    exact ht

end VonkForge.HostUpgrade
