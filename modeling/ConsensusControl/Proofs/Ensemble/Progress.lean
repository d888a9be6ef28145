import ConsensusControl.Proofs.Convergence.History
import ConsensusControl.Proofs.Ensemble.Orderly

namespace ConsensusControl

variable {α : Type} [Scalar α]

/-- A residual has been measured. In exact arithmetic it is not below zero. -/
def Residuals.Measured (residual : Option α) : Prop :=
  ∃ r, residual = some r ∧ (Scalar.Exact α → 0 ≤ r)

namespace Controller

variable {c c' : Controller α} {k : Nat}

/-- The change of the control counts as well. -/
theorem le_of_updateInfluences (h : Scalar.Exact α) {dual dual' b : α} {nbs nbs' : List (Neighbor α)}
    {previous previous' : List (CouplingState α)}
    (hupdated : updateInfluences dual nbs previous = .ok (nbs', previous', dual')) (hle : dual' ≤ b) :
    dual ≤ b := by
  induction nbs generalizing dual previous nbs' previous' with
  | nil =>
    simp only [updateInfluences, Except.ok.injEq, Prod.mk.injEq] at hupdated
    obtain ⟨-, -, rfl⟩ := hupdated
    exact hle
  | cons nb nbs ih =>
    cases previous with
    | nil =>
      simp only [updateInfluences, Except.ok.injEq, Prod.mk.injEq] at hupdated
      obtain ⟨-, -, rfl⟩ := hupdated
      exact hle
    | cons old previous =>
      simp only [updateInfluences] at hupdated
      obtain ⟨updated, -, hupdated⟩ := bind_eq_ok.mp hupdated
      obtain ⟨⟨rest, olds, d⟩, hrest, hupdated⟩ := bind_eq_ok.mp hupdated
      simp only [pure, Except.pure, Except.ok.injEq, Prod.mk.injEq] at hupdated
      obtain ⟨-, -, rfl⟩ := hupdated
      exact ((h.max_le_iff _ _ _).mp (ih hrest)).1

theorem measured_dual (h : c.updateCouplingStates = .ok c') :
    Residuals.Measured c'.residuals.dual := by
  obtain ⟨u, _, _, dual, -, hinfluences, rfl⟩ := updateCouplingStates_eq_ok h
  refine ⟨dual, rfl, fun hexact => ?_⟩
  have hle := le_of_updateInfluences hexact hinfluences (hexact.le_refl dual)
  rw [Vec.maxChange_eq, Vec.normInf_le_iff hexact.numbers] at hle
  exact hle.1

theorem measured_primal (h : c.updateMultiplierStates = .ok c') :
    Residuals.Measured c'.residuals.primal := by
  obtain ⟨_, _, _, primal, -, -, hc'⟩ := updateMultiplierStates_eq_ok h
  have hprimal : c'.residuals.primal = some primal := by rw [hc']
  refine ⟨primal, hprimal, fun hexact => ?_⟩
  obtain ⟨r, hr, hiff⟩ := raising_le_iff hexact.numbers h
  obtain rfl : primal = r := Option.some.inj (hprimal.symm.trans hr)
  exact ((hiff primal).mp (hexact.le_refl primal)).1.nonneg

/-- This many iterations are complete, and the controller has not been given up. -/
structure Counts (k : Nat) (c : Controller α) : Prop where
  iteration : c.iteration = k
  unfailed : c.status ≠ .failed

omit [Scalar α] in
theorem Counts.of_same (hc : c.Counts k) (hiteration : c'.iteration = c.iteration)
    (hstatus : c'.status = c.status) : c'.Counts k :=
  ⟨hiteration.trans hc.iteration, hstatus ▸ hc.unfailed⟩

theorem Counts.updateAgentStates (hc : c.Counts k) : c.updateAgentStates.1.Counts k := by
  unfold Controller.updateAgentStates
  split
  · exact hc
  · rw [if_neg hc.unfailed]
    dsimp only
    split <;> exact ⟨hc.iteration, by simp⟩

theorem Counts.finishIteration (hc : c.Counts k) : c.finishIteration.Counts (k + 1) := by
  unfold Controller.finishIteration
  dsimp only
  rw [if_neg hc.unfailed]
  refine ⟨congrArg (· + 1) hc.iteration, ?_⟩
  dsimp only
  split <;> simp

/-- Both residuals of the controller have been measured. -/
structure Measures (k : Nat) (c : Controller α) : Prop extends Counts k c where
  primal : Residuals.Measured c.residuals.primal
  dual : Residuals.Measured c.residuals.dual

theorem Counts.coupling (hc : c.Counts k) {u : Unit} (h : c.coupling.2 = .ok u) :
    c.coupling.1.Counts k ∧ Residuals.Measured c.coupling.1.residuals.dual := by
  have hcoupled := coupling_eq_ok h
  refine ⟨?_, measured_dual hcoupled⟩
  obtain ⟨_, _, _, _, -, -, heq⟩ := updateCouplingStates_eq_ok hcoupled
  rw [heq]
  exact hc.of_same rfl rfl

/-- The prices measure the primal residual. The penalties measure nothing. -/
theorem Counts.ascent (hc : c.Counts k) (hdual : Residuals.Measured c.residuals.dual) {u : Unit}
    (h : c.ascent.2 = .ok u) : c.ascent.1.Measures k := by
  obtain ⟨raised, hraised, hadapted⟩ := ascent_eq_ok h
  have hmeasures : raised.Measures k := by
    have hprimal := measured_primal hraised
    obtain ⟨_, _, _, _, -, -, rfl⟩ := updateMultiplierStates_eq_ok hraised
    exact ⟨hc.of_same rfl rfl, hprimal, hdual⟩
  obtain heq | ⟨_, _, -, -, heq⟩ := adaptPenalties_eq_ok hadapted
  · rw [heq]
    exact hmeasures
  · rw [heq]
    exact ⟨hmeasures.of_same rfl rfl, hmeasures.primal, hmeasures.dual⟩

theorem Measures.finishIteration (hc : c.Measures k) : c.finishIteration.Measures (k + 1) := by
  have hsame : c.finishIteration.residuals = c.residuals := by
    obtain ⟨_, -, heq⟩ := c.finishIteration_eq
    rw [heq]
  exact ⟨hc.toCounts.finishIteration, hsame ▸ hc.primal, hsame ▸ hc.dual⟩

theorem Counts.not_converged (hc : c.Counts 0) : c.isConverged = false := by
  simp [isConverged, hc.iteration]

/-- Who has not been given up has converged, or has run out of iterations. -/
theorem Counts.outcome (hc : c.Counts k) :
    c.outcome ≠ .failed ∧ (c.outcome = .converged ↔ c.isConverged = true) := by
  unfold Controller.outcome
  rw [if_neg hc.unfailed]
  cases c.isConverged with
  | false => simp
  | true => simp

end Controller

namespace Ensemble

/-- Residuals that are measured enter the history, controller by controller. -/
theorem entries_report {k n : Nat} {cs : List (Controller α)} (hmeasures : ∀ c ∈ cs, c.Measures k)
    (h : History α) :
    (cs.foldl (report (n + 1)) h).primal =
        (cs.filterMap (·.residuals.primal)).foldl (fun entries v => History.raise v n entries) h.primal ∧
      (cs.foldl (report (n + 1)) h).dual =
        (cs.filterMap (·.residuals.dual)).foldl (fun entries v => History.raise v n entries) h.dual := by
  induction cs generalizing h with
  | nil => exact ⟨rfl, rfl⟩
  | cons c cs ih =>
    obtain ⟨hfirst, hrest⟩ := List.forall_mem_cons.mp hmeasures
    obtain ⟨primal, hprimal, -⟩ := hfirst.primal
    obtain ⟨dual, hdual, -⟩ := hfirst.dual
    have hreport : report (n + 1) h c = h.record c.id (n + 1) primal dual := by
      simp only [report, hprimal, hdual]
    simp only [List.filterMap_cons, hprimal, hdual, List.foldl_cons, hreport]
    exact ih hrest _

end Ensemble

end ConsensusControl
