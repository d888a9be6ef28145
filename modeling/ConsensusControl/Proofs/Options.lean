import Mathlib.Tactic.MkIffOfInductiveProp
import ConsensusControl.Options.Basic
import ConsensusControl.Proofs.Checked

namespace ConsensusControl.Options

variable {α : Type} [Scalar α] {o : Options α}

theorem check_eq_ok {p : Prop} [Decidable p] {name reason : String} :
    check p name reason = .ok () ↔ p := by
  unfold check invalid
  split <;> simp_all

theorem check_bind_eq_ok {p : Prop} [Decidable p] {name reason : String}
    {rest : Except ConfigError Unit} :
    (check p name reason >>= fun _ => rest) = .ok () ↔ p ∧ rest = .ok () := by
  rw [bind_eq_ok]
  constructor
  · rintro ⟨⟨⟩, hp, hrest⟩
    exact ⟨check_eq_ok.mp hp, hrest⟩
  · rintro ⟨hp, hrest⟩
    exact ⟨(), check_eq_ok.mpr hp, hrest⟩

/-- What the checks ask for, in their order. -/
@[mk_iff]
structure Valid (o : Options α) : Prop where
  horizon : 0 < o.horizon ∧ Scalar.isFinite o.horizon
  horizonSteps : 2 ≤ o.horizonSteps
  maxGradientIterations : o.maxGradientIterations ≠ 0
  gradientTolerance : 0 < o.gradientTolerance ∧ Scalar.isFinite o.gradientTolerance
  lineSearchInit : 0 < o.lineSearchInit ∧ Scalar.isFinite o.lineSearchInit
  lineSearchMin : 0 < o.lineSearchMin ∧ Scalar.isFinite o.lineSearchMin
  lineSearch : ¬ o.lineSearchInit < o.lineSearchMin
  constraintPenalty : 0 ≤ o.constraintPenalty ∧ Scalar.isFinite o.constraintPenalty
  maxIterations : o.maxIterations ≠ 0
  primalTolerance : 0 < o.primalTolerance ∧ Scalar.isFinite o.primalTolerance
  dualTolerance : 0 < o.dualTolerance ∧ Scalar.isFinite o.dualTolerance
  penaltyMin : 0 < o.penaltyMin ∧ Scalar.isFinite o.penaltyMin
  penaltyMax : 0 < o.penaltyMax ∧ Scalar.isFinite o.penaltyMax
  penaltyInit : o.penaltyMin ≤ o.penaltyInit ∧ o.penaltyInit ≤ o.penaltyMax
  penaltyIncrease : 1 < o.penaltyIncrease
  penaltyDecrease : 1 < o.penaltyDecrease
  residualRatio : 1 ≤ o.residualRatio
  exchangeTimeout : o.exchangeTimeout ≠ 0

theorem validate_eq_ok : o.validate = .ok () ↔ o.Valid := by
  simp only [validate, positive, check_bind_eq_ok, check_eq_ok, valid_iff]

theorem samples_of_valid (h : o.validate = .ok ()) : 2 ≤ o.horizonSteps :=
  (validate_eq_ok.mp h).horizonSteps

theorem penalties_of_valid (h : o.validate = .ok ()) :
    0 < o.penaltyMin ∧ o.penaltyMin ≤ o.penaltyInit ∧ o.penaltyInit ≤ o.penaltyMax := by
  have hvalid := validate_eq_ok.mp h
  exact ⟨hvalid.penaltyMin.1, hvalid.penaltyInit⟩

theorem tolerances_of_valid (h : o.validate = .ok ()) :
    0 < o.primalTolerance ∧ 0 < o.dualTolerance := by
  have hvalid := validate_eq_ok.mp h
  exact ⟨hvalid.primalTolerance.1, hvalid.dualTolerance.1⟩

end ConsensusControl.Options
