import ConsensusControl.Agent

namespace ConsensusControl

/-- The tunables of a run. -/
structure Options (α : Type) where
  /-- Length of the prediction horizon. -/
  horizon : α
  /-- Samples on the horizon, both ends included. -/
  horizonSteps : Nat
  /-- The next horizon starts from the shifted solution of the last. -/
  shiftControl : Bool
  maxGradientIterations : Nat
  gradientTolerance : α
  lineSearchInit : α
  lineSearchMin : α
  /-- Weight of violated constraints in the local cost. -/
  constraintPenalty : α
  maxIterations : Nat
  primalTolerance : α
  dualTolerance : α
  penaltyInit : α
  penaltyMin : α
  penaltyMax : α
  penaltyIncrease : α
  penaltyDecrease : α
  /-- Ratio of the residuals beyond which a penalty is adapted. -/
  residualRatio : α
  adaptPenalty : Bool
  /-- Local solve failures in a row that an agent may have. -/
  maxSolveFailures : Nat
  approximateCost : Bool
  approximateConstraints : Bool
  /-- Milliseconds to wait for a record. -/
  exchangeTimeout : Nat
  logFilter : String
  deriving BEq

namespace Options

variable {α : Type} [Scalar α]

def default : Options α where
  horizon := 1
  horizonSteps := 11
  shiftControl := true
  maxGradientIterations := 500
  gradientTolerance := Scalar.decimalPlace 8
  lineSearchInit := 1
  lineSearchMin := Scalar.decimalPlace 12
  constraintPenalty := ((100 : Nat) : α)
  maxIterations := 200
  primalTolerance := Scalar.decimalPlace 3
  dualTolerance := Scalar.decimalPlace 3
  penaltyInit := 1
  penaltyMin := Scalar.decimalPlace 3
  penaltyMax := ((1000 : Nat) : α)
  penaltyIncrease := ((3 : Nat) : α) / Scalar.two
  penaltyDecrease := ((3 : Nat) : α) / Scalar.two
  residualRatio := ((10 : Nat) : α)
  adaptPenalty := true
  maxSolveFailures := 3
  approximateCost := false
  approximateConstraints := false
  exchangeTimeout := 5000
  logFilter := "info"

/-- Sampling interval of the horizon. -/
def stepSize (o : Options α) : α := o.horizon / ((Nat.max o.horizonSteps 2 - 1 : Nat) : α)

def approximation (o : Options α) : Approximation := ⟨o.approximateCost, o.approximateConstraints⟩

def invalid (name reason : String) : Except ConfigError Unit := .error (.invalidOption name reason)

def check (p : Prop) [Decidable p] (name reason : String) : Except ConfigError Unit :=
  if p then .ok () else invalid name reason

def positive (name : String) (value : α) : Except ConfigError Unit :=
  check (0 < value ∧ Scalar.isFinite value) name "must be finite and positive"

/-- Checks the ranges in the order of the fields. The first option out of range is the error. -/
def validate (o : Options α) : Except ConfigError Unit := do
  positive "horizon" o.horizon
  check (2 ≤ o.horizonSteps) "horizon_steps" "needs at least two samples"
  check (o.maxGradientIterations ≠ 0) "max_gradient_iterations" "must be at least 1"
  positive "gradient_tolerance" o.gradientTolerance
  positive "line_search_init" o.lineSearchInit
  positive "line_search_min" o.lineSearchMin
  check (¬ o.lineSearchInit < o.lineSearchMin) "line_search_min" "exceeds line_search_init"
  check (0 ≤ o.constraintPenalty ∧ Scalar.isFinite o.constraintPenalty) "constraint_penalty"
    "must be finite and non-negative"
  check (o.maxIterations ≠ 0) "admm_max_iterations" "must be at least 1"
  positive "admm_primal_tolerance" o.primalTolerance
  positive "admm_dual_tolerance" o.dualTolerance
  positive "admm_penalty_min" o.penaltyMin
  positive "admm_penalty_max" o.penaltyMax
  check (o.penaltyMin ≤ o.penaltyInit ∧ o.penaltyInit ≤ o.penaltyMax) "admm_penalty_init"
    "must lie within [admm_penalty_min, admm_penalty_max]"
  check (1 < o.penaltyIncrease) "admm_penalty_increase_factor" "must exceed 1"
  check (1 < o.penaltyDecrease) "admm_penalty_decrease_factor" "must exceed 1"
  check (1 ≤ o.residualRatio) "admm_residual_ratio" "must be at least 1"
  check (o.exchangeTimeout ≠ 0) "exchange_timeout" "must be positive"

end Options

end ConsensusControl
