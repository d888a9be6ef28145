import ConsensusControl.Options.Basic

namespace ConsensusControl

/-- An option under its name, with the kind of its values. -/
inductive OptionField (α : Type)
  | number (name : String) (get : Options α → α) (set : α → Options α → Options α)
  | count (name : String) (get : Options α → Nat) (set : Nat → Options α → Options α)
  | flag (name : String) (get : Options α → Bool) (set : Bool → Options α → Options α)
  | text (name : String) (get : Options α → String) (set : String → Options α → Options α)

namespace OptionField

def name {α : Type} : OptionField α → String
  | number name _ _ | count name _ _ | flag name _ _ | text name _ _ => name

end OptionField

namespace Options

variable {α : Type}

/-- All options, in the order in which they are written. -/
def fields : List (OptionField α) :=
  [.number "horizon" (·.horizon) fun v o => { o with horizon := v },
    .count "horizon_steps" (·.horizonSteps) fun v o => { o with horizonSteps := v },
    .flag "shift_control" (·.shiftControl) fun v o => { o with shiftControl := v },
    .count "max_gradient_iterations" (·.maxGradientIterations) fun v o =>
      { o with maxGradientIterations := v },
    .number "gradient_tolerance" (·.gradientTolerance) fun v o => { o with gradientTolerance := v },
    .number "line_search_init" (·.lineSearchInit) fun v o => { o with lineSearchInit := v },
    .number "line_search_min" (·.lineSearchMin) fun v o => { o with lineSearchMin := v },
    .number "constraint_penalty" (·.constraintPenalty) fun v o => { o with constraintPenalty := v },
    .count "admm_max_iterations" (·.maxIterations) fun v o => { o with maxIterations := v },
    .number "admm_primal_tolerance" (·.primalTolerance) fun v o => { o with primalTolerance := v },
    .number "admm_dual_tolerance" (·.dualTolerance) fun v o => { o with dualTolerance := v },
    .number "admm_penalty_init" (·.penaltyInit) fun v o => { o with penaltyInit := v },
    .number "admm_penalty_min" (·.penaltyMin) fun v o => { o with penaltyMin := v },
    .number "admm_penalty_max" (·.penaltyMax) fun v o => { o with penaltyMax := v },
    .number "admm_penalty_increase_factor" (·.penaltyIncrease) fun v o =>
      { o with penaltyIncrease := v },
    .number "admm_penalty_decrease_factor" (·.penaltyDecrease) fun v o =>
      { o with penaltyDecrease := v },
    .number "admm_residual_ratio" (·.residualRatio) fun v o => { o with residualRatio := v },
    .flag "admm_adapt_penalty" (·.adaptPenalty) fun v o => { o with adaptPenalty := v },
    .count "admm_max_solve_failures" (·.maxSolveFailures) fun v o => { o with maxSolveFailures := v },
    .flag "approximate_cost" (·.approximateCost) fun v o => { o with approximateCost := v },
    .flag "approximate_constraints" (·.approximateConstraints) fun v o =>
      { o with approximateConstraints := v },
    .count "exchange_timeout" (·.exchangeTimeout) fun v o => { o with exchangeTimeout := v },
    .text "log_filter" (·.logFilter) fun v o => { o with logFilter := v }]

end Options

end ConsensusControl
