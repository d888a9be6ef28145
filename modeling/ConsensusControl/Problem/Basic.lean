import ConsensusControl.Model.Basic

namespace ConsensusControl

/-- Dimensions of an optimal control problem. -/
structure Dimensions where
  nx : Nat
  nu : Nat
  ng : Nat
  nh : Nat
  deriving DecidableEq, Repr

namespace Dimensions

/-- States, controls, parameters, equalities, inequalities, and terminal equalities and inequalities.
Parameters and terminal constraints do not occur. -/
def toList (d : Dimensions) : List Nat := [d.nx, d.nu, 0, d.ng, d.nh, 0, 0]

def constraintCount (d : Dimensions) : ConstraintKind → Nat
  | .equality => d.ng
  | .inequality => d.nh

end Dimensions

/-- An optimal control problem as a local solver reads it. `dx` and `du` members are products of a
transposed Jacobian with the second argument. A cost gradient may rely on parts of the problem to fit
together. -/
structure Problem (α : Type) where
  dims : Dimensions
  dynamics : Point α → Vec α
  dynamicsDx : Point α → Vec α → Vec α
  dynamicsDu : Point α → Vec α → Vec α
  stageCost : Point α → α
  stageCostDx : Point α → Checked (Vec α)
  stageCostDu : Point α → Checked (Vec α)
  terminalCost : α → Vec α → α
  terminalCostDx : α → Vec α → Checked (Vec α)
  constraints : ConstraintKind → Point α → Vec α
  constraintsDx : ConstraintKind → Point α → Vec α → Vec α
  constraintsDu : ConstraintKind → Point α → Vec α → Vec α

end ConsensusControl
