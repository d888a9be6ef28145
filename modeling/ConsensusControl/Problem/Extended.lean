import ConsensusControl.Problem.Dynamics
import ConsensusControl.Problem.Cost
import ConsensusControl.Problem.Constraints

namespace ConsensusControl.LocalProblem

variable {α : Type} [Scalar α]

/-- The gradient of a neighbor's own cost has to fit into the block of its copied state. -/
def requireStates (p : LocalProblem α) : Checked Unit :=
  p.pairs.forM fun (nb, b) => Checked.require (nb.nx = b.x.size) (.lengthMismatch "state" b.x.size nb.nx)

/-- The gradients of the consensus terms have to fit into the blocks of the copied controls. -/
def requireControls (p : LocalProblem α) : Checked Unit :=
  p.pairs.forM fun (nb, b) => do
    Checked.require (nb.nx = b.v.size) (.lengthMismatch "influence" b.v.size nb.nx)
    Checked.require (nb.nu = b.u.size) (.lengthMismatch "control" b.u.size nb.nu)

/-- The extended problem as a local solver reads it: every sum starts from zero. -/
def toProblem (p : LocalProblem α) : Problem α :=
  let dims := p.layout.dims
  { dims
    dynamics := fun z => p.addDynamics z (Vec.zeros dims.nx)
    dynamicsDx := fun z w => p.addDynamicsDx z w (Vec.zeros dims.nx)
    dynamicsDu := fun z w => p.addDynamicsDu z w (Vec.zeros dims.nu)
    stageCost := p.stageCost
    stageCostDx := fun z => do
      if p.agent.approximation.cost then p.requireStates
      return p.addStageCostDx z (Vec.zeros dims.nx)
    stageCostDu := fun z => do
      p.requireControls
      return p.addStageCostDu z (Vec.zeros dims.nu)
    terminalCost := p.terminalCost
    terminalCostDx := fun t x => do
      if p.agent.approximation.cost then p.requireStates
      return p.addTerminalCostDx t x (Vec.zeros dims.nx)
    constraints := fun kind z => p.addConstraints kind z (Vec.zeros (dims.constraintCount kind))
    constraintsDx := fun kind z w => p.addConstraintsDx kind z w (Vec.zeros dims.nx)
    constraintsDu := fun kind z w => p.addConstraintsDu kind z w (Vec.zeros dims.nu) }

end ConsensusControl.LocalProblem
