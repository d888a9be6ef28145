import ConsensusControl.Consensus.Controller

namespace ConsensusControl

variable {α : Type} [Scalar α]

def consensusResidual (z own : Vec α) : Vec α := List.zipWith (· - ·) z own

def requireEntries (what : String) (n : Nat) (vectors : List (Vec α)) : Checked Unit :=
  Checked.require (vectors.all fun v => n ≤ v.length) (.outOfRange what n n)

/-- `mu + rho (z - own)` with the largest `|z - own|`. -/
def dualAscent (mu rho z own : Vec α) : Checked (Vec α × α) := do
  requireEntries "multiplier entry" mu.length [rho, z, own]
  let residual := consensusResidual z own
  let ascended := List.zipWith (fun m (p : α × α) => m + p.1 * p.2) mu (rho.zip residual)
  return (ascended, Vec.normInf (residual.take mu.length))

namespace Neighbor

/-- Raises the prices that the agent holds towards this neighbor. Returns the largest violation on top
of `primal`. -/
def updateMultipliers (primal : α) (nb : Neighbor α) : Checked (Neighbor α × α) := do
  let (influence, primal) ←
    if nb.approximated then
      let (v, r) ← dualAscent nb.influenceMultiplier.v nb.influencePenalty.v nb.influenceCoupling.v
        nb.localInfluence
      pure ({ nb.influenceMultiplier with v }, Scalar.max primal r)
    else pure (nb.influenceMultiplier, primal)
  let (v, rv) ← dualAscent nb.copyMultiplier.v nb.copyPenalty.v nb.externalInfluence.v nb.localCopy.v
  let (u, ru) ← dualAscent nb.copyMultiplier.u nb.copyPenalty.u nb.couplingState.u nb.localCopy.u
  return ({ nb with influenceMultiplier := influence, copyMultiplier := { nb.copyMultiplier with u, v } },
    Scalar.max (Scalar.max primal rv) ru)

end Neighbor

namespace Controller

def updateNeighborMultipliers (primal : α) : List (Neighbor α) → Checked (List (Neighbor α) × α)
  | [] => .ok ([], primal)
  | nb :: nbs => do
    let (nb, primal) ← nb.updateMultipliers primal
    let (nbs, primal) ← updateNeighborMultipliers primal nbs
    return (nb :: nbs, primal)

/-- Raises every price that the agent holds and measures the primal residual. -/
def updateMultiplierStates (c : Controller α) : Checked (Controller α) := do
  let a := c.agent
  let (u, primal) ← dualAscent a.multiplierState.u a.penaltyState.u a.couplingState.u a.agentState.u
  let (neighbors, primal) ← updateNeighborMultipliers primal a.neighbors
  return { c with
    agent := { a with multiplierState := { a.multiplierState with u }, neighbors }
    residuals := { c.residuals with primal := some primal } }

end Controller

end ConsensusControl
