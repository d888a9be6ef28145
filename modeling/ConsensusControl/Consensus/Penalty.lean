import ConsensusControl.Consensus.Multiplier

namespace ConsensusControl

variable {α : Type} [Scalar α]

namespace Options

/-- Raises a penalty where the primal residual dominates and lowers it where the dual one does. -/
def balance (o : Options α) (primal dual penalty : α) : α :=
  if o.residualRatio * dual < primal then penalty * o.penaltyIncrease
  else if o.residualRatio * primal < dual then penalty / o.penaltyDecrease
  else penalty

/-- A balanced penalty within the bounds of the options. -/
def adaptPenaltyParameter (o : Options α) (primal dual penalty : α) : Checked α :=
  Checked.clamp (o.balance primal dual penalty) o.penaltyMin o.penaltyMax

/-- Adapts one entry. An entry whose residuals are both within tolerance stays. -/
def adaptEntry (o : Options α) (rho z own previous : α) : Checked α :=
  let primal := Scalar.abs (z - own)
  let dual := Scalar.abs (z - previous)
  if primal ≤ o.primalTolerance ∧ dual ≤ o.dualTolerance then .ok rho
  else o.adaptPenaltyParameter primal dual rho

def adaptEntries (o : Options α) (rho z own previous : Vec α) : Checked (Vec α) := do
  requireEntries "penalty entry" rho.length [z, own, previous]
  ((rho.zip z).zip (own.zip previous)).mapM fun ((rho, z), own, previous) =>
    o.adaptEntry rho z own previous

end Options

namespace Neighbor

/-- Adapts the penalties that the agent holds towards this neighbor. -/
def adaptPenalties (o : Options α) (nb : Neighbor α) (previous : CouplingState α) :
    Checked (Neighbor α) := do
  let influence ←
    if nb.approximated then
      o.adaptEntries nb.influencePenalty.v nb.influenceCoupling.v nb.localInfluence previous.v
    else pure nb.influencePenalty.v
  let v ← o.adaptEntries nb.copyPenalty.v nb.externalInfluence.v nb.localCopy.v
    nb.previousExternalInfluence.v
  let u ← o.adaptEntries nb.copyPenalty.u nb.couplingState.u nb.localCopy.u nb.previousCouplingState.u
  return { nb with
    influencePenalty := { nb.influencePenalty with v := influence }
    copyPenalty := { nb.copyPenalty with u, v } }

end Neighbor

namespace Controller

/-- Adapts the penalties of the neighbors that have a previous influence variable. -/
def adaptNeighborPenalties (o : Options α) : List (Neighbor α) → List (CouplingState α) →
    Checked (List (Neighbor α))
  | nb :: nbs, previous :: rest => do
    return (← nb.adaptPenalties o previous) :: (← adaptNeighborPenalties o nbs rest)
  | nbs, _ => .ok nbs

/-- Adapts every penalty that the agent holds, if the options ask for it. -/
def adaptPenalties (c : Controller α) : Checked (Controller α) := do
  if c.options.adaptPenalty then
    let a := c.agent
    let u ← c.options.adaptEntries a.penaltyState.u a.couplingState.u a.agentState.u
      c.previousCoupling.u
    let neighbors ← adaptNeighborPenalties c.options a.neighbors c.previousInfluences
    return { c with agent := { a with penaltyState := { a.penaltyState with u }, neighbors } }
  else return c

end Controller

end ConsensusControl
