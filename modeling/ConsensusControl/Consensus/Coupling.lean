import ConsensusControl.Consensus.Controller

namespace ConsensusControl

variable {α : Type} [Scalar α]

/-- A holder's local value of one entry of a consensus variable, with its price and weight. -/
structure Holding (α : Type) where
  value : α
  mu : α
  rho : α

/-- The minimizer of the holders' augmented-Lagrangian terms, `(Σ ρ a - Σ μ) / Σ ρ`. Without any weight
the entry keeps its value. -/
def consensusEntry (z : α) (holdings : List (Holding α)) : α :=
  let (num, den) := holdings.foldl (fun (num, den) h => (num + (h.rho * h.value - h.mu), den + h.rho))
    ((0, 0) : α × α)
  if 0 < den then num / den else z

/-- One holder of a consensus variable. -/
structure Participant (α : Type) where
  value : Vec α
  mu : Vec α
  rho : Vec α

namespace Participant

def covers (p : Participant α) (n : Nat) : Bool :=
  n ≤ p.value.length && n ≤ p.mu.length && n ≤ p.rho.length

def holding? (p : Participant α) (k : Nat) : Option (Holding α) := do
  return ⟨← p.value[k]?, ← p.mu[k]?, ← p.rho[k]?⟩

end Participant

/-- The consensus of all participants, entry by entry. -/
def weightedConsensus (z : Vec α) (participants : List (Participant α)) : Checked (Vec α) := do
  Checked.require (participants.all (·.covers z.length)) (.outOfRange "participant" z.length z.length)
  return z.zipIdx.map fun (z, k) => consensusEntry z (participants.filterMap (·.holding? k))

namespace Agent

/-- Everyone who holds a value of the agent's control. -/
def controlParticipants (a : Agent α) : List (Participant α) :=
  ⟨a.agentState.u, a.multiplierState.u, a.penaltyState.u⟩ ::
    a.neighbors.map fun nb => ⟨nb.coupledAgentState.u, nb.coupledMultiplier.u, nb.coupledPenalty.u⟩

end Agent

namespace Neighbor

/-- Everyone who holds a value of the influence on the agent from all but this neighbor. -/
def influenceParticipants (nb : Neighbor α) : List (Participant α) :=
  (if nb.approximated then
    [⟨nb.localInfluence, nb.influenceMultiplier.v, nb.influencePenalty.v⟩] else []) ++
    [⟨nb.coupledAgentState.v, nb.coupledMultiplier.v, nb.coupledPenalty.v⟩]

def updateInfluence (nb : Neighbor α) : Checked (Neighbor α) := do
  let v ← weightedConsensus nb.influenceCoupling.v nb.influenceParticipants
  return { nb with influenceCoupling := { nb.influenceCoupling with v } }

end Neighbor

namespace Controller

/-- Updates the influence variables of the neighbors that have a previous one. Returns the neighbors, the
new previous variables and the largest change on top of `dual`. -/
def updateInfluences (dual : α) : List (Neighbor α) → List (CouplingState α) →
    Checked (List (Neighbor α) × List (CouplingState α) × α)
  | nb :: nbs, _ :: previous => do
    let updated ← nb.updateInfluence
    let dual := Scalar.max dual (Vec.maxChange updated.influenceCoupling.v nb.influenceCoupling.v)
    let (nbs, previous, dual) ← updateInfluences dual nbs previous
    return (updated :: nbs, nb.influenceCoupling :: previous, dual)
  | nbs, previous => .ok (nbs, previous, dual)

/-- Recomputes every consensus variable of the agent from the last local solution and the received
records, and measures the dual residual. The state consensus is the own state itself. -/
def updateCouplingStates (c : Controller α) : Checked (Controller α) := do
  let a := c.agent
  let previous := a.couplingState
  let u ← weightedConsensus previous.u a.controlParticipants
  let couplingState :=
    { previous with t0 := a.agentState.t0, t := a.agentState.t, x := a.agentState.x, u }
  let (neighbors, previousInfluences, dual) ←
    updateInfluences (Vec.maxChange u previous.u) a.neighbors c.previousInfluences
  return { c with
    agent := { a with couplingState, neighbors }
    previousCoupling := previous
    previousInfluences
    residuals := { c.residuals with dual := some dual } }

end Controller

end ConsensusControl
