import ConsensusControl.Consensus.Controller

namespace ConsensusControl

variable {α : Type} [Scalar α]

namespace Record

variable {family : Family}

/-- The record lies on `grid` and has the dimensions of its role. -/
def fits (r : Record family α) (grid : Vec α) (shape : Shape) : Bool :=
  Trajectory.onGrid r.t grid && r.hasShape grid.length shape

def keepOr (r : Record family α) (grid : Vec α) (shape : Shape) (fresh : Record family α) :
    Record family α :=
  if r.fits grid shape then r else fresh

/-- Interpolates one channel onto `grid`; a channel of another dimension becomes zero. -/
def resampleChannel (r : Record family α) (grid values : Vec α) (stored dim : Nat) : Vec α :=
  if r.t.isEmpty || stored != dim then Vec.zeros (grid.length * dim)
  else grid.flatMap (Trajectory.interpolate r.t values dim)

def resample (r : Record family α) (owner : AgentId) (grid : Vec α) (shape : Shape) :
    Record family α :=
  ⟨owner, startOf grid, grid, r.resampleChannel grid r.x r.shape.nx shape.nx,
    r.resampleChannel grid r.u r.shape.nu shape.nu, r.resampleChannel grid r.v r.shape.nv shape.nv⟩

end Record

/-- Consensus variables that agree with a trajectory. -/
def CouplingState.ofAgentState (r : AgentState α) : CouplingState α := ⟨r.owner, r.t0, r.t, r.x, r.u, []⟩

namespace Neighbor

/-- Gives every record the shape of its role. Records that fit stay as they are. -/
def prepare (own : AgentState α) (owner : AgentId) (nx nu : Nat) (grid : Vec α) (rho : α)
    (nb : Neighbor α) : Neighbor α :=
  let theirs : Shape := ⟨nb.nx, nb.nu, 0⟩
  let copyOfOwn : Shape := ⟨nx, nu, nx⟩
  let copyOfTheirs : Shape := ⟨nb.nx, nb.nu, nb.nx⟩
  let ownInfluence : Shape := ⟨0, 0, nx⟩
  let theirInfluence : Shape := ⟨0, 0, nb.nx⟩
  let ownPrices : Shape := ⟨0, nu, nx⟩
  let theirPrices : Shape := ⟨0, nb.nu, nb.nx⟩
  let agentState := nb.agentState.keepOr grid theirs (nb.agentState.resample nb.id grid theirs)
  let couplingState := nb.couplingState.keepOr grid theirs (CouplingState.ofAgentState agentState)
  let externalInfluence :=
    nb.externalInfluence.keepOr grid theirInfluence (.filled nb.id grid theirInfluence 0)
  { nb with
    agentState
    coupledAgentState :=
      nb.coupledAgentState.keepOr grid copyOfOwn (own.resample own.owner grid copyOfOwn)
    couplingState
    previousCouplingState := nb.previousCouplingState.keepOr grid theirs couplingState
    externalInfluence
    previousExternalInfluence :=
      nb.previousExternalInfluence.keepOr grid theirInfluence externalInfluence
    coupledMultiplier := nb.coupledMultiplier.keepOr grid ownPrices (.filled owner grid ownPrices 0)
    coupledPenalty := nb.coupledPenalty.keepOr grid ownPrices (.filled owner grid ownPrices rho)
    localCopy := nb.localCopy.keepOr grid copyOfTheirs (agentState.resample nb.id grid copyOfTheirs)
    localInfluence :=
      if nb.localInfluence.length = grid.length * nx then nb.localInfluence
      else Vec.zeros (grid.length * nx)
    influenceCoupling :=
      nb.influenceCoupling.keepOr grid ownInfluence (.filled owner grid ownInfluence 0)
    influenceMultiplier :=
      nb.influenceMultiplier.keepOr grid ownInfluence (.filled owner grid ownInfluence 0)
    influencePenalty :=
      nb.influencePenalty.keepOr grid ownInfluence (.filled owner grid ownInfluence rho)
    copyMultiplier := nb.copyMultiplier.keepOr grid theirPrices (.filled nb.id grid theirPrices 0)
    copyPenalty := nb.copyPenalty.keepOr grid theirPrices (.filled nb.id grid theirPrices rho) }

/-- Moves the grids of all records of the horizon. -/
def retime (dt : α) (nb : Neighbor α) : Neighbor α :=
  { nb with
    agentState := nb.agentState.retime dt
    coupledAgentState := nb.coupledAgentState.retime dt
    couplingState := nb.couplingState.retime dt
    previousCouplingState := nb.previousCouplingState.retime dt
    externalInfluence := nb.externalInfluence.retime dt
    previousExternalInfluence := nb.previousExternalInfluence.retime dt
    coupledMultiplier := nb.coupledMultiplier.retime dt
    coupledPenalty := nb.coupledPenalty.retime dt
    localCopy := nb.localCopy.retime dt
    influenceCoupling := nb.influenceCoupling.retime dt
    influenceMultiplier := nb.influenceMultiplier.retime dt
    influencePenalty := nb.influencePenalty.retime dt
    copyMultiplier := nb.copyMultiplier.retime dt
    copyPenalty := nb.copyPenalty.retime dt }

/-- Shifts what has been received from the neighbor and what was predicted for it. `nx` is the agent's
state dimension. -/
def shiftReceived (dt : α) (nx : Nat) (nb : Neighbor α) : Neighbor α :=
  { nb with
    agentState := nb.agentState.shift dt
    coupledAgentState := nb.coupledAgentState.shift dt
    couplingState := nb.couplingState.shift dt
    previousCouplingState := nb.previousCouplingState.shift dt
    externalInfluence := nb.externalInfluence.shift dt
    previousExternalInfluence := nb.previousExternalInfluence.shift dt
    coupledMultiplier := nb.coupledMultiplier.shift dt
    coupledPenalty := nb.coupledPenalty.shift dt
    localCopy := nb.localCopy.shift dt
    localInfluence := Trajectory.shiftSamples nx nb.localInfluence }

/-- Shifts what the agent decides about the neighbor: consensus variables, multipliers and weights. -/
def shiftDecided (dt : α) (nb : Neighbor α) : Neighbor α :=
  { nb with
    influenceCoupling := nb.influenceCoupling.shift dt
    influenceMultiplier := nb.influenceMultiplier.shift dt
    influencePenalty := nb.influencePenalty.shift dt
    copyMultiplier := nb.copyMultiplier.shift dt
    copyPenalty := nb.copyPenalty.shift dt }

/-- Shifts all records of one neighbor after the other. An influence that is not a trajectory of the
agent's dimension ends this, and what comes behind it stays. -/
def shiftAll (dt : α) (nx : Nat) : List (Neighbor α) → List (Neighbor α) × Checked Unit
  | [] => ([], .ok ())
  | nb :: rest =>
    let received := nb.shiftReceived dt nx
    match Trajectory.requireShiftable nx nb.localInfluence with
    | .error fault => (received :: rest, .error fault)
    | .ok () =>
      let (shifted, result) := shiftAll dt nx rest
      (received.shiftDecided dt :: shifted, result)

end Neighbor

namespace Agent

def prepare (grid : Vec α) (rho : α) (a : Agent α) : Agent α :=
  let shape : Shape := ⟨a.nx, a.nu, 0⟩
  let agentState := a.agentState.keepOr grid shape (a.agentState.resample a.id grid shape)
  { a with
    agentState
    couplingState := a.couplingState.keepOr grid shape (CouplingState.ofAgentState agentState)
    multiplierState := a.multiplierState.keepOr grid shape (.filled a.id grid shape 0)
    penaltyState := a.penaltyState.keepOr grid shape (.filled a.id grid shape rho)
    neighbors := a.neighbors.map (·.prepare agentState a.id a.nx a.nu grid rho) }

def retime (dt : α) (a : Agent α) : Agent α :=
  { a with
    agentState := a.agentState.retime dt
    couplingState := a.couplingState.retime dt
    multiplierState := a.multiplierState.retime dt
    penaltyState := a.penaltyState.retime dt
    neighbors := a.neighbors.map (·.retime dt) }

def shift (dt : α) (a : Agent α) : Agent α × Checked Unit :=
  let (neighbors, result) := Neighbor.shiftAll dt a.nx a.neighbors
  ({ a with
    agentState := a.agentState.shift dt
    couplingState := a.couplingState.shift dt
    multiplierState := a.multiplierState.shift dt
    penaltyState := a.penaltyState.shift dt
    neighbors }, result)

def influenceCouplings (a : Agent α) : List (CouplingState α) := a.neighbors.map (·.influenceCoupling)

end Agent

namespace Controller

/-- Takes the current consensus variables for the previous ones. -/
def resetPrevious (c : Controller α) : Controller α :=
  { c with
    previousCoupling := c.agent.couplingState
    previousInfluences := c.agent.influenceCouplings }

/-- Lays out the extended problem and sizes all records on the horizon grid. -/
def prepare (c : Controller α) : Controller α × Except ConfigError Unit :=
  match c.options.validate with
  | .error e => (c, .error e)
  | .ok () =>
    let c := { c with agent := { c.agent with approximation := c.options.approximation } }
    match c.agent.layout with
    | .error e => (c, .error e)
    | .ok layout =>
      let c := { c with agent := c.agent.prepare c.grid c.options.penaltyInit }
      (beginSolve { c.resetPrevious with layout := some layout }, .ok ())

/-- Moves the horizon forward by `dt`: the samples move along if the last solution is to start the next
one, else the grids alone. -/
def shiftHorizon (dt : α) (c : Controller α) : Controller α × Checked Unit :=
  if c.options.shiftControl then
    match c.agent.shift dt with
    | (agent, .error fault) => ({ c with agent }, .error fault)
    | (agent, .ok ()) =>
      (beginSolve { c with
        agent
        previousCoupling := c.previousCoupling.shift dt
        previousInfluences := c.previousInfluences.map (·.shift dt) }, .ok ())
  else
    (beginSolve (resetPrevious { c with agent := c.agent.retime dt }), .ok ())

end Controller

end ConsensusControl
