import ConsensusControl.Consensus.Controller

namespace ConsensusControl

/-- Points of an iteration at which records are exchanged. -/
inductive ExchangePhase
  | setup
  | agentStates
  | couplingStates
  | multiplierStates
  deriving DecidableEq, Repr

namespace ExchangePhase

def name : ExchangePhase → String
  | setup => "Setup"
  | agentStates => "AgentStates"
  | couplingStates => "CouplingStates"
  | multiplierStates => "MultiplierStates"

def all : List ExchangePhase := [setup, agentStates, couplingStates, multiplierStates]

/-- What every neighbor is sent in this phase. -/
def kinds : ExchangePhase → List RecordKind
  | setup => RecordKind.all
  | agentStates => [.agentState, .coupledAgentState]
  | couplingStates => [.couplingState, .externalInfluenceCouplingState]
  | multiplierStates => [.coupledMultiplierState, .coupledPenaltyState]

end ExchangePhase

/-- A record on its way to a neighbor. -/
structure Outgoing (α : Type) where
  receiver : AgentId
  kind : RecordKind
  record : StateRecord α

/-- Lengths that a received record has to have, where the receiver has a say. -/
structure Expected where
  samples : Option Nat
  nx : Nat
  nu : Nat
  nv : Option Nat

namespace Record

variable {family : Family} {α : Type}

def checkLength (what : String) (actual expected : Nat) : Except String Unit :=
  if actual = expected then .ok ()
  else .error s!"{what} has {actual} values, expected {expected}"

def checkAgent (r : AgentState α) (e : Expected) : Except String Unit := do
  let samples := r.t.length
  if samples = 0 then throw "empty time grid"
  if let some n := e.samples then checkLength "t" samples n
  checkLength "x" r.x.length (samples * e.nx)
  checkLength "u" r.u.length (samples * e.nu)
  if let some nv := e.nv then checkLength "v" r.v.length (samples * nv)

end Record

namespace Agent

variable {α : Type} [Scalar α]

/-- The record of one kind for one neighbor. -/
def recordFor (a : Agent α) (nb : Neighbor α) : RecordKind → StateRecord α
  | .agentState => ⟨a.agentState⟩
  | .desiredAgentState => ⟨a.desired⟩
  | .coupledAgentState => ⟨nb.localCopy⟩
  | .couplingState => ⟨a.couplingState⟩
  | .externalInfluenceCouplingState => ⟨nb.influenceCoupling⟩
  | .coupledMultiplierState => ⟨nb.copyMultiplier⟩
  | .coupledPenaltyState => ⟨nb.copyPenalty⟩

end Agent

namespace Neighbor

variable {α : Type} [Scalar α]

/-- Stores a received record if it has the lengths of its role in the view of an agent with dimensions
`nx` and `nu`. A new consensus variable makes the old one the previous. -/
def receive (samples nx nu : Nat) :
    (kind : RecordKind) → Record kind.family α → ExceptT String (StateM (Neighbor α)) Unit
  | .agentState, record => do
    let nb ← get
    Record.checkAgent record ⟨samples, nb.nx, nb.nu, none⟩
    modify ({ · with agentState := record })
  | .desiredAgentState, record => do
    let nb ← get
    Record.checkAgent record ⟨none, nb.nx, nb.nu, none⟩
    modify ({ · with desired := record })
  | .coupledAgentState, record => do
    Record.checkAgent record ⟨samples, nx, nu, nx⟩
    modify ({ · with coupledAgentState := record })
  | .couplingState, record => do
    let nb ← get
    Record.checkLength "z_u" record.u.length (samples * nb.nu)
    modify ({ · with couplingState := record })
    modify ({ · with previousCouplingState := nb.couplingState })
  | .externalInfluenceCouplingState, record => do
    let nb ← get
    Record.checkLength "z_v" record.v.length (samples * nb.nx)
    modify ({ · with externalInfluence := record })
    modify ({ · with previousExternalInfluence := nb.externalInfluence })
  | .coupledMultiplierState, record => do
    Record.checkLength "mu_u" record.u.length (samples * nu)
    Record.checkLength "mu_v" record.v.length (samples * nx)
    modify ({ · with coupledMultiplier := record })
  | .coupledPenaltyState, record => do
    Record.checkLength "rho_u" record.u.length (samples * nu)
    Record.checkLength "rho_v" record.v.length (samples * nx)
    modify ({ · with coupledPenalty := record })

end Neighbor

namespace Controller

variable {α : Type} [Scalar α]

/-- What the agent sends in a phase, neighbor by neighbor. -/
def outgoing (c : Controller α) (phase : ExchangePhase) : List (Outgoing α) :=
  c.agent.neighbors.flatMap fun nb => phase.kinds.map fun kind =>
    ⟨nb.id, kind, c.agent.recordFor nb kind⟩

/-- Stores a record received from `sender`. The neighbor is left as the reception leaves it, also where the
record is refused. -/
def applyIncoming (c : Controller α) (sender : AgentId) (kind : RecordKind) (r : StateRecord α) :
    Controller α × Except CommunicationError Unit :=
  if h : r.family = kind.family then
    match c.agent.neighbor? sender with
    | none => (c, .error (.notANeighbor c.id sender))
    | some nb =>
      let (answer, nb) :=
        (Neighbor.receive c.options.horizonSteps c.agent.nx c.agent.nu kind (h ▸ r.record)).run.run nb
      ({ c with agent := c.agent.modifyNeighbor sender fun _ => nb },
        answer.mapError (.malformedRecord c.id sender kind))
  else (c, .error (.unexpectedRecord c.id sender kind))

end Controller

end ConsensusControl
