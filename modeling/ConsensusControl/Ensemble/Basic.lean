import ConsensusControl.Network.Membership
import ConsensusControl.Network.Change
import ConsensusControl.Consensus.Sizing
import ConsensusControl.Convergence.History
import ConsensusControl.Transport.Basic
import ConsensusControl.Solution

namespace ConsensusControl

/-- All agents of a network, each with a controller of its own, and the transport between them. -/
structure Ensemble (σ α : Type) where
  options : Options α
  network : Network α
  transport : σ
  solver : LocalSolver α
  controllers : Table (Controller α)
  /-- The network has changed since the controllers were last brought in line with it. -/
  topologyChanged : Bool
  /-- Number of exchanges begun. -/
  round : Nat
  history : History α
  solutions : Table (Solution α)
  /-- Bound on the applied samples that are kept. -/
  storedSamples : Option Nat

/-- What ends an operation early: an error of the domain or a broken promise. -/
inductive Stop
  | error (e : RunError)
  | fault (f : Fault)
  deriving DecidableEq, Repr

/-- Operations on an ensemble. One that stops early keeps what it has changed so far. -/
abbrev Run (σ α : Type) := ExceptT Stop (StateM (Ensemble σ α))

namespace Ensemble

variable {σ α : Type} [Scalar α]

def new (options : Options α) (solver : LocalSolver α) (transport : σ) : Ensemble σ α where
  options
  network := .empty
  transport
  solver
  controllers := []
  topologyChanged := false
  round := 0
  history := .empty
  solutions := []
  storedSamples := none

/-- Another local solver for every agent. The controllers are built anew. -/
def withSolver (solver : LocalSolver α) (e : Ensemble σ α) : Ensemble σ α :=
  { e with solver, controllers := [], topologyChanged := true }

/-- One line on the size of the ensemble. -/
def describe (e : Ensemble σ α) : String :=
  let agents := e.network.agents.length
  let controllers := e.controllers.length
  let round := e.round
  s!"Dmpc \x7b agents: {agents}, controllers: {controllers}, round: {round}, .. \x7d"

def promised {β : Type} (x : Checked β) : Run σ α β :=
  match x with
  | .ok b => pure b
  | .error fault => throw (.fault fault)

/-- Reports an error of the registration data with the agent that it belongs to. -/
def configured {β : Type} (id : AgentId) (x : Except ConfigError β) : Run σ α β :=
  match x with
  | .ok b => pure b
  | .error source => throw (.error (.config ⟨id, 0, .setup⟩ source))

def putController (id : AgentId) (c : Controller α) : Run σ α Unit :=
  modify fun e => { e with controllers := Table.insert id c e.controllers }

/-- Changes the network. The controllers follow before the next solve, with two exceptions: an agent
that leaves takes all that is kept for it along, and a new initial state is handed on at once. -/
def apply [Transport σ α] (change : Change α) : Run σ α Unit := do
  let network ← configured change.agent ((← get).network.apply change)
  modify ({ · with network })
  match change with
  | .setInitial id x =>
    if let some c := (← get).controllers.lookup id then
      putController id (← configured id (c.setInitialState x))
  | .registerAgent id .. =>
    modify fun e => { e with transport := Transport.register id e.transport, topologyChanged := true }
  | .deregisterAgent id =>
    modify fun e =>
      { e with
        transport := Transport.deregister id e.transport
        controllers := Table.erase id e.controllers
        solutions := Table.erase id e.solutions
        topologyChanged := true }
  | _ => modify ({ · with topologyChanged := true })

/-- Bounds the applied samples that are kept for each agent, now and from now on. -/
def capStoredData (samples : Nat) (e : Ensemble σ α) : Ensemble σ α :=
  { e with
    storedSamples := samples
    solutions := e.solutions.map fun (id, s) => (id, s.capStoredData samples) }

end Ensemble

end ConsensusControl
