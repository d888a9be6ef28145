import ConsensusControl.Error
import ConsensusControl.Table
import ConsensusControl.Agent

namespace ConsensusControl

/-- Registration data of one agent. -/
structure AgentEntry (α : Type) where
  model : AgentModel α
  xInit : Vec α
  /-- First guess of the control. -/
  uInit : Vec α
  xDesired : Vec α
  uDesired : Vec α

/-- `neighbor` enters the dynamics of `agent`. -/
structure Coupling (α : Type) where
  agent : AgentId
  neighbor : AgentId
  model : CouplingModel α

namespace Coupling

variable {α : Type}

def joins (c : Coupling α) (agent neighbor : AgentId) : Bool :=
  c.agent == agent && c.neighbor == neighbor

def touches (c : Coupling α) (id : AgentId) : Bool := c.agent == id || c.neighbor == id

/-- The other side, seen from one of the two. -/
def partner? (c : Coupling α) (id : AgentId) : Option AgentId :=
  if c.agent = id then some c.neighbor else if c.neighbor = id then some c.agent else none

end Coupling

/-- Agents and the couplings between them. -/
structure Network (α : Type) where
  agents : Table (AgentEntry α)
  couplings : List (Coupling α)

namespace Network

variable {α : Type} [Scalar α]

def empty : Network α := ⟨[], []⟩

def entry? (n : Network α) (id : AgentId) : Option (AgentEntry α) := n.agents.lookup id

def contains (n : Network α) (id : AgentId) : Bool := Table.contains id n.agents

def ids (n : Network α) : List AgentId := Table.ids n.agents

def coupling? (n : Network α) (agent neighbor : AgentId) : Option (CouplingModel α) :=
  (n.couplings.find? (·.joins agent neighbor)).map (·.model)

/-- Agents coupled to this one in either direction, in ascending order. -/
def neighborsOf (n : Network α) (id : AgentId) : List AgentId :=
  ascending (n.couplings.filterMap (·.partner? id))

/-- What `i` has with its neighbor `j`. -/
def relation (n : Network α) (i j : AgentId) : Relation α := ⟨n.coupling? i j, n.coupling? j i⟩

def checkLength (agent : AgentId) (what : String) (values : Vec α) (expected : Nat) :
    Except ConfigError Unit :=
  if values.length = expected then .ok ()
  else .error (.dimensionMismatch agent what expected values.length)

def getEntry (n : Network α) (id : AgentId) : Except ConfigError (AgentEntry α) :=
  match n.entry? id with
  | some entry => .ok entry
  | none => .error (.unknownAgent id)

def setEntry (n : Network α) (id : AgentId) (entry : AgentEntry α) : Network α :=
  { n with agents := Table.insert id entry n.agents }

/-- Adds an agent, whose desired state and control start at zero. -/
def registerAgent (n : Network α) (id : AgentId) (model : AgentModel α) (x u : Vec α) :
    Except ConfigError (Network α) := do
  if n.contains id then throw (.duplicateAgent id)
  if model.nx = 0 then throw (.nonPositiveDimension id "state")
  if model.nu = 0 then throw (.nonPositiveDimension id "control")
  checkLength id "initial state" x model.nx
  checkLength id "initial control" u model.nu
  return n.setEntry id ⟨model, x, u, Vec.zeros model.nx, Vec.zeros model.nu⟩

/-- Removes an agent together with its couplings, and tells who loses it as a neighbor. -/
def deregisterAgent (n : Network α) (id : AgentId) :
    Except ConfigError (Network α × List AgentId) := do
  let _ ← n.getEntry id
  return (⟨Table.erase id n.agents, n.couplings.filter fun c => !c.touches id⟩, n.neighborsOf id)

def setDesired (n : Network α) (id : AgentId) (x u : Vec α) : Except ConfigError (Network α) := do
  let entry ← n.getEntry id
  checkLength id "desired state" x entry.model.nx
  checkLength id "desired control" u entry.model.nu
  return n.setEntry id { entry with xDesired := x, uDesired := u }

def setInitial (n : Network α) (id : AgentId) (x : Vec α) : Except ConfigError (Network α) := do
  let entry ← n.getEntry id
  checkLength id "initial state" x entry.model.nx
  return n.setEntry id { entry with xInit := x }

def registerCoupling (n : Network α) (agent neighbor : AgentId) (model : CouplingModel α) :
    Except ConfigError (Network α) := do
  if agent = neighbor then throw (.selfCoupling agent)
  let _ ← n.getEntry agent
  let _ ← n.getEntry neighbor
  if (n.coupling? agent neighbor).isSome then throw (.duplicateNeighbor agent neighbor)
  return { n with couplings := ⟨agent, neighbor, model⟩ :: n.couplings }

def deregisterCoupling (n : Network α) (agent neighbor : AgentId) : Except ConfigError (Network α) :=
  if (n.coupling? agent neighbor).isSome then
    .ok { n with couplings := n.couplings.filter fun c => !c.joins agent neighbor }
  else .error (.unknownCoupling agent neighbor)

end Network

end ConsensusControl
