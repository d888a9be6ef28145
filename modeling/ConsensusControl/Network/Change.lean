import ConsensusControl.Network.Basic

namespace ConsensusControl

/-- A change of the registration data of a network. -/
inductive Change (α : Type)
  | registerAgent (id : AgentId) (model : AgentModel α) (x u : Vec α)
  | deregisterAgent (id : AgentId)
  | setDesired (id : AgentId) (x u : Vec α)
  | setInitial (id : AgentId) (x : Vec α)
  | registerCoupling (agent neighbor : AgentId) (model : CouplingModel α)
  | deregisterCoupling (agent neighbor : AgentId)

namespace Change

variable {α : Type}

/-- The agent that an error is reported with. -/
def agent : Change α → AgentId
  | registerAgent id .. | deregisterAgent id | setDesired id .. | setInitial id _ => id
  | registerCoupling agent .. | deregisterCoupling agent _ => agent

end Change

namespace Network

variable {α : Type} [Scalar α]

/-- The network after a change. One that is refused leaves nothing behind. -/
def apply (n : Network α) : Change α → Except ConfigError (Network α)
  | .registerAgent id model x u => n.registerAgent id model x u
  | .deregisterAgent id => (·.1) <$> n.deregisterAgent id
  | .setDesired id x u => n.setDesired id x u
  | .setInitial id x => n.setInitial id x
  | .registerCoupling agent neighbor model => n.registerCoupling agent neighbor model
  | .deregisterCoupling agent neighbor => n.deregisterCoupling agent neighbor

end Network

end ConsensusControl
