import ConsensusControl.Network.Basic

namespace ConsensusControl

/-- State and control of one agent at one time. -/
structure Sample (α : Type) where
  x : Vec α
  u : Vec α

namespace Network

variable {α : Type} [Scalar α]

/-- Adds the influence of one neighbor, if it is coupled in and has a sample. -/
def addInfluence (n : Network α) (id : AgentId) (t : α) (own : Sample α) (applied : Table (Sample α))
    (f : Vec α) (j : AgentId) : Vec α :=
  match n.coupling? id j, applied.lookup j with
  | some model, some other => model.dynamics.value ⟨t, own.x, own.u, other.x, other.u⟩ f
  | _, _ => f

/-- Derivative of the state of one agent under the coupled dynamics of the whole network. -/
def derivative (n : Network α) (id : AgentId) (entry : AgentEntry α) (t : α)
    (applied : Table (Sample α)) (own : Sample α) : Vec α :=
  (n.neighborsOf id).foldl (n.addInfluence id t own applied)
    (entry.model.dynamics.value ⟨t, own.x, own.u⟩ (Vec.zeros own.x.length))

/-- One explicit Euler step of all registered agents. -/
def eulerStep (n : Network α) (applied : Table (Sample α)) (t dt : α) : Table (Vec α) :=
  applied.filterMap fun (id, own) => n.entry? id |>.map fun entry =>
    (id, List.zipWith (fun x f => x + dt * f) own.x (n.derivative id entry t applied own))

end Network

end ConsensusControl
