import ConsensusControl.Network.Basic

namespace ConsensusControl

namespace Network

variable {α : Type} [Scalar α]

/-- A neighbor `j` of `i` as the network knows it, with no records yet. -/
def freshNeighbor (n : Network α) (i j : AgentId) (model : AgentModel α) : Neighbor α :=
  { Neighbor.new j model (n.relation i j) with
    approximated := true
    neighborCount := (n.neighborsOf j).length }

/-- Brings one neighbor up to date. A neighbor that stays keeps its records. -/
def syncNeighbor (n : Network α) (a : Agent α) (j : AgentId) : Except ConfigError (Agent α) := do
  let entry ← n.getEntry j
  let fresh := n.freshNeighbor a.id j entry.model
  return if (a.neighbor? j).isSome then
      a.modifyNeighbor j fun nb =>
        { nb with model := fresh.model, relation := fresh.relation, neighborCount := fresh.neighborCount }
    else a.addNeighbor fresh

/-- Brings the neighbors and the desired state of an agent in line with the network. -/
def syncAgent (n : Network α) (a : Agent α) : Except ConfigError (Agent α) := do
  let entry ← n.getEntry a.id
  let ids := n.neighborsOf a.id
  let kept :=
    { a with
      desired := .constant a.id [a.agentState.t0] entry.xDesired entry.uDesired []
      neighbors := a.neighbors.filter fun nb => ids.contains nb.id }
  let synced ← ids.foldlM n.syncNeighbor kept
  return { synced with neighbors := synced.neighbors.mergeSort fun a b => a.id ≤ b.id }

/-- A fresh agent with its registration data and its neighbors. -/
def buildAgent (n : Network α) (id : AgentId) (t0 : α) : Except ConfigError (Agent α) := do
  let entry ← n.getEntry id
  n.syncAgent
    { Agent.new id entry.model with agentState := .constant id [t0] entry.xInit entry.uInit [] }

end Network

end ConsensusControl
