import ConsensusControl.Ensemble.Basic

namespace ConsensusControl

namespace Controller

variable {α : Type} [Scalar α]

/-- Moves the start of the horizon, unless it is there already. -/
def startAt (t0 : α) (c : Controller α) : Controller α :=
  if Scalar.gridTolerance < Scalar.abs (c.agent.agentState.t0 - t0) then
    c.modifyAgent fun a => { a with agentState := { a.agentState with t0 } }
  else c

end Controller

namespace Ensemble

variable {σ α : Type} [Scalar α]

/-- Brings the controller of one agent in line with the network, or builds it. -/
def syncController (t0 : α) (id : AgentId) : Run σ α Unit := do
  let e ← get
  match e.controllers.lookup id with
  | some c =>
    let agent ← configured id (e.network.syncAgent c.agent)
    putController id (c.modifyAgent fun _ => agent)
  | none =>
    let agent ← configured id (e.network.buildAgent id t0)
    putController id (.new agent e.solver e.options)

def syncTopology (t0 : α) : Run σ α Unit := do
  if (← get).topologyChanged then
    (← get).network.ids.forM (syncController t0)
    modify ({ · with topologyChanged := false })

/-- Gets a controller ready for the horizon that starts at `t0`. -/
def prepareController (t0 : α) (entry : AgentId × Controller α) : Run σ α Unit := do
  let (id, c) := entry
  let c := c.startAt t0
  if c.status = .uninitialized then
    let (c, result) := c.prepare
    putController id c
    configured id result
    putController id c.beginSolve
  else putController id c.beginSolve

/-- Brings every controller in line with the network and with the horizon that starts at `t0`. -/
def prepare (t0 : α) : Run σ α Unit := do
  syncTopology t0
  (← get).controllers.forM (prepareController t0)

end Ensemble

end ConsensusControl
