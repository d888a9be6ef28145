import ConsensusControl.Network.Plant
import ConsensusControl.Ensemble.Solve

namespace ConsensusControl

namespace Ensemble

variable {σ α : Type} [Scalar α]

/-- The first sample of every agent's prediction, which the plant is driven with. -/
def appliedSamples (e : Ensemble σ α) : Checked (Table (Sample α)) :=
  e.controllers.mapM fun (id, c) => do
    return (id, ⟨← c.agent.agentState.xAt 0, ← c.agent.agentState.uAt 0⟩)

/-- Appends an applied sample to the solution of its agent. -/
def pushApplied (t : α) (e : Ensemble σ α) (applied : AgentId × Sample α) : Ensemble σ α :=
  let (id, sample) := applied
  let keep (s : Solution α) : Solution α := match e.storedSamples with
    | some samples => s.capStoredData samples
    | none => s
  { e with
    solutions := Table.modify id (fun s => keep (s.pushClosedLoop t sample.x sample.u)) e.solutions }

/-- Moves an agent on to its next state, and its horizon by one sample. -/
def advance (dt : α) (next : AgentId × Vec α) : Run σ α Unit := do
  let (id, x) := next
  let network ← configured id ((← get).network.setInitial id x)
  modify ({ · with network })
  if let some c := (← get).controllers.lookup id then
    let (c, shifted) := c.shiftHorizon dt
    putController id c
    promised shifted
    putController id (← configured id (c.setInitialState x))

variable [Transport σ α]

/-- Solves at time `t` and applies the first controls to the plant for one sample. -/
def closedLoopStep (t dt : α) : Run σ α (Summary α) := do
  let summary ← solve t
  let applied ← promised (appliedSamples (← get))
  modify fun e => applied.foldl (pushApplied t) e
  ((← get).network.eulerStep applied t dt).forM (advance dt)
  return summary

def closedLoop (dt : α) : Nat → α → Run σ α (List (Summary α))
  | 0, _ => return []
  | steps + 1, t => do
    let summary ← closedLoopStep t dt
    return summary :: (← closedLoop dt steps (t + dt))

/-- Simulates the closed loop for a time `duration` from `t0`, rounded to whole samples. -/
def run (duration t0 : α) : Run σ α (List (Summary α)) := do
  let dt := (← get).options.stepSize
  closedLoop dt (Scalar.nearestNat (duration / dt)) t0

end Ensemble

end ConsensusControl
