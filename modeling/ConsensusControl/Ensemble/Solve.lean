import ConsensusControl.Consensus.Coupling
import ConsensusControl.Consensus.LocalStep
import ConsensusControl.Consensus.Penalty
import ConsensusControl.Ensemble.Exchange
import ConsensusControl.Ensemble.Preparation

namespace ConsensusControl

/-- Result of one solve over all agents. -/
structure Summary (α : Type) where
  t0 : α
  iterations : Nat
  converged : Bool
  convergence : Convergence α

namespace Controller

variable {α : Type} [Scalar α]

def outcome (c : Controller α) : Outcome :=
  if c.status = .failed then .failed else if c.isConverged then .converged else .maxIterations

/-- What is reported of the controller's last run. The applied samples are carried on. -/
def solution (c : Controller α) (last : Option (Solution α)) : Solution α where
  agent := c.id
  trajectory := c.agent.agentState
  closedLoop := (last.map (·.closedLoop)).getD (.empty c.id)
  primalResidual := c.residuals.primal
  dualResidual := c.residuals.dual
  iterations := c.iteration
  solveFailures := c.totalFailures
  cost := c.lastCost
  outcome := c.outcome

def coupling (c : Controller α) : Controller α × Checked Unit :=
  match c.updateCouplingStates with
  | .ok c => (c, .ok ())
  | .error fault => (c, .error fault)

def ascent (c : Controller α) : Controller α × Checked Unit :=
  match c.updateMultiplierStates.bind (·.adaptPenalties) with
  | .ok c => (c, .ok ())
  | .error fault => (c, .error fault)

end Controller

namespace Ensemble

variable {σ α : Type} [Scalar α]

/-- Lets every controller work for itself. The results replace the controllers only once all are in. -/
def inParallel {β : Type} (work : Controller α → Controller α × Checked β) :
    Run σ α (List (AgentId × β)) := do
  let results := (← get).controllers.map fun (id, c) => (id, work c)
  let answers ← results.mapM fun (id, _, answer) => match answer with
    | .ok b => pure (id, b)
    | .error _ => throw (.error (.worker s!"agent {id} broke off"))
  modify ({ · with controllers := results.map fun (id, c, _) => (id, c) })
  return answers

def storeSolutions : Run σ α Unit :=
  modify fun e =>
    { e with
      solutions := e.controllers.foldl (fun s (id, c) => Table.alter id c.solution s) e.solutions }

/-- Ends the run if an agent has failed too often in a row. Other failures keep the last prediction. -/
def escalate (iteration : Nat) (result : AgentId × Except SolveError Unit) : Run σ α Unit := do
  match result with
  | (_, .ok ()) => pure ()
  | (id, .error _) =>
    let e ← get
    if let some c := e.controllers.lookup id then
      if e.options.maxSolveFailures < c.consecutiveFailures then
        putController id c.markFailed
        storeSolutions
        throw (.error (.failuresExceeded ⟨id, iteration, .agentStates⟩ c.consecutiveFailures))

/-- Notes the residuals of one controller. -/
def report (iteration : Nat) (h : History α) (c : Controller α) : History α :=
  match c.residuals.primal, c.residuals.dual with
  | some primal, some dual => h.record c.id iteration primal dual
  | _, _ => h

/-- Closes an iteration of all controllers and tells whether every one has converged. -/
def finish (iteration : Nat) : Run σ α Bool := do
  modify fun e => { e with controllers := e.controllers.map fun (id, c) => (id, c.finishIteration) }
  let e ← get
  let finished := e.controllers.map (·.2)
  set { e with history := finished.foldl (report iteration) e.history }
  return finished.all (·.isConverged)

variable [Transport σ α]

def iterate (iteration : Nat) : Run σ α Bool := do
  let solved ← inParallel (·.updateAgentStates)
  solved.forM (escalate iteration)
  exchange .agentStates iteration
  let _ ← inParallel (·.coupling)
  exchange .couplingStates iteration
  let _ ← inParallel (·.ascent)
  exchange .multiplierStates iteration
  finish iteration

/-- Iterates until all have converged, at most `limit` times more. Gives the number of the last
iteration. -/
def iterateUpTo : (limit iteration : Nat) → Run σ α (Nat × Bool)
  | 0, iteration => return (iteration, false)
  | limit + 1, iteration => do
    if ← iterate (iteration + 1) then return (iteration + 1, true)
    iterateUpTo limit (iteration + 1)

/-- Solves the problem of all agents on the horizon that starts at `t0`. -/
def solve (t0 : α) : Run σ α (Summary α) := do
  prepare t0
  modify ({ · with history := .empty })
  exchange .setup 0
  let e ← get
  let (iterations, converged) ←
    if e.controllers.isEmpty then pure (0, true) else iterateUpTo e.options.maxIterations 0
  storeSolutions
  return ⟨t0, iterations, converged, (← get).history.summary⟩

end Ensemble

end ConsensusControl
