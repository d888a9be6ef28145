import ConsensusControl.Problem.Extended
import ConsensusControl.Solver.Basic

namespace ConsensusControl

/-- Lifecycle of a controller. -/
inductive Status
  | uninitialized
  | ready
  | iterating
  | converged
  | failed
  deriving DecidableEq, Repr

def Status.name : Status → String
  | uninitialized => "Uninitialized"
  | ready => "Ready"
  | iterating => "Iterating"
  | converged => "Converged"
  | failed => "Failed"

/-- Largest consensus violation and largest change of an owned consensus variable. A residual that has
not been measured is beyond every finite tolerance. -/
structure Residuals (α : Type) where
  primal : Option α
  dual : Option α

namespace Residuals

variable {α : Type} [Scalar α]

def unmeasured : Residuals α := ⟨none, none⟩

def within (residual : Option α) (tolerance : α) : Bool :=
  match residual with
  | some r => r ≤ tolerance
  | none => 0 < tolerance && !Scalar.isFinite tolerance

end Residuals

/-- Drives one agent through the consensus iteration. -/
structure Controller (α : Type) where
  agent : Agent α
  solver : LocalSolver α
  options : Options α
  layout : Option Layout
  status : Status
  iteration : Nat
  residuals : Residuals α
  consecutiveFailures : Nat
  totalFailures : Nat
  /-- Cost of the last successful local solve. -/
  lastCost : Option α
  previousCoupling : CouplingState α
  /-- Previous `z_v_ij`, in the order of the neighbors. -/
  previousInfluences : List (CouplingState α)

namespace Controller

variable {α : Type} [Scalar α]

def new (agent : Agent α) (solver : LocalSolver α) (options : Options α) : Controller α where
  agent
  solver
  options
  layout := none
  status := .uninitialized
  iteration := 0
  residuals := .unmeasured
  consecutiveFailures := 0
  totalFailures := 0
  lastCost := none
  previousCoupling := .empty 0
  previousInfluences := []

def id (c : Controller α) : AgentId := c.agent.id

/-- Changes the agent. The layout no longer counts. -/
def modifyAgent (c : Controller α) (f : Agent α → Agent α) : Controller α :=
  { c with agent := f c.agent, layout := none, status := .uninitialized }

/-- Sample times of the current horizon. -/
def grid (c : Controller α) : Vec α :=
  Trajectory.uniformGrid c.agent.agentState.t0 c.options.stepSize c.options.horizonSteps

def problem (c : Controller α) : Option (Checked (LocalProblem α)) :=
  c.layout.map (LocalProblem.of c.agent)

/-- Starts a new solve from the multipliers and penalties at hand. -/
def beginSolve (c : Controller α) : Controller α :=
  { c with
    iteration := 0
    residuals := .unmeasured
    consecutiveFailures := 0
    status := if c.layout.isSome then .ready else c.status }

/-- Overwrites the first state sample, which every local solve keeps. -/
def setInitialState (c : Controller α) (x0 : Vec α) : Except ConfigError (Controller α) :=
  let nx := c.agent.nx
  if x0.length = nx then
    let state := { c.agent.agentState with x := x0 ++ c.agent.agentState.x.drop nx }
    .ok { c with agent := { c.agent with agentState := state } }
  else .error (.dimensionMismatch c.id "initial state" nx x0.length)

def markFailed (c : Controller α) : Controller α := { c with status := .failed }

/-- An iteration is complete and both residuals are within tolerance. -/
def isConverged (c : Controller α) : Bool :=
  0 < c.iteration && Residuals.within c.residuals.primal c.options.primalTolerance &&
    Residuals.within c.residuals.dual c.options.dualTolerance

/-- Closes an iteration. A failed controller stays failed. -/
def finishIteration (c : Controller α) : Controller α :=
  let c := { c with iteration := c.iteration + 1 }
  if c.status = .failed then c
  else { c with status := if c.isConverged then .converged else .iterating }

end Controller

end ConsensusControl
