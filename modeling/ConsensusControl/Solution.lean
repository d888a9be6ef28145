import ConsensusControl.Record

namespace ConsensusControl

/-- How the last run of an agent ended. -/
inductive Outcome
  | converged
  | maxIterations
  | failed
  deriving DecidableEq, Repr

def Outcome.name : Outcome → String
  | converged => "Converged"
  | maxIterations => "MaxIterations"
  | failed => "Failed"

/-- Result of the last run of an agent, and what was applied to it so far. -/
structure Solution (α : Type) where
  agent : AgentId
  /-- Prediction over the last horizon. -/
  trajectory : AgentState α
  /-- One sample for each step that was applied. -/
  closedLoop : AgentState α
  primalResidual : Option α
  dualResidual : Option α
  iterations : Nat
  solveFailures : Nat
  cost : Option α
  outcome : Outcome

namespace Solution

variable {α : Type} [Scalar α]

/-- Appends an applied sample. -/
def pushClosedLoop (s : Solution α) (t : α) (x u : Vec α) : Solution α :=
  let h := s.closedLoop
  { s with
    closedLoop :=
      { h with
        t0 := if h.t.isEmpty then t else h.t0
        t := h.t ++ [t]
        x := h.x ++ x
        u := h.u ++ u } }

/-- Keeps the latest applied samples, at most `samples` of them. -/
def capStoredData (samples : Nat) (s : Solution α) : Solution α :=
  let h := s.closedLoop
  if h.t.length ≤ samples then s
  else
    let dropped := h.t.length - samples
    let t := h.t.drop dropped
    { s with
      closedLoop :=
        { h with
          t0 := t.headD h.t0
          t
          x := h.x.drop (dropped * h.shape.nx)
          u := h.u.drop (dropped * h.shape.nu) } }

/-- Name of the file that a solution is written to. -/
def fileName (stem : String) (agent : AgentId) : String := s!"{stem}agent_{agent}.json"

end Solution

end ConsensusControl
