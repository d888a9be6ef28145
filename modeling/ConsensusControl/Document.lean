import ConsensusControl.Convergence.History
import ConsensusControl.Decimal.Style
import ConsensusControl.Solution

namespace ConsensusControl

/-- What result files are made of. -/
inductive Document
  | number (x : Float)
  | count (n : Nat)
  /-- A word without quotes or control characters. -/
  | word (s : String)
  | list (items : List Document)
  | object (fields : List (String × Document))

namespace Document

/-- Numbers from `10 ^ -5` up to below `10 ^ 16` are written without an exponent, and a tie goes to the
even digit. There is no text for what is not a finite number. -/
def style : NumberStyle where
  tie := .even
  smallest := -5
  largest := 16
  plus := "+"
  nan := "null"
  infinity := "null"
  negativeInfinity := "null"

def margin (depth : Nat) : String := "\n" ++ String.ofList (List.replicate (2 * depth) ' ')

/-- Parts on lines of their own between two marks. -/
def enclose (opening closing : String) (depth : Nat) (parts : List String) : String :=
  if parts.isEmpty then opening ++ closing
  else
    opening ++ margin (depth + 1) ++ String.intercalate ("," ++ margin (depth + 1)) parts ++
      margin depth ++ closing

def quote (s : String) : String := "\"" ++ s ++ "\""

mutual

def render (depth : Nat) : Document → String
  | number x => style.render x
  | count n => Nat.repr n
  | word s => quote s
  | list items => enclose "[" "]" depth (renderItems (depth + 1) items)
  | object fields => enclose "\x7b" "\x7d" depth (renderFields (depth + 1) fields)

def renderItems (depth : Nat) : List Document → List String
  | [] => []
  | item :: items => render depth item :: renderItems depth items

def renderFields (depth : Nat) : List (String × Document) → List String
  | [] => []
  | (name, value) :: fields => (quote name ++ ": " ++ render depth value) :: renderFields depth fields

end

/-- Indented by two blanks for each level. -/
def toText (d : Document) : String := d.render 0

def numbers (xs : Vec Float) : Document := .list (xs.map .number)

/-- A number that may not have been measured. -/
def measured (x : Option Float) : Document := .number (x.getD (0.0 / 0.0))

def ofAgentState (r : AgentState Float) : Document :=
  .object [("i", .count r.owner), ("t0", .number r.t0), ("t", numbers r.t), ("x", numbers r.x),
    ("u", numbers r.u), ("v", numbers r.v)]

def ofSolution (s : Solution Float) : Document :=
  .object [("agent", .count s.agent), ("trajectory", ofAgentState s.trajectory),
    ("closed_loop", ofAgentState s.closedLoop), ("primal_residual", measured s.primalResidual),
    ("dual_residual", measured s.dualResidual), ("iterations", .count s.iterations),
    ("solve_failures", .count s.solveFailures), ("cost", measured s.cost),
    ("status", .word s.outcome.name)]

def ofAgentSummary (s : AgentSummary Float) : Document :=
  .object [("iterations", .count s.iterations), ("primal", measured s.primal),
    ("dual", measured s.dual), ("average_primal", .number s.averagePrimal),
    ("average_dual", .number s.averageDual), ("primal_trend", .number s.primalTrend),
    ("dual_trend", .number s.dualTrend)]

def ofConvergence (c : Convergence Float) : Document :=
  .object [("iterations", .count c.iterations), ("primal", numbers c.primal),
    ("dual", numbers c.dual),
    ("agents", .object (c.agents.map fun (id, s) => (Nat.repr id, ofAgentSummary s)))]

end Document

end ConsensusControl
