import ConsensusControl.Table
import ConsensusControl.Convergence.Ring

namespace ConsensusControl

/-- Iterations that the statistics of an agent look back on. -/
def window : Nat := 32

/-- Residuals that one agent reported. -/
structure Track (α : Type) where
  primal : Ring α window
  dual : Ring α window
  /-- Largest iteration reported. -/
  iterations : Nat

/-- Statistics of one agent over the window. -/
structure AgentSummary (α : Type) where
  iterations : Nat
  primal : Option α
  dual : Option α
  averagePrimal : α
  averageDual : α
  primalTrend : α
  dualTrend : α

/-- Residuals over a whole run: the largest of each iteration, and the statistics of each agent. -/
structure Convergence (α : Type) where
  iterations : Nat
  primal : Vec α
  dual : Vec α
  agents : Table (AgentSummary α)

namespace Track

variable {α : Type} [Scalar α]

def empty : Track α := ⟨.empty, .empty, 0⟩

def push (iteration : Nat) (primal dual : α) (t : Track α) : Track α :=
  ⟨t.primal.push primal, t.dual.push dual, Nat.max t.iterations iteration⟩

def summary (t : Track α) : AgentSummary α :=
  ⟨t.iterations, t.primal.latest, t.dual.latest, t.primal.average, t.dual.average, t.primal.trend,
    t.dual.trend⟩

end Track

/-- Collects the residuals that agents report after each iteration. -/
structure History (α : Type) where
  tracks : Table (Track α)
  /-- Largest residuals of each iteration, the first iteration in front. -/
  primal : Vec α
  dual : Vec α

namespace History

variable {α : Type} [Scalar α]

def empty : History α := ⟨[], [], []⟩

/-- Raises entry `k` to at least `value`. Entries that are missing count as zero. -/
def raise (value : α) : Nat → Vec α → Vec α
  | 0, [] => [Scalar.max 0 value]
  | 0, x :: xs => Scalar.max x value :: xs
  | k + 1, [] => 0 :: raise value k []
  | k + 1, x :: xs => x :: raise value k xs

/-- Notes the residuals of an agent. Iterations count from 1; a report for iteration 0 enters the
statistics of the agent alone. -/
def record (agent : AgentId) (iteration : Nat) (primal dual : α) (h : History α) : History α :=
  let tracks := Table.alter agent (fun t => (t.getD .empty).push iteration primal dual) h.tracks
  match iteration with
  | 0 => { h with tracks }
  | k + 1 => ⟨tracks, raise primal k h.primal, raise dual k h.dual⟩

def iterations (h : History α) : Nat := h.primal.length

/-- Neither residual of the agent decreased over a full window. -/
def isStagnating (h : History α) (agent : AgentId) : Bool :=
  match h.tracks.lookup agent with
  | none => false
  | some t => t.primal.count == window && decide (0 ≤ t.primal.trend) && decide (0 ≤ t.dual.trend)

def agentSummary (h : History α) (agent : AgentId) : Option (AgentSummary α) :=
  (h.tracks.lookup agent).map (·.summary)

def summary (h : History α) : Convergence α :=
  ⟨h.iterations, h.primal, h.dual, h.tracks.map fun (id, t) => (id, t.summary)⟩

end History

end ConsensusControl
