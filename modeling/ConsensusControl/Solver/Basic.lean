import ConsensusControl.Options.Basic
import ConsensusControl.Problem.Basic

namespace ConsensusControl

/-- Starting point of a local solve: the fixed initial state and a sample-major control. -/
structure Guess (α : Type) where
  t0 : α
  x0 : Vec α
  u : Vec α

/-- Result of a local solve on the horizon grid, sample-major. -/
structure LocalSolution (α : Type) where
  t : Vec α
  x : Vec α
  u : Vec α
  cost : α
  iterations : Nat
  converged : Bool

/-- Anything that solves local problems. -/
abbrev LocalSolver (α : Type) :=
  Problem α → Guess α → Options α → Checked (Except SolveError (LocalSolution α))

end ConsensusControl
