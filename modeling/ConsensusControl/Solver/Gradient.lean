import ConsensusControl.Solver.Shooting

namespace ConsensusControl

namespace Gradient

variable {α : Type} [Scalar α]

/-- Share of the predicted decrease that a step has to reach. -/
def sufficientDecrease : α := Scalar.decimalPlace 4

/-- Longest step a curvature estimate may propose. -/
def maxStep : α := ((1000000 : Nat) : α)

/-- Controls with their states and cost. -/
structure Candidate (α : Type) where
  u : List (Vec α)
  x : List (Vec α)
  cost : α

structure Iterate (α : Type) extends Candidate α where
  grad : List (Vec α)
  step : α
  /-- Controls and gradient before the last step. -/
  previous : Option (List (Vec α) × List (Vec α))
  iterations : Nat

def evaluate (s : Shooting α) (x0 : Vec α) (u : List (Vec α)) : Except SolveError (Candidate α) := do
  let x ← s.simulate x0 u
  return ⟨u, x, ← s.cost x u⟩

def moved (u grad : List (Vec α)) (step : α) : List (Vec α) :=
  List.zipWith (List.zipWith fun u g => u - step * g) u grad

/-- Halves the step until it decreases the cost enough or falls below `lo`. A trial that diverges is a
step too long. `budget` bounds the trials. -/
def lineSearch (s : Shooting α) (x0 : Vec α) (it : Iterate α) (slope lo : α) :
    Nat → α → Option (Candidate α × α)
  | 0, _ => none
  | budget + 1, step =>
    if lo ≤ step then
      match evaluate s x0 (moved it.u it.grad step) with
      | .ok trial =>
        if trial.cost ≤ it.cost - sufficientDecrease * step * slope then some (trial, step)
        else lineSearch s x0 it slope lo budget (step * Scalar.half)
      | .error _ => lineSearch s x0 it slope lo budget (step * Scalar.half)
    else none

/-- Step along which the last change of the gradient would vanish, or twice the last one where the cost
does not curve upwards. -/
def proposedStep (it : Iterate α) : α :=
  match it.previous with
  | none => it.step
  | some (u, grad) =>
    let s := List.zipWith (· - ·) it.u.flatten u.flatten
    let y := List.zipWith (· - ·) it.grad.flatten grad.flatten
    let sy := Vec.dot s y
    if 0 < sy then Vec.dot s s / sy else Scalar.two * it.step

def isStationary (it : Iterate α) (tolerance : α) : Bool := Vec.normInf it.grad.flatten ≤ tolerance

/-- Takes at most `rounds` steps. Ends early at a stationary point or where no step is accepted. -/
def descend (s : Shooting α) (x0 : Vec α) (o : Options α) :
    Nat → Iterate α → Checked (Except SolveError (Iterate α))
  | 0, it => .ok (.ok it)
  | rounds + 1, it =>
    if isStationary it o.gradientTolerance then .ok (.ok it)
    else do
      let step ← Checked.clamp (proposedStep it) o.lineSearchMin maxStep
      let slope := Vec.dot it.grad.flatten it.grad.flatten
      let iterations := it.iterations + 1
      match lineSearch s x0 it slope o.lineSearchMin (Scalar.halvings o.lineSearchMin + 1) step with
      | none => return .ok { it with iterations }
      | some (trial, step) =>
        match ← s.gradient trial.x trial.u with
        | .error e => return .error e
        | .ok grad =>
          descend s x0 o rounds
            { toCandidate := trial, grad, step, previous := some (it.u, it.grad), iterations }

def start (s : Shooting α) (x0 : Vec α) (u : List (Vec α)) (step : α) :
    Checked (Except SolveError (Iterate α)) :=
  match evaluate s x0 u with
  | .error e => .ok (.error e)
  | .ok first => do
    let grad ← s.gradient first.x first.u
    return grad.map fun grad =>
      { toCandidate := first, grad, step, previous := none, iterations := 0 }

def checkLength (what : String) (actual expected : Nat) : Except SolveError Unit :=
  if actual = expected then .ok () else .error (.dimensionMismatch what expected actual)

def shooting (problem : Problem α) (t0 : α) (o : Options α) : Shooting α :=
  ⟨problem, Trajectory.uniformGrid t0 o.stepSize (Nat.max o.horizonSteps 2), o.stepSize,
    o.constraintPenalty⟩

def checkGuess (problem : Problem α) (guess : Guess α) (o : Options α) : Except SolveError Unit := do
  checkLength "initial state" guess.x0.length problem.dims.nx
  checkLength "control trajectory" guess.u.length (Nat.max o.horizonSteps 2 * problem.dims.nu)

/-- The first iterate, from a guess of the right sizes. -/
def firstIterate (problem : Problem α) (guess : Guess α) (o : Options α) :
    Checked (Except SolveError (Iterate α)) :=
  match checkGuess problem guess o with
  | .error e => .ok (.error e)
  | .ok _ =>
    start (shooting problem guess.t0 o) guess.x0
      (Trajectory.samples (Nat.max o.horizonSteps 2) problem.dims.nu guess.u) o.lineSearchInit

def solution (t : Vec α) (o : Options α) (it : Iterate α) : LocalSolution α :=
  ⟨t, it.x.flatten, it.u.flatten, it.cost, it.iterations, isStationary it o.gradientTolerance⟩

/-- Gradient descent on the controls of a shooting problem. Where `strict`, ending away from a stationary
point is an error. -/
def solver (strict : Bool) : LocalSolver α := fun problem guess o =>
  do match ← firstIterate problem guess o with
  | .error e => return .error e
  | .ok first =>
    let s := shooting problem guess.t0 o
    match ← descend s guess.x0 o o.maxGradientIterations first with
    | .error e => return .error e
    | .ok last =>
      let found := solution s.t o last
      if strict && !found.converged then return .error (.notConverged found.iterations)
      else return .ok found

end Gradient

end ConsensusControl
