import ConsensusControl.Solver.Basic

namespace ConsensusControl

/-- A problem on a time grid with `x_{k+1} = x_k + dt f(t_k, x_k, u_k)`. Constraints are charged
quadratically with the weight `penalty`. -/
structure Shooting (α : Type) where
  problem : Problem α
  t : Vec α
  dt : α
  penalty : α

namespace Shooting

variable {α : Type} [Scalar α]

def finite (xs : Vec α) : Bool := xs.all Scalar.isFinite

/-- States from sample `k` on, under the controls of the same samples. -/
def simulateFrom (s : Shooting α) (k : Nat) (x : Vec α) :
    List (α × Vec α) → Except SolveError (List (Vec α))
  | [] => .ok []
  | [_] => .ok [x]
  | (t, u) :: rest => do
    let next := List.zipWith (fun x f => x + s.dt * f) x (s.problem.dynamics ⟨t, x, u⟩)
    let sample := k + 1
    if finite next then
      return x :: (← simulateFrom s sample next rest)
    else throw (.numericalFailure s!"state trajectory diverged at sample {sample}")

/-- One state per control. -/
def simulate (s : Shooting α) (x0 : Vec α) (u : List (Vec α)) : Except SolveError (List (Vec α)) :=
  s.simulateFrom 0 x0 (s.t.zip u)

def points (s : Shooting α) (x u : List (Vec α)) : List (Point α) :=
  List.zipWith (fun t (p : Vec α × Vec α) => ⟨t, p.1, p.2⟩) s.t (x.zip u)

def constraintValues (s : Shooting α) (kind : ConstraintKind) (p : Point α) : Vec α :=
  if 0 < s.penalty ∧ 0 < s.problem.dims.constraintCount kind then s.problem.constraints kind p
  else Vec.zeros (s.problem.dims.constraintCount kind)

/-- What is charged at one sample: the equalities' values and the inequalities' excess over zero. -/
def residuals (s : Shooting α) : ConstraintKind → Point α → Vec α
  | .equality, p => s.constraintValues .equality p
  | .inequality, p => (s.constraintValues .inequality p).map (Scalar.max · 0)

def stageCost (s : Shooting α) (p : Point α) : α :=
  let g := s.residuals .equality p
  let h := s.residuals .inequality p
  s.problem.stageCost p + Scalar.half * s.penalty * (Vec.dot g g + Vec.dot h h)

def cost (s : Shooting α) (x u : List (Vec α)) : Except SolveError α :=
  let ps := s.points x u
  let stages := ps.foldl (fun cost p => cost + s.dt * s.stageCost p) 0
  let cost := match ps.getLast? with
    | none => stages
    | some p => stages + s.problem.terminalCost p.t p.x
  if Scalar.isFinite cost then .ok cost else .error (.numericalFailure "cost is not finite")

/-- Adds the gradient of the charge for one kind of constraints. -/
def addCharge (s : Shooting α) (kind : ConstraintKind) (p : Point α) (g : Vec α × Vec α) :
    Vec α × Vec α :=
  let r := s.residuals kind p
  if r.any (fun v => !(v == 0)) then
    (Vec.addScaled s.penalty (s.problem.constraintsDx kind p r) g.1,
      Vec.addScaled s.penalty (s.problem.constraintsDu kind p r) g.2)
  else g

/-- Gradients of the stage cost in state and control, charges included. -/
def stageGradient (s : Shooting α) (p : Point α) : Checked (Vec α × Vec α) := do
  let lx ← s.problem.stageCostDx p
  let lu ← s.problem.stageCostDu p
  return s.addCharge .inequality p (s.addCharge .equality p (lx, lu))

/-- Adjoint of the first of the given samples and the control gradients of all of them. -/
def adjoint (s : Shooting α) : List (Point α) → Checked (Vec α × List (Vec α))
  | [] => .ok ([], [])
  | [p] => do
    let last ← s.problem.terminalCostDx p.t p.x
    let (lx, lu) ← s.stageGradient p
    return (Vec.addScaled s.dt lx last, [Vec.addScaled s.dt lu (Vec.zeros s.problem.dims.nu)])
  | p :: rest => do
    let (lambda, grads) ← adjoint s rest
    let (lx, lu) ← s.stageGradient p
    let g := Vec.addScaled s.dt (s.problem.dynamicsDu p lambda)
      (Vec.addScaled s.dt lu (Vec.zeros s.problem.dims.nu))
    return (Vec.addScaled s.dt lx (Vec.addScaled s.dt (s.problem.dynamicsDx p lambda) lambda),
      g :: grads)

/-- Gradient of the cost in every control sample. -/
def gradient (s : Shooting α) (x u : List (Vec α)) : Checked (Except SolveError (List (Vec α))) := do
  let (_, grads) ← s.adjoint (s.points x u)
  if grads.all finite then return .ok grads
  else return .error (.numericalFailure "gradient is not finite")

end Shooting

end ConsensusControl
