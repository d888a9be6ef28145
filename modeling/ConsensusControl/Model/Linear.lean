import ConsensusControl.Model.Basic

namespace ConsensusControl

/-- `ẋ = A x + B u` with cost `Σ q (x - x_des)² + Σ r (u - u_des)²`, terminal weights `p` and optional
bounds on the control. -/
structure LinearAgent (α : Type) where
  name : String
  nx : Nat
  nu : Nat
  a : RowMatrix α
  b : RowMatrix α
  q : Vec α
  r : Vec α
  p : Vec α
  bounds : Option (Vec α × Vec α)

namespace LinearAgent

variable {α : Type} [Scalar α]

def requireSize (what : String) (values : Vec α) (expected : Nat) : Checked Unit :=
  Checked.require (values.length = expected) (.lengthMismatch what expected values.length)

/-- An agent with unit weights, from row-major `A` and `B`. -/
def ofRowMajor (a b : Vec α) (nx nu : Nat) : Checked (LinearAgent α) := do
  requireSize "state matrix" a (nx * nx)
  requireSize "control matrix" b (nx * nu)
  return ⟨"linear", nx, nu, .ofRowMajor nx nx a, .ofRowMajor nx nu b, List.replicate nx 1,
    List.replicate nu 1, List.replicate nx 1, none⟩

def withWeights (m : LinearAgent α) (q r p : Vec α) : Checked (LinearAgent α) := do
  requireSize "state weights" q m.nx
  requireSize "control weights" r m.nu
  requireSize "terminal weights" p m.nx
  return { m with q, r, p }

/-- Constrains the control to `lower ≤ u ≤ upper`. -/
def withControlBounds (m : LinearAgent α) (lower upper : Vec α) : Checked (LinearAgent α) := do
  requireSize "lower bounds" lower m.nu
  requireSize "upper bounds" upper m.nu
  return { m with bounds := some (lower, upper) }

def dynamics (m : LinearAgent α) : AgentMap α where
  value p out := m.b.addMul p.u (m.a.addMul p.x out)
  dx _ w out := m.a.addMulTransposed w out
  du _ w out := m.b.addMulTransposed w out

/-- The bounds as `[u - upper; lower - u] ≤ 0`. -/
def inequality (m : LinearAgent α) : AgentMap α :=
  match m.bounds with
  | none => .none
  | some (lower, upper) =>
    { value := fun p out =>
        Vec.add (List.zipWith (· - ·) p.u upper ++ List.zipWith (· - ·) lower p.u) out
      dx := fun _ _ out => out
      du := fun _ w out => Vec.add (List.zipWith (· - ·) (w.take m.nu) (w.drop m.nu)) out }

def toModel (m : LinearAgent α) : AgentModel α where
  name := m.name
  nx := m.nx
  nu := m.nu
  ng := 0
  nh := if m.bounds.isSome then 2 * m.nu else 0
  dynamics := m.dynamics
  stageCost p des := Vec.weightedDistance m.q p.x des.x + Vec.weightedDistance m.r p.u des.u
  stageCostDx p des out := Vec.addWeightedDistanceGrad m.q p.x des.x out
  stageCostDu p des out := Vec.addWeightedDistanceGrad m.r p.u des.u out
  terminalCost _ x des := Vec.weightedDistance m.p x des
  terminalCostDx _ x des out := Vec.addWeightedDistanceGrad m.p x des out
  equality := .none
  inequality := m.inequality

end LinearAgent

/-- `f_ij = A_ij x_j + B_ij u_j`. -/
structure LinearCoupling (α : Type) where
  a : RowMatrix α
  b : RowMatrix α

namespace LinearCoupling

variable {α : Type} [Scalar α]

def ofRowMajor (a b : Vec α) (nxi nxj nuj : Nat) : Checked (LinearCoupling α) := do
  LinearAgent.requireSize "state coupling" a (nxi * nxj)
  LinearAgent.requireSize "control coupling" b (nxi * nuj)
  return ⟨.ofRowMajor nxi nxj a, .ofRowMajor nxi nuj b⟩

def toModel (m : LinearCoupling α) : CouplingModel α where
  name := "linear coupling"
  ng := 0
  nh := 0
  dynamics :=
    { value := fun p out => m.b.addMul p.uj (m.a.addMul p.xj out)
      dxi := fun _ _ out => out
      dui := fun _ _ out => out
      dxj := fun _ w out => m.a.addMulTransposed w out
      duj := fun _ w out => m.b.addMulTransposed w out }
  equality := .none
  inequality := .none

end LinearCoupling

end ConsensusControl
