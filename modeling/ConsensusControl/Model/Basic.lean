import ConsensusControl.Vec

namespace ConsensusControl

/-- Where an agent's functions are evaluated. -/
structure Point (α : Type) where
  t : α
  x : Vec α
  u : Vec α

/-- Where a coupling is evaluated: `i` is the agent whose dynamics the coupling enters. -/
structure PairPoint (α : Type) where
  t : α
  xi : Vec α
  ui : Vec α
  xj : Vec α
  uj : Vec α

/-- Desired state and control at one time. -/
structure Target (α : Type) where
  x : Vec α
  u : Vec α

/-- A vector function of an agent's state and control with its transposed Jacobians. Each member adds
into its last argument; `dx p w` adds `(∂/∂x)ᵀ w`. -/
structure AgentMap (α : Type) where
  value : Point α → Vec α → Vec α
  dx : Point α → Vec α → Vec α → Vec α
  du : Point α → Vec α → Vec α → Vec α

/-- A vector function of both sides of a coupling with its transposed Jacobians. -/
structure PairMap (α : Type) where
  value : PairPoint α → Vec α → Vec α
  dxi : PairPoint α → Vec α → Vec α → Vec α
  dui : PairPoint α → Vec α → Vec α → Vec α
  dxj : PairPoint α → Vec α → Vec α → Vec α
  duj : PairPoint α → Vec α → Vec α → Vec α

namespace AgentMap

def none {α : Type} : AgentMap α := ⟨fun _ out => out, fun _ _ out => out, fun _ _ out => out⟩

end AgentMap

namespace PairMap

def none {α : Type} : PairMap α :=
  ⟨fun _ out => out, fun _ _ out => out, fun _ _ out => out, fun _ _ out => out, fun _ _ out => out⟩

end PairMap

/-- Which constraints are meant: `g = 0` or `h ≤ 0`. -/
inductive ConstraintKind
  | equality
  | inequality
  deriving DecidableEq, Repr

/-- Dynamics, cost and constraints of one agent. -/
structure AgentModel (α : Type) where
  name : String
  nx : Nat
  nu : Nat
  ng : Nat
  nh : Nat
  dynamics : AgentMap α
  stageCost : Point α → Target α → α
  stageCostDx : Point α → Target α → Vec α → Vec α
  stageCostDu : Point α → Target α → Vec α → Vec α
  terminalCost : (t : α) → (x desired : Vec α) → α
  terminalCostDx : (t : α) → (x desired out : Vec α) → Vec α
  equality : AgentMap α
  inequality : AgentMap α

namespace AgentModel

def constraints {α : Type} (m : AgentModel α) : ConstraintKind → AgentMap α
  | .equality => m.equality
  | .inequality => m.inequality

def constraintCount {α : Type} (m : AgentModel α) : ConstraintKind → Nat
  | .equality => m.ng
  | .inequality => m.nh

end AgentModel

/-- Influence of a neighbor `j` on the dynamics and constraints of an agent `i`. -/
structure CouplingModel (α : Type) where
  name : String
  ng : Nat
  nh : Nat
  dynamics : PairMap α
  equality : PairMap α
  inequality : PairMap α

namespace CouplingModel

def constraints {α : Type} (m : CouplingModel α) : ConstraintKind → PairMap α
  | .equality => m.equality
  | .inequality => m.inequality

def constraintCount {α : Type} (m : CouplingModel α) : ConstraintKind → Nat
  | .equality => m.ng
  | .inequality => m.nh

end CouplingModel

end ConsensusControl
