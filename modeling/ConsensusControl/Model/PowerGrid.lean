import ConsensusControl.Error
import ConsensusControl.Model.Basic

namespace ConsensusControl

def expectValues {α : Type} (name : String) (values : Vec α) (expected : Nat) :
    Except ConfigError Unit :=
  let actual := values.length
  if actual = expected then .ok ()
  else .error (.invalidOption name s!"expected {expected} values, got {actual}")

/-- A generator or consumer with phase angle `θ` and frequency deviation `ω`:
`θ̇ = ω` and `ω̇ = -(2κ / I) ω + (P₀ - p + u) / (I Ω)`. -/
structure PowerNode (α : Type) where
  name : String
  load : α
  generation : α
  inertia : α
  frequency : α
  damping : α
  terminal : Vec α
  state : Vec α
  control : Vec α

namespace PowerNode

variable {α : Type} [Scalar α]

/-- From `[p, P₀, I, Ω, κ]` and the weights `[P0, P1, Q0, Q1, R0]`. -/
def ofParameters (model cost : Vec α) (name : String) : Except ConfigError (PowerNode α) := do
  expectValues "smart grid model parameters" model 5
  expectValues "smart grid cost parameters" cost 5
  let inertia := model.getD 2 0
  let frequency := model.getD 3 0
  if inertia ≤ 0 ∨ frequency ≤ 0 then
    throw (.invalidOption "smart grid model parameters"
      "inertia and nominal frequency must be positive")
  return ⟨name, model.getD 0 0, model.getD 1 0, inertia, frequency, model.getD 4 0, cost.take 2,
    (cost.drop 2).take 2, cost.drop 4⟩

def controlGain (m : PowerNode α) : α := 1 / (m.inertia * m.frequency)

def dynamics (m : PowerNode α) : AgentMap α where
  value p out :=
    let ω := p.x.getD 1 0
    let ω' := -Scalar.two * m.damping / m.inertia * ω +
      (m.generation - m.load + p.u.getD 0 0) * m.controlGain
    (out.modify 0 (· + ω)).modify 1 (· + ω')
  dx _ w out :=
    out.modify 1 (· + (w.getD 0 0 - Scalar.two * m.damping / m.inertia * w.getD 1 0))
  du _ w out := out.modify 0 (· + m.controlGain * w.getD 1 0)

def toModel (m : PowerNode α) : AgentModel α where
  name := m.name
  nx := 2
  nu := 1
  ng := 0
  nh := 0
  dynamics := m.dynamics
  stageCost p des :=
    Vec.weightedDistance m.state p.x des.x + Vec.weightedDistance m.control p.u des.u
  stageCostDx p des out := Vec.addWeightedDistanceGrad m.state p.x des.x out
  stageCostDu p des out := Vec.addWeightedDistanceGrad m.control p.u des.u out
  terminalCost _ x des := Vec.weightedDistance m.terminal x des
  terminalCostDx _ x des out := Vec.addWeightedDistanceGrad m.terminal x des out
  equality := .none
  inequality := .none

end PowerNode

/-- Power flow over a line from node `j` to node `i`: `ω̇_i += P_max / (I Ω) · sin (θ_j - θ_i)`. A
capacity `F` bounds the flow by `|P_max sin (θ_j - θ_i)| ≤ F`. -/
structure PowerLine (α : Type) where
  maxPower : α
  inertia : α
  frequency : α
  capacity : Option α

namespace PowerLine

variable {α : Type}

/-- From `[P_max, I, Ω]`, where `I` and `Ω` belong to the receiving node. -/
def ofParameters [Scalar α] (params : Vec α) : Except ConfigError (PowerLine α) := do
  expectValues "smart grid coupling parameters" params 3
  let inertia := params.getD 1 0
  let frequency := params.getD 2 0
  if inertia ≤ 0 ∨ frequency ≤ 0 then
    throw (.invalidOption "smart grid coupling parameters"
      "inertia and nominal frequency must be positive")
  return ⟨params.getD 0 0, inertia, frequency, none⟩

def withCapacity (m : PowerLine α) (capacity : α) : PowerLine α := { m with capacity := some capacity }

variable [Trigonometric α]

def gain (m : PowerLine α) : α := m.maxPower / (m.inertia * m.frequency)

def angle (p : PairPoint α) : α := p.xj.getD 0 0 - p.xi.getD 0 0

def dynamics (m : PowerLine α) : PairMap α where
  value p out := out.modify 1 (· + m.gain * Trigonometric.sin (angle p))
  dxi p w out := out.modify 0 (· - m.gain * Trigonometric.cos (angle p) * w.getD 1 0)
  dui _ _ out := out
  dxj p w out := out.modify 0 (· + m.gain * Trigonometric.cos (angle p) * w.getD 1 0)
  duj _ _ out := out

def inequality (m : PowerLine α) : PairMap α :=
  match m.capacity with
  | none => .none
  | some capacity =>
    let slope (p : PairPoint α) := m.maxPower * Trigonometric.cos (angle p)
    { value := fun p out =>
        let flow := m.maxPower * Trigonometric.sin (angle p)
        (out.modify 0 (· + (flow - capacity))).modify 1 (· + (-flow - capacity))
      dxi := fun p w out => out.modify 0 (· + -slope p * (w.getD 0 0 - w.getD 1 0))
      dui := fun _ _ out => out
      dxj := fun p w out => out.modify 0 (· + slope p * (w.getD 0 0 - w.getD 1 0))
      duj := fun _ _ out => out }

def toModel (m : PowerLine α) : CouplingModel α where
  name := "power line"
  ng := 0
  nh := if m.capacity.isSome then 2 else 0
  dynamics := m.dynamics
  equality := .none
  inequality := m.inequality

end PowerLine

end ConsensusControl
