import ConsensusControl.Problem.Layout

namespace ConsensusControl

variable {α : Type} [Scalar α]

/-- One augmented-Lagrangian consensus term `μ r + ρ / 2 r²`. -/
def augmentedTerm (mu rho r : α) : α := mu * r + Scalar.half * rho * r * r

/-- Derivative of `augmentedTerm` in `r`. -/
def augmentedSlope (mu rho r : α) : α := mu + rho * r

/-- A consensus variable with its prices and weights at one time. -/
structure ConsensusSample (α : Type) where
  z : Vec α
  mu : Vec α
  rho : Vec α

namespace ConsensusSample

def control (t : α) (dim : Nat) (z : CouplingState α) (mu : MultiplierState α) (rho : PenaltyState α) :
    ConsensusSample α :=
  ⟨z.interpolateU dim t, mu.interpolateU dim t, rho.interpolateU dim t⟩

def influence (t : α) (dim : Nat) (z : CouplingState α) (mu : MultiplierState α)
    (rho : PenaltyState α) : ConsensusSample α :=
  ⟨z.interpolateV dim t, mu.interpolateV dim t, rho.interpolateV dim t⟩

/-- Applies `f mu rho (z - own)` entry by entry. -/
def entries (s : ConsensusSample α) (f : α → α → α → α) (own : Vec α) : Vec α :=
  List.zipWith (fun (c : α × α) (r : α) => f c.1 c.2 r) (s.mu.zip s.rho)
    (List.zipWith (· - ·) s.z own)

def cost (s : ConsensusSample α) (own : Vec α) : α := Scalar.sum (s.entries augmentedTerm own)

/-- Derivative of `cost` in the local value, negative since the residual is `z - own`. -/
def gradient (s : ConsensusSample α) (own : Vec α) : Vec α :=
  s.entries (fun mu rho r => -augmentedSlope mu rho r) own

def addGradient (s : ConsensusSample α) (own out : Vec α) : Vec α :=
  Vec.addScaled 1 (s.gradient own) out

end ConsensusSample

def Record.target {family : Family} (r : Record family α) (t : α) (nx nu : Nat) : Target α :=
  ⟨r.interpolateX nx t, r.interpolateU nu t⟩

namespace Neighbor

/-- Share of the neighbor's cost that each member of its neighborhood carries. -/
def costShare (nb : Neighbor α) : α := 1 / (1 + (nb.neighborCount : α))

def copiedControl (nb : Neighbor α) (t : α) : ConsensusSample α :=
  .control t nb.nu nb.couplingState nb.copyMultiplier nb.copyPenalty

def copiedInfluence (nb : Neighbor α) (t : α) : ConsensusSample α :=
  .influence t nb.nx nb.externalInfluence nb.copyMultiplier nb.copyPenalty

def target (nb : Neighbor α) (t : α) : Target α := nb.desired.target t nb.nx nb.nu

end Neighbor

namespace LocalProblem

def costShare (p : LocalProblem α) : α := 1 / (1 + (p.agent.neighbors.length : α))

def ownControl (p : LocalProblem α) (t : α) : ConsensusSample α :=
  .control t p.index.nuOwn p.agent.couplingState p.agent.multiplierState p.agent.penaltyState

def influenceSample (p : LocalProblem α) (t : α) (nb : Neighbor α) : ConsensusSample α :=
  .influence t p.index.nxOwn nb.influenceCoupling nb.influenceMultiplier nb.influencePenalty

def target (p : LocalProblem α) (t : α) : Target α :=
  p.agent.desired.target t p.index.nxOwn p.index.nuOwn

/-- Scales the own term and adds the neighbors' shares when their costs are folded in. -/
def foldCosts (p : LocalProblem α) (own : α) (cost : Neighbor α → NeighborBlock → α) : α :=
  if p.agent.approximation.cost then
    p.pairs.foldl (fun l (nb, b) => l + nb.costShare * cost nb b) (own * p.costShare)
  else own

def stageCost (p : LocalProblem α) (z : Point α) : α :=
  let own := p.agent.model.stageCost (p.ownPoint z) (p.target z.t)
  let folded := p.foldCosts own fun nb b =>
    nb.model.stageCost (Surroundings.copyPoint b z) (nb.target z.t)
  let controlled := folded + (p.ownControl z.t).cost (p.ownPoint z).u
  p.pairs.foldl (fun l (nb, b) =>
    let l := match p.neighborInfluence nb z with
      | none => l
      | some v => l + (p.influenceSample z.t nb).cost v
    l + (nb.copiedInfluence z.t).cost (b.v.read z.u) + (nb.copiedControl z.t).cost (b.u.read z.u))
    controlled

/-- Gradient counterpart of `foldCosts`, into the own block and the blocks chosen by `part`. -/
def foldGradients (p : LocalProblem α) (own : Block) (part : NeighborBlock → Block)
    (gradient : Neighbor α → NeighborBlock → Vec α) (out : Vec α) : Vec α :=
  if p.agent.approximation.cost then
    p.pairs.foldl (fun out (nb, b) =>
      (part b).update (Vec.addScaled nb.costShare (gradient nb b)) out)
      (own.update (·.map (· * p.costShare)) out)
  else out

def addStageCostDx (p : LocalProblem α) (z : Point α) (out : Vec α) : Vec α :=
  let own := p.index.ownX.update (p.agent.model.stageCostDx (p.ownPoint z) (p.target z.t)) out
  let folded := p.foldGradients p.index.ownX (·.x) (fun nb b =>
    nb.model.stageCostDx (Surroundings.copyPoint b z) (nb.target z.t) (Vec.zeros nb.nx)) own
  p.pairs.foldl (fun out (nb, _) => match p.neighborInfluence nb z with
    | none => out
    | some v => (p.surroundings nb).influenceDx z ((p.influenceSample z.t nb).gradient v) out) folded

def addStageCostDu (p : LocalProblem α) (z : Point α) (out : Vec α) : Vec α :=
  let own := p.index.ownU.update (p.agent.model.stageCostDu (p.ownPoint z) (p.target z.t)) out
  let folded := p.foldGradients p.index.ownU (·.u) (fun nb b =>
    nb.model.stageCostDu (Surroundings.copyPoint b z) (nb.target z.t) (Vec.zeros nb.nu)) own
  let controlled := p.index.ownU.update ((p.ownControl z.t).addGradient (p.ownPoint z).u) folded
  p.pairs.foldl (fun out (nb, b) =>
    let out := match p.neighborInfluence nb z with
      | none => out
      | some v => (p.surroundings nb).influenceDu z ((p.influenceSample z.t nb).gradient v) out
    let out := b.v.update ((nb.copiedInfluence z.t).addGradient (b.v.read z.u)) out
    b.u.update ((nb.copiedControl z.t).addGradient (b.u.read z.u)) out) controlled

def terminalCost (p : LocalProblem α) (t : α) (x : Vec α) : α :=
  let own := p.agent.model.terminalCost t (p.index.ownX.read x) (p.target t).x
  p.foldCosts own fun nb b => nb.model.terminalCost t (b.x.read x) (nb.target t).x

def addTerminalCostDx (p : LocalProblem α) (t : α) (x out : Vec α) : Vec α :=
  let own := p.index.ownX.update
    (p.agent.model.terminalCostDx t (p.index.ownX.read x) (p.target t).x) out
  p.foldGradients p.index.ownX (·.x) (fun nb b =>
    nb.model.terminalCostDx t (b.x.read x) (nb.target t).x (Vec.zeros nb.nx)) own

end LocalProblem

end ConsensusControl
