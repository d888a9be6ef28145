import ConsensusControl.Prediction
import ConsensusControl.Problem.Basic

namespace ConsensusControl

/-- Index map and constraint counts of an agent's extended problem. -/
structure Layout where
  index : IndexMap
  ng : Nat
  nh : Nat
  deriving DecidableEq, Repr

namespace Agent

variable {α : Type} [Scalar α]

def neighborConstraintCount (a : Agent α) (kind : ConstraintKind) (nb : Neighbor α) : Nat :=
  let count (f : Option (CouplingModel α)) := (f.map (·.constraintCount kind)).getD 0
  count nb.relation.sending +
    if a.approximation.constraints then
      nb.model.constraintCount kind + count nb.relation.receiving
    else 0

/-- Constraints of one kind in the extended problem. -/
def constraintCount (a : Agent α) (kind : ConstraintKind) : Nat :=
  a.neighbors.foldl (fun n nb => n + a.neighborConstraintCount kind nb) (a.model.constraintCount kind)

def layout (a : Agent α) : Except ConfigError Layout := do
  let index ← a.indexMap
  return ⟨index, a.constraintCount .equality, a.constraintCount .inequality⟩

end Agent

namespace Layout

def dims (l : Layout) : Dimensions := ⟨l.index.nx, l.index.nu, l.ng, l.nh⟩

end Layout

/-- An agent's extended problem: the agent with a layout of its neighbors. -/
structure LocalProblem (α : Type) where
  agent : Agent α
  layout : Layout

namespace LocalProblem

variable {α : Type} [Scalar α]

/-- Pairs an agent with a layout of the same neighbors in the same order. -/
def of (agent : Agent α) (layout : Layout) : Checked (LocalProblem α) := do
  Checked.require (agent.neighborIds = layout.index.blocks.map (·.id)) (.staleLayout agent.id)
  return ⟨agent, layout⟩

def index (p : LocalProblem α) : IndexMap := p.layout.index

def pairs (p : LocalProblem α) : List (Neighbor α × NeighborBlock) :=
  p.agent.neighbors.zip p.index.blocks

def surroundings (p : LocalProblem α) (nb : Neighbor α) : Surroundings α :=
  ⟨nb, p.agent.neighbors, p.index⟩

def ownPoint (p : LocalProblem α) (z : Point α) : Point α :=
  ⟨z.t, p.index.ownX.read z.x, p.index.ownU.read z.u⟩

/-- The point at which a neighbor couples into the agent. -/
def sendingPoint (p : LocalProblem α) (b : NeighborBlock) (z : Point α) : PairPoint α :=
  ⟨z.t, p.index.ownX.read z.x, p.index.ownU.read z.u, b.x.read z.x, b.u.read z.u⟩

/-- The point at which the agent couples into a neighbor. -/
def receivingPoint (p : LocalProblem α) (b : NeighborBlock) (z : Point α) : PairPoint α :=
  ⟨z.t, b.x.read z.x, b.u.read z.u, p.index.ownX.read z.x, p.index.ownU.read z.u⟩

/-- `v_ij`, for a predicted neighbor. -/
def neighborInfluence (p : LocalProblem α) (nb : Neighbor α) (z : Point α) : Option (Vec α) :=
  if nb.approximated then some ((p.surroundings nb).influence z (Vec.zeros p.agent.nx)) else none

def influence (p : LocalProblem α) (id : AgentId) (z : Point α) : Option (Vec α) :=
  (p.agent.neighbor? id).bind (p.neighborInfluence · z)

end LocalProblem

end ConsensusControl
