import ConsensusControl.Model.PowerGrid
import ConsensusControl.Network.Change

namespace ConsensusControl

/-- Power nodes in a circle, with a line between any two that stand side by side. -/
structure PowerRing (α : Type) where
  nodes : List (PowerNode α)
  line : PowerLine α

namespace PowerRing

variable {α : Type} [Trigonometric α]

/-- Nodes start at rest, which is also what they are steered to. -/
def nodeChanges (r : PowerRing α) : List (Change α) :=
  r.nodes.zipIdx.flatMap fun (node, id) =>
    [.registerAgent id node.toModel [0, 0] [0], .setDesired id [0, 0] [0]]

/-- Every node feeds the one in front of it and the one behind it. -/
def lineChanges (r : PowerRing α) : List (Change α) :=
  (List.range r.nodes.length).flatMap fun id =>
    let next := (id + 1) % r.nodes.length
    [.registerCoupling id next r.line.toModel, .registerCoupling next id r.line.toModel]

/-- Builds the ring up from an empty network. -/
def changes (r : PowerRing α) : List (Change α) := r.nodeChanges ++ r.lineChanges

end PowerRing

/-- Three nodes whose loads and generation balance. -/
def PowerRing.three : Except ConfigError (PowerRing Float) := do
  let supply : List (Float × Float) := [(1.0, 0.0), (0.0, 1.5), (0.5, 0.0)]
  let nodes ← supply.zipIdx.mapM fun ((load, generation), id) =>
    PowerNode.ofParameters [load, generation, 0.1, 100.0, 0.01] [1.0, 1.0, 1.0, 1.0, 0.1] s!"node {id}"
  return ⟨nodes, ← PowerLine.ofParameters [10.0, 0.1, 100.0]⟩

end ConsensusControl
