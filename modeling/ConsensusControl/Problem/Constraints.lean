import ConsensusControl.Problem.Layout

namespace ConsensusControl

/-- A source of constraints: the agent, the coupling of a sending neighbor, a neighbor's own
constraints, or the copied coupling of a receiving neighbor. -/
inductive ConstraintGroup (α : Type)
  | own (model : AgentModel α)
  | coupling (model : CouplingModel α) (block : NeighborBlock)
  | neighbor (model : AgentModel α) (block : NeighborBlock)
  | copiedCoupling (model : CouplingModel α) (block : NeighborBlock)

namespace ConstraintGroup

variable {α : Type}

def count (kind : ConstraintKind) : ConstraintGroup α → Nat
  | own m | neighbor m _ => m.constraintCount kind
  | coupling f _ | copiedCoupling f _ => f.constraintCount kind

/-- Groups without constraints take no room; the others follow one another. -/
def place (kind : ConstraintKind) (offset : Nat) :
    List (ConstraintGroup α) → List (ConstraintGroup α × Block)
  | [] => []
  | g :: rest =>
    let n := g.count kind
    if n = 0 then place kind offset rest else (g, ⟨offset, n⟩) :: place kind (offset + n) rest

end ConstraintGroup

namespace LocalProblem

variable {α : Type} [Scalar α]

def neighborGroups (p : LocalProblem α) (nb : Neighbor α) (b : NeighborBlock) :
    List (ConstraintGroup α) :=
  (nb.relation.sending.map (.coupling · b)).toList ++
    if p.agent.approximation.constraints then
      .neighbor nb.model b :: (nb.relation.receiving.map (.copiedCoupling · b)).toList
    else []

/-- All groups with their places in the constraint vector: own constraints first, then neighbor by
neighbor. -/
def constraintGroups (p : LocalProblem α) (kind : ConstraintKind) :
    List (ConstraintGroup α × Block) :=
  ConstraintGroup.place kind 0 (.own p.agent.model :: p.pairs.flatMap fun (nb, b) => p.neighborGroups nb b)

def addConstraints (p : LocalProblem α) (kind : ConstraintKind) (z : Point α) (out : Vec α) : Vec α :=
  (p.constraintGroups kind).foldl (fun out (group, place) => place.update (match group with
    | .own m => (m.constraints kind).value (p.ownPoint z)
    | .coupling f b => (f.constraints kind).value (p.sendingPoint b z)
    | .neighbor m b => (m.constraints kind).value (Surroundings.copyPoint b z)
    | .copiedCoupling f b => (f.constraints kind).value (p.receivingPoint b z)) out) out

def addConstraintsDx (p : LocalProblem α) (kind : ConstraintKind) (z : Point α) (w out : Vec α) :
    Vec α :=
  (p.constraintGroups kind).foldl (fun out (group, place) =>
    let w := place.read w
    match group with
    | .own m => p.index.ownX.update ((m.constraints kind).dx (p.ownPoint z) w) out
    | .coupling f b =>
      let out := p.index.ownX.update ((f.constraints kind).dxi (p.sendingPoint b z) w) out
      b.x.update ((f.constraints kind).dxj (p.sendingPoint b z) w) out
    | .neighbor m b => b.x.update ((m.constraints kind).dx (Surroundings.copyPoint b z) w) out
    | .copiedCoupling f b =>
      let out := b.x.update ((f.constraints kind).dxi (p.receivingPoint b z) w) out
      p.index.ownX.update ((f.constraints kind).dxj (p.receivingPoint b z) w) out) out

def addConstraintsDu (p : LocalProblem α) (kind : ConstraintKind) (z : Point α) (w out : Vec α) :
    Vec α :=
  (p.constraintGroups kind).foldl (fun out (group, place) =>
    let w := place.read w
    match group with
    | .own m => p.index.ownU.update ((m.constraints kind).du (p.ownPoint z) w) out
    | .coupling f b =>
      let out := p.index.ownU.update ((f.constraints kind).dui (p.sendingPoint b z) w) out
      b.u.update ((f.constraints kind).duj (p.sendingPoint b z) w) out
    | .neighbor m b => b.u.update ((m.constraints kind).du (Surroundings.copyPoint b z) w) out
    | .copiedCoupling f b =>
      let out := b.u.update ((f.constraints kind).dui (p.receivingPoint b z) w) out
      p.index.ownU.update ((f.constraints kind).duj (p.receivingPoint b z) w) out) out

end LocalProblem

end ConsensusControl
