import ConsensusControl.Agent

namespace ConsensusControl

/-- What the prediction of one neighbor may look at. -/
structure Surroundings (α : Type) where
  neighbor : Neighbor α
  /-- All neighbors of the agent, in the order of the blocks. -/
  neighbors : List (Neighbor α)
  index : IndexMap

namespace Surroundings

variable {α : Type} [Scalar α]

/-- The point at which the agent couples into the neighbor with the given block. -/
def receivingPoint (s : Surroundings α) (b : NeighborBlock) (p : Point α) : PairPoint α :=
  ⟨p.t, b.x.read p.x, b.u.read p.u, s.index.ownX.read p.x, s.index.ownU.read p.u⟩

/-- The point at which the neighbor with the given block couples into the agent. -/
def sendingPoint (s : Surroundings α) (b : NeighborBlock) (p : Point α) : PairPoint α :=
  ⟨p.t, s.index.ownX.read p.x, s.index.ownU.read p.u, b.x.read p.x, b.u.read p.u⟩

def copyPoint (b : NeighborBlock) (p : Point α) : Point α := ⟨p.t, b.x.read p.x, b.u.read p.u⟩

def block? (s : Surroundings α) : Option NeighborBlock := s.index.block? s.neighbor.id

/-- The copy of neighbor `j` moves with `ẋ_ji = f_j(x_ji, u_ji) + v_ji + f_ji(x_ji, u_ji, x_i, u_i)`, where
`f_ji` counts if `j` is receiving. -/
def dynamics (s : Surroundings α) (p : Point α) (out : Vec α) : Vec α :=
  match s.block? with
  | none => out
  | some b => b.x.update (fun out =>
      let own := Vec.add (b.v.read p.u) (s.neighbor.model.dynamics.value (copyPoint b p) out)
      match s.neighbor.relation.receiving with
      | none => own
      | some f => f.dynamics.value (s.receivingPoint b p) own) out

def dynamicsDx (s : Surroundings α) (p : Point α) (w out : Vec α) : Vec α :=
  match s.block? with
  | none => out
  | some b =>
    let wj := b.x.read w
    let out := b.x.update (s.neighbor.model.dynamics.dx (copyPoint b p) wj) out
    match s.neighbor.relation.receiving with
    | none => out
    | some f =>
      let out := b.x.update (f.dynamics.dxi (s.receivingPoint b p) wj) out
      s.index.ownX.update (f.dynamics.dxj (s.receivingPoint b p) wj) out

def dynamicsDu (s : Surroundings α) (p : Point α) (w out : Vec α) : Vec α :=
  match s.block? with
  | none => out
  | some b =>
    let wj := b.x.read w
    let out := b.u.update (s.neighbor.model.dynamics.du (copyPoint b p) wj) out
    let out := b.v.update (Vec.add wj) out
    match s.neighbor.relation.receiving with
    | none => out
    | some f =>
      let out := b.u.update (f.dynamics.dui (s.receivingPoint b p) wj) out
      s.index.ownU.update (f.dynamics.duj (s.receivingPoint b p) wj) out

/-- Sending models of the other neighbors with their blocks. -/
def others (s : Surroundings α) : List (CouplingModel α × NeighborBlock) :=
  (s.neighbors.zip s.index.blocks).filterMap fun (k, b) =>
    if k.id == s.neighbor.id then none else k.relation.sending.map (·, b)

/-- The influence on the agent from everyone but `j`, `v_ij = Σ_{k ≠ j} f_ik(x_i, u_i, x_ki, u_ki)` over the
sending neighbors `k`. -/
def influence (s : Surroundings α) (p : Point α) (out : Vec α) : Vec α :=
  s.others.foldl (fun out (f, b) => f.dynamics.value (s.sendingPoint b p) out) out

def influenceDx (s : Surroundings α) (p : Point α) (w out : Vec α) : Vec α :=
  s.others.foldl (fun out (f, b) =>
    let out := s.index.ownX.update (f.dynamics.dxi (s.sendingPoint b p) w) out
    b.x.update (f.dynamics.dxj (s.sendingPoint b p) w) out) out

def influenceDu (s : Surroundings α) (p : Point α) (w out : Vec α) : Vec α :=
  s.others.foldl (fun out (f, b) =>
    let out := s.index.ownU.update (f.dynamics.dui (s.sendingPoint b p) w) out
    b.u.update (f.dynamics.duj (s.sendingPoint b p) w) out) out

end Surroundings

end ConsensusControl
