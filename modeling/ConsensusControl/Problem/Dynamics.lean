import ConsensusControl.Problem.Layout

namespace ConsensusControl.LocalProblem

variable {α : Type} [Scalar α]

def addDynamics (p : LocalProblem α) (z : Point α) (out : Vec α) : Vec α :=
  let own := p.index.ownX.update (p.agent.model.dynamics.value (p.ownPoint z)) out
  p.pairs.foldl (fun out (nb, b) =>
    let out := match nb.relation.sending with
      | none => out
      | some f => p.index.ownX.update (f.dynamics.value (p.sendingPoint b z)) out
    if nb.approximated then (p.surroundings nb).dynamics z out else out) own

def addDynamicsDx (p : LocalProblem α) (z : Point α) (w out : Vec α) : Vec α :=
  let wi := p.index.ownX.read w
  let own := p.index.ownX.update (p.agent.model.dynamics.dx (p.ownPoint z) wi) out
  p.pairs.foldl (fun out (nb, b) =>
    let out := match nb.relation.sending with
      | none => out
      | some f =>
        let out := p.index.ownX.update (f.dynamics.dxi (p.sendingPoint b z) wi) out
        b.x.update (f.dynamics.dxj (p.sendingPoint b z) wi) out
    if nb.approximated then (p.surroundings nb).dynamicsDx z w out else out) own

def addDynamicsDu (p : LocalProblem α) (z : Point α) (w out : Vec α) : Vec α :=
  let wi := p.index.ownX.read w
  let own := p.index.ownU.update (p.agent.model.dynamics.du (p.ownPoint z) wi) out
  p.pairs.foldl (fun out (nb, b) =>
    let out := match nb.relation.sending with
      | none => out
      | some f =>
        let out := p.index.ownU.update (f.dynamics.dui (p.sendingPoint b z) wi) out
        b.u.update (f.dynamics.duj (p.sendingPoint b z) wi) out
    if nb.approximated then (p.surroundings nb).dynamicsDu z w out else out) own

end ConsensusControl.LocalProblem
