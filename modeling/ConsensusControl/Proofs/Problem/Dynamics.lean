import ConsensusControl.Problem.Extended
import ConsensusControl.Proofs.Model
import ConsensusControl.Proofs.Problem.Layout

namespace ConsensusControl.LocalProblem

/-- All neighbors are predicted, and all models add to vectors of their dimension. -/
structure Fits (p : LocalProblem Rat) : Prop where
  indexed : p.Indexed
  nodup : p.agent.neighborIds.Nodup
  approximated : ∀ nb ∈ p.agent.neighbors, nb.approximated = true
  adds : p.agent.model.dynamics.Adds p.agent.nx
  sending : ∀ nb ∈ p.agent.neighbors, ∀ f, nb.relation.sending = some f → f.dynamics.Adds p.agent.nx
  models : ∀ nb ∈ p.agent.neighbors, nb.model.dynamics.Adds nb.nx
  receiving : ∀ nb ∈ p.agent.neighbors, ∀ f, nb.relation.receiving = some f → f.dynamics.Adds nb.nx

variable (p : LocalProblem Rat) (z : Point Rat)

/-- Adds what a neighbor sends to the agent. -/
def couple (own : Vec Rat) (q : Neighbor Rat × NeighborBlock) : Vec Rat :=
  match q.1.relation.sending with
  | none => own
  | some f => f.dynamics.value (p.sendingPoint q.2 z) own

/-- Adds what a neighbor is predicted to move with. -/
def predict (q : Neighbor Rat × NeighborBlock) (copy : Vec Rat) : Vec Rat :=
  let own := Vec.add (q.2.v.read z.u) (q.1.model.dynamics.value ⟨z.t, q.2.x.read z.x, q.2.u.read z.u⟩ copy)
  match q.1.relation.receiving with
  | none => own
  | some f => f.dynamics.value (p.receivingPoint q.2 z) own

/-- One neighbor's part of the extended dynamics. -/
def turn (out : Vec Rat) (q : Neighbor Rat × NeighborBlock) : Vec Rat :=
  q.2.x.update (p.predict z q) (p.index.ownX.update (p.couple z · q) out)

variable {p} {z}

namespace Fits

variable {q : Neighbor Rat × NeighborBlock}

theorem adds_couple (h : p.Fits) (hq : q ∈ p.pairs) : Vec.Adds p.agent.nx (p.couple z · q) := by
  unfold couple
  split
  · exact .same _
  · next f hf => exact h.sending q.1 (List.of_mem_zip hq).1 f hf _

theorem adds_predict (h : p.Fits) (hq : q ∈ p.pairs) : Vec.Adds q.1.nx (p.predict z q) := by
  have hmem := (List.of_mem_zip hq).1
  have hown := (Vec.adds_add q.1.nx (q.2.v.read z.u)).comp
    (h.models q.1 hmem ⟨z.t, q.2.x.read z.x, q.2.u.read z.u⟩)
  unfold predict
  split
  · exact hown
  · next f hf => exact (h.receiving q.1 hmem f hf _).comp hown

theorem addDynamics_eq (h : p.Fits) (out : Vec Rat) :
    p.addDynamics z out = p.pairs.foldl (p.turn z)
      (p.index.ownX.update (p.agent.model.dynamics.value (p.ownPoint z)) out) := by
  refine List.foldl_ext _ _ _ fun out q hq => ?_
  have hblock : (p.surroundings q.1).block? = some q.2 := h.indexed.block?_of_mem hq
  have hpredict : ∀ out, (p.surroundings q.1).dynamics z out = q.2.x.update (p.predict z q) out := by
    intro out
    unfold Surroundings.dynamics
    rw [hblock]
    refine congrArg (q.2.x.update · out) (funext fun copy => ?_)
    dsimp only [predict, surroundings]
    cases q.1.relation.receiving <;> rfl
  dsimp only
  rw [if_pos (h.approximated q.1 (List.of_mem_zip hq).1), hpredict]
  refine congrArg (q.2.x.update (p.predict z q)) ?_
  unfold couple
  cases q.1.relation.sending with
  | none => exact (Block.update_same _ _).symm
  | some f => rfl

/-- A neighbor's turn changes the agent's own block and the neighbor's. -/
theorem turn_spec (h : p.Fits) (hq : q ∈ p.pairs) {out : Vec Rat} (hout : out.length = p.index.nx) :
    (p.turn z out q).length = p.index.nx ∧
      p.index.ownX.read (p.turn z out q) = p.couple z (p.index.ownX.read out) q ∧
      q.2.x.read (p.turn z out q) = p.predict z q (q.2.x.read out) ∧
      ∀ c : Block, p.index.ownX.Apart c → q.2.x.Apart c → c.read (p.turn z out q) = c.read out := by
  obtain ⟨hapart, hstop⟩ := h.indexed.within hq
  have hsize := (h.indexed.sizes hq).1
  have hown : p.index.ownX.size = p.agent.nx := h.indexed.nxOwn
  have hownStop : p.index.ownX.stop ≤ out.length := by
    rw [hout, h.indexed.ownX_stop]
    exact h.indexed.tiles.1.le
  have hread : (p.index.ownX.read out).length = p.agent.nx :=
    (Block.length_read_of_stop hownStop).trans hown
  have hcoupled : (p.couple z (p.index.ownX.read out) q).length = (p.index.ownX.read out).length :=
    ((h.adds_couple hq).length hread).trans hread.symm
  have hlength : (p.index.ownX.update (p.couple z · q) out).length = out.length :=
    Block.length_update _ hcoupled
  have hother : ∀ c : Block, p.index.ownX.Apart c →
      c.read (p.index.ownX.update (p.couple z · q) out) = c.read out := fun c hc =>
    Block.read_update_apart hc hownStop (hcoupled.trans (hread.trans hown.symm))
  have hstop' : q.2.x.stop ≤ (p.index.ownX.update (p.couple z · q) out).length := by
    rwa [hlength, hout]
  have hcopy : (q.2.x.read (p.index.ownX.update (p.couple z · q) out)).length = q.1.nx :=
    (Block.length_read_of_stop hstop').trans hsize
  have hpredicted := (h.adds_predict (z := z) hq).length hcopy
  unfold turn
  refine ⟨?_, ?_, ?_, fun c hc hc' => ?_⟩
  · rw [Block.length_update _ (hpredicted.trans hcopy.symm), hlength, hout]
  · rw [Block.read_update_apart hapart.symm hstop' (hpredicted.trans hsize.symm)]
    exact Block.read_update _ hcoupled hownStop
  · rw [Block.read_update _ (hpredicted.trans hcopy.symm) hstop', hother _ hapart]
  · rw [Block.read_update_apart hc' hstop' (hpredicted.trans hsize.symm), hother c hc]

/-- After the turns of some neighbors, everybody's block has what is due to it. -/
theorem foldl_turn (h : p.Fits) {qs : List (Neighbor Rat × NeighborBlock)} (hqs : ∀ q ∈ qs, q ∈ p.pairs)
    (hapart : qs.Pairwise fun q r => q.2.x.Apart r.2.x) {out : Vec Rat}
    (hout : out.length = p.index.nx) :
    p.index.ownX.read (qs.foldl (p.turn z) out) = qs.foldl (p.couple z) (p.index.ownX.read out) ∧
      (∀ q ∈ qs, q.2.x.read (qs.foldl (p.turn z) out) = p.predict z q (q.2.x.read out)) ∧
      ∀ c : Block, p.index.ownX.Apart c → (∀ q ∈ qs, q.2.x.Apart c) →
        c.read (qs.foldl (p.turn z) out) = c.read out := by
  induction qs generalizing out with
  | nil => simp
  | cons q qs ih =>
    obtain ⟨hq, hqs⟩ := List.forall_mem_cons.mp hqs
    obtain ⟨hfirst, hapart⟩ := List.pairwise_cons.mp hapart
    obtain ⟨hlength, hown, hcopy, hother⟩ := h.turn_spec (z := z) hq hout
    obtain ⟨hrestOwn, hrestCopy, hrestOther⟩ := ih hqs hapart hlength
    simp only [List.foldl_cons]
    refine ⟨?_, ?_, fun c hc hqc => ?_⟩
    · rw [hrestOwn, hown]
    · intro r h
      obtain _ | ⟨_, hr⟩ := h
      · rw [hrestOther _ (h.indexed.within hq).1 fun r hr => (hfirst r hr).symm, hcopy]
      · rw [hrestCopy r hr, hother _ (h.indexed.within (hqs r hr)).1 (hfirst r hr)]
    · obtain ⟨hqc, hqsc⟩ := List.forall_mem_cons.mp hqc
      rw [hrestOther c hc hqsc, hother c hc hqc]

/-- The own block and every copied one move with what is due to them. -/
theorem read_dynamics (h : p.Fits) :
    p.index.ownX.read (p.toProblem.dynamics z) = p.pairs.foldl (p.couple z)
        (p.agent.model.dynamics.value (p.ownPoint z) (Vec.zeros p.agent.nx)) ∧
      ∀ q ∈ p.pairs, q.2.x.read (p.toProblem.dynamics z) = p.predict z q (Vec.zeros q.1.nx) := by
  have hsize : p.index.ownX.size = p.agent.nx := h.indexed.nxOwn
  have hstop : p.index.ownX.stop ≤ p.index.nx := by
    rw [h.indexed.ownX_stop]
    exact h.indexed.tiles.1.le
  have hown := Block.read_zeros (α := Rat) hstop
  rw [hsize] at hown
  have hkeeps : (p.agent.model.dynamics.value (p.ownPoint z) (Vec.zeros p.agent.nx)).length =
      p.agent.nx := (h.adds _).length (Vec.length_zeros _)
  have hread : (p.index.ownX.read (Vec.zeros p.index.nx : Vec Rat)).length = p.agent.nx := by
    rw [hown, Vec.length_zeros]
  have hsame : (p.agent.model.dynamics.value (p.ownPoint z)
      (p.index.ownX.read (Vec.zeros p.index.nx))).length =
      (p.index.ownX.read (Vec.zeros p.index.nx : Vec Rat)).length := by
    rw [hread, hown, hkeeps]
  have hlength := (Block.length_update _ hsame).trans (Vec.length_zeros _)
  obtain ⟨hfoldOwn, hfoldCopy, -⟩ := h.foldl_turn (z := z) (fun _ hq => hq) h.indexed.apart hlength
  have hdynamics : p.toProblem.dynamics z = p.addDynamics z (Vec.zeros p.index.nx) := rfl
  rw [hdynamics, h.addDynamics_eq]
  refine ⟨?_, fun q hq => ?_⟩
  · rw [hfoldOwn, Block.read_update _ hsame (by rwa [Vec.length_zeros]), hown]
  · obtain ⟨hapart, hqstop⟩ := h.indexed.within hq
    rw [hfoldCopy q hq, Block.read_update_apart hapart (by rwa [Vec.length_zeros]), Block.read_zeros hqstop,
      (h.indexed.sizes hq).1]
    rw [hsame, hread, hsize]

end Fits

/-- The influence from everyone but one neighbor leaves that one out. -/
theorem influence_eq (p : LocalProblem Rat) (nb : Neighbor Rat) (z : Point Rat) (out : Vec Rat) :
    (p.surroundings nb).influence z out =
      (p.pairs.filter fun q => q.1.id != nb.id).foldl (p.couple z) out := by
  unfold Surroundings.influence Surroundings.others
  rw [List.foldl_filterMap, List.foldl_filter]
  refine List.foldl_ext _ _ _ fun out q _ => ?_
  dsimp only [surroundings]
  by_cases hid : q.1.id = nb.id
  · simp [hid]
  · simp only [beq_iff_eq, hid, if_false, bne_iff_ne, ne_eq, not_false_eq_true, if_true]
    unfold couple
    cases q.1.relation.sending <;> rfl

end ConsensusControl.LocalProblem
