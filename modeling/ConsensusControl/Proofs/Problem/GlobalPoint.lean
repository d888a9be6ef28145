import ConsensusControl.Network.Plant
import ConsensusControl.Proofs.Problem.Dynamics

namespace ConsensusControl.LocalProblem

/-- The extended vectors hold a global point: the samples of the agent and of its neighbors. -/
structure Holds (p : LocalProblem Rat) (t : Rat) (global : Table (Sample Rat))
    (z : Point Rat) : Prop where
  time : z.t = t
  own : ∃ s, global.lookup p.agent.id = some s ∧ p.index.ownX.read z.x = s.x ∧
    p.index.ownU.read z.u = s.u
  copies : ∀ q ∈ p.pairs, ∃ s, global.lookup q.1.id = some s ∧ q.2.x.read z.x = s.x ∧
    q.2.u.read z.u = s.u

/-- The sample of an agent, or an empty one. -/
def sampleOf (global : Table (Sample Rat)) (id : AgentId) : Sample Rat :=
  (global.lookup id).getD ⟨[], []⟩

def copiedStates (p : LocalProblem Rat) (global : Table (Sample Rat)) : List (Vec Rat) :=
  p.agent.neighbors.map fun nb => (sampleOf global nb.id).x

def copiedControls (p : LocalProblem Rat) (global : Table (Sample Rat)) (v : AgentId → Vec Rat) :
    List (Vec Rat × Vec Rat) :=
  p.agent.neighbors.map fun nb => ((sampleOf global nb.id).u, v nb.id)

/-- The extended vectors that hold a global point, with these influences on the neighbors. -/
def extended (p : LocalProblem Rat) (t : Rat) (global : Table (Sample Rat)) (v : AgentId → Vec Rat) :
    Point Rat where
  t
  x := (sampleOf global p.agent.id).x ++ (p.copiedStates global).flatten
  u := (sampleOf global p.agent.id).u ++
    ((p.copiedControls global v).map fun s => s.1 ++ s.2).flatten

/-- The agent has a sample with these dimensions. -/
structure Sampled (global : Table (Sample Rat)) (id : AgentId) (nx nu : Nat) : Prop where
  lookup : global.lookup id = some (sampleOf global id)
  x : (sampleOf global id).x.length = nx
  u : (sampleOf global id).u.length = nu

theorem Indexed.holds_extended {p : LocalProblem Rat} (h : p.Indexed) {t : Rat}
    {global : Table (Sample Rat)} {v : AgentId → Vec Rat}
    (hown : Sampled global p.agent.id p.agent.nx p.agent.nu)
    (hcopies : ∀ nb ∈ p.agent.neighbors, Sampled global nb.id nb.nx nb.nu)
    (hv : ∀ nb ∈ p.agent.neighbors, (v nb.id).length = nb.nx) :
    p.Holds t global (p.extended t global v) ∧
      ∀ q ∈ p.pairs, q.2.v.read (p.extended t global v).u = v q.1.id := by
  have hstates : ∀ q ∈ p.pairs,
      q.2.x.read (p.extended t global v).x = (sampleOf global q.1.id).x := by
    have hsizes : List.Forall₂ (fun b s => s.length = b.x.size) p.index.blocks
        (p.copiedStates global) := by
      refine h.forall₂_blocks.mpr fun q hq => ?_
      exact (hcopies q.1 (List.of_mem_zip hq).1).x.trans (h.sizes hq).1.symm
    exact h.forall₂_blocks.mp (h.read_states hown.x hsizes)
  have hcontrols : ∀ q ∈ p.pairs,
      q.2.u.read (p.extended t global v).u = (sampleOf global q.1.id).u ∧
        q.2.v.read (p.extended t global v).u = v q.1.id := by
    have hsizes : List.Forall₂ (fun b s => s.1.length = b.u.size ∧ s.2.length = b.v.size)
        p.index.blocks (p.copiedControls global v) := by
      refine h.forall₂_blocks.mpr fun q hq => ?_
      have hmem := (List.of_mem_zip hq).1
      obtain ⟨-, hu, hv'⟩ := h.sizes hq
      exact ⟨(hcopies q.1 hmem).u.trans hu.symm, (hv q.1 hmem).trans hv'.symm⟩
    exact h.forall₂_blocks.mp (h.read_controls hown.u hsizes)
  have hfront : ∀ (n : Nat) (front rest : Vec Rat), front.length = n →
      (⟨0, n⟩ : Block).read (front ++ rest) = front := by
    intro _ front rest heq
    obtain rfl := heq
    exact List.take_left
  refine ⟨⟨rfl, ⟨_, hown.lookup, ?_, ?_⟩, fun q hq => ?_⟩, fun q hq => (hcontrols q hq).2⟩
  · exact hfront _ _ _ (hown.x.trans h.nxOwn.symm)
  · exact hfront _ _ _ (hown.u.trans h.nuOwn.symm)
  · exact ⟨_, (hcopies q.1 (List.of_mem_zip hq).1).lookup, hstates q hq, (hcontrols q hq).1⟩

variable {p : LocalProblem Rat} {t : Rat} {global : Table (Sample Rat)} {z w : Point Rat}

/-- What a neighbor sends depends on the global point alone. -/
theorem Holds.couple_eq (hz : p.Holds t global z) (hw : p.Holds t global w)
    {q : Neighbor Rat × NeighborBlock} (hq : q ∈ p.pairs) (own : Vec Rat) :
    p.couple z own q = p.couple w own q := by
  obtain ⟨s, hs, hzx, hzu⟩ := hz.own
  obtain ⟨s', hs', hwx, hwu⟩ := hw.own
  obtain ⟨r, hr, hzqx, hzqu⟩ := hz.copies q hq
  obtain ⟨r', hr', hwqx, hwqu⟩ := hw.copies q hq
  obtain rfl : s = s' := Option.some.inj (hs.symm.trans hs')
  obtain rfl : r = r' := Option.some.inj (hr.symm.trans hr')
  unfold couple
  rw [sendingPoint, sendingPoint, hz.time, hw.time, hzx, hzu, hzqx, hzqu, hwx, hwu, hwqx, hwqu]

theorem Holds.influence_eq (hz : p.Holds t global z) (hw : p.Holds t global w) (id : AgentId) :
    p.influence id z = p.influence id w := by
  unfold influence
  congr 1
  funext nb
  unfold neighborInfluence
  rw [LocalProblem.influence_eq, LocalProblem.influence_eq]
  rw [List.foldl_ext _ _ _ fun own q hq => hz.couple_eq hw (List.mem_of_mem_filter hq) own]

/-- The agent tells every neighbor its influence. -/
theorem Fits.influence_eq_some (h : p.Fits) {id : AgentId} (hid : id ∈ p.agent.neighborIds)
    (z : Point Rat) : ∃ v, p.influence id z = some v ∧ v.length = p.agent.nx := by
  obtain ⟨nb, hnb⟩ := Option.isSome_iff_exists.mp (Agent.neighbor?_isSome.mpr hid)
  have happrox := h.approximated nb (Agent.mem_of_neighbor? hnb).1
  have hinfluence : p.influence id z =
      some ((p.surroundings nb).influence z (Vec.zeros p.agent.nx)) := by
    unfold influence neighborInfluence
    rw [hnb, Option.bind_some, if_pos happrox]
  refine ⟨_, hinfluence, ?_⟩
  · rw [LocalProblem.influence_eq]
    exact (Vec.Adds.foldl fun q hq => h.adds_couple (List.mem_of_mem_filter hq)).length
      (Vec.length_zeros _)

end ConsensusControl.LocalProblem
