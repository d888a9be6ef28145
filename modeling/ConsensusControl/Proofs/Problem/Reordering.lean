import ConsensusControl.Proofs.IndexMap.Partition
import ConsensusControl.Proofs.Problem.CostGradients
import ConsensusControl.Proofs.Problem.Renaming
import ConsensusControl.Proofs.Rearrangement

namespace ConsensusControl

/-- The members of the models add, in the dimensions of those they belong to. -/
structure Agent.Additive (a : Agent Rat) : Prop where
  own : a.model.dynamics.Additive a.nx a.nu a.nx
  models : ∀ nb ∈ a.neighbors, nb.model.dynamics.Additive nb.nx nb.nu nb.nx
  sending : ∀ nb ∈ a.neighbors, ∀ f, nb.relation.sending = some f →
    f.dynamics.Additive a.nx a.nu nb.nx nb.nu a.nx
  receiving : ∀ nb ∈ a.neighbors, ∀ f, nb.relation.receiving = some f →
    f.dynamics.Additive nb.nx nb.nu a.nx a.nu nb.nx
  stageCostDx : ∀ z des, z.Sized a.nx a.nu → Vec.Adds a.nx (a.model.stageCostDx z des)
  stageCostDu : ∀ z des, z.Sized a.nx a.nu → Vec.Adds a.nu (a.model.stageCostDu z des)
  terminalCostDx : ∀ t x des, x.length = a.nx → Vec.Adds a.nx (a.model.terminalCostDx t x des)

namespace Agent.Additive

variable {a : Agent Rat} (ha : a.Additive)
include ha

theorem length_dx (z : Point Rat) (des : Target Rat) (hz : z.Sized a.nx a.nu) :
    (a.model.stageCostDx z des (Vec.zeros a.nx)).length = a.nx :=
  (ha.stageCostDx z des hz).length_zeros

theorem length_du (z : Point Rat) (des : Target Rat) (hz : z.Sized a.nx a.nu) :
    (a.model.stageCostDu z des (Vec.zeros a.nu)).length = a.nu :=
  (ha.stageCostDu z des hz).length_zeros

theorem length_terminal (t : Rat) (x des : Vec Rat) (hx : x.length = a.nx) :
    (a.model.terminalCostDx t x des (Vec.zeros a.nx)).length = a.nx :=
  (ha.terminalCostDx t x des hx).length_zeros

end Agent.Additive

namespace IndexMap

/-- The agent's own block of a state, and those of its neighbors in the order of the ids. -/
def statesOf (m : IndexMap) (ids : List AgentId) (x : Vec Rat) : Vec Rat :=
  m.ownX.read x ++ (ids.filterMap m.block?).flatMap fun b => b.x.read x

/-- The agent's own block of a control, and those of its neighbors in the order of the ids. -/
def controlsOf (m : IndexMap) (ids : List AgentId) (u : Vec Rat) : Vec Rat :=
  m.ownU.read u ++ (ids.filterMap m.block?).flatMap fun b => b.u.read u ++ b.v.read u

/-- The second layout has of rearranged vectors, for the agent and for each neighbor, what the first has of the
given ones. -/
structure Matches (m m' : IndexMap) (ids : List AgentId) (X U : Vec Rat → Vec Rat) : Prop where
  ownX : ∀ x, x.length = m.nx → m'.ownX.read (X x) = m.ownX.read x
  ownU : ∀ u, u.length = m.nu → m'.ownU.read (U u) = m.ownU.read u
  blocks : ∀ id ∈ ids, ∃ b b', m.block? id = some b ∧ m'.block? id = some b' ∧
    (∀ x, x.length = m.nx → b'.x.read (X x) = b.x.read x) ∧
    ∀ u, u.length = m.nu → b'.u.read (U u) = b.u.read u ∧ b'.v.read (U u) = b.v.read u

end IndexMap

/-- What the first problem has at a point, the second has at the rearranged one: the same costs, and the
same rearranged vectors. -/
structure Problem.Rearranged (P P' : Problem Rat) (X U : Vec Rat → Vec Rat) : Prop where
  dims : P'.dims = P.dims
  dynamics : ∀ z, z.Sized P.dims.nx P.dims.nu → P'.dynamics (z.rearrange X U) = X (P.dynamics z)
  dynamicsDx : ∀ z w, z.Sized P.dims.nx P.dims.nu → w.length = P.dims.nx →
    P'.dynamicsDx (z.rearrange X U) (X w) = X (P.dynamicsDx z w)
  dynamicsDu : ∀ z w, z.Sized P.dims.nx P.dims.nu → w.length = P.dims.nx →
    P'.dynamicsDu (z.rearrange X U) (X w) = U (P.dynamicsDu z w)
  stageCost : ∀ z, z.Sized P.dims.nx P.dims.nu → P'.stageCost (z.rearrange X U) = P.stageCost z
  stageCostDx : ∀ z, z.Sized P.dims.nx P.dims.nu →
    ∃ g, P.stageCostDx z = .ok g ∧ P'.stageCostDx (z.rearrange X U) = .ok (X g)
  stageCostDu : ∀ z, z.Sized P.dims.nx P.dims.nu →
    ∃ g, P.stageCostDu z = .ok g ∧ P'.stageCostDu (z.rearrange X U) = .ok (U g)
  terminalCost : ∀ t x, x.length = P.dims.nx → P'.terminalCost t (X x) = P.terminalCost t x
  terminalCostDx : ∀ t x, x.length = P.dims.nx →
    ∃ g, P.terminalCostDx t x = .ok g ∧ P'.terminalCostDx t (X x) = .ok (X g)

theorem IndexMap.Layable.perm {agent : AgentId} {es es' : List IndexMap.Entry}
    (h : IndexMap.Layable agent es) (hperm : es'.Perm es) : IndexMap.Layable agent es' where
  sizes e he := h.sizes e (hperm.mem_iff.mp he)
  others e he := h.others e (hperm.mem_iff.mp he)
  nodup := (hperm.map _).nodup_iff.mpr h.nodup

/-- An agent is laid out in every order of its neighbors, with the same dimensions. -/
theorem Agent.layout_perm {a : Agent Rat} {l : Layout} (h : a.layout = .ok l) {nbs : List (Neighbor Rat)}
    (hnbs : nbs.Perm a.neighbors) :
    ∃ l', ({ a with neighbors := nbs } : Agent Rat).layout = .ok l' ∧ l'.dims = l.dims := by
  obtain ⟨index, hindex, hpure⟩ := bind_eq_ok.mp h
  obtain rfl := pure_eq_ok.mp hpure
  obtain ⟨hnx, hnu, hlayable, rfl⟩ := IndexMap.build_eq_ok_iff.mp hindex
  have hentries : ({ a with neighbors := nbs } : Agent Rat).entries.Perm a.entries := hnbs.map _
  have hbuilt := IndexMap.build_eq_ok_iff.mpr ⟨hnx, hnu, hlayable.perm hentries, rfl⟩
  have hcount : ∀ kind, ({ a with neighbors := nbs } : Agent Rat).constraintCount kind =
      a.constraintCount kind := fun kind => hnbs.foldl_eq' (fun _ _ _ _ n => Nat.add_right_comm n _ _) _
  refine ⟨_, bind_eq_ok.mpr ⟨_, hbuilt, rfl⟩, ?_⟩
  dsimp only [Layout.dims, IndexMap.laid, IndexMap.ofBlocks]
  rw [hcount, hcount, (hentries.map _).sum_eq, (hentries.map _).sum_eq]

namespace LocalProblem

/-- Where the layout has a neighbor. -/
def blockOf (p : LocalProblem Rat) (nb : Neighbor Rat) : NeighborBlock :=
  (p.index.block? nb.id).getD ⟨nb.id, ⟨0, 0⟩, ⟨0, 0⟩, ⟨0, 0⟩⟩

/-- The problem with other neighbors in another layout. -/
def withNeighbors (p : LocalProblem Rat) (nbs : List (Neighbor Rat)) (l : Layout) : LocalProblem Rat :=
  ⟨{ p.agent with neighbors := nbs }, l⟩

namespace Indexed

variable {p : LocalProblem Rat} {nb : Neighbor Rat}

theorem pairs_eq (h : p.Indexed) : p.pairs = p.agent.neighbors.map fun nb => (nb, p.blockOf nb) := by
  have hfound : ∀ q ∈ p.pairs, (q.1, p.blockOf q.1) = q := by
    intro q hq
    rw [blockOf, h.block?_of_mem hq]
    rfl
  calc p.pairs = p.pairs.map fun q => (q.1, p.blockOf q.1) := by
        rw [List.map_congr_left hfound, List.map_id']
    _ = (p.pairs.map Prod.fst).map fun nb => (nb, p.blockOf nb) := by rw [List.map_map]; rfl
    _ = p.agent.neighbors.map fun nb => (nb, p.blockOf nb) := by rw [h.map_fst_pairs]

theorem blocks_eq (h : p.Indexed) : p.index.blocks = p.agent.neighbors.map p.blockOf := by
  rw [← h.map_snd_pairs, h.pairs_eq, List.map_map]
  rfl

theorem mem_pairs (h : p.Indexed) (hnb : nb ∈ p.agent.neighbors) : (nb, p.blockOf nb) ∈ p.pairs := by
  rw [h.pairs_eq]
  exact List.mem_map_of_mem hnb

theorem block?_eq (h : p.Indexed) (hnb : nb ∈ p.agent.neighbors) :
    p.index.block? nb.id = some (p.blockOf nb) :=
  h.block?_of_mem (h.mem_pairs hnb)

end Indexed

/-- Who else sends to the agent, each with its model. -/
def senders (nb : Neighbor Rat) (nbs : List (Neighbor Rat)) : List (CouplingModel Rat × Neighbor Rat) :=
  nbs.filterMap fun k => if k.id == nb.id then none else k.relation.sending.map (·, k)

theorem mem_senders {nbs : List (Neighbor Rat)} {nb : Neighbor Rat}
    {k : CouplingModel Rat × Neighbor Rat} (hk : k ∈ senders nb nbs) :
    k.2 ∈ nbs ∧ k.2.relation.sending = some k.1 := by
  obtain ⟨other, hother, heq⟩ := List.mem_filterMap.mp hk
  split at heq
  · simp at heq
  · obtain ⟨f, hf, rfl⟩ := Option.map_eq_some_iff.mp heq
    exact ⟨hother, hf⟩

theorem Indexed.others_eq {p : LocalProblem Rat} (h : p.Indexed) (nb : Neighbor Rat) :
    (p.surroundings nb).others = (senders nb p.agent.neighbors).map fun k => (k.1, p.blockOf k.2) := by
  have hpairs : (p.surroundings nb).neighbors.zip (p.surroundings nb).index.blocks = p.pairs := rfl
  unfold Surroundings.others senders
  rw [hpairs, h.pairs_eq, List.filterMap_map, List.map_filterMap]
  refine List.filterMap_congr fun k _ => ?_
  by_cases hid : k.id = nb.id
  · simp [surroundings, hid]
  · simp [surroundings, hid, Function.comp_def]

/-- The neighbors of a problem in another order, with a layout of that order. -/
structure Reorders (p : LocalProblem Rat) (nbs : List (Neighbor Rat)) (l : Layout) : Prop where
  indexed : p.Indexed
  indexed' : (p.withNeighbors nbs l).Indexed
  perm : nbs.Perm p.agent.neighbors

namespace Reorders

variable {p : LocalProblem Rat} {nbs : List (Neighbor Rat)} {l : Layout} {nb : Neighbor Rat}
variable (h : p.Reorders nbs l)
include h

theorem ownX : p.index.ownX = l.index.ownX :=
  congrArg (Block.mk 0) (h.indexed.nxOwn.trans h.indexed'.nxOwn.symm)

theorem ownU : p.index.ownU = l.index.ownU :=
  congrArg (Block.mk 0) (h.indexed.nuOwn.trans h.indexed'.nuOwn.symm)

theorem mem (hnb : nb ∈ nbs) : nb ∈ p.agent.neighbors := h.perm.mem_iff.mp hnb

theorem sizes (hnb : nb ∈ nbs) :
    (p.blockOf nb).x.size = nb.nx ∧ (p.blockOf nb).u.size = nb.nu ∧ (p.blockOf nb).v.size = nb.nx :=
  h.indexed.sizes (h.indexed.mem_pairs (h.mem hnb))

theorem sizes' (hnb : nb ∈ nbs) : ((p.withNeighbors nbs l).blockOf nb).x.size = nb.nx ∧
    ((p.withNeighbors nbs l).blockOf nb).u.size = nb.nu ∧
    ((p.withNeighbors nbs l).blockOf nb).v.size = nb.nx :=
  h.indexed'.sizes (h.indexed'.mem_pairs hnb)

theorem inside (hnb : nb ∈ nbs) : (p.blockOf nb).x.stop ≤ p.index.nx ∧
    (p.blockOf nb).u.stop ≤ p.index.nu ∧ (p.blockOf nb).v.stop ≤ p.index.nu :=
  (IndexMap.inside_of_build h.indexed).blocks _ (List.of_mem_zip (h.indexed.mem_pairs (h.mem hnb))).2

theorem pairs_perm : p.pairs.Perm (nbs.map fun nb => (nb, p.blockOf nb)) := by
  rw [h.indexed.pairs_eq]
  exact (h.perm.map _).symm

/-- How the blocks of the state move. -/
def states : Rearrangement p.index.nx l.index.nx where
  moves := (p.index.ownX, l.index.ownX) ::
    nbs.map fun nb => ((p.blockOf nb).x, ((p.withNeighbors nbs l).blockOf nb).x)
  inside := List.forall_mem_cons.mpr
    ⟨(IndexMap.inside_of_build h.indexed).ownX, List.forall_mem_map.mpr fun nb hnb => (h.inside hnb).1⟩
  apart := by
    have hranges := (IndexMap.partitions_of_build h.indexed).states.apart
    rw [IndexMap.stateRanges, h.indexed.blocks_eq, List.map_map] at hranges
    rw [List.map_cons, List.map_map]
    exact ((h.perm.map _).symm.cons _).pairwise hranges Block.Apart.symm
  tiles := by
    have hranges := (IndexMap.partitions_of_build h.indexed').states.tiles
    rw [IndexMap.stateRanges, h.indexed'.blocks_eq, List.map_map] at hranges
    rw [List.map_cons, List.map_map]
    exact hranges
  sizes := List.forall_mem_cons.mpr ⟨congrArg Block.size h.ownX, List.forall_mem_map.mpr fun nb hnb =>
    (h.sizes hnb).1.trans (h.sizes' hnb).1.symm⟩

/-- How the blocks of the control move. -/
def controls : Rearrangement p.index.nu l.index.nu where
  moves := (p.index.ownU, l.index.ownU) :: nbs.flatMap fun nb =>
    [((p.blockOf nb).u, ((p.withNeighbors nbs l).blockOf nb).u),
      ((p.blockOf nb).v, ((p.withNeighbors nbs l).blockOf nb).v)]
  inside := by
    refine List.forall_mem_cons.mpr ⟨(IndexMap.inside_of_build h.indexed).ownU, ?_⟩
    simp only [List.forall_mem_flatMap, List.forall_mem_cons]
    exact fun nb hnb => ⟨(h.inside hnb).2.1, (h.inside hnb).2.2, by simp⟩
  apart := by
    have hranges := (IndexMap.partitions_of_build h.indexed).controls.apart
    rw [IndexMap.controlRanges, h.indexed.blocks_eq, List.flatMap_map] at hranges
    rw [List.map_cons, List.map_flatMap]
    exact ((h.perm.flatMap_right _).symm.cons _).pairwise hranges Block.Apart.symm
  tiles := by
    have hranges := (IndexMap.partitions_of_build h.indexed').controls.tiles
    rw [IndexMap.controlRanges, h.indexed'.blocks_eq, List.flatMap_map] at hranges
    rw [List.map_cons, List.map_flatMap]
    exact hranges
  sizes := by
    refine List.forall_mem_cons.mpr ⟨congrArg Block.size h.ownU, ?_⟩
    simp only [List.forall_mem_flatMap, List.forall_mem_cons]
    intro nb hnb
    obtain ⟨-, hu, hv⟩ := h.sizes hnb
    obtain ⟨-, hu', hv'⟩ := h.sizes' hnb
    exact ⟨hu.trans hu'.symm, hv.trans hv'.symm, by simp⟩

theorem own_states : (p.index.ownX, l.index.ownX) ∈ h.states.moves := List.mem_cons_self

theorem own_controls : (p.index.ownU, l.index.ownU) ∈ h.controls.moves := List.mem_cons_self

theorem state_moves (hnb : nb ∈ nbs) :
    ((p.blockOf nb).x, ((p.withNeighbors nbs l).blockOf nb).x) ∈ h.states.moves :=
  List.mem_cons_of_mem _ (List.mem_map_of_mem hnb)

theorem control_moves (hnb : nb ∈ nbs) :
    ((p.blockOf nb).u, ((p.withNeighbors nbs l).blockOf nb).u) ∈ h.controls.moves :=
  List.mem_cons_of_mem _ (List.mem_flatMap.mpr ⟨nb, hnb, List.mem_cons_self⟩)

theorem influence_moves (hnb : nb ∈ nbs) :
    ((p.blockOf nb).v, ((p.withNeighbors nbs l).blockOf nb).v) ∈ h.controls.moves :=
  List.mem_cons_of_mem _
    (List.mem_flatMap.mpr ⟨nb, hnb, List.mem_cons_of_mem _ List.mem_cons_self⟩)

section

variable (ha : p.agent.Additive)
include ha

theorem carried_own : p.ownMap.Carried h.states h.controls h.states (p.withNeighbors nbs l).ownMap := by
  have hown := ha.own
  rw [← h.indexed.nxOwn, ← h.indexed.nuOwn] at hown
  exact AgentMap.Carried.within h.own_states h.own_controls h.own_states hown

theorem carried_sending (hnb : nb ∈ nbs) : (p.sendingMap (nb, p.blockOf nb)).Carried h.states h.controls
    h.states ((p.withNeighbors nbs l).sendingMap (nb, (p.withNeighbors nbs l).blockOf nb)) := by
  obtain ⟨hx, hu, -⟩ := h.sizes hnb
  unfold sendingMap
  dsimp only
  split
  · exact .none _ _ _
  · next f hf =>
    have hf := ha.sending nb (h.mem hnb) f hf
    rw [← h.indexed.nxOwn, ← h.indexed.nuOwn, ← hx, ← hu] at hf
    exact PairMap.carried_within h.own_states h.own_controls (h.state_moves hnb) (h.control_moves hnb)
      h.own_states hf

theorem carried_receiving (hnb : nb ∈ nbs) : (p.receivingMap (nb, p.blockOf nb)).Carried h.states
    h.controls h.states ((p.withNeighbors nbs l).receivingMap (nb, (p.withNeighbors nbs l).blockOf nb)) := by
  obtain ⟨hx, hu, -⟩ := h.sizes hnb
  unfold receivingMap
  dsimp only
  split
  · exact .none _ _ _
  · next f hf =>
    have hf := ha.receiving nb (h.mem hnb) f hf
    rw [← h.indexed.nxOwn, ← h.indexed.nuOwn, ← hx, ← hu] at hf
    exact PairMap.carried_within (h.state_moves hnb) (h.control_moves hnb) h.own_states h.own_controls
      (h.state_moves hnb) hf

theorem carried_prediction (hnb : nb ∈ nbs) : (p.predictionMap (nb, p.blockOf nb)).Carried h.states
    h.controls h.states ((p.withNeighbors nbs l).predictionMap (nb, (p.withNeighbors nbs l).blockOf nb)) := by
  obtain ⟨hx, hu, -⟩ := h.sizes hnb
  have hmodel := ha.models nb (h.mem hnb)
  have hadds := hmodel.value
  rw [← hx, ← hu] at hmodel
  obtain ⟨hvalue, hdx, hdu⟩ := h.indexed.predicted (h.indexed.mem_pairs (h.mem hnb)) hadds
  obtain ⟨hvalue', hdx', hdu'⟩ := h.indexed'.predicted (h.indexed'.mem_pairs hnb) hadds
  have hmoved := AgentMap.Carried.within (h.state_moves hnb) (h.control_moves hnb) (h.state_moves hnb) hmodel
  have hslot := AgentMap.Carried.slot (X := h.states) (h.influence_moves hnb) (h.state_moves hnb)
  have hpredicted := (hmoved.andThen hslot).andThen (h.carried_receiving ha hnb)
  unfold predictionMap
  dsimp only
  split
  · exact hpredicted.of_value_eq hvalue hvalue' hdx hdx' hdu hdu'
  · exact .none _ _ _

theorem carried_extended : p.extendedMap.Carried h.states h.controls h.states
    (p.withNeighbors nbs l).extendedMap := by
  rw [extendedMap_eq, extendedMap_eq]
  exact (h.carried_own ha).andThen (.each h.pairs_perm h.indexed'.pairs_eq fun nb hnb =>
    (h.carried_sending ha hnb).andThen (h.carried_prediction ha hnb))

end

theorem ownShare : (p.withNeighbors nbs l).ownShare = p.ownShare := by
  unfold LocalProblem.ownShare costShare
  rw [show (p.withNeighbors nbs l).agent.neighbors.length = p.agent.neighbors.length from h.perm.length_eq]
  rfl

theorem target : (p.withNeighbors nbs l).target = p.target := by
  funext t
  unfold LocalProblem.target
  rw [h.indexed'.nxOwn, h.indexed'.nuOwn, h.indexed.nxOwn, h.indexed.nuOwn]
  rfl

theorem ownControl : (p.withNeighbors nbs l).ownControl = p.ownControl := by
  funext t
  unfold LocalProblem.ownControl
  rw [h.indexed'.nuOwn, h.indexed.nuOwn]
  rfl

theorem influenceSample : (p.withNeighbors nbs l).influenceSample = p.influenceSample := by
  funext t nb
  unfold LocalProblem.influenceSample
  rw [h.indexed'.nxOwn, h.indexed.nxOwn]
  rfl

theorem carried_modelCosts {cost : AgentModel Rat → (Rat → Target Rat) → Rat → CostMap}
    (hdx : ∀ m target share z, Vec.Adds m.nx ((cost m target share).dx z))
    (hdu : ∀ m target share z, Vec.Adds m.nu ((cost m target share).du z)) :
    (p.modelCosts cost).Carried h.states h.controls ((p.withNeighbors nbs l).modelCosts cost) := by
  have hnx : p.index.ownX.size = p.agent.model.nx := h.indexed.nxOwn
  have hnu : p.index.ownU.size = p.agent.model.nu := h.indexed.nuOwn
  unfold modelCosts
  rw [h.ownShare, h.target]
  apply CostMap.Carried.andThen
  · refine CostMap.Carried.within h.own_states h.own_controls ?_ ?_
    · rw [hnx]
      exact hdx _ _ _
    · rw [hnu]
      exact hdu _ _ _
  · have hcopy : ∀ nb ∈ nbs, (CostMap.within (p.blockOf nb).x (p.blockOf nb).u
        (cost nb.model nb.target nb.costShare)).Carried h.states h.controls
        (CostMap.within ((p.withNeighbors nbs l).blockOf nb).x ((p.withNeighbors nbs l).blockOf nb).u
          (cost nb.model nb.target nb.costShare)) := by
      intro nb hnb
      obtain ⟨hx, hu, -⟩ := h.sizes hnb
      refine CostMap.Carried.within (h.state_moves hnb) (h.control_moves hnb) ?_ ?_
      · rw [hx]
        exact hdx _ _ _
      · rw [hu]
        exact hdu _ _ _
    unfold sharedPairs
    change (CostMap.each _ _).Carried _ _ (CostMap.each _ (if p.agent.approximation.cost then _ else _))
    split
    · exact .each h.pairs_perm h.indexed'.pairs_eq hcopy
    · exact .none _ _

theorem carried_influence (ha : p.agent.Additive) (nb : Neighbor Rat) :
    (p.influenceMap nb).Carried h.states h.controls (.same p.agent.nx)
      ((p.withNeighbors nbs l).influenceMap nb) := by
  have hothers : (p.surroundings nb).others.Perm
      ((senders nb nbs).map fun k => (k.1, p.blockOf k.2)) := by
    rw [h.indexed.others_eq]
    exact ((h.perm.filterMap _).map _).symm
  refine .each hothers (h.indexed'.others_eq nb) fun k hk => ?_
  obtain ⟨hmem, hsends⟩ := mem_senders hk
  obtain ⟨hx, hu, -⟩ := h.sizes hmem
  have hfits : k.1.dynamics.Additive p.index.ownX.size p.index.ownU.size (p.blockOf k.2).x.size
      (p.blockOf k.2).u.size p.agent.nx := by
    rw [hx, hu, show p.index.ownX.size = p.agent.nx from h.indexed.nxOwn,
      show p.index.ownU.size = p.agent.nu from h.indexed.nuOwn]
    exact ha.sending k.2 (h.mem hmem) k.1 hsends
  exact PairMap.carried_parts h.own_states h.own_controls (h.state_moves hmem) (h.control_moves hmem) hfits

theorem carried_consensusCost (ha : p.agent.Additive) :
    p.consensusCost.Carried h.states h.controls (p.withNeighbors nbs l).consensusCost := by
  have hown : (CostMap.charge p.ownControl p.index.ownU.size (.control p.index.ownU)).Carried h.states
      h.controls (CostMap.charge p.ownControl l.index.ownU.size (.control l.index.ownU)) :=
    .charge_control h.own_controls fun t _ hlength => length_gradient_control t _ _ _ _ hlength
  have hinfluence : ∀ nb, (p.influenceCost nb).Carried h.states h.controls
      ((p.withNeighbors nbs l).influenceCost nb) := by
    intro nb
    unfold influenceCost
    rw [h.influenceSample]
    split
    · refine .charge (h.carried_influence ha nb) fun t own hlength => ?_
      rw [← h.indexed.nxOwn] at hlength ⊢
      exact length_gradient_influence t _ _ _ _ hlength
    · exact .none _ _
  have hcopies : ∀ nb ∈ nbs, (copyCost (nb, p.blockOf nb)).Carried h.states h.controls
      (copyCost (nb, (p.withNeighbors nbs l).blockOf nb)) := by
    intro nb hnb
    obtain ⟨-, hu, hv⟩ := h.sizes hnb
    apply CostMap.Carried.andThen
    · refine .charge_control (h.influence_moves hnb) fun t own hlength => ?_
      rw [hv] at hlength ⊢
      exact length_gradient_influence t _ _ _ _ hlength
    · refine .charge_control (h.control_moves hnb) fun t own hlength => ?_
      rw [hu] at hlength ⊢
      exact length_gradient_control t _ _ _ _ hlength
  unfold consensusCost
  rw [h.ownControl]
  exact hown.andThen (.each h.pairs_perm h.indexed'.pairs_eq fun nb hnb =>
    (hinfluence nb).andThen (hcopies nb hnb))

theorem carried_stageMap (ha : p.agent.Additive) :
    p.stageMap.Carried h.states h.controls (p.withNeighbors nbs l).stageMap := by
  refine .andThen (h.carried_modelCosts ?_ ?_) (h.carried_consensusCost ha)
  · exact fun _ _ _ _ => Vec.adds_addScaled _ _ _
  · exact fun _ _ _ _ => Vec.adds_addScaled _ _ _

theorem carried_terminalMap :
    p.terminalMap.Carried h.states h.controls (p.withNeighbors nbs l).terminalMap := by
  refine h.carried_modelCosts ?_ ?_
  · exact fun _ _ _ _ => Vec.adds_addScaled _ _ _
  · exact fun m _ _ _ => .same m.nu

theorem filterMap_block? : (nbs.map (·.id)).filterMap p.index.block? = nbs.map p.blockOf := by
  rw [List.filterMap_map, ← List.filterMap_eq_map]
  exact List.filterMap_congr fun nb hnb => h.indexed.block?_eq (h.mem hnb)

theorem apply_states : h.states.apply = p.index.statesOf (nbs.map (·.id)) := by
  funext x
  unfold IndexMap.statesOf
  rw [h.filterMap_block?, List.flatMap_map]
  exact congrArg (List.append _) (List.flatMap_map ..)

theorem apply_controls : h.controls.apply = p.index.controlsOf (nbs.map (·.id)) := by
  funext u
  unfold IndexMap.controlsOf
  rw [h.filterMap_block?, List.flatMap_map]
  refine congrArg (List.append _) ((List.flatMap_assoc ..).trans ?_)
  exact List.flatMap_congr fun nb _ => congrArg (List.append _) (List.append_nil _)

theorem matched : p.index.Matches l.index (nbs.map (·.id)) (p.index.statesOf (nbs.map (·.id)))
    (p.index.controlsOf (nbs.map (·.id))) := by
  rw [← h.apply_states, ← h.apply_controls]
  refine ⟨fun x hx => ?_, fun u hu => ?_, List.forall_mem_map.mpr fun nb hnb => ?_⟩
  · exact Rearrangement.read_apply h.own_states hx
  · exact Rearrangement.read_apply h.own_controls hu
  · refine ⟨_, _, h.indexed.block?_eq (h.mem hnb), h.indexed'.block?_eq hnb, fun x hx => ?_, fun u hu => ?_⟩
    · exact Rearrangement.read_apply (h.state_moves hnb) hx
    · exact ⟨Rearrangement.read_apply (h.control_moves hnb) hu,
        Rearrangement.read_apply (h.influence_moves hnb) hu⟩

theorem sized {z : Point Rat} (hz : z.Sized p.index.nx p.index.nu) :
    (z.rearrange h.states.apply h.controls.apply).Sized l.index.nx l.index.nu :=
  ⟨Rearrangement.length_apply hz.x, Rearrangement.length_apply hz.u⟩

section

variable (ha : p.agent.Additive) {z : Point Rat} (hz : z.Sized p.index.nx p.index.nu)
include ha hz

theorem addStageCostDx_rearrange :
    (p.withNeighbors nbs l).addStageCostDx (z.rearrange h.states.apply h.controls.apply)
      (Vec.zeros l.index.nx) = h.states.apply (p.addStageCostDx z (Vec.zeros p.index.nx)) := by
  have hdx := ((h.carried_stageMap ha).dx z hz).zeros
  rw [← h.indexed.stageCostDx_eq ha.length_dx hz] at hdx
  rw [← hdx]
  exact h.indexed'.stageCostDx_eq ha.length_dx (h.sized hz)

theorem addStageCostDu_rearrange :
    (p.withNeighbors nbs l).addStageCostDu (z.rearrange h.states.apply h.controls.apply)
      (Vec.zeros l.index.nu) = h.controls.apply (p.addStageCostDu z (Vec.zeros p.index.nu)) := by
  have hdu := ((h.carried_stageMap ha).du z hz).zeros
  rw [← h.indexed.stageCostDu_eq ha.length_du hz] at hdu
  rw [← hdu]
  exact h.indexed'.stageCostDu_eq ha.length_du (h.sized hz)

theorem addTerminalCostDx_rearrange :
    (p.withNeighbors nbs l).addTerminalCostDx z.t (h.states.apply z.x) (Vec.zeros l.index.nx) =
      h.states.apply (p.addTerminalCostDx z.t z.x (Vec.zeros p.index.nx)) := by
  have hdx := (h.carried_terminalMap.dx z hz).zeros
  rw [← h.indexed.terminalCostDx_eq ha.length_terminal hz] at hdx
  rw [← hdx]
  exact h.indexed'.terminalCostDx_eq ha.length_terminal (h.sized hz)

end

theorem rearranged (ha : p.agent.Additive) (hdims : l.dims = p.layout.dims) :
    p.toProblem.Rearranged (p.withNeighbors nbs l).toProblem (p.index.statesOf (nbs.map (·.id)))
      (p.index.controlsOf (nbs.map (·.id))) := by
  have hextended := h.carried_extended ha
  -- The terminal cost does not read the control, so any control will do.
  have hend : ∀ t x, x.length = p.index.nx →
      (⟨t, x, Vec.zeros p.index.nu⟩ : Point Rat).Sized p.index.nx p.index.nu := fun t x hx =>
    ⟨hx, Vec.length_zeros _⟩
  rw [← h.apply_states, ← h.apply_controls]
  constructor
  · exact hdims
  · intro z hz
    exact (hextended.value z hz).zeros
  · intro z w hz hw
    exact (hextended.dx z w hz hw).zeros
  · intro z w hz hw
    exact (hextended.du z w hz hw).zeros
  · intro z hz
    have hcost := (h.carried_stageMap ha).value z hz
    rwa [← h.indexed'.stageCost_eq (h.sized hz), ← h.indexed.stageCost_eq hz] at hcost
  · intro z hz
    refine ⟨_, h.indexed.stageCostDx_ok z, (h.indexed'.stageCostDx_ok _).trans ?_⟩
    exact congrArg Except.ok (h.addStageCostDx_rearrange ha hz)
  · intro z hz
    refine ⟨_, h.indexed.stageCostDu_ok z, (h.indexed'.stageCostDu_ok _).trans ?_⟩
    exact congrArg Except.ok (h.addStageCostDu_rearrange ha hz)
  · intro t x hx
    have hcost := h.carried_terminalMap.value _ (hend t x hx)
    rwa [← terminalCost_eq, ← terminalCost_eq] at hcost
  · intro t x hx
    refine ⟨_, h.indexed.terminalCostDx_ok t x, (h.indexed'.terminalCostDx_ok t _).trans ?_⟩
    exact congrArg Except.ok (h.addTerminalCostDx_rearrange ha (hend t x hx))

end Reorders

theorem exists_reorders {p : LocalProblem Rat} (hp : p.agent.layout = .ok p.layout) {nbs : List (Neighbor Rat)}
    (hnbs : nbs.Perm p.agent.neighbors) :
    ∃ l, (p.withNeighbors nbs l).agent.layout = .ok l ∧ l.dims = p.layout.dims ∧ p.Reorders nbs l := by
  obtain ⟨l, hl, hdims⟩ := Agent.layout_perm hp hnbs
  exact ⟨l, hl, hdims, Agent.indexMap_of_layout hp, Agent.indexMap_of_layout hl, hnbs⟩

/-- The same neighbors in any order, under any other ids, pose the same problem with its blocks in that order.
In the order that they have, ids alone change nothing. -/
theorem toProblem_reordered_renamed {p : LocalProblem Rat} (hp : p.agent.layout = .ok p.layout)
    (ha : p.agent.Additive) {nbs : List (Neighbor Rat)} (hnbs : nbs.Perm p.agent.neighbors)
    {ρ : AgentId → AgentId} (hρ : ρ.Injective) :
    (∃ l, (p.withNeighbors nbs l).agent.layout = .ok l ∧
      ((p.withNeighbors nbs l).rename ρ).agent.layout = .ok (l.rename ρ) ∧
      let X := p.index.statesOf (nbs.map (·.id))
      let U := p.index.controlsOf (nbs.map (·.id))
      p.index.Matches l.index (nbs.map (·.id)) X U ∧
        p.toProblem.Rearranged ((p.withNeighbors nbs l).rename ρ).toProblem X U) ∧
      (p.rename ρ).agent.layout = .ok (p.layout.rename ρ) ∧ (p.rename ρ).toProblem = p.toProblem := by
  obtain ⟨l, hl, hdims, hreorders⟩ := exists_reorders hp hnbs
  refine ⟨⟨l, hl, Agent.layout_rename hρ hl, hreorders.matched, ?_⟩, Agent.layout_rename hρ hp,
    toProblem_rename hρ p⟩
  rw [toProblem_rename hρ]
  exact hreorders.rearranged ha hdims

theorem pricedHub_additive : pricedHub.Additive where
  own := (hubModel.affine _ _ _).additive
  models nb hnb := by
    have hmodels : ∀ nb ∈ pricedHub.neighbors, nb.model = leafModel.toModel := by
      simp [pricedHub, hub, Neighbor.new]
    rw [hmodels nb hnb]
    exact (leafModel.affine _ _ _).additive
  sending nb hnb f hf := (pricedHub_costs.sending nb hnb f hf).additive
  receiving nb hnb f hf := by
    have hreceiving : ∀ nb ∈ pricedHub.neighbors,
        nb.relation.receiving = none ∨ nb.relation.receiving = some hubToLeaf.toModel := by
      simp [pricedHub, hub, Neighbor.new, Relation.uncoupled]
    rcases hreceiving nb hnb with hnone | hsome
    · simp [hf] at hnone
    · obtain rfl := Option.some.inj (hf.symm.trans hsome)
      exact (hubToLeaf.affine _ _ _ _ _).additive
  stageCostDx _ _ _ := Vec.adds_addWeightedDistanceGrad _ _ _ _
  stageCostDu _ _ _ := Vec.adds_addWeightedDistanceGrad _ _ _ _
  terminalCostDx _ _ _ _ := Vec.adds_addWeightedDistanceGrad _ _ _ _

/-- The hub with its leaves the other way round, after one of them and the hub have exchanged their ids. -/
theorem pricedProblem_reversed :
    (pricedProblem.agent.layout = .ok pricedProblem.layout ∧ pricedProblem.agent.Additive ∧
      pricedHub.neighbors.reverse.Perm pricedProblem.agent.neighbors ∧
      Function.Injective (Equiv.swap 0 3 : AgentId → AgentId)) ∧
    ∃ l, (pricedProblem.withNeighbors pricedHub.neighbors.reverse l).agent.layout = .ok l ∧
      let P := ((pricedProblem.withNeighbors pricedHub.neighbors.reverse l).rename (Equiv.swap 0 3)).toProblem
      let z : Point Rat := ⟨0, [1, -1, 1, 3, 0, 2], [1, 11, 12, 13, 8, 9, 10, 5, 6, 7, 2, 3, 4]⟩
      P.dynamics z = [20, 23, 59, 45, 0, 10] ∧ P.stageCost z = 13683 / 5 ∧
        P.stageCostDx z = .ok [0, -6 / 5, 832, -4, 885, -5] := by
  have hlayout : pricedProblem.agent.layout = .ok pricedProblem.layout := by rfl
  have hperm : pricedHub.neighbors.reverse.Perm pricedProblem.agent.neighbors := List.reverse_perm _
  have hswap : Function.Injective (Equiv.swap 0 3 : AgentId → AgentId) := (Equiv.swap 0 3).injective
  obtain ⟨⟨l, hl, -, -, hsame⟩, -⟩ :=
    toProblem_reordered_renamed hlayout pricedHub_additive hperm hswap
  have hids : pricedHub.neighbors.reverse.map (·.id) = [4, 3, 2, 1] := rfl
  rw [hids] at hsame
  have hz : hubPoint.rearrange (pricedProblem.index.statesOf [4, 3, 2, 1])
      (pricedProblem.index.controlsOf [4, 3, 2, 1]) =
      ⟨0, [1, -1, 1, 3, 0, 2], [1, 11, 12, 13, 8, 9, 10, 5, 6, 7, 2, 3, 4]⟩ := by
    have hx : pricedProblem.index.statesOf [4, 3, 2, 1] hubPoint.x = [1, -1, 1, 3, 0, 2] := by
      decide +kernel
    have hu : pricedProblem.index.controlsOf [4, 3, 2, 1] hubPoint.u =
        [1, 11, 12, 13, 8, 9, 10, 5, 6, 7, 2, 3, 4] := by
      decide +kernel
    rw [Point.rearrange, hx, hu]
    rfl
  have hsized : hubPoint.Sized 6 13 := ⟨rfl, rfl⟩
  obtain ⟨g, hg, hdx⟩ := hsame.stageCostDx hubPoint hsized
  have hgradient : pricedProblem.toProblem.stageCostDx hubPoint = .ok [0, -6 / 5, -5, 885, -4, 832] := by
    decide +kernel
  obtain rfl := Except.ok.inj (hg.symm.trans hgradient)
  refine ⟨⟨hlayout, pricedHub_additive, hperm, hswap⟩, l, hl, ?_, ?_, ?_⟩
  · rw [← hz, hsame.dynamics hubPoint hsized]
    decide +kernel
  · rw [← hz, hsame.stageCost hubPoint hsized]
    decide +kernel
  · rw [← hz, hdx]
    decide +kernel

end LocalProblem

end ConsensusControl
