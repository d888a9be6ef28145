import ConsensusControl.Problem.Extended
import ConsensusControl.Proofs.Agent
import ConsensusControl.Proofs.Checked
import ConsensusControl.Proofs.IndexMap
import ConsensusControl.Proofs.Pointwise

namespace ConsensusControl

variable {α : Type}

/-- A neighbor that is found stands in one place among the pairs, and so does its block. -/
theorem zip_split {nbs : List (Neighbor α)} {bs : List NeighborBlock} {id : AgentId}
    {nb : Neighbor α} (hids : nbs.map (·.id) = bs.map (·.id))
    (h : nbs.find? (·.id == id) = some nb) :
    ∃ front b rest, nbs.zip bs = front ++ (nb, b) :: rest ∧ bs.find? (·.id == id) = some b ∧
      ∀ f, (Agent.modifyFirst id f nbs).zip bs = front ++ (f nb, b) :: rest := by
  induction nbs generalizing bs with
  | nil => simp at h
  | cons k nbs ih =>
    cases bs with
    | nil => simp at hids
    | cons b bs =>
      obtain ⟨hb, hrest⟩ := List.cons.inj hids
      dsimp only at hb
      by_cases hk : k.id = id
      · obtain rfl : k = nb := by simpa [hk] using h
        refine ⟨[], b, nbs.zip bs, rfl, by simp [← hb, hk], ?_⟩
        intro f
        simp [Agent.modifyFirst, hk]
      · obtain ⟨front, b', rest, hzip, hfound, hmodify⟩ := ih hrest (by simpa [hk] using h)
        refine ⟨(k, b) :: front, b', rest, by simp [hzip], by simpa [← hb, hk] using hfound, ?_⟩
        intro f
        simp [Agent.modifyFirst, hk, hmodify]

/-- A pair of segments goes with the control and the influence block of a neighbor. -/
theorem forall₂_controls {R : Block → List α → Prop} {blocks : List NeighborBlock}
    {segments : List (List α × List α)} :
    List.Forall₂ R (blocks.flatMap fun b => [b.u, b.v]) (segments.flatMap fun s => [s.1, s.2]) ↔
      List.Forall₂ (fun b s => R b.u s.1 ∧ R b.v s.2) blocks segments := by
  induction blocks generalizing segments with
  | nil => cases segments <;> simp
  | cons b bs ih => cases segments <;> simp [ih, and_assoc]

theorem Agent.indexMap_of_layout [Scalar α] {a : Agent α} {l : Layout} (h : a.layout = .ok l) :
    a.indexMap = .ok l.index := by
  obtain ⟨index, hindex, hpure⟩ := bind_eq_ok.mp h
  rw [hindex, ← Except.ok.inj hpure]

/-- A problem is only put together with a layout of the same neighbors. -/
theorem LocalProblem.of_eq_ok {a : Agent α} {l : Layout} {p : LocalProblem α}
    (h : LocalProblem.of a l = .ok p) :
    a.neighborIds = l.index.blocks.map (·.id) ∧ p = ⟨a, l⟩ := by
  unfold LocalProblem.of at h
  obtain ⟨⟨⟩, hids, h⟩ := bind_eq_ok.mp h
  exact ⟨Checked.require_eq_ok.mp hids, (pure_eq_ok.mp h).symm⟩

/-- The layout is that of the agent as it is. -/
def LocalProblem.Indexed (p : LocalProblem α) : Prop := p.agent.indexMap = .ok p.index

namespace LocalProblem.Indexed

variable {p : LocalProblem α}

theorem index_eq (h : p.Indexed) : p.index = .laid p.agent.nx p.agent.nu p.agent.entries :=
  (IndexMap.build_eq_ok h).2.2.2

theorem nxOwn (h : p.Indexed) : p.index.nxOwn = p.agent.nx := by
  rw [h.index_eq]
  rfl

theorem nuOwn (h : p.Indexed) : p.index.nuOwn = p.agent.nu := by
  rw [h.index_eq]
  rfl

theorem blocks (h : p.Indexed) :
    p.index.blocks = IndexMap.stack p.agent.nx p.agent.nu p.agent.entries := by
  rw [h.index_eq]
  rfl

theorem ids (h : p.Indexed) : p.agent.neighbors.map (·.id) = p.index.blocks.map (·.id) := by
  rw [h.blocks, IndexMap.ids_stack]
  simp [Agent.entries, Function.comp_def]

theorem nx (h : p.Indexed) : p.index.nx = p.agent.nx + (p.agent.neighbors.map (·.nx)).sum := by
  have hentries : (p.agent.entries.map (·.nx)).sum = (p.agent.neighbors.map (·.nx)).sum := by
    rw [Agent.entries, List.map_map]
    rfl
  rw [h.index_eq, ← hentries]
  rfl

theorem nu (h : p.Indexed) :
    p.index.nu = p.agent.nu + (p.agent.neighbors.map fun nb => nb.nu + nb.nx).sum := by
  have hentries : (p.agent.entries.map fun e => e.nu + e.nx).sum =
      (p.agent.neighbors.map fun nb => nb.nu + nb.nx).sum := by
    rw [Agent.entries, List.map_map]
    rfl
  rw [h.index_eq, ← hentries]
  rfl

end LocalProblem.Indexed

namespace LocalProblem.Indexed

variable {p : LocalProblem α} {q : Neighbor α × NeighborBlock}

theorem length_blocks (h : p.Indexed) : p.agent.neighbors.length = p.index.blocks.length := by
  simpa using congrArg List.length h.ids

theorem nodup (h : p.Indexed) : p.agent.neighborIds.Nodup := by
  rw [Agent.neighborIds, h.ids]
  exact IndexMap.nodup_of_build h

theorem map_fst_pairs (h : p.Indexed) : p.pairs.map Prod.fst = p.agent.neighbors :=
  List.map_fst_zip (Nat.le_of_eq h.length_blocks)

theorem map_snd_pairs (h : p.Indexed) : p.pairs.map Prod.snd = p.index.blocks :=
  List.map_snd_zip (Nat.le_of_eq h.length_blocks.symm)

theorem ids_pairs (h : p.Indexed) : p.pairs.map (·.1.id) = p.agent.neighborIds := by
  rw [Agent.neighborIds, ← h.map_fst_pairs, List.map_map]
  rfl

/-- What holds of every block and what a neighbor has for it. -/
theorem forall₂_blocks (h : p.Indexed) {β : Type} {R : NeighborBlock → β → Prop}
    {f : Neighbor α → β} :
    List.Forall₂ R p.index.blocks (p.agent.neighbors.map f) ↔ ∀ q ∈ p.pairs, R q.2 (f q.1) := by
  rw [← h.map_snd_pairs, ← h.map_fst_pairs, List.map_map, List.forall₂_map_left_iff,
    List.forall₂_map_right_iff, List.forall₂_same]
  rfl

/-- Blocks have the dimensions of their neighbors. -/
theorem sizes (h : p.Indexed) (hq : q ∈ p.pairs) :
    q.2.x.size = q.1.nx ∧ q.2.u.size = q.1.nu ∧ q.2.v.size = q.1.nx := by
  have hfits := IndexMap.fits_stack p.agent.nx p.agent.nu p.agent.entries
  rw [← h.blocks, Agent.entries, List.forall₂_map_left_iff] at hfits
  have hfit := (List.forall₂_iff_zip.mp hfits).2 hq
  exact ⟨hfit.x, hfit.u, hfit.v⟩

/-- Behind the agent's own, the blocks fill the vectors of the extended problem. -/
theorem tiles (h : p.Indexed) :
    Block.Tiles p.agent.nx p.index.nx (p.index.blocks.map (·.x)) ∧
      Block.Tiles p.agent.nu p.index.nu (p.index.blocks.flatMap fun b => [b.u, b.v]) := by
  rw [h.index_eq]
  exact IndexMap.tiles_stack _ _ _

theorem ownX_stop (h : p.Indexed) : p.index.ownX.stop = p.agent.nx := by
  rw [← h.nxOwn]
  exact Nat.zero_add _

/-- Blocks of neighbors lie behind the agent's own and within the layout. -/
theorem within (h : p.Indexed) (hq : q ∈ p.pairs) :
    p.index.ownX.Apart q.2.x ∧ q.2.x.stop ≤ p.index.nx := by
  obtain ⟨hstart, hstop⟩ := h.tiles.1.within (List.mem_map_of_mem (List.of_mem_zip hq).2)
  exact ⟨.inl (Nat.le_trans (Nat.le_of_eq h.ownX_stop) hstart), hstop⟩

theorem apart (h : p.Indexed) : p.pairs.Pairwise fun q r => q.2.x.Apart r.2.x := by
  have hapart := h.tiles.1.apart
  rwa [← h.map_snd_pairs, List.map_map, List.pairwise_map] at hapart

theorem requireStates (h : p.Indexed) : p.requireStates = .ok () :=
  forM_eq_ok fun _ hq => Checked.require_eq_ok.mpr (h.sizes hq).1.symm

theorem requireControls (h : p.Indexed) : p.requireControls = .ok () := by
  refine forM_eq_ok fun q hq => ?_
  obtain ⟨-, hu, hv⟩ := h.sizes hq
  exact bind_eq_ok.mpr ⟨(), Checked.require_eq_ok.mpr hv.symm, Checked.require_eq_ok.mpr hu.symm⟩

-- With a layout of its own agent, the extended problem has all its gradients.

theorem stageCostDx_ok [Scalar α] (h : p.Indexed) (z : Point α) :
    p.toProblem.stageCostDx z = .ok (p.addStageCostDx z (Vec.zeros p.index.nx)) := by
  dsimp only [toProblem]
  rw [h.requireStates]
  split <;> rfl

theorem stageCostDu_ok [Scalar α] (h : p.Indexed) (z : Point α) :
    p.toProblem.stageCostDu z = .ok (p.addStageCostDu z (Vec.zeros p.index.nu)) :=
  bind_eq_ok.mpr ⟨(), h.requireControls, rfl⟩

theorem terminalCostDx_ok [Scalar α] (h : p.Indexed) (t : α) (x : Vec α) :
    p.toProblem.terminalCostDx t x = .ok (p.addTerminalCostDx t x (Vec.zeros p.index.nx)) := by
  dsimp only [toProblem]
  rw [h.requireStates]
  split <;> rfl

/-- The blocks cut a state of the extended problem up. -/
theorem state_blocks (h : p.Indexed) {xs : Vec α} (hxs : xs.length = p.index.nx) :
    p.index.ownX.read xs ++ p.index.blocks.flatMap (fun b => b.x.read xs) = xs := by
  have hread := (hxs ▸ h.tiles.1).flatMap_read
  rw [List.flatMap_map] at hread
  rw [hread, IndexMap.ownX, Block.read, List.drop_zero, h.nxOwn, List.take_append_drop]

/-- The blocks cut a control of the extended problem up. -/
theorem control_blocks (h : p.Indexed) {us : Vec α} (hus : us.length = p.index.nu) :
    p.index.ownU.read us ++ p.index.blocks.flatMap (fun b => b.u.read us ++ b.v.read us) = us := by
  have hread := (hus ▸ h.tiles.2).flatMap_read
  simp only [List.flatMap_assoc, List.flatMap_cons, List.flatMap_nil, List.append_nil] at hread
  rw [hread, IndexMap.ownU, Block.read, List.drop_zero, h.nuOwn, List.take_append_drop]

/-- State segments that fill their blocks are found there. -/
theorem read_states (h : p.Indexed) {own : Vec α} {segments : List (Vec α)} (hown : own.length = p.agent.nx)
    (hsizes : List.Forall₂ (fun b s => s.length = b.x.size) p.index.blocks segments) :
    List.Forall₂ (fun b s => b.x.read (own ++ segments.flatten) = s) p.index.blocks segments := by
  have hblocks : List.Forall₂ (fun b s => s.length = b.size) (p.index.blocks.map (·.x)) segments :=
    List.forall₂_map_left_iff.mpr hsizes
  have hread := h.tiles.1.read_flatten hown hblocks
  rwa [List.forall₂_map_left_iff] at hread

/-- Control and influence segments that fill their blocks are found there. -/
theorem read_controls (h : p.Indexed) {own : Vec α} {segments : List (Vec α × Vec α)}
    (hown : own.length = p.agent.nu)
    (hsizes : List.Forall₂ (fun b s => s.1.length = b.u.size ∧ s.2.length = b.v.size) p.index.blocks
      segments) :
    List.Forall₂ (fun b s => b.u.read (own ++ (segments.map fun s => s.1 ++ s.2).flatten) = s.1 ∧
      b.v.read (own ++ (segments.map fun s => s.1 ++ s.2).flatten) = s.2) p.index.blocks segments := by
  have hflatten : (segments.map fun s => s.1 ++ s.2).flatten =
      (segments.flatMap fun s => [s.1, s.2]).flatten := by
    simp [List.flatMap, List.flatten_flatten, Function.comp_def]
  rw [hflatten]
  exact forall₂_controls.mp (h.tiles.2.read_flatten hown (forall₂_controls.mpr hsizes))

theorem pairs_split (h : p.Indexed) {id : AgentId} {nb : Neighbor α}
    (hnb : p.agent.neighbor? id = some nb) :
    ∃ front b back, p.pairs = front ++ (nb, b) :: back ∧ p.index.block? id = some b ∧
      ∀ f, (Agent.modifyFirst id f p.agent.neighbors).zip p.index.blocks = front ++ (f nb, b) :: back := by
  rw [p.index.block?_eq_find?]
  exact zip_split h.ids hnb

/-- A neighbor and its block are found under the same id. -/
theorem block?_of_neighbor? (h : p.Indexed) {id : AgentId} {nb : Neighbor α}
    (hnb : p.agent.neighbor? id = some nb) : ∃ b, p.index.block? id = some b ∧ (nb, b) ∈ p.pairs := by
  obtain ⟨front, b, back, hpairs, hb, -⟩ := h.pairs_split hnb
  exact ⟨b, hb, hpairs ▸ List.mem_append_cons_self⟩

theorem block?_of_mem (h : p.Indexed) (hq : q ∈ p.pairs) : p.index.block? q.1.id = some q.2 := by
  obtain ⟨b, hb, hmem⟩ := h.block?_of_neighbor? (Agent.neighbor?_of_mem h.nodup (List.of_mem_zip hq).1)
  have hnodup := h.nodup
  rw [← h.ids_pairs] at hnodup
  have hsame := List.inj_on_of_nodup_map hnodup hmem hq rfl
  rw [← hsame]
  exact hb

end LocalProblem.Indexed

end ConsensusControl
