import ConsensusControl.Proofs.Consensus.Evolution
import ConsensusControl.Proofs.Problem.Layout

namespace ConsensusControl

variable {α : Type} [Scalar α]

namespace Controller

/-- A layout, if there is one, is that of the agent as it is. -/
def Indexed (c : Controller α) : Prop :=
  ∀ layout, c.layout = some layout → c.agent.indexMap = .ok layout.index

omit [Scalar α] in
theorem indexMap_of_site {c c' : Controller α} (h : c'.site = c.site) :
    c'.agent.indexMap = c.agent.indexMap := by
  have hid : c'.agent.id = c.agent.id := congrArg Site.id h
  have hmodel : c'.agent.model = c.agent.model := congrArg Site.model h
  have hlinks : c'.agent.links = c.agent.links := congrArg Site.links h
  have hentries : ∀ a : Agent α, a.entries = a.links.map fun l => ⟨l.id, l.model.nx, l.model.nu⟩ := by
    intro a
    simp [Agent.entries, Agent.links, Function.comp_def, Neighbor.link, Neighbor.nx, Neighbor.nu]
  simp only [Agent.indexMap, hentries, hid, hlinks, Agent.nx, Agent.nu, hmodel]

omit [Scalar α] in
theorem Indexed.of_same {c c' : Controller α} (hc : c.Indexed) (hsite : c'.site = c.site)
    (hlayout : c'.layout = c.layout) : c'.Indexed := by
  intro layout h
  rw [indexMap_of_site hsite]
  exact hc layout (hlayout ▸ h)

theorem indexed_prepare {c : Controller α} (hc : c.Indexed) : c.prepare.1.Indexed := by
  have hsite := site_prepare c
  obtain ⟨_, heq⟩ | ⟨-, ⟨_, heq⟩ | ⟨layout, hlayout, heq⟩⟩ := c.prepare_cases
  · rw [heq]
    exact hc
  · rw [heq] at hsite ⊢
    exact hc.of_same hsite rfl
  · rw [heq] at hsite ⊢
    intro layout' h
    obtain rfl : layout = layout' := Option.some.inj h
    have hindex := Agent.indexMap_of_layout hlayout
    rwa [indexMap_of_site hsite]

theorem indexed_shiftHorizon (dt : α) {c : Controller α} (hc : c.Indexed) :
    (c.shiftHorizon dt).1.Indexed := by
  refine hc.of_same (site_shiftHorizon dt c) ?_
  obtain ⟨_, heq⟩ | heq | heq := c.shiftHorizon_cases dt
  · rw [heq]
  · rw [heq]
    rfl
  · rw [heq]
    rfl

theorem Step.indexed {c c' : Controller α} (h : Step c c') (hc : c.Indexed) : c'.Indexed := by
  have hsite := h.site
  cases h with
  | solve =>
    obtain ⟨_, _, _, _, _, _, heq, -, -, -⟩ := c.updateAgentStates_eq
    exact hc.of_same hsite (by rw [heq])
  | couple h =>
    obtain ⟨_, _, _, _, -, -, rfl⟩ := updateCouplingStates_eq_ok h
    exact hc.of_same hsite rfl
  | raise h =>
    obtain ⟨_, _, _, _, -, -, rfl⟩ := updateMultiplierStates_eq_ok h
    exact hc.of_same hsite rfl
  | adapt h =>
    obtain rfl | ⟨_, _, -, -, rfl⟩ := adaptPenalties_eq_ok h
    · exact hc
    · exact hc.of_same hsite rfl
  | receive sender kind r =>
    obtain ⟨_, heq⟩ := c.applyIncoming_frame sender kind r
    rw [heq] at hsite ⊢
    exact hc.of_same hsite rfl
  | finish =>
    obtain ⟨_, -, heq⟩ := c.finishIteration_eq
    exact hc.of_same hsite (by rw [heq])
  | fail => exact hc.of_same hsite rfl
  | start t0 =>
    obtain heq | heq := c.startAt_cases t0
    · rw [heq]
      exact hc
    · rw [heq]
      intro layout h
      simp [modifyAgent] at h
  | prepare => exact indexed_prepare hc
  | begin => exact hc.of_same hsite rfl
  | shift dt => exact indexed_shiftHorizon dt hc
  | restart h =>
    obtain ⟨-, rfl⟩ := setInitialState_eq_ok h
    exact hc.of_same rfl rfl
  | resolve => exact hc.of_same hsite rfl
  | reprice => exact hc.of_same hsite rfl

theorem Evolved.indexed {o : Options α} {c : Controller α} (h : Evolved o c) : c.Indexed := by
  induction h with
  | new => exact fun layout h => by simp [Controller.new] at h
  | step _ hstep ih => exact hstep.indexed ih
  | sync => exact fun layout h => by simp [modifyAgent] at h

/-- The controller starts its next local solve at the guess. -/
def Guesses (c : Controller α) (p : LocalProblem α) (g : Guess α) : Prop :=
  ∃ layout, c.layout = some layout ∧ LocalProblem.of c.agent layout = .ok p ∧
    p.guess c.options.horizonSteps = .ok g

omit [Scalar α] in
theorem Guesses.indexed {c : Controller α} {p : LocalProblem α} {g : Guess α} (h : c.Guesses p g)
    (hc : c.Indexed) : p.Indexed ∧ p.agent = c.agent := by
  obtain ⟨layout, hlayout, hof, -⟩ := h
  obtain ⟨-, rfl⟩ := LocalProblem.of_eq_ok hof
  exact ⟨hc layout hlayout, rfl⟩

end Controller

namespace LocalProblem

omit [Scalar α] in
theorem requireSize_eq_ok {what : String} {size : Nat} {xs ys : Vec α} :
    Vec.requireSize what size xs = .ok ys ↔ xs.length = size ∧ xs = ys := by
  unfold Vec.requireSize
  rw [bind_eq_ok]
  constructor
  · intro h
    obtain ⟨⟨⟩, hsize, h⟩ := h
    exact ⟨Checked.require_eq_ok.mp hsize, pure_eq_ok.mp h⟩
  · intro h
    obtain ⟨hsize, rfl⟩ := h
    exact ⟨⟨⟩, Checked.require_eq_ok.mpr hsize, rfl⟩

omit [Scalar α] in
theorem guessState_eq_ok {p : LocalProblem α} {x0 : Vec α} (h : p.guessState = .ok x0) :
    ∃ own copies, p.agent.agentState.xAt 0 = .ok own ∧ own.length = p.index.nxOwn ∧
      List.Forall₂ (fun (q : Neighbor α × NeighborBlock) s =>
        q.1.agentState.xAt 0 = .ok s ∧ s.length = q.2.x.size) p.pairs copies ∧
      x0 = own ++ copies.flatten := by
  unfold guessState at h
  obtain ⟨own, hown, h⟩ := bind_eq_ok.mp h
  obtain ⟨_, hrequired, h⟩ := bind_eq_ok.mp h
  obtain ⟨hsize, rfl⟩ := requireSize_eq_ok.mp hrequired
  obtain ⟨copies, hcopies, h⟩ := bind_eq_ok.mp h
  refine ⟨own, copies, hown, hsize, (mapM_eq_ok.mp hcopies).imp ?_, (pure_eq_ok.mp h).symm⟩
  intro pair s hs
  obtain ⟨nb, b⟩ := pair
  obtain ⟨s', hs', hrequired⟩ := bind_eq_ok.mp hs
  obtain ⟨hsize, rfl⟩ := requireSize_eq_ok.mp hrequired
  exact ⟨hs', hsize⟩

omit [Scalar α] in
/-- The guess starts from where the agent is, and its copies from where the neighbors said they are. -/
theorem Indexed.read_guess {p : LocalProblem α} (hp : p.Indexed) {samples : Nat} {g : Guess α}
    (h : p.guess samples = .ok g) :
    p.agent.agentState.xAt 0 = .ok (p.index.ownX.read g.x0) ∧
      ∀ j nb, p.agent.neighbor? j = some nb →
        ∃ b, p.index.block? j = some b ∧ nb.agentState.xAt 0 = .ok (b.x.read g.x0) := by
  unfold guess at h
  obtain ⟨x0, hx0, h⟩ := bind_eq_ok.mp h
  obtain ⟨u, -, h⟩ := bind_eq_ok.mp h
  obtain rfl := pure_eq_ok.mp h
  obtain ⟨own, copies, hown, hlength, hcopies, rfl⟩ := guessState_eq_ok hx0
  have hsizes : List.Forall₂ (fun b s => s.length = b.x.size) p.index.blocks copies := by
    rw [← hp.map_snd_pairs, List.forall₂_map_left_iff]
    exact hcopies.imp fun _ _ hs => hs.2
  have hread := hp.read_states (hlength.trans hp.nxOwn) hsizes
  rw [← hp.map_snd_pairs, List.forall₂_map_left_iff] at hread
  constructor
  · rw [hown]
    have hself : p.index.ownX.read (own ++ copies.flatten) = own := by
      simp [IndexMap.ownX, Block.read, ← hlength]
    rw [hself]
  · intro j nb hnb
    obtain ⟨b, hb, hmem⟩ := hp.block?_of_neighbor? hnb
    obtain ⟨s, -, ⟨hs, -⟩, hsread⟩ := forall₂_mem_left (forall₂_and hcopies hread) hmem
    exact ⟨b, hb, by rw [hs, ← hsread]⟩

end LocalProblem

end ConsensusControl
