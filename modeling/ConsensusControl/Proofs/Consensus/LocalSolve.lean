import ConsensusControl.Proofs.Consensus.Stock

namespace ConsensusControl

variable {α : Type}

namespace Record

variable {family : Family} {r : Record family α} {n dim k : Nat}

theorem sampleAt_of_length {what : String} {values : Vec α} (h : values.length = n * dim) (hk : k < n) :
    sampleAt what values (Trajectory.sampleSize n values) k = .ok (Trajectory.sample dim values k) ∧
      (Trajectory.sample dim values k).length = dim := by
  have hle : (k + 1) * dim ≤ values.length := h ▸ Nat.mul_le_mul_right dim hk
  rw [Trajectory.sampleSize_of_length (by omega) h]
  exact ⟨sampleAt_of_le hle, Trajectory.length_sample hle⟩

theorem xAt_of_length (ht : r.t.length = n) (hx : r.x.length = n * dim) (hk : k < n) :
    r.xAt k = .ok (Trajectory.sample dim r.x k) ∧ (Trajectory.sample dim r.x k).length = dim := by
  subst ht
  exact sampleAt_of_length hx hk

theorem uAt_of_length (ht : r.t.length = n) (hu : r.u.length = n * dim) (hk : k < n) :
    r.uAt k = .ok (Trajectory.sample dim r.u k) ∧ (Trajectory.sample dim r.u k).length = dim := by
  subst ht
  exact sampleAt_of_length hu hk

end Record

namespace LocalProblem

variable {p : LocalProblem α} {samples : Nat}

/-- The agent's prediction and the records of its neighbors span the horizon. -/
structure Stocked (samples : Nat) (p : LocalProblem α) : Prop where
  indexed : p.Indexed
  state : p.agent.agentState.Spans samples ⟨p.agent.nx, p.agent.nu, 0⟩
  neighbors : ∀ nb ∈ p.agent.neighbors, nb.Stocked samples p.agent.nx p.agent.nu

namespace Stocked

theorem guessState (h : p.Stocked samples) (hsamples : 0 < samples) :
    ∃ x0, p.guessState = .ok x0 := by
  obtain ⟨hown, hlength⟩ := Record.xAt_of_length h.state.t h.state.x hsamples
  refine exists_bind_eq_ok ⟨_, hown⟩ fun own hown' => ?_
  obtain rfl := Except.ok.inj (hown.symm.trans hown')
  refine exists_bind_eq_ok ⟨_, requireSize_eq_ok.mpr ⟨hlength.trans h.indexed.nxOwn.symm, rfl⟩⟩ fun _ _ =>
    exists_bind_eq_ok (exists_mapM_eq_ok fun q hq => ?_) fun copies _ => ⟨_, rfl⟩
  obtain ⟨nb, b⟩ := q
  obtain ⟨ht, hx, -⟩ :=
    (h.neighbors nb (List.of_mem_zip hq).1).received.latest .agentState (by simp)
  obtain ⟨hs, hlength⟩ := Record.xAt_of_length ht hx hsamples
  exact ⟨_, bind_eq_ok.mpr ⟨_, hs,
    requireSize_eq_ok.mpr ⟨hlength.trans (h.indexed.sizes hq).1.symm, rfl⟩⟩⟩

/-- A control sample of the guess has the own controls of that sample, then those of the copies with what
influences them. -/
theorem guessControl (h : p.Stocked samples) {k : Nat} (hk : k < samples) :
    p.guessControl k = .ok (Trajectory.sample p.agent.nu p.agent.agentState.u k ++
      p.agent.neighbors.flatMap fun nb => Trajectory.sample nb.nu nb.localCopy.u k ++
        Trajectory.sample nb.nx nb.localCopy.v k) := by
  obtain ⟨hown, hlength⟩ := Record.uAt_of_length h.state.t h.state.u hk
  refine bind_eq_ok.mpr ⟨_, hown, bind_eq_ok.mpr
    ⟨_, requireSize_eq_ok.mpr ⟨hlength.trans h.indexed.nuOwn.symm, rfl⟩, bind_eq_ok.mpr
      ⟨p.agent.neighbors.map fun nb => Trajectory.sample nb.nu nb.localCopy.u k ++
        Trajectory.sample nb.nx nb.localCopy.v k, mapM_eq_ok.mpr ?_, rfl⟩⟩⟩
  rw [← h.indexed.map_fst_pairs, List.map_map, List.forall₂_map_right_iff, List.forall₂_same]
  intro q hq
  obtain ⟨nb, b⟩ := q
  have hcopy := (h.neighbors nb (List.of_mem_zip hq).1).owned.copy
  obtain ⟨-, hu, hv⟩ := h.indexed.sizes hq
  obtain ⟨hs, hlength⟩ := Record.uAt_of_length hcopy.t hcopy.u hk
  have hinfluence : (k + 1) * nb.nx ≤ nb.localCopy.v.length := by
    rw [hcopy.v]
    exact Nat.mul_le_mul_right _ hk
  dsimp only at hv ⊢
  rw [hv]
  exact bind_eq_ok.mpr ⟨_, hs, bind_eq_ok.mpr ⟨_, requireSize_eq_ok.mpr ⟨hlength.trans hu.symm, rfl⟩,
    bind_eq_ok.mpr ⟨_, Record.sampleAt_of_le hinfluence, rfl⟩⟩⟩

theorem guess (h : p.Stocked samples) (hsamples : 0 < samples) : ∃ g, p.guess samples = .ok g :=
  exists_bind_eq_ok (h.guessState hsamples) fun _ _ =>
    exists_bind_eq_ok (exists_mapM_eq_ok fun _ hk => ⟨_, h.guessControl (List.mem_range.mp hk)⟩)
      fun _ _ => ⟨_, rfl⟩

end Stocked

theorem length_solutionPoints (p : LocalProblem α) (s : LocalSolution α) :
    (p.solutionPoints s).length = s.t.length := by
  simp [solutionPoints, Trajectory.samples]

theorem length_flatMap_read_le (points : List (Point α)) (b : Block) (f : Point α → Vec α) :
    (points.flatMap fun z => b.read (f z)).length ≤ points.length * b.size := by
  induction points with
  | nil => simp
  | cons z points ih =>
    have hread : (b.read (f z)).length ≤ b.size := by
      rw [Block.length_read]
      exact Nat.min_le_left _ _
    rw [List.flatMap_cons, List.length_append, List.length_cons, Nat.succ_mul]
    omega

theorem overwrite_of_points {p : LocalProblem α} {s : LocalSolution α} {what : String}
    {old : Vec α} {b : Block} {f : Point α → Vec α} (h : old.length = s.t.length * b.size) :
    ∃ new, Vec.overwrite what old ((p.solutionPoints s).flatMap fun z => b.read (f z)) = .ok new := by
  have hle := length_flatMap_read_le (p.solutionPoints s) b f
  rw [length_solutionPoints, ← h] at hle
  exact ⟨_, bind_eq_ok.mpr ⟨(), Checked.require_eq_ok.mpr hle, rfl⟩⟩

variable [Scalar α]

theorem Stocked.storeCopy (h : p.Stocked samples) {s : LocalSolution α} (ht : s.t.length = samples)
    (t0 : α) {q : Neighbor α × NeighborBlock} (hq : q ∈ p.pairs) :
    ∃ nb', p.storeCopy s t0 q.1 q.2 = .ok nb' := by
  have hcopy := (h.neighbors q.1 (List.of_mem_zip hq).1).owned.copy
  obtain ⟨hx, hu, hv⟩ := h.indexed.sizes hq
  exact exists_bind_eq_ok (overwrite_of_points (by rw [hcopy.x, ht, hx])) fun _ _ =>
    exists_bind_eq_ok (overwrite_of_points (by rw [hcopy.u, ht, hu])) fun _ _ =>
      exists_bind_eq_ok (overwrite_of_points (by rw [hcopy.v, ht, hv])) fun _ _ => ⟨_, rfl⟩

theorem Stocked.store (h : p.Stocked samples) {s : LocalSolution α} (ht : s.t.length = samples) :
    ∃ a, p.store s = .ok a := by
  refine exists_bind_eq_ok (overwrite_of_points ?_) fun _ _ =>
    exists_bind_eq_ok (overwrite_of_points ?_) fun _ _ =>
      exists_bind_eq_ok (exists_mapM_eq_ok fun q hq => h.storeCopy ht _ hq) fun _ _ => ⟨_, rfl⟩
  · rw [h.state.x, ht]
    exact congrArg _ h.indexed.nxOwn.symm
  · rw [h.state.u, ht]
    exact congrArg _ h.indexed.nuOwn.symm

/-- The influence on an agent has its dimension wherever the neighbors couple into it. -/
theorem length_influence (hnodup : p.agent.neighborIds.Nodup)
    (hcouplings : ∀ link ∈ p.agent.links, ∀ f, link.relation.sending = some f →
      f.dynamics.KeepsLength)
    {nb : Neighbor α} (hnb : nb ∈ p.agent.neighbors) (happrox : nb.approximated = true)
    (z : Point α) : ((p.influence nb.id z).getD []).length = p.agent.nx := by
  have hothers : ∀ q ∈ (p.surroundings nb).others, q.1.dynamics.KeepsLength := by
    intro q hq
    obtain ⟨⟨k, b⟩, hmem, hsome⟩ := List.mem_filterMap.mp hq
    dsimp only at hsome
    split at hsome
    · cases hsome
    · obtain ⟨f, hf, rfl⟩ := Option.map_eq_some_iff.mp hsome
      exact hcouplings k.link (List.mem_map.mpr ⟨k, (List.of_mem_zip hmem).1, rfl⟩) f hf
  have hfold : ∀ (qs : List (CouplingModel α × NeighborBlock)) (out : Vec α),
      (∀ q ∈ qs, q.1.dynamics.KeepsLength) →
      (qs.foldl (fun out q => q.1.dynamics.value ((p.surroundings nb).sendingPoint q.2 z) out)
        out).length = out.length := by
    intro qs
    induction qs with
    | nil => exact fun _ _ => rfl
    | cons q qs ih =>
      intro out hqs
      rw [List.foldl_cons, ih _ fun r hr => hqs r (List.mem_cons_of_mem _ hr)]
      exact hqs q (by simp) _ _
  have hfound : p.agent.neighbor? nb.id = some nb := Agent.neighbor?_of_mem hnodup hnb
  simp only [influence, hfound, Option.bind_some, neighborInfluence, happrox, if_true,
    Option.getD_some]
  exact (hfold _ _ hothers).trans (Vec.length_zeros _)

theorem length_influenceAlong (hnodup : p.agent.neighborIds.Nodup)
    (hcouplings : ∀ link ∈ p.agent.links, ∀ f, link.relation.sending = some f →
      f.dynamics.KeepsLength)
    {nb : Neighbor α} (hnb : nb ∈ p.agent.neighbors) (s : LocalSolution α) {v : Vec α}
    (h : p.influenceAlong s nb = some v) : v.length = s.t.length * p.agent.nx := by
  unfold influenceAlong at h
  split at h
  · next happrox =>
    obtain rfl := Option.some.inj h
    rw [← length_solutionPoints p s]
    induction p.solutionPoints s with
    | nil => simp
    | cons z points ih =>
      rw [List.flatMap_cons, List.length_append, ih, length_influence hnodup hcouplings hnb happrox,
        List.length_cons, Nat.succ_mul, Nat.add_comm]
  · cases h

/-- A neighbor whose copy and influence have been stored is as well stocked as before. -/
theorem Stocked.copied (h : p.Stocked samples)
    (hcouplings : ∀ link ∈ p.agent.links, ∀ f, link.relation.sending = some f →
      f.dynamics.KeepsLength)
    {s : LocalSolution α} (ht : s.t.length = samples) {t0 : α} {nb nb' : Neighbor α}
    {b : NeighborBlock} (hnb : nb ∈ p.agent.neighbors) (hcopy : p.storeCopy s t0 nb b = .ok nb') :
    nb'.Stocked samples p.agent.nx p.agent.nu := by
  obtain ⟨htime, hx, hu, hv⟩ := storeCopy_lengths hcopy
  obtain ⟨copy, rfl⟩ := storeCopy_influence hcopy
  obtain ⟨⟨hlatest, hpreviousCoupling, hpreviousExternal⟩, howned⟩ := h.neighbors nb hnb
  refine ⟨⟨hlatest, hpreviousCoupling, hpreviousExternal⟩, ⟨⟨?_, hx.trans howned.copy.x,
    hu.trans howned.copy.u, hv.trans howned.copy.v⟩, ?_, howned.coupling, howned.prices,
    howned.weights, howned.copyPrices, howned.copyWeights⟩⟩
  · exact (congrArg List.length htime).trans ht
  · cases hinfluence : p.influenceAlong s nb with
    | none =>
      exact howned.influence
    | some v =>
      exact ht ▸ length_influenceAlong h.indexed.nodup hcouplings hnb s hinfluence

theorem Stocked.stored (h : p.Stocked samples)
    (hcouplings : ∀ link ∈ p.agent.links, ∀ f, link.relation.sending = some f →
      f.dynamics.KeepsLength)
    {s : LocalSolution α} (ht : s.t.length = samples) {a : Agent α} (hstore : p.store s = .ok a) :
    a.agentState.Spans samples ⟨p.agent.nx, p.agent.nu, 0⟩ ∧
      ∀ nb' ∈ a.neighbors, nb'.Stocked samples p.agent.nx p.agent.nu := by
  obtain ⟨x, u, hx, hu, hstate⟩ := store_state hstore
  refine ⟨?_, fun nb' hnb' => ?_⟩
  · rw [hstate]
    exact ⟨ht, (Vec.overwrite_eq_ok hx).2.trans h.state.x, (Vec.overwrite_eq_ok hu).2.trans h.state.u,
      h.state.v⟩
  · obtain ⟨nb, hnb, b, hcopy⟩ :=
      forall₂_mem_right (store_copies h.indexed.length_blocks hstore) hnb'
    exact h.copied hcouplings ht hnb hcopy

end LocalProblem

namespace Controller

variable [Scalar α] {c : Controller α}

theorem Operable.of_problem (hc : c.Operable) {layout : Layout} (hlayout : c.layout = some layout) :
    LocalProblem.of c.agent layout = .ok ⟨c.agent, layout⟩ ∧
      (⟨c.agent, layout⟩ : LocalProblem α).Stocked c.options.horizonSteps := by
  obtain ⟨_, hsome, hindex⟩ := hc.layout
  obtain rfl : layout = _ := Option.some.inj (hlayout.symm.trans hsome)
  have hindexed : (⟨c.agent, layout⟩ : LocalProblem α).Indexed := hindex
  exact ⟨bind_eq_ok.mpr ⟨(), Checked.require_eq_ok.mpr hindexed.ids, rfl⟩,
    hindexed, hc.stocked.state, hc.stocked.neighbors⟩

/-- A local solve comes to an end if the solver does. -/
theorem Operable.attempt (hc : c.Operable) {layout : Layout} (hlayout : c.layout = some layout)
    (hsolver : ∀ problem guess, ∃ answer, c.solver problem guess c.options = .ok answer) :
    ∃ answer, c.attempt layout = .ok answer := by
  obtain ⟨hof, hstocked⟩ := hc.of_problem hlayout
  have hsamples : 2 ≤ c.options.horizonSteps := Options.samples_of_valid hc.valid
  obtain ⟨guess, hguess⟩ := hstocked.guess (by omega)
  refine exists_bind_eq_ok ⟨_, hof⟩ fun p hp => ?_
  obtain rfl := Except.ok.inj (hof.symm.trans hp)
  refine exists_bind_eq_ok ⟨guess, hguess⟩ fun g _ =>
    exists_bind_eq_ok (hsolver _ g) fun answer _ => ?_
  cases answer with
  | error e => exact ⟨.error e, rfl⟩
  | ok s =>
    dsimp only
    split
    · next e _ => exact ⟨.error e, rfl⟩
    · next hcheck =>
      have ht := (LocalSolution.check_eq_ok.mp hcheck).t
      exact exists_bind_eq_ok (hstocked.store ht) fun a _ => ⟨.ok (s, a), rfl⟩

/-- Whatever becomes of a local solve, the controller stays operable. -/
theorem Operable.solved (hc : c.Operable) : c.updateAgentStates.1.Operable := by
  have hsite := site_updateAgentStates c
  have hkept := layout_updateAgentStates c
  obtain ⟨state, neighbors, _, _, _, _, heq, -⟩ := c.updateAgentStates_eq
  have hnew : c.updateAgentStates.1.agent.agentState.Spans c.options.horizonSteps
        ⟨c.agent.nx, c.agent.nu, 0⟩ ∧ ∀ nb ∈ c.updateAgentStates.1.agent.neighbors,
        nb.Stocked c.options.horizonSteps c.agent.nx c.agent.nu := by
    rcases c.updateAgentStates_cases with hsame | ⟨layout', s, hlayout', hattempt⟩
    · rw [hsame]
      exact ⟨hc.stocked.state, hc.stocked.neighbors⟩
    · obtain ⟨hof, hstocked⟩ := hc.of_problem hlayout'
      obtain ⟨p, _, hp, -, -, hcheck, hstore⟩ := attempt_eq_ok hattempt
      obtain rfl := Except.ok.inj (hof.symm.trans hp)
      exact hstocked.stored hc.couplings (LocalSolution.check_eq_ok.mp hcheck).t hstore
  obtain ⟨-, hcoupling, hprices, hweights, -, hprevious, hcount, hinfluences⟩ := hc.stocked
  obtain ⟨hstate, hneighbors⟩ := hnew
  have hlength := length_neighbors hsite
  refine hc.of_site hsite hkept ?_
  rw [heq] at hstate hneighbors hlength ⊢
  exact ⟨hstate, hcoupling, hprices, hweights, hneighbors, hprevious,
    hcount.trans hlength.symm, hinfluences⟩

theorem Operable.updateAgentStates (hc : c.Operable)
    (hsolver : ∀ problem guess, ∃ answer, c.solver problem guess c.options = .ok answer) :
    (∃ answer, c.updateAgentStates.2 = .ok answer) ∧ c.updateAgentStates.1.Operable := by
  obtain ⟨layout, hlayout, -⟩ := hc.layout
  obtain ⟨answer, hanswer⟩ := hc.attempt hlayout hsolver
  refine ⟨?_, hc.solved⟩
  rw [updateAgentStates_result hlayout, hanswer]
  exact ⟨_, rfl⟩

end Controller

end ConsensusControl
