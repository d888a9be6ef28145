import Mathlib.Algebra.BigOperators.Ring.List
import ConsensusControl.Proofs.Consensus.Atomicity
import ConsensusControl.Proofs.Solver.Descent

namespace ConsensusControl

variable {α : Type}

namespace Trajectory

/-- Several trajectories with their dimensions, at one grid point after the other. -/
def interleave (n : Nat) (parts : List (Nat × Vec α)) : Vec α :=
  (List.range n).flatMap fun k => parts.flatMap fun p => sample p.1 p.2 k

/-- Nothing of the parts is lost and nothing doubled. -/
theorem interleave_perm {n : Nat} {parts : List (Nat × Vec α)}
    (h : ∀ p ∈ parts, p.2.length = n * p.1) : (interleave n parts).Perm (parts.flatMap (·.2)) := by
  induction parts with
  | nil => simp [interleave]
  | cons p parts ih =>
    obtain ⟨hp, hparts⟩ := List.forall_mem_cons.mp h
    have hfirst : (List.range n).flatMap (sample p.1 p.2) = p.2 := flatten_samples hp
    have hsplit := List.flatMap_append_perm (List.range n) (sample p.1 p.2)
      fun k => parts.flatMap fun p => sample p.1 p.2 k
    rw [hfirst] at hsplit
    exact hsplit.symm.trans ((ih hparts).append_left _)

theorem length_interleave {n : Nat} {parts : List (Nat × Vec α)}
    (h : ∀ p ∈ parts, p.2.length = n * p.1) :
    (interleave n parts).length = n * (parts.map (·.1)).sum := by
  rw [(interleave_perm h).length_eq, List.length_flatMap, ← List.sum_map_mul_left]
  exact congrArg List.sum (List.map_congr_left h)

theorem interleave_eq {n dim : Nat} {parts : List (Nat × Vec α)} {values : Vec α}
    (hvalues : values.length = n * dim)
    (h : ∀ k < n, (parts.flatMap fun p => sample p.1 p.2 k) = sample dim values k) :
    interleave n parts = values := by
  calc interleave n parts = (List.range n).flatMap (sample dim values) :=
        List.flatMap_congr fun k hk => h k (List.mem_range.mp hk)
    _ = values := flatten_samples hvalues

end Trajectory

namespace Agent

/-- What an agent plans for the states of its extended problem, with the dimensions. -/
def stateParts (a : Agent α) : List (Nat × Vec α) :=
  (a.nx, a.agentState.x) :: a.neighbors.map fun nb => (nb.nx, nb.localCopy.x)

/-- What an agent plans for the controls of its extended problem, with the dimensions. -/
def controlParts (a : Agent α) : List (Nat × Vec α) :=
  (a.nu, a.agentState.u) ::
    a.neighbors.flatMap fun nb => [(nb.nu, nb.localCopy.u), (nb.nx, nb.localCopy.v)]

/-- A control sample of all parts. -/
theorem sample_controlParts (a : Agent α) (k : Nat) :
    (a.controlParts.flatMap fun q => Trajectory.sample q.1 q.2 k) =
      Trajectory.sample a.nu a.agentState.u k ++
        a.neighbors.flatMap fun nb => Trajectory.sample nb.nu nb.localCopy.u k ++
          Trajectory.sample nb.nx nb.localCopy.v k := by
  simp [controlParts, List.flatMap_assoc]

/-- A state sample of all parts. -/
theorem sample_stateParts (a : Agent α) (k : Nat) :
    (a.stateParts.flatMap fun q => Trajectory.sample q.1 q.2 k) =
      Trajectory.sample a.nx a.agentState.x k ++
        a.neighbors.flatMap fun nb => Trajectory.sample nb.nx nb.localCopy.x k := by
  simp [stateParts, List.flatMap_map]

end Agent

namespace LocalProblem

variable {p : LocalProblem α} {n : Nat}

namespace Stocked

theorem complete_controls (h : p.Stocked n) : ∀ q ∈ p.agent.controlParts, q.2.length = n * q.1 := by
  intro q hq
  rcases List.mem_cons.mp hq with rfl | hq
  · exact h.state.u
  · obtain ⟨nb, hnb, hq⟩ := List.mem_flatMap.mp hq
    have hcopy := (h.neighbors nb hnb).owned.copy
    rcases List.mem_cons.mp hq with rfl | hq
    · exact hcopy.u
    · obtain rfl := List.mem_singleton.mp hq
      exact hcopy.v

theorem complete_states (h : p.Stocked n) : ∀ q ∈ p.agent.stateParts, q.2.length = n * q.1 := by
  intro q hq
  rcases List.mem_cons.mp hq with rfl | hq
  · exact h.state.x
  · obtain ⟨nb, hnb, rfl⟩ := List.mem_map.mp hq
    exact (h.neighbors nb hnb).owned.copy.x

/-- The controls of a guess are those that the agent has planned. -/
theorem guess_controls (h : p.Stocked n) {g : Guess α} (hg : p.guess n = .ok g) :
    g.u = Trajectory.interleave n p.agent.controlParts := by
  obtain ⟨x0, -, hg⟩ := bind_eq_ok.mp hg
  obtain ⟨rows, hrows, hg⟩ := bind_eq_ok.mp hg
  obtain rfl := pure_eq_ok.mp hg
  have hsamples : List.Forall₂ (fun parts row => row = parts) ((List.range n).map fun k =>
      p.agent.controlParts.flatMap fun q => Trajectory.sample q.1 q.2 k) rows := by
    refine List.forall₂_map_left_iff.mpr ((forall₂_and_mem (mapM_eq_ok.mp hrows)).imp ?_)
    rintro k row ⟨hk, hrow⟩
    rw [h.guessControl (List.mem_range.mp hk)] at hrow
    rw [Agent.sample_controlParts]
    exact (Except.ok.inj hrow).symm
  rw [eq_of_forall₂ hsamples]
  rfl

/-- A guess has the dimensions of the extended problem. -/
theorem guess_sized (h : p.Stocked n) {g : Guess α} (hg : p.guess n = .ok g) :
    g.x0.length = p.index.nx ∧ g.u.length = n * p.index.nu := by
  constructor
  · obtain ⟨x0, hx0, hg⟩ := bind_eq_ok.mp hg
    obtain ⟨rows, -, hg⟩ := bind_eq_ok.mp hg
    obtain rfl := pure_eq_ok.mp hg
    obtain ⟨own, copies, -, hown, hcopies, rfl⟩ := guessState_eq_ok hx0
    have hlengths : copies.map List.length = p.agent.neighbors.map (·.nx) := by
      rw [← h.indexed.map_fst_pairs, List.map_map]
      refine map_eq_of_forall₂ ((forall₂_and_mem hcopies).imp ?_)
      rintro q s ⟨hq, -, hs⟩
      exact hs.trans (h.indexed.sizes hq).1
    rw [List.length_append, List.length_flatten, hlengths, hown, h.indexed.nxOwn, h.indexed.nx]
  · have hdims : (p.agent.controlParts.map (·.1)).sum = p.index.nu := by
      rw [h.indexed.nu, Agent.controlParts]
      simp [List.flatMap_def, List.sum_flatten, Function.comp_def]
    rw [h.guess_controls hg, Trajectory.length_interleave h.complete_controls, hdims]

end Stocked

theorem states_solutionPoints {s : LocalSolution α} :
    (p.solutionPoints s).map (·.x) = Trajectory.samples s.t.length p.index.nx s.x := by
  apply List.ext_getElem
  · simp [solutionPoints, Trajectory.samples]
  · intro k _ _
    simp [solutionPoints]

theorem controls_solutionPoints {s : LocalSolution α} :
    (p.solutionPoints s).map (·.u) = Trajectory.samples s.t.length p.index.nu s.u := by
  apply List.ext_getElem
  · simp [solutionPoints, Trajectory.samples]
  · intro k _ _
    simp [solutionPoints]

/-- What is read of a block, sample by sample, takes the place of a trajectory of that size. -/
theorem sample_overwrite {what : String} {old new values : Vec α} {dim : Nat} {b : Block}
    (hvalues : values.length = n * dim) (hb : b.stop ≤ dim) (hold : old.length = n * b.size)
    (h : Vec.overwrite what old ((Trajectory.samples n dim values).flatMap b.read) = .ok new) :
    new.length = n * b.size ∧
      ∀ k < n, Trajectory.sample b.size new k = b.read (Trajectory.sample dim values k) := by
  obtain ⟨hnew, hlength⟩ := Vec.overwrite_eq_ok h
  let rows := (Trajectory.samples n dim values).map b.read
  have hrows : ∀ row ∈ rows, row.length = b.size := by
    intro row hrow
    obtain ⟨z, hz, rfl⟩ := List.mem_map.mp hrow
    have hdim := Trajectory.length_of_mem_samples hvalues hz
    exact Block.length_read_of_stop (hb.trans_eq hdim.symm)
  have hcount : rows.length = n := by simp [rows, Trajectory.samples]
  have hall : rows.flatten.length = n * b.size := by
    rw [List.length_flatten, List.map_congr_left hrows, List.map_const', List.sum_replicate, hcount,
      smul_eq_mul]
  obtain rfl : new = rows.flatten := by
    rw [hnew, List.flatMap_def, List.drop_of_length_le (hold.trans hall.symm).le, List.append_nil]
  have hsamples := Trajectory.samples_flatten hrows
  rw [hcount] at hsamples
  refine ⟨hall, fun k hk => ?_⟩
  have hall : (List.range n).map (Trajectory.sample b.size rows.flatten) =
      (List.range n).map fun k => b.read (Trajectory.sample dim values k) := by
    refine hsamples.trans ?_
    simp [rows, Trajectory.samples, Function.comp_def]
  exact List.map_inj_left.mp hall k (List.mem_range.mpr hk)

/-- What a solution says on a block goes to the trajectory that belongs to it. -/
structure Stores (p : LocalProblem α) (n : Nat) (s : LocalSolution α) (a : Agent α) : Prop where
  state : ∀ k < n, Trajectory.sample p.agent.nx a.agentState.x k =
    p.index.ownX.read (Trajectory.sample p.index.nx s.x k)
  control : ∀ k < n, Trajectory.sample p.agent.nu a.agentState.u k =
    p.index.ownU.read (Trajectory.sample p.index.nu s.u k)
  copies : List.Forall₂ (fun (q : Neighbor α × NeighborBlock) nb =>
    nb.nx = q.1.nx ∧ nb.nu = q.1.nu ∧ ∀ k < n,
      Trajectory.sample nb.nx nb.localCopy.x k = q.2.x.read (Trajectory.sample p.index.nx s.x k) ∧
      Trajectory.sample nb.nu nb.localCopy.u k = q.2.u.read (Trajectory.sample p.index.nu s.u k) ∧
      Trajectory.sample nb.nx nb.localCopy.v k = q.2.v.read (Trajectory.sample p.index.nu s.u k))
    p.pairs a.neighbors

/-- The stored states are those of the solution. -/
theorem Stores.states {s : LocalSolution α} {a : Agent α} (h : p.Stores n s a) (hp : p.Indexed)
    (hmodel : a.model = p.agent.model) (hx : s.x.length = n * p.index.nx) :
    Trajectory.interleave n a.stateParts = s.x := by
  refine Trajectory.interleave_eq hx fun k hk => ?_
  have hdim : (Trajectory.sample p.index.nx s.x k).length = p.index.nx :=
    Trajectory.length_sample (hx ▸ Nat.mul_le_mul_right _ hk)
  have hown : Trajectory.sample a.nx a.agentState.x k =
      p.index.ownX.read (Trajectory.sample p.index.nx s.x k) := by
    rw [Agent.nx, hmodel]
    exact h.state k hk
  have hcopies : (a.neighbors.flatMap fun nb => Trajectory.sample nb.nx nb.localCopy.x k) =
      p.index.blocks.flatMap fun b => b.x.read (Trajectory.sample p.index.nx s.x k) := by
    rw [← hp.map_snd_pairs, List.flatMap_map, List.flatMap_def, List.flatMap_def,
      map_eq_of_forall₂ (h.copies.imp fun _ _ hcopy => (hcopy.2.2 k hk).1)]
  rw [Agent.sample_stateParts, hown, hcopies, hp.state_blocks hdim]

/-- The stored controls are those of the solution. -/
theorem Stores.controls {s : LocalSolution α} {a : Agent α} (h : p.Stores n s a) (hp : p.Indexed)
    (hmodel : a.model = p.agent.model) (hu : s.u.length = n * p.index.nu) :
    Trajectory.interleave n a.controlParts = s.u := by
  refine Trajectory.interleave_eq hu fun k hk => ?_
  have hdim : (Trajectory.sample p.index.nu s.u k).length = p.index.nu :=
    Trajectory.length_sample (hu ▸ Nat.mul_le_mul_right _ hk)
  have hown : Trajectory.sample a.nu a.agentState.u k =
      p.index.ownU.read (Trajectory.sample p.index.nu s.u k) := by
    rw [Agent.nu, hmodel]
    exact h.control k hk
  have hcopy : List.Forall₂ (fun (q : Neighbor α × NeighborBlock) nb =>
      Trajectory.sample nb.nu nb.localCopy.u k ++ Trajectory.sample nb.nx nb.localCopy.v k =
        q.2.u.read (Trajectory.sample p.index.nu s.u k) ++
          q.2.v.read (Trajectory.sample p.index.nu s.u k)) p.pairs a.neighbors := by
    refine h.copies.imp ?_
    rintro q nb ⟨-, -, hstored⟩
    obtain ⟨-, hcopyU, hcopyV⟩ := hstored k hk
    rw [hcopyU, hcopyV]
  have hcopies : (a.neighbors.flatMap fun nb => Trajectory.sample nb.nu nb.localCopy.u k ++
        Trajectory.sample nb.nx nb.localCopy.v k) =
      p.index.blocks.flatMap fun b => b.u.read (Trajectory.sample p.index.nu s.u k) ++
        b.v.read (Trajectory.sample p.index.nu s.u k) := by
    rw [← hp.map_snd_pairs, List.flatMap_map, List.flatMap_def, List.flatMap_def, map_eq_of_forall₂ hcopy]
  rw [Agent.sample_controlParts, hown, hcopies, hp.control_blocks hdim]

variable [Scalar α]

theorem Stocked.stores (h : p.Stocked n) {s : LocalSolution α} (ht : s.t.length = n)
    (hx : s.x.length = n * p.index.nx) (hu : s.u.length = n * p.index.nu) {a : Agent α}
    (hstore : p.store s = .ok a) : p.Stores n s a := by
  have hinside : p.index.Inside := IndexMap.inside_of_build h.indexed
  have hstates : ∀ b : Block, (p.solutionPoints s).flatMap (fun z => b.read z.x) =
      (Trajectory.samples n p.index.nx s.x).flatMap b.read := by
    intro b
    rw [← ht, ← states_solutionPoints, List.flatMap_map]
  have hcontrols : ∀ b : Block, (p.solutionPoints s).flatMap (fun z => b.read z.u) =
      (Trajectory.samples n p.index.nu s.u).flatMap b.read := by
    intro b
    rw [← ht, ← controls_solutionPoints, List.flatMap_map]
  have hnx : p.index.ownX.size = p.agent.nx := h.indexed.nxOwn
  have hnu : p.index.ownU.size = p.agent.nu := h.indexed.nuOwn
  obtain ⟨x, u, hownX, hownU, hstate⟩ := store_state hstore
  rw [hstates] at hownX
  rw [hcontrols] at hownU
  refine ⟨?_, ?_, (forall₂_and_mem (store_pairs hstore)).imp ?_⟩
  · rw [hstate, ← hnx]
    exact (sample_overwrite hx hinside.ownX (hnx ▸ h.state.x) hownX).2
  · rw [hstate, ← hnu]
    exact (sample_overwrite hu hinside.ownU (hnu ▸ h.state.u) hownU).2
  · rintro q nb ⟨hq, hcopy⟩
    obtain ⟨x, u, v, hcopyX, hcopyU, hcopyV, rfl⟩ := storeCopy_channels hcopy
    rw [hstates] at hcopyX
    rw [hcontrols] at hcopyU hcopyV
    obtain ⟨hblockX, hblockU, hblockV⟩ := hinside.blocks q.2 (List.of_mem_zip hq).2
    obtain ⟨hsizeX, hsizeU, hsizeV⟩ := h.indexed.sizes hq
    have hspans := (h.neighbors q.1 (List.of_mem_zip hq).1).owned.copy
    have hstoredX := (sample_overwrite hx hblockX (hsizeX ▸ hspans.x) hcopyX).2
    have hstoredU := (sample_overwrite hu hblockU (hsizeU ▸ hspans.u) hcopyU).2
    have hstoredV := (sample_overwrite hu hblockV (hsizeV ▸ hspans.v) hcopyV).2
    rw [hsizeX] at hstoredX
    rw [hsizeU] at hstoredU
    rw [hsizeV] at hstoredV
    exact ⟨rfl, rfl, fun k hk => ⟨hstoredX k hk, hstoredU k hk, hstoredV k hk⟩⟩

/-- What is stored of the influence of a predicted neighbor is what it is along the solution. -/
theorem Indexed.stored_influence (hp : p.Indexed) {s : LocalSolution α} {a : Agent α}
    (hstore : p.store s = .ok a) {nb : Neighbor α} (hnb : nb ∈ a.neighbors)
    (happrox : nb.approximated = true) :
    ∃ values : List (Vec α), (p.solutionPoints s).map (p.influence nb.id) = values.map some ∧
      nb.localInfluence = values.flatten := by
  obtain ⟨nb₀, hnb₀, b, hcopy⟩ := forall₂_mem_right (store_copies hp.length_blocks hstore) hnb
  obtain ⟨copy, rfl⟩ := storeCopy_influence hcopy
  have happrox : nb₀.approximated = true := happrox
  have hinfluence : ∀ z, p.influence nb₀.id z = some ((p.influence nb₀.id z).getD []) := by
    intro z
    rw [influence, Agent.neighbor?_of_mem hp.nodup hnb₀, Option.bind_some, neighborInfluence, if_pos happrox]
    rfl
  refine ⟨(p.solutionPoints s).map fun z => (p.influence nb₀.id z).getD [], ?_, ?_⟩
  · rw [List.map_map]
    exact List.map_congr_left fun z _ => hinfluence z
  · change (p.influenceAlong s nb₀).getD nb₀.localInfluence = _
    rw [influenceAlong, if_pos happrox, Option.getD_some, List.flatMap_def]

end LocalProblem

namespace Controller

variable [Scalar α] {c c₀ : Controller α}

/-- A solution that has been stored is what the next local solve starts from. -/
theorem updateAgentStates_roundTrip (hle : ∀ a b d : α, a ≤ b → b ≤ d → a ≤ d)
    (hcouplings : ∀ nb ∈ c₀.agent.neighbors, ∀ f, nb.relation.sending = some f →
      f.dynamics.KeepsLength)
    (h : c₀.prepare.2 = .ok ()) {ops : List (Operation α)} (hops : c₀.prepare.1.performAll ops = .ok c) :
    ∃ p guess, c.Guesses p guess ∧ guess.x0.length = p.toProblem.dims.nx ∧
      guess.u.length = c.options.horizonSteps * p.toProblem.dims.nu ∧
      (∀ strict what expected actual, Gradient.solver strict p.toProblem guess c.options ≠
        .ok (.error (.dimensionMismatch what expected actual))) ∧
      ∀ s, c.solver p.toProblem guess c.options = .ok (.ok s) →
        c.updateAgentStates.2 = .ok (.ok ()) →
        let c' := c.updateAgentStates.1
        s.x = Trajectory.interleave c.options.horizonSteps c'.agent.stateParts ∧
        (c'.agent.stateParts.flatMap (·.2)).Perm s.x ∧
        s.u = Trajectory.interleave c.options.horizonSteps c'.agent.controlParts ∧
        (c'.agent.controlParts.flatMap (·.2)).Perm s.u ∧
        (∃ p' guess', c'.Guesses p' guess' ∧ guess'.u = s.u ∧
          p'.index.ownX.read guess'.x0 =
            p.index.ownX.read (Trajectory.sample p.toProblem.dims.nx s.x 0)) ∧
        ∀ nb ∈ c'.agent.neighbors, nb.approximated = true →
          ∃ values : List (Vec α), (p.solutionPoints s).map (p.influence nb.id) = values.map some ∧
            nb.localInfluence = values.flatten := by
  have hc : c.Operable := (operable_of_prepare hcouplings h).of_performAll hle hops
  have hsamples : 2 ≤ c.options.horizonSteps := Options.samples_of_valid hc.valid
  have hpos : 0 < c.options.horizonSteps := by omega
  obtain ⟨layout, hlayout, -⟩ := hc.layout
  obtain ⟨hof, hstocked⟩ := hc.of_problem hlayout
  obtain ⟨guess, hstart⟩ := hstocked.guess hpos
  have hguess : c.Guesses ⟨c.agent, layout⟩ guess := ⟨layout, hlayout, hof, hstart⟩
  obtain ⟨hx0, hu⟩ := hstocked.guess_sized hstart
  refine ⟨_, guess, hguess, hx0, hu, ?_, ?_⟩
  · have hmax : Nat.max c.options.horizonSteps 2 = c.options.horizonSteps := Nat.max_eq_left hsamples
    exact fun strict _ _ _ => Gradient.solver_ne_dimensionMismatch strict
      (Gradient.checkGuess_eq_ok.mpr ⟨hx0, hmax.symm ▸ hu⟩)
  intro s hanswer hresult
  obtain ⟨e, hattempt, -⟩ | ⟨_, agent, heq, hacceptable, hstore, hattempt⟩ :=
    hc.attempt_cases hlayout hguess hanswer
  · rw [updateAgentStates_of_error hlayout hattempt] at hresult
    cases Except.ok.inj hresult
  obtain rfl := Except.ok.inj heq
  obtain ⟨ht, hx, hu, -⟩ := hacceptable
  have hstores := hstocked.stores ht hx hu hstore
  obtain ⟨state, neighbors, rfl, -⟩ := LocalProblem.store_eq_ok hstocked.indexed.length_blocks hstore
  have hstates := hstores.states hstocked.indexed rfl hx
  have hcontrols := hstores.controls hstocked.indexed rfl hu
  -- The next guess is that of the agent with the solution.
  have hsolved := hc.solved
  rw [updateAgentStates_of_ok hlayout hattempt] at hsolved ⊢
  obtain ⟨hof', hstocked'⟩ := hsolved.of_problem hlayout
  obtain ⟨guess', hstart'⟩ := hstocked'.guess hpos
  have hown : (⟨{ c.agent with agentState := state, neighbors }, layout⟩ :
      LocalProblem α).index.ownX.read guess'.x0 =
        layout.index.ownX.read (Trajectory.sample layout.index.nx s.x 0) := by
    have hread := (hstocked'.indexed.read_guess hstart').1
    rw [(Record.xAt_of_length hstocked'.state.t hstocked'.state.x hpos).1] at hread
    exact (Except.ok.inj hread).symm.trans (hstores.state 0 hpos)
  refine ⟨hstates.symm, ?_, hcontrols.symm, ?_,
    ⟨_, guess', ⟨layout, hlayout, hof', hstart'⟩, (hstocked'.guess_controls hstart').trans hcontrols, hown⟩,
    fun nb hnb happrox => hstocked.indexed.stored_influence hstore hnb happrox⟩
  · exact hstates ▸ (Trajectory.interleave_perm hstocked'.complete_states).symm
  · exact hcontrols ▸ (Trajectory.interleave_perm hstocked'.complete_controls).symm

/-- All numbers of the solution are different. -/
theorem middleCart_roundTrip :
    let found : LocalSolution Rat :=
      ⟨[0, 1 / 2, 1], (List.range 18).map (↑), (List.range 21).map (↑), 5, 1, true⟩
    let c₀ : Controller Rat := { middleCart with solver := fun _ _ _ => .ok (.ok found) }
    ∃ c guess', c₀.prepare = (c, .ok ()) ∧ c.updateAgentStates.2 = .ok (.ok ()) ∧
      found.x = Trajectory.interleave 3 c.updateAgentStates.1.agent.stateParts ∧
      found.u = Trajectory.interleave 3 c.updateAgentStates.1.agent.controlParts ∧
      (∃ p', c.updateAgentStates.1.Guesses p' guess') ∧ guess'.u = found.u := by
  intro found c₀
  have hprepare : c₀.prepare.2 = .ok () := by decide +kernel
  have hresult : c₀.prepare.1.updateAgentStates.2 = .ok (.ok ()) := by decide +kernel
  have hhorizon : c₀.prepare.1.options.horizonSteps = 3 := by decide +kernel
  have hcouplings : ∀ nb ∈ c₀.agent.neighbors, ∀ f, nb.relation.sending = some f →
      f.dynamics.KeepsLength := middleCart_couplings
  have hops : c₀.prepare.1.performAll [] = .ok c₀.prepare.1 := rfl
  obtain ⟨p, guess, -, -, -, -, hround⟩ :=
    updateAgentStates_roundTrip (fun _ _ _ => le_trans) hcouplings hprepare hops
  obtain ⟨hstates, -, hcontrols, -, ⟨p', guess', hguess', hu, -⟩, -⟩ := hround found
    (by rw [(Act.prepare c₀).solver]) hresult
  rw [hhorizon] at hstates hcontrols
  exact ⟨_, guess', Prod.ext rfl hprepare, hresult, hstates, hcontrols, ⟨p', hguess'⟩, hu⟩

end Controller

end ConsensusControl
