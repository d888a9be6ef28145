import ConsensusControl.Proofs.Consensus.Weights
import ConsensusControl.Proofs.Trajectory

namespace ConsensusControl

variable {α : Type}

/-- The record has `samples` samples with the dimensions of `shape`. -/
structure Record.Spans {family : Family} (r : Record family α) (samples : Nat) (shape : Shape) :
    Prop where
  t : r.t.length = samples
  x : r.x.length = samples * shape.nx
  u : r.u.length = samples * shape.nu
  v : r.v.length = samples * shape.nv

variable [Scalar α]

namespace Record

variable {family : Family} {r : Record family α} {samples : Nat} {shape : Shape}

theorem spans_constant (owner : AgentId) (t x u v : Vec α) :
    (Record.constant owner t x u v : Record family α).Spans t.length ⟨x.length, u.length, v.length⟩ :=
  ⟨rfl, Trajectory.length_constant _ _, Trajectory.length_constant _ _,
    Trajectory.length_constant _ _⟩

theorem spans_filled (owner : AgentId) (t : Vec α) (shape : Shape) (value : α) :
    (Record.filled owner t shape value : Record family α).Spans t.length shape := by
  unfold Record.filled
  obtain ⟨ht, hx, hu, hv⟩ := @spans_constant α _ family owner t (List.replicate shape.nx value)
    (List.replicate shape.nu value) (List.replicate shape.nv value)
  simp only [List.length_replicate] at hx hu hv
  exact ⟨ht, hx, hu, hv⟩

theorem Spans.retime (h : r.Spans samples shape) (dt : α) : (r.retime dt).Spans samples shape :=
  ⟨(List.length_map _).trans h.t, h.x, h.u, h.v⟩

theorem Spans.shift (h : r.Spans samples shape) (dt : α) : (r.shift dt).Spans samples shape :=
  ⟨(List.length_map _).trans h.t, (Trajectory.length_shiftSamples _ _).trans h.x,
    (Trajectory.length_shiftSamples _ _).trans h.u, (Trajectory.length_shiftSamples _ _).trans h.v⟩

theorem hasShape_iff_spans :
    r.hasShape samples shape = true ↔ r.Spans samples shape ∧ Trajectory.isIncreasing r.t = true := by
  simp only [hasShape, Bool.and_eq_true, beq_iff_eq, Nat.mul_comm _ samples]
  constructor
  · rintro ⟨⟨⟨⟨ht, hx⟩, hu⟩, hv⟩, hincreasing⟩
    exact ⟨⟨ht, hx, hu, hv⟩, hincreasing⟩
  · rintro ⟨h, hincreasing⟩
    exact ⟨⟨⟨⟨h.t, h.x⟩, h.u⟩, h.v⟩, hincreasing⟩

theorem spans_of_fits {grid : Vec α} (h : r.fits grid shape = true) :
    r.Spans grid.length shape := by
  rw [fits, Bool.and_eq_true] at h
  exact (hasShape_iff_spans.mp h.2).1

theorem length_resampleChannel (grid values : Vec α) (stored dim : Nat) :
    (r.resampleChannel grid values stored dim).length = grid.length * dim := by
  unfold resampleChannel
  split
  · exact Vec.length_zeros _
  · induction grid with
    | nil => simp
    | cons time grid ih =>
      rw [List.flatMap_cons, List.length_append, Trajectory.length_interpolate, ih, List.length_cons,
        Nat.succ_mul, Nat.add_comm]

theorem spans_resample (owner : AgentId) (grid : Vec α) (shape : Shape) :
    (r.resample owner grid shape).Spans grid.length shape :=
  ⟨rfl, length_resampleChannel _ _ _ _, length_resampleChannel _ _ _ _,
    length_resampleChannel _ _ _ _⟩

theorem spans_keepOr {grid : Vec α} {fresh : Record family α}
    (h : fresh.Spans grid.length shape) : (r.keepOr grid shape fresh).Spans grid.length shape := by
  unfold keepOr
  split
  · next hfits => exact spans_of_fits hfits
  · exact h

end Record

theorem length_dualAscent {mu rho z own mu' : Vec α} {r : α}
    (h : dualAscent mu rho z own = .ok (mu', r)) : mu'.length = mu.length := by
  obtain ⟨⟨hrho, hz, hown⟩, rfl, -⟩ := dualAscent_eq_ok h
  simp only [consensusResidual, List.length_zipWith, List.length_zip]
  omega

/-- What an agent sends to the neighbor spans the horizon. -/
structure Neighbor.Spanned (samples nx : Nat) (nb : Neighbor α) : Prop where
  copy : nb.localCopy.Spans samples ⟨nb.nx, nb.nu, nb.nx⟩
  influence : nb.influenceCoupling.Spans samples ⟨0, 0, nx⟩
  prices : nb.copyMultiplier.Spans samples ⟨0, nb.nu, nb.nx⟩
  weights : nb.copyPenalty.Spans samples ⟨0, nb.nu, nb.nx⟩

omit [Scalar α] in
/-- What is sent stays, and so does the neighbor's model. -/
theorem Neighbor.Spanned.of_same {samples nx : Nat} {nb nb' : Neighbor α} (h : nb.Spanned samples nx)
    (hmodel : nb'.model = nb.model) (hcopy : nb'.localCopy = nb.localCopy)
    (hinfluence : nb'.influenceCoupling = nb.influenceCoupling)
    (hprices : nb'.copyMultiplier = nb.copyMultiplier) (hweights : nb'.copyPenalty = nb.copyPenalty) :
    nb'.Spanned samples nx := by
  have hnx : nb'.nx = nb.nx := congrArg AgentModel.nx hmodel
  have hnu : nb'.nu = nb.nu := congrArg AgentModel.nu hmodel
  refine ⟨?_, hinfluence ▸ h.influence, ?_, ?_⟩
  · rw [hcopy, hnx, hnu]
    exact h.copy
  · rw [hprices, hnx, hnu]
    exact h.prices
  · rw [hweights, hnx, hnu]
    exact h.weights

namespace Agent

/-- The agent has a state to start from and a state to aim at. -/
structure Grounded (a : Agent α) : Prop where
  nonempty : a.agentState.t ≠ []
  state : a.agentState.Spans a.agentState.t.length ⟨a.nx, a.nu, 0⟩
  desired : a.desired.Spans 1 ⟨a.nx, a.nu, 0⟩

/-- What the agent sends spans the horizon. -/
structure Spanned (samples : Nat) (a : Agent α) : Prop where
  state : a.agentState.Spans samples ⟨a.nx, a.nu, 0⟩
  coupling : a.couplingState.Spans samples ⟨a.nx, a.nu, 0⟩
  neighbors : ∀ nb ∈ a.neighbors, nb.Spanned samples a.nx

end Agent

namespace Controller

/-- A controller that has what its neighbors ask for, on the whole horizon once it has a layout. -/
structure Shaped (c : Controller α) : Prop where
  grounded : c.agent.Grounded
  spanned : c.layout.isSome → c.agent.Spanned c.options.horizonSteps

/-- What an iteration lets a controller do. -/
inductive Turn : Controller α → Controller α → Prop
  | solve (c : Controller α) : Turn c c.updateAgentStates.1
  | couple {c c' : Controller α} (h : c.updateCouplingStates = .ok c') : Turn c c'
  | raise {c c' : Controller α} (h : c.updateMultiplierStates = .ok c') : Turn c c'
  | adapt {c c' : Controller α} (h : c.adaptPenalties = .ok c') : Turn c c'
  | receive (sender : AgentId) (kind : RecordKind) (r : StateRecord α) (c : Controller α) :
      Turn c (c.applyIncoming sender kind r).1
  | finish (c : Controller α) : Turn c c.finishIteration
  | fail (c : Controller α) : Turn c c.markFailed

/-- One turn after the other. -/
inductive Turns (c : Controller α) : Controller α → Prop
  | refl : Turns c c
  | turn {c' c'' : Controller α} (h : Turns c c') (ht : Turn c' c'') : Turns c c''

/-- What the operations on an ensemble let a controller do, while the network around its agent stays. -/
inductive Act : Controller α → Controller α → Prop
  | turn {c c' : Controller α} (h : Turn c c') : Act c c'
  | start (t0 : α) (c : Controller α) : Act c (c.startAt t0)
  | prepare (c : Controller α) : Act c c.prepare.1
  | begin (c : Controller α) : Act c c.beginSolve
  | shift (dt : α) (c : Controller α) : Act c (c.shiftHorizon dt).1
  | restart {c c' : Controller α} {x : Vec α} (h : c.setInitialState x = .ok c') : Act c c'

/-- One act after the other. -/
inductive Acts (c : Controller α) : Controller α → Prop
  | refl : Acts c c
  | act {c' c'' : Controller α} (h : Acts c c') (ha : Act c' c'') : Acts c c''

variable {c c' : Controller α}

theorem Turn.turns (h : Turn c c') : c.Turns c' := Turns.refl.turn h

theorem Act.acts (h : Act c c') : c.Acts c' := Acts.refl.act h

theorem Turns.acts (h : c.Turns c') : c.Acts c' := by
  induction h with
  | refl => exact .refl
  | turn _ ht ih => exact ih.act (.turn ht)

theorem Turn.site (h : Turn c c') : c'.site = c.site := by
  cases h with
  | solve => exact site_updateAgentStates c
  | couple h => exact site_updateCouplingStates h
  | raise h => exact site_updateMultiplierStates h
  | adapt h => exact site_adaptPenalties h
  | receive sender kind r => exact c.site_receive sender kind r
  | finish =>
    obtain ⟨_, -, heq⟩ := c.finishIteration_eq
    rw [heq]
    rfl
  | fail => rfl

theorem Turns.site (h : c.Turns c') : c'.site = c.site := by
  induction h with
  | refl => rfl
  | turn _ ht ih => exact ht.site.trans ih

theorem Turns.trans {c'' : Controller α} (h : c.Turns c') (h' : c'.Turns c'') : c.Turns c'' := by
  induction h' with
  | refl => exact h
  | turn _ ht ih => exact ih.turn ht

theorem Act.site (h : Act c c') : c'.site = c.site := by
  cases h with
  | turn h => exact h.site
  | start t0 => exact site_startAt t0 c
  | prepare => exact site_prepare c
  | begin => exact site_beginSolve c
  | shift dt => exact site_shiftHorizon dt c
  | restart h => exact site_setInitialState h

theorem Acts.site (h : c.Acts c') : c'.site = c.site := by
  induction h with
  | refl => rfl
  | act _ ha ih => exact ha.site.trans ih

theorem Turn.solver (h : Turn c c') : c'.solver = c.solver := by
  cases h with
  | solve =>
    obtain ⟨_, _, _, _, _, _, heq, -⟩ := c.updateAgentStates_eq
    rw [heq]
  | couple h =>
    obtain ⟨_, _, _, _, -, -, rfl⟩ := updateCouplingStates_eq_ok h
    rfl
  | raise h =>
    obtain ⟨_, _, _, _, -, -, rfl⟩ := updateMultiplierStates_eq_ok h
    rfl
  | adapt h =>
    obtain rfl | ⟨_, _, -, -, rfl⟩ := adaptPenalties_eq_ok h
    · rfl
    · rfl
  | receive sender kind r =>
    obtain ⟨_, heq⟩ := c.applyIncoming_frame sender kind r
    rw [heq]
  | finish =>
    obtain ⟨_, -, heq⟩ := c.finishIteration_eq
    rw [heq]
  | fail => rfl

theorem Act.solver (h : Act c c') : c'.solver = c.solver := by
  cases h with
  | turn h => exact h.solver
  | start t0 =>
    obtain heq | heq := c.startAt_cases t0
    · rw [heq]
    · rw [heq]
      rfl
  | prepare =>
    obtain ⟨_, heq⟩ | ⟨-, ⟨_, heq⟩ | ⟨layout, -, heq⟩⟩ := c.prepare_cases
    · rw [heq]
    · rw [heq]
      rfl
    · rw [heq]
      rfl
  | begin => rfl
  | shift dt =>
    obtain ⟨_, heq⟩ | heq | heq := c.shiftHorizon_cases dt
    · rw [heq]
    · rw [heq]
      rfl
    · rw [heq]
      rfl
  | restart h =>
    obtain ⟨-, rfl⟩ := setInitialState_eq_ok h
    rfl

omit [Scalar α] in
/-- Records of the same lengths. -/
theorem Shaped.of_site (hc : c.Shaped) (hsite : c'.site = c.site)
    (hlayout : c'.layout.isSome → c.layout.isSome) (hdesired : c'.agent.desired = c.agent.desired)
    (hgrounded : c'.agent.agentState.t ≠ [] ∧
      c'.agent.agentState.Spans c'.agent.agentState.t.length ⟨c.agent.nx, c.agent.nu, 0⟩)
    (hspanned : c.agent.Spanned c.options.horizonSteps →
      c'.agent.agentState.t.length = c.options.horizonSteps ∧
      c'.agent.couplingState.Spans c.options.horizonSteps ⟨c.agent.nx, c.agent.nu, 0⟩ ∧
      ∀ nb' ∈ c'.agent.neighbors, nb'.Spanned c.options.horizonSteps c.agent.nx) : c'.Shaped := by
  have hoptions : c'.options = c.options := congrArg Site.options hsite
  have hmodel : c'.agent.model = c.agent.model := congrArg Site.model hsite
  obtain ⟨hne, hstate⟩ := hgrounded
  refine ⟨⟨hne, ?_, ?_⟩, fun h => ?_⟩
  · rwa [Agent.nx, Agent.nu, hmodel]
  · rw [hdesired, Agent.nx, Agent.nu, hmodel]
    exact hc.grounded.desired
  · obtain ⟨ht, hcoupling, hneighbors⟩ := hspanned (hc.spanned (hlayout h))
    rw [hoptions]
    refine ⟨?_, ?_, ?_⟩
    · rw [Agent.nx, Agent.nu, hmodel]
      exact ht ▸ hstate
    · rwa [Agent.nx, Agent.nu, hmodel]
    · rwa [Agent.nx, hmodel]

omit [Scalar α] in
/-- Acts that do not touch these records. -/
theorem Shaped.of_same (hc : c.Shaped) (hsite : c'.site = c.site)
    (hlayout : c'.layout.isSome → c.layout.isSome) (hdesired : c'.agent.desired = c.agent.desired)
    (hstate : c'.agent.agentState = c.agent.agentState)
    (hcoupling : c'.agent.couplingState = c.agent.couplingState)
    (hneighbors : List.Forall₂ (fun nb nb' : Neighbor α => ∀ samples, nb.Spanned samples c.agent.nx →
      nb'.Spanned samples c.agent.nx) c.agent.neighbors c'.agent.neighbors) : c'.Shaped := by
  refine hc.of_site hsite hlayout hdesired ?_ fun h => ⟨?_, ?_, fun nb' hnb' => ?_⟩
  · rw [hstate]
    exact ⟨hc.grounded.nonempty, hc.grounded.state⟩
  · rw [hstate]
    exact h.state.t
  · rw [hcoupling]
    exact h.coupling
  · obtain ⟨nb, hnb, hkeep⟩ := forall₂_mem_right hneighbors hnb'
    exact hkeep _ (h.neighbors nb hnb)

theorem Shaped.updateAgentStates (hc : c.Shaped) : c.updateAgentStates.1.Shaped := by
  have hsite := site_updateAgentStates c
  have hlayout := layout_updateAgentStates c
  obtain ⟨state, neighbors, _, _, _, _, heq, -⟩ := c.updateAgentStates_eq
  have hdesired : c.updateAgentStates.1.agent.desired = c.agent.desired := by rw [heq]
  have hcoupling : c.updateAgentStates.1.agent.couplingState = c.agent.couplingState := by rw [heq]
  rcases c.updateAgentStates_cases with hsame | ⟨layout, s, hsome, hattempt⟩
  · refine hc.of_same hsite (fun h => hlayout ▸ h) hdesired (by rw [hsame]) hcoupling ?_
    rw [hsame]
    exact List.forall₂_same.mpr fun _ _ _ h => h
  obtain ⟨p, guess, hp, -, -, hcheck, hstore⟩ := attempt_eq_ok hattempt
  obtain ⟨hids, rfl⟩ := LocalProblem.of_eq_ok hp
  have htime := (LocalSolution.check_eq_ok.mp hcheck).t
  have hspanned := hc.spanned (by rw [hsome]; rfl)
  obtain ⟨x, u, hx, hu, hstate⟩ := LocalProblem.store_state hstore
  have hown : c.updateAgentStates.1.agent.agentState.Spans c.options.horizonSteps
      ⟨c.agent.nx, c.agent.nu, 0⟩ := by
    rw [hstate]
    exact ⟨htime, (Vec.overwrite_eq_ok hx).2.trans hspanned.state.x,
      (Vec.overwrite_eq_ok hu).2.trans hspanned.state.u, hspanned.state.v⟩
  have hlength : c.agent.agentState.t.length = c.updateAgentStates.1.agent.agentState.t.length :=
    hspanned.state.t.trans hown.t.symm
  refine hc.of_site hsite (fun h => hlayout ▸ h) hdesired ⟨fun hnil => hc.grounded.nonempty ?_, ?_⟩
    fun _ => ⟨hown.t, ?_, fun nb' hnb' => ?_⟩
  · rw [hnil] at hlength
    exact List.eq_nil_of_length_eq_zero hlength
  · rw [hown.t]
    exact hown
  · rw [hcoupling]
    exact hspanned.coupling
  · have hl : c.agent.neighbors.length = layout.index.blocks.length := by
      simpa [Agent.neighborIds] using congrArg List.length hids
    obtain ⟨nb, hnb, b, hcopy⟩ := forall₂_mem_right (LocalProblem.store_copies hl hstore) hnb'
    obtain ⟨ht, hxs, hus, hvs⟩ := LocalProblem.storeCopy_lengths hcopy
    obtain ⟨copy, influence, rfl⟩ := LocalProblem.storeCopy_eq_ok hcopy
    have hold := hspanned.neighbors nb hnb
    refine ⟨⟨?_, hxs.trans hold.copy.x, hus.trans hold.copy.u, hvs.trans hold.copy.v⟩,
      hold.influence, hold.prices, hold.weights⟩
    exact (congrArg List.length ht).trans htime

theorem Shaped.updateCouplingStates (hc : c.Shaped) (h : c.updateCouplingStates = .ok c') :
    c'.Shaped := by
  have hsite := site_updateCouplingStates h
  obtain ⟨u, neighbors, _, _, hu, hneighbors, rfl⟩ := updateCouplingStates_eq_ok h
  refine hc.of_site hsite (fun h => h) rfl ⟨hc.grounded.nonempty, hc.grounded.state⟩ fun h =>
    ⟨h.state.t, ?_, fun nb' hnb' => ?_⟩
  · exact ⟨h.state.t, h.state.x, (length_weightedConsensus hu).trans h.coupling.u, h.coupling.v⟩
  · obtain ⟨nb, hnb, hnew⟩ := forall₂_mem_right (updateInfluences_eq_ok hneighbors).1 hnb'
    have hold := h.neighbors nb hnb
    obtain rfl | hnew := hnew
    · exact hold
    · obtain ⟨v, hv, rfl⟩ := Neighbor.updateInfluence_eq_ok hnew
      refine ⟨hold.copy, ⟨hold.influence.t, hold.influence.x, hold.influence.u, ?_⟩, hold.prices,
        hold.weights⟩
      exact (length_weightedConsensus hv).trans hold.influence.v

theorem Shaped.updateMultiplierStates (hc : c.Shaped) (h : c.updateMultiplierStates = .ok c') :
    c'.Shaped := by
  have hsite := site_updateMultiplierStates h
  obtain ⟨_, _, neighbors, _, -, hneighbors, rfl⟩ := updateMultiplierStates_eq_ok h
  refine hc.of_same hsite (fun h => h) rfl rfl rfl ((updateNeighborMultipliers_eq_ok hneighbors).imp ?_)
  intro nb nb' h samples hold
  obtain ⟨_, _, hnb⟩ := h
  obtain ⟨influence, _, copy, -, hcopy, rfl⟩ := Neighbor.updateMultipliers_eq_ok hnb
  obtain ⟨v, _, u, _, hv, hu, rfl, -⟩ := Neighbor.raiseCopy_eq_ok hcopy
  refine ⟨hold.copy, hold.influence, ⟨hold.prices.t, hold.prices.x, ?_, ?_⟩, hold.weights⟩
  · exact (length_dualAscent hu).trans hold.prices.u
  · exact (length_dualAscent hv).trans hold.prices.v

theorem Shaped.adaptPenalties (hc : c.Shaped) (h : c.adaptPenalties = .ok c') : c'.Shaped := by
  have hsite := site_adaptPenalties h
  obtain rfl | ⟨_, neighbors, -, hneighbors, rfl⟩ := adaptPenalties_eq_ok h
  · exact hc
  refine hc.of_same hsite (fun h => h) rfl rfl rfl ((adaptNeighborPenalties_eq_ok hneighbors).imp ?_)
  intro nb nb' h samples hold
  obtain rfl | ⟨_, hnb⟩ := h
  · exact hold
  · obtain ⟨_, v, u, -, hv, hu, rfl⟩ := Neighbor.adaptPenalties_eq_ok hnb
    have hlv := (Options.adaptEntries_forall₂ hv).length_eq
    have hlu := (Options.adaptEntries_forall₂ hu).length_eq
    exact ⟨hold.copy, hold.influence, hold.prices,
      ⟨hold.weights.t, hold.weights.x, hlu.symm.trans hold.weights.u,
        hlv.symm.trans hold.weights.v⟩⟩

omit [Scalar α] in
theorem Shaped.applyIncoming (hc : c.Shaped) (sender : AgentId) (kind : RecordKind)
    (r : StateRecord α) : (c.applyIncoming sender kind r).1.Shaped := by
  have hsite := c.site_receive sender kind r
  obtain ⟨_, heq⟩ | ⟨record, nb, -, hnb, -, heq⟩ := c.applyIncoming_cases sender kind r
  · rwa [heq]
  rw [heq] at hsite ⊢
  have hsent : (c.agent.modifyNeighbor sender fun _ => nb.keep kind record).neighbors.map
      (fun nb => (nb.link, nb.localCopy, nb.influenceCoupling, nb.copyMultiplier, nb.copyPenalty)) =
      c.agent.neighbors.map
        fun nb => (nb.link, nb.localCopy, nb.influenceCoupling, nb.copyMultiplier, nb.copyPenalty) := by
    refine Agent.map_modifyFirst _ fun old hold => ?_
    obtain rfl : old = nb := Option.some.inj (hold.symm.trans hnb)
    cases kind <;> rfl
  refine hc.of_site hsite (fun h => h) rfl ⟨hc.grounded.nonempty, hc.grounded.state⟩ fun h =>
    ⟨h.state.t, h.coupling, fun nb' hnb' => ?_⟩
  have hmem := hsent ▸ List.mem_map_of_mem hnb'
  obtain ⟨old, hold, heq⟩ := List.mem_map.mp hmem
  simp only [Prod.mk.injEq] at heq
  obtain ⟨hlink, hcopy, hinfluence, hprices, hweights⟩ := heq
  have hmodel : nb'.model = old.model := (congrArg Link.model hlink).symm
  exact (h.neighbors old hold).of_same hmodel hcopy.symm hinfluence.symm hprices.symm hweights.symm

theorem shaped_startAt (t0 : α) (hc : c.Shaped) : (c.startAt t0).Shaped := by
  obtain heq | heq := c.startAt_cases t0
  · rw [heq]
    exact hc
  · rw [heq]
    obtain ⟨hne, hstate, hdesired⟩ := hc.grounded
    exact ⟨⟨hne, ⟨hstate.t, hstate.x, hstate.u, hstate.v⟩, hdesired⟩, by simp [modifyAgent]⟩

/-- Sizing gives every record the shape of its role, whatever it was before. -/
theorem shaped_prepare (hc : c.Shaped) : c.prepare.1.Shaped := by
  obtain ⟨_, heq⟩ | ⟨hvalid, ⟨_, heq⟩ | ⟨layout, -, heq⟩⟩ := c.prepare_cases
  · rw [heq]
    exact hc
  · rw [heq]
    exact ⟨⟨hc.grounded.nonempty, hc.grounded.state, hc.grounded.desired⟩,
      fun h => ⟨(hc.spanned h).state, (hc.spanned h).coupling, (hc.spanned h).neighbors⟩⟩
  rw [heq]
  have hgrid : c.approximating.grid.length = c.options.horizonSteps :=
    Trajectory.length_uniformGrid _ _ _
  have hspans : (c.approximating.agent.prepare c.approximating.grid c.options.penaltyInit).Spanned
      c.options.horizonSteps := by
    refine ⟨?_, ?_, fun nb' hnb' => ?_⟩
    · exact hgrid ▸ Record.spans_keepOr (Record.spans_resample _ _ _)
    · have hstate : (c.approximating.agent.prepare c.approximating.grid
          c.options.penaltyInit).agentState.Spans c.approximating.grid.length
          ⟨c.agent.nx, c.agent.nu, 0⟩ := Record.spans_keepOr (Record.spans_resample _ _ _)
      exact hgrid ▸ Record.spans_keepOr ⟨hstate.t, hstate.x, hstate.u, (Nat.mul_zero _).symm⟩
    · obtain ⟨nb, -, rfl⟩ := List.mem_map.mp hnb'
      refine ⟨?_, ?_, ?_, ?_⟩
      · exact hgrid ▸ Record.spans_keepOr (Record.spans_resample _ _ _)
      · exact hgrid ▸ Record.spans_keepOr (Record.spans_filled _ _ _ _)
      · exact hgrid ▸ Record.spans_keepOr (Record.spans_filled _ _ _ _)
      · exact hgrid ▸ Record.spans_keepOr (Record.spans_filled _ _ _ _)
  have hsamples : 2 ≤ c.options.horizonSteps := Options.samples_of_valid hvalid
  have hne : (c.approximating.agent.prepare c.approximating.grid
      c.options.penaltyInit).agentState.t ≠ [] := by
    apply List.ne_nil_of_length_pos
    rw [hspans.state.t]
    omega
  exact ⟨⟨hne, hspans.state.t.symm ▸ hspans.state, hc.grounded.desired⟩, fun _ => hspans⟩

theorem shaped_shiftHorizon (dt : α) (hc : c.Shaped) : (c.shiftHorizon dt).1.Shaped := by
  have hsite := site_shiftHorizon dt c
  -- The samples move, as far as that goes.
  have hshift : ∀ c' : Controller α, c'.site = c.site → c'.layout = c.layout →
      c'.agent = (c.agent.shift dt).1 → c'.Shaped := by
    intro c' hsite hlayout hagent
    have hstate : c'.agent.agentState = c.agent.agentState.shift dt := by rw [hagent]; rfl
    refine hc.of_site hsite (fun h => hlayout ▸ h) (by rw [hagent]; rfl) ?_ fun h =>
      ⟨?_, ?_, fun nb' hnb' => ?_⟩
    · rw [hstate]
      refine ⟨by simpa [Record.shift, Record.retime] using hc.grounded.nonempty, ?_⟩
      exact (hc.grounded.state.shift dt).t.symm ▸ hc.grounded.state.shift dt
    · rw [hstate]
      exact (h.state.shift dt).t
    · rw [hagent]
      exact h.coupling.shift dt
    · rw [hagent] at hnb'
      obtain ⟨nb, hnb, hmoved⟩ := forall₂_mem_right (shiftAll_forall₂ c.agent.neighbors) hnb'
      have hold := h.neighbors nb hnb
      obtain rfl | rfl | rfl := hmoved
      · exact hold
      · exact ⟨hold.copy.shift dt, hold.influence, hold.prices, hold.weights⟩
      · exact ⟨hold.copy.shift dt, hold.influence.shift dt, hold.prices.shift dt,
          hold.weights.shift dt⟩
  obtain ⟨_, heq⟩ | heq | heq := c.shiftHorizon_cases dt
  · rw [heq] at hsite ⊢
    exact hshift _ hsite rfl rfl
  · rw [heq] at hsite ⊢
    exact hshift _ hsite rfl rfl
  · rw [heq] at hsite ⊢
    refine hc.of_site hsite (fun h => h) rfl ⟨?_, ?_⟩ fun h => ⟨?_, ?_, fun nb' hnb' => ?_⟩
    · simpa [beginSolve, resetPrevious, Agent.retime, Record.retime] using hc.grounded.nonempty
    · exact (hc.grounded.state.retime dt).t.symm ▸ hc.grounded.state.retime dt
    · exact (h.state.retime dt).t
    · exact h.coupling.retime dt
    · obtain ⟨nb, hnb, rfl⟩ := List.mem_map.mp hnb'
      have hold := h.neighbors nb hnb
      exact ⟨hold.copy.retime dt, hold.influence.retime dt, hold.prices.retime dt,
        hold.weights.retime dt⟩

omit [Scalar α] in
theorem Shaped.setInitialState (hc : c.Shaped) {x : Vec α} (h : c.setInitialState x = .ok c') :
    c'.Shaped := by
  have hsite := site_setInitialState h
  obtain ⟨hx, rfl⟩ := setInitialState_eq_ok h
  have hlength : (x ++ c.agent.agentState.x.drop c.agent.nx).length =
      c.agent.agentState.t.length * c.agent.nx := by
    have hpos : 1 ≤ c.agent.agentState.t.length := List.length_pos_iff.mpr hc.grounded.nonempty
    have hle : 1 * c.agent.nx ≤ c.agent.agentState.t.length * c.agent.nx := Nat.mul_le_mul_right _ hpos
    have hold := hc.grounded.state.x
    dsimp only at hold
    rw [List.length_append, List.length_drop, hx, hold]
    omega
  refine hc.of_site hsite (fun h => h) rfl ⟨hc.grounded.nonempty, ?_⟩ fun h =>
    ⟨h.state.t, h.coupling, h.neighbors⟩
  exact ⟨rfl, hlength, hc.grounded.state.u, hc.grounded.state.v⟩

theorem Turn.shaped (h : Turn c c') (hc : c.Shaped) : c'.Shaped := by
  cases h with
  | solve => exact hc.updateAgentStates
  | couple h => exact hc.updateCouplingStates h
  | raise h => exact hc.updateMultiplierStates h
  | adapt h => exact hc.adaptPenalties h
  | receive sender kind r => exact hc.applyIncoming sender kind r
  | finish =>
    obtain ⟨_, -, heq⟩ := c.finishIteration_eq
    rw [heq]
    exact ⟨hc.grounded, hc.spanned⟩
  | fail => exact ⟨hc.grounded, hc.spanned⟩

theorem Act.shaped (h : Act c c') (hc : c.Shaped) : c'.Shaped := by
  cases h with
  | turn h => exact h.shaped hc
  | start t0 => exact shaped_startAt t0 hc
  | prepare => exact shaped_prepare hc
  | begin => exact ⟨hc.grounded, hc.spanned⟩
  | shift dt => exact shaped_shiftHorizon dt hc
  | restart h => exact hc.setInitialState h

/-- In line with the network again, an agent has to be sized anew. -/
theorem Shaped.sync (hc : c.Shaped) (hn : c.agent.neighborIds.Nodup) {n : Network α} (hsized : n.Sized)
    (hmodel : n.model? c.agent.id = some c.agent.model) {a : Agent α}
    (h : n.syncAgent c.agent = .ok a) : (c.modifyAgent fun _ => a).Shaped := by
  obtain ⟨entry, hentry, hdesired⟩ := Network.syncAgent_desired hn h
  have hsynced := Network.syncAgent_synced hn h
  have hagree : entry.model = c.agent.model := by
    rw [Network.model?, hentry] at hmodel
    exact Option.some.inj hmodel
  have hentry := hsized _ entry hentry
  have hnx : a.nx = c.agent.nx := congrArg AgentModel.nx hsynced.model
  have hnu : a.nu = c.agent.nu := congrArg AgentModel.nu hsynced.model
  have hstate : a.agentState = c.agent.agentState := hsynced.agentState
  refine ⟨⟨?_, ?_, ?_⟩, by simp [modifyAgent]⟩
  · change a.agentState.t ≠ []
    exact hstate ▸ hc.grounded.nonempty
  · change a.agentState.Spans a.agentState.t.length ⟨a.nx, a.nu, 0⟩
    rw [hstate, hnx, hnu]
    exact hc.grounded.state
  · change a.desired.Spans 1 ⟨a.nx, a.nu, 0⟩
    rw [hdesired, hnx, hnu, Agent.nx, Agent.nu, ← hagree, ← hentry.xDesired, ← hentry.uDesired]
    exact Record.spans_constant _ _ _ _ _

theorem shaped_new {n : Network α} (hn : n.Registered) (hsized : n.Sized) {id : AgentId} {t0 : α}
    {a : Agent α} (h : n.buildAgent id t0 = .ok a) (solver : LocalSolver α) (o : Options α) :
    (Controller.new a solver o).Shaped := by
  obtain ⟨entry, hentry, rfl⟩ := hn.buildAgent_eq_ok h
  have hentry := hsized id entry hentry
  refine ⟨⟨by simp [Controller.new, Network.freshAgent, Record.constant], ?_, ?_⟩, ?_⟩
  · change (Record.constant id [t0] entry.xInit entry.uInit [] : AgentState α).Spans 1
      ⟨entry.model.nx, entry.model.nu, 0⟩
    rw [← hentry.xInit, ← hentry.uInit]
    exact Record.spans_constant _ _ _ _ _
  · change (Record.constant id [t0] entry.xDesired entry.uDesired [] : AgentState α).Spans 1
      ⟨entry.model.nx, entry.model.nu, 0⟩
    rw [← hentry.xDesired, ← hentry.uDesired]
    exact Record.spans_constant _ _ _ _ _
  · simp [Controller.new]

omit [Scalar α] in
/-- The lengths of a record are those that its receiver, with the model that the sender has for it,
asks for. -/
theorem Shaped.accepts (hc : c.Shaped) (hlayout : c.layout.isSome) {nb back : Neighbor α}
    (hnb : nb ∈ c.agent.neighbors) (hback : back.model = c.agent.model) (kind : RecordKind) :
    back.Accepts c.options.horizonSteps nb.nx nb.nu kind (c.agent.recordOf nb kind) := by
  have hspanned := hc.spanned hlayout
  have hneighbor := hspanned.neighbors nb hnb
  have hnx : back.nx = c.agent.nx := congrArg AgentModel.nx hback
  have hnu : back.nu = c.agent.nu := congrArg AgentModel.nu hback
  cases kind with
  | agentState => exact ⟨hspanned.state.t, hnx ▸ hspanned.state.x, hnu ▸ hspanned.state.u⟩
  | desiredAgentState =>
    have hdesired := hc.grounded.desired
    exact ⟨hdesired.t.symm ▸ hnx ▸ hdesired.x, hdesired.t.symm ▸ hnu ▸ hdesired.u⟩
  | coupledAgentState =>
    exact ⟨hneighbor.copy.t, hneighbor.copy.x, hneighbor.copy.u, hneighbor.copy.v⟩
  | couplingState => exact hspanned.coupling.u.trans (congrArg _ hnu.symm)
  | externalInfluenceCouplingState => exact hneighbor.influence.v.trans (congrArg _ hnx.symm)
  | coupledMultiplierState => exact ⟨hneighbor.prices.u, hneighbor.prices.v⟩
  | coupledPenaltyState => exact ⟨hneighbor.weights.u, hneighbor.weights.v⟩

omit [Scalar α] in
/-- No record is sent without a grid. -/
theorem Shaped.recordOf_ne_nil (hc : c.Shaped) (hlayout : c.layout.isSome)
    (hsamples : 2 ≤ c.options.horizonSteps) {nb : Neighbor α} (hnb : nb ∈ c.agent.neighbors)
    (kind : RecordKind) : (c.agent.recordOf nb kind).t ≠ [] := by
  have hspanned := hc.spanned hlayout
  have hneighbor := hspanned.neighbors nb hnb
  have hne : ∀ {t : Vec α}, t.length = c.options.horizonSteps → t ≠ [] := fun ht =>
    List.ne_nil_of_length_pos (by omega)
  cases kind with
  | agentState => exact hne hspanned.state.t
  | desiredAgentState => exact List.ne_nil_of_length_pos (Nat.lt_of_lt_of_eq Nat.one_pos
      hc.grounded.desired.t.symm)
  | coupledAgentState => exact hne hneighbor.copy.t
  | couplingState => exact hne hspanned.coupling.t
  | externalInfluenceCouplingState => exact hne hneighbor.influence.t
  | coupledMultiplierState => exact hne hneighbor.prices.t
  | coupledPenaltyState => exact hne hneighbor.weights.t

end Controller

end ConsensusControl
