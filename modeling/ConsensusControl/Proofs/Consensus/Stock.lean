import ConsensusControl.Proofs.Consensus.Averaging
import ConsensusControl.Proofs.Consensus.Guess
import ConsensusControl.Proofs.Consensus.Shape

namespace ConsensusControl

variable {α : Type}

theorem exists_bind_eq_ok {ε β γ : Type} {x : Except ε β} {f : β → Except ε γ}
    (hx : ∃ b, x = .ok b) (hf : ∀ b, x = .ok b → ∃ c, f b = .ok c) : ∃ c, x >>= f = .ok c := by
  obtain ⟨b, hb⟩ := hx
  obtain ⟨c, hc⟩ := hf b hb
  exact ⟨c, bind_eq_ok.mpr ⟨b, hb, hc⟩⟩

/-- A traversal succeeds where every element does. -/
theorem exists_mapM_eq_ok {ε ι β : Type} {f : ι → Except ε β} {l : List ι}
    (h : ∀ i ∈ l, ∃ b, f i = .ok b) : ∃ bs, l.mapM f = .ok bs := by
  obtain ⟨bs, hbs⟩ := exists_forall₂ h
  exact ⟨bs, mapM_eq_ok.mpr hbs⟩

/-- The function adds into a vector and leaves its length alone. -/
def PairMap.KeepsLength (f : PairMap α) : Prop := ∀ p out, (f.value p out).length = out.length

namespace Neighbor

/-- What came from the neighbor has the lengths that its receiver, of dimensions `nx` and `nu`, reads. -/
structure Received (samples nx nu : Nat) (nb : Neighbor α) : Prop where
  latest : ∀ kind, kind ≠ .desiredAgentState → nb.Accepts samples nx nu kind (nb.stored kind)
  previousCoupling : nb.previousCouplingState.u.length = samples * nb.nu
  previousExternal : nb.previousExternalInfluence.v.length = samples * nb.nx

/-- What the agent decides about the neighbor has the lengths that the agent reads. -/
structure Owned (samples nx : Nat) (nb : Neighbor α) : Prop where
  copy : nb.localCopy.Spans samples ⟨nb.nx, nb.nu, nb.nx⟩
  influence : nb.localInfluence.length = samples * nx
  coupling : nb.influenceCoupling.v.length = samples * nx
  prices : nb.influenceMultiplier.v.length = samples * nx
  weights : nb.influencePenalty.v.length = samples * nx
  copyPrices : nb.copyMultiplier.u.length = samples * nb.nu ∧
    nb.copyMultiplier.v.length = samples * nb.nx
  copyWeights : nb.copyPenalty.u.length = samples * nb.nu ∧
    nb.copyPenalty.v.length = samples * nb.nx

structure Stocked (samples nx nu : Nat) (nb : Neighbor α) : Prop where
  received : nb.Received samples nx nu
  owned : nb.Owned samples nx

end Neighbor

namespace Controller

/-- The records of a controller whose agent has dimensions `nx` and `nu`, and of all its neighbors,
have the lengths that its operations read. -/
structure Stocked (samples nx nu : Nat) (c : Controller α) : Prop where
  state : c.agent.agentState.Spans samples ⟨nx, nu, 0⟩
  coupling : c.agent.couplingState.u.length = samples * nu
  prices : c.agent.multiplierState.u.length = samples * nu
  weights : c.agent.penaltyState.u.length = samples * nu
  neighbors : ∀ nb ∈ c.agent.neighbors, nb.Stocked samples nx nu
  previousCoupling : c.previousCoupling.u.length = samples * nu
  previousCount : c.previousInfluences.length = c.agent.neighbors.length
  previousInfluences : ∀ z ∈ c.previousInfluences, z.v.length = samples * nx

variable [Scalar α]

/-- A controller that has been prepared and whose agent has stayed the same since. -/
structure Operable (c : Controller α) : Prop where
  valid : c.options.validate = .ok ()
  layout : ∃ layout, c.layout = some layout ∧ c.agent.indexMap = .ok layout.index
  couplings : ∀ link ∈ c.agent.links, ∀ f, link.relation.sending = some f → f.dynamics.KeepsLength
  stocked : c.Stocked c.options.horizonSteps c.agent.nx c.agent.nu

variable {c c' : Controller α}

theorem Operable.of_site (hc : c.Operable) (hsite : c'.site = c.site) (hlayout : c'.layout = c.layout)
    (h : c'.Stocked c.options.horizonSteps c.agent.nx c.agent.nu) : c'.Operable := by
  have hoptions : c'.options = c.options := congrArg Site.options hsite
  have hmodel : c'.agent.model = c.agent.model := congrArg Site.model hsite
  have hlinks : c'.agent.links = c.agent.links := congrArg Site.links hsite
  obtain ⟨layout, hsome, hindex⟩ := hc.layout
  refine ⟨hoptions ▸ hc.valid, ⟨layout, hlayout.trans hsome, ?_⟩, hlinks ▸ hc.couplings, ?_⟩
  · rw [indexMap_of_site hsite]
    exact hindex
  · rwa [hoptions, Agent.nx, Agent.nu, hmodel]

end Controller

namespace Neighbor

variable {nb : Neighbor α} {samples nx nu : Nat}

theorem stored_keep_self (nb : Neighbor α) (kind : RecordKind) (r : Record kind.family α) :
    (nb.keep kind r).stored kind = r := by
  cases kind <;> rfl

theorem stored_keep_ne (nb : Neighbor α) {kind other : RecordKind} (r : Record kind.family α)
    (h : other ≠ kind) : (nb.keep kind r).stored other = nb.stored other := by
  cases kind <;> cases other <;> first | rfl | exact absurd rfl h

/-- An accepted record takes the place of one that the agent could compute with. -/
theorem Stocked.keep (h : nb.Stocked samples nx nu) {kind : RecordKind} {r : Record kind.family α}
    (haccepts : nb.Accepts samples nx nu kind r) : (nb.keep kind r).Stocked samples nx nu := by
  have hmodel : (nb.keep kind r).model = nb.model := by cases kind <;> rfl
  have hlatest : ∀ other, other ≠ .desiredAgentState →
      (nb.keep kind r).Accepts samples nx nu other ((nb.keep kind r).stored other) := by
    intro other hne
    by_cases hkind : other = kind
    · subst hkind
      rw [stored_keep_self]
      exact haccepts.of_model hmodel
    · rw [stored_keep_ne nb r hkind]
      exact (h.received.latest other hne).of_model hmodel
  have howned : (nb.keep kind r).Owned samples nx := by
    obtain ⟨hcopy, hinfluence, hcoupling, hprices, hweights, hcopyPrices, hcopyWeights⟩ := h.owned
    cases kind <;>
      exact ⟨hcopy, hinfluence, hcoupling, hprices, hweights, hcopyPrices, hcopyWeights⟩
  have hcoupling := h.received.latest .couplingState (by simp)
  have hexternal := h.received.latest .externalInfluenceCouplingState (by simp)
  obtain ⟨⟨-, hpreviousCoupling, hpreviousExternal⟩, -⟩ := h
  cases kind with
  | couplingState => exact ⟨⟨hlatest, hcoupling, hpreviousExternal⟩, howned⟩
  | externalInfluenceCouplingState => exact ⟨⟨hlatest, hpreviousCoupling, hexternal⟩, howned⟩
  | agentState | desiredAgentState | coupledAgentState | coupledMultiplierState
  | coupledPenaltyState => exact ⟨⟨hlatest, hpreviousCoupling, hpreviousExternal⟩, howned⟩

end Neighbor

/-- Channels of the same lengths. -/
structure Record.Alike {family : Family} (r r' : Record family α) : Prop where
  t : r'.t.length = r.t.length
  x : r'.x.length = r.x.length
  u : r'.u.length = r.u.length
  v : r'.v.length = r.v.length

namespace Record

variable {family : Family} {r r' : Record family α}

theorem Alike.spans (h : r.Alike r') {samples : Nat} {shape : Shape} (hr : r.Spans samples shape) :
    r'.Spans samples shape :=
  ⟨h.t.trans hr.t, h.x.trans hr.x, h.u.trans hr.u, h.v.trans hr.v⟩

variable [Scalar α]

theorem alike_retime (dt : α) (r : Record family α) : r.Alike (r.retime dt) :=
  ⟨List.length_map _, rfl, rfl, rfl⟩

theorem alike_shift (dt : α) (r : Record family α) : r.Alike (r.shift dt) :=
  ⟨List.length_map _, Trajectory.length_shiftSamples _ _, Trajectory.length_shiftSamples _ _,
    Trajectory.length_shiftSamples _ _⟩

end Record

namespace Neighbor

variable {nb nb' : Neighbor α} {samples nx nu : Nat}

/-- Whether a record is accepted depends on its lengths alone. -/
theorem Accepts.of_alike {kind : RecordKind} {r r' : Record kind.family α}
    (h : nb.Accepts samples nx nu kind r) (hr : r.Alike r') : nb.Accepts samples nx nu kind r' := by
  obtain ⟨ht, hx, hu, hv⟩ := hr
  cases kind <;> simp only [Accepts, ht, hx, hu, hv] at h ⊢ <;> exact h

/-- Records that all keep their lengths. -/
structure Alike (nb nb' : Neighbor α) : Prop where
  model : nb'.model = nb.model
  latest : ∀ kind, kind ≠ .desiredAgentState → (nb.stored kind).Alike (nb'.stored kind)
  previousCoupling : nb.previousCouplingState.Alike nb'.previousCouplingState
  previousExternal : nb.previousExternalInfluence.Alike nb'.previousExternalInfluence
  copy : nb.localCopy.Alike nb'.localCopy
  influence : nb'.localInfluence.length = nb.localInfluence.length
  coupling : nb.influenceCoupling.Alike nb'.influenceCoupling
  prices : nb.influenceMultiplier.Alike nb'.influenceMultiplier
  weights : nb.influencePenalty.Alike nb'.influencePenalty
  copyPrices : nb.copyMultiplier.Alike nb'.copyMultiplier
  copyWeights : nb.copyPenalty.Alike nb'.copyPenalty

theorem Alike.stocked (h : nb.Alike nb') (hnb : nb.Stocked samples nx nu) :
    nb'.Stocked samples nx nu := by
  have hnx : nb'.nx = nb.nx := congrArg AgentModel.nx h.model
  have hnu : nb'.nu = nb.nu := congrArg AgentModel.nu h.model
  obtain ⟨⟨hlatest, hpreviousCoupling, hpreviousExternal⟩, howned⟩ := hnb
  refine ⟨⟨fun kind hkind => ?_, ?_, ?_⟩, ?_⟩
  · exact ((hlatest kind hkind).of_alike (h.latest kind hkind)).of_model h.model
  · rw [h.previousCoupling.u, hnu, hpreviousCoupling]
  · rw [h.previousExternal.v, hnx, hpreviousExternal]
  · refine ⟨?_, h.influence.trans howned.influence, h.coupling.v.trans howned.coupling,
      h.prices.v.trans howned.prices, h.weights.v.trans howned.weights, ?_, ?_⟩
    · rw [hnx, hnu]
      exact h.copy.spans howned.copy
    · rw [hnx, hnu]
      exact ⟨h.copyPrices.u.trans howned.copyPrices.1, h.copyPrices.v.trans howned.copyPrices.2⟩
    · rw [hnx, hnu]
      exact ⟨h.copyWeights.u.trans howned.copyWeights.1, h.copyWeights.v.trans howned.copyWeights.2⟩

variable [Scalar α]

theorem alike_retime (dt : α) (nb : Neighbor α) : nb.Alike (nb.retime dt) where
  model := rfl
  latest kind hkind := by
    cases kind <;> first | exact Record.alike_retime dt _ | exact absurd rfl hkind
  previousCoupling := Record.alike_retime dt _
  previousExternal := Record.alike_retime dt _
  copy := Record.alike_retime dt _
  influence := rfl
  coupling := Record.alike_retime dt _
  prices := Record.alike_retime dt _
  weights := Record.alike_retime dt _
  copyPrices := Record.alike_retime dt _
  copyWeights := Record.alike_retime dt _

theorem alike_shift (dt : α) (dim : Nat) (nb : Neighbor α) :
    nb.Alike ((nb.shiftReceived dt dim).shiftDecided dt) where
  model := rfl
  latest kind hkind := by
    cases kind <;> first | exact Record.alike_shift dt _ | exact absurd rfl hkind
  previousCoupling := Record.alike_shift dt _
  previousExternal := Record.alike_shift dt _
  copy := Record.alike_shift dt _
  influence := Trajectory.length_shiftSamples _ _
  coupling := Record.alike_shift dt _
  prices := Record.alike_shift dt _
  weights := Record.alike_shift dt _
  copyPrices := Record.alike_shift dt _
  copyWeights := Record.alike_shift dt _

/-- Where every influence is a trajectory of the agent's dimension, the records of all neighbors are
shifted. -/
theorem shiftAll_of_shiftable (dt : α) {dim : Nat} {nbs : List (Neighbor α)}
    (h : ∀ nb ∈ nbs, Trajectory.requireShiftable dim nb.localInfluence = .ok ()) :
    shiftAll dt dim nbs = (nbs.map fun nb => (nb.shiftReceived dt dim).shiftDecided dt, .ok ()) := by
  induction nbs with
  | nil => rfl
  | cons nb nbs ih =>
    have hrest := ih fun k hk => h k (List.mem_cons_of_mem _ hk)
    simp only [shiftAll, h nb (by simp), hrest, List.map_cons]

end Neighbor

namespace Trajectory

/-- Two samples of one dimension may be shifted, and so may more. -/
theorem requireShiftable_of_samples {samples dim : Nat} {values : Vec α} (hsamples : 2 ≤ samples)
    (h : values.length = samples * dim) : requireShiftable dim values = .ok () := by
  refine Checked.require_eq_ok.mpr (.inr (.inr ?_))
  rw [h]
  exact Nat.mul_le_mul_right dim hsamples

end Trajectory

namespace Controller

variable [Scalar α] {c c' : Controller α}

theorem Operable.shiftHorizon (hc : c.Operable) (dt : α) :
    (c.shiftHorizon dt).2 = .ok () ∧ (c.shiftHorizon dt).1.Operable := by
  have hsamples : 2 ≤ c.options.horizonSteps := Options.samples_of_valid hc.valid
  have hstocked := hc.stocked
  have hshift : (c.agent.shift dt).2 = .ok () ∧ (c.agent.shift dt).1.neighbors =
      c.agent.neighbors.map fun nb => (nb.shiftReceived dt c.agent.nx).shiftDecided dt := by
    have hall := Neighbor.shiftAll_of_shiftable dt fun nb hnb =>
      Trajectory.requireShiftable_of_samples hsamples (hstocked.neighbors nb hnb).owned.influence
    simp only [Agent.shift, hall, and_self]
  obtain ⟨hok, hneighbors⟩ := hshift
  have hresult : (c.shiftHorizon dt).2 = .ok () := by
    have hpair : c.agent.shift dt = ((c.agent.shift dt).1, .ok ()) := Prod.ext rfl hok
    unfold Controller.shiftHorizon
    rw [hpair]
    split <;> rfl
  refine ⟨hresult, ?_⟩
  have hsite := site_shiftHorizon dt c
  obtain ⟨_, heq⟩ | heq | heq := c.shiftHorizon_cases dt
  · rw [heq] at hresult
    cases hresult
  · rw [heq] at hsite ⊢
    refine hc.of_site hsite rfl ⟨hstocked.state.shift dt, ?_, ?_, ?_, fun nb' hnb' => ?_, ?_, ?_,
      fun z' hz' => ?_⟩
    · exact (Record.alike_shift dt c.agent.couplingState).u.trans hstocked.coupling
    · exact (Record.alike_shift dt c.agent.multiplierState).u.trans hstocked.prices
    · exact (Record.alike_shift dt c.agent.penaltyState).u.trans hstocked.weights
    · obtain ⟨nb, hnb, rfl⟩ := List.mem_map.mp (hneighbors ▸ hnb')
      exact (Neighbor.alike_shift dt _ nb).stocked (hstocked.neighbors nb hnb)
    · exact (Record.alike_shift dt c.previousCoupling).u.trans hstocked.previousCoupling
    · simp only [beginSolve, hneighbors, List.length_map]
      exact hstocked.previousCount
    · obtain ⟨z, hz, rfl⟩ := List.mem_map.mp hz'
      exact (Record.alike_shift dt z).v.trans (hstocked.previousInfluences z hz)
  · rw [heq] at hsite ⊢
    have hneighbors : ∀ nb' ∈ (c.agent.retime dt).neighbors,
        nb'.Stocked c.options.horizonSteps c.agent.nx c.agent.nu := by
      intro nb' hnb'
      obtain ⟨nb, hnb, rfl⟩ := List.mem_map.mp hnb'
      exact (Neighbor.alike_retime dt nb).stocked (hstocked.neighbors nb hnb)
    refine hc.of_site hsite rfl ⟨hstocked.state.retime dt, hstocked.coupling, hstocked.prices,
      hstocked.weights, hneighbors, hstocked.coupling, List.length_map _, fun z hz => ?_⟩
    obtain ⟨nb, hnb, rfl⟩ := List.mem_map.mp hz
    exact (hneighbors nb hnb).owned.coupling

/-- Solver, status and counters are no records. -/
theorem Operable.recount (hc : c.Operable) (solver : LocalSolver α) (status : Status)
    (iteration : Nat) (residuals : Residuals α) (failures total : Nat) (cost : Option α) :
    { c with
      solver, status, iteration, residuals
      consecutiveFailures := failures
      totalFailures := total
      lastCost := cost }.Operable := by
  obtain ⟨hstate, hcoupling, hprices, hweights, hneighbors, hprevious, hcount, hinfluences⟩ :=
    hc.stocked
  exact hc.of_site rfl rfl
    ⟨hstate, hcoupling, hprices, hweights, hneighbors, hprevious, hcount, hinfluences⟩

theorem Operable.beginSolve (hc : c.Operable) : c.beginSolve.Operable := hc.recount _ _ _ _ _ _ _

end Controller

/-- Sizing gives every record the lengths of its role. -/
theorem Neighbor.stocked_prepare [Scalar α] (nb : Neighbor α) (own : AgentState α) (owner : AgentId)
    (nx nu : Nat) (grid : Vec α) (rho : α) :
    (nb.prepare own owner nx nu grid rho).Stocked grid.length nx nu := by
  have hstate : (nb.prepare own owner nx nu grid rho).agentState.Spans grid.length
      ⟨nb.nx, nb.nu, 0⟩ := Record.spans_keepOr (Record.spans_resample _ _ _)
  have hcoupling : (nb.prepare own owner nx nu grid rho).couplingState.Spans grid.length
      ⟨nb.nx, nb.nu, 0⟩ :=
    Record.spans_keepOr ⟨hstate.t, hstate.x, hstate.u, (Nat.mul_zero _).symm⟩
  have hprevious : (nb.prepare own owner nx nu grid rho).previousCouplingState.Spans grid.length
      ⟨nb.nx, nb.nu, 0⟩ := Record.spans_keepOr hcoupling
  have hexternal : (nb.prepare own owner nx nu grid rho).externalInfluence.Spans grid.length
      ⟨0, 0, nb.nx⟩ := Record.spans_keepOr (Record.spans_filled _ _ _ _)
  have hpreviousExternal : (nb.prepare own owner nx nu grid rho).previousExternalInfluence.Spans
      grid.length ⟨0, 0, nb.nx⟩ := Record.spans_keepOr hexternal
  have hcopyOfOwn : (nb.prepare own owner nx nu grid rho).coupledAgentState.Spans grid.length
      ⟨nx, nu, nx⟩ := Record.spans_keepOr (Record.spans_resample _ _ _)
  have hmultiplier : (nb.prepare own owner nx nu grid rho).coupledMultiplier.Spans grid.length
      ⟨0, nu, nx⟩ := Record.spans_keepOr (Record.spans_filled _ _ _ _)
  have hpenalty : (nb.prepare own owner nx nu grid rho).coupledPenalty.Spans grid.length
      ⟨0, nu, nx⟩ := Record.spans_keepOr (Record.spans_filled _ _ _ _)
  have hinfluence : (nb.prepare own owner nx nu grid rho).influenceCoupling.Spans grid.length
      ⟨0, 0, nx⟩ := Record.spans_keepOr (Record.spans_filled _ _ _ _)
  have hprices : (nb.prepare own owner nx nu grid rho).influenceMultiplier.Spans grid.length
      ⟨0, 0, nx⟩ := Record.spans_keepOr (Record.spans_filled _ _ _ _)
  have hweights : (nb.prepare own owner nx nu grid rho).influencePenalty.Spans grid.length
      ⟨0, 0, nx⟩ := Record.spans_keepOr (Record.spans_filled _ _ _ _)
  have hcopyPrices : (nb.prepare own owner nx nu grid rho).copyMultiplier.Spans grid.length
      ⟨0, nb.nu, nb.nx⟩ := Record.spans_keepOr (Record.spans_filled _ _ _ _)
  have hcopyWeights : (nb.prepare own owner nx nu grid rho).copyPenalty.Spans grid.length
      ⟨0, nb.nu, nb.nx⟩ := Record.spans_keepOr (Record.spans_filled _ _ _ _)
  refine ⟨⟨fun kind hkind => ?_, hprevious.u, hpreviousExternal.v⟩,
    ⟨Record.spans_keepOr (Record.spans_resample _ _ _), ?_, hinfluence.v, hprices.v, hweights.v,
      ⟨hcopyPrices.u, hcopyPrices.v⟩, ⟨hcopyWeights.u, hcopyWeights.v⟩⟩⟩
  · cases kind with
    | agentState => exact ⟨hstate.t, hstate.x, hstate.u⟩
    | desiredAgentState => exact absurd rfl hkind
    | coupledAgentState => exact ⟨hcopyOfOwn.t, hcopyOfOwn.x, hcopyOfOwn.u, hcopyOfOwn.v⟩
    | couplingState => exact hcoupling.u
    | externalInfluenceCouplingState => exact hexternal.v
    | coupledMultiplierState => exact ⟨hmultiplier.u, hmultiplier.v⟩
    | coupledPenaltyState => exact ⟨hpenalty.u, hpenalty.v⟩
  · simp only [prepare]
    split
    · next hlength => exact hlength
    · exact Vec.length_zeros _

namespace Controller

variable [Scalar α] {c c' : Controller α}

/-- A preparation that succeeds sizes all records, whatever they were before. -/
theorem operable_prepare (hcouplings : ∀ link ∈ c.agent.links, ∀ f,
      link.relation.sending = some f → f.dynamics.KeepsLength)
    (h : c.prepare.2 = .ok ()) : c.prepare.1.Operable := by
  have hsite := site_prepare c
  obtain ⟨hvalid, layout, hlayout, heq⟩ := laidOut_of_prepare h
  rw [heq] at hsite ⊢
  have hoptions : (c.approximating.laidOut layout).options = c.options := congrArg Site.options hsite
  have hlinks : (c.approximating.laidOut layout).agent.links = c.agent.links :=
    congrArg Site.links hsite
  have hgrid : c.approximating.grid.length = c.options.horizonSteps :=
    Trajectory.length_uniformGrid _ _ _
  refine ⟨hvalid, ⟨layout, rfl, ?_⟩, hlinks ▸ hcouplings, ?_⟩
  · have hindex := Agent.indexMap_of_layout hlayout
    rwa [indexMap_of_site hsite]
  have hneighbors : ∀ nb' ∈ (c.approximating.laidOut layout).agent.neighbors,
      nb'.Stocked c.options.horizonSteps c.agent.nx c.agent.nu := by
    intro nb' hnb'
    obtain ⟨nb, -, rfl⟩ := List.mem_map.mp hnb'
    exact hgrid ▸ nb.stocked_prepare _ _ _ _ _ _
  have hstate : (c.approximating.laidOut layout).agent.agentState.Spans c.options.horizonSteps
      ⟨c.agent.nx, c.agent.nu, 0⟩ := hgrid ▸ Record.spans_keepOr (Record.spans_resample _ _ _)
  have hcoupling : (c.approximating.laidOut layout).agent.couplingState.Spans c.options.horizonSteps
      ⟨c.agent.nx, c.agent.nu, 0⟩ :=
    hgrid ▸ Record.spans_keepOr (hgrid.symm ▸ ⟨hstate.t, hstate.x, hstate.u, (Nat.mul_zero _).symm⟩)
  have hprices : (c.approximating.laidOut layout).agent.multiplierState.Spans c.options.horizonSteps
      ⟨c.agent.nx, c.agent.nu, 0⟩ := hgrid ▸ Record.spans_keepOr (Record.spans_filled _ _ _ _)
  have hweights : (c.approximating.laidOut layout).agent.penaltyState.Spans c.options.horizonSteps
      ⟨c.agent.nx, c.agent.nu, 0⟩ := hgrid ▸ Record.spans_keepOr (Record.spans_filled _ _ _ _)
  refine ⟨hstate, hcoupling.u, hprices.u, hweights.u, hneighbors, hcoupling.u, List.length_map _,
    fun z hz => ?_⟩
  obtain ⟨nb, hnb, rfl⟩ := List.mem_map.mp hz
  exact (hneighbors nb hnb).owned.coupling

/-- Prepared once more, or refused, a controller can go on. -/
theorem Operable.prepare (hc : c.Operable) : c.prepare.1.Operable := by
  obtain ⟨_, heq⟩ | ⟨-, ⟨_, heq⟩ | ⟨layout, -, heq⟩⟩ := c.prepare_cases
  · rw [heq]
    exact hc
  · rw [heq]
    obtain ⟨hstate, hcoupling, hprices, hweights, hneighbors, hprevious, hcount, hinfluences⟩ :=
      hc.stocked
    exact hc.of_site rfl rfl
      ⟨hstate, hcoupling, hprices, hweights, hneighbors, hprevious, hcount, hinfluences⟩
  · exact operable_prepare hc.couplings (congrArg Prod.snd heq)

/-- An initial state leaves the prediction behind it. -/
theorem Operable.setInitialState (hc : c.Operable) {x : Vec α} (h : c.setInitialState x = .ok c') :
    c'.Operable := by
  have hsite := site_setInitialState h
  obtain ⟨hx, rfl⟩ := setInitialState_eq_ok h
  have hsamples : 2 ≤ c.options.horizonSteps := Options.samples_of_valid hc.valid
  obtain ⟨hstate, hcoupling, hprices, hweights, hneighbors, hprevious, hcount, hinfluences⟩ :=
    hc.stocked
  have hlength : (x ++ c.agent.agentState.x.drop c.agent.nx).length =
      c.options.horizonSteps * c.agent.nx := by
    have hle : 2 * c.agent.nx ≤ c.options.horizonSteps * c.agent.nx :=
      Nat.mul_le_mul_right _ hsamples
    have hold : c.agent.agentState.x.length = c.options.horizonSteps * c.agent.nx := hstate.x
    rw [List.length_append, List.length_drop, hx, hold]
    omega
  exact hc.of_site hsite rfl ⟨⟨hstate.t, hlength, hstate.u, hstate.v⟩, hcoupling, hprices, hweights,
    hneighbors, hprevious, hcount, hinfluences⟩

theorem Operable.applyIncoming (hc : c.Operable) (sender : AgentId) (kind : RecordKind)
    (r : StateRecord α) : (c.applyIncoming sender kind r).1.Operable := by
  have hsite := c.site_receive sender kind r
  obtain ⟨_, heq⟩ | ⟨record, nb, -, hnb, haccepts, heq⟩ := c.applyIncoming_cases sender kind r
  · rwa [heq]
  rw [heq] at hsite ⊢
  obtain ⟨hstate, hcoupling, hprices, hweights, hneighbors, hprevious, hcount, hinfluences⟩ :=
    hc.stocked
  refine hc.of_site hsite rfl ⟨hstate, hcoupling, hprices, hweights, fun nb' hnb' => ?_, hprevious,
    hcount.trans (length_neighbors hsite).symm, hinfluences⟩
  obtain hold | ⟨_, -, rfl⟩ := Agent.mem_modifyFirst hnb'
  · exact hneighbors nb' hold
  · exact (hneighbors nb (Agent.mem_of_neighbor? hnb).1).keep haccepts

end Controller

namespace Neighbor

variable [Scalar α] {nb : Neighbor α} {samples nx nu : Nat}

theorem Stocked.updateInfluence (h : nb.Stocked samples nx nu) :
    ∃ nb', nb.updateInfluence = .ok nb' ∧ nb'.Stocked samples nx nu := by
  obtain ⟨-, -, -, hcopy⟩ := h.received.latest .coupledAgentState (by simp)
  obtain ⟨-, hprices⟩ := h.received.latest .coupledMultiplierState (by simp)
  obtain ⟨-, hweights⟩ := h.received.latest .coupledPenaltyState (by simp)
  obtain ⟨⟨hlatest, hpreviousCoupling, hpreviousExternal⟩, howned⟩ := h
  have hcovers : ∀ p ∈ nb.influenceParticipants, p.covers nb.influenceCoupling.v.length := by
    intro p hp
    rw [Participant.covers_iff, howned.coupling]
    rcases List.mem_append.mp hp with hp | hp
    · split at hp
      · obtain rfl := List.mem_singleton.mp hp
        exact ⟨howned.influence.ge, howned.prices.ge, howned.weights.ge⟩
      · cases hp
    · obtain rfl := List.mem_singleton.mp hp
      exact ⟨hcopy.ge, hprices.ge, hweights.ge⟩
  obtain ⟨v, hv⟩ : ∃ v, weightedConsensus nb.influenceCoupling.v nb.influenceParticipants = .ok v :=
    ⟨_, weightedConsensus_eq_ok.mpr ⟨hcovers, rfl⟩⟩
  refine ⟨_, bind_eq_ok.mpr ⟨v, hv, rfl⟩, ⟨hlatest, hpreviousCoupling, hpreviousExternal⟩,
    ⟨howned.copy, howned.influence, ?_, howned.prices, howned.weights, howned.copyPrices,
      howned.copyWeights⟩⟩
  exact (length_weightedConsensus hv).trans howned.coupling

end Neighbor

namespace Controller

variable [Scalar α] {c c' : Controller α}

theorem updateInfluences_of_stocked {samples nx nu : Nat} {nbs : List (Neighbor α)}
    (h : ∀ nb ∈ nbs, nb.Stocked samples nx nu) (dual : α) (previous : List (CouplingState α)) :
    ∃ nbs' previous' dual', updateInfluences dual nbs previous = .ok (nbs', previous', dual') ∧
      ∀ nb' ∈ nbs', nb'.Stocked samples nx nu := by
  induction nbs generalizing dual previous with
  | nil => exact ⟨[], previous, dual, rfl, h⟩
  | cons nb nbs ih =>
    cases previous with
    | nil => exact ⟨nb :: nbs, [], dual, rfl, h⟩
    | cons _ previous =>
      obtain ⟨updated, hupdated, hstocked⟩ := (h nb (by simp)).updateInfluence
      obtain ⟨rest, olds, dual', hrest, hall⟩ :=
        ih (fun k hk => h k (List.mem_cons_of_mem _ hk)) _ previous
      refine ⟨updated :: rest, nb.influenceCoupling :: olds, dual',
        bind_eq_ok.mpr ⟨updated, hupdated, bind_eq_ok.mpr ⟨_, hrest, rfl⟩⟩, fun nb' hnb' => ?_⟩
      rcases List.mem_cons.mp hnb' with rfl | hnb'
      · exact hstocked
      · exact hall nb' hnb'

theorem Operable.updateCouplingStates (hc : c.Operable) :
    ∃ c', c.updateCouplingStates = .ok c' ∧ c'.Operable := by
  obtain ⟨hstate, hcoupling, hprices, hweights, hneighbors, hprevious, hcount, hinfluences⟩ :=
    hc.stocked
  have hcovers : ∀ p ∈ c.agent.controlParticipants, p.covers c.agent.couplingState.u.length := by
    intro p hp
    rw [Participant.covers_iff, hcoupling]
    rcases List.mem_cons.mp hp with rfl | hp
    · exact ⟨hstate.u.ge, hprices.ge, hweights.ge⟩
    · obtain ⟨nb, hnb, rfl⟩ := List.mem_map.mp hp
      have hreceived := (hneighbors nb hnb).received
      exact ⟨(hreceived.latest .coupledAgentState (by simp)).2.2.1.ge,
        (hreceived.latest .coupledMultiplierState (by simp)).1.ge,
        (hreceived.latest .coupledPenaltyState (by simp)).1.ge⟩
  obtain ⟨u, hu⟩ : ∃ u, weightedConsensus c.agent.couplingState.u c.agent.controlParticipants =
      .ok u := ⟨_, weightedConsensus_eq_ok.mpr ⟨hcovers, rfl⟩⟩
  obtain ⟨neighbors, olds, dual, hupdate, hstocked⟩ := updateInfluences_of_stocked hneighbors
    (Vec.maxChange u c.agent.couplingState.u) c.previousInfluences
  obtain ⟨c', h⟩ : ∃ c', c.updateCouplingStates = .ok c' :=
    ⟨_, bind_eq_ok.mpr ⟨u, hu, bind_eq_ok.mpr ⟨_, hupdate, rfl⟩⟩⟩
  have hsite := site_updateCouplingStates h
  obtain ⟨u', neighbors', olds', dual', hu', hupdate', rfl⟩ := updateCouplingStates_eq_ok h
  obtain ⟨rfl, rfl, rfl⟩ : neighbors = neighbors' ∧ olds = olds' ∧ dual = dual' := by
    obtain rfl : u = u' := Except.ok.inj (hu.symm.trans hu')
    simpa using hupdate.symm.trans hupdate'
  obtain ⟨-, rfl⟩ := updateInfluences_all hcount hupdate
  refine ⟨_, h, hc.of_site hsite rfl ⟨hstate, ?_, hprices, hweights, hstocked, hcoupling, ?_,
    fun z hz => ?_⟩⟩
  · exact (length_weightedConsensus hu').trans hcoupling
  · exact (List.length_map _).trans (length_neighbors hsite).symm
  · obtain ⟨nb, hnb, rfl⟩ := List.mem_map.mp hz
    exact (hneighbors nb hnb).owned.coupling

end Controller

theorem dualAscent_of_lengths [Scalar α] (mu rho z own : Vec α) (hrho : mu.length ≤ rho.length)
    (hz : mu.length ≤ z.length) (hown : mu.length ≤ own.length) :
    ∃ mu' r, dualAscent mu rho z own = .ok (mu', r) ∧ mu'.length = mu.length := by
  obtain ⟨⟨mu', r⟩, h⟩ : ∃ p, dualAscent mu rho z own = .ok p :=
    ⟨_, bind_eq_ok.mpr ⟨(), Checked.require_eq_ok.mpr (by simp [hrho, hz, hown]), rfl⟩⟩
  exact ⟨mu', r, h, length_dualAscent h⟩

namespace Neighbor

variable [Scalar α] {nb : Neighbor α} {samples nx nu : Nat}

theorem Stocked.updateMultipliers (h : nb.Stocked samples nx nu) (primal : α) :
    ∃ nb' primal', nb.updateMultipliers primal = .ok (nb', primal') ∧
      nb'.Stocked samples nx nu := by
  have hcoupling : nb.couplingState.u.length = samples * nb.nu :=
    h.received.latest .couplingState (by simp)
  have hexternal : nb.externalInfluence.v.length = samples * nb.nx :=
    h.received.latest .externalInfluenceCouplingState (by simp)
  obtain ⟨⟨hlatest, hpreviousCoupling, hpreviousExternal⟩, howned⟩ := h
  obtain ⟨influence, primal', hinfluence, hlength⟩ : ∃ m p, nb.raiseInfluence primal = .ok (m, p) ∧
      m.v.length = nb.influenceMultiplier.v.length := by
    unfold raiseInfluence
    split
    · obtain ⟨v, r, hv, hlength⟩ := dualAscent_of_lengths nb.influenceMultiplier.v
        nb.influencePenalty.v nb.influenceCoupling.v nb.localInfluence
        (by rw [howned.prices, howned.weights]) (by rw [howned.prices, howned.coupling])
        (by rw [howned.prices, howned.influence])
      exact ⟨_, _, bind_eq_ok.mpr ⟨_, hv, rfl⟩, hlength⟩
    · exact ⟨_, _, rfl, rfl⟩
  obtain ⟨v, rv, hv, hlv⟩ := dualAscent_of_lengths nb.copyMultiplier.v nb.copyPenalty.v
    nb.externalInfluence.v nb.localCopy.v
    (by rw [howned.copyPrices.2, howned.copyWeights.2]) (by rw [howned.copyPrices.2, hexternal])
    (by rw [howned.copyPrices.2, howned.copy.v])
  obtain ⟨u, ru, hu, hlu⟩ := dualAscent_of_lengths nb.copyMultiplier.u nb.copyPenalty.u
    nb.couplingState.u nb.localCopy.u
    (by rw [howned.copyPrices.1, howned.copyWeights.1]) (by rw [howned.copyPrices.1, hcoupling])
    (by rw [howned.copyPrices.1, howned.copy.u])
  have hcopy : nb.raiseCopy primal' = .ok ({ nb.copyMultiplier with u, v },
      Scalar.max (Scalar.max primal' rv) ru) :=
    bind_eq_ok.mpr ⟨_, hv, bind_eq_ok.mpr ⟨_, hu, rfl⟩⟩
  refine ⟨{ nb with influenceMultiplier := influence, copyMultiplier := { nb.copyMultiplier with u, v } },
    Scalar.max (Scalar.max primal' rv) ru, ?_, ⟨hlatest, hpreviousCoupling, hpreviousExternal⟩,
    ⟨howned.copy, howned.influence, howned.coupling, hlength.trans howned.prices, howned.weights,
      ⟨hlu.trans howned.copyPrices.1, hlv.trans howned.copyPrices.2⟩, howned.copyWeights⟩⟩
  rw [updateMultipliers_eq]
  exact bind_eq_ok.mpr ⟨_, hinfluence, bind_eq_ok.mpr ⟨_, hcopy, rfl⟩⟩

end Neighbor

namespace Controller

variable [Scalar α] {c c' : Controller α}

theorem updateNeighborMultipliers_of_stocked {samples nx nu : Nat} {nbs : List (Neighbor α)}
    (h : ∀ nb ∈ nbs, nb.Stocked samples nx nu) (primal : α) :
    ∃ nbs' primal', updateNeighborMultipliers primal nbs = .ok (nbs', primal') ∧
      ∀ nb' ∈ nbs', nb'.Stocked samples nx nu := by
  induction nbs generalizing primal with
  | nil => exact ⟨[], primal, rfl, h⟩
  | cons nb nbs ih =>
    obtain ⟨updated, p, hupdated, hstocked⟩ := (h nb (by simp)).updateMultipliers primal
    obtain ⟨rest, p', hrest, hall⟩ := ih (fun k hk => h k (List.mem_cons_of_mem _ hk)) p
    refine ⟨updated :: rest, p', bind_eq_ok.mpr ⟨_, hupdated, bind_eq_ok.mpr ⟨_, hrest, rfl⟩⟩,
      fun nb' hnb' => ?_⟩
    rcases List.mem_cons.mp hnb' with rfl | hnb'
    · exact hstocked
    · exact hall nb' hnb'

theorem Operable.updateMultiplierStates (hc : c.Operable) :
    ∃ c', c.updateMultiplierStates = .ok c' ∧ c'.Operable := by
  obtain ⟨hstate, hcoupling, hprices, hweights, hneighbors, hprevious, hcount, hinfluences⟩ :=
    hc.stocked
  obtain ⟨u, r, hu, hlength⟩ := dualAscent_of_lengths c.agent.multiplierState.u
    c.agent.penaltyState.u c.agent.couplingState.u c.agent.agentState.u
    (by rw [hprices, hweights]) (by rw [hprices, hcoupling]) (by rw [hprices, hstate.u])
  obtain ⟨neighbors, primal, hupdate, hstocked⟩ := updateNeighborMultipliers_of_stocked hneighbors r
  have h : c.updateMultiplierStates = .ok { c with
      agent := { c.agent with multiplierState := { c.agent.multiplierState with u }, neighbors }
      residuals := { c.residuals with primal := some primal } } :=
    bind_eq_ok.mpr ⟨_, hu, bind_eq_ok.mpr ⟨_, hupdate, rfl⟩⟩
  have hsite := site_updateMultiplierStates h
  exact ⟨_, h, hc.of_site hsite rfl ⟨hstate, hcoupling, hlength.trans hprices, hweights, hstocked,
    hprevious, hcount.trans (length_neighbors hsite).symm, hinfluences⟩⟩

end Controller

namespace Options

variable [Scalar α] {o : Options α}

/-- Valid options leave room between the smallest and the largest penalty. -/
theorem penaltyMin_le_penaltyMax (hle : ∀ a b d : α, a ≤ b → b ≤ d → a ≤ d)
    (h : o.validate = .ok ()) : o.penaltyMin ≤ o.penaltyMax := by
  obtain ⟨-, hmin, hmax⟩ := penalties_of_valid h
  exact hle _ _ _ hmin hmax

theorem adaptEntry_of_bounds (ho : o.penaltyMin ≤ o.penaltyMax) (rho z own previous : α) :
    ∃ rho', o.adaptEntry rho z own previous = .ok rho' := by
  unfold adaptEntry
  dsimp only
  split
  · exact ⟨rho, rfl⟩
  · exact ⟨_, bind_eq_ok.mpr ⟨(), Checked.require_eq_ok.mpr ho, rfl⟩⟩

theorem adaptEntries_of_lengths (ho : o.penaltyMin ≤ o.penaltyMax) (rho z own previous : Vec α)
    (hz : rho.length ≤ z.length) (hown : rho.length ≤ own.length)
    (hprevious : rho.length ≤ previous.length) :
    ∃ rho', o.adaptEntries rho z own previous = .ok rho' ∧ rho'.length = rho.length := by
  obtain ⟨rho', hadapted⟩ : ∃ rho', ((rho.zip z).zip (own.zip previous)).mapM
      (fun p => o.adaptEntry p.1.1 p.1.2 p.2.1 p.2.2) = .ok rho' :=
    exists_mapM_eq_ok fun p _ => adaptEntry_of_bounds ho _ _ _ _
  have h : o.adaptEntries rho z own previous = .ok rho' :=
    bind_eq_ok.mpr ⟨(), Checked.require_eq_ok.mpr (by simp [hz, hown, hprevious]), hadapted⟩
  exact ⟨rho', h, (adaptEntries_forall₂ h).length_eq.symm⟩

end Options

namespace Neighbor

variable [Scalar α] {nb : Neighbor α} {samples nx nu : Nat} {o : Options α}

theorem Stocked.adaptPenalties (ho : o.penaltyMin ≤ o.penaltyMax) (h : nb.Stocked samples nx nu)
    {previous : CouplingState α} (hprevious : previous.v.length = samples * nx) :
    ∃ nb', nb.adaptPenalties o previous = .ok nb' ∧ nb'.Stocked samples nx nu := by
  have hcoupling : nb.couplingState.u.length = samples * nb.nu :=
    h.received.latest .couplingState (by simp)
  have hexternal : nb.externalInfluence.v.length = samples * nb.nx :=
    h.received.latest .externalInfluenceCouplingState (by simp)
  obtain ⟨⟨hlatest, hpreviousCoupling, hpreviousExternal⟩, howned⟩ := h
  obtain ⟨w, hw, hlw⟩ : ∃ w, nb.adaptInfluence o previous = .ok w ∧
      w.length = nb.influencePenalty.v.length := by
    unfold adaptInfluence
    split
    · exact Options.adaptEntries_of_lengths ho _ _ _ _ (by rw [howned.weights, howned.coupling])
        (by rw [howned.weights, howned.influence]) (by rw [howned.weights, hprevious])
    · exact ⟨_, rfl, rfl⟩
  obtain ⟨v, hv, hlv⟩ := Options.adaptEntries_of_lengths ho nb.copyPenalty.v
    nb.externalInfluence.v nb.localCopy.v nb.previousExternalInfluence.v
    (by rw [howned.copyWeights.2, hexternal]) (by rw [howned.copyWeights.2, howned.copy.v])
    (by rw [howned.copyWeights.2, hpreviousExternal])
  obtain ⟨u, hu, hlu⟩ := Options.adaptEntries_of_lengths ho nb.copyPenalty.u nb.couplingState.u
    nb.localCopy.u nb.previousCouplingState.u
    (by rw [howned.copyWeights.1, hcoupling]) (by rw [howned.copyWeights.1, howned.copy.u])
    (by rw [howned.copyWeights.1, hpreviousCoupling])
  refine ⟨{ nb with
      influencePenalty := { nb.influencePenalty with v := w }
      copyPenalty := { nb.copyPenalty with u, v } }, ?_,
    ⟨hlatest, hpreviousCoupling, hpreviousExternal⟩, ⟨howned.copy, howned.influence,
      howned.coupling, howned.prices, hlw.trans howned.weights, howned.copyPrices,
      ⟨hlu.trans howned.copyWeights.1, hlv.trans howned.copyWeights.2⟩⟩⟩
  rw [adaptPenalties_eq]
  exact bind_eq_ok.mpr ⟨w, hw, bind_eq_ok.mpr ⟨v, hv, bind_eq_ok.mpr ⟨u, hu, rfl⟩⟩⟩

end Neighbor

namespace Controller

variable [Scalar α] {c c' : Controller α}

theorem adaptNeighborPenalties_of_stocked {o : Options α} (ho : o.penaltyMin ≤ o.penaltyMax)
    {samples nx nu : Nat} {nbs : List (Neighbor α)} {previous : List (CouplingState α)}
    (h : ∀ nb ∈ nbs, nb.Stocked samples nx nu)
    (hprevious : ∀ z ∈ previous, z.v.length = samples * nx) :
    ∃ nbs', adaptNeighborPenalties o nbs previous = .ok nbs' ∧
      ∀ nb' ∈ nbs', nb'.Stocked samples nx nu := by
  induction nbs generalizing previous with
  | nil => exact ⟨[], rfl, h⟩
  | cons nb nbs ih =>
    cases previous with
    | nil => exact ⟨nb :: nbs, rfl, h⟩
    | cons old previous =>
      obtain ⟨updated, hupdated, hstocked⟩ :=
        (h nb (by simp)).adaptPenalties ho (hprevious old (by simp))
      obtain ⟨rest, hrest, hall⟩ := ih (fun k hk => h k (List.mem_cons_of_mem _ hk))
        fun z hz => hprevious z (List.mem_cons_of_mem _ hz)
      refine ⟨updated :: rest, bind_eq_ok.mpr ⟨updated, hupdated, bind_eq_ok.mpr ⟨rest, hrest, rfl⟩⟩,
        fun nb' hnb' => ?_⟩
      rcases List.mem_cons.mp hnb' with rfl | hnb'
      · exact hstocked
      · exact hall nb' hnb'

theorem Operable.adaptPenalties (hle : ∀ a b d : α, a ≤ b → b ≤ d → a ≤ d) (hc : c.Operable) :
    ∃ c', c.adaptPenalties = .ok c' ∧ c'.Operable := by
  have ho := Options.penaltyMin_le_penaltyMax hle hc.valid
  obtain ⟨hstate, hcoupling, hprices, hweights, hneighbors, hprevious, hcount, hinfluences⟩ :=
    hc.stocked
  by_cases hadapt : c.options.adaptPenalty
  · obtain ⟨u, hu, hlength⟩ := Options.adaptEntries_of_lengths ho c.agent.penaltyState.u
      c.agent.couplingState.u c.agent.agentState.u c.previousCoupling.u
      (by rw [hweights, hcoupling]) (by rw [hweights, hstate.u]) (by rw [hweights, hprevious])
    obtain ⟨neighbors, hupdate, hstocked⟩ :=
      adaptNeighborPenalties_of_stocked ho hneighbors hinfluences
    have h : c.adaptPenalties = .ok { c with
        agent := { c.agent with penaltyState := { c.agent.penaltyState with u }, neighbors } } := by
      unfold Controller.adaptPenalties
      rw [if_pos hadapt]
      exact bind_eq_ok.mpr ⟨u, hu, bind_eq_ok.mpr ⟨neighbors, hupdate, rfl⟩⟩
    have hsite := site_adaptPenalties h
    exact ⟨_, h, hc.of_site hsite rfl ⟨hstate, hcoupling, hprices, hlength.trans hweights, hstocked,
      hprevious, hcount.trans (length_neighbors hsite).symm, hinfluences⟩⟩
  · refine ⟨c, ?_, hc⟩
    unfold Controller.adaptPenalties
    rw [if_neg hadapt]
    rfl

end Controller

end ConsensusControl
