import ConsensusControl.Proofs.Consensus.Operations
import ConsensusControl.Proofs.Ensemble.Driven
import ConsensusControl.Proofs.Network.Removal

namespace ConsensusControl

namespace Network

variable {α : Type} [Scalar α] {n : Network α} {a a' : Agent α}

/-- A neighbor that has been there before has its records. -/
theorem syncAgent_stays (ha : a.neighborIds.Nodup) (h : n.syncAgent a = .ok a') {nb nb' : Neighbor α}
    (hnb : nb ∈ a.neighbors) (hnb' : nb' ∈ a'.neighbors) (hid : nb'.id = nb.id) :
    nb'.kept = nb.kept := by
  have hfound : a.neighbor? nb'.id = some nb := hid ▸ Agent.neighbor?_of_mem ha hnb
  rw [syncAgent_kept ha h nb' hnb', hfound, Option.getD_some]

/-- One that has any is the one that was there, linked anew. -/
theorem syncAgent_relinks (ha : a.neighborIds.Nodup) (h : n.syncAgent a = .ok a') {nb nb' : Neighbor α}
    (hnb : nb ∈ a.neighbors) (hnb' : nb' ∈ a'.neighbors) (hid : nb'.id = nb.id)
    (hsome : nb.localInfluence ≠ []) :
    ∃ model, nb' = nb.relink (n.freshNeighbor a.id nb.id model) := by
  have hkept := syncAgent_stays ha h hnb hnb' hid
  obtain ⟨entry, -, hnew | ⟨old, hold, hoid, hnew⟩⟩ := (syncAgent_synced ha h).origin nb' hnb'
  · rw [hnew] at hkept
    exact absurd (congrArg Prod.snd hkept).symm hsome
  · have hsame : some old = some nb := by
      rw [← Agent.neighbor?_of_mem ha hold, ← Agent.neighbor?_of_mem ha hnb, hoid, hid]
    obtain rfl := Option.some.inj hsame
    exact ⟨entry.model, hoid ▸ hnew⟩

end Network

namespace Controller

variable {α : Type} [Scalar α]

/-- Brings the controller in line with the network and prepares it again. -/
def reinitialize (n : Network α) (c : Controller α) :
    Except ConfigError (Controller α × Except ConfigError Unit) := do
  let agent ← n.syncAgent c.agent
  return (c.modifyAgent fun _ => agent).prepare

/-- The controller goes on where it was, among the neighbors that it has now. -/
structure Resumes (n : Network α) (c c' : Controller α) : Prop where
  agentState : c'.agent.agentState = c.agent.agentState
  couplingState : c'.agent.couplingState = c.agent.couplingState
  multiplierState : c'.agent.multiplierState = c.agent.multiplierState
  penaltyState : c'.agent.penaltyState = c.agent.penaltyState
  neighborIds : c'.agent.neighborIds = n.neighborsOf c.agent.id
  models : ∀ nb ∈ c'.agent.neighbors, n.model? nb.id = some nb.model
  /-- Neighbors that stay in the same dimensions keep all of their records. -/
  kept : ∀ nb ∈ c.agent.neighbors, ∀ nb' ∈ c'.agent.neighbors, nb'.id = nb.id → nb'.nx = nb.nx →
    nb'.nu = nb.nu → nb'.kept = nb.kept

/-- Neighbors that were not there before have no prices and the weights to start with. -/
def Welcomed (c c' : Controller α) : Prop :=
  ∀ nb ∈ c'.agent.neighbors, nb.id ∉ c.agent.neighborIds →
    nb.Unpriced c.agent.id c.agent.nx c.agent.nu c.grid c.options.penaltyInit

/-- A synchronization alone leaves all records as they are. -/
theorem resumes_synced {n : Network α} {c : Controller α} (hnodup : c.agent.neighborIds.Nodup)
    {a : Agent α} (h : n.syncAgent c.agent = .ok a) : c.Resumes n (c.modifyAgent fun _ => a) := by
  have hsynced := Network.syncAgent_synced hnodup h
  have hlinked : (c.modifyAgent fun _ => a).Linked n := hsynced.linked rfl
  refine
    { agentState := hsynced.agentState
      couplingState := show a.couplingState = c.agent.couplingState by rw [hsynced.rest]
      multiplierState := show a.multiplierState = c.agent.multiplierState by rw [hsynced.rest]
      penaltyState := show a.penaltyState = c.agent.penaltyState by rw [hsynced.rest]
      neighborIds := hsynced.ids
      models := fun nb hnb => hlinked.models nb.link (List.mem_map_of_mem hnb)
      kept := fun nb hnb nb' hnb' hid _ _ => ?_ }
  exact Network.syncAgent_stays hnodup h hnb hnb' hid

/-- After a synchronization and a layout, every neighbor is a synchronized one that has been prepared. -/
theorem mem_neighbors_laidOut {n : Network α} {c : Controller α} {a : Agent α}
    (hsynced : n.Synced c.agent a) {layout : Layout} {nb' : Neighbor α}
    (h : nb' ∈ ((c.modifyAgent fun _ => a).approximating.laidOut layout).agent.neighbors) :
    ∃ nb ∈ a.neighbors, ∃ own, nb' =
      nb.prepare own c.agent.id c.agent.nx c.agent.nu c.grid c.options.penaltyInit := by
  obtain ⟨nb, hnb, rfl⟩ := List.mem_map.mp h
  refine ⟨nb, hnb, (a.prepare c.grid c.options.penaltyInit).agentState, ?_⟩
  rw [modifyAgent, grid, hsynced.rest]
  rfl

/-- A preparation after a synchronization finds no records for new neighbors. -/
theorem welcomed_laidOut {n : Network α} {c : Controller α} {a : Agent α} (hgrid : c.grid ≠ [])
    (hsynced : n.Synced c.agent a) (layout : Layout) :
    c.Welcomed ((c.modifyAgent fun _ => a).approximating.laidOut layout) := by
  intro nb' hnb' hnew
  obtain ⟨synced, hmem, own, rfl⟩ := mem_neighbors_laidOut hsynced hnb'
  obtain ⟨entry, -, hfresh | ⟨old, hold, hoid, -⟩⟩ := hsynced.origin synced hmem
  · rw [hfresh]
    exact Neighbor.unpriced_prepare hgrid n c.agent.id synced.id entry.model own c.agent.id _
  · exact absurd (Agent.mem_neighborIds.mpr ⟨old, hold, hoid⟩) hnew

/-- Where all records of a neighbor fit, it keeps them as long as its dimensions stay. -/
theorem Fitted.kept_laidOut {n : Network α} {c : Controller α} {t0 : α} (h : c.Fitted t0)
    (hnodup : c.agent.neighborIds.Nodup) (hnx : c.agent.nx ≠ 0) {a : Agent α}
    (hsync : n.syncAgent c.agent = .ok a) (layout : Layout) {nb nb' : Neighbor α}
    (hnb : nb ∈ c.agent.neighbors)
    (hnb' : nb' ∈ ((c.modifyAgent fun _ => a).approximating.laidOut layout).agent.neighbors)
    (hid : nb'.id = nb.id) (hnx' : nb'.nx = nb.nx) (hnu' : nb'.nu = nb.nu) :
    nb'.kept = nb.kept := by
  have hsynced := Network.syncAgent_synced hnodup hsync
  obtain ⟨synced, hmem, own, rfl⟩ := mem_neighbors_laidOut hsynced hnb'
  have hfitted := h.agent.neighbors nb hnb
  have hsome : nb.localInfluence ≠ [] :=
    hfitted.localInfluence_ne_nil (grid_ne_nil h.valid) hnx
  obtain ⟨model, rfl⟩ := Network.syncAgent_relinks hnodup hsync hnb hmem hid hsome
  have hrelinked : (nb.relink (n.freshNeighbor c.agent.id nb.id model)).Fitted c.grid c.agent.nx
      c.agent.nu := hfitted.relink hnx' hnu'
  rw [hrelinked.prepare]
  rfl

/-- Where all records fit, a preparation after a synchronization leaves them as well. -/
theorem Fitted.resumes_laidOut {n : Network α} {c : Controller α} {t0 : α} (h : c.Fitted t0)
    (hnodup : c.agent.neighborIds.Nodup) (hnx : c.agent.nx ≠ 0) {a : Agent α}
    (hsync : n.syncAgent c.agent = .ok a) (layout : Layout) :
    c.Resumes n ((c.modifyAgent fun _ => a).approximating.laidOut layout) := by
  have hsynced := Network.syncAgent_synced hnodup hsync
  have hsite := (c.modifyAgent fun _ => a).site_laidOut layout
  have hid : ((c.modifyAgent fun _ => a).approximating.laidOut layout).agent.id = c.agent.id :=
    (congrArg Site.id hsite).trans hsynced.id
  have hlinked : ((c.modifyAgent fun _ => a).approximating.laidOut layout).Linked n :=
    (hsynced.linked rfl).of_site hsite
  refine
    { agentState := ?_
      couplingState := ?_
      multiplierState := ?_
      penaltyState := ?_
      neighborIds := hlinked.ids.trans (congrArg n.neighborsOf hid)
      models := fun nb hnb => hlinked.models nb.link (List.mem_map_of_mem hnb)
      kept := fun nb hnb nb' hnb' => h.kept_laidOut hnodup hnx hsync layout hnb hnb' }
  · rw [hsynced.rest]
    exact Record.keepOr_of_fits h.agent.state _
  · rw [hsynced.rest]
    exact Record.keepOr_of_fits h.agent.coupling _
  · rw [hsynced.rest]
    exact Record.keepOr_of_fits h.agent.prices _
  · rw [hsynced.rest]
    exact Record.keepOr_of_fits h.agent.weights _

end Controller

namespace Ensemble

variable {σ : Type} [FaithfulTransport σ Rat] {e : Ensemble σ Rat}

/-- Whatever has been done to an ensemble that is driven from where its agents are, every controller can
be initialized again in the network as it is now. That succeeds if the options are valid, keeps all
records that still have a place, starts the others anew, and does so once and for all. -/
theorem Driven.warm_start (h : e.Driven) (hstep : Scalar.timeTolerance < e.options.stepSize)
    {id : AgentId} {c : Controller Rat} (hc : e.controllers.lookup id = some c) :
    ∃ c' result, c.reinitialize e.network = .ok (c', result) ∧
      (result = .ok () ↔ e.options.validate = .ok ()) ∧ c.Resumes e.network c' ∧
      (result = .ok () → c.Welcomed c') ∧ c'.prepare = (c', result) := by
  have hsupplied := h.operated.supplied
  have hserves := hsupplied.serves id c hc
  have hmodel : e.network.model? c.agent.id = some c.agent.model := hserves.keyed.symm ▸ hserves.model
  obtain ⟨a, ha⟩ := hsupplied.network.registered.exists_syncAgent (Network.mem_ids_of_model hmodel)
  have hsynced := Network.syncAgent_synced hserves.nodup ha
  have hoptions : (c.modifyAgent fun _ => a).options = e.options := hserves.options
  have hagain := Controller.prepare_prepare (c := c.modifyAgent fun _ => a) (hoptions.symm ▸ hstep)
  have hstart : c.reinitialize e.network = .ok (c.modifyAgent fun _ => a).prepare := by
    rw [Controller.reinitialize, ha]
    rfl
  cases hvalid : e.options.validate with
  | error s =>
    have hprepare : (c.modifyAgent fun _ => a).prepare = (c.modifyAgent fun _ => a, .error s) := by
      unfold Controller.prepare
      rw [hoptions, hvalid]
    rw [hprepare] at hstart hagain
    refine ⟨_, _, hstart, by simp, Controller.resumes_synced hserves.nodup ha, ?_, hagain⟩
    intro hok
    cases hok
  | ok u =>
    have hlinked : (c.modifyAgent fun _ => a).Linked e.network := hsynced.linked rfl
    have hsame : e.network.model? a.id = some a.model := by
      rw [hsynced.id, hsynced.model]
      exact hmodel
    obtain ⟨layout, hprepare⟩ := hlinked.prepare_eq hsupplied.network hsame (hoptions.symm ▸ hvalid)
    rw [hprepare] at hstart hagain
    obtain ⟨t, hfitted⟩ := (h.settled hvalid hstep).fitted id c hc
    have hnx : c.agent.nx ≠ 0 := (hsupplied.network.sized.model hmodel).1
    exact ⟨_, _, hstart, by simp, hfitted.resumes_laidOut hserves.nodup hnx ha layout,
      fun _ => Controller.welcomed_laidOut (Controller.grid_ne_nil hfitted.valid) hsynced layout,
      hagain⟩

/-- Two agents of which the first follows the second. They take one gradient step for each solution. -/
def hurriedPair : Ensemble (Direct Rat) Rat :=
  applyAll
    [.registerAgent 0 decaying.toModel [1] [0], .registerAgent 1 decaying.toModel [1] [0],
      .registerCoupling 0 1 following.toModel]
    (.new { (Options.default : Options Rat) with
      horizonSteps := 2, maxIterations := 1, maxGradientIterations := 1 } (Gradient.solver false) .empty)

/-- After a solve a third agent is registered, which follows the first one. -/
def joinedPair : Ensemble (Direct Rat) Rat :=
  applyAll [.registerAgent 2 decaying.toModel [3] [0], .registerCoupling 2 0 following.toModel]
    (exec (solve 0) hurriedPair).2

theorem joinedPair_driven : joinedPair.Driven := by
  have hfollowing : following.toModel.dynamics.KeepsLength := following.keepsLength
  have hpair : hurriedPair.Driven := by
    refine .applyAll (fun change hchange => ?_) (.new _ _ Direct.not_inTransit_empty)
    simp only [List.mem_cons, List.not_mem_nil, or_false] at hchange
    obtain rfl | rfl | rfl := hchange
    · trivial
    · trivial
    · exact hfollowing
  have hstart : hurriedPair.StartsAt 0 := by
    intro id c hc
    cases hc
  refine .applyAll (fun change hchange => ?_) (hpair.solve hstart)
  simp only [List.mem_cons, List.not_mem_nil, or_false] at hchange
  obtain rfl | rfl := hchange
  · trivial
  · exact hfollowing

/-- The prices of the first agent stay, and it gets the third one for a neighbor. -/
theorem joinedPair_warm_start :
    joinedPair.Driven ∧ Scalar.timeTolerance < joinedPair.options.stepSize ∧
      ∃ c c', joinedPair.controllers.lookup 0 = some c ∧ c.agent.neighborIds = [1] ∧
        c.agent.multiplierState.u = [1 / 2, 0] ∧
        c.reinitialize joinedPair.network = .ok (c', .ok ()) ∧
        c'.agent.multiplierState.u = [1 / 2, 0] ∧ c'.agent.neighborIds = [1, 2] ∧
        c.Resumes joinedPair.network c' ∧ c.Welcomed c' ∧ c'.prepare = (c', .ok ()) := by
  have hstep : Scalar.timeTolerance < joinedPair.options.stepSize := by decide +kernel
  have hvalid : joinedPair.options.validate = .ok () := by decide +kernel
  have hlookup : (joinedPair.controllers.lookup 0).map (fun c =>
      (c.agent.id, c.agent.neighborIds, c.agent.multiplierState.u)) = some (0, [1], [1 / 2, 0]) := by
    decide +kernel
  obtain ⟨c, hc, hrecords⟩ := Option.map_eq_some_iff.mp hlookup
  obtain ⟨hid, hids, hprices⟩ : c.agent.id = 0 ∧ c.agent.neighborIds = [1] ∧
      c.agent.multiplierState.u = [1 / 2, 0] := by simpa using hrecords
  obtain ⟨c', result, hreinitialize, hresult, hresumes, hwelcomed, hagain⟩ :=
    Driven.warm_start joinedPair_driven hstep hc
  obtain rfl := hresult.mpr hvalid
  have hneighbors : joinedPair.network.neighborsOf 0 = [1, 2] := by decide +kernel
  refine ⟨joinedPair_driven, hstep, c, c', hc, hids, hprices, hreinitialize, ?_, ?_, hresumes,
    hwelcomed rfl, hagain⟩
  · rw [hresumes.multiplierState, hprices]
  · rw [hresumes.neighborIds, hid, hneighbors]

end Ensemble

end ConsensusControl
