import ConsensusControl.Consensus.Sizing
import ConsensusControl.Ensemble.Preparation
import ConsensusControl.Proofs.Consensus.Reception
import ConsensusControl.Proofs.Consensus.Updates
import ConsensusControl.Proofs.Network.Synchronization

namespace ConsensusControl

variable {α : Type}

/-- What ties an agent to a neighbor, as opposed to the records between them. -/
structure Link (α : Type) where
  id : AgentId
  model : AgentModel α
  relation : Relation α
  approximated : Bool
  neighborCount : Nat

def Neighbor.link (nb : Neighbor α) : Link α :=
  ⟨nb.id, nb.model, nb.relation, nb.approximated, nb.neighborCount⟩

namespace Agent

def links (a : Agent α) : List (Link α) := a.neighbors.map (·.link)

theorem neighborIds_eq_links (a : Agent α) : a.neighborIds = a.links.map (·.id) := by
  simp [neighborIds, links, Function.comp_def, Neighbor.link]

theorem links_modifyNeighbor {a : Agent α} {id : AgentId} {f : Neighbor α → Neighbor α}
    (h : ∀ nb, a.neighbor? id = some nb → (f nb).link = nb.link) :
    (a.modifyNeighbor id f).links = a.links :=
  map_modifyFirst (·.link) h

end Agent

/-- Prices and weights that an agent holds towards a neighbor. -/
structure Prices (α : Type) where
  influenceMultiplier : MultiplierState α
  influencePenalty : PenaltyState α
  copyMultiplier : MultiplierState α
  copyPenalty : PenaltyState α

def Neighbor.withPrices (p : Prices α) (nb : Neighbor α) : Neighbor α :=
  { nb with
    influenceMultiplier := p.influenceMultiplier
    influencePenalty := p.influencePenalty
    copyMultiplier := p.copyMultiplier
    copyPenalty := p.copyPenalty }

variable [Scalar α]

/-- All weights are positive. -/
structure Record.Positive (r : PenaltyState α) : Prop where
  u : ∀ w ∈ r.u, 0 < w
  v : ∀ w ∈ r.v, 0 < w

/-- All weights that an agent holds are positive. -/
structure Agent.Weighted (a : Agent α) : Prop where
  own : a.penaltyState.Positive
  neighbors : ∀ nb ∈ a.neighbors, nb.influencePenalty.Positive ∧ nb.copyPenalty.Positive

namespace Controller

/-- Other prices, and other weights. -/
def reprice (mu : MultiplierState α) (rho : PenaltyState α) (held : AgentId → Prices α)
    (c : Controller α) : Controller α :=
  { c with
    agent := { c.agent with
      multiplierState := mu
      penaltyState := rho
      neighbors := c.agent.neighbors.map fun nb => nb.withPrices (held nb.id) } }

/-- What a controller can go through while the network around its agent stays. -/
inductive Step : Controller α → Controller α → Prop
  | solve (c : Controller α) : Step c c.updateAgentStates.1
  | couple {c c' : Controller α} (h : c.updateCouplingStates = .ok c') : Step c c'
  | raise {c c' : Controller α} (h : c.updateMultiplierStates = .ok c') : Step c c'
  | adapt {c c' : Controller α} (h : c.adaptPenalties = .ok c') : Step c c'
  | receive (sender : AgentId) (kind : RecordKind) (r : StateRecord α) (c : Controller α) :
      Step c (c.applyIncoming sender kind r).1
  | finish {c : Controller α} (h : c.status ≠ .uninitialized) : Step c c.finishIteration
  | fail {c : Controller α} (h : c.status ≠ .uninitialized) : Step c c.markFailed
  | start (t0 : α) (c : Controller α) : Step c (c.startAt t0)
  | prepare (c : Controller α) : Step c c.prepare.1
  | begin (c : Controller α) : Step c c.beginSolve
  | shift (dt : α) (c : Controller α) : Step c (c.shiftHorizon dt).1
  | restart {c c' : Controller α} {x : Vec α} (h : c.setInitialState x = .ok c') : Step c c'
  | resolve (solver : LocalSolver α) (c : Controller α) : Step c { c with solver }
  | reprice {mu : MultiplierState α} {rho : PenaltyState α} {held : AgentId → Prices α}
      {c : Controller α} (h : (c.reprice mu rho held).agent.Weighted) : Step c (c.reprice mu rho held)

/-- What a controller can have gone through since it was built. -/
inductive Evolved (o : Options α) : Controller α → Prop
  | new {n : Network α} {id : AgentId} {t0 : α} {a : Agent α} (hn : n.Registered)
      (h : n.buildAgent id t0 = .ok a) (solver : LocalSolver α) : Evolved o (.new a solver o)
  | step {c c' : Controller α} (hc : Evolved o c) (h : Step c c') : Evolved o c'
  | sync {c : Controller α} {n : Network α} {a : Agent α} (hc : Evolved o c) (hn : n.Registered)
      (h : n.syncAgent c.agent = .ok a) : Evolved o (c.modifyAgent fun _ => a)

/-- What stays while the network around an agent stays. -/
structure Site (α : Type) where
  id : AgentId
  model : AgentModel α
  links : List (Link α)
  options : Options α

def site (c : Controller α) : Site α := ⟨c.agent.id, c.agent.model, c.agent.links, c.options⟩

omit [Scalar α] in
theorem site_beginSolve (c : Controller α) : c.beginSolve.site = c.site := rfl

theorem startAt_cases (t0 : α) (c : Controller α) : c.startAt t0 = c ∨ c.startAt t0 =
    c.modifyAgent fun a => { a with agentState := { a.agentState with t0 } } := by
  unfold startAt
  split
  · exact .inr rfl
  · exact .inl rfl

theorem site_startAt (t0 : α) (c : Controller α) : (c.startAt t0).site = c.site := by
  obtain heq | heq := c.startAt_cases t0
  · rw [heq]
  · rw [heq]
    rfl

omit [Scalar α] in
theorem site_setInitialState {c c' : Controller α} {x : Vec α}
    (h : c.setInitialState x = .ok c') : c'.site = c.site := by
  obtain ⟨-, rfl⟩ := setInitialState_eq_ok h
  rfl

omit [Scalar α] in
theorem site_receive (c : Controller α) (sender : AgentId) (kind : RecordKind) (r : StateRecord α) :
    (c.applyIncoming sender kind r).1.site = c.site := by
  obtain ⟨_, heq⟩ | ⟨record, nb, -, hnb, -, heq⟩ := c.applyIncoming_cases sender kind r
  · rw [heq]
  rw [heq]
  have hlinks : (c.agent.modifyNeighbor sender fun _ => nb.keep kind record).links =
      c.agent.links := by
    refine Agent.links_modifyNeighbor fun old hold => ?_
    obtain rfl : old = nb := Option.some.inj (hold.symm.trans hnb)
    cases kind <;> rfl
  simp only [site, hlinks]
  rfl

theorem site_updateAgentStates (c : Controller α) : c.updateAgentStates.1.site = c.site := by
  obtain ⟨state, neighbors, _, _, _, _, h, hall, -, -⟩ := c.updateAgentStates_eq
  have hlinks : neighbors.map (·.link) = c.agent.links := by
    refine map_eq_of_forall₂ (hall.imp ?_)
    intro nb nb' h
    obtain ⟨_, _, rfl⟩ := h
    rfl
  simp only [h, site, Agent.links, hlinks]

theorem site_updateCouplingStates {c c' : Controller α} (h : c.updateCouplingStates = .ok c') :
    c'.site = c.site := by
  obtain ⟨_, neighbors, _, _, -, hneighbors, rfl⟩ := updateCouplingStates_eq_ok h
  have hlinks : neighbors.map (·.link) = c.agent.links := by
    refine map_eq_of_forall₂ ((updateInfluences_eq_ok hneighbors).1.imp ?_)
    intro nb nb' h
    obtain rfl | hnb := h
    · rfl
    · obtain ⟨_, -, rfl⟩ := Neighbor.updateInfluence_eq_ok hnb
      rfl
  simp only [site, Agent.links, hlinks]

theorem site_updateMultiplierStates {c c' : Controller α} (h : c.updateMultiplierStates = .ok c') :
    c'.site = c.site := by
  obtain ⟨_, _, neighbors, _, -, hneighbors, rfl⟩ := updateMultiplierStates_eq_ok h
  have hlinks : neighbors.map (·.link) = c.agent.links := by
    refine map_eq_of_forall₂ ((updateNeighborMultipliers_eq_ok hneighbors).imp ?_)
    intro nb nb' h
    obtain ⟨_, _, hnb⟩ := h
    obtain ⟨_, _, _, -, -, rfl⟩ := Neighbor.updateMultipliers_eq_ok hnb
    rfl
  simp only [site, Agent.links, hlinks]

theorem site_adaptPenalties {c c' : Controller α} (h : c.adaptPenalties = .ok c') :
    c'.site = c.site := by
  obtain rfl | ⟨_, neighbors, -, hneighbors, rfl⟩ := adaptPenalties_eq_ok h
  · rfl
  have hlinks : neighbors.map (·.link) = c.agent.links := by
    refine map_eq_of_forall₂ ((adaptNeighborPenalties_eq_ok hneighbors).imp ?_)
    intro nb nb' h
    obtain rfl | ⟨_, hnb⟩ := h
    · rfl
    · obtain ⟨_, _, _, -, -, -, rfl⟩ := Neighbor.adaptPenalties_eq_ok hnb
      rfl
  simp only [site, Agent.links, hlinks]

omit [Scalar α] in
theorem site_eq_of_neighbors {c c' : Controller α} (hid : c'.agent.id = c.agent.id)
    (hmodel : c'.agent.model = c.agent.model) (hoptions : c'.options = c.options)
    (h : List.Forall₂ (fun nb nb' : Neighbor α => nb'.link = nb.link) c.agent.neighbors
      c'.agent.neighbors) : c'.site = c.site := by
  simp only [site, Agent.links, map_eq_of_forall₂ h, hid, hmodel, hoptions]

theorem site_laidOut (c : Controller α) (layout : Layout) :
    (c.approximating.laidOut layout).site = c.site := by
  refine site_eq_of_neighbors rfl rfl rfl ?_
  simp only [laidOut, approximating, beginSolve, resetPrevious, Agent.prepare,
    List.forall₂_map_right_iff, List.forall₂_same]
  exact fun nb _ => rfl

theorem site_prepare (c : Controller α) : c.prepare.1.site = c.site := by
  obtain ⟨_, heq⟩ | ⟨-, ⟨_, heq⟩ | ⟨layout, -, heq⟩⟩ := c.prepare_cases
  · rw [heq]
  · rw [heq]
    rfl
  · rw [heq]
    exact c.site_laidOut layout

theorem shiftAll_forall₂ {dt : α} {nx : Nat} (nbs : List (Neighbor α)) :
    List.Forall₂ (fun nb nb' => nb' = nb ∨ nb' = nb.shiftReceived dt nx ∨
      nb' = (nb.shiftReceived dt nx).shiftDecided dt) nbs (Neighbor.shiftAll dt nx nbs).1 := by
  induction nbs with
  | nil => exact .nil
  | cons nb nbs ih =>
    unfold Neighbor.shiftAll
    dsimp only
    split
    · exact .cons (.inr (.inl rfl)) (List.forall₂_same.mpr fun _ _ => .inl rfl)
    · exact .cons (.inr (.inr rfl)) ih

theorem links_shift (dt : α) (a : Agent α) : (a.shift dt).1.links = a.links := by
  refine map_eq_of_forall₂ ((shiftAll_forall₂ a.neighbors).imp ?_)
  intro nb nb' h
  obtain rfl | rfl | rfl := h <;> rfl

theorem site_shiftHorizon (dt : α) (c : Controller α) : (c.shiftHorizon dt).1.site = c.site := by
  have hlinks := links_shift dt c.agent
  have hid : (c.agent.shift dt).1.id = c.agent.id := rfl
  have hmodel : (c.agent.shift dt).1.model = c.agent.model := rfl
  obtain ⟨_, heq⟩ | heq | heq := c.shiftHorizon_cases dt
  · rw [heq]
    simp only [site, hlinks, hid, hmodel]
  · rw [heq]
    simp only [site, beginSolve, hlinks, hid, hmodel]
  · rw [heq]
    refine site_eq_of_neighbors rfl rfl rfl ?_
    simp only [beginSolve, resetPrevious, Agent.retime, List.forall₂_map_right_iff,
      List.forall₂_same]
    exact fun nb _ => rfl

omit [Scalar α] in
theorem site_reprice (mu : MultiplierState α) (rho : PenaltyState α) (held : AgentId → Prices α)
    (c : Controller α) : (c.reprice mu rho held).site = c.site := by
  refine site_eq_of_neighbors rfl rfl rfl ?_
  simp only [reprice, List.forall₂_map_right_iff, List.forall₂_same]
  exact fun nb _ => rfl

theorem Step.site {c c' : Controller α} (h : Step c c') : c'.site = c.site := by
  cases h with
  | solve => exact site_updateAgentStates c
  | couple h => exact site_updateCouplingStates h
  | raise h => exact site_updateMultiplierStates h
  | adapt h => exact site_adaptPenalties h
  | receive sender kind r => exact c.site_receive sender kind r
  | finish =>
    obtain ⟨_, -, heq⟩ := c.finishIteration_eq
    rw [heq]
    rfl
  | fail => rfl
  | start t0 => exact site_startAt t0 c
  | prepare => exact site_prepare c
  | begin => exact site_beginSolve c
  | shift dt => exact site_shiftHorizon dt c
  | restart h => exact site_setInitialState h
  | resolve => rfl
  | reprice => exact site_reprice _ _ _ c

/-- Valid options, a layout, and a previous influence variable for every neighbor. -/
structure Laid (c : Controller α) : Prop where
  valid : c.options.validate = .ok ()
  layout : c.layout.isSome
  previous : c.previousInfluences.length = c.agent.neighbors.length

/-- Whoever has a layout, or has begun, is laid out. -/
def Sound (c : Controller α) : Prop := c.layout.isSome ∨ c.status ≠ .uninitialized → c.Laid

theorem sound_of_laid {c : Controller α} (h : c.Laid) : c.Sound := fun _ => h

omit [Scalar α] in
theorem length_neighbors {c c' : Controller α} (h : c'.site = c.site) :
    c'.agent.neighbors.length = c.agent.neighbors.length := by
  have hlinks : c'.agent.links = c.agent.links := congrArg Site.links h
  simpa [Agent.links] using congrArg List.length hlinks

omit [Scalar α] in
theorem neighborIds_of_site {c c' : Controller α} (h : c'.site = c.site) :
    c'.agent.neighborIds = c.agent.neighborIds := by
  have hlinks : c'.agent.links = c.agent.links := congrArg Site.links h
  simp only [Agent.neighborIds_eq_links, hlinks]

omit [Scalar α] in
theorem approximated_of_site {c c' : Controller α} (h : c'.site = c.site)
    (hc : ∀ nb ∈ c.agent.neighbors, nb.approximated = true) :
    ∀ nb ∈ c'.agent.neighbors, nb.approximated = true := by
  have hlinks : c'.agent.links = c.agent.links := congrArg Site.links h
  intro nb hnb
  have hmem : nb.link ∈ c.agent.links := hlinks ▸ List.mem_map.mpr ⟨nb, hnb, rfl⟩
  obtain ⟨old, hold, hlink⟩ := List.mem_map.mp hmem
  have happrox : old.approximated = nb.approximated := congrArg Link.approximated hlink
  exact happrox ▸ hc old hold

/-- An update that keeps layout, status and previous influence variables keeps a controller sound. -/
theorem Sound.of_same {c c' : Controller α} (hc : c.Sound) (hsite : c'.site = c.site)
    (hlayout : c'.layout = c.layout) (hstatus : c'.status ≠ .uninitialized →
      c.layout.isSome ∨ c.status ≠ .uninitialized)
    (hprevious : c'.previousInfluences.length = c.previousInfluences.length) : c'.Sound := by
  intro h
  have hlaid : c.Laid := hc (h.elim (fun hs => .inl (hlayout ▸ hs)) hstatus)
  have hoptions : c'.options = c.options := congrArg Site.options hsite
  exact ⟨hoptions ▸ hlaid.valid, hlayout ▸ hlaid.layout,
    by rw [hprevious, length_neighbors hsite, hlaid.previous]⟩

theorem Sound.beginSolve {c : Controller α} (hc : c.Sound) : c.beginSolve.Sound := by
  refine hc.of_same (site_beginSolve c) rfl (fun hs => ?_) rfl
  unfold Controller.beginSolve at hs
  dsimp only at hs
  split at hs
  · next hlayout => exact .inl hlayout
  · exact .inr hs

/-- Taking the current variables for the previous ones gives every neighbor one. -/
theorem Sound.resetPrevious {c : Controller α} (hc : c.Sound) : c.resetPrevious.Sound :=
  fun h => ⟨(hc h).valid, (hc h).layout, by simp [Controller.resetPrevious, Agent.influenceCouplings]⟩

theorem Sound.shiftHorizon (dt : α) {c : Controller α} (hc : c.Sound) :
    (c.shiftHorizon dt).1.Sound := by
  have hsite := site_shiftHorizon dt c
  obtain ⟨_, heq⟩ | heq | heq := c.shiftHorizon_cases dt
  · rw [heq] at hsite ⊢
    exact hc.of_same hsite rfl .inr rfl
  · rw [heq] at hsite ⊢
    exact .beginSolve (hc.of_same hsite rfl .inr (by simp))
  · rw [heq] at hsite ⊢
    refine .beginSolve (.resetPrevious ?_)
    exact hc.of_same hsite rfl .inr rfl

theorem Step.sound {c c' : Controller α} (h : Step c c') (hc : c.Sound) : c'.Sound := by
  have hsite := h.site
  cases h with
  | solve =>
    obtain ⟨_, _, status, _, _, _, heq, -, hnone, -⟩ := c.updateAgentStates_eq
    refine hc.of_same hsite (by rw [heq]) ?_ (by rw [heq])
    rw [heq]
    intro hs
    rcases hlayout : c.layout with _ | layout
    · exact .inr (hnone hlayout ▸ hs)
    · exact .inl rfl
  | couple h =>
    obtain ⟨_, _, _, _, -, hneighbors, rfl⟩ := updateCouplingStates_eq_ok h
    exact hc.of_same hsite rfl .inr (updateInfluences_eq_ok hneighbors).2
  | raise h =>
    obtain ⟨_, _, _, _, -, -, rfl⟩ := updateMultiplierStates_eq_ok h
    exact hc.of_same hsite rfl .inr rfl
  | adapt h =>
    obtain rfl | ⟨_, _, -, -, rfl⟩ := adaptPenalties_eq_ok h
    · exact hc
    · exact hc.of_same hsite rfl .inr rfl
  | receive sender kind r =>
    obtain ⟨_, heq⟩ := c.applyIncoming_frame sender kind r
    rw [heq] at hsite ⊢
    exact hc.of_same hsite rfl .inr rfl
  | finish h =>
    obtain ⟨_, -, heq⟩ := c.finishIteration_eq
    exact hc.of_same hsite (by rw [heq]) (fun _ => .inr h) (by rw [heq])
  | fail h => exact hc.of_same hsite rfl (fun _ => .inr h) rfl
  | start t0 =>
    obtain heq | heq := c.startAt_cases t0
    · rw [heq]
      exact hc
    · rw [heq]
      intro h
      simp [modifyAgent] at h
  | prepare =>
    obtain ⟨_, heq⟩ | ⟨hvalid, ⟨_, heq⟩ | ⟨layout, -, heq⟩⟩ := c.prepare_cases
    · rw [heq]
      exact hc
    · rw [heq]
      exact hc.of_same rfl rfl .inr rfl
    · rw [heq]
      exact sound_of_laid ⟨hvalid, rfl, by
        simp [laidOut, beginSolve, resetPrevious, Agent.influenceCouplings]⟩
  | begin => exact hc.beginSolve
  | shift dt => exact hc.shiftHorizon dt
  | restart h =>
    obtain ⟨-, rfl⟩ := setInitialState_eq_ok h
    exact hc.of_same rfl rfl .inr rfl
  | resolve => exact hc.of_same hsite rfl .inr rfl
  | reprice => exact hc.of_same hsite rfl .inr rfl

namespace Evolved

variable {o : Options α} {c : Controller α}

theorem sound (h : Evolved o c) : c.Sound := by
  induction h with
  | new => exact fun h => by simp [Controller.new] at h
  | step _ hstep ih => exact hstep.sound ih
  | sync => exact fun h => by simp [modifyAgent] at h

theorem options (h : Evolved o c) : c.options = o := by
  induction h with
  | new => rfl
  | step _ hstep ih => exact (congrArg Site.options hstep.site).trans ih
  | sync _ _ _ ih => exact ih

theorem ascending (h : Evolved o c) : c.agent.neighborIds.Pairwise (· < ·) := by
  induction h with
  | new _ hbuild =>
    obtain ⟨_, -, hsynced⟩ := Network.buildAgent_synced hbuild
    exact hsynced.ascending
  | step _ hstep ih => rwa [neighborIds_of_site hstep.site]
  | sync _ _ hsync ih =>
    exact (Network.syncAgent_synced (ih.imp fun h => Nat.ne_of_lt h) hsync).ascending

theorem nodup (h : Evolved o c) : c.agent.neighborIds.Nodup :=
  h.ascending.imp fun h => Nat.ne_of_lt h

theorem approximated (h : Evolved o c) : ∀ nb ∈ c.agent.neighbors, nb.approximated = true := by
  induction h with
  | new _ hbuild =>
    obtain ⟨_, -, hsynced⟩ := Network.buildAgent_synced hbuild
    exact hsynced.approximated (by simp [Agent.new])
  | step _ hstep ih => exact approximated_of_site hstep.site ih
  | sync hc _ hsync ih =>
    exact (Network.syncAgent_synced hc.nodup hsync).approximated ih

end Evolved

end Controller

end ConsensusControl
