import Mathlib.Algebra.Order.Ring.Rat
import ConsensusControl.Proofs.Consensus.Evolution
import ConsensusControl.Proofs.Options

namespace ConsensusControl

variable {α : Type} [Scalar α]

namespace Options

theorem adaptEntries_forall₂ {o : Options α} {rho z own previous rho' : Vec α}
    (h : o.adaptEntries rho z own previous = .ok rho') :
    List.Forall₂ (fun r r' => ∃ a b c, o.adaptEntry r a b c = .ok r') rho rho' := by
  unfold adaptEntries requireEntries at h
  obtain ⟨_, hl, h⟩ := bind_eq_ok.mp h
  have hl : rho.length ≤ z.length ∧ rho.length ≤ own.length ∧ rho.length ≤ previous.length := by
    simpa using Checked.require_eq_ok.mp hl
  have houter : (rho.zip z).length ≤ (own.zip previous).length := by
    simp only [List.length_zip]
    omega
  refine (forall₂_of_zip hl.1 ((forall₂_of_zip houter (mapM_eq_ok.mp h)))).imp ?_
  intro r r' h
  obtain ⟨a, -, ⟨b, c⟩, -, hadapt⟩ := h
  exact ⟨a, b, c, hadapt⟩

/-- New weights, and those that are adapted from admitted ones, are admitted: `Q` is asked of the state
channel, which is never adapted, and `P` of the others. -/
structure Admits (o : Options α) (Q P : α → Prop) : Prop where
  state : Q o.penaltyInit
  init : P o.penaltyInit
  adapt : ∀ {rho z own previous rho' : α}, P rho → o.adaptEntry rho z own previous = .ok rho' → P rho'

theorem Admits.adaptEntries {o : Options α} {Q P : α → Prop} (ho : o.Admits Q P)
    {rho z own previous rho' : Vec α} (hrho : ∀ w ∈ rho, P w)
    (h : o.adaptEntries rho z own previous = .ok rho') : ∀ w ∈ rho', P w := by
  intro w hw
  obtain ⟨r, hr, a, b, c, hadapt⟩ := forall₂_mem_right (adaptEntries_forall₂ h) hw
  exact ho.adapt (hrho r hr) hadapt

end Options

theorem Trajectory.mem_shiftSamples {β : Type} {dim : Nat} {values : Vec β} {w : β}
    (h : w ∈ shiftSamples dim values) : w ∈ values := by
  unfold shiftSamples at h
  split at h
  · exact h
  · rcases List.mem_append.mp h with h | h <;> exact List.mem_of_mem_drop h

theorem Trajectory.mem_constant {β : Type} {n : Nat} {sample : Vec β} {w : β}
    (h : w ∈ constant n sample) : w ∈ sample := by
  obtain ⟨l, hl, hw⟩ := List.mem_flatten.mp h
  exact List.eq_of_mem_replicate hl ▸ hw

/-- The weights of the state channel satisfy `Q`, the others `P`. -/
structure Record.Weighs (Q P : α → Prop) (r : PenaltyState α) : Prop where
  x : ∀ w ∈ r.x, Q w
  u : ∀ w ∈ r.u, P w
  v : ∀ w ∈ r.v, P w

namespace Record.Weighs

variable {Q P : α → Prop} {r : PenaltyState α}

theorem empty (owner : AgentId) : (Record.empty owner : PenaltyState α).Weighs Q P :=
  ⟨by simp [Record.empty], by simp [Record.empty], by simp [Record.empty]⟩

theorem shift (h : r.Weighs Q P) (dt : α) : (r.shift dt).Weighs Q P :=
  ⟨fun w hw => h.x w (Trajectory.mem_shiftSamples hw),
    fun w hw => h.u w (Trajectory.mem_shiftSamples hw),
    fun w hw => h.v w (Trajectory.mem_shiftSamples hw)⟩

theorem retime (h : r.Weighs Q P) (dt : α) : (r.retime dt).Weighs Q P := ⟨h.x, h.u, h.v⟩

theorem filled {rho : α} (hQ : Q rho) (hP : P rho) (owner : AgentId) (grid : Vec α) (shape : Shape) :
    (Record.filled owner grid shape rho : PenaltyState α).Weighs Q P :=
  ⟨fun _ hw => List.eq_of_mem_replicate (Trajectory.mem_constant hw) ▸ hQ,
    fun _ hw => List.eq_of_mem_replicate (Trajectory.mem_constant hw) ▸ hP,
    fun _ hw => List.eq_of_mem_replicate (Trajectory.mem_constant hw) ▸ hP⟩

theorem keepOr (h : r.Weighs Q P) {fresh : PenaltyState α} (hfresh : fresh.Weighs Q P) (grid : Vec α)
    (shape : Shape) : (r.keepOr grid shape fresh).Weighs Q P := by
  unfold Record.keepOr
  split
  · exact h
  · exact hfresh

end Record.Weighs

namespace Neighbor

/-- The weights that are held towards the neighbor. -/
structure Weighs (Q P : α → Prop) (nb : Neighbor α) : Prop where
  influence : nb.influencePenalty.Weighs Q P
  copy : nb.copyPenalty.Weighs Q P

variable {Q P : α → Prop}

theorem Weighs.adaptPenalties {o : Options α} (ho : o.Admits Q P) {nb nb' : Neighbor α}
    {previous : CouplingState α} (hnb : nb.Weighs Q P) (h : nb.adaptPenalties o previous = .ok nb') :
    nb'.Weighs Q P := by
  obtain ⟨w, v, u, hw, hv, hu, rfl⟩ := adaptPenalties_eq_ok h
  refine ⟨⟨hnb.influence.x, hnb.influence.u, ?_⟩,
    ⟨hnb.copy.x, ho.adaptEntries hnb.copy.u hu, ho.adaptEntries hnb.copy.v hv⟩⟩
  unfold adaptInfluence at hw
  split at hw
  · exact ho.adaptEntries hnb.influence.v hw
  · exact pure_eq_ok.mp hw ▸ hnb.influence.v

end Neighbor

namespace Agent

/-- The weights that an agent owns. -/
structure Weighs (Q P : α → Prop) (a : Agent α) : Prop where
  own : a.penaltyState.Weighs Q P
  neighbors : ∀ nb ∈ a.neighbors, nb.Weighs Q P

variable {Q P : α → Prop} {a a' : Agent α}

omit [Scalar α] in
theorem Weighs.of_forall₂ (ha : a.Weighs Q P) (hown : a'.penaltyState.Weighs Q P)
    (h : List.Forall₂ (fun nb nb' => nb.Weighs Q P → nb'.Weighs Q P) a.neighbors a'.neighbors) :
    a'.Weighs Q P := by
  refine ⟨hown, fun nb' hnb' => ?_⟩
  obtain ⟨nb, hnb, hkeep⟩ := forall₂_mem_right h hnb'
  exact hkeep (ha.neighbors nb hnb)

omit [Scalar α] in
/-- What is received from a neighbor is no weight of the agent's own. -/
theorem Weighs.keep (ha : a.Weighs Q P) {id : AgentId} {nb : Neighbor α}
    (hnb : a.neighbor? id = some nb) (kind : RecordKind) (record : Record kind.family α) :
    (a.modifyNeighbor id fun _ => nb.keep kind record).Weighs Q P := by
  have hweights : (a.modifyNeighbor id fun _ => nb.keep kind record).neighbors.map
      (fun nb => (nb.influencePenalty, nb.copyPenalty)) =
      a.neighbors.map fun nb => (nb.influencePenalty, nb.copyPenalty) := by
    refine Agent.map_modifyFirst _ fun old hold => ?_
    obtain rfl : old = nb := Option.some.inj (hold.symm.trans hnb)
    cases kind <;> rfl
  refine ⟨ha.own, fun nb' hnb' => ?_⟩
  have hmem := hweights ▸ List.mem_map_of_mem hnb'
  obtain ⟨old, hold, heq⟩ := List.mem_map.mp hmem
  obtain ⟨hinfluence, hcopy⟩ := Prod.mk.inj heq
  have hkept := ha.neighbors old hold
  exact ⟨hinfluence ▸ hkept.influence, hcopy ▸ hkept.copy⟩

theorem Weighs.sync {n : Network α} (ha : a.Weighs Q P) (h : n.Synced a a') : a'.Weighs Q P := by
  refine ⟨by rw [h.rest]; exact ha.own, fun nb hnb => ?_⟩
  obtain ⟨_, -, hnew | ⟨kept, hkept, -, hnew⟩⟩ := h.origin nb hnb
  · rw [hnew]
    exact ⟨.empty 0, .empty 0⟩
  · rw [hnew]
    have hkept := ha.neighbors kept hkept
    exact ⟨hkept.influence, hkept.copy⟩

end Agent

namespace Controller

variable {Q P : α → Prop} {c c' : Controller α}

theorem weighs_updateAgentStates (hc : c.agent.Weighs Q P) :
    c.updateAgentStates.1.agent.Weighs Q P := by
  obtain ⟨_, neighbors, _, _, _, _, heq, hall, -, -⟩ := c.updateAgentStates_eq
  rw [heq]
  refine hc.of_forall₂ hc.own (hall.imp ?_)
  intro nb nb' h hnb
  obtain ⟨_, _, rfl⟩ := h
  exact ⟨hnb.influence, hnb.copy⟩

theorem weighs_updateCouplingStates (hc : c.agent.Weighs Q P) (h : c.updateCouplingStates = .ok c') :
    c'.agent.Weighs Q P := by
  obtain ⟨_, _, _, _, -, hneighbors, rfl⟩ := updateCouplingStates_eq_ok h
  refine hc.of_forall₂ hc.own ((updateInfluences_eq_ok hneighbors).1.imp ?_)
  intro nb nb' h hnb
  obtain rfl | h := h
  · exact hnb
  · obtain ⟨_, -, rfl⟩ := Neighbor.updateInfluence_eq_ok h
    exact ⟨hnb.influence, hnb.copy⟩

theorem weighs_updateMultiplierStates (hc : c.agent.Weighs Q P)
    (h : c.updateMultiplierStates = .ok c') : c'.agent.Weighs Q P := by
  obtain ⟨_, _, _, _, -, hneighbors, rfl⟩ := updateMultiplierStates_eq_ok h
  refine hc.of_forall₂ hc.own ((updateNeighborMultipliers_eq_ok hneighbors).imp ?_)
  intro nb nb' h hnb
  obtain ⟨_, _, h⟩ := h
  obtain ⟨_, _, _, -, -, rfl⟩ := Neighbor.updateMultipliers_eq_ok h
  exact ⟨hnb.influence, hnb.copy⟩

theorem weighs_adaptPenalties (ho : c.options.Admits Q P) (hc : c.agent.Weighs Q P)
    (h : c.adaptPenalties = .ok c') : c'.agent.Weighs Q P := by
  obtain rfl | ⟨u, neighbors, hu, hneighbors, rfl⟩ := adaptPenalties_eq_ok h
  · exact hc
  refine hc.of_forall₂ ⟨hc.own.x, ho.adaptEntries hc.own.u hu, hc.own.v⟩ ?_
  refine (adaptNeighborPenalties_eq_ok hneighbors).imp ?_
  intro nb nb' h hw
  obtain rfl | ⟨old, hnb⟩ := h
  · exact hw
  · exact hw.adaptPenalties ho hnb

omit [Scalar α] in
theorem weighs_applyIncoming (hc : c.agent.Weighs Q P) (sender : AgentId) (kind : RecordKind)
    (r : StateRecord α) : (c.applyIncoming sender kind r).1.agent.Weighs Q P := by
  obtain ⟨_, heq⟩ | ⟨record, nb, -, hnb, -, heq⟩ := c.applyIncoming_cases sender kind r
  · rwa [heq]
  · rw [heq]
    exact hc.keep hnb kind record

theorem weighs_finishIteration (hc : c.agent.Weighs Q P) : c.finishIteration.agent.Weighs Q P := by
  obtain ⟨_, -, heq⟩ := c.finishIteration_eq
  rw [heq]
  exact hc

theorem weighs_startAt (t0 : α) (hc : c.agent.Weighs Q P) : (c.startAt t0).agent.Weighs Q P := by
  obtain heq | heq := c.startAt_cases t0
  · rw [heq]
    exact hc
  · rw [heq]
    exact ⟨hc.own, hc.neighbors⟩

theorem weighs_prepare (ho : c.options.Admits Q P) (hc : c.agent.Weighs Q P) :
    c.prepare.1.agent.Weighs Q P := by
  obtain ⟨_, heq⟩ | ⟨-, ⟨_, heq⟩ | ⟨layout, -, heq⟩⟩ := c.prepare_cases
  · rw [heq]
    exact hc
  · rw [heq]
    exact ⟨hc.own, hc.neighbors⟩
  · rw [heq]
    have hfilled := Record.Weighs.filled ho.state ho.init
    refine hc.of_forall₂ (hc.own.keepOr (hfilled _ _ _) _ _) ?_
    simp only [laidOut, approximating, beginSolve, resetPrevious, Agent.prepare,
      List.forall₂_map_right_iff, List.forall₂_same]
    intro nb _ hnb
    exact ⟨hnb.influence.keepOr (hfilled _ _ _) _ _, hnb.copy.keepOr (hfilled _ _ _) _ _⟩

theorem weighs_shiftHorizon (dt : α) (hc : c.agent.Weighs Q P) :
    (c.shiftHorizon dt).1.agent.Weighs Q P := by
  have hshift : (c.agent.shift dt).1.Weighs Q P := by
    refine hc.of_forall₂ (hc.own.shift dt) ((shiftAll_forall₂ c.agent.neighbors).imp ?_)
    intro nb nb' h hnb
    obtain rfl | rfl | rfl := h
    · exact hnb
    · exact ⟨hnb.influence, hnb.copy⟩
    · exact ⟨hnb.influence.shift dt, hnb.copy.shift dt⟩
  obtain ⟨_, heq⟩ | heq | heq := c.shiftHorizon_cases dt
  · rw [heq]
    exact hshift
  · rw [heq]
    exact hshift
  · rw [heq]
    refine hc.of_forall₂ (hc.own.retime dt) ?_
    simp only [beginSolve, resetPrevious, Agent.retime, List.forall₂_map_right_iff,
      List.forall₂_same]
    exact fun nb _ hnb => ⟨hnb.influence.retime dt, hnb.copy.retime dt⟩

omit [Scalar α] in
theorem weighs_setInitialState (hc : c.agent.Weighs Q P) {x : Vec α}
    (h : c.setInitialState x = .ok c') : c'.agent.Weighs Q P := by
  obtain ⟨-, rfl⟩ := setInitialState_eq_ok h
  exact ⟨hc.own, hc.neighbors⟩

end Controller

theorem Checked.mem_of_clamp {x lo hi y : Rat} (h : Checked.clamp x lo hi = .ok y) :
    lo ≤ y ∧ y ≤ hi := by
  unfold Checked.clamp at h
  obtain ⟨_, hle, h⟩ := bind_eq_ok.mp h
  have hle : lo ≤ hi := Checked.require_eq_ok.mp hle
  rw [pure_eq_ok] at h
  subst h
  split
  · exact ⟨le_refl lo, hle⟩
  · next hlo =>
    split
    · exact ⟨hle, le_refl hi⟩
    · next hhi => exact ⟨not_lt.mp hlo, not_lt.mp hhi⟩

theorem Options.admits_pos {o : Options Rat} (hvalid : o.validate = .ok ()) :
    o.Admits (fun _ => True) (0 < ·) := by
  have hmin := penalties_of_valid hvalid
  refine ⟨trivial, lt_of_lt_of_le hmin.1 hmin.2.1, fun {rho z own previous rho'} hrho h => ?_⟩
  unfold adaptEntry at h
  dsimp only at h
  split at h
  · exact Except.ok.inj h ▸ hrho
  · exact lt_of_lt_of_le hmin.1 (Checked.mem_of_clamp h).1

theorem Agent.weighs_pos_iff {a : Agent α} : a.Weighs (fun _ => True) (0 < ·) ↔ a.Weighted :=
  ⟨fun h => ⟨⟨h.own.u, h.own.v⟩, fun nb hnb =>
      ⟨⟨(h.neighbors nb hnb).influence.u, (h.neighbors nb hnb).influence.v⟩,
        ⟨(h.neighbors nb hnb).copy.u, (h.neighbors nb hnb).copy.v⟩⟩⟩,
    fun h => ⟨⟨fun _ _ => trivial, h.own.u, h.own.v⟩, fun nb hnb =>
      ⟨⟨fun _ _ => trivial, (h.neighbors nb hnb).1.u, (h.neighbors nb hnb).1.v⟩,
        ⟨fun _ _ => trivial, (h.neighbors nb hnb).2.u, (h.neighbors nb hnb).2.v⟩⟩⟩⟩

namespace Controller

variable {c c' : Controller Rat}

theorem Step.weighted (h : Step c c') (hvalid : c.options.validate = .ok ())
    (hc : c.agent.Weighted) : c'.agent.Weighted := by
  have ho := Options.admits_pos hvalid
  rw [← Agent.weighs_pos_iff] at hc ⊢
  cases h with
  | solve => exact weighs_updateAgentStates hc
  | couple h => exact weighs_updateCouplingStates hc h
  | raise h => exact weighs_updateMultiplierStates hc h
  | adapt h => exact weighs_adaptPenalties ho hc h
  | receive sender kind r => exact weighs_applyIncoming hc sender kind r
  | finish => exact weighs_finishIteration hc
  | fail => exact hc
  | start t0 => exact weighs_startAt t0 hc
  | prepare => exact weighs_prepare ho hc
  | begin => exact hc
  | shift dt => exact weighs_shiftHorizon dt hc
  | restart h => exact weighs_setInitialState hc h
  | resolve => exact hc
  | reprice h => exact Agent.weighs_pos_iff.mpr h

theorem Evolved.weighted {o : Options Rat} (h : Evolved o c) (hvalid : o.validate = .ok ()) :
    c.agent.Weighted := by
  induction h with
  | new _ hbuild =>
    obtain ⟨_, -, hsynced⟩ := Network.buildAgent_synced hbuild
    have hnew := Agent.Weighs.sync (Q := fun _ => True) (P := (0 < ·)) ⟨.empty 0, by simp [Agent.new]⟩
      hsynced
    exact Agent.weighs_pos_iff.mp hnew
  | step hc hstep ih => exact hstep.weighted (hc.options ▸ hvalid) ih
  | sync hc _ hsync ih =>
    exact Agent.weighs_pos_iff.mp
      ((Agent.weighs_pos_iff.mpr ih).sync (Network.syncAgent_synced hc.nodup hsync))

end Controller

end ConsensusControl
