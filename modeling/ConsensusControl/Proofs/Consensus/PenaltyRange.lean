import ConsensusControl.Proofs.Consensus.Averaging
import ConsensusControl.Proofs.Consensus.Operations
import ConsensusControl.Proofs.Network.Upkeep

namespace ConsensusControl

variable {α : Type} [Scalar α]

def Record.entries {family : Family} (r : Record family α) : List α := r.x ++ r.u ++ r.v

/-- The penalties that an agent owns. -/
def Agent.penalties (a : Agent α) : List (PenaltyState α) :=
  a.penaltyState :: a.neighbors.flatMap fun nb => [nb.influencePenalty, nb.copyPenalty]

omit [Scalar α] in
theorem Record.Weighs.entries {P : α → Prop} {r : PenaltyState α} (h : r.Weighs P P) :
    ∀ w ∈ r.entries, P w := by
  intro w hw
  rcases List.mem_append.mp hw with hw | hw
  · rcases List.mem_append.mp hw with hw | hw
    · exact h.x w hw
    · exact h.u w hw
  · exact h.v w hw

omit [Scalar α] in
theorem Agent.Weighs.penalties {P : α → Prop} {a : Agent α} (h : a.Weighs P P) :
    ∀ r ∈ a.penalties, ∀ w ∈ r.entries, P w := by
  intro r hr
  rcases List.mem_cons.mp hr with rfl | hr
  · exact h.own.entries
  · obtain ⟨nb, hnb, hr⟩ := List.mem_flatMap.mp hr
    rcases List.mem_cons.mp hr with rfl | hr
    · exact (h.neighbors nb hnb).influence.entries
    · obtain rfl := List.mem_singleton.mp hr
      exact (h.neighbors nb hnb).copy.entries

namespace Controller

/-- What a controller can have been through since a network built its agent: anything that is asked of
it, by whatever solver and with whatever is sent to it, and synchronizations with other networks. -/
inductive Used (o : Options α) : Controller α → Prop
  | new {n : Network α} {id : AgentId} {t0 : α} {a : Agent α} (h : n.buildAgent id t0 = .ok a)
      (solver : LocalSolver α) : Used o (.new a solver o)
  | act {c c' : Controller α} (hc : Used o c) (h : Act c c') : Used o c'
  | resolve {c : Controller α} (hc : Used o c) (solver : LocalSolver α) : Used o { c with solver }
  | sync {c : Controller α} {n : Network α} {a : Agent α} (hc : Used o c)
      (h : n.syncAgent c.agent = .ok a) : Used o (c.modifyAgent fun _ => a)

variable {o : Options α} {c c' : Controller α}

theorem Act.weighs {Q P : α → Prop} (h : Act c c') (ho : c.options.Admits Q P)
    (hc : c.agent.Weighs Q P) : c'.agent.Weighs Q P := by
  cases h with
  | turn h =>
    cases h with
    | solve => exact weighs_updateAgentStates hc
    | couple h => exact weighs_updateCouplingStates hc h
    | raise h => exact weighs_updateMultiplierStates hc h
    | adapt h => exact weighs_adaptPenalties ho hc h
    | receive sender kind r => exact weighs_applyIncoming hc sender kind r
    | finish => exact weighs_finishIteration hc
    | fail => exact hc
  | start t0 => exact weighs_startAt t0 hc
  | prepare => exact weighs_prepare ho hc
  | begin => exact hc
  | shift dt => exact weighs_shiftHorizon dt hc
  | restart h => exact weighs_setInitialState hc h

namespace Used

theorem acts (hc : Used o c) (h : c.Acts c') : Used o c' := by
  induction h with
  | refl => exact hc
  | act _ hact ih => exact ih.act hact

/-- An operation that is carried out is a use. -/
theorem perform (hc : Used o c) {op : Operation α} (h : c.perform op = .ok c') : Used o c' := by
  obtain ⟨solver, d, hacts, rfl⟩ := perform_acts h
  exact ((hc.resolve solver).acts hacts).resolve c.solver

theorem performAll (hc : Used o c) {ops : List (Operation α)} (h : c.performAll ops = .ok c') :
    Used o c' := by
  induction ops generalizing c with
  | nil => exact pure_eq_ok.mp h ▸ hc
  | cons op ops ih =>
    rw [Controller.performAll, List.foldlM_cons] at h
    obtain ⟨c₁, hop, hops⟩ := bind_eq_ok.mp h
    exact ih (hc.perform hop) hops

theorem options (h : Used o c) : c.options = o := by
  induction h with
  | new => rfl
  | act _ hact ih => exact (congrArg Site.options hact.site).trans ih
  | resolve _ _ ih => exact ih
  | sync _ _ ih => exact ih

theorem nodup (h : Used o c) : c.agent.neighborIds.Nodup := by
  induction h with
  | new hbuild =>
    obtain ⟨_, -, hsynced⟩ := Network.buildAgent_synced hbuild
    exact hsynced.nodup
  | act _ hact ih => rwa [neighborIds_of_site hact.site]
  | resolve _ _ ih => exact ih
  | sync _ hsync ih => exact (Network.syncAgent_synced ih hsync).nodup

theorem approximated (h : Used o c) : ∀ nb ∈ c.agent.neighbors, nb.approximated = true := by
  induction h with
  | new hbuild =>
    obtain ⟨_, -, hsynced⟩ := Network.buildAgent_synced hbuild
    exact hsynced.approximated (by simp [Agent.new])
  | act _ hact ih => exact approximated_of_site hact.site ih
  | resolve _ _ ih => exact ih
  | sync hc hsync ih => exact (Network.syncAgent_synced hc.nodup hsync).approximated ih

/-- What holds of new weights and is kept where one is adapted holds of all weights at all times. -/
theorem weighs {Q P : α → Prop} (h : Used o c) (ho : o.Admits Q P) : c.agent.Weighs Q P := by
  induction h with
  | new hbuild =>
    obtain ⟨_, -, hsynced⟩ := Network.buildAgent_synced hbuild
    exact Agent.Weighs.sync ⟨.empty 0, by simp [Agent.new]⟩ hsynced
  | act hc hact ih => exact hact.weighs (hc.options ▸ ho) ih
  | resolve _ _ ih => exact ih
  | sync hc hsync ih => exact ih.sync (Network.syncAgent_synced hc.nodup hsync)

end Used

end Controller

/-- The weights that participants hold of an entry, summed up. -/
def Participant.weightSum (ps : List (Participant Rat)) (k : Nat) : Rat :=
  ((ps.filterMap (·.holding? k)).map (·.rho)).sum

/-- The weighted values of an entry that participants hold, less their prices, summed up. -/
def Participant.askedSum (ps : List (Participant Rat)) (k : Nat) : Rat :=
  ((ps.filterMap (·.holding? k)).map fun h => h.rho * h.value - h.mu).sum

/-- A consensus of the participants divides by a positive sum of weights in every entry. -/
def Weighty (z : Vec Rat) (ps : List (Participant Rat)) : Prop :=
  ∀ z', weightedConsensus z ps = .ok z' → ∀ k, k < z.length →
    0 < Participant.weightSum ps k ∧
      z'.getD k 0 = Participant.askedSum ps k / Participant.weightSum ps k

/-- One participant with weights is enough, if no weight is negative. -/
theorem weighty_of_first {z : Vec Rat} {p : Participant Rat} {ps : List (Participant Rat)}
    (hp : ∀ w ∈ p.rho, 0 < w) (hps : ∀ q ∈ ps, ∀ w ∈ q.rho, 0 ≤ w) : Weighty z (p :: ps) := by
  intro z' hz k hk
  have hcovers := (weightedConsensus_eq_ok.mp hz).1
  have hholdings : (p :: ps).filterMap (·.holding? k) = (p :: ps).map (·.holding k) := by
    rw [← List.filterMap_eq_map]
    exact List.filterMap_congr fun q hq => Participant.holding?_eq (hcovers q hq) hk
  have hmem : ∀ q ∈ p :: ps, (q.holding k).rho ∈ q.rho := by
    intro q hq
    have hrho := Nat.lt_of_lt_of_le hk (Participant.covers_iff.mp (hcovers q hq)).2.2
    simp [Participant.holding, List.getD_eq_getElem?_getD, hrho]
  have hsum : 0 < Participant.weightSum (p :: ps) k := by
    rw [Participant.weightSum, hholdings, List.map_cons, List.map_cons, List.sum_cons]
    refine add_pos_of_pos_of_nonneg (hp _ (hmem p List.mem_cons_self)) (List.sum_nonneg fun w hw => ?_)
    obtain ⟨h, hh, rfl⟩ := List.mem_map.mp hw
    obtain ⟨q, hq, rfl⟩ := List.mem_map.mp hh
    exact hps q hq _ (hmem q (List.mem_cons_of_mem p hq))
  refine ⟨hsum, ?_⟩
  rw [(weightedConsensus_getD hz).2 k hk, ← hholdings]
  exact consensusEntry_of_weight hsum _

namespace Options

variable {o : Options Rat}

/-- Penalties start within their bounds, and adapted ones are clamped to them. -/
theorem admits_range (hvalid : o.validate = .ok ()) :
    o.Admits (fun w => o.penaltyMin ≤ w ∧ w ≤ o.penaltyMax)
      (fun w => o.penaltyMin ≤ w ∧ w ≤ o.penaltyMax) := by
  have hinit := (penalties_of_valid hvalid).2
  refine ⟨hinit, hinit, fun {rho z own previous rho'} hrho h => ?_⟩
  unfold adaptEntry at h
  dsimp only at h
  split at h
  · exact Except.ok.inj h ▸ hrho
  · exact Checked.mem_of_clamp h

end Options

namespace Controller

variable {o : Options Rat} {c : Controller Rat}

/-- Whatever a controller is used for, every penalty that its agent owns is within the bounds and
positive; and if no penalty that it has received is negative, every consensus update has weights. -/
theorem Used.penalties_in_range (hvalid : o.validate = .ok ()) (h : Used o c) :
    (∀ r ∈ c.agent.penalties, ∀ w ∈ r.entries, o.penaltyMin ≤ w ∧ w ≤ o.penaltyMax ∧ 0 < w) ∧
    ((∀ nb ∈ c.agent.neighbors, ∀ w ∈ nb.coupledPenalty.entries, 0 ≤ w) →
      Weighty c.agent.couplingState.u c.agent.controlParticipants ∧
      ∀ nb ∈ c.agent.neighbors, Weighty nb.influenceCoupling.v nb.influenceParticipants) := by
  have hmin := (Options.penalties_of_valid hvalid).1
  have hrange := h.weighs (Options.admits_range hvalid)
  have hpos := h.weighs (Options.admits_pos hvalid)
  refine ⟨fun r hr w hw => ?_, fun hreceived => ⟨?_, fun nb hnb => ?_⟩⟩
  · obtain ⟨hlower, hupper⟩ := hrange.penalties r hr w hw
    exact ⟨hlower, hupper, lt_of_lt_of_le hmin hlower⟩
  · refine weighty_of_first hpos.own.u fun q hq w hw => ?_
    obtain ⟨nb, hnb, rfl⟩ := List.mem_map.mp hq
    refine hreceived nb hnb w ?_
    simp [Record.entries, hw]
  · unfold Neighbor.influenceParticipants
    rw [if_pos (h.approximated nb hnb)]
    refine weighty_of_first (hpos.neighbors nb hnb).influence.v fun q hq w hw => ?_
    obtain rfl := List.mem_singleton.mp hq
    refine hreceived nb hnb w ?_
    simp [Record.entries, hw]

open Network.Upkept (tanks turned)

/-- Tight bounds around the initial penalty. -/
def tankOptions : Options Rat :=
  { (Options.default : Options Rat) with horizonSteps := 2, penaltyMin := 1 / 2, penaltyMax := 2 }

/-- The neighbor sends no weights, and consensus variables that it has changed for one sample only. -/
def tankOperations : List (Operation Rat) :=
  let consensus (u : Vec Rat) : Operation Rat :=
    .receive 1 .couplingState ⟨(⟨1, 0, [0, 1], [5, 5], u, []⟩ : CouplingState Rat)⟩
  [.prepare,
    .receive 1 .coupledPenaltyState ⟨(⟨0, 0, [0, 1], [], [0, 0], [0, 0]⟩ : PenaltyState Rat)⟩,
    consensus [9, 9], .adapt, .couple, .raise, .finish, .shift 1, .restart [3], consensus [9, 0],
    .adapt, .adapt]

/-- The first tank's controller after these operations, and after a change of the network. -/
def usedTank : Option (Controller Rat) := do
  let a ← (tanks.buildAgent 0 0).toOption
  let c ← ((Controller.new a (fun _ _ _ => .error .notPrepared) tankOptions).performAll
    tankOperations).toOption
  let a ← (turned.syncAgent c.agent).toOption
  ((c.modifyAgent fun _ => a).performAll [.prepare]).toOption

theorem used_usedTank (h : usedTank = some c) : Used tankOptions c := by
  simp only [usedTank, Option.bind_eq_bind, Option.bind_eq_some_iff, toOption_eq_some] at h
  obtain ⟨a, ha, c₁, hc₁, a', ha', hc⟩ := h
  exact (((Used.new ha _).performAll hc₁).sync ha').performAll hc

theorem usedTank_penalties_in_range : tankOptions.validate = .ok () ∧
    ∃ c, Used tankOptions c ∧
      c.agent.penalties.map (·.entries) = [[1, 1, 1, 1], [1, 1], [2, 1 / 2, 1, 1]] ∧
      (∀ r ∈ c.agent.penalties, ∀ w ∈ r.entries,
        tankOptions.penaltyMin ≤ w ∧ w ≤ tankOptions.penaltyMax ∧ 0 < w) ∧
      (∀ nb ∈ c.agent.neighbors, ∀ w ∈ nb.coupledPenalty.entries, 0 ≤ w) ∧
      Weighty c.agent.couplingState.u c.agent.controlParticipants ∧
      ∀ nb ∈ c.agent.neighbors, Weighty nb.influenceCoupling.v nb.influenceParticipants := by
  have hvalid : tankOptions.validate = .ok () := by decide +kernel
  have hviews : usedTank.map (fun c => (c.agent.penalties.map (·.entries),
      c.agent.neighbors.map (·.coupledPenalty.entries))) =
      some ([[1, 1, 1, 1], [1, 1], [2, 1 / 2, 1, 1]], [[0, 0, 0, 0]]) := by
    decide +kernel
  obtain ⟨c, hc, hview⟩ := Option.map_eq_some_iff.mp hviews
  obtain ⟨hpenalties, hcoupled⟩ := Prod.mk.inj hview
  have hreceived : ∀ nb ∈ c.agent.neighbors, ∀ w ∈ nb.coupledPenalty.entries, 0 ≤ w := by
    intro nb hnb w hw
    have hmem : nb.coupledPenalty.entries ∈ [[0, 0, 0, 0]] := hcoupled ▸ List.mem_map_of_mem hnb
    rw [List.mem_singleton.mp hmem] at hw
    exact le_of_eq (by simpa [eq_comm] using hw)
  have hused := used_usedTank hc
  obtain ⟨hrange, hweights⟩ := Used.penalties_in_range hvalid hused
  exact ⟨hvalid, c, hused, hpenalties, hrange, hreceived, hweights hreceived⟩

end Controller

end ConsensusControl
