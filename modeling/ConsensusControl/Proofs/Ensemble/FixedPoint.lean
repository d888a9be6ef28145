import ConsensusControl.Proofs.Consensus.Rest
import ConsensusControl.Proofs.Ensemble.Balance

namespace ConsensusControl

section Exchanges

variable {α : Type}

namespace Neighbor

theorem keep_stored (nb : Neighbor α) {kind : RecordKind} (h : kind.family ≠ .coupling) :
    nb.keep kind (nb.stored kind) = nb := by
  cases kind <;> first | rfl | exact (h rfl).elim

theorem foldl_keep_stored (nb : Neighbor α) {kinds : List RecordKind}
    (h : ∀ kind ∈ kinds, kind.family ≠ .coupling) :
    kinds.foldl (fun nb' kind => nb'.keep kind (nb.stored kind)) nb = nb := by
  induction kinds with
  | nil => rfl
  | cons kind kinds ih =>
    rw [List.forall_mem_cons] at h
    rw [List.foldl_cons, keep_stored nb h.1, ih h.2]

/-- Records that are received once more change nothing, but that consensus variables become the previous
ones as well. -/
theorem refresh_of_stored {phase : ExchangePhase} (hphase : phase ≠ .setup) {a : Agent α}
    {nb back : Neighbor α} (h : ∀ kind ∈ phase.kinds, nb.stored kind = a.recordOf back kind) :
    nb.refresh phase.kinds a back = if phase = .couplingStates then nb.rested else nb := by
  have hstored : nb.refresh phase.kinds a back =
      phase.kinds.foldl (fun nb' kind => nb'.keep kind (nb.stored kind)) nb := by
    unfold refresh
    exact List.foldl_ext _ _ nb fun nb' kind hkind => by rw [h kind hkind]
  rw [hstored]
  cases phase with
  | setup => exact (hphase rfl).elim
  | couplingStates => rfl
  | agentStates | multiplierStates => exact foldl_keep_stored nb (by decide)

end Neighbor

variable {t t' : Table (Controller α)}

theorem Fresh.of_agents {kind : RecordKind} (h : Fresh kind t)
    (ht : Table.Rel (fun _ c c' => c'.agent = c.agent) t t') : Fresh kind t' := by
  refine ForPairs.transfer (Q := fun c nb c' nb' => nb' = nb ∧ c'.agent = c.agent) h
    (ht.imp fun _ c c' heq => ?_) ?_
  · unfold Controller.Carries
    rw [heq]
    exact List.forall₂_same.mpr fun _ _ => ⟨rfl, rfl, heq⟩
  · intro c nb d back c' nb' d' back' hfresh hnb hback
    rw [hnb.1, hback.1, hback.2]
    exact hfresh

end Exchanges

theorem Balanced.of_agents {t t' : Table (Controller Rat)} (h : Balanced t)
    (ht : Table.Rel (fun _ c c' => c'.agent = c.agent) t t') : Balanced t' := by
  refine h.transfer (ht.imp fun _ c c' heq => ?_)
  unfold Controller.Carries
  rw [heq]
  exact ⟨rfl, List.forall₂_same.mpr fun _ _ => ⟨rfl, congrArg Agent.multiplierState heq, rfl, rfl, rfl⟩⟩

namespace Ensemble

section Exchange

variable {σ α : Type} [Scalar α] [FaithfulTransport σ α] {e e' : Ensemble σ α}

/-- An exchange among agents that are up to date. -/
theorem InStep.exchange_fresh {stale : List RecordKind} {phase : ExchangePhase} {n : Nat} {u : Unit}
    (h : e.InStep stale) (hphase : phase ≠ .setup)
    (hfresh : ∀ kind ∈ phase.kinds, Fresh kind e.controllers)
    (hx : Returns (Ensemble.exchange phase n) e u e') :
    Table.Rel (fun _ c c' =>
      c' = if phase = .couplingStates then { c with agent := c.agent.rested } else c)
      e.controllers e'.controllers := by
  obtain ⟨-, hrel⟩ := exchange_refreshed h.sorted h.toWorking.nodup h.bounded hx
  refine hrel.imp_lookup fun i c c' hc hR => ?_
  have hneighbors : c'.agent.neighbors = c.agent.neighbors.map fun nb =>
      if phase = .couplingStates then nb.rested else nb := by
    refine eq_of_forall₂ (List.forall₂_map_left_iff.mpr ((forall₂_and_mem hR.neighbors).imp ?_))
    intro nb nb' htook
    obtain ⟨hmem, d, back, hd, hback, -, rfl⟩ := htook
    have hnb := Agent.neighbor?_of_mem (h.toWorking.nodup i c hc) hmem
    exact Neighbor.refresh_of_stored hphase fun kind hkind =>
      (hfresh kind hkind).at_pair hc hnb hd hback
  rw [hR.rest, hneighbors]
  split
  · rfl
  · rw [List.map_id']

end Exchange

variable {σ : Type} [FaithfulTransport σ Rat] {t0 : Rat} {e₀ e e' e₁ e₂ : Ensemble σ Rat}

/-- A neighbor's copies are those that it compares with the consensus variables of the agent. -/
theorem InStep.copies_atConsensus (h : e.InStep [])
    (hconsensus : ∀ id c, e.controllers.lookup id = some c → c.agent.InConsensus) {i j : AgentId}
    {c : Controller Rat} {nb : Neighbor Rat} (hc : e.controllers.lookup i = some c)
    (hnb : c.agent.neighbor? j = some nb) :
    Vec.AtConsensus c.agent.couplingState.u nb.coupledAgentState.u ∧
      Vec.AtConsensus nb.influenceCoupling.v nb.coupledAgentState.v := by
  obtain ⟨d, back, hd, hback, hcopy⟩ := h.fresh .coupledAgentState (by simp) i j c nb hc hnb
  have hcoupling := (h.fresh .couplingState (by simp)).at_pair hd hback hc hnb
  have hexternal := (h.fresh .externalInfluenceCouplingState (by simp)).at_pair hd hback hc hnb
  dsimp only [Neighbor.stored, Agent.recordOf] at hcopy hcoupling hexternal
  have hboth := (hconsensus j d hd).neighbors back (Agent.mem_of_neighbor? hback).1
  rw [hcopy, ← hcoupling, ← hexternal]
  exact ⟨hboth.copiedControl, hboth.copiedInfluence⟩

theorem InStep.control_atRest (h : e.InStep []) (hbalanced : Balanced e.controllers)
    (hconsensus : ∀ id c, e.controllers.lookup id = some c → c.agent.InConsensus) {i : AgentId}
    {c : Controller Rat} (hc : e.controllers.lookup i = some c) :
    Participant.AtRest c.agent.couplingState.u c.agent.controlParticipants := by
  have hfound : ∀ nb ∈ c.agent.neighbors, c.agent.neighbor? nb.id = some nb := fun nb hnb =>
    Agent.neighbor?_of_mem (h.toWorking.nodup i c hc) hnb
  refine ⟨by simp [Agent.controlParticipants], h.control_weighted hc, ?_, ?_⟩
  · intro p hp
    rcases List.mem_cons.mp hp with rfl | hp
    · exact (hconsensus i c hc).control
    · obtain ⟨nb, hnb, rfl⟩ := List.mem_map.mp hp
      exact (h.copies_atConsensus hconsensus hc (hfound nb hnb)).1
  · intro k
    obtain ⟨held, hall, -, hsum⟩ := hbalanced.control i c hc
    rw [Agent.neighborIds, List.forall₂_map_left_iff] at hall
    have hprices : held = c.agent.neighbors.map (·.coupledMultiplier) := by
      refine eq_of_forall₂ (List.forall₂_map_left_iff.mpr ((forall₂_and_mem hall).imp ?_))
      intro nb mu hprice
      obtain ⟨hnb, d, back, hd, hback, rfl⟩ := hprice
      exact ((h.fresh .coupledMultiplierState (by simp)).at_pair hc (hfound nb hnb) hd hback).symm
    rw [hprices] at hsum
    simpa [Agent.controlParticipants, Function.comp_def] using hsum k

theorem InStep.influence_atRest (h : e.InStep []) (hbalanced : Balanced e.controllers)
    (hconsensus : ∀ id c, e.controllers.lookup id = some c → c.agent.InConsensus) {i j : AgentId}
    {c : Controller Rat} {nb : Neighbor Rat} (hc : e.controllers.lookup i = some c)
    (hnb : c.agent.neighbor? j = some nb) :
    Participant.AtRest nb.influenceCoupling.v nb.influenceParticipants := by
  refine ⟨by simp [Neighbor.influenceParticipants], h.influence_weighted hc hnb, ?_, ?_⟩
  · intro p hp
    unfold Neighbor.influenceParticipants at hp
    rcases List.mem_append.mp hp with hp | hp
    · split at hp
      · next happrox =>
        obtain rfl := List.mem_singleton.mp hp
        exact ((hconsensus i c hc).neighbors nb (Agent.mem_of_neighbor? hnb).1).influence happrox
      · simp at hp
    · obtain rfl := List.mem_singleton.mp hp
      exact (h.copies_atConsensus hconsensus hc hnb).2
  · intro k
    obtain ⟨d, back, hd, hback, -, hsum⟩ := hbalanced.influence i j c nb hc hnb
    have hprice : nb.coupledMultiplier = back.copyMultiplier :=
      (h.fresh .coupledMultiplierState (by simp)).at_pair hc hnb hd hback
    have hk := hsum k
    rw [← hprice] at hk
    unfold Neighbor.influenceParticipants
    split at hk <;> simpa [*] using hk

theorem Passes.stateConsensus {n : Nat} (h₀ : e₀.Orderly) (h : Passes t0 e₀ .closing n e)
    {id : AgentId} {c : Controller Rat} (hc : e.controllers.lookup id = some c) :
    c.agent.StateConsensus := by
  cases h with
  | adapt h hadapt hexchange =>
    have hadapting := (h.inStep h₀).adapting hadapt
    obtain ⟨-, hrel⟩ :=
      exchange_refreshed hadapting.sorted hadapting.nodup hadapting.bounded hexchange
    cases h with
    | raise h hraise =>
      cases h with
      | couple h hcouple hconsensus =>
        have hcoupling := (h.inStep h₀).coupling hcouple
        obtain ⟨-, hrel₁⟩ :=
          exchange_refreshed hcoupling.sorted hcoupling.nodup hcoupling.bounded hconsensus
        obtain ⟨c₄, hc₄, hR⟩ := hrel.back hc
        obtain ⟨c₃, hc₃, hadapted⟩ := (rel_adapting hadapt).back hc₄
        obtain ⟨c₂, hc₂, hraised⟩ := (rel_raising hraise).back hc₃
        obtain ⟨c₁, hc₁, hR₁⟩ := hrel₁.back hc₂
        obtain ⟨c₀, hc₀, hcoupled⟩ := (rel_coupling hcouple).back hc₁
        have hsettled : c₁.agent.StateConsensus := by
          obtain ⟨_, _, _, _, -, -, rfl⟩ := Controller.updateCouplingStates_eq_ok hcoupled
          exact ⟨rfl, rfl, rfl⟩
        have hraising : c₃.agent.StateConsensus := by
          obtain ⟨_, _, _, _, -, -, rfl⟩ := Controller.updateMultiplierStates_eq_ok hraised
          rw [hR₁.rest]
          exact ⟨hsettled.t0, hsettled.t, hsettled.x⟩
        have hclosing : c₄.agent.StateConsensus := by
          obtain rfl | ⟨_, _, -, -, rfl⟩ := Controller.adaptPenalties_eq_ok hadapted
          · exact hraising
          · exact ⟨hraising.t0, hraising.t, hraising.x⟩
        rw [hR.rest]
        exact ⟨hclosing.t0, hclosing.t, hclosing.x⟩

/-- An iteration ends with the agents that the next one begins with. -/
theorem Passes.closing_of_solving {n : Nat} (h₀ : e₀.Orderly) (h : Passes t0 e₀ .solving (n + 1) e)
    (hn : 0 < n) : ∃ e₁, Passes t0 e₀ .closing n e₁ ∧
      Table.Rel (fun _ c c' => c'.agent = c.agent) e₁.controllers e.controllers := by
  generalize hm : Moment.solving = m at h
  generalize hk : n + 1 = k at h
  induction h with
  | start => omega
  | @resolve k e id c solver h hc ih =>
    obtain ⟨e₁, hclosing, hrel⟩ := ih hm hk
    exact ⟨e₁, hclosing, hrel.insert (h.inStep h₀).sorted hc fun _ heq => heq⟩
  | @next k e e₁ h hfinish =>
    obtain rfl : n = k := Nat.succ.inj hk
    refine ⟨e, h, (returns_finish hfinish).2.1.imp fun _ c c' heq => ?_⟩
    obtain ⟨_, -, hfinished⟩ := c.finishIteration_eq
    rw [heq, hfinished]
  | solve | couple | raise | adapt => cases hm

/-- With every consensus residual at zero after an iteration, nobody has anything to change. -/
theorem Passes.atRest {n : Nat} (h₀ : e₀.Reachable) (h : Passes t0 e₀ .solving (n + 1) e)
    (hn : 0 < n) (hconsensus : ∀ id c, e.controllers.lookup id = some c → c.agent.InConsensus)
    {i : AgentId} {c : Controller Rat} (hc : e.controllers.lookup i = some c) : c.agent.AtRest := by
  obtain ⟨e₁, hclosing, hrel⟩ := h.closing_of_solving h₀.orderly hn
  obtain ⟨c₁, hc₁, heq⟩ := hrel.back hc
  have hbalanced := (hclosing.balanced_closing h₀.orderly).of_agents hrel
  have hstep := h.inStep h₀.orderly
  refine ⟨hconsensus i c hc, hstep.control_atRest hbalanced hconsensus hc, fun nb hnb => ?_, ?_⟩
  · have hfound := Agent.neighbor?_of_mem (hstep.toWorking.nodup i c hc) hnb
    exact hstep.influence_atRest hbalanced hconsensus hc hfound
  · rw [heq]
    exact hclosing.stateConsensus h₀.orderly hc₁

theorem rests_solve {n : Nat} {answers : List (AgentId × Except SolveError Unit)} (h : e.InStep [])
    (hkeeps : ∀ id c, e.controllers.lookup id = some c → c.updateAgentStates.1.agent = c.agent)
    (hsolve : Returns (inParallel (·.updateAgentStates)) e answers e₁)
    (hexchange : Returns (exchange .agentStates n) e₁ () e₂) :
    e₂.InStep [] ∧ Table.Rel (fun _ c c' => c'.agent = c.agent) e.controllers e₂.controllers := by
  have hsolved := h.solving hsolve
  have hrel : Table.Rel (fun _ c c' => c'.agent = c.agent) e.controllers e₁.controllers := by
    refine (rel_inParallel hsolve).2.imp_lookup fun id c c' hc hwork => ?_
    obtain ⟨_, hwork⟩ := hwork
    rw [← hkeeps id c hc, hwork]
  refine ⟨hsolved.exchange hexchange, ?_⟩
  have hsame := hsolved.exchange_fresh (by decide) (fun kind _ => (h.fresh kind (by simp)).of_agents hrel)
    hexchange
  refine (hrel.trans hsame).imp ?_
  intro _ c c' hboth
  obtain ⟨c₁, hc₁, hc'⟩ := hboth
  obtain rfl : c' = c₁ := hc'
  exact hc₁

theorem rests_couple {n : Nat} {answers : List (AgentId × Unit)} (h : e.InStep [])
    (hrest : ∀ id c, e.controllers.lookup id = some c → c.agent.AtRest)
    (hcouple : Returns (inParallel (·.coupling)) e answers e₁)
    (hexchange : Returns (exchange .couplingStates n) e₁ () e₂) :
    e₂.InStep [] ∧ Table.Rel (fun _ c c' => c' = { c with
      agent := c.agent.rested
      previousCoupling := c.agent.couplingState
      previousInfluences := c.agent.influenceCouplings
      residuals := { c.residuals with dual := some 0 } }) e.controllers e₂.controllers := by
  have hcoupled := h.coupling hcouple
  have hrel := (rel_coupling hcouple).imp_lookup fun id c c' hc hok =>
    Controller.coupling_rest (h.laid hc).previous (hrest id c hc) hok
  refine ⟨hcoupled.exchange hexchange, ?_⟩
  have hagents : Table.Rel (fun _ c c' => c'.agent = c.agent) e.controllers e₁.controllers :=
    hrel.imp fun _ _ _ heq => by rw [heq]
  have hsame := hcoupled.exchange_fresh (by decide)
    (fun kind _ => (h.fresh kind (by simp)).of_agents hagents) hexchange
  refine (hrel.trans hsame).imp ?_
  intro _ c c' hboth
  obtain ⟨c₁, rfl, hc'⟩ := hboth
  exact hc'

theorem rests_ascend {n : Nat} {raises adapts : List (AgentId × Unit)} (h : e.InStep [])
    (hrest : ∀ id c, e.controllers.lookup id = some c → c.agent.InConsensus ∧
      c.agent.rested = c.agent ∧ c.previousCoupling = c.agent.couplingState ∧
      c.previousInfluences = c.agent.influenceCouplings)
    (hraise : Returns (inParallel (·.raising)) e raises e₁)
    (hadapt : Returns (inParallel (·.adapting)) e₁ adapts e₂)
    (hexchange : Returns (exchange .multiplierStates n) e₂ () e') :
    Table.Rel (fun _ c c' => c' = { c with residuals := { c.residuals with primal := some 0 } })
      e.controllers e'.controllers := by
  have hadapted := (h.raising hraise).adapting hadapt
  have hrel : Table.Rel (fun _ c c' => c' = { c with
      residuals := { c.residuals with primal := some 0 } }) e.controllers e₂.controllers := by
    refine ((rel_raising hraise).trans (rel_adapting hadapt)).imp_lookup ?_
    intro id c c' hc hboth
    obtain ⟨c₁, hraised, hadapted⟩ := hboth
    obtain ⟨hconsensus, hrested, hown, hinfluences⟩ := hrest id c hc
    obtain rfl := Controller.raising_rest hconsensus hraised
    exact Controller.adapting_rest (h.laid hc).valid hconsensus hrested hown hinfluences hadapted
  have hagents : Table.Rel (fun _ c c' => c'.agent = c.agent) e.controllers e₂.controllers :=
    hrel.imp fun _ _ _ heq => by rw [heq]
  have hsame := hadapted.exchange_fresh (by decide)
    (fun kind _ => (h.fresh kind (by simp)).of_agents hagents) hexchange
  refine (hrel.trans hsame).imp ?_
  intro _ c c' hboth
  obtain ⟨c₁, rfl, hc'⟩ := hboth
  exact hc'

/-- A network in consensus rests. If an iteration has ended with every consensus residual at zero, and in
the next one every local solve returns what is stored or fails, that iteration leaves all records of all
agents as they are, but that the consensus variables become the previous ones as well. All residuals that
it measures are zero. -/
theorem Passes.rests {n : Nat} {b : Bool} (h₀ : e₀.Reachable) (h : Passes t0 e₀ .solving (n + 1) e)
    (hn : 0 < n) (hconsensus : ∀ id c, e.controllers.lookup id = some c → c.agent.InConsensus)
    (hrepeats : ∀ id c, e.controllers.lookup id = some c →
      (∃ failure, c.updateAgentStates.2 = .ok (.error failure)) ∨ c.Repeats)
    (hiterate : Returns (Ensemble.iterate (n + 1)) e b e') :
    Table.Rel (fun _ c c' => c'.agent = c.agent.rested ∧ c'.residuals = ⟨some 0, some 0⟩)
      e.controllers e'.controllers := by
  have hatRest := fun id c (hc : e.controllers.lookup id = some c) => h.atRest h₀ hn hconsensus hc
  unfold Ensemble.iterate at hiterate
  obtain ⟨answers, e₁, hsolve, hiterate⟩ := returns_bind.mp hiterate
  obtain ⟨_, e₂, htolerate, hiterate⟩ := returns_bind.mp hiterate
  obtain ⟨_, e₃, hagents, hiterate⟩ := returns_bind.mp hiterate
  obtain ⟨_, e₄, hcouple, hiterate⟩ := returns_bind.mp hiterate
  obtain ⟨_, e₅, hcouplings, hiterate⟩ := returns_bind.mp hiterate
  obtain ⟨_, e₆, hascent, hiterate⟩ := returns_bind.mp hiterate
  obtain ⟨_, e₇, hmultipliers, hfinish⟩ := returns_bind.mp hiterate
  obtain ⟨_, _, _, hraise, hadapt⟩ := returns_ascent hascent
  obtain ⟨rfl, -⟩ := returns_forM_escalate htolerate
  have hkeeps : ∀ id c, e.controllers.lookup id = some c →
      c.updateAgentStates.1.agent = c.agent := by
    intro id c hc
    rcases hrepeats id c hc with ⟨failure, hfailure⟩ | hsame
    · exact Controller.agent_of_failure hfailure
    · exact hsame.agent
  -- Up to the first exchange the agents are the old ones, so that they are still at rest there.
  obtain ⟨hstep₃, hrel₃⟩ := rests_solve (h.inStep h₀.orderly) hkeeps hsolve hagents
  have hrest₃ : ∀ id c, e₃.controllers.lookup id = some c → c.agent.AtRest := by
    intro id c₃ hc₃
    obtain ⟨c, hc, heq⟩ := hrel₃.back hc₃
    rw [heq]
    exact hatRest id c hc
  obtain ⟨hstep₅, hrel₅⟩ := rests_couple hstep₃ hrest₃ hcouple hcouplings
  have hrel₇ := rests_ascend hstep₅ (fun id c₅ hc₅ => by
    obtain ⟨c₃, hc₃, rfl⟩ := hrel₅.back hc₅
    exact ⟨(hrest₃ id c₃ hc₃).consensus.rested, c₃.agent.rested_rested, rfl,
      c₃.agent.influenceCouplings_rested.symm⟩) hraise hadapt hmultipliers
  refine (((hrel₃.trans hrel₅).trans hrel₇).trans (returns_finish hfinish).2.1).imp ?_
  intro _ c c' hall
  obtain ⟨c₇, hc₇, rfl⟩ := hall
  obtain ⟨_, -, heq⟩ := c₇.finishIteration_eq
  rw [heq]
  obtain ⟨c₅, ⟨c₃, hc₃, rfl⟩, rfl⟩ := hc₇
  exact ⟨congrArg Agent.rested hc₃, rfl⟩

/-- What a solve does ahead of its iterations. -/
def opening (t0 : Rat) : Run σ Rat Unit := do
  prepare t0
  modify ({ · with history := .empty })
  exchange .setup 0

theorem passes_opening (h : Returns (opening t0) e₀ () e) : Passes t0 e₀ .solving 1 e := by
  unfold opening at h
  obtain ⟨_, e₁, hprepare, h⟩ := returns_bind.mp h
  exact .start hprepare (returns_modify_bind.mp h)

theorem Passes.again {n : Nat} (h : Passes t0 e₀ .solving n e)
    (hiterate : Returns (Ensemble.iterate n) e false e') : Passes t0 e₀ .solving (n + 1) e' := by
  obtain ⟨e₁, hclosing, hfinish⟩ := h.iterate hiterate
  exact .next hclosing hfinish

/-- Wants to stay where it is with the control `u`, and lets others have it too once it has asked. -/
def yielding (u : Rat) : LocalSolver Rat := fun problem guess o =>
  let granted := if guess.u.all (· == 0) then 0 else u
  let control := Trajectory.constant o.horizonSteps (u :: granted :: Vec.zeros (problem.dims.nu - 2))
  .ok (.ok ⟨Trajectory.uniformGrid guess.t0 o.stepSize o.horizonSteps,
    Trajectory.constant o.horizonSteps guess.x0, control, 0, 0, true⟩)

/-- The pair when both have asked, with prices on what they do not agree on. -/
def pairAsked : Ensemble (Direct Rat) Rat :=
  (exec (do opening 0; iterate 1) (pair 1 (yielding 1))).2

/-- The pair when both have yielded. -/
def pairAgreed : Ensemble (Direct Rat) Rat := (exec (iterate 2) pairAsked).2

theorem passes_pairAgreed : Passes 0 (pair 1 (yielding 1)) .solving 3 pairAgreed := by
  obtain ⟨b, hasked, hb⟩ := returns_of_any (x := do opening 0; iterate 1)
    (e := pair 1 (yielding 1)) (p := fun converged => !converged) (by decide +kernel)
  obtain ⟨⟨⟩, e₁, hopening, hfirst⟩ := returns_bind.mp hasked
  obtain rfl : b = false := by simpa using hb
  obtain ⟨b', hsecond, hb'⟩ := returns_of_any (x := iterate 2) (e := pairAsked)
    (p := fun converged => !converged) (by decide +kernel)
  obtain rfl : b' = false := by simpa using hb'
  exact ((passes_opening hopening).again hfirst).again hsecond

/-- Its prices stay as they are. -/
theorem pair_rests : ∃ b e', Returns (iterate 3) pairAgreed b e' ∧
    (pairAgreed.controllers.lookup 0).map (·.agent.multiplierState.u) = some [-1 / 2, -1 / 2] ∧
    Table.Rel (fun _ c c' => c'.agent = c.agent.rested ∧ c'.residuals = ⟨some 0, some 0⟩)
      pairAgreed.controllers e'.controllers := by
  obtain ⟨b, hiterate⟩ := returns_of_isOk (x := iterate 3) (e := pairAgreed) (by decide +kernel)
  have hconsensus : ∀ p ∈ pairAgreed.controllers, p.2.agent.InConsensus := by decide +kernel
  have hrepeats : ∀ p ∈ pairAgreed.controllers, p.2.Repeats := by decide +kernel
  exact ⟨b, _, hiterate, by decide +kernel,
    Passes.rests (pair_reachable 1 (yielding 1)) passes_pairAgreed (by decide)
      (fun _ _ hc => hconsensus _ (Table.mem_of_lookup hc))
      (fun _ _ hc => .inr (hrepeats _ (Table.mem_of_lookup hc))) hiterate⟩

end Ensemble

end ConsensusControl
