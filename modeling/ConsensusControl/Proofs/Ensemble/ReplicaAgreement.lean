import ConsensusControl.Proofs.Consensus.Guess
import ConsensusControl.Proofs.Ensemble.Timeline

namespace ConsensusControl

variable {α : Type}

namespace Controller

/-- The previous influence variable of the controller for one of its neighbors. -/
def previousInfluence? (c : Controller α) (id : AgentId) : Option (CouplingState α) :=
  (c.agent.neighborIds.zip c.previousInfluences).lookup id

theorem lookup_zip_map {β : Type} (f : Neighbor α → β) (nbs : List (Neighbor α)) (id : AgentId) :
    ((nbs.map (·.id)).zip (nbs.map f)).lookup id = (nbs.find? (·.id == id)).map f := by
  induction nbs with
  | nil => rfl
  | cons nb nbs ih =>
    by_cases hid : nb.id = id
    · simp [hid]
    · have hne : (id == nb.id) = false := by simpa using Ne.symm hid
      simp [hid, hne, ih, List.lookup_cons]

/-- What was received stays, and consensus variables that are replaced become the previous ones. -/
def Replaces (c : Controller α) (nb : Neighbor α) (c' : Controller α) (nb' : Neighbor α) : Prop :=
  nb'.couplingState = nb.couplingState ∧ nb'.externalInfluence = nb.externalInfluence ∧
    c'.previousCoupling = c.agent.couplingState ∧
    c'.previousInfluence? nb'.id = some nb.influenceCoupling

/-- All previous consensus variables stay. -/
def KeepsPrevious (c : Controller α) (nb : Neighbor α) (c' : Controller α) (nb' : Neighbor α) :
    Prop :=
  nb'.id = nb.id ∧ nb'.previousCouplingState = nb.previousCouplingState ∧
    nb'.previousExternalInfluence = nb.previousExternalInfluence ∧
    c'.previousCoupling = c.previousCoupling ∧ c'.previousInfluence? = c.previousInfluence?

variable [Scalar α]

theorem carries_coupling {c c' : Controller α} (hlaid : c.Laid) (hn : c.agent.neighborIds.Nodup)
    (h : c.updateCouplingStates = .ok c') : c.Carries Replaces c' := by
  have hsite := site_updateCouplingStates h
  obtain ⟨u, neighbors, previous, dual, -, hneighbors, rfl⟩ := updateCouplingStates_eq_ok h
  obtain ⟨hall, rfl⟩ := updateInfluences_all hlaid.previous hneighbors
  refine (forall₂_and_mem hall).imp ?_
  intro nb nb' h
  obtain ⟨hnb, hupdated⟩ := h
  obtain ⟨v, -, rfl⟩ := Neighbor.updateInfluence_eq_ok hupdated
  refine ⟨rfl, rfl, rfl, rfl, ?_⟩
  rw [previousInfluence?, neighborIds_of_site hsite]
  have hfound := Agent.neighbor?_of_mem hn hnb
  exact (lookup_zip_map _ c.agent.neighbors nb.id).trans (by
    rw [← Agent.neighbor?, hfound, Option.map_some])

theorem carries_updateMultipliers {c c' : Controller α} (h : c.updateMultiplierStates = .ok c') :
    c.Carries (fun _ nb _ nb' => ∃ p p', nb.updateMultipliers p = .ok (nb', p')) c' := by
  obtain ⟨_, _, neighbors, _, -, hneighbors, rfl⟩ := updateMultiplierStates_eq_ok h
  refine (updateNeighborMultipliers_eq_ok hneighbors).imp fun nb nb' hnb => ⟨?_, hnb⟩
  obtain ⟨_, _, hnb⟩ := hnb
  obtain ⟨_, _, _, -, -, rfl⟩ := Neighbor.updateMultipliers_eq_ok hnb
  rfl

theorem carries_raising {c c' : Controller α} (h : c.updateMultiplierStates = .ok c') :
    c.Carries KeepsPrevious c' := by
  have hids := neighborIds_of_site (site_updateMultiplierStates h)
  refine (carries_updateMultipliers h).imp ?_
  intro nb nb' h
  obtain ⟨hid, _, _, hnb⟩ := h
  obtain ⟨_, _, _, _, -, -, rfl⟩ := updateMultiplierStates_eq_ok h
  obtain ⟨_, _, _, -, -, rfl⟩ := Neighbor.updateMultipliers_eq_ok hnb
  refine ⟨hid, hid, rfl, rfl, rfl, ?_⟩
  funext id
  simp only [previousInfluence?, hids]

end Controller

/-- The previous consensus variables that were received are those that the neighbors had. -/
def PreviousFresh (t : Table (Controller α)) : Prop :=
  ForPairs t fun _ nb d back => nb.previousCouplingState = d.previousCoupling ∧
    d.previousInfluence? back.id = some nb.previousExternalInfluence

namespace Ensemble

variable {phase : ExchangePhase} {t t' : Table (Controller α)}

theorem Refreshed.previousInfluence? {id : AgentId} {c c' : Controller α}
    (h : Refreshed phase t id c c') (j : AgentId) :
    c'.previousInfluence? j = c.previousInfluence? j := by
  have hids : c'.agent.neighborIds = c.agent.neighborIds :=
    map_eq_of_forall₂ (h.neighbors.imp fun _ _ => Took.id)
  have hprevious : c'.previousInfluences = c.previousInfluences := by rw [h.rest]
  rw [Controller.previousInfluence?, Controller.previousInfluence?, hids, hprevious]

section Solve

variable {σ : Type} [Scalar α] [FaithfulTransport σ α] {e₀ e e₁ e₂ : Ensemble σ α}

theorem InStep.laid {stale : List RecordKind} (h : e.InStep stale) {id : AgentId} {c : Controller α}
    (hc : e.controllers.lookup id = some c) : c.Laid :=
  (h.evolved id c hc).sound (.inr (h.begun id c hc))

/-- What was current before an update of the consensus variables is previous after their exchange. -/
theorem previousFresh_couple {n : Nat} {answers : List (AgentId × Unit)} (h : e.InStep [])
    (hcouple : Returns (inParallel (·.coupling)) e answers e₁)
    (hexchange : Returns (exchange .couplingStates n) e₁ () e₂) : PreviousFresh e₂.controllers := by
  have hstep := h.coupling hcouple
  have hbetween : ForPairs e₁.controllers fun _ nb d back =>
      nb.couplingState = d.previousCoupling ∧
        d.previousInfluence? back.id = some nb.externalInfluence := by
    have hfresh := (h.fresh .couplingState (by simp)).and
      (h.fresh .externalInfluenceCouplingState (by simp))
    have hcarries : Table.Rel (fun _ c c' => c.Carries Controller.Replaces c') e.controllers
        e₁.controllers := by
      refine (rel_coupling hcouple).imp_lookup fun id c c' hc hok => ?_
      exact Controller.carries_coupling (h.laid hc) (h.toWorking.nodup id c hc) hok
    refine hfresh.transfer hcarries ?_
    intro c nb d back c' nb' d' back' hsame hcarried hcarried'
    obtain ⟨hcoupling, hexternal⟩ := hsame
    obtain ⟨hnb, hnbv, -⟩ := hcarried
    obtain ⟨-, -, hd, hback⟩ := hcarried'
    exact ⟨(hnb.trans hcoupling).trans hd.symm, hback.trans
      (congrArg some (hnbv.trans hexternal).symm)⟩
  obtain ⟨-, hrel⟩ := exchange_refreshed hstep.sorted hstep.nodup hstep.bounded hexchange
  refine forPairs_refreshed hrel ?_
  intro i j c nb d back back' c' d' hc hnb hd hback _ hR' _ heq
  obtain rfl := heq
  obtain ⟨hcoupling, hexternal⟩ := hbetween.at_pair hc hnb hd hback
  rw [hR'.previousInfluence?, Neighbor.id_refresh]
  have hprevious : d'.previousCoupling = d.previousCoupling := by rw [hR'.rest]
  rw [hprevious]
  exact ⟨hcoupling, hexternal⟩

omit [FaithfulTransport σ α] in
theorem previousFresh_raise {answers : List (AgentId × Unit)} (h : PreviousFresh e.controllers)
    (hraise : Returns (inParallel (·.raising)) e answers e₁) : PreviousFresh e₁.controllers := by
  have hcarries := (rel_raising hraise).imp fun _ _ _ => Controller.carries_raising
  refine ForPairs.transfer h hcarries ?_
  intro c nb d back c' nb' d' back' hsame hcarried hcarried'
  obtain ⟨hcoupling, hinfluence⟩ := hsame
  obtain ⟨-, hnb, hnbv, -⟩ := hcarried
  obtain ⟨hid, -, -, hd, hprevious⟩ := hcarried'
  exact ⟨(hnb.trans hcoupling).trans hd.symm, by rw [hid, hprevious, hnbv, hinfluence]⟩

/-- At the updates that look back, neighbors agree on what was before. -/
theorem Passes.previousFresh {t0 : α} {m : Moment} {n : Nat} (h₀ : e₀.Orderly)
    (h : Passes t0 e₀ m n e) (hm : m = .raising ∨ m = .adapting) : PreviousFresh e.controllers := by
  have hraising : ∀ {e : Ensemble σ α}, Passes t0 e₀ .raising n e → PreviousFresh e.controllers := by
    intro e h
    cases h with
    | couple h hcouple hexchange => exact previousFresh_couple (h.inStep h₀) hcouple hexchange
  rcases hm with rfl | rfl
  · exact hraising h
  · cases h with
    | raise h hraise => exact previousFresh_raise (hraising h) hraise

/-- What two neighbors have to agree on for what they are about to do: `c` with its entry `nb` for the
other, and `d` with its entry `back` for `c`. -/
def Agree : Moment → Controller α → Neighbor α → Controller α → Neighbor α → Prop
  | .solving, c, _, d, _ => ∀ p g q g', c.Guesses p g → d.Guesses q g' →
    ∃ b, p.index.block? d.id = some b ∧ b.x.read g.x0 = q.index.ownX.read g'.x0
  | .coupling, _, nb, _, back => nb.coupledAgentState = back.localCopy ∧
    nb.coupledMultiplier = back.copyMultiplier ∧ nb.coupledPenalty = back.copyPenalty
  | .raising, c, nb, d, back | .adapting, c, nb, d, back =>
    (nb.couplingState = d.agent.couplingState ∧ nb.externalInfluence = back.influenceCoupling) ∧
    nb.previousCouplingState = d.previousCoupling ∧
    d.previousInfluence? c.id = some nb.previousExternalInfluence
  | .closing, _, _, _, _ => True

/-- Where a copy starts is where its neighbor does. -/
theorem InStep.guesses_agree {stale : List RecordKind} (h : e.InStep stale)
    (hstale : RecordKind.agentState ∉ stale) : ForPairs e.controllers (Agree .solving) := by
  intro i j c nb hc hnb
  obtain ⟨d, back, hd, hback, hfresh⟩ := h.fresh .agentState hstale i j c nb hc hnb
  refine ⟨d, back, hd, hback, fun p g q g' hp hq => ?_⟩
  obtain ⟨hpindexed, hpagent⟩ := hp.indexed (h.evolved i c hc).indexed
  obtain ⟨hqindexed, hqagent⟩ := hq.indexed (h.evolved j d hd).indexed
  obtain ⟨-, -, -, hpguess⟩ := hp
  obtain ⟨-, -, -, hqguess⟩ := hq
  obtain ⟨b, hb, hcopy⟩ := (hpindexed.read_guess hpguess).2 j nb (hpagent ▸ hnb)
  have hown := (hqindexed.read_guess hqguess).1
  rw [hqagent] at hown
  have hsame : nb.agentState = d.agent.agentState := hfresh
  refine ⟨b, ?_, Except.ok.inj (hcopy.symm.trans ?_)⟩
  · rw [Controller.id, h.keyed j d hd]
    exact hb
  · rw [hsame, hown]

theorem Passes.agree {t0 : α} {m : Moment} {n : Nat} (h₀ : e₀.Reachable)
    (h : Passes t0 e₀ m n e) : ForPairs e.controllers (Agree m) := by
  have hstep := h.inStep h₀.orderly
  have hconsensus : (m = .raising ∨ m = .adapting) → ForPairs e.controllers fun c nb d back =>
      (nb.couplingState = d.agent.couplingState ∧ nb.externalInfluence = back.influenceCoupling) ∧
      nb.previousCouplingState = d.previousCoupling ∧
      d.previousInfluence? c.id = some nb.previousExternalInfluence := by
    intro hm i j c nb hc hnb
    have hcoupling := hstep.fresh .couplingState (by rcases hm with rfl | rfl <;> decide)
    have hexternal := hstep.fresh .externalInfluenceCouplingState
      (by rcases hm with rfl | rfl <;> decide)
    obtain ⟨d, back, hd, hfound, hboth, hprevious⟩ :=
      ((hcoupling.and hexternal).and (h.previousFresh h₀.orderly hm)) i j c nb hc hnb
    have hid : back.id = c.id := (Agent.mem_of_neighbor? hfound).2.trans (hstep.keyed i c hc).symm
    exact ⟨d, back, hd, hfound, hboth, hid ▸ hprevious⟩
  cases m with
  | solving => exact hstep.guesses_agree (by decide)
  | coupling =>
    have hcopy := hstep.fresh .coupledAgentState (by decide)
    have hmultiplier := hstep.fresh .coupledMultiplierState (by decide)
    have hpenalty := hstep.fresh .coupledPenaltyState (by decide)
    exact hcopy.and (hmultiplier.and hpenalty)
  | raising => exact hconsensus (.inl rfl)
  | adapting => exact hconsensus (.inr rfl)
  | closing => exact (hstep.fresh .agentState (by decide)).imp fun _ _ _ _ _ => trivial

theorem pair_agree : Passes 0 (pair 1 (insist 1)) .raising 1 pairConsensus ∧
    ∃ c nb d back, pairConsensus.controllers.lookup 0 = some c ∧ c.agent.neighbor? 1 = some nb ∧
      pairConsensus.controllers.lookup 1 = some d ∧ d.agent.neighbor? 0 = some back ∧
      Agree .raising c nb d back := by
  have hfound : ((pairConsensus.controllers.lookup 0).bind (·.agent.neighbor? 1)).isSome = true := by
    decide +kernel
  obtain ⟨nb, hnb⟩ := Option.isSome_iff_exists.mp hfound
  obtain ⟨c, hc, hnb⟩ := Option.bind_eq_some_iff.mp hnb
  obtain ⟨d, back, hd, hback, hagree⟩ :=
    Passes.agree (pair_reachable 1 (insist 1)) passes_pairConsensus 0 1 c nb hc hnb
  exact ⟨passes_pairConsensus, c, nb, d, back, hc, hnb, hd, hback, hagree⟩

end Solve

end Ensemble

end ConsensusControl
