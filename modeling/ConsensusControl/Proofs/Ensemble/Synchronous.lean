import ConsensusControl.Proofs.Consensus.FittingUpdates
import ConsensusControl.Proofs.Ensemble.Result

namespace ConsensusControl

/-- All influences have the lengths of what they are added to. -/
def Network.KeepsLengths {α : Type} (n : Network α) : Prop :=
  ∀ c ∈ n.couplings, c.model.dynamics.KeepsLength

theorem Network.KeepsLengths.coupling {α : Type} {n : Network α} (h : n.KeepsLengths) {i j : AgentId}
    {f : CouplingModel α} (hf : n.coupling? i j = some f) : f.dynamics.KeepsLength := by
  obtain ⟨c, hc, rfl⟩ := Option.map_eq_some_iff.mp hf
  exact h c (List.mem_of_find?_eq_some hc)

theorem Controller.Linked.keepsLength {α : Type} {n : Network α} {c : Controller α}
    (h : c.Linked n) (hn : n.KeepsLengths) : ∀ link ∈ c.agent.links, ∀ f,
      link.relation.sending = some f → f.dynamics.KeepsLength := by
  intro link hlink f hf
  rw [h.relations link hlink] at hf
  exact hn.coupling hf

namespace Ensemble

/-- All controllers have their records on the grid of the horizon from `t0`. -/
def Aligned {σ : Type} (t0 : Rat) (e : Ensemble σ Rat) : Prop :=
  ∀ id c, e.controllers.lookup id = some c → c.Fitted t0

section Aligned

variable {σ : Type} {t0 : Rat} {e : Ensemble σ Rat}

theorem Aligned.put (h : e.Aligned t0) {c : Controller Rat} (hc : c.Fitted t0) (id : AgentId) :
    Aligned t0 { e with controllers := Table.insert id c e.controllers } := by
  intro k d hd
  rcases Table.lookup_insert_cases hd with ⟨rfl, rfl⟩ | ⟨-, hold⟩
  · exact hc
  · exact h k d hold

theorem aligned_map {work : Controller Rat → Controller Rat}
    (h : ∀ id c, e.controllers.lookup id = some c → (work c).Fitted t0) :
    Aligned t0 { e with controllers := e.controllers.map fun p => (p.1, work p.2) } := by
  intro id c' hc'
  rw [Table.lookup_map fun _ c => work c] at hc'
  obtain ⟨c, hc, rfl⟩ := Option.map_eq_some_iff.mp hc'
  exact h id c hc

theorem aligned_inParallel {β : Type} {work : Controller Rat → Controller Rat × Checked β}
    (h : e.Aligned t0) (hwork : ∀ id c, e.controllers.lookup id = some c → ∀ b,
      (work c).2 = .ok b → (work c).1.Fitted t0) : (exec (inParallel work) e).2.Aligned t0 := by
  rcases exec_inParallel work e with ⟨answers, hexec, hall⟩ | ⟨s, hexec, -⟩
  · rw [hexec]
    refine @aligned_map σ t0 e (fun c => (work c).1) fun id c hc => ?_
    obtain ⟨b, hb⟩ := hall _ (Table.mem_of_lookup hc)
    exact hwork id c hc b hb
  · rw [hexec]
    exact h

theorem aligned_escalate (h : e.Aligned t0) (n : Nat) (answer : AgentId × Except SolveError Unit) :
    (exec (escalate n answer) e).2.Aligned t0 := by
  rcases exec_escalate_cases n e answer with ⟨-, hpass⟩ | ⟨_, c, -, hoffends, hstop⟩
  · rw [hpass]
    exact h
  · rw [hstop]
    have hc := h answer.1 c hoffends.controller
    have hfailed : c.markFailed.Fitted t0 := hc.of_agent rfl rfl hc.agent
    exact h.put hfailed answer.1

theorem aligned_finish (h : e.Aligned t0) (n : Nat) : (exec (finish n) e).2.Aligned t0 :=
  aligned_map fun id c hc => (h id c hc).finishIteration

end Aligned

variable {σ : Type} [FaithfulTransport σ Rat] {t0 : Rat} {e e' : Ensemble σ Rat}

/-- All agents work on the network as it is, with records on the grid of the horizon from `t0`. -/
structure Synchronous (t0 : Rat) (e : Ensemble σ Rat) : Prop extends Poised e where
  supplied : e.Supplied
  lengths : e.network.KeepsLengths
  solver : e.solver.KeepsGrid
  aligned : e.Aligned t0

section Exchange

/-- While an exchange is delivered, all records fit and the agents keep their neighbors. -/
def Delivering (t0 : Rat) (e e' : Ensemble σ Rat) : Prop :=
  ∀ id c', e'.controllers.lookup id = some c' →
    c'.Fitted t0 ∧ ∃ c, e.controllers.lookup id = some c ∧ c'.site = c.site

/-- What a neighbor sends fits the place that it is received in. -/
theorem Synchronous.receive (h : e.Synchronous t0) {w : Awaited} {env : Envelope Rat}
    (hanswered : Answered e.controllers w env) {c c' : Controller Rat} (hfitted : c'.Fitted t0)
    (hc : e.controllers.lookup env.receiver = some c) (hsite : c'.site = c.site) :
    (c'.applyIncoming env.sender env.kind env.record).1.Fitted t0 := by
  obtain ⟨hsender, hreceiver, hkind, sender, back, hlookup, hback, hrecord⟩ := hanswered
  rw [← hsender] at hlookup
  rw [← hreceiver] at hback
  rw [← hkind] at hrecord
  obtain ⟨hmem, hid⟩ := Agent.mem_of_neighbor? hback
  have hserves := h.supplied.serves _ sender hlookup
  have hoptions : c'.options = c.options := congrArg Controller.Site.options hsite
  have hmodel : c'.agent.model = c.agent.model := congrArg Controller.Site.model hsite
  have hlinked : c'.Linked e.network := (h.linked h.unchanged _ c hc).of_site hsite
  -- Either agent has the other's model.
  have hbackModel : back.model = c'.agent.model := by
    apply (h.linked h.unchanged _ sender hlookup).model_eq hmem
    rw [hid, hmodel]
    exact h.models _ c hc
  have hgrid : sender.grid = c'.grid := by
    have hsame : sender.options = c'.options := by
      rw [hserves.options, hoptions, (h.supplied.serves _ c hc).options]
    rw [Controller.grid, Controller.grid, hsame, (h.aligned _ sender hlookup).start, hfitted.start]
  refine hfitted.receive fun nb record hnb heq hdesired => ?_
  obtain ⟨hnbmem, hnbid⟩ := Agent.mem_of_neighbor? hnb
  have hnbModel : nb.model = sender.agent.model := by
    apply hlinked.model_eq hnbmem
    rw [hnbid]
    exact hserves.model
  obtain rfl : sender.agent.recordOf back env.kind = record := by
    have hsame := hrecord.symm.trans heq
    injection hsame
  have hfits := (h.aligned _ sender hlookup).agent.fits_recordOf hmem hnbModel hdesired
  have hnx : back.nx = c'.agent.nx := congrArg AgentModel.nx hbackModel
  have hnu : back.nu = c'.agent.nu := congrArg AgentModel.nu hbackModel
  rw [hgrid, hnx, hnu] at hfits
  exact hfits

theorem Synchronous.keeps_deliver (h : e.Synchronous t0) {w : Awaited} {env : Envelope Rat}
    (hanswered : Answered e.controllers w env) (n : Nat) :
    Keeps (Delivering t0 e) (deliver n env) := by
  refine triple_deliver fun e₁ c' h₁ hc' => ?_
  obtain ⟨hfitted, c, hc, hsite⟩ := h₁ env.receiver c' hc'
  intro k other hother
  rcases Table.lookup_insert_cases hother with ⟨rfl, rfl⟩ | ⟨-, hold⟩
  · exact ⟨h.receive hanswered hfitted hc hsite, c, hc,
      (c'.site_receive env.sender env.kind env.record).trans hsite⟩
  · exact h₁ k other hold

theorem Synchronous.triple_exchange (h : e.Synchronous t0) (phase : ExchangePhase) (n : Nat) :
    Triple (· = e) (exchange phase n) (fun _ => Aligned t0) (Aligned t0) := by
  -- Up to the deliveries no controller changes.
  have hsame : ∀ {β : Type} {x : Run σ Rat β} {e₁ : Ensemble σ Rat}, e₁.controllers = e.controllers →
      Keeps (fun e₁ : Ensemble σ Rat => e₁.controllers = e.controllers) x →
      (exec x e₁).2.Aligned t0 := by
    intro β x e₁ hcontrollers hx id c hc
    rw [hx.exec hcontrollers] at hc
    exact h.aligned id c hc
  have hsend : Keeps (fun e₁ : Ensemble σ Rat => e₁.controllers = e.controllers)
      ((envelopes phase e.nextRound).forM (send n)) :=
    triple_forM fun env _ => triple_send fun _ _ hsame _ => hsame
  unfold exchange
  refine triple_bind (Q := fun _ e₁ => e₁ = e.nextRound) (triple_modify fun e₁ heq => heq ▸ rfl)
    fun _ => triple_get_bind fun _ heq => ?_
  obtain rfl := heq
  refine triple_bind (triple_returns (hsame rfl hsend)) fun _ => triple_get_bind fun e₁ hsends => ?_
  have hcontrollers : e₁.controllers = e.controllers := by rw [(returns_forM_send hsends).1]; rfl
  refine triple_bind (triple_returns (hsame hcontrollers
    (triple_mapM fun w _ => triple_receive fun _ _ _ hsame _ => hsame))) fun received => ?_
  intro e₂ hreceives
  obtain ⟨hreceived, hanswered⟩ :=
    answered_of_received h.sorted h.toWorking.nodup h.bounded hsends hreceives
  have hdelivers : Keeps (Delivering t0 e) (received.forM (deliver n)) := by
    refine triple_forM fun env henv => ?_
    obtain ⟨w, -, hanswer⟩ := forall₂_mem_right hanswered henv
    exact h.keeps_deliver hanswer n
  have hstart : Delivering t0 e e₂ := by
    intro id c hc
    rw [hreceived] at hc
    exact ⟨h.aligned id c hc, c, hc, rfl⟩
  exact hdelivers.weaken (fun _ he => he) (fun _ _ he id c hc => (he id c hc).1)
    (fun _ he id c hc => (he id c hc).1) e₂ hstart

end Exchange

/-- Phases are kept as soon as they leave all records on the grid. -/
theorem keeps_synchronous {β : Type} {x : Run σ Rat β}
    (hx : ∀ {I : Ensemble σ Rat → Prop}, Phased I → Keeps I x)
    (haligned : ∀ e : Ensemble σ Rat, e.Synchronous t0 → (exec x e).2.Aligned t0) :
    Keeps (Synchronous t0) x := by
  apply keeps_of_exec
  intro e h
  have hfollows : Follows e (exec x e).2 :=
    (hx (routine_follows h.sorted h.keyed).phased).exec (follows_refl h.supplied.reported)
  have hled : Led e (exec x e).2 := (hx routine_led.phased).exec .refl
  have hnetwork : (exec x e).2.network = e.network := by rw [hfollows.rest]
  have hsolver : (exec x e).2.solver = e.solver := by rw [hfollows.rest]
  have hchanged : (exec x e).2.topologyChanged = e.topologyChanged := by rw [hfollows.rest]
  refine
    { toWorking := (hx phased_working).exec h.toWorking
      unchanged := hchanged.trans h.unchanged
      supplied := hled.supplied h.supplied
      lengths := hnetwork ▸ h.lengths
      solver := hsolver ▸ h.solver
      aligned := haligned e h }

theorem Synchronous.withReports (h : e.Synchronous t0) (history : History Rat)
    {solutions : Table (Solution Rat)} (hs : Table.Sorted solutions) :
    Synchronous t0 { e with history, solutions } :=
  { toWorking := h.toWorking.withReports e.solver history solutions e.storedSamples
    unchanged := h.unchanged
    supplied := ⟨h.supplied.network, h.supplied.sorted, hs, h.supplied.serves⟩
    lengths := h.lengths
    solver := h.solver
    aligned := h.aligned }

/-- Whatever happens in a solve, all records stay on the grid. -/
theorem phased_synchronous : Phased (Synchronous (σ := σ) t0) where
  solving := by
    refine keeps_synchronous (fun hI => hI.solving) fun e h => aligned_inParallel h.aligned ?_
    intro id c hc _ _
    have hserves := h.supplied.serves id c hc
    exact (h.aligned id c hc).updateAgentStates (hserves.solver ▸ h.solver) hserves.nodup
      ((h.linked h.unchanged id c hc).keepsLength h.lengths)
  escalating n answer := keeps_synchronous (fun hI => hI.escalating n answer) fun e h =>
    aligned_escalate h.aligned n answer
  coupling := by
    refine keeps_synchronous (fun hI => hI.coupling) fun e h => aligned_inParallel h.aligned ?_
    intro id c hc _ hok
    exact (h.aligned id c hc).updateCouplingStates (Controller.coupling_eq_ok hok)
  ascending := by
    refine keeps_synchronous (fun hI => hI.ascending) fun e h => aligned_inParallel h.aligned ?_
    intro id c hc _ hok
    obtain ⟨raised, hraise, hadapt⟩ := Controller.ascent_eq_ok hok
    exact ((h.aligned id c hc).updateMultiplierStates hraise).adaptPenalties hadapt
  exchanging phase n := keeps_synchronous (fun hI => hI.exchanging phase n) fun e h =>
    (h.triple_exchange phase n).exec rfl
  finishing n := keeps_synchronous (fun hI => hI.finishing n) fun e h => aligned_finish h.aligned n
  note history h := h.withReports history h.supplied.reported
  store h := h.withReports _ (sorted_stored h.supplied.reported)

end Ensemble

end ConsensusControl
