import ConsensusControl.Proofs.Ensemble.Moves
import ConsensusControl.Proofs.Ensemble.Timeline

namespace ConsensusControl.Ensemble

variable {σ α : Type} [Scalar α]

/-- The ensemble at the beginning of its next exchange. -/
def nextRound (e : Ensemble σ α) : Ensemble σ α := { e with round := e.round + 1 }

section Points

variable [Transport σ α]

/-- Where a solve on the horizon from `t0` is about to exchange records, with the number of the
iteration. -/
inductive Exchanges (t0 : α) (e₀ : Ensemble σ α) : ExchangePhase → Nat → Ensemble σ α → Prop
  | setup {e₁ : Ensemble σ α} (hprepare : Returns (prepare t0) e₀ () e₁) :
      Exchanges t0 e₀ .setup 0 { e₁ with history := .empty }
  | solve {e e₁ e₂ e₃ : Ensemble σ α} {answers : List (AgentId × Except SolveError Unit)}
      (h : Exchanges t0 e₀ .setup 0 e) (hexchange : Returns (exchange .setup 0) e () e₁)
      (hsolve : Returns (inParallel (·.updateAgentStates)) e₁ answers e₂)
      (htolerate : Returns (answers.forM (escalate 1)) e₂ () e₃) : Exchanges t0 e₀ .agentStates 1 e₃
  | couple {n : Nat} {e e₁ e₂ : Ensemble σ α} {answers : List (AgentId × Unit)}
      (h : Exchanges t0 e₀ .agentStates n e) (hexchange : Returns (exchange .agentStates n) e () e₁)
      (hcouple : Returns (inParallel (·.coupling)) e₁ answers e₂) :
      Exchanges t0 e₀ .couplingStates n e₂
  | ascend {n : Nat} {e e₁ e₂ : Ensemble σ α} {answers : List (AgentId × Unit)}
      (h : Exchanges t0 e₀ .couplingStates n e)
      (hexchange : Returns (exchange .couplingStates n) e () e₁)
      (hascend : Returns (inParallel (·.ascent)) e₁ answers e₂) :
      Exchanges t0 e₀ .multiplierStates n e₂
  | next {n : Nat} {e e₁ e₂ e₃ e₄ : Ensemble σ α}
      {answers : List (AgentId × Except SolveError Unit)}
      (h : Exchanges t0 e₀ .multiplierStates n e)
      (hexchange : Returns (exchange .multiplierStates n) e () e₁)
      (hfinish : Returns (finish n) e₁ false e₂)
      (hsolve : Returns (inParallel (·.updateAgentStates)) e₂ answers e₃)
      (htolerate : Returns (answers.forM (escalate (n + 1))) e₃ () e₄) :
      Exchanges t0 e₀ .agentStates (n + 1) e₄

/-- Where all agents are about to solve their local problems, in a solve on the horizon from `t0`, with
the number of the iteration. -/
inductive LocalSolves (t0 : α) (e₀ : Ensemble σ α) : Nat → Ensemble σ α → Prop
  | first {e e₁ : Ensemble σ α} (h : Exchanges t0 e₀ .setup 0 e)
      (hexchange : Returns (exchange .setup 0) e () e₁) : LocalSolves t0 e₀ 1 e₁
  | next {n : Nat} {e e₁ e₂ : Ensemble σ α} (h : Exchanges t0 e₀ .multiplierStates n e)
      (hexchange : Returns (exchange .multiplierStates n) e () e₁)
      (hfinish : Returns (finish n) e₁ false e₂) : LocalSolves t0 e₀ (n + 1) e₂

theorem LocalSolves.solve {t0 : α} {n : Nat} {e₀ e e₁ e₂ : Ensemble σ α}
    {answers : List (AgentId × Except SolveError Unit)} (h : LocalSolves t0 e₀ n e)
    (hsolve : Returns (inParallel (·.updateAgentStates)) e answers e₁)
    (htolerate : Returns (answers.forM (escalate n)) e₁ () e₂) :
    Exchanges t0 e₀ .agentStates n e₂ := by
  cases h with
  | first h hexchange => exact .solve h hexchange hsolve htolerate
  | next h hexchange hfinish => exact .next h hexchange hfinish hsolve htolerate

/-- What a solve that is given up leaves behind: it waits for a record to be sent, for one to come in or
for the controllers to finish their work. -/
inductive Abandons (t0 : α) (e₀ : Ensemble σ α) : Ensemble σ α → Prop
  | sending {phase : ExchangePhase} {n : Nat} {e e' : Ensemble σ α} {sent rest : List (Envelope α)}
      (h : Exchanges t0 e₀ phase n e) (hsplit : envelopes phase e.nextRound = sent ++ rest)
      (hsend : Returns (sent.forM (send n)) e.nextRound () e') : Abandons t0 e₀ e'
  | receiving {phase : ExchangePhase} {n : Nat} {e e₁ e' : Ensemble σ α} {taken rest : List Awaited}
      {received : List (Envelope α)} (h : Exchanges t0 e₀ phase n e)
      (hsend : Returns ((envelopes phase e.nextRound).forM (send n)) e.nextRound () e₁)
      (hsplit : awaited phase e₁ = taken ++ rest)
      (hreceive : Returns (taken.mapM (receive n)) e₁ received e') : Abandons t0 e₀ e'
  | working {phase : ExchangePhase} {n : Nat} {e e' : Ensemble σ α} (h : Exchanges t0 e₀ phase n e)
      (hexchange : Returns (exchange phase n) e () e') : Abandons t0 e₀ e'
  | iterating {n : Nat} {e e₁ e' : Ensemble σ α} (h : Exchanges t0 e₀ .multiplierStates n e)
      (hexchange : Returns (exchange .multiplierStates n) e () e₁)
      (hfinish : Returns (finish n) e₁ false e') : Abandons t0 e₀ e'

/-- What holds once a solve has been prepared holds at every exchange. -/
theorem Exchanges.keeps {I : Ensemble σ α → Prop} (hI : Phased I) {t0 : α} {e₀ e : Ensemble σ α}
    {phase : ExchangePhase} {n : Nat} (hprepare : ∀ e₁, Returns (prepare t0) e₀ () e₁ → I e₁)
    (h : Exchanges t0 e₀ phase n e) : I e := by
  induction h with
  | @setup e₁ hreturns => exact hI.note .empty (hprepare e₁ hreturns)
  | solve _ hexchange hsolve htolerate ih =>
    have hexchanged := (hI.exchanging _ _).of_returns ih hexchange
    obtain ⟨rfl, -⟩ := returns_forM_escalate htolerate
    exact hI.solving.of_returns hexchanged hsolve
  | couple _ hexchange hcouple ih =>
    have hexchanged := (hI.exchanging _ _).of_returns ih hexchange
    exact hI.coupling.of_returns hexchanged hcouple
  | ascend _ hexchange hascend ih =>
    have hexchanged := (hI.exchanging _ _).of_returns ih hexchange
    exact hI.ascending.of_returns hexchanged hascend
  | next _ hexchange hfinish hsolve htolerate ih =>
    have hexchanged := (hI.exchanging _ _).of_returns ih hexchange
    have hfinished := (hI.finishing _).of_returns hexchanged hfinish
    obtain ⟨rfl, -⟩ := returns_forM_escalate htolerate
    exact hI.solving.of_returns hfinished hsolve

/-- Moves lead to every exchange of a solve. -/
theorem Exchanges.led {t0 : α} {e₀ e : Ensemble σ α} {phase : ExchangePhase} {n : Nat}
    (hs : Table.Sorted e₀.controllers) (h : Exchanges t0 e₀ phase n e) : Led e₀ e :=
  h.keeps routine_led.phased fun _ hprepare => (led_prepare hs t0).of_returns .refl hprepare

/-- What holds once a solve has been prepared holds where all agents are about to solve. -/
theorem LocalSolves.keeps {I : Ensemble σ α → Prop} (hI : Phased I) {t0 : α} {n : Nat}
    {e₀ e : Ensemble σ α} (hprepare : ∀ e₁, Returns (prepare t0) e₀ () e₁ → I e₁)
    (h : LocalSolves t0 e₀ n e) : I e := by
  cases h with
  | first h hexchange => exact (hI.exchanging _ _).of_returns (h.keeps hI hprepare) hexchange
  | next h hexchange hfinish =>
    have hexchanged := (hI.exchanging _ _).of_returns (h.keeps hI hprepare) hexchange
    exact (hI.finishing _).of_returns hexchanged hfinish

/-- What turns, messages and reports keep holds where a solve is given up. -/
theorem Abandons.keeps {I : Ensemble σ α → Prop} (hI : Routine I) {t0 : α} {e₀ e : Ensemble σ α}
    (hprepare : ∀ e₁, Returns (prepare t0) e₀ () e₁ → I e₁) (h : Abandons t0 e₀ e) : I e := by
  have hsent : ∀ {phase : ExchangePhase} {n m : Nat} {envs : List (Envelope α)}
      {e e' : Ensemble σ α}, Exchanges t0 e₀ phase m e →
      Returns (envs.forM (send n)) e.nextRound () e' → I e' := by
    intro phase n m envs e e' h hsend
    have hnext : I e.nextRound := hI.note _ e.history (h.keeps hI.phased hprepare)
    exact (triple_forM fun env _ => hI.conveyed.keeps_send _ env).of_returns hnext hsend
  cases h with
  | sending h _ hsend => exact hsent h hsend
  | receiving h hsend _ hreceive =>
    exact (triple_mapM fun w _ => hI.conveyed.keeps_receive _ w).of_returns (hsent h hsend) hreceive
  | working h hexchange =>
    exact (hI.conveyed.keeps_exchange _ _).of_returns (h.keeps hI.phased hprepare) hexchange
  | iterating h hexchange hfinish =>
    have hexchanged := (hI.conveyed.keeps_exchange _ _).of_returns (h.keeps hI.phased hprepare) hexchange
    exact (hI.keeps_finish _).of_returns hexchanged hfinish

theorem Abandons.led {t0 : α} {e₀ e : Ensemble σ α} (hs : Table.Sorted e₀.controllers)
    (h : Abandons t0 e₀ e) : Led e₀ e :=
  h.keeps routine_led fun _ hprepare => (led_prepare hs t0).of_returns .refl hprepare

/-- Ensembles that operations lead to, over a transport of which nothing is known. -/
inductive Handled : Ensemble σ α → Prop
  | new (o : Options α) (solver : LocalSolver α) (transport : σ) : Handled (.new o solver transport)
  | apply (change : Change α) {e : Ensemble σ α} (h : Handled e) : Handled (exec (apply change) e).2
  | solve (t0 : α) {e : Ensemble σ α} (h : Handled e) : Handled (exec (solve t0) e).2
  | abandon {t0 : α} {e e' : Ensemble σ α} (h : Handled e) (ha : Abandons t0 e e') : Handled e'
  | closedLoopStep (t dt : α) {e : Ensemble σ α} (h : Handled e) :
      Handled (exec (closedLoopStep t dt) e).2
  | withSolver (solver : LocalSolver α) {e : Ensemble σ α} (h : Handled e) :
      Handled (e.withSolver solver)
  | capStoredData (samples : Nat) {e : Ensemble σ α} (h : Handled e) :
      Handled (e.capStoredData samples)

namespace Handled

/-- A new ensemble has been led to where it is. -/
theorem led {e : Ensemble σ α} (h : e.Handled) :
    ∃ o solver transport, Led (.new o solver transport) e := by
  have hs : ∀ (o : Options α) (solver : LocalSolver α) (transport : σ),
      Table.Sorted (Ensemble.new o solver transport).controllers := fun _ _ _ => List.Pairwise.nil
  induction h with
  | new o solver transport => exact ⟨o, solver, transport, .refl⟩
  | apply change _ ih =>
    obtain ⟨o, solver, transport, hled⟩ := ih
    exact ⟨o, solver, transport, (led_apply change).exec hled⟩
  | solve t0 _ ih =>
    obtain ⟨o, solver, transport, hled⟩ := ih
    exact ⟨o, solver, transport, (led_solve (hs _ _ _) t0).exec hled⟩
  | abandon _ ha ih =>
    obtain ⟨o, solver, transport, hled⟩ := ih
    exact ⟨o, solver, transport, hled.trans (ha.led (hled.sorted (hs _ _ _)))⟩
  | closedLoopStep t dt _ ih =>
    obtain ⟨o, solver, transport, hled⟩ := ih
    exact ⟨o, solver, transport, (led_closedLoopStep (hs _ _ _) t dt).exec hled⟩
  | withSolver solver _ ih =>
    obtain ⟨o, old, transport, hled⟩ := ih
    exact ⟨o, old, transport, hled.move (.replace solver)⟩
  | @capStoredData samples e _ ih =>
    obtain ⟨o, solver, transport, hled⟩ := ih
    exact ⟨o, solver, transport,
      hled.move (.note e.topologyChanged e.round e.history (some samples) fun hs => hs.map _)⟩

theorem supplied {e : Ensemble σ α} (h : e.Handled) : e.Supplied := by
  obtain ⟨o, solver, transport, hled⟩ := h.led
  exact hled.supplied (supplied_new o solver transport)

end Handled

end Points

variable [FaithfulTransport σ α]

/-- Ready to exchange records with all neighbors that the network knows. -/
structure Poised (e : Ensemble σ α) : Prop extends Working e where
  unchanged : e.topologyChanged = false

theorem Poised.exchange {phase : ExchangePhase} {n : Nat} {e e' : Ensemble σ α} {u : Unit}
    (h : e.Poised) (hx : Returns (Ensemble.exchange phase n) e u e') : e'.Poised := by
  obtain ⟨hrest, -⟩ := exchange_refreshed h.sorted h.toWorking.nodup h.bounded hx
  refine ⟨(keeps_exchange phase n).of_returns h.toWorking hx, ?_⟩
  rw [hrest]
  exact h.unchanged

theorem Poised.inParallel {β : Type} {work : Controller α → Controller α × Checked β}
    {answers : List (AgentId × β)} {e e' : Ensemble σ α} (h : e.Poised)
    (hwork : ∀ c b, (work c).2 = .ok b → c.Begun → c.Advances (work c).1 ∧ (work c).1.Begun)
    (hx : Returns (Ensemble.inParallel work) e answers e') : e'.Poised := by
  refine ⟨(keeps_inParallel hwork).of_returns h.toWorking hx, ?_⟩
  rw [(rel_inParallel hx).1]
  exact h.unchanged

theorem Poised.solve {n : Nat} {answers : List (AgentId × Except SolveError Unit)}
    {e e₁ e₂ : Ensemble σ α} (h : e.Poised)
    (hsolve : Returns (Ensemble.inParallel (·.updateAgentStates)) e answers e₁)
    (htolerate : Returns (answers.forM (escalate n)) e₁ () e₂) : e₂.Poised := by
  obtain ⟨rfl, -⟩ := returns_forM_escalate htolerate
  exact h.inParallel (fun c _ _ hc =>
    ⟨(Controller.Step.solve c).advances, Controller.begun_updateAgentStates hc⟩) hsolve

theorem Poised.finish {n : Nat} {e e' : Ensemble σ α} {b : Bool} (h : e.Poised)
    (hx : Returns (Ensemble.finish n) e b e') : e'.Poised := by
  refine ⟨(keeps_finish n).of_returns h.toWorking hx, ?_⟩
  rw [(returns_finish hx).1]
  exact h.unchanged

/-- All controllers are ready at every exchange of a solve. -/
theorem Exchanges.poised {t0 : α} {e₀ e : Ensemble σ α} {phase : ExchangePhase} {n : Nat}
    (h₀ : e₀.Orderly) (h : Exchanges t0 e₀ phase n e) : e.Poised := by
  induction h with
  | @setup e₁ hprepare =>
    obtain ⟨hw, hunchanged⟩ := (triple_prepare t0).of_returns h₀ hprepare
    exact ⟨hw.withReports e₁.solver .empty e₁.solutions e₁.storedSamples, hunchanged⟩
  | solve _ hexchange hsolve htolerate ih => exact (ih.exchange hexchange).solve hsolve htolerate
  | couple _ hexchange hcouple ih =>
    exact (ih.exchange hexchange).inParallel (fun _ _ => Controller.advances_coupling) hcouple
  | ascend _ hexchange hascend ih =>
    exact (ih.exchange hexchange).inParallel (fun _ _ => Controller.advances_ascent) hascend
  | next _ hexchange hfinish hsolve htolerate ih =>
    exact ((ih.exchange hexchange).finish hfinish).solve hsolve htolerate

theorem Working.nextRound {e : Ensemble σ α} (h : e.Working) : e.nextRound.Working :=
  ⟨⟨h.registered, h.sorted, h.evolved, h.keyed, h.models, h.linked, h.complete,
    fun env henv => Nat.le_succ_of_le (h.bounded env henv)⟩, h.begun⟩

theorem Abandons.keeps_working {t0 : α} {e₀ e : Ensemble σ α} (h₀ : e₀.Orderly)
    (h : Abandons t0 e₀ e) : e.Working := by
  have hsent : ∀ {n round : Nat} {envs : List (Envelope α)} {e e' : Ensemble σ α},
      (∀ env ∈ envs, env.round = round) → e.round = round → e.Working →
      Returns (envs.forM (send n)) e () e' → e'.Working := by
    intro n round envs e e' henvs hround hw hsend
    have hsends : Keeps (fun e : Ensemble σ α => e.Working ∧ e.round = round)
        (envs.forM (send n)) :=
      triple_forM fun env henv => henvs env henv ▸ keeps_send n env
    exact (hsends.of_returns ⟨hw, hround⟩ hsend).1
  cases h with
  | @sending phase n e _ sent rest h hsplit hsend =>
    refine hsent (fun env henv => ?_) rfl (h.poised h₀).toWorking.nextRound hsend
    have hmem : env ∈ envelopes phase e.nextRound := hsplit ▸ List.mem_append_left rest henv
    exact envelopes_round hmem
  | receiving h hsend _ hreceive =>
    have hw := hsent (fun env henv => envelopes_round henv) rfl (h.poised h₀).toWorking.nextRound hsend
    exact (triple_mapM fun w _ => keeps_receive _ w).of_returns hw hreceive
  | working h hexchange => exact ((h.poised h₀).exchange hexchange).toWorking
  | iterating h hexchange hfinish =>
    exact (((h.poised h₀).exchange hexchange).finish hfinish).toWorking

/-- Ensembles that operations lead to, in any order, whether they succeed, stop early or are given up. -/
inductive Operated : Ensemble σ α → Prop
  | new (o : Options α) (solver : LocalSolver α) {transport : σ}
      (h : ∀ env, ¬ FaithfulTransport.InTransit env transport) : Operated (.new o solver transport)
  | apply (change : Change α) {e : Ensemble σ α} (h : Operated e) :
      Operated (exec (apply change) e).2
  | solve (t0 : α) {e : Ensemble σ α} (h : Operated e) : Operated (exec (solve t0) e).2
  | abandon {t0 : α} {e e' : Ensemble σ α} (h : Operated e) (ha : Abandons t0 e e') : Operated e'
  | closedLoopStep (t dt : α) {e : Ensemble σ α} (h : Operated e) :
      Operated (exec (closedLoopStep t dt) e).2
  | withSolver (solver : LocalSolver α) {e : Ensemble σ α} (h : Operated e) :
      Operated (e.withSolver solver)
  | capStoredData (samples : Nat) {e : Ensemble σ α} (h : Operated e) :
      Operated (e.capStoredData samples)

namespace Operated

theorem handled {e : Ensemble σ α} (h : e.Operated) : e.Handled := by
  induction h with
  | new o solver => exact .new o solver _
  | apply change _ ih => exact ih.apply change
  | solve t0 _ ih => exact ih.solve t0
  | abandon _ ha ih => exact ih.abandon ha
  | closedLoopStep t dt _ ih => exact ih.closedLoopStep t dt
  | withSolver solver _ ih => exact ih.withSolver solver
  | capStoredData samples _ ih => exact ih.capStoredData samples

theorem orderly {e : Ensemble σ α} (h : e.Operated) : e.Orderly := by
  induction h with
  | new o solver h => exact (Reachable.new o solver h).orderly
  | apply change _ ih => exact (keeps_apply change).exec ih
  | solve t0 _ ih => exact (keeps_solve t0).exec ih
  | abandon _ ha ih => exact (ha.keeps_working ih).toOrderly
  | closedLoopStep t dt _ ih => exact (keeps_closedLoopStep t dt).exec ih
  | withSolver solver _ ih =>
    refine ⟨ih.registered, List.Pairwise.nil, ?_, ?_, ?_, ?_, ?_, ih.bounded⟩
    all_goals simp [Ensemble.withSolver]
  | capStoredData samples _ ih => exact ih.withReports _ _ _ _

theorem supplied {e : Ensemble σ α} (h : e.Operated) : e.Supplied := h.handled.supplied

theorem closedLoop (dt : α) (steps : Nat) (t : α) {e : Ensemble σ α} (h : e.Operated) :
    (exec (Ensemble.closedLoop dt steps t) e).2.Operated := by
  induction steps generalizing t e with
  | zero => exact h
  | succ steps ih =>
    have hfirst := h.closedLoopStep t dt
    unfold Ensemble.closedLoop
    rw [exec_bind]
    rcases hstep : exec (Ensemble.closedLoopStep t dt) e with ⟨r, e₁⟩
    rw [hstep] at hfirst
    cases r with
    | error s => exact hfirst
    | ok summary =>
      have hrest := ih (t + dt) hfirst
      dsimp only
      rw [exec_bind]
      rcases hloop : exec (Ensemble.closedLoop dt steps (t + dt)) e₁ with ⟨r, e₂⟩
      rw [hloop] at hrest
      cases r with
      | error s => exact hrest
      | ok rest => exact hrest

/-- A simulation is one solve after the other. -/
theorem run (duration t0 : α) {e : Ensemble σ α} (h : e.Operated) :
    (exec (Ensemble.run duration t0) e).2.Operated := by
  unfold Ensemble.run
  rw [exec_bind, exec_get]
  exact h.closedLoop _ _ _

theorem applyAll (changes : List (Change α)) {e : Ensemble σ α} (h : Operated e) :
    (e.applyAll changes).Operated := by
  induction changes generalizing e with
  | nil => exact h
  | cons change changes ih => exact ih (h.apply change)

end Operated

theorem pair_operated (x : Rat) (solver : LocalSolver Rat) : (pair x solver).Operated :=
  .applyAll _ (.new _ _ Direct.not_inTransit_empty)

end ConsensusControl.Ensemble
