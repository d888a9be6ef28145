import ConsensusControl.Proofs.Ensemble.Escalation
import ConsensusControl.Proofs.Ensemble.Replicas

namespace ConsensusControl

namespace Controller

variable {α : Type} [Scalar α]

/-- The first half of an ascent, the prices. -/
def raising (c : Controller α) : Controller α × Checked Unit :=
  match c.updateMultiplierStates with
  | .ok c => (c, .ok ())
  | .error fault => (c, .error fault)

/-- The second half of an ascent, the penalties. -/
def adapting (c : Controller α) : Controller α × Checked Unit :=
  match c.adaptPenalties with
  | .ok c => (c, .ok ())
  | .error fault => (c, .error fault)

theorem raising_eq_ok {c : Controller α} {u : Unit} :
    c.raising.2 = .ok u ↔ c.updateMultiplierStates = .ok c.raising.1 := by
  unfold raising
  split <;> simp_all

theorem adapting_eq_ok {c : Controller α} {u : Unit} :
    c.adapting.2 = .ok u ↔ c.adaptPenalties = .ok c.adapting.1 := by
  unfold adapting
  split <;> simp_all

theorem advances_raising {c : Controller α} {u : Unit} (h : c.raising.2 = .ok u) (hc : c.Begun) :
    c.Advances c.raising.1 ∧ c.raising.1.Begun := by
  have hraised := raising_eq_ok.mp h
  refine ⟨(Step.raise hraised).advances, ?_⟩
  obtain ⟨_, _, _, _, -, -, heq⟩ := updateMultiplierStates_eq_ok hraised
  rw [heq]
  exact hc

theorem advances_adapting {c : Controller α} {u : Unit} (h : c.adapting.2 = .ok u) (hc : c.Begun) :
    c.Advances c.adapting.1 ∧ c.adapting.1.Begun := by
  have hadapted := adapting_eq_ok.mp h
  refine ⟨(Step.adapt hadapted).advances, ?_⟩
  obtain heq | ⟨_, _, -, -, heq⟩ := adaptPenalties_eq_ok hadapted
  · rw [heq]
    exact hc
  · rw [heq]
    exact hc

end Controller

/-- Points of an iteration at which all controllers are about to do the same. -/
inductive Moment
  | solving
  | coupling
  | raising
  | adapting
  | closing
  deriving DecidableEq, Repr

/-- What has changed since it was last sent. -/
def Moment.stale : Moment → List RecordKind
  | adapting => [.coupledMultiplierState]
  | solving | coupling | raising | closing => []

namespace Ensemble

variable {σ α : Type} [Scalar α]

/-- Where a solve on the horizon from `t0` passes through, with the number of the iteration. Ahead of
every local solve any agent may be given another solver. -/
inductive Passes [Transport σ α] (t0 : α) (e₀ : Ensemble σ α) : Moment → Nat → Ensemble σ α → Prop
  | start {e₁ e₂ : Ensemble σ α} (hprepare : Returns (prepare t0) e₀ () e₁)
      (hsetup : Returns (exchange .setup 0) { e₁ with history := .empty } () e₂) :
      Passes t0 e₀ .solving 1 e₂
  | resolve {n : Nat} {e : Ensemble σ α} {id : AgentId} {c : Controller α} (solver : LocalSolver α)
      (h : Passes t0 e₀ .solving n e) (hc : e.controllers.lookup id = some c) :
      Passes t0 e₀ .solving n
        { e with controllers := Table.insert id { c with solver } e.controllers }
  | solve {n : Nat} {e e₁ e₂ e₃ : Ensemble σ α} {answers : List (AgentId × Except SolveError Unit)}
      (h : Passes t0 e₀ .solving n e)
      (hsolve : Returns (inParallel (·.updateAgentStates)) e answers e₁)
      (htolerate : Returns (answers.forM (escalate n)) e₁ () e₂)
      (hexchange : Returns (exchange .agentStates n) e₂ () e₃) : Passes t0 e₀ .coupling n e₃
  | couple {n : Nat} {e e₁ e₂ : Ensemble σ α} {answers : List (AgentId × Unit)}
      (h : Passes t0 e₀ .coupling n e)
      (hcouple : Returns (inParallel (·.coupling)) e answers e₁)
      (hexchange : Returns (exchange .couplingStates n) e₁ () e₂) : Passes t0 e₀ .raising n e₂
  | raise {n : Nat} {e e₁ : Ensemble σ α} {answers : List (AgentId × Unit)}
      (h : Passes t0 e₀ .raising n e) (hraise : Returns (inParallel (·.raising)) e answers e₁) :
      Passes t0 e₀ .adapting n e₁
  | adapt {n : Nat} {e e₁ e₂ : Ensemble σ α} {answers : List (AgentId × Unit)}
      (h : Passes t0 e₀ .adapting n e)
      (hadapt : Returns (inParallel (·.adapting)) e answers e₁)
      (hexchange : Returns (exchange .multiplierStates n) e₁ () e₂) : Passes t0 e₀ .closing n e₂
  | next {n : Nat} {e e₁ : Ensemble σ α} (h : Passes t0 e₀ .closing n e)
      (hfinish : Returns (finish n) e false e₁) : Passes t0 e₀ .solving (n + 1) e₁

omit [Scalar α] in
theorem rel_inParallel {β : Type} {work : Controller α → Controller α × Checked β}
    {e e' : Ensemble σ α} {answers : List (AgentId × β)}
    (h : Returns (inParallel work) e answers e') :
    e' = { e with controllers := e'.controllers } ∧
      Table.Rel (fun _ c c' => ∃ b, work c = (c', .ok b)) e.controllers e'.controllers := by
  obtain ⟨rfl, hall⟩ := returns_inParallel h
  refine ⟨rfl, ?_⟩
  have hrel := Table.Rel.of_map (fun _ c => (work c).1) e.controllers
  refine ⟨hrel.ids, fun id c hc => ?_⟩
  obtain ⟨c', hc', rfl⟩ := hrel.related id c hc
  obtain ⟨b, hb⟩ := hall _ (Table.mem_of_lookup hc)
  exact ⟨_, hc', b, Prod.ext rfl hb⟩

theorem rel_coupling {e e' : Ensemble σ α} {answers : List (AgentId × Unit)}
    (h : Returns (inParallel (·.coupling)) e answers e') :
    Table.Rel (fun _ c c' => c.updateCouplingStates = .ok c') e.controllers e'.controllers := by
  refine (rel_inParallel h).2.imp fun _ c c' ⟨_, hwork⟩ => ?_
  have hok := Controller.coupling_eq_ok (congrArg Prod.snd hwork)
  rwa [hwork] at hok

theorem rel_raising {e e' : Ensemble σ α} {answers : List (AgentId × Unit)}
    (h : Returns (inParallel (·.raising)) e answers e') :
    Table.Rel (fun _ c c' => c.updateMultiplierStates = .ok c') e.controllers e'.controllers := by
  refine (rel_inParallel h).2.imp fun _ c c' ⟨_, hwork⟩ => ?_
  have hok := Controller.raising_eq_ok.mp (congrArg Prod.snd hwork)
  rwa [hwork] at hok

theorem rel_adapting {e e' : Ensemble σ α} {answers : List (AgentId × Unit)}
    (h : Returns (inParallel (·.adapting)) e answers e') :
    Table.Rel (fun _ c c' => c.adaptPenalties = .ok c') e.controllers e'.controllers := by
  refine (rel_inParallel h).2.imp fun _ c c' ⟨_, hwork⟩ => ?_
  have hok := Controller.adapting_eq_ok.mp (congrArg Prod.snd hwork)
  rwa [hwork] at hok

theorem returns_finish {n : Nat} {e e' : Ensemble σ α} {b : Bool} (h : Returns (finish n) e b e') :
    e' = { e with controllers := e'.controllers, history := e'.history } ∧
      Table.Rel (fun _ c c' => c' = c.finishIteration) e.controllers e'.controllers ∧
      b = (e'.controllers.map (·.2)).all (·.isConverged) := by
  unfold finish at h
  replace h := returns_modify_bind.mp h
  replace h := returns_get_bind.mp h
  obtain ⟨_, e₂, hset, h⟩ := returns_bind.mp h
  obtain rfl := returns_set.mp hset
  obtain ⟨rfl, rfl⟩ := returns_pure.mp h
  exact ⟨rfl, Table.Rel.of_map (fun _ c => c.finishIteration) e.controllers, rfl⟩

/-- The controllers report as the iteration leaves them. -/
theorem history_finish {n : Nat} {e e' : Ensemble σ α} {b : Bool} (h : Returns (finish n) e b e') :
    e'.history = (e'.controllers.map (·.2)).foldl (report n) e.history := by
  unfold finish at h
  replace h := returns_modify_bind.mp h
  replace h := returns_get_bind.mp h
  obtain ⟨_, e₂, hset, h⟩ := returns_bind.mp h
  obtain rfl := returns_set.mp hset
  obtain ⟨-, rfl⟩ := returns_pure.mp h
  rfl

variable [FaithfulTransport σ α]

/-- Every controller works on the network as it is. Neighbors have the current records of each other, up
to some kinds, and all that they received has the lengths of its role. -/
structure InStep (stale : List RecordKind) (e : Ensemble σ α) : Prop extends Working e where
  unchanged : e.topologyChanged = false
  fresh : ∀ kind, kind ∉ stale → Fresh kind e.controllers
  sized : ∀ id c, e.controllers.lookup id = some c → c.Sized

theorem Working.nodup {e : Ensemble σ α} (h : e.Working) (id : AgentId) (c : Controller α)
    (hc : e.controllers.lookup id = some c) : c.agent.neighborIds.Nodup :=
  (h.evolved id c hc).nodup

namespace InStep

variable {stale changed : List RecordKind} {e e' : Ensemble σ α}

/-- Work of their own makes stale at most what it changes. -/
theorem works (h : e.InStep stale) (hw : e'.Working) (hunchanged : e'.topologyChanged = e.topologyChanged)
    (hrel : Table.Rel (fun _ c c' => c.Works changed c') e.controllers e'.controllers) :
    e'.InStep (stale ++ changed) where
  toWorking := hw
  unchanged := hunchanged.trans h.unchanged
  fresh kind hkind := by
    simp only [List.mem_append, not_or] at hkind
    obtain ⟨hstale, hchanged⟩ := hkind
    exact (h.fresh kind hstale).works hrel hchanged
  sized id c' hc' := by
    obtain ⟨c, hc, hworks⟩ := hrel.back hc'
    exact (h.sized id c hc).works hworks

/-- An exchange brings everybody up to date if nothing is stale but what it sends. -/
theorem exchange {phase : ExchangePhase} {n : Nat} {u : Unit} (h : e.InStep phase.kinds)
    (hx : Returns (Ensemble.exchange phase n) e u e') : e'.InStep [] := by
  obtain ⟨hrest, hrel⟩ := exchange_refreshed h.sorted h.toWorking.nodup h.bounded hx
  refine ⟨(keeps_exchange phase n).of_returns h.toWorking hx, ?_, fun kind _ => ?_,
    fun id c' hc' => ?_⟩
  · rw [hrest]
    exact h.unchanged
  · exact fresh_refreshed hrel h.fresh kind
  · obtain ⟨c, hc, hR⟩ := hrel.back hc'
    exact .refreshed hR fun nb hnb kind _ => h.sized id c hc nb hnb kind

theorem inParallel {β : Type} {work : Controller α → Controller α × Checked β}
    {answers : List (AgentId × β)} (h : e.InStep stale)
    (hadvances : ∀ c b, (work c).2 = .ok b → c.Begun → c.Advances (work c).1 ∧ (work c).1.Begun)
    (hworks : ∀ c b, (work c).2 = .ok b → c.Works changed (work c).1)
    (hx : Returns (Ensemble.inParallel work) e answers e') : e'.InStep (stale ++ changed) := by
  obtain ⟨hrest, hrel⟩ := rel_inParallel hx
  refine h.works ((keeps_inParallel hadvances).of_returns h.toWorking hx) (by rw [hrest]) ?_
  refine hrel.imp ?_
  intro _ c c' h
  obtain ⟨b, hwork⟩ := h
  have hc := hworks c b (congrArg Prod.snd hwork)
  rwa [hwork] at hc

variable {answers : List (AgentId × Unit)}

theorem solving {answers : List (AgentId × Except SolveError Unit)} (h : e.InStep [])
    (hsolve : Returns (Ensemble.inParallel (·.updateAgentStates)) e answers e') :
    e'.InStep ExchangePhase.agentStates.kinds :=
  h.inParallel (fun c _ _ hbegun =>
      ⟨(Controller.Step.solve c).advances, Controller.begun_updateAgentStates hbegun⟩)
    (fun c _ _ => Controller.works_updateAgentStates c) hsolve

theorem coupling (h : e.InStep [])
    (hcouple : Returns (Ensemble.inParallel (·.coupling)) e answers e') :
    e'.InStep ExchangePhase.couplingStates.kinds :=
  h.inParallel (fun _ _ hc hbegun => Controller.advances_coupling hc hbegun)
    (fun _ _ hc => Controller.works_coupling (Controller.coupling_eq_ok hc)) hcouple

theorem raising (h : e.InStep [])
    (hraise : Returns (Ensemble.inParallel (·.raising)) e answers e') :
    e'.InStep [.coupledMultiplierState] :=
  h.inParallel (fun _ _ hc hbegun => Controller.advances_raising hc hbegun)
    (fun _ _ hc => Controller.works_raising (Controller.raising_eq_ok.mp hc)) hraise

theorem adapting (h : e.InStep [.coupledMultiplierState])
    (hadapt : Returns (Ensemble.inParallel (·.adapting)) e answers e') :
    e'.InStep ExchangePhase.multiplierStates.kinds :=
  h.inParallel (fun _ _ hc hbegun => Controller.advances_adapting hc hbegun)
    (fun _ _ hc => Controller.works_adapting (Controller.adapting_eq_ok.mp hc)) hadapt

end InStep

/-- All are up to date once a solve has been prepared. -/
theorem inStep_setup {e e' : Ensemble σ α} {n : Nat} {u : Unit} (h : e.Working)
    (hunchanged : e.topologyChanged = false) (hx : Returns (exchange .setup n) e u e') :
    e'.InStep [] := by
  obtain ⟨hrest, hrel⟩ := exchange_refreshed h.sorted h.nodup h.bounded hx
  have hall : ∀ kind, kind ∈ ExchangePhase.setup.kinds := fun kind => by cases kind <;> decide
  refine ⟨(keeps_exchange .setup n).of_returns h hx, ?_, fun kind _ => ?_, fun id c' hc' => ?_⟩
  · rw [hrest]
    exact hunchanged
  · exact fresh_refreshed hrel (fun kind hkind => (hkind (hall kind)).elim) kind
  · obtain ⟨c, hc, hR⟩ := hrel.back hc'
    exact .refreshed hR fun nb hnb kind hkind => (hkind (hall kind)).elim

/-- At every point of a solve all neighbors are in step. -/
theorem Passes.inStep {t0 : α} {e₀ e : Ensemble σ α} {m : Moment} {n : Nat} (h₀ : e₀.Orderly)
    (h : Passes t0 e₀ m n e) : e.InStep m.stale := by
  induction h with
  | @start e₁ e₂ hprepare hsetup =>
    obtain ⟨hw, hunchanged⟩ := (triple_prepare t0).of_returns h₀ hprepare
    exact inStep_setup (hw.withReports e₁.solver .empty e₁.solutions e₁.storedSamples) hunchanged
      hsetup
  | @resolve n e id c solver _ hc ih =>
    have hrel : Table.Rel (fun _ c c' => c.Works [] c') e.controllers
        (Table.insert id { c with solver } e.controllers) := by
      have hsame : Table.Rel (fun _ c c' => c.Works [] c') e.controllers e.controllers :=
        ⟨rfl, fun _ d hd => ⟨d, hd, .of_eq rfl rfl []⟩⟩
      exact hsame.insert ih.sorted hc fun b hb => ⟨hb.site, hb.neighbors⟩
    have hadvances := (Controller.Step.resolve solver c).advances
    exact ih.works (ih.toWorking.put hc hadvances (ih.begun id c hc)) rfl hrel
  | solve _ hsolve htolerate hexchange ih =>
    obtain ⟨rfl, -⟩ := returns_forM_escalate htolerate
    exact (ih.solving hsolve).exchange hexchange
  | couple _ hcouple hexchange ih => exact (ih.coupling hcouple).exchange hexchange
  | raise _ hraise ih => exact ih.raising hraise
  | adapt _ hadapt hexchange ih => exact (ih.adapting hadapt).exchange hexchange
  | @next n e e₁ _ hfinish ih =>
    obtain ⟨hrest, hrel, -⟩ := returns_finish hfinish
    have hworks : Table.Rel (fun _ c c' => c.Works [] c') e.controllers e₁.controllers := by
      refine hrel.imp ?_
      intro _ c _ heq
      obtain rfl := heq
      exact c.works_finishIteration
    exact ih.works ((keeps_finish _).of_returns ih.toWorking hfinish) (by rw [hrest]) hworks

section Solve

variable {t0 : α} {e₀ : Ensemble σ α}

omit [FaithfulTransport σ α] in
/-- When all ascend, all raise and then all adapt. -/
theorem returns_ascent {e e' : Ensemble σ α} {answers : List (AgentId × Unit)}
    (h : Returns (Ensemble.inParallel (·.ascent)) e answers e') :
    ∃ raises e₁ adapts, Returns (Ensemble.inParallel (·.raising)) e raises e₁ ∧
      Returns (Ensemble.inParallel (·.adapting)) e₁ adapts e' := by
  obtain ⟨rfl, hall⟩ := returns_inParallel h
  have hsplit : ∀ p ∈ e.controllers, p.2.raising = (p.2.raising.1, .ok ()) ∧
      p.2.raising.1.adapting = (p.2.ascent.1, .ok ()) := by
    intro p hp
    obtain ⟨_, hascent⟩ := hall p hp
    obtain ⟨raised, hraised, hadapted⟩ := Controller.ascent_eq_ok hascent
    simp only [Controller.raising, hraised, Controller.adapting, hadapted, and_self]
  obtain ⟨raises, hraise⟩ : ∃ raises, Returns (Ensemble.inParallel (·.raising)) e raises
      (e.worked (·.raising)) := by
    refine returns_inParallel_of_ok fun p hp => ?_
    exact ⟨(), congrArg Prod.snd (hsplit p hp).1⟩
  obtain ⟨adapts, hadapt⟩ : ∃ adapts, Returns (Ensemble.inParallel (·.adapting))
      (e.worked (·.raising)) adapts ((e.worked (·.raising)).worked (·.adapting)) := by
    refine returns_inParallel_of_ok fun q hq => ?_
    obtain ⟨p, hp, rfl⟩ := List.mem_map.mp hq
    exact ⟨(), congrArg Prod.snd (hsplit p hp).2⟩
  have hworked : (e.worked (·.raising)).worked (·.adapting) = e.worked (·.ascent) := by
    refine worked_worked fun p hp => ?_
    rw [(hsplit p hp).2]
  rw [hworked] at hadapt
  exact ⟨raises, _, adapts, hraise, hadapt⟩

theorem Passes.iterate {n : Nat} {e e' : Ensemble σ α} {b : Bool} (h₀ : Passes t0 e₀ .solving n e)
    (h : Returns (Ensemble.iterate n) e b e') :
    ∃ e₁, Passes t0 e₀ .closing n e₁ ∧ Returns (finish n) e₁ b e' := by
  unfold Ensemble.iterate at h
  obtain ⟨answers, e₁, hsolve, h⟩ := returns_bind.mp h
  obtain ⟨_, e₂, htolerate, h⟩ := returns_bind.mp h
  obtain ⟨_, e₃, hagents, h⟩ := returns_bind.mp h
  obtain ⟨_, e₄, hcouple, h⟩ := returns_bind.mp h
  obtain ⟨_, e₅, hcouplings, h⟩ := returns_bind.mp h
  obtain ⟨_, e₆, hascent, h⟩ := returns_bind.mp h
  obtain ⟨_, e₇, hmultipliers, hfinish⟩ := returns_bind.mp h
  obtain ⟨_, _, _, hraise, hadapt⟩ := returns_ascent hascent
  refine ⟨e₇, ?_, hfinish⟩
  exact .adapt (.raise (.couple (.solve h₀ hsolve htolerate hagents) hcouple hcouplings) hraise)
    hadapt hmultipliers

theorem Passes.iterateUpTo {limit n k : Nat} {e e' : Ensemble σ α}
    (h₀ : Passes t0 e₀ .solving (n + 1) e)
    (h : Returns (Ensemble.iterateUpTo limit n) e (k, true) e') :
    ∃ e₁, Passes t0 e₀ .closing k e₁ ∧ Returns (finish k) e₁ true e' := by
  induction limit generalizing n e with
  | zero => simp [Ensemble.iterateUpTo, returns_pure] at h
  | succ limit ih =>
    unfold Ensemble.iterateUpTo at h
    obtain ⟨b, e₁, hiterate, h⟩ := returns_bind.mp h
    obtain ⟨e₂, hclosing, hfinish⟩ := h₀.iterate hiterate
    cases b with
    | true =>
      obtain ⟨heq, rfl⟩ := returns_pure.mp h
      obtain ⟨rfl, -⟩ := Prod.mk.inj heq
      exact ⟨e₂, hclosing, hfinish⟩
    | false => exact ih (.next hclosing hfinish) h

omit [FaithfulTransport σ α] in
/-- A solve is a preparation, a first exchange and, if there are agents, iterations. Then it reports. -/
theorem returns_solve_parts [Transport σ α] {e' : Ensemble σ α} {s : Summary α}
    (h : Returns (solve t0) e₀ s e') : ∃ e₁ e₂ e₃, Returns (prepare t0) e₀ () e₁ ∧
      Returns (exchange .setup 0) { e₁ with history := .empty } () e₂ ∧
      (e₂.controllers = [] ∧ e₃ = e₂ ∧ s.iterations = 0 ∧ s.converged = true ∨
        e₂.controllers ≠ [] ∧ Returns (Ensemble.iterateUpTo e₂.options.maxIterations 0) e₂
          (s.iterations, s.converged) e₃) ∧
      s = ⟨t0, s.iterations, s.converged, e₃.history.summary⟩ ∧ e' = e₃.stored := by
  unfold solve at h
  obtain ⟨_, e₁, hprepare, h⟩ := returns_bind.mp h
  replace h := returns_modify_bind.mp h
  obtain ⟨_, e₂, hsetup, h⟩ := returns_bind.mp h
  replace h := returns_get_bind.mp h
  have hend : ∀ (answer : Nat × Bool) (e₃ : Ensemble σ α), Returns (do
      storeSolutions
      return (⟨t0, answer.1, answer.2, (← get).history.summary⟩ : Summary α)) e₃ s e' →
      s = ⟨t0, answer.1, answer.2, e₃.history.summary⟩ ∧ e' = e₃.stored := by
    intro answer e₃ h
    replace h := returns_modify_bind.mp h
    replace h := returns_get_bind.mp h
    obtain ⟨rfl, rfl⟩ := returns_pure.mp h
    exact ⟨rfl, rfl⟩
  dsimp only at h
  split at h
  · next hempty =>
    obtain ⟨answer, e₃, hloop, h⟩ := returns_bind.mp h
    obtain ⟨rfl, rfl⟩ := returns_pure.mp hloop
    obtain ⟨rfl, heq⟩ := hend _ _ h
    exact ⟨e₁, _, _, hprepare, hsetup, .inl ⟨List.isEmpty_iff.mp hempty, rfl, rfl, rfl⟩, rfl, heq⟩
  · next hnonempty =>
    obtain ⟨answer, e₃, hloop, h⟩ := returns_bind.mp h
    obtain ⟨rfl, heq⟩ := hend answer e₃ h
    exact ⟨e₁, e₂, e₃, hprepare, hsetup,
      .inr ⟨fun hnil => hnonempty (List.isEmpty_iff.mpr hnil), hloop⟩, rfl, heq⟩

omit [FaithfulTransport σ α] in
theorem returns_iterations [Transport σ α] {e' : Ensemble σ α} {s : Summary α}
    (h : Returns (solve t0) e₀ s e') : ∃ e₁ e₂ e₃, Returns (prepare t0) e₀ () e₁ ∧
      Returns (exchange .setup 0) { e₁ with history := .empty } () e₂ ∧
      (e₂.controllers = [] ∧ e₃ = e₂ ∨ Returns (Ensemble.iterateUpTo e₂.options.maxIterations 0) e₂
        (s.iterations, s.converged) e₃) ∧
      e' = { e₃ with solutions := e'.solutions } := by
  obtain ⟨e₁, e₂, e₃, hprepare, hsetup, hloop, -, rfl⟩ := returns_solve_parts h
  exact ⟨e₁, e₂, e₃, hprepare, hsetup, hloop.imp (fun h => ⟨h.1, h.2.1⟩) (·.2), rfl⟩

/-- A solve that has converged ended with an iteration that all of its controllers took. -/
theorem passes_of_converged {e' : Ensemble σ α} {s : Summary α} (h : Returns (solve t0) e₀ s e')
    (hs : s.converged = true) (hne : e'.controllers ≠ []) :
    ∃ e₁ e₂, Passes t0 e₀ .closing s.iterations e₁ ∧ Returns (finish s.iterations) e₁ true e₂ ∧
      e' = { e₂ with solutions := e'.solutions } := by
  obtain ⟨e₁, e₂, e₃, hprepare, hsetup, ⟨hempty, rfl⟩ | hloop, heq⟩ := returns_iterations h
  · exact absurd (by rw [heq]; exact hempty) hne
  · rw [hs] at hloop
    obtain ⟨e₄, hclosing, hfinish⟩ := Passes.iterateUpTo (.start hprepare hsetup) hloop
    exact ⟨e₄, e₃, hclosing, hfinish, heq⟩

/-- The first local solves and the consensus that is made of them. -/
def firstConsensus (t0 : α) : Run σ α Unit := do
  prepare t0
  modify ({ · with history := .empty })
  exchange .setup 0
  let answers ← inParallel (·.updateAgentStates)
  answers.forM (escalate 1)
  exchange .agentStates 1
  let _ ← inParallel (·.coupling)
  exchange .couplingStates 1

theorem passes_firstConsensus {e : Ensemble σ α} (h : Returns (firstConsensus t0) e₀ () e) :
    Passes t0 e₀ .raising 1 e := by
  unfold firstConsensus at h
  obtain ⟨_, e₁, hprepare, h⟩ := returns_bind.mp h
  replace h := returns_modify_bind.mp h
  obtain ⟨_, e₂, hsetup, h⟩ := returns_bind.mp h
  obtain ⟨answers, e₃, hsolve, h⟩ := returns_bind.mp h
  obtain ⟨_, e₄, htolerate, h⟩ := returns_bind.mp h
  obtain ⟨_, e₅, hagents, h⟩ := returns_bind.mp h
  obtain ⟨_, e₆, hcouple, hcouplings⟩ := returns_bind.mp h
  exact .couple (.solve (.start hprepare hsetup) hsolve htolerate hagents) hcouple hcouplings

/-- Two agents that each want control and offer the other none, about to raise their prices. -/
def pairConsensus : Ensemble (Direct Rat) Rat := (exec (firstConsensus 0) (pair 1 (insist 1))).2

theorem passes_pairConsensus : Passes 0 (pair 1 (insist 1)) .raising 1 pairConsensus := by
  obtain ⟨_, h⟩ := returns_of_isOk (x := firstConsensus 0) (e := pair 1 (insist 1))
    (by decide +kernel)
  exact passes_firstConsensus h

end Solve

end Ensemble

end ConsensusControl
