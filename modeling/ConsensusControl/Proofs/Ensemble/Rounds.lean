import ConsensusControl.Proofs.Ensemble.Bookkeeping
import ConsensusControl.Proofs.Ensemble.Preparation
import ConsensusControl.Proofs.Ensemble.Progress
import ConsensusControl.Proofs.Ensemble.Timeline

namespace ConsensusControl.Ensemble

variable {σ α : Type} [Scalar α] {e e₀ e₁ e' : Ensemble σ α} {t0 : α}

/-- The same is known of every controller, and the history is as it was. -/
structure Uniform (P : Controller α → Prop) (history : History α) (e : Ensemble σ α) : Prop where
  sorted : Table.Sorted e.controllers
  each : ∀ id c, e.controllers.lookup id = some c → P c
  history : e.history = history

variable {P Q : Controller α → Prop} {history : History α}

omit [Scalar α] in
theorem Uniform.inParallel {β : Type} {work : Controller α → Controller α × Checked β}
    {answers : List (AgentId × β)} (h : Uniform P history e)
    (hwork : ∀ c b, (work c).2 = .ok b → P c → Q (work c).1)
    (hx : Returns (Ensemble.inParallel work) e answers e') : Uniform Q history e' := by
  obtain ⟨hrest, hrel⟩ := rel_inParallel hx
  refine ⟨hrel.sorted h.sorted, hrel.all h.each ?_, (congrArg Ensemble.history hrest).trans h.history⟩
  intro _ c c' hworked hc
  obtain ⟨b, hb⟩ := hworked
  have hQ := hwork c b (congrArg Prod.snd hb) hc
  rwa [hb] at hQ

variable [Transport σ α]

omit [Scalar α] in
/-- An exchange changes agents, the transport and the round alone. -/
theorem rest_exchange {phase : ExchangePhase} {n : Nat} {u : Unit} (hs : Table.Sorted e.controllers)
    (h : Returns (exchange phase n) e u e') :
    e' = { e with transport := e'.transport, controllers := e'.controllers, round := e'.round } ∧
      Table.Rel (fun _ c c' => c' = { c with agent := c'.agent }) e.controllers e'.controllers := by
  have hconveyed : Conveyed fun e' : Ensemble σ α => Table.Sorted e'.controllers ∧
      e' = { e with transport := e'.transport, controllers := e'.controllers, round := e'.round } ∧
      Table.Rel (fun _ c c' => c' = { c with agent := c'.agent }) e.controllers e'.controllers := by
    constructor
    · intro e' id sender c kind record he hc
      obtain ⟨hsorted, hrest, hrel⟩ := he
      obtain ⟨_, heq⟩ := c.applyIncoming_frame sender kind record
      refine ⟨hsorted.insert _ _, by rw [hrest], hrel.insert hsorted hc fun b hb => ?_⟩
      rw [heq, hb]
    · intro e' env s he _
      exact ⟨he.1, by rw [he.2.1], he.2.2⟩
    · intro e' id key r s he _
      exact ⟨he.1, by rw [he.2.1], he.2.2⟩
    · intro e' round he
      exact ⟨he.1, by rw [he.2.1], he.2.2⟩
  exact ((hconveyed.keeps_exchange phase n).of_returns
    ⟨hs, rfl, rfl, fun _ c hc => ⟨c, hc, rfl⟩⟩ h).2

omit [Scalar α] in
theorem Uniform.exchange {phase : ExchangePhase} {n : Nat} {u : Unit} (h : Uniform P history e)
    (hP : ∀ (c : Controller α) (agent : Agent α), P c → P { c with agent })
    (hx : Returns (Ensemble.exchange phase n) e u e') : Uniform P history e' := by
  obtain ⟨hrest, hrel⟩ := rest_exchange h.sorted hx
  refine ⟨hrel.sorted h.sorted, hrel.all h.each fun _ c c' heq hc => ?_, ?_⟩
  · rw [heq]
    exact hP c _ hc
  · rw [hrest]
    exact h.history

open Controller (Counts Measures)

/-- Every controller counts the iteration and measures both residuals, which enter the history. -/
theorem Uniform.iterate {k n : Nat} {b : Bool} (h : Uniform (Counts k) history e)
    (hx : Returns (Ensemble.iterate n) e b e') :
    (∀ id c, e'.controllers.lookup id = some c → c.Measures (k + 1)) ∧
      e'.history = (e'.controllers.map (·.2)).foldl (report n) history ∧
      b = (e'.controllers.map (·.2)).all (·.isConverged) := by
  unfold Ensemble.iterate at hx
  obtain ⟨answers, e₁, hsolve, hx⟩ := returns_bind.mp hx
  obtain ⟨_, e₂, htolerate, hx⟩ := returns_bind.mp hx
  obtain ⟨_, e₃, hagents, hx⟩ := returns_bind.mp hx
  obtain ⟨_, e₄, hcouple, hx⟩ := returns_bind.mp hx
  obtain ⟨_, e₅, hcouplings, hx⟩ := returns_bind.mp hx
  obtain ⟨_, e₆, hascent, hx⟩ := returns_bind.mp hx
  obtain ⟨_, e₇, hmultipliers, hfinish⟩ := returns_bind.mp hx
  obtain ⟨rfl, -⟩ := returns_forM_escalate htolerate
  have hsolved : Uniform (Counts k) history e₃ :=
    (h.inParallel (fun c _ _ hc => hc.updateAgentStates) hsolve).exchange
      (fun _ _ hc => hc.of_same rfl rfl) hagents
  have hcoupled : Uniform (fun c => c.Counts k ∧ Residuals.Measured c.residuals.dual) history e₅ :=
    (hsolved.inParallel (fun c _ hok hc => hc.coupling hok) hcouple).exchange
      (fun _ _ hc => ⟨hc.1.of_same rfl rfl, hc.2⟩) hcouplings
  have hascended : Uniform (Measures k) history e₇ :=
    (hcoupled.inParallel (fun c _ hok hc => hc.1.ascent hc.2 hok) hascent).exchange
      (fun _ _ hc => ⟨hc.of_same rfl rfl, hc.primal, hc.dual⟩) hmultipliers
  obtain ⟨-, hrel, hanswer⟩ := returns_finish hfinish
  refine ⟨hrel.all hascended.each fun _ c c' heq hc => ?_, ?_, hanswer⟩
  · rw [heq]
    exact hc.finishIteration
  · rw [history_finish hfinish, hascended.history]

/-- The same ensemble, in which agents may have got other solvers, out of those that are `allowed`. -/
structure Resolved (allowed : LocalSolver α → Prop) (e e' : Ensemble σ α) : Prop where
  rest : e' = { e with controllers := e'.controllers }
  solvers : Table.Rel (fun _ c c' => ∃ solver, (solver = c.solver ∨ allowed solver) ∧
    c' = { c with solver }) e.controllers e'.controllers

variable {allowed : LocalSolver α → Prop}

omit [Scalar α] [Transport σ α] in
theorem resolved_refl (e : Ensemble σ α) : Resolved allowed e e :=
  ⟨rfl, rfl, fun _ c hc => ⟨c, hc, c.solver, .inl rfl, rfl⟩⟩

/-- Between two iterations of a solve on the horizon from `t0`, with how each of the iterations so far
has ended, and whether all have converged. There are no more of them than the options admit. Ahead of an
iteration any agent may be given another solver, out of those that are `allowed`. -/
inductive Rounds (allowed : LocalSolver α → Prop) (t0 : α) (e₀ : Ensemble σ α) :
    Bool → List (Ensemble σ α) → Ensemble σ α → Prop
  | start {e₁ e : Ensemble σ α} (hprepare : Returns (prepare t0) e₀ () e₁)
      (hsetup : Returns (exchange .setup 0) { e₁ with history := .empty } () e) :
      Rounds allowed t0 e₀ false [] e
  | iterate {ends : List (Ensemble σ α)} {e e₁ e' : Ensemble σ α} {b : Bool}
      (h : Rounds allowed t0 e₀ false ends e) (hlimit : ends.length < e₀.options.maxIterations)
      (hresolved : Resolved allowed e e₁) (hiterate : Returns (Ensemble.iterate (ends.length + 1)) e₁ b e') :
      Rounds allowed t0 e₀ b (ends ++ [e']) e'

variable {ends : List (Ensemble σ α)} {b : Bool}

/-- The iterations of a solve stop when all have converged, or at the limit. -/
theorem Rounds.iterateUpTo {limit k : Nat} (h : Rounds allowed t0 e₀ false ends e)
    (hlimit : ends.length + limit = e₀.options.maxIterations)
    (hx : Returns (Ensemble.iterateUpTo limit ends.length) e (k, b) e') :
    ∃ ends', Rounds allowed t0 e₀ b ends' e' ∧ ends'.length = k ∧
      (b = false → k = e₀.options.maxIterations) := by
  induction limit generalizing ends e with
  | zero =>
    obtain ⟨heq, rfl⟩ := returns_pure.mp hx
    obtain ⟨rfl, rfl⟩ := Prod.mk.inj heq
    exact ⟨ends, h, rfl, fun _ => hlimit⟩
  | succ limit ih =>
    unfold Ensemble.iterateUpTo at hx
    obtain ⟨all, e₁, hiterate, hx⟩ := returns_bind.mp hx
    have hnext := h.iterate (by omega) (resolved_refl e) hiterate
    have hlength : (ends ++ [e₁]).length = ends.length + 1 := by simp
    cases all with
    | true =>
      obtain ⟨heq, rfl⟩ := returns_pure.mp hx
      obtain ⟨rfl, rfl⟩ := Prod.mk.inj heq
      exact ⟨_, hnext, hlength, by simp⟩
    | false => exact ih hnext (by omega) (hlength ▸ hx)

/-- A solve is under way on this network, with these options. Controllers stay with their agents. -/
structure Solving (n : Network α) (o : Options α) (e : Ensemble σ α) : Prop extends Busy e where
  network : e.network = n
  options : e.options = o
  keyed : ∀ id c, e.controllers.lookup id = some c → c.id = id

variable {n : Network α} {o : Options α}

theorem routine_keyed : Routine fun e : Ensemble σ α =>
    ∀ id c, e.controllers.lookup id = some c → c.id = id :=
  routine_controllers fun _ _ _ hc hturns => (congrArg Controller.Site.id hturns.site).trans hc

theorem routine_solving : Routine (Solving (σ := σ) n o) where
  turns h hc ht :=
    ⟨routine_busy.turns h.toBusy hc ht, h.network, h.options, routine_keyed.turns h.keyed hc ht⟩
  turnAll work h hall :=
    ⟨routine_busy.turnAll work h.toBusy hall, h.network, h.options,
      routine_keyed.turnAll work h.keyed hall⟩
  send h hs := ⟨routine_busy.send h.toBusy hs, h.network, h.options, h.keyed⟩
  receive h hr := ⟨routine_busy.receive h.toBusy hr, h.network, h.options, h.keyed⟩
  note round history h := ⟨routine_busy.note round history h.toBusy, h.network, h.options, h.keyed⟩
  store h := ⟨routine_busy.store h.toBusy, h.network, h.options, h.keyed⟩

omit [Scalar α] [Transport σ α] in
theorem Solving.ids (h : Solving n o e) : Table.ids e.controllers = n.ids := by
  have hsorted : n.ids.Pairwise (· < ·) := h.network ▸ h.registered.sorted
  exact h.sorted.ids_eq hsorted fun id => h.network ▸ h.toBusy.ids id

theorem Handled.solving (h₀ : e₀.Handled) (hprepare : Returns (prepare t0) e₀ () e₁) :
    Solving e₀.network e₀.options e₁ := by
  have hordered := h₀.inOrder
  have hled := (led_prepare hordered.sorted t0).of_returns Led.refl hprepare
  have hbare := (returns_prepare_of_sorted hordered.registered hordered.sorted hprepare).1
  exact ⟨(hordered.prepared hprepare).toBusy, by simpa [bare] using congrArg Ensemble.network hbare,
    hled.options, fun id c hc => ((hled.supplied h₀.supplied).serves id c hc).keyed⟩

theorem Handled.solving_setup (h₀ : e₀.Handled) (hprepare : Returns (prepare t0) e₀ () e₁)
    (hsetup : Returns (exchange .setup 0) { e₁ with history := .empty } () e) :
    Solving e₀.network e₀.options e :=
  (routine_solving.conveyed.keeps_exchange _ _).of_returns
    (routine_solving.note e₁.round .empty (h₀.solving hprepare)) hsetup

omit [Scalar α] [Transport σ α] in
/-- It does not matter which solver an agent has. -/
theorem Solving.resolved (h : Solving n o e) (hr : Resolved allowed e e') : Solving n o e' := by
  obtain ⟨hrest, hrel⟩ := hr
  generalize e'.controllers = controllers at hrest hrel
  subst hrest
  refine ⟨⟨⟨h.registered, hrel.sorted h.sorted, h.reported, ?_, h.answered, ?_, ?_⟩, h.unchanged, ?_⟩,
    h.network, h.options, ?_⟩
  · exact hrel.ids ▸ h.known
  · exact hrel.ids ▸ h.complete
  · refine hrel.all h.tells fun _ c c' hsolver hc => ?_
    obtain ⟨_, -, rfl⟩ := hsolver
    exact hc
  · refine hrel.all h.laid fun _ c c' hsolver hc => ?_
    obtain ⟨_, -, rfl⟩ := hsolver
    exact hc
  · intro id c' hc'
    obtain ⟨c, hc, _, -, rfl⟩ := hrel.back hc'
    exact h.keyed id c hc

/-- The residuals of this kind, agent by agent. -/
def residuals (kind : Residuals α → Option α) (e : Ensemble σ α) : List α :=
  (e.controllers.map (·.2)).filterMap fun c => kind c.residuals

/-- How an iteration of a solve on this network ends: both residuals of every agent are measured. -/
structure Ended (n : Network α) (d : Ensemble σ α) : Prop where
  sorted : Table.Sorted d.controllers
  ids : Table.ids d.controllers = n.ids
  measured : ∀ id c, d.controllers.lookup id = some c →
    Residuals.Measured c.residuals.primal ∧ Residuals.Measured c.residuals.dual

omit [Scalar α] [Transport σ α] in
theorem mem_residuals {kind : Residuals α → Option α} (hs : Table.Sorted e.controllers) {r : α} :
    r ∈ e.residuals kind ↔
      ∃ id c, e.controllers.lookup id = some c ∧ kind c.residuals = some r := by
  unfold residuals
  rw [List.mem_filterMap]
  constructor
  · rintro ⟨c, hc, hr⟩
    obtain ⟨⟨id, _⟩, hmem, rfl⟩ := List.mem_map.mp hc
    exact ⟨id, _, Table.lookup_of_mem hs hmem, hr⟩
  · rintro ⟨id, c, hc, hr⟩
    exact ⟨c, List.mem_map_of_mem (f := (·.2)) (Table.mem_of_lookup hc), hr⟩

variable {kind : Residuals α → Option α}

omit [Transport σ α] in
theorem residuals_ne_nil (hs : Table.Sorted e.controllers) (hne : Table.ids e.controllers ≠ [])
    (hmeasured : ∀ id c, e.controllers.lookup id = some c → Residuals.Measured (kind c.residuals)) :
    e.residuals kind ≠ [] := by
  obtain ⟨id, hid⟩ := List.exists_mem_of_ne_nil _ hne
  obtain ⟨c, hc⟩ := Table.lookup_of_mem_ids hs hid
  obtain ⟨r, hr, -⟩ := hmeasured id c hc
  exact List.ne_nil_of_mem ((mem_residuals hs).mpr ⟨id, c, hc, hr⟩)

omit [Transport σ α] in
/-- The residuals of one more iteration make one more entry. -/
theorem raise_residuals (hne : e'.residuals kind ≠ []) :
    (e'.residuals kind).foldl (fun entries v => History.raise v ends.length entries)
        (ends.map fun d => Scalar.largest (d.residuals kind)) =
      (ends ++ [e']).map fun d => Scalar.largest (d.residuals kind) := by
  have hraised := History.foldl_raise hne (ends.map fun d => Scalar.largest (d.residuals kind))
  rw [List.length_map] at hraised
  rw [hraised, List.map_append]
  rfl

/-- Between two iterations, with the books that have been kept so far. -/
structure Kept (e₀ : Ensemble σ α) (b : Bool) (ends : List (Ensemble σ α)) (e : Ensemble σ α) : Prop
    extends Solving e₀.network e₀.options e where
  bounded : ends.length ≤ e₀.options.maxIterations
  counts : ∀ id c, e.controllers.lookup id = some c → c.Counts ends.length
  ended : ∀ d ∈ ends, Ended e₀.network d
  latest : ∀ d ∈ ends.getLast?, d = e
  primal : e.history.primal = ends.map fun d => Scalar.largest (d.residuals (·.primal))
  dual : e.history.dual = ends.map fun d => Scalar.largest (d.residuals (·.dual))
  answer : b = (e.controllers.map (·.2)).all (·.isConverged)

/-- A preparation opens new books. -/
theorem kept_setup (h₀ : e₀.Handled) (hids : e₀.network.ids ≠ [])
    (hprepare : Returns (prepare t0) e₀ () e₁)
    (hsetup : Returns (exchange .setup 0) { e₁ with history := .empty } () e) :
    Kept e₀ false [] e := by
  have hprimed := (h₀.inOrder.prepared hprepare).primed
  have hsolving := h₀.solving_setup hprepare hsetup
  have huniform : Uniform (Counts 0) History.empty { e₁ with history := .empty } :=
    ⟨(h₀.solving hprepare).sorted, fun id c hc =>
      ⟨(hprimed id c hc).first, by simp [(hprimed id c hc).ready]⟩, rfl⟩
  have hcounts := huniform.exchange (fun _ _ hc => hc.of_same rfl rfl) hsetup
  refine ⟨hsolving, Nat.zero_le _, hcounts.each, by simp, by simp, ?_, ?_, ?_⟩
  · rw [hcounts.history]
    rfl
  · rw [hcounts.history]
    rfl
  · obtain ⟨id, hid⟩ := List.exists_mem_of_ne_nil _ hids
    obtain ⟨c, hc⟩ := Table.lookup_of_mem_ids hsolving.sorted (hsolving.ids ▸ hid)
    symm
    rw [List.all_eq_false]
    refine ⟨c, List.mem_map_of_mem (f := (·.2)) (Table.mem_of_lookup hc), ?_⟩
    simp [(hcounts.each id c hc).not_converged]

theorem Kept.iterate (h : Kept e₀ false ends e) (hids : e₀.network.ids ≠ [])
    (hlimit : ends.length < e₀.options.maxIterations) (hresolved : Resolved allowed e e₁)
    (hiterate : Returns (Ensemble.iterate (ends.length + 1)) e₁ b e') :
    Kept e₀ b (ends ++ [e']) e' := by
  have hsolving := (routine_solving.phased.keeps_iterate _).of_returns
    (h.toSolving.resolved hresolved) hiterate
  have huniform : Uniform (Counts ends.length) e.history e₁ := by
    refine ⟨hresolved.solvers.sorted h.sorted,
      hresolved.solvers.all h.counts fun _ c c' hsolver hc => ?_, by rw [hresolved.rest]⟩
    obtain ⟨_, -, rfl⟩ := hsolver
    exact hc.of_same rfl rfl
  obtain ⟨hmeasures, hhistory, hanswer⟩ := huniform.iterate hiterate
  have hended : Ended e₀.network e' :=
    ⟨hsolving.sorted, hsolving.ids, fun id c hc => ⟨(hmeasures id c hc).primal, (hmeasures id c hc).dual⟩⟩
  have hne : Table.ids e'.controllers ≠ [] := hsolving.ids ▸ hids
  have hall : ∀ c ∈ e'.controllers.map (·.2), c.Measures (ends.length + 1) := by
    intro c hc
    obtain ⟨⟨id, _⟩, hmem, rfl⟩ := List.mem_map.mp hc
    exact hmeasures id _ (Table.lookup_of_mem hsolving.sorted hmem)
  obtain ⟨hprimal, hdual⟩ := entries_report (n := ends.length) hall e.history
  refine ⟨hsolving, by simpa using Nat.succ_le_of_lt hlimit, fun id c hc => by simpa using (hmeasures id c hc).toCounts,
    ?_, by simp, ?_, ?_, hanswer⟩
  · intro d hd
    rcases List.mem_append.mp hd with hd | hd
    · exact h.ended d hd
    · exact List.mem_singleton.mp hd ▸ hended
  · rw [hhistory, hprimal, h.primal]
    exact raise_residuals <| residuals_ne_nil hsolving.sorted hne fun id c hc =>
      (hmeasures id c hc).primal
  · rw [hhistory, hdual, h.dual]
    exact raise_residuals <| residuals_ne_nil hsolving.sorted hne fun id c hc =>
      (hmeasures id c hc).dual

theorem Rounds.kept (h₀ : e₀.Handled) (hids : e₀.network.ids ≠ []) (h : Rounds allowed t0 e₀ b ends e) :
    Kept e₀ b ends e := by
  induction h with
  | start hprepare hsetup => exact kept_setup h₀ hids hprepare hsetup
  | iterate _ hlimit hresolved hiterate ih => exact ih.iterate hids hlimit hresolved hiterate

end ConsensusControl.Ensemble
