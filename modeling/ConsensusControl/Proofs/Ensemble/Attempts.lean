import ConsensusControl.Proofs.Ensemble.Operation
import ConsensusControl.Proofs.Ensemble.Preparation

namespace ConsensusControl

/-- Fails on every problem. -/
def LocalSolver.Refuses {α : Type} (solver : LocalSolver α) : Prop :=
  ∀ problem guess o, ∃ e, solver problem guess o = .ok (.error e)

namespace Controller

variable {α : Type} [Scalar α] {c : Controller α}

theorem failures_updateAgentStates {s : SolveError} (h : c.updateAgentStates.2 = .ok (.error s)) :
    c.updateAgentStates.1.consecutiveFailures = c.consecutiveFailures + 1 := by
  have hsame : (if c.status = .failed then c else { c with status := .iterating }).consecutiveFailures =
      c.consecutiveFailures := by
    split <;> rfl
  unfold updateAgentStates at h ⊢
  split at h
  · simp at h
  · dsimp only at h ⊢
    split at h
    · simp at h
    · dsimp only
      rw [hsame]
    · simp at h

theorem not_solved_of_refuses (h : c.solver.Refuses) : c.updateAgentStates.2 ≠ .ok (.ok ()) := by
  intro hsolved
  have hlayout : c.layout.isSome := by
    unfold updateAgentStates at hsolved
    split at hsolved
    · cases hsolved
    · next hlayout => simp [hlayout]
  obtain ⟨layout, hlayout⟩ := Option.isSome_iff_exists.mp hlayout
  rw [updateAgentStates_result hlayout] at hsolved
  rcases hattempt : c.attempt layout with fault | e | ⟨s, a⟩
  · simp [hattempt, Except.map] at hsolved
  · simp [hattempt, Except.map] at hsolved
  · obtain ⟨p, guess, -, -, hanswer, -⟩ := attempt_eq_ok hattempt
    obtain ⟨e, hrefused⟩ := h p.toProblem guess c.options
    rw [hrefused] at hanswer
    cases hanswer

theorem failures_coupling {u : Unit} (h : c.coupling.2 = .ok u) :
    c.coupling.1.consecutiveFailures = c.consecutiveFailures := by
  obtain ⟨_, _, _, _, -, -, heq⟩ := updateCouplingStates_eq_ok (coupling_eq_ok h)
  rw [heq]

theorem failures_ascent {u : Unit} (h : c.ascent.2 = .ok u) :
    c.ascent.1.consecutiveFailures = c.consecutiveFailures := by
  obtain ⟨raised, hraised, hadapted⟩ := ascent_eq_ok h
  obtain ⟨_, _, _, _, -, -, rfl⟩ := updateMultiplierStates_eq_ok hraised
  obtain heq | ⟨_, _, -, -, heq⟩ := adaptPenalties_eq_ok hadapted
  · rw [heq]
  · rw [heq]

theorem failures_finishIteration : c.finishIteration.consecutiveFailures = c.consecutiveFailures := by
  obtain ⟨_, -, heq⟩ := c.finishIteration_eq
  rw [heq]

end Controller

namespace Ensemble

variable {σ α : Type} [Scalar α] {t0 : α} {e₀ e e₁ e' : Ensemble σ α} {n : Nat} {id : AgentId}
  {answers : Table (Except SolveError Unit)} {log : List (Table (Except SolveError Unit))}

/-- Same network, same options, and every controller counts as many failures in a row. -/
structure SameFailures (e e' : Ensemble σ α) : Prop where
  network : e'.network = e.network
  options : e'.options = e.options
  failures : Table.Rel (fun _ c c' => c'.consecutiveFailures = c.consecutiveFailures) e.controllers
    e'.controllers

omit [Scalar α] in
theorem SameFailures.trans {e₂ : Ensemble σ α} (h : SameFailures e e₁) (h' : SameFailures e₁ e₂) :
    SameFailures e e₂ := by
  refine ⟨h'.network.trans h.network, h'.options.trans h.options,
    h'.failures.ids.trans h.failures.ids, fun id c hc => ?_⟩
  obtain ⟨c₁, hc₁, hsame⟩ := h.failures.related id c hc
  obtain ⟨c₂, hc₂, hsame'⟩ := h'.failures.related id c₁ hc₁
  exact ⟨c₂, hc₂, hsame'.trans hsame⟩

omit [Scalar α] in
theorem sameFailures_inParallel {β : Type} {work : Controller α → Controller α × Checked β}
    {answers : List (AgentId × β)} (h : Returns (inParallel work) e answers e')
    (hwork : ∀ c b, (work c).2 = .ok b → (work c).1.consecutiveFailures = c.consecutiveFailures) :
    SameFailures e e' := by
  obtain ⟨hrest, hrel⟩ := rel_inParallel h
  refine ⟨by rw [hrest], by rw [hrest], hrel.imp ?_⟩
  intro _ c c' h
  obtain ⟨b, hb⟩ := h
  have hsame := hwork c b (congrArg Prod.snd hb)
  rwa [hb] at hsame

theorem sameFailures_finish {b : Bool} (h : Returns (finish n) e b e') : SameFailures e e' := by
  obtain ⟨hrest, hrel, -⟩ := returns_finish h
  refine ⟨by rw [hrest], by rw [hrest], hrel.imp ?_⟩
  intro _ c _ heq
  obtain rfl := heq
  exact Controller.failures_finishIteration

variable [FaithfulTransport σ α]

theorem Poised.sameFailures_exchange {phase : ExchangePhase} {u : Unit} (h : e.Poised)
    (hx : Returns (Ensemble.exchange phase n) e u e') : SameFailures e e' := by
  obtain ⟨hrest, hrel⟩ := exchange_refreshed h.sorted h.toWorking.nodup h.bounded hx
  refine ⟨by rw [hrest], by rw [hrest], hrel.imp ?_⟩
  intro _ c c' h
  rw [h.rest]

/-- In an iteration every agent solves its local problem, or fails once more in a row. That is as often
as it may. -/
structure Iterated (answers : Table (Except SolveError Unit)) (e e' : Ensemble σ α) : Prop where
  network : e'.network = e.network
  options : e'.options = e.options
  failures : Table.Rel (fun id c c' => (id, .ok ()) ∈ answers ∨
    c'.consecutiveFailures = c.consecutiveFailures + 1 ∧
      c'.consecutiveFailures ≤ e.options.maxSolveFailures) e.controllers e'.controllers

theorem Poised.iterated {b : Bool} (h : e.Poised)
    (hsolve : Returns (Ensemble.inParallel (·.updateAgentStates)) e answers e₁)
    (hiterate : Returns (iterate n) e b e') : e'.Poised ∧ Iterated answers e e' := by
  unfold iterate at hiterate
  obtain ⟨answers', e₂, hsolve', hiterate⟩ := returns_bind.mp hiterate
  obtain ⟨_, e₃, htolerate, hiterate⟩ := returns_bind.mp hiterate
  obtain ⟨_, e₄, hagents, hiterate⟩ := returns_bind.mp hiterate
  obtain ⟨_, e₅, hcouple, hiterate⟩ := returns_bind.mp hiterate
  obtain ⟨_, e₆, hcouplings, hiterate⟩ := returns_bind.mp hiterate
  obtain ⟨_, e₇, hascent, hiterate⟩ := returns_bind.mp hiterate
  obtain ⟨_, e₈, hmultipliers, hfinish⟩ := returns_bind.mp hiterate
  -- Both times the same agents solve the same problems.
  obtain ⟨hanswers, rfl⟩ := (Prod.mk.injEq ..).mp (hsolve'.symm.trans hsolve)
  obtain rfl := Except.ok.inj hanswers
  have hsolved := h.solve hsolve htolerate
  have hcoupled := (hsolved.exchange hagents).inParallel
    (fun _ _ => Controller.advances_coupling) hcouple
  have hascended := (hcoupled.exchange hcouplings).inParallel
    (fun _ _ => Controller.advances_ascent) hascent
  have hrest : SameFailures e₃ e' :=
    (hsolved.sameFailures_exchange hagents).trans <|
    (sameFailures_inParallel hcouple fun _ _ => Controller.failures_coupling).trans <|
    (hcoupled.sameFailures_exchange hcouplings).trans <|
    (sameFailures_inParallel hascent fun _ _ => Controller.failures_ascent).trans <|
    (hascended.sameFailures_exchange hmultipliers).trans (sameFailures_finish hfinish)
  obtain ⟨rfl, hinnocent⟩ := returns_forM_escalate htolerate
  obtain ⟨hsame, hrel⟩ := rel_inParallel hsolve
  refine ⟨(hascended.exchange hmultipliers).finish hfinish, hrest.network.trans (by rw [hsame]),
    hrest.options.trans (by rw [hsame]), hrest.failures.ids.trans hrel.ids, fun id c hc => ?_⟩
  obtain ⟨c₁, hc₁, _, hwork⟩ := hrel.related id c hc
  obtain ⟨c', hc', hkept⟩ := hrest.failures.related id c₁ hc₁
  refine ⟨c', hc', ?_⟩
  obtain ⟨⟨k, answer⟩, hmem, hid, hanswer⟩ :=
    forall₂_mem_left (answers_inParallel hsolve) (Table.mem_of_lookup hc)
  obtain rfl : id = k := hid.symm
  cases answer with
  | ok u => exact .inl hmem
  | error s =>
    have hcount := Controller.failures_updateAgentStates hanswer
    have hbound : c₁.consecutiveFailures ≤ e₃.options.maxSolveFailures :=
      Nat.not_lt.mp fun hexceeded => hinnocent id c₁ ⟨⟨s, hmem⟩, hc₁, hexceeded⟩
    rw [hwork] at hcount
    rw [hsame] at hbound
    exact .inr ⟨hkept.trans hcount, hkept ▸ hbound⟩

/-- Between two iterations of a solve on the horizon from `t0`, with what all local solves have answered
so far, iteration by iteration, and whether all have converged. Ahead of an iteration any agent may be
given another solver, out of those that are `allowed`. -/
inductive Attempts (allowed : LocalSolver α → Prop) (t0 : α) (e₀ : Ensemble σ α) :
    Bool → List (Table (Except SolveError Unit)) → Ensemble σ α → Prop
  | start {e₁ e : Ensemble σ α} (hprepare : Returns (prepare t0) e₀ () e₁)
      (hsetup : Returns (exchange .setup 0) { e₁ with history := .empty } () e) :
      Attempts allowed t0 e₀ false [] e
  | resolve {log : List (Table (Except SolveError Unit))} {e : Ensemble σ α} {id : AgentId}
      {c : Controller α} {solver : LocalSolver α} (h : Attempts allowed t0 e₀ false log e)
      (hc : e.controllers.lookup id = some c) (hsolver : allowed solver) :
      Attempts allowed t0 e₀ false log
        { e with controllers := Table.insert id { c with solver } e.controllers }
  | iterate {log : List (Table (Except SolveError Unit))} {e e₁ e' : Ensemble σ α}
      {answers : Table (Except SolveError Unit)} {b : Bool} (h : Attempts allowed t0 e₀ false log e)
      (hsolve : Returns (inParallel (·.updateAgentStates)) e answers e₁)
      (hiterate : Returns (iterate (log.length + 1)) e b e') :
      Attempts allowed t0 e₀ b (log ++ [answers]) e'

/-- One of these local solves of the agent has succeeded. -/
def Solved (id : AgentId) (log : List (Table (Except SolveError Unit))) : Prop :=
  ∃ answers ∈ log, (id, .ok ()) ∈ answers

/-- The failures of an agent are counted, and there are never too many in a row. -/
structure Tally (limit : Nat) (id : AgentId) (log : List (Table (Except SolveError Unit)))
    (c : Controller α) : Prop where
  current : ∀ last, last <:+ log → ¬ Solved id last → last.length ≤ c.consecutiveFailures
  bounded : ∀ window, window <:+: log → ¬ Solved id window → window.length ≤ limit

omit [Scalar α] [FaithfulTransport σ α] in
theorem Tally.iterate {limit : Nat} {c c' : Controller α} (h : Tally limit id log c)
    (hstep : (id, .ok ()) ∈ answers ∨ c'.consecutiveFailures = c.consecutiveFailures + 1 ∧
      c'.consecutiveFailures ≤ limit) : Tally limit id (log ++ [answers]) c' := by
  have hlast : ∀ last, last <:+ log ++ [answers] → ¬ Solved id last →
      last.length ≤ c'.consecutiveFailures ∧ last.length ≤ limit := by
    intro last hsuffix hfruitless
    rcases List.suffix_concat_iff.mp hsuffix with rfl | ⟨earlier, rfl, hearlier⟩
    · exact ⟨Nat.zero_le _, Nat.zero_le _⟩
    · rcases hstep with hok | ⟨hcount, hle⟩
      · exact absurd ⟨answers, by simp, hok⟩ hfruitless
      · have hcurrent := h.current earlier hearlier fun hsolved =>
          hfruitless (hsolved.imp fun _ hmem => ⟨List.mem_append_left _ hmem.1, hmem.2⟩)
        rw [List.length_append, List.length_singleton]
        omega
  refine ⟨fun last hsuffix hf => (hlast last hsuffix hf).1, fun window hwindow hf => ?_⟩
  rcases List.infix_concat_iff.mp hwindow with hsuffix | hinfix
  · exact (hlast window hsuffix hf).2
  · exact h.bounded window hinfix hf

/-- Throughout a solve the network and the options stay, and the failures are counted. -/
structure Tallied (e₀ : Ensemble σ α) (log : List (Table (Except SolveError Unit)))
    (e : Ensemble σ α) : Prop extends Poised e where
  network : e.network = e₀.network
  options : e.options = e₀.options
  tally : ∀ id c, e.controllers.lookup id = some c →
    Tally e₀.options.maxSolveFailures id log c

variable {allowed : LocalSolver α → Prop} {b : Bool}

theorem Attempts.tallied (h₀ : e₀.Orderly) (h : Attempts allowed t0 e₀ b log e) :
    Tallied e₀ log e := by
  induction h with
  | @start e₁ e hprepare hsetup =>
    have hpoised := (Exchanges.setup hprepare).poised h₀
    obtain ⟨hbare, -⟩ := returns_prepare h₀ hprepare
    have hnetwork : e₁.network = e₀.network := by simpa [bare] using congrArg Ensemble.network hbare
    have hoptions : e₁.options = e₀.options := by simpa [bare] using congrArg Ensemble.options hbare
    have hsame := hpoised.sameFailures_exchange hsetup
    refine ⟨hpoised.exchange hsetup, hsame.network.trans hnetwork, hsame.options.trans hoptions,
      fun id c _ => ⟨fun last hlast _ => ?_, fun window hwindow _ => ?_⟩⟩
    · simp [List.suffix_nil.mp hlast]
    · simp [List.infix_nil.mp hwindow]
  | @resolve log e id c solver _ hc _ ih =>
    have hadvances := (Controller.Step.resolve solver c).advances
    refine ⟨⟨ih.toWorking.put hc hadvances (ih.begun id c hc), ih.unchanged⟩, ih.network, ih.options,
      fun k d hd => ?_⟩
    rcases Table.lookup_insert_cases hd with ⟨rfl, rfl⟩ | ⟨-, hold⟩
    · exact ⟨(ih.tally k c hc).current, (ih.tally k c hc).bounded⟩
    · exact ih.tally k d hold
  | iterate _ hsolve hiterate ih =>
    obtain ⟨hpoised, hiterated⟩ := ih.toPoised.iterated hsolve hiterate
    refine ⟨hpoised, hiterated.network.trans ih.network, hiterated.options.trans ih.options,
      fun id c' hc' => ?_⟩
    obtain ⟨c, hc, hstep⟩ := hiterated.failures.back hc'
    rw [ih.options] at hstep
    exact (ih.tally id c hc).iterate hstep

theorem Attempts.iterateUpTo {limit k : Nat} (h : Attempts allowed t0 e₀ false log e)
    (hx : Returns (Ensemble.iterateUpTo limit log.length) e (k, b) e') :
    ∃ log', Attempts allowed t0 e₀ b log' e' ∧ log'.length = k := by
  induction limit generalizing log e with
  | zero =>
    obtain ⟨heq, rfl⟩ := returns_pure.mp hx
    obtain ⟨rfl, rfl⟩ := Prod.mk.inj heq
    exact ⟨log, h, rfl⟩
  | succ limit ih =>
    unfold Ensemble.iterateUpTo at hx
    obtain ⟨all, e₁, hiterate, hx⟩ := returns_bind.mp hx
    obtain ⟨answers, e₂, hsolve⟩ : ∃ answers e₂,
        Returns (inParallel (·.updateAgentStates)) e answers e₂ := by
      unfold Ensemble.iterate at hiterate
      obtain ⟨answers, e₂, hsolve, -⟩ := returns_bind.mp hiterate
      exact ⟨answers, e₂, hsolve⟩
    have hnext := h.iterate hsolve hiterate
    have hlength : (log ++ [answers]).length = log.length + 1 := by simp
    cases all with
    | true =>
      obtain ⟨heq, rfl⟩ := returns_pure.mp hx
      obtain ⟨rfl, rfl⟩ := Prod.mk.inj heq
      exact ⟨_, hnext, hlength⟩
    | false => exact ih hnext (hlength ▸ hx)

theorem attempts_of_converged {s : Summary α} (h₀ : e₀.Orderly) (h : Returns (solve t0) e₀ s e')
    (hs : s.converged = true) (hids : e₀.network.ids ≠ []) :
    ∃ log e, Attempts (fun _ => False) t0 e₀ true log e ∧ log.length = s.iterations ∧
      e' = { e with solutions := e'.solutions } := by
  obtain ⟨e₁, e₂, e₃, hprepare, hsetup, hend, heq⟩ := returns_iterations h
  have hstart : Attempts (fun _ => False) t0 e₀ false [] e₂ := .start hprepare hsetup
  rcases hend with ⟨hempty, -⟩ | hloop
  · obtain ⟨id, hid⟩ := List.exists_mem_of_ne_nil _ hids
    have htallied := hstart.tallied h₀
    have hmem := htallied.complete htallied.unchanged id (htallied.network ▸ hid)
    simp [hempty, Table.ids] at hmem
  · obtain ⟨log, hattempts, hlength⟩ := hstart.iterateUpTo hloop
    exact ⟨log, e₃, hs ▸ hattempts, hlength, heq⟩

/-- Once all have converged, every agent has solved its local problem at least once, unless as many
failures in a row are tolerated as there were iterations. -/
theorem Orderly.solved_or_tolerated (h₀ : e₀.Orderly) (t0 : α) :
    (∀ allowed log e, Attempts allowed t0 e₀ true log e → 0 < log.length ∧
      ∀ id ∈ e₀.network.ids, Solved id log ∨ log.length ≤ e₀.options.maxSolveFailures) ∧
    ∀ s e', Returns (solve t0) e₀ s e' → s.converged = true → e₀.network.ids ≠ [] →
      ∃ log e, Attempts (fun _ => False) t0 e₀ true log e ∧ log.length = s.iterations ∧
        e' = { e with solutions := e'.solutions } := by
  refine ⟨fun allowed log e h => ?_, fun _ _ => attempts_of_converged h₀⟩
  have htallied := h.tallied h₀
  constructor
  · cases h with
    | iterate => simp
  · intro id hid
    obtain ⟨c, hc⟩ := Table.lookup_of_mem_ids htallied.sorted
      (htallied.complete htallied.unchanged id (htallied.network ▸ hid))
    have hbounded := (htallied.tally id c hc).bounded log (List.infix_refl log)
    by_cases hsolved : Solved id log
    · exact .inl hsolved
    · exact .inr (hbounded hsolved)

theorem strictPair_operated (solver : LocalSolver Rat) : (strictPair solver).Operated :=
  .applyAll _ (.new _ _ Direct.not_inTransit_empty)

/-- Both agents of a strict pair that has converged have been solved. -/
theorem strictPair_solved : (strictPair (insist 0)).Orderly ∧
    (strictPair (insist 0)).network.ids = [0, 1] ∧
    ∃ s e' log e, Returns (solve 0) (strictPair (insist 0)) s e' ∧ s.converged = true ∧
      Attempts (fun _ => False) 0 (strictPair (insist 0)) true log e ∧
      log.length = s.iterations ∧ Solved 0 log ∧ Solved 1 log := by
  have h₀ := (strictPair_operated (insist 0)).orderly
  have hids : (strictPair (insist 0)).network.ids = [0, 1] := by decide +kernel
  have hany : (exec (solve 0) (strictPair (insist 0))).1.toOption.any (·.converged) = true := by
    decide +kernel
  obtain ⟨s, h, hs⟩ := returns_of_any hany
  obtain ⟨log, e, hattempts, hlength, -⟩ :=
    (Orderly.solved_or_tolerated h₀ 0).2 s _ h hs (by simp [hids])
  obtain ⟨hpositive, hsolved⟩ := (Orderly.solved_or_tolerated h₀ 0).1 _ log e hattempts
  have hstrict : (strictPair (insist 0)).options.maxSolveFailures = 0 := by decide +kernel
  have heach : ∀ id ∈ [0, 1], Solved id log := by
    intro id hid
    rcases hsolved id (hids ▸ hid) with hsolved | hle
    · exact hsolved
    · omega
  exact ⟨h₀, hids, s, _, log, e, h, hs, hattempts, hlength, heach 0 (by simp), heach 1 (by simp)⟩

/-- What holds once a solve has been prepared holds between all of its iterations. -/
theorem Attempts.keeps {I : Ensemble σ α → Prop} (hI : Phased I)
    (hprepare : ∀ e₁, Returns (prepare t0) e₀ () e₁ → I e₁)
    (h : Attempts (fun _ => False) t0 e₀ b log e) : I e := by
  induction h with
  | @start e₁ e hprepared hsetup =>
    exact (hI.exchanging _ _).of_returns (hI.note .empty (hprepare e₁ hprepared)) hsetup
  | resolve _ _ hsolver => exact hsolver.elim
  | iterate _ _ hiterate ih => exact (hI.keeps_iterate _).of_returns ih hiterate

/-- Where the solver always fails, nobody has solved anything. -/
theorem Attempts.unsolved (h₀ : e₀.Operated) (hsolver : e₀.solver.Refuses)
    (h : Attempts (fun _ => False) t0 e₀ b log e) : ¬ Solved id log := by
  have hroutine : Routine fun e : Ensemble σ α =>
      ∀ id c, e.controllers.lookup id = some c → c.solver.Refuses := by
    apply routine_controllers
    intro id c c' hc hturns
    have hsame : c'.solver = c.solver := by
      induction hturns with
      | refl => rfl
      | turn _ hturn ih => exact hturn.solver.trans ih
    rwa [hsame]
  have hprepared : ∀ e₁, Returns (Ensemble.prepare t0) e₀ () e₁ →
      ∀ id c, e₁.controllers.lookup id = some c → c.solver.Refuses := by
    intro e₁ hprepare id c hc
    have hbare := (returns_prepare h₀.orderly hprepare).1
    have hsame : e₁.solver = e₀.solver := by simpa [bare] using congrArg Ensemble.solver hbare
    rw [((h₀.prepare hprepare).2.serves id c hc).solver, hsame]
    exact hsolver
  induction h with
  | start => simp [Solved]
  | resolve _ _ hswap => exact hswap.elim
  | @iterate log e _ _ answers _ h hsolve _ ih =>
    rintro ⟨last, hlast, hmem⟩
    rcases List.mem_append.mp hlast with hlast | hlast
    · exact ih ⟨last, hlast, hmem⟩
    · obtain rfl := List.mem_singleton.mp hlast
      obtain ⟨⟨k, c⟩, hc, -, hsolved⟩ := forall₂_mem_right (answers_inParallel hsolve) hmem
      have hlookup := Table.lookup_of_mem (h.tallied h₀.orderly).sorted hc
      exact Controller.not_solved_of_refuses (h.keeps hroutine.phased hprepared k c hlookup) hsolved

/-- A pair that has converged at once although nothing has been solved. -/
theorem pair_converges_unsolved : (pair 1 refuse).Orderly ∧
    (pair 1 refuse).options.validate = .ok () ∧ (pair 1 refuse).network.ids = [0, 1] ∧
    ∃ s e' log e, Returns (solve 0) (pair 1 refuse) s e' ∧ s.converged = true ∧
      Attempts (fun _ => False) 0 (pair 1 refuse) true log e ∧ log.length = s.iterations ∧
      e' = { e with solutions := e'.solutions } ∧ ¬ Solved 0 log ∧ ¬ Solved 1 log ∧
      (e'.solutions.lookup 0).map (·.outcome) = some .converged := by
  have h₀ : (pair 1 refuse).Operated := pair_operated 1 refuse
  have hrefuses : (pair 1 refuse).solver.Refuses := fun _ _ _ => ⟨_, rfl⟩
  have hids : (pair 1 refuse).network.ids = [0, 1] := by decide +kernel
  have hany : (exec (solve 0) (pair 1 refuse)).1.toOption.any (·.converged) = true := by
    decide +kernel
  obtain ⟨s, h, hs⟩ := returns_of_any hany
  obtain ⟨log, e, hattempts, hlength, heq⟩ :=
    attempts_of_converged h₀.orderly h hs (by simp [hids])
  exact ⟨h₀.orderly, by decide +kernel, hids, s, _, log, e, h, hs, hattempts, hlength, heq,
    hattempts.unsolved h₀ hrefuses, hattempts.unsolved h₀ hrefuses, by decide +kernel⟩

end Ensemble

end ConsensusControl
