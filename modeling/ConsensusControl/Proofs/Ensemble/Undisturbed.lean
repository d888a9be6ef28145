import ConsensusControl.Proofs.Ensemble.Completeness

namespace ConsensusControl.Ensemble

variable {σ α β γ : Type}

/-- The operation, started from `e`, does not end with an error of the transport or of a receiver. -/
def Undisturbed (x : Run σ α β) (e : Ensemble σ α) : Prop :=
  ∀ place source, (exec x e).1 ≠ .error (.error (.communication place source))

/-- Undisturbed wherever it is started from. -/
def Quiet (x : Run σ α β) : Prop := ∀ e, Undisturbed x e

theorem Undisturbed.of_returns {x : Run σ α β} {e e' : Ensemble σ α} {b : β} (h : Returns x e b e') :
    Undisturbed x e := by
  intro place source hx
  rw [show exec x e = (.ok b, e') from h] at hx
  cases hx

theorem Undisturbed.bind {x : Run σ α β} {f : β → Run σ α γ} {e : Ensemble σ α}
    (hx : Undisturbed x e) (hf : ∀ b e₁, Returns x e b e₁ → Undisturbed (f b) e₁) :
    Undisturbed (x >>= f) e := by
  intro place source h
  rw [exec_bind] at h
  rcases hxe : exec x e with ⟨r, e₁⟩
  rw [hxe] at h
  cases r with
  | ok b => exact hf b e₁ hxe place source h
  | error s =>
    refine hx place source ?_
    obtain rfl := Except.error.inj h
    rw [hxe]

section Rules

theorem quiet_pure (b : β) : Quiet (pure b : Run σ α β) := fun _ =>
  .of_returns (returns_pure.mpr ⟨rfl, rfl⟩)

theorem quiet_modify (f : Ensemble σ α → Ensemble σ α) : Quiet (modify f : Run σ α PUnit) := fun _ =>
  .of_returns ((returns_modify (u := ⟨⟩)).mpr rfl)

theorem quiet_set (s : Ensemble σ α) : Quiet (set s : Run σ α PUnit) := fun _ =>
  .of_returns ((returns_set (u := ⟨⟩)).mpr rfl)

theorem quiet_throw {s : Stop} (h : ∀ place source, s ≠ .error (.communication place source)) :
    Quiet (throw s : Run σ α β) := by
  intro e place source hs
  exact h place source (Except.error.inj hs)

theorem quiet_bind {x : Run σ α β} {f : β → Run σ α γ} (hx : Quiet x) (hf : ∀ b, Quiet (f b)) :
    Quiet (x >>= f) := fun e => (hx e).bind fun b e₁ _ => hf b e₁

theorem quiet_get_bind {f : Ensemble σ α → Run σ α β} (hf : ∀ e, Quiet (f e)) : Quiet (get >>= f) :=
  quiet_bind (fun _ => .of_returns (returns_get.mpr ⟨rfl, rfl⟩)) hf

theorem quiet_promised (x : Checked β) : Quiet (promised x : Run σ α β) := by
  cases x with
  | ok b => exact quiet_pure b
  | error fault => exact quiet_throw (by simp)

theorem quiet_configured (id : AgentId) (x : Except ConfigError β) :
    Quiet (configured id x : Run σ α β) := by
  cases x with
  | ok b => exact quiet_pure b
  | error source => exact quiet_throw (by simp)

theorem quiet_putController (id : AgentId) (c : Controller α) :
    Quiet (putController id c : Run σ α Unit) := quiet_modify _

theorem quiet_forM {ι : Type} {f : ι → Run σ α PUnit} (hf : ∀ i, Quiet (f i)) (l : List ι) :
    Quiet (l.forM f) := by
  induction l with
  | nil => exact quiet_pure _
  | cons i l ih =>
    change Quiet (f i >>= fun _ => l.forM f)
    exact quiet_bind (hf i) fun _ => ih

theorem quiet_mapM {ι : Type} {f : ι → Run σ α β} (hf : ∀ i, Quiet (f i)) (l : List ι) :
    Quiet (l.mapM f) := by
  induction l with
  | nil =>
    rw [List.mapM_nil]
    exact quiet_pure _
  | cons i l ih =>
    rw [List.mapM_cons]
    exact quiet_bind (hf i) fun _ => quiet_bind ih fun _ => quiet_pure _

end Rules

section Between

variable [Scalar α]

theorem quiet_syncController (t0 : α) (id : AgentId) :
    Quiet (syncController t0 id : Run σ α Unit) := by
  unfold syncController
  refine quiet_get_bind fun e => ?_
  cases e.controllers.lookup id with
  | some c => exact quiet_bind (quiet_configured id _) fun _ => quiet_putController id _
  | none => exact quiet_bind (quiet_configured id _) fun _ => quiet_putController id _

theorem quiet_prepareController (t0 : α) (p : AgentId × Controller α) :
    Quiet (prepareController t0 p : Run σ α Unit) := by
  obtain ⟨id, c⟩ := p
  unfold prepareController
  dsimp only
  split
  · refine quiet_bind (quiet_putController id _) fun _ => ?_
    exact quiet_bind (quiet_configured id _) fun _ => quiet_putController id _
  · exact quiet_putController id _

theorem quiet_prepare (t0 : α) : Quiet (prepare t0 : Run σ α Unit) := by
  unfold prepare syncTopology
  refine quiet_bind (quiet_get_bind fun e => ?_) fun _ =>
    quiet_get_bind fun e => quiet_forM (quiet_prepareController t0) _
  split
  · exact quiet_get_bind fun e => quiet_bind (quiet_forM (quiet_syncController t0) _) fun _ =>
      quiet_modify _
  · exact quiet_pure _

omit [Scalar α] in
theorem quiet_inParallel (work : Controller α → Controller α × Checked β) :
    Quiet (inParallel work : Run σ α (List (AgentId × β))) := by
  rw [inParallel_eq]
  refine quiet_get_bind fun e => quiet_bind (quiet_mapM (fun r => ?_) _) fun _ =>
    quiet_bind (quiet_modify _) fun _ => quiet_pure _
  obtain ⟨id, c, answer⟩ := r
  cases answer with
  | ok b => exact quiet_pure _
  | error fault => exact quiet_throw (by simp)

theorem quiet_escalate (n : Nat) (result : AgentId × Except SolveError Unit) :
    Quiet (escalate n result : Run σ α Unit) := by
  unfold escalate
  split
  · exact quiet_pure _
  refine quiet_get_bind fun e => ?_
  split
  · split
    · refine quiet_bind (quiet_putController _ _) fun _ => quiet_bind (quiet_modify _) fun _ => ?_
      exact quiet_throw (by simp)
    · exact quiet_pure _
  · exact quiet_pure _

theorem quiet_finish (n : Nat) : Quiet (finish n : Run σ α Bool) := by
  unfold finish
  refine quiet_bind (quiet_modify _) fun _ => quiet_get_bind fun e => ?_
  exact quiet_bind (quiet_set _) fun _ => quiet_pure _

theorem quiet_advance (dt : α) (next : AgentId × Vec α) : Quiet (advance dt next : Run σ α Unit) := by
  unfold advance
  refine quiet_get_bind fun e => quiet_bind (quiet_configured _ _) fun _ =>
    quiet_bind (quiet_modify _) fun _ => quiet_get_bind fun e => ?_
  split
  · refine quiet_bind (quiet_putController _ _) fun _ => quiet_bind (quiet_promised _) fun _ => ?_
    exact quiet_bind (quiet_configured _ _) fun _ => quiet_putController _ _
  · exact quiet_pure _

end Between

section Solve

variable [Scalar α] [PromptTransport σ α] {t0 : α} {e₀ : Ensemble σ α}

theorem Operated.completes (h₀ : e₀.Operated) {phase : ExchangePhase} {n : Nat} {e : Ensemble σ α}
    (h : Exchanges t0 e₀ phase n e) : ∃ e₁ e₂ e' received, Completes phase n e e₁ e₂ e' received := by
  have hled := h.led h₀.orderly.sorted
  exact (h.poised h₀.orderly).completes (hled.supplied h₀.supplied)
    (hled.connected h₀.supplied h₀.connected) phase n

theorem Operated.undisturbed_exchange (h₀ : e₀.Operated) {phase : ExchangePhase} {n : Nat}
    {e : Ensemble σ α} (h : Exchanges t0 e₀ phase n e) : Undisturbed (exchange phase n) e := by
  obtain ⟨_, _, e', _, hcompletes⟩ := h₀.completes h
  exact .of_returns hcompletes.returns

theorem Operated.undisturbed_iterate (h₀ : e₀.Operated) {n : Nat} {e : Ensemble σ α}
    (h : LocalSolves t0 e₀ n e) : Undisturbed (iterate n) e := by
  unfold iterate
  refine (quiet_inParallel _ e).bind fun answers e₁ hsolve => ?_
  refine (quiet_forM (quiet_escalate _) _ e₁).bind fun _ e₂ htolerate => ?_
  have hagents := h.solve hsolve htolerate
  refine (h₀.undisturbed_exchange hagents).bind fun _ e₃ hexchange => ?_
  refine (quiet_inParallel _ e₃).bind fun _ e₄ hcouple => ?_
  have hcouplings := hagents.couple hexchange hcouple
  refine (h₀.undisturbed_exchange hcouplings).bind fun _ e₅ hexchange => ?_
  refine (quiet_inParallel _ e₅).bind fun _ e₆ hascend => ?_
  have hmultipliers := hcouplings.ascend hexchange hascend
  exact (h₀.undisturbed_exchange hmultipliers).bind fun _ e₇ _ => quiet_finish _ e₇

/-- Not converged, the iteration goes on. -/
theorem LocalSolves.iterate {n : Nat} {e e' : Ensemble σ α} (h : LocalSolves t0 e₀ n e)
    (hiterate : Returns (Ensemble.iterate n) e false e') : LocalSolves t0 e₀ (n + 1) e' := by
  unfold Ensemble.iterate at hiterate
  obtain ⟨answers, e₁, hsolve, hrest⟩ := returns_bind.mp hiterate
  obtain ⟨_, e₂, htolerate, hrest⟩ := returns_bind.mp hrest
  obtain ⟨_, e₃, hagents, hrest⟩ := returns_bind.mp hrest
  obtain ⟨_, e₄, hcouple, hrest⟩ := returns_bind.mp hrest
  obtain ⟨_, e₅, hcouplings, hrest⟩ := returns_bind.mp hrest
  obtain ⟨_, e₆, hascend, hrest⟩ := returns_bind.mp hrest
  obtain ⟨_, e₇, hmultipliers, hfinish⟩ := returns_bind.mp hrest
  have hcoupled := (h.solve hsolve htolerate).couple hagents hcouple
  exact .next (hcoupled.ascend hcouplings hascend) hmultipliers hfinish

theorem Operated.undisturbed_iterateUpTo (h₀ : e₀.Operated) {limit n : Nat} {e : Ensemble σ α}
    (h : LocalSolves t0 e₀ (n + 1) e) : Undisturbed (iterateUpTo limit n) e := by
  induction limit generalizing n e with
  | zero => exact quiet_pure _ e
  | succ limit ih =>
    unfold iterateUpTo
    refine (h₀.undisturbed_iterate h).bind fun converged e₁ hiterate => ?_
    cases converged with
    | false => exact ih (h.iterate hiterate)
    | true => exact quiet_pure _ e₁

theorem Operated.undisturbed_solve (h₀ : e₀.Operated) (t0 : α) : Undisturbed (Ensemble.solve t0) e₀ := by
  unfold Ensemble.solve
  refine (quiet_prepare t0 e₀).bind fun _ e₁ hprepare => ?_
  refine (quiet_modify _ e₁).bind fun _ e₂ hmodify => ?_
  obtain rfl := returns_modify.mp hmodify
  have hsetup : Exchanges t0 e₀ .setup 0 { e₁ with history := .empty } := .setup hprepare
  refine (h₀.undisturbed_exchange hsetup).bind fun _ e₃ hexchange => ?_
  refine Undisturbed.bind (.of_returns (returns_get.mpr ⟨rfl, rfl⟩)) fun seen e₄ hget => ?_
  obtain ⟨rfl, rfl⟩ := returns_get.mp hget
  have hstart : LocalSolves t0 e₀ 1 e₃ := .first hsetup hexchange
  have hend : ∀ answer : Nat × Bool, Quiet (do
      storeSolutions
      let e ← get
      return ⟨t0, answer.1, answer.2, e.history.summary⟩ : Run σ α (Summary α)) := fun _ =>
    quiet_bind (quiet_modify _) fun _ => quiet_get_bind fun _ => quiet_pure _
  dsimp only
  split
  · exact quiet_bind (quiet_pure _) hend e₃
  · exact (h₀.undisturbed_iterateUpTo hstart).bind fun answer e₄ _ => hend answer e₄

theorem Operated.undisturbed_closedLoopStep (h₀ : e₀.Operated) (t dt : α) :
    Undisturbed (Ensemble.closedLoopStep t dt) e₀ := by
  unfold Ensemble.closedLoopStep
  refine (h₀.undisturbed_solve t).bind fun _ e₁ _ => ?_
  refine quiet_get_bind (fun e => quiet_bind (quiet_promised _) fun _ => ?_) e₁
  refine quiet_bind (quiet_modify _) fun _ => quiet_get_bind fun e => ?_
  exact quiet_bind (quiet_forM (quiet_advance dt) _) fun _ => quiet_pure _

theorem Operated.undisturbed_closedLoop (h₀ : e₀.Operated) (dt : α) (steps : Nat) (t : α) :
    Undisturbed (Ensemble.closedLoop dt steps t) e₀ := by
  induction steps generalizing t e₀ with
  | zero => exact quiet_pure _ e₀
  | succ steps ih =>
    unfold Ensemble.closedLoop
    refine (h₀.undisturbed_closedLoopStep t dt).bind fun _ e₁ hstep => ?_
    have h₁ : e₁.Operated := hstep.exec_snd ▸ h₀.closedLoopStep t dt
    exact (ih h₁ (t + dt)).bind fun _ e₂ _ => quiet_pure _ e₂

theorem Operated.undisturbed_run (h₀ : e₀.Operated) (duration t0 : α) :
    Undisturbed (Ensemble.run duration t0) e₀ := by
  unfold Ensemble.run
  refine Undisturbed.bind (.of_returns (returns_get.mpr ⟨rfl, rfl⟩)) fun seen e₁ hget => ?_
  obtain ⟨rfl, rfl⟩ := returns_get.mp hget
  exact h₀.undisturbed_closedLoop _ _ t0

end Solve

/-- Whatever has been done to an ensemble before, and wherever it was given up: every exchange of a solve
sends exactly what is waited for, under a round of its own, and all of it comes in and is accepted, so
that neither a solve nor a simulation ends because of its communication. -/
theorem Operated.exchanges_complete [Scalar α] {e₀ : Ensemble (Direct α) α} (h : e₀.Operated) :
    (∀ t0 phase n e, Exchanges t0 e₀ phase n e →
      ∃ e₁ e₂ e' received, Completes phase n e e₁ e₂ e' received) ∧
    (∀ t0, Undisturbed (Ensemble.solve t0) e₀) ∧
    ∀ duration t0, Undisturbed (Ensemble.run duration t0) e₀ :=
  ⟨fun _ _ _ _ hexchanges => h.completes hexchanges, h.undisturbed_solve, h.undisturbed_run⟩

/-- About to exchange all records for the horizon from time zero. -/
def atSetup (e : Ensemble (Direct Rat) Rat) : Ensemble (Direct Rat) Rat :=
  { (exec (prepare 0) e).2 with history := .empty }

/-- A pair whose first solve has been given up after one record was sent. -/
def interruptedPair : Ensemble (Direct Rat) Rat :=
  let e := (atSetup (pair 1 (insist 1))).nextRound
  (exec (((envelopes .setup e).take 1).forM (send 0)) e).2

theorem exchanges_atSetup {e : Ensemble (Direct Rat) Rat} (h : (exec (prepare 0) e).1.isOk = true) :
    Exchanges 0 e .setup 0 (atSetup e) := by
  obtain ⟨_, hprepare⟩ := returns_of_isOk h
  exact .setup hprepare

theorem interruptedPair_operated : interruptedPair.Operated := by
  obtain ⟨_, hsend⟩ := returns_of_isOk
    (x := ((envelopes .setup (atSetup (pair 1 (insist 1))).nextRound).take 1).forM (send 0))
    (e := (atSetup (pair 1 (insist 1))).nextRound) (by decide +kernel)
  exact (pair_operated 1 (insist 1)).abandon (.sending (exchanges_atSetup (by decide +kernel))
    (List.take_append_drop 1 _).symm hsend)

/-- The record that was sent before the pair was interrupted still waits, and is left alone. -/
theorem interruptedPair_exchanges_complete :
    interruptedPair.Operated ∧ interruptedPair.transport.pending 1 = 1 ∧
      (awaited .setup (atSetup interruptedPair)).length = 14 ∧
      ∃ e₁ e₂ e' received, Completes .setup 0 (atSetup interruptedPair) e₁ e₂ e' received :=
  ⟨interruptedPair_operated, by decide +kernel, by decide +kernel,
    (Operated.exchanges_complete interruptedPair_operated).1 0 .setup 0 _
      (exchanges_atSetup (by decide +kernel))⟩

end ConsensusControl.Ensemble
