import ConsensusControl.Proofs.Ensemble.Execution

namespace ConsensusControl.Ensemble

variable {σ α : Type} [Scalar α]

/-- The ensemble with the results of its controllers. -/
def stored (e : Ensemble σ α) : Ensemble σ α :=
  { e with
    solutions := e.controllers.foldl (fun s (id, c) => Table.alter id c.solution s) e.solutions }

variable [Transport σ α]

/-- An invariant that every phase of a solve keeps. -/
structure Phased (I : Ensemble σ α → Prop) : Prop where
  solving : Keeps I (inParallel (·.updateAgentStates))
  escalating : ∀ n result, Keeps I (escalate n result)
  coupling : Keeps I (inParallel (·.coupling))
  ascending : Keeps I (inParallel (·.ascent))
  exchanging : ∀ phase n, Keeps I (exchange phase n)
  finishing : ∀ n, Keeps I (finish n)
  note : ∀ {e : Ensemble σ α} (history : History α), I e → I { e with history }
  store : ∀ {e : Ensemble σ α}, I e → I e.stored

namespace Phased

variable {I : Ensemble σ α → Prop}

theorem keeps_iterate (hI : Phased I) (n : Nat) : Keeps I (iterate n) := by
  unfold iterate
  refine triple_bind (Q := fun _ => I) hI.solving fun _ => ?_
  refine triple_bind (Q := fun _ => I) (triple_forM fun r _ => hI.escalating _ r) fun _ => ?_
  refine triple_bind (Q := fun _ => I) (hI.exchanging _ _) fun _ => ?_
  refine triple_bind (Q := fun _ => I) hI.coupling fun _ => ?_
  refine triple_bind (Q := fun _ => I) (hI.exchanging _ _) fun _ => ?_
  refine triple_bind (Q := fun _ => I) hI.ascending fun _ => ?_
  exact triple_bind (Q := fun _ => I) (hI.exchanging _ _) fun _ => hI.finishing _

theorem keeps_iterateUpTo (hI : Phased I) (limit n : Nat) : Keeps I (iterateUpTo limit n) := by
  induction limit generalizing n with
  | zero => exact triple_pure fun _ h => h
  | succ limit ih =>
    unfold iterateUpTo
    refine triple_bind (Q := fun _ => I) (hI.keeps_iterate _) fun converged => ?_
    cases converged with
    | false => exact ih _
    | true => exact triple_pure fun _ h => h

/-- What holds once a solve has been prepared holds at its end, and then the results are stored. -/
theorem triple_solve (hI : Phased I) {P E : Ensemble σ α → Prop} {t0 : α}
    (hprepare : Triple P (prepare t0) (fun _ => I) E) (hE : ∀ e, I e → E e) :
    Triple P (solve t0) (fun _ e => ∃ e₁, I e₁ ∧ e = e₁.stored) E := by
  unfold solve
  refine triple_bind hprepare fun _ => Triple.weaken ?_ (fun _ h => h) (fun _ _ h => h) hE
  refine triple_bind (Q := fun _ => I) (triple_modify fun e h => hI.note _ h) fun _ => ?_
  refine triple_bind (Q := fun _ => I) (hI.exchanging _ _) fun _ => triple_get_bind fun e h => ?_
  have hend : ∀ answer : Nat × Bool, Triple I (do
      storeSolutions
      return (⟨t0, answer.1, answer.2, (← get).history.summary⟩ : Summary α) : Run σ α _)
      (fun _ e => ∃ e₁, I e₁ ∧ e = e₁.stored) I := by
    intro answer
    refine triple_bind (Q := fun _ e => ∃ e₁, I e₁ ∧ e = e₁.stored) ?_ fun _ => ?_
    · exact triple_modify fun e h => ⟨e, h, rfl⟩
    · exact triple_get_bind fun e he => triple_pure fun _ h => h ▸ he
  dsimp only
  split
  · exact (triple_bind (Q := fun _ => I) (triple_pure fun _ h => h) hend).weaken
      (fun _ he => he ▸ h) (fun _ _ h => h) (fun _ h => h)
  · exact (triple_bind (Q := fun _ => I) (hI.keeps_iterateUpTo _ _) hend).weaken
      (fun _ he => he ▸ h) (fun _ _ h => h) (fun _ h => h)

/-- A solve keeps what its preparation and all its phases keep. -/
theorem keeps_solve (hI : Phased I) {P : Ensemble σ α → Prop} {t0 : α} (hP : ∀ e, I e → P e)
    (hprepare : Triple P (prepare t0) (fun _ => I) P) : Keeps P (solve t0) := by
  refine (hI.triple_solve hprepare hP).weaken (fun _ h => h) (fun _ e h => ?_) fun _ h => h
  obtain ⟨e₁, h₁, rfl⟩ := h
  exact hP _ (hI.store h₁)

end Phased

end ConsensusControl.Ensemble
