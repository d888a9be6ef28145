import ConsensusControl.Proofs.Ensemble.ClosedLoop
import ConsensusControl.Proofs.Solver.Gradient

namespace ConsensusControl.Ensemble

section Trajectories

variable {σ : Type} {e e₁ e' : Ensemble σ Rat} {t dt : Rat} {applied : Table (Sample Rat)}
  {path : List (Table (Sample Rat))}

/-- The samples start in the states that the network has. -/
def Resumes (e : Ensemble σ Rat) (applied : Table (Sample Rat)) : Prop :=
  ∀ id s, applied.lookup id = some s →
    ∃ entry, e.network.entry? id = some entry ∧ s.x = entry.xInit

/-- The samples that have been applied at `t`, `t + dt` and so on have been recorded for every agent of
the network, and they are a trajectory of the plant. It ends where the network has the agents now. -/
structure Simulated (t dt : Rat) (e : Ensemble σ Rat) (path : List (Table (Sample Rat)))
    (e' : Ensemble σ Rat) : Prop where
  recorded : ∀ id ∈ e.network.ids, ∃ samples,
    List.Forall₂ (fun applied s => applied.lookup id = some s) path samples ∧
      Continued (Trajectory.uniformGrid t dt path.length) samples (e.appliedTo id) (e'.appliedTo id)
  sized : ∀ applied ∈ path, ∀ id s m, applied.lookup id = some s → e.network.model? id = some m →
    s.x.length = m.nx ∧ s.u.length = m.nu
  steps : ∀ (k : Nat) applied next, path[k]? = some applied → path[k + 1]? = some next →
    ∀ id ∈ e.network.ids, ∃ s, next.lookup id = some s ∧ e.network.Euler (t + k * dt) dt applied id s.x
  last : ∀ (k : Nat) applied, path[k]? = some applied → k + 1 = path.length →
    ∀ id ∈ e.network.ids, ∃ entry, e'.network.entry? id = some entry ∧
      e.network.Euler (t + k * dt) dt applied id entry.xInit

/-- A step in front of a simulation. -/
theorem Simulated.cons (h : Simulated (t + dt) dt e₁ path e') (hstep : Stepped t dt e applied e₁)
    (hresumes : ∀ next ∈ path.head?, e₁.Resumes next) (hend : path = [] → e' = e₁) :
    Simulated t dt e (applied :: path) e' where
  recorded id hid := by
    obtain ⟨s, hs, hfirst⟩ := hstep.recorded id hid
    obtain ⟨samples, hsamples, hrest⟩ := h.recorded id (hstep.plant.mem_ids.mpr hid)
    refine ⟨s :: samples, .cons hs hsamples, ?_⟩
    rw [List.length_cons, Trajectory.uniformGrid_succ]
    exact hfirst.trans hrest
  sized := by
    intro table htable id s m hs hm
    rcases List.mem_cons.mp htable with rfl | htable
    · exact hstep.sized id s m hs hm
    · exact h.sized table htable id s m hs ((hstep.plant.models id).trans hm)
  steps k table next htable hnext id hid := by
    cases k with
    | zero =>
      obtain rfl : applied = table := by simpa using htable
      have hhead : next ∈ path.head? := by simpa [List.head?_eq_getElem?] using hnext
      obtain ⟨entry, hentry, heuler⟩ := hstep.moved id hid
      obtain ⟨samples, hsamples, -⟩ := h.recorded id (hstep.plant.mem_ids.mpr hid)
      obtain ⟨rest, rfl⟩ := List.head?_eq_some_iff.mp hhead
      obtain ⟨s, -, hs⟩ := forall₂_mem_left hsamples List.mem_cons_self
      obtain ⟨entry', hentry', hx⟩ := hresumes next hhead id s hs
      obtain rfl : entry = entry' := Option.some.inj (hentry.symm.trans hentry')
      refine ⟨s, hs, ?_⟩
      rw [hx, Nat.cast_zero, zero_mul, add_zero]
      exact heuler
    | succ k =>
      obtain ⟨s, hs, heuler⟩ := h.steps k table next (by simpa using htable) (by simpa using hnext) id
        (hstep.plant.mem_ids.mpr hid)
      have htime : t + (k + 1 : Nat) * dt = t + dt + k * dt := by push_cast; ring
      rw [htime]
      exact ⟨s, hs, hstep.plant.euler heuler⟩
  last k table htable hk id hid := by
    cases k with
    | zero =>
      obtain rfl : applied = table := by simpa using htable
      have hnil : path = [] := List.eq_nil_of_length_eq_zero (by simpa using hk.symm)
      obtain ⟨entry, hentry, heuler⟩ := hstep.moved id hid
      rw [hend hnil, Nat.cast_zero, zero_mul, add_zero]
      exact ⟨entry, hentry, heuler⟩
    | succ k =>
      obtain ⟨entry, hentry, heuler⟩ := h.last k table (by simpa using htable) (by simpa using hk) id
        (hstep.plant.mem_ids.mpr hid)
      have htime : t + (k + 1 : Nat) * dt = t + dt + k * dt := by push_cast; ring
      rw [htime]
      exact ⟨entry, hentry, hstep.plant.euler heuler⟩

end Trajectories

variable {σ : Type} [FaithfulTransport σ Rat] {e e' : Ensemble σ Rat} {t dt : Rat}

end ConsensusControl.Ensemble
