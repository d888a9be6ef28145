import Mathlib.Order.Bounds.Defs
import ConsensusControl.Convergence.History
import ConsensusControl.Proofs.Consensus.Residuals

namespace ConsensusControl

/-- Every two numbers compare, and the larger one is their least upper bound. -/
structure Scalar.Exact (α : Type) [Scalar α] : Prop where
  le_refl : ∀ a : α, a ≤ a
  le_antisymm : ∀ a b : α, a ≤ b → b ≤ a → a = b
  max_le_iff : ∀ a b c : α, Scalar.max a b ≤ c ↔ a ≤ c ∧ b ≤ c

theorem exact_rat : Scalar.Exact Rat where
  le_refl := le_refl
  le_antisymm _ _ := le_antisymm
  max_le_iff a b c := by
    rw [scalar_max]
    exact max_le_iff

variable {α : Type} [Scalar α]

namespace Scalar

theorem Exact.numbers (h : Exact α) : Numbers fun _ : α => True where
  zero := trivial
  max _ _ := trivial
  max_le_iff _ := by
    rw [imp_iff_right trivial]
    exact h.max_le_iff _ _ _

/-- The largest of some numbers and zero. -/
def largest (rs : List α) : α := rs.foldl Scalar.max 0

theorem max_cases (a b : α) : Scalar.max a b = a ∨ Scalar.max a b = b := by
  unfold Scalar.max
  split
  · exact .inr rfl
  · split
    · exact .inl rfl
    · exact .inr rfl

theorem foldl_max_mem (x : α) (rs : List α) : rs.foldl Scalar.max x ∈ x :: rs := by
  induction rs generalizing x with
  | nil => exact List.mem_singleton_self x
  | cons r rs ih =>
    have hmem := ih (Scalar.max x r)
    rcases List.mem_cons.mp hmem with heq | hmem
    · rw [List.foldl_cons, heq]
      rcases max_cases x r with heq | heq
      · simp [heq]
      · simp [heq]
    · exact List.mem_cons_of_mem _ (List.mem_cons_of_mem _ hmem)

theorem Exact.foldl_max_le_iff (h : Exact α) (x : α) (rs : List α) (b : α) :
    rs.foldl Scalar.max x ≤ b ↔ x ≤ b ∧ ∀ r ∈ rs, r ≤ b := by
  induction rs generalizing x with
  | nil => simp
  | cons r rs ih => rw [List.foldl_cons, ih, h.max_le_iff, List.forall_mem_cons, and_assoc]

/-- Of numbers none of which is below zero, it is one itself. -/
theorem Exact.isGreatest_largest (h : Exact α) {rs : List α} (hne : rs ≠ [])
    (hnonneg : ∀ r ∈ rs, 0 ≤ r) : IsGreatest {r | r ∈ rs} (largest rs) := by
  obtain ⟨-, hupper⟩ := (h.foldl_max_le_iff 0 rs (largest rs)).mp (h.le_refl _)
  refine ⟨?_, hupper⟩
  rcases List.mem_cons.mp (foldl_max_mem 0 rs) with hzero | hmem
  · obtain ⟨r, hr⟩ := List.exists_mem_of_ne_nil rs hne
    have hle : r ≤ 0 := by
      have hle := hupper r hr
      rwa [largest, hzero] at hle
    have heq : largest rs = r := hzero.trans (h.le_antisymm 0 r (hnonneg r hr) hle)
    exact heq ▸ hr
  · exact hmem

end Scalar

namespace History

theorem raise_length (v : α) (xs : Vec α) : raise v xs.length xs = xs ++ [Scalar.max 0 v] := by
  induction xs with
  | nil => rfl
  | cons x xs ih => exact congrArg (x :: ·) ih

theorem raise_length_append (v x : α) (xs : Vec α) :
    raise v xs.length (xs ++ [x]) = xs ++ [Scalar.max x v] := by
  induction xs with
  | nil => rfl
  | cons y xs ih => exact congrArg (y :: ·) ih

theorem foldl_raise_append (rs : List α) (x : α) (xs : Vec α) :
    rs.foldl (fun entries v => raise v xs.length entries) (xs ++ [x]) =
      xs ++ [rs.foldl Scalar.max x] := by
  induction rs generalizing x with
  | nil => rfl
  | cons r rs ih => rw [List.foldl_cons, raise_length_append, ih, List.foldl_cons]

/-- The reports of one iteration make one more entry. -/
theorem foldl_raise {rs : List α} (hne : rs ≠ []) (xs : Vec α) :
    rs.foldl (fun entries v => raise v xs.length entries) xs = xs ++ [Scalar.largest rs] := by
  cases rs with
  | nil => exact absurd rfl hne
  | cons r rs =>
    rw [List.foldl_cons, raise_length, foldl_raise_append, Scalar.largest, List.foldl_cons]

end History

end ConsensusControl
