import Mathlib.Data.List.DropRight

namespace ConsensusControl

variable {β : Type} {xs : List β} {n : Nat}

theorem length_rtake (xs : List β) (n : Nat) : (xs.rtake n).length = min n xs.length := by
  rw [List.rtake, List.length_drop]
  omega

theorem rtake_of_length_le (h : xs.length ≤ n) : xs.rtake n = xs := by
  rw [List.rtake, Nat.sub_eq_zero_of_le h, List.drop_zero]

/-- Of one entry more than there is room for, the oldest is given up. -/
theorem tail_rtake_succ (h : n < xs.length) : (xs.rtake (n + 1)).tail = xs.rtake n := by
  have hsucc : xs.length - n = xs.length - (n + 1) + 1 := by omega
  rw [List.rtake, List.rtake, hsucc, List.tail_drop]

theorem rtake_rtake (xs : List β) (m n : Nat) : (xs.rtake m).rtake n = xs.rtake (min m n) := by
  simp only [List.rtake_eq_reverse_take_reverse, List.reverse_reverse, List.take_take, min_comm]

end ConsensusControl
