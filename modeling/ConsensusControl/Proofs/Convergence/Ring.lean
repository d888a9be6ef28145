import Mathlib.Data.List.Rotate
import ConsensusControl.Convergence.Ring
import ConsensusControl.Proofs.Latest

namespace ConsensusControl

namespace Scalar

variable {α : Type} [Scalar α]

def mean (xs : List α) : α := sum xs / (xs.length : α)

/-- Arithmetic mean, zero for no numbers. -/
def average (xs : List α) : α := if xs.length = 0 then 0 else mean xs

/-- Mean of the newer half less the mean of the older one, zero for fewer than two numbers. The one in the
middle of an odd number counts for neither. -/
def trend (xs : List α) : α :=
  if xs.length < 2 then 0 else mean (xs.rtake (xs.length / 2)) - mean (xs.take (xs.length / 2))

end Scalar

namespace Ring

variable {β : Type} {capacity : Nat} {r : Ring β capacity} {pushed : List β}

/-- A ring after some pushes, the first one in front. -/
def ofPushes [Zero β] (pushed : List β) : Ring β capacity := pushed.foldl (fun r value => r.push value) empty

theorem ofPushes_concat [Zero β] (pushed : List β) (value : β) :
    (ofPushes (pushed ++ [value]) : Ring β capacity) = (ofPushes pushed).push value := by
  rw [ofPushes, List.foldl_append]
  rfl

theorem values_eq (r : Ring β capacity) :
    r.values = (if r.count < capacity then [] else r.cells.toList.drop r.next) ++ r.cells.toList.take r.next := by
  rw [values]
  split
  · rw [List.drop_length]
  · rw [List.drop_zero]

theorem toList_cells_push (r : Ring β capacity) (value : β) :
    (r.push value).cells.toList = r.cells.toList.set r.next value := Vector.toList_setIfInBounds

/-- The ring stands for the latest of the pushed values. -/
structure Holds (r : Ring β capacity) (pushed : List β) : Prop where
  next : r.next = pushed.length % capacity
  count : r.count = min capacity pushed.length
  values : r.values = pushed.rtake capacity

theorem holds_empty [Zero β] : (empty : Ring β capacity).Holds [] where
  next := (Nat.zero_mod capacity).symm
  count := (Nat.min_zero capacity).symm
  values := by
    rw [List.rtake_nil, values_eq]
    split
    · rfl
    · next hfull =>
      obtain rfl : capacity = 0 := Nat.eq_zero_of_not_pos hfull
      rfl

section Push

variable (h : r.Holds pushed) (hcapacity : 0 < capacity)
include h

theorem Holds.count_le : r.count ≤ capacity := h.count ▸ Nat.min_le_left _ _

/-- As long as there are free cells, the next value goes to the first of them. -/
theorem Holds.next_of_free (hfree : r.count < capacity) : r.next = r.count := by
  have hcount := h.count
  have hless : pushed.length < capacity := by omega
  rw [h.next, Nat.mod_eq_of_lt hless]
  omega

include hcapacity

theorem Holds.next_lt : r.next < capacity := h.next ▸ Nat.mod_lt _ hcapacity

/-- The cell that the next value goes to stands between the others. -/
theorem Holds.split : ∃ front x back, r.cells.toList = front ++ x :: back ∧ r.next = front.length ∧
    front.length + (back.length + 1) = capacity := by
  have hnext : r.next < r.cells.toList.length := by
    rw [Vector.length_toList]
    exact h.next_lt hcapacity
  have hcells : r.cells.toList =
      r.cells.toList.take r.next ++ r.cells.toList[r.next] :: r.cells.toList.drop (r.next + 1) := by
    rw [List.getElem_cons_drop, List.take_append_drop]
  have hfront : (r.cells.toList.take r.next).length = r.next := List.length_take_of_le (Nat.le_of_lt hnext)
  refine ⟨_, _, _, hcells, hfront.symm, ?_⟩
  rw [← List.length_cons (a := r.cells.toList[r.next]), ← List.length_append, ← hcells, Vector.length_toList]

/-- The value takes a free cell, or else the place of the oldest one. The ring goes on behind it, or at its first
cell again. -/
theorem Holds.values_push (value : β) :
    (r.push value).values = (if r.count < capacity then r.values else r.values.tail) ++ [value] := by
  obtain ⟨front, x, back, hcells, hnext, hsize⟩ := h.split hcapacity
  have hpush : (r.push value).cells.toList = front ++ value :: back := by
    rw [toList_cells_push, hcells, hnext, List.set_append_right _ _ (Nat.le_refl _), Nat.sub_self,
      List.set_cons_zero]
  have hgoes : (r.push value).next = (front.length + 1) % capacity := by rw [Ring.push, hnext]
  have hfree : r.count < capacity → r.count = front.length := fun hlt => (h.next_of_free hlt).symm.trans hnext
  have hle := h.count_le
  have hgrows : (r.push value).count = if r.count < capacity then r.count + 1 else r.count := rfl
  rw [values_eq, values_eq, hpush, hgoes, hgrows, hcells, hnext, List.drop_left, List.take_left]
  cases back with
  | nil =>
    have hturn : front.length + 1 = capacity := hsize
    rw [hturn, Nat.mod_self, List.drop_zero, List.take_zero, List.append_nil]
    by_cases hlt : r.count < capacity
    · rw [if_pos hlt, if_pos hlt, if_pos hlt, hfree hlt, if_neg (Nat.not_lt.mpr hturn.ge), List.nil_append]
    · rw [if_neg hlt, if_neg hlt, if_neg hlt, if_neg hlt]
      rfl
  | cons second back =>
    have hinside : front.length + 1 < capacity := by
      rw [List.length_cons] at hsize
      omega
    have hbehind : front ++ value :: second :: back = (front ++ [value]) ++ (second :: back) := by simp
    have hlength : (front ++ [value]).length = front.length + 1 := by simp
    rw [Nat.mod_eq_of_lt hinside, hbehind, ← hlength, List.drop_left, List.take_left]
    by_cases hlt : r.count < capacity
    · rw [if_pos hlt, if_pos hlt, if_pos hlt, hfree hlt, if_pos hinside, List.nil_append, List.nil_append]
    · rw [if_neg hlt, if_neg hlt, if_neg hlt, if_neg hlt]
      exact (List.append_assoc (second :: back) front [value]).symm

/-- One push more. -/
theorem Holds.push (value : β) : (r.push value).Holds (pushed ++ [value]) := by
  have hlength : (pushed ++ [value]).length = pushed.length + 1 := by simp
  have hcount := h.count
  have hgrows : (r.push value).count = if r.count < capacity then r.count + 1 else r.count := rfl
  refine ⟨?_, ?_, ?_⟩
  · rw [hlength, Ring.push, h.next, Nat.mod_add_mod]
  · rw [hlength, hgrows]
    split <;> omega
  · obtain ⟨n, rfl⟩ := Nat.exists_eq_add_of_le' hcapacity
    rw [List.rtake_concat_succ, h.values_push hcapacity, h.values]
    split
    · rw [rtake_of_length_le (by omega), rtake_of_length_le (by omega)]
    · rw [tail_rtake_succ (by omega)]

end Push

theorem holds_ofPushes [Zero β] (hcapacity : 0 < capacity) (pushed : List β) :
    (ofPushes pushed : Ring β capacity).Holds pushed := by
  induction pushed using List.reverseRecOn with
  | nil => exact holds_empty
  | append_singleton pushed value ih =>
    rw [ofPushes_concat]
    exact ih.push hcapacity value

/-- The newest value is in the cell before the one that goes next, the last cell before the first. -/
theorem Holds.latest_push (h : r.Holds pushed) (hcapacity : 0 < capacity) (value : β) :
    (r.push value).latest = some value := by
  have hnext := h.next_lt hcapacity
  have hback : ((r.next + 1) % capacity + capacity - 1) % capacity = r.next := by
    by_cases hlast : r.next + 1 = capacity
    · rw [hlast, Nat.mod_self, Nat.mod_eq_of_lt (by omega)]
      omega
    · have hinside : r.next + 1 < capacity := by omega
      have hbehind : r.next + 1 + capacity - 1 = r.next + capacity := by omega
      rw [Nat.mod_eq_of_lt hinside, hbehind, Nat.add_mod_right, Nat.mod_eq_of_lt hnext]
  have hcount : 0 < (r.push value).count := by
    have hpositive : 0 < min capacity (pushed.length + 1) := by omega
    rw [(h.push hcapacity value).count, List.length_append]
    exact hpositive
  rw [latest, if_pos hcount, ← Vector.getElem?_toList, toList_cells_push]
  dsimp only [Ring.push]
  rw [hback, List.getElem?_set_self (by simpa using hnext)]

theorem latest_ofPushes [Zero β] (hcapacity : 0 < capacity) (pushed : List β) :
    (ofPushes pushed : Ring β capacity).latest = pushed.getLast? := by
  induction pushed using List.reverseRecOn with
  | nil => rfl
  | append_singleton pushed value _ =>
    rw [ofPushes_concat, (holds_ofPushes hcapacity pushed).latest_push hcapacity, List.getLast?_concat]

/-- The cells behind those that have been written are as they were at the start. -/
theorem blank_ofPushes [Zero β] (hcapacity : 0 < capacity) (pushed : List β) :
    let r : Ring β capacity := ofPushes pushed
    r.cells.toList.drop r.count = List.replicate (capacity - r.count) 0 := by
  induction pushed using List.reverseRecOn with
  | nil => exact Vector.toList_replicate
  | append_singleton pushed value ih =>
    have h : (ofPushes pushed : Ring β capacity).Holds pushed := holds_ofPushes hcapacity pushed
    have hle := h.count_le
    rw [ofPushes_concat]
    generalize (ofPushes pushed : Ring β capacity) = r at ih h hle ⊢
    have hgrows : (r.push value).count = if r.count < capacity then r.count + 1 else r.count := rfl
    dsimp only at ih ⊢
    rw [hgrows, toList_cells_push]
    split
    · next hfree =>
      rw [h.next_of_free hfree, List.drop_set_of_lt (Nat.lt_succ_self _), ← List.tail_drop, ih,
        List.tail_replicate, Nat.sub_sub]
    · next hfull =>
      have hlast : r.count = capacity := Nat.le_antisymm hle (Nat.not_lt.mp hfull)
      rw [hlast, Nat.sub_self, List.drop_of_length_le (by simp)]
      rfl

/-- The cells that have been written hold the values, from the one that goes next around to the one before it. -/
theorem Holds.rotate_take (h : r.Holds pushed) (hcapacity : 0 < capacity) :
    (r.cells.toList.take r.count).rotate r.next = pushed.rtake capacity := by
  have hlength : (r.cells.toList.take r.count).length = r.count :=
    List.length_take_of_le (by rw [Vector.length_toList]; exact h.count_le)
  rw [← h.values, values_eq]
  split
  · next hfree =>
    have hturn := List.rotate_length (r.cells.toList.take r.count)
    rw [hlength] at hturn
    rw [h.next_of_free hfree, List.nil_append, hturn]
  · next hfull =>
    have hlast : r.count = capacity := Nat.le_antisymm h.count_le (Nat.not_lt.mp hfull)
    have hwhole : r.cells.toList.take r.count = r.cells.toList := List.take_of_length_le (by simp [hlast])
    have hnext : r.next ≤ r.cells.toList.length := by
      rw [Vector.length_toList]
      exact Nat.le_of_lt (h.next_lt hcapacity)
    rw [hwhole, List.rotate_eq_drop_append_take hnext]

theorem Holds.count_eq (h : r.Holds pushed) : r.count = (pushed.rtake capacity).length :=
  h.count.trans (length_rtake pushed capacity).symm

section Statistics

variable {α : Type} [Scalar α] {r : Ring α capacity} {pushed : List α}

theorem Holds.average (h : r.Holds pushed) : r.average = Scalar.average (pushed.rtake capacity) := by
  rw [Ring.average, Scalar.average, Scalar.mean, h.count_eq, h.values]

theorem Holds.trend (h : r.Holds pushed) : r.trend = Scalar.trend (pushed.rtake capacity) := by
  have hcount := h.count_eq
  have hvalues := h.values
  generalize pushed.rtake capacity = kept at hcount hvalues ⊢
  have hfirst : (kept.take (kept.length / 2)).length = kept.length / 2 := by
    rw [List.length_take]
    omega
  have hlast : (kept.rtake (kept.length / 2)).length = kept.length / 2 := by
    rw [length_rtake]
    omega
  rw [Ring.trend, Scalar.trend, Scalar.mean, Scalar.mean, hfirst, hlast, hvalues, hcount, List.rtake]

end Statistics

/-- After any pushes a ring has the latest of them and tells what they amount to. They are in its first cells, and
the others are blank. -/
theorem tells_latest [Zero β] (hcapacity : 0 < capacity) (pushed : List β) :
    let r : Ring β capacity := ofPushes pushed
    let kept := pushed.rtake capacity
    r.values = kept ∧ kept.length = min capacity pushed.length ∧ r.count = kept.length ∧
      r.latest = pushed.getLast? ∧
      (∀ [Scalar β], r.average = Scalar.average kept ∧ r.trend = Scalar.trend kept) ∧
      ∃ written, r.cells.toList = written ++ List.replicate (capacity - r.count) 0 ∧
        written.rotate r.next = kept := by
  intro r kept
  have h : r.Holds pushed := holds_ofPushes hcapacity pushed
  refine ⟨h.values, length_rtake pushed capacity, h.count_eq, latest_ofPushes hcapacity pushed,
    ⟨h.average, h.trend⟩, r.cells.toList.take r.count, ?_, h.rotate_take hcapacity⟩
  rw [← blank_ofPushes hcapacity pushed, List.take_append_drop]

/-- Three cells are gone around twice, and the third value stands in the middle of five. -/
theorem fullTurns_tell_latest :
    0 < 3 ∧ (ofPushes [7, 4, 9, 1, 8, 2, 6] : Ring Rat 3).values = [8, 2, 6] ∧
      (ofPushes [7, 4, 9, 1, 8, 2, 6] : Ring Rat 3).latest = some 6 ∧
      (ofPushes [7, 4, 9, 1, 8, 2, 6] : Ring Rat 3).average = 16 / 3 ∧
      (ofPushes [7, 4, 9, 1, 8, 2, 6] : Ring Rat 3).trend = -2 := by
  have hcapacity : 0 < 3 := by decide
  obtain ⟨hvalues, -, -, hlatest, hstatistics, -⟩ :=
    tells_latest hcapacity ([7, 4, 9, 1, 8, 2, 6] : List Rat)
  obtain ⟨haverage, htrend⟩ := @hstatistics inferInstance
  exact ⟨hcapacity, hvalues, hlatest, haverage.trans (by decide +kernel), htrend.trans (by decide +kernel)⟩

end Ring

end ConsensusControl
