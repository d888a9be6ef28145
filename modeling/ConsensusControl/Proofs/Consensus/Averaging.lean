import Mathlib.Algebra.Order.BigOperators.Group.List
import Mathlib.Algebra.Order.Ring.Rat
import Mathlib.Tactic.Ring
import ConsensusControl.Proofs.Consensus.Updates

namespace ConsensusControl

namespace Holding

/-- The price after an ascent towards the consensus. -/
def raised (z : Rat) (h : Holding Rat) : Rat := h.mu + h.rho * (z - h.value)

end Holding

theorem foldl_numDen (hs : List (Holding Rat)) (num den : Rat) :
    hs.foldl (fun (p : Rat × Rat) h => (p.1 + (h.rho * h.value - h.mu), p.2 + h.rho)) (num, den) =
      (num + (hs.map fun h => h.rho * h.value - h.mu).sum, den + (hs.map (·.rho)).sum) := by
  induction hs generalizing num den with
  | nil => simp
  | cons h hs ih =>
    rw [List.foldl_cons, ih]
    simp only [List.map_cons, List.sum_cons, add_assoc]

/-- Raised prices are linear in the consensus. -/
theorem sum_raised (z : Rat) (hs : List (Holding Rat)) :
    (hs.map (·.raised z)).sum =
      z * (hs.map (·.rho)).sum - (hs.map fun h => h.rho * h.value - h.mu).sum := by
  induction hs with
  | nil => simp
  | cons h hs ih =>
    simp only [List.map_cons, List.sum_cons, ih]
    unfold Holding.raised
    ring

/-- With weight the entry is a weighted mean of what the holders ask for. -/
theorem consensusEntry_of_weight {hs : List (Holding Rat)} (hden : 0 < (hs.map (·.rho)).sum) (z : Rat) :
    consensusEntry z hs =
      (hs.map fun h => h.rho * h.value - h.mu).sum / (hs.map (·.rho)).sum := by
  have hfold := foldl_numDen hs 0 0
  simp only [zero_add] at hfold
  unfold consensusEntry
  rw [hfold]
  exact if_pos hden

theorem consensusEntry_eq {hs : List (Holding Rat)} (hne : hs ≠ []) (hpos : ∀ h ∈ hs, 0 < h.rho)
    (z : Rat) : 0 < (hs.map (·.rho)).sum ∧ consensusEntry z hs =
      (hs.map fun h => h.rho * h.value - h.mu).sum / (hs.map (·.rho)).sum := by
  have hden : 0 < (hs.map (·.rho)).sum := by
    refine List.sum_pos _ (fun w hw => ?_) (by simpa using hne)
    obtain ⟨h, hh, rfl⟩ := List.mem_map.mp hw
    exact hpos h hh
  exact ⟨hden, consensusEntry_of_weight hden z⟩

/-- The consensus is the one value towards which the raised prices of all holders cancel. -/
theorem consensusEntry_eq_iff {hs : List (Holding Rat)} (hne : hs ≠ [])
    (hpos : ∀ h ∈ hs, 0 < h.rho) (old z : Rat) :
    consensusEntry old hs = z ↔ (hs.map (·.raised z)).sum = 0 := by
  obtain ⟨hden, hentry⟩ := consensusEntry_eq hne hpos old
  rw [hentry, div_eq_iff (ne_of_gt hden), sum_raised, sub_eq_zero]
  exact eq_comm

section Entries

variable {α : Type} [Scalar α]

theorem dualAscent_getD {mu rho z own mu' : Vec α} {r : α}
    (h : dualAscent mu rho z own = .ok (mu', r)) :
    mu'.length = mu.length ∧ ∀ k, k < mu.length →
      mu'.getD k 0 = mu.getD k 0 + rho.getD k 0 * (z.getD k 0 - own.getD k 0) := by
  obtain ⟨⟨hrho, hz, hown⟩, rfl, -⟩ := dualAscent_eq_ok h
  constructor
  · simp only [consensusResidual, List.length_zipWith, List.length_zip]
    omega
  · intro k hk
    have hk₁ := Nat.lt_of_lt_of_le hk hrho
    have hk₂ := Nat.lt_of_lt_of_le hk hz
    have hk₃ := Nat.lt_of_lt_of_le hk hown
    have hpair : k < (rho.zip (consensusResidual z own)).length := by
      simp only [consensusResidual, List.length_zip, List.length_zipWith]
      omega
    simp [List.getD_eq_getElem?_getD, consensusResidual, hk, hk₁, hk₂, hk₃]

namespace Participant

/-- What a participant that covers an entry holds of it. -/
def holding (p : Participant α) (k : Nat) : Holding α :=
  ⟨p.value.getD k 0, p.mu.getD k 0, p.rho.getD k 0⟩

omit [Scalar α] in
theorem covers_iff {p : Participant α} {n : Nat} :
    p.covers n = true ↔ n ≤ p.value.length ∧ n ≤ p.mu.length ∧ n ≤ p.rho.length := by
  simp [covers, and_assoc]

theorem holding?_eq {p : Participant α} {n k : Nat} (h : p.covers n = true) (hk : k < n) :
    p.holding? k = some (p.holding k) := by
  obtain ⟨hvalue, hmu, hrho⟩ := covers_iff.mp h
  have hk₁ := Nat.lt_of_lt_of_le hk hvalue
  have hk₂ := Nat.lt_of_lt_of_le hk hmu
  have hk₃ := Nat.lt_of_lt_of_le hk hrho
  simp [holding?, holding, List.getD_eq_getElem?_getD, hk₁, hk₂, hk₃]

end Participant

theorem weightedConsensus_getD {z z' : Vec α} {ps : List (Participant α)}
    (h : weightedConsensus z ps = .ok z') :
    z'.length = z.length ∧ ∀ k, k < z.length →
      z'.getD k 0 = consensusEntry (z.getD k 0) (ps.map (·.holding k)) := by
  obtain ⟨hcovers, rfl⟩ := weightedConsensus_eq_ok.mp h
  refine ⟨by simp, fun k hk => ?_⟩
  have hholdings : ps.filterMap (·.holding? k) = ps.map (·.holding k) := by
    rw [← List.filterMap_eq_map]
    exact List.filterMap_congr fun p hp => Participant.holding?_eq (hcovers p hp) hk
  simp [List.getD_eq_getElem?_getD, hk, hholdings]

end Entries

/-- Where all participants have weights, so have their holdings of an entry. -/
theorem Participant.holdings_weighted {ps : List (Participant Rat)} {n k : Nat}
    (hcovers : ∀ p ∈ ps, p.covers n = true) (hpos : ∀ p ∈ ps, ∀ w ∈ p.rho, 0 < w) (hk : k < n) :
    ∀ h ∈ ps.map (·.holding k), 0 < h.rho := by
  intro h hh
  obtain ⟨p, hp, rfl⟩ := List.mem_map.mp hh
  have hrho := Nat.lt_of_lt_of_le hk (covers_iff.mp (hcovers p hp)).2.2
  refine hpos p hp _ ?_
  simp [holding, List.getD_eq_getElem?_getD, hrho]

/-- When all participants raise their prices towards their consensus, the prices cancel. -/
theorem raised_balance {z z' : Vec Rat} {ps : List (Participant Rat)} (hne : ps ≠ [])
    (hpos : ∀ p ∈ ps, ∀ w ∈ p.rho, 0 < w) (hz : weightedConsensus z ps = .ok z')
    {prices : List (Vec Rat)} (hall : List.Forall₂ (fun p mu =>
      ∃ r, dualAscent p.mu p.rho z' p.value = .ok (mu, r)) ps prices) :
    (∀ mu ∈ prices, mu.length = z.length) ∧ ∀ k, (prices.map (·.getD k 0)).sum = 0 := by
  have hcovers := (weightedConsensus_eq_ok.mp hz).1
  obtain ⟨hlength, hentries⟩ := weightedConsensus_getD hz
  have hlengths : ∀ p ∈ ps, ∀ mu r, dualAscent p.mu p.rho z' p.value = .ok (mu, r) →
      p.mu.length = z.length ∧ mu.length = z.length := by
    intro p hp mu r h
    have hle := (dualAscent_eq_ok h).1.2.1
    have hge := (Participant.covers_iff.mp (hcovers p hp)).2.1
    have hmu := (dualAscent_getD h).1
    omega
  refine ⟨fun mu hmu => ?_, fun k => ?_⟩
  · obtain ⟨p, hp, r, h⟩ := forall₂_mem_right hall hmu
    exact (hlengths p hp mu r h).2
  by_cases hk : k < z.length
  · have hraised : prices.map (·.getD k 0) =
        (ps.map (·.holding k)).map (·.raised (z'.getD k 0)) := by
      rw [List.map_map]
      refine List.forall₂_eq_eq_eq ▸ ?_
      rw [List.forall₂_map_left_iff, List.forall₂_map_right_iff]
      refine (forall₂_and_mem hall).flip.imp ?_
      intro mu p h
      obtain ⟨hp, r, h⟩ := h
      exact (dualAscent_getD h).2 k ((hlengths p hp mu r h).1 ▸ hk)
    rw [hraised, hentries k hk]
    refine (consensusEntry_eq_iff (by simpa using hne) ?_ _ _).mp rfl
    exact Participant.holdings_weighted hcovers hpos hk
  · refine List.sum_eq_zero fun x hx => ?_
    obtain ⟨mu, hmu, rfl⟩ := List.mem_map.mp hx
    obtain ⟨p, hp, r, h⟩ := forall₂_mem_right hall hmu
    have hmulength := (hlengths p hp mu r h).2
    rw [List.getD_eq_getElem?_getD, List.getElem?_eq_none (by omega), Option.getD_none]

end ConsensusControl
