import Mathlib.Algebra.Order.Ring.Rat
import ConsensusControl.Scalar

namespace ConsensusControl

/-- Exact numbers with the infinities and what is not a number, as floats have them. Zero has no sign. -/
inductive ExtendedRat
  | nan
  | infinite (negative : Bool)
  | finite (q : Rat)
  deriving DecidableEq, Repr

namespace ExtendedRat

def neg : ExtendedRat → ExtendedRat
  | nan => nan
  | infinite s => infinite !s
  | finite q => finite (-q)

/-- Infinities of different signs have no sum. -/
def add : ExtendedRat → ExtendedRat → ExtendedRat
  | nan, _ | _, nan => nan
  | infinite s, infinite t => if s = t then infinite s else nan
  | infinite s, finite _ | finite _, infinite s => infinite s
  | finite p, finite q => finite (p + q)

/-- Zero and an infinity have no product. -/
def mul : ExtendedRat → ExtendedRat → ExtendedRat
  | nan, _ | _, nan => nan
  | infinite s, infinite t => infinite (s ^^ t)
  | infinite s, finite q | finite q, infinite s =>
    if q = 0 then nan else infinite (s ^^ decide (q < 0))
  | finite p, finite q => finite (p * q)

/-- Two infinities have no quotient, and neither have two zeros. -/
def div : ExtendedRat → ExtendedRat → ExtendedRat
  | nan, _ | _, nan | infinite _, infinite _ => nan
  | infinite s, finite q => infinite (s ^^ decide (q < 0))
  | finite _, infinite _ => finite 0
  | finite p, finite q =>
    if q = 0 then if p = 0 then nan else infinite (decide (p < 0)) else finite (p / q)

def absolute : ExtendedRat → ExtendedRat
  | nan => nan
  | infinite _ => infinite false
  | finite q => finite (Scalar.abs q)

def equal : ExtendedRat → ExtendedRat → Bool
  | nan, _ | _, nan => false
  | infinite s, infinite t => s == t
  | finite p, finite q => p == q
  | _, _ => false

def less : ExtendedRat → ExtendedRat → Bool
  | nan, _ | _, nan => false
  | infinite s, infinite t => s && !t
  | infinite s, finite _ => s
  | finite _, infinite t => !t
  | finite p, finite q => decide (p < q)

def atMost : ExtendedRat → ExtendedRat → Bool
  | nan, _ | _, nan => false
  | infinite s, infinite t => s || !t
  | infinite s, finite _ => s
  | finite _, infinite t => !t
  | finite p, finite q => decide (p ≤ q)

def isFinite : ExtendedRat → Bool
  | finite _ => true
  | nan | infinite _ => false

/-- No step is above an infinite bound. -/
def halvings : ExtendedRat → Nat
  | finite q => Scalar.halvings q
  | nan | infinite _ => 0

/-- Positive infinity goes to the largest word. -/
def nearestNat : ExtendedRat → Nat
  | finite q => Scalar.nearestNat q
  | infinite false => 2 ^ 64 - 1
  | nan | infinite true => 0

end ExtendedRat

open ExtendedRat in
instance : Scalar ExtendedRat where
  zero := finite 0
  one := finite 1
  add := ExtendedRat.add
  sub a b := a.add b.neg
  mul := ExtendedRat.mul
  div := ExtendedRat.div
  neg := ExtendedRat.neg
  natCast n := finite n
  beq := equal
  lt a b := a.less b = true
  le a b := a.atMost b = true
  decLt a b := inferInstanceAs (Decidable (a.less b = true))
  decLe a b := inferInstanceAs (Decidable (a.atMost b = true))
  abs := absolute
  isFinite := ExtendedRat.isFinite
  sumStart := finite 0
  halvings := ExtendedRat.halvings
  nearestNat := ExtendedRat.nearestNat

namespace ExtendedRat

variable {a b c : ExtendedRat}

theorem le_iff : a ≤ b ↔ a.atMost b = true := Iff.rfl

theorem lt_iff : a < b ↔ a.less b = true := Iff.rfl

theorem le_trans (hab : a ≤ b) (hbc : b ≤ c) : a ≤ c := by
  rw [le_iff] at hab hbc ⊢
  cases a with
  | nan => cases hab
  | infinite s =>
    cases b with
    | nan => cases hab
    | infinite t => cases s <;> cases t <;> cases c <;> simp_all [atMost]
    | finite q => cases c <;> simp_all [atMost]
  | finite p =>
    cases b with
    | nan => cases hab
    | infinite s => cases c <;> simp_all [atMost]
    | finite q =>
      cases c with
      | nan => cases hbc
      | infinite t => exact hbc
      | finite r =>
        simp only [atMost, decide_eq_true_eq] at hab hbc ⊢
        exact hab.trans hbc

theorem le_of_lt (h : a < b) : a ≤ b := by
  rw [lt_iff] at h
  rw [le_iff]
  cases a <;> cases b <;> simp_all [less, atMost, le_of_lt]

/-- Numbers compare one way or the other. -/
theorem le_of_not_lt (ha : a ≠ nan) (hb : b ≠ nan) (h : ¬ a < b) : b ≤ a := by
  rw [lt_iff] at h
  rw [le_iff]
  cases a with
  | nan => exact absurd rfl ha
  | infinite s =>
    cases b with
    | nan => exact absurd rfl hb
    | infinite t => cases s <;> cases t <;> simp_all [less, atMost]
    | finite q => simpa [less, atMost] using h
  | finite p =>
    cases b with
    | nan => exact absurd rfl hb
    | infinite t => simpa [less, atMost] using h
    | finite q => simpa [less, atMost] using h

theorem ne_nan_of_lt (h : a < b) : b ≠ nan := by
  rintro rfl
  rw [lt_iff] at h
  cases a <;> cases h

theorem beq_self (h : a ≠ nan) : (a == a) = true := by
  change a.equal a = true
  cases a with
  | nan => exact absurd rfl h
  | infinite s => simp [equal]
  | finite q => simp [equal]

@[simp] theorem abs_eq_nan : Scalar.abs a = nan ↔ a = nan := by
  change a.absolute = nan ↔ a = nan
  cases a <;> simp [absolute]

end ExtendedRat

end ConsensusControl
