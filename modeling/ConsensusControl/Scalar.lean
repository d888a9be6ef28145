namespace ConsensusControl

/-- Numbers a controller computes with: machine floats in a running network, rationals where a law is
exact. No order law is assumed, since a value that is not a number compares with nothing. -/
class Scalar (α : Type) extends Zero α, One α, Add α, Sub α, Mul α, Div α, Neg α, NatCast α,
    BEq α, LT α, LE α where
  decLt : DecidableLT α
  decLe : DecidableLE α
  abs : α → α
  isFinite : α → Bool
  /-- Start of a running sum, neutral for addition on the left. -/
  sumStart : α
  /-- A number of halvings that takes every step of at most `10 ^ 6` below the given bound, if that is
  positive. Machine floats are at zero by then. -/
  halvings : α → Nat
  /-- The nearest natural number, a half going up, and zero for what is not a positive number. -/
  nearestNat : α → Nat

namespace Scalar

instance {α : Type} [Scalar α] : DecidableLT α := Scalar.decLt
instance {α : Type} [Scalar α] : DecidableLE α := Scalar.decLe

variable {α : Type} [Scalar α]

def two : α := 1 + 1
def half : α := 1 / two

/-- The larger of two numbers, or the other one when one is not a number. -/
def max (a b : α) : α := if a < b then b else if a == a then a else b

/-- The smaller of two numbers, or the other one when one is not a number. -/
def min (a b : α) : α := if b < a then b else if a == a then a else b

/-- Sums run from left to right. -/
def sum (xs : List α) : α := xs.foldl (· + ·) sumStart

/-- One unit in a decimal place. -/
def decimalPlace (n : Nat) : α := 1 / ((Nat.pow 10 n : Nat) : α)

/-- Sample times closer than this are the same time. -/
def timeTolerance : α := decimalPlace 12

/-- Grids whose times agree this closely are the same grid. -/
def gridTolerance : α := ((1000 : Nat) : α) * timeTolerance

end Scalar

/-- Angles enter through power lines alone. -/
class Trigonometric (α : Type) extends Scalar α where
  sin : α → α
  cos : α → α

/-- Binary64. Minus zero is the one start that a sum of any terms keeps exactly, the empty sum and a
sum of minus zeros included. No number takes more than 2099 halvings to zero. -/
instance : Trigonometric Float where
  zero := 0.0
  one := 1.0
  natCast := Float.ofNat
  decLt := inferInstance
  decLe := inferInstance
  abs := Float.abs
  isFinite := Float.isFinite
  sumStart := -0.0
  halvings := fun _ => 2200
  nearestNat := fun x => if 0 < x then x.round.toUInt64.toNat else 0
  sin := Float.sin
  cos := Float.cos

/-- Exact arithmetic. -/
instance : Scalar Rat where
  zero := 0
  one := 1
  decLt := inferInstance
  decLe := inferInstance
  abs := Rat.abs
  isFinite := fun _ => true
  sumStart := 0
  halvings := fun bound => Nat.log2 ((1000000 / bound : Rat).ceil.toNat) + 1
  nearestNat := fun x => (x + 1 / 2).floor.toNat

end ConsensusControl
