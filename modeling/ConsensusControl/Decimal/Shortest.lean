namespace ConsensusControl

/-- The positive binary number `mantissa * 2 ^ exponent` of a floating format. -/
structure Binary where
  mantissa : Nat
  exponent : Int
  /-- The next smaller number is only half as far away as the next larger one. -/
  atBinade : Bool
  deriving DecidableEq, Repr

/-- The number `digits * 10 ^ exponent`. -/
structure Decimal where
  digits : Nat
  exponent : Int
  deriving DecidableEq, Repr

/-- Which of two equally near decimals is taken. -/
inductive Tie
  | up
  | even
  deriving DecidableEq, Repr

namespace Binary

/-- Magnitude of the binary64 number with these bits, which is finite. -/
def ofBits (bits : Nat) : Binary :=
  let hidden := Nat.pow 2 52
  let fraction := bits % hidden
  let field := bits / hidden % 2048
  if field = 0 then ⟨fraction, -1074, false⟩
  else ⟨hidden + fraction, (field : Int) - 1075, fraction = 0 ∧ 1 < field⟩

/-- The decimal `d / down` reads back as the number that is `value / 4` in the same unit. The ends of
the interval of those that do belong to it if the mantissa is even. -/
def readsBack (b : Binary) (up down d : Nat) : Bool :=
  let low := (4 * b.mantissa - if b.atBinade then 1 else 2) * up
  let high := (4 * b.mantissa + 2) * up
  if b.mantissa % 2 = 0 then decide (low ≤ d * down ∧ d * down ≤ high)
  else decide (low < d * down ∧ d * down < high)

/-- The multiple of `10 ^ p` nearest to the number, if it reads back. -/
def onGrid? (tie : Tie) (b : Binary) (p : Int) : Option Decimal :=
  let up := Nat.pow 2 (b.exponent - 2).toNat * Nat.pow 10 (-p).toNat
  let down := Nat.pow 2 (2 - b.exponent).toNat * Nat.pow 10 p.toNat
  let value := 4 * b.mantissa * up
  let lower := value / down
  match b.readsBack up down lower, b.readsBack up down (lower + 1) with
  | false, false => none
  | true, false => some ⟨lower, p⟩
  | false, true => some ⟨lower + 1, p⟩
  | true, true =>
    let middle := (2 * lower + 1) * down
    let roundUp := middle < 2 * value ∨ middle = 2 * value ∧ (tie = .up ∨ lower % 2 = 1)
    some ⟨if roundUp then lower + 1 else lower, p⟩

/-- A power of ten above the number. -/
def topGrid (b : Binary) : Int := (Nat.log2 b.mantissa + 1 + b.exponent) * 30103 / 100000 + 2

/-- The decimal with the fewest digits that reads back, and of those the nearest. The coarsest grid
with one has it; seventeen digits always do. -/
def shortest (tie : Tie) (b : Binary) : Decimal :=
  ((List.range 24).findSome? fun (k : Nat) => b.onGrid? tie (b.topGrid - k)).getD ⟨b.mantissa, 0⟩

end Binary

namespace Decimal

/-- The nearest binary64 number. Numbers far out of range are decided by their number of digits. -/
def toFloat (d : Decimal) : Float :=
  let top := (Nat.repr d.digits).length + d.exponent
  if d.digits = 0 ∨ top < -400 then 0.0
  else if 400 < top then 1.0 / 0.0
  else Float.ofScientific d.digits (d.exponent < 0) d.exponent.natAbs

end Decimal

end ConsensusControl
