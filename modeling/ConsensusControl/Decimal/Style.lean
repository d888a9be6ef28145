import ConsensusControl.Decimal.Shortest

namespace ConsensusControl

/-- How a format writes numbers. -/
structure NumberStyle where
  tie : Tie
  /-- Numbers whose first digit stands for a power of ten in `[smallest, largest)` are written without
  an exponent. -/
  smallest : Int
  largest : Int
  /-- Written in front of an exponent that is not negative. -/
  plus : String
  nan : String
  infinity : String
  negativeInfinity : String

namespace NumberStyle

def zeros (n : Nat) : String := String.ofList (List.replicate n '0')

/-- Digits with a point after the first `n` of them. -/
def withPoint (ds : List Char) (n : Nat) : String :=
  String.ofList (ds.take n) ++ "." ++ (if ds.length ≤ n then "0" else String.ofList (ds.drop n))

/-- Positional notation with at least one digit on either side of the point. -/
def positional (ds : List Char) (point : Int) : String :=
  if point ≤ 0 then "0." ++ zeros (-point).toNat ++ String.ofList ds
  else withPoint (ds ++ List.replicate (point.toNat - ds.length) '0') point.toNat

/-- One digit in front of the point, which is left out when no digit follows. -/
def scientific (style : NumberStyle) (ds : List Char) (power : Int) : String :=
  let tail := ds.drop 1
  String.ofList (ds.take 1) ++ (if tail.isEmpty then "" else "." ++ String.ofList tail) ++ "e" ++
    (if power < 0 then "-" else style.plus) ++ toString power.natAbs

def renderDecimal (style : NumberStyle) (d : Decimal) : String :=
  let ds := Nat.toDigits 10 d.digits
  let power := d.exponent + ds.length - 1
  if style.smallest ≤ power ∧ power < style.largest then positional ds (power + 1)
  else style.scientific ds power

/-- The fewest digits that read back. -/
def render (style : NumberStyle) (x : Float) : String :=
  if x.isNaN then style.nan
  else if x.isInf then if x < 0 then style.negativeInfinity else style.infinity
  else
    let bits := x.toBits.toNat
    let magnitude :=
      if x == 0 then "0.0" else style.renderDecimal ((Binary.ofBits bits).shortest style.tie)
    if bits.testBit 63 then "-" ++ magnitude else magnitude

end NumberStyle

end ConsensusControl
