import ConsensusControl.Decimal.Shortest
import ConsensusControl.Text.Quoted

namespace ConsensusControl

namespace Text

/-- Value of a row of digits, in which underscores do not count. -/
def digitsValue? (base : Nat) (cs : List Char) : Option Nat :=
  (cs.filter (· ≠ '_')).foldlM (fun n c => do
    let d ← hexDigit? c
    if d < base then some (base * n + d) else none) 0

/-- The base of a whole number, which is ten where no mark says otherwise, and what follows the mark. -/
def splitBase : List Char → Nat × List Char
  | '0' :: 'b' :: cs => (2, cs)
  | '0' :: 'o' :: cs => (8, cs)
  | '0' :: 'x' :: cs => (16, cs)
  | cs => (10, cs)

def splitSign : List Char → Bool × List Char
  | '-' :: cs => (true, cs)
  | '+' :: cs => (false, cs)
  | cs => (false, cs)

/-- Types that may stand behind a whole number, with the least and the greatest value. -/
def wholeTypes : List (String × Int × Int) :=
  [("i8", -0x80, 0x7f), ("i16", -0x8000, 0x7fff), ("i32", -0x80000000, 0x7fffffff),
    ("i64", -0x8000000000000000, 0x7fffffffffffffff), ("u8", 0, 0xff), ("u16", 0, 0xffff),
    ("u32", 0, 0xffffffff), ("u64", 0, 0xffffffffffffffff)]

/-- A natural number and the type behind it. No letter that is a digit in base sixteen begins a type. -/
def typedNatural? (cs : List Char) : Option (Nat × String) :=
  let (base, cs) := splitBase cs
  let (digits, type) := cs.span fun c => c = '_' || (hexDigit? c).isSome
  match digits with
  | [] | '_' :: _ => none
  | digits => (digitsValue? base digits).map (·, String.ofList type)

/-- A whole number of either sign. Without a type it has 64 bits, of which a negative one spends
one on the sign. -/
def isWhole (s : String) : Bool :=
  let (negative, cs) := splitSign s.toList
  match typedNatural? cs with
  | none => false
  | some (n, type) =>
    let n : Int := if negative then -n else n
    let range :=
      if type = "" then some (-0x8000000000000000, 0xffffffffffffffff) else wholeTypes.lookup type
    range.any fun (least, greatest) => decide (least ≤ n ∧ n ≤ greatest)

/-- A count of 64 bits. Only zero may be written as a negative number. -/
def count? (s : String) : Option Nat := do
  let (negative, cs) := splitSign s.toList
  let (n, type) ← typedNatural? cs
  if (type = "" ∨ type = "u64") ∧ n < UInt64.size ∧ (negative → n = 0) then some n else none

/-- Underscores stand behind a digit or the mark of the power, with at most a sign in between. -/
def underscoresFit (allowed : Bool) : List Char → Bool
  | [] => true
  | '_' :: cs => allowed && underscoresFit allowed cs
  | c :: cs => underscoresFit (c ≠ '.' && (allowed || c.isAlphanum)) cs

/-- Power of ten behind the digits of a decimal: nothing, or a mark with a whole number. -/
def power? : List Char → Option Int
  | [] => some 0
  | e :: cs =>
    let (negative, ds) := splitSign cs
    if (e = 'e' ∨ e = 'E') ∧ !ds.isEmpty ∧ ds.all (·.isDigit) then
      (digitsValue? 10 ds).map fun n => if negative then -(n : Int) else n
    else none

/-- A decimal without its sign. The point may stand in front of the digits, between them or behind. -/
def decimal? (cs : List Char) : Option Decimal := do
  let (whole, rest) := cs.span Char.isDigit
  let (fraction, rest) := match rest with
    | '.' :: rest => rest.span Char.isDigit
    | rest => ([], rest)
  if whole.isEmpty ∧ fraction.isEmpty then none
  let digits ← digitsValue? 10 (whole ++ fraction)
  return ⟨digits, (← power? rest) - fraction.length⟩

def magnitude? (cs : List Char) : Option Float :=
  if cs = "inf".toList then some (1.0 / 0.0)
  else if cs = "NaN".toList then some (0.0 / 0.0)
  else if underscoresFit false cs then (decimal? (cs.filter (· ≠ '_'))).map (·.toFloat)
  else none

/-- A number with a fraction and the type behind it. -/
def splitFloatType (cs : List Char) : List Char × String :=
  let type := String.ofList (cs.drop (cs.length - 3))
  if type = "f32" ∨ type = "f64" then (cs.take (cs.length - 3), type) else (cs, "")

/-- The nearest binary64 number, and the type that is written behind it. -/
def typedFloat? (s : String) : Option (Float × String) :=
  let (negative, cs) := splitSign s.toList
  let (cs, type) := splitFloatType cs
  (magnitude? cs).map fun x => (if negative then -x else x, type)

/-- A binary64 number, which may say so. -/
def float? (s : String) : Option Float :=
  match typedFloat? s with
  | some (x, type) => if type = "f32" then none else some x
  | none => none

/-- Whole numbers and all that reads as a number with a fraction. -/
def isNumber (s : String) : Bool := isWhole s || (typedFloat? s).isSome

/-- Numbers that are words. -/
def numberWords : List String := ["inf", "inff32", "inff64", "NaN", "NaNf32", "NaNf64"]

end Text

end ConsensusControl
