import ConsensusControl.Text.Identifier
import ConsensusControl.Text.Number

namespace ConsensusControl

namespace Text

/-- Ways to write a number in a document. -/
inductive Numeral
  | plain (s : String)
  /-- An octet that is written as a letter. -/
  | letter (octet : UInt8)
  deriving DecidableEq, Repr

/-- An interval of numbers. Without a first or a last one it has no end on that side. -/
structure Interval where
  first : Option Numeral
  last : Option Numeral
  /-- Whether the last number belongs to it. -/
  isClosed : Bool
  deriving DecidableEq, Repr

def isNumberStart (c : Char) : Bool := c.isDigit || c == '+' || c == '-' || c == '.'

/-- Splits behind a number. Two points in a row do not belong to it. -/
def splitNumber : List Char → List Char × List Char
  | '.' :: '.' :: cs => ([], '.' :: '.' :: cs)
  | c :: cs =>
    if isNumberStart c || isIdentifierChar c then
      let (number, rest) := splitNumber cs
      (c :: number, rest)
    else ([], c :: cs)
  | [] => ([], [])

namespace Reading

/-- Reads a number, if one comes next. -/
def numeral? : Reading (Option Numeral) := do
  let cs ← get
  let (number, rest) := splitNumber cs
  let word := String.ofList (cs.takeWhile isIdentifierChar)
  if "b'".toList.isPrefixOf cs then return some (.letter (← byteLetter))
  else if numberWords.contains word then
    set (cs.drop word.length)
    return some (.plain word)
  else if number.head?.any isNumberStart then
    if isNumber (String.ofList number) then
      set rest
      return some (.plain (String.ofList number))
    else malformed
  else return none

/-- Reads what follows the two points of an interval. -/
def interval (first : Option Numeral) : Reading Interval := do
  let isClosed ← take "="
  let last ← numeral?
  if isClosed ∧ last.isNone then malformed else return { first, last, isClosed }

end Reading

end Text

end ConsensusControl
