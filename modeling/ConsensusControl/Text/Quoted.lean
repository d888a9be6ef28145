import ConsensusControl.Text.Reading
import ConsensusControl.Text.Unprintable

namespace ConsensusControl

namespace Text

def hexDigit? (c : Char) : Option Nat :=
  if '0' ≤ c ∧ c ≤ '9' then some (c.toNat - '0'.toNat)
  else if 'a' ≤ c ∧ c ≤ 'f' then some (c.toNat - 'a'.toNat + 10)
  else if 'A' ≤ c ∧ c ≤ 'F' then some (c.toNat - 'A'.toNat + 10)
  else none

/-- How a character is written between quotes. -/
def escape (c : Char) : List Char :=
  if c = '\x00' then ['\\', '0']
  else if c = '\t' then ['\\', 't']
  else if c = '\r' then ['\\', 'r']
  else if c = '\n' then ['\\', 'n']
  else if c = '\'' ∨ c = '"' ∨ c = '\\' then ['\\', c]
  else if isUnprintable c then ['\\', 'u', '\x7b'] ++ Nat.toDigits 16 c.toNat ++ ['\x7d']
  else [c]

def quote (s : String) : String := String.ofList (['"'] ++ s.toList.flatMap escape ++ ['"'])

/-- What quotes enclose: characters, or octets that need not amount to any. -/
inductive Quoting
  | text
  | bytes
  deriving DecidableEq, Repr

/-- The text that octets encode. -/
def decode? (octets : List UInt8) : Option String := String.fromUTF8? octets.toByteArray

/-- The character with this code point, if it is one. -/
def char? (n : Nat) : Option Char := if n.isValidChar then some (Char.ofNat n) else none

def simpleEscape? : Char → Option Char
  | 'n' => some '\n'
  | 't' => some '\t'
  | 'r' => some '\r'
  | '0' => some '\x00'
  | '\'' => some '\''
  | '"' => some '"'
  | '\\' => some '\\'
  | _ => none

namespace Reading

variable {β : Type}

def ofOption : Option β → Reading β
  | some x => return x
  | none => malformed

/-- Two hexadecimal digits. -/
def octet : Reading UInt8 := do
  let high ← ofOption (hexDigit? (← next))
  let low ← ofOption (hexDigit? (← next))
  return UInt8.ofNat (16 * high + low)

/-- Reads at most `more` further octets, each with its mark, until they encode a character. -/
def encodedChar (more : Nat) (octets : List UInt8) : Reading (List UInt8) := do
  if (decode? octets).isSome then return octets
  else match more with
    | 0 => malformed
    | more + 1 =>
      expect "\\x"
      encodedChar more (octets ++ [← octet])

/-- A code point in braces, with one to six digits. -/
def codePoint : Reading Char := do
  expect "\x7b"
  let digits ← run fun c => (hexDigit? c).isSome
  expect "\x7d"
  if digits.isEmpty ∨ digits.length > 6 then malformed
  else ofOption (char? (digits.foldl (fun n c => 16 * n + (hexDigit? c).getD 0) 0))

/-- A character that goes with the end of a line that a backslash takes away. -/
def isMargin (c : Char) : Bool := c ∈ [' ', '\t', '\n', '\r']

/-- What follows a backslash. The end of a line goes together with the margin behind it, unless one
character has to stand alone. -/
def escaped (q : Quoting) (alone : Bool) : Reading (List UInt8) := do
  let c ← next
  if c = 'x' then
    let octet ← octet
    if q = .bytes then return [octet] else encodedChar (if alone then 0 else 3) [octet]
  else if c = 'u' then
    let c ← codePoint
    if alone ∧ q = .bytes then malformed else return String.utf8EncodeChar c
  else match simpleEscape? c with
    | some c => return String.utf8EncodeChar c
    | none =>
      if alone then malformed
      if c = '\r' then expect "\n" else if c ≠ '\n' then malformed
      let _ ← run isMargin
      return []

/-- Reads up to the closing quote and over it. Where none is left, the text is unfinished, whatever
else is wrong with it. -/
def content (q : Quoting) (fuel : Nat) : Reading (List UInt8) :=
  match fuel with
  | 0 => throw .unfinished
  | fuel + 1 => do
    let c ← next
    if c = '"' then return []
    else if c ≠ '\\' then return String.utf8EncodeChar c ++ (← content q fuel)
    else if (← get).contains '"' then
      let octets ← escaped q false
      return octets ++ (← content q fuel)
    else throw .unfinished

/-- What stands between quotes, behind the first of them. -/
def quoted (q : Quoting) : Reading (List UInt8) := do content q ((← get).length + 1)

/-- Hashes and a quote, and all up to the next quote with as many hashes. -/
def raw : Reading (List UInt8) := do
  let hashes ← run (· = '#')
  expect "\""
  match splitBefore? ('"' :: hashes) (← get) with
  | none => throw .unfinished
  | some (read, rest) =>
    set rest
    return read.flatMap String.utf8EncodeChar

def string : Reading String := do
  let octets ← if ← take "\"" then quoted .text else expect "r" *> raw
  ofOption (decode? octets)

def byteString : Reading (List UInt8) := do
  expect "b"
  if ← take "\"" then quoted .bytes else expect "r" *> raw

/-- What stands between apostrophes. -/
def lone (q : Quoting) : Reading (List UInt8) := do
  expect "'"
  let c ← next
  let octets ← if c = '\\' then escaped q true else pure (String.utf8EncodeChar c)
  expect "'"
  return octets

def letter : Reading Char := do
  match (decode? (← lone .text)).map (·.toList) with
  | some [c] => return c
  | _ => malformed

/-- An octet that is written as a letter. -/
def byteLetter : Reading UInt8 := do
  expect "b"
  match ← lone .bytes with
  | [octet] => return octet
  | _ => malformed

end Reading

end Text

end ConsensusControl
