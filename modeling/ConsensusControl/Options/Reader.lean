import ConsensusControl.Options.Field
import ConsensusControl.Text.Node

namespace ConsensusControl

namespace OptionField

/-- Takes over the value of an option, if it is of the right kind. -/
def read? (o : Options Float) : OptionField Float → Text.Node → Option (Options Float)
  | number _ _ set, .number (.plain s) => (Text.float? s).map (set · o)
  | count _ _ set, .number (.plain s) => (Text.count? s).map (set · o)
  | flag _ _ set, .flag b => some (set b o)
  | text _ _ set, .text s => some (set s o)
  | _, _ => none

end OptionField

namespace Options

open Text Text.Reading

/-- Switches that a document may turn on in front of the options. -/
def switches : List String :=
  ["unwrap_newtypes", "implicit_some", "unwrap_variant_newtypes", "explicit_struct_names"]

/-- Names of switches, with commas between them. -/
def switchNames (fuel : Nat) : Reading (List String) :=
  match fuel with
  | 0 => malformed
  | fuel + 1 => do
    let name ← ofOption (← identifier?)
    if !(← comma) then return [name.text]
    else if ← sees ')' then return [name.text]
    else return name.text :: (← switchNames fuel)

/-- What follows a hash: switches to turn on, or a remark on what the document describes. -/
def directive : Reading (List String) := do
  gap
  expect "!"
  gap
  expect "["
  gap
  let on ←
    if ← take "enable" then
      gap
      expect "("
      gap
      let names ← switchNames (← get).length
      expect ")"
      pure names
    else
      if !(← take "type") then expect "schema"
      gap
      expect "="
      gap
      let _ ← string
      pure []
  gap
  expect "]"
  gap
  return on

/-- The switches that stand in front of a document. -/
def header (fuel : Nat) : Reading (List String) :=
  match fuel with
  | 0 => return []
  | fuel + 1 => do if ← take "#" then return (← directive) ++ (← header fuel) else return []

/-- What the switches allow a value to leave out. -/
def liberties (on : List String) : Text.Liberties :=
  ⟨on.contains "implicit_some", on.contains "unwrap_variant_newtypes"⟩

/-- Takes over options one by one. Unknown names are skipped; a known one must not come twice. -/
def readFields? : List (String × Text.Node) → List String → Options Float → Option (Options Float)
  | [], _, o => some o
  | (name, node) :: rest, seen, o =>
    match fields.find? (·.name = name) with
    | none => readFields? rest seen o
    | some f => if seen.contains name then none else (f.read? o node).bind (readFields? rest (name :: seen))

/-- Name that a document may give its record. -/
def recordName : String := "OptimizationInfo"

/-- The options that a value gives. With `named` it has to have the name of its record. -/
def ofNode? (named : Bool) (node : Text.Node) : Option (Options Float) := do
  let (name, fields) ← match node with
    | .record name fields => some (name, fields)
    | .tuple name [] => some (name, [])
    | .unit => some (none, [])
    | _ => none
  if name = some recordName ∨ name = none ∧ !named then readFields? fields [] default else none

/-- A document of options, up to its end. -/
def document : Reading (Options Float) := do
  gap
  let on ← header ((← get).length + 1)
  if !on.all switches.contains then malformed
  let options ← ofOption (ofNode? (on.contains "explicit_struct_names") (← node (liberties on)))
  gap
  return options

/-- The options of a document, before their ranges are checked. -/
def read? : String → Option (Options Float) := document.whole?

/-- The options of a document. Missing ones have their defaults, and all are checked. -/
def ofText (s : String) : Except ConfigError (Options Float) :=
  match read? s with
  | none => .error (.unreadable "not a document of options")
  | some o => do
    o.validate
    return o

end Options

end ConsensusControl
