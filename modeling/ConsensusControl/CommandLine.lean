import ConsensusControl.Text.Number

namespace ConsensusControl

/-- What a command line asks for. -/
structure CommandLine where
  optionsFile : Option String
  /-- Simulated seconds. -/
  duration : Float
  /-- Records travel through a coordinator. -/
  central : Bool
  /-- What the names of the written files begin with. -/
  stem : String

namespace CommandLine

def default : CommandLine := ⟨none, 1.0, false, "solutions/"⟩

/-- An argument and its value may be joined by an equals sign. -/
def separate (arg : String) : List String :=
  let (name, value) := arg.toList.span (· ≠ '=')
  if arg.startsWith "--" ∧ !value.isEmpty then [String.ofList name, String.ofList (value.drop 1)]
  else [arg]

def readFrom (c : CommandLine) : List String → Option CommandLine
  | [] => some c
  | "--central" :: rest => readFrom { c with central := true } rest
  | "--config" :: file :: rest => readFrom { c with optionsFile := file } rest
  | "--sim-time" :: time :: rest => (Text.float? time).bind fun t => readFrom { c with duration := t } rest
  | "--output" :: stem :: rest => readFrom { c with stem } rest
  | _ => none

/-- Reads the arguments in any order. Of a repeated one the last counts. -/
def ofArguments? (args : List String) : Option CommandLine := default.readFrom (args.flatMap separate)

end CommandLine

end ConsensusControl
