import ConsensusControl.CommandLine
import ConsensusControl.Document
import ConsensusControl.Ensemble.ClosedLoop
import ConsensusControl.Network.PowerRing
import ConsensusControl.Options.Reader
import ConsensusControl.Solver.Gradient
import ConsensusControl.Transport.Relay

namespace ConsensusControl

def Stop.message : Stop → String
  | .error e => e.message
  | .fault _ => "a promise was broken"

/-- Simulates the ring in closed loop. -/
def PowerRing.simulate {σ : Type} [Transport σ Float] (ring : PowerRing Float) (duration : Float) :
    Run σ Float (List (Summary Float)) := do
  ring.changes.forM Ensemble.apply
  Ensemble.run duration 0

namespace CommandLine

/-- Names and contents of the result files, or the reason why there are none. -/
def results {σ : Type} [Transport σ Float] (c : CommandLine) (options : Options Float) (transport : σ) :
    Except String (List (String × String)) := do
  let ring ← PowerRing.three.mapError (·.message)
  let (outcome, ensemble) :=
    ring.simulate c.duration (Ensemble.new options (Gradient.solver false) transport)
  let _ ← outcome.mapError (·.message)
  return ensemble.solutions.map fun (id, s) =>
    (Solution.fileName c.stem id, (Document.ofSolution s).toText)

/-- The result files, given the text of the file of options if one is named. -/
def files (c : CommandLine) (text : Option String) : Except String (List (String × String)) := do
  let options ← match text with
    | none => pure .default
    | some text => (Options.ofText text).mapError (·.message)
  if c.central then results c options (Relay.empty : Relay Float)
  else results c options (Direct.empty : Direct Float)

def usage : String := "usage: [--config FILE] [--sim-time SECONDS] [--central] [--output STEM]"

end CommandLine

/-- The part of a path in front of the last slash. -/
def directoryOf (path : String) : String :=
  String.ofList ((path.toList.reverse.dropWhile (· ≠ '/')).drop 1).reverse

def writeResult (file : String × String) : IO Unit := do
  let directory := directoryOf file.1
  if !directory.isEmpty then IO.FS.createDirAll directory
  IO.FS.writeFile file.1 file.2

end ConsensusControl

open ConsensusControl in
def main (args : List String) : IO UInt32 := do
  match CommandLine.ofArguments? args with
  | none => do
    IO.eprintln CommandLine.usage
    return 2
  | some c => do
    let text ← c.optionsFile.mapM fun file => IO.FS.readFile file
    match c.files text with
    | .ok files => do
      files.forM writeResult
      return 0
    | .error message => do
      IO.eprintln s!"Error: {message}"
      return 1
