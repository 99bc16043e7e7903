/-
Federation/Main.lean

The command line.
-/
import Federation.Command
import Federation.Live

namespace Federation.CommandLine

/-- What is said to someone who asks for nothing that there is. -/
def usage : String :=
  "Usage: federate check --config FILE\n" ++
    "       federate connect --config FILE [--linger TIME]"

/-- Says what failed. -/
def complain (c : Complaint) : IO UInt32 := do
  IO.eprintln c.render
  return 1

/-- Starts a federate without connections, stays for a while, and resigns. -/
def connect (config : Config) (linger : Duration) : IO UInt32 := do
  let now ← Live.localTime
  let session := do
    let plan ← (Plan.build config.federate [] config.coordination.mode fun _ =>
        .zero).mapError PlanError.message
    (Session.new config plan (.fresh (.firstAt now)) { readings := fun _ => now }
      {}).mapError Fault.message
  match session with
  | .error text => complain ⟨text, []⟩
  | .ok session =>
    let greet (s : Session Empty) : IO Unit :=
      IO.println ("clock offset: " ++ s.federate.clock.offset.render)
    match ← Live.run session linger greet with
    | .error fault => complain ⟨fault.message, []⟩
    | .ok true => return 0
    | .ok false => return 1

/-- Runs a command. -/
def run (command : Command) : IO UInt32 := do
  match command with
  | .check file =>
    match Command.report file (← Live.attempt (IO.FS.readFile file)) with
    | .ok lines =>
      lines.forM IO.println
      return 0
    | .error c => complain c
  | .connect file linger =>
    match Command.load file (← Live.attempt (IO.FS.readFile file)) with
    | .ok config => connect config linger
    | .error c => complain c

/-- Does what the words ask for. The result is the status of the program. -/
def runWords (words : List String) : IO UInt32 := do
  match Command.ofWords? words with
  | some command => run command
  | none =>
    IO.eprintln usage
    return 2

end Federation.CommandLine

def main (words : List String) : IO UInt32 := Federation.CommandLine.runWords words
