/-
Federation/Command.lean

The commands of the program.

`check` reads the settings of a federate from a file and shows what they come
to. `connect` starts a federate without connections of its own, stays for a
while, and resigns. Settings that cannot be read, or make no sense together, are
a complaint: what failed, and below it why.
-/
import Federation.Config.Reader

namespace Federation

/-- What a failed command says: what it was about, and the causes of the
failure, the nearest one first. -/
structure Complaint where
  summary : String
  causes : List String := []
deriving DecidableEq

/-- A complaint as it is printed. Several causes are numbered. -/
def Complaint.render (c : Complaint) : String :=
  let causes := match c.causes with
    | [] => []
    | [cause] => ["", "Caused by:", "    " ++ cause]
    | causes =>
      "" :: "Caused by:" :: causes.mapIdx fun i cause =>
        "    " ++ toString i ++ ": " ++ cause
  "\n".intercalate (("Error: " ++ c.summary) :: causes)

/-- The causes of a failure to get settings from the file of the given name. -/
def ConfigError.causes (file : String) : ConfigError → List String
  | unreadable source =>
    ["failed to read " ++ file ++ ": " ++ source.text, source.text]
  | malformed => ["failed to parse configuration"]
  | invalid flaw => [flaw.report]

/-- What the program is asked to do. -/
inductive Command where
  /-- Check the settings of a file. -/
  | check (file : String)
  /-- Start with the settings of a file, and stay for so long. -/
  | connect (file : String) (linger : Duration)
deriving DecidableEq

namespace Command

/-! ### The words of a command -/

/-- The options of a command as far as they were given. -/
structure Options where
  file : Option String := none
  linger : Option String := none

/-- The value of an option that begins a word: behind the sign of equality, or
in the next word. -/
def value? (option word : String) (rest : List String) :
    Option (String × List String) :=
  if word = option then
    match rest with
    | v :: rest => if v.startsWith "-" then none else some (v, rest)
    | [] => none
  else if word.startsWith (option ++ "=") then
    some (String.ofList (word.toList.drop (option.length + 1)), rest)
  else none

/-- Reads the options of a command. Each may be given once; at most `words` of
them are read. -/
def options? (lingers : Bool) (o : Options) :
    (words : Nat) → List String → Option Options
  | _, [] => some o
  | 0, _ :: _ => none
  | words + 1, word :: rest =>
    match (value? "--config" word rest).or (value? "-c" word rest) with
    | some (v, rest) =>
      if o.file.isSome then none
        else options? lingers { o with file := some v } words rest
    | none =>
      match if lingers then value? "--linger" word rest else none with
      | some (v, rest) =>
        if o.linger.isSome then none
          else options? lingers { o with linger := some v } words rest
      | none => none

/-- The command of some words; nothing if they are none. -/
def ofWords? : List String → Option Command
  | "check" :: rest => do
    let o ← options? false {} rest.length rest
    return .check (← o.file)
  | "connect" :: rest => do
    let o ← options? true {} rest.length rest
    return .connect (← o.file) (← Duration.read? (o.linger.getD "1s"))
  | _ => none

/-! ### Settings -/

/-- The valid settings of a file with the given name and content, which could
perhaps not be read. -/
def load (file : String) (content : Except IoError String) :
    Except Complaint Config := do
  let c ← (Config.load content).mapError fun e =>
      ⟨"loading " ++ file, e.causes file⟩
  c.validate.mapError fun e => ⟨"validating configuration", e.causes file⟩
  return c

/-- A list of federates as it is printed. -/
def renderList (fs : List FederateId) : String :=
  "[" ++ ", ".intercalate (fs.map FederateId.renderInList) ++ "]"

/-- What settings come to, line by line. -/
def summary (c : Config) : List String := [
  "federate:      " ++ c.federate.render,
  "federation:    " ++ c.federationId,
  "coordinator:   " ++ c.coordinator.host ++ ":" ++ toString c.coordinator.port,
  "coordination:  " ++ c.coordination.mode.render,
  "clock sync:    " ++ c.clockSync.mode.render,
  "inbound peers: " ++ renderList c.peers.inbound,
  "outbound peers: " ++ renderList (c.peers.outbound.map (·.id))]

/-- The lines of `check` for a file with the given name and content. -/
def report (file : String) (content : Except IoError String) :
    Except Complaint (List String) := do
  return summary (← load file content)

end Command

end Federation
