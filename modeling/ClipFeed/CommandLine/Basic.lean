import ClipFeed.CommandLine.Grammar
import ClipFeed.Settings.Draft
import ClipFeed.Text.Lower
/-!
The command line of the service: which task to run, a configuration file, and settings that take the
place of those in files and in the environment.
-/

namespace ClipFeed

open Settings (Overrides)

inductive CommandLine.Task where
  | serve
  | migrate
  deriving DecidableEq, Repr

structure CommandLine where
  configFile : Option String
  task : CommandLine.Task
  overrides : Overrides
  deriving DecidableEq, Repr

namespace CommandLine

inductive Topic where
  | program
  | serve
  | migrate
  | help
  deriving DecidableEq, Repr

def Topic.about : Topic → String
  | .program => "Short-video feed server"
  | .serve => "Run the HTTP service"
  | .migrate => "Apply pending database migrations and exit"
  | .help => "Print this message or the help of the given subcommand(s)"

/-- What is answered without running anything. -/
inductive Notice where
  | help (topic : Topic)
  | version
  deriving DecidableEq, Repr

def versionLine : String := "vidfeed 0.1.0"

inductive Command where
  | run (task : Task)
  | help
  deriving DecidableEq, Repr

def readWord (option : String) (bits : Nat) (value : String) : Except UsageFault Nat :=
  match Text.parseInt64? value with
  | some n =>
    if 0 ≤ n.toInt ∧ n.toInt < Nat.pow 2 bits then .ok n.toInt.toNat
    else .error (.badValue option value)
  | none => .error (.badValue option value)

def readFlag (option : String) (value : String) : Except UsageFault Bool :=
  let word := Text.lower value
  if ["y", "yes", "t", "true", "on", "1"].contains word then .ok true
  else if ["n", "no", "f", "false", "off", "0"].contains word then .ok false
  else .error (.badValue option value)

def readPath (option : String) (value : String) : Except UsageFault String :=
  if value.isEmpty then .error (.missingValue option) else .ok value

/-- An option whose value is read and then put in its place. -/
def flag {σ α : Type} (name : String) (read : String → String → Except UsageFault α)
    (put : α → σ → σ) : Flag σ :=
  ⟨name, fun value options => return put (← read name value) options⟩

def readText (_ : String) (value : String) : Except UsageFault String := .ok value

def helpSwitch (topic : Topic) : String × Char × Notice :=
  ("help", 'h', .help topic)

def configFileFlag : String := "config-file"

def programGrammar : Grammar (Option String) Notice Command where
  flags := [flag configFileFlag readPath fun path _ => some path]
  switches := [helpSwitch .program, ("version", 'V', .version)]
  commands := [("serve", .run .serve), ("migrate", .run .migrate), ("help", .help)]

def databaseFlag : Flag Overrides :=
  flag "database-url" readText fun url o => { o with databaseUrl := some url }

def serveFlags : List (Flag Overrides) :=
  [flag "server-host" readText fun host o => { o with host := some host },
    flag "server-port" (readWord · 16) fun port o => { o with port := some (.ofNat port) },
    flag "log-level" readText fun level o => { o with level := some level },
    flag "log-json" readFlag fun json o => { o with json := some json },
    databaseFlag,
    flag "database-max-connections" (readWord · 32) fun n o =>
      { o with maxConnections := some (.ofNat n) },
    flag "cache-enabled" readFlag fun enabled o => { o with cacheEnabled := some enabled },
    flag "cache-redis-url" readText fun url o => { o with redisUrl := some url }]

def taskGrammar : Task → Grammar Overrides Notice Empty
  | .serve => ⟨serveFlags, [helpSwitch .serve], []⟩
  | .migrate => ⟨[databaseFlag], [helpSwitch .migrate], []⟩

def usage {α : Type} (r : Except UsageFault α) : Except (Stop Notice) α :=
  r.mapError .usage

/-- The topic that the words behind a request for help name. -/
def topicOf : Topic → List String → Except UsageFault Topic
  | topic, [] => .ok topic
  | .program, "serve" :: words => topicOf .serve words
  | .program, "migrate" :: words => topicOf .migrate words
  | .program, "help" :: words => topicOf .help words
  | _, word :: _ => .error (.unknownCommand word)

def readOverrides (task : Task) (words : List String) : Except (Stop Notice) Overrides := do
  let (progress, _) ← (taskGrammar task).read words (.start .none)
  return (← usage progress.settle).options

def readCommand : Option (Command × List String) → Except (Stop Notice) (Task × Overrides)
  | none => .ok (.serve, .none)
  | some (.help, words) => do throw (.answer (.help (← usage (topicOf .program words))))
  | some (.run task, words) => return (task, ← readOverrides task words)

/-- Reads a command line. A configuration file that the line does not name may be named by a
variable of the environment. -/
def read (words : List String) (fileVariable : Option String) :
    Except (Stop Notice) CommandLine := do
  let (progress, command) ← programGrammar.read words (.start none)
  let (task, overrides) ← readCommand command
  let file ← match (← usage progress.settle).options with
    | some path => pure (some path)
    | none => usage (fileVariable.mapM (readPath configFileFlag))
  return ⟨file, task, overrides⟩

end CommandLine

end ClipFeed
