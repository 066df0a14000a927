import ClipFeed.CommandLine.Basic
import ClipFeed.Cache.Opening
import ClipFeed.Http.Site
import ClipFeed.Log.Line
import ClipFeed.Redis.Address
import ClipFeed.Settings.Load
import ClipFeed.Sql.Schema
import ClipFeed.Startup.Failure
/-!
A run of the program up to the point where it serves. The command line comes first, then the
settings, then the database with its tables, then the cache, and the listener last; the first part
that fails ends the run. Only the cache may be missing.
-/

namespace ClipFeed.Startup

inductive Question where
  | file (path : String)
  | print (line : String)
  | complain (line : String)
  /-- A pool of so many connections to a database. -/
  | connect (url : String) (connections : UInt32)
  | statement (s : Sql.Statement)
  /-- Whether the server of a cache answers in time. -/
  | greet (address : String)
  | listen (address : Net.Address)
  deriving DecidableEq, Repr

@[reducible] def Question.Answer : Question → Type
  | .file _ => Settings.Source
  | .print _ => Unit
  | .complain _ => Unit
  | .connect .. => Except Sql.Failure Unit
  | .statement s => Sql.Reply s
  | .greet _ => Except Cache.Fault Unit
  | .listen _ => Except String Unit

abbrev Session := Dialogue Question Question.Answer

/-- How a run ends, or what it goes on with. -/
inductive Ending where
  | exit (status : UInt8)
  | serving (site : Http.Site)
  deriving DecidableEq, Repr

namespace Session

def ask (q : Question) : Session q.Answer := Dialogue.request q

def log (w : Log.Writer) (e : Log.Event) : Session Unit :=
  match w.line? e with
  | some line => ask (.print line)
  | none => return ()

/-- A URL has to be one before anything is reached. -/
def connect (s : Settings) : Session (Except Failure Unit) := do
  match s.databaseUrl with
  | none => return .error (.obstacle (.configuration "database url is not configured"))
  | some url =>
    let outcome ← match Net.Url.parse url with
      | .error fault => pure (.error (.configuration fault.message))
      | .ok _ => ask (.connect url s.maxConnections)
    return outcome.mapError fun (failure : Sql.Failure) => .obstacle (.database failure.message)

def prepare (s : Settings) : Session (Except Failure Unit) := do
  match ← connect s with
  | .error failure => return .error failure
  | .ok () =>
    let outcome ← Sql.migrate.refine fun statement => ask (.statement statement)
    return outcome.mapError fun failure => .obstacle (.migration failure.message)

def openCache (s : Cache.Settings) : Session Cache.Opening := do
  match s.choice with
  | .disabled => return .disabled
  | .memory => return .memory
  | .redis address =>
    match Redis.Address.check address with
    | .error fault => return .ofAttempt (.error fault)
    | .ok () => return .ofAttempt (← ask (.greet address))

def migrate (s : Settings) (w : Log.Writer) : Session (Except Failure Ending) := do
  match ← prepare s with
  | .error failure => return .error failure
  | .ok () =>
    log w ⟨.info, "vidfeed::migrate", "Migrations applied", []⟩
    return .ok (.exit 0)

def servingTarget : String := "vidfeed::serve"

def site (s : Settings) (cache : Cache.Kind) : Http.Site :=
  let gateway := s.cache.gateway cache.name
  ⟨⟨gateway, s.cache.listPolicy, s.limits⟩, ⟨gateway, s.cache.detailPolicy⟩⟩

def serve (s : Settings) (w : Log.Writer) : Session (Except Failure Ending) := do
  match ← prepare s with
  | .error failure => return .error failure
  | .ok () =>
    let opening ← openCache s.cache
    opening.events.forM (log w)
    log w ⟨.info, servingTarget, "Read-path cache ready", [Cache.Opening.backendField opening.kind]⟩
    match ← ask (.listen s.address) with
    | .error reason => return .error (.obstacle (.io reason))
    | .ok () =>
      log w ⟨.info, servingTarget, "Listening", [("addr", .text s.address.render)]⟩
      return .ok (.serving (site s opening.kind))

def failed (failure : Failure) : Log.Event :=
  ⟨.error, "vidfeed", "application error", [("error", .text failure.message)]⟩

/-- The variable that may hold directives for the log. -/
def filterVariable : String := "RUST_LOG"

/-- Lines as the settings ask for; directives of the environment come before their threshold. -/
def writer (s : Settings) (environment : List (String × String)) : Log.Writer :=
  ⟨s.json, .ofText ((environment.lookup filterVariable).getD "") s.threshold⟩

/-- Runs a task under its settings. A failure is logged like everything else. -/
def runTask (task : CommandLine.Task) (s : Settings) (w : Log.Writer) : Session Ending := do
  let outcome ← match task with
    | .serve => serve s w
    | .migrate => migrate s w
  match outcome with
  | .ok ending => return ending
  | .error failure =>
    log w (failed failure)
    return .exit 1

/-- Settings that cannot be loaded are reported as compact text, since none say otherwise. -/
def runLine (line : CommandLine) (environment : List (String × String)) : Session Ending := do
  let file ← match line.configFile with
    | some path => pure (some (← ask (.file path)))
    | none => pure none
  match Settings.load file environment line.overrides with
  | .ok settings => runTask line.task settings (writer settings environment)
  | .error fault =>
    log ⟨false, .uniform (.atLeast .error)⟩
      (failed (.unexpected ("failed to load configuration: " ++ fault.message)))
    return .exit 1

def fileVariable : String := "VIDFEED_CONFIG_FILE"

/-- A run of the program for the words of its command line. -/
def run (words : List String) (environment : List (String × String)) : Session Ending := do
  match CommandLine.read words (environment.lookup fileVariable) with
  | .ok line => runLine line environment
  | .error (.answer (.help topic)) =>
    ask (.print topic.about)
    return .exit 0
  | .error (.answer .version) =>
    ask (.print CommandLine.versionLine)
    return .exit 0
  | .error (.usage fault) =>
    ask (.complain ("error: " ++ fault.message))
    return .exit 2

end Session

end ClipFeed.Startup
