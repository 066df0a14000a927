import ClipFeed.CommandLine.Word
/-!
Command lines with named options, each of which takes one value and may be given once. An option
waits for its value until the next word; a word that has the form of a name is never a value. A
value is read when the next name or the end of the line is reached, so a fault of an earlier option
comes before one of a later option, but after an unknown name.
-/

namespace ClipFeed.CommandLine

inductive UsageFault where
  | unknownName (name : String)
  | unknownCommand (word : String)
  | unexpectedWord (word : String)
  | missingValue (option : String)
  | badValue (option value : String)
  | repeated (option : String)
  | valueForSwitch (name : String)
  deriving DecidableEq, Repr

def UsageFault.message : UsageFault → String
  | .unknownName name => "unexpected argument '" ++ name ++ "' found"
  | .unknownCommand word => "unrecognized subcommand '" ++ word ++ "'"
  | .unexpectedWord word => "unexpected argument '" ++ word ++ "' found"
  | .missingValue option => "a value is required for '--" ++ option ++ "' but none was supplied"
  | .badValue option value => "invalid value '" ++ value ++ "' for '--" ++ option ++ "'"
  | .repeated option => "the argument '--" ++ option ++ "' cannot be used multiple times"
  | .valueForSwitch name => "unexpected value for '--" ++ name ++ "' found; no more were expected"

/-- An option with what its value does to the options read so far. -/
structure Flag (σ : Type) where
  name : String
  accept : String → σ → Except UsageFault σ

/-- What a reader of a command line may meet instead of options. `ω` is what ends the reading with
an answer, such as a help text; `κ` is a command that takes over the rest. -/
structure Grammar (σ ω κ : Type) where
  flags : List (Flag σ)
  /-- Names without a value that end the reading, long and short. -/
  switches : List (String × Char × ω)
  commands : List (String × κ)

inductive Stop (ω : Type) where
  | answer (a : ω)
  | usage (fault : UsageFault)
  deriving DecidableEq, Repr

structure Progress (σ : Type) where
  options : σ
  /-- The names of the options that have been read. -/
  seen : List String
  /-- The option whose value has not been read, and the value once there is one. -/
  pending : Option (Flag σ × Option String)

namespace Progress

variable {σ : Type}

def start (options : σ) : Progress σ := ⟨options, [], none⟩

/-- Whether the next word is a value. -/
def awaits (p : Progress σ) : Bool :=
  match p.pending with
  | some (_, none) => true
  | _ => false

def take (p : Progress σ) (flag : Flag σ) (value : String) : Except UsageFault (Progress σ) := do
  if p.seen.contains flag.name then throw (.repeated flag.name)
  return ⟨← flag.accept value p.options, flag.name :: p.seen, none⟩

def settle (p : Progress σ) : Except UsageFault (Progress σ) :=
  match p.pending with
  | none => .ok p
  | some (flag, none) => .error (.missingValue flag.name)
  | some (flag, some value) => p.take flag value

def meet (p : Progress σ) (flag : Flag σ) : Option String → Except UsageFault (Progress σ)
  | some value => do (← p.settle).take flag value
  | none => return { ← p.settle with pending := some (flag, none) }

end Progress

namespace Grammar

variable {σ ω κ : Type}

/-- The command that a word names, unless the word is a value. -/
def command? (g : Grammar σ ω κ) (p : Progress σ) (word : String) : Option κ :=
  if p.awaits then none else g.commands.lookup word

/-- The fault of a word that stands where none may. -/
def stray (g : Grammar σ ω κ) (word : String) : UsageFault :=
  if g.commands.isEmpty then .unexpectedWord word else .unknownCommand word

/-- The fault of the first word behind a separator; a command would have to stand before it. -/
def strayBehind (g : Grammar σ ω κ) (word : String) : UsageFault :=
  if (g.commands.lookup word).isSome then .unexpectedWord word else g.stray word

def answer {α : Type} (p : Progress σ) (a : ω) : Except (Stop ω) α :=
  match p.settle with
  | .ok _ => .error (.answer a)
  | .error fault => .error (.usage fault)

def readLong (g : Grammar σ ω κ) (p : Progress σ) (name : String) (value : Option String) :
    Except (Stop ω) (Progress σ) :=
  match g.flags.find? (·.name == name), g.switches.lookup name with
  | some flag, _ => (p.meet flag value).mapError .usage
  | none, some (_, a) =>
    if value.isSome then .error (.usage (.valueForSwitch name)) else answer p a
  | none, none => .error (.usage (.unknownName ("--" ++ name)))

/-- The progress behind a short name. Every short name that there is ends the reading. -/
def readShort (g : Grammar σ ω κ) (p : Progress σ) (c : Char) : Except (Stop ω) (Progress σ) :=
  match g.switches.find? fun (_, short, _) => short == c with
  | some (_, _, a) => answer p a
  | none => .error (.usage (.unknownName (String.ofList ['-', c])))

def readPlain (g : Grammar σ ω κ) (p : Progress σ) (word : String) :
    Except (Stop ω) (Progress σ) :=
  match p.pending with
  | some (flag, none) => .ok { p with pending := some (flag, some word) }
  | _ => .error (.usage (g.stray word))

/-- The progress up to a command or the end, with the command and the words behind it. What is
pending then has not been read. -/
def read (g : Grammar σ ω κ) :
    List String → Progress σ → Except (Stop ω) (Progress σ × Option (κ × List String))
  | [], p => .ok (p, none)
  | word :: words, p =>
    match g.command? p word with
    | some command => .ok (p, some (command, words))
    | none =>
      match Word.ofString word with
      | .separator =>
        match words with
        | [] => .ok (p, none)
        | next :: _ => .error (.usage (g.strayBehind next))
      | .long name value => do g.read words (← g.readLong p name value)
      | .short c _ => do g.read words (← g.readShort p c)
      | .plain text => do g.read words (← g.readPlain p text)

end Grammar

end ClipFeed.CommandLine
