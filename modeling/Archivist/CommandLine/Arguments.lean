import Archivist.Metrics.Counters

set_option autoImplicit false

/-!
Arguments of the program and what they ask for. Options stand before the command or behind it, and
each may be given once on either side. The value of an option is looked at when the next option is
named or the arguments end, so that an argument in between may already have decided something else.
-/

namespace Archivist.CommandLine

inductive Command where
  | run
  | once
deriving Repr, DecidableEq

/-- What arguments and help texts are about. -/
inductive Subject where
  | program
  | command (command : Command)
  | help
deriving Repr, DecidableEq

structure Invocation where
  config : String
  form : Counters.Form
  command : Command
deriving Repr, DecidableEq

/-- What arguments ask for that name no command to perform. -/
inductive Aside where
  | help (subject : Subject)
  | version
  | misuse
deriving Repr, DecidableEq

inductive Parameter where
  | config
  | form
deriving Repr, DecidableEq

inductive Meaning where
  | value (parameter : Parameter)
  | help
  | version
deriving Repr, DecidableEq

namespace Meaning

def ofLong? : String → Option Meaning
  | "config" => some (.value .config)
  | "metrics-format" => some (.value .form)
  | "help" => some .help
  | "version" => some .version
  | _ => none

def ofShort? : Char → Option Meaning
  | 'c' => some (.value .config)
  | 'h' => some .help
  | 'V' => some .version
  | _ => none

def isKnown (subject : Subject) : Meaning → Bool
  | .value .form | .help => true
  | .value .config | .version => subject = .program

end Meaning

inductive Token where
  | word
  /-- Two hyphens, behind which there are no options. -/
  | fence
  | option (meaning : Meaning) (attached : Option String)
  | unknown
deriving Repr, DecidableEq

namespace Token

/-- An option by its name, with a value behind an equals sign. Only parameters have values. -/
def readLong (text : List Char) : Token :=
  let name := text.takeWhile (· ≠ '=')
  match Meaning.ofLong? (String.ofList name), text.drop name.length with
  | some meaning, [] => .option meaning none
  | some (.value parameter), _ :: value => .option (.value parameter) (some (String.ofList value))
  | _, _ => .unknown

/-- An option by its letter, with a value right behind it or behind an equals sign. What stands
behind any other letter does not matter, as that letter decides. -/
def readShort (letter : Char) (rest : List Char) : Token :=
  match Meaning.ofShort? letter, rest with
  | some (.value parameter), '=' :: value | some (.value parameter), value@(_ :: _) =>
    .option (.value parameter) (some (String.ofList value))
  | some meaning, _ => .option meaning none
  | none, _ => .unknown

def read (argument : String) : Token :=
  match argument.toList with
  | ['-', '-'] => .fence
  | '-' :: '-' :: text => readLong text
  | '-' :: letter :: rest => readShort letter rest
  | _ => .word

end Token

def form? : String → Option Counters.Form
  | "table" => some .table
  | "prometheus" => some .exposition
  | _ => none

/-- The values that options on one side of the command set. -/
structure Given where
  config : Option String
  form : Option Counters.Form
deriving Repr, DecidableEq

/-- Sets a parameter, which has no value yet. A path is not empty, and a form is one of those there
are. -/
def Given.set (given : Given) (parameter : Parameter) (value : String) : Except Aside Given :=
  match parameter, form? value with
  | .config, _ =>
    if given.config.isSome ∨ value = "" then .error .misuse
    else .ok { given with config := some value }
  | .form, some form =>
    if given.form.isSome then .error .misuse else .ok { given with form := some form }
  | .form, none => .error .misuse

/-- An option that waits: for its value, or for its value to be looked at. -/
structure Pending where
  parameter : Parameter
  value : Option String
deriving Repr, DecidableEq

/-- How far the arguments on one side of the command are read. -/
structure Draft where
  given : Given
  pending : Option Pending
  isFenced : Bool
deriving Repr, DecidableEq

namespace Draft

def empty : Draft := ⟨⟨none, none⟩, none, false⟩

/-- Whether the next argument without a hyphen is a value. -/
def awaitsValue (draft : Draft) : Bool := draft.pending.any fun pending => pending.value.isNone

/-- What is given once the option that waits has been looked at. -/
def settle (draft : Draft) : Except Aside Given :=
  match draft.pending with
  | none => .ok draft.given
  | some ⟨_, none⟩ => .error .misuse
  | some ⟨parameter, some value⟩ => draft.given.set parameter value

/-- Reads an option, after the one before it has been looked at. An attached value is looked at as
well. -/
def option (draft : Draft) (subject : Subject) (meaning : Meaning) (attached : Option String) :
    Except Aside Draft := do
  let given ← draft.settle
  match meaning, attached with
  | .help, _ => .error (.help subject)
  | .version, _ => .error .version
  | .value parameter, none => return { draft with given, pending := some ⟨parameter, none⟩ }
  | .value parameter, some value =>
    return { draft with given := ← given.set parameter value, pending := none }

/-- Reads a word, which is the value of an option that awaits one. -/
def word (draft : Draft) (text : String) : Except Aside Draft :=
  match draft.pending with
  | some ⟨parameter, none⟩ => .ok { draft with pending := some ⟨parameter, some text⟩ }
  | _ => .error .misuse

def step (subject : Subject) (draft : Draft) (argument : String) : Except Aside Draft :=
  if draft.isFenced then .error .misuse
  else
    match Token.read argument with
    | .word => draft.word argument
    | .fence => .ok { draft with isFenced := true }
    | .option meaning attached =>
      if meaning.isKnown subject then draft.option subject meaning attached else .error .misuse
    | .unknown => .error .misuse

end Draft

def subject? : String → Option Subject
  | "run" => some (.command .run)
  | "once" => some (.command .once)
  | "help" => some .help
  | _ => none

def helpOn : List String → Aside
  | [] => .help .program
  | [word] => ((subject? word).map Aside.help).getD .misuse
  | _ => .misuse

def readBehind (command : Command) (arguments : List String) : Except Aside Given :=
  arguments.foldlM (Draft.step (.command command)) Draft.empty >>= Draft.settle

/-- A form behind the command counts more than one before it. -/
def Invocation.ofGiven (before behind : Given) (command : Command) : Invocation where
  config := before.config.getD "arx.toml"
  form := (behind.form <|> before.form).getD .table
  command := command

/-- Reads arguments up to the command, and all behind it before the last option in front of it is
looked at. -/
def readFrom (draft : Draft) : List String → Except Aside Invocation
  | [] => .error .misuse
  | argument :: rest =>
    match if draft.awaitsValue || draft.isFenced then none else subject? argument with
    | some (.command command) => do
      let behind ← readBehind command rest
      return .ofGiven (← draft.settle) behind command
    | some _ => .error (helpOn rest)
    | none => do readFrom (← draft.step .program argument) rest

/-- What is asked for by the arguments behind the name of the program. -/
def parse (arguments : List String) : Except Aside Invocation := readFrom .empty arguments

end Archivist.CommandLine
