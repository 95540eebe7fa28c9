import NullLint.CommandLine.Argument

set_option autoImplicit false
set_option relaxedAutoImplicit false

/-!
# The command line

The program is called with options that take a value and with flags that take none. A value is the
next word, or it follows the name of its option after an equals sign.

## Main definitions

* `CommandLine.Options` — what a call asks for.
* `CommandLine.Refusal` — why a call is not carried out.
* `CommandLine.parse` — the options of a call.

## Design

An option whose value is the next word waits until the next option, the next flag or the end of the
call, and only then it takes effect. A word that nothing is known about is therefore reported before
anything that is wrong with the option before it.

`parse` reads words that are texts. The paths in `Options` need not be texts: the values of
`--input` and `--output` are taken as they are. Any other word that is no text is refused.
-/

namespace NullLint.CommandLine

/-- What a call asks for. The paths may be any words; the other values are texts. -/
structure Options where
  input : Argument
  output : Option Argument := none
  properties : List String := []
  otel : Option String := none
  quiet : Bool := false
  timing : Bool := false
  deriving DecidableEq, Repr

/-- Why a call is not carried out. The last two are not errors: the call asks for the help text or
for the version. -/
inductive Refusal where
  | invalidValue
  | missingRequired
  | unknownArgument
  | tooManyValues
  | conflict
  | help
  | version
  deriving DecidableEq, Repr

/-- The exit code of a call that is not carried out. -/
def Refusal.exitCode : Refusal → Nat
  | .help | .version => 0
  | _ => 2

/-- The version of the program as it is shown. -/
def versionText : String := "annolint 0.1.0\n"

/-- The options that take a value. -/
inductive Choice where
  | input
  | output
  | property
  | otel
  deriving DecidableEq, Repr

/-- The option of a name. -/
def Choice.named? (name : String) : Option Choice :=
  if name = "input" then some .input
  else if name = "output" then some .output
  else if name = "property" then some .property
  else if name = "otel" then some .otel
  else none

/-- The flags. -/
inductive Flag where
  | quiet
  | timing
  | help
  | version
  deriving DecidableEq, Repr

/-- The flag of a name. -/
def Flag.named? (name : String) : Option Flag :=
  if name = "quiet" then some .quiet
  else if name = "timing" then some .timing
  else if name = "help" then some .help
  else if name = "version" then some .version
  else none

/-- A word of a call: two hyphens alone, a name after two hyphens with the value after its equals
sign, letters after one hyphen, or a value. -/
inductive Word where
  | hyphens
  | long (name : String) (value : Option String)
  | short (letter : Char)
  | value (s : String)
  deriving DecidableEq, Repr

/-- A name and the value after its equals sign. -/
def splitName (cs : List Char) : Word :=
  let name := cs.takeWhile (· != '=')
  match cs.drop name.length with
  | [] => .long (String.ofList name) none
  | _ :: value => .long (String.ofList name) (some (String.ofList value))

/-- What a word of a call is. -/
def Word.of (s : String) : Word :=
  match s.toList with
  | ['-', '-'] => .hyphens
  | '-' :: '-' :: cs => splitName cs
  | '-' :: c :: _ => .short c
  | _ => .value s

/-- What has been read of a call. The option that was read last waits with its value. -/
structure State where
  input : Option String := none
  output : Option String := none
  properties : List String := []
  otel : Option String := none
  quiet : Bool := false
  timing : Bool := false
  waiting : Option (Choice × Option String) := none
  deriving DecidableEq, Repr

/-- An option that can be given once gets its value. A path cannot be empty. -/
def once (isPath : Bool) (old : Option String) (value : String) : Except Refusal (Option String) :=
  if old.isSome then .error .conflict
  else if isPath && value.isEmpty then .error .invalidValue
  else .ok (some value)

namespace State

/-- An option takes effect. -/
def choose (s : State) (choice : Choice) (value : String) : Except Refusal State :=
  match choice with
  | .input => (once true s.input value).map fun v => { s with input := v }
  | .output => (once true s.output value).map fun v => { s with output := v }
  | .otel => (once false s.otel value).map fun v => { s with otel := v }
  | .property => .ok { s with properties := s.properties ++ [value] }

/-- The option that waits takes effect. -/
def settle (s : State) : Except Refusal State :=
  match s.waiting with
  | none => .ok s
  | some (_, none) => .error .invalidValue
  | some (choice, some value) => { s with waiting := none }.choose choice value

/-- A flag takes effect. -/
def raise (s : State) : Flag → Except Refusal State
  | .quiet => if s.quiet then .error .conflict else .ok { s with quiet := true }
  | .timing => if s.timing then .error .conflict else .ok { s with timing := true }
  | .help => .error .help
  | .version => .error .version

/-- Reads a name with two hyphens. -/
def readLong (s : State) (name : String) (value : Option String) : Except Refusal State :=
  match Choice.named? name with
  | some choice =>
    s.settle.bind fun s =>
      match value with
      | none => .ok { s with waiting := some (choice, none) }
      | some value => s.choose choice value
  | none =>
    match Flag.named? name with
    | none => .error .unknownArgument
    | some flag =>
      if value.isSome then .error .tooManyValues else s.settle.bind fun s => s.raise flag

/-- Reads a letter with one hyphen. -/
def readShort (s : State) (letter : Char) : Except Refusal State :=
  if letter = 'h' then s.settle.bind fun s => s.raise .help
  else if letter = 'V' then s.settle.bind fun s => s.raise .version
  else .error .unknownArgument

/-- Reads a value, which has to belong to the option that waits. -/
def readValue (s : State) (value : String) : Except Refusal State :=
  match s.waiting with
  | some (choice, none) => .ok { s with waiting := some (choice, some value) }
  | _ => .error .unknownArgument

/-- What a call asks for, when all of it is read. -/
def finish (s : State) : Except Refusal Options :=
  s.settle.bind fun s =>
    match s.input with
    | none => .error .missingRequired
    | some input =>
      .ok ⟨.text input, s.output.map .text, s.properties, s.otel, s.quiet, s.timing⟩

/-- Reads the words of a call. After two hyphens alone nothing may follow. -/
def read (s : State) : List String → Except Refusal Options
  | [] => s.finish
  | w :: ws =>
    match Word.of w with
    | .hyphens => if ws.isEmpty then s.finish else .error .unknownArgument
    | .long name value => (s.readLong name value).bind fun s => s.read ws
    | .short letter => (s.readShort letter).bind fun s => s.read ws
    | .value value => (s.readValue value).bind fun s => s.read ws

end State

/-- The options of a call, given by the words after the name of the program. -/
def parse (words : List String) : Except Refusal Options :=
  State.read {} words

end NullLint.CommandLine
