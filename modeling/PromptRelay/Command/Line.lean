import PromptRelay.Command.Checkup
import PromptRelay.Command.Listing
import PromptRelay.Command.Preview

/-!
Contract: the command line.

Owns:
- the commands and their options;
- which argument lists name a command, ask for help, or are refused.

Does not own: the text of help screens and usage messages.
-/

namespace PromptRelay.Command

/-- What a command line asks for. -/
inductive Invocation where
  | list
  | checkUp (asJson : Bool)
  | preview (input : String) (template : Option String)
  | help
deriving DecidableEq, Repr

/-! ## Options -/

/-- What is known of the options of a command. -/
structure OptionKind where
  name : String
  takesValue : Bool
deriving DecidableEq, Repr

/-- The values of the options that have been given. -/
abbrev Given := List (String × String)

/-- What the arguments of a command come to. -/
inductive Reading where
  | given (options : Given)
  | help
  | refused
deriving DecidableEq, Repr

/-- An argument as options are told from other arguments. -/
inductive Argument where
  /-- What follows are no options. -/
  | separator
  | long (name : List Char) (value : Option (List Char))
  | short (letters : List Char)
  | plain (text : List Char)
deriving DecidableEq, Repr

def Argument.ofText (text : String) : Argument :=
  match text.toList with
  | ['-', '-'] => .separator
  | '-' :: '-' :: rest =>
    match Text.before? '=' rest with
    | some name => .long name (some (rest.drop (name.length + 1)))
    | none => .long rest none
  | '-' :: c :: rest => .short (c :: rest)
  | cs => .plain cs

/-- What an option makes of the value that is attached to it. -/
inductive Acceptance where
  | given (value : String)
  /-- The next argument is the value. -/
  | awaits
  | refused
deriving DecidableEq, Repr

def OptionKind.accept (kind : OptionKind) : (attached : Option (List Char)) → Acceptance
  | none => if kind.takesValue then .awaits else .given ""
  | some value =>
    if kind.takesValue && !value.isEmpty then .given (String.ofList value) else .refused

/-- Reads the arguments of a command from left to right. An option may be given
once, its value must not be empty, and there are no other arguments. `awaiting` is
the option whose value comes next. -/
def readOptions (kinds : List OptionKind) :
    (awaiting : Option String) → List String → Given → Reading
  | none, [], given => .given given
  | some _, [], _ => .refused
  | some name, text :: rest, given =>
    match Argument.ofText text with
    | .plain value =>
      if value.isEmpty then .refused else readOptions kinds none rest ((name, text) :: given)
    | _ => .refused
  | none, text :: rest, given =>
    match Argument.ofText text with
    | .separator => if rest.isEmpty then .given given else .refused
    | .plain _ => .refused
    | .short letters => if letters.head? = some 'h' then .help else .refused
    | .long name attached =>
      let name := String.ofList name
      if name = "help" then (if attached.isNone then .help else .refused)
      else
        match kinds.find? (fun kind => kind.name = name), given.lookup name with
        | some kind, none =>
          match kind.accept attached with
          | .given value => readOptions kinds none rest ((name, value) :: given)
          | .awaits => readOptions kinds (some name) rest given
          | .refused => .refused
        | _, _ => .refused

/-! ## Commands -/

/-- What the arguments after a command's name ask for. -/
def Reading.finish (finish : Given → Option Invocation) : Reading → Option Invocation
  | .given options => finish options
  | .help => some .help
  | .refused => none

def commandNames : List String := ["config", "doctor", "render", "help"]

/-- Help names at most one command. -/
def readHelp : List String → Option Invocation
  | [] => some .help
  | [name] => if commandNames.contains name then some .help else none
  | _ => none

def readCommand (name : String) (arguments : List String) : Option Invocation :=
  match name with
  | "config" => (readOptions [] none arguments []).finish fun _ => some .list
  | "doctor" =>
    (readOptions [{ name := "json", takesValue := false }] none arguments []).finish fun options =>
      some (.checkUp (options.lookup "json").isSome)
  | "render" =>
    let kinds : List OptionKind :=
      [{ name := "input", takesValue := true }, { name := "template", takesValue := true }]
    (readOptions kinds none arguments []).finish fun options => do
      some (.preview (← options.lookup "input") (options.lookup "template"))
  | "help" => readHelp arguments
  | _ => none

/-- What a command line asks for, unless it is refused. -/
def Invocation.ofArguments : List String → Option Invocation
  | [] => none
  | text :: arguments =>
    match Argument.ofText text with
    | .plain name => readCommand (String.ofList name) arguments
    | .long name none => if name = "help".toList then some .help else none
    | .short letters => if letters.head? = some 'h' then some .help else none
    | _ => none

/-! ## Running -/

/-- What an invocation comes to, unless it crashes; help has no result. -/
def Invocation.run (world : World) : Invocation → Except Crash (Option Result)
  | .list => .ok (some (Command.list world))
  | .checkUp asJson => .ok (some (Command.checkUp world asJson))
  | .preview input template => (Command.preview world input template).map some
  | .help => .ok none

end PromptRelay.Command
