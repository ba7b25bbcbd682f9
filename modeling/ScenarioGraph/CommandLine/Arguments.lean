/-
# ScenarioGraph.CommandLine.Arguments -- what is asked for

An invocation is a task with the options that all tasks share.  Arguments are
read from left to right, and the first one that is wrong or asks for help or the
version decides.  Shared options may stand before and after the name of the
task, once in each place; the one after the name counts, and to be quiet it is
enough to say so once.
-/
import ScenarioGraph.Settings

namespace ScenarioGraph.CommandLine

set_option autoImplicit false

/-! ## Invocations -/

/-- Options that all tasks share. -/
structure Options where
  output : Option OutputFormat
  quiet : Bool
  /-- The path of a settings text. -/
  config : Option String
deriving DecidableEq

/-- What to do with the graph document at a path. -/
inductive Task where
  /-- List every scenario with its steps. -/
  | plan (path : String) (repetitions : Option Nat)
  /-- Plan every scenario and say whether that worked. -/
  | check (path : String) (repetitions : Option Nat)
  /-- Hold the document against the rules for documents. -/
  | validate (path : String)
deriving DecidableEq

structure Invocation where
  options : Options
  task : Task
deriving DecidableEq

inductive Misuse where
  | noTask
  | unknownTask (name : String)
  | noGraph
  | unexpected (argument : String)
  | noValue (option : String)
  | badValue (option value : String)
  | repeated (option : String)
  /-- Help on more than the name of one task. -/
  | helpAlone
deriving DecidableEq

/-- Why there is nothing to do. -/
inductive Stop where
  | help
  | version
  | misuse (misuse : Misuse)
deriving DecidableEq

def Misuse.message : Misuse → String
  | noTask => "a command is required"
  | unknownTask name => s!"unrecognized command '{name}'"
  | noGraph => "the path of a graph document is required"
  | unexpected argument => s!"unexpected argument '{argument}'"
  | noValue option => s!"a value is required for '--{option}'"
  | badValue option value => s!"invalid value '{value}' for '--{option}'"
  | repeated option => s!"the option '--{option}' cannot be used twice"
  | helpAlone => "help takes the name of one command and nothing else"

/-! ## Words -/

/-- An argument, together with the one after it where that is its value. -/
inductive Word where
  | plain (text : String)
  | setting (option value : String)
  | flag (option : String)
  /-- A dash and letters, of which the first is kept. -/
  | letter (letter : Char)
  /-- All words after this one are plain. -/
  | endOfOptions
  | wrong (misuse : Misuse)
deriving DecidableEq

/-- Options that are followed by a value. -/
def takesValue (option : String) : Bool := option ∈ ["output", "config", "repeat"]

/-- Whether an argument can be a value; a lone dash can. -/
def canBeValue (argument : String) : Bool := !argument.startsWith "-" || argument = "-"

/-- What an argument is by itself. -/
inductive Argument where
  | word (word : Word)
  /-- An option whose value is the next argument. -/
  | lacking (option : String)
  /-- All arguments after this one are plain. -/
  | separator
deriving DecidableEq

/-- A long option, with the value that is joined to it. -/
def longOption (name : String) (joined : Option String) : Argument :=
  match takesValue name, joined with
  | true, none => .lacking name
  | true, some value => .word (.setting name value)
  | false, none => .word (.flag name)
  | false, some value => .word (.wrong (.unexpected value))

/-- A name and what is joined to it by an equals sign. -/
def splitJoined (text : String) : String × Option String :=
  match text.toList.span (· ≠ '=') with
  | (_, []) => (text, none)
  | (name, _ :: value) => (String.ofList name, some (String.ofList value))

def argumentOf (argument : String) : Argument :=
  if canBeValue argument then .word (.plain argument)
  else if argument = "--" then .separator
  else
    match argument.toList with
    | '-' :: '-' :: text =>
        let (name, joined) := splitJoined (String.ofList text)
        longOption name joined
    | _ :: letter :: _ => .word (.letter letter)
    | _ => .word (.plain argument)

/-- The words up to the first that lacks its value. -/
def words : List String → List Word
  | [] => []
  | argument :: rest =>
      match argumentOf argument with
      | .word word => word :: words rest
      | .separator => .endOfOptions :: rest.map .plain
      | .lacking option =>
          match rest with
          | value :: more =>
              if canBeValue value then .setting option value :: words more
              else [.wrong (.noValue option)]
          | [] => [.wrong (.noValue option)]

/-! ## Reading -/

abbrev Attempt (α : Type) : Type := Except Stop α

def misused {α : Type} (misuse : Misuse) : Attempt α := .error (.misuse misuse)

/-- The options of one place, before or after the name of the task. -/
structure Given where
  options : Options
  repetitions : Option Nat
  /-- The path of the graph document. -/
  path : Option String

/-- Nothing is given yet. -/
def Given.empty : Given := ⟨⟨none, false, none⟩, none, none⟩

/-- A value given once. -/
def once {α : Type} (option value : String) (before : Option α) (read : String → Option α) :
    Attempt (Option α) :=
  match before, read value with
  | some _, _ => misused (.repeated option)
  | none, some found => .ok (some found)
  | none, none => misused (.badValue option value)

/-- A path has at least one character. -/
def path? (text : String) : Option String := if text = "" then none else some text

/-- Digits after at most one plus sign, below `2 ^ 64`. -/
def repetitions? (text : String) : Option Nat := do
  let digits := match text.toList with
    | '+' :: rest => rest
    | chars => chars
  guard (digits ≠ [])
  let n ← Text.ofDigits? 10 digits
  guard (n < Nat.pow 2 64)
  some n

/-- Take a shared option. -/
def Given.share (given : Given) (option value : String) : Attempt Given := do
  let options := given.options
  match option with
  | "output" =>
      let output ← once option value options.output OutputFormat.ofName?
      .ok { given with options := { options with output } }
  | "config" =>
      let config ← once option value options.config path?
      .ok { given with options := { options with config } }
  | _ => misused (.unexpected option)

/-- Take a flag, or stop for help. -/
def Given.takeFlag (given : Given) (option : String) : Attempt Given :=
  match option with
  | "quiet" =>
      if given.options.quiet then misused (.repeated option)
      else .ok { given with options := { given.options with quiet := true } }
  | "help" => .error .help
  | _ => misused (.unexpected option)

/-- Take a plain word after the name of the task. -/
def Given.takePath (given : Given) (text : String) : Attempt Given :=
  match given.path, path? text with
  | some _, _ => misused (.unexpected text)
  | none, some path => .ok { given with path := some path }
  | none, none => misused .noGraph

/-- Take a word after the name of the task; `repeats` says whether the task has repetitions. -/
def Given.takeWord (repeats : Bool) (given : Given) : Word → Attempt Given
  | .plain text => given.takePath text
  | .setting "repeat" value =>
      if repeats then do
        let repetitions ← once "repeat" value given.repetitions repetitions?
        .ok { given with repetitions }
      else misused (.unexpected "repeat")
  | .setting option value => given.share option value
  | .flag option => given.takeFlag option
  | .letter 'h' => .error .help
  | .letter letter => misused (.unexpected letter.toString)
  | .endOfOptions => .ok given
  | .wrong misuse => misused misuse

/-- The words after the name of the task. -/
def readTask (repeats : Bool) (given : Given) : List Word → Attempt Given
  | [] => .ok given
  | word :: rest => do readTask repeats (← given.takeWord repeats word) rest

/-- The options of both places together. -/
def Options.join (before after : Options) : Options :=
  { output := after.output <|> before.output
    quiet := before.quiet || after.quiet
    config := after.config <|> before.config }

/-- Help may be asked for on one task, and on help itself. -/
def helpOn : List Word → Stop
  | [] => .help
  | [.plain topic] =>
      if topic ∈ ["plan", "check", "validate", "help"] then .help
      else .misuse (.unknownTask topic)
  | _ => .misuse .helpAlone

/-- The invocation whose task has the name. -/
def invocation (before : Options) (name : String) (rest : List Word) : Attempt Invocation := do
  let finish (given : Given) (task : String → Task) : Attempt Invocation :=
    match given.path with
    | some path => .ok ⟨before.join given.options, task path⟩
    | none => misused .noGraph
  match name with
  | "plan" =>
      let given ← readTask true .empty rest
      finish given fun path => .plan path given.repetitions
  | "check" =>
      let given ← readTask true .empty rest
      finish given fun path => .check path given.repetitions
  | "validate" => finish (← readTask false .empty rest) .validate
  | "help" => .error (helpOn rest)
  | _ => misused (.unknownTask name)

/-- The words up to the name of the task, and those after it. -/
def readWords (given : Given) : List Word → Attempt Invocation
  | [] => misused .noTask
  | .plain name :: rest => invocation given.options name rest
  | .setting option value :: rest => do readWords (← given.share option value) rest
  | .flag "version" :: _ => .error .version
  | .flag option :: rest => do readWords (← given.takeFlag option) rest
  | .letter 'h' :: _ => .error .help
  | .letter 'V' :: _ => .error .version
  | .letter letter :: _ => misused (.unexpected letter.toString)
  | .endOfOptions :: _ => misused .noTask
  | .wrong misuse :: _ => misused misuse

/-- What the arguments ask for. -/
def Invocation.ofArguments (arguments : List String) : Attempt Invocation :=
  readWords .empty (words arguments)

end ScenarioGraph.CommandLine
