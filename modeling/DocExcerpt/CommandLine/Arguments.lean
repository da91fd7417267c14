import DocExcerpt.CommandLine.Command

/-!
# Reading arguments

The first argument names the command. Behind it stand its operand and its options, in any order;
the value of an option is the next argument or follows an equals sign. Behind `--` all arguments
are operands. A value is checked when the next thing is read, so that the first fault from the
left is the one that is met, and a request for help counts unless a fault stands before it.
-/

namespace DocExcerpt.CommandLine

inductive UsageFault where
  | noCommand
  | unknownCommand (name : Text)
  | unknownArgument (argument : Text)
  | unexpectedValue (option : Text)
  | missingValue (parameter : Parameter)
  | malformedValue (parameter : Parameter) (value : Text)
  | repeated (parameter : Parameter)
  | missing (parameter : Parameter)
  deriving DecidableEq, Repr

/-- Why arguments do not lead to a command. -/
inductive Refusal where
  /-- Help is asked for, on a command or on all of them. -/
  | help (form : Option Form)
  | usage (fault : UsageFault)
  deriving DecidableEq, Repr

abbrev Given := List (Parameter × Text)

/-- A parameter that is being read, and its value once it is there. -/
abbrev Pending := Option (Parameter × Option Text)

/-- Checks what is being read and adds it to what has been read. -/
def settle (given : Given) : Pending → Except Refusal Given
  | none => .ok given
  | some (parameter, none) => .error (.usage (.missingValue parameter))
  | some (parameter, some value) =>
    if !parameter.kind.accepts value then .error (.usage (.malformedValue parameter value))
    else if (given.lookup parameter).isSome then .error (.usage (.repeated parameter))
    else .ok (given ++ [(parameter, value)])

/-- The name of a long option and the value behind its equals sign. -/
def longOption (t : Text) : Text × Option Text :=
  match t.splitAtChar? '=' with
  | some (name, value) => (name, some value)
  | none => (t, none)

inductive Argument where
  | separator
  | long (name : Text) (value : Option Text)
  | short (letter : Char)
  | plain (value : Text)
  deriving DecidableEq, Repr

/-- Sorts an argument by its hyphens. A hyphen alone is a plain value. -/
def Argument.of : Text → Argument
  | ['-', '-'] => .separator
  | '-' :: '-' :: t => let (name, value) := longOption t; .long name value
  | '-' :: letter :: _ => .short letter
  | t => .plain t

def readOperand (form : Form) (given : Given) (pending : Pending) (hasOperand : Bool)
    (value : Text) : Except Refusal (Given × Pending) :=
  if hasOperand then .error (.usage (.unknownArgument value))
  else (settle given pending).map fun given => (given, some (form.operand, some value))

def readOperands (form : Form) : Given → Pending → Bool → List Text → Except Refusal Given
  | given, pending, _, [] => settle given pending
  | given, pending, hasOperand, value :: arguments => do
    let (given, pending) ← readOperand form given pending hasOperand value
    readOperands form given pending true arguments

def readArguments (form : Form) : Given → Pending → Bool → List Text → Except Refusal Given
  | given, pending, _, [] => settle given pending
  | given, pending, hasOperand, argument :: arguments =>
    match Argument.of argument with
    | .separator => readOperands form given pending hasOperand arguments
    | .long name value =>
      if name = "help".toList then
        match value with
        | some _ => .error (.usage (.unexpectedValue name))
        | none => do
          let _ ← settle given pending
          throw (.help (some form))
      else
        match form.options.find? fun option => option.name.toList = name with
        | none => .error (.usage (.unknownArgument argument))
        | some option => do
          let given ← settle given pending
          match value with
          | some _ =>
            let given ← settle given (some (option, value))
            readArguments form given none hasOperand arguments
          | none => readArguments form given (some (option, none)) hasOperand arguments
    | .short letter =>
      if letter = 'h' then do
        let _ ← settle given pending
        throw (.help (some form))
      else .error (.usage (.unknownArgument argument))
    | .plain value =>
      match pending with
      | some (option, none) =>
        readArguments form given (some (option, some value)) hasOperand arguments
      | pending => do
        let (given, pending) ← readOperand form given pending hasOperand value
        readArguments form given pending true arguments

def commandOf (form : Form) (given : Given) (operand : Text) : Option Command :=
  let value? (name : String) : Option Text :=
    (given.find? fun entry => entry.1.name = name ∧ entry.1 ≠ form.operand).map (·.2)
  let symbolFile := (value? "symbols").map Utf8.encode
  if form = fetchForm then some (.fetch operand symbolFile (value? "method-of"))
  else if form = relinkForm then
    some (.relink (Utf8.encode operand) (value? "url") symbolFile)
  else if form = detectForm then some (.detect operand)
  else (Shell.ofName? operand).map .completions

def readCommand (form : Form) (arguments : List Text) : Except Refusal Command := do
  let given ← readArguments form [] none false arguments
  match given.lookup form.operand with
  | none => throw (.usage (.missing form.operand))
  | some operand =>
    match commandOf form given operand with
    | some command => return command
    | none => throw (.usage (.malformedValue form.operand operand))

/-- What the arguments of `help` ask for: help on all commands, or on one. -/
def readHelp : List Text → Refusal
  | [] => .help none
  | [name] =>
    if name = "help".toList then .help none
    else
      match form? name with
      | some form => .help (some form)
      | none => .usage (.unknownCommand name)
  | name :: extra :: _ =>
    if name = "help".toList ∨ (form? name).isSome then .usage (.unknownCommand extra)
    else .usage (.unknownCommand name)

def parse : List Text → Except Refusal Command
  | [] => .error (.usage .noCommand)
  | first :: arguments =>
    match Argument.of first with
    | .separator => .error (.usage .noCommand)
    | .long name value =>
      if name = "help".toList then
        .error (if value.isSome then .usage (.unexpectedValue name) else .help none)
      else .error (.usage (.unknownArgument first))
    | .short letter =>
      .error (if letter = 'h' then .help none else .usage (.unknownArgument first))
    | .plain name =>
      if name = "help".toList then .error (readHelp arguments)
      else
        match form? name with
        | some form => readCommand form arguments
        | none => .error (.usage (.unknownCommand name))

end DocExcerpt.CommandLine
