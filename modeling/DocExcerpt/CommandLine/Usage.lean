import DocExcerpt.CommandLine.Arguments

/-!
# What the command line says about itself

Help on the commands, the wording of usage faults, and the completion scripts.
-/

namespace DocExcerpt.CommandLine

def programName : String := "docfilter"

def inLines (lines : List String) : String := String.join (lines.map (· ++ "\n"))

def padded (width : Nat) (s : String) : String :=
  s ++ String.ofList (List.replicate (width - s.length) ' ')

/-! ## Help -/

def Parameter.asOperand (parameter : Parameter) : String := "<" ++ parameter.name.toUpper ++ ">"

def Parameter.asOption (parameter : Parameter) : String :=
  "--" ++ parameter.name ++ " <" ++ (if parameter.kind = .path then "FILE" else "VALUE") ++ ">"

def Form.usage (form : Form) : String :=
  "Usage: " ++ programName ++ " " ++ form.name ++ (if form.options.isEmpty then "" else " [OPTIONS]")
    ++ " " ++ form.operand.asOperand

def Form.helpText (form : Form) : String :=
  inLines ([form.about, "", form.usage, "", "Arguments:",
      "  " ++ form.operand.asOperand ++ "  " ++ form.operand.help, "", "Options:"]
    ++ (form.options.map fun option => "  " ++ padded 24 option.asOption ++ option.help)
    ++ ["  " ++ padded 24 "-h, --help" ++ "Print help"])

def helpText : String :=
  inLines ([programName ++ ": fetch Javadoc pages and rewrite their references", "",
      "Usage: " ++ programName ++ " <COMMAND>", "", "Commands:"]
    ++ (forms.map fun form => "  " ++ padded 13 form.name ++ form.about)
    ++ ["  " ++ padded 13 "help" ++ "Print this message or the help of a command", "", "Options:",
      "  -h, --help  Print help"])

/-! ## Faults -/

def UsageFault.message : UsageFault → String
  | .noCommand => "a command is required"
  | .unknownCommand name => "unrecognized command '" ++ String.ofList name ++ "'"
  | .unknownArgument argument => "unexpected argument '" ++ String.ofList argument ++ "' found"
  | .unexpectedValue option => "unexpected value for '--" ++ String.ofList option ++ "'"
  | .missingValue parameter => "a value is required for '" ++ parameter.asOption ++ "'"
  | .malformedValue parameter value =>
    "invalid value '" ++ String.ofList value ++ "' for '" ++ parameter.name ++ "'"
  | .repeated parameter => "'" ++ parameter.asOption ++ "' cannot be used multiple times"
  | .missing parameter => "the argument '" ++ parameter.asOperand ++ "' is required"

/-- What is said about a usage fault. Who asks for nothing is given help. -/
def UsageFault.report : UsageFault → String
  | .noCommand => helpText
  | fault => inLines ["error: " ++ fault.message, "", "For more information, try '--help'."]

/-! ## Completions -/

def commandWords : String := " ".intercalate (forms.map (·.name) ++ ["help"])

def Form.optionWords (form : Form) : String :=
  " ".intercalate (form.options.map (fun option => "--" ++ option.name) ++ ["--help"])

def Shell.completions : Shell → String
  | .bash =>
    inLines (["_docfilter() \x7b", "  local cur=\"$\x7bCOMP_WORDS[COMP_CWORD]\x7d\"",
        "  case \"$\x7bCOMP_WORDS[1]\x7d\" in"]
      ++ (forms.map fun form => "    " ++ form.name ++ ") COMPREPLY=($(compgen -f -W \""
        ++ form.optionWords ++ "\" -- \"$cur\")) ;;")
      ++ ["    *) COMPREPLY=($(compgen -W \"" ++ commandWords ++ "\" -- \"$cur\")) ;;", "  esac",
        "\x7d", "complete -F _docfilter docfilter"])
  | .elvish =>
    inLines ["set edit:completion:arg-completer[docfilter] = \x7b|@words| put " ++ commandWords
      ++ " \x7d"]
  | .fish =>
    inLines (("complete -c docfilter -n __fish_use_subcommand -a '" ++ commandWords ++ "'")
      :: forms.flatMap fun form => form.options.map fun option =>
        "complete -c docfilter -n '__fish_seen_subcommand_from " ++ form.name ++ "' -l "
          ++ option.name ++ " -r")
  | .powershell =>
    inLines ["Register-ArgumentCompleter -Native -CommandName docfilter -ScriptBlock \x7b",
      "  param($word, $ast, $position)",
      "  '" ++ commandWords ++ "'.Split(' ') | Where-Object \x7b $_ -like \"$word*\" \x7d", "\x7d"]
  | .zsh =>
    inLines (["#compdef docfilter", "if (( CURRENT == 2 )); then", "  compadd " ++ commandWords,
        "else", "  case $words[2] in"]
      ++ (forms.map fun form => "    " ++ form.name ++ ") compadd -- " ++ form.optionWords
        ++ "; _files ;;")
      ++ ["  esac", "fi"])

end DocExcerpt.CommandLine
