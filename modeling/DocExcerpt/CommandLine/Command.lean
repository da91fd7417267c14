import DocExcerpt.Files

/-!
# Commands

What a user may ask for on the command line, and the form in which each command is written: its
name, one operand, and options that take a value each.
-/

namespace DocExcerpt.CommandLine

/-- A shell for which completions can be printed. -/
inductive Shell where
  | bash
  | elvish
  | fish
  | powershell
  | zsh
  deriving DecidableEq, Repr

def Shell.name : Shell → String
  | .bash => "bash"
  | .elvish => "elvish"
  | .fish => "fish"
  | .powershell => "powershell"
  | .zsh => "zsh"

def Shell.all : List Shell := [.bash, .elvish, .fish, .powershell, .zsh]

def Shell.ofName? (name : Text) : Option Shell := Shell.all.find? fun shell => shell.name.toList = name

inductive Command where
  /-- Print the documentation at an address. -/
  | fetch (address : Text) (symbolFile : Option Path) (containingClass : Option Text)
  /-- Print a local page with its links converted as if it stood at an address. -/
  | relink (path : Path) (address : Option Text) (symbolFile : Option Path)
  /-- Tell whether an address is a page of the javadoc tool. -/
  | detect (address : Text)
  /-- Print the completions of a shell. -/
  | completions (shell : Shell)
  deriving DecidableEq, Repr

/-! ## Forms -/

inductive ValueKind where
  | text
  /-- A path, which may not be empty. -/
  | path
  | shell
  deriving DecidableEq, Repr

def ValueKind.accepts (kind : ValueKind) (value : Text) : Bool :=
  match kind with
  | .text => true
  | .path => !value.isEmpty
  | .shell => (Shell.ofName? value).isSome

/-- A place for a value: the operand of a command, or an option. -/
structure Parameter where
  name : String
  kind : ValueKind
  help : String
  deriving DecidableEq, Repr

structure Form where
  name : String
  about : String
  operand : Parameter
  options : List Parameter
  deriving DecidableEq, Repr

def symbolsOption : Parameter :=
  ⟨"symbols", .path, "File of qualified class names, one a line, to link as symbols"⟩

def fetchForm : Form where
  name := "fetch"
  about := "Fetch a Javadoc page, extract the class or member section and print it"
  operand := ⟨"url", .text, "Address of the page; a fragment selects a member"⟩
  options := [symbolsOption,
    ⟨"method-of", .text, "Class of the method, to be shown in place of the member heading"⟩]

def relinkForm : Form where
  name := "rewrite"
  about := "Rewrite references in a local HTML file as if it was served from an address"
  operand := ⟨"path", .path, "Path to the HTML file"⟩
  options := [⟨"url", .text, "Address that the page was fetched from"⟩, symbolsOption]

def detectForm : Form where
  name := "detect"
  about := "Check whether an address serves a javadoc-generated page"
  operand := ⟨"url", .text, "Address of the page"⟩
  options := []

def completionsForm : Form where
  name := "completions"
  about := "Print shell completions"
  operand := ⟨"shell", .shell, "Target shell"⟩
  options := []

def forms : List Form := [fetchForm, relinkForm, detectForm, completionsForm]

def form? (name : Text) : Option Form := forms.find? fun form => form.name.toList = name

end DocExcerpt.CommandLine
