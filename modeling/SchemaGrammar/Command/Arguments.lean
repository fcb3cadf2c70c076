import SchemaGrammar.FilePath
import SchemaGrammar.Text.Integer
set_option autoImplicit false

/-!
Command lines. Options of the whole program stand before the name of the command, its own options
and arguments behind it in any order. A value may follow its option as the next argument, behind an
equals sign after a long name, or directly behind a short one; the last of several values counts.
-/

namespace SchemaGrammar

inductive Action where
  | version
  /-- Writes every grammar of a schema to its file. -/
  | generate (schema manifest output : Option FilePath) (indent : Option Int)
  /-- Compiles a schema and lists its grammars. -/
  | check (schema manifest : Option FilePath)
  /-- Prints the text of the grammars, or of those with one name. -/
  | display (schema : FilePath) (grammar : Option String) (indent : Int)
  deriving DecidableEq

structure Command where
  verbose : Bool
  action : Action
  deriving DecidableEq

namespace Command

/-- The options that take a value. -/
inductive Setting where
  | manifest
  | output
  | indent
  | grammar
  deriving DecidableEq

namespace Setting

def long : Setting → String
  | manifest => "--manifest"
  | output => "--out"
  | indent => "--indent"
  | grammar => "--grammar"

def short? : Setting → Option Char
  | manifest => some 'm'
  | output => some 'o'
  | indent => none
  | grammar => some 'g'

end Setting

/-- The setting that an argument names, and its value if the argument holds it. -/
def setting? (allowed : List Setting) (argument : List Char) : Option (Setting × Option String) :=
  let long? :=
    allowed.find? fun setting => setting.long.toList == argument.takeWhile (· != '=')
  match long?, argument with
  | some setting, _ =>
    let value :=
      match argument.dropWhile (· != '=') with
      | _ :: value => some (String.ofList value)
      | [] => none
    some (setting, value)
  | none, '-' :: letter :: value => do
    let setting ← allowed.find? fun setting => setting.short? == some letter
    some (setting, if value.isEmpty then none else some (String.ofList value))
  | none, _ => none

/-- Whether an argument is an option and no plain argument. -/
def isOption : List Char → Bool
  | '-' :: _ :: _ => true
  | _ => false

/-- The settings of a command line and its plain arguments. -/
def scan (allowed : List Setting) :
    List String → Option (List (Setting × String) × List String)
  | [] => some ([], [])
  | argument :: rest =>
    if argument = "--" then some ([], rest)
    else if isOption argument.toList then
      match setting? allowed argument.toList with
      | none => none
      | some (setting, some value) =>
        (scan allowed rest).map fun (settings, plain) => ((setting, value) :: settings, plain)
      | some (setting, none) =>
        match rest with
        | [] => none
        | value :: rest =>
          (scan allowed rest).map fun (settings, plain) => ((setting, value) :: settings, plain)
    else (scan allowed rest).map fun (settings, plain) => (settings, argument :: plain)

/-- The value that counts for a setting. -/
def valueOf (settings : List (Setting × String)) (setting : Setting) : Option String :=
  settings.reverse.lookup setting

def pathOf (settings : List (Setting × String)) (setting : Setting) : Option FilePath :=
  (valueOf settings setting).map .ofText

/-- The indentation that the settings give, if they give one. -/
def indentOf (settings : List (Setting × String)) : Option (Option Int) :=
  match valueOf settings .indent with
  | none => some none
  | some text => (Text.readInteger text).toOption.map some

/-- At most one plain argument. -/
def single : List String → Option (Option FilePath)
  | [] => some none
  | [argument] => some (some (.ofText argument))
  | _ => none

/-- A command and the arguments behind its name. -/
def action? (name : String) (arguments : List String) : Option Action := do
  match name with
  | "generate" =>
    let (settings, plain) ← scan [.manifest, .output, .indent] arguments
    some (.generate (← single plain) (pathOf settings .manifest) (pathOf settings .output)
      (← indentOf settings))
  | "check" =>
    let (settings, plain) ← scan [.manifest] arguments
    some (.check (← single plain) (pathOf settings .manifest))
  | "show" =>
    let (settings, plain) ← scan [.grammar, .indent] arguments
    let schema ← ← single plain
    some (.display schema (valueOf settings .grammar) ((← indentOf settings).getD 2))
  | _ => none

/-- Whether an argument asks for the whole log; the short form may be repeated. -/
def isVerbose (argument : String) : Bool :=
  argument == "--verbose" ||
    match argument.toList with
    | '-' :: letters => !letters.isEmpty && letters.all (· == 'v')
    | _ => false

/-- The command that a command line gives. The version is asked for whatever comes after it, and two
dashes alone end the options of the program. -/
def ofArguments? : List String → Option Command
  | [] => none
  | argument :: rest =>
    if argument = "--version" then some ⟨false, .version⟩
    else if argument = "--" then
      match rest with
      | name :: rest => (action? name rest).map fun action => ⟨false, action⟩
      | [] => none
    else if isVerbose argument then
      (ofArguments? rest).map fun command => { command with verbose := true }
    else (action? argument rest).map fun action => ⟨false, action⟩

end Command

end SchemaGrammar
