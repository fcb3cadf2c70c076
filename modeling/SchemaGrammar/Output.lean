import SchemaGrammar.Rule.Json
import SchemaGrammar.Workspace
set_option autoImplicit false

/-!
Writing grammars to files. Every grammar has a directory of its own, named after it, in the output
directory; the file in it holds the JSON text of the grammar and a line end.
-/

namespace SchemaGrammar

namespace Grammar

def fileName : String := "grammar.json"

def directory (output : FilePath) (grammar : Grammar) : FilePath :=
  output.join (.ofText grammar.name)

def file (output : FilePath) (grammar : Grammar) : FilePath :=
  (grammar.directory output).child fileName

def fileText (indent : Option Int) (grammar : Grammar) : String :=
  grammar.render indent ++ "\n"

end Grammar

/-- Writes a grammar, after the directories above its file where these are missing. A text that
has no UTF-8 form leaves the file empty. -/
def Workspace.saveGrammar (output : FilePath) (indent : Option Int) (grammar : Grammar)
    (workspace : Workspace) : Except AccessFault Workspace := do
  let workspace ← workspace.provideDirectories (grammar.directory output)
  let text := grammar.fileText indent
  workspace.write (grammar.file output) (if Text.isEncodable text then text.toUTF8 else .empty)

end SchemaGrammar
