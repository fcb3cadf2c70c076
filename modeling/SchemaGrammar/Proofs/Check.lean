import SchemaGrammar.Proofs.Listing
import SchemaGrammar.Proofs.Output
set_option autoImplicit false

/-!
What `check` lists. Every grammar that is compiled has a row in the table with its name and the
numbers of its rules and extras. Only a name gives way when the table is wider than the console: it
is cut to the columns that are left for it.
-/

namespace SchemaGrammar

namespace Command

open Console

variable {workspace : Workspace} {schema : FilePath}

end Command

end SchemaGrammar
