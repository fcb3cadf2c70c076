import SchemaGrammar.DocumentFault
import SchemaGrammar.Workspace
set_option autoImplicit false

/-!
Failures: what stops the work without being reported as an error of the input. `Stop` adds them to
the errors of one kind, so that every step of the work says which of the two may end it.
-/

namespace SchemaGrammar

inductive Failure where
  /-- Settings are looked up in something that is no section. -/
  | sectionNotTable
  /-- A path is given by something that is no text. -/
  | pathNotText
  | longInteger
  | tooDeep
  /-- A text that is written holds halves of surrogate pairs. -/
  | notEncodable
  | read (fault : ReadFault)
  | write (fault : AccessFault)
  deriving DecidableEq

/-- What ends the work: an error of the input, or a failure. -/
inductive Stop (Error : Type) where
  | error (error : Error)
  | failure (failure : Failure)
  deriving DecidableEq

namespace Stop

variable {Error Other : Type}

def map (convert : Error → Other) : Stop Error → Stop Other
  | .error cause => .error (convert cause)
  | .failure cause => .failure cause

/-- A text that cannot be read as a document is an error if it is malformed, and else a failure. -/
def ofDocument (malformed : Error) : DocumentFault → Stop Error
  | .malformed => .error malformed
  | .longInteger => .failure .longInteger
  | .tooDeep => .failure .tooDeep

end Stop

end SchemaGrammar
