set_option autoImplicit false

/-!
Line ends. A carriage return, alone or before a line feed, ends a line as a line feed does.
-/

namespace SchemaGrammar.Text

/-- The text with every line end written as a line feed. `afterReturn` tells whether the character
before was a carriage return. -/
def unifyNewlinesFrom (afterReturn : Bool) : List Char → List Char
  | [] => []
  | c :: rest =>
    if c = '\r' then '\n' :: unifyNewlinesFrom true rest
    else if c = '\n' && afterReturn then unifyNewlinesFrom false rest
    else c :: unifyNewlinesFrom false rest

def unifyNewlines (text : String) : String :=
  String.ofList (unifyNewlinesFrom false text.toList)

theorem return_not_mem_unifyNewlinesFrom (afterReturn : Bool) (text : List Char) :
    '\r' ∉ unifyNewlinesFrom afterReturn text := by
  fun_induction unifyNewlinesFrom afterReturn text <;> grind

end SchemaGrammar.Text
