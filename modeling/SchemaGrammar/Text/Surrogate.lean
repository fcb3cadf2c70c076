set_option autoImplicit false

/-!
Halves of surrogate pairs. A JSON text can name one half of a pair alone, which is no character. A
string keeps such a half as a stand-in, a character of a plane for private use, and every place
where the text leaves the program decides what to make of it. `surrogate?_standIn` says that a
stand-in leads back to its half.
-/

namespace SchemaGrammar.Text

def isSurrogate (code : Nat) : Bool := 0xD800 ≤ code && code ≤ 0xDFFF

/-- The distance from a surrogate to its stand-in. -/
def standInShift : Nat := 0xF0000

/-- The character that is kept for a surrogate. -/
def standIn (code : Nat) : Char := Char.ofNat (standInShift + code)

/-- The surrogate that a character is kept for. -/
def surrogate? (c : Char) : Option Nat :=
  let code := c.toNat - standInShift
  if isSurrogate code then some code else none

/-- Whether every character of a text is one, so that the text has a UTF-8 form. -/
def isEncodable (text : String) : Bool := text.toList.all fun c => (surrogate? c).isNone

/-- Writes the surrogates of a text in their own way. -/
def mapSurrogates (write : Nat → List Char) (text : String) : String :=
  String.ofList (text.toList.flatMap fun c => ((surrogate? c).map write).getD [c])

/-- The text with three replacement characters for each surrogate, one for each byte that its
number would take in UTF-8. -/
def withReplacements : String → String :=
  mapSurrogates fun _ => ['\uFFFD', '\uFFFD', '\uFFFD']

theorem surrogate?_standIn :
    ∀ code, 0xD800 ≤ code → code ≤ 0xDFFF → surrogate? (standIn code) = some code := by
  intro code low high
  have valid : Nat.isValidChar (standInShift + code) := by
    simp only [Nat.isValidChar, standInShift]
    omega
  have number : (standIn code).toNat = standInShift + code := by
    rw [standIn, Char.ofNat, dif_pos valid]
    rfl
  simp [surrogate?, number, isSurrogate, low, high]

end SchemaGrammar.Text
