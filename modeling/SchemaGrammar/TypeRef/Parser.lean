import SchemaGrammar.TypeRef
import SchemaGrammar.TypeRef.Token
set_option autoImplicit false

/-!
Parsing a written type. The syntax is

    type := "(" [type ("," type)*] ")" | path ["<" type ("," type)* ">"]
    path := identifier (("::" | ".") identifier)*

The parser takes one token at a time and keeps the brackets that are open, innermost first, with
the members read so far. A token that cannot continue the text is reported at once, so an error
names the first token after which no type can follow.
-/

namespace SchemaGrammar.TypeRef

/-- Why a text is no type. -/
inductive SyntaxFault where
  | unexpectedCharacter (character : Char)
  | emptyType
  | expected (kind : TokenKind) (found : String)
  | trailing (found : String)
  | emptyArguments
  deriving DecidableEq

def SyntaxFault.message : SyntaxFault → String
  | .unexpectedCharacter c => "Unexpected character " ++ Text.quoted c.toString
  | .emptyType => "Empty type"
  | .expected kind found =>
    let found := if found.isEmpty then "end of input" else found
    s!"Expected '{kind.name}', found '{found}'"
  | .trailing found => s!"Unexpected '{found}' after type"
  | .emptyArguments => "Empty generic argument list"

/-- A fault at a column of a text. -/
structure SyntaxError where
  fault : SyntaxFault
  text : String
  column : Nat
  deriving DecidableEq

/-- A message about a column of a text. -/
def messageAt (message : String) (column : Int) (text : String) : String :=
  s!"{message} at column {column} in type '{text}'"

def SyntaxError.message (error : SyntaxError) : String :=
  messageAt error.fault.message error.column error.text

/-- An open bracket with the members before the current one. -/
inductive Frame where
  | tuple (members : List TypeRef)
  | arguments (path : List String) (column : Nat) (members : List TypeRef)

def Frame.add (type : TypeRef) : Frame → Frame
  | .tuple members => .tuple (members ++ [type])
  | .arguments path column members => .arguments path column (members ++ [type])

/-- The type that a bracket makes when it is closed after a last member. -/
def Frame.close (last : TypeRef) : Frame → TypeRef
  | .tuple members => ⟨[], members ++ [last]⟩
  | .arguments path _ members => ⟨path, members ++ [last]⟩

def Frame.closing : Frame → TokenKind
  | .tuple _ => .closeParen
  | .arguments _ _ _ => .closeAngle

/-- What has been read of a type. -/
inductive State where
  /-- A type starts here; `first` tells whether the innermost bracket has no member yet. -/
  | start (frames : List Frame) (first : Bool)
  /-- A separator has been read, an identifier follows. -/
  | segment (frames : List Frame) (path : List String)
  /-- An identifier has been read, which the path may go on after. -/
  | name (frames : List Frame) (path : List String)
  /-- A type is complete. -/
  | complete (frames : List Frame) (type : TypeRef)

/-- A fault and its column. -/
abbrev Located := SyntaxFault × Nat

def Token.expected (token : Token) (kind : TokenKind) : Located :=
  (.expected kind token.text, token.column)

/-- The state after a complete type and one more token. -/
def State.afterType (frames : List Frame) (type : TypeRef) (token : Token) :
    Except Located State :=
  match frames with
  | [] => .error (.trailing token.text, token.column)
  | frame :: outer =>
    if token.kind = .comma then .ok (.start (frame.add type :: outer) false)
    else if token.kind = frame.closing then .ok (.complete outer (frame.close type))
    else .error (token.expected frame.closing)

/-- The state after a token that starts a type, or closes a bracket without members. -/
def State.atStart (frames : List Frame) (first : Bool) (token : Token) : Except Located State :=
  match token.kind, frames, first with
  | .identifier, _, _ => .ok (.name frames [token.text])
  | .openParen, _, _ => .ok (.start (.tuple [] :: frames) true)
  | .closeParen, .tuple _ :: outer, true => .ok (.complete outer ⟨[], []⟩)
  | .closeAngle, .arguments _ column _ :: _, true => .error (.emptyArguments, column)
  | _, _, _ => .error (token.expected .identifier)

def State.next (token : Token) : State → Except Located State
  | .start frames first => State.atStart frames first token
  | .segment frames path =>
    if token.kind = .identifier then .ok (.name frames (path ++ [token.text]))
    else .error (token.expected .identifier)
  | .name frames path =>
    if token.kind = .separator then .ok (.segment frames path)
    else if token.kind = .openAngle then
      .ok (.start (.arguments path token.column [] :: frames) true)
    else State.afterType frames ⟨path, []⟩ token
  | .complete frames type => State.afterType frames type token

/-- The type that has been read when the text ends. -/
def State.finish (column : Nat) : State → Except Located TypeRef
  | .start [] _ => .error (.emptyType, 1)
  | .start (_ :: _) _ | .segment _ _ => .error (.expected .identifier "", column)
  | .name [] path => .ok ⟨path, []⟩
  | .complete [] type => .ok type
  | .name (frame :: _) _ | .complete (frame :: _) _ =>
    .error (.expected frame.closing "", column)

/-- Reads the tokens on from a state; the text ends at a column. -/
def State.run (ending : Nat) : State → List Token → Except Located TypeRef
  | state, [] => state.finish ending
  | state, token :: rest =>
    match state.next token with
    | .ok state => state.run ending rest
    | .error fault => .error fault

/-- The column behind the last character of a text. -/
def endColumn (text : String) : Nat := text.toList.length + 1

/-- The tokens of a text, the ending as the last one. -/
def tokenize (text : String) : Except SyntaxError (List Token) :=
  match scan 1 text.toList with
  | .ok tokens => .ok (tokens ++ [⟨.ending, "", endColumn text⟩])
  | .error unexpected =>
    .error ⟨.unexpectedCharacter unexpected.character, text, unexpected.column⟩

/-- The type that a text writes. -/
def parse (text : String) : Except SyntaxError TypeRef :=
  match scan 1 text.toList with
  | .error unexpected =>
    .error ⟨.unexpectedCharacter unexpected.character, text, unexpected.column⟩
  | .ok tokens =>
    match State.run (endColumn text) (.start [] true) tokens with
    | .ok type => .ok type
    | .error (fault, column) => .error ⟨fault, text, column⟩

end SchemaGrammar.TypeRef
