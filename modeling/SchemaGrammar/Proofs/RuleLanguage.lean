import Mathlib.Computability.Language
import SchemaGrammar.Proofs.Record
set_option autoImplicit false

/-!
The language of a rule. Its words are made of the symbols that the rule refers to, each with the
field that labels it, if one does. What the terminals of a grammar match is left open, since a rule
that refers to other rules never looks inside them: every statement holds for all `terminals`.
-/

open scoped Computability

namespace SchemaGrammar

/-- A symbol in a word, with the field that it is labelled with. -/
structure Letter where
  label : Option String
  symbol : String
  deriving DecidableEq

namespace Letter

/-- The letter with a label, whatever label it had. -/
def labelled (label : String) (letter : Letter) : Letter := ⟨some label, letter.symbol⟩

@[simp]
theorem labelled_mk (label : String) (former : Option String) (symbol : String) :
    labelled label ⟨former, symbol⟩ = ⟨some label, symbol⟩ := rfl

end Letter

/-- The words of several languages, one after the other. -/
theorem mem_prod_language_iff {languages : List (Language Letter)} {word : List Letter} :
    word ∈ languages.prod ↔
      ∃ parts, word = parts.flatten ∧ List.Forall₂ (· ∈ ·) parts languages := by
  induction languages generalizing word with
  | nil => simp
  | cons first rest inductionHypothesis =>
    rw [List.prod_cons, Language.mem_mul]
    constructor
    · intro membership
      rcases membership with ⟨front, opening, back, closing, rfl⟩
      obtain ⟨parts, rfl, matched⟩ := inductionHypothesis.mp closing
      exact ⟨front :: parts, rfl, .cons opening matched⟩
    · intro split
      rcases split with ⟨parts, rfl, matched⟩
      cases matched with
      | cons opening matched =>
        exact ⟨_, opening, _, inductionHypothesis.mpr ⟨_, rfl, matched⟩, rfl⟩

/-- The words in which an item stands a number of times, with one word of `between` after each item
but the last. -/
def separated (item : Letter) (between : Language Letter) : Nat → Language Letter
  | 0 => 1
  | 1 => {[item]}
  | count + 2 => {[item]} * between * separated item between (count + 1)

theorem separated_succ (item : Letter) (between : Language Letter) (count : Nat) :
    separated item between (count + 1) = {[item]} * (between * {[item]}) ^ count := by
  induction count with
  | zero => rw [pow_zero, mul_one, separated]
  | succ count inductionHypothesis =>
    rw [separated, inductionHypothesis, pow_succ']
    simp only [mul_assoc]

/-- A language of one word of one letter, taken any number of times. -/
theorem mem_singleton_pow_iff {item : Letter} {count : Nat} {word : List Letter} :
    word ∈ ({[item]} : Language Letter) ^ count ↔ word = List.replicate count item := by
  induction count generalizing word with
  | zero => simp
  | succ count inductionHypothesis =>
    rw [pow_succ', Language.mem_mul, List.replicate_succ]
    constructor
    · intro membership
      rcases membership with ⟨front, opening, back, closing, rfl⟩
      rw [inductionHypothesis.mp closing, Set.mem_singleton_iff.mp opening]
      rfl
    · rintro rfl
      exact ⟨[item], rfl, _, inductionHypothesis.mpr rfl, rfl⟩

theorem mem_kstar_iff_exists_pow {language : Language Letter} {word : List Letter} :
    word ∈ language∗ ↔ ∃ count : Nat, word ∈ language ^ count := by
  rw [Language.kstar_eq_iSup_pow, Language.mem_iSup]

theorem mem_mul_kstar_iff_exists_pow {front language : Language Letter} {word : List Letter} :
    word ∈ front * language∗ ↔ ∃ count : Nat, word ∈ front * language ^ count := by
  rw [Language.kstar_eq_iSup_pow, Language.mul_iSup, Language.mem_iSup]

namespace Rule

section Words

variable (terminals : Terminal → Language Letter)

mutual

/-- The words of a rule. -/
def language : Rule → Language Letter
  | symbol name => {[⟨none, name⟩]}
  | seq members => (languages members).prod
  | choice members => (languages members).sum
  | .repeat content => (language content)∗
  | repeat1 content => language content * (language content)∗
  | field name content => Language.map (Letter.labelled name) (language content)
  | precLeft _ content => language content
  | pattern value => terminals (.pattern value)
  | string value => terminals (.text value)
  | blank => 1

def languages : List Rule → List (Language Letter)
  | [] => []
  | rule :: rest => language rule :: languages rest

end

end Words

variable {terminals : Terminal → Language Letter}

theorem languages_eq_map (rules : List Rule) :
    languages terminals rules = rules.map (language terminals) := by
  induction rules with
  | nil => rfl
  | cons rule rest inductionHypothesis => rw [languages, inductionHypothesis, List.map_cons]

theorem language_seq (members : List Rule) :
    language terminals (seq members) = (members.map (language terminals)).prod := by
  rw [← languages_eq_map]
  rfl

@[simp]
theorem mem_language_symbol {name : String} {word : List Letter} :
    word ∈ language terminals (symbol name) ↔ word = [⟨none, name⟩] :=
  Set.mem_singleton_iff

@[simp]
theorem mem_language_field {name : String} {content : Rule} {word : List Letter} :
    word ∈ language terminals (field name content) ↔
      ∃ inner ∈ language terminals content, inner.map (Letter.labelled name) = word :=
  Set.mem_image _ _ _

theorem mem_language_field_symbol {label name : String} {word : List Letter} :
    word ∈ language terminals (field label (symbol name)) ↔ word = [⟨some label, name⟩] := by
  simp [eq_comm]

theorem mem_language_seq {members : List Rule} {word : List Letter} :
    word ∈ language terminals (seq members) ↔
      ∃ parts, word = parts.flatten ∧
        List.Forall₂ (fun part member => part ∈ language terminals member) parts members := by
  rw [language_seq, mem_prod_language_iff]
  simp only [List.forall₂_map_right_iff]

/-- An optional rule has one word more, the empty one. -/
@[simp]
theorem mem_language_optional {rule : Rule} {word : List Letter} :
    word ∈ language terminals (optional rule) ↔ word = [] ∨ word ∈ language terminals rule := by
  simp only [optional, language, languages, List.sum_cons, List.sum_nil, add_zero]
  rw [Language.mem_add, Language.mem_one]

theorem language_field_symbol (label name : String) :
    language terminals (field label (symbol name)) = {[⟨some label, name⟩]} := by
  ext word
  rw [mem_language_field_symbol]
  exact Set.mem_singleton_iff.symm

theorem language_repeat (content : Rule) :
    language terminals (.repeat content) = (language terminals content)∗ := rfl

theorem language_repeat1 (content : Rule) :
    language terminals (repeat1 content) =
      language terminals content * (language terminals content)∗ := rfl

theorem language_pair (first second : Rule) :
    language terminals (seq [first, second]) =
      language terminals first * language terminals second := by
  rw [language_seq]
  simp only [List.map_cons, List.map_nil, List.prod_cons, List.prod_nil, mul_one]

/-- A list without a delimiter is its item, repeated. -/
theorem mem_language_repetition_none {label name : String} {nonEmpty : Bool}
    {word : List Letter} :
    word ∈ language terminals (repetition (field label (symbol name)) none nonEmpty) ↔
      ∃ count, (nonEmpty = true → 1 ≤ count) ∧
        word = List.replicate count ⟨some label, name⟩ := by
  cases nonEmpty with
  | false =>
    rw [repetition, language_repeat, language_field_symbol]
    simp only [mem_kstar_iff_exists_pow, mem_singleton_pow_iff]
    simp
  | true =>
    rw [repetition, language_repeat1, language_field_symbol]
    simp only [mem_mul_kstar_iff_exists_pow, ← pow_succ', mem_singleton_pow_iff]
    constructor
    · intro counted
      rcases counted with ⟨count, rfl⟩
      exact ⟨count + 1, by simp, rfl⟩
    · intro counted
      rcases counted with ⟨count, positive, rfl⟩
      exact ⟨count - 1, by rw [Nat.sub_add_cancel (positive trivial)]⟩

/-- The items of a list that has at least one, with a delimiter between them. -/
theorem mem_language_delimited_iff {label name : String} {delimiter : Rule} {word : List Letter} :
    word ∈ language terminals
        (seq [field label (symbol name), .repeat (seq [delimiter, field label (symbol name)])]) ↔
      ∃ count, 1 ≤ count ∧
        word ∈ separated ⟨some label, name⟩ (language terminals delimiter) count := by
  rw [language_pair, language_repeat, language_pair, language_field_symbol]
  simp only [mem_mul_kstar_iff_exists_pow, ← separated_succ]
  constructor
  · intro counted
    rcases counted with ⟨count, member⟩
    exact ⟨count + 1, by simp, member⟩
  · intro counted
    rcases counted with ⟨count, positive, member⟩
    exact ⟨count - 1, by rwa [Nat.sub_add_cancel positive]⟩

/-- A list with a delimiter has one word of the delimiter between consecutive items. -/
theorem mem_language_repetition_some {label name : String} {delimiter : Rule} {nonEmpty : Bool}
    {word : List Letter} :
    word ∈ language terminals
        (repetition (field label (symbol name)) (some delimiter) nonEmpty) ↔
      ∃ count, (nonEmpty = true → 1 ≤ count) ∧
        word ∈ separated ⟨some label, name⟩ (language terminals delimiter) count := by
  cases nonEmpty with
  | true => simp [repetition, mem_language_delimited_iff]
  | false =>
    rw [repetition, mem_language_optional, mem_language_delimited_iff]
    constructor
    · intro membership
      rcases membership with rfl | ⟨count, _, member⟩
      · exact ⟨0, by simp, rfl⟩
      · exact ⟨count, by simp, member⟩
    · intro counted
      rcases counted with ⟨_ | count, _, member⟩
      · exact .inl member
      · exact .inr ⟨count + 1, by simp, member⟩

/-- A level of precedence changes no word. -/
theorem language_record (members : List Rule) (level : Option Level) :
    language terminals (record members level) = language terminals (seq members) := by
  cases level <;> rfl

end Rule

end SchemaGrammar
