import Mathlib.Data.List.Dedup
import SchemaGrammar.Proofs.Json.Depth
import SchemaGrammar.Proofs.Json.Encoding
import SchemaGrammar.Proofs.RuleForm
set_option autoImplicit false

/-!
A grammar that is written as JSON is read back as the same grammar, with its rules in the same
order: from the value and, under every indentation, from the text. A rule name that is Unicode text
stays as it is where it becomes a key. Other names become Unicode text there, perhaps the same for
several rules; `kept` is the grammar that its form holds in any case.
-/

namespace SchemaGrammar

namespace Grammar

variable {grammar : Grammar}

/-- The grammar that the JSON form holds: its rules go by the names that are keys, and of those
under one key the last is kept. -/
def kept (grammar : Grammar) : Grammar :=
  { grammar with
    rules := Table.distinct
      (grammar.rules.map fun (name, rule) => (Text.withReplacements name, rule)) }

theorem nodup_kept (grammar : Grammar) : (grammar.kept.rules.map Prod.fst).Nodup :=
  Table.nodup_keys_distinct _

/-- The keys that the rules of a grammar stand under in its form. -/
def keys (grammar : Grammar) : List String :=
  grammar.rules.map fun (name, _) => Text.withReplacements name

theorem rulesValue_eq (grammar : Grammar) :
    grammar.rulesValue =
      .table (grammar.kept.rules.map fun (name, rule) => (name, rule.toValue)) := by
  rw [kept, ← Table.distinct_map, List.map_map]
  rfl

theorem rulesReader_rulesValue (fit : ∀ rule ∈ grammar.kept.rules, rule.2.FitsIn .outermost) :
    rulesReader grammar.rulesValue = .valid grammar.kept.rules := by
  have each : ∀ entry ∈ grammar.kept.rules,
      Rule.reader entry.2.toValue.distinct = .valid entry.2 := by
    intro entry member
    rw [Rule.distinct_toValue]
    exact Rule.reading_toValue (fit entry member)
  have read := Checked.entries_of_valid (fun rule => Rule.reader rule.toValue.distinct) each
  rw [rulesValue_eq, rulesReader, List.map_map]
  refine (congrArg (Checked.map Table.distinct) read).trans ?_
  rw [Checked.map, Table.distinct_of_nodup grammar.nodup_kept]

theorem extrasReader_symbolValues (names : List String) :
    extrasReader (.list (names.map Rule.symbolValue)) = .valid names := by
  have same : (Value.list (names.map Rule.symbolValue)).distinct =
      .list (names.map Rule.symbolValue) := by
    rw [Value.distinct_list, List.map_map]
    refine congrArg Value.list (List.map_congr_left ?_)
    intro name _
    exact Rule.distinct_toValue (.symbol name)
  rw [extrasReader, same]
  exact Reader.list_of_valid fun _ _ => rfl

theorem reader_toValue (fit : ∀ rule ∈ grammar.kept.rules, rule.2.FitsIn .outermost) :
    reader grammar.toValue = .valid grammar.kept := by
  have rules := rulesReader_rulesValue fit
  have extras := extrasReader_symbolValues grammar.extras
  refine Checked.apply_of_valid (Checked.apply_of_valid (Checked.map_of_valid Grammar.mk rfl) ?_) ?_
  · exact congrArg (Checked.inside (.key "rules")) rules
  · exact congrArg (Checked.inside (.key "extras")) extras

end Grammar

end SchemaGrammar
