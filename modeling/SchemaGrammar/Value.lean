import SchemaGrammar.Binary64
import SchemaGrammar.Calendar
set_option autoImplicit false

/-!
The values a document is made of. A table keeps its entries in the order in which they were
written; of several entries with one key the last one counts. `Value.fold` computes a result for a
value from the results for its direct parts; the readers of typed data are such folds.
-/

namespace SchemaGrammar

inductive Value where
  | null
  | bool (value : Bool)
  | integer (value : Int)
  | float (value : Binary64)
  | string (text : String)
  | moment (point : Moment)
  | list (items : List Value)
  | table (entries : List (String × Value))

/-- The entries of a table in order. The keys are distinct, but in a JSON text as it is written. -/
abbrev Table := List (String × Value)

namespace Table

/-- Puts something under a key: in the place of what was there before, or else at the end. -/
def set {Data : Type} (key : String) (data : Data) : List (String × Data) → List (String × Data)
  | [] => [(key, data)]
  | (other, former) :: rest =>
    if other = key then (key, data) :: rest else (other, former) :: set key data rest

/-- One entry for each key: the last one, in the place of the first. -/
def distinct {Data : Type} (entries : List (String × Data)) : List (String × Data) :=
  entries.foldl (fun table (key, data) => set key data table) []

end Table

namespace Value

/-- One layer of a value: its direct parts, each with the result computed for it. -/
inductive Layer (Result : Type) where
  | scalar (value : Value)
  | list (items : List (Value × Result))
  | table (entries : List (String × Value × Result))

mutual

/-- The result of a value, computed from the innermost parts outwards. -/
def fold {Result : Type} (step : Layer Result → Result) : Value → Result
  | .list items => step (.list (foldItems step items))
  | .table entries => step (.table (foldEntries step entries))
  | .null => step (.scalar .null)
  | .bool value => step (.scalar (.bool value))
  | .integer value => step (.scalar (.integer value))
  | .float value => step (.scalar (.float value))
  | .string text => step (.scalar (.string text))
  | .moment point => step (.scalar (.moment point))

def foldItems {Result : Type} (step : Layer Result → Result) : List Value → List (Value × Result)
  | [] => []
  | item :: rest => (item, fold step item) :: foldItems step rest

def foldEntries {Result : Type} (step : Layer Result → Result) :
    List (String × Value) → List (String × Value × Result)
  | [] => []
  | (key, value) :: rest => (key, value, fold step value) :: foldEntries step rest

end

theorem foldItems_eq_map {Result : Type} (step : Layer Result → Result) (items : List Value) :
    foldItems step items = items.map fun item => (item, fold step item) := by
  induction items <;> simp_all [foldItems]

theorem foldEntries_eq_map {Result : Type} (step : Layer Result → Result)
    (entries : List (String × Value)) :
    foldEntries step entries = entries.map fun (key, value) => (key, value, fold step value) := by
  induction entries <;> simp_all [foldEntries]

/-- The value with one entry for each key in all of its tables. -/
def distinct : Value → Value :=
  fold fun
    | .scalar value => value
    | .list items => .list (items.map fun (_, result) => result)
    | .table entries =>
      .table (Table.distinct (entries.map fun (key, _, result) => (key, result)))

end Value

end SchemaGrammar
