import SchemaGrammar.Main
import SchemaGrammar.Schema.Writer
import SchemaGrammar.Proofs.Emission
import SchemaGrammar.Proofs.Fragment
import SchemaGrammar.Proofs.Record
import SchemaGrammar.Proofs.Grammar
import SchemaGrammar.Proofs.Acceptance
import SchemaGrammar.Proofs.RecordLanguage
import SchemaGrammar.Proofs.Json.RoundTrip
import SchemaGrammar.Proofs.Reading
import SchemaGrammar.Proofs.RuleForm
import SchemaGrammar.Proofs.GrammarForm
import SchemaGrammar.Proofs.TypeParsing
import SchemaGrammar.Proofs.Independence
import SchemaGrammar.Proofs.Symbols
import SchemaGrammar.Proofs.Faults
import SchemaGrammar.Proofs.History
import SchemaGrammar.Proofs.Workspace
import SchemaGrammar.Proofs.Output
import SchemaGrammar.Proofs.Modules
import SchemaGrammar.Proofs.Generate
import SchemaGrammar.Proofs.Indirection
import SchemaGrammar.Proofs.Terminals
import SchemaGrammar.Proofs.Validity
import SchemaGrammar.Proofs.SchemaForm
import SchemaGrammar.Proofs.Wrappers
import SchemaGrammar.Proofs.Places
import SchemaGrammar.Proofs.Labels
import SchemaGrammar.Proofs.Json.Depth
import SchemaGrammar.Proofs.Agreement
import SchemaGrammar.Proofs.Classification
import SchemaGrammar.Proofs.TypeErrors
import SchemaGrammar.Proofs.TypePrinting
import SchemaGrammar.Proofs.Manifest
import SchemaGrammar.Proofs.TypePieces
import SchemaGrammar.Proofs.TypeSplitting
import SchemaGrammar.Proofs.TypeLayout
import SchemaGrammar.Proofs.ModulePlaces
import SchemaGrammar.Proofs.Leftovers
import SchemaGrammar.Proofs.Collision
