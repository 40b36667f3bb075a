import SearchQuery.Text
import SearchQuery.Number
import SearchQuery.Time
import SearchQuery.Model
import SearchQuery.Term
import SearchQuery.Syntax
import SearchQuery.Value
import SearchQuery.Value.Term
import SearchQuery.Value.Elements
import SearchQuery.Value.Attribute
import SearchQuery.Document
import SearchQuery.Build.Guard
import SearchQuery.Build.Node
import SearchQuery.Build.Operator
import SearchQuery.Stage
import SearchQuery.Json
import SearchQuery.ExtendedJson.Encode
import SearchQuery.ExtendedJson.Decode
import SearchQuery.Script.Session
import SearchQuery.Script.Library.Fields
import SearchQuery.Script.Library.Operators
import SearchQuery.Script.Library
import SearchQuery.Script.Expr
import SearchQuery.Workspace
import SearchQuery.CommandLine
import SearchQuery.Notation
import SearchQuery.Main
import SearchQuery.Proofs.Demand
import SearchQuery.Proofs.Outcome
import SearchQuery.Proofs.DocumentOrder
import SearchQuery.Proofs.Follow
import SearchQuery.Proofs.Slots
import SearchQuery.Proofs.Alike
import SearchQuery.Proofs.StageOrder
import SearchQuery.Proofs.TwoPhase
import SearchQuery.Proofs.References
import SearchQuery.Proofs.Admissible
import SearchQuery.Proofs.Sound
import SearchQuery.Proofs.Builders
import SearchQuery.Proofs.OperatorBuilders
import SearchQuery.Proofs.Factories
import SearchQuery.Proofs.Grammar
import SearchQuery.Proofs.Conformance
import SearchQuery.Proofs.Recovery
import SearchQuery.Proofs.ScoreRecovery
import SearchQuery.Proofs.Injectivity
import SearchQuery.Proofs.Accumulation
import SearchQuery.Proofs.Staging
import SearchQuery.Proofs.Answered
import SearchQuery.Proofs.Reports
import SearchQuery.Proofs.StageFrame
import SearchQuery.Proofs.Constructors
import SearchQuery.Proofs.Accepted
import SearchQuery.Proofs.NumericDomains
import SearchQuery.Proofs.Storable
import SearchQuery.Proofs.StoredNames
import SearchQuery.Proofs.Composition
import SearchQuery.Proofs.OpenedModels
import SearchQuery.Proofs.FacetNames
import SearchQuery.Proofs.FieldNames
import SearchQuery.Proofs.Products
import SearchQuery.Proofs.Boundaries
import SearchQuery.Proofs.Runs
import SearchQuery.Proofs.Targets
import SearchQuery.Proofs.Containment
import SearchQuery.Proofs.JsonStrings
import SearchQuery.Proofs.Doubles
import SearchQuery.Proofs.JsonNumbers
import SearchQuery.Proofs.JsonReading
import SearchQuery.Proofs.Calendar
import SearchQuery.Proofs.DateReading
import SearchQuery.Proofs.ReadBack
import SearchQuery.Proofs.DocumentKeys
import SearchQuery.Proofs.PrintedDocuments
import SearchQuery.Proofs.KeptBounds
import SearchQuery.Proofs.GeometryAcceptance
import SearchQuery.Proofs.GeometryForm
import SearchQuery.Proofs.NestedModels
import SearchQuery.Proofs.JsonGrammar
import SearchQuery.Proofs.JsonTokens
import SearchQuery.Proofs.JsonRecognition
import SearchQuery.Proofs.RawTexts
