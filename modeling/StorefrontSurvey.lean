import StorefrontSurvey.Main
import StorefrontSurvey.Session.Session
import StorefrontSurvey.Json.Reader
import StorefrontSurvey.Routes.StoredQuery
import StorefrontSurvey.Proofs.Tools.OutsideContent
import StorefrontSurvey.Proofs.Tools.Runs
import StorefrontSurvey.Proofs.Schema.LastBuilds
import StorefrontSurvey.Proofs.Sandbox.Faults
import StorefrontSurvey.Proofs.Sandbox.NullCharacters
import StorefrontSurvey.Proofs.Tools.Answers
import StorefrontSurvey.Proofs.Path.Segments
import StorefrontSurvey.Proofs.Placement.Ownership
import StorefrontSurvey.Proofs.Placement.Spelling
import StorefrontSurvey.Proofs.Placement.Moves
import StorefrontSurvey.Proofs.Routes.Manifests
import StorefrontSurvey.Proofs.Routes.Provenance
import StorefrontSurvey.Proofs.Schema.FieldNames
import StorefrontSurvey.Proofs.Tools.Degradation
import StorefrontSurvey.Proofs.Schema.Described
import StorefrontSurvey.Proofs.Schema.ParsedNames
import StorefrontSurvey.Proofs.Schema.Catalogs
import StorefrontSurvey.Proofs.Tools.FieldLookups
import StorefrontSurvey.Proofs.Placement.Attribution
import StorefrontSurvey.Proofs.Path.Ways
import StorefrontSurvey.Proofs.Sandbox.LexicalGate
import StorefrontSurvey.Proofs.Sandbox.Containment
import StorefrontSurvey.Proofs.Json.ReadBack
import StorefrontSurvey.Proofs.Tools.LegibleAnswers
import StorefrontSurvey.Proofs.Cli.Invocations
import StorefrontSurvey.Proofs.Cli.FrontEnd
import StorefrontSurvey.Proofs.Sandbox.Repetition
import StorefrontSurvey.Proofs.Tools.FileReaders
import StorefrontSurvey.Proofs.Routes.CallOrigins
import StorefrontSurvey.Proofs.Script.Trees
import StorefrontSurvey.Proofs.Routes.DeclaredCalls
import StorefrontSurvey.Proofs.Outline.Entries
import StorefrontSurvey.Proofs.Outline.Expressions
import StorefrontSurvey.Proofs.Outline.Defaults
import StorefrontSurvey.Proofs.Outline.TopNames
import StorefrontSurvey.Proofs.Placement.Allowlists
import StorefrontSurvey.Proofs.Wire.Layouts
import StorefrontSurvey.Proofs.Wire.Models
import StorefrontSurvey.Proofs.Text.Lowering
import StorefrontSurvey.Proofs.Schema.Searches
import StorefrontSurvey.Proofs.Tools.SearchLookups
import StorefrontSurvey.Proofs.Json.Openings
import StorefrontSurvey.Proofs.Schema.Formats
import StorefrontSurvey.Proofs.Sandbox.FixedPoints
import StorefrontSurvey.Proofs.Path.Climbing
