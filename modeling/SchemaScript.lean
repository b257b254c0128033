import SchemaScript.Json.Reader
import SchemaScript.Json.Schema
import SchemaScript.Script.Generate
import SchemaScript.Toml.Config
import SchemaScript.Proofs.Ancestry
import SchemaScript.Proofs.Deferrals
import SchemaScript.Proofs.Rounds
import SchemaScript.Proofs.Outcomes
import SchemaScript.Proofs.TableOrder
import SchemaScript.Proofs.Subjects
import SchemaScript.Proofs.Resolution
import SchemaScript.Proofs.DefinitionBeforeUse
import SchemaScript.Proofs.Blame
import SchemaScript.Proofs.Agreement
import SchemaScript.Proofs.Parts
import SchemaScript.Proofs.Reordering
import SchemaScript.Proofs.Determinism
import SchemaScript.Proofs.Spelling
import SchemaScript.Proofs.Embedding
import SchemaScript.Proofs.Restriction
import SchemaScript.Proofs.Texts
import SchemaScript.Proofs.Renaming
import SchemaScript.Proofs.Events
import SchemaScript.Proofs.Report
import SchemaScript.Proofs.Mentions
import SchemaScript.Proofs.Circles
import SchemaScript.Proofs.Forms
import SchemaScript.Proofs.RoundTrip
import SchemaScript.Proofs.Likeness
import SchemaScript.Proofs.HiddenFields
import SchemaScript.Proofs.EmptyTexts
import SchemaScript.Proofs.QuotedNames
import SchemaScript.Proofs.Remarks
import SchemaScript.Proofs.TableBody
import SchemaScript.Proofs.Parentheses
import SchemaScript.Proofs.Defaults
import SchemaScript.Proofs.KeyOrder
import SchemaScript.Proofs.StoredColumns
import SchemaScript.Proofs.TypeTexts
import SchemaScript.Proofs.Draining
import SchemaScript.Proofs.KeyLayout
import SchemaScript.Proofs.Maps
import SchemaScript.Proofs.History
import SchemaScript.Proofs.Building
import SchemaScript.Proofs.Margins
import SchemaScript.Proofs.Presentation
import SchemaScript.Proofs.Regularity
import SchemaScript.Proofs.Layouts
import SchemaScript.Proofs.Vocabularies
