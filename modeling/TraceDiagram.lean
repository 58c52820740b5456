import TraceDiagram.Dict
import TraceDiagram.Text.LetterCase
import TraceDiagram.Text.Lines
import TraceDiagram.Text.Split
import TraceDiagram.Text.Utf8
import TraceDiagram.Unicode.Digit
import TraceDiagram.Unicode.Word
import TraceDiagram.Pattern
import TraceDiagram.Json
import TraceDiagram.Compiler
import TraceDiagram.Validation
import TraceDiagram.Config.Text
import TraceDiagram.Shell
import TraceDiagram.Session
import TraceDiagram.Proofs.References
import TraceDiagram.Proofs.Reading
import TraceDiagram.Proofs.Declarations
import TraceDiagram.Proofs.Brackets
import TraceDiagram.Proofs.Compiling
import TraceDiagram.Proofs.SilentLines
import TraceDiagram.Proofs.Lifetimes
import TraceDiagram.Proofs.Default.Patterns
import TraceDiagram.Proofs.Extraction
import TraceDiagram.Proofs.OpenCalls
import TraceDiagram.Proofs.CallChain
import TraceDiagram.Proofs.Attributes
import TraceDiagram.Proofs.Default.Matching
import TraceDiagram.Proofs.Default.CallForest
import TraceDiagram.Proofs.ParamLists
import TraceDiagram.Proofs.Default.Notes
import TraceDiagram.Proofs.Scanning
import TraceDiagram.Proofs.Toml.Texts
import TraceDiagram.Proofs.Toml.Lines
import TraceDiagram.Proofs.Toml.Tables
import TraceDiagram.Proofs.ConfigFiles
import TraceDiagram.Proofs.Template.SlotNames
import TraceDiagram.Proofs.Template.Slots
import TraceDiagram.Proofs.Template.SlotRendering
import TraceDiagram.Proofs.Default.Wording
import TraceDiagram.Proofs.Default.Furnishing
import TraceDiagram.Proofs.Default.Document
import TraceDiagram.Proofs.Resolution
import TraceDiagram.Proofs.Acceptance
import TraceDiagram.Proofs.Problems
import TraceDiagram.Proofs.Groups
import TraceDiagram.Proofs.RepeatedGroups
import TraceDiagram.Proofs.Growth
import TraceDiagram.Proofs.Pattern.Invariants
import TraceDiagram.Proofs.Unbroken
import TraceDiagram.Proofs.Default.Rows
import TraceDiagram.Proofs.Headers
import TraceDiagram.Proofs.Pattern.Spelling
import TraceDiagram.Proofs.Default.LineGrammar
import TraceDiagram.Proofs.Files
import TraceDiagram.Proofs.Effects
import TraceDiagram.Proofs.Generating
import TraceDiagram.Proofs.Paths
import TraceDiagram.Proofs.ProjectFiles
import TraceDiagram.Proofs.Initializing
import TraceDiagram.Proofs.Fragments
import TraceDiagram.Proofs.Headings
import TraceDiagram.Proofs.ExecutingEntity
import TraceDiagram.Proofs.PartialFiles
import TraceDiagram.Proofs.Segments
import TraceDiagram.Proofs.Extensions
import TraceDiagram.Proofs.LineEnds
import TraceDiagram.Proofs.Default.ParamTexts
import TraceDiagram.Proofs.BlankBookmarks
import TraceDiagram.Proofs.Splitting
