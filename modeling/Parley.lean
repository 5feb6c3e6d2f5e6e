import Parley.Json.Printer
import Parley.Main
import Parley.Rehearsal
import Parley.Proofs.Engine.Course
import Parley.Proofs.Engine.Narration
import Parley.Proofs.Engine.Frame
import Parley.Proofs.Dialogue.Steps
import Parley.Proofs.Dialogue.Course
import Parley.Proofs.Dialogue.Chain
import Parley.Proofs.Engine.Supply
import Parley.Proofs.Roster
import Parley.Proofs.Library
import Parley.Proofs.Script.Table
import Parley.Proofs.Dialogue.Supply
import Parley.Proofs.Dialogue.Strict
import Parley.Proofs.Script.Forms
import Parley.Proofs.Script.Encoding
import Parley.Proofs.Script.Image
import Parley.Proofs.Engine.Likeness
import Parley.Proofs.Engine.Record
import Parley.Proofs.Dialogue.Passage
import Parley.Proofs.Dialogue.Hosting
import Parley.Proofs.Dialogue.Visited
import Parley.Proofs.Dialogue.Phases
import Parley.Proofs.Engine.Resolved
import Parley.Proofs.Dialogue.Resolved
import Parley.Proofs.Dialogue.Independence
import Parley.Proofs.Engine.Positions
import Parley.Proofs.Dialogue.Assertions
import Parley.Proofs.Forwarding
import Parley.Proofs.Inequality
import Parley.Proofs.Json.Integers
import Parley.Proofs.Script.Failures
import Parley.Proofs.Terminal.Listing
import Parley.Proofs.Engine.Parts
import Parley.Proofs.Dialogue.Pairing
import Parley.Proofs.Dialogue.Restart
import Parley.Proofs.Dialogue.Locality
import Parley.Proofs.Engine.Cue
import Parley.Proofs.Dialogue.Writing
import Parley.Proofs.Dialogue.Termination
import Parley.Proofs.Dialogue.Loading
import Parley.Proofs.Dialogue.Reloading
import Parley.Proofs.Engine.Choice
import Parley.Proofs.Dialogue.Selection
import Parley.Proofs.Offer
import Parley.Proofs.Engine.Distribution
import Parley.Proofs.Engine.Trail
import Parley.Proofs.Engine.Postorder
import Parley.Proofs.Script.CallStatements
import Parley.Proofs.Engine.Substitution
import Parley.Proofs.Engine.Assignments
import Parley.Proofs.Dialogue.Assignments
import Parley.Proofs.Json.Keys
import Parley.Proofs.Script.Core
import Parley.Proofs.Script.Rearrangement
import Parley.Proofs.Script.Flaws
import Parley.Proofs.Script.Parts
import Parley.Proofs.Script.Cuts
import Parley.Proofs.Script.Locations
import Parley.Proofs.Provenance
import Parley.Proofs.Script.Union
import Parley.Proofs.Dialogue.Lookups
import Parley.Proofs.Text.Utf8
import Parley.Proofs.Json.LineEnds
import Parley.Proofs.Script.Files
import Parley.Proofs.Engine.Within
import Parley.Proofs.Dialogue.Context
import Parley.Proofs.Dialogue.Company
import Parley.Proofs.Addition
import Parley.Proofs.Double.Grid
import Parley.Proofs.Double.Nearest
import Parley.Proofs.Double.Grammar
import Parley.Proofs.Double.Reading
import Parley.Proofs.Double.Writing
import Parley.Proofs.Script.Resolved
import Parley.Proofs.Engine.Legible
import Parley.Proofs.Dialogue.Legible
import Parley.Proofs.Terminal.Playing
import Parley.Proofs.Terminal.Player
import Parley.Proofs.Terminal.Printing
import Parley.Proofs.Terminal.Faithful
import Parley.Proofs.Roster.Latest
import Parley.Proofs.Text.Split
import Parley.Proofs.LogFilter.Composition
import Parley.Proofs.LogFilter.Hierarchy
import Parley.Proofs.Json.Strings
import Parley.Proofs.Json.Numbers
import Parley.Proofs.Json.Scalars
import Parley.Proofs.Rows
import Parley.Proofs.Binding
import Parley.Proofs.Terminal.Transcript
import Parley.Proofs.Terminal.Muting
import Parley.Proofs.Terminal.Hiding
