import FaultStatus.Holder
import FaultStatus.Json.Form
import FaultStatus.Proofs.Segment.LeadingRun
import FaultStatus.Proofs.FirstError
import FaultStatus.Proofs.Pattern.Grammar
import FaultStatus.Proofs.Pattern.Specificity
import FaultStatus.Proofs.PatternTree.Walk
import FaultStatus.Proofs.PatternTree.Insert
import FaultStatus.Proofs.Compile.Tables
import FaultStatus.Proofs.PatternTree.Lookup
import FaultStatus.Proofs.Ruleset.History
import FaultStatus.Proofs.Compile.FirstOffence
import FaultStatus.Proofs.Resolution
import FaultStatus.Proofs.Holder.Run
import FaultStatus.Proofs.Rearrangement
import FaultStatus.Proofs.Compile.Faults
import FaultStatus.Proofs.Ruleset.Slots
import FaultStatus.Proofs.Ruleset.Rearranged
import FaultStatus.Proofs.Snapshot.Agreement
import FaultStatus.Proofs.Text.Quoted
import FaultStatus.Proofs.Explanation.Rendered
import FaultStatus.Proofs.Spelling
import FaultStatus.Proofs.Json.Configuration
import FaultStatus.Proofs.Pattern.Fault
import FaultStatus.Proofs.PatternTree.Attempt
import FaultStatus.Proofs.Snapshot.Refinement
import FaultStatus.Proofs.Snapshot.Scope
import FaultStatus.Proofs.Segment.Spelled
import FaultStatus.Proofs.Reason.Language
import FaultStatus.Proofs.Code.Language
import FaultStatus.Proofs.Snapshot.Caught
import FaultStatus.Proofs.Compile.Counts
import FaultStatus.Proofs.Ruleset.Contents
import FaultStatus.Proofs.Ruleset.Absorbed
import FaultStatus.Proofs.Compile.Events
import FaultStatus.Proofs.Holder.Records
import FaultStatus.Proofs.Text.SmallForms
import FaultStatus.Proofs.Text.Trimmed
import FaultStatus.Proofs.Normalization
import FaultStatus.Proofs.Ruleset.Respelled
import FaultStatus.Proofs.Snapshot.Conservative
import FaultStatus.Proofs.Compile.Messages
import FaultStatus.Proofs.Json.Presentation
import FaultStatus.Proofs.PatternTree.Nodes
import FaultStatus.Proofs.PatternTree.Shape
import FaultStatus.Proofs.PatternTree.InPlace
import FaultStatus.Proofs.PatternTree.Accumulator
import FaultStatus.Proofs.Segment.Recognition
