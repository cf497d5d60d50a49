import Flowchart.Main
import Flowchart.Proofs.AppendedParts
import Flowchart.Proofs.AssignedNames
import Flowchart.Proofs.BareLabels
import Flowchart.Proofs.ClauseBreaks
import Flowchart.Proofs.CutLabels
import Flowchart.Proofs.DanglingEnds
import Flowchart.Proofs.Dispatching
import Flowchart.Proofs.ExtractedDiagram
import Flowchart.Proofs.ExtractedDocument
import Flowchart.Proofs.FencedAnswers
import Flowchart.Proofs.FilledSlots
import Flowchart.Proofs.HyphenCompounds
import Flowchart.Proofs.LineOrder
import Flowchart.Proofs.NothingExtracted
import Flowchart.Proofs.RenderedLayout
import Flowchart.Proofs.SchemaDecoding
import Flowchart.Proofs.ScrubbedText
import Flowchart.Proofs.ShapedEnds
import Flowchart.Proofs.WellFormedChecks
import Flowchart.Proofs.SmallSigmas
