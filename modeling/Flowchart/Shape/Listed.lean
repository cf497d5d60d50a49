/-
# The listed shape names

The shape names that flowchart viewers are known to understand, aliases
included.  The list is not closed: other names of the same form are accepted
and merely told apart.
-/
import Flowchart.Text.Basic

namespace Flowchart

/-- The known names of annotated shapes. -/
def listedShapes : List Text :=
  [
    "bang", "notch-rect", "card", "notched-rectangle", "cloud", "hourglass", "collate", "bolt",
    "com-link", "lightning-bolt", "brace", "brace-l", "comment", "brace-r", "braces", "lean-r",
    "in-out", "lean-right", "lean-l", "lean-left", "out-in", "cyl", "cylinder", "database", "db",
    "diam", "decision", "diamond", "question", "delay", "half-rounded-rectangle", "h-cyl", "das",
    "horizontal-cylinder", "lin-cyl", "disk", "lined-cylinder", "curv-trap", "curved-trapezoid",
    "display", "div-rect", "div-proc", "divided-process", "divided-rectangle", "doc", "document",
    "rounded", "event", "tri", "extract", "triangle", "fork", "join", "win-pane",
    "internal-storage", "window-pane", "f-circ", "filled-circle", "junction", "lin-doc",
    "lined-document", "lin-rect", "lin-proc", "lined-process", "lined-rectangle",
    "shaded-process", "notch-pent", "loop-limit", "notched-pentagon", "flip-tri",
    "flipped-triangle", "manual-file", "sl-rect", "manual-input", "sloped-rectangle", "trap-t",
    "inv-trapezoid", "manual", "trapezoid-top", "docs", "documents", "st-doc", "stacked-document",
    "st-rect", "processes", "procs", "stacked-rectangle", "odd", "flag", "paper-tape", "hex",
    "hexagon", "prepare", "trap-b", "priority", "trapezoid", "trapezoid-bottom", "rect", "proc",
    "process", "rectangle", "circle", "circ", "sm-circ", "small-circle", "start", "dbl-circ",
    "double-circle", "fr-circ", "framed-circle", "stop", "bow-rect", "bow-tie-rectangle",
    "stored-data", "fr-rect", "framed-rectangle", "subproc", "subprocess", "subroutine",
    "cross-circ", "crossed-circle", "summary", "tag-doc", "tagged-document", "tag-rect",
    "tag-proc", "tagged-process", "tagged-rectangle", "stadium", "pill", "terminal",
    "text"].map String.toList

end Flowchart
