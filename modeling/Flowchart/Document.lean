/-
# Flowchart documents

A document lists the nodes and the links of a flowchart in the order in which
they are drawn.  Links name their ends by node id; an id that no node has is
*dangling*, which is allowed.
-/
import Flowchart.LinkStyle
import Flowchart.Orientation
import Flowchart.Shape

namespace Flowchart

/-- A node with its label. -/
structure Node where
  id : Text
  label : Text
  shape : NodeShape
deriving DecidableEq, Repr

/-- A link between two nodes. -/
structure Link where
  source : Text
  target : Text
  style : LinkStyle
  label : Option Text
deriving DecidableEq, Repr

/-- A flowchart: its orientation, its nodes and its links. -/
structure Document where
  orientation : Orientation
  nodes : List Node
  links : List Link
deriving DecidableEq, Repr

namespace Link

/-- The label without blanks around it, if anything is left of it. -/
def visibleLabel? (l : Link) : Option Text :=
  l.label.bind Text.nonBlank?

/-- The two ends of a link, the source first. -/
def ends (l : Link) : List Text :=
  [l.source, l.target]

end Link

namespace Document

/-- The first node with the given id. -/
def findNode? (d : Document) (id : Text) : Option Node :=
  d.nodes.find? fun n => n.id = id

/-- The ends of all links, in order. -/
def ends (d : Document) : List Text :=
  d.links.flatMap Link.ends

/-- The ends that name no node, each at its first place. -/
def dangling (d : Document) : List Text :=
  (d.ends.filter fun id => (d.findNode? id).isNone).foldl
    (fun seen id => if id ∈ seen then seen else seen ++ [id]) []

end Document

end Flowchart
