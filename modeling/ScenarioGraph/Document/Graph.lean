/-
# ScenarioGraph.Document.Graph -- the graph of a document

The graph has the whole structure of the document, with lists of names read as
sets.  Its handles carry nothing, since a document has no actions; it can be
enumerated and planned, and its runs do nothing.
-/
import ScenarioGraph.Document.Basic
import ScenarioGraph.Graph.Declaration

namespace ScenarioGraph

set_option autoImplicit false

namespace Document

def GuardEntry.toGuard : GuardEntry → Guard
  | after names => .after (NameSet.ofList names)
  | when condition => .when condition

def InputEntry.declaration (entry : InputEntry) : InputDeclaration Unit :=
  ⟨entry.label, entry.guard.map GuardEntry.toGuard, ()⟩

def CheckEntry.declaration (entry : CheckEntry) : Check Unit :=
  ⟨entry.name, entry.guard.map GuardEntry.toGuard, ()⟩

def NodeEntry.declaration (entry : NodeEntry) : NodeDeclaration Unit :=
  ⟨entry.name, entry.predecessors, entry.inputs.map InputEntry.declaration,
    entry.checks.map CheckEntry.declaration⟩

def declaration (document : Document) : Declaration Unit :=
  ⟨document.start, ⟨none, none⟩, document.nodes.map NodeEntry.declaration⟩

def toGraph (document : Document) : Except GraphError (Graph Unit) := document.declaration.build

end Document

end ScenarioGraph
