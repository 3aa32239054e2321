import WorkflowWalk.Flow.Paths

/-!
# Reports on documents

What a document looks like without being run: its size, its start and its ends, the paths, and how
each node is connected.
-/

namespace WorkflowWalk

structure Connections where
  nodeId : String
  kind : Kind
  label : String
  incoming : Nat
  outgoing : Nat
  connectedFrom : List String
  connectedTo : List String
deriving DecidableEq, Repr

structure Report where
  nodeCount : Nat
  edgeCount : Nat
  start : Option String
  startCandidates : List String
  endNodes : List String
  paths : List Path
  truncated : Bool
  connections : List Connections
deriving DecidableEq, Repr

namespace Document

def endNodes (document : Document) : List Node :=
  document.nodes.filter fun node => (document.outgoing node.id).isEmpty

def titleOf (document : Document) (id : String) : String :=
  ((document.node? id).map (·.title)).getD id

def connectionsOf (document : Document) (node : Node) : Connections :=
  let incoming := document.incoming node.id
  let outgoing := document.outgoing node.id
  { nodeId := node.id
    kind := node.kind
    label := node.title
    incoming := incoming.length
    outgoing := outgoing.length
    connectedFrom := incoming.map fun edge => document.titleOf edge.source
    connectedTo := outgoing.map fun edge => document.titleOf edge.target }

def connections (document : Document) : List Connections :=
  document.nodes.map document.connectionsOf

def defaultPathLimit : Nat := 1000

def report (document : Document) (limit : Nat) : Report :=
  let (paths, truncated) := document.paths limit none
  { nodeCount := document.nodes.length
    edgeCount := document.edges.length
    start := document.start?.map (·.id)
    startCandidates := document.startCandidates.map (·.id)
    endNodes := document.endNodes.map (·.id)
    paths, truncated
    connections := document.connections }

end Document

/-! ## Values -/

def Path.toJson (path : Path) : Json :=
  .obj [("nodeIds", .ofTexts path.nodeIds), ("cyclic", .bool path.cyclic)]

def Connections.toJson (connections : Connections) : Json :=
  .obj [
    ("nodeId", .str connections.nodeId),
    ("kind", .str connections.kind.name),
    ("label", .str connections.label),
    ("incoming", .int connections.incoming),
    ("outgoing", .int connections.outgoing),
    ("connectedFrom", .ofTexts connections.connectedFrom),
    ("connectedTo", .ofTexts connections.connectedTo)]

def Report.toJson (report : Report) : Json :=
  .obj [
    ("nodeCount", .int report.nodeCount),
    ("edgeCount", .int report.edgeCount),
    ("startNodeId", .ofText? report.start),
    ("startCandidates", .ofTexts report.startCandidates),
    ("endNodeIds", .ofTexts report.endNodes),
    ("paths", .arr (report.paths.map Path.toJson)),
    ("truncated", .bool report.truncated),
    ("connections", .arr (report.connections.map Connections.toJson))]

end WorkflowWalk
