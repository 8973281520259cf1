import BuildTriage.BuildStore

/-!
# Downstream builds

The builds that a build set off are found in two ways: from the graph of invocations
recorded for it, and from the builds that name it as what started them. The answers of
several finders are joined; each build keeps its first place.
-/

namespace BuildTriage

/-- A vertex of a graph of invocations: a build, or the reason why it never ran. -/
inductive Invocation where
  | ran (build : BuildRef)
  | failed (reason : String)
  deriving DecidableEq, Repr

/-- The build of a vertex that ran. -/
def Invocation.build? : Invocation → Option BuildRef
  | .ran b => some b
  | .failed _ => none

/-- The graphs of invocations recorded for builds; the latest of a build counts. -/
structure FlowGraphs where
  /-- The graphs, the latest first. -/
  graphs : List (BuildRef × List Invocation)
  deriving DecidableEq, Repr

namespace FlowGraphs

/-- No graphs. -/
def empty : FlowGraphs := ⟨[]⟩

/-- The graphs with one more. -/
def record (g : FlowGraphs) (root : BuildRef) (vertices : List Invocation) : FlowGraphs :=
  ⟨(root, vertices) :: g.graphs⟩

/-- The vertices of the graph of a build, in order. -/
def vertices (g : FlowGraphs) (root : BuildRef) : List Invocation := (g.graphs.lookup root).getD []

/-- The builds in the graph of a build, other than itself. -/
def downstream (g : FlowGraphs) (root : BuildRef) : List BuildRef :=
  ((g.vertices root).filterMap Invocation.build?).filter (· != root)

end FlowGraphs

/-- A build names another as what started it. -/
def BuildInfo.startedBy (i : BuildInfo) (root : BuildRef) : Bool :=
  i.parent.any fun p => p.project == root.project && p.build == root.number

/-- The builds in a store that name a build as what started them. -/
def BuildStore.startedBy (s : BuildStore) (root : BuildRef) : List BuildRef :=
  (s.records.filter (·.info.startedBy root)).map (·.info.build)

/-- A way to find downstream builds. -/
inductive DownstreamFinder where
  /-- From the recorded graphs of invocations. -/
  | flow (graphs : FlowGraphs)
  /-- From the builds of a store. -/
  | parents (store : BuildStore)
  deriving DecidableEq, Repr

namespace DownstreamFinder

/-- The downstream builds that a finder knows. -/
def find (root : BuildRef) : DownstreamFinder → List BuildRef
  | .flow graphs => graphs.downstream root
  | .parents store => store.startedBy root

/-- Adds the items that are not there yet, in order. -/
def addNew (known : List BuildRef) (more : List BuildRef) : List BuildRef :=
  more.foldl (fun known b => if known.contains b then known else known ++ [b]) known

/-- The downstream builds that any of the finders knows, each in its first place. -/
def findAll (finders : List DownstreamFinder) (root : BuildRef) : List BuildRef :=
  finders.foldl (fun known f => addNew known (f.find root)) []

end DownstreamFinder

end BuildTriage
