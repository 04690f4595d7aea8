import OxyRoute.Lib.Dict
import OxyRoute.Native.Python
import Mathlib.Data.List.Sort
import Mathlib.Data.List.Dedup

/-!
# Dependency order

`dependency.rs`: the graph of a route's dependencies and its topological order. A hash set is a
list of its elements in iteration order.

## Main definitions

- `DependencyEntry` — a dependency with what was found out about its factory
- `DependencyGraph` — the graph, with `topologicalSort`
- `buildGraphFromEntries` — an edge from each dependency to the factories that name it
-/

namespace OxyRoute

variable {Ref : Type}

/-- `DependencyEntry`. -/
structure DependencyEntry (Ref : Type) where
  name : String
  factory : Ref
  isAsync : Bool
  wantsRequest : Bool
  factoryParams : List String
  factoryVarkw : Bool
  deriving DecidableEq, Repr

/-- `HashSet::insert`. -/
def insertElem (s : List String) (x : String) : List String := if x ∈ s then s else s ++ [x]

/-- `DependencyGraph`: prerequisites with their dependents, and all nodes. -/
structure DependencyGraph where
  adj : Dict String (List String)
  nodes : List String

namespace DependencyGraph

/-- `DependencyGraph::new`. -/
def new : DependencyGraph := ⟨.empty, []⟩

/-- `ensure_node`. -/
def ensureNode (g : DependencyGraph) (name : String) : DependencyGraph where
  nodes := insertElem g.nodes name
  adj := if (g.adj.get? name).isSome then g.adj else g.adj.set name []

/-- `add_edge`: `prereq` must be evaluated before `dependent`. -/
def addEdge (g : DependencyGraph) (prereq dependent : String) : DependencyGraph :=
  let g := (g.ensureNode prereq).ensureNode dependent
  { g with adj := g.adj.set prereq (insertElem ((g.adj.get? prereq).getD []) dependent) }

/-- The in-degree map at the start of `topological_sort`. -/
def inDegrees (g : DependencyGraph) : Dict String ℕ :=
  let zero := g.nodes.foldl (fun d n => d.set n 0) (Dict.empty : Dict String ℕ)
  g.adj.entries.foldl
    (fun d e => e.2.foldl (fun d dep => d.set dep ((d.get? dep).getD 0 + 1)) d) zero

/-- The in-degrees and the nodes that became ready while the edges of a node are walked. -/
def relax (dependents : List String) (inDegree : Dict String ℕ) :
    Dict String ℕ × List String :=
  dependents.foldl
    (fun s dep =>
      match s.1.get? dep with
      | none => s
      | some deg => (s.1.set dep (deg - 1), if deg - 1 = 0 then s.2 ++ [dep] else s.2))
    (inDegree, [])

/-- The `while` loop of `topological_sort`. The stack has its top first, and every node is
pushed at most once, so the size of the in-degree map bounds the rounds. -/
def sortLoop (g : DependencyGraph) :
    ℕ → List String → Dict String ℕ → List String → List String
  | 0, _, _, order => order
  | _ + 1, [], _, order => order
  | fuel + 1, node :: stack, inDegree, order =>
    let (inDegree, next) := relax ((g.adj.get? node).getD []) inDegree
    sortLoop g fuel (next.insertionSort (· ≤ ·) ++ stack) inDegree (order ++ [node])

/-- `topological_sort`. -/
def topologicalSort (g : DependencyGraph) : Except String (List String) :=
  let inDegree := g.inDegrees
  let ready := (inDegree.entries.filter fun e => e.2 = 0).map (·.1)
  let order :=
    g.sortLoop inDegree.entries.length (ready.insertionSort (· ≤ ·)).reverse inDegree []
  if order.length = g.nodes.length then .ok order else .error "dependency cycle detected"

end DependencyGraph

/-- `build_graph_from_entries`. -/
def buildGraphFromEntries (entries : List (DependencyEntry Ref)) : DependencyGraph :=
  let names := entries.map (·.name)
  let graph := entries.foldl (fun g e => g.ensureNode e.name) .new
  entries.foldl
    (fun g e => (e.factoryParams.filter (· ∈ names)).foldl (fun g p => g.addEdge p e.name) g)
    graph

/-- The order `add_route` stores dependencies in: the topological order of their graph. -/
def orderDependencies (dependencies : List (DependencyEntry Ref)) :
    Except String (List (DependencyEntry Ref)) := do
  let order ← (buildGraphFromEntries dependencies).topologicalSort
  return List.filterMap (fun name => dependencies.find? fun d => d.name = name) order

/-- `parse_dependencies`: the loop, with the names already seen. -/
def parseDependenciesFrom (py : Introspection Ref) (seen : List String) :
    List Ref → Except (PyErr Ref) (List (DependencyEntry Ref))
  | [] => .ok []
  | it :: rest => do
    let tup ← py.tupleItems it
    match tup with
    | [first, f] =>
      let name ← py.extractString first
      if name ∈ seen then throw (.valueError "duplicate dependency name")
      let isAsync ← py.isCoroutineFunction f
      let wantsRequest ← dependencyWantsRequest py f
      let (factoryParams, factoryVarkw) ← handlerSignatureKinds py f
      let out ← parseDependenciesFrom py (name :: seen) rest
      return ⟨name, f, isAsync, wantsRequest, factoryParams, factoryVarkw⟩ :: out
    | _ => throw (.valueError "each dependency must be (name, callable)")

/-- `parse_dependencies`. -/
def parseDependencies (py : Introspection Ref) (depList : List Ref) :
    Except (PyErr Ref) (List (DependencyEntry Ref)) :=
  parseDependenciesFrom py [] depList

end OxyRoute
