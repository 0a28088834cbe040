import KotlinPreferences.Proofs.Grouping
import KotlinPreferences.Proofs.SymbolGraph.WellFormed
import Mathlib.Data.List.Perm.Basic

/-!
# Edges in reading order

All edges of a graph are read by their sources in the order of the nodes. The edges out of one node
are read by their targets, in the order in which the first edge to each was added; and edges with the
same ends in the order in which they were added.

* `SymbolGraph.groupPlace`, `SymbolGraph.InReadingOrder`: that order, said of a list of edges;
* `orderedEdges_perm`, `Closed.inReadingOrder`: it is the order in which the edges are read, and no
  edge is lost on the way;
* `orderedEdges_of_ordered`: edges that are added in reading order are read as they were added.
-/

namespace KotlinPreferences.SymbolGraph

variable {g g' : SymbolGraph} {id : Text}

/-- Where the edges to the target of an edge come among those out of its source: the place of the
first of them. -/
def groupPlace (added : List Edge) (e : Edge) : Nat :=
  ((added.filter fun e' => e'.source = e.source).map Edge.target).idxOf e.target

/-- Some edges in the order in which they are read, where nodes have come up in the order of `ids`
and edges were added in the order of `added`. -/
structure InReadingOrder (ids : List Text) (added read : List Edge) : Prop where
  /-- Every edge is read as often as it was added. -/
  perm : read.Perm added
  /-- Sources come in the order of the nodes. -/
  sources : read.Pairwise fun e e' => ids.idxOf e.source ≤ ids.idxOf e'.source
  /-- For one source, targets come in the order of the first edges to them. -/
  targets : read.Pairwise fun e e' => e.source = e'.source → groupPlace added e ≤ groupPlace added e'
  /-- Edges between the same nodes come in the order in which they were added. -/
  parallel : ∀ source target, (read.filter fun e => e.source = source ∧ e.target = target) =
    added.filter fun e => e.source = source ∧ e.target = target

theorem source_of_mem_edgesFrom {e : Edge} (he : e ∈ g.edgesFrom id) : e.source = id := by
  rw [edgesFrom, mem_grouped, List.mem_filter] at he
  exact of_decide_eq_true he.2

theorem edgesFrom_perm (g : SymbolGraph) (id : Text) :
    (g.edgesFrom id).Perm (g.edges.filter fun e => e.source = id) := grouped_perm _ _

theorem orderedEdges_eq (g : SymbolGraph) :
    g.orderedEdges = (g.nodes.map Node.id).flatMap g.edgesFrom := by
  rw [orderedEdges, List.flatMap_map]

/-- No edge is lost or repeated when all are read. -/
theorem orderedEdges_perm (hnodup : (g.nodes.map Node.id).Nodup) (hclosed : g.Closed) :
    g.orderedEdges.Perm g.edges := by
  rw [orderedEdges_eq]
  refine (List.Perm.flatMap_left _ fun id _ => g.edgesFrom_perm id).trans ?_
  exact flatMap_filter_perm hnodup fun e he => hasNode_iff.1 (hclosed e he).1

/-- The edges out of one node are read together. -/
theorem filter_orderedEdges (hnodup : (g.nodes.map Node.id).Nodup) (hclosed : g.Closed)
    (id : Text) : (g.orderedEdges.filter fun e => e.source = id) = g.edgesFrom id := by
  rw [orderedEdges_eq, filter_flatMap_of_keys (fun _ _ => source_of_mem_edgesFrom) hnodup]
  split
  · rfl
  · rename_i hid
    -- no edge starts at a node that has not come up
    refine (List.eq_nil_iff_forall_not_mem.2 fun e he => hid ?_).symm
    have hmem : e ∈ g.edges := List.mem_of_mem_filter (mem_grouped.1 he)
    exact source_of_mem_edgesFrom he ▸ hasNode_iff.1 (hclosed e hmem).1

/-- The edges out of one node are read in the order of their groups. -/
theorem pairwise_edgesFrom (g : SymbolGraph) (id : Text) :
    (g.edgesFrom id).Pairwise fun e e' => groupPlace g.edges e ≤ groupPlace g.edges e' := by
  have hplace : ∀ target, ∀ e ∈ (g.edges.filter fun e => e.source = id).filter
      (fun e => e.target = target), groupPlace g.edges e =
        ((g.edges.filter fun e => e.source = id).map Edge.target).idxOf target := by
    intro target e he
    simp only [List.mem_filter, decide_eq_true_eq] at he
    rw [groupPlace, he.1.2, he.2]
  rw [edgesFrom, grouped, List.pairwise_flatMap]
  constructor
  · intro target _
    refine List.pairwise_of_forall_mem_list fun e he e' he' => Nat.le_of_eq ?_
    rw [hplace target e he, hplace target e' he']
  · refine (pairwise_idxOf_distinct _).imp fun {target target'} hle e he e' he' => ?_
    rwa [hplace target e he, hplace target' e' he']

/-- The edges of a graph are read in reading order. -/
theorem Closed.inReadingOrder (hclosed : g.Closed) (hnodup : (g.nodes.map Node.id).Nodup) :
    InReadingOrder (g.nodes.map Node.id) g.edges g.orderedEdges where
  perm := orderedEdges_perm hnodup hclosed
  sources := by
    rw [orderedEdges_eq, List.pairwise_flatMap]
    constructor
    · intro id _
      refine List.pairwise_of_forall_mem_list fun e he e' he' => Nat.le_of_eq ?_
      rw [source_of_mem_edgesFrom he, source_of_mem_edgesFrom he']
    · refine List.pairwise_iff_getElem.2 fun i j hi hj hij e he e' he' => ?_
      rw [source_of_mem_edgesFrom he, source_of_mem_edgesFrom he', hnodup.idxOf_getElem i hi,
        hnodup.idxOf_getElem j hj]
      exact Nat.le_of_lt hij
  targets := by
    rw [orderedEdges_eq, List.pairwise_flatMap]
    constructor
    · intro id _
      refine (g.pairwise_edgesFrom id).imp ?_
      exact fun hle _ => hle
    · refine hnodup.imp fun hne e he e' he' hsame => absurd ?_ hne
      rw [← source_of_mem_edgesFrom he, hsame, source_of_mem_edgesFrom he']
  parallel source target := by
    have hends : ∀ es : List Edge, (es.filter fun e => e.source = source ∧ e.target = target) =
        (es.filter fun e => e.source = source).filter fun e => e.target = target := fun es => by
      rw [List.filter_filter]
      exact List.filter_congr fun e _ => by simp [Bool.and_comm]
    rw [hends, hends, filter_orderedEdges hnodup hclosed, edgesFrom, filter_grouped_of_key]

/-- Edges that were added in the reading order of another graph are read as they were added. -/
theorem orderedEdges_of_ordered (hids : g'.nodes.map Node.id = g.nodes.map Node.id)
    (hedges : g'.edges = g.orderedEdges) (hnodup : (g.nodes.map Node.id).Nodup)
    (hclosed : g.Closed) : g'.orderedEdges = g.orderedEdges := by
  rw [orderedEdges_eq, orderedEdges_eq, hids]
  refine List.flatMap_congr fun id _ => ?_
  rw [edgesFrom, hedges, filter_orderedEdges hnodup hclosed, edgesFrom, grouped_grouped]

end KotlinPreferences.SymbolGraph
