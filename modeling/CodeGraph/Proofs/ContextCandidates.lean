import CodeGraph.Proofs.BlastDistance
import CodeGraph.Proofs.RelevanceOrder

/-!
This file says which entities are candidates for the context of a focus: those around it up to the
greatest distance, whichever way the edges lead. Each one tells how it is related to the focus, and
the nearest relations come first.
-/

namespace CodeGraph

namespace Snapshot

variable {snapshot : Snapshot} {first second : Address}

/-- The entities at a distance of one are the neighbours other than the start. -/
theorem isDistance_one_iff : Walk.IsDistance snapshot.Adjoins 1 first second ↔
    snapshot.Adjoins first second ∧ second ≠ first := by
  rw [Walk.isDistance_succ_iff]
  simp [Walk.isDistance_zero_iff]

end Snapshot

namespace Candidate

variable {snapshot : Snapshot} {focus : Address}

/-- The candidate for an entity at a distance from the focus. -/
def labelled (snapshot : Snapshot) (focus : Address) (depth : Nat) (address : Address) :
    Candidate :=
  if depth = 1 then direct snapshot focus address else ⟨address, depth, .transitive⟩

theorem direct_address (address : Address) : (direct snapshot focus address).address = address := by
  unfold direct
  split <;> rfl

@[simp]
theorem labelled_address (depth : Nat) (address : Address) :
    (labelled snapshot focus depth address).address = address := by
  unfold labelled
  split
  · exact direct_address address
  · rfl

theorem ofLayers_cons (depth : Nat) (layer : List Address) (rest : List (List Address)) :
    ofLayers snapshot focus depth (layer :: rest) =
      layer.map (labelled snapshot focus depth) ++ ofLayers snapshot focus (depth + 1) rest := rfl

/-- Each place of the layers has one candidate. -/
theorem map_address_ofLayers (depth : Nat) (layers : List (List Address)) :
    (ofLayers snapshot focus depth layers).map address = layers.flatten := by
  induction layers generalizing depth with
  | nil => rfl
  | cons layer rest inductionHypothesis =>
      rw [ofLayers_cons, List.map_append, inductionHypothesis, List.map_map, List.flatten_cons]
      congr 1
      exact (List.map_congr_left fun place _ => labelled_address depth place).trans layer.map_id

/-- The candidates are the labelled places of the layers. -/
theorem mem_ofLayers {candidate : Candidate} {depth : Nat} {layers : List (List Address)} :
    candidate ∈ ofLayers snapshot focus depth layers ↔
      ∃ index layer, layers[index]? = some layer ∧
        ∃ place ∈ layer, candidate = labelled snapshot focus (depth + index) place := by
  induction layers generalizing depth with
  | nil => simp [ofLayers]
  | cons layer rest inductionHypothesis =>
      rw [ofLayers_cons, List.mem_append, List.mem_map, inductionHypothesis]
      constructor
      · rintro (⟨place, inside, rfl⟩ | ⟨index, other, found, place, inside, rfl⟩)
        · exact ⟨0, layer, rfl, place, inside, rfl⟩
        · exact ⟨index + 1, other, found, place, inside, by rw [Nat.add_right_comm, Nat.add_assoc]⟩
      · rintro ⟨index, other, found, place, inside, rfl⟩
        cases index with
        | zero =>
            cases found
            exact .inl ⟨place, inside, rfl⟩
        | succ index =>
            exact .inr ⟨index, other, found, place, inside,
              by rw [Nat.add_right_comm, Nat.add_assoc]⟩

/-- The candidate tells its distance from the focus, and its label tells the edges between it and
the focus. -/
structure IsAround (snapshot : Snapshot) (focus : Address) (candidate : Candidate) : Prop where
  shortest : Walk.IsDistance snapshot.Adjoins candidate.depth focus candidate.address
  caller : candidate.relevance = .directCaller ↔ snapshot.Joins candidate.address focus
  callee : candidate.relevance = .directCallee ↔
    ¬snapshot.Joins candidate.address focus ∧ snapshot.Joins focus candidate.address
  transitive : candidate.relevance = .transitive ↔ 2 ≤ candidate.depth

/-- Labels are right at every distance from the focus. -/
theorem labelled_isAround {depth : Nat} {address : Address} (positive : 0 < depth)
    (shortest : Walk.IsDistance snapshot.Adjoins depth focus address) :
    IsAround snapshot focus (labelled snapshot focus depth address) := by
  by_cases one : depth = 1
  · subst one
    obtain ⟨adjoins, -⟩ := Snapshot.isDistance_one_iff.mp shortest
    by_cases calls : snapshot.Joins address focus
    · have made : labelled snapshot focus 1 address = ⟨address, 1, .directCaller⟩ :=
        if_pos (Snapshot.mem_callerAddresses.mpr calls)
      rw [made]
      exact ⟨shortest, by simp [calls], by simp [calls], by simp⟩
    · have made : labelled snapshot focus 1 address = ⟨address, 1, .directCallee⟩ :=
        if_neg (mt Snapshot.mem_callerAddresses.mp calls)
      have called : snapshot.Joins focus address := adjoins.resolve_right calls
      rw [made]
      exact ⟨shortest, by simp [calls], by simp [calls, called], by simp⟩
  · have made : labelled snapshot focus depth address = ⟨address, depth, .transitive⟩ := if_neg one
    have apart : ¬snapshot.Adjoins focus address := by
      intro adjoins
      have within := shortest.shortest 1 (.onward (.here focus) adjoins)
      omega
    rw [made]
    exact ⟨shortest, by simpa using fun calls => apart (.inr calls),
      by simpa using fun _ calls => apart (.inl calls), by simp; omega⟩

/-- The candidates are the other entities up to the greatest distance, each one once and with its
label. -/
structure AreAround (snapshot : Snapshot) (focus : Address) (maxDepth : Nat)
    (candidates : List Candidate) : Prop where
  once : (candidates.map address).Nodup
  exact : ∀ address, address ∈ candidates.map Candidate.address ↔
    address ∈ snapshot.addresses ∧ address ≠ focus ∧ ∃ distance, 1 ≤ distance ∧
      distance ≤ maxDepth ∧ Walk.IsDistance snapshot.Adjoins distance focus address
  labels : ∀ candidate ∈ candidates, candidate.IsAround snapshot focus

/-- An entity at a positive distance is another entity of the snapshot. -/
theorem mem_addresses_of_isDistance {steps : Nat} {address : Address}
    (shortest : Walk.IsDistance snapshot.Adjoins (1 + steps) focus address) :
    address ∈ snapshot.addresses ∧ address ≠ focus := by
  refine ⟨?_, fun same => ?_⟩
  · rw [Nat.add_comm] at shortest
    obtain ⟨before, -, adjoins⟩ := shortest.before
    exact adjoins.mem_addresses
  · have zero := shortest.unique (Walk.isDistance_zero_iff.mpr same)
    omega

theorem collect_areAround (snapshot : Snapshot) (focus : Address) {maxDepth : Nat}
    (positive : 0 < maxDepth) :
    AreAround snapshot focus maxDepth (collect snapshot focus maxDepth) := by
  have layered := Walk.layers_isLayered (fun before place =>
    @Snapshot.mem_neighborAddresses snapshot before place) maxDepth focus
  have steps : max 1 maxDepth = maxDepth := Nat.max_eq_right positive
  unfold collect
  rw [steps]
  refine ⟨?_, fun address => ?_, fun candidate member => ?_⟩
  · rw [map_address_ofLayers]
    exact layered.nodup_flatten
  · rw [map_address_ofLayers, layered.mem_flatten_iff]
    constructor
    · rintro ⟨index, inside, shortest⟩
      obtain ⟨present, other⟩ := mem_addresses_of_isDistance shortest
      exact ⟨present, other, 1 + index, by omega, by omega, shortest⟩
    · rintro ⟨-, -, distance, away, within, shortest⟩
      exact ⟨distance - 1, by omega, by rwa [Nat.add_sub_cancel' away]⟩
  · obtain ⟨index, layer, found, place, inside, rfl⟩ := mem_ofLayers.mp member
    exact labelled_isAround (by omega) (((layered.exact index layer found).2.2 place).mp inside)

/-- The ranked candidates are the collected ones. -/
theorem ranked_perm (snapshot : Snapshot) (focus : Address) (maxDepth : Nat) :
    (ranked snapshot focus maxDepth).Perm (collect snapshot focus maxDepth) :=
  Order.sort_perm _ _

/-- The entities around a focus are collected exactly, and they are ranked by their labels, then by
their distances and then by their keys. -/
theorem collect_exact (snapshot : Snapshot) (focus : Address) {maxDepth : Nat}
    (positive : 0 < maxDepth) :
    AreAround snapshot focus maxDepth (collect snapshot focus maxDepth) ∧
      (ranked snapshot focus maxDepth).Perm (collect snapshot focus maxDepth) ∧
      (ranked snapshot focus maxDepth).Pairwise IsBefore := by
  have around := collect_areAround snapshot focus positive
  exact ⟨around, ranked_perm snapshot focus maxDepth, sort_isBefore around.once.of_map⟩

open BlastRadius (loader reader)

/-- Two more functions outside the source tree. -/
def planner : Address := ⟨.rust, .function, "plan", .external, by decide⟩

def writer : Address := ⟨.rust, .function, "write", .external, by decide⟩

/-- An entity whose extractor gives an estimate of its tokens. -/
def estimated (address : Address) (tokens : Int) : Entity :=
  ⟨address, .text FilePath.unknown, ⟨[(.text "token_estimate", .int tokens)]⟩⟩

/-- The first function calls itself, the planner and the reader, and the reader calls it back and
writes as well. -/
def pipeline : Snapshot where
  entities := Table.ofList
    [Entity.sentinel loader, Entity.sentinel planner, estimated reader 30, estimated writer 5]
  edges := [⟨loader, loader, .text Edge.defaultRelation⟩,
    ⟨loader, planner, .text Edge.defaultRelation⟩, ⟨loader, reader, .text Edge.defaultRelation⟩,
    ⟨reader, loader, .text Edge.defaultRelation⟩, ⟨reader, writer, .text Edge.defaultRelation⟩]
  changeSets := Table.empty
  id := ""
  createdAt := .null
  generation := 1
  endpointsPresent := by decide +kernel

/-- The reader calls the first function and is called by it, so it counts as a caller. -/
theorem collect_exact_pipeline :
    AreAround pipeline loader 2 (collect pipeline loader 2) ∧
      (ranked pipeline loader 2).Pairwise IsBefore ∧
      ranked pipeline loader 2 =
        [⟨reader, 1, .directCaller⟩, ⟨planner, 1, .directCallee⟩, ⟨writer, 2, .transitive⟩] := by
  obtain ⟨around, -, ordered⟩ := collect_exact pipeline loader (show 0 < 2 by decide)
  exact ⟨around, ordered, by decide +kernel⟩

end Candidate

end CodeGraph
