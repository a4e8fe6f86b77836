import CodeGraph.Proofs.Adjacency
import CodeGraph.Proofs.Sorting
import CodeGraph.Report.Hotspots
import Mathlib.Data.String.Basic

/-!
This file says how the entities of a snapshot are ranked. The rank of an entity is one more than the
number of entities ahead of it, and a short list of hotspots is the front of every longer one.
-/

namespace CodeGraph

namespace Snapshot

/-- The number of edges that end at an address. -/
def edgesTo (snapshot : Snapshot) (address : Address) : Nat :=
  snapshot.edges.countP fun edge => decide (edge.target = address)

/-- The number of edges that start at an address. -/
def edgesFrom (snapshot : Snapshot) (address : Address) : Nat :=
  snapshot.edges.countP fun edge => decide (edge.source = address)

/-- More edges end at the first entity than at the second, or equally many do and its key is
smaller. -/
def IsAhead (snapshot : Snapshot) (first second : Entity) : Prop :=
  snapshot.edgesTo second.address < snapshot.edgesTo first.address ∨
    (snapshot.edgesTo first.address = snapshot.edgesTo second.address ∧ first.key < second.key)

instance (snapshot : Snapshot) (first second : Entity) :
    Decidable (snapshot.IsAhead first second) :=
  inferInstanceAs (Decidable (_ ∨ _))

/-- The number of entities that are ahead of an entity. -/
def countAhead (snapshot : Snapshot) (entity : Entity) : Nat :=
  snapshot.entities.rows.countP fun other => decide (snapshot.IsAhead other entity)

theorem inDegree_eq_edgesTo (snapshot : Snapshot) (address : Address) :
    snapshot.inDegree address = snapshot.edgesTo address := by
  rw [inDegree, callers, List.length_map, edgesTo, List.countP_eq_length_filter]

theorem outDegree_eq_edgesFrom (snapshot : Snapshot) (address : Address) :
    snapshot.outDegree address = snapshot.edgesFrom address := by
  rw [outDegree, callees, List.length_map, edgesFrom, List.countP_eq_length_filter]

end Snapshot

namespace Hotspot

variable {snapshot : Snapshot}

theorem precedes_iff {first second : Entity} :
    precedes snapshot first second = true ↔ snapshot.IsAhead first second := by
  simp [precedes, Snapshot.IsAhead, Snapshot.inDegree_eq_edgesTo]

/-- Entities are told apart by their keys. -/
theorem precedes_strict (snapshot : Snapshot) :
    Order.IsStrict (precedes snapshot) (· ∈ snapshot.entities.rows) :=
  .of_rank (fun _ _ _ _ => precedes_iff) snapshot.nodup_keys

theorem ranked_perm (snapshot : Snapshot) : (ranked snapshot).Perm snapshot.entities.rows :=
  Order.sort_perm _ _

/-- An entity stands behind those that are ahead of it. -/
theorem ranked_getElem?_eq_some_iff {place : Nat} {entity : Entity} :
    (ranked snapshot)[place]? = some entity ↔
      entity ∈ snapshot.entities.rows ∧ place = snapshot.countAhead entity := by
  have strict := precedes_strict snapshot
  have held : ∀ member ∈ ranked snapshot, member ∈ snapshot.entities.rows := fun _ member =>
    (ranked_perm snapshot).mem_iff.mp member
  have increasing := Order.sort_increasing strict (fun _ member => member)
    snapshot.entities.nodup_rows
  have placed {place : Nat} (found : (ranked snapshot)[place]? = some entity) :
      snapshot.countAhead entity = place := by
    rw [← Order.countP_of_increasing strict held increasing found,
      (ranked_perm snapshot).countP_eq, Snapshot.countAhead]
    simp only [← precedes_iff, Bool.decide_eq_true]
  constructor
  · intro found
    exact ⟨held entity (List.mem_of_getElem? found), (placed found).symm⟩
  · rintro ⟨member, rfl⟩
    obtain ⟨place, found⟩ :=
      List.mem_iff_getElem?.mp ((ranked_perm snapshot).mem_iff.mpr member)
    rw [placed found]
    exact found

/-- The hotspots are the entities under the numbers that follow the first one. -/
theorem number_eq_map (snapshot : Snapshot) (rank : Nat) (entities : List Entity) :
    number snapshot rank entities = (entities.zipIdx rank).map fun entry =>
      ⟨entry.2, entry.1, snapshot.inDegree entry.1.address,
        snapshot.outDegree entry.1.address⟩ :=
  Order.eq_map_zipIdx (fun _ => rfl) (fun _ _ _ => rfl) rank entities

theorem length_number (snapshot : Snapshot) (rank : Nat) (entities : List Entity) :
    (number snapshot rank entities).length = entities.length := by
  rw [number_eq_map, List.length_map, List.length_zipIdx]

/-- What does not depend on the ranks is read off the entities. -/
theorem map_number {α : Type} {field : Hotspot → α} {value : Entity → α}
    (same : ∀ rank entity, field ⟨rank, entity, snapshot.inDegree entity.address,
      snapshot.outDegree entity.address⟩ = value entity) (rank : Nat) (entities : List Entity) :
    (number snapshot rank entities).map field = entities.map value := by
  conv_rhs => rw [← List.zipIdx_map_fst rank entities, List.map_map]
  rw [number_eq_map, List.map_map]
  exact List.map_congr_left fun entry _ => same entry.2 entry.1

theorem number_append (snapshot : Snapshot) (rank : Nat) (first second : List Entity) :
    number snapshot rank (first ++ second) =
      number snapshot rank first ++ number snapshot (rank + first.length) second := by
  simp only [number_eq_map, List.zipIdx_append, List.map_append]

/-- The hotspots are the entities with the highest ranks, and they tell how many edges end and start
at each. -/
structure IsRanking (snapshot : Snapshot) (top : Nat) (hotspots : List Hotspot) : Prop where
  size : hotspots.length = min top snapshot.entityCount
  numbered : hotspots.map rank = List.range' 1 hotspots.length
  distinct : (hotspots.map fun hotspot => hotspot.entity.key).Nodup
  exact : ∀ rank entity, (∃ hotspot ∈ hotspots, hotspot.rank = rank ∧ hotspot.entity = entity) ↔
    entity ∈ snapshot.entities.rows ∧ rank ≤ top ∧ rank = snapshot.countAhead entity + 1
  counted : ∀ hotspot ∈ hotspots,
    hotspot.inbound = snapshot.edgesTo hotspot.entity.address ∧
      hotspot.outbound = snapshot.edgesFrom hotspot.entity.address
  shown : ∀ hotspot ∈ hotspots, hotspot.toValue.field? "rank" = some (.int hotspot.rank) ∧
    hotspot.toValue.field? "entity" = some (.text hotspot.entity.key) ∧
    hotspot.toValue.field? "inbound_count" = some (.int hotspot.inbound) ∧
    hotspot.toValue.field? "outbound_count" = some (.int hotspot.outbound)

theorem measure_isRanking (snapshot : Snapshot) (top : Nat) :
    IsRanking snapshot top (measure snapshot top) where
  size := by
    rw [measure, length_number, List.length_take, (ranked_perm snapshot).length_eq]
    rfl
  numbered := by
    rw [measure, length_number, number_eq_map, List.map_map]
    exact List.zipIdx_map_snd 1 _
  distinct := by
    rw [measure, map_number (fun _ _ => rfl)]
    have all := ((ranked_perm snapshot).map Entity.key).nodup_iff.mpr snapshot.nodup_keys
    exact all.sublist ((List.take_sublist top _).map _)
  exact rank entity := by
    have listed : (∃ hotspot ∈ measure snapshot top,
        hotspot.rank = rank ∧ hotspot.entity = entity) ↔
          (entity, rank) ∈ ((ranked snapshot).take top).zipIdx 1 := by
      rw [measure, number_eq_map]
      simp
    rw [listed, List.mk_mem_zipIdx_iff_le_and_getElem?_sub, List.getElem?_take,
      Option.ite_none_right_eq_some, ranked_getElem?_eq_some_iff]
    constructor
    · rintro ⟨counted, within, member, place⟩
      exact ⟨member, by omega, by omega⟩
    · rintro ⟨member, within, rfl⟩
      exact ⟨by omega, by omega, member, rfl⟩
  counted hotspot member := by
    rw [measure, number_eq_map] at member
    obtain ⟨entry, -, rfl⟩ := List.mem_map.mp member
    exact ⟨snapshot.inDegree_eq_edgesTo _, snapshot.outDegree_eq_edgesFrom _⟩
  shown _ _ := ⟨rfl, rfl, rfl, rfl⟩

/-- A longer list of hotspots begins with the shorter one. -/
theorem measure_prefix (snapshot : Snapshot) {top more : Nat} (fewer : top ≤ more) :
    measure snapshot top <+: measure snapshot more := by
  obtain ⟨rest, split⟩ := List.take_prefix_take_left (l := ranked snapshot) fewer
  refine ⟨number snapshot (1 + ((ranked snapshot).take top).length) rest, ?_⟩
  rw [measure, measure, ← number_append, split]

theorem ofRequest_eq (snapshot : Snapshot) {top : Nat} (positive : 0 < top) :
    ofRequest snapshot (.int top) = .ok (measure snapshot top) := by
  simp [ofRequest, Argument.positive?, positive]

/-- Every list of hotspots that is asked for is given. It ranks the entities by the edges that end
at them, and it is the front of every longer list. -/
theorem ofRequest_isRanking (snapshot : Snapshot) {top : Nat} (positive : 0 < top) :
    ∃ hotspots, ofRequest snapshot (.int top) = .ok hotspots ∧ IsRanking snapshot top hotspots ∧
      ∀ more : Nat, top ≤ more → ∃ longer,
        ofRequest snapshot (.int more) = .ok longer ∧ hotspots <+: longer := by
  refine ⟨_, ofRequest_eq snapshot positive, measure_isRanking snapshot top, ?_⟩
  intro more fewer
  have enough : 0 < more := Nat.lt_of_lt_of_le positive fewer
  exact ⟨_, ofRequest_eq snapshot enough, measure_prefix snapshot fewer⟩

/-- Three functions outside the source tree. -/
def opening : Address := ⟨.rust, .function, "open", .external, by decide⟩

def seeking : Address := ⟨.rust, .function, "seek", .external, by decide⟩

def syncing : Address := ⟨.rust, .function, "sync", .external, by decide⟩

/-- The first function calls itself, and it is tied to the second one twice. The second function
calls the third one, at which as many edges end as at the first one. -/
def fileCalls : Snapshot where
  entities := Table.ofList [Entity.sentinel opening, Entity.sentinel seeking,
    Entity.sentinel syncing]
  edges := [⟨opening, opening, .text Edge.defaultRelation⟩,
    ⟨opening, seeking, .text Edge.defaultRelation⟩, ⟨opening, seeking, .text "uses"⟩,
    ⟨seeking, syncing, .text Edge.defaultRelation⟩]
  changeSets := Table.empty
  id := ""
  createdAt := .null
  generation := 1
  endpointsPresent := by decide +kernel

/-- The second function leads the ranking, and of the other two the one with the smaller key. -/
theorem ofRequest_isRanking_fileCalls : ∃ hotspots longer,
    ofRequest fileCalls (.int (2 : Nat)) = .ok hotspots ∧ IsRanking fileCalls 2 hotspots ∧
      ofRequest fileCalls (.int (3 : Nat)) = .ok longer ∧ hotspots <+: longer ∧
      hotspots.map (fun hotspot => (hotspot.entity.address, hotspot.inbound, hotspot.outbound)) =
        [(seeking, 2, 1), (opening, 1, 3)] := by
  obtain ⟨hotspots, given, isRanking, pages⟩ := @ofRequest_isRanking fileCalls 2 (by decide)
  obtain ⟨longer, givenLonger, front⟩ := pages 3 (by decide)
  have answered := given
  rw [ofRequest_eq fileCalls (by decide)] at answered
  cases answered
  exact ⟨_, longer, given, isRanking, givenLonger, front, by decide +kernel⟩

end Hotspot

end CodeGraph
