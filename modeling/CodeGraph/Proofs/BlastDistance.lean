import CodeGraph.Proofs.Adjacency
import CodeGraph.Proofs.Distance
import CodeGraph.Proofs.Sorting
import CodeGraph.Report.BlastRadius

/-!
This file says what the blast radius of an entity holds. Each hop holds the entities at its distance
from the source, and the cap changes only what is shown of them.
-/

namespace CodeGraph

namespace Direction

/-- An edge that is followed in this direction leads from the first address to the second. -/
def Joins (direction : Direction) (snapshot : Snapshot) (first second : Address) : Prop :=
  match direction with
  | .reverse => snapshot.Joins second first
  | .forward => snapshot.Joins first second

variable {snapshot : Snapshot} {direction : Direction} {first second : Address}

theorem mem_step :
    second ∈ direction.step snapshot first ↔ direction.Joins snapshot first second := by
  cases direction with
  | reverse => exact Snapshot.mem_callerAddresses
  | forward => exact Snapshot.mem_calleeAddresses

theorem Joins.mem_addresses (joins : direction.Joins snapshot first second) :
    second ∈ snapshot.addresses := by
  cases direction with
  | reverse => exact Snapshot.Joins.source_mem joins
  | forward => exact Snapshot.Joins.target_mem joins

/-- The address is that of another entity, and the shortest path to it has this length. -/
structure IsAway (direction : Direction) (snapshot : Snapshot) (source : Address) (distance : Nat)
    (address : Address) : Prop where
  inside : address ∈ snapshot.addresses
  other : address ≠ source
  shortest : Walk.IsDistance (direction.Joins snapshot) distance source address

/-- What is at least one step away is another entity of the snapshot. -/
theorem isAway_iff {source address : Address} {steps : Nat} :
    direction.IsAway snapshot source (1 + steps) address ↔
      Walk.IsDistance (direction.Joins snapshot) (1 + steps) source address := by
  refine ⟨IsAway.shortest, fun shortest => ⟨?_, fun same => ?_, shortest⟩⟩
  · rw [Nat.add_comm] at shortest
    obtain ⟨before, -, joins⟩ := shortest.before
    exact joins.mem_addresses
  · have zero := shortest.unique (Walk.isDistance_zero_iff.mpr same)
    omega

/-- Another entity is at least one step away. -/
theorem IsAway.exists_steps {source address : Address} {distance : Nat}
    (away : direction.IsAway snapshot source distance address) :
    ∃ steps, distance = 1 + steps := by
  cases distance with
  | zero => exact absurd (Walk.isDistance_zero_iff.mp away.shortest) away.other
  | succ steps => exact ⟨steps, Nat.add_comm steps 1⟩

end Direction

/-- The cap that lets at most so many entities pass. Without a limit all of them pass. -/
def Cap.ofLimit : Option Nat → Cap
  | none => .all
  | some count => .atMost count

/-- The value by which a request gives a limit. -/
def Cap.limitValue : Option Nat → Value
  | none => .null
  | some count => .int count

namespace Cap

theorem ofValue?_limitValue (limit : Option Nat) :
    ofValue? (limitValue limit) = some (ofLimit limit) := by
  cases limit with
  | none => rfl
  | some count => simp [limitValue, ofValue?, ofInt, ofLimit, Int.not_ofNat_neg]

theorem apply_ofLimit {α : Type} (limit : Option Nat) (elements : List α) :
    (ofLimit limit).apply elements = elements.take (limit.getD elements.length) := by
  cases limit with
  | none => exact List.take_length.symm
  | some count => rfl

end Cap

/-- The hop counts the entities at its distance from the source, and it shows the first of them in
the order of their keys, up to the limit. -/
def Hop.IsExact (snapshot : Snapshot) (source : Address) (direction : Direction)
    (limit : Option Nat) (hop : Hop) : Prop :=
  ∃ members : List Address, Address.IsIncreasing members ∧
    (∀ address, address ∈ members ↔ direction.IsAway snapshot source hop.number address) ∧
    hop.count = members.length ∧ hop.shown = members.take (limit.getD members.length)

namespace BlastRadius

/-- The hops are those of all distances that occur up to the number of hops, and all entities within
this number of hops are counted once. -/
structure IsExact (snapshot : Snapshot) (source : Address) (hops : Nat) (direction : Direction)
    (limit : Option Nat) (radius : BlastRadius) : Prop where
  numbered : radius.byHop.map Hop.number = List.range' 1 radius.byHop.length
  withinHops : radius.byHop.length ≤ hops
  withinEntities : radius.byHop.length < snapshot.entityCount
  exact : ∀ hop ∈ radius.byHop, hop.IsExact snapshot source direction limit
  complete : ∀ distance address, distance ≤ hops →
    direction.IsAway snapshot source distance address → ∃ hop ∈ radius.byHop, hop.number = distance
  total : ∃ affected : List Address, affected.Nodup ∧ (∀ address, address ∈ affected ↔
    ∃ distance ≤ hops, direction.IsAway snapshot source distance address) ∧
      radius.total = affected.length
  asked : radius.toValue.field? "source" = some (.text source.text) ∧
    radius.toValue.field? "hops" = some (.int hops) ∧
    radius.toValue.field? "direction" = some (.text direction.word)
  shown : radius.toValue.field? "total_affected" = some (.int radius.total) ∧
    radius.toValue.field? "by_hop" = some (.list (radius.byHop.map Hop.toValue)) ∧
    ∀ hop ∈ radius.byHop, hop.toValue.field? "hop" = some (.int hop.number) ∧
      hop.toValue.field? "count" = some (.int hop.count) ∧
      hop.toValue.field? "entities" =
        some (.list (hop.shown.map fun address => .text address.text))

section Numbers

variable (cap : Cap) (first : Nat) (layers : List (List Address))

/-- The hops are the layers under the numbers that follow the first one. -/
theorem number_eq_map : number cap first layers = (layers.zipIdx first).map fun entry =>
    ⟨entry.2, entry.1.length, cap.apply entry.1⟩ :=
  Order.eq_map_zipIdx (fun _ => rfl) (fun _ _ _ => rfl) first layers

theorem length_number : (number cap first layers).length = layers.length := by
  rw [number_eq_map, List.length_map, List.length_zipIdx]

theorem map_number : (number cap first layers).map Hop.number =
    List.range' first layers.length := by
  rw [number_eq_map, List.map_map]
  exact List.zipIdx_map_snd first layers

theorem mem_number {hop : Hop} : hop ∈ number cap first layers ↔ ∃ index layer,
    layers[index]? = some layer ∧ hop = ⟨first + index, layer.length, cap.apply layer⟩ := by
  rw [number_eq_map, List.mem_map]
  constructor
  · rintro ⟨⟨layer, place⟩, member, rfl⟩
    obtain ⟨later, found⟩ := List.mk_mem_zipIdx_iff_le_and_getElem?_sub.mp member
    exact ⟨place - first, layer, found, by rw [Nat.add_sub_cancel' later]⟩
  · rintro ⟨index, layer, found, rfl⟩
    exact ⟨(layer, first + index), List.mk_add_mem_zipIdx_iff_getElem?.mpr found, rfl⟩

/-- The cap does not change how many entities are counted. -/
theorem total_number :
    (number cap first layers).foldr (fun hop rest => hop.count + rest) 0 =
      layers.flatten.length := by
  induction layers generalizing first with
  | nil => rfl
  | cons layer rest inductionHypothesis =>
      rw [number, List.foldr_cons, inductionHypothesis, List.flatten_cons, List.length_append]

end Numbers

/-- The layers around a source hold the entities of each distance in the order of their keys. -/
theorem layers_isLayered (snapshot : Snapshot) (source : Address) (hops : Nat)
    (direction : Direction) : Walk.IsLayered (direction.Joins snapshot) source 1 hops
      (layers snapshot source hops direction) :=
  (Walk.layers_isLayered (fun _ _ => Direction.mem_step) hops source).map
    (fun _ _ => Snapshot.mem_orderAddresses)
    fun layer => (Snapshot.increasing_orderAddresses layer).nodup

theorem increasing_of_mem_layers {snapshot : Snapshot} {source : Address} {hops : Nat}
    {direction : Direction} {layer : List Address}
    (member : layer ∈ layers snapshot source hops direction) : Address.IsIncreasing layer := by
  obtain ⟨met, -, rfl⟩ := List.mem_map.mp member
  exact Snapshot.increasing_orderAddresses met

section Measure

variable {snapshot : Snapshot} {source : Address} (hops : Nat) (direction : Direction)
  (limit : Option Nat)

/-- The layers hold the entities up to the number of hops. -/
theorem mem_flatten_layers {address : Address} :
    address ∈ (layers snapshot source hops direction).flatten ↔
      ∃ distance ≤ hops, direction.IsAway snapshot source distance address := by
  rw [(layers_isLayered snapshot source hops direction).mem_flatten_iff]
  constructor
  · rintro ⟨index, within, shortest⟩
    exact ⟨1 + index, by omega, Direction.isAway_iff.mpr shortest⟩
  · rintro ⟨distance, within, away⟩
    obtain ⟨index, rfl⟩ := away.exists_steps
    exact ⟨index, by omega, away.shortest⟩

theorem measure_isExact (inside : source ∈ snapshot.addresses) :
    (measure snapshot source hops direction (Cap.ofLimit limit)).IsExact snapshot source hops
      direction limit := by
  have layered := layers_isLayered snapshot source hops direction
  refine ⟨?_, ?_, ?_, fun hop member => ?_, fun distance address within away => ?_, ?_,
    ⟨rfl, rfl, rfl⟩, rfl, rfl, fun hop _ => ⟨rfl, rfl, rfl⟩⟩
  · exact (map_number _ _ _).trans (by rw [measure, length_number])
  · rw [measure, length_number]
    exact layered.bounded
  · rw [measure, length_number, ← Snapshot.length_addresses]
    exact layered.length_lt inside fun _ _ joins => Direction.Joins.mem_addresses joins
  · obtain ⟨index, layer, found, rfl⟩ := (mem_number _ _ _).mp member
    refine ⟨layer, increasing_of_mem_layers (List.mem_of_getElem? found), fun address => ?_, rfl,
      Cap.apply_ofLimit limit layer⟩
    rw [(layered.exact index layer found).2.2, Direction.isAway_iff]
  · obtain ⟨index, rfl⟩ := away.exists_steps
    have short := layered.complete index address (by omega) away.shortest
    exact ⟨_, (mem_number _ _ _).mpr ⟨index, _, List.getElem?_eq_getElem short, rfl⟩, rfl⟩
  · exact ⟨_, layered.nodup_flatten, fun _ => mem_flatten_layers hops direction,
      total_number _ _ _⟩

/-- A request with a key of the source gives its blast radius. -/
theorem ofRequest_eq {vocabulary : Vocabulary} {key : Value}
    (resolved : snapshot.resolve vocabulary key = .ok source) :
    ofRequest vocabulary snapshot key (.int hops) (.text direction.word) (Cap.limitValue limit) =
      .ok (measure snapshot source hops direction (Cap.ofLimit limit)) := by
  have steps : hops? (.int hops) = some hops := by simp [hops?]
  have way : Direction.ofValue? (.text direction.word) = some direction := by
    cases direction <;> decide
  rw [ofRequest, steps]
  dsimp only
  rw [way]
  dsimp only
  rw [resolved, Cap.ofValue?_limitValue]
  rfl

end Measure

/-- Two functions outside the source tree. -/
def loader : Address := ⟨.rust, .function, "load", .external, by decide⟩

def reader : Address := ⟨.rust, .function, "read", .external, by decide⟩

end BlastRadius

end CodeGraph
