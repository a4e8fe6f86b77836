import CodeGraph.Proofs.KeyText
import CodeGraph.Proofs.TableRows
import CodeGraph.Snapshot.Basic

/-!
This file says which entities of a snapshot are next to each other, and how addresses are put in
order.
-/

namespace CodeGraph

namespace Address

/-- Each address is larger than those before it. -/
def IsIncreasing (addresses : List Address) : Prop :=
  addresses.Pairwise fun first second => first.text < second.text

/-- Increasing addresses differ. -/
theorem IsIncreasing.nodup {addresses : List Address} (increasing : IsIncreasing addresses) :
    addresses.Nodup :=
  Table.nodup_rows (⟨addresses, increasing⟩ : Table Address text)

/-- There is one increasing list of given addresses. -/
theorem IsIncreasing.eq_of_mem_iff {first second : List Address} (former : IsIncreasing first)
    (latter : IsIncreasing second) (same : ∀ address, address ∈ first ↔ address ∈ second) :
    first = second := by
  have tables : (⟨first, former⟩ : Table Address text) = ⟨second, latter⟩ :=
    Table.eq_of_mem_rows_iff same
  exact congrArg Table.rows tables

end Address

namespace Snapshot

theorem increasing_orderAddresses (addresses : List Address) :
    Address.IsIncreasing (orderAddresses addresses) :=
  (Table.ofList addresses : Table Address Address.text).increasing

/-- No address is lost or added when addresses are put in order. -/
theorem mem_orderAddresses {addresses : List Address} {address : Address} :
    address ∈ orderAddresses addresses ↔ address ∈ addresses :=
  Table.mem_ofList_iff fun _ _ => Address.text_injective

theorem increasing_addresses (snapshot : Snapshot) :
    Address.IsIncreasing snapshot.addresses :=
  List.pairwise_map.mpr snapshot.entities.increasing

theorem nodup_keys (snapshot : Snapshot) : (snapshot.entities.rows.map Entity.key).Nodup :=
  Table.nodup_rows (⟨_, List.pairwise_map.mpr snapshot.entities.increasing⟩ : TextSet)

theorem length_addresses (snapshot : Snapshot) :
    snapshot.addresses.length = snapshot.entityCount :=
  List.length_map _

/-- An address is among those of the entities exactly if its key is in the table. -/
theorem mem_addresses_iff {snapshot : Snapshot} {address : Address} :
    address ∈ snapshot.addresses ↔ snapshot.entities.contains address.text = true := by
  unfold addresses
  rw [Table.contains_iff, List.mem_map]
  refine exists_congr fun entity => and_congr_right fun _ => ?_
  exact ⟨congrArg Address.text, fun same => Address.text_injective same⟩

/-- An edge of the snapshot leads from the first address to the second. -/
def Joins (snapshot : Snapshot) (first second : Address) : Prop :=
  ∃ edge ∈ snapshot.edges, edge.source = first ∧ edge.target = second

/-- An edge of the snapshot joins the two addresses in either direction. -/
def Adjoins (snapshot : Snapshot) (first second : Address) : Prop :=
  snapshot.Joins first second ∨ snapshot.Joins second first

instance (snapshot : Snapshot) (first second : Address) :
    Decidable (snapshot.Joins first second) :=
  inferInstanceAs (Decidable (∃ edge ∈ snapshot.edges, edge.source = first ∧ edge.target = second))

instance (snapshot : Snapshot) (first second : Address) :
    Decidable (snapshot.Adjoins first second) :=
  inferInstanceAs (Decidable (snapshot.Joins first second ∨ snapshot.Joins second first))

variable {snapshot : Snapshot} {first second : Address}

/-- There is an entity at each address of the snapshot. -/
theorem exists_entity (present : first ∈ snapshot.addresses) :
    ∃ entity, snapshot.entity? first = some entity :=
  Option.isSome_iff_exists.mp (mem_addresses_iff.mp present)

theorem entityAt_eq_ok_iff {entity : Entity} :
    snapshot.entityAt first = .ok entity ↔ snapshot.entity? first = some entity := by
  unfold entityAt
  cases snapshot.entity? first <;> simp

theorem Joins.source_mem (joins : snapshot.Joins first second) : first ∈ snapshot.addresses := by
  obtain ⟨edge, member, rfl, -⟩ := joins
  exact mem_addresses_iff.mpr (snapshot.endpointsPresent edge member).1

theorem Joins.target_mem (joins : snapshot.Joins first second) : second ∈ snapshot.addresses := by
  obtain ⟨edge, member, -, rfl⟩ := joins
  exact mem_addresses_iff.mpr (snapshot.endpointsPresent edge member).2

theorem mem_calleeAddresses : second ∈ snapshot.calleeAddresses first ↔
    snapshot.Joins first second := by
  simp [calleeAddresses, callees, Joins, Order.mem_distinct, and_assoc]

theorem mem_callerAddresses : first ∈ snapshot.callerAddresses second ↔
    snapshot.Joins first second := by
  simp [callerAddresses, callers, Joins, Order.mem_distinct, and_assoc, and_comm]

theorem mem_neighborAddresses :
    second ∈ snapshot.neighborAddresses first ↔ snapshot.Adjoins first second := by
  rw [neighborAddresses, mem_orderAddresses, List.mem_append, mem_callerAddresses,
    mem_calleeAddresses, Adjoins, or_comm]

theorem Adjoins.mem_addresses (adjoins : snapshot.Adjoins first second) :
    second ∈ snapshot.addresses := by
  rcases adjoins with forth | back
  · exact forth.target_mem
  · exact back.source_mem

/-- An entity is in a self-loop exactly if an edge leads from it to itself. -/
theorem mem_selfLoops : first ∈ snapshot.selfLoops ↔ snapshot.Joins first first := by
  unfold selfLoops Joins
  rw [Order.mem_distinct, List.mem_map]
  constructor
  · rintro ⟨edge, member, rfl⟩
    obtain ⟨inside, loop⟩ := List.mem_filter.mp member
    exact ⟨edge, inside, rfl, (of_decide_eq_true loop).symm⟩
  · rintro ⟨edge, inside, rfl, same⟩
    exact ⟨edge, List.mem_filter.mpr ⟨inside, decide_eq_true same.symm⟩, rfl⟩

end Snapshot

end CodeGraph
