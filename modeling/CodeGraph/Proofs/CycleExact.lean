import CodeGraph.Proofs.CycleComponents

/-!
This file says that the cycles of a snapshot are reported exactly: every entity on a path back to
itself is in one cycle, and without cycles all edges lead from smaller to larger numbers.
-/

namespace CodeGraph.CycleReport

open Relation

variable {snapshot : Snapshot} {first second : Address}

/-- The first cycle is larger, or it is as large and its first member is smaller. -/
def IsBefore (first second : List Address) : Prop :=
  second.length < first.length ∨ first.length = second.length ∧
    ∃ left ∈ first.head?, ∃ right ∈ second.head?, left.text < right.text

theorem precedes_iff {first second : List Address} :
    precedes first second = true ↔ IsBefore first second := by
  unfold precedes IsBefore
  rw [Bool.or_eq_true, decide_eq_true_eq, Bool.and_eq_true, beq_iff_eq]
  refine or_congr_right (and_congr_right fun _ => ?_)
  cases first with
  | nil => simp
  | cons left _ =>
      cases second with
      | nil => simp
      | cons right _ => simp [Address.precedes]

/-- The components stand in a strict order. -/
theorem precedes_strict (snapshot : Snapshot) :
    Order.IsStrict precedes (IsComponent snapshot) where
  irreflexive := by
    intro first _
    rw [Bool.eq_false_iff, Ne, precedes_iff]
    rintro (smaller | ⟨-, left, leftHead, right, rightHead, smaller⟩)
    · exact Nat.lt_irrefl _ smaller
    · rw [Option.mem_unique leftHead rightHead] at smaller
      exact String.lt_irrefl _ smaller
  transitive := by
    intro first second third _ _ _ former latter
    rw [precedes_iff] at former latter ⊢
    rcases former with larger | ⟨sameLength, left, leftHead, middle, middleHead, smaller⟩
    · rcases latter with more | ⟨sameLength, -⟩
      · exact Or.inl (Nat.lt_trans more larger)
      · exact Or.inl (sameLength ▸ larger)
    · rcases latter with more | ⟨sameLength', other, otherHead, right, rightHead, smaller'⟩
      · exact Or.inl (sameLength ▸ more)
      · rw [Option.mem_unique otherHead middleHead] at smaller'
        exact Or.inr ⟨sameLength.trans sameLength', left, leftHead, right, rightHead,
          String.lt_trans smaller smaller'⟩
  connected := by
    intro first second firstIs secondIs apart
    rw [precedes_iff, precedes_iff]
    rcases Nat.lt_trichotomy first.length second.length with shorter | same | longer
    · exact Or.inr (Or.inl shorter)
    · obtain ⟨left, leftHead⟩ := firstIs.exists_head
      obtain ⟨right, rightHead⟩ := secondIs.exists_head
      have texts : left.text ≠ right.text := by
        intro sameText
        rw [Address.text_injective sameText] at leftHead
        exact apart (firstIs.eq_of_mem secondIs (List.mem_of_mem_head? leftHead)
          (List.mem_of_mem_head? rightHead))
      rcases Order.text_connected texts with smaller | larger
      · exact Or.inl (Or.inr ⟨same, left, leftHead, right, rightHead, smaller⟩)
      · exact Or.inr (Or.inr ⟨same.symm, right, rightHead, left, leftHead, larger⟩)
    · exact Or.inl (Or.inl longer)

theorem mem_measure_iff {members : List Address} : members ∈ (measure snapshot).cycles ↔
    members ∈ components snapshot ∧ isCycle snapshot members = true := by
  unfold measure
  rw [Order.mem_sort, List.mem_filter]

theorem isComponent_of_mem_measure {members : List Address}
    (member : members ∈ (measure snapshot).cycles) : IsComponent snapshot members :=
  isComponent_of_mem (mem_measure_iff.mp member).1

/-- The component of an entity is reported exactly if a path leads from it back to itself. -/
theorem componentOf_mem_measure_iff (inside : first ∈ snapshot.addresses) :
    componentOf snapshot first ∈ (measure snapshot).cycles ↔
      TransGen snapshot.Joins first first := by
  have isComponent := componentOf_isComponent inside
  have member : first ∈ componentOf snapshot first := (mem_componentOf inside).mpr (.refl first)
  rw [mem_measure_iff, mem_components_iff, isComponent.isCycle_iff member]
  exact and_iff_right ⟨first, inside, rfl⟩

theorem measure_nodup (snapshot : Snapshot) : (measure snapshot).cycles.Nodup :=
  (Order.sort_perm _ _).nodup_iff.mpr ((Order.nodup_distinct _).filter _)

/-- The cycles stand in the order of the report. -/
theorem measure_ordered (snapshot : Snapshot) :
    (measure snapshot).cycles.Pairwise IsBefore := by
  have increasing := Order.sort_increasing (precedes_strict snapshot)
    (fun members member => isComponent_of_mem (List.mem_filter.mp member).1)
    ((Order.nodup_distinct _).filter (isCycle snapshot))
  exact increasing.imp precedes_iff.mp

/-- No entity is in two cycles. -/
theorem measure_disjoint (snapshot : Snapshot) :
    (measure snapshot).cycles.Pairwise List.Disjoint := by
  refine List.Pairwise.imp_of_mem (fun former latter apart address inside outside => ?_)
    (measure_nodup snapshot)
  exact apart ((isComponent_of_mem_measure former).eq_of_mem (isComponent_of_mem_measure latter)
    inside outside)

/-- An entity on a path back to itself is in a cycle, and no other entity is. -/
theorem exists_cycle_iff {address : Address} :
    (∃ cycle ∈ (measure snapshot).cycles, address ∈ cycle) ↔
      TransGen snapshot.Joins address address := by
  constructor
  · rintro ⟨cycle, member, inside⟩
    obtain ⟨isMember, isCycle⟩ := mem_measure_iff.mp member
    exact ((isComponent_of_mem isMember).isCycle_iff inside).mp isCycle
  · intro returns
    obtain ⟨next, joins, -⟩ := TransGen.head'_iff.mp returns
    have inside := joins.source_mem
    exact ⟨_, (componentOf_mem_measure_iff inside).mpr returns,
      (mem_componentOf inside).mpr (.refl address)⟩

/-- Two entities that lead to each other are in one cycle, and others are not. -/
theorem exists_common_cycle_iff (apart : first ≠ second) :
    (∃ cycle ∈ (measure snapshot).cycles, first ∈ cycle ∧ second ∈ cycle) ↔
      snapshot.AreMutual first second := by
  constructor
  · rintro ⟨cycle, member, inside, other⟩
    exact ((isComponent_of_mem_measure member).exact first inside second).mp other
  · intro both
    have returns := both.returns apart.symm
    obtain ⟨cycle, member, inside⟩ := exists_cycle_iff.mpr returns
    exact ⟨cycle, member, inside,
      ((isComponent_of_mem_measure member).exact first inside second).mpr both⟩

/-- Where no path comes back, an edge leads to an entity with fewer entities ahead. -/
theorem length_ahead_lt (acyclic : ∀ address, ¬TransGen snapshot.Joins address address)
    (joins : snapshot.Joins first second) :
    (ahead snapshot second).length < (ahead snapshot first).length := by
  have leaves {address : Address} (leads : ReflTransGen snapshot.Joins second address) :
      address ≠ first := by
    rintro rfl
    exact acyclic address (TransGen.head' joins leads)
  have within : second :: ahead snapshot second ⊆ ahead snapshot first := by
    intro address member
    rw [mem_ahead_iff joins.source_mem]
    rcases List.mem_cons.mp member with rfl | farther
    · exact ⟨leaves .refl, .single joins⟩
    · have leads := ((mem_ahead_iff joins.target_mem).mp farther).2
      exact ⟨leaves leads, leads.head joins⟩
  have distinct : (second :: ahead snapshot second).Nodup :=
    List.nodup_cons.mpr ⟨fun member => ((mem_ahead_iff joins.target_mem).mp member).1 rfl,
      nodup_ahead snapshot second⟩
  exact (List.subperm_of_subset distinct within).length_le

theorem length_ahead_le (inside : first ∈ snapshot.addresses) :
    (ahead snapshot first).length ≤ snapshot.entityCount := by
  rw [← Snapshot.length_addresses]
  refine (List.subperm_of_subset (nodup_ahead snapshot first) fun address member => ?_).length_le
  exact Snapshot.mem_addresses_of_leads ((mem_ahead_iff inside).mp member).2 inside

/-- Along numbers that grow from the start of each edge to its end, no path comes back. -/
theorem lt_of_leads {number : Address → Nat}
    (grows : ∀ edge ∈ snapshot.edges, number edge.source < number edge.target)
    (leads : TransGen snapshot.Joins first second) : number first < number second := by
  have step {before after : Address} (joins : snapshot.Joins before after) :
      number before < number after := by
    obtain ⟨edge, member, rfl, rfl⟩ := joins
    exact grows edge member
  induction leads with
  | single joins => exact step joins
  | tail _ joins inductionHypothesis => exact Nat.lt_trans inductionHypothesis (step joins)

/-- There are no cycles exactly if the entities can be numbered along the edges. -/
theorem cycles_eq_nil_iff : (measure snapshot).cycles = [] ↔
    ∃ number : Address → Nat, ∀ edge ∈ snapshot.edges,
      number edge.source < number edge.target := by
  constructor
  · intro none
    have acyclic (address : Address) : ¬TransGen snapshot.Joins address address := by
      rw [← exists_cycle_iff, none]
      rintro ⟨cycle, member, -⟩
      cases member
    -- An entity comes the later, the fewer entities lie ahead of it.
    refine ⟨fun address => snapshot.entityCount - (ahead snapshot address).length,
      fun edge member => ?_⟩
    have joins : snapshot.Joins edge.source edge.target := ⟨edge, member, rfl, rfl⟩
    have fewer := length_ahead_lt acyclic joins
    have bound := length_ahead_le joins.source_mem
    dsimp only
    omega
  · rintro ⟨number, grows⟩
    refine List.eq_nil_iff_forall_not_mem.mpr fun cycle member => ?_
    obtain ⟨address, -, inside⟩ := (isComponent_of_mem_measure member).some
    have returns := exists_cycle_iff.mp ⟨cycle, member, inside⟩
    exact Nat.lt_irrefl _ (lt_of_leads grows returns)

/-- The report holds the entities on paths back to themselves, those on common paths together, in
its order, and it tells whether and how many cycles there are. -/
structure IsExact (snapshot : Snapshot) (report : CycleReport) : Prop where
  onCycle : ∀ address, (∃ cycle ∈ report.cycles, address ∈ cycle) ↔
    TransGen snapshot.Joins address address
  together : ∀ first second, first ≠ second →
    ((∃ cycle ∈ report.cycles, first ∈ cycle ∧ second ∈ cycle) ↔
      ReflTransGen snapshot.Joins first second ∧ ReflTransGen snapshot.Joins second first)
  disjoint : report.cycles.Pairwise List.Disjoint
  increasing : ∀ cycle ∈ report.cycles, cycle ≠ [] ∧ Address.IsIncreasing cycle
  ordered : report.cycles.Pairwise IsBefore
  counted : report.toValue.field? "cycle_count" = some (.int report.cycles.length)
  listed : report.toValue.field? "cycles" = some (.list (report.cycles.map fun cycle =>
    .list (cycle.map fun address => .text address.text)))
  acyclic : report.toValue.field? "has_cycles" = some (.bool false) ↔
    ∃ number : Address → Nat, ∀ edge ∈ snapshot.edges, number edge.source < number edge.target

/-- The cycles of every snapshot are reported exactly. -/
theorem cycles_isExact (snapshot : Snapshot) : IsExact snapshot (measure snapshot) where
  onCycle := fun _ => exists_cycle_iff
  together := fun _ _ apart => exists_common_cycle_iff apart
  disjoint := measure_disjoint snapshot
  increasing := fun cycle member => by
    have isComponent := isComponent_of_mem_measure member
    obtain ⟨address, -, inside⟩ := isComponent.some
    exact ⟨List.ne_nil_of_mem inside, isComponent.increasing⟩
  ordered := measure_ordered snapshot
  counted := rfl
  listed := rfl
  acyclic := by
    have told : (measure snapshot).toValue.field? "has_cycles" =
        some (.bool !(measure snapshot).cycles.isEmpty) := rfl
    rw [told, ← cycles_eq_nil_iff, ← List.isEmpty_iff]
    simp

end CodeGraph.CycleReport
