import CodeGraph.Proofs.RecordSet

/-!
This file says which records stand in which batch of a feed. Each batch is filled with the next
records before the next one is begun, and a fault drops no more than the batch that is being filled.
-/

namespace CodeGraph

namespace Item

def entity? : Item → Option Entity
  | .entity value => some value
  | _ => none

def edge? : Item → Option Edge
  | .edge value => some value
  | _ => none

def change? : Item → Option ChangeSet
  | .change value => some value
  | _ => none

end Item

/-- The records are converted to the items one by one. -/
def Delivery.AreConvertedTo (vocabulary : Vocabulary) (deliveries : List Delivery)
    (items : List Item) : Prop :=
  List.Forall₂ (fun delivery item => delivery.convert vocabulary = .ok item) deliveries items

namespace Batch

/-- The batch of the items, each kind in their order. -/
def ofItems (items : List Item) : Batch :=
  ⟨items.filterMap Item.entity?, items.filterMap Item.edge?, items.filterMap Item.change?⟩

theorem push_ofItems (items : List Item) (item : Item) :
    (ofItems items).push item = ofItems (items ++ [item]) := by
  cases item <;> simp [ofItems, push, Item.entity?, Item.edge?, Item.change?]

theorem size_ofItems (items : List Item) : (ofItems items).size = items.length := by
  induction items with
  | nil => rfl
  | cons item rest inductionHypothesis =>
      rw [List.length_cons, ← inductionHypothesis]
      cases item <;>
        simp [ofItems, size, List.filterMap_cons, Item.entity?, Item.edge?, Item.change?] <;> omega

/-- So many batches of the size are filled with the items, one after the other. -/
def slices (size count : Nat) (items : List Item) : List Batch :=
  (List.range count).map fun position => ofItems ((items.drop (position * size)).take size)

section Slices

variable {size : Nat}

theorem length_slices (count : Nat) (items : List Item) :
    (slices size count items).length = count := by
  simp [slices]

theorem slices_succ (count : Nat) (items : List Item) : slices size (count + 1) items =
    slices size count items ++ [ofItems ((items.drop (count * size)).take size)] := by
  simp [slices, List.range_succ]

/-- The first slice is what stands in front of the others. -/
theorem slices_append {first : List Item} (whole : first.length = size) (count : Nat)
    (rest : List Item) :
    slices size (count + 1) (first ++ rest) = ofItems first :: slices size count rest := by
  subst whole
  simp only [slices, List.range_succ_eq_map, List.map_cons, List.map_map, Nat.zero_mul,
    List.drop_zero, List.take_left]
  congr 1
  refine List.map_congr_left fun position _ => ?_
  simp [Nat.succ_mul, Nat.add_comm, ← List.drop_drop]

/-- Slices lie within the items that they need. -/
theorem slices_take (count : Nat) (items : List Item) :
    slices size count (items.take (count * size)) = slices size count items := by
  refine List.map_congr_left fun position inside => congrArg ofItems ?_
  have room : size ≤ count * size - position * size := by
    rw [← Nat.sub_mul]
    exact Nat.le_mul_of_pos_left size (Nat.sub_pos_of_lt (List.mem_range.mp inside))
  rw [List.drop_take, List.take_take, Nat.min_eq_left room]

/-- One kind in all slices together is this kind among the items that the slices hold. -/
theorem flatMap_slices {α : Type} {kind : Batch → List α} {select : Item → Option α}
    (same : ∀ items, kind (ofItems items) = items.filterMap select) (count : Nat)
    (items : List Item) :
    (slices size count items).flatMap kind = (items.take (count * size)).filterMap select := by
  induction count with
  | zero => simp [slices]
  | succ count inductionHypothesis =>
      rw [slices_succ, List.flatMap_append, inductionHypothesis, List.flatMap_singleton, same,
        ← List.filterMap_append, ← List.take_add, ← Nat.succ_mul]

end Slices

/-- The batches hold the items in their order: each one the next items up to the size, all but the
last one in full, and none of them nothing. Together they hold each kind as the items do. -/
structure AreFilled (size : Nat) (items : List Item) (batches : List Batch) : Prop where
  count : batches.length = (items.length + size - 1) / size
  each : ∀ position (inside : position < batches.length),
    batches[position] = ofItems ((items.drop (position * size)).take size)
  full : ∀ position (inside : position + 1 < batches.length), batches[position].size = size
  bounded : ∀ batch ∈ batches, 1 ≤ batch.size ∧ batch.size ≤ size
  entities : batches.flatMap Batch.entities = items.filterMap Item.entity?
  edges : batches.flatMap Batch.edges = items.filterMap Item.edge?
  changeSets : batches.flatMap Batch.changeSets = items.filterMap Item.change?

/-- A position in front of the rounded quotient has items behind it. -/
theorem lt_length_iff {size : Nat} (positive : 0 < size) (position total : Nat) :
    position < (total + size - 1) / size ↔ position * size < total := by
  rw [Nat.lt_div_iff_mul_lt positive]
  omega

/-- The rounded quotient is the least number of batches that cover all items. -/
theorem length_eq {size count total : Nat} (positive : 0 < size) (covers : total ≤ count * size)
    (needed : ∀ position < count, position * size < total) :
    (total + size - 1) / size = count := by
  apply Nat.le_antisymm
  · refine Nat.le_of_not_lt fun beyond => ?_
    exact Nat.not_lt.mpr covers ((lt_length_iff positive _ _).mp beyond)
  · refine Nat.le_of_not_lt fun short => ?_
    exact Nat.lt_irrefl _ ((lt_length_iff positive _ _).mpr (needed _ short))

theorem slices_areFilled {size : Nat} (positive : 0 < size) (items : List Item) :
    AreFilled size items (slices size ((items.length + size - 1) / size) items) := by
  have sizes (position : Nat) : (ofItems ((items.drop (position * size)).take size)).size =
      min size (items.length - position * size) := by
    rw [size_ofItems, List.length_take, List.length_drop]
  have covers : items.take ((items.length + size - 1) / size * size) = items :=
    List.take_of_length_le
      (Nat.le_of_not_lt fun behind => Nat.lt_irrefl _ ((lt_length_iff positive _ _).mpr behind))
  have whole {α : Type} {kind : Batch → List α} {select : Item → Option α}
      (same : ∀ items, kind (ofItems items) = items.filterMap select) :
      (slices size ((items.length + size - 1) / size) items).flatMap kind =
        items.filterMap select := by
    rw [flatMap_slices same, covers]
  refine ⟨length_slices _ _, fun position inside => by simp [slices], fun position inside => ?_,
    fun batch member => ?_, whole fun _ => rfl, whole fun _ => rfl, whole fun _ => rfl⟩
  · rw [length_slices, lt_length_iff positive, Nat.succ_mul] at inside
    simp only [slices, List.getElem_map, List.getElem_range, sizes]
    omega
  · obtain ⟨position, inside, rfl⟩ := List.mem_map.mp member
    rw [List.mem_range, lt_length_iff positive] at inside
    rw [sizes]
    omega

end Batch

namespace BatchRun

variable {vocabulary : Vocabulary} {size : Nat} {earlier : List Delivery} {items : List Item}

/-- These batches go in front of a run. -/
def prepend (batches : List Batch) (run : BatchRun) : BatchRun :=
  ⟨batches ++ run.batches, run.fault⟩

/-- What is held and the items of further records fill as many batches as they can. The rest is
pending when the records behind them are met. -/
theorem collect_converted (positive : 0 < size)
    (converted : Delivery.AreConvertedTo vocabulary earlier items) (later : List Delivery)
    (ending : Option Fault) {held : List Item} (room : held.length < size) :
    collect vocabulary size (Batch.ofItems held) ending (earlier ++ later) =
      (collect vocabulary size
        (Batch.ofItems ((held ++ items).drop ((held ++ items).length / size * size))) ending
        later).prepend (Batch.slices size ((held ++ items).length / size) (held ++ items)) := by
  -- A batch that becomes full is the first slice, and behind it nothing is held any more.
  induction converted generalizing held with
  | nil =>
      rw [List.append_nil, Nat.div_eq_of_lt room, Nat.zero_mul]
      rfl
  | @cons delivery item deliveries rest pair others inductionHypothesis =>
      have whole : held ++ item :: rest = (held ++ [item]) ++ rest := by simp
      rw [List.cons_append, collect, Batch.add_eq, pair, whole]
      dsimp only [Except.map]
      rw [Batch.push_ofItems, Batch.size_ofItems]
      split
      · rename_i filled
        have full : (held ++ [item]).length = size := by
          rw [List.length_append, List.length_singleton] at filled ⊢
          omega
        have count : ((held ++ [item]) ++ rest).length / size = rest.length / size + 1 := by
          rw [List.length_append, full, Nat.add_div_left _ positive]
        have behind : ((held ++ [item]) ++ rest).drop ((rest.length / size + 1) * size) =
            rest.drop (rest.length / size * size) := by
          rw [Nat.succ_mul, Nat.add_comm, ← List.drop_drop, ← full, List.drop_left]
        have next := @inductionHypothesis [] positive
        rw [List.nil_append] at next
        rw [count, behind, Batch.slices_append full]
        exact congrArg (cons (Batch.ofItems (held ++ [item]))) next
      · rename_i short
        exact inductionHypothesis (Nat.lt_of_not_le short)

theorem ofFeed_eq (positive : 0 < size) (feed : Feed) : ofFeed vocabulary size feed =
    collect vocabulary size (Batch.ofItems []) feed.fault feed.deliveries := by
  rw [ofFeed, if_neg (by omega)]
  rfl

/-- What follows on records that are converted begins with the batches that they fill. -/
theorem ofFeed_append (positive : 0 < size)
    (converted : Delivery.AreConvertedTo vocabulary earlier items) (later : List Delivery)
    (ending : Option Fault) : ofFeed vocabulary size ⟨earlier ++ later, ending⟩ =
      (collect vocabulary size (Batch.ofItems (items.drop (items.length / size * size))) ending
        later).prepend (Batch.slices size (items.length / size) items) := by
  rw [ofFeed_eq positive]
  exact @collect_converted _ _ _ _ positive converted later ending [] positive

/-- A feed whose records are all converted fills all batches that are needed. -/
theorem ofFeed_converted (positive : 0 < size)
    (converted : Delivery.AreConvertedTo vocabulary earlier items) :
    ofFeed vocabulary size ⟨earlier, none⟩ =
      ⟨Batch.slices size ((items.length + size - 1) / size) items, none⟩ := by
  have run := ofFeed_append positive converted [] none
  rw [List.append_nil] at run
  rw [run, collect]
  dsimp only [prepend]
  rw [Batch.size_ofItems, List.length_drop]
  have whole := Nat.div_mul_le_self items.length size
  have next : items.length < (items.length / size + 1) * size := by
    rw [Nat.mul_comm]
    exact Nat.lt_mul_div_succ items.length positive
  have needed (position : Nat) (short : position < items.length / size) :
      position * size < items.length :=
    Nat.lt_of_lt_of_le (Nat.mul_lt_mul_of_pos_right short positive) whole
  split
  · rename_i exhausted
    rw [List.append_nil, Batch.length_eq positive (Nat.le_of_sub_eq_zero exhausted) needed]
  · rename_i more
    have last : (items.drop (items.length / size * size)).take size =
        items.drop (items.length / size * size) := by
      refine List.take_of_length_le ?_
      rw [List.length_drop]
      rw [Nat.succ_mul] at next
      omega
    rw [Batch.length_eq positive (Nat.le_of_lt next), Batch.slices_succ, last]
    intro position inside
    rcases Nat.lt_succ_iff_lt_or_eq.mp inside with short | rfl
    · exact needed position short
    · omega

/-- The run ends in the fault behind all full batches of the records in front of it. -/
structure EndsBehind (vocabulary : Vocabulary) (size : Nat) (earlier : List Delivery)
    (fault : Fault) (run : BatchRun) : Prop where
  fault : run.fault = some fault
  batches : run.batches = (ofFeed vocabulary size
    ⟨earlier.take (earlier.length / size * size), none⟩).batches
  count : run.batches.length = earlier.length / size
  full : ∀ batch ∈ run.batches, batch.size = size

/-- The full batches are those of the records that they need. -/
theorem ofFeed_take (positive : 0 < size)
    (converted : Delivery.AreConvertedTo vocabulary earlier items) :
    ofFeed vocabulary size ⟨earlier.take (earlier.length / size * size), none⟩ =
      ⟨Batch.slices size (earlier.length / size) items, none⟩ := by
  have same : items.length = earlier.length := converted.length_eq.symm
  have front : Delivery.AreConvertedTo vocabulary
      (earlier.take (earlier.length / size * size))
      (items.take (earlier.length / size * size)) := List.forall₂_take _ converted
  have whole : (items.take (earlier.length / size * size)).length =
      earlier.length / size * size := by
    rw [List.length_take, same, Nat.min_eq_left (Nat.div_mul_le_self _ _)]
  rw [ofFeed_converted positive front, whole, Batch.length_eq positive (Nat.le_refl _),
    Batch.slices_take]
  exact fun position short => Nat.mul_lt_mul_of_pos_right short positive

/-- A fault that is met behind converted records drops no more than the batch that is being
filled. -/
theorem endsBehind_of_stop (positive : 0 < size)
    (converted : Delivery.AreConvertedTo vocabulary earlier items) {later : List Delivery}
    {ending : Option Fault} {fault : Fault}
    (stops : ∀ pending, collect vocabulary size pending ending later = failing fault) :
    EndsBehind vocabulary size earlier fault
      (ofFeed vocabulary size ⟨earlier ++ later, ending⟩) := by
  have run : ofFeed vocabulary size ⟨earlier ++ later, ending⟩ =
      ⟨Batch.slices size (earlier.length / size) items, some fault⟩ := by
    rw [ofFeed_append positive converted, stops, converted.length_eq]
    simp [prepend, failing]
  rw [run]
  refine ⟨rfl, by rw [ofFeed_take positive converted], Batch.length_slices _ _,
    fun batch member => ?_⟩
  obtain ⟨position, inside, rfl⟩ := List.mem_map.mp member
  have room : (position + 1) * size ≤ items.length := by
    rw [← converted.length_eq]
    exact (Nat.mul_le_mul_right size (List.mem_range.mp inside)).trans (Nat.div_mul_le_self _ _)
  rw [Nat.succ_mul] at room
  rw [Batch.size_ofItems, List.length_take, List.length_drop]
  omega

theorem collect_of_failing {delivery : Delivery} {fault : Fault}
    (failed : delivery.convert vocabulary = .error fault) (rest : List Delivery)
    (ending : Option Fault) (pending : Batch) :
    collect vocabulary size pending ending (delivery :: rest) = failing fault := by
  rw [collect, Batch.add_eq, failed]
  rfl

end BatchRun

/-- The numbers of the items of each kind, and of the batches that they fill. -/
def Item.counts (size : Nat) (items : List Item) : StagedCounts :=
  ⟨(items.filterMap Item.entity?).length, (items.filterMap Item.edge?).length,
    (items.filterMap Item.change?).length, (items.length + size - 1) / size⟩

namespace Builder

variable {builder next : Builder}

theorem andThen_ok {α β : Type} {first : Staging α} {second : α → Builder → Staging β} {value : β}
    (reached : andThen first second = (.ok value, next)) :
    ∃ middle between, first = (.ok middle, between) ∧
      second middle between = (.ok value, next) := by
  rcases first with ⟨fault | middle, between⟩
  · cases reached
  · exact ⟨middle, between, rfl, reached⟩

theorem andThen_assoc {α β γ : Type} (first : Staging α) (second : α → Builder → Staging β)
    (third : β → Builder → Staging γ) :
    andThen (andThen first second) third =
      andThen first fun value between => andThen (second value between) third := by
  rcases first with ⟨fault | value, between⟩ <;> rfl

/-- Each staged item counts once. -/
theorem stageAll_count {α : Type} {stage : Builder → α → Outcome Builder} {count total : Nat}
    {items : List α} (staged : stageAll stage builder count items = (.ok total, next)) :
    total = count + items.length := by
  induction items generalizing builder count with
  | nil =>
      cases staged
      rfl
  | cons item rest inductionHypothesis =>
      unfold stageAll at staged
      split at staged
      · cases staged
      · rw [inductionHypothesis staged, List.length_cons]
        omega

/-- A batch of offers that an open builder takes is counted in full. -/
theorem whenOpen_count {α : Type} {stage : Builder → Offer α → Outcome Builder} {total : Nat}
    {items : List α}
    (staged : builder.whenOpen (stageAll stage builder 0 (items.map .item)) = (.ok total, next)) :
    total = items.length := by
  unfold whenOpen at staged
  split at staged
  · cases staged
  · rw [stageAll_count staged, List.length_map, Nat.zero_add]

theorem putBatch_count {counts total : StagedCounts} {batch : Batch}
    (staged : builder.putBatch counts batch = (.ok total, next)) :
    total = ⟨counts.entities + batch.entities.length, counts.edges + batch.edges.length,
      counts.changeSets + batch.changeSets.length, counts.batches + 1⟩ := by
  obtain ⟨entities, first, entitiesStaged, staged⟩ := andThen_ok staged
  obtain ⟨edges, second, edgesStaged, staged⟩ := andThen_ok staged
  obtain ⟨changes, third, changesStaged, staged⟩ := andThen_ok staged
  cases staged
  rw [whenOpen_count entitiesStaged, whenOpen_count edgesStaged, whenOpen_count changesStaged]

theorem putBatches_count {counts total : StagedCounts} {batches : List Batch}
    (staged : builder.putBatches counts none batches = (.ok total, next)) :
    total = ⟨counts.entities + (batches.flatMap Batch.entities).length,
      counts.edges + (batches.flatMap Batch.edges).length,
      counts.changeSets + (batches.flatMap Batch.changeSets).length,
      counts.batches + batches.length⟩ := by
  induction batches generalizing builder counts with
  | nil =>
      cases staged
      rfl
  | cons batch rest inductionHypothesis =>
      obtain ⟨middle, between, first, staged⟩ := andThen_ok staged
      rw [inductionHypothesis staged, putBatch_count first]
      simp only [List.flatMap_cons, List.length_append, List.length_cons, StagedCounts.mk.injEq]
      omega

/-- A fault behind the batches is met after they are staged. -/
theorem putBatches_fault (counts : StagedCounts) (fault : Fault) (batches : List Batch) :
    builder.putBatches counts (some fault) batches =
      andThen (builder.putBatches counts none batches) fun _ staged => (.error fault, staged) := by
  induction batches generalizing builder counts with
  | nil => rfl
  | cons batch rest inductionHypothesis =>
      rw [putBatches, putBatches, andThen_assoc]
      exact congrArg (andThen _)
        (funext fun counts => funext fun between => inductionHypothesis counts)

end Builder

namespace BatchRun

open Builder

variable {vocabulary : Vocabulary} {size : Nat} {earlier : List Delivery} {items : List Item}

/-- A feed that ends behind full batches stages these and fails, unless one of them is rejected. -/
theorem EndsBehind.stageFeed {feed : Feed} {fault : Fault}
    (ends : EndsBehind vocabulary size earlier fault (ofFeed vocabulary size feed))
    (builder : Builder) (positive : 0 < size)
    (converted : Delivery.AreConvertedTo vocabulary earlier items) :
    builder.stageFeed vocabulary size feed =
      andThen (builder.stageFeed vocabulary size
        ⟨earlier.take (earlier.length / size * size), none⟩) fun _ staged =>
          (.error fault, staged) := by
  unfold Builder.stageFeed
  dsimp only
  rw [ends.fault, ends.batches, putBatches_fault, ofFeed_take positive converted]

/-- Whatever a feed of converted records stages is counted in full, and an open builder that takes
all items stages them. -/
theorem stageFeed_counts (positive : 0 < size)
    (converted : Delivery.AreConvertedTo vocabulary earlier items) (builder : Builder) :
    (∀ counts next, builder.stageFeed vocabulary size ⟨earlier, none⟩ = (.ok counts, next) →
      counts = Item.counts size items) ∧
    (builder.committed = false → ∀ next,
      builder.stageItems (ofFeed vocabulary size ⟨earlier, none⟩).items = .ok next →
        builder.stageFeed vocabulary size ⟨earlier, none⟩ =
          (.ok (Item.counts size items), next)) := by
  have filled := Batch.slices_areFilled positive items
  have counted (counts : StagedCounts) (next : Builder)
      (staged : builder.stageFeed vocabulary size ⟨earlier, none⟩ = (.ok counts, next)) :
      counts = Item.counts size items := by
    unfold Builder.stageFeed at staged
    rw [ofFeed_converted positive converted] at staged
    rw [putBatches_count staged, filled.entities, filled.edges, filled.changeSets, filled.count]
    simp [Item.counts]
  refine ⟨counted, fun opened next staged => ?_⟩
  have outcome : outcome (builder.stageFeed vocabulary size ⟨earlier, none⟩) = .ok next := by
    rw [← staged]
    unfold Builder.stageFeed BatchRun.items
    rw [ofFeed_converted positive converted]
    exact outcome_putBatches opened _ _
  obtain ⟨counts, reached, same⟩ := Outcome.map_ok outcome
  rw [← counted counts _ (Prod.ext reached same)]
  exact Prod.ext reached same

/-- Records that are all converted fill their batches in order, and these are counted in full when
they are staged. Whatever follows on the records, the batches that they fill come first. If a record
behind them fails, the full batches are all that come, and they are staged before the fault. -/
theorem ofFeed_areFilled (vocabulary : Vocabulary) {size : Nat} (positive : 0 < size)
    {earlier : List Delivery} {items : List Item}
    (converted : Delivery.AreConvertedTo vocabulary earlier items) :
    (∃ batches, ofFeed vocabulary size ⟨earlier, none⟩ = ⟨batches, none⟩ ∧
      Batch.AreFilled size items batches ∧
      ∀ builder : Builder,
        (∀ counts next, builder.stageFeed vocabulary size ⟨earlier, none⟩ = (.ok counts, next) →
          counts = Item.counts size items) ∧
        (builder.committed = false → ∀ next,
          builder.stageItems (batches.flatMap Batch.items) = .ok next →
            builder.stageFeed vocabulary size ⟨earlier, none⟩ =
              (.ok (Item.counts size items), next))) ∧
    (∀ later ending,
      (ofFeed vocabulary size ⟨earlier.take (earlier.length / size * size), none⟩).batches <+:
        (ofFeed vocabulary size ⟨earlier ++ later, ending⟩).batches) ∧
    ∀ failing later ending fault, failing.convert vocabulary = .error fault →
      EndsBehind vocabulary size earlier fault
        (ofFeed vocabulary size ⟨earlier ++ failing :: later, ending⟩) ∧
      ∀ builder : Builder,
        builder.stageFeed vocabulary size ⟨earlier ++ failing :: later, ending⟩ =
          andThen (builder.stageFeed vocabulary size
            ⟨earlier.take (earlier.length / size * size), none⟩) fun _ staged =>
              (.error fault, staged) := by
  refine ⟨?_, fun later ending => ?_, fun failing later ending fault failed => ?_⟩
  · have run := ofFeed_converted positive converted
    refine ⟨_, run, Batch.slices_areFilled positive items, fun builder => ?_⟩
    have counts := stageFeed_counts positive converted builder
    rw [BatchRun.items, run] at counts
    exact counts
  · rw [ofFeed_take positive converted, ofFeed_append positive converted, converted.length_eq]
    exact List.prefix_append _ _
  · have ends := endsBehind_of_stop positive converted (collect_of_failing failed later ending)
    exact ⟨ends, fun builder => ends.stageFeed builder positive converted⟩

/-- A record that is delivered without fields. -/
def emptyRecord : Delivery := ⟨.text "entity", .object []⟩

/-- Of three records in batches of two the last one stands alone, and they are counted by kind. If
a fourth record fails, the first batch is staged before the fault. -/
theorem ofFeed_areFilled_threeRecords : ∃ items staged,
    Delivery.AreConvertedTo Vocabulary.initial [loadRecord, callRecord, changeRecord] items ∧
    (∃ first last, ofFeed Vocabulary.initial 2 ⟨[loadRecord, callRecord, changeRecord], none⟩ =
        ⟨[first, last], none⟩ ∧ first.size = 2 ∧ last.size = 1) ∧
    (∃ next, (create 1 true).stageFeed Vocabulary.initial 2
      ⟨[loadRecord, callRecord, changeRecord], none⟩ = (.ok ⟨1, 1, 1, 2⟩, next)) ∧
    (create 1 true).stageFeed Vocabulary.initial 2 ⟨[loadRecord, callRecord], none⟩ =
      (.ok ⟨1, 1, 0, 1⟩, staged) ∧
    (create 1 true).stageFeed Vocabulary.initial 2
        ⟨[loadRecord, callRecord, changeRecord, emptyRecord], none⟩ =
      (.error (.refused (.missingField .entity "language")), staged) := by
  obtain ⟨load, loaded⟩ : ∃ entity,
      loadRecord.convert Vocabulary.initial = .ok (.entity entity) := by
    obtain ⟨item, converted, isEntity⟩ :=
      @Outcome.exists_of_any _ (loadRecord.convert Vocabulary.initial)
        (fun item => item.entity?.isSome) (by decide +kernel)
    cases item with
    | entity entity => exact ⟨entity, converted⟩
    | _ => cases isEntity
  obtain ⟨call, called⟩ : ∃ edge,
      callRecord.convert Vocabulary.initial = .ok (.edge edge) := by
    obtain ⟨item, converted, isEdge⟩ :=
      @Outcome.exists_of_any _ (callRecord.convert Vocabulary.initial)
        (fun item => item.edge?.isSome) (by decide +kernel)
    cases item with
    | edge edge => exact ⟨edge, converted⟩
    | _ => cases isEdge
  obtain ⟨change, changed⟩ : ∃ change,
      changeRecord.convert Vocabulary.initial = .ok (.change change) := ⟨_, rfl⟩
  have two : Delivery.AreConvertedTo Vocabulary.initial [loadRecord, callRecord]
      [.entity load, .edge call] := .cons loaded (.cons called .nil)
  have three : Delivery.AreConvertedTo Vocabulary.initial [loadRecord, callRecord, changeRecord]
      [.entity load, .edge call, .change change] := .cons loaded (.cons called (.cons changed .nil))
  have reached (deliveries : List Delivery)
      (succeeds : ((create 1 true).stageFeed Vocabulary.initial 2
        ⟨deliveries, none⟩).1.toOption.isSome = true) : ∃ counts next,
      (create 1 true).stageFeed Vocabulary.initial 2 ⟨deliveries, none⟩ = (.ok counts, next) := by
    obtain ⟨counts, reached⟩ := Outcome.exists_ok succeeds
    exact ⟨counts, _, Prod.ext reached rfl⟩
  obtain ⟨frontCounts, staged, frontStaged⟩ :=
    reached [loadRecord, callRecord] (by decide +kernel)
  obtain ⟨counts, next, allStaged⟩ :=
    reached [loadRecord, callRecord, changeRecord] (by decide +kernel)
  obtain ⟨⟨_, _, _, frontCounted⟩, -⟩ :=
    ofFeed_areFilled Vocabulary.initial (by decide : 0 < 2) two
  obtain ⟨⟨batches, run, filled, counted⟩, -, cutOff⟩ :=
    ofFeed_areFilled Vocabulary.initial (by decide : 0 < 2) three
  have frontSame : frontCounts = ⟨1, 1, 0, 1⟩ := by
    rw [(frontCounted (create 1 true)).1 frontCounts staged frontStaged]
    simp [Item.counts, List.filterMap_cons, Item.entity?, Item.edge?, Item.change?]
  have allSame : counts = ⟨1, 1, 1, 2⟩ := by
    rw [(counted (create 1 true)).1 counts next allStaged]
    simp [Item.counts, List.filterMap_cons, Item.entity?, Item.edge?, Item.change?]
  have length : batches.length = 2 := by simpa using filled.count
  obtain ⟨first, last, rfl⟩ := List.length_eq_two.mp length
  rw [frontSame] at frontStaged
  rw [allSame] at allStaged
  refine ⟨_, staged, three, ⟨first, last, run, filled.full 0 (by simp), ?_⟩, ⟨next, allStaged⟩,
    frontStaged, ?_⟩
  · exact (congrArg Batch.size (filled.each 1 (by simp))).trans (Batch.size_ofItems _)
  · have ends := (cutOff emptyRecord [] none _ rfl).2 (create 1 true)
    exact ends.trans (congrArg (andThen · fun _ staged => (.error _, staged)) frontStaged)

end BatchRun

end CodeGraph
