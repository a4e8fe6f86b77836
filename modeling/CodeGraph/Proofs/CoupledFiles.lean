import CodeGraph.Proofs.AnsweredReports
import CodeGraph.Proofs.ExactClusters
import CodeGraph.Proofs.FileGroups
import CodeGraph.Proofs.RelationOrder

/-!
This file says which files are coupled to another one, and in which order they are listed. The
strength of a coupling is a quotient of double precision. It is compared as it is and rounded for
the order, but the common changes of the files already decide the order.
-/

namespace CodeGraph

namespace Value

/-- The place of a number on the line, whatever its type. -/
def place? (value : Value) : Option (WithBot (WithTop Int)) :=
  (Atom.ofValue? value).bind fun atom => atom.essence.place?

/-- The first number is not farther on the line than the second one. -/
def IsAtMost (first second : Value) : Prop :=
  ∃ left ∈ first.place?, ∃ right ∈ second.place?, left ≤ right

/-- A number that is no NaN stands on the line. -/
theorem exists_place {number : Binary64} (isNumber : number.isNaN = false) :
    ∃ place, (Value.float number).place? = some place :=
  (Atom.IsOrdered.of_isNaN isNumber).exists_place rfl

variable {first second : Value} {left right : WithBot (WithTop Int)}

theorem isAtMost_iff (former : first.place? = some left) (latter : second.place? = some right) :
    first.IsAtMost second ↔ left ≤ right := by
  simp [IsAtMost, former, latter]

/-- Numbers that stand on the line are compared by their places. -/
theorem compareNumbers_lt (former : first.place? = some left) (latter : second.place? = some right)
    (operator : String) : ∃ order, compareNumbers operator first second = .ok order ∧
      ((order == some .lt) = true ↔ left < right) := by
  obtain ⟨leftAtom, isLeft, leftPlace⟩ := Option.bind_eq_some_iff.mp former
  obtain ⟨rightAtom, isRight, rightPlace⟩ := Option.bind_eq_some_iff.mp latter
  have leftNumber := Atom.isNumber_of_place? leftPlace
  have rightNumber := Atom.isNumber_of_place? rightPlace
  refine ⟨_, compareNumbers_eq isLeft isRight leftNumber rightNumber operator, ?_⟩
  have asAtoms : (leftAtom.compareNumbers? rightAtom == some .lt) = leftAtom.lt rightAtom := by
    cases leftAtom <;> first | rfl | cases leftNumber
  rw [asAtoms, Atom.lt_iff_isSmaller leftNumber rightNumber,
    Atom.isSmaller_iff leftPlace rightPlace]

end Value

namespace Snapshot

/-- The number of changes that touch a file. -/
def changesOf (snapshot : Snapshot) (path : String) : Nat :=
  snapshot.changeSets.rows.countP fun change => change.touches path

/-- The number of changes that touch both files. -/
def commonChanges (snapshot : Snapshot) (first second : String) : Nat :=
  snapshot.changeSets.rows.countP fun change => change.touches first && change.touches second

/-- An edge in either direction joins an entity of the first file and one of the second. -/
def FilesAdjoin (snapshot : Snapshot) (first second : String) : Prop :=
  ∃ left ∈ addressesIn first snapshot.entities.rows,
    ∃ right ∈ addressesIn second snapshot.entities.rows, snapshot.Adjoins left right

theorem commonChanges_comm (snapshot : Snapshot) (first second : String) :
    snapshot.commonChanges first second = snapshot.commonChanges second first := by
  simp only [commonChanges, Bool.and_comm]

theorem filesAdjoin_comm {snapshot : Snapshot} {first second : String} :
    snapshot.FilesAdjoin first second ↔ snapshot.FilesAdjoin second first := by
  have turned {first second : String} (adjoin : snapshot.FilesAdjoin first second) :
      snapshot.FilesAdjoin second first := by
    obtain ⟨left, leftIn, right, rightIn, adjoins⟩ := adjoin
    exact ⟨right, rightIn, left, leftIn, adjoins.symm⟩
  exact ⟨turned, turned⟩

end Snapshot

namespace CoupledFile

/-- More common changes come first, then the smaller path. -/
def IsBefore (first second : CoupledFile) : Prop :=
  second.coChanges < first.coChanges ∨
    (first.coChanges = second.coChanges ∧ first.path < second.path)

end CoupledFile

namespace CouplingReport

variable {snapshot : Snapshot} {minStrength minCoChanges : Value} {changeCount : Nat}

/-- A strength is a number, also where there are no changes to divide by. -/
theorem strengthOf_isNaN (coChanges changeCount : Nat) :
    (strengthOf coChanges changeCount).isNaN = false := by
  unfold strengthOf Binary64.ofQuotient
  exact Binary64.ofUnitsQuotient_isNaN _ _ _

/-- There are enough common changes, and they are a large enough share of all changes. The share is
the quotient of double precision that is compared, before it is cut to decimal places. -/
def IsStrong (minStrength minCoChanges : Value) (coChanges changeCount : Nat) : Prop :=
  minCoChanges.IsAtMost (.int coChanges) ∧
    minStrength.IsAtMost (.float (strengthOf coChanges changeCount))

/-- The bounds are numbers and no NaN. -/
structure AreBounds (minStrength minCoChanges : Value) : Prop where
  strength : minStrength.place?.isSome = true
  count : minCoChanges.place?.isSome = true

theorem exists_isBelow {number bound : Value} {place : WithBot (WithTop Int)}
    (former : number.place? = some place) (latter : bound.place?.isSome = true) :
    ∃ below, isBelow number bound = .ok below ∧ (below = false ↔ bound.IsAtMost number) := by
  obtain ⟨limit, limited⟩ := Option.isSome_iff_exists.mp latter
  obtain ⟨order, compared, below⟩ := Value.compareNumbers_lt former limited "<"
  refine ⟨order == some .lt, ?_, ?_⟩
  · rw [isBelow, compared]
    rfl
  · rw [← Bool.not_eq_true, below, Value.isAtMost_iff limited former, not_lt]

/-- Bounds that are numbers admit exactly the strong couplings. -/
theorem exists_qualifies_iff (bounds : AreBounds minStrength minCoChanges)
    (coChanges changeCount : Nat) : ∃ wanted,
      qualifies minStrength minCoChanges coChanges changeCount = .ok wanted ∧
        (wanted = true ↔ IsStrong minStrength minCoChanges coChanges changeCount) := by
  obtain ⟨place, placed⟩ := Value.exists_place (strengthOf_isNaN coChanges changeCount)
  obtain ⟨rare, counted, isRare⟩ := @exists_isBelow (.int coChanges) _ _ rfl bounds.count
  obtain ⟨weak, weighed, isWeak⟩ := exists_isBelow placed bounds.strength
  unfold qualifies
  rw [counted, weighed, IsStrong, ← isRare, ← isWeak]
  cases rare
  · exact ⟨!weak, rfl, by simp⟩
  · exact ⟨false, rfl, by simp⟩

section Selection

variable {own : String} {changes : List ChangeSet}

/-- The files that are collected are the strong ones of those that are given. -/
theorem collect_eq_ok (bounds : AreBounds minStrength minCoChanges) {paths : List String}
    {coupled : List CoupledFile}
    (collected : collect snapshot (.text own) changes minStrength minCoChanges paths =
      .ok coupled) :
    (coupled.map CoupledFile.path).Sublist paths ∧
      (∀ path, path ∈ coupled.map CoupledFile.path ↔ path ∈ paths ∧
        IsStrong minStrength minCoChanges (touching changes path) changes.length) ∧
      ∀ file ∈ coupled, ∃ files, snapshot.files = .ok files ∧
        file = couple snapshot files (.text own) file.path (touching changes file.path)
          changes.length := by
  induction paths generalizing coupled with
  | nil =>
      cases collected
      simp
  | cons path rest inductionHypothesis =>
      obtain ⟨wanted, qualified, isWanted⟩ :=
        exists_qualifies_iff bounds (touching changes path) changes.length
      unfold collect at collected
      dsimp only at collected
      rw [qualified, Outcome.ok_bind] at collected
      split at collected
      · rename_i isTrue
        obtain ⟨files, grouped, collected⟩ := Outcome.bind_ok collected
        obtain ⟨others, behind, joined⟩ := Outcome.bind_ok collected
        cases joined
        obtain ⟨part, exact, coupledAs⟩ := inductionHypothesis behind
        have strong := isWanted.mp isTrue
        refine ⟨part.cons_cons path, fun name => ?_, ?_⟩
        · simp only [List.map_cons, List.mem_cons, exact, couple]
          grind
        · exact List.forall_mem_cons.mpr ⟨⟨files, grouped, rfl⟩, coupledAs⟩
      · rename_i isFalse
        obtain ⟨part, exact, coupledAs⟩ := inductionHypothesis collected
        have weak := mt isWanted.mpr isFalse
        refine ⟨part.cons path, fun name => ?_, coupledAs⟩
        rw [exact, List.mem_cons]
        grind

end Selection

section Order

variable {first second : CoupledFile}

/-- More common changes do not make a coupling weaker. -/
theorem strengthOf_le {few many : Nat} (fewer : few ≤ many) (changeCount : Nat) :
    (strengthOf few changeCount).le (strengthOf many changeCount) = true := by
  unfold strengthOf Binary64.ofQuotient
  apply Binary64.ofUnitsQuotient_le
  exact Int.ofNat_le.mpr (Nat.mul_le_mul_right _ fewer)

/-- The common changes give the order, since the rounded strengths never contradict them. -/
theorem precedes_iff (former : first.strength = strengthOf first.coChanges changeCount)
    (latter : second.strength = strengthOf second.coChanges changeCount) :
    first.precedes second = true ↔ first.IsBefore second := by
  have notWeaker {first second : CoupledFile}
      (former : first.strength = strengthOf first.coChanges changeCount)
      (latter : second.strength = strengthOf second.coChanges changeCount)
      (fewer : first.coChanges ≤ second.coChanges) :
      second.shownStrength.lt first.shownStrength = false := by
    unfold CoupledFile.shownStrength
    rw [former, latter]
    exact Binary64.lt_eq_false_of_le (Binary64.roundPlaces_le _ (strengthOf_le fewer _))
  unfold CoupledFile.precedes CoupledFile.IsBefore
  rcases Nat.lt_trichotomy first.coChanges second.coChanges with fewer | same | more
  · rw [notWeaker former latter fewer.le]
    simp [fewer.ne, fewer.not_gt]
  · rw [notWeaker former latter same.le, notWeaker latter former same.ge]
    simp [same]
  · rw [notWeaker latter former more.le]
    simp [more.ne', more]

/-- Different files that are measured alike are sorted by their common changes and their paths. -/
theorem sort_isBefore {coupled : List CoupledFile}
    (distinct : (coupled.map CoupledFile.path).Nodup)
    (measured : ∀ file ∈ coupled, file.strength = strengthOf file.coChanges changeCount) :
    (Order.sort CoupledFile.precedes coupled).Pairwise CoupledFile.IsBefore := by
  have strict : Order.IsStrict CoupledFile.precedes (· ∈ coupled) :=
    .of_rank (fun first firstIn second secondIn =>
      precedes_iff (measured first firstIn) (measured second secondIn)) distinct
  refine (Order.sort_pairwise strict distinct.of_map).imp ?_
  rintro first second ⟨firstIn, secondIn, before⟩
  exact (precedes_iff (measured first firstIn) (measured second secondIn)).mp before

end Order

section Counting

variable {own path : String}

theorem length_relevant (snapshot : Snapshot) (own : String) :
    (relevant snapshot (.text own)).length = snapshot.changesOf own :=
  List.countP_eq_length_filter.symm

theorem touching_relevant (snapshot : Snapshot) (own path : String) :
    touching (relevant snapshot (.text own)) path = snapshot.commonChanges own path := by
  rw [touching, relevant, List.countP_filter, Snapshot.commonChanges]
  simp only [Bool.and_comm]

/-- The other files are those with common changes. -/
theorem mem_otherFiles : path ∈ otherFiles (relevant snapshot (.text own)) (.text own) ↔
    path ≠ own ∧ 0 < snapshot.commonChanges own path := by
  have apart : (Atom.text own).agrees (.text path) = false ↔ path ≠ own := by
    rw [← Bool.not_eq_true, Atom.agrees_text_iff, Atom.text.injEq, eq_comm]
  rw [otherFiles, List.mem_filter, Table.mem_ofList_iff Function.injective_id, Bool.not_eq_true',
    apart, and_comm, ← touching_relevant, touching, List.countP_pos_iff, List.mem_flatMap]
  simp [ChangeSet.touches]

theorem nodup_otherFiles (changes : List ChangeSet) (own : Atom) :
    (otherFiles changes own).Nodup :=
  (Table.nodup_rows _).filter _

/-- Some edge links two lists of addresses if it joins a member of one and a member of the other. -/
theorem isLinked_iff {left right : List Address} : isLinked snapshot left right = true ↔
    ∃ first ∈ left, ∃ second ∈ right, snapshot.Adjoins first second := by
  simp only [isLinked, List.any_eq_true, Bool.or_eq_true, List.contains_iff_mem,
    Snapshot.mem_calleeAddresses, Snapshot.mem_callerAddresses, Snapshot.Adjoins]
  grind

end Counting

/-- What is told of a coupled file is measured on the snapshot. -/
structure IsMeasured (snapshot : Snapshot) (own : String) (file : CoupledFile) : Prop where
  count : file.coChanges = snapshot.commonChanges own file.path
  strength : file.strength = strengthOf file.coChanges (snapshot.changesOf own)
  hidden : file.hidden = true ↔ ¬snapshot.FilesAdjoin own file.path

theorem couple_isMeasured {files : List (Atom × List Address)}
    (grouped : snapshot.files = .ok files) (own path : String) :
    IsMeasured snapshot own (couple snapshot files (.text own) path
      (snapshot.commonChanges own path) (snapshot.changesOf own)) where
  count := rfl
  strength := by rw [couple]
  hidden := by
    rw [couple, Bool.not_eq_true', ← Bool.not_eq_true, isLinked_iff,
      Snapshot.entitiesOfFile_files grouped, Snapshot.entitiesOfFile_files grouped]
    rfl

/-- The report lists exactly the files with enough common changes, which are a large enough share of
the changes of the file in question, and it tells which of them no edge explains. -/
structure IsExact (snapshot : Snapshot) (own : String) (minStrength minCoChanges : Value)
    (report : CouplingReport) : Prop where
  counted : report.changeCount = snapshot.changesOf own
  divisible : ∀ path ∈ otherFiles (relevant snapshot (.text own)) (.text own),
    0 < report.changeCount
  exact : ∀ path count, (∃ file ∈ report.coupled, file.path = path ∧ file.coChanges = count) ↔
    path ≠ own ∧ count = snapshot.commonChanges own path ∧ 0 < count ∧
      IsStrong minStrength minCoChanges count report.changeCount
  once : (report.coupled.map CoupledFile.path).Nodup
  ordered : report.coupled.Pairwise CoupledFile.IsBefore
  strength : ∀ file ∈ report.coupled,
    file.strength = strengthOf file.coChanges report.changeCount
  hidden : ∀ file ∈ report.coupled,
    file.hidden = true ↔ ¬snapshot.FilesAdjoin own file.path
  shown : report.toValue.field? "change_count" = some (.int report.changeCount) ∧
    report.toValue.field? "coupled_files" = some (.list (report.coupled.map CoupledFile.toValue)) ∧
    ∀ file ∈ report.coupled, file.toValue.field? "file_path" = some (.text file.path) ∧
      file.toValue.field? "co_changes" = some (.int file.coChanges) ∧
      file.toValue.field? "hidden" = some (.bool file.hidden)

variable {own : String}

/-- Without recorded changes nothing is collected, so both branches are one. -/
theorem measure_eq {entity : Entity} (inside : entity.IsIn own) :
    measure snapshot entity minStrength minCoChanges =
      (collect snapshot (.text own) (relevant snapshot (.text own)) minStrength minCoChanges
        (otherFiles (relevant snapshot (.text own)) (.text own))).map fun coupled =>
          ⟨entity.address, entity.filePath, !snapshot.changeSets.rows.isEmpty,
            (relevant snapshot (.text own)).length,
            Order.sort CoupledFile.precedes coupled⟩ := by
  unfold measure
  dsimp only
  rw [inside.1, inside.2, Bool.false_or, Bool.not_not]
  split
  · rename_i empty
    rw [relevant, List.isEmpty_iff.mp empty]
    rfl
  · rename_i full
    rw [Bool.eq_false_iff.mpr full]
    rfl

theorem measure_isExact {entity : Entity} {report : CouplingReport} (inside : entity.IsIn own)
    (bounds : AreBounds minStrength minCoChanges)
    (measured : measure snapshot entity minStrength minCoChanges = .ok report) :
    IsExact snapshot own minStrength minCoChanges report := by
  rw [measure_eq inside] at measured
  obtain ⟨coupled, collected, rfl⟩ := Outcome.map_ok measured
  obtain ⟨part, chosen, coupledAs⟩ := collect_eq_ok bounds collected
  have distinct := (nodup_otherFiles _ _).sublist part
  have sorted := Order.sort_perm CoupledFile.precedes coupled
  rw [length_relevant] at chosen
  have facts : ∀ file ∈ coupled, IsMeasured snapshot own file := by
    intro file member
    obtain ⟨files, grouped, same⟩ := coupledAs file member
    rw [touching_relevant, length_relevant] at same
    rw [same]
    exact couple_isMeasured grouped own file.path
  rw [length_relevant]
  exact {
    counted := rfl
    divisible := by
      intro path member
      obtain ⟨change, inside, both⟩ := List.countP_pos_iff.mp (mem_otherFiles.mp member).2
      exact List.countP_pos_iff.mpr ⟨change, inside, Bool.and_elim_left both⟩
    exact := by
      intro path count
      have listed : (∃ file ∈ coupled, file.path = path ∧ file.coChanges = count) ↔
          path ∈ coupled.map CoupledFile.path ∧ count = snapshot.commonChanges own path := by
        rw [List.mem_map]
        constructor
        · rintro ⟨file, member, rfl, rfl⟩
          exact ⟨⟨file, member, rfl⟩, (facts file member).count⟩
        · rintro ⟨⟨file, member, rfl⟩, rfl⟩
          exact ⟨file, member, rfl, (facts file member).count⟩
      simp only [Order.mem_sort, listed, chosen, mem_otherFiles, touching_relevant]
      constructor
      · rintro ⟨⟨⟨apart, common⟩, strong⟩, rfl⟩
        exact ⟨apart, rfl, common, strong⟩
      · rintro ⟨apart, rfl, common, strong⟩
        exact ⟨⟨⟨apart, common⟩, strong⟩, rfl⟩
    once := (sorted.map CoupledFile.path).nodup_iff.mpr distinct
    ordered := sort_isBefore distinct fun file member => (facts file member).strength
    strength := fun file member => (facts file (Order.mem_sort.mp member)).strength
    hidden := fun file member => (facts file (Order.mem_sort.mp member)).hidden
    shown := ⟨rfl, rfl, fun file _ => ⟨rfl, rfl, rfl⟩⟩ }

theorem IsExact.count_eq {report : CouplingReport}
    (isExact : IsExact snapshot own minStrength minCoChanges report) {file : CoupledFile}
    (member : file ∈ report.coupled) :
    file.coChanges = snapshot.commonChanges own file.path :=
  ((isExact.exact file.path file.coChanges).mp ⟨file, member, rfl, rfl⟩).2.1

/-- A coupling looks the same from both of its files. -/
theorem IsExact.mirrored {report other : CouplingReport} {otherStrength otherCoChanges : Value}
    {file back : CoupledFile} (isExact : IsExact snapshot own minStrength minCoChanges report)
    (member : file ∈ report.coupled)
    (otherExact : IsExact snapshot file.path otherStrength otherCoChanges other)
    (backMember : back ∈ other.coupled) (returns : back.path = own) :
    back.coChanges = file.coChanges ∧ back.hidden = file.hidden := by
  refine ⟨?_, ?_⟩
  · rw [otherExact.count_eq backMember, isExact.count_eq member, returns,
      Snapshot.commonChanges_comm]
  · rw [Bool.eq_iff_iff, otherExact.hidden back backMember, isExact.hidden file member, returns,
      Snapshot.filesAdjoin_comm]

/-- A request for the couplings of a file names one of its entities, and its bounds are numbers. -/
structure AsksFor (vocabulary : Vocabulary) (snapshot : Snapshot) (own : String)
    (key minStrength minCoChanges : Value) : Prop where
  entity : ∃ entity, snapshot.get vocabulary key = .ok entity ∧ entity.IsIn own
  bounds : AreBounds minStrength minCoChanges

variable {vocabulary : Vocabulary} {key : Value}

/-- Every request is answered where the paths of the source tree are texts. -/
theorem exists_ofRequest (asked : AsksFor vocabulary snapshot own key minStrength minCoChanges)
    (paths : snapshot.HasSourcePaths) :
    ∃ report, ofRequest vocabulary snapshot key minStrength minCoChanges = .ok report := by
  obtain ⟨entity, found, inside⟩ := asked.entity
  obtain ⟨coupled, collected⟩ := exists_collect (Snapshot.groupFiles_ok paths [])
    (fun coChanges changeCount => (exists_qualifies_iff asked.bounds coChanges changeCount).imp
      fun _ given => given.1) (.text own) (relevant snapshot (.text own))
    (otherFiles (relevant snapshot (.text own)) (.text own))
  unfold ofRequest
  rw [found, Outcome.ok_bind, measure_eq inside, collected]
  exact ⟨_, rfl⟩

theorem ofRequest_exact (asked : AsksFor vocabulary snapshot own key minStrength minCoChanges)
    {report : CouplingReport}
    (answered : ofRequest vocabulary snapshot key minStrength minCoChanges = .ok report) :
    IsExact snapshot own minStrength minCoChanges report := by
  obtain ⟨entity, found, inside⟩ := asked.entity
  rw [ofRequest, found, Outcome.ok_bind] at answered
  exact measure_isExact inside asked.bounds answered

/-- The couplings of a file are told exactly, and each of them is told alike from the other file. -/
theorem ofRequest_isExact (asked : AsksFor vocabulary snapshot own key minStrength minCoChanges) :
    (snapshot.HasSourcePaths →
        ∃ report, ofRequest vocabulary snapshot key minStrength minCoChanges = .ok report) ∧
      ∀ report, ofRequest vocabulary snapshot key minStrength minCoChanges = .ok report →
        IsExact snapshot own minStrength minCoChanges report ∧
          ∀ file ∈ report.coupled, ∀ otherKey otherStrength otherCoChanges other,
            AsksFor vocabulary snapshot file.path otherKey otherStrength otherCoChanges →
            ofRequest vocabulary snapshot otherKey otherStrength otherCoChanges = .ok other →
            ∀ back ∈ other.coupled, back.path = own →
              back.coChanges = file.coChanges ∧ back.hidden = file.hidden := by
  refine ⟨exists_ofRequest asked, fun report answered => ?_⟩
  have isExact := ofRequest_exact asked answered
  refine ⟨isExact, fun file member otherKey otherStrength otherCoChanges other otherAsked
    otherAnswered back backMember returns => ?_⟩
  exact isExact.mirrored member (ofRequest_exact otherAsked otherAnswered) backMember returns

/-- Three changes touch the file of the first function. Two of them touch the file of the function
that it calls, and one of these two touches a file without entities. -/
def sharedHistory : Snapshot where
  entities := Table.ofList [Clustering.fetch, Clustering.parse, Clustering.store]
  edges := [⟨Clustering.fetch.address, Clustering.parse.address, .text Edge.defaultRelation⟩]
  changeSets := Table.ofList [⟨"1", Table.ofList ["a/x.py", "b/y.py"]⟩,
    ⟨"2", Table.ofList ["a/x.py", "b/y.py", "c/z.py"]⟩, ⟨"3", Table.ofList ["a/x.py"]⟩]
  id := ""
  createdAt := .null
  generation := 1
  endpointsPresent := by decide +kernel

theorem asksFor_sharedHistory (key own : String) (minCoChanges : Int)
    (found : (sharedHistory.get Vocabulary.initial (.text key)).toOption.any
      (fun entity => decide (entity.IsIn own)) = true) :
    AsksFor Vocabulary.initial sharedHistory own (.text key) defaultMinStrength
      (.int minCoChanges) where
  entity := (Outcome.exists_of_any found).imp fun _ given => ⟨given.1, of_decide_eq_true given.2⟩
  bounds := ⟨by decide +kernel, rfl⟩

/-- The file that the edge explains has two changes in common, and the other one has a single
one. -/
theorem ofRequest_isExact_sharedHistory : ∃ report other,
    ofRequest Vocabulary.initial sharedHistory (.text Clustering.fetch.key) defaultMinStrength
        (.int 1) = .ok report ∧
      IsExact sharedHistory "a/x.py" defaultMinStrength (.int 1) report ∧
      report.coupled.map (fun file => (file.path, file.coChanges, file.hidden)) =
        [("b/y.py", 2, false), ("c/z.py", 1, true)] ∧
      ofRequest Vocabulary.initial sharedHistory (.text Clustering.parse.key) defaultMinStrength
        (.int 2) = .ok other ∧
      IsExact sharedHistory "b/y.py" defaultMinStrength (.int 2) other ∧
      other.coupled.map (fun file => (file.path, file.coChanges, file.hidden)) =
        [("a/x.py", 2, false)] := by
  have first : (ofRequest Vocabulary.initial sharedHistory (.text Clustering.fetch.key)
      defaultMinStrength (.int 1)).toOption.any (fun report => decide (report.coupled.map
        (fun file => (file.path, file.coChanges, file.hidden)) =
          [("b/y.py", 2, false), ("c/z.py", 1, true)])) = true := by decide +kernel
  have second : (ofRequest Vocabulary.initial sharedHistory (.text Clustering.parse.key)
      defaultMinStrength (.int 2)).toOption.any (fun report => decide (report.coupled.map
        (fun file => (file.path, file.coChanges, file.hidden)) =
          [("a/x.py", 2, false)])) = true := by decide +kernel
  obtain ⟨report, answered, listed⟩ := Outcome.exists_of_any first
  obtain ⟨other, otherAnswered, otherListed⟩ := Outcome.exists_of_any second
  have asked := asksFor_sharedHistory Clustering.fetch.key "a/x.py" 1 (by decide +kernel)
  have otherAsked := asksFor_sharedHistory Clustering.parse.key "b/y.py" 2 (by decide +kernel)
  have exact := (ofRequest_isExact asked).2 report answered
  have otherExact := (ofRequest_isExact otherAsked).2 other otherAnswered
  exact ⟨report, other, answered, exact.1, of_decide_eq_true listed, otherAnswered, otherExact.1,
    of_decide_eq_true otherListed⟩

end CouplingReport

end CodeGraph
