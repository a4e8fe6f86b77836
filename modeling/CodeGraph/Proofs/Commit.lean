import CodeGraph.Snapshot.Builder

/-!
This file says what a commit can do: it gives a snapshot of the staged data and closes the builder,
or it fails, and then it is told why.
-/

namespace CodeGraph.Builder

/-- The snapshot shows exactly the staged data. -/
structure Shows (builder : Builder) (now : String) (createdAt : Value) (snapshot : Snapshot) :
    Prop where
  complete : builder.missing = []
  entities : snapshot.entities = builder.materialized
  sorted : Edge.sort builder.edges = .ok snapshot.edges
  changeSets : snapshot.changeSets = builder.changeSets
  identified : Content.identifier snapshot.entities.rows snapshot.edges snapshot.changeSets.rows =
    .ok snapshot.id
  createdAt : snapshot.createdAt = if createdAt.isTruthy then createdAt else .text now
  generation : snapshot.generation = builder.generation

/-- A snapshot that is made shows the staged data. -/
theorem shows_of_snapshot {builder : Builder} {now : String} {createdAt : Value}
    {snapshot : Snapshot} (made : builder.snapshot now createdAt = .ok snapshot) :
    builder.Shows now createdAt snapshot := by
  unfold Builder.snapshot at made
  split at made
  · rename_i complete
    split at made
    · cases made
    · rename_i edges sorting
      cases identified : Content.identifier builder.materialized.rows edges
          builder.changeSets.rows with
      | error fault => rw [identified] at made; cases made
      | ok id =>
          rw [identified] at made
          cases made
          exact ⟨complete, rfl, sorting, rfl, identified, rfl, rfl⟩
  · cases made

/-- Sorted edges, an identifier and complete ends are all that a snapshot needs. -/
theorem snapshot_of_parts {builder : Builder} (now : String) (createdAt : Value)
    {edges : List Edge} {id : String} (complete : builder.missing = [])
    (sorted : Edge.sort builder.edges = .ok edges)
    (identified : Content.identifier builder.materialized.rows edges builder.changeSets.rows =
      .ok id) :
    ∃ snapshot, builder.snapshot now createdAt = .ok snapshot := by
  unfold Builder.snapshot
  rw [dif_pos complete]
  split
  · rename_i fault failing
    rw [sorted] at failing
    cases failing
  · rename_i other sorting
    have same : other = edges := by
      rw [sorted] at sorting
      exact (Except.ok.inj sorting).symm
    subst same
    exact ⟨_, by rw [identified]; rfl⟩

/-- A commit is refused because the builder is closed, fails without any change, gives a snapshot,
or breaks off when it announces a generation that cannot be written. -/
theorem commit_cases (builder : Builder) (now : String) (createdAt : Value) :
    (builder.committed = true ∧
      builder.commit now createdAt = (.error (.storage .builderCommitted), builder)) ∨
    (builder.committed = false ∧ ∃ fault, builder.snapshot now createdAt = .error fault ∧
      builder.commit now createdAt = (.error fault, builder)) ∨
    (builder.committed = false ∧ Decimal.isWritable builder.generation = true ∧
      ∃ snapshot, builder.snapshot now createdAt = .ok snapshot ∧
        builder.commit now createdAt = (.ok snapshot, builder.closed)) ∨
    (builder.committed = false ∧ Decimal.isWritable builder.generation = false ∧
      ∃ snapshot, builder.snapshot now createdAt = .ok snapshot ∧
        builder.commit now createdAt = (crash .tooManyDigits, builder.closed)) := by
  cases closed : builder.committed with
  | true => exact Or.inl ⟨rfl, by simp [commit, whenOpen, closed]⟩
  | false =>
      cases made : builder.snapshot now createdAt with
      | error fault =>
          exact Or.inr (Or.inl ⟨rfl, fault, rfl, by simp [commit, whenOpen, closed, made]⟩)
      | ok snapshot =>
          have generation : snapshot.generation = builder.generation :=
            (shows_of_snapshot made).generation
          cases writable : Decimal.isWritable builder.generation with
          | true =>
              refine Or.inr (Or.inr (Or.inl ⟨rfl, rfl, snapshot, rfl, ?_⟩))
              simp [commit, whenOpen, closed, made, generation, writable]
          | false =>
              refine Or.inr (Or.inr (Or.inr ⟨rfl, rfl, snapshot, rfl, ?_⟩))
              simp [commit, whenOpen, closed, made, generation, writable]

/-- A commit that succeeds was made by an open builder and shows its data. -/
theorem commit_ok {builder : Builder} {now : String} {createdAt : Value} {snapshot : Snapshot}
    (committed : (builder.commit now createdAt).1 = .ok snapshot) :
    builder.committed = false ∧ Decimal.isWritable snapshot.generation = true ∧
      builder.Shows now createdAt snapshot ∧
      builder.commit now createdAt = (.ok snapshot, builder.closed) := by
  rcases commit_cases builder now createdAt with
    ⟨-, ended⟩ | ⟨-, fault, -, ended⟩ | ⟨opened, writable, other, made, ended⟩ |
      ⟨-, -, other, -, ended⟩ <;> rw [ended] at committed
  · cases committed
  · cases committed
  · cases committed
    have shown := shows_of_snapshot made
    exact ⟨opened, shown.generation ▸ writable, shown, ended⟩
  · cases committed

/-- An open builder that can make a snapshot commits it if its generation can be written. -/
theorem commit_of_snapshot {builder : Builder} {now : String} {createdAt : Value}
    {snapshot : Snapshot} (opened : builder.committed = false)
    (made : builder.snapshot now createdAt = .ok snapshot)
    (writable : Decimal.isWritable builder.generation = true) :
    builder.commit now createdAt = (.ok snapshot, builder.closed) := by
  have generation : snapshot.generation = builder.generation := (shows_of_snapshot made).generation
  simp [commit, whenOpen, opened, made, generation, writable]

end CodeGraph.Builder
