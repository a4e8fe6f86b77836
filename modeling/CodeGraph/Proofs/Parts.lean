import CodeGraph.Text.Blank
import CodeGraph.Text.Split

/-!
This file says how a text falls into its parts at a separator, and when it has no blanks around it.
-/

namespace CodeGraph.Text

/-- A text without the separator is its only part. -/
theorem split_of_notMem {separator : Char} {text : List Char} (absent : separator ∉ text) :
    split separator text = [text] := by
  induction text with
  | nil => rfl
  | cons c rest inductionHypothesis =>
      obtain ⟨different, behind⟩ := not_or.mp (mt List.mem_cons.mpr absent)
      rw [split, if_neg (Ne.symm different), inductionHypothesis behind]

/-- A separator between two texts is one of the cuts. -/
theorem split_append (separator : Char) (first second : List Char) :
    split separator (first ++ separator :: second) =
      split separator first ++ split separator second := by
  induction first with
  | nil => simp [split]
  | cons c rest inductionHypothesis =>
      rw [List.cons_append, split, split, inductionHypothesis]
      split
      · rfl
      · cases parts : split separator rest with
        | nil => exact absurd parts (split_ne_nil separator rest)
        | cons part more => rfl

/-- No part holds the separator. -/
theorem notMem_of_mem_split {separator : Char} {text part : List Char}
    (member : part ∈ split separator text) : separator ∉ part := by
  induction text generalizing part with
  | nil =>
      rw [split, List.mem_singleton] at member
      rw [member]
      exact List.not_mem_nil
  | cons c rest inductionHypothesis =>
      rw [split] at member
      split at member
      · rcases List.mem_cons.mp member with rfl | behind
        · exact List.not_mem_nil
        · exact inductionHypothesis behind
      · rename_i different
        cases parts : split separator rest with
        | nil => exact absurd parts (split_ne_nil separator rest)
        | cons front more =>
            rw [parts] at member inductionHypothesis
            rcases List.mem_cons.mp member with rfl | behind
            · exact mt List.mem_cons.mp
                (not_or.mpr ⟨Ne.symm different, inductionHypothesis List.mem_cons_self⟩)
            · exact inductionHypothesis (List.mem_cons_of_mem _ behind)

/-- Parts without the separator are found again. -/
theorem split_join {separator : Char} {parts : List (List Char)} (some : parts ≠ [])
    (clean : ∀ part ∈ parts, separator ∉ part) :
    split separator (join [separator] parts) = parts := by
  induction parts with
  | nil => exact absurd rfl some
  | cons part rest inductionHypothesis =>
      cases rest with
      | nil => exact split_of_notMem (clean part List.mem_cons_self)
      | cons next more =>
          rw [join, List.append_assoc, List.singleton_append, split_append,
            split_of_notMem (clean part List.mem_cons_self),
            inductionHypothesis (List.cons_ne_nil _ _)
              fun other member => clean other (List.mem_cons_of_mem _ member)]
          rfl

/-- Texts without the separator end where it stands. -/
theorem append_inj_of_notMem {separator : Char} {first second rest more : List Char}
    (firstClean : separator ∉ first) (secondClean : separator ∉ second)
    (same : first ++ separator :: rest = second ++ separator :: more) :
    first = second ∧ rest = more := by
  induction first generalizing second with
  | nil =>
      cases second with
      | nil => exact ⟨rfl, (List.cons.inj same).2⟩
      | cons c others => exact absurd ((List.cons.inj same).1 ▸ List.mem_cons_self) secondClean
  | cons c others inductionHypothesis =>
      cases second with
      | nil => exact absurd ((List.cons.inj same).1 ▸ List.mem_cons_self) firstClean
      | cons other behind =>
          obtain ⟨rfl, tails⟩ := List.cons.inj same
          obtain ⟨rfl, ends⟩ := inductionHypothesis (fun member =>
            firstClean (List.mem_cons_of_mem _ member)) (fun member =>
              secondClean (List.mem_cons_of_mem _ member)) tails
          exact ⟨rfl, ends⟩

/-- The separator also stands between two runs of parts. -/
theorem join_append (separator : List Char) {first second : List (List Char)} (some : first ≠ [])
    (more : second ≠ []) :
    join separator (first ++ second) =
      join separator first ++ separator ++ join separator second := by
  induction first with
  | nil => exact absurd rfl some
  | cons part rest inductionHypothesis =>
      cases rest with
      | nil =>
          obtain ⟨next, others, rfl⟩ := List.exists_cons_of_ne_nil more
          simp [join]
      | cons next others =>
          have behind := inductionHypothesis (List.cons_ne_nil _ _)
          rw [List.cons_append] at behind
          simp [join, behind]

/-- A text that begins and ends with characters that are not blank is left as it is. -/
theorem strip_eq_self {text : List Char} {first last : Char}
    (head : ∃ behind, text = first :: behind) (headSolid : isBlankChar first = false)
    (tail : ∃ front, text = front ++ [last]) (tailSolid : isBlankChar last = false) :
    strip text = text := by
  obtain ⟨behind, head⟩ := head
  obtain ⟨front, tail⟩ := tail
  have kept : stripFront text = text := by
    rw [stripFront, head, List.dropWhile_cons_of_neg (by simp [headSolid])]
  rw [strip, kept, stripBack, tail, List.reverse_append, List.reverse_singleton,
    List.singleton_append, List.dropWhile_cons_of_neg (by simp [tailSolid]), List.reverse_cons,
    List.reverse_reverse]

end CodeGraph.Text
