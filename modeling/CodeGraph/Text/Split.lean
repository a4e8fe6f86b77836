/-!
This file holds the cutting of a text at a separator and the joining of its parts.
-/

namespace CodeGraph.Text

/-- The parts between the separators, at least one of them. -/
def split (separator : Char) : List Char → List (List Char)
  | [] => [[]]
  | c :: rest =>
      if c = separator then [] :: split separator rest
      else
        match split separator rest with
        | [] => [[c]]
        | part :: parts => (c :: part) :: parts

/-- The separator stands between every two parts. -/
def join (separator : List Char) : List (List Char) → List Char
  | [] => []
  | [part] => part
  | part :: next :: parts => part ++ separator ++ join separator (next :: parts)

theorem split_ne_nil (separator : Char) (text : List Char) : split separator text ≠ [] := by
  cases text with
  | nil => simp [split]
  | cons c rest =>
      unfold split
      split
      · simp
      · split <;> simp

theorem join_split (separator : Char) (text : List Char) :
    join [separator] (split separator text) = text := by
  induction text with
  | nil => rfl
  | cons c rest inductionHypothesis =>
      unfold split
      by_cases here : c = separator
      · cases parts : split separator rest with
        | nil => exact absurd parts (split_ne_nil separator rest)
        | cons part more =>
            rw [parts] at inductionHypothesis
            simp [here, join, inductionHypothesis]
      · cases parts : split separator rest with
        | nil => exact absurd parts (split_ne_nil separator rest)
        | cons part more =>
            rw [parts] at inductionHypothesis
            cases more with
            | nil => simpa [here, join] using inductionHypothesis
            | cons next more => simpa [here, join] using inductionHypothesis

end CodeGraph.Text
