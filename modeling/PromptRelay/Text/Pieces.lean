/-!
Contract: cutting text into pieces and putting pieces together.

Owns:
- splitting at a separator, joining with one, and their string forms;
- dropping a leading or a last occurrence of a given text;
- the lines of a text, ended by a line feed or by a carriage return and a line
  feed.

Does not own: what the pieces mean.
-/

namespace PromptRelay.Text

/-- The pieces between separators; a text without one is a single piece. -/
def split [DecidableEq α] (separator : α) : List α → List (List α)
  | [] => [[]]
  | c :: rest =>
    if c = separator then
      [] :: split separator rest
    else
      match split separator rest with
      | [] => [[c]]
      | piece :: pieces => (c :: piece) :: pieces

theorem split_eq_splitOn [DecidableEq α] (separator : α) (cs : List α) :
    split separator cs = cs.splitOn separator := by
  induction cs with
  | nil => rfl
  | cons c rest inductionHypothesis =>
      rw [split, List.splitOn_cons_eq_if_modifyHead, inductionHypothesis]
      by_cases isSeparator : c = separator
      · simp [isSeparator]
      · rw [if_neg isSeparator, if_neg (by simpa using isSeparator)]
        have hasPieces := List.splitOn_ne_nil separator rest
        cases pieces : rest.splitOn separator with
        | nil => exact absurd pieces hasPieces
        | cons piece others => rfl

/-- The strings one after the other with the separator between neighbours. -/
def joined (separator : String) (strings : List String) : String :=
  separator.intercalate strings

/-- What follows `start`, if the text begins with it. -/
def after? (start : List Char) (cs : List Char) : Option (List Char) :=
  match start, cs with
  | [], rest => some rest
  | _ :: _, [] => none
  | a :: start, c :: rest => if a = c then after? start rest else none

/-- What follows the last occurrence of `mark`, if there is one. -/
def afterLast? (mark : List Char) : List Char → Option (List Char)
  | [] => after? mark []
  | c :: rest =>
    match afterLast? mark rest with
    | some answer => some answer
    | none => after? mark (c :: rest)

/-- What precedes the first occurrence of `c`, if there is one. -/
def before? (c : Char) : List Char → Option (List Char)
  | [] => none
  | d :: rest => if d = c then some [] else (before? c rest).map (d :: ·)

/-- Line endings of a carriage return and a line feed, as a line feed alone. -/
def dropReturns : List Char → List Char
  | '\r' :: '\n' :: rest => '\n' :: dropReturns rest
  | c :: rest => c :: dropReturns rest
  | [] => []

/-- The lines of a text; a line feed at the very end opens no further line. -/
def lines (cs : List Char) : List (List Char) :=
  let pieces := split '\n' (dropReturns cs)
  match pieces.getLast? with
  | some [] => pieces.dropLast
  | _ => pieces

end PromptRelay.Text
