import RiskTally.Text.Blank

/-!
# Lines of an environment file

A line of an environment file ends at a line feed that stands outside quotes. A `#` at
the start of a line, or after one blank, begins a comment, which lasts to the next line
feed whatever it holds. A last line that breaks off in quotes, after a backslash or after
one blank is no line. Blanks at the end of a line do not belong to it.

## Main results

* `mem_of_mem_lines`: lines are made of the characters of the text.
-/

namespace RiskTally.EnvironmentFile

/-- Where the reader of a line stands. -/
inductive Place where
  /-- Before the first character that is not blank. -/
  | start
  | plain
  /-- After one blank. -/
  | blank
  /-- After a backslash outside quotes. -/
  | escape
  | single
  /-- After a backslash in single quotes. -/
  | singleEscape
  | double
  /-- After a backslash in double quotes. -/
  | doubleEscape
  | comment
  deriving DecidableEq, Repr

namespace Place

/-- Where the reader stands after a character outside quotes that is special nowhere
else. -/
def afterOther (place : Place) (c : Char) : Place :=
  if c = '\n' ∨ Text.isBlank c = false then plain
  else match place with
    | start => start
    | plain => if c = '\r' then plain else blank
    | _ => plain

/-- Where the reader stands after a character outside quotes. -/
def afterBare (place : Place) (c : Char) : Place :=
  if c = '#' ∧ (place = start ∨ place = blank) then comment
  else if c = '\\' then escape
  else if c = '\'' then single
  else if c = '"' then double
  else place.afterOther c

/-- Where the reader stands after a character. -/
def next (place : Place) (c : Char) : Place :=
  match place with
  | start | plain | blank => place.afterBare c
  | escape => plain
  | single => if c = '\\' then singleEscape else if c = '\'' then plain else single
  | singleEscape => single
  | double => if c = '\\' then doubleEscape else if c = '"' then plain else double
  | doubleEscape => double
  | comment => if c = '\n' then plain else comment

end Place

/-- The lines from a place on, with the characters of the current one in reverse. -/
def linesFrom : Place → (before : Text) → Text → List Text
  | place, before, [] =>
    if place = .start ∨ place = .plain ∨ place = .comment then [before.reverse] else []
  | place, before, c :: text =>
    match place.next c with
    | .comment => linesFrom .comment before text
    | .plain =>
      if c = '\n' then before.reverse :: linesFrom .start [] text
      else linesFrom .plain (c :: before) text
    | next => linesFrom next (c :: before) text

/-- The lines of a text, without their comments and the blanks at their ends. -/
def lines (text : Text) : List Text :=
  (linesFrom .start [] text).map (Text.trimEnd Text.isBlank)

private theorem mem_of_mem_linesFrom {place : Place} {before text line : Text} {c : Char}
    (hline : line ∈ linesFrom place before text) (hc : c ∈ line) : c ∈ before ∨ c ∈ text := by
  induction text generalizing place before with
  | nil =>
    unfold linesFrom at hline
    split at hline
    · obtain rfl := List.mem_singleton.1 hline
      exact Or.inl (List.mem_reverse.1 hc)
    · simp at hline
  | cons d text ih =>
    unfold linesFrom at hline
    split at hline
    · exact (ih hline).imp_right (List.mem_cons_of_mem _)
    · split at hline
      · rcases List.mem_cons.1 hline with rfl | hline
        · exact Or.inl (List.mem_reverse.1 hc)
        · exact (ih hline).elim (by simp) fun h => Or.inr (List.mem_cons_of_mem _ h)
      · rcases ih hline with h | h
        · rcases List.mem_cons.1 h with rfl | h
          · simp
          · exact Or.inl h
        · exact Or.inr (List.mem_cons_of_mem _ h)
    · rcases ih hline with h | h
      · rcases List.mem_cons.1 h with rfl | h
        · simp
        · exact Or.inl h
      · exact Or.inr (List.mem_cons_of_mem _ h)

theorem mem_of_mem_lines {text line : Text} {c : Char} (hline : line ∈ lines text)
    (hc : c ∈ line) : c ∈ text := by
  obtain ⟨whole, hwhole, rfl⟩ := List.mem_map.1 hline
  exact (mem_of_mem_linesFrom hwhole ((Text.trimEnd_sublist _ _).subset hc)).resolve_left
    (by simp)

example : lines "A=1 # it's\r\n  # \"\nB='x\ny'\t\r\nC=2\r".toList =
    ["A=1".toList, [], "B='x\ny'".toList, "C=2".toList] := by decide
example : lines "A=1\nB=2 ".toList = ["A=1".toList] := by decide

end RiskTally.EnvironmentFile
