import RiskTally.Text.Basic

/-!
# Styled text

What is shown on a terminal is a list of spans, some of them colored. A colored span is
written between the escape sequence of its color and the reset; without colors the
spans are written as they are.

## Main results

* `Styled.render_append`: spans are written one after the other.
* `Styled.render_false`: without colors only the texts of the spans are written.
-/

namespace RiskTally

/-- The colors of the output. -/
inductive Color where
  | red
  | green
  | yellow
  | magenta
  | cyan
  | darkYellow
  | darkGrey
  deriving DecidableEq, Repr

/-- The place of a color in the palette of a terminal. -/
def Color.code : Color → Text
  | darkYellow => ['3']
  | darkGrey => ['8']
  | red => ['9']
  | green => "10".toList
  | yellow => "11".toList
  | magenta => "13".toList
  | cyan => "14".toList

/-- A text of one style. -/
inductive Span where
  | plain (text : Text)
  | colored (color : Color) (text : Text)
  deriving DecidableEq, Repr

/-- Spans in the order in which they are written. -/
abbrev Styled := List Span

namespace Styled

/-- The sequence that turns a color on. -/
def opening (color : Color) : Text :=
  "\x1b[38;5;".toList ++ color.code ++ ['m']

/-- The sequence that turns colors off. -/
def reset : Text :=
  "\x1b[0m".toList

/-- A span as it is written. -/
def renderSpan (color : Bool) : Span → Text
  | .plain text => text
  | .colored tint text => if color then opening tint ++ text ++ reset else text

/-- Spans as they are written, with or without colors. -/
def render (color : Bool) (spans : Styled) : Text :=
  spans.flatMap (renderSpan color)

/-- The text of a span. -/
def spanText : Span → Text
  | .plain text => text
  | .colored _ text => text

theorem render_append (color : Bool) (a b : Styled) :
    render color (a ++ b) = render color a ++ render color b := by
  simp [render]

theorem render_false (spans : Styled) : render false spans = spans.flatMap spanText := by
  have : renderSpan false = spanText := by
    funext span
    cases span <;> simp [renderSpan, spanText]
  rw [render, this]

end Styled

end RiskTally
