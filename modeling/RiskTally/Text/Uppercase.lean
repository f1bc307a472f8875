import RiskTally.Text.UppercaseTable

/-!
# Capital letters

The full Unicode uppercase form of a text. It depends on no context, so that it is taken
character by character; one character may become up to three.

## Main results

* `upperChar_ne_nil`: the capital form of a character is never empty.
* `upper_append`: the capital form of a text is that of its pieces, joined.
-/

namespace RiskTally.Text

/-- The capital form of one character. -/
def upperChar (c : Char) : Text :=
  mapChar uppercaseRuns uppercaseExpansions c

/-- The capital form of a text. -/
def upper (text : Text) : Text :=
  text.flatMap upperChar

theorem upper_append (a b : Text) : upper (a ++ b) = upper a ++ upper b := by
  simp [upper]

theorem upperChar_ne_nil (c : Char) : upperChar c ≠ [] :=
  mapChar_ne_nil (by decide) c

example : upper "jan peña".toList = "JAN PEÑA".toList := by decide +kernel
example : upper "straße ǆ ŉ ﬃ ᾳ".toList = "STRASSE Ǆ ʼN FFI ΑΙ".toList := by decide +kernel

end RiskTally.Text
