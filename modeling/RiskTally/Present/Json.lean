import RiskTally.Number.Integer

/-!
# JSON text

The values that a run is summed up in, and their text with an indentation of two
spaces. An empty list or object is written on one line. Only the quote, the backslash
and the control characters are escaped.

## Main results

* `Json.escape_of_plain`: a text without such characters is written as it is.
-/

namespace RiskTally

/-- A JSON value without fractions. -/
inductive Json where
  | null
  | boolean (value : Bool)
  | integer (value : Int)
  | text (value : Text)
  | list (items : List Json)
  | object (fields : List (Text × Json))

namespace Json

/-- A hexadecimal digit in small letters. -/
def hexDigit (n : Nat) : Char :=
  Nat.digitChar n

/-- A character inside a quoted text. -/
def escapeChar (c : Char) : Text :=
  if c = '"' then ['\\', '"']
  else if c = '\\' then ['\\', '\\']
  else if 0x20 ≤ c.toNat then [c]
  else if c.toNat = 0x08 then ['\\', 'b']
  else if c.toNat = 0x09 then ['\\', 't']
  else if c.toNat = 0x0A then ['\\', 'n']
  else if c.toNat = 0x0C then ['\\', 'f']
  else if c.toNat = 0x0D then ['\\', 'r']
  else "\\u00".toList ++ [hexDigit (c.toNat / 16), hexDigit (c.toNat % 16)]

/-- A text as it stands between quotes. -/
def escape (text : Text) : Text :=
  text.flatMap escapeChar

/-- A text in quotes. -/
def quote (text : Text) : Text :=
  '"' :: (escape text ++ ['"'])

/-- A new line at a depth. -/
def newline (depth : Nat) : Text :=
  '\n' :: List.replicate (2 * depth) ' '

/-- Items on lines of their own between brackets; nothing but the brackets without items. -/
def block (depth : Nat) (left right : Char) (items : List Text) : Text :=
  if items = [] then [left, right]
  else
    let separator := ',' :: newline (depth + 1)
    left :: (newline (depth + 1) ++ separator.intercalate items ++ newline depth ++ [right])

mutual

/-- The text of a value that begins at a depth. -/
def render (depth : Nat) : Json → Text
  | null => "null".toList
  | boolean value => if value then "true".toList else "false".toList
  | integer value => intText value
  | text value => quote value
  | list items => block depth '[' ']' (renderItems (depth + 1) items)
  | object fields => block depth '\x7b' '\x7d' (renderFields (depth + 1) fields)

/-- The texts of the items of a list. -/
def renderItems (depth : Nat) : List Json → List Text
  | [] => []
  | item :: items => render depth item :: renderItems depth items

/-- The texts of the fields of an object. -/
def renderFields (depth : Nat) : List (Text × Json) → List Text
  | [] => []
  | (name, value) :: fields =>
    (quote name ++ ": ".toList ++ render depth value) :: renderFields depth fields

end

/-- The text of a value on lines of its own. -/
def document (value : Json) : Text :=
  render 0 value ++ ['\n']

theorem escape_of_plain {text : Text} (h : ∀ c ∈ text, c ≠ '"' ∧ c ≠ '\\' ∧ 0x20 ≤ c.toNat) :
    escape text = text := by
  induction text with
  | nil => rfl
  | cons c text ih =>
    obtain ⟨hquote, hslash, hcontrol⟩ := h c (by simp)
    have := ih fun d hd => h d (List.mem_cons_of_mem _ hd)
    simp only [escape] at this ⊢
    simp [escapeChar, hquote, hslash, hcontrol, this]

example : escape "a\"\\\n\x01é".toList = "a\\\"\\\\\\n\\u0001é".toList := by decide
example : (list [integer 1, list []]).document = "[\n  1,\n  []\n]\n".toList := by
  decide +kernel

end Json

end RiskTally
