import RiskTally.Text.Blank

/-!
# Literals of rule expressions

A literal is a text between separators: blanks around it are dropped, then double
quotes around it, then single quotes. A list of literals is separated by commas, which
no quote protects.

The examples at the end fix the order in which quotes are dropped.

## Main results

* `splitName?_eq_some_iff`: the name is the longest one that the text begins with.
-/

namespace RiskTally.Expression

/-- The text without blanks, then double quotes, then single quotes around it. -/
def unquote (raw : Text) : Text :=
  Text.trimOf (· == '\'') (Text.trimOf (· == '"') (Text.trim raw))

/-- The literals of a comma-separated list. -/
def literals (body : Text) : List Text :=
  (body.splitOn ',').map unquote

/-- The character may stand in the name of a column in an expression. -/
def isNameChar (c : Char) : Bool :=
  ('a' ≤ c && c ≤ 'z') || ('A' ≤ c && c ≤ 'Z') || ('0' ≤ c && c ≤ '9') || c == '_'

theorem isNameChar_of_isDigit {c : Char} (h : c.isDigit = true) : isNameChar c = true := by
  simp only [Char.isDigit, Bool.and_eq_true, decide_eq_true_eq] at h
  have hlow : '0' ≤ c := h.1
  have hhigh : c ≤ '9' := h.2
  simp [isNameChar, hlow, hhigh]

theorem isBlank_of_isNameChar {c : Char} (h : isNameChar c = true) : Text.isBlank c = false := by
  have hcode : 0x30 ≤ c.toNat ∧ c.toNat ≤ 0x7A := by
    simp only [isNameChar, Bool.or_eq_true, Bool.and_eq_true, decide_eq_true_eq, beq_iff_eq,
      Char.le_def, UInt32.le_iff_toNat_le] at h
    rcases h with ((⟨low, high⟩ | ⟨low, high⟩) | ⟨low, high⟩) | rfl
    · exact ⟨Nat.le_trans (by decide) low, Nat.le_trans high (by decide)⟩
    · exact ⟨Nat.le_trans (by decide) low, Nat.le_trans high (by decide)⟩
    · exact ⟨Nat.le_trans (by decide) low, Nat.le_trans high (by decide)⟩
    · decide
  simp only [Text.isBlank, Bool.or_eq_false_iff, Bool.and_eq_false_iff,
    decide_eq_false_iff_not, beq_eq_false_iff_ne]
  omega

/-- A nonempty run of name characters at the start of a text, and what follows it. -/
def splitName? (text : Text) : Option (Text × Text) :=
  let name := text.takeWhile isNameChar
  if name = [] then none else some (name, text.dropWhile isNameChar)

theorem splitName?_eq_some_iff {text name rest : Text} :
    splitName? text = some (name, rest) ↔
      name ≠ [] ∧ (∀ c ∈ name, isNameChar c = true) ∧ (∀ c ∈ rest.head?, isNameChar c = false) ∧
        text = name ++ rest := by
  simp only [splitName?, Option.ite_none_left_eq_some, Option.some.injEq, Prod.mk.injEq]
  constructor
  · rintro ⟨hne, rfl, rfl⟩
    refine ⟨hne, fun c hc => ?_, fun c hc => ?_, List.takeWhile_append_dropWhile.symm⟩
    · exact List.all_eq_true.1 List.all_takeWhile c hc
    · have hhead := List.head?_dropWhile_not isNameChar text
      rw [Option.mem_def.1 hc] at hhead
      simpa using hhead
  · rintro ⟨hne, hname, hrest, rfl⟩
    have hdrop : rest.dropWhile isNameChar = rest := by
      cases rest with
      | nil => rfl
      | cons c rest => simp [hrest c (by simp)]
    have htake : rest.takeWhile isNameChar = [] := by
      cases rest with
      | nil => rfl
      | cons c rest => simp [hrest c (by simp)]
    rw [List.takeWhile_append_of_pos hname, List.dropWhile_append_of_pos hname, hdrop, htake,
      List.append_nil]
    exact ⟨hne, rfl, rfl⟩

example : literals "a, \"b c\" ,'d'".toList = ["a".toList, "b c".toList, "d".toList] := by decide
example : unquote "\"'x'\"".toList = "x".toList := by decide
example : unquote "'\"x\"'".toList = "\"x\"".toList := by decide
example : unquote "\" x \"".toList = " x ".toList := by decide

end RiskTally.Expression
