/-!
# Text

Every text that the library reads, compares or writes is the list of its
characters, so that scanners recurse on it and statements about it are statements
about lists.

## Main results

* `Text.after?_eq_some_iff`: what follows a lead is found exactly when the text is
  that lead and the rest.
* `Text.upTo?_eq_some_iff`: what precedes a final character is found exactly when
  the text ends in that character.
* `Text.precedes_total`, `Text.precedes_trans`, `Text.precedes_antisymm`: names are
  totally ordered by their code points.
-/

namespace RiskTally

/-- A text is the list of its characters. -/
abbrev Text := List Char

namespace Text

/-! ## Characters -/

/-- What is said of all characters of a text is decided along the text, not along all
characters. -/
instance (priority := high) decidableForallMem (P : Char → Prop) [DecidablePred P] (text : Text) :
    Decidable (∀ c ∈ text, P c) :=
  List.decidableBAll P text

/-- What is said of some character of a text is decided along the text. -/
instance (priority := high) decidableExistsMem (P : Char → Prop) [DecidablePred P] (text : Text) :
    Decidable (∃ c ∈ text, P c) :=
  List.decidableBEx P text

/-! ## Leads and ends -/

/-- What follows `lead` in a text that begins with it. -/
def after? : (lead text : Text) → Option Text
  | [], text => some text
  | _ :: _, [] => none
  | c :: lead, d :: text => if c = d then after? lead text else none

theorem after?_eq_some_iff {lead text rest : Text} :
    after? lead text = some rest ↔ text = lead ++ rest := by
  induction lead generalizing text with
  | nil => simp [after?]
  | cons c lead ih =>
    cases text with
    | nil => simp [after?]
    | cons d text =>
      by_cases h : c = d
      · simp [after?, h, ih]
      · simp [after?, h, Ne.symm h]

@[simp] theorem after?_append (lead rest : Text) : after? lead (lead ++ rest) = some rest :=
  after?_eq_some_iff.2 rfl

/-- The text begins with `lead`. -/
def startsWith (lead text : Text) : Bool :=
  (after? lead text).isSome

/-- What precedes the last character of a text that ends in `c`. -/
def upTo? (c : Char) (text : Text) : Option Text :=
  if text.getLast? = some c then some text.dropLast else none

theorem upTo?_eq_some_iff {c : Char} {text body : Text} :
    upTo? c text = some body ↔ text = body ++ [c] := by
  unfold upTo?
  constructor
  · intro h
    split at h
    · rename_i hlast
      obtain ⟨init, rfl⟩ := List.getLast?_eq_some_iff.1 hlast
      simp_all
    · exact absurd h (by simp)
  · rintro rfl
    simp

/-! ## The order of names -/

/-- The code points of `a`, read from the left, come before or are those of `b`. -/
def precedes : Text → Text → Bool
  | [], _ => true
  | _ :: _, [] => false
  | c :: a, d :: b => if c = d then precedes a b else decide (c.toNat < d.toNat)

theorem toNat_ne {c d : Char} (h : c ≠ d) : c.toNat ≠ d.toNat :=
  fun hn => h (Char.ext (UInt32.toNat_inj.1 hn))

theorem precedes_total (a b : Text) : (precedes a b || precedes b a) = true := by
  induction a generalizing b with
  | nil => simp [precedes]
  | cons c a ih =>
    cases b with
    | nil => simp [precedes]
    | cons d b =>
      by_cases h : c = d
      · simpa [precedes, h] using ih b
      · have := toNat_ne h
        simp only [precedes, h, Ne.symm h, if_false, Bool.or_eq_true, decide_eq_true_eq]
        omega

theorem precedes_trans {a b c : Text} (hab : precedes a b = true) (hbc : precedes b c = true) :
    precedes a c = true := by
  induction a generalizing b c with
  | nil => simp [precedes]
  | cons x a ih =>
    match b, c with
    | [], _ => simp [precedes] at hab
    | _ :: _, [] => simp [precedes] at hbc
    | y :: b, z :: c =>
      by_cases hxy : x = y
      · subst hxy
        by_cases hxz : x = z
        · subst hxz
          simp only [precedes, if_true] at hab hbc ⊢
          exact ih hab hbc
        · simpa [precedes, hxz] using hbc
      · by_cases hyz : y = z
        · subst hyz
          simpa [precedes, hxy] using hab
        · simp only [precedes, hxy, hyz, if_false, decide_eq_true_eq] at hab hbc
          have hxz : x ≠ z := by
            rintro rfl
            omega
          simp only [precedes, hxz, if_false, decide_eq_true_eq]
          omega

theorem precedes_antisymm {a b : Text} (hab : precedes a b = true) (hba : precedes b a = true) :
    a = b := by
  induction a generalizing b with
  | nil =>
    cases b with
    | nil => rfl
    | cons d b => simp [precedes] at hba
  | cons c a ih =>
    cases b with
    | nil => simp [precedes] at hab
    | cons d b =>
      by_cases h : c = d
      · subst h
        simp only [precedes, if_true] at hab hba
        rw [ih hab hba]
      · simp only [precedes, h, Ne.symm h, if_false, decide_eq_true_eq] at hab hba
        omega

/-! ## Lists of names -/

/-- The names in order of their code points. -/
def sorted (names : List Text) : List Text :=
  names.mergeSort precedes

end Text

end RiskTally
