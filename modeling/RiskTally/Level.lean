import RiskTally.Number.Integer

/-!
# Risk levels

A score falls into the level of the first threshold that it reaches, and is low below
all of them.

## Main results

* `Level.ofScore_cons`: the first threshold decides for the scores that reach it.
* `Level.ofScore_mono`: along levels that never rise a higher score has no lower level.
-/

namespace RiskTally

/-- How serious a score is. -/
inductive Level where
  | low
  | medium
  | high
  | critical
  deriving DecidableEq, Repr

namespace Level

/-- The label of a level. -/
def label : Level → Text
  | low => "Low".toList
  | medium => "Medium".toList
  | high => "High".toList
  | critical => "Critical".toList

/-- Thresholds with the level that they open, tried in order. -/
abbrev Buckets := List (Int64 × Level)

/-- The thresholds in use unless others are set. -/
def defaultBuckets : Buckets :=
  [(60, critical), (40, high), (20, medium)]

/-- The level of a score. -/
def ofScore : Buckets → Int64 → Level
  | [], _ => low
  | (threshold, level) :: buckets, score =>
    if threshold ≤ score then level else ofScore buckets score

theorem ofScore_cons (threshold : Int64) (level : Level) (buckets : Buckets) (score : Int64) :
    ofScore ((threshold, level) :: buckets) score =
      if threshold ≤ score then level else ofScore buckets score := rfl

example : [60, 59, 40, 20, 19, -15].map (ofScore defaultBuckets) =
    [critical, high, high, medium, low, low] := by decide

/-! ## The order of levels -/

/-- How high a level is. -/
def rank : Level → Nat
  | low => 0
  | medium => 1
  | high => 2
  | critical => 3

instance : LE Level := ⟨fun a b => a.rank ≤ b.rank⟩

instance (a b : Level) : Decidable (a ≤ b) :=
  inferInstanceAs (Decidable (a.rank ≤ b.rank))

theorem low_le (level : Level) : low ≤ level :=
  Nat.zero_le level.rank

theorem le_refl (level : Level) : level ≤ level :=
  Nat.le_refl level.rank

/-- No threshold opens a higher level than one before it. -/
def Falling (buckets : Buckets) : Prop :=
  buckets.Pairwise fun first later => later.2 ≤ first.2

instance (buckets : Buckets) : Decidable (Falling buckets) :=
  inferInstanceAs (Decidable (buckets.Pairwise _))

theorem ofScore_le {buckets : Buckets} {level : Level} (h : ∀ bucket ∈ buckets, bucket.2 ≤ level)
    (score : Int64) : ofScore buckets score ≤ level := by
  induction buckets with
  | nil => exact low_le level
  | cons bucket buckets ih =>
    obtain ⟨threshold, opened⟩ := bucket
    rw [ofScore_cons]
    split
    · exact h (threshold, opened) (by simp)
    · exact ih fun other hother => h other (by simp [hother])

theorem ofScore_mono {buckets : Buckets} (h : Falling buckets) {a b : Int64} (hab : a ≤ b) :
    ofScore buckets a ≤ ofScore buckets b := by
  induction buckets with
  | nil => exact le_refl low
  | cons bucket buckets ih =>
    obtain ⟨threshold, opened⟩ := bucket
    obtain ⟨hlater, hrest⟩ := List.pairwise_cons.1 h
    rw [ofScore_cons, ofScore_cons]
    by_cases ha : threshold ≤ a
    · rw [if_pos ha, if_pos (Int64.le_trans ha hab)]
      exact le_refl opened
    · rw [if_neg ha]
      by_cases hb : threshold ≤ b
      · rw [if_pos hb]
        exact ofScore_le hlater a
      · rw [if_neg hb]
        exact ih hrest

end Level

end RiskTally
