import RiskTally.Settings
import RiskTally.Text.Blank

/-!
# Settings in the environment

Some settings are taken from environment variables. A variable that is unset, empty or
cannot be read as its setting leaves the default in place.

## Main results

* `Environment.value?_setAbsent`: setting a variable changes no value that is there.
* `Environment.value?_setAbsent_self`: a variable that was not set has the value it is
  given.
-/

namespace RiskTally

/-- The assignments of the environment: names of variables with their values. -/
abbrev Environment := List (Text × Text)

/-- Why a variable cannot be set: its value holds the character NUL. -/
structure UnsettableVariable where
  name : Text
  deriving DecidableEq, Repr

namespace Environment

/-- The value of a variable: what follows its name and an equals sign in the first
assignment that begins with them. A name with an equals sign in it reaches into a value:
under `A=p=q` the value of `A` is `p=q` and that of `A=p` is `q`. -/
def value? (environment : Environment) (name : Text) : Option Text :=
  if name = [] then none
  else environment.findSome? fun (key, value) =>
    Text.after? (name ++ ['=']) (key ++ '=' :: value)

/-- The value of a variable that is set and not empty. -/
def nonempty? (environment : Environment) (name : Text) : Option Text :=
  (environment.value? name).filter fun value => value ≠ []

/-- The environment with a variable set, unless it is set already. -/
def setAbsent (environment : Environment) (name value : Text) :
    Except UnsettableVariable Environment :=
  match environment.value? name with
  | some _ => .ok environment
  | none =>
    if value.any (· == '\x00') then .error ⟨name⟩ else .ok (environment ++ [(name, value)])

theorem value?_append {environment : Environment} {name value : Text}
    (h : environment.value? name = some value) (later : Environment) :
    (environment ++ later).value? name = some value := by
  unfold value? at h ⊢
  split at h
  · simp at h
  · rename_i hname
    rw [if_neg hname, List.findSome?_append, h, Option.some_or]

theorem value?_setAbsent {environment after : Environment} {name value other old : Text}
    (h : environment.value? other = some old)
    (hset : environment.setAbsent name value = .ok after) : after.value? other = some old := by
  unfold setAbsent at hset
  split at hset
  · obtain rfl := Except.ok.inj hset
    exact h
  · split at hset
    · simp at hset
    · obtain rfl := Except.ok.inj hset
      exact value?_append h _

theorem value?_setAbsent_self {environment after : Environment} {name value : Text}
    (hname : name ≠ []) (h : environment.value? name = none)
    (hset : environment.setAbsent name value = .ok after) : after.value? name = some value := by
  simp only [setAbsent, h] at hset
  split at hset
  · simp at hset
  · obtain rfl := Except.ok.inj hset
    simp only [value?, if_neg hname] at h ⊢
    rw [List.findSome?_append, h]
    simp [Text.after?_eq_some_iff]

example : ["A", "A=", "A=p", "A=p=q", "=", ""].map
    (fun name => value? [("A".toList, "p=q=".toList)] name.toList) =
    [some "p=q=".toList, none, some "q=".toList, some [], none, none] := by decide +kernel

end Environment

/-- The items of a list in a variable, trimmed; an empty item counts. -/
def listItems (value : Text) : List Text :=
  (value.splitOn ',').map Text.trim

/-- How files are read under an environment. -/
def ReadSettings.ofEnvironment (environment : Environment) : ReadSettings :=
  match environment.nonempty? "RISKSCORE_NA_VALUES".toList with
  | some value => { ReadSettings.default with emptyTokens := listItems value }
  | none => ReadSettings.default

/-- How rows are scored under an environment. -/
def ScoringSettings.ofEnvironment (environment : Environment) : ScoringSettings :=
  let ratio := (environment.nonempty? "RISKSCORE_HIGH_CARDINALITY_RATIO".toList).bind readFloat?
  let minRows :=
    (environment.nonempty? "RISKSCORE_HIGH_CARDINALITY_MIN_ROWS".toList).bind readCount?
  { ScoringSettings.default with
    varietyRatio := ratio.getD ScoringSettings.default.varietyRatio
    varietyMinRows := minRows.getD ScoringSettings.default.varietyMinRows }

/-- The settings under an environment. -/
def Settings.ofEnvironment (environment : Environment) : Settings :=
  ⟨ReadSettings.ofEnvironment environment, ScoringSettings.ofEnvironment environment⟩

end RiskTally
