import NonceAllocation.Config.Setting
import NonceAllocation.Proofs.Config.Reference
import NonceAllocation.Proofs.Json.Written

namespace NonceAllocation

/-!
# Settings — a text that is written out and read again

A setting is written as the text that it is, and a text that is read is looked at for the name of a
variable.  There is no other way to write a text that has the form of a reference.

* `Setting.reread` — what is read, in some environment, from the JSON of a text;
* `Setting.reread_of_reference`, `Setting.reread_eq_self_iff` — a text that names a variable is read
  as the variable's value, so that it comes back only if it is that value;
* `Setting.WrittenOut`, `Setting.writtenOut` — whatever the text is, and in whatever environment it
  is read again.
-/

namespace Setting

open Environment

variable {env : Environment} {v name : String}

/-- What is read in an environment from what a text is written as. -/
def reread (env : Environment) (v : String) : Except DecodeError String :=
  (text.decode env).run (text.json v).text

theorem reread_eq_resolve (env : Environment) (v : String) :
    reread env v = (env.resolve v).mapError fun e => .refused e.message := by
  rw [reread, Decoder.run_text]
  show ((env.resolve v).mapError _ >>= fun s => .ok s) = _
  cases env.resolve v <;> rfl

/-- A reference is read as the value of its variable. -/
theorem reread_of_reference (h : References v name) :
    reread env v =
      (env.get? name).elim (.error (.refused (Unset.message ⟨name, v⟩))) Except.ok := by
  rw [reread_eq_resolve, resolve, reference?_eq_some_iff.2 h]
  cases hvalue : env.get? name with
  | none =>
    simp only [hvalue]
    rfl
  | some value =>
    simp only [hvalue]
    rfl

theorem reread_of_literal (h : ¬ IsReference v) : reread env v = .ok v := by
  rw [reread_eq_resolve, resolve_of_literal env h]
  rfl

theorem reread_eq_self_iff :
    reread env v = .ok v ↔ ∀ name, References v name → env.get? name = some v := by
  constructor
  · intro h name hname
    rwa [reread_of_reference hname, elim_eq_ok_iff] at h
  · intro h
    by_cases hv : IsReference v
    · obtain ⟨name, hname⟩ := hv
      rw [reread_of_reference hname, elim_eq_ok_iff]
      exact h name hname
    · exact reread_of_literal hv

/-- What becomes of a text that is written out and read again. -/
structure WrittenOut (env : Environment) (v : String) : Prop where
  /-- It comes back exactly if a variable that it names has it for its value. -/
  same_iff : reread env v = .ok v ↔ ∀ name, References v name → env.get? name = some v
  /-- In particular if it names none. -/
  plain : ¬ IsReference v → reread env v = .ok v
  /-- Instead of a reference its variable's value is read. -/
  set : ∀ name value, References v name → env.get? name = some value → reread env v = .ok value
  unset : ∀ name, References v name → env.get? name = none →
    reread env v = .error (.refused
      ("Environment variable '" ++ name ++ "' not found (referenced as '" ++ v ++ "')"))

/-- **Texts that are written out.**  A text that is no reference to a variable is read again as
    itself, in every environment.  A reference is read as the variable's value, which is an error if
    the variable is not set; so it survives only in an environment in which its variable holds that
    very reference. -/
theorem writtenOut (env : Environment) (v : String) : WrittenOut env v where
  same_iff := reread_eq_self_iff
  plain := reread_of_literal
  set name value hname hvalue := by rw [reread_of_reference hname, hvalue, Option.elim_some]
  unset name hname hvalue := by
    rw [reread_of_reference hname, hvalue, Option.elim_none]
    rfl

/-- A variable whose value looks like a reference. -/
def nested : Environment := ⟨[("A", "$B")]⟩

/-- The value of a variable is written as a reference to another one, which is not set. -/
theorem value_written_as_reference :
    reread nested "$A" = .ok "$B" ∧
      reread nested "$B" = .error (.refused
        "Environment variable 'B' not found (referenced as '$B')") := by
  decide +kernel

end Setting

end NonceAllocation
