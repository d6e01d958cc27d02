import Mathlib.Data.List.Basic

/-!
# Go Strings and Errors

The vocabulary the configuration model is written in. A Go `string` is a Lean `String`:
the functions below look at whole code points where Go looks at bytes, which agrees on
valid UTF-8 since every suffix and separator compared here is ASCII.

`GoError` lists the errors the modelled functions can return, with the fields Go's error
values carry; `GoError.error` renders the text their `Error()` methods produce.
-/

namespace Logit

/-- Results of Go calls can be compared, so that a run on a fixed input is decided. -/
instance instDecidableEqExcept {ε α : Type} [DecidableEq ε] [DecidableEq α] :
    DecidableEq (Except ε α) := fun a b =>
  match a, b with
  | .error x, .error y => decidable_of_iff (x = y) (by simp)
  | .ok x, .ok y => decidable_of_iff (x = y) (by simp)
  | .error _, .ok _ => isFalse (by simp)
  | .ok _, .error _ => isFalse (by simp)

/-- `strings.HasSuffix(s, suffix)`. -/
def hasSuffix (s suffix : String) : Bool :=
  suffix.data.length ≤ s.data.length &&
    s.data.drop (s.data.length - suffix.data.length) == suffix.data

/-- `strings.TrimSuffix(s, suffix)`. -/
def trimSuffix (s suffix : String) : String :=
  if hasSuffix s suffix then ⟨s.data.take (s.data.length - suffix.data.length)⟩ else s

/-- A string ends with what was appended to it. -/
theorem hasSuffix_append (t suffix : String) : hasSuffix (t ++ suffix) suffix = true := by
  simp [hasSuffix, List.drop_append_eq_append_drop]

/-- Trimming a suffix that was appended gives the string back. -/
theorem trimSuffix_append (t suffix : String) : trimSuffix (t ++ suffix) suffix = t := by
  simp [trimSuffix, hasSuffix_append, List.take_append_eq_append_take]

/-- A string that ends in `suffix` is something followed by `suffix`. -/
theorem eq_append_of_hasSuffix {s suffix : String} (h : hasSuffix s suffix = true) :
    s = trimSuffix s suffix ++ suffix := by
  rw [trimSuffix, if_pos h]
  simp only [hasSuffix, Bool.and_eq_true, decide_eq_true_eq, beq_iff_eq] at h
  have key := List.take_append_drop (s.data.length - suffix.data.length) s.data
  rw [h.2] at key
  exact String.ext key.symm

/-- Trimming a suffix the string does not end with changes nothing. -/
theorem trimSuffix_of_not {s suffix : String} (h : hasSuffix s suffix = false) :
    trimSuffix s suffix = s := by
  simp [trimSuffix, h]

/-- Ending in a one-character string is having that last character. -/
theorem hasSuffix_singleton_iff (s : String) (c : Char) :
    hasSuffix s ⟨[c]⟩ = true ↔ s.data.getLast? = some c := by
  constructor
  · intro h
    rw [eq_append_of_hasSuffix h, String.data_append]
    exact List.getLast?_concat _
  · intro h
    obtain ⟨ys, hys⟩ := List.getLast?_eq_some_iff.mp h
    have : s = ⟨ys⟩ ++ ⟨[c]⟩ := String.ext hys
    rw [this]
    exact hasSuffix_append _ _

/-- `strconv.Quote` on strings of printable characters other than quotes and backslashes. -/
def quote (s : String) : String := "\"" ++ s ++ "\""

/-- `strconv.ErrSyntax` and `strconv.ErrRange`. -/
inductive NumErr
  | errSyntax
  | errRange
  deriving DecidableEq, Repr

/-- The errors of the modelled functions. -/
inductive GoError
  /-- `*strconv.NumError{Func, Num, Err}`. -/
  | numError (func num : String) (err : NumErr)
  /-- `time: invalid duration`. -/
  | invalidDuration (orig : String)
  /-- `time: missing unit in duration`. -/
  | missingUnit (orig : String)
  /-- `time: unknown unit`. -/
  | unknownUnit (unit orig : String)
  /-- The error of `size.ParseByteSize`. -/
  | byteSize (s : String)
  /-- `*fs.PathError{Op, Path}` from `os.MkdirAll`, `os.OpenFile` and `file.New`. -/
  | pathError (op path : String)
  /-- `writer target %s invalid`. -/
  | targetInvalid (target : String)
  /-- `writer mode %s invalid`. -/
  | modeInvalid (mode : String)
  /-- `handler %s not found`. -/
  | handlerNotFound (handler : String)
  deriving DecidableEq, Repr

/-- The text of `err.Error()`. -/
def GoError.error : GoError → String
  | .numError func num err =>
    "strconv." ++ func ++ ": parsing " ++ quote num ++ ": " ++
      match err with
      | .errSyntax => "invalid syntax"
      | .errRange => "value out of range"
  | .invalidDuration orig => "time: invalid duration " ++ quote orig
  | .missingUnit orig => "time: missing unit in duration " ++ quote orig
  | .unknownUnit unit orig => "time: unknown unit " ++ quote unit ++ " in duration " ++ quote orig
  | .byteSize s => "size: invalid byte size " ++ s
  | .pathError op path => op ++ " " ++ path
  | .targetInvalid target => "writer target " ++ target ++ " invalid"
  | .modeInvalid mode => "writer mode " ++ mode ++ " invalid"
  | .handlerNotFound handler => "handler " ++ handler ++ " not found"

end Logit
