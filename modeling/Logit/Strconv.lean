import Mathlib.Data.BitVec
import Mathlib.Data.Nat.Digits
import Logit.Basic

/-!
# Decimal Integers: `strconv.ParseUint`, `strconv.ParseInt` and `strconv.Itoa`

`Config.parseTimeDuration` reads a day count with `strconv.ParseInt(s, 10, 64)` and the
file-name generator prints a random number with `strconv.Itoa`. This module follows the Go
functions for base 10 and 64 bits: `ParseUint` scans the digits left to right and stops at
the first non-digit (a syntax error) or the first digit that takes the value past
`maxUint64` (a range error); `ParseInt` takes an optional sign off, calls `ParseUint`, and
checks the result against the `int64` range. An `int64` is a `BitVec 64`.

## Main results

* `parseUintLoop_eq_ok`: the loop accepts exactly the digit strings whose value fits in
  64 bits, and returns that value.
* `decimal_itoa`: `decimal` reads back what `Itoa` prints.
* `parseInt_eq_ok`: `ParseInt` accepts exactly an optional sign followed by one or more
  digits whose signed value fits in `int64`, and returns that value.
-/

namespace Logit

/-- A decimal digit. -/
def IsDigit (c : Char) : Prop := '0' ≤ c ∧ c ≤ '9'

/-- A digit is decided by two comparisons. -/
instance (c : Char) : Decidable (IsDigit c) := inferInstanceAs (Decidable (_ ∧ _))

/-- The value of a decimal digit, `none` for any other character: the base-10 case of
`ParseUint`'s digit switch (letters give digits of 10 and more, which base 10 rejects). -/
def digitVal (c : Char) : Option Nat :=
  if IsDigit c then some (c.toNat - '0'.toNat) else none

/-- The positional value of the digits `ds` read after the value `n`. -/
def decimal (ds : List Char) (n : Nat) : Nat :=
  ds.foldl (fun n c => n * 10 + (c.toNat - '0'.toNat)) n

/-- `maxVal` of `ParseUint(s, 10, 64)`. -/
def maxUint64 : Nat := 2 ^ 64 - 1

/-- The loop of `ParseUint(s, 10, 64)` from the value `n` read so far. The first check is
the source's `n >= cutoff` (`n*base` overflows), the second `n1 > maxVal`. -/
def parseUintLoop : List Char → Nat → Except NumErr Nat
  | [], n => .ok n
  | c :: s, n =>
    match digitVal c with
    | none => .error .errSyntax
    | some d =>
      if maxUint64 / 10 + 1 ≤ n then .error .errRange
      else if maxUint64 < n * 10 + d then .error .errRange
      else parseUintLoop s (n * 10 + d)

/-- `strconv.ParseUint(s, 10, 64)`. -/
def parseUint (s : String) : Except GoError Nat :=
  if s.data = [] then .error (.numError "ParseUint" s .errSyntax)
  else
    match parseUintLoop s.data 0 with
    | .ok n => .ok n
    | .error err => .error (.numError "ParseUint" s err)

/-- `ParseInt`'s sign: whether `s` starts with `-`, and what follows a leading `+` or `-`. -/
def splitSign : List Char → Bool × List Char
  | '+' :: rest => (false, rest)
  | '-' :: rest => (true, rest)
  | cs => (false, cs)

/-- `strconv.ParseInt(s, 10, 64)`. On a range error `ParseUint` returns `maxVal`, which the
sign checks turn into a range error of `ParseInt`. -/
def parseInt (s : String) : Except GoError (BitVec 64) :=
  if s.data = [] then .error (.numError "ParseInt" s .errSyntax)
  else
    let (neg, body) := splitSign s.data
    match parseUint ⟨body⟩ with
    | .error (.numError _ _ .errSyntax) => .error (.numError "ParseInt" s .errSyntax)
    | r =>
      let un := match r with
        | .ok n => n
        | .error _ => maxUint64
      if !neg && 2 ^ 63 ≤ un then .error (.numError "ParseInt" s .errRange)
      else if neg && 2 ^ 63 < un then .error (.numError "ParseInt" s .errRange)
      else .ok (if neg then -BitVec.ofNat 64 un else BitVec.ofNat 64 un)

/-- `strconv.Itoa` on a non-negative `int`. -/
def itoa (n : Nat) : String := toString n

/-! ### What `ParseUint` accepts -/

theorem le_decimal (ds : List Char) (n : Nat) : n ≤ decimal ds n := by
  induction ds generalizing n with
  | nil => exact le_rfl
  | cons c ds ih =>
    calc n ≤ n * 10 + (c.toNat - '0'.toNat) := by omega
      _ ≤ decimal (c :: ds) n := ih _

/-- Reading one more digit. -/
theorem decimal_cons (c : Char) (ds : List Char) (n : Nat) :
    decimal (c :: ds) n = decimal ds (n * 10 + (c.toNat - '0'.toNat)) := rfl

/-- Reading two digit strings one after the other. -/
theorem decimal_append (ds es : List Char) (n : Nat) :
    decimal (ds ++ es) n = decimal es (decimal ds n) := by
  simp [decimal, List.foldl_append]

/-- **The digit loop.** From a value that fits, the loop succeeds exactly on digit strings
whose value still fits, and returns that value. -/
theorem parseUintLoop_eq_ok {ds : List Char} {n m : Nat} (hn : n ≤ maxUint64) :
    parseUintLoop ds n = .ok m ↔
      (∀ c ∈ ds, IsDigit c) ∧ decimal ds n ≤ maxUint64 ∧ m = decimal ds n := by
  induction ds generalizing n with
  | nil => simp [parseUintLoop, decimal, hn, eq_comm]
  | cons c ds ih =>
    have hle := le_decimal ds (n * 10 + (c.toNat - '0'.toNat))
    by_cases hc : IsDigit c
    · simp only [parseUintLoop, digitVal, hc, if_true, decimal_cons, List.mem_cons,
        forall_eq_or_imp, true_and]
      split_ifs with h₁ h₂
      · simp only [reduceCtorEq, false_iff, not_and]
        intro _ h; unfold maxUint64 at *; omega
      · simp only [reduceCtorEq, false_iff, not_and]
        intro _ h; omega
      · exact ih (by omega)
    · simp [parseUintLoop, digitVal, hc]

/-- `ParseUint` accepts exactly the nonempty digit strings whose value fits in 64 bits. -/
theorem parseUint_eq_ok {ds : List Char} {m : Nat} :
    parseUint ⟨ds⟩ = .ok m ↔
      ds ≠ [] ∧ (∀ c ∈ ds, IsDigit c) ∧ decimal ds 0 ≤ maxUint64 ∧
        m = decimal ds 0 := by
  rw [← parseUintLoop_eq_ok (Nat.zero_le _)]
  unfold parseUint
  by_cases hds : ds = []
  · simp [hds]
  · simp only [hds, if_false, ne_eq, not_false_eq_true, true_and]
    split <;> simp_all

/-! ### What `Itoa` prints -/

/-- The digits `toDigitsCore` puts before its accumulator do not depend on it. -/
theorem toDigitsCore_append (fuel n : Nat) (ds : List Char) :
    Nat.toDigitsCore 10 fuel n ds = Nat.toDigitsCore 10 fuel n [] ++ ds := by
  induction fuel generalizing n ds with
  | zero => rfl
  | succ fuel ih =>
    simp only [Nat.toDigitsCore]
    split_ifs
    · rfl
    · rw [ih _ (_ :: ds), ih _ [_], List.append_assoc, List.singleton_append]

/-- The characters `Nat.toDigits` prints for the ten decimal digits. -/
theorem digitChar_toNat : ∀ d < 10, (Nat.digitChar d).toNat - '0'.toNat = d := by decide

/-- `decimal` reads back what `toDigitsCore` prints, given the fuel to print it all. -/
theorem decimal_toDigitsCore {fuel n : Nat} (h : n < fuel) :
    decimal (Nat.toDigitsCore 10 fuel n []) 0 = n := by
  induction fuel generalizing n with
  | zero => omega
  | succ fuel ih =>
    have hd := digitChar_toNat (n % 10) (Nat.mod_lt _ (by omega))
    simp only [Nat.toDigitsCore]
    split_ifs with h₀
    · simp only [decimal, List.foldl, hd]
      omega
    · rw [toDigitsCore_append, decimal_append, ih (by omega)]
      simp only [decimal, List.foldl, hd]
      omega

/-- `decimal` reads back what `strconv.Itoa` prints, so distinct numbers print distinctly. -/
theorem decimal_itoa (n : Nat) : decimal (itoa n).data 0 = n :=
  decimal_toDigitsCore (Nat.lt_succ_self n)

/-! ### What `ParseInt` accepts -/

theorem bmod_int64 {x : Int} (h₁ : -2 ^ 63 ≤ x) (h₂ : x < 2 ^ 63) : x.bmod (2 ^ 64) = x := by
  rw [Int.bmod_def]
  split <;> omega

/-- A natural number below `2^63` is the same `int64`. -/
theorem toInt_ofNat_of_lt {un : Nat} (h : un < 2 ^ 63) : (BitVec.ofNat 64 un).toInt = un := by
  rw [BitVec.toInt_ofNat, bmod_int64] <;> omega

/-- The negation of a natural number up to `2^63` is the same `int64`. -/
theorem toInt_neg_ofNat_of_le {un : Nat} (h : un ≤ 2 ^ 63) :
    (-BitVec.ofNat 64 un).toInt = -un := by
  rw [BitVec.toInt_neg, BitVec.toInt_ofNat]
  by_cases h' : un = 2 ^ 63
  · subst h'; decide
  · rw [bmod_int64 (x := un), bmod_int64] <;> omega

/-- The value `ParseInt` gives a sign and digits. -/
def signedDecimal (neg : Bool) (ds : List Char) : Int :=
  if neg then -(decimal ds 0 : Int) else decimal ds 0

/-- `cs` is an optional sign followed by the digits `ds`, with `neg` when the sign is `-`. -/
def SignedDigits (cs : List Char) (neg : Bool) (ds : List Char) : Prop :=
  (cs = (if neg then ['-'] else []) ++ ds ∨ (neg = false ∧ cs = '+' :: ds)) ∧
    ds ≠ [] ∧ ∀ c ∈ ds, IsDigit c

/-- A digit string starts with neither sign, so `splitSign` finds exactly its sign, whatever
follows the digits. -/
theorem splitSign_of_signedDigits {cs ds : List Char} {neg : Bool}
    (h : SignedDigits cs neg ds) (rest : List Char) :
    splitSign (cs ++ rest) = (neg, ds ++ rest) := by
  obtain ⟨hcs, hne, hdig⟩ := h
  obtain ⟨d, ds', rfl⟩ := List.exists_cons_of_ne_nil hne
  have hd := hdig d (List.mem_cons_self _ _)
  have h₁ : d ≠ '+' := by rintro rfl; revert hd; decide
  have h₂ : d ≠ '-' := by rintro rfl; revert hd; decide
  rcases hcs with rfl | ⟨rfl, rfl⟩
  · cases neg <;> simp [splitSign, h₁, h₂]
  · rfl

/-- What follows the sign, when it is a digit string, makes `cs` a signed digit string. -/
theorem signedDigits_of_splitSign {cs ds : List Char} {neg : Bool} (hsp : splitSign cs = (neg, ds))
    (hds : ds ≠ []) (hdig : ∀ c ∈ ds, IsDigit c) : SignedDigits cs neg ds := by
  refine ⟨?_, hds, hdig⟩
  unfold splitSign at hsp
  split at hsp <;> simp only [Prod.mk.injEq] at hsp <;> obtain ⟨rfl, rfl⟩ := hsp <;> simp

/-- **`ParseInt`.** It accepts exactly an optional sign followed by one or more digits
whose signed value lies in the `int64` range, and returns that value. -/
theorem parseInt_eq_ok {s : String} {n : BitVec 64} :
    parseInt s = .ok n ↔
      ∃ neg ds, SignedDigits s.data neg ds ∧ -2 ^ 63 ≤ signedDecimal neg ds ∧
        signedDecimal neg ds < 2 ^ 63 ∧ n.toInt = signedDecimal neg ds := by
  constructor
  · intro h
    have hs : s.data ≠ [] := by intro hs; simp [parseInt, hs] at h
    rcases hsp : splitSign s.data with ⟨neg, body⟩
    rcases hp : parseUint ⟨body⟩ with e | un
    · simp only [parseInt, hs, hsp, hp, if_false] at h
      cases neg <;> cases e <;> (try rename_i err; try cases err) <;> simp [maxUint64] at h
    · simp only [parseInt, hs, hsp, hp, if_false] at h
      obtain ⟨hne, hdig, -, rfl⟩ := parseUint_eq_ok.mp hp
      refine ⟨neg, body, signedDigits_of_splitSign hsp hne hdig, ?_⟩
      cases neg <;> simp only [Bool.not_false, Bool.not_true, Bool.true_and, Bool.false_and,
        decide_eq_true_eq, if_false, if_true, Bool.false_eq_true] at h <;>
        split_ifs at h with hr <;> cases h <;> simp only [signedDecimal, if_false, if_true]
      · exact ⟨by omega, by omega, toInt_ofNat_of_lt (by omega)⟩
      · exact ⟨by omega, by omega, toInt_neg_ofNat_of_le (by omega)⟩
  · rintro ⟨neg, ds, hsd, hlo, hhi, hn⟩
    have hs : s.data ≠ [] := by
      rcases hsd.1 with h | ⟨-, h⟩ <;> rw [h] <;> cases neg <;> simp [hsd.2.1]
    have hp : parseUint ⟨ds⟩ = .ok (decimal ds 0) := by
      refine parseUint_eq_ok.mpr ⟨hsd.2.1, hsd.2.2, ?_, rfl⟩
      unfold maxUint64; cases neg <;> simp only [signedDecimal] at hlo hhi <;> omega
    have hsp : splitSign s.data = (neg, ds) := by simpa using splitSign_of_signedDigits hsd []
    simp only [parseInt, hs, hsp, hp, if_false]
    cases neg <;> simp only [signedDecimal, Bool.false_eq_true, if_false, if_true] at hlo hhi hn ⊢
    · rw [if_neg (by simp; omega), if_neg (by simp)]
      exact congrArg _ (BitVec.eq_of_toInt_eq (by rw [toInt_ofNat_of_lt (by omega), hn]))
    · rw [if_neg (by simp), if_neg (by simp; omega)]
      exact congrArg _ (BitVec.eq_of_toInt_eq (by rw [toInt_neg_ofNat_of_le (by omega), hn]))

/-- A numeral `ParseInt` accepts ends in a digit. -/
theorem getLast_of_parseInt_eq_ok {s : String} {n : BitVec 64} (h : parseInt s = .ok n) :
    ∃ c, s.data.getLast? = some c ∧ IsDigit c := by
  obtain ⟨neg, ds, ⟨hcs, hne, hdig⟩, -⟩ := parseInt_eq_ok.mp h
  obtain ⟨ys, c, rfl⟩ := List.eq_nil_or_concat ds |>.resolve_left hne
  refine ⟨c, ?_, hdig c (by simp)⟩
  rcases hcs with hcs | ⟨-, hcs⟩ <;> rw [hcs]
  · simp [← List.append_assoc]
  · rw [List.concat_eq_append, ← List.cons_append, List.getLast?_concat]

end Logit