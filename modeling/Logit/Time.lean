import Logit.Strconv
import Logit.Float

/-!
# Durations: `time.Duration` and `time.ParseDuration`

A `time.Duration` is an `int64` count of nanoseconds, here a `BitVec 64`, so that its
arithmetic wraps as Go's does. `parseDuration` follows `time.ParseDuration`: an optional
sign, the special case `"0"`, then one or more segments `[0-9]*(\.[0-9]*)?[a-z]+`, each
scaled by its unit and added to an unsigned 64-bit total. Every segment is checked against
`1<<63`, and a positive total must fit in `int64`.

The fractional part of a segment is scaled through `float64`, rounded as Go rounds it
(`Logit.Float`): `0.00000000000750h` is 26 nanoseconds, not 27. The results about values read
no fraction; the shape of what is accepted covers fractions too.

The segment loop runs on fuel, the length of the input: every segment consumes its unit,
so it never needs more.

The language `ParseDuration` accepts is stated apart from the parser: a `Segment` carries
its digits, its optional fraction and its unit with the proofs that they are well formed,
and `segmentsText` writes a list of them out. The parser is then compared with this
grammar in both directions.

## Main results

* `leadingInt_append`: `leadingInt` reads the whole numeral in front of a non-digit, or
  fails exactly when its value passes `1<<63`.
* `parseDuration_eq_ok_shape`: every string `ParseDuration` accepts is a sign followed by
  `0` or by a nonempty list of segments.
* `parseDuration_segments`: a sign followed by whole segments whose total stays below
  `2^64` parses to exactly the signed total when that fits in `int64`, and fails otherwise.
* `parseDuration_segments_eq_ok`: past `2^64` the unsigned total wraps: whatever its whole
  segments, an accepted string is worth its total modulo `2^64`.
-/

namespace Logit

/-- `time.Duration`: nanoseconds in an `int64`. -/
abbrev Duration := BitVec 64

/-- `time.Hour`. -/
def hour : Duration := BitVec.ofNat 64 3600000000000

/-- Modelled from the spec: `defaults.Day` (the `defaults` package is not under src/), the
length of the day suffix of a duration, 24 hours. -/
def day : Duration := 24 * hour

/-- The `int64` range, `[-2^63, 2^63)`. -/
def InInt64 (x : Int) : Prop := -2 ^ 63 ≤ x ∧ x < 2 ^ 63

/-- Membership in the `int64` range is decided by two comparisons. -/
instance (x : Int) : Decidable (InInt64 x) := inferInstanceAs (Decidable (_ ∧ _))

/-- `leadingInt`: the value of the leading `[0-9]*` of `s` after `x`, and the rest of `s`;
`none` is `errLeadingInt`, a value past `1<<63`. -/
def leadingInt : List Char → Nat → Option (Nat × List Char)
  | [], x => some (x, [])
  | c :: s, x =>
    match digitVal c with
    | none => some (x, c :: s)
    | some d =>
      if 2 ^ 63 / 10 < x then none
      else if 2 ^ 63 < x * 10 + d then none
      else leadingInt s (x * 10 + d)

/-- `leadingFraction`: the leading `[0-9]*` of `s` as a numerator `x` and a `float64` power of
ten `scale`, multiplied by `10` for each digit kept; digits that would take `x` past `1<<63`
are consumed and dropped. -/
def leadingFraction : List Char → Nat → Float64 → Bool → Nat × Float64 × List Char
  | [], x, scale, _ => (x, scale, [])
  | c :: s, x, scale, overflow =>
    match digitVal c with
    | none => (x, scale, c :: s)
    | some d =>
      if overflow then leadingFraction s x scale true
      else if (2 ^ 63 - 1) / 10 < x then leadingFraction s x scale true
      else if 2 ^ 63 < x * 10 + d then leadingFraction s x scale true
      else leadingFraction s (x * 10 + d) (scale.mul .ten) false

/-- `unitMap`: the units and their lengths in nanoseconds. -/
def unitMap : List (List Char × Nat) :=
  [(['n', 's'], 1), (['u', 's'], 1000), (['µ', 's'], 1000), (['μ', 's'], 1000),
    (['m', 's'], 1000000), (['s'], 1000000000), (['m'], 60000000000), (['h'], 3600000000000)]

/-- A character that starts a number: `.` or a digit. -/
def IsNumberChar (c : Char) : Prop := c = '.' ∨ IsDigit c

/-- A number character is decided by its two cases. -/
instance (c : Char) : Decidable (IsNumberChar c) := inferInstanceAs (Decidable (_ ∨ _))

/-- The `(\.[0-9]*)?` of a segment, read from `s₁`, what follows its integer part: the
fraction's numerator and power of ten, the rest, and whether a fraction digit was read
(`post`). -/
def fractionPart (s₁ : List Char) : Nat × Float64 × List Char × Bool :=
  match s₁ with
  | '.' :: t =>
    let (f, scale, r) := leadingFraction t 0 .one false
    (f, scale, r, r.length ≠ t.length)
  | _ => (0, .one, s₁, false)

/-- The unit of a segment, read from `s₂`, and the segment's value: `v` scaled by the unit,
plus `uint64(float64(f) * (float64(unit) / scale))`, with the rest of the input. -/
def scaleByUnit (orig : String) (v f : Nat) (scale : Float64) (s₂ : List Char) :
    Except GoError (Nat × List Char) :=
  let u := s₂.takeWhile (fun c => !decide (IsNumberChar c))
  let rest := s₂.dropWhile (fun c => !decide (IsNumberChar c))
  if u = [] then .error (.missingUnit orig)
  else
    match unitMap.lookup u with
    | none => .error (.unknownUnit ⟨u⟩ orig)
    | some unit =>
      if 2 ^ 63 / unit < v then .error (.invalidDuration orig)
      else if 0 < f then
        let frac := ((Float64.ofNat f).mul ((Float64.ofNat unit).div scale)).toUint64
        if 2 ^ 63 < v * unit + frac then .error (.invalidDuration orig)
        else .ok (v * unit + frac, rest)
      else .ok (v * unit, rest)

/-- One pass of the loop of `ParseDuration` on the rest `s` of `orig`: the next character
must be `[0-9.]`, then come `[0-9]*`, `(\.[0-9]*)?` with a digit in one of them, and the
unit. -/
def durationSegment (orig : String) (s : List Char) : Except GoError (Nat × List Char) :=
  match s with
  | [] => .error (.invalidDuration orig)
  | c :: _ =>
    if ¬IsNumberChar c then .error (.invalidDuration orig)
    else
      match leadingInt s 0 with
      | none => .error (.invalidDuration orig)
      | some (v, s₁) =>
        let pre := s₁.length ≠ s.length
        let (f, scale, s₂, post) := fractionPart s₁
        if !(pre || post) then .error (.invalidDuration orig)
        else scaleByUnit orig v f scale s₂

/-- The loop `for s != ""` of `ParseDuration`, adding segments to the unsigned total `d`
(`d += v` wraps at `2^64`, as a `uint64` does). -/
def parseDurationLoop (orig : String) : Nat → List Char → Nat → Except GoError Nat
  | _, [], d => .ok d
  | 0, _ :: _, _ => .error (.invalidDuration orig)
  | fuel + 1, c :: s, d => do
    let (v, rest) ← durationSegment orig (c :: s)
    let d := (d + v) % 2 ^ 64
    if 2 ^ 63 < d then throw (.invalidDuration orig)
    parseDurationLoop orig fuel rest d

/-- The end of `ParseDuration`: the unsigned total `d` with its sign; a positive total must
fit in `int64`. -/
def signedDuration (s : String) (neg : Bool) (d : Nat) : Except GoError Duration :=
  if neg then .ok (-BitVec.ofNat 64 d)
  else if 2 ^ 63 - 1 < d then .error (.invalidDuration s)
  else .ok (BitVec.ofNat 64 d)

/-- `time.ParseDuration(s)`. Its `[-+]?` is the sign of `ParseInt`, `splitSign`. -/
def parseDuration (s : String) : Except GoError Duration :=
  let (neg, body) := splitSign s.data
  -- Special case: if all that is left is "0", this is zero.
  if body = ['0'] then .ok 0
  else if body = [] then .error (.invalidDuration s)
  else parseDurationLoop s body.length body 0 >>= signedDuration s neg

/-! ### The accepted language -/

/-- A segment of a duration string as the grammar `[0-9]*(\.[0-9]*)?unit` has it: its
integer digits, its fraction's digits if it has a `.`, and its unit with the unit's length
in nanoseconds. A segment holds a digit, and its unit is one of `unitMap`. -/
structure Segment where
  int : List Char
  frac : Option (List Char)
  unit : List Char
  ns : Nat
  int_isDigit : ∀ c ∈ int, IsDigit c
  frac_isDigit : ∀ f ∈ frac, ∀ c ∈ f, IsDigit c
  hasDigit : int ≠ [] ∨ ∃ f ∈ frac, f ≠ []
  lookup_unit : unitMap.lookup unit = some ns

namespace Segment

/-- The fraction as written: nothing, or a `.` and its digits. -/
def fracText : Option (List Char) → List Char
  | none => []
  | some f => '.' :: f

/-- The segment as written. -/
def text (seg : Segment) : List Char := seg.int ++ fracText seg.frac ++ seg.unit

/-- What the segment's integer part is worth, in nanoseconds. -/
def value (seg : Segment) : Nat := decimal seg.int 0 * seg.ns

end Segment

/-- A list of segments written one after the other. -/
def segmentsText (segs : List Segment) : List Char := segs.flatMap Segment.text

/-- The true total of a list of segments, unbounded. -/
def segmentsTotal (segs : List Segment) : Nat := (segs.map Segment.value).sum

/-- The sign in front of a duration string: none, `+` or `-`. -/
inductive Sign
  | none
  | plus
  | minus
  deriving DecidableEq, Repr

namespace Sign

/-- The sign as written. -/
def text : Sign → List Char
  | none => []
  | plus => ['+']
  | minus => ['-']

/-- Whether the sign negates. -/
def neg : Sign → Bool
  | minus => true
  | _ => false

end Sign

/-! ### Reading digits and units -/

/-- `leadingInt` reads all of a numeral that a non-digit follows, and fails exactly when the
numeral's value passes `1<<63`. -/
theorem leadingInt_append {ds rest : List Char} {x : Nat} (hx : x ≤ 2 ^ 63)
    (hdig : ∀ c ∈ ds, IsDigit c) (hrest : ∀ c ∈ rest.head?, ¬IsDigit c) :
    leadingInt (ds ++ rest) x =
      if decimal ds x ≤ 2 ^ 63 then some (decimal ds x, rest) else none := by
  induction ds generalizing x with
  | nil =>
    show leadingInt rest x = if x ≤ 2 ^ 63 then _ else _
    rw [if_pos hx]
    cases rest with
    | nil => rfl
    | cons c rest => simp [leadingInt, digitVal, hrest c rfl, decimal]
  | cons c ds ih =>
    have hc := hdig c (List.mem_cons_self _ _)
    have hle := le_decimal ds (x * 10 + (c.toNat - '0'.toNat))
    simp only [List.cons_append, leadingInt, digitVal, hc, if_true, decimal_cons]
    by_cases h : 2 ^ 63 / 10 < x ∨ 2 ^ 63 < x * 10 + (c.toNat - '0'.toNat)
    · rw [if_neg (show ¬decimal ds _ ≤ 2 ^ 63 by omega)]
      split_ifs <;> first | rfl | omega
    · rw [if_neg (by omega), if_neg (by omega)]
      exact ih (by omega) (fun c hc => hdig c (List.mem_cons_of_mem _ hc))

/-- A character `digitVal` reads is a digit. -/
theorem isDigit_of_digitVal {c : Char} {d : Nat} (h : digitVal c = some d) : IsDigit c := by
  unfold digitVal at h
  split_ifs at h with hc
  exact hc

/-- A character `digitVal` does not read is not a digit. -/
theorem not_isDigit_of_digitVal {c : Char} (h : digitVal c = none) : ¬IsDigit c :=
  fun hc => by simp [digitVal, hc] at h

/-- `leadingInt` reads a run of digits: what it leaves starts with no digit. -/
theorem leadingInt_eq_some {s s₁ : List Char} {x v : Nat} (h : leadingInt s x = some (v, s₁)) :
    ∃ ds, s = ds ++ s₁ ∧ (∀ c ∈ ds, IsDigit c) ∧ ∀ c ∈ s₁.head?, ¬IsDigit c := by
  induction s generalizing x with
  | nil =>
    cases h
    exact ⟨[], rfl, by simp, by simp⟩
  | cons c s ih =>
    unfold leadingInt at h
    cases hd : digitVal c with
    | none =>
      simp only [hd, Option.some.injEq, Prod.mk.injEq] at h
      obtain ⟨-, rfl⟩ := h
      exact ⟨[], rfl, by simp, by simpa using not_isDigit_of_digitVal hd⟩
    | some d =>
      simp only [hd] at h
      split_ifs at h
      obtain ⟨ds, rfl, hdig, hrest⟩ := ih h
      exact ⟨c :: ds, rfl, by simpa [isDigit_of_digitVal hd] using hdig, hrest⟩

/-- `leadingFraction` reads a run of digits: what it leaves starts with no digit. -/
theorem leadingFraction_eq {s s₂ : List Char} {x f : Nat} {scale sc : Float64} {ov : Bool}
    (h : leadingFraction s x scale ov = (f, sc, s₂)) :
    ∃ ds, s = ds ++ s₂ ∧ (∀ c ∈ ds, IsDigit c) ∧ ∀ c ∈ s₂.head?, ¬IsDigit c := by
  induction s generalizing x scale ov with
  | nil =>
    cases h
    exact ⟨[], rfl, by simp, by simp⟩
  | cons c s ih =>
    unfold leadingFraction at h
    cases hd : digitVal c with
    | none =>
      simp only [hd, Prod.mk.injEq] at h
      obtain ⟨-, -, rfl⟩ := h
      exact ⟨[], rfl, by simp, by simpa using not_isDigit_of_digitVal hd⟩
    | some d =>
      simp only [hd] at h
      have hnext : ∃ x' scale' ov', leadingFraction s x' scale' ov' = (f, sc, s₂) := by
        split_ifs at h <;> exact ⟨_, _, _, h⟩
      obtain ⟨x', scale', ov', h'⟩ := hnext
      obtain ⟨ds, rfl, hdig, hrest⟩ := ih h'
      exact ⟨c :: ds, rfl, by simpa [isDigit_of_digitVal hd] using hdig, hrest⟩

/-- Every unit is a nonempty run of characters that cannot start a number, worth at least
one nanosecond. -/
theorem unitMap_wellFormed :
    ∀ p ∈ unitMap, 0 < p.2 ∧ p.1 ≠ [] ∧ ∀ c ∈ p.1, ¬IsNumberChar c := by
  decide

/-- What `unitMap_wellFormed` says of the unit a lookup finds. -/
theorem unitMap_some {u : List Char} {k : Nat} (h : unitMap.lookup u = some k) :
    0 < k ∧ u ≠ [] ∧ ∀ c ∈ u, ¬IsNumberChar c := by
  obtain ⟨l₁, l₂, hl, -⟩ := List.lookup_eq_some_iff.mp h
  exact unitMap_wellFormed (u, k) (hl ▸ List.mem_append_right _ (List.mem_cons_self _ _))

/-- The unit of a segment: `scaleByUnit` succeeds only on a unit of `unitMap` in front of
the rest it returns. -/
theorem scaleByUnit_eq_ok {orig : String} {v f : Nat} {scale : Float64} {s₂ rest : List Char}
    {w : Nat}
    (h : scaleByUnit orig v f scale s₂ = .ok (w, rest)) :
    ∃ u ns, s₂ = u ++ rest ∧ unitMap.lookup u = some ns := by
  unfold scaleByUnit at h
  dsimp only at h
  split at h
  · cases h
  · split at h
    · cases h
    · rename_i ns hl
      refine ⟨_, ns, ?_, hl⟩
      have hrest : s₂.dropWhile (fun c => !decide (IsNumberChar c)) = rest := by
        split_ifs at h <;> cases h <;> rfl
      rw [← hrest, List.takeWhile_append_dropWhile]

/-- A unit followed by what starts a number: `scaleByUnit` reads exactly the unit, and scales
a whole value by it unless that passes `1<<63`. -/
theorem scaleByUnit_append {orig : String} {v : Nat} {u rest : List Char} {k : Nat}
    (hu : unitMap.lookup u = some k) (hrest : ∀ c ∈ rest.head?, IsNumberChar c) :
    scaleByUnit orig v 0 .one (u ++ rest) =
      if 2 ^ 63 / k < v then .error (.invalidDuration orig) else .ok (v * k, rest) := by
  obtain ⟨-, hne, hnum⟩ := unitMap_some hu
  have hall : ∀ c ∈ u, (!decide (IsNumberChar c)) = true := by simpa using hnum
  have hstop : ∀ c ∈ rest.head?, (!decide (IsNumberChar c)) = false := by simpa using hrest
  have htake : (u ++ rest).takeWhile (fun c => !decide (IsNumberChar c)) = u := by
    rw [List.takeWhile_append_of_pos hall]
    cases rest with
    | nil => simp
    | cons c r => simp [List.takeWhile_cons_of_neg, hstop c rfl]
  have hdrop : (u ++ rest).dropWhile (fun c => !decide (IsNumberChar c)) = rest := by
    rw [List.dropWhile_append_of_pos hall]
    cases rest with
    | nil => rfl
    | cons c r => simp [List.dropWhile_cons_of_neg, hstop c rfl]
  simp only [scaleByUnit, htake, hdrop, hne, hu, if_false, Nat.lt_irrefl]

/-! ### One segment -/

namespace Segment

/-- A segment's text starts with a digit or a `.`. -/
theorem head_text (seg : Segment) (rest : List Char) :
    ∀ c ∈ (seg.text ++ rest).head?, IsNumberChar c := by
  cases hi : seg.int with
  | cons c cs =>
    have hc := seg.int_isDigit c (hi ▸ List.mem_cons_self _ _)
    simp only [text, hi, List.cons_append, List.head?_cons, Option.mem_def, Option.some.injEq]
    rintro _ rfl
    exact Or.inr hc
  | nil =>
    obtain ⟨f, hf, -⟩ := seg.hasDigit.resolve_left fun h => h hi
    simp only [Option.mem_def] at hf
    simp only [text, hi, hf, fracText, List.nil_append, List.cons_append, List.head?_cons,
      Option.mem_def, Option.some.injEq]
    rintro _ rfl
    exact Or.inl rfl

/-- A segment's text holds a digit and a unit, so two characters at least. -/
theorem two_le_length_text (seg : Segment) : 2 ≤ seg.text.length := by
  obtain ⟨-, hne, -⟩ := unitMap_some seg.lookup_unit
  have hu := List.length_pos.mpr hne
  rcases seg.hasDigit with hi | ⟨f, hf, -⟩
  · have := List.length_pos.mpr hi
    simp only [text, List.length_append]
    omega
  · simp only [Option.mem_def] at hf
    simp only [text, hf, fracText, List.length_append, List.length_cons]
    omega

end Segment

/-- The fraction part: `fractionPart` reads a `.` and a run of digits, or nothing, and says
whether it read a digit. -/
theorem fractionPart_eq {s₁ s₂ : List Char} {f : Nat} {scale : Float64} {post : Bool}
    (h : fractionPart s₁ = (f, scale, s₂, post)) :
    ∃ fr : Option (List Char), s₁ = Segment.fracText fr ++ s₂ ∧
      (∀ g ∈ fr, ∀ c ∈ g, IsDigit c) ∧ (post = true ↔ ∃ g ∈ fr, g ≠ []) := by
  unfold fractionPart at h
  split at h
  · rename_i t
    rcases hlf : leadingFraction t 0 .one false with ⟨f', sc', r⟩
    simp only [hlf, Prod.mk.injEq] at h
    obtain ⟨rfl, rfl, rfl, rfl⟩ := h
    obtain ⟨g, rfl, hdig, -⟩ := leadingFraction_eq hlf
    exact ⟨some g, rfl, by simpa using hdig, by simp⟩
  · cases h
    exact ⟨none, rfl, by simp, by simp⟩

/-- **One segment read.** What `durationSegment` accepts is the text of a segment, and it
leaves the rest of the input. -/
theorem durationSegment_eq_ok {orig : String} {s rest : List Char} {v : Nat}
    (h : durationSegment orig s = .ok (v, rest)) : ∃ seg : Segment, s = seg.text ++ rest := by
  unfold durationSegment at h
  split at h
  · cases h
  · split_ifs at h
    split at h
    · cases h
    · rename_i v₀ s₁ hl
      obtain ⟨ds, hds, hdig, -⟩ := leadingInt_eq_some hl
      rcases hfp : fractionPart s₁ with ⟨f, scale, s₂, post⟩
      simp only [hfp] at h
      split_ifs at h with hpp
      obtain ⟨u, ns, rfl, hu⟩ := scaleByUnit_eq_ok h
      obtain ⟨fr, rfl, hfdig, hpost⟩ := fractionPart_eq hfp
      refine ⟨⟨ds, fr, u, ns, hdig, hfdig, ?_, hu⟩, hds.trans (by simp [Segment.text])⟩
      rw [hds] at hpp
      simp only [Bool.not_eq_true', Bool.or_eq_false_iff, not_and_or, Bool.not_eq_false,
        decide_eq_true_eq] at hpp
      rcases hpp with hpre | hp
      · exact Or.inl fun h => hpre (by simp [h])
      · exact Or.inr (hpost.mp hp)

/-- **One whole segment.** A segment with no fraction, followed by what starts a number, is
read whole: it is worth its numeral times its unit, unless that passes `1<<63`. -/
theorem durationSegment_text {orig : String} {seg : Segment} {rest : List Char}
    (hfrac : seg.frac = none) (hrest : ∀ c ∈ rest.head?, IsNumberChar c) :
    durationSegment orig (seg.text ++ rest) =
      if seg.value ≤ 2 ^ 63 then .ok (seg.value, rest) else .error (.invalidDuration orig) := by
  have hds : seg.int ≠ [] := seg.hasDigit.resolve_right (by simp [hfrac])
  have hdig := seg.int_isDigit
  have hu := seg.lookup_unit
  simp only [Segment.text, hfrac, Segment.fracText, List.append_nil, Segment.value]
  generalize seg.int = ds at hds hdig ⊢
  generalize seg.unit = u at hu ⊢
  generalize seg.ns = k at hu ⊢
  obtain ⟨hk, hne, hnum⟩ := unitMap_some hu
  obtain ⟨c, u', rfl⟩ := List.exists_cons_of_ne_nil hne
  have hc : ¬IsNumberChar c := hnum c (List.mem_cons_self _ _)
  have hurest : ∀ c' ∈ (c :: u' ++ rest).head?, ¬IsDigit c' := by
    rintro _ ⟨⟩ h
    exact hc (Or.inr h)
  have hfrac : fractionPart (c :: u' ++ rest) = (0, .one, c :: u' ++ rest, false) := by
    simp [fractionPart, show c ≠ '.' from fun h => hc (Or.inl h)]
  obtain ⟨d, ds', rfl⟩ := List.exists_cons_of_ne_nil hds
  have hd : IsNumberChar d := Or.inr (hdig d (List.mem_cons_self _ _))
  have hl : leadingInt (d :: (ds' ++ (c :: u' ++ rest))) 0 =
      if decimal (d :: ds') 0 ≤ 2 ^ 63 then some (decimal (d :: ds') 0, c :: u' ++ rest)
      else none :=
    leadingInt_append (Nat.zero_le _) hdig hurest
  have hpre : decide ((c :: u' ++ rest).length ≠ (d :: (ds' ++ (c :: u' ++ rest))).length) =
      true :=
    decide_eq_true (by simp; omega)
  rw [List.append_assoc, List.cons_append, durationSegment.eq_def]
  simp only [if_neg (not_not.mpr hd), hl]
  generalize decimal (d :: ds') 0 = v
  have hvk : v ≤ v * k := Nat.le_mul_of_pos_right v hk
  by_cases hv : v ≤ 2 ^ 63
  · simp only [if_pos hv, hfrac, hpre, Bool.true_or, Bool.not_true, Bool.false_eq_true,
      if_false, scaleByUnit_append hu hrest, Nat.div_lt_iff_lt_mul hk]
    split_ifs <;> first | rfl | omega
  · rw [if_neg hv, if_neg (by omega)]

/-! ### The loop over segments -/

/-- The text of a list of segments starts with a digit or a `.`, or is empty. -/
theorem head_segmentsText (segs : List Segment) :
    ∀ c ∈ (segmentsText segs).head?, IsNumberChar c := by
  cases segs with
  | nil => simp [segmentsText]
  | cons seg segs => exact seg.head_text _

/-- The text of a list of segments, one segment at a time. -/
@[simp] theorem segmentsText_cons (seg : Segment) (segs : List Segment) :
    segmentsText (seg :: segs) = seg.text ++ segmentsText segs := rfl

/-- The total of a list of segments, one segment at a time. -/
@[simp] theorem segmentsTotal_cons (seg : Segment) (segs : List Segment) :
    segmentsTotal (seg :: segs) = seg.value + segmentsTotal segs := by
  simp [segmentsTotal]

/-- The text of a nonempty list of segments is two characters long at least. -/
theorem two_le_length_segmentsText {segs : List Segment} (hne : segs ≠ []) :
    2 ≤ (segmentsText segs).length := by
  obtain ⟨seg, segs, rfl⟩ := List.exists_cons_of_ne_nil hne
  have := seg.two_le_length_text
  simp only [segmentsText_cons, List.length_append]
  omega

/-- A whole segment at the head of a list is read whole: reading it gives its value, or the
overflow error, and leaves the rest of the list. -/
theorem durationSegment_segmentsText_cons (orig : String) {seg : Segment}
    (segs : List Segment) (hfrac : seg.frac = none) :
    ∃ c s, segmentsText (seg :: segs) = c :: s ∧
      durationSegment orig (c :: s) =
        if seg.value ≤ 2 ^ 63 then .ok (seg.value, segmentsText segs)
        else .error (.invalidDuration orig) := by
  have hlen := two_le_length_segmentsText (List.cons_ne_nil seg segs)
  have hne : segmentsText (seg :: segs) ≠ [] := List.ne_nil_of_length_pos (by omega)
  obtain ⟨c, s, hcs⟩ := List.exists_cons_of_ne_nil hne
  exact ⟨c, s, hcs, hcs ▸ durationSegment_text hfrac (head_segmentsText segs)⟩

/-- One pass of the loop after a segment is read: the total is added to, modulo `2^64`, and
checked against `1<<63`. -/
theorem parseDurationLoop_of_segment {orig : String} {fuel : Nat} {c : Char}
    {s rest : List Char} {d v : Nat} (h : durationSegment orig (c :: s) = .ok (v, rest)) :
    parseDurationLoop orig (fuel + 1) (c :: s) d =
      if 2 ^ 63 < (d + v) % 2 ^ 64 then .error (.invalidDuration orig)
      else parseDurationLoop orig fuel rest ((d + v) % 2 ^ 64) := by
  simp only [parseDurationLoop, h, bind, Except.bind]
  split_ifs <;> rfl

/-- One pass of the loop when no segment can be read: the loop fails with the same error. -/
theorem parseDurationLoop_of_segment_error {orig : String} {fuel : Nat} {c : Char}
    {s : List Char} {d : Nat} {e : GoError} (h : durationSegment orig (c :: s) = .error e) :
    parseDurationLoop orig (fuel + 1) (c :: s) d = .error e := by
  simp only [parseDurationLoop, h]
  rfl

/-- **The loop read.** What the loop of `ParseDuration` accepts is a list of segments. -/
theorem parseDurationLoop_eq_ok {orig : String} {fuel : Nat} {s : List Char} {d t : Nat}
    (h : parseDurationLoop orig fuel s d = .ok t) : ∃ segs, s = segmentsText segs := by
  induction fuel generalizing s d with
  | zero =>
    cases s with
    | nil => exact ⟨[], rfl⟩
    | cons => cases h
  | succ fuel ih =>
    cases s with
    | nil => exact ⟨[], rfl⟩
    | cons c s =>
      rcases hseg : durationSegment orig (c :: s) with e | ⟨v, rest⟩
      · rw [parseDurationLoop_of_segment_error hseg] at h
        cases h
      · rw [parseDurationLoop_of_segment hseg] at h
        split_ifs at h
        obtain ⟨seg, hs⟩ := durationSegment_eq_ok hseg
        obtain ⟨segs, rfl⟩ := ih h
        exact ⟨seg :: segs, hs⟩

/-- **The loop on whole segments**, when the true total stays below `2^64`: it returns the
total exactly when that is at most `1<<63`, and fails otherwise. -/
theorem parseDurationLoop_segments {orig : String} {segs : List Segment}
    (hw : ∀ seg ∈ segs, seg.frac = none) {fuel d : Nat}
    (hfuel : (segmentsText segs).length ≤ fuel) (hd : d ≤ 2 ^ 63)
    (hlt : d + segmentsTotal segs < 2 ^ 64) :
    parseDurationLoop orig fuel (segmentsText segs) d =
      if d + segmentsTotal segs ≤ 2 ^ 63 then .ok (d + segmentsTotal segs)
      else .error (.invalidDuration orig) := by
  induction segs generalizing fuel d with
  | nil =>
    simp only [segmentsTotal, List.map_nil, List.sum_nil, Nat.add_zero, if_pos hd]
    cases fuel <;> rfl
  | cons seg segs ih =>
    obtain ⟨c, s, htext, hseg⟩ :=
      durationSegment_segmentsText_cons orig segs (hw seg (List.mem_cons_self _ _))
    rw [segmentsTotal_cons] at hlt ⊢
    have hlen : (c :: s).length = seg.text.length + (segmentsText segs).length := by
      rw [← htext, segmentsText_cons, List.length_append]
    rw [htext] at hfuel ⊢
    have := seg.two_le_length_text
    obtain ⟨fuel, rfl⟩ : ∃ f, fuel = f + 1 := ⟨fuel - 1, by omega⟩
    by_cases hv : seg.value ≤ 2 ^ 63
    · rw [if_pos hv] at hseg
      have hmod : (d + seg.value) % 2 ^ 64 = d + seg.value := Nat.mod_eq_of_lt (by omega)
      rw [parseDurationLoop_of_segment hseg, hmod]
      by_cases h2 : 2 ^ 63 < d + seg.value
      · rw [if_pos h2, if_neg (by omega)]
      · rw [if_neg h2, ih (fun seg h => hw seg (List.mem_cons_of_mem _ h)) (by omega)
          (by omega) (by omega), Nat.add_assoc]
    · rw [if_neg hv] at hseg
      rw [parseDurationLoop_of_segment_error hseg, if_neg (by omega)]

/-- **The loop on whole segments, in general.** An accepted total is at most `1<<63` and is
the true total modulo `2^64`: the loop adds in a `uint64`, which wraps. -/
theorem parseDurationLoop_segments_eq_ok {orig : String} {segs : List Segment}
    (hw : ∀ seg ∈ segs, seg.frac = none) {fuel d t : Nat} (hd : d ≤ 2 ^ 63)
    (h : parseDurationLoop orig fuel (segmentsText segs) d = .ok t) :
    t = (d + segmentsTotal segs) % 2 ^ 64 ∧ t ≤ 2 ^ 63 := by
  induction segs generalizing fuel d with
  | nil =>
    have ht : t = d := by cases fuel <;> exact (Except.ok.inj h).symm
    subst ht
    simp only [segmentsTotal, List.map_nil, List.sum_nil, Nat.add_zero]
    exact ⟨(Nat.mod_eq_of_lt (by omega)).symm, hd⟩
  | cons seg segs ih =>
    obtain ⟨c, s, htext, hseg⟩ :=
      durationSegment_segmentsText_cons orig segs (hw seg (List.mem_cons_self _ _))
    rw [htext] at h
    rw [segmentsTotal_cons]
    cases fuel with
    | zero => cases h
    | succ fuel =>
      by_cases hv : seg.value ≤ 2 ^ 63
      · rw [if_pos hv] at hseg
        rw [parseDurationLoop_of_segment hseg] at h
        split_ifs at h with h2
        obtain ⟨rfl, ht⟩ := ih (fun seg h => hw seg (List.mem_cons_of_mem _ h)) (by omega) h
        exact ⟨by rw [Nat.mod_add_mod, Nat.add_assoc], ht⟩
      · rw [if_neg hv] at hseg
        rw [parseDurationLoop_of_segment_error hseg] at h
        cases h

/-! ### The sign and the range -/

/-- `splitSign` takes off the sign in front of a body that starts with a digit or a `.`. -/
theorem splitSign_text (sign : Sign) {body : List Char}
    (h : ∀ c ∈ body.head?, IsNumberChar c) : splitSign (sign.text ++ body) = (sign.neg, body) := by
  cases sign with
  | plus => rfl
  | minus => rfl
  | none =>
    cases body with
    | nil => rfl
    | cons c body =>
      have hc := h c rfl
      have h₁ : c ≠ '+' := by rintro rfl; revert hc; decide
      have h₂ : c ≠ '-' := by rintro rfl; revert hc; decide
      simp [Sign.text, Sign.neg, splitSign, h₁, h₂]

/-- What `splitSign` takes off is a sign. -/
theorem exists_sign_of_splitSign {cs body : List Char} {neg : Bool}
    (h : splitSign cs = (neg, body)) : ∃ sign : Sign, cs = sign.text ++ body ∧ sign.neg = neg := by
  unfold splitSign at h
  split at h <;> cases h
  · exact ⟨.plus, rfl, rfl⟩
  · exact ⟨.minus, rfl, rfl⟩
  · exact ⟨.none, rfl, rfl⟩

/-- The sign and range checks: a total of at most `2^63` gives the signed duration exactly
when that fits in `int64`. -/
theorem signedDuration_eq_ok {s : String} {neg : Bool} {n : Nat} {d : Duration}
    (hn : n ≤ 2 ^ 63) :
    signedDuration s neg n = .ok d ↔
      InInt64 (if neg then -(n : Int) else n) ∧ d.toInt = if neg then -(n : Int) else n := by
  cases neg <;> simp only [signedDuration, Bool.false_eq_true, if_true, if_false]
  · by_cases h : 2 ^ 63 - 1 < n
    · simp only [if_pos h, InInt64]
      exact ⟨by rintro ⟨⟩, fun ⟨⟨_, h'⟩, _⟩ => by omega⟩
    · rw [if_neg h]
      exact ⟨by rintro ⟨⟩; exact ⟨by unfold InInt64; omega, toInt_ofNat_of_lt (by omega)⟩,
        fun ⟨_, hd⟩ =>
          congrArg _ (BitVec.eq_of_toInt_eq (by rw [toInt_ofNat_of_lt (by omega), hd]))⟩
  · exact ⟨by rintro ⟨⟩; exact ⟨by unfold InInt64; omega, toInt_neg_ofNat_of_le hn⟩,
      fun ⟨_, hd⟩ =>
        congrArg _ (BitVec.eq_of_toInt_eq (by rw [toInt_neg_ofNat_of_le hn, hd]))⟩

/-- A total checked against `1<<63` and then signed gives the signed total exactly when it
fits in `int64`. -/
theorem checked_bind_signedDuration_eq_ok {s : String} {neg : Bool} {n : Nat} {d : Duration} :
    ((if n ≤ 2 ^ 63 then .ok n else .error (.invalidDuration s)) >>= signedDuration s neg) =
        .ok d ↔
      InInt64 (if neg then -(n : Int) else n) ∧ d.toInt = if neg then -(n : Int) else n := by
  by_cases h : n ≤ 2 ^ 63
  · simp only [if_pos h, bind, Except.bind]
    exact signedDuration_eq_ok h
  · simp only [if_neg h, bind, Except.bind, reduceCtorEq, false_iff, not_and, InInt64]
    cases neg <;> simp only [if_true, if_false, Bool.false_eq_true] <;> omega

/-! ### `ParseDuration` against the grammar -/

/-- The text of a list of segments is never the special case `"0"`. -/
theorem segmentsText_ne_zero (segs : List Segment) : segmentsText segs ≠ ['0'] := by
  by_cases hne : segs = []
  · simp [hne, segmentsText]
  · intro h
    have := two_le_length_segmentsText hne
    rw [h, List.length_singleton] at this
    omega

/-- What an accepted string is to `ParseDuration`: the special case `0` after the sign, or a
nonempty body that the loop accepts, with a total the sign and range checks accept. -/
theorem parseDuration_eq_ok {s : String} {d : Duration} (h : parseDuration s = .ok d) :
    (splitSign s.data).2 = ['0'] ∨ (splitSign s.data).2 ≠ [] ∧
      ∃ t, parseDurationLoop s (splitSign s.data).2.length (splitSign s.data).2 0 = .ok t ∧
        signedDuration s (splitSign s.data).1 t = .ok d := by
  unfold parseDuration at h
  rcases hsp : splitSign s.data with ⟨neg, body⟩
  simp only [hsp] at h ⊢
  by_cases h0 : body = ['0']
  · exact Or.inl h0
  rw [if_neg h0] at h
  by_cases hb : body = []
  · rw [if_pos hb] at h
    cases h
  rw [if_neg hb] at h
  rcases hl : parseDurationLoop s body.length body 0 with e | t
  · rw [hl] at h
    cases h
  · rw [hl] at h
    exact Or.inr ⟨hb, t, rfl, h⟩

/-- **What `ParseDuration` accepts.** Every string it accepts is a sign followed by `0`, or a
sign followed by a nonempty list of segments, each `[0-9]*(\.[0-9]*)?` with a digit and then a
unit of `unitMap`. -/
theorem parseDuration_eq_ok_shape {s : String} {d : Duration} (h : parseDuration s = .ok d) :
    ∃ sign : Sign, s.data = sign.text ++ ['0'] ∨
      ∃ segs, segs ≠ [] ∧ s.data = sign.text ++ segmentsText segs := by
  rcases hsp : splitSign s.data with ⟨neg, body⟩
  obtain ⟨sign, hs, -⟩ := exists_sign_of_splitSign hsp
  refine ⟨sign, ?_⟩
  rcases parseDuration_eq_ok h with h0 | ⟨hb, t, hl, -⟩ <;> simp only [hsp] at *
  · exact Or.inl (h0 ▸ hs)
  · obtain ⟨segs, rfl⟩ := parseDurationLoop_eq_ok hl
    exact Or.inr ⟨segs, fun h' => hb (by rw [h']; rfl), hs⟩

set_option maxRecDepth 2000 in
/-- An hour and a half, with a fraction, is a list of segments. -/
theorem parseDuration_one_and_a_half_hours :
    parseDuration "1.5h" = .ok (BitVec.ofNat 64 5400000000000) ∧
      ∃ sign : Sign, "1.5h".data = sign.text ++ ['0'] ∨
        ∃ segs, segs ≠ [] ∧ "1.5h".data = sign.text ++ segmentsText segs := by
  have h : parseDuration "1.5h" = .ok (BitVec.ofNat 64 5400000000000) := rfl
  exact ⟨h, parseDuration_eq_ok_shape h⟩

-- A fraction scaled through `float64`: `0.036` rounds below itself, and `750` of it truncate
-- to 26 nanoseconds, where the exact value is 27.
set_option maxRecDepth 4000 in
example : parseDuration "0.00000000000750h" = .ok 26 := rfl

/-- **Durations of whole segments.** A sign followed by a nonempty list of segments without
a fraction, whose true total stays below `2^64`, parses exactly when the signed total fits in
`int64`, and to that total. -/
theorem parseDuration_segments {sign : Sign} {segs : List Segment} (hne : segs ≠ [])
    (hw : ∀ seg ∈ segs, seg.frac = none) (hlt : segmentsTotal segs < 2 ^ 64) {d : Duration} :
    parseDuration ⟨sign.text ++ segmentsText segs⟩ = .ok d ↔
      InInt64 (if sign.neg then -(segmentsTotal segs : Int) else segmentsTotal segs) ∧
        d.toInt = if sign.neg then -(segmentsTotal segs : Int) else segmentsTotal segs := by
  have hbody : segmentsText segs ≠ [] :=
    List.ne_nil_of_length_pos (by have := two_le_length_segmentsText hne; omega)
  have hloop : parseDurationLoop ⟨sign.text ++ segmentsText segs⟩ (segmentsText segs).length
      (segmentsText segs) 0 = _ :=
    parseDurationLoop_segments hw le_rfl (Nat.zero_le _) (by omega)
  simp only [Nat.zero_add] at hloop
  simp only [parseDuration, splitSign_text sign (head_segmentsText segs),
    if_neg (segmentsText_ne_zero segs), if_neg hbody, hloop]
  exact checked_bind_signedDuration_eq_ok

/-- Minus an hour and thirty minutes. -/
theorem parseDuration_minus_hour_thirty :
    parseDuration "-1h30m" = .ok (-BitVec.ofNat 64 5400000000000) :=
  (@parseDuration_segments .minus
    [⟨['1'], none, ['h'], 3600000000000, by decide, by decide, by decide, rfl⟩,
      ⟨['3', '0'], none, ['m'], 60000000000, by decide, by decide, by decide, rfl⟩]
    (by simp) (by simp) (by decide) _).mpr ⟨by decide, by decide⟩

/-- **Past `2^64`.** Whatever its segments without a fraction, an accepted duration is the
signed true total modulo `2^64`: a total that reaches `2^64` wraps instead of failing. -/
theorem parseDuration_segments_eq_ok {sign : Sign} {segs : List Segment}
    (hw : ∀ seg ∈ segs, seg.frac = none) {d : Duration}
    (h : parseDuration ⟨sign.text ++ segmentsText segs⟩ = .ok d) :
    segmentsTotal segs % 2 ^ 64 ≤ 2 ^ 63 ∧
      d.toInt = if sign.neg then -((segmentsTotal segs % 2 ^ 64 : Nat) : Int)
        else ((segmentsTotal segs % 2 ^ 64 : Nat) : Int) := by
  have hsp := splitSign_text sign (head_segmentsText segs)
  rcases parseDuration_eq_ok h with h0 | ⟨-, t, hl, hs⟩ <;> simp only [hsp] at *
  · exact absurd h0 (segmentsText_ne_zero segs)
  · obtain ⟨rfl, ht⟩ := parseDurationLoop_segments_eq_ok hw (Nat.zero_le _) hl
    rw [Nat.zero_add] at ht hs
    exact ⟨ht, ((signedDuration_eq_ok ht).mp hs).2⟩

/-- Two segments of `1<<63` nanoseconds each: their total, `2^64`, wraps to zero. -/
theorem parseDuration_two_halves :
    parseDuration "9223372036854775808ns9223372036854775808ns" = .ok 0 ∧
      2 ^ 64 % 2 ^ 64 ≤ 2 ^ 63 ∧ (0 : Duration).toInt = ((2 ^ 64 % 2 ^ 64 : Nat) : Int) := by
  have h : parseDuration "9223372036854775808ns9223372036854775808ns" = .ok 0 := rfl
  have hwrap := @parseDuration_segments_eq_ok .none
    [⟨['9', '2', '2', '3', '3', '7', '2', '0', '3', '6', '8', '5', '4', '7', '7', '5', '8', '0',
        '8'], none, ['n', 's'], 1, by decide, by decide, by decide, rfl⟩,
      ⟨['9', '2', '2', '3', '3', '7', '2', '0', '3', '6', '8', '5', '4', '7', '7', '5', '8', '0',
        '8'], none, ['n', 's'], 1, by decide, by decide, by decide, rfl⟩]
    (by simp) 0 h
  exact ⟨h, hwrap⟩

end Logit
