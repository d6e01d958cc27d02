import Logit.Strconv
import Logit.Filepath

/-!
# Backup File Names: `DefaultNameGenerator`

A rotating file names each new file with a `NameGenerator`. The default one joins the
directory with the current time to the second, a random number below `1000000` drawn with
`rand.Intn`, and the log-file suffix. A run of the generator is a list of calls, each an
instant and the number the random source returned; the random source is the input, so the
results below hold whatever it returns. The join is `filepath.Join`, which cleans the path; a
generated name is one plain element (`isElement_name`), so it comes through whole.

## Main results

* `defaultNameGenerator_collides`: two calls within one second that draw the same number
  name the same file.
* `defaultNameGenerator_eq_iff`: within the widths `Format` prints, two calls name the same
  file exactly when they fall in the same second and draw the same number.
-/

namespace Logit

/-- A `time.Time`, by the civil fields `Format` reads, and its nanoseconds. -/
structure Time where
  year : Nat
  month : Nat
  day : Nat
  hour : Nat
  minute : Nat
  second : Nat
  nanosecond : Nat
  deriving DecidableEq, Repr

/-- The decimal digits of `n`, padded with zeros on the left to `width`. -/
def padInt (width n : Nat) : String :=
  ⟨List.replicate (width - (toString n).length) '0' ++ (toString n).data⟩

/-- `t.Format("20060102-150405")`. -/
def Time.format (t : Time) : String :=
  padInt 4 t.year ++ padInt 2 t.month ++ padInt 2 t.day ++ "-" ++
    padInt 2 t.hour ++ padInt 2 t.minute ++ padInt 2 t.second

/-- The fields `Format` prints at their full width: a four-digit year, two digits for the
others. -/
def Time.InRange (t : Time) : Prop :=
  t.year < 10 ^ 4 ∧ t.month < 10 ^ 2 ∧ t.day < 10 ^ 2 ∧ t.hour < 10 ^ 2 ∧
    t.minute < 10 ^ 2 ∧ t.second < 10 ^ 2

/-- Whether the fields fit their widths is decided field by field. -/
instance (t : Time) : Decidable t.InRange := inferInstanceAs (Decidable (_ ∧ _))

/-- The instant to the second, all `Format` reads of it. -/
def Time.toSecond (t : Time) : Time := { t with nanosecond := 0 }

/-- `Format` prints nothing below the second. -/
theorem Time.format_toSecond (t : Time) : t.toSecond.format = t.format := rfl

/-- Modelled from the spec: `SuffixOfLogFile` (declared outside src/), the extension of the
generator's example name `20200304-145246-45.log`. -/
def suffixOfLogFile : String := ".log"

/-- The generator `DefaultNameGenerator()` returns, called at `now` when `rand.Intn(1000000)`
returns `r`. -/
def defaultNameGenerator (directory : String) (now : Time) (r : Nat) : String :=
  filepathJoin directory (now.format ++ "-" ++ itoa r ++ suffixOfLogFile)

/-- The names a run of calls generates, one per call `(now, r)`. -/
def generatedNames (directory : String) (calls : List (Time × Nat)) : List String :=
  calls.map fun call => defaultNameGenerator directory call.1 call.2

/-- **Collisions.** Two calls a tenth and nine tenths of a second past the same second, which
both draw 45, generate the same path. -/
theorem defaultNameGenerator_collides :
    generatedNames "logs" [(⟨2020, 3, 4, 14, 52, 46, 100000000⟩, 45),
        (⟨2020, 3, 4, 14, 52, 46, 900000000⟩, 45)] =
      ["logs/20200304-145246-45.log", "logs/20200304-145246-45.log"] := by
  decide

/-! ### When two names collide -/

/-- Leading zeros read as nothing. -/
theorem decimal_replicate_zero (k : Nat) : decimal (List.replicate k '0') 0 = 0 := by
  induction k with
  | zero => rfl
  | succ k ih => exact ih

/-- `decimal` reads back a padded field. -/
theorem decimal_padInt (w n : Nat) : decimal (padInt w n).data 0 = n := by
  show decimal (List.replicate _ '0' ++ (itoa n).data) 0 = n
  rw [decimal_append, decimal_replicate_zero, decimal_itoa]

/-- A field that fits its width is padded to exactly that width. -/
theorem length_padInt {w n : Nat} (hw : 0 < w) (hn : n < 10 ^ w) :
    (padInt w n).data.length = w := by
  have h : (toString n).length ≤ w := Nat.repr_length n w hw hn
  simp only [padInt, List.length_append, List.length_replicate]
  generalize toString n = s at h ⊢
  cases s
  simp only [String.length] at h ⊢
  omega

/-- Two fields printed at one width, each followed by some text, agree if the texts do. -/
theorem padInt_append_inj {w a b : Nat} {xs ys : List Char} (hw : 0 < w) (ha : a < 10 ^ w)
    (hb : b < 10 ^ w) (h : (padInt w a).data ++ xs = (padInt w b).data ++ ys) :
    a = b ∧ xs = ys := by
  obtain ⟨h₁, h₂⟩ := List.append_inj h (by rw [length_padInt hw ha, length_padInt hw hb])
  exact ⟨by rw [← decimal_padInt w a, h₁, decimal_padInt], h₂⟩

/-- What `Itoa` prints is digits. -/
theorem isDigit_itoa (n : Nat) : ∀ c ∈ (itoa n).data, IsDigit c := by
  have hd : ∀ d < 10, IsDigit (Nat.digitChar d) := by decide
  suffices h : ∀ fuel n, ∀ c ∈ Nat.toDigitsCore 10 fuel n [], IsDigit c from h _ _
  intro fuel
  induction fuel with
  | zero => simp [Nat.toDigitsCore]
  | succ fuel ih =>
    intro n c hc
    simp only [Nat.toDigitsCore] at hc
    split_ifs at hc
    · simp only [List.mem_singleton] at hc
      exact hc ▸ hd _ (Nat.mod_lt _ (by omega))
    · rw [toDigitsCore_append, List.mem_append, List.mem_singleton] at hc
      rcases hc with hc | rfl
      · exact ih _ c hc
      · exact hd _ (Nat.mod_lt _ (by omega))

/-- A padded field has no separator. -/
theorem padInt_ne_slash (w n : Nat) : ∀ c ∈ (padInt w n).data, c ≠ '/' := by
  intro c hc
  simp only [padInt, List.mem_append, List.mem_replicate] at hc
  rcases hc with ⟨-, rfl⟩ | hc
  · decide
  · exact fun h => by simpa [h, IsDigit] using isDigit_itoa n c hc

/-- A generated name is one plain path element. -/
theorem isElement_name (t : Time) (r : Nat) :
    IsElement (t.format ++ "-" ++ itoa r ++ suffixOfLogFile).data := by
  have hlen : 5 ≤ (t.format ++ "-" ++ itoa r ++ suffixOfLogFile).data.length := by
    simp only [String.data_append, List.length_append]
    simp [suffixOfLogFile]
    omega
  refine ⟨fun h => by simp [h] at hlen, fun h => by simp [h] at hlen,
    fun h => by simp [h] at hlen, ?_⟩
  intro c hc
  simp only [Time.format, String.data_append, List.mem_append, or_assoc] at hc
  rcases hc with hc | hc | hc | hc | hc | hc | hc | hc | hc | hc <;>
    first
    | exact padInt_ne_slash _ _ c hc
    | exact fun h => by simpa [h, IsDigit] using isDigit_itoa r c hc
    | (rw [List.mem_singleton.mp hc]; decide)
    | (revert c; decide)

/-- Two instants printed in range, each followed by some text, agree to the second if the
texts do. -/
theorem format_append_inj {t t' : Time} {xs ys : List Char} (ht : t.InRange)
    (ht' : t'.InRange) (h : t.format.data ++ xs = t'.format.data ++ ys) :
    t.toSecond = t'.toSecond ∧ xs = ys := by
  obtain ⟨y, mo, d, hh, mi, s⟩ := ht
  obtain ⟨y', mo', d', hh', mi', s'⟩ := ht'
  simp only [Time.format, String.data_append, List.append_assoc] at h
  obtain ⟨e₁, h₁⟩ := padInt_append_inj (by norm_num) y y' h
  obtain ⟨e₂, h₂⟩ := padInt_append_inj (by norm_num) mo mo' h₁
  obtain ⟨e₃, h₃⟩ := padInt_append_inj (by norm_num) d d' h₂
  obtain ⟨e₄, h₄⟩ := padInt_append_inj (by norm_num) hh hh' (List.append_cancel_left h₃)
  obtain ⟨e₅, h₅⟩ := padInt_append_inj (by norm_num) mi mi' h₄
  obtain ⟨e₆, h₆⟩ := padInt_append_inj (by norm_num) s s' h₅
  exact ⟨by simp only [Time.toSecond, e₁, e₂, e₃, e₄, e₅, e₆], h₆⟩

/-- **When two names collide.** Within the widths `Format` prints, two calls of the generator
name the same file exactly when they fall in the same second and draw the same number. -/
theorem defaultNameGenerator_eq_iff {directory : String} {t t' : Time} {r r' : Nat}
    (ht : t.InRange) (ht' : t'.InRange) :
    defaultNameGenerator directory t r = defaultNameGenerator directory t' r' ↔
      t.toSecond = t'.toSecond ∧ r = r' := by
  constructor
  · intro h
    have hname := congrArg String.data
      (filepathJoin_inj (isElement_name t r) (isElement_name t' r') h)
    simp only [String.data_append, List.append_assoc] at hname
    obtain ⟨hs, hrest⟩ := format_append_inj ht ht' hname
    have hr : (itoa r).data = (itoa r').data :=
      List.append_cancel_right (List.append_cancel_left hrest)
    exact ⟨hs, by rw [← decimal_itoa r, hr, decimal_itoa]⟩
  · rintro ⟨hs, rfl⟩
    have hf : t.format = t'.format := by
      rw [← Time.format_toSecond t, hs, Time.format_toSecond]
    rw [defaultNameGenerator, defaultNameGenerator, hf]

/-- One second later, the same draw names another file. -/
theorem defaultNameGenerator_next_second :
    Time.InRange ⟨2020, 3, 4, 14, 52, 46, 100000000⟩ ∧
      Time.InRange ⟨2020, 3, 4, 14, 52, 47, 0⟩ ∧
      (defaultNameGenerator "logs" ⟨2020, 3, 4, 14, 52, 46, 100000000⟩ 45 =
          defaultNameGenerator "logs" ⟨2020, 3, 4, 14, 52, 47, 0⟩ 45 ↔
        Time.toSecond ⟨2020, 3, 4, 14, 52, 46, 100000000⟩ =
          Time.toSecond ⟨2020, 3, 4, 14, 52, 47, 0⟩ ∧ 45 = 45) :=
  ⟨by decide, by decide, defaultNameGenerator_eq_iff (by decide) (by decide)⟩

end Logit
