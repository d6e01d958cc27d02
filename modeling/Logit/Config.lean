import Logit.Time

/-!
# The Configuration and Its Durations

This module models the data of `config.go` (`Config`, `WriterConfig`, `FileConfig`,
`NewDefaultConfig`) and the two parsers `newFile` and `newWriter` apply to its strings:
`size.ParseByteSize`, whose package is not under `src/` and which follows the spec's byte
sizes, and `Config.parseTimeDuration`.

`parseTimeDuration` reads a string ending in `d` or `D` as a day count: it trims a `d`,
then a `D`, parses the rest with `strconv.ParseInt`, and multiplies by `defaults.Day` in
`int64` arithmetic. Any other string goes to `time.ParseDuration`.

## Main results

* `parseTimeDuration_of_day`: on a day string the result is `ParseInt` of the trimmed
  string, times `day`.
* `parseTimeDuration_toInt_eq_iff`: the day count `n` comes back exactly as `n` days if and
  only if `n` days fit in `int64`; otherwise the product wraps, with no error
  (`parseTimeDuration_wraps`).
* `parseTimeDuration_day_iff`: the day strings accepted are exactly a `ParseInt` numeral
  followed by `d`, `D`, or `Dd` (`parseTimeDuration_Dd`).
-/

namespace Logit

/-- `WriterConfig`. -/
structure WriterConfig where
  target : String
  mode : String
  bufferSize : String
  batchSize : Nat
  autoSync : String
  deriving DecidableEq, Repr

/-- `FileConfig`; `mode` and `dirMode` are `os.FileMode` permission bits. -/
structure FileConfig where
  path : String
  mode : Nat
  dirMode : Nat
  rotate : Bool
  maxSize : String
  maxAge : String
  maxBackups : Int
  deriving DecidableEq, Repr

/-- `Config`, without the `replaceAttr` hook, which the handler receives unread. -/
structure Config where
  level : String
  handler : String
  writer : WriterConfig
  file : FileConfig
  withSource : Bool
  withPID : Bool
  deriving DecidableEq, Repr

/-- `NewDefaultConfig()`. -/
def newDefaultConfig : Config where
  level := "debug"
  handler := "text"
  writer :=
    { target := "stdout", mode := "direct", bufferSize := "16KB", batchSize := 64,
      autoSync := "30s" }
  file :=
    { path := "./logit.log", rotate := false, mode := 0o644, dirMode := 0o755,
      maxSize := "200MB", maxAge := "90d", maxBackups := 100 }
  withSource := false
  withPID := true

/-- The byte units of a size string. -/
def byteUnit : List Char → Option Nat
  | ['B'] => some 1
  | ['K', 'B'] => some 1024
  | ['M', 'B'] => some (1024 * 1024)
  | ['G', 'B'] => some (1024 * 1024 * 1024)
  | _ => none

/-- Modelled from the spec: `size.ParseByteSize` (the `io/size` package is not under src/)
reads a decimal count followed by a unit, `B`, `KB`, `MB` or `GB`. -/
def parseByteSize (s : String) : Except GoError Nat :=
  match parseUint ⟨s.data.takeWhile (fun c => decide (IsDigit c))⟩,
      byteUnit (s.data.dropWhile (fun c => decide (IsDigit c))) with
  | .ok n, some unit => .ok (n * unit)
  | _, _ => .error (.byteSize s)

/-- `c.parseTimeDuration(s)`; the receiver is not read. -/
def Config.parseTimeDuration (s : String) : Except GoError Duration :=
  if hasSuffix s "d" || hasSuffix s "D" then do
    let s := trimSuffix s "d"
    let s := trimSuffix s "D"
    let days ← parseInt s
    return days * day
  else parseDuration s

/-! ### The day branch -/

/-- A day string is `ParseInt` of what the two trims leave, times `day`. -/
theorem parseTimeDuration_of_day {s : String} (h : hasSuffix s "d" || hasSuffix s "D") :
    Config.parseTimeDuration s = (parseInt (trimSuffix (trimSuffix s "d") "D")).map (· * day) := by
  rw [Config.parseTimeDuration, if_pos h]
  show (do let days ← parseInt _; pure (days * day)) = _
  cases parseInt (trimSuffix (trimSuffix s "d") "D") <;> rfl

/-- Nanoseconds in a day. -/
theorem day_toInt : day.toInt = 86400000000000 := by decide

/-- `n` days, as the `int64` product `n * day`, wrap exactly when they leave the `int64`
range. -/
theorem toInt_mul_day_eq_iff (n : BitVec 64) :
    (n * day).toInt = n.toInt * 86400000000000 ↔ InInt64 (n.toInt * 86400000000000) := by
  rw [BitVec.toInt_mul, day_toInt]
  constructor
  · intro h
    rw [← h]
    exact ⟨Int.le_bmod (by decide), Int.bmod_lt (by decide)⟩
  · exact fun h => bmod_int64 h.1 h.2

/-- **The day count in `int64`.** An accepted day string gives back its day count `n` as
exactly `n` days if and only if those fit in `int64`. -/
theorem parseTimeDuration_toInt_eq_iff {s : String} {d : Duration}
    (hs : hasSuffix s "d" || hasSuffix s "D") (h : Config.parseTimeDuration s = .ok d) :
    ∃ n, parseInt (trimSuffix (trimSuffix s "d") "D") = .ok n ∧ d = n * day ∧
      (d.toInt = n.toInt * 86400000000000 ↔ InInt64 (n.toInt * 86400000000000)) := by
  rw [parseTimeDuration_of_day hs] at h
  cases hp : parseInt (trimSuffix (trimSuffix s "d") "D") with
  | error e => simp only [hp, Except.map, reduceCtorEq] at h
  | ok n =>
    simp only [hp, Except.map, Except.ok.injEq] at h
    exact ⟨n, rfl, h.symm, h ▸ toInt_mul_day_eq_iff n⟩

/-- Ninety days, the default `MaxAge`, fit in `int64`. -/
theorem parseTimeDuration_ninety_days :
    (hasSuffix "90d" "d" || hasSuffix "90d" "D") = true ∧
      Config.parseTimeDuration "90d" = .ok (BitVec.ofNat 64 90 * day) ∧
      ∃ n, parseInt (trimSuffix (trimSuffix "90d" "d") "D") = .ok n ∧
        BitVec.ofNat 64 90 * day = n * day ∧
        ((BitVec.ofNat 64 90 * day).toInt = n.toInt * 86400000000000 ↔
          InInt64 (n.toInt * 86400000000000)) :=
  ⟨by decide, by decide, parseTimeDuration_toInt_eq_iff (by decide) (by decide)⟩

/-- At 106752 days the product leaves `int64`: the duration wraps to a negative value and no
error is returned. -/
theorem parseTimeDuration_wraps :
    Config.parseTimeDuration "106752d" = .ok (BitVec.ofNat 64 106752 * day) ∧
      (BitVec.ofNat 64 106752 * day).toInt = -9223371273709551616 ∧
      (BitVec.ofNat 64 106752 * day).toInt ≠ 106752 * 86400000000000 :=
  ⟨by decide, by decide, by decide⟩

/-! ### Which day strings are accepted -/

/-- A numeral `ParseInt` accepts ends in a digit, so in neither day suffix. -/
theorem hasSuffix_eq_false_of_parseInt {t : String} {n : BitVec 64} (h : parseInt t = .ok n)
    {c : Char} (hc : ¬IsDigit c) : hasSuffix t ⟨[c]⟩ = false := by
  obtain ⟨c', hlast, hdig⟩ := getLast_of_parseInt_eq_ok h
  rw [Bool.eq_false_iff, ne_eq, hasSuffix_singleton_iff, hlast, Option.some.injEq]
  rintro rfl
  exact hc hdig

/-- A string that ends in `D` does not end in `d`. -/
theorem hasSuffix_D_append_d (t : String) : hasSuffix (t ++ "D") "d" = false := by
  rw [Bool.eq_false_iff, ne_eq, hasSuffix_singleton_iff, String.data_append]
  simp [List.getLast?_concat]

/-- What the two trims take off a string that ends in `d` or `D`: `d`, `D`, or `Dd`. -/
theorem eq_trimSuffix_append {s : String} (hs : hasSuffix s "d" || hasSuffix s "D") :
    s = trimSuffix (trimSuffix s "d") "D" ++ "d" ∨ s = trimSuffix (trimSuffix s "d") "D" ++ "D" ∨
      s = trimSuffix (trimSuffix s "d") "D" ++ "Dd" := by
  cases hd : hasSuffix s "d"
  · have hD : hasSuffix s "D" = true := by simpa [hd] using hs
    rw [trimSuffix_of_not hd]
    exact Or.inr (Or.inl (eq_append_of_hasSuffix hD))
  · cases hD : hasSuffix (trimSuffix s "d") "D"
    · rw [trimSuffix_of_not hD]
      exact Or.inl (eq_append_of_hasSuffix hd)
    · refine Or.inr (Or.inr ?_)
      conv_lhs => rw [eq_append_of_hasSuffix hd, eq_append_of_hasSuffix hD]
      exact String.ext (by simp)

/-- The two trims give back a numeral `ParseInt` accepts from behind `d`, `D`, or `Dd`. -/
theorem trimSuffix_trimSuffix_of_parseInt {s t : String} {n : BitVec 64}
    (hn : parseInt t = .ok n) (hst : s = t ++ "d" ∨ s = t ++ "D" ∨ s = t ++ "Dd") :
    trimSuffix (trimSuffix s "d") "D" = t := by
  have htD : trimSuffix t "D" = t :=
    trimSuffix_of_not (hasSuffix_eq_false_of_parseInt hn (by decide))
  rcases hst with rfl | rfl | rfl
  · rw [trimSuffix_append, htD]
  · rw [trimSuffix_of_not (hasSuffix_D_append_d t), trimSuffix_append]
  · have h : t ++ "Dd" = (t ++ "D") ++ "d" := String.ext (by simp)
    rw [h, trimSuffix_append, trimSuffix_append]

/-- **The accepted day strings.** A string ending in `d` or `D` is accepted exactly when it
is a numeral `ParseInt` accepts followed by `d`, `D`, or `Dd`: the two trims let one `D`
stand before a final `d`. -/
theorem parseTimeDuration_day_iff {s : String} (hs : hasSuffix s "d" || hasSuffix s "D") :
    (∃ d, Config.parseTimeDuration s = .ok d) ↔
      ∃ t n, parseInt t = .ok n ∧ (s = t ++ "d" ∨ s = t ++ "D" ∨ s = t ++ "Dd") := by
  rw [parseTimeDuration_of_day hs]
  constructor
  · rintro ⟨d, hd⟩
    cases hp : parseInt (trimSuffix (trimSuffix s "d") "D") with
    | error e => simp only [hp, Except.map, reduceCtorEq] at hd
    | ok n => exact ⟨_, n, hp, eq_trimSuffix_append hs⟩
  · rintro ⟨t, n, hn, hst⟩
    exact ⟨n * day, by rw [trimSuffix_trimSuffix_of_parseInt hn hst, hn]; rfl⟩

/-- Seven days written with the capital suffix. -/
theorem parseTimeDuration_seven_days :
    (hasSuffix "7D" "d" || hasSuffix "7D" "D") = true ∧
      ((∃ d, Config.parseTimeDuration "7D" = .ok d) ↔
        ∃ t n, parseInt t = .ok n ∧
          ("7D" = t ++ "d" ∨ "7D" = t ++ "D" ∨ "7D" = t ++ "Dd")) :=
  ⟨by decide, parseTimeDuration_day_iff (by decide)⟩

/-- `"5Dd"` is accepted as five days, though the only way to read it as a numeral and one
day suffix, `"5D"` and `d`, is a numeral `ParseInt` rejects. -/
theorem parseTimeDuration_Dd :
    Config.parseTimeDuration "5Dd" = .ok (BitVec.ofNat 64 5 * day) ∧
      parseInt "5D" = .error (.numError "ParseInt" "5D" .errSyntax) :=
  ⟨by decide, by decide⟩

end Logit
