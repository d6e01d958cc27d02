import Mathlib.Data.List.Basic

/-!
# Log Arguments: `squeezeAttr` and `newAttrs`

`Logger.With`, `Logger.newRecord` and through it every log method turn their `args ...any`
into `slog.Attr`s with `newAttrs`, a loop that calls `squeezeAttr` while arguments remain.
Each call takes one `slog.Attr`, or a `string` key and the value after it; a `string` with
nothing after it, and any other value, become an attribute keyed `!BADKEY`.

`squeezeAttr` indexes and slices its argument list, which panics in Go when out of range;
here those reads return `Option`, and `none` is the panic. The loop runs on fuel, and `none`
is also a loop that outlasts it.

The loop is specified by `chunks`, which cuts an argument list into the pieces the loop's
iterations consume, each named by the branch of `squeezeAttr` that takes it. The documented
grammar is `(Attr | string any)*`, whose tokens are `Token`s.

## Main results

* `squeezeAttr_chunks`: one call of `squeezeAttr` consumes exactly the first chunk.
* `newAttrsLoop_eq`: with fuel at least the number of arguments, the loop never panics,
  finishes, and returns the attribute of every chunk.
* `newAttrs_tokens`: on a token list the result is the tokens' attributes, and otherwise
  it has an attribute keyed `!BADKEY`.
* `chunks_append`, `newAttrs_append`: parsing distributes over `++` when the first list does
  not end with a lone key.
-/

namespace Logit

variable {O : Type}

/-- A Go `any` handed to a logging call: an `slog.Attr` (its key and value), a `string`, or a
value of any other type, drawn from `O`. -/
inductive Any (O : Type)
  | attr (key : String) (value : Any O)
  | string (s : String)
  | other (v : O)
  deriving DecidableEq, Repr

/-- `slog.Attr`; the value is kept as the Go value it was made from (`slog.AnyValue`). -/
structure Attr (O : Type) where
  key : String
  value : Any O
  deriving DecidableEq, Repr

/-- `keyBad`. -/
def keyBad : String := "!BADKEY"

/-- `slog.Any(key, value)`. -/
def slogAny (key : String) (value : Any O) : Attr O := ⟨key, value⟩

/-- `slog.String(key, value)`. -/
def slogString (key value : String) : Attr O := ⟨key, .string value⟩

/-- `args[i:]`: Go panics (`none`) when `i` is past the length. -/
def sliceFrom {α : Type} (args : List α) (i : Nat) : Option (List α) :=
  if i ≤ args.length then some (args.drop i) else none

/-- `l.squeezeAttr(args)`; `none` is an index or slice out of range. -/
def squeezeAttr (args : List (Any O)) : Option (Attr O × List (Any O)) := do
  match ← args[0]? with
  | .attr key value => return (⟨key, value⟩, ← sliceFrom args 1)
  | .string arg =>
    if args.length ≤ 1 then return (slogString keyBad arg, [])
    return (slogAny arg (← args[1]?), ← sliceFrom args 2)
  | .other v => return (slogAny keyBad (.other v), ← sliceFrom args 1)

/-- The loop `for len(args) > 0` of `newAttrs`, on `fuel` iterations. -/
def newAttrsLoop : Nat → List (Any O) → List (Attr O) → Option (List (Attr O))
  | _, [], attrs => some attrs
  | 0, _ :: _, _ => none
  | fuel + 1, a :: args, attrs => do
    let (attr, rest) ← squeezeAttr (a :: args)
    newAttrsLoop fuel rest (attrs ++ [attr])

/-- `l.newAttrs(args)`: every iteration consumes an argument, so `len(args)` is fuel enough. -/
def newAttrs (args : List (Any O)) : Option (List (Attr O)) :=
  newAttrsLoop args.length args []

/-! ### Chunks: what one iteration consumes -/

/-- What one iteration of the loop consumes, by the branch of `squeezeAttr` it takes. -/
inductive Chunk (O : Type)
  /-- an `slog.Attr` -/
  | attr (key : String) (value : Any O)
  /-- a `string` key and the value after it -/
  | pair (key : String) (value : Any O)
  /-- a `string` with nothing after it -/
  | lone (s : String)
  /-- any other value where a key is expected -/
  | bad (v : O)
  deriving DecidableEq, Repr

namespace Chunk

/-- The arguments a chunk consumes. -/
def args : Chunk O → List (Any O)
  | .attr key value => [.attr key value]
  | .pair key value => [.string key, value]
  | .lone s => [.string s]
  | .bad v => [.other v]

/-- The attribute `squeezeAttr` makes of a chunk. -/
def toAttr : Chunk O → Attr O
  | .attr key value => ⟨key, value⟩
  | .pair key value => slogAny key value
  | .lone s => slogString keyBad s
  | .bad v => slogAny keyBad (.other v)

end Chunk

/-- The chunks of an argument list, in the order the loop consumes them. -/
def chunks : List (Any O) → List (Chunk O)
  | [] => []
  | .attr key value :: args => .attr key value :: chunks args
  | [.string s] => [.lone s]
  | .string key :: value :: args => .pair key value :: chunks args
  | .other v :: args => .bad v :: chunks args

/-- The chunks put back together are the arguments. -/
theorem flatMap_chunks (args : List (Any O)) : (chunks args).flatMap Chunk.args = args := by
  induction args using chunks.induct <;> simp_all [chunks, Chunk.args]

/-- **The step.** On a nonempty list, `squeezeAttr` does not panic, returns the attribute of
the first chunk, and leaves a shorter list made of the remaining chunks. -/
theorem squeezeAttr_chunks {args : List (Any O)} (h : args ≠ []) :
    ∃ c rest, chunks args = c :: chunks rest ∧ squeezeAttr args = some (c.toAttr, rest) ∧
      rest.length < args.length := by
  match args, h with
  | .attr key value :: args, _ =>
    exact ⟨.attr key value, args, rfl, by simp [squeezeAttr, sliceFrom, Chunk.toAttr], by simp⟩
  | [.string s], _ => exact ⟨.lone s, [], rfl, by simp [squeezeAttr, Chunk.toAttr], by simp⟩
  | .string key :: value :: args, _ =>
    exact ⟨.pair key value, args, rfl, by simp [squeezeAttr, sliceFrom, Chunk.toAttr],
      by simp only [List.length_cons]; omega⟩
  | .other v :: args, _ =>
    exact ⟨.bad v, args, rfl, by simp [squeezeAttr, sliceFrom, Chunk.toAttr], by simp⟩

/-- **The loop.** With fuel at least the number of arguments, the loop never panics and
returns the attributes of all chunks after those already collected. -/
theorem newAttrsLoop_eq (fuel : Nat) (args : List (Any O)) (attrs : List (Attr O))
    (hfuel : args.length ≤ fuel) :
    newAttrsLoop fuel args attrs = some (attrs ++ (chunks args).map Chunk.toAttr) := by
  induction fuel generalizing args attrs with
  | zero =>
    rw [List.length_eq_zero.mp (Nat.le_zero.mp hfuel)]
    simp [newAttrsLoop, chunks]
  | succ fuel ih =>
    cases args with
    | nil => simp [newAttrsLoop, chunks]
    | cons a args =>
      obtain ⟨c, rest, hc, hsq, hlt⟩ := squeezeAttr_chunks (List.cons_ne_nil a args)
      rw [newAttrsLoop, hsq, hc]
      simp only [Option.bind_eq_bind, Option.some_bind, List.map_cons]
      rw [ih rest _ (by simp only [List.length_cons] at hfuel hlt; omega), List.append_assoc,
        List.singleton_append]

/-- `newAttrs` returns the attribute of every chunk of its arguments. -/
theorem newAttrs_eq (args : List (Any O)) :
    newAttrs args = some ((chunks args).map Chunk.toAttr) := by
  simp [newAttrs, newAttrsLoop_eq]

/-! ### The documented grammar -/

/-- A token of the grammar `(Attr | string any)*`. -/
inductive Token (O : Type)
  /-- an `slog.Attr` -/
  | attr (key : String) (value : Any O)
  /-- a `string` key followed by any value -/
  | pair (key : String) (value : Any O)
  deriving DecidableEq, Repr

namespace Token

/-- The arguments that spell a token. -/
def args : Token O → List (Any O)
  | .attr key value => [.attr key value]
  | .pair key value => [.string key, value]

/-- The chunk the loop reads a token as. -/
def toChunk : Token O → Chunk O
  | .attr key value => .attr key value
  | .pair key value => .pair key value

/-- A token's attribute: the `slog.Attr` itself, or `slog.Any(key, value)`. -/
def toAttr (t : Token O) : Attr O := t.toChunk.toAttr

/-- The key a token supplies. -/
def key (t : Token O) : String := t.toAttr.key

end Token

/-- `args` is the concatenation of the tokens `toks`. -/
def Tokens (args : List (Any O)) (toks : List (Token O)) : Prop :=
  args = toks.flatMap Token.args

/-- The chunks of a token list are its tokens. -/
theorem chunks_flatMap_args (toks : List (Token O)) :
    chunks (toks.flatMap Token.args) = toks.map Token.toChunk := by
  induction toks with
  | nil => rfl
  | cons t toks ih =>
    rw [List.flatMap_cons]
    cases t <;> exact congrArg (_ :: ·) ih

/-- An argument list is a token list exactly when it has no lone key and no bad value. -/
theorem exists_tokens_iff (args : List (Any O)) :
    (∃ toks, Tokens args toks) ↔
      (∀ s, Chunk.lone s ∉ chunks args) ∧ ∀ v, Chunk.bad v ∉ chunks args := by
  constructor
  · rintro ⟨toks, rfl⟩
    rw [chunks_flatMap_args]
    refine ⟨fun s hs => ?_, fun v hv => ?_⟩ <;>
      obtain ⟨t, -, ht⟩ := List.mem_map.mp ‹_› <;> cases t <;> cases ht
  · induction args using chunks.induct with
    | case1 => exact fun _ => ⟨[], rfl⟩
    | case2 key value args ih =>
      rintro ⟨hl, hb⟩
      obtain ⟨toks, htoks⟩ := ih ⟨fun s hs => hl s (by simp [chunks, hs]),
        fun v hv => hb v (by simp [chunks, hv])⟩
      exact ⟨.attr key value :: toks, by
        unfold Tokens at htoks ⊢; rw [List.flatMap_cons, ← htoks]; rfl⟩
    | case3 s => rintro ⟨hl, -⟩; exact absurd (by simp [chunks]) (hl s)
    | case4 key value args ih =>
      rintro ⟨hl, hb⟩
      obtain ⟨toks, htoks⟩ := ih ⟨fun s hs => hl s (by simp [chunks, hs]),
        fun v hv => hb v (by simp [chunks, hv])⟩
      exact ⟨.pair key value :: toks, by
        unfold Tokens at htoks ⊢; rw [List.flatMap_cons, ← htoks]; rfl⟩
    | case5 v args ih => rintro ⟨-, hb⟩; exact absurd (by simp [chunks]) (hb v)

/-- **Parsing the arguments.** For any argument list and fuel at least its length, the
loop of `newAttrs` finishes without a panic; on a concatenation of tokens it returns the
tokens' attributes in order; and when no token supplies the key `!BADKEY`, its result holds
an attribute keyed `!BADKEY` exactly when the list is not a concatenation of tokens. -/
theorem newAttrs_tokens (args : List (Any O)) (fuel : Nat) (hfuel : args.length ≤ fuel) :
    ∃ attrs, newAttrs args = some attrs ∧ newAttrsLoop fuel args [] = some attrs ∧
      (∀ toks, Tokens args toks → attrs = toks.map Token.toAttr) ∧
      ((∀ toks, Tokens args toks → ∀ t ∈ toks, t.key ≠ keyBad) →
        ((∃ a ∈ attrs, a.key = keyBad) ↔ ¬∃ toks, Tokens args toks)) := by
  have hmap : ∀ toks, Tokens args toks →
      (chunks args).map Chunk.toAttr = toks.map Token.toAttr := by
    rintro toks rfl
    rw [chunks_flatMap_args, List.map_map]
    rfl
  refine ⟨_, newAttrs_eq args, (newAttrsLoop_eq fuel args [] hfuel).trans (by rw [List.nil_append]),
    hmap, fun hkeys => ⟨?_, ?_⟩⟩
  · rintro ⟨a, ha, hbad⟩ ⟨toks, htoks⟩
    rw [hmap toks htoks] at ha
    obtain ⟨t, ht, rfl⟩ := List.mem_map.mp ha
    exact hkeys toks htoks t ht hbad
  · intro hno
    rw [exists_tokens_iff, not_and_or] at hno
    simp only [not_forall, not_not] at hno
    rcases hno with ⟨s, hs⟩ | ⟨v, hv⟩
    · exact ⟨_, List.mem_map_of_mem _ hs, rfl⟩
    · exact ⟨_, List.mem_map_of_mem _ hv, rfl⟩

/-- A key and its value: one token, read as one attribute. -/
theorem newAttrs_tokens_pair :
    [Any.string "k", Any.other (1 : Nat)].length ≤ 2 ∧
      ∃ attrs, newAttrs [Any.string "k", Any.other (1 : Nat)] = some attrs ∧
        newAttrsLoop 2 [Any.string "k", Any.other (1 : Nat)] [] = some attrs ∧
        (∀ toks, Tokens [Any.string "k", Any.other (1 : Nat)] toks →
          attrs = toks.map Token.toAttr) ∧
        ((∀ toks, Tokens [Any.string "k", Any.other (1 : Nat)] toks →
            ∀ t ∈ toks, t.key ≠ keyBad) →
          ((∃ a ∈ attrs, a.key = keyBad) ↔
            ¬∃ toks, Tokens [Any.string "k", Any.other (1 : Nat)] toks)) :=
  ⟨by decide, newAttrs_tokens _ 2 (by decide)⟩

/-! ### Splitting an argument list -/

/-- Chunking distributes over `++` when the first list has no lone key: a lone key is the
one chunk that depends on what follows it. -/
theorem chunks_append {a : List (Any O)} (b : List (Any O))
    (ha : ∀ s, Chunk.lone s ∉ chunks a) :
    chunks (a ++ b) = chunks a ++ chunks b := by
  induction a using chunks.induct with
  | case1 => rfl
  | case2 key value a ih => simp_all [chunks]
  | case3 s => exact absurd (by simp [chunks]) (ha s)
  | case4 key value a ih => simp_all [chunks]
  | case5 v a ih => simp_all [chunks]

/-- **`newAttrs` over `++`.** When parsing `a` never meets a string in key position with
nothing after it, parsing `a ++ b` gives the attributes of `a` followed by those of `b`. -/
theorem newAttrs_append (a b : List (Any O)) (ha : ∀ s, Chunk.lone s ∉ chunks a) :
    newAttrs (a ++ b) = (do let x ← newAttrs a; let y ← newAttrs b; pure (x ++ y)) := by
  simp [newAttrs_eq, chunks_append b ha]

/-- A pair followed by a lone key. -/
theorem newAttrs_append_pair :
    (∀ s, Chunk.lone s ∉ chunks [Any.string "k", Any.other (1 : Nat)]) ∧
      newAttrs ([Any.string "k", Any.other (1 : Nat)] ++ [Any.string "j"]) =
        (do
          let x ← newAttrs [Any.string "k", Any.other (1 : Nat)]
          let y ← newAttrs [Any.string "j"]
          pure (x ++ y)) :=
  ⟨fun s h => by simp [chunks] at h, newAttrs_append _ _ fun s h => by simp [chunks] at h⟩

end Logit
