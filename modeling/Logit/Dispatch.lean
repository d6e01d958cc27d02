import Mathlib.Data.List.Basic

/-!
# The Per-Level Dispatch Tables

This module models `core.go`. A `core` holds the logger's level, its caller flag, and two
tables, `encoders` and `writers`, each with one entry per severity slot (debug, info, warn,
error) behind a `sync.RWMutex`. `of` resolves a `Level` to an entry by the chain of
comparisons in the source: every level other than `DebugLevel`, `InfoLevel` and `WarnLevel`
falls through to the error entry. The setters write every entry (`SetEncoder`, `SetWriter`)
or one.

The two tables differ only in what they store, so both are a `LevelTable`, and the ten
setters are the two constructors of `Setter`. Each setter holds the write lock for its whole
body and `of` holds the read lock, so every interleaving of calls is a sequence of whole
calls: a run is a list of `CoreCall`s applied in order.

`Level` and its constants are declared outside `src/`, so they are the parameters `Levels`:
nothing below assumes the three constants are distinct.

## Main results

* `LevelTable.get_run`: after any run, an entry holds the value of the latest setter that
  writes it, or its initial value when none does.
* `Core.run_encoders`, `Core.run_writers`: each table of a core sees exactly the setters
  addressed to it.
* `of_run_newCore`: from `newCore e₀ w₀`, `of` resolves both tables through the same
  `slot`, to the latest write of that slot or to `e₀` and `w₀`.
* `level_run_newCore`: `Level()` of a fresh core panics until `SetLevel` has been called.
* `Core.run_interleaving`: two goroutines that never write the same slot or atomic value
  leave a core in the same state under every schedule of their calls.
-/

namespace Logit

/-- The four entries of a table. -/
inductive Slot
  | debug
  | info
  | warn
  | error
  deriving DecidableEq, Repr

/-- The constants of the (external) `Level` type that `of` compares against. -/
structure Levels (Level : Type) where
  debugLevel : Level
  infoLevel : Level
  warnLevel : Level

variable {Level : Type}

/-- The entry `of` reads for `level`: the error entry for every level not named before. -/
def Levels.slot [DecidableEq Level] (L : Levels Level) (level : Level) : Slot :=
  if level = L.debugLevel then .debug
  else if level = L.infoLevel then .info
  else if level = L.warnLevel then .warn
  else .error

/-- The shape shared by `encoders` and `writers`: one value per slot. The lock is not
state: it only makes each call atomic. -/
structure LevelTable (α : Type) where
  debug : α
  info : α
  warn : α
  error : α
  deriving DecidableEq, Repr

namespace LevelTable

variable {α : Type}

/-- The value in slot `s`. -/
def get (t : LevelTable α) : Slot → α
  | .debug => t.debug
  | .info => t.info
  | .warn => t.warn
  | .error => t.error

/-- A table with `x` in every slot: the body of `newEncoders` and `newWriters`. -/
def fill (x : α) : LevelTable α := ⟨x, x, x, x⟩

/-- `es.of(level)` and `ws.of(level)`, by the source's chain of comparisons. -/
def of [DecidableEq Level] (L : Levels Level) (t : LevelTable α) (level : Level) : α :=
  if level = L.debugLevel then t.debug
  else if level = L.infoLevel then t.info
  else if level = L.warnLevel then t.warn
  else t.error

/-- `of` reads the slot named by `Levels.slot`. -/
theorem of_eq_get [DecidableEq Level] (L : Levels Level) (t : LevelTable α) (level : Level) :
    t.of L level = t.get (L.slot level) := by
  unfold of Levels.slot
  split_ifs <;> rfl

/-- Writing `x` into slot `s` only. -/
def set (t : LevelTable α) : Slot → α → LevelTable α
  | .debug, x => { t with debug := x }
  | .info, x => { t with info := x }
  | .warn, x => { t with warn := x }
  | .error, x => { t with error := x }

/-- Every slot of a filled table holds the fill. -/
@[simp] theorem get_fill (x : α) (s : Slot) : (fill x).get s = x := by
  cases s <;> rfl

/-- Writing slot `s` changes slot `s` only. -/
theorem get_set (t : LevelTable α) (s s' : Slot) (x : α) :
    (t.set s x).get s' = if s' = s then x else t.get s' := by
  cases s <;> cases s' <;> rfl

end LevelTable

/-- A call of one of a table's five setters: `all` is `SetEncoder`/`SetWriter`, `one s` is
`SetDebugEncoder`, `SetInfoEncoder`, ... for the slot `s`. -/
inductive Setter (α : Type)
  | all (x : α)
  | one (s : Slot) (x : α)
  deriving DecidableEq, Repr

namespace Setter

variable {α : Type}

/-- The body of the setter, run under the write lock. -/
def apply : Setter α → LevelTable α → LevelTable α
  | .all x, _ => LevelTable.fill x
  | .one s x, t => t.set s x

/-- The value the setter writes into slot `s`, if it writes that slot. -/
def writes (s : Slot) : Setter α → Option α
  | .all x => some x
  | .one s' x => if s = s' then some x else none

/-- What one setter does to one slot. -/
theorem get_apply (op : Setter α) (t : LevelTable α) (s : Slot) :
    (op.apply t).get s = (op.writes s).getD (t.get s) := by
  cases op with
  | all x => simp [apply, writes]
  | one s' x => simp only [apply, writes, LevelTable.get_set]; split_ifs <;> rfl

end Setter

/-- The value of the latest setter of `ops` that writes slot `s`, or `x₀` if none does. -/
def latest {α : Type} (s : Slot) (ops : List (Setter α)) (x₀ : α) : α :=
  ((ops.filterMap (Setter.writes s)).getLast?).getD x₀

/-- With no setter, a slot keeps its initial value. -/
theorem latest_nil {α : Type} (s : Slot) (x₀ : α) : latest s [] x₀ = x₀ := rfl

/-- The first setter of a run becomes the initial value of the rest. -/
theorem latest_cons {α : Type} (s : Slot) (op : Setter α) (ops : List (Setter α)) (x₀ : α) :
    latest s (op :: ops) x₀ = latest s ops ((op.writes s).getD x₀) := by
  cases h : op.writes s <;> simp [latest, List.filterMap_cons, h, List.getLast?_cons]

namespace LevelTable

variable {α : Type}

/-- A table after a run of setters, each applied whole. -/
def run (t : LevelTable α) (ops : List (Setter α)) : LevelTable α :=
  ops.foldl (fun t op => op.apply t) t

/-- **Last write wins**, slot by slot, over any run. -/
theorem get_run (t : LevelTable α) (ops : List (Setter α)) (s : Slot) :
    (t.run ops).get s = latest s ops (t.get s) := by
  induction ops generalizing t with
  | nil => rfl
  | cons op ops ih => rw [latest_cons, ← Setter.get_apply, ← ih]; rfl

end LevelTable

/-- `newEncoders(encoder)`. -/
def newEncoders {Encoder : Type} (encoder : Encoder) : LevelTable Encoder :=
  LevelTable.fill encoder

/-- `newWriters(writer)`. -/
def newWriters {Writer : Type} (writer : Writer) : LevelTable Writer :=
  LevelTable.fill writer

/-- `core`: `level` and `needCaller` are `atomic.Value`s, `none` while nothing was stored. -/
@[ext] structure Core (Level Encoder Writer : Type) where
  level : Option Level
  needCaller : Option Bool
  encoders : LevelTable Encoder
  writers : LevelTable Writer

/-- One exported call on a core, or on one of its tables. -/
inductive CoreCall (Level Encoder Writer : Type)
  | setLevel (newLevel : Level)
  | setNeedCaller (needCaller : Bool)
  | encoders (op : Setter Encoder)
  | writers (op : Setter Writer)

variable {Encoder Writer : Type}

/-- `newCore(encoder, writer)`: the atomic values are left empty. -/
def newCore (encoder : Encoder) (writer : Writer) : Core Level Encoder Writer :=
  ⟨none, none, newEncoders encoder, newWriters writer⟩

namespace CoreCall

/-- The setter a call applies to `encoders`, if any. -/
def encoderSetter : CoreCall Level Encoder Writer → Option (Setter Encoder)
  | .encoders op => some op
  | _ => none

/-- The setter a call applies to `writers`, if any. -/
def writerSetter : CoreCall Level Encoder Writer → Option (Setter Writer)
  | .writers op => some op
  | _ => none

/-- The level a call stores, if it is `SetLevel`. -/
def levelSet : CoreCall Level Encoder Writer → Option Level
  | .setLevel l => some l
  | _ => none

/-- The flag a call stores, if it is `SetNeedCaller`. -/
def needCallerSet : CoreCall Level Encoder Writer → Option Bool
  | .setNeedCaller b => some b
  | _ => none

end CoreCall

namespace Core

/-- `c.Level()`: `Load().(Level)` panics (`none`) on an empty value. -/
def getLevel (c : Core Level Encoder Writer) : Option Level := c.level

/-- One call, applied whole. -/
def call (c : Core Level Encoder Writer) :
    CoreCall Level Encoder Writer → Core Level Encoder Writer
  | .setLevel l => { c with level := some l }
  | .setNeedCaller b => { c with needCaller := some b }
  | .encoders op => { c with encoders := op.apply c.encoders }
  | .writers op => { c with writers := op.apply c.writers }

/-- A core after a run of calls. -/
def run (c : Core Level Encoder Writer) (ops : List (CoreCall Level Encoder Writer)) :
    Core Level Encoder Writer :=
  ops.foldl call c

/-- A run is its first call, then the rest. -/
theorem run_cons (c : Core Level Encoder Writer) (op : CoreCall Level Encoder Writer) (ops) :
    c.run (op :: ops) = (c.call op).run ops := rfl

/-- The encoders of a core see exactly the calls addressed to them. -/
theorem run_encoders (c : Core Level Encoder Writer) (ops : List (CoreCall Level Encoder Writer)) :
    (c.run ops).encoders = c.encoders.run (ops.filterMap CoreCall.encoderSetter) := by
  induction ops generalizing c with
  | nil => rfl
  | cons op ops ih => cases op <;> simp [run_cons, ih, call, CoreCall.encoderSetter]; rfl

/-- The writers of a core see exactly the calls addressed to them. -/
theorem run_writers (c : Core Level Encoder Writer) (ops : List (CoreCall Level Encoder Writer)) :
    (c.run ops).writers = c.writers.run (ops.filterMap CoreCall.writerSetter) := by
  induction ops generalizing c with
  | nil => rfl
  | cons op ops ih => cases op <;> simp [run_cons, ih, call, CoreCall.writerSetter]; rfl

/-- The level of a core is the latest `SetLevel`, or empty. -/
theorem run_level (c : Core Level Encoder Writer) (ops : List (CoreCall Level Encoder Writer)) :
    (c.run ops).level = ((ops.filterMap CoreCall.levelSet).getLast?).or c.level := by
  induction ops generalizing c with
  | nil => simp [run]
  | cons op ops ih =>
    cases op with
    | setLevel l =>
      simp only [run_cons, ih, call, List.filterMap_cons, CoreCall.levelSet, List.getLast?_cons]
      cases (ops.filterMap CoreCall.levelSet).getLast? <;> rfl
    | _ => simp only [run_cons, ih, call, List.filterMap_cons, CoreCall.levelSet]

/-- The caller flag of a core is the latest `SetNeedCaller`, or empty. -/
theorem run_needCaller (c : Core Level Encoder Writer)
    (ops : List (CoreCall Level Encoder Writer)) :
    (c.run ops).needCaller = ((ops.filterMap CoreCall.needCallerSet).getLast?).or c.needCaller := by
  induction ops generalizing c with
  | nil => simp [run]
  | cons op ops ih =>
    cases op with
    | setNeedCaller b =>
      simp only [run_cons, ih, call, List.filterMap_cons, CoreCall.needCallerSet,
        List.getLast?_cons]
      cases (ops.filterMap CoreCall.needCallerSet).getLast? <;> rfl
    | _ => simp only [run_cons, ih, call, List.filterMap_cons, CoreCall.needCallerSet]

end Core

/-- **The dispatch tables over any run.** From `newCore e₀ w₀`, after any sequence of calls,
`encoders.of` and `writers.of` resolve every level through the same slot to the latest
setter that writes that slot, or to `e₀` and `w₀`. -/
theorem of_run_newCore [DecidableEq Level] (L : Levels Level) (e₀ : Encoder) (w₀ : Writer)
    (ops : List (CoreCall Level Encoder Writer)) (level : Level) :
    ((newCore e₀ w₀).run ops).encoders.of L level =
        latest (L.slot level) (ops.filterMap CoreCall.encoderSetter) e₀ ∧
      ((newCore e₀ w₀).run ops).writers.of L level =
        latest (L.slot level) (ops.filterMap CoreCall.writerSetter) w₀ := by
  refine ⟨?_, ?_⟩
  · rw [LevelTable.of_eq_get, Core.run_encoders, LevelTable.get_run]; simp [newCore, newEncoders]
  · rw [LevelTable.of_eq_get, Core.run_writers, LevelTable.get_run]; simp [newCore, newWriters]

/-- `Level()` of a core built by `newCore` panics unless the run called `SetLevel`, and
otherwise returns the latest level set. -/
theorem level_run_newCore (e₀ : Encoder) (w₀ : Writer)
    (ops : List (CoreCall Level Encoder Writer)) :
    ((newCore e₀ w₀).run ops).getLevel = (ops.filterMap CoreCall.levelSet).getLast? := by
  simp [Core.getLevel, Core.run_level, newCore]

/-! ### Concurrent callers

Each setter holds its table's write lock for its whole body and the atomic values are stored
whole, so two goroutines calling on one core produce a schedule: a merge of their two lists
of calls that keeps each goroutine's order. -/

/-- `zs` is a schedule of the calls `xs` of one goroutine and `ys` of another. -/
inductive Interleaving {β : Type} : List β → List β → List β → Prop
  | nil : Interleaving [] [] []
  | left {x : β} {xs ys zs : List β} :
      Interleaving xs ys zs → Interleaving (x :: xs) ys (x :: zs)
  | right {y : β} {xs ys zs : List β} :
      Interleaving xs ys zs → Interleaving xs (y :: ys) (y :: zs)

namespace Interleaving

variable {β γ : Type} {xs ys zs : List β}

/-- A schedule of two goroutines is one of them in either order. -/
theorem swap (h : Interleaving xs ys zs) : Interleaving ys xs zs := by
  induction h with
  | nil => exact .nil
  | left _ ih => exact ih.right
  | right _ ih => exact ih.left

/-- A schedule in which the first goroutine makes no call is the second one's calls. -/
theorem eq_of_nil_left (h : Interleaving [] ys zs) : zs = ys := by
  generalize hx : ([] : List β) = xs at h
  induction h with
  | nil => rfl
  | left _ _ => cases hx
  | right _ ih => rw [ih hx]

/-- The calls of one kind in a schedule are a schedule of each goroutine's calls of that
kind. -/
theorem filterMap (f : β → Option γ) (h : Interleaving xs ys zs) :
    Interleaving (xs.filterMap f) (ys.filterMap f) (zs.filterMap f) := by
  induction h with
  | nil => exact .nil
  | @left x _ _ _ _ ih =>
    rw [List.filterMap_cons, List.filterMap_cons]
    cases f x
    · exact ih
    · exact ih.left
  | @right y _ _ _ _ ih =>
    rw [List.filterMap_cons, List.filterMap_cons]
    cases f y
    · exact ih
    · exact ih.right

/-- When only one goroutine makes calls of a kind, every schedule makes them in the order of
running one goroutine after the other. -/
theorem filterMap_eq_append (f : β → Option γ) (h : Interleaving xs ys zs)
    (hf : xs.filterMap f = [] ∨ ys.filterMap f = []) :
    zs.filterMap f = (xs ++ ys).filterMap f := by
  have h' := h.filterMap f
  rw [List.filterMap_append]
  rcases hf with hx | hy
  · rw [hx] at h' ⊢
    exact h'.eq_of_nil_left
  · rw [hy] at h' ⊢
    rw [h'.swap.eq_of_nil_left, List.append_nil]

end Interleaving

/-- No slot is written by setters of both lists. -/
def Setter.Disjoint {α : Type} (xs ys : List (Setter α)) : Prop :=
  ∀ s, xs.filterMap (Setter.writes s) = [] ∨ ys.filterMap (Setter.writes s) = []

namespace LevelTable

variable {α : Type}

/-- Tables that agree on every slot are equal. -/
theorem ext_get {t t' : LevelTable α} (h : ∀ s, t.get s = t'.get s) : t = t' := by
  cases t
  cases t'
  simp only [mk.injEq]
  exact ⟨h .debug, h .info, h .warn, h .error⟩

/-- Every schedule of two lists of setters that write no slot in common leaves a table as
running one list after the other. -/
theorem run_eq_of_interleaving {xs ys zs : List (Setter α)} (h : Interleaving xs ys zs)
    (hd : Setter.Disjoint xs ys) (t : LevelTable α) : t.run zs = t.run (xs ++ ys) :=
  ext_get fun s => by simp only [get_run, latest, h.filterMap_eq_append _ (hd s)]

end LevelTable

/-- The calls of two goroutines write no slot of either table in common, and at most one of
them stores each atomic value. -/
def CoreCall.Disjoint (xs ys : List (CoreCall Level Encoder Writer)) : Prop :=
  Setter.Disjoint (xs.filterMap CoreCall.encoderSetter) (ys.filterMap CoreCall.encoderSetter) ∧
    Setter.Disjoint (xs.filterMap CoreCall.writerSetter) (ys.filterMap CoreCall.writerSetter) ∧
    (xs.filterMap CoreCall.levelSet = [] ∨ ys.filterMap CoreCall.levelSet = []) ∧
    (xs.filterMap CoreCall.needCallerSet = [] ∨ ys.filterMap CoreCall.needCallerSet = [])

/-- **Schedules of two goroutines.** When two goroutines never write the same slot of a table
and never both store the same atomic value, every schedule of their calls leaves the core as
running one goroutine after the other: no update is lost and none depends on the schedule. -/
theorem Core.run_interleaving {xs ys zs : List (CoreCall Level Encoder Writer)}
    (h : Interleaving xs ys zs) (hd : CoreCall.Disjoint xs ys) (c : Core Level Encoder Writer) :
    c.run zs = c.run (xs ++ ys) := by
  obtain ⟨he, hw, hl, hn⟩ := hd
  apply Core.ext
  · rw [run_level, run_level, h.filterMap_eq_append _ hl]
  · rw [run_needCaller, run_needCaller, h.filterMap_eq_append _ hn]
  · rw [run_encoders, run_encoders, List.filterMap_append]
    exact LevelTable.run_eq_of_interleaving (h.filterMap _) he _
  · rw [run_writers, run_writers, List.filterMap_append]
    exact LevelTable.run_eq_of_interleaving (h.filterMap _) hw _

/-- One goroutine sets the debug encoder while another sets every writer and the level. -/
theorem Core.run_interleaving_debug_encoder :
    Interleaving ([.encoders (.one .debug "json")] : List (CoreCall Nat String String))
        [.writers (.all "stderr"), .setLevel 2]
        [.writers (.all "stderr"), .encoders (.one .debug "json"), .setLevel 2] ∧
      CoreCall.Disjoint ([.encoders (.one .debug "json")] : List (CoreCall Nat String String))
        [.writers (.all "stderr"), .setLevel 2] ∧
      (newCore "text" "stdout" : Core Nat String String).run
          [.writers (.all "stderr"), .encoders (.one .debug "json"), .setLevel 2] =
        (newCore "text" "stdout" : Core Nat String String).run
          ([.encoders (.one .debug "json")] ++ [.writers (.all "stderr"), .setLevel 2]) :=
  have h : Interleaving ([.encoders (.one .debug "json")] : List (CoreCall Nat String String))
      [.writers (.all "stderr"), .setLevel 2]
      [.writers (.all "stderr"), .encoders (.one .debug "json"), .setLevel 2] :=
    .right (.left (.right .nil))
  have hd : CoreCall.Disjoint ([.encoders (.one .debug "json")] : List (CoreCall Nat String String))
      [.writers (.all "stderr"), .setLevel 2] :=
    ⟨fun s => by cases s <;> decide, fun s => by cases s <;> decide, by decide, by decide⟩
  ⟨h, hd, Core.run_interleaving h hd _⟩

end Logit
