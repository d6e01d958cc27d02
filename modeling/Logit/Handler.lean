import Logit.Config
import Logit.Filepath

/-!
# Building a Handler: `newFile`, `newWriter` and `NewHandler`

`Config.NewHandler` builds the writer a configuration describes and hands it to the handler
registered under `Config.Handler`. On the way it may open the log file (`newFile`) and start
an auto-sync goroutine (`newWriter`). Both outlive the call, so the model runs in `Setup`,
an error monad over a `World` that records the open files, the running sync tasks and the
registered handler names: an error keeps the `World` as it was when the error was raised.
What is at a path, whether a directory can be made there and whether a file opens are the file
system's answers, `Os`; `os.MkdirAll` makes the parent first, as Go's does, so its error names
the ancestor it could not make.

`file.New`, `defaults.OpenFile` and the handler registry live in packages not under `src/`;
they are modelled from the spec and the handler tests: an open either fails having opened
nothing or opens one file, and an unregistered handler name is an error.

## Main results

* `mkdirAllLoop_eq_error`: an error of `os.MkdirAll` names a prefix of the directory at which
  the file system said no.
* `newFile_run`: `newFile` fails leaving the world as it was, or opens the configured path.
* `newWriter_error`: a failed `newWriter` may leave the log file open, never a goroutine.
* `newWriter_ok_iff`: the configurations `newWriter` accepts, block by block.
* `newHandler_ok_iff`: `NewHandler` succeeds exactly when `newWriter` accepts the
  configuration and the handler name is registered.
* `newHandler_error_leaves`: what a failed `NewHandler` may leave behind, for every
  configuration and world: the log file when the target is `file`, and a sync goroutine
  only when the handler name is rejected.
* `newHandler_newDefaultConfig`: the default configuration builds the `text` handler on
  standard output and starts one 30-second sync goroutine.
* `newHandler_leaks`: a failed `NewHandler` can leave the log file open (an invalid mode)
  and a sync goroutine running (an unknown handler name).
* `newWriter_zero_autoSync`: an `AutoSync` of `"0s"` starts a sync goroutine with period 0.
-/

namespace Logit

/-- `file.Option`: a setting of a rotating file. -/
inductive FileOption
  | mode (mode : Nat)
  | dirMode (mode : Nat)
  | timeFormat (format : String)
  | maxSize (size : Nat)
  | maxAge (age : Duration)
  | maxBackups (n : Int)
  deriving DecidableEq, Repr

/-- The writers `newWriter` builds. -/
inductive Writer
  /-- `os.Stdout` -/
  | stdout
  /-- `os.Stderr` -/
  | stderr
  /-- the `*os.File` of `defaults.OpenFile` -/
  | osFile (path : String)
  /-- the rotating file of `file.New` -/
  | rotateFile (path : String) (opts : List FileOption)
  /-- `writer.Wrap(w)` -/
  | wrap (w : Writer)
  /-- `writer.Buffer(w, size)` -/
  | buffer (w : Writer) (size : Nat)
  /-- `writer.Batch(w, size)` -/
  | batch (w : Writer) (size : Nat)
  deriving DecidableEq, Repr

/-- What a sync goroutine syncs: a writer of `newWriter`, or a logger. -/
inductive SyncTarget
  | writer (w : Writer)
  | logger
  deriving DecidableEq, Repr

/-- A goroutine that sleeps `period`, syncs its target, and loops for ever. -/
structure SyncTask where
  target : SyncTarget
  period : Duration
  deriving DecidableEq, Repr

/-- What outlives a call: the open files, the running sync goroutines, and the handler names
registered in `newHandlers`. -/
structure World where
  openFiles : List String
  syncTasks : List SyncTask
  handlers : List String
  deriving DecidableEq, Repr

/-- `w` with the file `path` open. -/
def World.addFile (w : World) (path : String) : World :=
  { w with openFiles := w.openFiles ++ [path] }

/-- `w` with the goroutine `t` running. -/
def World.addTask (w : World) (t : SyncTask) : World :=
  { w with syncTasks := w.syncTasks ++ [t] }

/-- The file system's answers, which do not change during a call: what `os.Stat` finds at a
path (`none` when it fails, `some true` for a directory, `some false` for another file),
whether `os.Mkdir` makes a directory there, and whether a file there opens. -/
structure Os where
  stat : String → Option Bool
  canMkdir : String → Bool
  canOpen : String → Bool

/-- A file system with nothing in it yet, which lets every directory be made and every file
be opened. -/
def Os.permissive : Os := ⟨fun _ => none, fun _ => true, fun _ => true⟩

/-- A call that can fail and that acts on the `World`. -/
abbrev Setup := ExceptT GoError (StateM World)

/-- A pure result inside `Setup`. -/
def liftExcept {α : Type} (e : Except GoError α) : Setup α := ExceptT.mk (pure e)

/-- A sequence runs its first step, then the second from the state the first left, unless the
first failed. -/
theorem Setup.run_bind {α β : Type} (x : Setup α) (f : α → Setup β) (w : World) :
    (x >>= f).run.run w = match x.run.run w with
      | (.ok a, w') => (f a).run.run w'
      | (.error e, w') => (.error e, w') := by
  simp only [ExceptT.run_bind, StateT.run_bind]
  rcases x.run.run w with ⟨_ | _, _⟩ <;> rfl

/-- A failed sequence failed in its first step, or in its second after the first. -/
theorem Setup.error_of_bind {α β : Type} {x : Setup α} {f : α → Setup β} {w w' : World}
    {e : GoError} (h : (x >>= f).run.run w = (.error e, w')) :
    x.run.run w = (.error e, w') ∨
      ∃ a w₁, x.run.run w = (.ok a, w₁) ∧ (f a).run.run w₁ = (.error e, w') := by
  rw [Setup.run_bind] at h
  rcases hx : x.run.run w with ⟨_ | a, w₁⟩ <;> rw [hx] at h <;> dsimp only at h
  · cases h
    exact Or.inl rfl
  · exact Or.inr ⟨a, w₁, rfl, h⟩

/-- A successful sequence succeeded in both steps. -/
theorem Setup.ok_of_bind {α β : Type} {x : Setup α} {f : α → Setup β} {w w' : World} {b : β}
    (h : (x >>= f).run.run w = (.ok b, w')) :
    ∃ a w₁, x.run.run w = (.ok a, w₁) ∧ (f a).run.run w₁ = (.ok b, w') := by
  rw [Setup.run_bind] at h
  rcases hx : x.run.run w with ⟨_ | a, w₁⟩ <;> rw [hx] at h <;> dsimp only at h
  · cases h
  · exact ⟨a, w₁, rfl, h⟩

/-- Mapping the result of a step leaves its state alone. -/
theorem Setup.run_map {α β : Type} (f : α → β) (x : Setup α) (w : World) :
    (f <$> x).run.run w = ((x.run.run w).1.map f, (x.run.run w).2) := by
  simp only [ExceptT.run_map, StateT.run_map]
  rfl

/-- A pure result leaves the state alone. -/
@[simp] theorem liftExcept_run {α : Type} (e : Except GoError α) (w : World) :
    (liftExcept e).run.run w = (e, w) := rfl

/-- The parent `os.MkdirAll` makes first, `path[:i]`: trailing separators are skipped, then
the last element, and `i` is the separator before it (`0` when there is none). -/
def mkdirAllParent (path : List Char) : List Char :=
  ((path.reverse.dropWhile (· = '/')).dropWhile (· ≠ '/')).tail.reverse

/-- `os.MkdirAll(path, perm)` on Unix, with `fuel` for its recursion: a directory already
there is success and another file an error; otherwise the parent, when it is not empty, is
made first, and then the path itself. The file system does not change during the call, so
the `Lstat` after a failed `Mkdir` finds nothing, as `Stat` did, and is left out. -/
def mkdirAllLoop (os : Os) : Nat → List Char → Except GoError Unit
  | 0, _ => .ok ()
  | fuel + 1, path =>
    match os.stat ⟨path⟩ with
    | some true => .ok ()
    | some false => .error (.pathError "mkdir" ⟨path⟩)
    | none =>
      let parent : Except GoError Unit :=
        if mkdirAllParent path = [] then .ok () else mkdirAllLoop os fuel (mkdirAllParent path)
      parent >>= fun _ =>
        if os.canMkdir ⟨path⟩ then .ok () else .error (.pathError "mkdir" ⟨path⟩)

/-- `os.MkdirAll(dir, perm)`: each parent is shorter than its path, so the length of `dir`
and one more is fuel enough. -/
def mkdirAll (os : Os) (dir : String) : Setup Unit :=
  liftExcept (mkdirAllLoop os (dir.data.length + 1) dir.data)

/-- Modelled from the spec: `defaults.OpenFile(path, mode)` (the `defaults` package is not
under src/) opens `path` for appending, or fails having opened nothing. -/
def openFile (os : Os) (path : String) : Setup Writer :=
  if os.canOpen path then do
    modify (·.addFile path)
    return .osFile path
  else throw (.pathError "open" path)

/-- Modelled from the spec: `file.New(path, opts...)` (the `io/file` package is not under
src/) makes the missing parent directories and opens `path`, or fails having opened
nothing. -/
def fileNew (os : Os) (path : String) (opts : List FileOption) : Setup Writer :=
  (fun _ => .rotateFile path opts) <$> do
    mkdirAll os (filepathDir path)
    openFile os path

/-- `go func() { for { time.Sleep(period); ...Sync() } }()`. -/
def goSync (target : SyncTarget) (period : Duration) : Setup Unit :=
  modify (·.addTask ⟨target, period⟩)

/-- The options `newFile` builds for a rotating file, or the error of parsing one. -/
def Config.rotateOptions (c : Config) : Except GoError (List FileOption) := do
  let opts := [FileOption.mode c.file.mode, .dirMode c.file.dirMode, .timeFormat "20060102150405"]
  let opts ← if c.file.maxSize ≠ "" then
      (fun maxSize => opts ++ [.maxSize maxSize]) <$> parseByteSize c.file.maxSize
    else pure opts
  let opts ← if c.file.maxAge ≠ "" then
      (fun maxAge => opts ++ [.maxAge maxAge]) <$> Config.parseTimeDuration c.file.maxAge
    else pure opts
  return if 0 < c.file.maxBackups then opts ++ [.maxBackups c.file.maxBackups] else opts

/-- `c.newFile()`. The rotating branch builds its options and then calls `file.New` with the
path alone, as the source does. -/
def Config.newFile (os : Os) (c : Config) : Setup Writer :=
  if c.file.rotate then do
    let _opts ← liftExcept c.rotateOptions
    fileNew os c.file.path []
  else do
    mkdirAll os (filepathDir c.file.path)
    openFile os c.file.path

/-- The `switch c.Writer.Target` of `newWriter`. -/
def Config.targetWriter (os : Os) (c : Config) : Setup Writer :=
  match c.writer.target with
  | "stdout" => pure .stdout
  | "stderr" => pure .stderr
  | "file" => Writer.wrap <$> c.newFile os
  | target => throw (.targetInvalid target)

/-- The `switch c.Writer.Mode` of `newWriter`, around the writer `w`. -/
def Config.modeWriter (c : Config) (w : Writer) : Except GoError Writer :=
  match c.writer.mode with
  | "direct" => pure w
  | "buffer" => (fun bufferSize => Writer.buffer w bufferSize) <$> parseByteSize c.writer.bufferSize
  | "batch" => pure (.batch w c.writer.batchSize)
  | mode => throw (.modeInvalid mode)

/-- The `if c.Writer.AutoSync != ""` block of `newWriter`, syncing `w`. -/
def Config.startAutoSync (c : Config) (w : Writer) : Setup Unit :=
  if c.writer.autoSync ≠ "" then do
    let frequency ← liftExcept (parseDuration c.writer.autoSync)
    goSync (.writer w) frequency
  else pure ()

/-- `c.newWriter()`: its three blocks in order. -/
def Config.newWriter (os : Os) (c : Config) : Setup Writer := do
  let w ← c.targetWriter os
  let w ← liftExcept (c.modeWriter w)
  c.startAutoSync w
  return w

/-- `slog.HandlerOptions` as `newHandlerOptions` fills it; `level` is the configured level
name, which `parseLevel` (not under src/) reads. -/
structure HandlerOptions where
  level : String
  addSource : Bool
  deriving DecidableEq, Repr

/-- A handler: the registered name that built it, its writer and its options. -/
structure Handler where
  name : String
  writer : Writer
  opts : HandlerOptions
  deriving DecidableEq, Repr

/-- `c.newHandlerOptions()`. -/
def Config.newHandlerOptions (c : Config) : HandlerOptions :=
  ⟨c.level, c.withSource⟩

/-- Modelled from the spec: `newHandler(name, w, opts)` (`handler.go` is not under src/;
its tests are) builds the handler registered under `name` in `newHandlers`, and fails for a
name not registered. -/
def newHandler (name : String) (w : Writer) (opts : HandlerOptions) : Setup Handler := do
  if (← get).handlers.contains name then return ⟨name, w, opts⟩
  else throw (.handlerNotFound name)

/-- `c.NewHandler()`. -/
def Config.newHandler (os : Os) (c : Config) : Setup Handler := do
  let w ← c.newWriter os
  let opts := c.newHandlerOptions
  Logit.newHandler c.handler w opts

/-! ### What each step leaves behind -/

/-- `os.MkdirAll` changes nothing the `World` records. -/
@[simp] theorem mkdirAll_run (os : Os) (dir : String) (w : World) :
    (mkdirAll os dir).run.run w = (mkdirAllLoop os (dir.data.length + 1) dir.data, w) := rfl

/-- The parent `os.MkdirAll` makes first is a prefix of the path. -/
theorem isPrefix_mkdirAllParent (path : List Char) : mkdirAllParent path <+: path := by
  rw [mkdirAllParent, ← List.reverse_suffix, List.reverse_reverse]
  exact ((List.tail_suffix _).trans (List.dropWhile_suffix _)).trans (List.dropWhile_suffix _)

/-- **Where `MkdirAll` stops.** Its error names a prefix of the path at which the file system
said no: another file is there, or `Mkdir` failed. -/
theorem mkdirAllLoop_eq_error {os : Os} {fuel : Nat} {path : List Char} {e : GoError}
    (h : mkdirAllLoop os fuel path = .error e) :
    ∃ p, p <+: path ∧ e = .pathError "mkdir" ⟨p⟩ ∧
      (os.stat ⟨p⟩ = some false ∨ os.stat ⟨p⟩ = none ∧ os.canMkdir ⟨p⟩ = false) := by
  induction fuel generalizing path with
  | zero => cases h
  | succ fuel ih =>
    have hmake : (if os.canMkdir ⟨path⟩ then (.ok () : Except GoError Unit)
        else .error (.pathError "mkdir" ⟨path⟩)) = .error e → os.stat ⟨path⟩ = none →
        ∃ p, p <+: path ∧ e = .pathError "mkdir" ⟨p⟩ ∧
          (os.stat ⟨p⟩ = some false ∨ os.stat ⟨p⟩ = none ∧ os.canMkdir ⟨p⟩ = false) := by
      intro hm hs
      cases hc : os.canMkdir ⟨path⟩ <;> rw [hc] at hm <;> cases hm
      exact ⟨path, List.prefix_refl _, rfl, Or.inr ⟨hs, hc⟩⟩
    rw [mkdirAllLoop] at h
    rcases hs : os.stat ⟨path⟩ with _ | _ | _ <;> rw [hs] at h
    · by_cases hp : mkdirAllParent path = []
      · rw [if_pos hp] at h
        exact hmake h hs
      rw [if_neg hp] at h
      rcases hl : mkdirAllLoop os fuel (mkdirAllParent path) with e' | _ <;> rw [hl] at h
      · cases h
        obtain ⟨p, hpre, he, hno⟩ := ih hl
        exact ⟨p, hpre.trans (isPrefix_mkdirAllParent path), he, hno⟩
      · exact hmake h hs
    · cases h
      exact ⟨path, List.prefix_refl _, rfl, Or.inl hs⟩
    · cases h

/-- Where nothing exists yet and `a` cannot be made, `MkdirAll("a/b/c")` names `a`. -/
example : mkdirAll ⟨fun _ => none, fun p => p ≠ "a", fun _ => true⟩ "a/b/c" =
    liftExcept (.error (.pathError "mkdir" "a")) := rfl

/-- `defaults.OpenFile` opens the file, or fails having opened nothing. -/
theorem openFile_run (os : Os) (path : String) (w : World) :
    (openFile os path).run.run w =
      if os.canOpen path then (.ok (.osFile path), w.addFile path)
      else (.error (.pathError "open" path), w) := by
  unfold openFile
  split <;> rfl

/-- Making the directories and then opening a file fails leaving the world as it was, or
opens that file. -/
theorem mkdirAll_openFile_run (os : Os) (dir path : String) (w : World) :
    (∃ e, (do mkdirAll os dir; openFile os path : Setup Writer).run.run w = (.error e, w)) ∨
      (do mkdirAll os dir; openFile os path : Setup Writer).run.run w =
        (.ok (.osFile path), w.addFile path) := by
  rw [Setup.run_bind, mkdirAll_run]
  cases mkdirAllLoop os (dir.data.length + 1) dir.data
  · exact Or.inl ⟨_, rfl⟩
  · dsimp only
    rw [openFile_run]
    split_ifs
    · exact Or.inr rfl
    · exact Or.inl ⟨_, rfl⟩

/-- **`newFile` opens last.** It fails leaving the world as it was, or succeeds having opened
the configured path and nothing else. -/
theorem newFile_run (os : Os) (c : Config) (w : World) :
    (∃ e, (c.newFile os).run.run w = (.error e, w)) ∨
      ∃ f, (c.newFile os).run.run w = (.ok f, w.addFile c.file.path) := by
  unfold Config.newFile
  split_ifs
  · rw [Setup.run_bind, liftExcept_run]
    cases c.rotateOptions
    · exact Or.inl ⟨_, rfl⟩
    · dsimp only
      rw [fileNew, Setup.run_map]
      rcases mkdirAll_openFile_run os (filepathDir c.file.path) c.file.path w with ⟨e, h⟩ | h <;>
        rw [h]
      · exact Or.inl ⟨e, rfl⟩
      · exact Or.inr ⟨_, rfl⟩
  · rcases mkdirAll_openFile_run os (filepathDir c.file.path) c.file.path w with ⟨e, h⟩ | h
    · exact Or.inl ⟨e, h⟩
    · exact Or.inr ⟨_, h⟩

/-- The target switch opens the log file for the target `file` only. -/
theorem targetWriter_run (os : Os) (c : Config) (w : World) :
    (∃ e, (c.targetWriter os).run.run w = (.error e, w)) ∨
      (∃ v, (c.targetWriter os).run.run w = (.ok v, w)) ∨
      c.writer.target = "file" ∧
        ∃ v, (c.targetWriter os).run.run w = (.ok v, w.addFile c.file.path) := by
  unfold Config.targetWriter
  split
  · exact Or.inr (Or.inl ⟨_, rfl⟩)
  · exact Or.inr (Or.inl ⟨_, rfl⟩)
  · rename_i h
    rw [Setup.run_map]
    rcases newFile_run os c w with ⟨e, he⟩ | ⟨f, hf⟩
    · exact Or.inl ⟨e, by rw [he]; rfl⟩
    · exact Or.inr (Or.inr ⟨h, _, by rw [hf]; rfl⟩)
  · exact Or.inl ⟨_, rfl⟩

/-- The auto-sync block starts one goroutine, with the period `AutoSync` parses to, or none;
it fails only before starting it. -/
theorem startAutoSync_run (c : Config) (v : Writer) (w : World) :
    (∃ e, (c.startAutoSync v).run.run w = (.error e, w)) ∨
      (c.startAutoSync v).run.run w = (.ok (), w) ∨
      ∃ d, parseDuration c.writer.autoSync = .ok d ∧
        (c.startAutoSync v).run.run w = (.ok (), w.addTask ⟨.writer v, d⟩) := by
  unfold Config.startAutoSync
  split_ifs
  · rw [Setup.run_bind, liftExcept_run]
    cases hd : parseDuration c.writer.autoSync
    · exact Or.inl ⟨_, rfl⟩
    · exact Or.inr (Or.inr ⟨_, rfl, rfl⟩)
  · exact Or.inr (Or.inl rfl)

/-- A failed target switch leaves the world as it was. -/
theorem targetWriter_error {os : Os} {c : Config} {w w₁ : World} {e : GoError}
    (h : (c.targetWriter os).run.run w = (.error e, w₁)) : w₁ = w := by
  rcases targetWriter_run os c w with ⟨_, h'⟩ | ⟨_, h'⟩ | ⟨_, _, h'⟩ <;> rw [h] at h' <;>
    cases h'
  rfl

/-- A target switch that succeeds leaves the world as it was, or with the log file open when
the target is `file`. -/
theorem targetWriter_ok {os : Os} {c : Config} {w w₁ : World} {v : Writer}
    (h : (c.targetWriter os).run.run w = (.ok v, w₁)) :
    w₁ = w ∨ c.writer.target = "file" ∧ w₁ = w.addFile c.file.path := by
  rcases targetWriter_run os c w with ⟨_, h'⟩ | ⟨_, h'⟩ | ⟨hf, _, h'⟩ <;> rw [h] at h' <;>
    cases h'
  · exact Or.inl rfl
  · exact Or.inr ⟨hf, rfl⟩

/-- A failed auto-sync block leaves the world as it was. -/
theorem startAutoSync_error {c : Config} {v : Writer} {w w₁ : World} {e : GoError}
    (h : (c.startAutoSync v).run.run w = (.error e, w₁)) : w₁ = w := by
  rcases startAutoSync_run c v w with ⟨_, h'⟩ | h' | ⟨_, _, h'⟩ <;> rw [h] at h' <;> cases h'
  rfl

/-- An auto-sync block that succeeds has started the goroutine of the period `AutoSync` parses
to, or none. -/
theorem startAutoSync_ok {c : Config} {v : Writer} {w w₁ : World}
    (h : (c.startAutoSync v).run.run w = (.ok (), w₁)) :
    w₁ = w ∨ ∃ d, parseDuration c.writer.autoSync = .ok d ∧ w₁ = w.addTask ⟨.writer v, d⟩ := by
  rcases startAutoSync_run c v w with ⟨_, h'⟩ | h' | ⟨d, hd, h'⟩ <;> rw [h] at h' <;> cases h'
  · exact Or.inl rfl
  · exact Or.inr ⟨d, hd, rfl⟩

/-- **A failed `newWriter`** leaves the world as it was, or with the log file open when the
target is `file`; it never leaves a goroutine. -/
theorem newWriter_error {os : Os} {c : Config} {w w' : World} {e : GoError}
    (h : (c.newWriter os).run.run w = (.error e, w')) :
    w' = w ∨ c.writer.target = "file" ∧ w' = w.addFile c.file.path := by
  rcases Setup.error_of_bind h with h₁ | ⟨v, w₁, hv, h₁⟩
  · exact Or.inl (targetWriter_error h₁)
  · rcases Setup.error_of_bind h₁ with h₂ | ⟨v', w₂, hv', h₂⟩
    · obtain ⟨-, rfl⟩ := Prod.mk.inj h₂
      exact targetWriter_ok hv
    · obtain ⟨-, rfl⟩ := Prod.mk.inj hv'
      rcases Setup.error_of_bind h₂ with h₃ | ⟨_, w₃, h₃, h₄⟩
      · rw [startAutoSync_error h₃]
        exact targetWriter_ok hv
      · cases h₄

/-- **A successful `newWriter`** has opened the log file when the target is `file`, and has
started the goroutine of its `AutoSync` period, or not. -/
theorem newWriter_ok {os : Os} {c : Config} {w w' : World} {v : Writer}
    (h : (c.newWriter os).run.run w = (.ok v, w')) :
    ∃ w₁, (w₁ = w ∨ c.writer.target = "file" ∧ w₁ = w.addFile c.file.path) ∧
      (w' = w₁ ∨
        ∃ d, parseDuration c.writer.autoSync = .ok d ∧
          w' = w₁.addTask ⟨.writer v, d⟩) := by
  obtain ⟨v₁, w₁, h₁, h'⟩ := Setup.ok_of_bind h
  obtain ⟨v₂, w₂, h₂, h''⟩ := Setup.ok_of_bind h'
  obtain ⟨_, w₃, h₃, h₄⟩ := Setup.ok_of_bind h''
  obtain ⟨-, rfl⟩ := Prod.mk.inj h₂
  cases h₄
  exact ⟨w₁, targetWriter_ok h₁, startAutoSync_ok h₃⟩

/-! ### What `newWriter` accepts -/

/-- The target switch succeeds exactly on `stdout`, `stderr`, and `file` with a log file that
opens. -/
theorem targetWriter_ok_iff (os : Os) (c : Config) (w : World) :
    (∃ v w₁, (c.targetWriter os).run.run w = (.ok v, w₁)) ↔
      c.writer.target = "stdout" ∨ c.writer.target = "stderr" ∨
        c.writer.target = "file" ∧ ∃ f w₁, (c.newFile os).run.run w = (.ok f, w₁) := by
  unfold Config.targetWriter
  split
  · next h => exact ⟨fun _ => Or.inl h, fun _ => ⟨_, _, rfl⟩⟩
  · next h => exact ⟨fun _ => Or.inr (Or.inl h), fun _ => ⟨_, _, rfl⟩⟩
  · next h =>
    rw [Setup.run_map]
    constructor
    · rintro ⟨v, w₁, hv⟩
      rcases hf : (c.newFile os).run.run w with ⟨_ | f, w₂⟩ <;> rw [hf] at hv <;> cases hv
      exact Or.inr (Or.inr ⟨h, f, _, rfl⟩)
    · rintro (h' | h' | ⟨-, f, w₁, hf⟩)
      · exact absurd (h'.symm.trans h) (by decide)
      · exact absurd (h'.symm.trans h) (by decide)
      · exact ⟨_, _, by rw [hf]; rfl⟩
  · next h₁ h₂ h₃ =>
    refine ⟨(fun ⟨_, _, h⟩ => nomatch h), ?_⟩
    rintro (h | h | ⟨h, -⟩)
    exacts [absurd h h₁, absurd h h₂, absurd h h₃]

/-- The mode switch succeeds exactly on `direct`, `batch`, and `buffer` with a buffer size
that parses, whatever the writer. -/
theorem modeWriter_ok_iff (c : Config) (v : Writer) :
    (∃ v', c.modeWriter v = .ok v') ↔
      c.writer.mode = "direct" ∨
        c.writer.mode = "buffer" ∧ (∃ n, parseByteSize c.writer.bufferSize = .ok n) ∨
        c.writer.mode = "batch" := by
  unfold Config.modeWriter
  split
  · next h => exact ⟨fun _ => Or.inl h, fun _ => ⟨_, rfl⟩⟩
  · next h =>
    constructor
    · rintro ⟨v', hv⟩
      cases hp : parseByteSize c.writer.bufferSize <;> rw [hp] at hv <;> cases hv
      exact Or.inr (Or.inl ⟨h, _, rfl⟩)
    · rintro (h' | ⟨-, n, hn⟩ | h')
      · exact absurd (h'.symm.trans h) (by decide)
      · exact ⟨_, by rw [hn]; rfl⟩
      · exact absurd (h'.symm.trans h) (by decide)
  · next h => exact ⟨fun _ => Or.inr (Or.inr h), fun _ => ⟨_, rfl⟩⟩
  · next h₁ h₂ h₃ =>
    refine ⟨(fun ⟨_, h⟩ => nomatch h), ?_⟩
    rintro (h | ⟨h, -⟩ | h)
    exacts [absurd h h₁, absurd h h₂, absurd h h₃]

/-- The auto-sync block succeeds exactly when `AutoSync` is empty or a duration. -/
theorem startAutoSync_ok_iff (c : Config) (v : Writer) (w : World) :
    (∃ w', (c.startAutoSync v).run.run w = (.ok (), w')) ↔
      c.writer.autoSync = "" ∨ ∃ d, parseDuration c.writer.autoSync = .ok d := by
  unfold Config.startAutoSync
  split_ifs with h
  · rw [Setup.run_bind, liftExcept_run]
    cases hd : parseDuration c.writer.autoSync
    · exact ⟨(fun ⟨_, h'⟩ => nomatch h'),
        by rintro (h' | ⟨_, ⟨⟩⟩); exact absurd h' h⟩
    · exact ⟨fun _ => Or.inr ⟨_, rfl⟩, fun _ => ⟨_, rfl⟩⟩
  · exact ⟨fun _ => Or.inl (not_not.mp h), fun _ => ⟨_, rfl⟩⟩


/-- **What `newWriter` accepts.** It succeeds exactly when the target is `stdout` or
`stderr`, or `file` with a log file that opens; the mode is `direct` or `batch`, or `buffer`
with a buffer size that parses; and `AutoSync` is empty or a duration. -/
theorem newWriter_ok_iff (os : Os) (c : Config) (w : World) :
    (∃ v w', (c.newWriter os).run.run w = (.ok v, w')) ↔
      (c.writer.target = "stdout" ∨ c.writer.target = "stderr" ∨
        c.writer.target = "file" ∧ ∃ f w₁, (c.newFile os).run.run w = (.ok f, w₁)) ∧
      (c.writer.mode = "direct" ∨
        c.writer.mode = "buffer" ∧ (∃ n, parseByteSize c.writer.bufferSize = .ok n) ∨
        c.writer.mode = "batch") ∧
      (c.writer.autoSync = "" ∨ ∃ d, parseDuration c.writer.autoSync = .ok d) := by
  constructor
  · rintro ⟨v, w', h⟩
    obtain ⟨v₁, w₁, h₁, h'⟩ := Setup.ok_of_bind h
    obtain ⟨v₂, w₂, h₂, h''⟩ := Setup.ok_of_bind h'
    obtain ⟨_, w₃, h₃, -⟩ := Setup.ok_of_bind h''
    obtain ⟨hm, rfl⟩ := Prod.mk.inj h₂
    exact ⟨(targetWriter_ok_iff os c w).mp ⟨v₁, w₁, h₁⟩,
      (modeWriter_ok_iff c v₁).mp ⟨v₂, hm⟩,
      (startAutoSync_ok_iff c v₂ w₁).mp ⟨w₃, h₃⟩⟩
  · rintro ⟨ht, hm, ha⟩
    obtain ⟨v₁, w₁, h₁⟩ := (targetWriter_ok_iff os c w).mpr ht
    obtain ⟨v₂, h₂⟩ := (modeWriter_ok_iff c v₁).mpr hm
    obtain ⟨w₃, h₃⟩ := (startAutoSync_ok_iff c v₂ w₁).mpr ha
    refine ⟨v₂, w₃, ?_⟩
    simp only [Config.newWriter, Setup.run_bind, h₁, liftExcept_run, h₂, h₃]
    rfl

/-! ### `NewHandler` -/

theorem newHandler_run (name : String) (v : Writer) (opts : HandlerOptions) (w : World) :
    (newHandler name v opts).run.run w =
      (if w.handlers.contains name then .ok ⟨name, v, opts⟩
        else .error (.handlerNotFound name), w) := by
  show ((if w.handlers.contains name then (pure ⟨name, v, opts⟩ : Setup Handler)
    else throw (.handlerNotFound name)).run.run w) = _
  split <;> rfl

/-- **What a failed `NewHandler` leaves.** The handler registry is untouched; the log file
stays open only when the target is `file`; and a sync goroutine keeps running only when the
error is the handler name's. -/
theorem newHandler_error_leaves {os : Os} {c : Config} {w w' : World} {e : GoError}
    (h : (c.newHandler os).run.run w = (.error e, w')) :
    w'.handlers = w.handlers ∧
      (w'.openFiles = w.openFiles ∨
        c.writer.target = "file" ∧ w'.openFiles = w.openFiles ++ [c.file.path]) ∧
      (w'.syncTasks = w.syncTasks ∨
        e = .handlerNotFound c.handler ∧ ∃ t, w'.syncTasks = w.syncTasks ++ [t]) := by
  rcases Setup.error_of_bind h with h₁ | ⟨v, w₁, hv, h₁⟩
  · rcases newWriter_error h₁ with rfl | ⟨hf, rfl⟩
    · exact ⟨rfl, Or.inl rfl, Or.inl rfl⟩
    · exact ⟨rfl, Or.inr ⟨hf, rfl⟩, Or.inl rfl⟩
  · rw [newHandler_run] at h₁
    obtain ⟨he, rfl⟩ := Prod.mk.inj h₁
    split_ifs at he
    cases he
    obtain ⟨w₂, hw₂, hw⟩ := newWriter_ok hv
    have hfile : w₂.handlers = w.handlers ∧ (w₂.openFiles = w.openFiles ∨
        c.writer.target = "file" ∧ w₂.openFiles = w.openFiles ++ [c.file.path]) ∧
        w₂.syncTasks = w.syncTasks := by
      rcases hw₂ with rfl | ⟨hf, rfl⟩
      · exact ⟨rfl, Or.inl rfl, rfl⟩
      · exact ⟨rfl, Or.inr ⟨hf, rfl⟩, rfl⟩
    rcases hw with rfl | ⟨d, -, rfl⟩
    · exact ⟨hfile.1, hfile.2.1, Or.inl hfile.2.2⟩
    · exact ⟨hfile.1, hfile.2.1,
        Or.inr ⟨rfl, ⟨.writer v, d⟩, by simp [World.addTask, hfile.2.2]⟩⟩

/-- The failed call of `newHandler_leaks` with the mode `"bogus"`: the registry and the
goroutines are as they were, and the log file of the target `file` stays open. -/
theorem newHandler_error_leaves_bogus_mode :
    (Config.newHandler Os.permissive
        { newDefaultConfig with
          writer := { newDefaultConfig.writer with target := "file", mode := "bogus" } }).run.run
        ⟨[], [], ["text"]⟩ =
      (.error (.modeInvalid "bogus"), ⟨["./logit.log"], [], ["text"]⟩) ∧
    ["text"] = ["text"] ∧
      (["./logit.log"] = ([] : List String) ∨
        "file" = "file" ∧ ["./logit.log"] = ([] : List String) ++ ["./logit.log"]) ∧
      (([] : List SyncTask) = [] ∨
        GoError.modeInvalid "bogus" = .handlerNotFound "text" ∧
          ∃ t, ([] : List SyncTask) = [] ++ [t]) :=
  ⟨rfl, @newHandler_error_leaves Os.permissive
    { newDefaultConfig with
      writer := { newDefaultConfig.writer with target := "file", mode := "bogus" } }
    ⟨[], [], ["text"]⟩ ⟨["./logit.log"], [], ["text"]⟩ (.modeInvalid "bogus") rfl⟩

/-- A successful `newWriter` leaves the handler registry as it was. -/
theorem newWriter_handlers {os : Os} {c : Config} {w w' : World} {v : Writer}
    (h : (c.newWriter os).run.run w = (.ok v, w')) : w'.handlers = w.handlers := by
  obtain ⟨w₁, hw₁, hw'⟩ := newWriter_ok h
  rcases hw₁ with rfl | ⟨-, rfl⟩ <;> rcases hw' with rfl | ⟨d, -, rfl⟩ <;> rfl

/-- **What `NewHandler` accepts.** It succeeds exactly when `newWriter` does, its three blocks
each accepting their part of the configuration, and the handler name was registered before
the call: nothing `newWriter` does registers one. -/
theorem newHandler_ok_iff (os : Os) (c : Config) (w : World) :
    (∃ hd w', (c.newHandler os).run.run w = (.ok hd, w')) ↔
      (c.writer.target = "stdout" ∨ c.writer.target = "stderr" ∨
        c.writer.target = "file" ∧ ∃ f w₁, (c.newFile os).run.run w = (.ok f, w₁)) ∧
      (c.writer.mode = "direct" ∨
        c.writer.mode = "buffer" ∧ (∃ n, parseByteSize c.writer.bufferSize = .ok n) ∨
        c.writer.mode = "batch") ∧
      (c.writer.autoSync = "" ∨ ∃ d, parseDuration c.writer.autoSync = .ok d) ∧
      w.handlers.contains c.handler := by
  constructor
  · rintro ⟨hd, w', h⟩
    obtain ⟨v, w₁, hv, h'⟩ := Setup.ok_of_bind h
    rw [newHandler_run] at h'
    split_ifs at h' with hc
    · obtain ⟨ht, hm, ha⟩ := (newWriter_ok_iff os c w).mp ⟨v, w₁, hv⟩
      exact ⟨ht, hm, ha, newWriter_handlers hv ▸ hc⟩
    · cases h'
  · rintro ⟨ht, hm, ha, hc⟩
    obtain ⟨v, w₁, hv⟩ := (newWriter_ok_iff os c w).mpr ⟨ht, hm, ha⟩
    rw [← newWriter_handlers hv] at hc
    refine ⟨⟨c.handler, v, c.newHandlerOptions⟩, w₁, ?_⟩
    rw [Config.newHandler, Setup.run_bind, hv]
    exact (newHandler_run _ _ _ _).trans (by rw [if_pos hc])

/-- **The defaults build.** Wherever the `text` handler is registered, the default
configuration builds it on standard output, with level `debug` and no source, and starts one
goroutine that syncs standard output every 30 seconds. -/
theorem newHandler_newDefaultConfig (os : Os) {w : World} (h : w.handlers.contains "text") :
    (newDefaultConfig.newHandler os).run.run w =
      (.ok ⟨"text", .stdout, ⟨"debug", false⟩⟩,
        w.addTask ⟨.writer .stdout, BitVec.ofNat 64 30000000000⟩) := by
  have hw : (newDefaultConfig.newWriter os).run.run w =
      (.ok .stdout, w.addTask ⟨.writer .stdout, BitVec.ofNat 64 30000000000⟩) := rfl
  have ht : (w.addTask ⟨.writer .stdout, BitVec.ofNat 64 30000000000⟩).handlers.contains
      newDefaultConfig.handler := h
  rw [Config.newHandler, Setup.run_bind, hw]
  exact (newHandler_run _ _ _ _).trans (by rw [if_pos ht]; rfl)

/-! ### Failed setups -/

/-- **Leaks of a failed `NewHandler`.** With target `file` and the mode `"bogus"`, the log
file is opened before the mode is rejected, and stays open; with an unknown handler name,
the auto-sync goroutine of the writer is started before the name is rejected, and keeps
running. -/
theorem newHandler_leaks :
    (Config.newHandler Os.permissive
        { newDefaultConfig with
          writer := { newDefaultConfig.writer with target := "file", mode := "bogus" } }).run.run
        ⟨[], [], ["text"]⟩ =
      (.error (.modeInvalid "bogus"), ⟨["./logit.log"], [], ["text"]⟩) ∧
    (Config.newHandler Os.permissive { newDefaultConfig with handler := "bogus" }).run.run
        ⟨[], [], ["text"]⟩ =
      (.error (.handlerNotFound "bogus"),
        ⟨[], [⟨.writer .stdout, BitVec.ofNat 64 30000000000⟩], ["text"]⟩) :=
  ⟨rfl, rfl⟩

/-- **A zero sync period.** `"0s"` parses, and `newWriter` starts its sync goroutine with
period 0: it sleeps for no time between syncs. -/
theorem newWriter_zero_autoSync :
    (Config.newWriter Os.permissive
        { newDefaultConfig with
          writer := { newDefaultConfig.writer with autoSync := "0s" } }).run.run
        ⟨[], [], ["text"]⟩ =
      (.ok .stdout, ⟨[], [⟨.writer .stdout, 0⟩], ["text"]⟩) :=
  rfl

end Logit
