import Logit.Logger

/-!
# Options: `option.go` and `NewLoggerGracefully`

`NewLoggerGracefully(opts...)` starts from the default `config`, applies each `Option` in
turn, builds the handler the config describes with `config.handler()`, and starts the
logger's sync goroutine with `runSyncTask`. An `Option` is a function that sets fields of the
config, and `option.go` builds one per setting, in six families: the level, the writer, the
writer's wrapper, the handler, and the two flags.

The `config` type, its defaults and `config.handler()` are declared outside `src/`. Here the
config holds the fields the options and `NewLoggerGracefully` use, the defaults are any
config, and the handler builder is a parameter: every result holds whatever they are.

`OptionCall` names the option `option.go` builds by the field it sets
(`builders_eq_toOption`: each builder of `option.go` is the option of its call), and
`resolveOptions` says what a list of options does, field by field: the last option that sets
a field wins, a flag stays on once an option turns it on, and the sync period is never set.
`applyOptions_map` shows that the loop of `NewLoggerGracefully` computes exactly that, by
induction on the options from the last one, and `applyOptions_toOption` reads it field by
field.

## Main results

* `applyOptions_toOption`: the options loop sets each field from the last option of its
  family, turns a flag on when any option asks for it, and leaves the sync period alone.
* `newLoggerGracefully_ok`: a logger is built from the handler of the resolved config, with
  the resolved flags and the default sync period, and its goroutine starts only when that
  period is positive.
-/

namespace Logit

variable {O : Type}

/-- The levels the options set: `slog.LevelDebug`, `slog.LevelInfo`, `slog.LevelWarn`,
`slog.LevelError`, and `defaults.LevelPrint` and `defaults.LevelOff` (declared outside
src/). -/
inductive LevelName
  | debug
  | info
  | warn
  | error
  | print
  | off
  deriving DecidableEq, Repr

/-- `config`: the fields the options set and `NewLoggerGracefully` reads. A `NewHandlerFunc`
builds the handler from the writer and the handler options. -/
structure LoggerConfig (O : Type) where
  level : LevelName
  newWriter : Os → Setup Writer
  wrapWriter : Option (Writer → Writer)
  newHandler : Writer → HandlerOptions → SlogHandler O
  withSource : Bool
  withPID : Bool
  syncDuration : Duration

/-- `Option` (renamed: `Option` is Lean's): a function that sets fields of a `config`. -/
def ConfigOption (O : Type) : Type := LoggerConfig O → LoggerConfig O

/-- `o.applyTo(conf)`. -/
def ConfigOption.applyTo (o : ConfigOption O) (conf : LoggerConfig O) : LoggerConfig O := o conf

/-- The `for _, opt := range opts { opt.applyTo(conf) }` loop of `NewLoggerGracefully`. -/
def applyOptions (opts : List (ConfigOption O)) (conf : LoggerConfig O) : LoggerConfig O :=
  opts.foldl (fun conf opt => opt.applyTo conf) conf

/-- The loop applies the last option after all the others. -/
theorem applyOptions_append_singleton (opts : List (ConfigOption O)) (o : ConfigOption O)
    (conf : LoggerConfig O) :
    applyOptions (opts ++ [o]) conf = o.applyTo (applyOptions opts conf) :=
  List.foldl_append _ _ _ _

/-! ### The options of `option.go` -/

/-- The options that set `conf.level`. -/
def withLevel (level : LevelName) : ConfigOption O := fun conf => { conf with level := level }

/-- `WithDebugLevel()`. -/
def withDebugLevel : ConfigOption O := withLevel .debug

/-- `WithInfoLevel()`. -/
def withInfoLevel : ConfigOption O := withLevel .info

/-- `WithWarnLevel()`. -/
def withWarnLevel : ConfigOption O := withLevel .warn

/-- `WithErrorLevel()`. -/
def withErrorLevel : ConfigOption O := withLevel .error

/-- `WithPrintLevel()`. -/
def withPrintLevel : ConfigOption O := withLevel .print

/-- `WithOffLevel()`. -/
def withOffLevel : ConfigOption O := withLevel .off

/-- The options that set `conf.newWriter`. -/
def withNewWriter (newWriter : Os → Setup Writer) : ConfigOption O :=
  fun conf => { conf with newWriter := newWriter }

/-- `WithWriter(w)`. -/
def withWriter (w : Writer) : ConfigOption O := withNewWriter fun _ => pure w

/-- `WithStdout()`. -/
def withStdout : ConfigOption O := withNewWriter fun _ => pure .stdout

/-- `WithStderr()`. -/
def withStderr : ConfigOption O := withNewWriter fun _ => pure .stderr

/-- `WithFile(path)`; `defaults.OpenFileDir` (declared outside src/) makes the directory as
`os.MkdirAll` does. -/
def withFile (path : String) : ConfigOption O :=
  withNewWriter fun os => do
    mkdirAll os (filepathDir path)
    openFile os path

/-- `WithRotateFile(path, opts...)`; `rotate.New` (declared outside src/) opens the rotating
file as `file.New` does. -/
def withRotateFile (path : String) (opts : List FileOption) : ConfigOption O :=
  withNewWriter fun os => fileNew os path opts

/-- The options that set `conf.wrapWriter`. -/
def withWrapWriter (wrapWriter : Writer → Writer) : ConfigOption O :=
  fun conf => { conf with wrapWriter := some wrapWriter }

/-- `WithBuffer(bufferSize)`. -/
def withBuffer (bufferSize : Nat) : ConfigOption O :=
  withWrapWriter fun w => .buffer w bufferSize

/-- `WithBatch(batchSize)`. -/
def withBatch (batchSize : Nat) : ConfigOption O := withWrapWriter fun w => .batch w batchSize

/-- `WithHandler(newHandler)`: the options that set `conf.newHandler`. -/
def withHandler (newHandler : Writer → HandlerOptions → SlogHandler O) : ConfigOption O :=
  fun conf => { conf with newHandler := newHandler }

/-- `WithTextHandler()`: `handler.NewTextHandler` (declared outside src/). -/
def withTextHandler : ConfigOption O := withHandler fun w opts => ⟨⟨"text", w, opts⟩, []⟩

/-- `WithJsonHandler()`: `handler.NewJsonHandler` (declared outside src/). -/
def withJsonHandler : ConfigOption O := withHandler fun w opts => ⟨⟨"json", w, opts⟩, []⟩

/-- `WithSource()`. -/
def withSource : ConfigOption O := fun conf => { conf with withSource := true }

/-- `WithPID()`. -/
def withPID : ConfigOption O := fun conf => { conf with withPID := true }

/-- `ProductionOptions()`. -/
def productionOptions : List (ConfigOption O) :=
  [withInfoLevel, withSource, withPID, withBatch 16, withRotateFile "./logit.log" []]

/-! ### What a list of options sets -/

/-- The option `option.go` builds, named by the field it sets. -/
inductive OptionCall (O : Type)
  | level (level : LevelName)
  | newWriter (newWriter : Os → Setup Writer)
  | wrapWriter (wrapWriter : Writer → Writer)
  | handler (newHandler : Writer → HandlerOptions → SlogHandler O)
  | source
  | pid

namespace OptionCall

/-- The option `option.go` builds for a call. -/
def toOption : OptionCall O → ConfigOption O
  | .level l => withLevel l
  | .newWriter f => withNewWriter f
  | .wrapWriter f => withWrapWriter f
  | .handler f => withHandler f
  | .source => withSource
  | .pid => withPID

/-- The level a call sets. -/
def level? : OptionCall O → Option LevelName
  | .level l => some l
  | _ => none

/-- The `newWriter` a call sets. -/
def newWriter? : OptionCall O → Option (Os → Setup Writer)
  | .newWriter f => some f
  | _ => none

/-- The `wrapWriter` a call sets. -/
def wrapWriter? : OptionCall O → Option (Writer → Writer)
  | .wrapWriter f => some f
  | _ => none

/-- The `newHandler` a call sets. -/
def handler? : OptionCall O → Option (Writer → HandlerOptions → SlogHandler O)
  | .handler f => some f
  | _ => none

/-- Whether a call turns `withSource` on. -/
def setsSource : OptionCall O → Bool
  | .source => true
  | _ => false

/-- Whether a call turns `withPID` on. -/
def setsPID : OptionCall O → Bool
  | .pid => true
  | _ => false

/-- `ProductionOptions()`, as the calls that build it. -/
def production : List (OptionCall O) :=
  [.level .info, .source, .pid, .wrapWriter fun w => .batch w 16,
    .newWriter fun os => fileNew os "./logit.log" []]

/-- `ProductionOptions()` is the list of options its calls build. -/
theorem productionOptions_eq_map :
    (productionOptions : List (ConfigOption O)) = production.map toOption := rfl

/-- Every option `option.go` builds is the option of its call: the six levels, the five
writers, the two wrappers, the two handlers and the two flags. -/
theorem builders_eq_toOption (w : Writer) (path : String) (opts : List FileOption)
    (size : Nat) :
    (withDebugLevel : ConfigOption O) = (level .debug).toOption ∧
      (withInfoLevel : ConfigOption O) = (level .info).toOption ∧
      (withWarnLevel : ConfigOption O) = (level .warn).toOption ∧
      (withErrorLevel : ConfigOption O) = (level .error).toOption ∧
      (withPrintLevel : ConfigOption O) = (level .print).toOption ∧
      (withOffLevel : ConfigOption O) = (level .off).toOption ∧
      (withWriter w : ConfigOption O) = (newWriter fun _ => pure w).toOption ∧
      (withStdout : ConfigOption O) = (newWriter fun _ => pure .stdout).toOption ∧
      (withStderr : ConfigOption O) = (newWriter fun _ => pure .stderr).toOption ∧
      (withFile path : ConfigOption O) =
        (newWriter fun os => do mkdirAll os (filepathDir path); openFile os path).toOption ∧
      (withRotateFile path opts : ConfigOption O) =
        (newWriter fun os => fileNew os path opts).toOption ∧
      (withBuffer size : ConfigOption O) = (wrapWriter fun w => .buffer w size).toOption ∧
      (withBatch size : ConfigOption O) = (wrapWriter fun w => .batch w size).toOption ∧
      (withTextHandler : ConfigOption O) =
        (handler fun w opts => ⟨⟨"text", w, opts⟩, []⟩).toOption ∧
      (withJsonHandler : ConfigOption O) =
        (handler fun w opts => ⟨⟨"json", w, opts⟩, []⟩).toOption ∧
      (Logit.withSource : ConfigOption O) = source.toOption ∧
      (Logit.withPID : ConfigOption O) = pid.toOption :=
  ⟨rfl, rfl, rfl, rfl, rfl, rfl, rfl, rfl, rfl, rfl, rfl, rfl, rfl, rfl, rfl, rfl, rfl⟩

end OptionCall

/-- What a list of options sets, field by field: the value of the last option that sets the
field, else the default; a flag is on when some option or the default turns it on; the sync
period is the default's. -/
def resolveOptions (calls : List (OptionCall O)) (conf : LoggerConfig O) : LoggerConfig O where
  level := (calls.reverse.findSome? OptionCall.level?).getD conf.level
  newWriter := (calls.reverse.findSome? OptionCall.newWriter?).getD conf.newWriter
  wrapWriter := (calls.reverse.findSome? OptionCall.wrapWriter?).or conf.wrapWriter
  newHandler := (calls.reverse.findSome? OptionCall.handler?).getD conf.newHandler
  withSource := calls.any OptionCall.setsSource || conf.withSource
  withPID := calls.any OptionCall.setsPID || conf.withPID
  syncDuration := conf.syncDuration

/-- One more option: resolving it last is applying it to what the others resolve to. -/
theorem resolveOptions_append_singleton (calls : List (OptionCall O)) (c : OptionCall O)
    (conf : LoggerConfig O) :
    resolveOptions (calls ++ [c]) conf = c.toOption.applyTo (resolveOptions calls conf) := by
  cases c <;>
    simp [resolveOptions, OptionCall.toOption, ConfigOption.applyTo, withLevel, withNewWriter,
      withWrapWriter, withHandler, withSource, withPID, OptionCall.level?, OptionCall.newWriter?,
      OptionCall.wrapWriter?, OptionCall.handler?, OptionCall.setsSource, OptionCall.setsPID]

/-- The options loop over the options of a list of calls is what the calls resolve to, by
induction from the last option. -/
theorem applyOptions_map (calls : List (OptionCall O)) (conf : LoggerConfig O) :
    applyOptions (calls.map OptionCall.toOption) conf = resolveOptions calls conf := by
  induction calls using List.reverseRecOn with
  | nil => rfl
  | append_singleton calls c ih =>
    rw [List.map_append, List.map_singleton, applyOptions_append_singleton, ih,
      resolveOptions_append_singleton]

/-- **The options loop.** Applying the options `option.go` builds sets each field of the
config from the last option of its family, or keeps the default; turns a flag on when some
option asks for it; and never changes the sync period. -/
theorem applyOptions_toOption (calls : List (OptionCall O)) (conf : LoggerConfig O) :
    (applyOptions (calls.map OptionCall.toOption) conf).level =
        (calls.reverse.findSome? OptionCall.level?).getD conf.level ∧
      (applyOptions (calls.map OptionCall.toOption) conf).newWriter =
        (calls.reverse.findSome? OptionCall.newWriter?).getD conf.newWriter ∧
      (applyOptions (calls.map OptionCall.toOption) conf).wrapWriter =
        (calls.reverse.findSome? OptionCall.wrapWriter?).or conf.wrapWriter ∧
      (applyOptions (calls.map OptionCall.toOption) conf).newHandler =
        (calls.reverse.findSome? OptionCall.handler?).getD conf.newHandler ∧
      (applyOptions (calls.map OptionCall.toOption) conf).withSource =
        (calls.any OptionCall.setsSource || conf.withSource) ∧
      (applyOptions (calls.map OptionCall.toOption) conf).withPID =
        (calls.any OptionCall.setsPID || conf.withPID) ∧
      (applyOptions (calls.map OptionCall.toOption) conf).syncDuration = conf.syncDuration := by
  rw [applyOptions_map]
  exact ⟨rfl, rfl, rfl, rfl, rfl, rfl, rfl⟩

/-! ### `NewLoggerGracefully` -/

/-- `NewLoggerGracefully(opts...)`, from the default config `defaults` (`newDefaultConfig()`,
declared outside src/) and the handler builder `handler` (`config.handler()`, declared outside
src/). -/
def newLoggerGracefully (defaults : LoggerConfig O)
    (handler : LoggerConfig O → Setup (SlogHandler O)) (opts : List (ConfigOption O)) :
    Setup (Logger O) := do
  let conf := applyOptions opts defaults
  let h ← handler conf
  let logger : Logger O := ⟨h, conf.withSource, conf.withPID, conf.syncDuration⟩
  logger.runSyncTask
  return logger

/-- **A new logger.** When `NewLoggerGracefully` returns a logger, its handler is the one built
from the resolved config, its flags are the resolved ones, and it syncs with the default
period, whatever the options; it has started at most one goroutine, and only for a positive
period. -/
theorem newLoggerGracefully_ok {defaults : LoggerConfig O}
    {handler : LoggerConfig O → Setup (SlogHandler O)} {calls : List (OptionCall O)}
    {w w' : World} {l : Logger O}
    (h : (newLoggerGracefully defaults handler (calls.map OptionCall.toOption)).run.run w =
      (.ok l, w')) :
    l.withSource = (calls.any OptionCall.setsSource || defaults.withSource) ∧
      l.withPID = (calls.any OptionCall.setsPID || defaults.withPID) ∧
      l.syncDuration = defaults.syncDuration ∧
      ∃ w₁, (handler (resolveOptions calls defaults)).run.run w = (.ok l.handler, w₁) ∧
        (w' = w₁ ∨ w' = w₁.addTask ⟨.logger, defaults.syncDuration⟩ ∧
          0 < defaults.syncDuration.toInt) := by
  unfold newLoggerGracefully at h
  rw [applyOptions_map] at h
  obtain ⟨hh, w₁, h₁, h'⟩ := Setup.ok_of_bind h
  obtain ⟨_, w₂, h₂, h₃⟩ := Setup.ok_of_bind h'
  cases h₃
  refine ⟨rfl, rfl, rfl, w₁, h₁, ?_⟩
  rw [Logger.runSyncTask_run] at h₂
  cases h₂
  split_ifs with hpos
  · exact Or.inl rfl
  · exact Or.inr ⟨rfl, Int.lt_of_not_ge hpos⟩

/-- `ProductionOptions()` over a text handler to stdout, synced every second: the logger writes
to `./logit.log`, carries source and pid, and starts its goroutine. -/
theorem newLoggerGracefully_production :
    (newLoggerGracefully
        (⟨.debug, fun _ => pure .stdout, none, fun w opts => ⟨⟨"text", w, opts⟩, []⟩, false,
          false, 1000000000#64⟩ : LoggerConfig Nat)
        (fun conf => (conf.newHandler · ⟨"info", conf.withSource⟩) <$>
          conf.newWriter Os.permissive)
        productionOptions).run.run ⟨[], [], []⟩ =
      (.ok ⟨⟨⟨"text", .rotateFile "./logit.log" [], ⟨"info", true⟩⟩, []⟩, true, true,
        1000000000#64⟩, ⟨["./logit.log"], [⟨.logger, 1000000000#64⟩], []⟩) ∧
      true = ((OptionCall.production : List (OptionCall Nat)).any OptionCall.setsSource ||
        false) ∧
      true = ((OptionCall.production : List (OptionCall Nat)).any OptionCall.setsPID ||
        false) ∧
      1000000000#64 = 1000000000#64 ∧
      ∃ w₁, ((fun w => ⟨⟨"text", w, ⟨"info", true⟩⟩, []⟩) <$>
          fileNew Os.permissive "./logit.log" [] : Setup (SlogHandler Nat)).run.run
          ⟨[], [], []⟩ =
          (.ok ⟨⟨"text", .rotateFile "./logit.log" [], ⟨"info", true⟩⟩, []⟩, w₁) ∧
        (⟨["./logit.log"], [⟨.logger, 1000000000#64⟩], []⟩ = w₁ ∨
          (⟨["./logit.log"], [⟨.logger, 1000000000#64⟩], []⟩ : World) =
            w₁.addTask ⟨.logger, 1000000000#64⟩ ∧ 0 < (1000000000#64).toInt) := by
  have h : (newLoggerGracefully
        (⟨.debug, fun _ => pure .stdout, none, fun w opts => ⟨⟨"text", w, opts⟩, []⟩, false,
          false, 1000000000#64⟩ : LoggerConfig Nat)
        (fun conf => (conf.newHandler · ⟨"info", conf.withSource⟩) <$>
          conf.newWriter Os.permissive)
        productionOptions).run.run ⟨[], [], []⟩ =
      (.ok ⟨⟨⟨"text", .rotateFile "./logit.log" [], ⟨"info", true⟩⟩, []⟩, true, true,
        1000000000#64⟩, ⟨["./logit.log"], [⟨.logger, 1000000000#64⟩], []⟩) := rfl
  refine ⟨h, ?_⟩
  rw [OptionCall.productionOptions_eq_map] at h
  exact newLoggerGracefully_ok h

end Logit
