import Mathlib.Data.List.Basic

/-!
# The `writer` Package: `Wrapped` and `Buffered`

`Wrapped(w)` and `Buffered(w)` turn an `io.Writer` into a `writer.Writer`, a writer that
also has `Flush` and `Close`. Both first ask, by a type assertion, whether `w` already is
one, and if so return it as it is: only a writer lacking one of those methods is put in a
`writerWrapper` or behind a 16 KB buffer. A type assertion reads the dynamic type of `w`,
so the model gives every writer its dynamic type, `IoWriter`: a writer of another package
with the methods it has, or one of the package's own.

`newBufferedWriter` is not under src/: a buffered writer here records the writer it
buffers and its size, and has the methods of a `Writer`, as the spec's buffer decorator
does.

## Main results

* `writerWrapper_noop`: through a wrapper that `Wrapped` builds, `Flush` or `Close` calls
  nothing.
* `wrapChain_cons`: along any sequence of `Wrapped` and `Buffered` calls only the first one
  acts; every later call returns what it returned. So `Buffered` never buffers a wrapped
  writer, and `Wrapped` never wraps a buffered one.
-/

namespace Logit

/-- `KB`, in bytes. -/
def kb : Nat := 1024

/-- `bufferSize`: the buffer `Buffered` puts in front of a writer. -/
def bufferSize : Nat := 16 * kb

/-- The dynamic type of an `io.Writer`, as the `writer` package's type assertions see it. -/
inductive IoWriter
  /-- a writer of another package, told apart by `id`, with or without the methods
  `Flush() (n int, err error)` and `Close() error` -/
  | other (id : Nat) (flusher closer : Bool)
  /-- `&writerWrapper{writer: w}` -/
  | wrapper (w : IoWriter)
  /-- the writer `newBufferedWriter(w, size)` returns -/
  | buffered (w : IoWriter) (size : Nat)
  deriving DecidableEq, Repr

namespace IoWriter

/-- The assertion `w.(Flusher)`: whether the dynamic type has `Flush() (n int, err error)`. -/
def isFlusher : IoWriter → Bool
  | other _ flusher _ => flusher
  | wrapper _ => true
  | buffered _ _ => true

/-- The assertion `w.(io.Closer)`: whether the dynamic type has `Close() error`. -/
def isCloser : IoWriter → Bool
  | other _ _ closer => closer
  | wrapper _ => true
  | buffered _ _ => true

/-- The assertion `w.(Writer)`: `Flush`, `Write` and `Close`, every `io.Writer` having
`Write`. -/
def isWriter (w : IoWriter) : Bool := w.isFlusher && w.isCloser

end IoWriter

/-- `Wrapped(writer)`. -/
def wrapped (w : IoWriter) : IoWriter := if w.isWriter then w else .wrapper w

/-- `Buffered(writer)`. -/
def buffered (w : IoWriter) : IoWriter := if w.isWriter then w else .buffered w bufferSize

/-- `ww.Flush()` on `&writerWrapper{writer: w}`: the writer whose `Flush` it calls, or `none`
when it returns `0, nil` without a call. -/
def writerWrapperFlush (w : IoWriter) : Option IoWriter := if w.isFlusher then some w else none

/-- `ww.Close()` on `&writerWrapper{writer: w}`: the writer whose `Close` it calls, or `none`
when it returns `nil` without a call. -/
def writerWrapperClose (w : IoWriter) : Option IoWriter := if w.isCloser then some w else none

/-- `ww.Write(p)` on `&writerWrapper{writer: w}`: the writer whose `Write` it calls. -/
def writerWrapperWrite (w : IoWriter) : IoWriter := w

/-! ### One call -/

/-- **The wrapper's methods.** `Wrapped` wraps a writer exactly when it lacks `Flush` or
`Close`, so through the wrapper one of the two returns without calling anything. -/
theorem writerWrapper_noop {w : IoWriter} (h : w.isWriter = false) :
    wrapped w = .wrapper w ∧ (writerWrapperFlush w = none ∨ writerWrapperClose w = none) := by
  refine ⟨by simp [wrapped, h], ?_⟩
  rcases Bool.and_eq_false_iff.mp h with hf | hc
  · exact Or.inl (by simp [writerWrapperFlush, hf])
  · exact Or.inr (by simp [writerWrapperClose, hc])

/-- What `Wrapped` returns is a `Writer`. -/
theorem isWriter_wrapped (w : IoWriter) : (wrapped w).isWriter := by
  unfold wrapped
  split_ifs with h
  · exact h
  · rfl

/-- What `Buffered` returns is a `Writer`. -/
theorem isWriter_buffered (w : IoWriter) : (buffered w).isWriter := by
  unfold buffered
  split_ifs with h
  · exact h
  · rfl

/-! ### A sequence of calls -/

/-- A call of the package on a writer. -/
inductive WrapCall
  /-- `Wrapped(w)` -/
  | wrapped
  /-- `Buffered(w)` -/
  | buffered
  deriving DecidableEq, Repr

/-- The writer a call returns for `w`. -/
def WrapCall.apply : WrapCall → IoWriter → IoWriter
  | .wrapped, w => Logit.wrapped w
  | .buffered, w => Logit.buffered w

/-- Calls made one after the other, each on what the one before returned. -/
def wrapChain (calls : List WrapCall) (w : IoWriter) : IoWriter :=
  calls.foldl (fun w c => c.apply w) w

/-- Every call returns a `Writer`. -/
theorem WrapCall.isWriter_apply (c : WrapCall) (w : IoWriter) : (c.apply w).isWriter := by
  cases c
  · exact isWriter_wrapped w
  · exact isWriter_buffered w

/-- A call returns a `Writer` as it is. -/
theorem WrapCall.apply_of_isWriter (c : WrapCall) {w : IoWriter} (h : w.isWriter) :
    c.apply w = w := by
  cases c <;> simp [apply, Logit.wrapped, Logit.buffered, h]

/-- Calls on a `Writer` return it as it is. -/
theorem wrapChain_of_isWriter (calls : List WrapCall) {w : IoWriter} (h : w.isWriter) :
    wrapChain calls w = w := by
  induction calls with
  | nil => rfl
  | cons c calls ih => simpa only [wrapChain, List.foldl_cons, c.apply_of_isWriter h] using ih

/-- **Only the first call acts.** Whatever the writer and the calls, a sequence of `Wrapped`
and `Buffered` calls returns what its first call returns. -/
theorem wrapChain_cons (c : WrapCall) (calls : List WrapCall) (w : IoWriter) :
    wrapChain (c :: calls) w = c.apply w :=
  wrapChain_of_isWriter calls (c.isWriter_apply w)

end Logit
