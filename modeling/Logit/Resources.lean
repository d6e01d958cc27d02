import Logit.Handler

/-!
# Resources over a Run of `NewHandler` Calls

`Config.NewHandler` can leave two things behind that outlive the call: the log file
`newFile` opens and the auto-sync goroutine `newWriter` starts. The library never closes the
one nor stops the other, on success or on failure. A program that builds handlers calls
`NewHandler` again and again, each call succeeding or failing; this module bounds what such a
run leaves in the `World`, from any starting world and whatever the calls return.

The bound is stated as sublists: the files opened by a run are, in order, among the paths of
the calls with target `file`, and the periods of the goroutines started are, in order, among
the `AutoSync` periods of the calls. In particular a run opens at most one file and starts at
most one goroutine per call.

## Main results

* `newHandler_leaves`: one call, whatever its outcome, opens at most its own log file,
  starts at most the goroutine of its own `AutoSync` period, and leaves the registry alone.
* `runNewHandler_resources`: the same bound over any run of calls.
-/

namespace Logit

/-- The log file a call may open: its path, when the target is `file`. -/
def Config.openedFile (c : Config) : Option String :=
  if c.writer.target = "file" then some c.file.path else none

/-- The period of the goroutine a call may start: its `AutoSync`, when that is set and
parses. -/
def Config.syncPeriod (c : Config) : Option Duration :=
  if c.writer.autoSync ≠ "" then (parseDuration c.writer.autoSync).toOption else none

/-- A program's run: `NewHandler` on each configuration in turn, whatever each call
returns. -/
def runNewHandler (os : Os) : List Config → World → World
  | [], w => w
  | c :: cs, w => runNewHandler os cs ((c.newHandler os).run.run w).2

/-! ### One call -/

/-- The registry lookup of `NewHandler` changes nothing: a call leaves the world its
`newWriter` leaves. -/
theorem newHandler_state (os : Os) (c : Config) (w : World) :
    ((c.newHandler os).run.run w).2 = ((c.newWriter os).run.run w).2 := by
  rw [Config.newHandler, Setup.run_bind]
  rcases (c.newWriter os).run.run w with ⟨_ | v, w₁⟩
  · rfl
  · exact congrArg Prod.snd (newHandler_run _ _ _ _)

/-- `AutoSync` parses only when it is set. -/
theorem syncPeriod_of_parseDuration {c : Config} {d : Duration}
    (hd : parseDuration c.writer.autoSync = .ok d) : c.syncPeriod = some d := by
  have hne : c.writer.autoSync ≠ "" := fun h => by rw [h] at hd; exact nomatch hd
  simp [Config.syncPeriod, hne, hd, Except.toOption]

/-- **One call.** Whatever its outcome, a call of `NewHandler` leaves the registry alone,
opens at most its own log file, and starts at most the goroutine of its own `AutoSync`
period. -/
theorem newHandler_leaves (os : Os) (c : Config) (w : World) :
    ((c.newHandler os).run.run w).2.handlers = w.handlers ∧
      (∃ fs, ((c.newHandler os).run.run w).2.openFiles = w.openFiles ++ fs ∧
        fs.Sublist c.openedFile.toList) ∧
      ∃ ts, ((c.newHandler os).run.run w).2.syncTasks = w.syncTasks ++ ts ∧
        (ts.map SyncTask.period).Sublist c.syncPeriod.toList := by
  have file : ∀ {w₁ : World},
      (w₁ = w ∨ c.writer.target = "file" ∧ w₁ = w.addFile c.file.path) →
      w₁.handlers = w.handlers ∧ w₁.syncTasks = w.syncTasks ∧
        ∃ fs, w₁.openFiles = w.openFiles ++ fs ∧ fs.Sublist c.openedFile.toList := by
    rintro w₁ (rfl | ⟨hf, rfl⟩)
    · exact ⟨rfl, rfl, [], by simp, List.nil_sublist _⟩
    · exact ⟨rfl, rfl, [c.file.path], rfl, by simp [Config.openedFile, hf]⟩
  rw [newHandler_state]
  rcases h : (c.newWriter os).run.run w with ⟨_ | v, w'⟩
  · obtain ⟨hh, ht, hfs⟩ := file (newWriter_error h)
    exact ⟨hh, hfs, [], by simp [ht], List.nil_sublist _⟩
  · obtain ⟨w₁, hw₁, hw'⟩ := newWriter_ok h
    obtain ⟨hh, ht, hfs⟩ := file hw₁
    rcases hw' with rfl | ⟨d, hd, rfl⟩
    · exact ⟨hh, hfs, [], by simp [ht], List.nil_sublist _⟩
    · exact ⟨hh, hfs, [⟨.writer v, d⟩], by simp [World.addTask, ht],
        by simp [syncPeriod_of_parseDuration hd]⟩

/-! ### A run of calls -/

/-- What a call contributes to a `filterMap` comes first. -/
theorem filterMap_cons_toList {α β : Type} (f : α → Option β) (a : α) (as : List α) :
    (a :: as).filterMap f = (f a).toList ++ as.filterMap f := by
  cases h : f a <;> simp [List.filterMap_cons, h]

/-- **Resources of a run.** After any run of `NewHandler` calls, from any world and whatever
each call returns, the registry is as it was, the files opened are among the paths of the
calls with target `file`, and the goroutines started have, in order, periods among the
`AutoSync` periods of the calls. -/
theorem runNewHandler_resources (os : Os) (cs : List Config) (w : World) :
    (runNewHandler os cs w).handlers = w.handlers ∧
      (∃ fs, (runNewHandler os cs w).openFiles = w.openFiles ++ fs ∧
        fs.Sublist (cs.filterMap Config.openedFile)) ∧
      ∃ ts, (runNewHandler os cs w).syncTasks = w.syncTasks ++ ts ∧
        (ts.map SyncTask.period).Sublist (cs.filterMap Config.syncPeriod) := by
  induction cs generalizing w with
  | nil =>
    exact ⟨rfl, ⟨[], (List.append_nil _).symm, List.nil_sublist _⟩,
      [], (List.append_nil _).symm, List.nil_sublist _⟩
  | cons c cs ih =>
    obtain ⟨hh₁, ⟨fs₁, hfs₁, hf₁⟩, ts₁, hts₁, ht₁⟩ := newHandler_leaves os c w
    obtain ⟨hh, ⟨fs, hfs, hf⟩, ts, hts, ht⟩ := ih ((c.newHandler os).run.run w).2
    refine ⟨hh.trans hh₁, ⟨fs₁ ++ fs, ?_, ?_⟩, ts₁ ++ ts, ?_, ?_⟩
    · rw [runNewHandler, hfs, hfs₁, List.append_assoc]
    · rw [filterMap_cons_toList]
      exact hf₁.append hf
    · rw [runNewHandler, hts, hts₁, List.append_assoc]
    · rw [filterMap_cons_toList, List.map_append]
      exact ht₁.append ht

end Logit
