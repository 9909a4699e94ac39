import HandlerWiring.Session

/-!
# Running sessions

What the small sessions do to the world they run in, as equations: reporting and printing append,
and change nothing else. A session whose reports are turned into complaints gives the same result
and leaves the same files and prints, since no session asks what was reported or complained.
-/

namespace HandlerWiring

namespace World

/-- The world in which some more events were reported. -/
def reporting (w : World) (events : List Event) : World := { w with events := w.events ++ events }

/-- The world in which a text was printed. -/
def printing (w : World) (text : String) : World := { w with printed := w.printed ++ text }

/-- The world with other files. -/
def holding (w : World) (files : FileSystem) : World := { w with files }

@[simp] theorem files_reporting (w : World) (events : List Event) :
    (w.reporting events).files = w.files := rfl

theorem reporting_nil (w : World) : w.reporting [] = w := by
  rw [reporting, List.append_nil]

/-- Events that are reported later stand behind those reported first. -/
theorem reporting_reporting (w : World) (events events' : List Event) :
    (w.reporting events).reporting events' = w.reporting (events ++ events') := by
  simp only [reporting, List.append_assoc]

@[simp] theorem printed_reporting (w : World) (events : List Event) :
    (w.reporting events).printed = w.printed := rfl

@[simp] theorem files_printing (w : World) (text : String) : (w.printing text).files = w.files :=
  rfl

@[simp] theorem printed_printing (w : World) (text : String) :
    (w.printing text).printed = w.printed ++ text := rfl

@[simp] theorem files_holding (w : World) (files : FileSystem) : (w.holding files).files = files :=
  rfl

@[simp] theorem printed_holding (w : World) (files : FileSystem) :
    (w.holding files).printed = w.printed := rfl

/-- Two worlds that differ at most in what was reported and complained. -/
structure Alike (w w' : World) : Prop where
  files : w.files = w'.files
  printed : w.printed = w'.printed
  elapsed : w.elapsed = w'.elapsed

theorem Alike.refl (w : World) : w.Alike w := ⟨rfl, rfl, rfl⟩

end World

namespace Session

open World

@[simp] theorem run_reportAll (events : List Event) (w : World) :
    (reportAll events).run w = ((), w.reporting events) := by
  induction events generalizing w with
  | nil => simp [reportAll, run, reporting]
  | cons e rest ih =>
    rw [reportAll, run, ih]
    simp [reporting]

@[simp] theorem run_ofLogged (x : Logged α) (w : World) :
    (ofLogged x).run w = (x.value, w.reporting x.events) := by
  simp [ofLogged]

@[simp] theorem run_printLine (line : String) (w : World) :
    (printLine line).run w = ((), w.printing (line ++ "\n")) := rfl

/-- Some lines as a text. -/
def textOfLines : List String → String
  | [] => ""
  | line :: rest => line ++ "\n" ++ textOfLines rest

/-- The lines of two lists in a row. -/
theorem textOfLines_append (lines lines' : List String) :
    textOfLines (lines ++ lines') = textOfLines lines ++ textOfLines lines' := by
  induction lines with
  | nil => rw [List.nil_append, textOfLines, String.empty_append]
  | cons line rest ih =>
    rw [List.cons_append, textOfLines, ih, textOfLines, ← String.append_assoc]

@[simp] theorem run_printLines (lines : List String) (w : World) :
    (printLines lines).run w = ((), w.printing (textOfLines lines)) := by
  induction lines generalizing w with
  | nil => simp [printLines, run, printing, textOfLines]
  | cons line rest ih => simp [printLines, ih, printing, textOfLines, String.append_assoc]

@[simp] theorem run_elapsed (w : World) : (Session.elapsed .done).run w = (w.elapsed, w) := rfl

/-- Turning reports into complaints changes neither the result nor the files nor what is
printed. -/
theorem run_loggingTo (line : Event → Option String) (s : Session α) {w w' : World}
    (alike : w.Alike w') :
    ((s.loggingTo line).run w).1 = (s.run w').1 ∧
      ((s.loggingTo line).run w).2.Alike (s.run w').2 := by
  induction s generalizing w w' with
  | done a => exact ⟨rfl, alike⟩
  | read path next ih =>
    simp only [loggingTo, run]
    rw [alike.files]
    exact ih _ alike
  | makeDirectories path next ih =>
    simp only [loggingTo, run, World.makeDirectories]
    rw [alike.files]
    exact ih _ ⟨rfl, alike.printed, alike.elapsed⟩
  | write path content next ih =>
    simp only [loggingTo, run, World.write]
    rw [alike.files]
    split
    · exact ih _ ⟨rfl, alike.printed, alike.elapsed⟩
    · exact ih _ alike
  | elapsed next ih =>
    simp only [loggingTo, run]
    rw [alike.elapsed]
    exact ih _ alike
  | print text next ih =>
    simp only [loggingTo, run]
    exact ih ⟨alike.files, congrArg (· ++ text) alike.printed, alike.elapsed⟩
  | complain text next ih => exact ih ⟨alike.files, alike.printed, alike.elapsed⟩
  | report event next ih =>
    rw [loggingTo]
    split
    · exact ih ⟨alike.files, alike.printed, alike.elapsed⟩
    · exact ih ⟨alike.files, alike.printed, alike.elapsed⟩

end Session

end HandlerWiring
