import NamingDirectory.Context.Basic

/-!
Scripts that drive a directory and write lines, stopping at their first failure.
-/

namespace NamingDirectory

/-- A directory and the text written so far. -/
structure Transcript where
  directory : Directory := {}
  output : String := ""
  deriving Inhabited

/-- Scripts over a directory that write text. -/
abbrev ScriptM := ExceptT NamingError (StateM Transcript)

namespace ScriptM

/-- Writes a line. -/
def say (line : String) : ScriptM Unit :=
  modify fun t => { t with output := t.output ++ line ++ "\n" }

/-- Runs an operation on the directory. -/
def onDirectory {α : Type} (step : DirectoryM α) : ScriptM α := do
  let t ← get
  let (result, d) := (step.run.run t.directory).run
  set { t with directory := d }
  match result with
  | .ok a => pure a
  | .error e => throw e

/-- Runs an operation on the forest. -/
def onForest {α : Type} (step : TreeM α) : ScriptM α := onDirectory (DirectoryM.onForest step)

/-- Asks the forest. -/
def ask {α : Type} (question : Forest → Except NamingError α) : ScriptM α :=
  onForest (TreeM.ask question)

/-- Whether the script ran to its end, and what it wrote. -/
def transcript (script : ScriptM Unit) : Bool × String :=
  let (result, t) := (script.run.run {}).run
  (result.toOption.isSome, t.output)

end ScriptM

/-- The debug text of a list of texts: each quoted, in brackets. -/
def quotedList (items : List String) : String :=
  "[" ++ ", ".intercalate (items.map Text.quote) ++ "]"

end NamingDirectory
