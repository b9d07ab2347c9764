import NamingDirectory.Demo.TypedRecords

/-!
Command line: runs the demonstration the first argument names.
-/

/-- Runs the named demonstration; the exit code tells whether it ran to its end. -/
def main (args : List String) : IO UInt32 := do
  let script? := match args with
    | ["basic_usage"] => some NamingDirectory.Demo.basicUsage
    | ["typed_records"] => some NamingDirectory.Demo.typedRecords
    | _ => none
  match script? with
  | some script =>
    let (success, output) := NamingDirectory.ScriptM.transcript script
    IO.print output
    return (if success then 0 else 1)
  | none =>
    IO.eprintln "usage: main basic_usage|typed_records"
    return 2
