import NamingDirectory.Demo.BasicUsage
import NamingDirectory.Conversion.Plugins
import NamingDirectory.Number.Integer

/-!
A tour of typed records on a shared tree.
-/

namespace NamingDirectory.Demo

open ScriptM

/-- Builds connection pools, with a url and a size defaulting to one, for entries of type `pool`. -/
def poolFactory : ObjectFactory := ⟨fun d =>
  if d.typeName != "pool" then .ok none
  else
    match IntegerType.uint64.read ((d.attribute? "size").getD "1") with
    | .ok size =>
      .ok (some (.object ⟨0, "Pool", [("url", (d.attribute? "url").getD ""), ("size", toString size)]⟩))
    | .error e => .error (.conversionFailure d.label "pool" e.message)⟩

/-- The settings of the application. -/
def appRecords : String :=
  "app.name=demo\napp.debug.type=boolean\napp.debug=yes\napp.workers.type=integer\n" ++
  "app.workers=4\napp.started.type=date\napp.started=2024-05-01T08:30:00\napp.motd.type=text\n" ++
  "app.motd.converter=shout\napp.motd=welcome\napp.pool.type=pool\n" ++
  "app.pool.url=postgres://localhost/app\napp.pool.size=8\n"

/-- A data source described as a whole. -/
def dataSourceRecords : String :=
  "type=datasource\nurl=postgres://localhost/reports\nuser=reporter\n"

/-- The tour. -/
def typedRecords : ScriptM Unit := do
  say "=== nametree: Typed Records ===\n"
  let registry ← onDirectory (modifyGet fun d => d.addRegistry)
  let conversion := (ConversionService.standard.registerPlugin "shout" Converter.upperCase).setFactory
    poolFactory
  let sources := [TextSource.new .properties appRecords,
    { TextSource.new .properties dataSourceRecords with scope := some "jdbc.reports" }]
  let builder : ContextBuilder := {
    config := { root := "demo", shared := true }, registry := some registry,
    conversion := conversion, sources := sources }
  let ctx ← onDirectory (builder.build [])
  let root := ctx.root
  say "--- Converted values ---"
  for name in ["app.name", "app.debug", "app.workers", "app.started", "app.motd"] do
    let value ← ask (·.lookupValue root (.key name))
    say ("  " ++ name ++ " = " ++ value.display ++ " (" ++ value.kind ++ ")")
  say "\n--- Object factory ---"
  match ← ask (·.lookupValue root (.key "app.pool")) with
  | .object pool =>
    if pool.typeName == "Pool" then
      say ("  app.pool -> " ++ ((pool.fields.lookup "url").getD "") ++ " with " ++
        ((pool.fields.lookup "size").getD "") ++ " connections")
  | _ => pure ()
  say "\n--- Namespace replaced by a reference ---"
  match ← ask (·.lookupValue root (.key "jdbc.reports")) with
  | .reference r =>
    say ("  jdbc.reports is a '" ++ r.typeName ++ "' reference")
    for (key, value) in r.properties.entries do
      say ("    " ++ key ++ " = " ++ value)
  | _ => pure ()
  say "\n--- Shared handles ---"
  let second : ContextBuilder := { config := { root := "demo", shared := true }, registry := some registry }
  let other ← onDirectory (second.build [root])
  onForest (TreeM.change (·.bind other.root (.key "app.owner") (.value (.text "ops"))))
  say ("  first handle sees app.owner = " ++ (← ask (·.lookupValue root (.key "app.owner"))).display)
  discard <| onDirectory (modifyGet fun d => ctx.close d)
  say ("  registry holds 'demo' after close: " ++
    toString (((← get).directory.registry registry).contains "demo"))

end NamingDirectory.Demo
