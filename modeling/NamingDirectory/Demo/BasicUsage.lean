import NamingDirectory.Demo.Transcript

/-!
A tour of the basic operations on a private tree with `/` as delimiter.
-/

namespace NamingDirectory.Demo

open ScriptM

/-- The text of a failure. -/
def failureText (e : NamingError) : String := (e.message?).getD e.kind

/-- The tour. -/
def basicUsage : ScriptM Unit := do
  say "=== nametree: Basic Usage ===\n"
  let ctx ← onDirectory (({ config := { delimiter := "/" } } : ContextBuilder).build [])
  let root := ctx.root
  say "--- Example 1: Binding ---"
  discard <| onForest (TreeM.make (·.createSubnode root (.key "services")))
  discard <| onForest (TreeM.make (·.createSubnode root (.key "services/mail")))
  onForest (TreeM.change (·.bind root (.key "services/mail/host") (.value (.text "smtp.example.com"))))
  onForest (TreeM.change (·.bind root (.key "services/mail/port") (.value (.integer 587))))
  say ("✓ services/mail/host = " ++ (← ask (·.lookupValue root (.key "services/mail/host"))).display)
  let again ← tryCatch (do
      onForest (TreeM.change (·.bind root (.key "services/mail/host") (.value (.text "other.example.com"))))
      pure none) fun e => pure (some e)
  match again with
  | none => say "✗ second bind unexpectedly succeeded"
  | some e => say ("✓ second bind refused: " ++ failureText e)
  onForest (TreeM.change (·.rebind root (.key "services/mail/host") (.value (.text "relay.example.com"))))
  say ("✓ after rebind: " ++ (← ask (·.lookupValue root (.key "services/mail/host"))).display)
  say "\n--- Example 2: Listing ---"
  let forest := (← get).directory.forest
  for (name, bound) in ← ask (·.listBindings root (.key "services/mail")) do
    match bound with
    | .value v => say ("  " ++ name ++ " = " ++ v.display)
    | .node id => say ("  " ++ name ++ "/ (" ++ forest.name id ++ ")")
  say "\n--- Example 3: Rename and Unbind ---"
  onForest (TreeM.rename root (.key "services/mail/port") (.key "services/mail/submission"))
  say ("✓ names now: " ++ quotedList (← ask (·.list root (.key "services/mail"))))
  onForest (TreeM.change (·.unbind root (.key "services/mail/submission")))
  say ("✓ names now: " ++ quotedList (← ask (·.list root (.key "services/mail"))))
  say "\n--- Example 4: Loading ---"
  onForest (ctx.loadText [root] .ini "[cache]\nsize=64 # entries\nnodes=a\nnodes=b\n")
  say ("✓ cache/size = " ++ (← ask (·.lookupValue root (.key "cache/size"))).display)
  say ("✓ cache/nodes = " ++ (← ask (·.lookupValue root (.key "cache/nodes"))).display)
  say "\n--- Example 5: Teardown ---"
  onForest (TreeM.change (·.destroySubnode root (.key "services")))
  say ("✓ top-level names: " ++ quotedList (← ask (·.list root (.key ""))))
  let ctx ← onDirectory (modifyGet fun d => ctx.close d)
  discard <| onDirectory (modifyGet fun d => ctx.close d)
  say "✓ closed twice without error"

end NamingDirectory.Demo
