import Mathlib
import NamingDirectory.Context.Basic
import NamingDirectory.Proofs.Loading.Steps
import NamingDirectory.Proofs.Path.RoundTrip
import NamingDirectory.Proofs.Tree.Release
import NamingDirectory.Proofs.Tree.Rename

/-!
Calls on a closed node change nothing, except loading records that make one typed value, which
binds it in the node's parent (`closed_node_calls_write_only_whole_loads`).
-/

namespace NamingDirectory

namespace Delimiter

/-- A key that is not empty has a segment. -/
theorem split_ne_nil (delimiter : Delimiter) {key : String} (nonempty : key.isEmpty = false) :
    delimiter.split key ≠ [] := by
  unfold split
  rw [nonempty]
  cases delimiter with
  | literal sep => simpa [cutAt] using @cutAt_go_ne_nil sep.toList key.toList []
  | pattern compiled separator => simp [Pattern.Compiled.split]
  | flat => simp

end Delimiter

namespace Forest

variable {forest : Forest} {n : NodeId}

/-- A closed node cannot be walked through. -/
theorem walk_cons_of_closed (closed : (forest.get n).closed = true) (segment : String)
    (rest : List String) : forest.walk n (segment :: rest) = .error (forest.closedError n) := by
  simp [walk, closed]

/-- No binding of a closed node can be opened for a change. -/
theorem openOwner_of_closed (closed : (forest.get n).closed = true) (path : PathArg)
    (operation : String) : ∃ e, forest.openOwner n path operation = .error e := by
  simp only [openOwner, owner, Bind.bind, Except.bind]
  cases (forest.resolve n path).last? with
  | none => exact ⟨_, rfl⟩
  | some last =>
      cases (forest.resolve n path).parent.segments with
      | nil => exact ⟨forest.closedError n, by simp [walk, Except.map, closed]⟩
      | cons segment rest =>
          exact ⟨forest.closedError n, by simp [walk_cons_of_closed closed, Except.map]⟩

/-- A change that first opens the owner of a path fails on a closed node. -/
theorem openOwner_bind_of_closed {α : Type} (closed : (forest.get n).closed = true)
    (path : PathArg) (operation : String) (change : NodeId × String → Except NamingError α) :
    ∃ e, (forest.openOwner n path operation >>= change) = .error e := by
  obtain ⟨e, failed⟩ := forest.openOwner_of_closed closed path operation
  exact ⟨e, by rw [failed]; rfl⟩

/-- A closed node answers no lookup. -/
theorem lookup_of_closed (closed : (forest.get n).closed = true) (path : PathArg) :
    ∃ e, forest.lookup n path = .error e := by
  simp only [lookup, Bind.bind, Except.bind]
  cases (forest.resolve n path).last? with
  | none => exact ⟨forest.closedError n, by simp [closed]⟩
  | some last =>
      cases (forest.resolve n path).parent.segments with
      | nil => exact ⟨forest.closedError n, by simp [walk, closed]⟩
      | cons segment rest => exact ⟨forest.closedError n, by simp [walk_cons_of_closed closed]⟩

/-! Each change of a binding opens the owner of its path first, and fails there. -/

theorem bind_of_closed (closed : (forest.get n).closed = true) (path : PathArg) (bound : Bound) :
    ∃ e, forest.bind n path bound = .error e := by
  unfold bind
  exact forest.openOwner_bind_of_closed closed path "bind" _

theorem rebind_of_closed (closed : (forest.get n).closed = true) (path : PathArg) (bound : Bound) :
    ∃ e, forest.rebind n path bound = .error e := by
  unfold rebind
  exact forest.openOwner_bind_of_closed closed path "rebind" _

theorem unbind_of_closed (closed : (forest.get n).closed = true) (path : PathArg) :
    ∃ e, forest.unbind n path = .error e := by
  unfold unbind
  exact forest.openOwner_bind_of_closed closed path "unbind" _

theorem createSubnode_of_closed (closed : (forest.get n).closed = true) (path : PathArg) :
    ∃ e, forest.createSubnode n path = .error e := by
  unfold createSubnode
  exact forest.openOwner_bind_of_closed closed path "create" _

theorem destroySubnode_of_closed (closed : (forest.get n).closed = true) (path : PathArg) :
    ∃ e, forest.destroySubnode n path = .error e := by
  unfold destroySubnode
  exact forest.openOwner_bind_of_closed closed path "destroy" _

/-- Rebinding one segment at a node checks only that the node is open. -/
theorem rebind_single (forest : Forest) (owner : NodeId) (segment : String) (bound : Bound) :
    forest.rebind owner (.segments ⟨[segment]⟩) bound =
      if (forest.get owner).closed then .error (forest.closedError owner)
      else .ok (forest.setBinding owner segment bound) := by
  have owned : forest.owner owner (forest.resolve owner (.segments ⟨[segment]⟩)) "rebind" =
      .ok (owner, segment) := rfl
  simp only [rebind, openOwner, owned, Bind.bind, Except.bind]
  cases (forest.get owner).closed <;> rfl

/-- Which nodes live depends only on which nodes are held, not on how often. -/
theorem keepHeldWith_congr {held held' : List NodeId}
    (same : ∀ id, held.contains id = held'.contains id) (fuel : Nat) (living : List NodeId) :
    forest.keepHeldWith held fuel living = forest.keepHeldWith held' fuel living := by
  have rounds : forest.keepHeld held = forest.keepHeld held' := by
    funext living
    simp only [keepHeld, same]
  induction fuel generalizing living with
  | zero => rfl
  | succ fuel ih => simp only [keepHeldWith, rounds, ih]

theorem parent?_cons_self (held : List NodeId) (holder id : NodeId) :
    forest.parent? (holder :: holder :: held) id = forest.parent? (holder :: held) id := by
  have same : ∀ m, (holder :: holder :: held).contains m = (holder :: held).contains m := by
    intro m
    simp only [List.contains_cons]
    cases m == holder <;> rfl
  simp only [parent?, living, keepHeldWith_congr same]

/-- Closing a closed node again changes nothing. -/
theorem close_of_closed (closed : (forest.get n).closed = true) : forest.close n = forest := by
  unfold close release
  split
  · rfl
  · exact releaseWith_succ_of_closed _ forest closed

end Forest

namespace TreeM

variable {α : Type} {forest : Forest}

theorem exec_change_of_error {f : Forest → Except NamingError Forest} {e : NamingError}
    (failed : f forest = .error e) : (TreeM.change f).exec forest = (.error e, forest) := by
  rw [exec_change, failed]

theorem exec_make_of_error {f : Forest → Except NamingError (α × Forest)} {e : NamingError}
    (failed : f forest = .error e) : (TreeM.make f).exec forest = (.error e, forest) := by
  rw [exec_make, failed]

/-- A question leaves the forest as it was. -/
theorem exec_ask_snd (f : Forest → Except NamingError α) (forest : Forest) :
    ((TreeM.ask f).exec forest).2 = forest := by
  rw [exec_ask]
  cases f forest <;> rfl

/-- Dropping the result of an operation leaves the forest it left. -/
theorem exec_bind_unit_snd (x : TreeM α) (forest : Forest) :
    ((x >>= fun _ => pure () : TreeM Unit).exec forest).2 = (x.exec forest).2 := by
  rw [exec_bind]
  cases x.exec forest with
  | mk outcome after => cases outcome <;> rfl

theorem exec_modify (change : Forest → Forest) (forest : Forest) :
    (modify change : TreeM Unit).exec forest = (.ok (), change forest) := rfl

/-- Steps that each leave a forest as it was leave it as it was together. -/
theorem runEach_snd_of_keeps {steps : List (TreeM Unit)}
    (keeps : ∀ step ∈ steps, (step.exec forest).2 = forest) : (runEach steps forest).2 = forest := by
  induction steps with
  | nil => rfl
  | cons step rest ih =>
      simp only [runEach]
      rw [keeps step List.mem_cons_self]
      exact ih fun other mem => keeps other (List.mem_cons_of_mem _ mem)

variable {n : NodeId}

/-- Making the nodes of a path from a closed node gives the node for the empty path, else fails. -/
theorem exec_ensureSegments_of_closed (closed : (forest.get n).closed = true)
    (path : List String) :
    (TreeM.ensureSegments n path).exec forest =
      match path with
      | [] => (.ok n, forest)
      | _ :: _ => (.error (forest.closedError n), forest) := by
  cases path with
  | nil => rfl
  | cons segment rest => exact exec_ensureSegments_closed forest segment rest closed

/-- A rename on a closed node fails and changes nothing. -/
theorem exec_rename_of_closed (closed : (forest.get n).closed = true) (old new : PathArg) :
    ∃ e, (TreeM.rename n old new).exec forest = (.error e, forest) := by
  rw [exec_rename]
  split
  · exact ⟨_, rfl⟩
  · obtain ⟨e, failed⟩ :=
      forest.lookup_of_closed closed (.segments (old.resolve (forest.delimiter n)))
    rw [failed]
    exact ⟨e, rfl⟩

/-- Binding a value at the end of a path fails on a closed node and changes nothing. -/
theorem exec_ensure_bind_of_closed (closed : (forest.get n).closed = true) (dir : Name)
    (segment : String) (v : Value) :
    ∃ e, (TreeM.ensureSubnode n (.segments dir) >>= fun owner =>
      TreeM.change (·.bind owner (.segments ⟨[segment]⟩) (.value v))).exec forest =
        (.error e, forest) := by
  rw [exec_bind, exec_ensureSubnode, show forest.resolve n (.segments dir) = dir from rfl,
    exec_ensureSegments_of_closed closed]
  cases dir.segments with
  | nil => exact ⟨forest.closedError n, by simp [exec_change, Forest.bind_single, closed]⟩
  | cons first rest => exact ⟨_, rfl⟩

end TreeM

namespace Loader

variable {forest : Forest} {n : NodeId}

/-- A leaf's step into a closed node fails and changes nothing. -/
theorem exec_bindLeaf_of_closed (closed : (forest.get n).closed = true) (name : Name)
    (value : RecordValue) : ∃ e, (bindLeaf n name value).exec forest = (.error e, forest) := by
  unfold bindLeaf
  rw [TreeM.exec_bind, TreeM.exec_ask]
  cases lastSegment name with
  | error e => exact ⟨e, rfl⟩
  | ok segment => exact TreeM.exec_ensure_bind_of_closed closed name.parent segment _

/-- A typed entry's step into a closed node fails and changes nothing. -/
theorem exec_bindDescriptor_of_closed (loader : Loader) (closed : (forest.get n).closed = true)
    (d : TypeDescriptor) :
    ∃ e, (loader.bindDescriptor n d).exec forest = (.error e, forest) := by
  unfold bindDescriptor
  rw [TreeM.exec_bind, TreeM.exec_ask]
  cases lastSegment d.path with
  | error e => exact ⟨e, rfl⟩
  | ok segment =>
      simp only
      rw [TreeM.exec_bind, TreeM.exec_ask]
      cases loader.conversion.convert d with
      | error e => exact ⟨e, rfl⟩
      | ok v => exact TreeM.exec_ensure_bind_of_closed closed d.path.parent segment v

/-- Records that make one typed value put it at the target's segment in the node it was made under. -/
theorem exec_replaceNamespace (loader : Loader) (held : List NodeId) (d : TypeDescriptor)
    (target : NodeId) (forest : Forest) :
    (loader.replaceNamespace held d target).exec forest =
      match forest.parent? (target :: held) target with
      | none =>
        (.error (.invalidPath ("cannot replace the root with a '" ++ d.typeName ++ "' value")),
          forest)
      | some p =>
        match loader.conversion.convert d with
        | .error e => (.error e, forest)
        | .ok v =>
          if (forest.get p).closed then (.error (forest.closedError p), forest)
          else (.ok (), forest.setBinding p (forest.get target).localName (.value v)) := by
  unfold replaceNamespace
  rw [TreeM.exec_get_bind]
  cases forest.parent? (target :: held) target with
  | none => rfl
  | some p =>
      simp only
      rw [TreeM.exec_bind, TreeM.exec_pure]
      simp only
      rw [TreeM.exec_bind, TreeM.exec_ask]
      cases loader.conversion.convert d with
      | error e => rfl
      | ok v =>
          simp only
          rw [TreeM.exec_change, Forest.rebind_single]
          cases (forest.get p).closed <;> rfl

/-- Records that make one typed value are loaded by putting it in the target's place. -/
theorem exec_load_whole (loader : Loader) (held : List NodeId) (records : Records)
    (target : NodeId) (forest : Forest) {d : TypeDescriptor}
    (whole : (classify records (forest.delimiter target)).whole = some d) :
    (loader.load held records target).exec forest =
      (loader.replaceNamespace held d target).exec forest := by
  unfold load
  rw [TreeM.exec_get_bind]
  simp only [whole]

/-- Holding the target once more changes nothing about a load into it. -/
theorem exec_load_cons_self (loader : Loader) (held : List NodeId) (records : Records)
    (target : NodeId) (forest : Forest) :
    (loader.load (target :: held) records target).exec forest =
      (loader.load held records target).exec forest := by
  cases whole : (classify records (forest.delimiter target)).whole with
  | none =>
      rw [exec_load loader _ records target forest whole, exec_load loader _ records target forest whole]
  | some d =>
      rw [exec_load_whole loader _ records target forest whole,
        exec_load_whole loader _ records target forest whole, exec_replaceNamespace,
        exec_replaceNamespace, Forest.parent?_cons_self]

/-- Records that do not make one typed value change nothing when loaded into a closed node. -/
theorem exec_load_of_closed (loader : Loader) (held : List NodeId) (records : Records)
    (closed : (forest.get n).closed = true)
    (whole : (classify records (forest.delimiter n)).whole = none) :
    ((loader.load held records n).exec forest).2 = forest := by
  rw [exec_load loader held records n forest whole]
  apply TreeM.runEach_snd_of_keeps
  intro step mem
  rcases List.mem_append.mp mem with plain | typed
  · obtain ⟨leaf, -, rfl⟩ := List.mem_map.mp plain
    obtain ⟨e, failed⟩ := exec_bindLeaf_of_closed closed leaf.1 leaf.2
    rw [failed]
  · obtain ⟨d, -, rfl⟩ := List.mem_map.mp typed
    obtain ⟨e, failed⟩ := exec_bindDescriptor_of_closed loader closed d
    rw [failed]

/-- A source loaded into a closed node changes only what loading its records there changes. -/
theorem loadSource_of_closed (loader : Loader) (held : List NodeId) (source : TextSource)
    (closed : (forest.get n).closed = true) :
    ((loader.loadSource held source n).exec forest).2 =
      if (source.scope.getD "").isEmpty then
        match source.records (forest.delimiter n) with
        | .ok records => ((loader.load held records n).exec forest).2
        | .error _ => forest
      else forest := by
  unfold loadSource
  rw [TreeM.exec_bind, TreeM.exec_ask]
  cases read : source.records (forest.delimiter n) with
  | error e =>
      simp only
      split <;> rfl
  | ok records =>
      simp only
      cases scope : source.scope with
      | none => simp [exec_load_cons_self]
      | some key =>
          cases empty : key.isEmpty
          case true => simp [empty, exec_load_cons_self]
          have segments := (forest.delimiter n).split_ne_nil empty
          simp only [empty, Bool.false_eq_true, if_false, Option.getD_some]
          rw [TreeM.exec_bind, exec_ensureSubnode, TreeM.exec_ensureSegments_of_closed closed]
          cases split : (forest.resolve n (.key key)).segments with
          | nil => exact absurd split segments
          | cons first rest => rfl

end Loader

/-- Closing a handle whose root is closed changes no node. -/
theorem NamingContext.close_forest_of_closed (ctx : NamingContext) (d : Directory)
    (closed : (d.forest.get ctx.root).closed = true) : (ctx.close d).2.forest = d.forest := by
  unfold NamingContext.close
  split
  · rfl
  · cases ctx.registry <;> exact Forest.releaseWith_succ_of_closed _ _ closed

/-- A call made on a node by a caller holding it. -/
inductive NodeCall where
  | lookup (path : PathArg)
  | lookupValue (path : PathArg)
  | bind (path : PathArg) (bound : Bound)
  | rebind (path : PathArg) (bound : Bound)
  | unbind (path : PathArg)
  | rename (old new : PathArg)
  | list (path : PathArg)
  | listBindings (path : PathArg)
  | createSubnode (path : PathArg)
  | ensureSubnode (path : PathArg)
  | destroySubnode (path : PathArg)
  | close
  | load (records : Records)
  | loadSource (source : TextSource)

namespace NodeCall

/-- The call as the node `n` runs it; `held` are the nodes held from outside the forest. -/
def run (loader : Loader) (held : List NodeId) (n : NodeId) : NodeCall → TreeM Unit
  | .lookup path => TreeM.ask (·.lookup n path) >>= fun _ => pure ()
  | .lookupValue path => TreeM.ask (·.lookupValue n path) >>= fun _ => pure ()
  | .bind path bound => TreeM.change (·.bind n path bound)
  | .rebind path bound => TreeM.change (·.rebind n path bound)
  | .unbind path => TreeM.change (·.unbind n path)
  | .rename old new => TreeM.rename n old new
  | .list path => TreeM.ask (·.list n path) >>= fun _ => pure ()
  | .listBindings path => TreeM.ask (·.listBindings n path) >>= fun _ => pure ()
  | .createSubnode path => TreeM.make (·.createSubnode n path) >>= fun _ => pure ()
  | .ensureSubnode path => TreeM.ensureSubnode n path >>= fun _ => pure ()
  | .destroySubnode path => TreeM.change (·.destroySubnode n path)
  | .close => modify (·.close n)
  | .load records => loader.load held records n
  | .loadSource source => loader.loadSource held source n

/-- The records the call loads into the node itself, if any. -/
def records? (forest : Forest) (n : NodeId) : NodeCall → Option Records
  | .load records => some records
  | .loadSource source =>
    if (source.scope.getD "").isEmpty then (source.records (forest.delimiter n)).toOption
    else none
  | _ => none

/-- The call loads into `n` a value that converts to `v`, and `n`'s parent `p` lives and is open. -/
def LoadsWhole (loader : Loader) (held : List NodeId) (forest : Forest) (n p : NodeId)
    (v : Value) (call : NodeCall) : Prop :=
  ∃ records d, call.records? forest n = some records ∧
    (classify records (forest.delimiter n)).whole = some d ∧
    loader.conversion.convert d = .ok v ∧
    forest.parent? (n :: held) n = some p ∧ (forest.get p).closed = false

variable {loader : Loader} {held : List NodeId} {forest : Forest} {n : NodeId}

/-- A call on a closed node that loads nothing into it changes nothing. -/
theorem run_of_records?_none (closed : (forest.get n).closed = true) (call : NodeCall)
    (loadsNothing : call.records? forest n = none) :
    ((call.run loader held n).exec forest).2 = forest := by
  cases call with
  | lookup path => rw [run, TreeM.exec_bind_unit_snd, TreeM.exec_ask_snd]
  | lookupValue path => rw [run, TreeM.exec_bind_unit_snd, TreeM.exec_ask_snd]
  | list path => rw [run, TreeM.exec_bind_unit_snd, TreeM.exec_ask_snd]
  | listBindings path => rw [run, TreeM.exec_bind_unit_snd, TreeM.exec_ask_snd]
  | bind path bound =>
      obtain ⟨e, failed⟩ := forest.bind_of_closed closed path bound
      rw [run, TreeM.exec_change_of_error failed]
  | rebind path bound =>
      obtain ⟨e, failed⟩ := forest.rebind_of_closed closed path bound
      rw [run, TreeM.exec_change_of_error failed]
  | unbind path =>
      obtain ⟨e, failed⟩ := forest.unbind_of_closed closed path
      rw [run, TreeM.exec_change_of_error failed]
  | destroySubnode path =>
      obtain ⟨e, failed⟩ := forest.destroySubnode_of_closed closed path
      rw [run, TreeM.exec_change_of_error failed]
  | createSubnode path =>
      obtain ⟨e, failed⟩ := forest.createSubnode_of_closed closed path
      rw [run, TreeM.exec_bind_unit_snd, TreeM.exec_make_of_error failed]
  | rename old new =>
      obtain ⟨e, failed⟩ := TreeM.exec_rename_of_closed closed old new
      rw [run, failed]
  | ensureSubnode path =>
      rw [run, TreeM.exec_bind_unit_snd, exec_ensureSubnode,
        TreeM.exec_ensureSegments_of_closed closed]
      split <;> rfl
  | close => rw [run, TreeM.exec_modify, Forest.close_of_closed closed]
  | load records => cases loadsNothing
  | loadSource source =>
      rw [run, Loader.loadSource_of_closed loader held source closed]
      simp only [records?] at loadsNothing
      split at loadsNothing
      · rename_i inPlace
        cases read : source.records (forest.delimiter n) with
        | error e => simp [inPlace]
        | ok records => simp [Except.toOption, read] at loadsNothing
      · rename_i inPlace
        simp [inPlace]

/-- A call on a closed node that loads records into it changes what loading them does. -/
theorem run_of_records?_some (closed : (forest.get n).closed = true) (call : NodeCall)
    {records : Records} (loads : call.records? forest n = some records) :
    ((call.run loader held n).exec forest).2 = ((loader.load held records n).exec forest).2 := by
  cases call with
  | load loaded =>
      cases loads
      rfl
  | loadSource source =>
      rw [run, Loader.loadSource_of_closed loader held source closed]
      simp only [records?] at loads
      split at loads
      · rename_i inPlace
        cases read : source.records (forest.delimiter n) with
        | error e => simp [Except.toOption, read] at loads
        | ok loaded =>
            simp only [read, Except.toOption, Option.some.injEq] at loads
            subst loads
            simp [inPlace]
      · cases loads
  | _ => cases loads

end NodeCall

/-- Every call on a closed node leaves every node as it was, but a load of records that make one
typed value, which binds it in the node's living, open parent when it converts. -/
theorem closed_node_calls_write_only_whole_loads (loader : Loader) (held : List NodeId)
    {forest : Forest} {n : NodeId} (closed : (forest.get n).closed = true) :
    (∀ call : NodeCall,
      (∀ p v, call.LoadsWhole loader held forest n p v →
        ((call.run loader held n).exec forest).2 =
          forest.setBinding p (forest.get n).localName (.value v)) ∧
      ((∀ p v, ¬ call.LoadsWhole loader held forest n p v) →
        ((call.run loader held n).exec forest).2 = forest)) ∧
    ∀ (ctx : NamingContext) (d : Directory), d.forest = forest → ctx.root = n →
      (ctx.close d).2.forest = forest := by
  refine ⟨fun call => ?_, fun ctx d inDirectory root => ?_⟩
  · cases loads : call.records? forest n with
    | none =>
        refine ⟨fun p v ⟨records, _, found, _⟩ => ?_,
          fun _ => NodeCall.run_of_records?_none closed call loads⟩
        rw [loads] at found
        cases found
    | some records =>
        rw [NodeCall.run_of_records?_some closed call loads]
        cases whole : (classify records (forest.delimiter n)).whole with
        | none =>
            refine ⟨fun p v ⟨records', d, found, typed, _⟩ => ?_,
              fun _ => Loader.exec_load_of_closed loader held records closed whole⟩
            rw [loads] at found
            cases found
            rw [whole] at typed
            cases typed
        | some d =>
            rw [Loader.exec_load_whole loader held records n forest whole,
              Loader.exec_replaceNamespace]
            refine ⟨fun p v ⟨records', d', found, typed, converted, parent, isOpen⟩ => ?_,
              fun never => ?_⟩
            · rw [loads] at found
              cases found
              rw [whole] at typed
              cases typed
              simp [parent, converted, isOpen]
            · -- The value is bound in the parent only when every condition holds.
              cases parent : forest.parent? (n :: held) n with
              | none => rfl
              | some p =>
                  cases converted : loader.conversion.convert d with
                  | error e => rfl
                  | ok v =>
                      cases isOpen : (forest.get p).closed
                      · exact absurd ⟨records, d, loads, whole, converted, parent, isOpen⟩
                          (never p v)
                      · simp [isOpen]
  · subst root inDirectory
    exact ctx.close_forest_of_closed d closed

/-- A root `0` that cuts no key, with the node `1` made under it as `a` and destroyed again. -/
def destroyedSample : Forest :=
  ((do
      let _ ← TreeM.make (·.createSubnode 0 (.segments ⟨["a"]⟩))
      TreeM.change (·.destroySubnode 0 (.segments ⟨["a"]⟩)) : TreeM Unit).exec
    (({} : Forest).addRoot { delimiter := .flat }).2).2

/-- Records that make one value of the type `zzz`, which no converter knows. -/
def wholeSample : Records := ⟨[("type", .single "zzz")]⟩

/-- Loading them into the destroyed node, with the root held, binds a reference at `a` in the root. -/
theorem whole_load_into_destroyed_node_binds_in_parent :
    (destroyedSample.get 1).closed = true ∧
      (((NodeCall.load wholeSample).run {} [0] 1).exec destroyedSample).2 =
        destroyedSample.setBinding 0 "a" (.value (.reference ⟨"zzz", .empty⟩)) := by
  have closed : (destroyedSample.get 1).closed = true := rfl
  refine ⟨closed, ((closed_node_calls_write_only_whole_loads {} [0] closed).1
    (.load wholeSample)).1 0 _ ⟨wholeSample, ⟨Name.empty, "zzz", none, none, .empty⟩, rfl, ?_, rfl,
      rfl, rfl⟩⟩
  rfl

/-- The destroyed node stays closed, yet a load into it gives the root a binding it had lost. -/
theorem whole_load_into_destroyed_node_changes_root :
    (destroyedSample.get 1).closed = true ∧
      (destroyedSample.get 0).bindings.contains "a" = false ∧
      ((((NodeCall.load wholeSample).run {} [0] 1).exec destroyedSample).2.get 0).bindings.contains
        "a" = true := by
  refine ⟨rfl, rfl, ?_⟩
  rfl

end NamingDirectory
