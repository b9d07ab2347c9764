import Mathlib
import NamingDirectory.Proofs.Tree.Find

/-!
Renaming is not atomic: it unbinds the old path before it binds the new one
(`rename_failure_unbinds_iff`).
-/

namespace NamingDirectory

/-- A rename runs its steps in order and keeps what the unbind changed when the bind fails. -/
theorem exec_rename (forest : Forest) (start : NodeId) (old new : PathArg) :
    (TreeM.rename start old new).exec forest =
      if (old.resolve (forest.delimiter start)).isEmpty ||
          (new.resolve (forest.delimiter start)).isEmpty then
        (.error (.invalidPath "cannot rename an empty name"), forest)
      else match forest.lookup start (.segments (old.resolve (forest.delimiter start))) with
        | .error e => (.error e, forest)
        | .ok bound =>
          if (forest.lookup start
              (.segments (new.resolve (forest.delimiter start)))).toOption.isSome
          then
            (.error (.alreadyBound ((new.resolve (forest.delimiter start)).join
              (forest.delimiter start))), forest)
          else match forest.unbind start (.segments (old.resolve (forest.delimiter start))) with
            | .error e => (.error e, forest)
            | .ok unbound =>
              match unbound.bind start (.segments (new.resolve (forest.delimiter start))) bound with
              | .ok moved => (.ok (), moved)
              | .error e => (.error e, unbound) := by
  simp only [TreeM.rename, TreeM.exec_get_bind]
  split
  · simp
  · rw [TreeM.exec_bind, TreeM.exec_ask]
    cases forest.lookup start (.segments (old.resolve (forest.delimiter start))) with
    | error e => rfl
    | ok bound =>
        simp only [TreeM.exec_get_bind]
        split
        · simp
        · rw [TreeM.exec_bind, TreeM.exec_change]
          cases forest.unbind start (.segments (old.resolve (forest.delimiter start))) with
          | error e => rfl
          | ok unbound =>
              cases moved : unbound.bind start (.segments (new.resolve (forest.delimiter start)))
                bound <;> simp only [TreeM.exec_change, moved]

/-- A successful unbind changes the forest: the name it removes was bound. -/
theorem Forest.unbind_ne {forest : Forest} {start : NodeId} {path : PathArg} {unbound : Forest}
    (ok : forest.unbind start path = .ok unbound) : unbound ≠ forest := by
  unfold Forest.unbind at ok
  cases opened : forest.openOwner start path "unbind" with
  | error e => simp [opened, Bind.bind, Except.bind] at ok
  | ok pair =>
      obtain ⟨o, segment⟩ := pair
      simp only [opened, Bind.bind, Except.bind] at ok
      split at ok
      · rename_i present
        cases ok
        intro same
        have valid : o < forest.nodes.size := by
          by_contra beyond
          rw [forest.get_of_size_le (not_lt.mp beyond)] at present
          have empty : (default : Node).bindings.entries = [] := rfl
          simp [OrderedMap.contains, empty] at present
        have erased := congrArg (fun f : Forest => (f.get o).bindings.contains segment) same
        simp [Forest.get_eraseBinding, valid, present] at erased
      · cases ok

/-- A failed rename changed the forest exactly when the old path was bound, the new one led nowhere,
and binding it failed once the old binding was gone. -/
theorem rename_failure_unbinds_iff (forest : Forest) (start : NodeId) (old new : PathArg)
    {e : NamingError} {after : Forest}
    (failed : (TreeM.rename start old new).exec forest = (.error e, after)) :
    after ≠ forest ↔
      ∃ bound,
        forest.lookup start (.segments (old.resolve (forest.delimiter start))) = .ok bound ∧
        (forest.lookup start (.segments (new.resolve (forest.delimiter start)))).toOption = none ∧
        forest.unbind start (.segments (old.resolve (forest.delimiter start))) = .ok after ∧
        after.bind start (.segments (new.resolve (forest.delimiter start))) bound = .error e := by
  rw [exec_rename] at failed
  constructor
  · intro changed
    have kept : ∀ e',
        (Except.error e', forest) ≠ ((.error e, after) : Except NamingError Unit × Forest) :=
      fun e' same => changed (Prod.mk.inj same).2.symm
    split at failed
    · exact absurd failed (kept _)
    · cases looked : forest.lookup start (.segments (old.resolve (forest.delimiter start))) with
      | error e' =>
          rw [looked] at failed
          exact absurd failed (kept e')
      | ok bound =>
          rw [looked] at failed
          simp only at failed
          split at failed
          · exact absurd failed (kept _)
          · rename_i free
            cases unbound : forest.unbind start (.segments (old.resolve (forest.delimiter start)))
              with
            | error e' =>
                rw [unbound] at failed
                exact absurd failed (kept e')
            | ok unbound' =>
                rw [unbound] at failed
                simp only at failed
                cases moved : unbound'.bind start (.segments (new.resolve (forest.delimiter start)))
                    bound with
                | ok f => simp [moved] at failed
                | error e' =>
                    rw [moved] at failed
                    obtain ⟨same, rfl⟩ := Prod.mk.inj failed
                    cases same
                    exact ⟨bound, rfl, Option.not_isSome_iff_eq_none.mp free, rfl, moved⟩
  · rintro ⟨bound, -, -, unbound, -⟩
    exact Forest.unbind_ne unbound

/-- A root with `a` bound to a text. -/
def renameSample : Forest :=
  ((({} : Forest).addRoot {}).2).setBinding 0 "a" (.value (.text "1"))

/-- Renaming `a`, bound, to `z.y` with `z` unbound fails with `z` not found and leaves `a` unbound. -/
theorem rename_into_missing_directory_loses_binding :
    renameSample.lookup 0 (.segments ⟨["a"]⟩) = .ok (.value (.text "1")) ∧
      (TreeM.rename 0 (.segments ⟨["a"]⟩) (.segments ⟨["z", "y"]⟩)).exec renameSample =
        (.error (.notFound "z"), renameSample.eraseBinding 0 "a") ∧
      (renameSample.eraseBinding 0 "a").lookup 0 (.segments ⟨["a"]⟩) = .error (.notFound "a") :=
  ⟨rfl, rfl, rfl⟩

/-- That failure changes the forest: `a` resolves to a binding, `z.y` to nothing, and the bind fails. -/
theorem rename_into_missing_directory_unbinds :
    (TreeM.rename 0 (.segments ⟨["a"]⟩) (.segments ⟨["z", "y"]⟩)).exec renameSample =
        (.error (.notFound "z"), renameSample.eraseBinding 0 "a") ∧
      renameSample.eraseBinding 0 "a" ≠ renameSample := by
  have failed :
      (TreeM.rename 0 (.segments ⟨["a"]⟩) (.segments ⟨["z", "y"]⟩)).exec renameSample =
      (.error (.notFound "z"), renameSample.eraseBinding 0 "a") := rfl
  exact ⟨failed, (rename_failure_unbinds_iff renameSample 0 _ _ failed).mpr
    ⟨.value (.text "1"), rfl, rfl, rfl, rfl⟩⟩

end NamingDirectory
