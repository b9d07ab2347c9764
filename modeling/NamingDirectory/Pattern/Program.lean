import NamingDirectory.Pattern.Syntax

/-!
A regular expression compiled into a program of a machine whose forks prefer their first successor.
-/

namespace NamingDirectory.Pattern

open NamingDirectory.Unicode

/-- One instruction; successors are addresses in the program. -/
inductive Inst where
  | consume (set : CharRanges) (next : Nat)
  | look (test : Look) (next : Nat)
  | fork (preferred other : Nat)
  | goto (next : Nat)
  | accept
  deriving Repr, Inhabited

/-- A program and the address where it starts. -/
structure Program where
  insts : Array Inst
  entry : Nat
  deriving Repr, Inhabited

/-- Appends an instruction and returns its address. -/
def emit (inst : Inst) : StateM (Array Inst) Nat :=
  modifyGet fun insts => (insts.size, insts.push inst)

/-- Replaces the instruction at an address. -/
def patch (address : Nat) (inst : Inst) : StateM (Array Inst) Unit :=
  modify fun insts => insts.set! address inst

/-- A fork that prefers `body` when greedy and `exit` otherwise. -/
def choice (greedy : Bool) (body exit : Nat) : Inst :=
  if greedy then .fork body exit else .fork exit body

/-- Compiles `regex` so that a match continues at `next`; returns the entry address. -/
def compileTo (regex : Regex) (next : Nat) : StateM (Array Inst) Nat :=
  match regex with
  | .empty => return next
  | .literal text => compileText text next
  | .chars set => emit (.consume set next)
  | .look test => emit (.look test next)
  | .capture body => compileTo body next
  | .concat parts => compileParts parts next
  | .alternation branches => do
    let entries ← compileBranches branches next
    match entries.reverse with
    | [] => return next
    | last :: earlier =>
      earlier.foldlM (fun acc entry => emit (.fork entry acc)) last
  | .repetition body min max greedy => do
    let tail ← match max with
      | none => do
        let loop ← emit (.goto next)
        let bodyEntry ← compileTo body loop
        patch loop (choice greedy bodyEntry next)
        pure loop
      | some most => compileOptional body (most - min) greedy next
    compileCopies body min tail
termination_by (sizeOf regex, 0)
decreasing_by all_goals (simp_wf; try omega)
where
  /-- Compiles the characters of a literal one after another, the last first. -/
  compileText (text : List Char) (next : Nat) : StateM (Array Inst) Nat :=
    match text with
    | [] => return next
    | c :: rest => do
      let restEntry ← compileText rest next
      emit (.consume (CharRanges.single c) restEntry)
  termination_by (0, text.length)
  /-- Compiles parts one after another, the last first. -/
  compileParts (parts : List Regex) (next : Nat) : StateM (Array Inst) Nat :=
    match parts with
    | [] => return next
    | part :: rest => do
      let restEntry ← compileParts rest next
      compileTo part restEntry
  termination_by (sizeOf parts, 0)
  /-- Compiles each branch to continue at `next`, in order. -/
  compileBranches (branches : List Regex) (next : Nat) : StateM (Array Inst) (List Nat) :=
    match branches with
    | [] => return []
    | branch :: rest => do
      let entry ← compileTo branch next
      let entries ← compileBranches rest next
      return entry :: entries
  termination_by (sizeOf branches, 0)
  /-- `count` optional copies of `body`, each leading to the next, all able to exit. -/
  compileOptional (body : Regex) (count : Nat) (greedy : Bool) (next : Nat) :
      StateM (Array Inst) Nat :=
    match count with
    | 0 => return next
    | k + 1 => do
      let inner ← compileOptional body k greedy next
      let bodyEntry ← compileTo body inner
      emit (choice greedy bodyEntry next)
  termination_by (sizeOf body, count)
  /-- `count` required copies of `body` before `next`. -/
  compileCopies (body : Regex) (count : Nat) (next : Nat) : StateM (Array Inst) Nat :=
    match count with
    | 0 => return next
    | k + 1 => do
      let inner ← compileCopies body k next
      compileTo body inner
  termination_by (sizeOf body, count)

/-- Compiles a regular expression into a program that ends in `accept`. -/
def Program.ofRegex (regex : Regex) : Program :=
  let (entry, insts) := ((do
    let finish ← emit .accept
    compileTo regex finish) : StateM (Array Inst) Nat).run #[]
  { insts := insts, entry := entry }

end NamingDirectory.Pattern
