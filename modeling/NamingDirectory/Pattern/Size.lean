import Std.Data.HashMap.Basic
import NamingDirectory.Pattern.Syntax
import NamingDirectory.Pattern.Utf8

/-!
The memory the forward and backward byte automata of a pattern take, and the limit on it.
-/

namespace NamingDirectory.Pattern

open NamingDirectory.Unicode

/-- The most memory, in bytes, that an automaton may take. -/
def sizeLimit : Nat := 10 * 1024 * 1024

/-- The memory of a state. -/
def stateBytes : Nat := 32

/-- The memory of each byte range of a branching state. -/
def rangeBytes : Nat := 8

/-- The memory of each alternative of a fork. -/
def alternativeBytes : Nat := 4

/-- The states built so far and the memory they take. -/
structure Tally where
  /-- The number of states, which is also the number the next state gets. -/
  states : Nat
  /-- The memory of the states, in bytes. -/
  memory : Nat

/-- Building an automaton; fails as soon as the memory passes the limit. -/
abbrev BuildM := StateT Tally (Except Unit)

/-- Counts memory, failing when it passes the limit. -/
def addMemory (bytes : Nat) : BuildM Unit := do
  let tally ← get
  let memory := tally.memory + bytes
  if memory > sizeLimit then throw ()
  set { tally with memory }

/-- Adds a state with `extra` bytes beyond its fixed size, and gives its number. -/
def addState (extra : Nat) : BuildM Nat := do
  let tally ← get
  let memory := tally.memory + stateBytes + extra
  if memory > sizeLimit then throw ()
  set ({ states := tally.states + 1, memory } : Tally)
  return tally.states

/-- A built part of an automaton: its start state, its end state, and whether that end forks. -/
structure Piece where
  /-- The first state. -/
  start : Nat
  /-- The last state, which leads on to whatever follows. -/
  stop : Nat
  /-- Whether the last state is a fork. -/
  forkEnd : Bool

/-- Counts the memory of leading a piece on to what follows. -/
def leadOn (piece : Piece) : BuildM Unit :=
  if piece.forkEnd then addMemory alternativeBytes else pure ()

/-- A piece of one state that matches the empty text (or tests the position). -/
def singleState : BuildM Piece := do
  let state ← addState 0
  return ⟨state, state, false⟩

/-- A chain of `count` further states after the first; gives the number of the last. -/
def addChain : Nat → Nat → BuildM Nat
  | 0, last => pure last
  | count + 1, _ => do
    let state ← addState 0
    addChain count state

/-- The step of the FNV-1a hash that takes in one number. -/
def hashStep (hash : UInt64) (value : Nat) : UInt64 :=
  (hash ^^^ value.toUInt64) * 1099511628211

/-- The starting value of the FNV-1a hash. -/
def hashStart : UInt64 := 14695981039346656037

/-- A state reading forwards, still open while its last target is unknown. -/
structure OpenState where
  /-- Its finished transitions: byte range and target. -/
  done : Array (Nat × Nat × Nat)
  /-- The byte range of its last transition, whose target is not yet built. -/
  pending : Option (Nat × Nat)

/-- The transitions of an open state once its last one leads to `next`. -/
def OpenState.close (node : OpenState) (next : Nat) : Array (Nat × Nat × Nat) :=
  match node.pending with
  | some (lo, hi) => node.done.push (lo, hi, next)
  | none => node.done

/-- Building the forward automaton of a set: the end state, the open states, the finished table. -/
structure ForwardWork where
  /-- Where every sequence ends. -/
  target : Nat
  /-- The open states, one for each byte of the last sequence and the one before the first. -/
  stack : Array OpenState
  /-- The last finished state put in each slot, with its transitions. -/
  table : Std.HashMap Nat (Array (Nat × Nat × Nat) × Nat)

/-- Building the forward automaton of a set. -/
abbrev ForwardM := StateT ForwardWork BuildM

/-- The slot of a finished state's transitions. -/
def transitionsSlot (transitions : Array (Nat × Nat × Nat)) : Nat :=
  (transitions.foldl (fun hash (lo, hi, next) => hashStep (hashStep (hashStep hash lo) hi) next)
    hashStart % 10000).toNat

/-- The state with these transitions: the one in the table when it has them, else a new one. -/
def finishState (transitions : Array (Nat × Nat × Nat)) : ForwardM Nat := do
  let slot := transitionsSlot transitions
  match (← get).table[slot]? with
  | some (known, state) =>
    if known == transitions then return state
    else finishNew slot
  | none => finishNew slot
where
  /-- Builds the state and files it in its slot. -/
  finishNew (slot : Nat) : ForwardM Nat := do
    let state ← addState (rangeBytes * transitions.size)
    modify fun work => { work with table := work.table.insert slot (transitions, state) }
    return state

/-- The number of leading byte ranges of a sequence that the open states already wait on. -/
def sharedLead : List (Nat × Nat) → List OpenState → Nat
  | range :: ranges, node :: nodes =>
    if node.pending == some range then sharedLead ranges nodes + 1 else 0
  | _, _ => 0

/-- Finishes the open states below the first `keep + 1`, deepest first; the last state finished. -/
def finishBelow (keep : Nat) : Nat → Nat → ForwardM Nat
  | 0, next => pure next
  | fuel + 1, next => do
    let work ← get
    match work.stack.back? with
    | some node =>
      if keep + 1 < work.stack.size then
        set { work with stack := work.stack.pop }
        let state ← finishState (node.close next)
        finishBelow keep fuel state
      else pure next
    | none => pure next

/-- Finishes the open states below the first `keep + 1` and links the deepest remaining one to them. -/
def finishFrom (keep : Nat) : ForwardM Unit := do
  let work ← get
  let next ← finishBelow keep work.stack.size work.target
  modify fun work =>
    { work with stack := work.stack.modify (work.stack.size - 1) fun node => ⟨node.close next, none⟩ }

/-- Adds a sequence of byte ranges, sharing its lead with the last sequence. -/
def addForward (ranges : List (Nat × Nat)) : ForwardM Unit := do
  let keep := sharedLead ranges (← get).stack.toList
  finishFrom keep
  match ranges.drop keep with
  | [] => pure ()
  | first :: rest =>
    modify fun work =>
      { work with stack :=
          (work.stack.modify (work.stack.size - 1) fun node => { node with pending := some first }) ++
            (rest.map fun range => (⟨#[], some range⟩ : OpenState)).toArray }

/-- The byte sequences of a set, in increasing order. -/
def setSequences (set : CharRanges) : List (List (Nat × Nat)) :=
  set.ranges.flatMap fun (lo, hi) => utf8Sequences lo hi

/-- The forward automaton of a set of characters beyond ASCII. -/
def forwardSet (set : CharRanges) : BuildM Piece := do
  let target ← addState 0
  let work : ForwardWork := { target, stack := #[⟨#[], none⟩], table := {} }
  let build : ForwardM Nat := do
    (setSequences set).forM addForward
    finishFrom 0
    let root := ((← get).stack[0]?.map (·.done)).getD #[]
    finishState root
  let (root, _) ← build.run work
  return ⟨root, target, false⟩

/-- The slot of a state of a backward chain, by the state it leads to and its byte range. -/
def suffixSlot (next lo hi : Nat) : Nat :=
  (hashStep (hashStep (hashStep hashStart next) lo) hi % 1000).toNat

/-- Adds the backward chain of one byte sequence ending in `stop`, reusing the states in `table`. -/
def addBackward (stop : Nat) (table : Std.HashMap Nat ((Nat × Nat × Nat) × Nat))
    (ranges : List (Nat × Nat)) : BuildM (Nat × Std.HashMap Nat ((Nat × Nat × Nat) × Nat)) :=
  ranges.foldlM (fun (next, table) (lo, hi) => do
    let slot := suffixSlot next lo hi
    match table[slot]? with
    | some (key, state) =>
      if key == (next, lo, hi) then return (state, table)
      else
        let state ← addState 0
        return (state, table.insert slot ((next, lo, hi), state))
    | none =>
      let state ← addState 0
      return (state, table.insert slot ((next, lo, hi), state))) (stop, table)

/-- The backward automaton of a set beyond ASCII: a fork to one chain per byte sequence. -/
def backwardSet (set : CharRanges) : BuildM Piece := do
  let fork ← addState 0
  let stop ← addState 0
  let _ ← (setSequences set).foldlM (fun table ranges => do
    let (_, table) ← addBackward stop table ranges
    addMemory alternativeBytes
    return table) ({} : Std.HashMap Nat ((Nat × Nat × Nat) × Nat))
  return ⟨fork, stop, false⟩

/-- The automaton of a set of characters. -/
def setPiece (reverse : Bool) (set : CharRanges) : BuildM Piece :=
  if set.ranges.all fun (_, hi) => hi ≤ 0x7F then do
    let stop ← addState 0
    let start ← addState (rangeBytes * set.ranges.length)
    return ⟨start, stop, false⟩
  else if reverse then backwardSet set
  else forwardSet set

/-- The automaton of a literal: one state for each byte, in reading order. -/
def literalPiece (text : List Char) : BuildM Piece := do
  let bytes := (text.map fun c => (encodeUtf8 c.toNat).length).foldl (· + ·) 0
  let first ← addState 0
  let last ← addChain (bytes - 1) first
  return ⟨first, last, false⟩

/-- Further copies of a piece, each led on from the one before. -/
def moreCopies (copy : BuildM Piece) : Nat → Piece → BuildM Piece
  | 0, sofar => pure sofar
  | count + 1, sofar => do
    let next ← copy
    leadOn sofar
    moreCopies copy count ⟨sofar.start, next.stop, next.forkEnd⟩

/-- Exactly `count` copies in a row; none is one state that matches the empty text. -/
def exactCopies (copy : BuildM Piece) : Nat → BuildM Piece
  | 0 => singleState
  | count + 1 => do
    let first ← copy
    moreCopies copy count first

/-- Optional copies after the required ones: each behind a fork that may skip to the end. -/
def optionalCopies (copy : BuildM Piece) : Nat → Piece → BuildM Piece
  | 0, sofar => pure sofar
  | count + 1, sofar => do
    let _ ← addState 0
    let next ← copy
    leadOn sofar
    addMemory (2 * alternativeBytes)
    optionalCopies copy count next

/-- The automaton of a repetition of a body that `copy` builds, of matches of `bodyMin` bytes or more. -/
def repetitionPiece (copy : BuildM Piece) (bodyMin : Option Nat) (min : Nat) (max : Option Nat) :
    BuildM Piece :=
  match min, max with
  | 0, some 1 => do
    let fork ← addState 0
    let body ← copy
    let stop ← addState 0
    addMemory (2 * alternativeBytes)
    leadOn body
    return ⟨fork, stop, false⟩
  | 0, none =>
    if bodyMin.any (· > 0) then do
      let fork ← addState 0
      let body ← copy
      addMemory alternativeBytes
      leadOn body
      return ⟨fork, fork, true⟩
    else do
      let body ← copy
      let _ ← addState 0
      leadOn body
      addMemory alternativeBytes
      let fork ← addState 0
      let stop ← addState 0
      addMemory (3 * alternativeBytes)
      return ⟨fork, stop, false⟩
  | 1, none => do
    let body ← copy
    let fork ← addState 0
    leadOn body
    addMemory alternativeBytes
    return ⟨body.start, fork, true⟩
  | count + 2, none => do
    let lead ← exactCopies copy (count + 1)
    let last ← copy
    let fork ← addState 0
    leadOn lead
    leadOn last
    addMemory alternativeBytes
    return ⟨lead.start, fork, true⟩
  | min, some most =>
    if min == most then exactCopies copy min
    else do
      let lead ← exactCopies copy min
      let stop ← addState 0
      let last ← optionalCopies copy (most - min) lead
      leadOn last
      return ⟨lead.start, stop, false⟩

mutual

/-- The automaton of an expression, reading forwards or backwards. -/
def regexPiece (reverse : Bool) : Regex → BuildM Piece
  | .empty => singleState
  | .literal text => literalPiece text
  | .chars set => setPiece reverse set
  | .look _ => singleState
  | .repetition body min max _ =>
    repetitionPiece (regexPiece reverse body) body.minLength min max
  | .capture body =>
    if reverse then regexPiece reverse body
    else do
      let start ← addState 0
      let inner ← regexPiece reverse body
      let stop ← addState 0
      leadOn inner
      return ⟨start, stop, false⟩
  | .concat parts => do
    let pieces ← if reverse then backwardPieces reverse parts else forwardPieces reverse parts
    match pieces with
    | [] => singleState
    | first :: rest => rest.foldlM (fun sofar next => do
        leadOn sofar
        return ⟨sofar.start, next.stop, next.forkEnd⟩) first
  | .alternation [] => setPiece reverse CharRanges.empty
  | .alternation [single] => regexPiece reverse single
  | .alternation (first :: second :: rest) => do
    let one ← regexPiece reverse first
    let two ← regexPiece reverse second
    let fork ← addState 0
    let stop ← addState 0
    addMemory (2 * alternativeBytes)
    leadOn one
    leadOn two
    let others ← forwardPieces reverse rest
    others.forM fun other => do
      addMemory alternativeBytes
      leadOn other
    return ⟨fork, stop, false⟩

/-- The automata of expressions, built first to last. -/
def forwardPieces (reverse : Bool) : List Regex → BuildM (List Piece)
  | [] => pure []
  | part :: parts => do
    let piece ← regexPiece reverse part
    let pieces ← forwardPieces reverse parts
    return piece :: pieces

/-- The automata of expressions, built last to first and listed in that order. -/
def backwardPieces (reverse : Bool) : List Regex → BuildM (List Piece)
  | [] => pure []
  | part :: parts => do
    let pieces ← backwardPieces reverse parts
    let piece ← regexPiece reverse part
    return pieces ++ [piece]

end

/-- Whether the automaton for a pattern, reading forwards or backwards, stays within the limit. -/
def automatonFits (reverse : Bool) (regex : Regex) : Bool :=
  let anchored := if reverse then regex.anchoredEnd else regex.anchoredStart
  let build : BuildM Unit := do
    let lead ← if anchored then singleState else do
      let fork ← addState 0
      let _ ← addState 0
      let _ ← addState rangeBytes
      addMemory alternativeBytes
      pure ⟨fork, fork, true⟩
    let body ← if reverse then regexPiece true regex
      else regexPiece false (.capture regex)
    let _ ← addState 0
    leadOn body
    leadOn lead
  match build.run ⟨0, 0⟩ with
  | .ok _ => true
  | .error _ => false

/-- Whether both automata for a pattern stay within the limit. -/
def Regex.fitsLimit (regex : Regex) : Bool :=
  automatonFits false regex && automatonFits true regex

end NamingDirectory.Pattern
