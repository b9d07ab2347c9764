import NamingDirectory.Path.Delimiter

/-!
Names: lists of segments relative to the node they are used on.
-/

namespace NamingDirectory

/-- A name as its segments, first to last. -/
structure Name where
  segments : List String
  deriving DecidableEq, Repr, Inhabited

namespace Name

/-- The empty name. -/
def empty : Name := ⟨[]⟩

/-- Cuts a key into a name with a delimiter. -/
def parse (key : String) (delimiter : Delimiter) : Name := ⟨delimiter.split key⟩

/-- True for the empty name. -/
def isEmpty (name : Name) : Bool := name.segments.isEmpty

/-- The number of segments. -/
def length (name : Name) : Nat := name.segments.length

/-- The first segment. -/
def first? (name : Name) : Option String := name.segments.head?

/-- The last segment. -/
def last? (name : Name) : Option String := name.segments.getLast?

/-- The name without its first segment. -/
def rest (name : Name) : Name := ⟨name.segments.drop 1⟩

/-- The first `count` segments. -/
def take (name : Name) (count : Nat) : Name := ⟨name.segments.take count⟩

/-- The name without its last segment; the empty name is its own parent. -/
def parent (name : Name) : Name := name.take (name.length - 1)

/-- The name with one more segment. -/
def child (name : Name) (segment : String) : Name := ⟨name.segments ++ [segment]⟩

/-- The key of a name under a delimiter. -/
def join (name : Name) (delimiter : Delimiter) : String := delimiter.join name.segments

/-- The segments joined with `/`, the form used in messages and labels. -/
def display (name : Name) : String := String.intercalate "/" name.segments

theorem parent_segments (name : Name) : name.parent.segments = name.segments.dropLast := by
  simp [parent, take, length, List.dropLast_eq_take]

end Name

/-- A path as callers give it: a key cut with the node's delimiter, or a name of segments. -/
inductive PathArg where
  | key (text : String)
  | segments (name : Name)
  deriving Repr, Inhabited, DecidableEq

/-- The name a path stands for under a delimiter. -/
def PathArg.resolve (path : PathArg) (delimiter : Delimiter) : Name :=
  match path with
  | .key text => Name.parse text delimiter
  | .segments name => name

/-- The empty path. -/
def PathArg.root : PathArg := .segments Name.empty

end NamingDirectory
