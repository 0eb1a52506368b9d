/-
A store of patterns with a value each, which answers for any path with the
most specific pattern that matches its leading segments.

A node stands for the pieces on the way to it, and holds an entry when a
pattern ends there. A look-up walks down along the path's segments, taking
at each one first the branch of that very segment and then the branch of
the wildcard, and keeps the deepest entry that it comes by. As only a
strictly deeper entry replaces the one that is kept, a segment is preferred
to the wildcard where two patterns of one depth differ first.
-/
import FaultStatus.Pattern
import FaultStatus.Segment

namespace FaultStatus

namespace PatternTree

/-- What is stored where a pattern ends. -/
structure Entry (α : Type) where
  /-- The value of the pattern, as it was stored last. -/
  value : α
  /-- The text of the pattern, as it was stored first. -/
  pattern : String
  deriving Repr

/-- A node of the tree. -/
structure Node (α : Type) where
  /-- The entry of the pattern that ends at the node, if one does. -/
  stored : Option (Entry α) := none
  /-- The nodes one piece further on, at most one for each piece. -/
  children : List (Piece × Node α) := []

namespace Node

variable {α : Type}

/-- The node that nothing is stored at or below. -/
def empty : Node α := {}

/-- The child for a piece. -/
def child? (node : Node α) (piece : Piece) : Option (Node α) :=
  node.children.lookup piece

/-- Puts a child in the place of the one for its piece, or at the end if
there is none. -/
def putChild (piece : Piece) (child : Node α) :
    List (Piece × Node α) → List (Piece × Node α)
  | [] => [(piece, child)]
  | (p, c) :: rest =>
    if p = piece then (p, child) :: rest
    else (p, c) :: putChild piece child rest

/-- The entry after a value is stored under a pattern text: a new value
goes under the old text. -/
def store (pattern : String) (value : α) :
    Option (Entry α) → Entry α
  | none => { value, pattern }
  | some entry => { entry with value }

/-- Stores a value at the end of a row of pieces, which start at the
node. -/
def insert (pattern : String) (value : α) : List Piece → Node α → Node α
  | [], node => { node with stored := store pattern value node.stored }
  | piece :: pieces, node =>
    let child := (node.child? piece).getD empty
    { node with
      children :=
        putChild piece (child.insert pattern value pieces) node.children }

/-- The entry at the end of a row of pieces, which start at the node. -/
def entryAt? : List Piece → Node α → Option (Entry α)
  | [], node => node.stored
  | piece :: pieces, node =>
    (node.child? piece).bind (entryAt? pieces)

theorem lookup_cons (p q : Piece) (child : Node α)
    (rest : List (Piece × Node α)) :
    ((p, child) :: rest).lookup q =
      if q = p then some child else rest.lookup q := by
  by_cases hq : q = p
  · simp [hq]
  · have hne : (q == p) = false := beq_false_of_ne hq
    simp [List.lookup_cons, hq, hne]

/-- After a child is put in its place, it is found for its piece, and the
others for theirs. -/
theorem lookup_putChild (piece q : Piece) (child : Node α)
    (list : List (Piece × Node α)) :
    (putChild piece child list).lookup q =
      if q = piece then some child else list.lookup q := by
  induction list with
  | nil => rw [putChild, lookup_cons]
  | cons head rest ih =>
    obtain ⟨p, c⟩ := head
    rw [putChild]
    by_cases hp : p = piece
    · subst hp
      rw [if_pos rfl, lookup_cons, lookup_cons]
      by_cases hq : q = p
      · rw [if_pos hq, if_pos hq]
      · rw [if_neg hq, if_neg hq, if_neg hq]
    · rw [if_neg hp, lookup_cons, lookup_cons, ih]
      by_cases hq : q = p
      · rw [if_pos hq, if_pos hq, if_neg (hq ▸ hp)]
      · rw [if_neg hq, if_neg hq]

/-- Storing a value changes what is stored at its own row of pieces and
nowhere else. -/
theorem entryAt?_insert (pattern : String) (value : α)
    (pieces row : List Piece) (node : Node α) :
    (node.insert pattern value pieces).entryAt? row =
      if row = pieces then
        some (store pattern value (node.entryAt? pieces))
      else node.entryAt? row := by
  induction pieces generalizing row node with
  | nil => cases row <;> simp [insert, entryAt?, child?]
  | cons piece pieces ih =>
    cases row with
    | nil => simp [insert, entryAt?]
    | cons q row =>
      simp only [insert, entryAt?, child?, lookup_putChild]
      by_cases hq : q = piece
      · subst hq
        simp only [if_true, Option.bind_some, ih, List.cons.injEq,
          true_and]
        cases node.children.lookup q with
        | none => cases pieces <;> cases row <;> simp [empty, entryAt?, child?]
        | some child => simp
      · simp [hq]

/-- The better of the best entry so far and the entry at a given depth:
the latter only if it lies deeper. -/
def deeper (depth : Nat) :
    Option (Entry α) → Option (Nat × Entry α) → Option (Nat × Entry α)
  | none, best => best
  | some entry, none => some (depth, entry)
  | some entry, some (d, kept) =>
    if d < depth then some (depth, entry) else some (d, kept)

/-- The deepest entry at or below the node along a path, with its depth, if
it lies deeper than the best entry so far; else the latter. The node lies
at the given depth, and the segments are those of the path that are still
ahead. -/
def walk (node : Node α) (depth : Nat) (best : Option (Nat × Entry α)) :
    List String → Option (Nat × Entry α)
  | [] => deeper depth node.stored best
  | segment :: ahead =>
    let best := deeper depth node.stored best
    let best := match node.child? (.literal segment) with
      | some child => child.walk (depth + 1) best ahead
      | none => best
    match node.child? .wildcard with
    | some child => child.walk (depth + 1) best ahead
    | none => best

end Node

end PatternTree

/-- A store of patterns with a value each. -/
structure PatternTree (α : Type) where
  /-- The node at which every pattern starts. -/
  root : PatternTree.Node α := .empty
  /-- The number of patterns stored. -/
  size : Nat := 0

namespace PatternTree

variable {α : Type}

/-- The store without patterns. -/
def empty : PatternTree α := {}

/-- Whether no pattern is stored. -/
def isEmpty (tree : PatternTree α) : Bool := tree.size == 0

/-- Stores a value under the pattern that the text stands for, and yields the
tree after it. A pattern that is stored already gets the new value; a text
that is no pattern is refused. -/
def insert (tree : PatternTree α) (text : String) (value : α) :
    Except PatternError Unit × PatternTree α :=
  match Pattern.parse text with
  | .error e => (.error e, tree)
  | .ok pattern =>
    let known := (tree.root.entryAt? pattern.pieces).isSome
    (.ok (),
      { root := tree.root.insert text value pattern.pieces
        size := if known then tree.size else tree.size + 1 })

/-- The entry of the most specific pattern that matches a path. -/
def best? (tree : PatternTree α) (path : String) : Option (Entry α) :=
  (tree.root.walk 0 none (leadingSegments path)).map (·.2)

/-- The value of the most specific pattern that matches a path. -/
def lookup (tree : PatternTree α) (path : String) : Option α :=
  (tree.best? path).map (·.value)

/-- The value and the text of the most specific pattern that matches a
path. -/
def lookupWithPattern (tree : PatternTree α) (path : String) :
    Option (α × String) :=
  (tree.best? path).map fun entry => (entry.value, entry.pattern)

end PatternTree

end FaultStatus
