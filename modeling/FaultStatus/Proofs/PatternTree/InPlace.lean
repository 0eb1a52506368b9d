/-
The walk as it reads the path. A look-up has no list of segments to walk
along: at every node it scans the path's bytes from the offset that it has
come to, cuts the segment out of the path, and goes on behind it, in both
branches. Each of these accesses may go wrong where the path is any text: a
byte may be asked for beyond the end, a cut may go through a character, and
a walk that does not get ahead would not end.

`Node.walkInPlace` is the walk with all of its accesses guarded: it fails
with `Misread` as soon as one of them is not what it should be. Even why it
ends it owes to a guard, the one on the offset at which it goes on. No guard
ever refuses, whatever the node, the path and the offset are, and what is
found is what the walk along the path's segments finds
(`walkInPlace_eq_ok`).

One fact carries all of it: a scan that finds a segment has read nothing
but ASCII, so that it has started, and has ended, where a character begins
(`landing_of_segmentEnd?`).
-/
import FaultStatus.PatternTree
import FaultStatus.Proofs.PatternTree.Walk
import FaultStatus.Proofs.Segment.LeadingRun

namespace FaultStatus

variable {path : String} {off stop : Nat}

-- =============================================================== guards

/-- An access to a path that its offsets do not allow. -/
inductive Misread where
  /-- There is no byte at the offset. -/
  | noByte (off : Nat)
  /-- The span is empty, or it is not one of whole characters. -/
  | noSpan (span : Span)
  /-- The walk would not get ahead, or not to the start of a character. -/
  | noStart (off next : Nat)
  deriving DecidableEq, Repr

/-- The span holds something, and begins and ends within the path where
characters do. -/
structure Span.Within (span : Span) (path : String) : Prop where
  nonempty : span.start < span.stop
  inside : span.stop ≤ path.utf8ByteSize
  start_valid : (String.Pos.Raw.mk span.start).IsValid path
  stop_valid : (String.Pos.Raw.mk span.stop).IsValid path

/-- The offset `next` is ahead of `off`, and a character of the path begins
there or the path ends. -/
structure GoesOn (path : String) (off next : Nat) : Prop where
  ahead : off < next
  inside : next ≤ path.utf8ByteSize
  valid : (String.Pos.Raw.mk next).IsValid path

instance (span : Span) (path : String) : Decidable (span.Within path) :=
  decidable_of_iff
    (span.start < span.stop ∧ span.stop ≤ path.utf8ByteSize
      ∧ (String.Pos.Raw.mk span.start).IsValid path
      ∧ (String.Pos.Raw.mk span.stop).IsValid path)
    ⟨fun h => ⟨h.1, h.2.1, h.2.2.1, h.2.2.2⟩,
      fun h => ⟨h.nonempty, h.inside, h.start_valid, h.stop_valid⟩⟩

instance (path : String) (off next : Nat) :
    Decidable (GoesOn path off next) :=
  decidable_of_iff
    (off < next ∧ next ≤ path.utf8ByteSize
      ∧ (String.Pos.Raw.mk next).IsValid path)
    ⟨fun h => ⟨h.1, h.2.1, h.2.2⟩, fun h => ⟨h.ahead, h.inside, h.valid⟩⟩

/-- The byte at an offset. -/
def byteAt (path : String) (off : Nat) : Except Misread UInt8 :=
  if h : off < path.toByteArray.size then .ok path.toByteArray[off]
  else .error (.noByte off)

/-- The text that a span covers. -/
def cut (path : String) (span : Span) : Except Misread String :=
  if span.Within path then .ok (span.text path)
  else .error (.noSpan span)

/-- The offset to go on at, with the proof that it is ahead. -/
def goOn (path : String) (off next : Nat) :
    Except Misread { next // GoesOn path off next } :=
  if h : GoesOn path off next then .ok ⟨next, h⟩
  else .error (.noStart off next)

/-- Where a segment ends whose bytes before `i` are already read, if it
does. -/
def tailEndAt (path : String) (i : Nat) : Except Misread (Option Nat) := do
  if path.toByteArray.size ≤ i then
    return some i
  else
    let b ← byteAt path i
    if b == separator.toUInt8 then return some i
    else if isTailByte b then tailEndAt path (i + 1)
    else return none
termination_by path.toByteArray.size - i
decreasing_by omega

/-- Where the segment that starts at an offset ends, if one does. The first
byte is asked for before it is known to be there. -/
def segmentEndAt (path : String) (off : Nat) :
    Except Misread (Option Nat) := do
  let head ← byteAt path off
  if isHeadByte head then tailEndAt path (off + 1) else return none

theorem byteAt_eq_ok (h : off < path.toByteArray.size) :
    byteAt path off = .ok path.toByteArray[off] := dif_pos h

theorem tailEndAt_eq_ok (path : String) (i : Nat) :
    tailEndAt path i = .ok (tailEnd? path.toByteArray i) := by
  fun_induction tailEnd? path.toByteArray i with
  | case1 i hlt hsep =>
    rw [tailEndAt, if_neg (Nat.not_le_of_lt hlt), byteAt_eq_ok hlt]
    exact if_pos hsep
  | case2 i hlt hsep htail ih =>
    rw [tailEndAt, if_neg (Nat.not_le_of_lt hlt), byteAt_eq_ok hlt, ← ih]
    exact (if_neg hsep).trans (if_pos htail)
  | case3 i hlt hsep htail =>
    rw [tailEndAt, if_neg (Nat.not_le_of_lt hlt), byteAt_eq_ok hlt]
    exact (if_neg hsep).trans (if_neg htail)
  | case4 i hge =>
    rw [tailEndAt, if_pos (Nat.le_of_not_lt hge)]
    rfl

/-- The scan asks for no byte that is not there, if it starts at one. -/
theorem segmentEndAt_eq_ok (h : off < path.toByteArray.size) :
    segmentEndAt path off = .ok (segmentEnd? path.toByteArray off) := by
  unfold segmentEndAt segmentEnd?
  rw [byteAt_eq_ok h, dif_pos h, tailEndAt_eq_ok]
  show (if isHeadByte path.toByteArray[off] = true then _ else _) = _
  split <;> rfl

-- ============================================================== landings

/-- Where the scan finds a segment, none of the accesses that follow is
refused. -/
structure Landing (path : String) (off stop : Nat) : Prop where
  inside : off < path.utf8ByteSize
  span : Span.Within ⟨off, stop⟩ path
  next : GoesOn path off (nextStart path.toByteArray stop)

theorem landing_of_segmentEnd?
    (h : segmentEnd? path.toByteArray off = some stop) :
    Landing path off stop := by
  obtain ⟨hlt, hle⟩ := segmentEnd?_bounds h
  obtain ⟨cs, hrest, hseg, hstop⟩ := exists_restAt_of_segmentEnd? h
  have hend := (restAt_piece hrest).advance
  rw [Text.utf8Len_ascii (isSegment_ascii hseg), ← hstop] at hend
  obtain ⟨rest, hnext, -, -⟩ := restAt_nextStart hrest hseg
  rw [← hstop] at hnext
  rw [String.size_toByteArray] at hle
  refine ⟨by omega, ⟨hlt, hle, hrest.isValid, hend.isValid⟩, ?_, ?_,
    hnext.isValid⟩
  · unfold nextStart
    split <;> omega
  · unfold nextStart
    rw [String.size_toByteArray]
    split <;> omega

theorem cut_eq_ok {span : Span} (h : span.Within path) :
    cut path span = .ok (span.text path) := if_pos h

/-- No span of whole characters cuts through one. -/
example : ¬ Span.Within ⟨0, 1⟩ "é" := by decide

theorem goOn_eq_ok {next : Nat} (h : GoesOn path off next) :
    goOn path off next = .ok ⟨next, h⟩ := dif_pos h

-- ======================================================= walk from offset

/-- The segments of a path from an offset on, up to the first piece that is
none. -/
def segmentsFrom (path : String) (off : Nat) : List String :=
  (spansFrom path.toByteArray off).map (·.text path)

theorem segmentsFrom_of_none
    (h : segmentEnd? path.toByteArray off = none) :
    segmentsFrom path off = [] := by
  rw [segmentsFrom, spansFrom, h]
  rfl

theorem segmentsFrom_of_some
    (h : segmentEnd? path.toByteArray off = some stop) :
    segmentsFrom path off
      = Span.text path ⟨off, stop⟩
        :: segmentsFrom path (nextStart path.toByteArray stop) := by
  rw [segmentsFrom, spansFrom, h]
  rfl

namespace PatternTree.Node

variable {α : Type}

/-- The walk from a byte offset of the path on, with all accesses to the
path guarded. -/
def walkInPlace (path : String) (node : Node α) (off depth : Nat)
    (best : Option (Nat × Entry α)) :
    Except Misread (Option (Nat × Entry α)) := do
  let best := deeper depth node.stored best
  if path.toByteArray.size ≤ off then
    return best
  else
    match ← segmentEndAt path off with
    | none => return best
    | some stop =>
      let segment ← cut path ⟨off, stop⟩
      -- with the offset the guard hands over why the recursion ends
      let next ← goOn path off (nextStart path.toByteArray stop)
      let branch (piece : Piece) (best : Option (Nat × Entry α)) :=
        match node.child? piece with
        | some child => child.walkInPlace path next (depth + 1) best
        | none => pure best
      branch .wildcard (← branch (.literal segment) best)
termination_by path.utf8ByteSize - off
decreasing_by
  all_goals
    have := next.2.ahead
    have := next.2.inside
    omega

/-- No guard refuses. From any offset, the walk in place is the walk along
the segments from there on. -/
theorem walkInPlace_eq_ok (path : String) (node : Node α) (off depth : Nat)
    (best : Option (Nat × Entry α)) :
    node.walkInPlace path off depth best
      = .ok (node.walk depth best (segmentsFrom path off)) := by
  induction hn : path.utf8ByteSize - off using Nat.strongRecOn
    generalizing node off depth best with
  | ind n ih =>
    rw [walkInPlace]
    by_cases hoff : path.toByteArray.size ≤ off
    · have hnone : segmentEnd? path.toByteArray off = none := by
        rw [segmentEnd?, dif_neg (Nat.not_lt_of_le hoff)]
      rw [if_pos hoff, segmentsFrom_of_none hnone]
      rfl
    · rw [if_neg hoff, segmentEndAt_eq_ok (Nat.lt_of_not_le hoff)]
      cases hend : segmentEnd? path.toByteArray off with
      | none =>
        rw [segmentsFrom_of_none hend]
        rfl
      | some stop =>
        obtain ⟨-, hspan, hnext⟩ := landing_of_segmentEnd? hend
        -- one branch: fewer bytes are ahead of the child
        have hbranch : ∀ (piece : Piece) (best : Option (Nat × Entry α)),
            (match node.child? piece with
              | some child => child.walkInPlace path
                  (nextStart path.toByteArray stop) (depth + 1) best
              | none => pure best)
            = .ok ((node.child? piece).elim best
                (·.walk (depth + 1) best
                  (segmentsFrom path (nextStart path.toByteArray stop)))) := by
          intro piece best
          cases node.child? piece with
          | none => rfl
          | some child =>
            apply ih _ _ child _ _ best rfl
            have := hnext.ahead
            have := hnext.inside
            omega
        rw [segmentsFrom_of_some hend, walk_cons]
        simp only [bind, Except.bind, cut_eq_ok hspan, goOn_eq_ok hnext,
          hbranch]

end PatternTree.Node

namespace PatternTree

variable {α : Type}

/-- A look-up never misreads its path. From every node and every offset on
the walk in place comes to an end without a guard having refused; from the
root and the start it finds what the look-up answers with. Wherever the scan
finds a segment, its first byte is one of the path's, the segment is a span
of whole characters, and the walk goes on ahead of it at the start of a
character or at the end of the path. -/
theorem lookup_in_place (tree : PatternTree α) (path : String) :
    (∀ (node : Node α) off depth best,
        ∃ found, node.walkInPlace path off depth best = .ok found)
      ∧ (tree.root.walkInPlace path 0 0 none).map (·.map (·.2))
        = .ok (tree.best? path)
      ∧ ∀ off stop, segmentEnd? path.toByteArray off = some stop →
          Landing path off stop := by
  refine ⟨fun node off depth best => ?_, ?_, fun off stop hend => ?_⟩
  · exact ⟨_, Node.walkInPlace_eq_ok path node off depth best⟩
  · rw [Node.walkInPlace_eq_ok]
    rfl
  · exact landing_of_segmentEnd? hend

end PatternTree

end FaultStatus
