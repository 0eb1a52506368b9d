/-
The shape of a tree that patterns were inserted into (`WellFormed`). A node
has a child for a piece only once, and only for the wildcard or a segment;
no branch ends without an entry; the text of an entry is the row of pieces
that leads to it; and the size is the number of entries.

An insertion is known by the nodes that it leaves at the ends of rows. On
the way down, at the ends of the prefixes of its own row, these are the
nodes that were there, or new ones, with the rest of the insertion made
into them (`nodeAt?_insert_of_append`); all others are what they were
(`nodeAt?_insert_of_not_prefix`). So the shape is kept if it is kept at one
node by one insertion into it (`Shape.insert`), whatever the tree is
(`WellFormed.attempt`), and holds after any row of insertions, accepted and
refused ones mixed (`wellFormed_insertAll`).
-/
import FaultStatus.Proofs.PatternTree.Attempt
import FaultStatus.Proofs.PatternTree.Nodes

namespace FaultStatus.PatternTree

variable {α : Type}

namespace Node

-- =================================================== nodes of an insertion

theorem nodeAt?_empty (row : List Piece) :
    ((empty : Node α).nodeAt? row).getD empty = empty := by
  cases row <;> rfl

theorem child?_insert_cons (text : String) (value : α) (piece q : Piece)
    (pieces : List Piece) (node : Node α) :
    (node.insert text value (piece :: pieces)).child? q =
      if q = piece then
        some (((node.child? piece).getD empty).insert text value pieces)
      else node.child? q := by
  rw [insert]
  exact lookup_putChild piece q _ node.children

/-- On the way to its end an insertion comes by the nodes that are there,
or by new ones, and goes on in them. -/
theorem nodeAt?_insert_of_append (text : String) (value : α)
    (row rest : List Piece) (node : Node α) :
    (node.insert text value (row ++ rest)).nodeAt? row
      = some (((node.nodeAt? row).getD empty).insert text value rest) := by
  induction row generalizing node with
  | nil => rfl
  | cons piece row ih =>
    rw [List.cons_append, nodeAt?, child?_insert_cons, if_pos rfl,
      Option.bind_some, ih, nodeAt?]
    cases node.child? piece with
    | none =>
      rw [Option.getD_none, nodeAt?_empty]
      rfl
    | some child => rfl

/-- No other nodes change. -/
theorem nodeAt?_insert_of_not_prefix {text : String} {value : α}
    {row pieces : List Piece} {node : Node α} (h : ¬ row <+: pieces) :
    (node.insert text value pieces).nodeAt? row = node.nodeAt? row := by
  induction pieces generalizing row node with
  | nil =>
    cases row with
    | nil => exact absurd List.nil_prefix h
    | cons q row => rfl
  | cons piece pieces ih =>
    cases row with
    | nil => exact absurd List.nil_prefix h
    | cons q row =>
      rw [nodeAt?, child?_insert_cons]
      by_cases hq : q = piece
      · subst hq
        have hrest : ¬ row <+: pieces := by
          intro hprefix
          exact h (List.cons_prefix_cons.2 ⟨rfl, hprefix⟩)
        rw [if_pos rfl, Option.bind_some, ih hrest, nodeAt?]
        cases node.child? q with
        | some child => rfl
        | none =>
          cases row with
          | nil => exact absurd List.nil_prefix hrest
          | cons p row => rfl
      · rw [if_neg hq, nodeAt?]

-- ==================================================== the shape of a node

theorem mem_keys_putChild {piece q : Piece} {child : Node α}
    {list : List (Piece × Node α)} :
    q ∈ (putChild piece child list).map Prod.fst
      ↔ q = piece ∨ q ∈ list.map Prod.fst := by
  induction list with
  | nil => simp [putChild]
  | cons head list ih =>
    obtain ⟨p, c⟩ := head
    rw [putChild]
    by_cases hp : p = piece
    · rw [if_pos hp, hp]
      simp
    · rw [if_neg hp, List.map_cons, List.mem_cons, ih, List.map_cons,
        List.mem_cons]
      exact or_left_comm

theorem nodup_keys_putChild {piece : Piece} {child : Node α}
    {list : List (Piece × Node α)} (h : (list.map Prod.fst).Nodup) :
    ((putChild piece child list).map Prod.fst).Nodup := by
  induction list with
  | nil => exact List.nodup_singleton piece
  | cons head list ih =>
    obtain ⟨p, c⟩ := head
    rw [List.map_cons, List.nodup_cons] at h
    rw [putChild]
    by_cases hp : p = piece
    · rw [if_pos hp, List.map_cons, List.nodup_cons]
      exact h
    · rw [if_neg hp, List.map_cons, List.nodup_cons, mem_keys_putChild]
      exact ⟨not_or.2 ⟨hp, h.1⟩, ih h.2⟩

/-- The shape of a node at the end of a row of pieces. -/
structure Shape (row : List Piece) (node : Node α) : Prop where
  /-- No two children stand for one piece. -/
  keys_distinct : (node.children.map Prod.fst).Nodup
  /-- Children stand for the wildcard and for segments. -/
  keys_sound : ∀ key ∈ node.children.map Prod.fst, key.Sound
  /-- An entry has the text that the row spells. -/
  spelled : ∀ entry, node.stored = some entry →
    entry.pattern = joinPieces (row.map Piece.text)
  /-- An entry's row is not of wildcards only. -/
  not_all_wildcard : node.stored ≠ none → ∃ piece ∈ row, piece ≠ .wildcard

theorem shape_empty (row : List Piece) : (empty : Node α).Shape row :=
  ⟨List.nodup_nil, fun _ h => absurd h List.not_mem_nil,
    fun _ h => absurd h.symm (Option.some_ne_none _), fun h => absurd rfl h⟩

/-- One node, with what is left of an insertion made into it, has the shape
that it had. -/
theorem Shape.insert {row rest : List Piece} {node : Node α} {text : String}
    (h : node.Shape row)
    (hparse : Pattern.parse text = .ok ⟨row ++ rest⟩) (value : α) :
    (node.insert text value rest).Shape row := by
  have hsound := (Pattern.parse_eq_ok_iff.1 hparse).2
  cases rest with
  | nil =>
    rw [List.append_nil] at hparse hsound
    refine ⟨h.keys_distinct, h.keys_sound, fun entry hentry => ?_, fun _ => ?_⟩
    · cases hentry
      cases hold : node.stored with
      | none => exact (Pattern.text_of_parse hparse).symm
      | some old => exact h.spelled old hold
    · exact hsound.not_all_wildcard
  | cons piece rest =>
    have hpiece : piece.Sound := by
      apply hsound.pieces_sound
      exact List.mem_append_right _ List.mem_cons_self
    refine ⟨nodup_keys_putChild h.keys_distinct, fun key hkey => ?_,
      h.spelled, h.not_all_wildcard⟩
    rcases mem_keys_putChild.1 hkey with rfl | hold
    · exact hpiece
    · exact h.keys_sound key hold

/-- There is an entry at the node or something below it. -/
def Alive (node : Node α) : Prop := node.children = [] → node.stored ≠ none

/-- An insertion into a node leaves it alive, be it a new one. -/
theorem alive_insert (text : String) (value : α) (rest : List Piece)
    (node : Node α) : (node.insert text value rest).Alive := by
  cases rest with
  | nil => exact fun _ => Option.some_ne_none _
  | cons piece rest =>
    intro hchildren
    exfalso
    have hkey : piece ∈ ((node.insert text value
        (piece :: rest)).children).map Prod.fst := by
      rw [insert]
      exact mem_keys_putChild.2 (Or.inl rfl)
    rw [hchildren] at hkey
    cases hkey

-- ============================================================ the entries

/-- The number of entries at the children and below. -/
def countBelow (list : List (Piece × Node α)) : Nat :=
  ((nodesBelow list).filterMap entryOf).length

theorem length_entries (node : Node α) :
    node.entries.length
      = node.stored.toList.length + countBelow node.children := by
  rw [entries, nodes_eq, List.filterMap_cons, entryOf]
  cases node.stored with
  | none => exact (Nat.zero_add _).symm
  | some entry => exact Nat.add_comm _ 1

theorem countBelow_cons (piece : Piece) (child : Node α)
    (list : List (Piece × Node α)) :
    countBelow ((piece, child) :: list)
      = child.entries.length + countBelow list := by
  have hentry : (entryOf ∘ fun found : List Piece × Node α =>
        (piece :: found.1, found.2))
      = fun found => (entryOf found).map fun e => (piece :: e.1, e.2) := by
    funext ⟨row, node⟩
    rw [Function.comp, entryOf, entryOf]
    cases node.stored <;> rfl
  rw [countBelow, nodesBelow, List.filterMap_append, List.length_append,
    List.filterMap_map, hentry, ← List.map_filterMap, List.length_map]
  rfl

theorem countBelow_putChild (piece : Piece) (child : Node α)
    (list : List (Piece × Node α)) :
    countBelow (putChild piece child list)
        + ((list.lookup piece).getD empty).entries.length
      = countBelow list + child.entries.length := by
  induction list with
  | nil =>
    rw [putChild, countBelow_cons]
    exact Nat.add_comm _ _
  | cons head list ih =>
    obtain ⟨p, c⟩ := head
    rw [putChild, lookup_cons]
    by_cases hp : p = piece
    · rw [if_pos hp, if_pos hp.symm, countBelow_cons, countBelow_cons,
        Option.getD_some]
      omega
    · rw [if_neg hp, if_neg (Ne.symm hp), countBelow_cons, countBelow_cons]
      omega

/-- An insertion makes one more entry, unless there is one at its row. -/
theorem length_entries_insert (text : String) (value : α)
    (pieces : List Piece) (node : Node α) :
    (node.insert text value pieces).entries.length
      = if (node.entryAt? pieces).isSome then node.entries.length
        else node.entries.length + 1 := by
  induction pieces generalizing node with
  | nil =>
    rw [length_entries, length_entries node, insert, entryAt?]
    cases node.stored with
    | none => exact (Nat.add_right_comm 0 _ 1).symm
    | some entry => rfl
  | cons piece pieces ih =>
    have hcount := countBelow_putChild piece
      (((node.child? piece).getD empty).insert text value pieces)
      node.children
    have hknown : ((node.child? piece).getD empty).entryAt? pieces
        = node.entryAt? (piece :: pieces) := by
      rw [entryAt?]
      cases node.child? piece with
      | none => exact entryAt?_empty pieces
      | some child => rfl
    rw [ih, hknown, child?] at hcount
    rw [length_entries, length_entries node, insert, child?]
    split at hcount
    next hsome =>
      rw [if_pos hsome]
      dsimp only
      omega
    next hnone =>
      rw [if_neg hnone]
      dsimp only
      omega

end Node

-- ==================================================== the shape of a tree

/-- The shape of a tree that patterns were inserted into. -/
structure WellFormed (tree : PatternTree α) : Prop where
  /-- No pattern ends at the root. -/
  root_bare : tree.root.stored = none
  /-- Each node has its shape. -/
  shape : ∀ found ∈ tree.root.nodes, found.2.Shape found.1
  /-- Below the root no branch ends without an entry. -/
  no_dead_branch : ∀ found ∈ tree.root.nodes, found.1 ≠ [] →
    found.2.Alive
  /-- The size is the number of entries. -/
  size_eq : tree.size = tree.root.entries.length

theorem WellFormed.keysDistinct {tree : PatternTree α} (h : tree.WellFormed) :
    tree.root.KeysDistinct := by
  intro row last hlast
  exact (h.shape _ (Node.mem_nodes_of_nodeAt? hlast)).keys_distinct

theorem wellFormed_empty : (empty : PatternTree α).WellFormed := by
  have hnodes : ∀ found ∈ (empty : PatternTree α).root.nodes,
      found = ([], Node.empty) := by
    intro found hmem
    exact List.mem_singleton.1 hmem
  refine ⟨rfl, fun found hmem => ?_, fun found hmem hne => ?_, rfl⟩
  · rw [hnodes found hmem]
    exact Node.shape_empty []
  · rw [hnodes found hmem] at hne
    exact absurd rfl hne

/-- An insertion that is accepted keeps the shape. -/
theorem WellFormed.insert_of_parse_ok {tree : PatternTree α} {text : String}
    {pattern : Pattern} (h : tree.WellFormed)
    (hparse : Pattern.parse text = .ok pattern) (value : α) :
    (tree.insert text value).2.WellFormed := by
  rw [PatternTree.insert_of_parse_ok hparse]
  have hat : ∀ row last,
      (tree.root.insert text value pattern.pieces).nodeAt? row = some last →
      last.Shape row ∧ (row ≠ [] → last.Alive) := by
    intro row last hlast
    by_cases hprefix : row <+: pattern.pieces
    · obtain ⟨rest, hrest⟩ := hprefix
      rw [← hrest, Node.nodeAt?_insert_of_append, Option.some_inj] at hlast
      subst hlast
      have hbase : ((tree.root.nodeAt? row).getD Node.empty).Shape row := by
        cases hold : tree.root.nodeAt? row with
        | none => exact Node.shape_empty row
        | some old => exact h.shape _ (Node.mem_nodes_of_nodeAt? hold)
      refine ⟨hbase.insert ?_ value, fun _ => ?_⟩
      · rw [hrest]
        exact hparse
      · exact Node.alive_insert text value rest _
    · rw [Node.nodeAt?_insert_of_not_prefix hprefix] at hlast
      have hold := Node.mem_nodes_of_nodeAt? hlast
      exact ⟨h.shape _ hold, h.no_dead_branch _ hold⟩
  have hkeys : (tree.root.insert text value pattern.pieces).KeysDistinct :=
    fun row last hlast => (hat row last hlast).1.keys_distinct
  refine ⟨?_, fun found hmem => ?_, fun found hmem => ?_, ?_⟩
  · -- an entry at the root would need a piece in no pieces
    by_contra hstored
    obtain ⟨piece, hpiece, -⟩ := (hat [] _ rfl).1.not_all_wildcard hstored
    cases hpiece
  · exact (hat _ _ ((Node.mem_nodes_iff hkeys).1 hmem)).1
  · exact (hat _ _ ((Node.mem_nodes_iff hkeys).1 hmem)).2
  · rw [Node.length_entries_insert, ← h.size_eq]

/-- One that is refused keeps the tree. -/
theorem WellFormed.attempt {tree : PatternTree α} (h : tree.WellFormed)
    (call : String × α) : (tree.attempt call).WellFormed := by
  cases hparse : Pattern.parse call.1 with
  | error e =>
    rw [attempt_of_parse_error hparse]
    exact h
  | ok pattern => exact h.insert_of_parse_ok hparse call.2

theorem wellFormed_insertAll (calls : List (String × α)) :
    (empty.insertAll calls).WellFormed := by
  induction calls using List.reverseRecOn with
  | nil => exact wellFormed_empty
  | append_singleton calls call ih =>
    rw [insertAll_append_singleton]
    exact ih.attempt call

-- ================================================== the accepted patterns

/-- An insertion for the text was accepted, made where it stands in the
row. -/
def Accepted (calls : List (String × α)) (text : String) : Prop :=
  ∃ before value after, calls = before ++ (text, value) :: after
    ∧ ((empty.insertAll before).insert text value).1 = .ok ()

variable {calls : List (String × α)} {text : String}

theorem accepted_iff :
    Accepted calls text
      ↔ (∃ pattern, Pattern.parse text = .ok pattern)
        ∧ lastFor? calls text ≠ none := by
  rw [lastFor?_ne_none_iff]
  constructor
  · rintro ⟨before, value, after, rfl, hinsert⟩
    refine ⟨insert_fst_eq_ok_iff.1 hinsert, (text, value), ?_, rfl⟩
    exact List.mem_append_right _ List.mem_cons_self
  · rintro ⟨⟨pattern, hparse⟩, ⟨t, value⟩, hmem, rfl⟩
    obtain ⟨before, after, rfl⟩ := List.append_of_mem hmem
    exact ⟨before, value, after, rfl,
      insert_fst_eq_ok_iff.2 ⟨pattern, hparse⟩⟩

/-- The entries of the tree are for the texts that were accepted. -/
theorem mem_entries_insertAll :
    text ∈ (empty.insertAll calls).root.entries.map (·.2.pattern)
      ↔ Accepted calls text := by
  have hkeys := (wellFormed_insertAll calls).keysDistinct
  rw [accepted_iff, List.mem_map]
  constructor
  · rintro ⟨⟨row, entry⟩, hmem, rfl⟩
    have hentry := (Node.mem_entries_iff hkeys).1 hmem
    obtain ⟨hparse, hlast⟩ := (entryAt?_insertAll calls row entry).1 hentry
    refine ⟨⟨⟨row⟩, hparse⟩, ?_⟩
    rw [hlast]
    exact Option.some_ne_none _
  · rintro ⟨⟨⟨row⟩, hparse⟩, hlast⟩
    obtain ⟨value, hvalue⟩ := Option.ne_none_iff_exists'.1 hlast
    refine ⟨(row, { value, pattern := text }), ?_, rfl⟩
    apply (Node.mem_entries_iff hkeys).2
    exact (entryAt?_insertAll calls row _).2 ⟨hparse, hvalue⟩

/-- No two entries of the tree are for one text. -/
theorem nodup_texts_insertAll (calls : List (String × α)) :
    ((empty.insertAll calls).root.entries.map (·.2.pattern)).Nodup := by
  have hkeys := (wellFormed_insertAll calls).keysDistinct
  have hrows := Node.nodup_entries hkeys
  rw [List.Nodup, List.pairwise_map] at hrows ⊢
  refine hrows.imp_of_mem fun {found other} hfound hother hne hsame => hne ?_
  have hentry := (Node.mem_entries_iff hkeys).1 hfound
  have hentry' := (Node.mem_entries_iff hkeys).1 hother
  obtain ⟨hparse, -⟩ := (entryAt?_insertAll calls _ _).1 hentry
  obtain ⟨hparse', -⟩ := (entryAt?_insertAll calls _ _).1 hentry'
  rw [hsame, hparse'] at hparse
  exact (Pattern.mk.inj (Except.ok.inj hparse)).symm

/-- After any insertions, accepted and refused ones mixed: the tree has its
shape, which includes that the size is the number of entries; the entries are
for the texts that were accepted, one for each; and the tree is empty if and
only if none was. -/
theorem insertAll_represents (calls : List (String × α)) :
    (empty.insertAll calls).WellFormed
      ∧ (∀ text, text ∈ (empty.insertAll calls).root.entries.map (·.2.pattern)
          ↔ Accepted calls text)
      ∧ ((empty.insertAll calls).root.entries.map (·.2.pattern)).Nodup
      ∧ ((empty.insertAll calls).isEmpty = true
          ↔ ∀ text, ¬ Accepted calls text) := by
  have hshape := wellFormed_insertAll calls
  refine ⟨hshape, fun text => mem_entries_insertAll,
    nodup_texts_insertAll calls, ?_⟩
  have hempty : (empty.insertAll calls).isEmpty = true
      ↔ (empty.insertAll calls).root.entries.map (·.2.pattern) = [] := by
    rw [isEmpty, beq_iff_eq, hshape.size_eq, List.length_eq_zero_iff,
      List.map_eq_nil_iff]
  rw [hempty, List.eq_nil_iff_forall_not_mem]
  exact forall_congr' fun text => not_congr mem_entries_insertAll

/-- A pattern, one that goes on, one that is refused and the first one
again: two entries below one branch. -/
example : ((empty.insertAll
    [("a.b", 1), ("a.b.*", 2), ("*.*", 3), ("a.b", 4)]).root.entries.map
      fun found => (found.2.pattern, found.2.value))
    = [("a.b", 4), ("a.b.*", 2)] := by
  decide +kernel

end FaultStatus.PatternTree
