/-
The nodes of a tree of patterns. A tree is a nested thing, and nothing in
its type forbids two children for one piece. So its nodes are listed as
they stand in the tree, each with the row of pieces that leads to it
(`Node.nodes`), and with them its entries (`Node.entries`): what is said of
all nodes is said of the members of this list, and what is counted is its
length.

Walks and insertions know nothing of the list. They go down along a row of
pieces, and see the node that they come to (`Node.nodeAt?`). Both see the
same where no piece stands for two children of a node (`KeysDistinct`):
then the nodes that are listed are those at the ends of rows
(`mem_nodes_iff`), each row leading to one node (`nodup_rows`).
-/
import FaultStatus.PatternTree
import Mathlib.Data.List.Nodup

namespace FaultStatus.PatternTree

variable {α : Type}

namespace Node

-- ============================================================= the nodes

mutual

/-- All nodes from a node on, each with the row of pieces that leads to
it. -/
def nodes : Node α → List (List Piece × Node α)
  | ⟨stored, children⟩ => ([], ⟨stored, children⟩) :: nodesBelow children

/-- The nodes from each of the children on. -/
def nodesBelow : List (Piece × Node α) → List (List Piece × Node α)
  | [] => []
  | (piece, child) :: rest =>
    child.nodes.map (fun found => (piece :: found.1, found.2))
      ++ nodesBelow rest

end

/-- The entry that a node holds, with the row that leads to it. -/
def entryOf (found : List Piece × Node α) : Option (List Piece × Entry α) :=
  found.2.stored.map (found.1, ·)

/-- All entries from a node on, each with the row of pieces that leads to
it. -/
def entries (node : Node α) : List (List Piece × Entry α) :=
  node.nodes.filterMap entryOf

/-- The node at the end of a row of pieces. -/
def nodeAt? : List Piece → Node α → Option (Node α)
  | [], node => some node
  | piece :: row, node => (node.child? piece).bind (nodeAt? row)

theorem nodes_eq (node : Node α) :
    node.nodes = ([], node) :: nodesBelow node.children := by
  cases node
  rfl

theorem entryAt?_eq_bind (row : List Piece) (node : Node α) :
    node.entryAt? row = (node.nodeAt? row).bind (·.stored) := by
  induction row generalizing node with
  | nil => rfl
  | cons piece row ih =>
    rw [entryAt?, nodeAt?]
    cases node.child? piece with
    | none => rfl
    | some child => exact ih child

theorem mem_nodesBelow {list : List (Piece × Node α)} {row : List Piece}
    {last : Node α} :
    (row, last) ∈ nodesBelow list
      ↔ ∃ piece child rest, (piece, child) ∈ list
          ∧ row = piece :: rest ∧ (rest, last) ∈ child.nodes := by
  induction list with
  | nil =>
    rw [nodesBelow]
    simp
  | cons head list ih =>
    obtain ⟨piece, child⟩ := head
    rw [nodesBelow, List.mem_append, ih, List.mem_map]
    constructor
    · rintro (⟨⟨rest, node⟩, hmem, heq⟩ | ⟨q, c, rest, hmem, hrow, hlast⟩)
      · cases heq
        exact ⟨piece, child, rest, List.mem_cons_self, rfl, hmem⟩
      · exact ⟨q, c, rest, List.mem_cons_of_mem _ hmem, hrow, hlast⟩
    · rintro ⟨q, c, rest, hmem, hrow, hlast⟩
      rcases List.mem_cons.1 hmem with heq | hmem
      · cases heq
        exact Or.inl ⟨(rest, last), hlast, by rw [hrow]⟩
      · exact Or.inr ⟨q, c, rest, hmem, hrow, hlast⟩

-- =================================================== one child per piece

/-- At no node do two children stand for one piece. -/
def KeysDistinct (node : Node α) : Prop :=
  ∀ row last, node.nodeAt? row = some last →
    (last.children.map Prod.fst).Nodup

theorem lookup_eq_some_of_mem {list : List (Piece × Node α)} {piece : Piece}
    {child : Node α} (hkeys : (list.map Prod.fst).Nodup)
    (hmem : (piece, child) ∈ list) : list.lookup piece = some child := by
  induction list with
  | nil => cases hmem
  | cons head list ih =>
    obtain ⟨q, c⟩ := head
    rw [List.map_cons, List.nodup_cons] at hkeys
    rw [lookup_cons]
    rcases List.mem_cons.1 hmem with heq | hrest
    · cases heq
      exact if_pos rfl
    · rw [if_neg, ih hkeys.2 hrest]
      intro hsame
      subst hsame
      exact hkeys.1 (List.mem_map.2 ⟨_, hrest, rfl⟩)

theorem mem_of_lookup_eq_some {list : List (Piece × Node α)} {piece : Piece}
    {child : Node α} (h : list.lookup piece = some child) :
    (piece, child) ∈ list := by
  obtain ⟨front, back, rfl, -⟩ := List.lookup_eq_some_iff.1 h
  exact List.mem_append_right _ List.mem_cons_self

namespace KeysDistinct

variable {node : Node α}

theorem child? (h : node.KeysDistinct) {piece : Piece} {child : Node α}
    (hmem : (piece, child) ∈ node.children) :
    node.child? piece = some child :=
  lookup_eq_some_of_mem (h [] node rfl) hmem

theorem of_child (h : node.KeysDistinct) {piece : Piece} {child : Node α}
    (hmem : (piece, child) ∈ node.children) : child.KeysDistinct := by
  intro row last hlast
  apply h (piece :: row) last
  rw [nodeAt?, h.child? hmem, Option.bind_some, hlast]

end KeysDistinct

/-- A node at the end of a row is one of the nodes. -/
theorem mem_nodes_of_nodeAt? {row : List Piece} {node last : Node α}
    (h : node.nodeAt? row = some last) : (row, last) ∈ node.nodes := by
  rw [nodes_eq]
  induction row generalizing node with
  | nil =>
    cases h
    exact List.mem_cons_self
  | cons piece row ih =>
    rw [nodeAt?, Option.bind_eq_some_iff] at h
    obtain ⟨child, hchild, hlast⟩ := h
    apply List.mem_cons_of_mem
    refine mem_nodesBelow.2 ⟨piece, child, row, ?_, rfl, ?_⟩
    · exact mem_of_lookup_eq_some hchild
    · rw [nodes_eq]
      exact ih hlast

/-- Where no piece stands for two children, the nodes are those at the ends
of rows. -/
theorem mem_nodes_iff {row : List Piece} {node last : Node α}
    (hkeys : node.KeysDistinct) :
    (row, last) ∈ node.nodes ↔ node.nodeAt? row = some last := by
  refine ⟨fun h => ?_, mem_nodes_of_nodeAt?⟩
  rw [nodes_eq] at h
  induction row generalizing node with
  | nil =>
    rcases List.mem_cons.1 h with heq | hbelow
    · cases heq
      rfl
    · obtain ⟨piece, child, rest, -, heq, -⟩ := mem_nodesBelow.1 hbelow
      cases heq
  | cons piece row ih =>
    rcases List.mem_cons.1 h with heq | hbelow
    · cases heq
    · obtain ⟨q, child, rest, hmem, heq, hlast⟩ := mem_nodesBelow.1 hbelow
      cases heq
      rw [nodes_eq] at hlast
      rw [nodeAt?, hkeys.child? hmem, Option.bind_some]
      exact ih (hkeys.of_child hmem) hlast

/-- Where no piece stands for two children, the entries are those at the
ends of rows. -/
theorem mem_entries_iff {row : List Piece} {node : Node α} {entry : Entry α}
    (hkeys : node.KeysDistinct) :
    (row, entry) ∈ node.entries ↔ node.entryAt? row = some entry := by
  rw [entries, List.mem_filterMap, entryAt?_eq_bind,
    Option.bind_eq_some_iff]
  constructor
  · rintro ⟨⟨row', last⟩, hmem, hentry⟩
    obtain ⟨stored, hstored, heq⟩ := Option.map_eq_some_iff.1 hentry
    cases heq
    exact ⟨last, (mem_nodes_iff hkeys).1 hmem, hstored⟩
  · rintro ⟨last, hlast, hstored⟩
    refine ⟨(row, last), (mem_nodes_iff hkeys).2 hlast, ?_⟩
    rw [entryOf, hstored]
    rfl

mutual

/-- Where no piece stands for two children, no row leads to two nodes. -/
theorem nodup_rows (node : Node α) (hkeys : node.KeysDistinct) :
    (node.nodes.map Prod.fst).Nodup :=
  match node with
  | ⟨stored, children⟩ => by
    have hbelow := nodup_rowsBelow children (hkeys [] _ rfl)
      fun edge hmem => hkeys.of_child hmem
    rw [nodes, List.map_cons, List.nodup_cons]
    refine ⟨fun hmem => ?_, hbelow⟩
    obtain ⟨⟨row, last⟩, hlast, hrow⟩ := List.mem_map.1 hmem
    obtain ⟨piece, child, rest, -, heq, -⟩ := mem_nodesBelow.1 hlast
    cases hrow
    cases heq

theorem nodup_rowsBelow (list : List (Piece × Node α))
    (hlist : (list.map Prod.fst).Nodup)
    (hkeys : ∀ edge ∈ list, edge.2.KeysDistinct) :
    ((nodesBelow list).map Prod.fst).Nodup :=
  match list with
  | [] => List.nodup_nil
  | (piece, child) :: rest => by
    rw [List.map_cons, List.nodup_cons] at hlist
    obtain ⟨hchild, hrest⟩ := List.forall_mem_cons.1 hkeys
    have hrows := nodup_rows child hchild
    have hbelow := nodup_rowsBelow rest hlist.2 hrest
    rw [nodesBelow, List.map_append, List.map_map]
    rw [List.nodup_append]
    refine ⟨?_, hbelow, ?_⟩
    · have hmap : (Prod.fst ∘ fun found : List Piece × Node α =>
          (piece :: found.1, found.2)) = (piece :: ·) ∘ Prod.fst := rfl
      rw [hmap, ← List.map_map]
      exact List.Nodup.map List.cons_injective hrows
    · intro row hrow other hother hsame
      subst hsame
      obtain ⟨⟨row', last⟩, -, heq⟩ := List.mem_map.1 hrow
      obtain ⟨⟨_, last'⟩, hlast', rfl⟩ := List.mem_map.1 hother
      obtain ⟨q, c, rest', hmem, hcons, -⟩ := mem_nodesBelow.1 hlast'
      have hpiece : piece = q := (List.cons.inj (heq.trans hcons)).1
      subst hpiece
      exact hlist.1 (List.mem_map.2 ⟨_, hmem, rfl⟩)

end

/-- Nor does a row lead to two entries. -/
theorem nodup_entries {node : Node α} (hkeys : node.KeysDistinct) :
    (node.entries.map Prod.fst).Nodup := by
  have hrows := nodup_rows node hkeys
  rw [List.Nodup, List.pairwise_map] at hrows ⊢
  refine hrows.filterMap entryOf fun found other hne e he e' he' => ?_
  obtain ⟨_, -, rfl⟩ := Option.map_eq_some_iff.1 he
  obtain ⟨_, -, rfl⟩ := Option.map_eq_some_iff.1 he'
  exact hne

end Node

end FaultStatus.PatternTree
