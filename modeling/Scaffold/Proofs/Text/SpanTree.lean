import Scaffold.Proofs.Text.CaseRuns

/-!
# Tables as trees

To check each run of a table against all rows of another takes long if it is done row by row. Here
the rows are put into a tree, and a part of it is passed over at once where all its rows lie apart
from the steps that are asked about. The tree is not trusted: what is found in it is proved of the
rows, whatever their order is (`of_allMeeting`, `exists_of_anyMeeting`).
-/

namespace Scaffold.Text

/-- The rows of a table, in their order, at the leaves of a tree. -/
inductive SpanTree (α : Type) where
  | row (a : α)
  | fork (left right : SpanTree α)

namespace SpanTree

variable {α : Type}

def rows : SpanTree α → List α
  | row a => [a]
  | fork left right => left.rows ++ right.rows

/-! ### Trees of a table -/

/-- Makes one tree of any two that follow each other. -/
def pairUp : List (SpanTree α) → List (SpanTree α)
  | left :: right :: rest => fork left right :: pairUp rest
  | trees => trees

def pairUpTimes : Nat → List (SpanTree α) → List (SpanTree α)
  | 0, trees => trees
  | n + 1, trees => pairUpTimes n (pairUp trees)

/-- The trees of a table: one, unless it has more than 1024 rows. -/
def ofRows (table : List α) : List (SpanTree α) := pairUpTimes 10 (table.map row)

theorem rows_pairUp (trees : List (SpanTree α)) :
    (pairUp trees).flatMap rows = trees.flatMap rows := by
  fun_induction pairUp trees with
  | case1 left right rest ih => simp [ih, rows]
  | case2 trees => rfl

theorem rows_pairUpTimes (n : Nat) (trees : List (SpanTree α)) :
    (pairUpTimes n trees).flatMap rows = trees.flatMap rows := by
  induction n generalizing trees with
  | zero => rfl
  | succ n ih => rw [pairUpTimes, ih, rows_pairUp]

theorem rows_ofRows (table : List α) : (ofRows table).flatMap rows = table := by
  rw [ofRows, rows_pairUpTimes]
  simp [List.flatMap_map, rows]

/-- A table has the rows that are in its trees. -/
theorem exists_tree {table : List α} {a : α} (h : a ∈ table) :
    ∃ tree ∈ ofRows table, a ∈ tree.rows := by
  rw [← rows_ofRows table] at h
  exact List.mem_flatMap.mp h

theorem mem_of_mem_tree {table : List α} {tree : SpanTree α} {a : α} (h : tree ∈ ofRows table)
    (ha : a ∈ tree.rows) : a ∈ table := by
  rw [← rows_ofRows table]
  exact List.mem_flatMap.mpr ⟨tree, h, ha⟩

/-! ### Rows that meet some steps -/

variable (span : α → Nat × Nat)

/-- The first code point that a row of the tree is about. -/
def first : SpanTree α → Nat
  | row a => (span a).1
  | fork left right => min left.first right.first

/-- The last one. -/
def last : SpanTree α → Nat
  | row a => (span a).2
  | fork left right => max left.last right.last

/-- All rows of the tree lie apart from `lo` to `hi`. -/
def isApart (lo hi : Nat) (tree : SpanTree α) : Bool :=
  Nat.blt hi (tree.first span) || Nat.blt (tree.last span) lo

/-- A test of all rows but those in parts of the tree that lie apart. -/
def allMeeting (lo hi : Nat) (p : α → Bool) : SpanTree α → Bool
  | row a => p a
  | fork left right =>
    (fork left right).isApart span lo hi ||
      (left.allMeeting lo hi p && right.allMeeting lo hi p)

/-- A search among the rows but those in parts of the tree that lie apart. -/
def anyMeeting (lo hi : Nat) (p : α → Bool) : SpanTree α → Bool
  | row a => p a
  | fork left right =>
    !(fork left right).isApart span lo hi &&
      (left.anyMeeting lo hi p || right.anyMeeting lo hi p)

variable {lo hi : Nat} {p : α → Bool} {tree : SpanTree α} {a : α}

theorem span_within (h : a ∈ tree.rows) :
    tree.first span ≤ (span a).1 ∧ (span a).2 ≤ tree.last span := by
  induction tree with
  | row b =>
    rw [rows, List.mem_singleton] at h
    subst h
    exact ⟨Nat.le_refl _, Nat.le_refl _⟩
  | fork left right hleft hright =>
    rw [first, last]
    rcases List.mem_append.mp h with h | h
    · have := hleft h
      omega
    · have := hright h
      omega

variable {span}

/-- Whatever the tree is, the rows that have not been tested lie apart. -/
theorem of_allMeeting (h : tree.allMeeting span lo hi p = true) (ha : a ∈ tree.rows) :
    p a = true ∨ hi < (span a).1 ∨ (span a).2 < lo := by
  induction tree with
  | row b =>
    rw [rows, List.mem_singleton] at ha
    subst ha
    exact .inl h
  | fork left right hleft hright =>
    rw [allMeeting, Bool.or_eq_true, Bool.and_eq_true] at h
    rcases h with hapart | ⟨hl, hr⟩
    · obtain ⟨hfirst, hlast⟩ := span_within span ha
      simp only [isApart, Bool.or_eq_true, Nat.blt_eq] at hapart
      omega
    · rcases List.mem_append.mp ha with ha | ha
      · exact hleft hl ha
      · exact hright hr ha

theorem exists_of_anyMeeting (h : tree.anyMeeting span lo hi p = true) :
    ∃ a ∈ tree.rows, p a = true := by
  induction tree with
  | row a => exact ⟨a, List.mem_singleton_self a, h⟩
  | fork left right hleft hright =>
    rw [anyMeeting, Bool.and_eq_true, Bool.or_eq_true] at h
    rcases h.2 with h | h
    · obtain ⟨a, ha, hp⟩ := hleft h
      exact ⟨a, List.mem_append_left _ ha, hp⟩
    · obtain ⟨a, ha, hp⟩ := hright h
      exact ⟨a, List.mem_append_right _ ha, hp⟩

end SpanTree

/-! ### Ranges and runs -/

/-- The code points that a run is about. -/
def Run.span (run : Run) : Nat × Nat := (run.first, run.last)

/-- The one that a row of a special form is about. -/
def rowSpan (row : Nat × List Nat) : Nat × Nat := (row.1, row.1)

/-- `Ranges.covers`, by the trees of the ranges. -/
def treesCover (trees : List (SpanTree (Nat × Nat))) (first last step : Nat) : Bool :=
  trees.any (·.anyMeeting id first last fun range =>
      Nat.ble last range.2 && Nat.ble range.1 first) ||
    (List.range' first ((last - first) / step + 1) step).all fun n =>
      trees.any (·.anyMeeting id n n fun range => Nat.ble n range.2 && Nat.ble range.1 n)

/-- `keepsSteps`, by the trees of the tables. -/
def treesKeep (specialTrees : List (SpanTree (Nat × List Nat))) (runTrees : List (SpanTree Run))
    (first last step : Nat) : Bool :=
  runTrees.all (·.allMeeting Run.span first last (·.avoids first last step)) &&
    specialTrees.all (·.allMeeting rowSpan first last fun row =>
      Nat.blt row.1 first || Nat.blt last row.1)

variable {first last step : Nat}

theorem SpanTree.any_rows {α : Type} {span : α → Nat × Nat} {lo hi : Nat} {p : α → Bool}
    {table : List α} (h : (ofRows table).any (·.anyMeeting span lo hi p) = true) :
    table.any p = true := by
  obtain ⟨tree, htree, h⟩ := List.any_eq_true.mp h
  obtain ⟨a, ha, hp⟩ := exists_of_anyMeeting h
  exact List.any_eq_true.mpr ⟨a, mem_of_mem_tree htree ha, hp⟩

theorem covers_of_treesCover {ranges : Ranges}
    (h : treesCover (SpanTree.ofRows ranges) first last step = true) :
    ranges.covers first last step = true := by
  rw [treesCover, Bool.or_eq_true] at h
  rw [Ranges.covers, Bool.or_eq_true]
  rcases h with h | h
  · exact .inl (SpanTree.any_rows h)
  · refine .inr (List.all_eq_true.mpr fun n hn => ?_)
    exact SpanTree.any_rows (List.all_eq_true.mp h n hn)

theorem keepsSteps_of_treesKeep {special : List (Nat × List Nat)} {runs : List Run}
    (h : treesKeep (SpanTree.ofRows special) (SpanTree.ofRows runs) first last step = true) :
    keepsSteps special runs first last step = true := by
  rw [treesKeep, Bool.and_eq_true, List.all_eq_true, List.all_eq_true] at h
  rw [keepsSteps, Bool.and_eq_true, List.all_eq_true, List.all_eq_true]
  constructor
  · intro run hrun
    obtain ⟨tree, htree, hmem⟩ := SpanTree.exists_tree hrun
    have hrow := SpanTree.of_allMeeting (h.1 tree htree) hmem
    simp only [Run.span] at hrow
    rcases hrow with hrow | hrow
    · exact hrow
    · simp only [Run.avoids, Bool.or_eq_true, Nat.blt_eq]
      omega
  · intro row hrow
    obtain ⟨tree, htree, hmem⟩ := SpanTree.exists_tree hrow
    have hspan := SpanTree.of_allMeeting (h.2 tree htree) hmem
    simp only [rowSpan, Bool.or_eq_true, Nat.blt_eq] at hspan ⊢
    omega

end Scaffold.Text
