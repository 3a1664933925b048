import InstallAudit.Path
import InstallAudit.Text.Utf8

/-!
# Manifests

A manifest is a finite set of paths.  It is held as the list of its entries in increasing order of
code points, so that two manifests with the same entries are the same value.

* `Manifest.ofList` — the manifest of the paths of a list, in any order and with repetitions.
* `difference`, `union`, `filter` — the operations on sets, each pinned down by its entries.
* `text` — the written form, one entry on a line.
-/

namespace InstallAudit

/-! ## Order -/

/-- Insert a path into an increasing list, unless it is there. -/
def insertPath (p : Path) : List Path → List Path
  | [] => [p]
  | q :: rest =>
    if p < q then p :: q :: rest
    else if p = q then q :: rest
    else q :: insertPath p rest

/-- Inserting a path adds that path and no other. -/
theorem mem_insertPath {p x : Path} {l : List Path} : x ∈ insertPath p l ↔ x = p ∨ x ∈ l := by
  induction l with
  | nil => simp [insertPath]
  | cons q rest ih =>
    rw [insertPath]
    split
    · simp
    · split
      · next h => simp [h]
      · simp [ih, or_left_comm]

/-- Inserting keeps a list increasing. -/
theorem pairwise_insertPath {p : Path} {l : List Path} (h : l.Pairwise (· < ·)) :
    (insertPath p l).Pairwise (· < ·) := by
  induction l with
  | nil => simp [insertPath]
  | cons q rest ih =>
    have hq := List.pairwise_cons.1 h
    rw [insertPath]
    split
    · next lt =>
      refine List.pairwise_cons.2 ⟨fun x hx => ?_, h⟩
      rcases List.mem_cons.1 hx with rfl | hx
      · exact lt
      · exact List.lt_trans lt (hq.1 x hx)
    · next nlt =>
      split
      · exact h
      · next ne =>
        refine List.pairwise_cons.2 ⟨fun x hx => ?_, ih hq.2⟩
        rcases mem_insertPath.1 hx with rfl | hx
        · exact Decidable.byContradiction fun nlt' =>
            ne (List.le_antisymm (List.not_lt.1 nlt') (List.not_lt.1 nlt))
        · exact hq.1 x hx

/-! ## The type -/

/-- A finite set of paths, as the increasing list of its entries. -/
structure Manifest where
  /-- The entries in increasing order. -/
  toList : List Path
  /-- No entry occurs twice and none stands in front of a smaller one. -/
  increasing : toList.Pairwise (· < ·)
  deriving DecidableEq

namespace Manifest

/-- A path belongs to a manifest when it is one of its entries. -/
instance : Membership Path Manifest where
  mem m p := p ∈ m.toList

@[simp] theorem mem_toList {p : Path} {m : Manifest} : p ∈ m.toList ↔ p ∈ m := Iff.rfl

def empty : Manifest := ⟨[], .nil⟩

instance : Inhabited Manifest := ⟨empty⟩

def insert (p : Path) (m : Manifest) : Manifest :=
  ⟨insertPath p m.toList, pairwise_insertPath m.increasing⟩

def ofList (paths : List Path) : Manifest :=
  paths.foldr insert empty

def size (m : Manifest) : Nat :=
  m.toList.length

def isEmpty (m : Manifest) : Bool :=
  m.toList.isEmpty

def contains (m : Manifest) (p : Path) : Bool :=
  m.toList.contains p

def filter (keep : Path → Bool) (m : Manifest) : Manifest :=
  ⟨m.toList.filter keep, m.increasing.filter keep⟩

/-- The entries of one manifest that are not in the other. -/
def difference (m other : Manifest) : Manifest :=
  m.filter fun p => !other.contains p

def union (m other : Manifest) : Manifest :=
  m.toList.foldr insert other

/-- The written form: one entry on a line, in increasing order. -/
def text (m : Manifest) : Text :=
  m.toList.flatMap fun p => p ++ ['\n']

/-! ## Entries of the results -/

@[simp] theorem not_mem_empty (p : Path) : p ∉ empty := List.not_mem_nil

@[simp] theorem mem_insert {p x : Path} {m : Manifest} : x ∈ m.insert p ↔ x = p ∨ x ∈ m :=
  mem_insertPath

@[simp] theorem mem_ofList {x : Path} {paths : List Path} : x ∈ ofList paths ↔ x ∈ paths := by
  induction paths with
  | nil => simp [ofList]
  | cons p rest ih => simpa [ofList] using or_congr_right ih

@[simp] theorem contains_eq_true {m : Manifest} {p : Path} : m.contains p = true ↔ p ∈ m :=
  List.contains_iff_mem

instance (p : Path) (m : Manifest) : Decidable (p ∈ m) :=
  decidable_of_iff (m.contains p = true) contains_eq_true

@[simp] theorem mem_filter {keep : Path → Bool} {m : Manifest} {x : Path} :
    x ∈ m.filter keep ↔ x ∈ m ∧ keep x = true :=
  List.mem_filter

@[simp] theorem mem_difference {m other : Manifest} {x : Path} :
    x ∈ m.difference other ↔ x ∈ m ∧ x ∉ other := by
  rw [difference, mem_filter, Bool.not_eq_true', Bool.eq_false_iff, ne_eq, contains_eq_true]

@[simp] theorem mem_union {m other : Manifest} {x : Path} :
    x ∈ m.union other ↔ x ∈ m ∨ x ∈ other := by
  rw [union, ← mem_toList (m := m)]
  induction m.toList with
  | nil => simp
  | cons p rest ih => simp [ih, or_assoc]

end Manifest

end InstallAudit
