import InstallAudit.Proofs.Manifests
import InstallAudit.Proofs.Reading

/-!
# Writing a manifest and reading it again

A manifest is written one entry on a line, and what is written may be read as a listing.  A line may come
back as another path than it is, and that path may be another entry, so it is not enough to look at one
entry after the other.  But reading only ever makes lines shorter.  If every entry comes back from some
line, then all characters of the manifest do, and so no line can have lost one.

* `splitOn_text` — the lines of a written manifest are its entries.
* `forall_eq_self_of_subset` — if all entries come back, each of them comes back from its own line.
* `mem_of_text` — what is read when no byte order mark stands in front.
* `Path.IsListable`, `path?_eq_self_iff_isListable` — the paths that a line can say as they are.
* **`load_text_eq_iff`** — which manifests survive being written and read.
-/

namespace InstallAudit

open scoped List

open InstallAudit.Path

/-! ## What shrinks and cannot grow -/

section Shrinking

variable {f : Text → Option Text}

/-- Results that are no longer than what they come from have no more characters together. -/
lemma totalLength_filterMap_le (shrinks : ∀ l x, f l = some x → x.length ≤ l.length)
    (ls : List Text) : Text.totalLength (ls.filterMap f) ≤ Text.totalLength ls := by
  induction ls with
  | nil => exact Nat.le_refl _
  | cons l ls ih =>
      cases h : f l with
      | none =>
          rw [List.filterMap_cons_none h, Text.totalLength_cons]
          omega
      | some x =>
          have hx := shrinks l x h
          rw [List.filterMap_cons_some h, Text.totalLength_cons, Text.totalLength_cons]
          omega

/-- If they have all the characters together, then each of them has all the characters of what it
comes from. -/
lemma exists_of_le_totalLength (shrinks : ∀ l x, f l = some x → x.length ≤ l.length)
    {ls : List Text} (h : Text.totalLength ls ≤ Text.totalLength (ls.filterMap f)) {l : Text}
    (hl : l ∈ ls) (hne : l ≠ []) : ∃ x, f l = some x ∧ l.length ≤ x.length := by
  induction ls with
  | nil => cases hl
  | cons l' ls ih =>
      have hrest := totalLength_filterMap_le shrinks ls
      cases hx : f l' with
      | none =>
          rw [List.filterMap_cons_none hx, Text.totalLength_cons] at h
          -- a text that gives nothing is missing from the results with all its characters
          have hnil : l' = [] := List.length_eq_zero_iff.1 (by omega)
          rcases List.mem_cons.1 hl with rfl | hl
          · exact absurd hnil hne
          · exact ih (by omega) hl
      | some x =>
          have hshorter := shrinks l' x hx
          rw [List.filterMap_cons_some hx, Text.totalLength_cons, Text.totalLength_cons] at h
          rcases List.mem_cons.1 hl with rfl | hl
          · exact ⟨x, hx, by omega⟩
          · exact ih (by omega) hl

end Shrinking

/-! ## The lines of a written manifest -/

namespace Manifest

variable {m : Manifest}

lemma splitOn_text (newline : ∀ x ∈ m, '\n' ∉ x) : m.text.splitOn '\n' = m.toList ++ [[]] :=
  Text.splitOn_lines newline

/-- The first character that is written is that of the smallest entry, or a line feed. -/
lemma head?_text_ne_iff {c : Char} (hc : c ≠ '\n') :
    m.text.head? ≠ some c ↔ ∀ x ∈ m.toList.head?, x.head? ≠ some c := by
  rw [text]
  cases m.toList with
  | nil => simp
  | cons x xs =>
      cases x with
      | nil => simp [hc.symm]
      | cons d x => simp

variable {f : Text → Option Path}

/-- If each entry comes back from its own line, then the entries are what is read. -/
lemma mem_of_text (newline : ∀ x ∈ m, '\n' ∉ x) (mark : m.text.head? ≠ some '\uFEFF')
    (blank : f [] = none) (self : ∀ x ∈ m, f x = some x) {x : Path} :
    (∃ line ∈ m.text.withoutMark.splitOn '\n', f line = some x) ↔ x ∈ m := by
  rw [Text.withoutMark_eq_self mark, splitOn_text newline]
  constructor
  · rintro ⟨line, hline, hx⟩
    rcases List.mem_append.1 hline with hline | hline
    · rw [self line hline, Option.some.injEq] at hx
      rwa [← hx]
    · rw [List.mem_singleton.1 hline, blank] at hx
      cases hx
  · intro hx
    exact ⟨x, List.mem_append_left _ hx, self x hx⟩

/-- **No entry may change.**  Let reading make no line longer, and change no entry without making it
shorter.  If all entries come back, then no byte order mark was taken off, and each of them comes back
from its own line. -/
lemma forall_eq_self_of_subset (shrinks : ∀ l x, f l = some x → x.length ≤ l.length)
    (rigid : ∀ l ∈ m, ∀ x, f l = some x → l.length ≤ x.length → x = l)
    (newline : ∀ x ∈ m, '\n' ∉ x) (ne_nil : ∀ x ∈ m, x ≠ [])
    (back : ∀ x ∈ m, ∃ line ∈ m.text.withoutMark.splitOn '\n', f line = some x) :
    m.text.head? ≠ some '\uFEFF' ∧ ∀ x ∈ m, f x = some x := by
  have hsubset : m.toList ⊆ (m.text.withoutMark.splitOn '\n').filterMap f := fun x hx =>
    List.mem_filterMap.2 (back x hx)
  have htotal := Text.totalLength_le_of_subset m.nodup_toList hsubset
  have hlines : Text.totalLength (m.text.splitOn '\n') = Text.totalLength m.toList := by
    rw [splitOn_text newline, Text.totalLength_append]
    rfl
  have hmark : m.text.head? ≠ some '\uFEFF' := by
    intro hmark
    -- without the mark the lines have one character less than the entries that they have to give
    have hless := Text.totalLength_splitOn_withoutMark_lt hmark
    have hle := totalLength_filterMap_le shrinks (m.text.withoutMark.splitOn '\n')
    omega
  refine ⟨hmark, fun x hx => ?_⟩
  rw [Text.withoutMark_eq_self hmark] at htotal
  have hmem : x ∈ m.text.splitOn '\n' := by
    rw [splitOn_text newline]
    exact List.mem_append_left _ hx
  obtain ⟨y, hy, hlength⟩ := exists_of_le_totalLength shrinks (hlines ▸ htotal) hmem (ne_nil x hx)
  rwa [rigid x hx y hy hlength] at hy

end Manifest

/-! ## Lines that say themselves -/

/-- A path that a line of a listing can say as it is. -/
structure Path.IsListable (x : Path) : Prop where
  ne_nil : x ≠ []
  front : ∀ b ∈ x.head?, Text.isBlank b = false
  back : ∀ b ∈ x.getLast?, Text.isBlank b = false
  noComment : x.head? ≠ some '#'
  backslash : '\\' ∉ x
  segments : ∀ s ∈ x.segments, s ≠ [] ∧ s ≠ ['.']

namespace LoadOptions

lemma path?_nil (o : LoadOptions) : o.path? [] = none :=
  rfl

/-- If nothing is to be cut off or left out, the lines that say themselves are the listable ones. -/
lemma path?_eq_self_iff_isListable {x : Path} :
    ({} : LoadOptions).path? x = some x ↔ x.IsListable := by
  have hplain {x : Path} (hx : x ≠ []) (backslash : '\\' ∉ x) :
      ({} : LoadOptions).path? x = some x
        ↔ x.trim = x ∧ (x ≠ [] ∧ x.head? ≠ some '#') ∧ x.IsClean := by
    rw [path?_eq_self_iff hx backslash, keeps_iff]
    simp [atMarker?, atPrefix?]
  constructor
  · intro h
    have hx := (path?_eq_some.1 h).2.1
    have backslash := backslash_not_mem_of_path? h
    obtain ⟨htrim, ⟨-, hcomment⟩, hclean⟩ := (hplain hx backslash).1 h
    obtain ⟨hfront, hback⟩ := (Text.trim_eq_self_iff x).1 htrim
    exact ⟨hx, hfront, hback, hcomment, backslash, hclean⟩
  · intro h
    refine (hplain h.ne_nil h.backslash).2 ⟨?_, ⟨h.ne_nil, h.noComment⟩, h.segments⟩
    exact (Text.trim_eq_self_iff x).2 ⟨h.front, h.back⟩

/-- A written manifest is read as itself when every entry is what its own line says. -/
lemma load_text_eq_iff_forall {o : LoadOptions} {m : Manifest} (newline : ∀ x ∈ m, '\n' ∉ x) :
    o.load m.text = m ↔ m.text.head? ≠ some '\uFEFF' ∧ ∀ x ∈ m, o.path? x = some x := by
  constructor
  · intro h
    have hback : ∀ x ∈ m, ∃ line ∈ m.text.withoutMark.splitOn '\n', o.path? line = some x := by
      intro x hx
      rw [← mem_load_iff_path?, h]
      exact hx
    -- what was read has no `\`, so only from its own line can it come back at its full length
    have hbackslash : ∀ x ∈ m, '\\' ∉ x := by
      intro x hx
      obtain ⟨line, -, hline⟩ := hback x hx
      exact backslash_not_mem_of_path? hline
    have hne : ∀ x ∈ m, x ≠ [] := by
      intro x hx
      obtain ⟨line, -, hline⟩ := hback x hx
      exact (path?_eq_some.1 hline).2.1
    exact Manifest.forall_eq_self_of_subset (fun _ _ => length_le_of_path?)
      (fun l hl _ => eq_of_path?_of_length (hbackslash l hl)) newline hne hback
  · rintro ⟨hmark, hself⟩
    refine Manifest.ext_mem fun x => ?_
    rw [mem_load_iff_path?]
    exact Manifest.mem_of_text newline hmark o.path?_nil hself

end LoadOptions

/-- **Which manifests survive being written and read.**  Written one entry on a line, a manifest is read
as itself exactly when all its entries are listable and no byte order mark stands in front of the
smallest one. -/
theorem load_text_eq_iff {m : Manifest} (newline : ∀ x ∈ m, '\n' ∉ x) :
    ({} : LoadOptions).load m.text = m
      ↔ (∀ x ∈ m, x.IsListable) ∧ ∀ x ∈ m.toList.head?, x.head? ≠ some '\uFEFF' := by
  rw [LoadOptions.load_text_eq_iff_forall newline, Manifest.head?_text_ne_iff (by decide), and_comm]
  simp only [LoadOptions.path?_eq_self_iff_isListable]

/-- A blank inside a name, a `..` and a byte order mark that is not the first character are all kept. -/
theorem load_text_eq_iff_odd_names :
    let m : Manifest := .ofList ["..so".toList, "a/.. #b".toList, "\uFEFFc/ d".toList]
    (∀ x ∈ m, '\n' ∉ x) ∧ ({} : LoadOptions).load m.text = m := by
  intro m
  have newline : ∀ x ∈ m.toList, '\n' ∉ x := by decide
  have self : ∀ x ∈ m.toList, ({} : LoadOptions).path? x = some x := by decide
  have first : ∀ x ∈ m.toList.head?, x.head? ≠ some '\uFEFF' := by decide
  refine ⟨newline, (load_text_eq_iff newline).2 ⟨fun x hx => ?_, first⟩⟩
  exact LoadOptions.path?_eq_self_iff_isListable.1 (self x hx)

/-- An entry that is read as another one is lost, though every path that is read is an entry. -/
example :
    let m : Manifest := .ofList ["./a".toList, "a".toList]
    ({} : LoadOptions).load m.text = .ofList ["a".toList] := by
  decide

end InstallAudit
