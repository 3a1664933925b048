import InstallAudit.Proofs.Segments

/-!
# Where a path lies and how its name ends

The policy asks two questions of a path: whether it lies below a directory, and whether its name
carries an extension.  Both are computed by walking over lists.  Here they are said by taking the
path apart.

* `Path.Below`, `isUnder_iff_below` — below a directory: its steps, and segments behind them.
* `Path.Carries`, `hasExtension_iff_carries` — an extension: the end of a name, and letters in front
  of it.
-/

namespace InstallAudit

open scoped List

/-! ## Below a directory -/

/-- The steps of the directory occur in the path one behind the other, and the path goes on behind
them. -/
def Path.Below (p dir : Path) : Prop :=
  ∃ front rest, p.segments = front ++ dir.steps ++ rest ∧ dir.steps ≠ [] ∧ rest ≠ []

namespace Path

/-- Walking over the segments finds a run exactly when it is there. -/
lemma hasRun_iff_infix {run segs : List Text} : hasRun run segs = true ↔ run <:+: segs := by
  induction segs with
  | nil => rw [hasRun, List.isEmpty_iff, List.infix_nil]
  | cons s segs ih => rw [hasRun, Bool.or_eq_true, List.isPrefixOf_iff_prefix, ih,
      List.infix_cons_iff]

/-- **Below a directory.**  The run has to end in front of the name, which is to say that something
is left behind it. -/
lemma isUnder_iff_below {p dir : Path} : p.isUnder dir = true ↔ p.Below dir := by
  rw [isUnder, Bool.and_eq_true, hasRun_iff_infix, Bool.not_eq_true', List.isEmpty_eq_false_iff,
    Below]
  constructor
  · rintro ⟨hsteps, front, rest, hdirs⟩
    refine ⟨front, rest ++ [p.name], ?_, hsteps, by simp⟩
    rw [segments_eq, ← hdirs, List.append_assoc]
  · rintro ⟨front, rest, hsegments, hsteps, hrest⟩
    refine ⟨hsteps, front, rest.dropLast, ?_⟩
    rw [dirs, hsegments, List.dropLast_append_of_ne_nil hrest]

/-- The run of a directory that has steps stands among the directories of the path. -/
lemma below_iff_infix {p dir : Path} : p.Below dir ↔ dir.steps ≠ [] ∧ dir.steps <:+: p.dirs := by
  rw [← isUnder_iff_below, isUnder, Bool.and_eq_true, hasRun_iff_infix, Bool.not_eq_true',
    List.isEmpty_eq_false_iff]

/-- Below a directory, the path has all characters of the directory, apart from `/`. -/
lemma Below.mem {p dir : Path} (h : p.Below dir) {c : Char} (hc : c ≠ '/') (hmem : c ∈ dir) :
    c ∈ p := by
  obtain ⟨s, hs, hcs⟩ := (mem_iff_mem_segments hc dir).1 hmem
  have hstep : s ∈ dir.steps := List.mem_filter.2 ⟨hs, by simpa using List.ne_nil_of_mem hcs⟩
  obtain ⟨-, hrun⟩ := below_iff_infix.1 h
  exact (mem_iff_mem_segments hc p).2 ⟨s, List.mem_of_mem_dropLast (hrun.subset hstep), hcs⟩

instance (p dir : Path) : Decidable (p.Below dir) :=
  decidable_of_iff _ isUnder_iff_below

end Path

/-! ## Extensions -/

/-- The name of the path is the extension with something in front of it. -/
def Path.Carries (p : Path) (ext : Text) : Prop :=
  ∃ stem, stem ≠ [] ∧ p.name = stem ++ ext

lemma Text.byteLength_append (t u : Text) :
    Text.byteLength (t ++ u) = Text.byteLength t + Text.byteLength u := by
  induction t with
  | nil => simp [Text.byteLength]
  | cons c t ih => rw [List.cons_append, Text.byteLength, Text.byteLength, ih, Nat.add_assoc]

lemma Text.byteLength_pos {t : Text} : 0 < t.byteLength ↔ t ≠ [] := by
  cases t with
  | nil => simp [Text.byteLength]
  | cons c t =>
      have hc := c.utf8Size_pos
      rw [Text.byteLength]
      exact iff_of_true (by omega) (List.cons_ne_nil c t)

namespace Path

/-- **Extensions.**  A name is longer than its end when something stands in front of the end. -/
lemma hasExtension_iff_carries {p : Path} {ext : Text} :
    p.hasExtension ext = true ↔ p.Carries ext := by
  rw [hasExtension, Bool.and_eq_true, decide_eq_true_iff, List.isSuffixOf_iff_suffix, Carries]
  constructor
  · rintro ⟨hlength, stem, hname⟩
    rw [← hname, Text.byteLength_append] at hlength
    exact ⟨stem, Text.byteLength_pos.1 (by omega), hname.symm⟩
  · rintro ⟨stem, hstem, hname⟩
    have hpos := Text.byteLength_pos.2 hstem
    rw [hname, Text.byteLength_append]
    exact ⟨by omega, List.suffix_append stem ext⟩

instance (p : Path) (ext : Text) : Decidable (p.Carries ext) :=
  decidable_of_iff _ hasExtension_iff_carries

end Path

end InstallAudit
