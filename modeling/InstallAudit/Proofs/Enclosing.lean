import InstallAudit.Proofs.Placement

/-!
# Enclosing directories

Every rule about a directory, and the exemption, ask one thing of a path: whether it lies below the
directory.  The answer goes by whole segments.  It depends on the steps of the directory alone, on the
path only as far as the steps go, and a path below a directory is below all parts of this directory.

* `steps_append_slash` — the steps of a longer directory; slashes that divide nothing give no step.
* `Path.Below.behind`, `below_of_segments`, `Path.Below.of_infix` — what may stand in front of the steps
  and behind them, and which directories have fewer steps.
* **`isUnder_by_segments`** — below a directory, by whole segments.
-/

namespace InstallAudit

open scoped List

namespace Path

/-! ## The steps of a directory -/

/-- A `/` divides the steps in front of it from those behind it. -/
lemma steps_append_slash (x y : Path) : steps (x ++ '/' :: y) = x.steps ++ y.steps := by
  rw [steps, segments_append_slash, List.filter_append]
  rfl

lemma steps_slash_cons (x : Path) : steps ('/' :: x) = x.steps :=
  steps_append_slash [] x

lemma steps_append_slash_nil (x : Path) : steps (x ++ ['/']) = x.steps := by
  rw [steps_append_slash]
  exact List.append_nil _

/-- Nothing but the steps of the directory counts. -/
lemma isUnder_congr (p : Path) {dir dir' : Path} (h : dir.steps = dir'.steps) :
    p.isUnder dir = p.isUnder dir' := by
  rw [isUnder, isUnder, h]

/-! ## In front of the steps and behind them -/

section

variable {p dir dir' : Path}

/-- Whatever stands in front of a path, it is below the same directories. -/
lemma Below.behind (h : p.Below dir) (q : Path) : Path.Below (q ++ '/' :: p) dir := by
  obtain ⟨front, rest, hp, hsteps, hrest⟩ := h
  refine ⟨q.segments ++ front, rest, ?_, hsteps, hrest⟩
  rw [segments_append_slash, hp]
  simp only [List.append_assoc]

/-- Whatever stands behind the steps, the path is below the directory. -/
lemma below_of_segments {front rest : List Text} (hp : p.segments = front ++ dir.steps ++ rest)
    (hsteps : dir.steps ≠ []) (r : Path) :
    Path.Below (ofSegments (front ++ dir.steps) ++ '/' :: r) dir := by
  have hfree : ∀ s ∈ front ++ dir.steps, '/' ∉ s := by
    intro s hs
    refine slash_not_mem (p := p) ?_
    rw [hp]
    exact List.mem_append_left rest hs
  refine ⟨front, r.segments, ?_, hsteps, segments_ne_nil r⟩
  rw [segments_append_slash, segments_ofSegments hfree (List.append_ne_nil_of_right_ne_nil front hsteps)]

/-- Below a directory, a path is below every directory whose steps are a part of the steps. -/
lemma Below.of_infix (h : p.Below dir) (hpart : dir'.steps <:+: dir.steps) (hsteps : dir'.steps ≠ []) :
    p.Below dir' := by
  obtain ⟨-, hrun⟩ := below_iff_infix.1 h
  exact below_iff_infix.2 ⟨hsteps, hpart.trans hrun⟩

end

end Path

/-! ## By whole segments -/

open InstallAudit.Path

/-- **A path is below a directory** when its segments are any segments, then the steps of the directory, of
which there is at least one, and then at least one more segment.  So slashes in front of the directory,
behind it or twice in a row do not matter; segments may be put in front of the path, and those behind the
steps may be replaced; and below a directory in another one, a path is below both. -/
theorem isUnder_by_segments (p dir : Path) :
    (p.isUnder dir = true
        ↔ ∃ front rest, p.segments = front ++ dir.steps ++ rest ∧ dir.steps ≠ [] ∧ rest ≠ [])
      ∧ (p.isUnder ('/' :: dir) = p.isUnder dir ∧ p.isUnder (dir ++ ['/']) = p.isUnder dir
        ∧ ∀ x y : Path, dir = x ++ '/' :: y → p.isUnder (x ++ '/' :: '/' :: y) = p.isUnder dir)
      ∧ (p.isUnder dir = true → ∀ q, Path.isUnder (q ++ '/' :: p) dir = true)
      ∧ (∀ front rest, p.segments = front ++ dir.steps ++ rest → dir.steps ≠ [] →
        ∀ r, Path.isUnder (ofSegments (front ++ dir.steps) ++ '/' :: r) dir = true)
      ∧ ∀ x y : Path, dir = x ++ '/' :: y → x.steps ≠ [] → y.steps ≠ [] → p.isUnder dir = true →
        p.isUnder x = true ∧ p.isUnder y = true := by
  refine ⟨isUnder_iff_below, ⟨?_, ?_, ?_⟩, ?_, ?_, ?_⟩
  · exact p.isUnder_congr (steps_slash_cons dir)
  · exact p.isUnder_congr (steps_append_slash_nil dir)
  · rintro x y rfl
    refine p.isUnder_congr ?_
    rw [steps_append_slash, steps_append_slash, steps_slash_cons]
  · intro h q
    exact isUnder_iff_below.2 ((isUnder_iff_below.1 h).behind q)
  · intro front rest hp hsteps r
    exact isUnder_iff_below.2 (below_of_segments hp hsteps r)
  · rintro x y rfl hx hy h
    have hbelow := isUnder_iff_below.1 h
    rw [isUnder_iff_below, isUnder_iff_below]
    refine ⟨hbelow.of_infix ?_ hx, hbelow.of_infix ?_ hy⟩
    · rw [steps_append_slash]
      exact (List.prefix_append _ _).isInfix
    · rw [steps_append_slash]
      exact (List.suffix_append _ _).isInfix

/-- The run stands twice in this path, and the second time the name follows at once.  The directory has
slashes at both ends and twice in a row.  The same segments without the name behind them do not do. -/
theorem isUnder_by_segments_repeated :
    let p : Path := "share/doc/share/doc/share".toList
    let dir : Path := "/share//doc/".toList
    (p.segments = ["share".toList, "doc".toList] ++ dir.steps ++ ["share".toList] ∧ dir.steps ≠ []
        ∧ p.isUnder dir = true)
      ∧ Path.isUnder ("opt".toList ++ '/' :: p) dir = true
      ∧ Path.isUnder (ofSegments (["share".toList, "doc".toList] ++ dir.steps) ++ '/' :: "a/b".toList) dir
        = true
      ∧ (p.isUnder "/share/".toList = true ∧ p.isUnder "doc/".toList = true)
      ∧ Path.isUnder "share/doc".toList dir = false := by
  intro p dir
  have hp : p.segments = ["share".toList, "doc".toList] ++ dir.steps ++ ["share".toList] := by decide
  have hsteps : dir.steps ≠ [] := by decide
  obtain ⟨hiff, -, hfront, hrest, hparts⟩ := isUnder_by_segments p dir
  have hunder : p.isUnder dir = true := hiff.2 ⟨_, _, hp, hsteps, by decide⟩
  refine ⟨⟨hp, hsteps, hunder⟩, hfront hunder _, hrest _ _ hp hsteps _, ?_, by decide⟩
  exact hparts "/share/".toList "doc/".toList rfl (by decide) (by decide) hunder

end InstallAudit
