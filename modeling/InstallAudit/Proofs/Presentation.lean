import Mathlib.Logic.Relation
import InstallAudit.Proofs.Checking
import InstallAudit.Proofs.Manifests
import InstallAudit.Proofs.Texts

/-!
# Listings that say the same

The same installation may be listed in many ways: in another order, with lines repeated, indented or
ended as on another system, with comments, and behind a byte order mark.  None of this reaches a report,
because a listing is read line by line into a set, and of a line only what is left after trimming counts.

* `said`, `SameLines` — what lines say, and texts that say the same.
* `Edit`, `Edited` — the changes of a text that keep what it says; `Edit.mem_said` is about one of them
  and `sameLines_of_edits` about any number.
* `LoadOptions.mem_lines`, `load_congr`, `load_append` — reading listings that say the same, and reading
  one below the other.
* **`report_of_lines`** — a report depends on the lines alone.
-/

namespace InstallAudit

namespace Text

/-! ## What a text says -/

/-- Whether a trimmed line says something: it is neither empty nor a comment. -/
def speaks (line : Text) : Bool :=
  !line.isEmpty && !line.startsWith '#'

/-- What the lines of a text say. -/
def said (lines : List Text) : List Text :=
  (lines.map trim).filter speaks

/-- Two texts say the same, in whatever order and however often. -/
def SameLines (t u : Text) : Prop :=
  ∀ line, line ∈ said (t.splitOn '\n') ↔ line ∈ said (u.splitOn '\n')

/-- No byte order mark stands in front. -/
def Unmarked (t : Text) : Prop :=
  t.head? ≠ some '\uFEFF'

instance (t : Text) : Decidable t.Unmarked :=
  inferInstanceAs (Decidable (_ ≠ _))

/-- A text, perhaps with a byte order mark put in front of it. -/
def marked (mark : Bool) (t : Text) : Text :=
  if mark then '\uFEFF' :: t else t

lemma withoutMark_marked {t : Text} (ht : t.Unmarked) (mark : Bool) :
    (t.marked mark).withoutMark = t := by
  cases mark with
  | false => exact withoutMark_eq_self ht
  | true => rfl

lemma said_append (ls ls' : List Text) : said (ls ++ ls') = said ls ++ said ls' := by
  rw [said, List.map_append, List.filter_append]
  rfl

lemma mem_said {line : Text} {lines : List Text} :
    line ∈ said lines ↔ (∃ l ∈ lines, l.trim = line) ∧ speaks line = true := by
  rw [said, List.mem_filter, List.mem_map]

/-! ## Edits -/

/-- What may be done to the lines of a text: lines may change their places and be repeated, blanks
may be put around a line (a carriage return is one of them), and a blank line or a comment may be put
anywhere. -/
inductive Edit : List Text → List Text → Prop
  | swap (front : List Text) (a b : Text) (back : List Text) :
      Edit (front ++ a :: b :: back) (front ++ b :: a :: back)
  | again (front : List Text) (a : Text) (back : List Text) :
      Edit (front ++ a :: back) (front ++ a :: a :: back)
  | pad (front : List Text) (left a right : Text) (back : List Text)
      (hleft : ∀ c ∈ left, isBlank c = true) (hright : ∀ c ∈ right, isBlank c = true) :
      Edit (front ++ a :: back) (front ++ (left ++ a ++ right) :: back)
  | comment (front : List Text) (a : Text) (back : List Text) (silent : speaks a.trim = false) :
      Edit (front ++ back) (front ++ a :: back)

/-- A text was edited in one place. -/
def Edited (t u : Text) : Prop :=
  Edit (t.splitOn '\n') (u.splitOn '\n')

/-- One edit keeps what the lines say. -/
lemma Edit.mem_said {ls ls' : List Text} (h : Edit ls ls') {line : Text} :
    line ∈ said ls ↔ line ∈ said ls' := by
  rw [Text.mem_said, Text.mem_said]
  -- only which lines there are counts, and of each of them only what is left after trimming
  cases h with
  | swap front a b back =>
      simp only [List.mem_append, List.mem_cons]
      refine and_congr_left fun _ => exists_congr fun l => ?_
      tauto
  | again front a back =>
      simp only [List.mem_append, List.mem_cons]
      refine and_congr_left fun _ => exists_congr fun l => ?_
      tauto
  | pad front left a right back hleft hright =>
      have htrim : (left ++ a ++ right).trim = a.trim := by
        rw [trim_append_of_blank hright, trim_of_blank_append hleft]
      simp only [List.mem_append, List.mem_cons, or_and_right, exists_or, exists_eq_left, htrim]
  | comment front a back silent =>
      refine and_congr_left fun hspeaks => ?_
      have hne : a.trim ≠ line := by
        rintro rfl
        rw [silent] at hspeaks
        cases hspeaks
      simp [or_and_right, exists_or, hne]

/-- Edits, done and undone in any number, keep what a text says. -/
lemma sameLines_of_edits {t u : Text} (h : Relation.EqvGen Edited t u) : t.SameLines u := by
  intro line
  induction h with
  | rel t u h => exact h.mem_said
  | refl t => rfl
  | symm t u _ ih => exact ih.symm
  | trans t u v _ _ ihtu ihuv => exact ihtu.trans ihuv

end Text

/-! ## Reading -/

namespace LoadOptions

variable {o : LoadOptions} {s t u : Text}

/-- The lines that take part are what the lines of the listing say, less the excluded ones. -/
lemma mem_lines {line : Text} :
    line ∈ o.lines t ↔ line ∈ Text.said (t.withoutMark.splitOn '\n') ∧ o.excludes line = false := by
  rw [lines, Text.said, List.mem_filter, List.mem_filter, and_assoc]
  refine and_congr_right fun _ => ?_
  rw [keeps, Bool.and_eq_true, Bool.not_eq_true']
  rfl

/-- A listing is read by what its lines say. -/
lemma load_congr (h : t.withoutMark.SameLines u.withoutMark) : o.load t = o.load u := by
  refine Manifest.ext_mem fun p => ?_
  simp only [mem_load, mem_lines, h _]

lemma load_append (ht : t.Unmarked) : o.load (s ++ '\n' :: t) = (o.load s).union (o.load t) := by
  refine Manifest.ext_mem fun p => ?_
  rw [Manifest.mem_union]
  simp only [mem_load, mem_lines, Text.withoutMark_append, Text.withoutMark_eq_self ht,
    List.splitOn_append_cons_self, Text.said_append, List.mem_append]
  constructor
  · rintro ⟨hp, line, ⟨hs | ht, hin⟩, hline⟩
    · exact Or.inl ⟨hp, line, ⟨hs, hin⟩, hline⟩
    · exact Or.inr ⟨hp, line, ⟨ht, hin⟩, hline⟩
  · rintro (⟨hp, line, ⟨hs, hin⟩, hline⟩ | ⟨hp, line, ⟨ht, hin⟩, hline⟩)
    · exact ⟨hp, line, ⟨Or.inl hs, hin⟩, hline⟩
    · exact ⟨hp, line, ⟨Or.inr ht, hin⟩, hline⟩

end LoadOptions

/-! ## Checking -/

lemma Config.manifest_marked_congr {c : Config} {t u : Text} (ht : t.Unmarked) (hu : u.Unmarked)
    (h : t.SameLines u) (mark mark' : Bool) :
    c.manifest (t.marked mark) = c.manifest (u.marked mark') := by
  rw [manifest, manifest, LoadOptions.load_congr]
  rwa [Text.withoutMark_marked ht, Text.withoutMark_marked hu]

/-- **A check depends on the lines of its listings alone.**  Listings that say the same lines have the
same report, with or without a byte order mark in front, and so have the files that they stand in.
Edits keep the lines, and lines written below each other say what either group says. -/
theorem report_of_lines (c : Config) :
    (∀ g g' r r' : Text, g.Unmarked → g'.Unmarked → r.Unmarked → r'.Unmarked →
      g.SameLines g' → r.SameLines r' → ∀ a a' b b',
        c.report (g.marked a) (r.marked b) = c.report (g'.marked a') (r'.marked b')
        ∧ ∀ read p q, readText read p = .ok (g'.marked a') → readText read q = .ok (r'.marked b') →
          (checkFiles read c p q).result = .ok (c.report g r))
      ∧ (∀ t u, Relation.EqvGen Text.Edited t u → t.SameLines u)
      ∧ ∀ s t : Text, t.Unmarked →
          c.load.load (s ++ '\n' :: t) = (c.load.load s).union (c.load.load t) := by
  refine ⟨fun g g' r r' hg hg' hr hr' hsameg hsamer a a' b b' => ⟨?_, fun read p q hp hq => ?_⟩,
    fun t u => Text.sameLines_of_edits, fun s t => LoadOptions.load_append⟩
  · rw [Config.report, Config.report, Config.manifest_marked_congr hg hg' hsameg a a',
      Config.manifest_marked_congr hr hr' hsamer b b']
  · refine (result_checkFiles_eq_ok read).2 ⟨_, hp, _, hq, ?_⟩
    rw [Config.report, Config.report, ← Config.manifest_marked_congr hg hg' hsameg false a',
      ← Config.manifest_marked_congr hr hr' hsamer false b']
    rfl

/-- A listing, and the same lines from another system: in another order, one of them twice, indented,
with carriage returns and a comment, and behind a byte order mark. -/
theorem report_of_lines_other_system :
    let c : Config := {}
    let g : Text := "lib/a.so\nshare/x y\nbin/tool".toList
    let g' : Text :=
      "# installed\r\n bin/tool\r\nlib/a.so\t\r\n\r\nlib/a.so\r\nshare/x y\r\n".toList
    g.SameLines g' ∧ c.report g g = c.report ('\uFEFF' :: g') g
      ∧ c.load.load (g ++ '\n' :: g') = (c.load.load g).union (c.load.load g') := by
  intro c g g'
  have hg : g.Unmarked := by decide
  have hg' : g'.Unmarked := by decide
  have hforth : ∀ line ∈ Text.said (g.splitOn '\n'), line ∈ Text.said (g'.splitOn '\n') := by decide
  have hback : ∀ line ∈ Text.said (g'.splitOn '\n'), line ∈ Text.said (g.splitOn '\n') := by decide
  have hsame : g.SameLines g' := fun line => ⟨hforth line, hback line⟩
  obtain ⟨hreport, -, happend⟩ := report_of_lines c
  have hboth := hreport g g' g g hg hg' hg hg hsame (fun _ => Iff.rfl) false true false false
  exact ⟨hsame, hboth.1, happend g g' hg'⟩

end InstallAudit
