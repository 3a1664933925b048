import InstallAudit.Check
import InstallAudit.Proofs.Reading

/-!
# Reading by segments

The marker of the installation root and the installation prefix are looked for in the text of a line.
What they mean is said of segments: the marker is a run of whole segments with something behind it, and
the prefix is the first segments.  This module reads a line in the second way, by taking its segments
apart, and shows that it says the same as the first way.

* `Path.RunAt`, `Path.afterRun?` — where a run of segments stands, and what follows its first occurrence.
* `LoadOptions.remaining`, `LoadOptions.readSegments` — the lines that take part, and what the segments
  of one of them say.
* `map_segments_afterMarker?`, `clean_afterPrefix?` — the two cuts of a text, as cuts of its segments.
* `readLine_eq_readSegments` — both ways to read a line say the same.
* **`load_by_segments`** — a listing is read by segments; when a file is loaded with a warning.
-/

namespace InstallAudit

namespace Path

/-! ## Runs of segments -/

/-- The run stands behind the first `i` segments, and something follows it. -/
def RunAt (run segs : List Text) (i : Nat) : Prop :=
  (segs.drop i).take run.length = run ∧ i + run.length < segs.length

instance (run segs : List Text) : DecidablePred (RunAt run segs) := fun _ =>
  inferInstanceAs (Decidable (_ ∧ _))

/-- What follows the run at the first place where it stands. -/
def afterRun? (run segs : List Text) : Option (List Text) :=
  ((List.range segs.length).find? (RunAt run segs ·)).map fun i => segs.drop (i + run.length)

section

variable {run segs : List Text}

lemma runAt_iff {i : Nat} :
    RunAt run segs i ↔ ∃ front rest, front.length = i ∧ segs = front ++ run ++ rest ∧ rest ≠ [] := by
  constructor
  · rintro ⟨hrun, hmore⟩
    refine ⟨segs.take i, segs.drop (i + run.length), ?_, ?_, ?_⟩
    · rw [List.length_take]
      omega
    · -- the run is put for the middle part only: it is itself a part of `segs`
      conv_rhs => rw [← List.drop_drop, List.append_assoc]
      conv_rhs => arg 2; arg 1; rw [← hrun]
      rw [List.take_append_drop, List.take_append_drop]
    · rw [ne_eq, List.drop_eq_nil_iff]
      omega
  · rintro ⟨front, rest, rfl, rfl, hrest⟩
    have hpos := List.length_pos_iff.2 hrest
    refine ⟨by rw [List.append_assoc, List.drop_left, List.take_left], ?_⟩
    simp only [List.length_append]
    omega

lemma afterRun?_eq_none (h : ∀ front rest, segs = front ++ run ++ rest → rest = []) :
    afterRun? run segs = none := by
  rw [afterRun?, Option.map_eq_none_iff, List.find?_eq_none]
  intro i _ hi
  obtain ⟨front, rest, -, hsegs, hrest⟩ := runAt_iff.1 (of_decide_eq_true hi)
  exact hrest (h front rest hsegs)

lemma afterRun?_eq_some {front rest : List Text} (h : segs = front ++ run ++ rest) (hrest : rest ≠ [])
    (first : ∀ front' rest', segs = front' ++ run ++ rest' → rest' ≠ [] →
      front.length ≤ front'.length) : afterRun? run segs = some rest := by
  have hrun : RunAt run segs front.length := runAt_iff.2 ⟨front, rest, rfl, h, hrest⟩
  have hfind : (List.range segs.length).find? (RunAt run segs ·) = some front.length := by
    refine List.find?_range_eq_some.2 ⟨decide_eq_true hrun, ?_, fun j hj => ?_⟩
    · have hmore := hrun.2
      rw [List.mem_range]
      omega
    · -- an earlier place would be in front of the first one
      rw [Bool.not_eq_true', decide_eq_false_iff_not]
      intro hrun'
      obtain ⟨front', rest', rfl, hsegs, hrest'⟩ := runAt_iff.1 hrun'
      have hle := first front' rest' hsegs hrest'
      omega
  rw [afterRun?, hfind, Option.map_some, h, ← List.length_append, List.drop_left]

end

/-! ## Cuts -/

/-- **The marker.**  What follows it in a path has the segments that follow the run of its segments. -/
lemma map_segments_afterMarker? (p marker : Path) :
    (p.afterMarker? marker).map segments
      = if trimSlashes marker = [] then none
        else afterRun? (trimSlashes marker).segments p.segments := by
  cases h : p.afterMarker? marker with
  | none =>
      split
      · rfl
      · next hmarker =>
        exact (afterRun?_eq_none ((afterMarker?_eq_none.1 h).resolve_left hmarker)).symm
  | some rest =>
      obtain ⟨front, hfront, first⟩ := afterMarker?_eq_some h
      split
      · next hmarker =>
        rw [afterMarker?_eq_none.2 (Or.inl hmarker)] at h
        cases h
      · exact (afterRun?_eq_some hfront (segments_ne_nil rest) first).symm

/-- The segments that say something. -/
def telling (segs : List Text) : List Text :=
  segs.filter fun s => s ≠ [] ∧ s ≠ ['.']

lemma clean_eq (p : Path) : p.clean = ofSegments (telling p.segments) := by
  have htelling : ∀ s : Text, (!s.isEmpty && s != ['.']) = decide (s ≠ [] ∧ s ≠ ['.']) := fun s =>
    Bool.eq_iff_iff.2 (by simp)
  simp only [clean, telling, htelling]

/-- **The installation prefix.**  Cutting it off takes its segments away. -/
lemma clean_afterPrefix? (p head : Path) :
    ((p.afterPrefix? head).getD p).clean
      = ofSegments (telling
        (if prefixRoot head ≠ [] ∧ (prefixRoot head).segments <+: p.segments then
          p.segments.drop (prefixRoot head).segments.length
        else p.segments)) := by
  cases h : p.afterPrefix? head with
  | none =>
      rw [if_neg, Option.getD_none, clean_eq]
      rintro ⟨hhead, hprefix⟩
      exact (afterPrefix?_eq_none.1 h).elim hhead fun hn => hn hprefix
  | some rest =>
      -- a prefix is the whole path, or a separator follows it, which stays in front of the rest
      obtain ⟨hhead, rfl, rfl | ⟨below, rfl⟩⟩ := afterPrefix?_eq_some.1 h
      · rw [List.append_nil, if_pos ⟨hhead, List.prefix_refl _⟩, List.drop_length]
        rfl
      · rw [segments_append_slash, if_pos ⟨hhead, List.prefix_append _ _⟩, List.drop_left,
          Option.getD_some, clean_eq, ← List.nil_append ('/' :: below), segments_append_slash]
        rfl

/-! ## Absolute paths -/

/-- A path starts with `/`, or with a letter and a colon. -/
def Rooted (p : Path) : Prop :=
  (∃ rest, p = '/' :: rest) ∨ ∃ drive rest, drive.isAlpha = true ∧ p = drive :: ':' :: rest

lemma isAbsolute_iff_rooted {p : Path} : p.isAbsolute = true ↔ p.Rooted := by
  rw [isAbsolute.eq_def, Rooted]
  split
  · simp
  · next drive rest hslash =>
    constructor
    · intro halpha
      exact Or.inr ⟨drive, rest, halpha, rfl⟩
    · rintro (⟨rest', hrest⟩ | ⟨drive', rest', halpha, hdrive⟩)
      · exact (hslash (List.cons.inj hrest).1).elim
      · rw [(List.cons.inj hdrive).1]
        exact halpha
  · next hslash hdrive =>
    refine iff_of_false Bool.false_ne_true ?_
    rintro (⟨rest, hrest⟩ | ⟨drive, rest, -, hrest⟩)
    · exact hslash rest hrest
    · exact hdrive drive rest hrest

instance (p : Path) : Decidable p.Rooted :=
  decidable_of_iff _ isAbsolute_iff_rooted

end Path

namespace LoadOptions

open InstallAudit.Path

/-! ## Listings -/

/-- The trimmed lines of a listing, without the empty ones, the comments and those that contain an
exclusion token. -/
def remaining (o : LoadOptions) (listing : Text) : List Text :=
  ((listing.withoutMark.splitOn '\n').map Text.trim).filter fun line =>
    line ≠ [] ∧ line.head? ≠ some '#' ∧ ∀ token ∈ o.exclude, token ≠ [] → ¬token <:+: line

/-- The segments below the marker of the installation root, if the marker is not blank and occurs. -/
def belowMarker? (o : LoadOptions) (segs : List Text) : Option (List Text) :=
  o.rootMarker.bind fun marker =>
    if trimSlashes marker = [] then none else afterRun? (trimSlashes marker).segments segs

/-- The segments below the installation prefix, if the prefix is not blank and its segments are the
first ones. -/
def belowPrefix (o : LoadOptions) (segs : List Text) : List Text :=
  match o.installPrefix with
  | none => segs
  | some head =>
    if prefixRoot head ≠ [] ∧ (prefixRoot head).segments <+: segs then
      segs.drop (prefixRoot head).segments.length
    else segs

/-- What the segments of a line say. -/
def readSegments (o : LoadOptions) (line : Text) : Reading :=
  let whole := (unified line).segments
  let marked := o.belowMarker? whole
  { absolute := (unified line).Rooted
    marked := marked.isSome
    path := ofSegments (telling (o.belowPrefix (marked.getD whole))) }

lemma lines_eq_remaining (o : LoadOptions) (listing : Text) :
    o.lines listing = o.remaining listing := by
  refine List.filter_congr fun line _ => Bool.eq_iff_iff.2 ?_
  rw [keeps_iff, decide_eq_true_iff]
  exact and_congr_right fun _ => and_congr_right fun _ => forall₂_congr fun _ _ => not_imp_not.symm

lemma map_segments_atMarker? (o : LoadOptions) (p : Path) :
    (o.atMarker? p).map segments = o.belowMarker? p.segments := by
  rw [atMarker?, belowMarker?]
  cases o.rootMarker with
  | none => rfl
  | some marker => exact map_segments_afterMarker? p marker

lemma clean_atPrefix? (o : LoadOptions) (p : Path) :
    ((o.atPrefix? p).getD p).clean = ofSegments (telling (o.belowPrefix p.segments)) := by
  rw [atPrefix?, belowPrefix]
  cases o.installPrefix with
  | none => exact clean_eq p
  | some head => exact clean_afterPrefix? p head

/-- **Reading a line by its segments says what reading its text says.** -/
lemma readLine_eq_readSegments (o : LoadOptions) (line : Text) :
    o.readLine line = o.readSegments line := by
  have hmarked := o.map_segments_atMarker? (unified line)
  have habsolute : (unified line).isAbsolute = decide (unified line).Rooted :=
    Bool.eq_iff_iff.2 (by rw [isAbsolute_iff_rooted, decide_eq_true_iff])
  simp only [readLine, readSegments, clean_atPrefix?, habsolute, ← hmarked, Option.isSome_map]
  cases o.atMarker? (unified line) <;> rfl

lemma readings_eq (o : LoadOptions) (listing : Text) :
    o.readings listing = (o.remaining listing).map o.readSegments := by
  rw [readings, lines_eq_remaining]
  exact List.map_congr_left fun line _ => o.readLine_eq_readSegments line

lemma markerHits_scan (o : LoadOptions) (listing : Text) :
    (o.scan listing).markerHits
      = (o.remaining listing).countP fun line => (o.readSegments line).marked := by
  simp only [scan, readings_eq, List.countP_map, Function.comp_def]

lemma absoluteLines_scan (o : LoadOptions) (listing : Text) :
    (o.scan listing).absoluteLines
      = (o.remaining listing).countP fun line => (o.readSegments line).absolute := by
  simp only [scan, readings_eq, List.countP_map, Function.comp_def]

/-! ## Warnings -/

/-- The one warning there can be is about a marker that is found nowhere. -/
lemma warns_iff (read : FileReader) (o : LoadOptions) (p : Path) :
    (∃ e ∈ (loadFile read o p).log, e.level = .warn)
      ↔ ∃ listing, readText read p = .ok listing ∧ o.fruitless (o.scan listing) = true := by
  rw [loadFile]
  cases readText read p with
  | error e => simp
  | ok listing =>
      cases hmarker : o.rootMarker with
      | none => simp [markerWarning, hmarker, fruitless]
      | some marker =>
          cases hfruitless : o.fruitless (o.scan listing) <;>
            simp [markerWarning, hmarker, hfruitless]

end LoadOptions

/-- **A listing is read by segments.**  Its manifest has what the segments of the remaining lines say, and
the lines that are marked or absolute are counted among these.  Loading a file gives a warning exactly
when a marker is set that none of its lines has, although one of them is absolute. -/
theorem load_by_segments (o : LoadOptions) :
    (∀ listing,
      (∀ p, p ∈ o.load listing ↔ p ≠ [] ∧ ∃ line ∈ o.remaining listing, (o.readSegments line).path = p)
        ∧ (o.scan listing).markerHits
          = (o.remaining listing).countP (fun line => (o.readSegments line).marked)
        ∧ (o.scan listing).absoluteLines
          = (o.remaining listing).countP (fun line => (o.readSegments line).absolute))
      ∧ ∀ read p, (∃ e ∈ (loadFile read o p).log, e.level = .warn)
        ↔ ∃ listing, readText read p = .ok listing ∧ o.rootMarker ≠ none
          ∧ (∀ line ∈ o.remaining listing, (o.readSegments line).marked = false)
          ∧ ∃ line ∈ o.remaining listing, (o.readSegments line).absolute = true := by
  refine ⟨fun listing => ⟨fun p => ?_, o.markerHits_scan listing, o.absoluteLines_scan listing⟩,
    fun read p => ?_⟩
  · simp only [LoadOptions.mem_load, o.lines_eq_remaining, o.readLine_eq_readSegments]
  · rw [o.warns_iff]
    refine exists_congr fun listing => and_congr_right fun _ => ?_
    rw [LoadOptions.fruitless, Bool.and_eq_true, Bool.and_eq_true, Option.isSome_iff_ne_none,
      beq_iff_eq, decide_eq_true_iff, o.markerHits_scan, o.absoluteLines_scan, List.countP_eq_zero,
      List.countP_pos_iff, and_assoc]
    simp only [Bool.not_eq_true]

/-- Of overlapping occurrences of a marker the first one counts, and one at the end is none. -/
example :
    let o : LoadOptions := { rootMarker := some "a/a".toList }
    o.load "x\\a\\a\\a\\c\n".toList = .ofList ["a/c".toList]
      ∧ o.load "/x/./a/a\n".toList = .ofList ["x/a/a".toList] := by
  decide

end InstallAudit
