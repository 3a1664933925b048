import InstallAudit.Profile
import InstallAudit.Proofs.Cutting
import InstallAudit.Proofs.Passes

/-!
# Reading a line

A line of a listing is trimmed, perhaps left out, unified, cut at the marker and at the prefix,
cleaned and normalized.  All of these only ever take characters away, apart from unifying, which
keeps their number.  So a line that gives an entry of its own length gives itself, and then no step
has changed it.

* `LoadOptions.path?` — the path that one line of a listing says, if it says one.
* `Config.read?` — the entry that one line of a listing gives, if it gives one.
* `mem_load_iff_path?`, `mem_manifest` — a listing has the paths that its lines say, and its manifest
  the entries that they give.
* `path?_eq_self_iff`, `read?_eq_self_iff` — the lines that say and give themselves.
* `Path.IsTidy`, `Path.IsEntry`, `isEntry_of_mem_manifest` — what the entries of a manifest look
  like.
-/

namespace InstallAudit

open scoped List

/-! ## Cuts that may not apply -/

section Cut

variable {r : Option Path} {p : Path}

lemma getD_sublist (h : ∀ q, r = some q → q <+ p) : r.getD p <+ p := by
  cases r with
  | none => exact List.Sublist.refl _
  | some q => exact h q rfl

/-- A cut that changes every path it applies to leaves the others alone. -/
lemma getD_eq_self_iff (h : r ≠ some p) : r.getD p = p ↔ r = none := by
  cases r with
  | none => simp
  | some q =>
      have hq : q ≠ p := fun hq => h (by rw [hq])
      simp [hq]

end Cut

namespace LoadOptions

open InstallAudit.Path

lemma atMarker?_sublist {o : LoadOptions} {p q : Path} (h : o.atMarker? p = some q) : q <+ p := by
  obtain ⟨marker, -, hq⟩ := Option.bind_eq_some_iff.1 h
  exact afterMarker?_sublist hq

lemma atMarker?_ne_self {o : LoadOptions} {p : Path} : o.atMarker? p ≠ some p := by
  intro h
  obtain ⟨marker, -, hp⟩ := Option.bind_eq_some_iff.1 h
  exact afterMarker?_ne_self hp

/-- The marker is found nowhere in a path. -/
lemma atMarker?_eq_none_iff {o : LoadOptions} {x : Path} :
    o.atMarker? x = none ↔ ∀ marker ∈ o.rootMarker, trimSlashes marker = []
      ∨ ∀ above below, x.segments = above ++ (trimSlashes marker).segments ++ below
        → below = [] := by
  rw [atMarker?, Option.bind_eq_none_iff]
  exact forall₂_congr fun marker _ => afterMarker?_eq_none

lemma atPrefix?_sublist {o : LoadOptions} {p q : Path} (h : o.atPrefix? p = some q) : q <+ p := by
  obtain ⟨head, -, hq⟩ := Option.bind_eq_some_iff.1 h
  exact afterPrefix?_sublist hq

lemma atPrefix?_ne_self {o : LoadOptions} {p : Path} : o.atPrefix? p ≠ some p := by
  intro h
  obtain ⟨head, -, hp⟩ := Option.bind_eq_some_iff.1 h
  exact afterPrefix?_ne_self hp

/-- The prefix is not in front of a path. -/
lemma atPrefix?_eq_none_iff {o : LoadOptions} {x : Path} :
    o.atPrefix? x = none ↔ ∀ head ∈ o.installPrefix, prefixRoot head = []
      ∨ ¬ (prefixRoot head).segments <+: x.segments := by
  rw [atPrefix?, Option.bind_eq_none_iff]
  exact forall₂_congr fun head _ => afterPrefix?_eq_none

/-! ## What a line says -/

/-- A trimmed line takes part when it is not empty, does not start with `#` and contains none of the
exclusion tokens. -/
lemma keeps_iff {o : LoadOptions} {line : Text} :
    o.keeps line = true ↔ line ≠ [] ∧ line.head? ≠ some '#'
      ∧ ∀ token ∈ o.exclude, token <:+: line → token = [] := by
  simp only [keeps, excludes, Text.startsWith, Bool.and_eq_true, Bool.not_eq_true',
    List.isEmpty_eq_false_iff, List.any_eq_false, Text.contains_iff_infix, beq_eq_false_iff_ne,
    and_assoc]
  refine and_congr_right fun _ => and_congr_right fun _ => forall₂_congr fun token _ => ?_
  tauto

/-- The path that a line says is part of the unified line. -/
lemma readLine_sublist (o : LoadOptions) (line : Text) :
    (o.readLine line).path <+ unified line :=
  ((clean_sublist _).trans (getD_sublist fun _ => atPrefix?_sublist)).trans
    (getD_sublist fun _ => atMarker?_sublist)

/-- A line says itself when it is clean, and neither the marker nor the prefix is found in it. -/
lemma readLine_eq_self_iff {o : LoadOptions} {x : Path} (hx : x ≠ []) (backslash : '\\' ∉ x) :
    (o.readLine x).path = x ↔ o.atMarker? x = none ∧ o.atPrefix? x = none ∧ x.IsClean := by
  simp only [readLine, unified_eq_self backslash, ← clean_eq_self_iff hx]
  constructor
  · intro h
    -- the path is at most as long after each cut, and at the end it is as long as before
    have hbelow : (o.atMarker? x).getD x = x := by
      refine (getD_sublist fun _ => atMarker?_sublist).antisymm ?_
      conv_lhs => rw [← h]
      exact (clean_sublist _).trans (getD_sublist fun _ => atPrefix?_sublist)
    rw [hbelow] at h
    have hcut : (o.atPrefix? x).getD x = x := by
      refine (getD_sublist fun _ => atPrefix?_sublist).antisymm ?_
      conv_lhs => rw [← h]
      exact clean_sublist _
    rw [hcut] at h
    exact ⟨(getD_eq_self_iff atMarker?_ne_self).1 hbelow,
      (getD_eq_self_iff atPrefix?_ne_self).1 hcut, h⟩
  · rintro ⟨hmarker, hinstalled, hclean⟩
    rw [hmarker, Option.getD_none, hinstalled, Option.getD_none, hclean]

/-! ## The paths of a listing -/

/-- The path that one line of a listing says, if the line takes part and says one. -/
def path? (o : LoadOptions) (line : Text) : Option Path :=
  let said := (o.readLine line.trim).path
  if o.keeps line.trim && !said.isEmpty then some said else none

lemma path?_eq_some {o : LoadOptions} {line : Text} {p : Path} :
    o.path? line = some p
      ↔ o.keeps line.trim = true ∧ p ≠ [] ∧ (o.readLine line.trim).path = p := by
  simp only [path?, Option.ite_none_right_eq_some, Bool.and_eq_true, Bool.not_eq_true',
    List.isEmpty_eq_false_iff, Option.some.injEq, and_assoc]
  constructor
  · rintro ⟨hkeeps, hne, rfl⟩
    exact ⟨hkeeps, hne, rfl⟩
  · rintro ⟨hkeeps, hne, rfl⟩
    exact ⟨hkeeps, hne, rfl⟩

/-- The paths of a listing are what its lines say. -/
lemma mem_load_iff_path? {o : LoadOptions} {listing : Text} {p : Path} :
    p ∈ o.load listing ↔ ∃ line ∈ listing.withoutMark.splitOn '\n', o.path? line = some p := by
  simp only [mem_load, lines, List.mem_filter, List.mem_map, path?_eq_some]
  constructor
  · rintro ⟨hp, -, ⟨⟨line, hline, rfl⟩, hkeeps⟩, hsaid⟩
    exact ⟨line, hline, hkeeps, hp, hsaid⟩
  · rintro ⟨line, hline, hkeeps, hp, hsaid⟩
    exact ⟨hp, _, ⟨⟨line, hline, rfl⟩, hkeeps⟩, hsaid⟩

section

variable {o : LoadOptions} {line : Text} {p : Path}

/-- What a line says is part of the line, once its separators are unified. -/
lemma path?_sublist (h : o.path? line = some p) : p <+ unified line.trim := by
  obtain ⟨-, -, rfl⟩ := path?_eq_some.1 h
  exact o.readLine_sublist _

lemma isClean_of_path? (h : o.path? line = some p) : p.IsClean := by
  obtain ⟨-, hp, rfl⟩ := path?_eq_some.1 h
  exact isClean_clean hp

lemma backslash_not_mem_of_path? (h : o.path? line = some p) : '\\' ∉ p := by
  intro hc
  exact backslash_not_mem_unified _ ((path?_sublist h).subset hc)

lemma newline_not_mem_of_path? (newline : '\n' ∉ line) (h : o.path? line = some p) : '\n' ∉ p := by
  intro hc
  rcases mem_of_mem_unified ((path?_sublist h).subset hc) with hslash | hc
  · cases hslash
  · exact newline (line.trim_sublist.subset hc)

/-- What a line says is no longer than the line. -/
lemma length_le_of_path? (h : o.path? line = some p) : p.length ≤ line.length := by
  have hlength := (path?_sublist h).length_le
  rw [length_unified] at hlength
  exact hlength.trans line.trim_sublist.length_le

/-- A line without `\` that says a path of its own length says itself. -/
lemma eq_of_path?_of_length (backslash : '\\' ∉ line) (h : o.path? line = some p)
    (hlength : line.length ≤ p.length) : p = line := by
  have hp := path?_sublist h
  have hunified : p.length ≤ line.trim.length := length_unified line.trim ▸ hp.length_le
  have htrim : line.trim = line :=
    line.trim_sublist.eq_of_length_le (hlength.trans hunified)
  rw [htrim, unified_eq_self backslash] at hp
  exact hp.eq_of_length_le hlength

end

/-- **The lines that say themselves.**  None of the steps from the line to the path has anything to
do. -/
lemma path?_eq_self_iff {o : LoadOptions} {x : Path} (hx : x ≠ []) (backslash : '\\' ∉ x) :
    o.path? x = some x ↔ x.trim = x ∧ o.keeps x = true ∧ o.atMarker? x = none
      ∧ o.atPrefix? x = none ∧ x.IsClean := by
  constructor
  · intro h
    have hlength := (path?_sublist h).length_le
    rw [length_unified] at hlength
    have htrim : x.trim = x := x.trim_sublist.eq_of_length_le hlength
    obtain ⟨hkeeps, -, hsaid⟩ := path?_eq_some.1 h
    rw [htrim] at hkeeps hsaid
    exact ⟨htrim, hkeeps, (readLine_eq_self_iff hx backslash).1 hsaid⟩
  · rintro ⟨htrim, hkeeps, hself⟩
    rw [path?_eq_some, htrim]
    exact ⟨hkeeps, hx, (readLine_eq_self_iff hx backslash).2 hself⟩

end LoadOptions

/-! ## The entries of a manifest -/

namespace Config

open InstallAudit.Path

/-- The entry that one line of a listing gives, if it gives one. -/
def read? (c : Config) (line : Text) : Option Path :=
  let said := (c.load.readLine line.trim).path
  if c.load.keeps line.trim && !said.isEmpty then some (c.normalize.normalizer.normalize said)
  else none

/-- A line gives the normal form of what it says. -/
lemma read?_eq_some {c : Config} {line : Text} {x : Path} :
    c.read? line = some x
      ↔ ∃ p, c.load.path? line = some p ∧ c.normalize.normalizer.normalize p = x := by
  simp [read?, LoadOptions.path?, and_assoc]

/-- The entries of the manifest of a listing are what its lines give. -/
theorem mem_manifest {c : Config} {listing : Text} {x : Path} :
    x ∈ c.manifest listing
      ↔ ∃ line ∈ listing.withoutMark.splitOn '\n', c.read? line = some x := by
  simp only [manifest, Normalizer.mem_apply, LoadOptions.mem_load_iff_path?, read?_eq_some]
  constructor
  · rintro ⟨p, ⟨line, hline, hp⟩, hx⟩
    exact ⟨line, hline, p, hp, hx⟩
  · rintro ⟨line, hline, p, hp, hx⟩
    exact ⟨p, ⟨line, hline, hp⟩, hx⟩

/-- What a line gives is no longer than the line. -/
lemma length_le_of_read? {c : Config} {line : Text} {x : Path} (h : c.read? line = some x) :
    x.length ≤ line.length := by
  obtain ⟨p, hp, rfl⟩ := read?_eq_some.1 h
  exact (c.normalize.normalize_sublist p).length_le.trans (LoadOptions.length_le_of_path? hp)

/-- If the entry is as long as the line, it is what the line says. -/
lemma path?_of_read?_of_length {c : Config} {line : Text} {x : Path} (h : c.read? line = some x)
    (hlength : line.length ≤ x.length) : c.load.path? line = some x := by
  obtain ⟨p, hp, rfl⟩ := read?_eq_some.1 h
  have hle := (LoadOptions.length_le_of_path? hp).trans hlength
  rwa [(c.normalize.normalize_sublist p).eq_of_length_le hle]

/-- A line without `\` that gives an entry of its own length gives itself. -/
lemma eq_of_read?_of_length {c : Config} {line : Text} {x : Path} (backslash : '\\' ∉ line)
    (h : c.read? line = some x) (hlength : line.length ≤ x.length) : x = line :=
  LoadOptions.eq_of_path?_of_length backslash (path?_of_read?_of_length h hlength) hlength

/-- The lines that give themselves say themselves, and normalizing them has nothing to do. -/
lemma read?_eq_self_iff {c : Config} {x : Path} :
    c.read? x = some x ↔ c.load.path? x = some x ∧ x.IsNormal := by
  rw [← c.normalize.normalize_eq_self_iff]
  constructor
  · intro h
    have hx := path?_of_read?_of_length h (Nat.le_refl _)
    obtain ⟨p, hp, hnormal⟩ := read?_eq_some.1 h
    obtain rfl : x = p := Option.some.inj (hx.symm.trans hp)
    exact ⟨hx, hnormal⟩
  · rintro ⟨hx, hnormal⟩
    exact read?_eq_some.2 ⟨x, hx, hnormal⟩

end Config

/-! ## Tidy paths

Cleaning leaves no empty segment and no segment `.`, and passes keep it so, but for the name: taking
the suffix off `..so` leaves the name `.`.
-/

namespace Path

/-- No directory is empty or a single dot, and there is a name. -/
structure IsTidy (p : Path) : Prop where
  dirs : ∀ d ∈ p.dirs, d ≠ [] ∧ d ≠ ['.']
  name : p.name ≠ []

/-- A path is clean when it is tidy and its name is no single dot. -/
lemma isClean_iff {p : Path} : p.IsClean ↔ p.IsTidy ∧ p.name ≠ ['.'] := by
  rw [IsClean, segments_eq]
  constructor
  · intro h
    obtain ⟨hname, hdot⟩ := h p.name (by simp)
    exact ⟨⟨fun d hd => h d (List.mem_append_left _ hd), hname⟩, hdot⟩
  · rintro ⟨htidy, hdot⟩ s hs
    rcases List.mem_append.1 hs with hs | hs
    · exact htidy.dirs s hs
    · rw [List.mem_singleton.1 hs]
      exact ⟨htidy.name, hdot⟩

lemma IsTidy.ne_nil {p : Path} (h : p.IsTidy) : p ≠ [] := by
  rintro rfl
  exact h.name rfl

lemma genericDir_ne {d e : Text} (he : e ≠ "lib".toList) (hd : d ≠ e) : genericDir d ≠ e := by
  rw [genericDir]
  split
  · exact he.symm
  · exact hd

lemma IsTidy.generic {p : Path} (h : p.IsTidy) : p.generic.IsTidy := by
  constructor
  · intro d hd
    rw [dirs_generic] at hd
    obtain ⟨e, he, rfl⟩ := List.mem_map.1 hd
    exact ⟨genericDir_ne (by decide) (h.dirs e he).1, genericDir_ne (by decide) (h.dirs e he).2⟩
  · rw [name_generic]
    exact genericDir_ne (by decide) h.name

lemma IsTidy.of_peel? {o : NormalizeOptions} {p q : Path} (h : p.IsTidy)
    (hq : o.peel? p = some q) : q.IsTidy := by
  obtain ⟨a, -, t, rfl, hname⟩ := NormalizeOptions.exists_of_peel? hq
  exact ⟨fun d hd => h.dirs d ((dirs_prefix_dirs q _).subset hd), hname⟩

lemma IsTidy.pass {p : Path} (h : p.IsTidy) (o : NormalizeOptions) :
    (o.normalizer.pass p).IsTidy := by
  rw [NormalizeOptions.pass_eq]
  cases hq : o.peel? p.generic with
  | none => exact h.generic
  | some q => exact h.generic.of_peel? hq

/-- Normalization keeps a path tidy: each pass does. -/
lemma IsTidy.normalize {p : Path} (h : p.IsTidy) (o : NormalizeOptions) :
    (o.normalizer.normalize p).IsTidy := by
  rw [Normalizer.normalize_eq_iterate]
  exact Function.Iterate.rec IsTidy h (fun _ hq => hq.pass o) Normalizer.passLimit

/-! ## Entries -/

/-- What every entry of a manifest of a listing looks like. -/
structure IsEntry (p : Path) : Prop extends p.IsTidy where
  newline : '\n' ∉ p
  backslash : '\\' ∉ p

end Path

namespace Config

open InstallAudit.Path

/-- What a line gives is an entry. -/
lemma isEntry_of_read? {c : Config} {line : Text} {x : Path} (newline : '\n' ∉ line)
    (h : c.read? line = some x) : x.IsEntry := by
  obtain ⟨p, hp, rfl⟩ := read?_eq_some.1 h
  have htidy := (isClean_iff.1 (LoadOptions.isClean_of_path? hp)).1
  have hpart := c.normalize.normalize_sublist p
  constructor
  case toIsTidy => exact htidy.normalize c.normalize
  case newline => exact fun hx => LoadOptions.newline_not_mem_of_path? newline hp (hpart.subset hx)
  case backslash => exact fun hx => LoadOptions.backslash_not_mem_of_path? hp (hpart.subset hx)

theorem isEntry_of_mem_manifest {c : Config} {listing : Text} {x : Path}
    (h : x ∈ c.manifest listing) : x.IsEntry := by
  obtain ⟨line, hline, hx⟩ := mem_manifest.1 h
  exact isEntry_of_read? (Text.not_mem_of_mem_splitOn hline) hx

end Config

end InstallAudit
