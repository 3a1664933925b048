import InstallAudit.Profile
import InstallAudit.Proofs.Checking
import InstallAudit.Proofs.Texts

/-!
# The directories of a build

A profile names four directories as it likes, and a build takes them without the blanks at their ends and
then without the `/` at their ends.  This happens once and in this order.  So a blank that stands inside of
the slashes is kept: the directory begins or ends with it, and it would go if the directory were cleaned
again.

* `Path.IsNeat` — directories that cleaning leaves as they are.
* `Path.Hollow`, `cleanDir_eq_nil_iff` — the directories of which nothing is left.
* `Path.Shelters`, `isNeat_cleanDir_iff` — the directories that keep a blank at an end.
* `build_eq_ok_iff`, `build_eq_error_iff` — when a profile describes a build.
* **`build_layout_neat_iff`** — what the directories of a build look like, and what becomes of them if they
  are resolved again.
* `build_layout_sheltered` — directories that keep a blank.
-/

namespace InstallAudit

/-! ## Cleaning a directory -/

namespace Path

/-- A directory with neither a blank nor a `/` at an end. -/
structure IsNeat (t : Path) : Prop where
  ne_nil : t ≠ []
  slash : ∀ c, c ∈ t.head? ∨ c ∈ t.getLast? → c ≠ '/'
  blank : ∀ c, c ∈ t.head? ∨ c ∈ t.getLast? → Text.isBlank c = false

/-- Slashes with blanks around them, and nothing else. -/
def Hollow (t : Path) : Prop :=
  ∃ left slashes right, t = left ++ (slashes ++ right) ∧ (∀ c ∈ left, Text.isBlank c = true)
    ∧ (∀ c ∈ slashes, c = '/') ∧ ∀ c ∈ right, Text.isBlank c = true

/-- The slashes at the front, perhaps with blanks in front of them, have a blank behind them that is not
one of the blanks at the other end. -/
def SheltersInFront (t : Path) : Prop :=
  ∃ left slashes c rest, t = left ++ (slashes ++ c :: rest) ∧ (∀ x ∈ left, Text.isBlank x = true)
    ∧ slashes ≠ [] ∧ (∀ x ∈ slashes, x = '/') ∧ Text.isBlank c = true
    ∧ ∃ x ∈ rest, Text.isBlank x = false

/-- The slashes at an end keep a blank from being taken away. -/
def Shelters (t : Path) : Prop :=
  t.SheltersInFront ∨ SheltersInFront t.reverse

end Path

section

variable {t : Path}

lemma isBlank_slash : Text.isBlank '/' = false := by decide

lemma cleanDir_reverse (t : Path) : cleanDir t.reverse = (cleanDir t).reverse := by
  rw [cleanDir, cleanDir, Text.trim, Text.trimBoth_reverse, Path.trimSlashes, Text.trimBoth_reverse]
  rfl

lemma ends_cleanDir (t : Path) :
    ∀ c, c ∈ (cleanDir t).head? ∨ c ∈ (cleanDir t).getLast? → c ≠ '/' := by
  obtain ⟨-, hhead, hlast⟩ := Text.trimBoth_eq_iff.1 (Eq.refl (cleanDir t))
  rintro c (hc | hc)
  · simpa using hhead c hc
  · simpa using hlast c hc

/-- **Nothing is left** of a directory that has nothing but slashes between blanks. -/
lemma cleanDir_eq_nil_iff : cleanDir t = [] ↔ t.Hollow := by
  rw [cleanDir, Path.trimSlashes, Text.trimBoth_eq_nil_iff]
  simp only [beq_iff_eq]
  constructor
  · intro hslashes
    obtain ⟨left, right, ht, hleft, hright⟩ := Text.exists_eq_trimBoth Text.isBlank t
    exact ⟨left, t.trim, right, ht, hleft, hslashes, hright⟩
  · rintro ⟨left, slashes, right, rfl, hleft, hslashes, hright⟩ c hc
    rw [Text.trim_of_blank_append hleft, Text.trim_append_of_blank hright] at hc
    exact hslashes c (slashes.trim_sublist.subset hc)

/-- **A blank is left in front** when slashes shelter it. -/
lemma sheltersInFront_iff :
    t.SheltersInFront ↔ ∃ c ∈ (cleanDir t).head?, Text.isBlank c = true := by
  constructor
  · rintro ⟨left, slashes, c, rest, rfl, hleft, hne, hslashes, hc, x, hx, hblank⟩
    obtain ⟨slash, slashes, rfl⟩ := List.exists_cons_of_ne_nil hne
    obtain ⟨front, back, rfl⟩ := List.append_of_mem hx
    obtain rfl : slash = '/' := hslashes slash List.mem_cons_self
    -- trimming stops at the first slash and behind the last character that is no blank
    have htrim : Text.trim (left ++ ('/' :: slashes ++ c :: (front ++ x :: back)))
        = ('/' :: slashes) ++ c :: (front ++ x :: Text.trimEnd Text.isBlank back) := by
      rw [Text.trim_of_blank_append hleft, Text.trim, Text.trimBoth, List.cons_append,
        List.dropWhile_cons_of_neg (by decide)]
      have hend := Text.trimEnd_append_cons hblank ('/' :: slashes ++ c :: front) back
      simpa using hend
    have hslash : (c == '/') = false := by
      rw [beq_eq_false_iff_ne]
      rintro rfl
      rw [isBlank_slash] at hc
      cases hc
    refine ⟨c, ?_, hc⟩
    rw [cleanDir, htrim, Path.trimSlashes, Text.trimBoth_of_all_append (by simpa using hslashes),
      Text.trimBoth, List.dropWhile_cons_of_neg (by simp [hslash]),
      ← List.nil_append (c :: _), Text.trimEnd_append_cons (c := c) hslash]
    rfl
  · rintro ⟨c, hc, hblank⟩
    obtain ⟨q, hq⟩ := List.head?_eq_some_iff.1 hc
    obtain ⟨⟨left, right, ht, hleft, -⟩, hhead, hlast⟩ :=
      Text.trimBoth_eq_iff.1 (Eq.refl (Text.trimBoth Text.isBlank t))
    obtain ⟨front, back, hu, hfront, -⟩ :=
      Text.exists_eq_trimBoth (· == '/') (Text.trimBoth Text.isBlank t)
    have hclean : Text.trimBoth (· == '/') (Text.trimBoth Text.isBlank t) = c :: q := hq
    rw [hclean, List.cons_append] at hu
    rw [hu] at ht hhead hlast
    refine ⟨left, front, c, q ++ back ++ right, by simpa using ht, hleft, ?_, ?_, hblank, ?_⟩
    · rintro rfl
      rw [hhead c rfl] at hblank
      cases hblank
    · intro x hx
      simpa using hfront x hx
    · -- the blank in front is not the last character of what trimming leaves
      rcases List.eq_nil_or_concat (q ++ back) with hnil | ⟨inner, x, hconcat⟩
      · rw [hnil, List.getLast?_append_of_ne_nil front (List.cons_ne_nil c [])] at hlast
        rw [hlast c rfl] at hblank
        cases hblank
      · refine ⟨x, by simp [hconcat], hlast x ?_⟩
        rw [hconcat, List.concat_eq_append, ← List.cons_append, ← List.append_assoc,
          List.getLast?_concat]
        rfl

lemma shelters_iff :
    t.Shelters ↔ ∃ c, (c ∈ (cleanDir t).head? ∨ c ∈ (cleanDir t).getLast?) ∧ Text.isBlank c = true := by
  rw [Path.Shelters, sheltersInFront_iff, sheltersInFront_iff, cleanDir_reverse, List.head?_reverse]
  simp only [or_and_right, exists_or]

/-- **Neat directories** are what is left of a directory unless nothing is, or slashes shelter a blank. -/
lemma isNeat_cleanDir_iff : (cleanDir t).IsNeat ↔ ¬t.Hollow ∧ ¬t.Shelters := by
  rw [← cleanDir_eq_nil_iff, shelters_iff]
  constructor
  · intro h
    refine ⟨h.ne_nil, ?_⟩
    rintro ⟨c, hc, hblank⟩
    rw [h.blank c hc] at hblank
    cases hblank
  · rintro ⟨hne, hblank⟩
    refine ⟨hne, ends_cleanDir t, fun c hc => ?_⟩
    rw [← Bool.not_eq_true]
    exact fun hc' => hblank ⟨c, hc, hc'⟩

/-- Cleaning leaves neat directories as they are, and no others. -/
lemma cleanDir_eq_self_iff (h : t ≠ []) : cleanDir t = t ↔ t.IsNeat := by
  constructor
  · intro hclean
    have hends := ends_cleanDir t
    rw [hclean] at hends
    have htrim : t.trim = t := by
      refine t.trim_sublist.antisymm ?_
      conv_lhs => rw [← hclean]
      exact Text.trimBoth_sublist _ _
    obtain ⟨hhead, hlast⟩ := (Text.trim_eq_self_iff t).1 htrim
    exact ⟨h, hends, fun c hc => hc.elim (hhead c) (hlast c)⟩
  · intro hneat
    have htrim : t.trim = t := (Text.trim_eq_self_iff t).2
      ⟨fun c hc => hneat.blank c (Or.inl hc), fun c hc => hneat.blank c (Or.inr hc)⟩
    rw [cleanDir, htrim]
    refine (Text.trimBoth_eq_self_iff _ t).2 ⟨fun c hc => ?_, fun c hc => ?_⟩
    · simpa using hneat.slash c (Or.inl hc)
    · simpa using hneat.slash c (Or.inr hc)

/-- A directory of nothing but slashes and blanks is hollow, unless slashes shelter a blank. -/
lemma hollow_iff_of_not_shelters (h : ¬t.Shelters) :
    t.Hollow ↔ ∀ c ∈ t, Text.isBlank c = true ∨ c = '/' := by
  constructor
  · rintro ⟨left, slashes, right, rfl, hleft, hslashes, hright⟩ c hc
    rw [List.mem_append, List.mem_append] at hc
    rcases hc with hc | hc | hc
    · exact Or.inl (hleft c hc)
    · exact Or.inr (hslashes c hc)
    · exact Or.inl (hright c hc)
  · intro hall
    by_contra hhollow
    have hneat := isNeat_cleanDir_iff.2 ⟨hhollow, h⟩
    obtain ⟨c, q, hq⟩ := List.exists_cons_of_ne_nil hneat.ne_nil
    have hhead : c ∈ (cleanDir t).head? := by rw [hq]; rfl
    have hmem : c ∈ t := by
      refine ((Text.trimBoth_sublist _ _).trans t.trim_sublist).subset (?_ : c ∈ cleanDir t)
      rw [hq]
      exact List.mem_cons_self
    rcases hall c hmem with hblank | hslash
    · rw [hneat.blank c (Or.inl hhead)] at hblank
      cases hblank
    · exact hneat.slash c (Or.inl hhead) hslash

end

/-! ## The directories of a profile -/

/-- The directories in the order in which they are looked at. -/
def Directory.all : List Directory :=
  [examples, tools, docs, binding]

namespace Directories

variable {α β γ : Type}

lemma ext_get {d e : Directories α} (h : ∀ k, d.get k = e.get k) : d = e := by
  obtain ⟨examples, tools, docs, binding⟩ := d
  obtain ⟨examples', tools', docs', binding'⟩ := e
  obtain rfl : examples = examples' := h .examples
  obtain rfl : tools = tools' := h .tools
  obtain rfl : docs = docs' := h .docs
  obtain rfl : binding = binding' := h .binding
  rfl

lemma get_map (f : α → β) (d : Directories α) (k : Directory) : (d.map f).get k = f (d.get k) := by
  cases k <;> rfl

lemma get_map₂ (f : α → β → γ) (d : Directories α) (e : Directories β) (k : Directory) :
    (d.map₂ f e).get k = f (d.get k) (e.get k) := by
  cases k <;> rfl

/-- The directory of which nothing is left, and in front of which something is left of all of them. -/
def FirstHollow (layout : Directories Path) (d : Directory) : Prop :=
  ∃ before after, Directory.all = before ++ d :: after ∧ (layout.get d).Hollow
    ∧ ∀ d' ∈ before, ¬(layout.get d').Hollow

end Directories

lemma firstEmpty?_eq_some_iff {layout : Directories Path} {d : Directory} :
    firstEmpty? layout = some d ↔ layout.FirstHollow d := by
  have hempty : ∀ k, (cleanDir (layout.get k)).isEmpty = true ↔ (layout.get k).Hollow := by
    intro k
    rw [List.isEmpty_iff, cleanDir_eq_nil_iff]
  have hkept : ∀ k, (!(cleanDir (layout.get k)).isEmpty) = true ↔ ¬(layout.get k).Hollow := by
    intro k
    rw [Bool.not_eq_true', ← Bool.not_eq_true, hempty]
  rw [firstEmpty?, List.find?_eq_some_iff_append, Directories.FirstHollow, hempty]
  simp only [hkept]
  constructor
  · rintro ⟨hd, before, after, hall, hbefore⟩
    exact ⟨before, after, hall, hd, hbefore⟩
  · rintro ⟨before, after, hall, hd, hbefore⟩
    exact ⟨hd, before, after, hall, hbefore⟩

lemma firstEmpty?_eq_none_iff {layout : Directories Path} :
    firstEmpty? layout = none ↔ ∀ d, cleanDir (layout.get d) ≠ [] := by
  rw [firstEmpty?, List.find?_eq_none]
  constructor
  · intro h d
    have hd : d ∈ Directory.all := by cases d <;> decide
    simpa using h d hd
  · intro h d _
    simpa using h d

namespace Profile

variable {p : Profile} {b : BuildOptions}

lemma build_eq_ok_iff :
    p.build = .ok b
      ↔ (∀ d, ¬(p.layout.get d).Hollow)
        ∧ b = ⟨p.switches.map₂ Option.getD defaultSwitches, p.layout.map cleanDir⟩ := by
  simp only [← cleanDir_eq_nil_iff]
  rw [← firstEmpty?_eq_none_iff, build]
  cases firstEmpty? p.layout with
  | some d => simp
  | none => simp [eq_comm]

lemma build_eq_error_iff {e : ConfigError} :
    p.build = .error e ↔ ∃ d, e = .emptyDirectory d ∧ p.layout.FirstHollow d := by
  simp only [← firstEmpty?_eq_some_iff]
  rw [build]
  cases firstEmpty? p.layout with
  | some d => simp [eq_comm]
  | none => simp

/-- **The directories of a build and of the profile that describes it.** -/
structure Resolves (p : Profile) (b : BuildOptions) : Prop where
  ne_nil : ∀ d, b.layout.get d ≠ []
  slash : ∀ d c, c ∈ (b.layout.get d).head? ∨ c ∈ (b.layout.get d).getLast? → c ≠ '/'
  /-- A blank at an end is one that slashes have sheltered. -/
  neat : ∀ d, (b.layout.get d).IsNeat ↔ ¬(p.layout.get d).Shelters
  /-- With its own directories the profile describes the same build again unless there is such a
  blank. -/
  again : Profile.build { p with layout := b.layout } = .ok b ↔ ∀ d, ¬(p.layout.get d).Shelters

lemma resolves_of_build (h : p.build = .ok b) : p.Resolves b := by
  obtain ⟨hfull, rfl⟩ := build_eq_ok_iff.1 h
  have hne : ∀ d, cleanDir (p.layout.get d) ≠ [] := fun d => mt cleanDir_eq_nil_iff.1 (hfull d)
  have hneat : ∀ d, (cleanDir (p.layout.get d)).IsNeat ↔ ¬(p.layout.get d).Shelters := fun d =>
    isNeat_cleanDir_iff.trans (and_iff_right (hfull d))
  constructor
  case ne_nil => simpa only [Directories.get_map] using hne
  case slash =>
    intro d
    rw [Directories.get_map]
    exact ends_cleanDir _
  case neat => simpa only [Directories.get_map] using hneat
  case again =>
    -- the directories are clean already when cleaning them again changes none
    have hself : (∀ d, cleanDir (cleanDir (p.layout.get d)) = cleanDir (p.layout.get d))
        ↔ ∀ d, ¬(p.layout.get d).Shelters :=
      forall_congr' fun d => (cleanDir_eq_self_iff (hne d)).trans (hneat d)
    rw [build_eq_ok_iff, ← hself]
    constructor
    · rintro ⟨-, hb⟩ d
      have hlayout : p.layout.map cleanDir = (p.layout.map cleanDir).map cleanDir :=
        congrArg BuildOptions.layout hb
      have hget := congrArg (fun layout => layout.get d) hlayout
      simp only [Directories.get_map] at hget
      exact hget.symm
    · intro hclean
      refine ⟨fun d hhollow => hne d ?_, ?_⟩
      · rw [← hclean d, cleanDir_eq_nil_iff]
        simpa only [Directories.get_map] using hhollow
      · have hlayout : (p.layout.map cleanDir).map cleanDir = p.layout.map cleanDir :=
          Directories.ext_get fun d => by
            rw [Directories.get_map, Directories.get_map, hclean d]
        rw [hlayout]

end Profile

/-- **The directories of a build.**  A profile describes a build unless one of its directories is nothing
but slashes between blanks, and the first such directory is named.  The directories of the build are never
empty and have no slash at an end.  They have a blank there, and are changed when they are resolved again,
exactly when the profile gives a directory in which slashes shelter a blank; in all others, nothing is
left of a directory exactly when it has nothing but slashes and blanks. -/
theorem build_layout_neat_iff (p : Profile) :
    (∀ e, p.build = .error e ↔ ∃ d, e = .emptyDirectory d ∧ p.layout.FirstHollow d)
      ∧ (∀ b, p.build = .ok b → p.Resolves b)
      ∧ ∀ d, ¬(p.layout.get d).Shelters →
        ((p.layout.get d).Hollow ↔ ∀ c ∈ p.layout.get d, Text.isBlank c = true ∨ c = '/') :=
  ⟨fun _ => Profile.build_eq_error_iff, fun _ => Profile.resolves_of_build,
    fun _ => hollow_iff_of_not_shelters⟩

/-- Blanks and slashes around the directories of this profile go, and those inside of them stay. -/
theorem build_layout_neat_iff_spaced :
    let p : Profile :=
      { layout := ⟨"  //share/docs / examples".toList, "bin/".toList, "\tshare//doc/ ".toList,
          "/python".toList⟩ }
    let b : BuildOptions :=
      { layout := ⟨"share/docs / examples".toList, "bin".toList, "share//doc".toList,
          "python".toList⟩ }
    p.build = .ok b ∧ (∀ d, (b.layout.get d).IsNeat)
      ∧ Profile.build { p with layout := b.layout } = .ok b
      ∧ ¬∀ c ∈ p.layout.get .tools, Text.isBlank c = true ∨ c = '/' := by
  intro p b
  obtain ⟨-, hok, hhollow⟩ := build_layout_neat_iff p
  have hbuild : p.build = .ok b := rfl
  have hneat : ∀ d, (b.layout.get d).IsNeat := by
    intro d
    refine (cleanDir_eq_self_iff ((hok b hbuild).ne_nil d)).1 ?_
    cases d <;> rfl
  have hshelters : ∀ d, ¬(p.layout.get d).Shelters := fun d => ((hok b hbuild).neat d).1 (hneat d)
  refine ⟨hbuild, hneat, (hok b hbuild).again.2 hshelters, ?_⟩
  rw [← hhollow .tools (hshelters .tools), ← cleanDir_eq_nil_iff]
  decide

/-- The blank behind a slash is left in front of the tools, and nothing but a blank is left of the binding.
The first of these directories becomes another one when it is resolved again, and the second one is not
accepted any more. -/
theorem build_layout_sheltered :
    let p : Profile := { layout := { defaultLayout with tools := "/ bin".toList } }
    let q : Profile := { layout := { defaultLayout with binding := "/ /".toList } }
    let b : BuildOptions := { layout := { defaultLayout with tools := " bin".toList } }
    let c : BuildOptions := { layout := { defaultLayout with binding := " ".toList } }
    p.build = .ok b ∧ ¬(b.layout.get .tools).IsNeat
      ∧ Profile.build { p with layout := b.layout } = .ok {}
      ∧ (∀ x ∈ q.layout.get .binding, Text.isBlank x = true ∨ x = '/') ∧ q.build = .ok c
      ∧ Profile.build { q with layout := c.layout } = .error (.emptyDirectory .binding) := by
  intro p q b c
  refine ⟨rfl, fun h => ?_, rfl, ?_, rfl, rfl⟩
  · have hblank := h.blank ' ' (Or.inl rfl)
    exact absurd hblank (by decide)
  · show ∀ x ∈ ['/', ' ', '/'], Text.isBlank x = true ∨ x = '/'
    rw [List.forall_mem_cons, List.forall_mem_cons, List.forall_mem_singleton]
    exact ⟨Or.inr rfl, Or.inl (by decide), Or.inr rfl⟩

end InstallAudit
