import InstallAudit.Program
import InstallAudit.Proofs.Rereading

/-!
# Regenerating a reference

The program prints a manifest one entry on a line, and what it prints is meant to be read again as
the reference of later checks.  Reading does with a printed entry all that it does with any line, so
the entries that come back are those on which nothing of that has an effect.

* `forall_read?_eq_self_of_subset` — if all entries come back, none of them has changed.
* `Config.ReadsBack`, `read?_eq_self_iff_readsBack` — the entries that reading leaves as they are.
* **`manifest_regenerated_iff`** — when a printed manifest reads back as itself.
* `manifest_not_regenerated_marker` — a listing in which the marker of the installation root occurs
  twice loses more of a path with every regeneration.
-/

namespace InstallAudit

open scoped List

open InstallAudit.Path

namespace Config

/-! ## Entries that give themselves -/

/-- A blank line gives nothing. -/
lemma read?_nil (c : Config) : c.read? [] = none :=
  rfl

/-- If all entries of a printed manifest come back, none of them has changed. -/
lemma forall_read?_eq_self_of_subset {c : Config} {m : Manifest} (entries : ∀ x ∈ m, x.IsEntry)
    (back : ∀ x ∈ m, x ∈ c.manifest m.text) :
    m.text.head? ≠ some '\uFEFF' ∧ ∀ x ∈ m, c.read? x = some x :=
  Manifest.forall_eq_self_of_subset (fun _ _ => length_le_of_read?)
    (fun l hl _ => eq_of_read?_of_length (entries l hl).backslash) (fun x hx => (entries x hx).newline)
    (fun x hx => (entries x hx).ne_nil) fun x hx => mem_manifest.1 (back x hx)

/-- A printed manifest reads back as itself when every entry gives itself. -/
lemma manifest_text_eq_iff {c : Config} {m : Manifest} (entries : ∀ x ∈ m, x.IsEntry) :
    c.manifest m.text = m ↔ m.text.head? ≠ some '\uFEFF' ∧ ∀ x ∈ m, c.read? x = some x := by
  constructor
  · intro h
    exact forall_read?_eq_self_of_subset entries fun x hx => by rwa [h]
  · rintro ⟨hmark, hself⟩
    refine Manifest.ext_mem fun x => ?_
    rw [mem_manifest]
    exact Manifest.mem_of_text (fun x hx => (entries x hx).newline) hmark c.read?_nil hself

/-! ## The entries that read back -/

/-- An entry on which reading it again has no effect: neither trimming it, nor looking for comments
and exclusion tokens, nor cutting it at the marker or at the installation prefix. -/
structure ReadsBack (c : Config) (x : Path) : Prop where
  front : ∀ b ∈ x.head?, Text.isBlank b = false
  back : ∀ b ∈ x.getLast?, Text.isBlank b = false
  noComment : x.head? ≠ some '#'
  included : ∀ token ∈ c.load.exclude, token <:+: x → token = []
  unmarked : ∀ marker ∈ c.load.rootMarker, trimSlashes marker = []
    ∨ ∀ above below, x.segments = above ++ (trimSlashes marker).segments ++ below → below = []
  relative : ∀ head ∈ c.load.installPrefix, prefixRoot head = []
    ∨ ¬ (prefixRoot head).segments <+: x.segments

/-- An entry gives itself when it reads back, cleaning it again would take nothing away, and
normalizing it again would not either. -/
lemma read?_eq_self_iff_readsBack {c : Config} {x : Path} (entry : x.IsEntry) :
    c.read? x = some x ↔ c.ReadsBack x ∧ x.name ≠ ['.'] ∧ x.IsNormal := by
  rw [read?_eq_self_iff, LoadOptions.path?_eq_self_iff entry.ne_nil entry.backslash,
    Text.trim_eq_self_iff, LoadOptions.keeps_iff, LoadOptions.atMarker?_eq_none_iff,
    LoadOptions.atPrefix?_eq_none_iff, isClean_iff]
  constructor
  · rintro ⟨⟨⟨front, back⟩, ⟨-, comment, included⟩, unmarked, relative, -, hname⟩, hnormal⟩
    exact ⟨⟨front, back, comment, included, unmarked, relative⟩, hname, hnormal⟩
  · rintro ⟨⟨front, back, comment, included, unmarked, relative⟩, hname, hnormal⟩
    exact ⟨⟨⟨front, back⟩, ⟨entry.ne_nil, comment, included⟩, unmarked, relative,
      entry.toIsTidy, hname⟩, hnormal⟩

end Config

/-! ## Regeneration -/

/-- **When a reference regenerates.**  What is printed for a listing is read again as the manifest of
that listing only if it does not start with a byte order mark and every entry reads back; and it is
so read if every entry, moreover, is in its final form.  Checking the listing against the reference
that was generated from it finds nothing missing and nothing extra in exactly these cases. -/
theorem manifest_regenerated_iff (c : Config) (listing : Text) :
    let m := c.manifest listing
    let printed := (Program.printManifest false m).out.toText
    (c.manifest printed = m → printed.head? ≠ some '\uFEFF' ∧ ∀ x ∈ m, c.ReadsBack x)
      ∧ (printed.head? ≠ some '\uFEFF' → (∀ x ∈ m, c.ReadsBack x) →
          (∀ x ∈ m, x.name ≠ ['.'] ∧ x.IsNormal) → c.manifest printed = m)
      ∧ ∀ build, (reconcile m (c.manifest printed) build).missing = .empty
          ∧ (reconcile m (c.manifest printed) build).extra = .empty ↔ c.manifest printed = m := by
  intro m printed
  have entries : ∀ x ∈ m, x.IsEntry := fun x hx => Config.isEntry_of_mem_manifest hx
  have hiff : c.manifest printed = m
      ↔ printed.head? ≠ some '\uFEFF' ∧ ∀ x ∈ m, c.read? x = some x :=
    Config.manifest_text_eq_iff entries
  refine ⟨fun h => ?_, fun hmark hback hfinal => ?_, fun build => ⟨fun h => ?_, fun h => ?_⟩⟩
  · obtain ⟨hmark, hself⟩ := hiff.1 h
    refine ⟨hmark, fun x hx => ?_⟩
    exact (Config.read?_eq_self_iff_readsBack (entries x hx)).1 (hself x hx) |>.1
  · refine hiff.2 ⟨hmark, fun x hx => ?_⟩
    exact (Config.read?_eq_self_iff_readsBack (entries x hx)).2 ⟨hback x hx, hfinal x hx⟩
  -- that nothing is extra suffices here: it says that every entry has come back
  · refine hiff.2 (Config.forall_read?_eq_self_of_subset entries fun x hx => ?_)
    by_contra hlost
    exact Manifest.eq_empty_iff.1 h.2 x (Manifest.mem_difference.2 ⟨hx, hlost⟩)
  · rw [h]
    simp [reconcile]

/-- Everything that is cut off of these lines is gone for good: a marker, a prefix, a line that is left out, the
other name of a directory and a shared suffix.  So the reference regenerates. -/
theorem manifest_regenerated_iff_cut :
    let c : Config :=
      { load :=
        { exclude := ["tmp".toList], rootMarker := some "_install".toList
          installPrefix := some "/opt/pkg".toList } }
    let listing := "/b/_install/lib64/libz.so\n/opt/pkg/share/doc/a b.txt\nshare/tmp/x\n".toList
    let m := c.manifest listing
    let printed := (Program.printManifest false m).out.toText
    m.toList = ["lib/libz".toList, "share/doc/a b.txt".toList]
      ∧ (printed.head? ≠ some '\uFEFF' ∧ (∀ x ∈ m, c.ReadsBack x)
        ∧ ∀ x ∈ m, x.name ≠ ['.'] ∧ x.IsNormal)
      ∧ c.manifest printed = m
      ∧ (reconcile m (c.manifest printed) {}).missing = .empty
      ∧ (reconcile m (c.manifest printed) {}).extra = .empty := by
  intro c listing m printed
  have hself : ∀ x ∈ m, c.read? x = some x := by decide
  have hback : ∀ x ∈ m, c.ReadsBack x ∧ x.name ≠ ['.'] ∧ x.IsNormal := fun x hx =>
    (Config.read?_eq_self_iff_readsBack (Config.isEntry_of_mem_manifest hx)).1 (hself x hx)
  have hmark : printed.head? ≠ some '\uFEFF' := by decide
  obtain ⟨-, hregenerates, hreport⟩ := manifest_regenerated_iff c listing
  have hagain : c.manifest printed = m :=
    hregenerates hmark (fun x hx => (hback x hx).1) fun x hx => (hback x hx).2
  exact ⟨by decide, ⟨hmark, fun x hx => (hback x hx).1, fun x hx => (hback x hx).2⟩, hagain,
    (hreport {}).2 hagain⟩

/-- Where the marker of the installation root occurs twice in a path, the first reading takes off
what is above the first one, and the second reading what is above the other one. -/
theorem manifest_not_regenerated_marker :
    let c : Config := { load := { rootMarker := some "_install".toList } }
    let m := c.manifest "/b/_install/share/_install/x\n".toList
    let again := c.manifest (Program.printManifest false m).out.toText
    m.toList = ["share/_install/x".toList] ∧ again.toList = ["x".toList] ∧ again ≠ m := by
  decide

end InstallAudit
