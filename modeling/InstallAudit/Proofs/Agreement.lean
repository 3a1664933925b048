import InstallAudit.Proofs.Checking
import InstallAudit.Proofs.Encodings
import InstallAudit.Proofs.Regeneration
import InstallAudit.Proofs.Verdict

/-!
# Checks, prints and digests agree

A reader can compare two listings in three ways: check one against the other, print both in their normal
form and compare what is printed, or look at the digests in a report.  The three ways agree, because
what is printed can be told apart.  No entry holds a line feed, whatever the listing and the
configuration, so the entries can be found again in the text, and the text in its bytes.

* `Manifest.bytes_injective` — manifests whose entries fit on lines are told apart by their bytes.
* `Manifest.digest_eq_iff` — without a collision, so they are by their digests.
* `reconcile_eq_empty_iff`, `reconcile_passed_iff` — the differences of equal manifests.
* `Config.printed` — the bytes that are printed for a file.
* **`check_agrees`** — checks, prints and digests of two files.
-/

namespace InstallAudit

/-! ## What tells manifests apart -/

namespace Manifest

variable {m m' : Manifest}

lemma text_injective (entries : ∀ x ∈ m, x.IsEntry) (entries' : ∀ x ∈ m', x.IsEntry)
    (h : m.text = m'.text) : m = m' := by
  -- no entry holds a line feed, so the lines of the text are the entries
  have hlines : m.toList ++ [[]] = m'.toList ++ [[]] := by
    rw [← splitOn_text fun x hx => (entries x hx).newline,
      ← splitOn_text fun x hx => (entries' x hx).newline, h]
  have hlist : m.toList = m'.toList := List.append_cancel_right hlines
  refine ext_mem fun p => ?_
  rw [← mem_toList, ← mem_toList, hlist]

lemma bytes_injective (entries : ∀ x ∈ m, x.IsEntry) (entries' : ∀ x ∈ m', x.IsEntry)
    (h : m.bytes = m'.bytes) : m = m' :=
  text_injective entries entries' (Text.encode_injective h)

/-- Where two manifests do not collide, a digest stands for the bytes. -/
lemma digest_eq_iff (collision : Blake3.digest m.bytes = Blake3.digest m'.bytes → m.bytes = m'.bytes) :
    m.digest = m'.digest ↔ m.bytes = m'.bytes := by
  constructor
  · intro h
    exact collision (flatMap_hexByte_injective h)
  · intro h
    rw [digest, h]
    rfl

end Manifest

/-! ## Differences -/

section

variable {G R : Manifest} {o : BuildOptions}

/-- Nothing is absent and nothing is extra exactly when the manifests are the same. -/
lemma reconcile_eq_empty_iff :
    ((reconcile G R o).missing = .empty ∧ (reconcile G R o).exempted = .empty
      ∧ (reconcile G R o).extra = .empty) ↔ G = R := by
  simp only [Manifest.eq_empty_iff, mem_missing, mem_exempted, mem_extra]
  constructor
  · rintro ⟨hmissing, hexempted, hextra⟩
    refine Manifest.ext_mem fun p => ⟨fun hp => ?_, fun hp => ?_⟩
    · by_contra hR
      exact hextra p ⟨hp, hR⟩
    · by_contra hG
      by_cases hexempt : o.Exempts p
      · exact hexempted p ⟨⟨hp, hG⟩, hexempt⟩
      · exact hmissing p ⟨⟨hp, hG⟩, hexempt⟩
  · rintro rfl
    simp

/-- A build without rules lets nothing be missing and forbids nothing. -/
lemma reconcile_passed_iff (lax : o.policy = []) : (reconcile G R o).passed = true ↔ G = R := by
  have hexempts : ∀ p, ¬o.Exempts p := by
    intro p hp
    rw [← BuildOptions.isExempt_iff_exempts, lax] at hp
    cases hp
  have hactive : ∀ rule ∈ o.bans, ¬o.Activates rule := by
    intro rule hrule hactive
    have hmem := BuildOptions.mem_policy.2 ⟨Or.inl hrule, hactive⟩
    rw [lax] at hmem
    cases hmem
  rw [passed_iff]
  constructor
  · rintro ⟨hG, hR, -⟩
    refine Manifest.ext_mem fun p => ⟨hG p, fun hp => ?_⟩
    by_contra hpG
    exact hexempts p (hR p hp hpG)
  · rintro rfl
    exact ⟨fun _ hp => hp, fun _ hp hn => absurd hp hn,
      fun rule hrule hon => absurd hon (hactive rule hrule)⟩

end

/-! ## Files -/

/-- The bytes that are printed for a file under a configuration. -/
def Config.printed (c : Config) (read : FileReader) (p : Path) : Except ManifestError Bytes :=
  (loadNormalized read c p).result.map fun m =>
    Text.encode (Program.printManifest false m).out.toText

/-- **The agreement of a check with what is printed for its files.** -/
structure Agreement (read : FileReader) (c : Config) (generated reference : Path) (G R : Manifest)
    (r : Report) : Prop where
  checked : (checkFiles read c generated reference).result = .ok r
  printedGenerated : c.printed read generated = .ok G.bytes
  printedReference : c.printed read reference = .ok R.bytes
  /-- The digests are taken of what is printed. -/
  digestGenerated : r.generated.digest = (Blake3.digest G.bytes).flatMap hexByte
  digestReference : r.reference.digest = (Blake3.digest R.bytes).flatMap hexByte
  /-- Without rules, the check passes when the prints are the same. -/
  passed : c.build.policy = [] → (r.passed = true ↔ G.bytes = R.bytes)
  /-- Without a collision, the digests are the same when nothing is absent and nothing is extra. -/
  digests : (Blake3.digest G.bytes = Blake3.digest R.bytes → G.bytes = R.bytes) →
    (r.generated.digest = r.reference.digest
      ↔ r.missing = .empty ∧ r.exempted = .empty ∧ r.extra = .empty)

section

variable {read : FileReader} {c : Config}

lemma Config.bytes_manifest_injective {c c' : Config} {listing listing' : Text}
    (h : (c.manifest listing).bytes = (c'.manifest listing').bytes) :
    c.manifest listing = c'.manifest listing' :=
  Manifest.bytes_injective (fun _ => isEntry_of_mem_manifest) (fun _ => isEntry_of_mem_manifest) h

lemma Config.printed_eq_ok {p : Path} {t : Text} (h : readText read p = .ok t) :
    c.printed read p = .ok (c.manifest t).bytes := by
  rw [printed, result_loadNormalized, readListing, h]
  rfl

/-- A normalization prints the bytes of its file. -/
lemma encode_out_normalize {files : FileTree} {env : Option Text} {g : Globals} {listing : Path}
    {flags : ProfileFlags} {bytes : Bytes} (plain : g.json = false)
    (hc : flags.resolve none files.read = .ok c) (hbytes : c.printed files.read listing = .ok bytes) :
    Text.encode (Program.execute files env g (.normalize listing flags)).out.toText = bytes := by
  cases hm : (loadNormalized files.read c listing).result with
  | error e =>
      rw [Config.printed, hm] at hbytes
      cases hbytes
  | ok m =>
      have hresult : (Program.normalize files.read g.json listing flags).result
          = .ok (Program.printManifest g.json m) :=
        (result_normalize_eq_ok files.read).2 ⟨c, hc, m, hm, rfl⟩
      rw [execute_of_ok rfl hresult, plain]
      rw [Config.printed, hm] at hbytes
      exact Except.ok.inj hbytes

end

/-- **Checks, prints and digests agree.**  For two files that can be read there is a report, and it
agrees with what is printed for them; the bytes that are printed tell the manifests of listings apart,
whatever the configurations; and they are what a normalization prints. -/
theorem check_agrees (c : Config) :
    (∀ read generated reference g r, readText read generated = .ok g →
      readText read reference = .ok r →
        ∃ report, Agreement read c generated reference (c.manifest g) (c.manifest r) report)
      ∧ (∀ (c' : Config) listing listing', (c.manifest listing).bytes = (c'.manifest listing').bytes →
          c.manifest listing = c'.manifest listing')
      ∧ ∀ files env globals listing flags bytes, globals.json = false →
          flags.resolve none files.read = .ok c → c.printed files.read listing = .ok bytes →
            Text.encode (Program.execute files env globals (.normalize listing flags)).out.toText
              = bytes := by
  refine ⟨fun read generated reference g r hg hr => ?_, fun _ _ _ => Config.bytes_manifest_injective,
    fun _ _ _ _ _ _ => encode_out_normalize⟩
  have hsame : (c.manifest g).bytes = (c.manifest r).bytes ↔ c.manifest g = c.manifest r :=
    ⟨Config.bytes_manifest_injective, fun h => by rw [h]⟩
  refine ⟨c.report g r, ?_⟩
  constructor
  case checked => exact (result_checkFiles_eq_ok read).2 ⟨g, hg, r, hr, rfl⟩
  case printedGenerated => exact Config.printed_eq_ok hg
  case printedReference => exact Config.printed_eq_ok hr
  case digestGenerated => rfl
  case digestReference => rfl
  case passed =>
    intro lax
    exact (reconcile_passed_iff lax).trans hsame.symm
  case digests =>
    intro collision
    exact (Manifest.digest_eq_iff collision).trans (hsame.trans reconcile_eq_empty_iff.symm)

/-- Two listings of which neither covers the other. -/
theorem check_agrees_overlapping :
    let g := "/opt/lib64/libz.so\nlib/b\n".toList
    let r := "# generated\nlib/b\nlib/c\n".toList
    let files : FileTree :=
      ⟨[(["g".toList], .file (Text.encode g)), (["r".toList], .file (Text.encode r))]⟩
    let flags : ProfileFlags := { installPrefix := some "/opt/".toList }
    let c : Config := { load := { installPrefix := some "/opt/".toList } }
    readText files.read "g".toList = .ok g ∧ readText files.read "r".toList = .ok r
      ∧ flags.resolve none files.read = .ok c ∧ c.build.policy = []
      ∧ (Blake3.digest (c.manifest g).bytes = Blake3.digest (c.manifest r).bytes →
          (c.manifest g).bytes = (c.manifest r).bytes)
      ∧ c.printed files.read "g".toList = .ok (Text.encode "lib/b\nlib/libz\n".toList)
      ∧ Text.encode (Program.execute files none {} (.normalize "g".toList flags)).out.toText
        = Text.encode "lib/b\nlib/libz\n".toList
      ∧ ∃ report, (checkFiles files.read c "g".toList "r".toList).result = .ok report
        ∧ ¬report.passed = true ∧ report.generated.digest ≠ report.reference.digest := by
  intro g r files flags c
  have hg : readText files.read "g".toList = .ok g := by decide +kernel
  have hr : readText files.read "r".toList = .ok r := by decide +kernel
  have hc : flags.resolve none files.read = .ok c := by decide +kernel
  have hdiffer : (c.manifest g).bytes ≠ (c.manifest r).bytes := by decide +kernel
  have hcollision : Blake3.digest (c.manifest g).bytes ≠ Blake3.digest (c.manifest r).bytes := by
    decide +kernel
  obtain ⟨hagree, -, hprint⟩ := check_agrees c
  obtain ⟨report, hreport⟩ := hagree files.read _ _ g r hg hr
  have hprinted : c.printed files.read "g".toList
      = .ok (Text.encode "lib/b\nlib/libz\n".toList) := by
    decide +kernel
  refine ⟨hg, hr, hc, rfl, fun h => absurd h hcollision, hprinted,
    hprint files none {} _ flags _ rfl hc hprinted, report, hreport.checked, ?_, ?_⟩
  · rw [hreport.passed rfl]
    exact hdiffer
  · rw [hreport.digestGenerated, hreport.digestReference]
    exact fun h => hcollision (flatMap_hexByte_injective h)

end InstallAudit
