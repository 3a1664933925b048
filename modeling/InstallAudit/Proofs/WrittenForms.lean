import InstallAudit.Proofs.Manifests
import InstallAudit.Proofs.Records

/-!
# Settings and their written forms

Every value of the settings has a written form, and a reader that accepts a good deal more: words for truth
values, fields left out, fields in any order, entries given twice.  What is written is read again as the value
that it was written for, so a document that was accepted need only be written once to be in its final form.
The tables of a document may have been put in another order in between, since that is what happens to them
on their way through a map.

* `Document.Same` — the same document, but for the order of its tables.
* `Decoder.Takes` — what a decoder makes of a document in any order.
* `Schema.Written` — a table with one value for each field of a record.
* `Schema.Written.exists_decode`, `Schema.Written.get_eq` — such a table is read, and each field gets its value.
* **`settings_survive_writing`** — all settings are read again as they were written.
-/

namespace InstallAudit

/-! ## Documents in another order -/

/-- **The same document**, but for the order of its tables.  Two tables are the same if they have the same
keys, each of them once, and under each key the same value. -/
inductive Document.Same : Document → Document → Prop
  | refl (d : Document) : Same d d
  | array {items items' : List Document} (same : List.Forall₂ Same items items') :
      Same (.array items) (.array items')
  | table {entries entries' : List (Text × Document)} (once : (entries.map Prod.fst).Nodup)
      (once' : (entries'.map Prod.fst).Nodup)
      (keys : ∀ key, key ∈ entries.map Prod.fst ↔ key ∈ entries'.map Prod.fst)
      (values : ∀ key d d', (key, d) ∈ entries → (key, d') ∈ entries' → Same d d') :
      Same (.table entries) (.table entries')

lemma lookup_eq_of_mem {entries : List (Text × Document)} (once : (entries.map Prod.fst).Nodup)
    {key : Text} {d : Document} (h : (key, d) ∈ entries) : entries.lookup key = some d := by
  induction entries with
  | nil => cases h
  | cons e entries ih =>
      rw [List.map_cons, List.nodup_cons] at once
      rw [List.lookup_cons]
      rcases List.mem_cons.1 h with rfl | hrest
      · rw [beq_self_eq_true]
      · have hne : key ≠ e.1 := fun heq => once.1 (List.mem_map.2 ⟨(key, d), hrest, heq⟩)
        rw [beq_eq_false_iff_ne.2 hne]
        exact ih once.2 hrest

namespace Document

/-- What is under a key of a table, in any order, is under the same key of the other one. -/
lemma exists_of_table_same {entries : List (Text × Document)} (once : (entries.map Prod.fst).Nodup)
    {d : Document} (h : (table entries).Same d) :
    ∃ entries', d = table entries' ∧ (entries'.map Prod.fst).Nodup
      ∧ (∀ e' ∈ entries', ∃ w, (e'.1, w) ∈ entries ∧ w.Same e'.2)
      ∧ ∀ e ∈ entries, ∃ w', (e.1, w') ∈ entries' ∧ e.2.Same w' := by
  cases h with
  | refl =>
      exact ⟨entries, rfl, once, fun e he => ⟨e.2, he, .refl _⟩, fun e he => ⟨e.2, he, .refl _⟩⟩
  | @table _ entries' _ once' keys values =>
      refine ⟨entries', rfl, once', fun e' he' => ?_, fun e he => ?_⟩
      · obtain ⟨⟨key, w⟩, hw, hkey⟩ := List.mem_map.1 ((keys e'.1).2 (List.mem_map_of_mem he'))
        obtain rfl : key = e'.1 := hkey
        exact ⟨w, hw, values _ w e'.2 hw he'⟩
      · obtain ⟨⟨key, w'⟩, hw', hkey⟩ := List.mem_map.1 ((keys e.1).1 (List.mem_map_of_mem he))
        obtain rfl : key = e.1 := hkey
        exact ⟨w', hw', values _ e.2 w' he hw'⟩

lemma same_of_perm {entries entries' : List (Text × Document)} (once : (entries.map Prod.fst).Nodup)
    (h : entries.Perm entries') : (table entries).Same (table entries') := by
  refine .table once ((h.map Prod.fst).nodup_iff.1 once) (fun key => (h.map Prod.fst).mem_iff) ?_
  intro key d d' hd hd'
  obtain rfl : d = d' := congrArg Prod.snd (List.inj_on_of_nodup_map once hd (h.mem_iff.2 hd') rfl)
  exact .refl d

/-- Texts are in no order but their own. -/
lemma eq_of_texts_same {ts : List Text} {d : Document} (h : (texts ts).Same d) : d = texts ts := by
  rw [texts] at h
  cases h with
  | refl => rfl
  | @array _ items' hitems =>
      refine congrArg Document.array ?_
      induction ts generalizing items' with
      | nil => exact List.forall₂_nil_left_iff.1 hitems
      | cons t ts ih =>
          obtain ⟨d, items, hd, hrest, rfl⟩ := List.forall₂_cons_left_iff.1 hitems
          cases hd
          rw [ih hrest]
          rfl

end Document

/-! ## What decoders take -/

/-- What a decoder makes of a document, in either format and with its tables in any order. -/
def Decoder.Takes {β : Type} (inner : Decoder β) (d : Document) (b : β) : Prop :=
  ∀ f d', d.Same d' → inner f d' = .ok b

/-- A decoder for optional values that are there. -/
def Decoder.given {β : Type} (inner : Decoder β) : Decoder (Option β) :=
  fun f d => (inner f d).map some

namespace Decoder

open InstallAudit.Settings

variable {β : Type} {inner : Decoder β}

lemma takes_text (t : Text) : text.Takes (.string t) t := by
  intro f d h
  cases h
  rfl

lemma takes_boolean (b : Bool) : boolean.Takes (.boolean b) b := by
  intro f d h
  cases h
  rfl

lemma takes_flag (b : Bool) : flag.Takes (.boolean b) b := by
  intro f d h
  cases h
  rfl

lemma takes_scope (s : SuffixScope) : scope.Takes (encodeScope s) s := by
  intro f d h
  cases h
  cases s <;> rfl

lemma takes_given {d : Document} {b : β} (h : inner.Takes d b) : inner.given.Takes d (some b) := by
  intro f d' hd
  rw [given, h f d' hd]
  rfl

/-- A value that is never written as null may be left open. -/
lemma takes_optional {write : β → Document} (h : ∀ b, inner.Takes (write b) b)
    (hnull : ∀ f b, inner f .null ≠ .ok b) (o : Option β) :
    (optional inner).Takes (Document.ofOption write o) o := by
  intro f d hd
  cases o with
  | none =>
      rw [Document.ofOption] at hd
      cases hd
      rfl
  | some b =>
      have hb := h b f d hd
      cases d with
      | null => exact absurd hb (hnull f b)
      | _ => simp [optional, hb]

lemma takes_texts (ts : List Text) : (list text).Takes (.texts ts) ts := by
  intro f d h
  rw [Document.eq_of_texts_same h, Document.texts, list]
  clear h
  induction ts with
  | nil => rfl
  | cons t ts ih =>
      rw [List.map_cons, List.mapM_cons, text, ok_bind, ih]
      rfl

end Decoder

/-! ## Written records -/

/-- A field takes what is written for it, whatever the record holds so far. -/
def Field.Takes {α : Type} (field : Field α) (d : Document) : Prop :=
  ∀ f d' a, d.Same d' → ∃ a', field.read f d' a = .ok a'

lemma Field.takes_of {α β : Type} {word : String} {inner : Decoder β} {set : β → α → α} {d : Document}
    {b : β} (h : inner.Takes d b) : (Field.of word inner set).Takes d := by
  intro f d' a hd
  exact ⟨set b a, map_eq_ok.2 ⟨b, h f d' hd, rfl⟩⟩

namespace Schema

variable {α β : Type} {s : Schema α}

/-- A fold comes to an end if each of its steps does. -/
lemma exists_foldlM_eq_ok {ε γ : Type} {step : α → γ → Except ε α} {l : List γ}
    (h : ∀ x ∈ l, ∀ a, ∃ a', step a x = .ok a') (start : α) : ∃ a, l.foldlM step start = .ok a := by
  induction l generalizing start with
  | nil => exact ⟨start, rfl⟩
  | cons x l ih =>
      obtain ⟨a', ha'⟩ := h x List.mem_cons_self start
      obtain ⟨a, ha⟩ := ih (fun y hy => h y (List.mem_cons_of_mem x hy)) a'
      refine ⟨a, ?_⟩
      rw [List.foldlM_cons, ha']
      exact ha

/-- A value for each field of a record, in the order of the fields. -/
structure Written (s : Schema α) (docs : List Document) : Prop where
  distinct : s.names.Nodup
  takes : List.Forall₂ Field.Takes s.fields docs

/-- The table of the values of a record. -/
def written (s : Schema α) (docs : List Document) : Document :=
  .table (s.names.zip docs)

lemma readEntry_of_mem (distinct : s.names.Nodup) {field : Field α} (hfield : field ∈ s.fields)
    (f : Format) (a : α) (d : Document) : s.readEntry f a (field.name, d) = field.read f d a := by
  rw [readEntry]
  split
  · next field' hfind =>
    have hname : field'.name = field.name := by simpa using List.find?_some hfind
    rw [List.inj_on_of_nodup_map distinct (List.mem_of_find?_eq_some hfind) hfield hname]
  · next hfind => exact absurd (decide_eq_true rfl) (List.find?_eq_none.1 hfind field hfield)

namespace Written

variable {docs : List Document} {f : Format} {start a : α} {d : Document}

lemma map_fst (h : s.Written docs) : (s.names.zip docs).map Prod.fst = s.names := by
  refine List.map_fst_zip ?_
  rw [names, List.length_map, h.takes.length_eq]

lemma nodup (h : s.Written docs) : ((s.names.zip docs).map Prod.fst).Nodup := by
  rw [h.map_fst]
  exact h.distinct

/-- Every entry of the table is taken by a field. -/
lemma exists_field (h : s.Written docs) {name : Text} {w : Document} (hmem : (name, w) ∈ s.names.zip docs) :
    ∃ field ∈ s.fields, field.name = name ∧ field.Takes w := by
  rw [names, List.zip_map_left] at hmem
  obtain ⟨⟨field, d⟩, hzip, heq⟩ := List.mem_map.1 hmem
  obtain ⟨rfl, rfl⟩ := Prod.mk.inj heq
  exact ⟨field, (List.of_mem_zip hzip).1, rfl, (List.forall₂_iff_zip.1 h.takes).2 hzip⟩

/-- **The table is read**, in any order. -/
lemma exists_decode (h : s.Written docs) (hd : (s.written docs).Same d) (f : Format) (start : α) :
    ∃ a, s.decode start f d = .ok a := by
  obtain ⟨entries, rfl, -, hentries, -⟩ := Document.exists_of_table_same h.nodup hd
  refine exists_foldlM_eq_ok (fun e he a => ?_) start
  obtain ⟨w, hw, hsame⟩ := hentries e he
  obtain ⟨field, hfield, hname, htakes⟩ := h.exists_field hw
  obtain ⟨a', ha'⟩ := htakes f e.2 a hsame
  refine ⟨a', ?_⟩
  rw [← ha', ← readEntry_of_mem h.distinct hfield, hname]

/-- **Each field gets its value.** -/
lemma get_eq (h : s.Written docs) (hd : (s.written docs).Same d) (hread : s.decode start f d = .ok a)
    {name : Text} {inner : Decoder β} {get : α → β} (hstores : s.Stores name inner get) {w : Document}
    (hmem : (name, w) ∈ s.names.zip docs) {b : β} (hw : inner.Takes w b) : get a = b := by
  have hgives := gives_of_decode hstores hread
  obtain ⟨entries, rfl, once, -, hentries⟩ := Document.exists_of_table_same h.nodup hd
  obtain ⟨w', hw', hsame⟩ := hentries _ hmem
  have hsaid : s.said? name (.table entries) = some w' := by
    refine lookup_eq_of_mem ?_ (List.mem_reverse.2 hw')
    rw [List.map_reverse, List.nodup_reverse]
    exact once
  rw [hsaid] at hgives
  exact Except.ok.inj (hgives.symm.trans (hw f w' hsame))

end Written

/-- Fields of one kind are read from a table in which each of them has its value. -/
lemma exists_decode_family {ι : Type} {inner : Decoder β} (keys : List ι) {key : ι → Text}
    (set : α → ι → β → α) {get : α → ι → β}
    (hfields : s.fields = keys.map fun k => ⟨key k, fun f d a => (inner f d).map (set a k)⟩)
    (distinct : s.names.Nodup) (hstores : ∀ k ∈ keys, s.Stores (key k) inner fun a => get a k)
    {docs : ι → Document} {values : ι → β} (htakes : ∀ k, inner.Takes (docs k) (values k)) {d : Document}
    (hd : (s.written (keys.map docs)).Same d) (f : Format) (start : α) :
    ∃ a, s.decode start f d = .ok a ∧ ∀ k ∈ keys, get a k = values k := by
  have hwritten : s.Written (keys.map docs) := by
    refine ⟨distinct, ?_⟩
    rw [hfields, List.forall₂_map_left_iff, List.forall₂_map_right_iff, List.forall₂_same]
    intro k _ f d' a hd'
    exact ⟨set a k (values k), map_eq_ok.2 ⟨values k, htakes k f d' hd', rfl⟩⟩
  have hzip : s.names.zip (keys.map docs) = keys.map fun k => (key k, docs k) := by
    rw [names, hfields, List.map_map, List.zip_map']
    rfl
  obtain ⟨a, ha⟩ := hwritten.exists_decode hd f start
  refine ⟨a, ha, fun k hk => ?_⟩
  refine hwritten.get_eq hd ha (hstores k hk) (w := docs k) ?_ (htakes k)
  rw [hzip]
  exact List.mem_map_of_mem hk

end Schema

/-! ## The records of the settings -/

namespace Settings

open Decoder
open Document (ofOption)

lemma takes_optionalText (t : Option Text) : (optional text).Takes (ofOption .string t) t :=
  takes_optional takes_text (fun f t h => by cases h) t

lemma takes_optionalFlag (b : Option Bool) : (optional flag).Takes (ofOption .boolean b) b :=
  takes_optional takes_flag (fun f b h => by cases h) b

lemma takes_optionalScope (s : Option SuffixScope) : (optional scope).Takes (ofOption encodeScope s) s :=
  takes_optional takes_scope (fun f s h => by cases f <;> cases h) s

lemma loadSchema_stores :
    loadSchema.Stores "exclude".toList (list text) (·.exclude)
      ∧ loadSchema.Stores "root_marker".toList (optional text) (·.rootMarker)
      ∧ loadSchema.Stores "install_prefix".toList (optional text) (·.installPrefix) := by
  delta loadSchema
  refine ⟨⟨by decide, ?_⟩, ⟨by decide, ?_⟩, ⟨by decide, ?_⟩⟩
  all_goals simp [stores_of_iff, Gives]

lemma normalizeSchema_stores :
    normalizeSchema.Stores "library_suffix".toList (optional text) (·.librarySuffix)
      ∧ normalizeSchema.Stores "library_suffix_scope".toList scope (·.scope) := by
  delta normalizeSchema
  refine ⟨⟨by decide, ?_⟩, ⟨by decide, ?_⟩⟩
  all_goals simp [stores_of_iff, Gives]

lemma takes_load (o : LoadOptions) : load.Takes (encodeLoad o) o := by
  have hwritten : loadSchema.Written
      [.texts o.exclude, ofOption .string o.rootMarker, ofOption .string o.installPrefix] :=
    ⟨by decide, .cons (Field.takes_of (takes_texts _)) <|
      .cons (Field.takes_of (takes_optionalText _)) <| .cons (Field.takes_of (takes_optionalText _)) .nil⟩
  intro f d hd
  obtain ⟨hexclude, hmarker, hinstall⟩ := loadSchema_stores
  obtain ⟨o', ho'⟩ := hwritten.exists_decode hd f {}
  have hexclude := hwritten.get_eq hd ho' hexclude (.head _) (takes_texts _)
  have hmarker := hwritten.get_eq hd ho' hmarker (.tail _ (.head _)) (takes_optionalText _)
  have hinstall := hwritten.get_eq hd ho' hinstall (.tail _ (.tail _ (.head _))) (takes_optionalText _)
  calc load f d
      = .ok ⟨o'.exclude, o'.rootMarker, o'.installPrefix⟩ := ho'
    _ = .ok o := by rw [hexclude, hmarker, hinstall]

lemma takes_normalize (o : NormalizeOptions) : normalize.Takes (encodeNormalize o) o := by
  have hwritten : normalizeSchema.Written [ofOption .string o.librarySuffix, encodeScope o.scope] :=
    ⟨by decide, .cons (Field.takes_of (takes_optionalText _)) <|
      .cons (Field.takes_of (takes_scope _)) .nil⟩
  intro f d hd
  obtain ⟨hsuffix, hscope⟩ := normalizeSchema_stores
  obtain ⟨o', ho'⟩ := hwritten.exists_decode hd f {}
  have hsuffix := hwritten.get_eq hd ho' hsuffix (.head _) (takes_optionalText _)
  have hscope := hwritten.get_eq hd ho' hscope (.tail _ (.head _)) (takes_scope _)
  calc normalize f d
      = .ok ⟨o'.librarySuffix, o'.scope⟩ := ho'
    _ = .ok o := by rw [hsuffix, hscope]

lemma takes_layout (dirs : Directories Path) : layout.Takes (encodeLayout dirs) dirs := by
  intro f d hd
  obtain ⟨dirs', hdirs', hget⟩ := layoutSchema.exists_decode_family Directory.all Directories.set rfl
    (by decide) (fun k _ => layoutSchema_stores k) (fun k => takes_text (dirs.get k)) hd f defaultLayout
  have heq : dirs' = dirs := Directories.ext_get fun k => hget k (by cases k <;> decide)
  rw [layout, hdirs', heq]

lemma takes_switches (s : Switches (Option Bool)) : switches.Takes (encodeSwitches s) s := by
  intro f d hd
  obtain ⟨s', hs', hget⟩ := switchesSchema.exists_decode_family
    [Switch.sharedLibs, .pkgConfig, .docs, .examples, .tools, .bindings] Switches.set rfl
    (by decide) (fun k _ => switchesSchema_stores k) (fun k => takes_optionalFlag (s.get k)) hd f openSwitches
  have heq : s' = s := Switches.ext_get fun k => hget k (by cases k <;> decide)
  rw [switches, hs', heq]

lemma takes_listings (n : NormalizeSection) : listings.Takes (encodeSection n) n := by
  have hwritten : sectionSchema.Written
      [ofOption .string n.installPrefix, ofOption .string n.rootMarker, .texts n.exclude,
        ofOption .string n.librarySuffix, ofOption encodeScope n.scope] :=
    ⟨by decide, .cons (Field.takes_of (takes_optionalText _)) <|
      .cons (Field.takes_of (takes_optionalText _)) <| .cons (Field.takes_of (takes_texts _)) <|
      .cons (Field.takes_of (takes_optionalText _)) <|
      .cons (Field.takes_of (takes_optionalScope _)) .nil⟩
  intro f d hd
  obtain ⟨hinstall, hmarker, hexclude, hsuffix, hscope⟩ := sectionSchema_stores
  obtain ⟨n', hn'⟩ := hwritten.exists_decode hd f {}
  have hinstall := hwritten.get_eq hd hn' hinstall (.head _) (takes_optionalText _)
  have hmarker := hwritten.get_eq hd hn' hmarker (.tail _ (.head _)) (takes_optionalText _)
  have hexclude := hwritten.get_eq hd hn' hexclude (.tail _ (.tail _ (.head _))) (takes_texts _)
  have hsuffix := hwritten.get_eq hd hn' hsuffix (.tail _ (.tail _ (.tail _ (.head _))))
    (takes_optionalText _)
  have hscope := hwritten.get_eq hd hn' hscope (.tail _ (.tail _ (.tail _ (.tail _ (.head _)))))
    (takes_optionalScope _)
  calc listings f d
      = .ok ⟨n'.installPrefix, n'.rootMarker, n'.exclude, n'.librarySuffix, n'.scope⟩ := hn'
    _ = .ok n := by rw [hinstall, hmarker, hexclude, hsuffix, hscope]

lemma takes_profile (p : Profile) : profile.Takes (encodeProfile p) p := by
  have hwritten : profileSchema.Written
      [encodeSwitches p.switches, encodeLayout p.layout, encodeSection p.normalize] :=
    ⟨by decide, .cons (Field.takes_of (takes_switches _)) <|
      .cons (Field.takes_of (takes_layout _)) <| .cons (Field.takes_of (takes_listings _)) .nil⟩
  intro f d hd
  obtain ⟨hoptions, hlayout, hnormalize⟩ := profileSchema_stores
  obtain ⟨p', hp'⟩ := hwritten.exists_decode hd f {}
  have hoptions := hwritten.get_eq hd hp' hoptions (.head _) (takes_switches _)
  have hlayout := hwritten.get_eq hd hp' hlayout (.tail _ (.head _)) (takes_layout _)
  have hnormalize := hwritten.get_eq hd hp' hnormalize (.tail _ (.tail _ (.head _))) (takes_listings _)
  calc profile f d
      = .ok ⟨p'.switches, p'.layout, p'.normalize⟩ := hp'
    _ = .ok p := by rw [hoptions, hlayout, hnormalize]

/-! ## The options of a build -/

lemma key_injective : Function.Injective Switch.key := by
  intro k k'
  cases k <;> cases k' <;> decide

lemma buildSchema_stores_layout :
    buildSchema.Stores "layout".toList layout.given (·.layout) := by
  delta buildSchema
  refine ⟨by decide, ?_⟩
  simp +contextual [stores_of_iff, Gives, given]

lemma buildSchema_stores_switch (k : Switch) :
    buildSchema.Stores k.key boolean.given fun draft => draft.switches.get k := by
  have hfields : buildSchema.fields
      = [Switch.sharedLibs, .pkgConfig, .docs, .examples, .tools, .bindings].map (fun k' =>
          ⟨k'.key, fun f d a => (boolean f d).map fun v =>
            { a with switches := a.switches.set k' (some v) }⟩)
        ++ [.of "layout" layout fun v d => { d with layout := some v }] := rfl
  refine ⟨by cases k <;> decide, ?_⟩
  rw [hfields, List.forall_mem_append, List.forall_mem_map, List.forall_mem_singleton]
  constructor
  · intro k' _ f d a a' hread
    obtain ⟨b, hb, rfl⟩ := map_eq_ok.1 hread
    rcases eq_or_ne k' k with rfl | hne
    · simp [Gives, given, hb, Switches.get_set]
    · simp [Gives, key_injective.ne hne, Switches.get_set_of_ne _ hne.symm]
  · refine stores_of_iff.2 fun f d a b _ => ?_
    have hne : "layout".toList ≠ k.key := by cases k <;> decide
    rw [if_neg hne]
    rfl

lemma finish_eq {draft : BuildDraft} {o : BuildOptions}
    (hswitches : ∀ k, draft.switches.get k = some (o.switches.get k)) (hlayout : draft.layout = some o.layout) :
    draft.finish = .ok o := by
  have heq : draft.switches = ⟨some o.switches.sharedLibs, some o.switches.pkgConfig, some o.switches.docs,
      some o.switches.examples, some o.switches.tools, some o.switches.bindings⟩ := by
    refine Switches.ext_get fun k => ?_
    rw [hswitches]
    cases k <;> rfl
  rw [BuildDraft.finish, heq, hlayout]
  rfl

lemma takes_build (o : BuildOptions) : build.Takes (encodeBuild o) o := by
  have hwritten : buildSchema.Written
      [.boolean o.switches.sharedLibs, .boolean o.switches.pkgConfig, .boolean o.switches.docs,
        .boolean o.switches.examples, .boolean o.switches.tools, .boolean o.switches.bindings,
        encodeLayout o.layout] :=
    ⟨by decide, .cons (Field.takes_of (takes_boolean _)) <| .cons (Field.takes_of (takes_boolean _)) <|
      .cons (Field.takes_of (takes_boolean _)) <| .cons (Field.takes_of (takes_boolean _)) <|
      .cons (Field.takes_of (takes_boolean _)) <| .cons (Field.takes_of (takes_boolean _)) <|
      .cons (Field.takes_of (takes_layout _)) .nil⟩
  intro f d hd
  obtain ⟨draft, hdraft⟩ := hwritten.exists_decode hd f {}
  have hswitches : ∀ k, draft.switches.get k = some (o.switches.get k) := by
    intro k
    refine hwritten.get_eq hd hdraft (buildSchema_stores_switch k) ?_ (takes_given (takes_boolean _))
    cases k with
    | sharedLibs => exact .head _
    | pkgConfig => exact .tail _ (.head _)
    | docs => exact .tail _ (.tail _ (.head _))
    | examples => exact .tail _ (.tail _ (.tail _ (.head _)))
    | tools => exact .tail _ (.tail _ (.tail _ (.tail _ (.head _))))
    | bindings => exact .tail _ (.tail _ (.tail _ (.tail _ (.tail _ (.head _)))))
  have hlayout : draft.layout = some o.layout :=
    hwritten.get_eq hd hdraft buildSchema_stores_layout
      (.tail _ (.tail _ (.tail _ (.tail _ (.tail _ (.tail _ (.head _))))))) (takes_given (takes_layout _))
  -- a table is not too short, whatever it holds
  obtain ⟨entries, rfl, -⟩ := Document.exists_of_table_same hwritten.nodup hd
  rw [build, hdraft, ok_bind]
  exact finish_eq hswitches hlayout

lemma takes_manifest (m : Manifest) : manifest.Takes (encodeManifest m) m := by
  intro f d hd
  have hm : Manifest.ofList m.toList = m := Manifest.ext_mem fun p => Manifest.mem_ofList
  rw [manifest, takes_texts m.toList f d hd, map_ok, hm]

end Settings

/-! ## Reading what was written -/

/-- **What is written is read again.** -/
structure Decoder.Restores {α : Type} (read : Decoder α) (write : α → Document) : Prop where
  /-- A value is read from what was written of it, in either format and with the tables in any order. -/
  written : ∀ f a d, (write a).Same d → read f d = .ok a
  /-- A document that is accepted need not be written more than once. -/
  settled : ∀ f d a, read f d = .ok a → ∀ f' d', (write a).Same d' → read f' d' = .ok a

lemma restores_of_takes {α : Type} {read : Decoder α} {write : α → Document}
    (h : ∀ a, read.Takes (write a) a) : read.Restores write :=
  ⟨fun f a d hd => h a f d hd, fun _ _ a _ f' d' hd' => h a f' d' hd'⟩

open Settings

/-- **Settings survive being written.**  Every value of the settings is read again from what is written of it,
and so is every value that was read from a document with words for truth values, with fields left out, or
with entries of a manifest in disorder. -/
theorem settings_survive_writing :
    load.Restores encodeLoad ∧ normalize.Restores encodeNormalize ∧ layout.Restores encodeLayout
      ∧ build.Restores encodeBuild ∧ profile.Restores encodeProfile ∧ manifest.Restores encodeManifest :=
  ⟨restores_of_takes takes_load, restores_of_takes takes_normalize, restores_of_takes takes_layout,
    restores_of_takes takes_build, restores_of_takes takes_profile, restores_of_takes takes_manifest⟩

/-- Options whose table was turned around, and a profile in which a word turns the documentation off. -/
theorem settings_survive_writing_turned :
    let o : NormalizeOptions := { librarySuffix := some "_d".toList, scope := .anywhere }
    let turned : Document := .record
      [("library_suffix_scope", .string "anywhere".toList), ("library_suffix", .string "_d".toList)]
    let worded : Document := .record [("options", .record [("docs", .string " off".toList)])]
    let p : Profile := { switches := { openSwitches with docs := some false } }
    ((encodeNormalize o).Same turned ∧ normalize .json turned = .ok o)
      ∧ profile .json worded = .ok p ∧ profile .json (encodeProfile p) = .ok p := by
  intro o turned worded p
  obtain ⟨-, hnormalize, -, -, hprofile, -⟩ := settings_survive_writing
  have hsame : (encodeNormalize o).Same turned :=
    Document.same_of_perm (by decide) (List.Perm.swap _ _ _)
  have hworded : profile .json worded = .ok p := by decide
  exact ⟨⟨hsame, hnormalize.written .json o turned hsame⟩, hworded,
    hprofile.settled .json worded p hworded .json _ (.refl _)⟩

end InstallAudit
