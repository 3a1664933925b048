import InstallAudit.Proofs.Layouts
import InstallAudit.Proofs.Switching

/-!
# Records in documents

A record is read from a document that may leave fields out, and that may give them without their names.  A
field gets what is said of it last, and a field of which nothing is said keeps its default.  A profile is a
record of records, so what holds of records says what a profile takes from its file.

* `Schema.said?` — what a document says of a field.
* `Decoder.Gives` — what a field gets.
* `Schema.Stores` — a field of records.
* `gives_of_decode` — fields get what is said of them.
* `Profile.ReadsFrom`, **`readsFrom_of_decode`** — what a profile takes from its document.
-/

namespace InstallAudit

/-! ## What is said of a field -/

/-- What a decoder makes of what is said, and the default if nothing is said. -/
def Decoder.Gives {β : Type} (inner : Decoder β) (f : Format) (default : β) (said : Option Document)
    (b : β) : Prop :=
  match said with
  | some d => inner f d = .ok b
  | none => b = default

/-- A field stores what it reads if it has the given name, and else leaves the value as it is. -/
def Field.Stores {α β : Type} (field : Field α) (name : Text) (inner : Decoder β) (get : α → β) : Prop :=
  ∀ f d a a', field.read f d a = .ok a' →
    inner.Gives f (get a) (if field.name = name then some d else none) (get a')

namespace Schema

variable {α β : Type}

/-- What a document says, each time of which field.  An array does not give the names. -/
def sayings (s : Schema α) : Document → List (Text × Document)
  | .table entries => entries
  | .array items => s.names.zip items
  | .tables items => s.names.zip items
  | .datetime t => [(momentKey, .string t)]
  | _ => []

/-- What a document says last of a field. -/
def said? (s : Schema α) (name : Text) (d : Document) : Option Document :=
  (s.sayings d).reverse.lookup name

/-- The records have a field of the given name, and no other field touches its value. -/
structure Stores (s : Schema α) (name : Text) (inner : Decoder β) (get : α → β) : Prop where
  mem : name ∈ s.names
  field : ∀ field ∈ s.fields, field.Stores name inner get

section

variable {s : Schema α} {name : Text} {inner : Decoder β} {get : α → β} {f : Format} {start a : α}

/-- Along a list, what is said last is what counts. -/
lemma gives_of_foldlM {γ : Type} {step : α → γ → Except DecodeError α} {saying : γ → Text × Document}
    {l : List γ} (hstep : ∀ x ∈ l, ∀ a a', step a x = .ok a' →
      inner.Gives f (get a) (if (saying x).1 = name then some (saying x).2 else none) (get a'))
    (h : l.foldlM step start = .ok a) :
    inner.Gives f (get start) ((l.map saying).reverse.lookup name) (get a) := by
  induction l using List.reverseRecOn generalizing a with
  | nil =>
      obtain rfl : start = a := Except.ok.inj h
      rfl
  | append_singleton l x ih =>
      rw [List.foldlM_append, bind_eq_ok] at h
      obtain ⟨b, hb, hlast⟩ := h
      rw [List.foldlM_cons, bind_eq_ok] at hlast
      obtain ⟨a', hlast, hend⟩ := hlast
      obtain rfl : a' = a := Except.ok.inj hend
      have hx := hstep x (by simp) b a' hlast
      have hl := ih (fun y hy => hstep y (by simp [hy])) hb
      rw [List.map_append, List.map_singleton, List.reverse_concat, List.lookup_cons]
      by_cases hname : (saying x).1 = name
      · rw [if_pos hname] at hx
        rw [hname, beq_self_eq_true]
        exact hx
      · rw [if_neg hname] at hx
        have hkept : get a' = get b := hx
        rw [hkept, beq_eq_false_iff_ne.2 (Ne.symm hname)]
        exact hl

lemma gives_of_readEntries (h : s.Stores name inner get) {entries : List (Text × Document)}
    (hread : s.readEntries f entries start = .ok a) :
    inner.Gives f (get start) (entries.reverse.lookup name) (get a) := by
  rw [← List.map_id entries]
  refine gives_of_foldlM (fun entry _ a a' hentry => ?_) hread
  rw [readEntry] at hentry
  split at hentry
  · next field hfind =>
    obtain hname := List.find?_some hfind
    have hstored := h.field field (List.mem_of_find?_eq_some hfind) f entry.2 a a' hentry
    rw [of_decide_eq_true hname] at hstored
    exact hstored
  · next hfind =>
    -- a field of the given name would have been found
    have hne : entry.1 ≠ name := by
      rintro rfl
      obtain ⟨field, hfield, hname⟩ := List.mem_map.1 h.mem
      exact List.find?_eq_none.1 hfind field hfield (decide_eq_true hname)
    split at hentry
    · cases hentry
    · obtain rfl : a = a' := Except.ok.inj hentry
      rw [id, if_neg hne]
      rfl

lemma gives_of_readItems (h : s.Stores name inner get) {items : List Document}
    (hread : s.readItems f items start = .ok a) :
    inner.Gives f (get start) ((s.names.zip items).reverse.lookup name) (get a) := by
  rw [readItems, bind_eq_ok] at hread
  obtain ⟨b, hb, hend⟩ := hread
  split at hend
  · cases hend
  · obtain rfl : b = a := Except.ok.inj hend
    have hzip : s.names.zip items = (s.fields.zip items).map fun x => (x.1.name, x.2) := by
      rw [names, List.zip_map_left]
      rfl
    rw [hzip]
    refine gives_of_foldlM (fun x hx a a' hread => ?_) hb
    exact h.field x.1 (List.of_mem_zip hx).1 f x.2 a a' hread

/-- **A field gets** what is said of it last, and keeps its value if nothing is said of it. -/
lemma gives_of_decode (h : s.Stores name inner get) {d : Document}
    (hread : s.decode start f d = .ok a) :
    inner.Gives f (get start) (s.said? name d) (get a) := by
  cases d with
  | table entries => exact gives_of_readEntries h hread
  | array items => exact gives_of_readItems h hread
  | tables items => exact gives_of_readItems h hread
  | datetime t => exact gives_of_readEntries h hread
  | null => cases hread
  | boolean b => cases hread
  | integer n => cases hread
  | float x => cases hread
  | string t => cases hread

/-- A record inside of a record keeps its own defaults. -/
lemma gives_bind (h : s.Stores name inner get) {said : Option Document}
    (hread : Decoder.Gives (s.decode start) f start said a) :
    inner.Gives f (get start) (said.bind (s.said? name)) (get a) := by
  cases said with
  | none => exact congrArg get hread
  | some d => exact gives_of_decode h hread

end

end Schema

/-! ## Fields by their setters -/

section

variable {α β γ : Type}

lemma stores_of_iff {word : String} {inner : Decoder β} {set : β → α → α} {name : Text}
    {inner' : Decoder γ} {get : α → γ} :
    (Field.of word inner set).Stores name inner' get ↔ ∀ f d a b, inner f d = .ok b →
      inner'.Gives f (get a) (if word.toList = name then some d else none) (get (set b a)) := by
  constructor
  · intro h f d a b hb
    exact h f d a (set b a) (map_eq_ok.2 ⟨b, hb, rfl⟩)
  · intro h f d a a' hread
    obtain ⟨b, hb, rfl⟩ := map_eq_ok.1 hread
    exact h f d a b hb

/-- Fields of one kind with different names do not touch each other. -/
lemma stores_of_family {ι : Type} [DecidableEq ι] {s : Schema α} {inner : Decoder β} (keys : List ι)
    {key : ι → Text} (set : α → ι → β → α) {get : α → ι → β}
    (hfields : s.fields = keys.map fun k => ⟨key k, fun f d a => (inner f d).map (set a k)⟩)
    (hkey : Function.Injective key)
    (hget : ∀ a k k' b, get (set a k b) k' = if k' = k then b else get a k') {k : ι} (hk : k ∈ keys) :
    s.Stores (key k) inner fun a => get a k := by
  constructor
  case mem =>
    rw [Schema.names, hfields, List.map_map]
    exact List.mem_map_of_mem hk
  case field =>
    rw [hfields, List.forall_mem_map]
    intro k' _ f d a a' hread
    obtain ⟨b, hb, rfl⟩ := map_eq_ok.1 hread
    rcases eq_or_ne k' k with rfl | hne
    · simp only [hget, if_true]
      exact hb
    · simp only [hget, if_neg hne.symm, hkey.ne hne, if_false]
      rfl

end

/-! ## The fields of a profile -/

def Switch.key : Switch → Text
  | pkgConfig => "pkg_config".toList
  | docs => "docs".toList
  | examples => "examples".toList
  | tools => "tools".toList
  | sharedLibs => "shared_libs".toList
  | bindings => "bindings".toList

def Directories.set {α : Type} (d : Directories α) (k : Directory) (a : α) : Directories α :=
  match k with
  | .examples => { d with examples := a }
  | .tools => { d with tools := a }
  | .docs => { d with docs := a }
  | .binding => { d with binding := a }

lemma Directories.get_set {α : Type} (d : Directories α) (k k' : Directory) (a : α) :
    (d.set k a).get k' = if k' = k then a else d.get k' := by
  cases k <;> cases k' <;> rfl

namespace Settings

lemma layoutSchema_stores (k : Directory) :
    layoutSchema.Stores k.key .text fun layout => layout.get k :=
  stores_of_family Directory.all Directories.set rfl
    (by intro k k'; cases k <;> cases k' <;> decide) Directories.get_set (by cases k <;> decide)

lemma switchesSchema_stores (k : Switch) :
    switchesSchema.Stores k.key (.optional flag) fun switches => switches.get k :=
  stores_of_family [.sharedLibs, .pkgConfig, .docs, .examples, .tools, .bindings] Switches.set rfl
    (by intro k k'; cases k <;> cases k' <;> decide) Switches.get_set (by cases k <;> decide)

lemma sectionSchema_stores :
    sectionSchema.Stores "install_prefix".toList (.optional .text) (·.installPrefix)
      ∧ sectionSchema.Stores "root_marker".toList (.optional .text) (·.rootMarker)
      ∧ sectionSchema.Stores "exclude".toList (.list .text) (·.exclude)
      ∧ sectionSchema.Stores "library_suffix".toList (.optional .text) (·.librarySuffix)
      ∧ sectionSchema.Stores "library_suffix_scope".toList (.optional scope) (·.scope) := by
  delta sectionSchema
  refine ⟨⟨by decide, ?_⟩, ⟨by decide, ?_⟩, ⟨by decide, ?_⟩, ⟨by decide, ?_⟩, ⟨by decide, ?_⟩⟩
  all_goals simp [stores_of_iff, Decoder.Gives]

lemma profileSchema_stores :
    profileSchema.Stores "options".toList switches (·.switches)
      ∧ profileSchema.Stores "layout".toList layout (·.layout)
      ∧ profileSchema.Stores "normalize".toList listings (·.normalize) := by
  delta profileSchema
  refine ⟨⟨by decide, ?_⟩, ⟨by decide, ?_⟩, ⟨by decide, ?_⟩⟩
  all_goals simp [stores_of_iff, Decoder.Gives]

/-- What the document of a profile says in its layout of a directory. -/
def saidOfDirectory? (d : Document) (k : Directory) : Option Document :=
  (profileSchema.said? "layout".toList d).bind (layoutSchema.said? k.key)

def saidOfSwitch? (d : Document) (k : Switch) : Option Document :=
  (profileSchema.said? "options".toList d).bind (switchesSchema.said? k.key)

def saidOfListings? (d : Document) (name : Text) : Option Document :=
  (profileSchema.said? "normalize".toList d).bind (sectionSchema.said? name)

end Settings

open Settings

/-- **What a profile takes from its document.** -/
structure Profile.ReadsFrom (p : Profile) (f : Format) (d : Document) : Prop where
  switch : ∀ k, (Decoder.optional flag).Gives f none (saidOfSwitch? d k) (p.switches.get k)
  directory : ∀ k, Decoder.text.Gives f (defaultLayout.get k) (saidOfDirectory? d k) (p.layout.get k)
  installPrefix : (Decoder.optional .text).Gives f none (saidOfListings? d "install_prefix".toList)
    p.normalize.installPrefix
  rootMarker : (Decoder.optional .text).Gives f none (saidOfListings? d "root_marker".toList)
    p.normalize.rootMarker
  exclude : (Decoder.list .text).Gives f [] (saidOfListings? d "exclude".toList) p.normalize.exclude
  librarySuffix : (Decoder.optional .text).Gives f none (saidOfListings? d "library_suffix".toList)
    p.normalize.librarySuffix
  scope : (Decoder.optional Settings.scope).Gives f none
    (saidOfListings? d "library_suffix_scope".toList) p.normalize.scope

lemma readsFrom_of_decode {f : Format} {d : Document} {p : Profile} (h : Settings.profile f d = .ok p) :
    p.ReadsFrom f d := by
  obtain ⟨hoptions, hlayout, hnormalize⟩ := profileSchema_stores
  obtain ⟨hinstall, hmarker, hexclude, hsuffix, hscope⟩ := sectionSchema_stores
  have hlistings := Schema.gives_of_decode hnormalize h
  constructor
  case switch =>
    intro k
    have hk := Schema.gives_bind (switchesSchema_stores k) (Schema.gives_of_decode hoptions h)
    cases k <;> exact hk
  case directory =>
    exact fun k => Schema.gives_bind (layoutSchema_stores k) (Schema.gives_of_decode hlayout h)
  case installPrefix => exact Schema.gives_bind hinstall hlistings
  case rootMarker => exact Schema.gives_bind hmarker hlistings
  case exclude => exact Schema.gives_bind hexclude hlistings
  case librarySuffix => exact Schema.gives_bind hsuffix hlistings
  case scope => exact Schema.gives_bind hscope hlistings

end InstallAudit
