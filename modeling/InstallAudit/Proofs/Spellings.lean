import InstallAudit.Proofs.Precedence
import InstallAudit.Proofs.WrittenForms

/-!
# Words on a command line and in a profile

Switches and the scope of the library suffix can be given as words in two places, as the value of an option
and under a key of a profile, and each place has a reader of its own.  For the switches the two readers know
the same words, in any case and with blanks around them.  For the scope they do not: a profile has it in its
written form, while the command line takes short words, too, and minds neither blanks nor case.

* `CommandLine.valued`, `CommandLine.checking`, `CommandLine.normalizing` — command lines with an option.
* `CommandLine.asked` — the configuration that a command line asks for.
* `Profile.saying` — a profile that says one thing.
* `CommandLine.Form.Reads`, `CommandLine.Form.Makes` — what becomes of an option and of operands.
* `CommandLine.asked_valued_iff` — what a command line with an option asks for.
* `asked_switch_iff`, `asked_scope_iff` — what a command line makes of a word.
* `Settings.profile_switch_iff`, `Settings.profile_scope_iff` — what a profile makes of it.
* **`spellings_agree`** — where the two places agree.
* `short_scope_refused` — a word that only the command line knows.
-/

namespace InstallAudit

open InstallAudit.CommandLine InstallAudit.Settings

/-! ## Two places for a word -/

/-- The name of the option for a switch: its key with `-` in place of `_`. -/
def Switch.option (k : Switch) : Text :=
  k.key.map fun c => if c = '_' then '-' else c

/-- The short word for a scope. -/
def SuffixScope.shortWord : SuffixScope → Text
  | libraryDir => "lib".toList
  | anywhere => "any".toList

/-- The document of a profile that says a word under a key of a section and nothing else. -/
def Profile.saying (part key word : Text) : Document :=
  .table [(part, .table [(key, .string word)])]

/-- The configuration of a profile, as a command has it. -/
def Profile.resolved (p : Profile) : Except Failure Config :=
  p.config.mapError fun e => .run (.config e)

/-- The configuration that a command works with.  The commands that need none have the default. -/
def Command.resolved (read : FileReader) : Command → Except Failure Config
  | check _ _ flags build => flags.resolve (some build) read
  | normalize _ flags => flags.resolve none read
  | _ => .ok {}

namespace CommandLine

/-- The two ways to give an option its value: behind `=`, or as the next argument. -/
def valued (name value : Text) : List (List Text) :=
  [['-' :: '-' :: (name ++ '=' :: value)], ['-' :: '-' :: name, value]]

/-- The arguments of a check with the given options. -/
def checking (given : List Text) (generated reference : Path) : List Text :=
  "check".toList :: (given ++ ["--".toList, generated, reference])

/-- The arguments that have a listing normalized with the given options. -/
def normalizing (given : List Text) (listing : Path) : List Text :=
  "normalize".toList :: (given ++ ["--".toList, listing])

/-- The configuration that a command line asks for. -/
def asked (read : FileReader) (args : List Text) : Except Stop (Except Failure Config) :=
  (parse args).map fun c => c.2.resolved read

end CommandLine

/-! ## Words and blanks -/

lemma Text.head?_trim {c : Char} (hc : isBlank c = false) {t : Text} (h : t.head? = some c) :
    t.trim.head? = some c := by
  obtain ⟨t, rfl⟩ : ∃ rest, t = c :: rest := ⟨t.tail, (List.cons_head?_tail h).symm⟩
  have hdrop : (c :: t).dropWhile isBlank = c :: t := List.dropWhile_cons_of_neg (by simp [hc])
  have hend := trimEnd_append_cons hc [] t
  rw [List.nil_append, List.nil_append] at hend
  rw [trim, trimBoth, hdrop, hend]
  rfl

/-- No word for a switch starts like an option. -/
lemma head?_ne_of_flag? {v : Text} {b : Bool} (h : flag? v = some b) : v.head? ≠ some '-' := by
  intro hv
  have hword : v.trim.foldUpper.head? = some '-' := by
    rw [Text.foldUpper, List.head?_map, Text.head?_trim (by decide) hv]
    rfl
  have hwords : ∀ w ∈ wordsOn ++ wordsOff, w.head? ≠ some '-' := by decide
  rw [flag?] at h
  split at h
  · next hmem => exact hwords _ (List.mem_append_left _ hmem) hword
  · split at h
    · next hmem => exact hwords _ (List.mem_append_right _ hmem) hword
    · cases h

lemma scopeOf?_eq_some_iff {v : Text} {s : SuffixScope} :
    scopeOf? v = some s ↔ v.trim.foldLower = scopeWord s ∨ v.trim.foldLower = s.shortWord := by
  rw [scopeOf?]
  generalize v.trim.foldLower = word
  constructor
  · intro h
    split at h
    · next hlib =>
      cases h
      exact hlib
    · split at h
      · next hany =>
        cases h
        exact hany
      · cases h
  · intro h
    cases s with
    | libraryDir => exact if_pos h
    | anywhere =>
        have hnot : ¬(word = "library-dir".toList ∨ word = "lib".toList) := by
          rcases h with rfl | rfl <;> decide
        exact (if_neg hnot).trans (if_pos h)

/-- The same goes for the words for scopes. -/
lemma head?_ne_of_scopeOf? {v : Text} {s : SuffixScope} (h : scopeOf? v = some s) : v.head? ≠ some '-' := by
  intro hv
  have hword : v.trim.foldLower.head? = some '-' := by
    rw [Text.foldLower, List.head?_map, Text.head?_trim (by decide) hv]
    rfl
  rcases scopeOf?_eq_some_iff.1 h with heq | heq
  all_goals
    rw [heq] at hword
    cases s <;> cases hword

lemma scopeNamed_eq_ok_iff {name : Text} {s : SuffixScope} :
    scopeNamed name = .ok s ↔ name = scopeWord s := by
  constructor
  · intro h
    rw [scopeNamed] at h
    split at h
    · next s' hlookup =>
      obtain rfl : s' = s := Except.ok.inj h
      obtain ⟨before, after, hscopes, -⟩ := List.lookup_eq_some_iff.1 hlookup
      have hmem : (name, s') ∈ scopes := hscopes ▸ List.mem_append_cons_self
      obtain ⟨s'', -, heq⟩ := List.mem_map.1 hmem
      obtain ⟨rfl, rfl⟩ := Prod.mk.inj heq
      rfl
    · cases h
  · rintro rfl
    cases s <;> rfl

/-- The command line knows the words of profiles. -/
lemma scopeOf?_scopeWord (s : SuffixScope) : scopeOf? (scopeWord s) = some s := by
  cases s <;> decide

/-! ## An option with its value -/

namespace CommandLine

lemma token_of_head? {value : Text} (h : value.head? ≠ some '-') : Token.of value = .operand := by
  rw [Token.of.eq_def]
  split
  · exact absurd rfl h
  · exact absurd rfl h
  · exact absurd rfl h
  · rfl

section

variable {name value : Text}

/-- Behind a name without `=`, the first `=` is the one in front of the value. -/
lemma token_of_attached (free : '=' ∉ name) :
    Token.of ('-' :: '-' :: (name ++ '=' :: value)) = .long name (some value) := by
  have hname : ∀ c ∈ name, (c != '=') = true := fun c hc => bne_iff_ne.2 fun heq => free (heq ▸ hc)
  have hspan : (name ++ '=' :: value).span (· != '=') = (name, '=' :: value) := by
    rw [List.span_eq_takeWhile_dropWhile, List.takeWhile_append_of_pos hname,
      List.dropWhile_append_of_pos hname, List.takeWhile_cons_of_neg (by simp),
      List.dropWhile_cons_of_neg (by simp), List.append_nil]
  rw [Token.of, hspan]
  · simp only
  · simp

lemma token_of_name (free : '=' ∉ name) (hsome : name ≠ []) :
    Token.of ('-' :: '-' :: name) = .long name none := by
  have hname : ∀ c ∈ name, (c != '=') = true := fun c hc => bne_iff_ne.2 fun heq => free (heq ▸ hc)
  have hspan : name.span (· != '=') = (name, []) := by
    rw [List.span_eq_takeWhile_dropWhile, List.takeWhile_eq_self_iff.2 hname,
      List.dropWhile_eq_nil_iff.2 hname]
  rw [Token.of, hspan]
  exact hsome

end

/-- An option that may come first: its value is read as `word?`, and the draft is `stored` if that is something.
No value that is accepted looks like an option. -/
structure Form.Reads {β : Type} (form : Form) (name value : Text) (word? : Option β) (stored : β → Draft) :
    Prop where
  free : '=' ∉ name
  ne_nil : name ≠ []
  notFlag : Flag.ofName? false name = none
  store : form.store {} name value = word?.elim (.error .usage) fun b => .ok (stored b)
  operands : ∀ b, (stored b).operands = []
  looks : ∀ b, word? = some b → value.head? ≠ some '-'

/-- The operands are in place, and what the options say decides which command comes out. -/
structure Form.Makes (form : Form) (operands : List Text) (command : ProfileFlags → BuildFlags → Command) :
    Prop where
  mem : form ∈ forms
  length : operands.length ≤ form.operands
  accepts : ∀ t ∈ operands, form.accepts t = true
  finish : ∀ d : Draft, d.operands = operands → form.finish d = some (command d.profile d.build)

section

variable {form : Form} {name value : Text} {β : Type} {word? : Option β} {stored : β → Draft}
  {given operands : List Text} {command : ProfileFlags → BuildFlags → Command}

/-- **An option with its value**, in either way: the value is stored if it is accepted. -/
lemma read_valued_iff (h : form.Reads name value word? stored) (hgiven : given ∈ valued name value)
    {rest : List Text} {d : Draft} :
    form.read false {} (given ++ rest) = .ok d
      ↔ ∃ b, word? = some b ∧ form.read false (stored b) rest = .ok d := by
  have hstored : (form.store {} name value >>= fun d => form.read false d rest) = .ok d
      ↔ ∃ b, word? = some b ∧ form.read false (stored b) rest = .ok d := by
    rw [h.store]
    cases word? <;> simp
  rw [valued, List.mem_cons, List.mem_singleton] at hgiven
  rcases hgiven with rfl | rfl
  · rw [List.singleton_append, Form.read, token_of_attached h.free]
    simp only [h.notFlag]
    exact hstored
  · rw [List.cons_append, List.singleton_append, Form.read, token_of_name h.free h.ne_nil]
    simp only [h.notFlag]
    split
    · exact hstored
    · next hlooks =>
      -- a value that looks like an option is not taken, but it would not be accepted either
      constructor
      · intro hread
        cases hread
      · rintro ⟨b, hb, -⟩
        exact absurd (token_of_head? (h.looks b hb)) hlooks

/-- Behind `--` come operands. -/
lemma read_operands {d : Draft} (hlength : d.operands.length + operands.length ≤ form.operands)
    (haccepts : ∀ t ∈ operands, form.accepts t = true) :
    form.read true d operands = .ok { d with operands := d.operands ++ operands } := by
  induction operands generalizing d with
  | nil =>
      rw [Form.read, List.append_nil]
  | cons t operands ih =>
      rw [List.length_cons] at hlength
      have hroom : d.operands.length < form.operands := by omega
      rw [Form.read, Form.operand, if_pos ⟨hroom, haccepts t List.mem_cons_self⟩, ok_bind, ih]
      · simp
      · simp only [List.length_append, List.length_singleton]
        omega
      · exact fun u hu => haccepts u (List.mem_cons_of_mem t hu)

/-- The command of a command line that starts with its name. -/
lemma parse_cons_iff (hform : form ∈ forms) {args : List Text} {c : Globals × Command} :
    parse (form.name :: args) = .ok c ↔ ∃ d, form.read false {} args = .ok d
      ∧ form.finish d = some c.2 ∧ c.1 = ({} : Globals).both d.globals := by
  have hname : readFront {} (form.name :: args) = .ok ({}, form.name, args) ∧ form.name ≠ helpWord
      ∧ (forms.find? fun f => f.name = form.name) = some form := by
    simp only [forms, List.mem_cons, List.not_mem_nil, or_false] at hform
    rcases hform with rfl | rfl | rfl | rfl <;> exact ⟨rfl, by decide, rfl⟩
  obtain ⟨hfront, hhelp, hfind⟩ := hname
  rw [parse, hfront, ok_bind]
  simp only [if_neg hhelp, hfind, bind_eq_ok]
  refine exists_congr fun d => and_congr_right fun _ => ?_
  obtain ⟨globals, command⟩ := c
  cases form.finish d with
  | none => simp
  | some command' => simp [Prod.ext_iff, and_comm, eq_comm]

/-- **A command line with an option** is understood if the value of the option is. -/
lemma parse_valued_iff (h : form.Makes operands command) (hreads : form.Reads name value word? stored)
    (hgiven : given ∈ valued name value) {c : Globals × Command} :
    parse (form.name :: (given ++ "--".toList :: operands)) = .ok c
      ↔ ∃ b, word? = some b ∧ c = (({} : Globals).both (stored b).globals,
        command (stored b).profile (stored b).build) := by
  have hrest : ∀ b, form.read false (stored b) ("--".toList :: operands)
      = .ok { stored b with operands := operands } := by
    intro b
    have hread : form.read true (stored b) operands
        = .ok { stored b with operands := (stored b).operands ++ operands } := by
      refine read_operands ?_ h.accepts
      rw [hreads.operands, List.length_nil, Nat.zero_add]
      exact h.length
    rw [hreads.operands, List.nil_append] at hread
    exact hread
  rw [parse_cons_iff h.mem]
  simp only [read_valued_iff hreads hgiven]
  constructor
  · rintro ⟨d, ⟨b, hb, hd⟩, hfinish, hglobals⟩
    rw [hrest] at hd
    obtain rfl := Except.ok.inj hd
    rw [h.finish _ rfl] at hfinish
    exact ⟨b, hb, Prod.ext hglobals (Option.some.inj hfinish).symm⟩
  · rintro ⟨b, hb, rfl⟩
    exact ⟨_, ⟨b, hb, hrest b⟩, h.finish _ rfl, rfl⟩

/-- **What a command line with an option asks for.** -/
lemma asked_valued_iff (h : form.Makes operands command) (hreads : form.Reads name value word? stored)
    (hgiven : given ∈ valued name value) {read : FileReader} {r : Except Failure Config} :
    asked read (form.name :: (given ++ "--".toList :: operands)) = .ok r
      ↔ ∃ b, word? = some b ∧ r = (command (stored b).profile (stored b).build).resolved read := by
  rw [asked, map_eq_ok]
  simp only [parse_valued_iff h hreads hgiven]
  constructor
  · rintro ⟨_, ⟨b, hb, rfl⟩, rfl⟩
    exact ⟨b, hb, rfl⟩
  · rintro ⟨b, hb, rfl⟩
    exact ⟨_, ⟨b, hb, rfl⟩, rfl⟩

end

/-! ## Checks and normalizations -/

section

variable {generated reference listing : Path}

lemma exists_form_check (hgenerated : generated ≠ []) (hreference : reference ≠ []) :
    ∃ form : Form, form.name = "check".toList ∧ form.options = profileOptions ++ buildOptions
      ∧ form.Makes [generated, reference] (.check generated reference) := by
  refine ⟨_, rfl, rfl, List.mem_cons_self, le_rfl, ?_, ?_⟩
  · simp [hgenerated, hreference]
  · intro d hd
    simp [hd]

lemma exists_form_normalize (hlisting : listing ≠ []) :
    ∃ form : Form, form.name = "normalize".toList ∧ form.options = profileOptions ++ []
      ∧ form.Makes [listing] fun flags _ => .normalize listing flags := by
  refine ⟨_, rfl, (List.append_nil _).symm, List.mem_cons_of_mem _ List.mem_cons_self, le_rfl, ?_, ?_⟩
  · simp [hlisting]
  · intro d hd
    simp [hd]

end

section

variable {form : Form} {v : Text}

lemma store_of_find {o : ValueOption} {name : Text} {β : Type} {word? : Option β} {stored : β → Draft}
    (hfind : (form.options.find? fun o => o.name = name) = some o)
    (hstore : o.store v {} = word?.map stored) :
    form.store {} name v = word?.elim (.error .usage) fun b => .ok (stored b) := by
  rw [Form.store, hfind]
  simp only [hstore]
  cases word? <;> rfl

lemma reads_switch (hoptions : form.options = profileOptions ++ buildOptions) (k : Switch) :
    form.Reads k.option v (flag? v) fun b => { build := { switches := openSwitches.set k (some b) } } := by
  obtain ⟨o, hfind, hstore⟩ : ∃ o, (form.options.find? fun o => o.name = k.option) = some o
      ∧ o.store v {} = (flag? v).map fun b => { build := { switches := openSwitches.set k (some b) } } := by
    rw [hoptions]
    cases k <;> exact ⟨_, rfl, rfl⟩
  constructor
  case store => exact store_of_find hfind hstore
  case operands => exact fun _ => rfl
  case looks => exact fun _ => head?_ne_of_flag?
  all_goals cases k <;> decide

lemma reads_scope {more : List ValueOption} (hoptions : form.options = profileOptions ++ more) :
    form.Reads "lib-suffix-scope".toList v (scopeOf? v) fun s => { profile := { scope := some s } } := by
  obtain ⟨o, hfind, hstore⟩ :
      ∃ o, (form.options.find? fun o => o.name = "lib-suffix-scope".toList) = some o
        ∧ o.store v {} = (scopeOf? v).map fun s => { profile := { scope := some s } } := by
    rw [hoptions]
    exact ⟨_, rfl, rfl⟩
  constructor
  case store => exact store_of_find hfind hstore
  case operands => exact fun _ => rfl
  case looks => exact fun _ => head?_ne_of_scopeOf?
  all_goals decide

end

end CommandLine

/-! ## A profile that says one word -/

lemma Schema.decode_single {α : Type} (s : Schema α) (name : Text) {field : Field α}
    (hfind : (s.fields.find? fun field => field.name = name) = some field) (f : Format) (start : α)
    (d : Document) : s.decode start f (.table [(name, d)]) = field.read f d start := by
  rw [decode, readEntries, List.foldlM_cons, readEntry, hfind]
  exact bind_pure _

namespace Settings

/-- **What a profile makes of a word for a switch.** -/
lemma profile_switch_iff {f : Format} {k : Switch} {v : Text} {p : Profile} :
    profile f (Profile.saying "options".toList k.key v) = .ok p
      ↔ ∃ b, flag? v = some b ∧ p = { switches := openSwitches.set k (some b) } := by
  have hoptions : profile f (Profile.saying "options".toList k.key v)
      = (switches f (.table [(k.key, .string v)])).map fun s => { switches := s } :=
    (profileSchema.decode_single "options".toList rfl f {} _).trans rfl
  have hkey : switches f (.table [(k.key, .string v)])
      = ((flag f (.string v)).map some).map (openSwitches.set k) := by
    cases k <;> exact (switchesSchema.decode_single _ rfl f openSwitches _).trans rfl
  rw [hoptions, hkey, flag]
  cases flag? v <;> simp [eq_comm]

/-- **What a profile makes of a word for a scope.**  It has to be the written form. -/
lemma profile_scope_iff {f : Format} {v : Text} {p : Profile} :
    profile f (Profile.saying "normalize".toList "library_suffix_scope".toList v) = .ok p
      ↔ ∃ s, v = scopeWord s ∧ p = { normalize := { scope := some s } } := by
  have hnormalize : profile f (Profile.saying "normalize".toList "library_suffix_scope".toList v)
      = (listings f (.table [("library_suffix_scope".toList, .string v)])).map fun n => { normalize := n } :=
    (profileSchema.decode_single "normalize".toList rfl f {} _).trans rfl
  have hkey : listings f (.table [("library_suffix_scope".toList, .string v)])
      = ((scope f (.string v)).map some).map fun s => { scope := s } :=
    (sectionSchema.decode_single "library_suffix_scope".toList rfl f {} _).trans rfl
  rw [hnormalize, hkey, scope]
  simp only [map_eq_ok, scopeNamed_eq_ok_iff]
  constructor
  · rintro ⟨_, ⟨_, ⟨s, hs, rfl⟩, rfl⟩, rfl⟩
    exact ⟨s, hs, rfl⟩
  · rintro ⟨s, hs, rfl⟩
    exact ⟨_, ⟨_, ⟨s, hs, rfl⟩, rfl⟩, rfl⟩

end Settings

/-! ## Where the places agree -/

section

variable {generated reference listing : Path} {v : Text} {given : List Text} {read : FileReader}
  {r : Except Failure Config}

lemma resolved_switch (k : Switch) (b : Bool) :
    Profile.resolved { switches := openSwitches.set k (some b) }
      = .ok { build := { switches := defaultSwitches.set k b } } := by
  cases k <;> cases b <;> decide

lemma resolved_scope (s : SuffixScope) :
    Profile.resolved { normalize := { scope := some s } } = .ok { normalize := { scope := s } } := by
  cases s <;> decide

/-- **What a check makes of a word for a switch.** -/
lemma asked_switch_iff (hgenerated : generated ≠ []) (hreference : reference ≠ []) {k : Switch}
    (hgiven : given ∈ valued k.option v) :
    asked read (checking given generated reference) = .ok r
      ↔ ∃ b, flag? v = some b ∧ r = .ok { build := { switches := defaultSwitches.set k b } } := by
  obtain ⟨form, hname, hoptions, hmakes⟩ := exists_form_check hgenerated hreference
  have hresolved : ∀ b, ProfileFlags.resolve {} (some { switches := openSwitches.set k (some b) }) read
      = .ok { build := { switches := defaultSwitches.set k b } } := by
    intro b
    rw [← resolved_switch, resolve_of_profile (p := {}) read rfl]
    cases k <;> rfl
  rw [checking, ← hname, asked_valued_iff hmakes (reads_switch hoptions k) hgiven]
  simp only [Command.resolved, hresolved]

/-- **What a command makes of a word for a scope.** -/
lemma asked_scope_iff (hgenerated : generated ≠ []) (hreference : reference ≠ [])
    (hlisting : listing ≠ []) (hgiven : given ∈ valued "lib-suffix-scope".toList v) {line : List Text}
    (hline : line ∈ [checking given generated reference, normalizing given listing]) :
    asked read line = .ok r
      ↔ ∃ s, scopeOf? v = some s ∧ r = .ok { normalize := { scope := s } } := by
  -- a check has options about the build, too, but nothing is said in them
  have hresolved : ∀ s build, build = none ∨ build = some {} →
      ProfileFlags.resolve { scope := some s } build read
        = .ok { normalize := { scope := s } } := by
    intro s build hbuild
    rw [← resolved_scope, resolve_of_profile (p := {}) read rfl]
    rcases hbuild with rfl | rfl <;> rfl
  rw [List.mem_cons, List.mem_singleton] at hline
  rcases hline with rfl | rfl
  · obtain ⟨form, hname, hoptions, hmakes⟩ := exists_form_check hgenerated hreference
    rw [checking, ← hname, asked_valued_iff hmakes (reads_scope hoptions) hgiven]
    simp only [Command.resolved, hresolved _ _ (.inr rfl)]
  · obtain ⟨form, hname, hoptions, hmakes⟩ := exists_form_normalize hlisting
    rw [normalizing, ← hname, asked_valued_iff hmakes (reads_scope hoptions) hgiven]
    simp only [Command.resolved, hresolved _ _ (.inl rfl)]

end

/-- **Words on a command line and in a profile.**  A word for a switch is accepted as the value of its option
exactly when it is accepted under its key of a profile, and both come to the same configuration.  A profile
has a scope in its written form only; the command line then takes it, too, with the same result.  Besides,
it takes the written forms and the short words in any case, with blanks around them. -/
theorem spellings_agree (read : FileReader) (f : Format) (v : Text) {generated reference listing : Path}
    (hgenerated : generated ≠ []) (hreference : reference ≠ []) (hlisting : listing ≠ []) :
    (∀ k : Switch, ∀ given ∈ valued k.option v, ∀ r,
      (asked read (checking given generated reference) = .ok r
        ↔ ∃ p, profile f (Profile.saying "options".toList k.key v) = .ok p ∧ r = p.resolved)
        ∧ (asked read (checking given generated reference) = .ok r
          ↔ ∃ b, flag? v = some b ∧ r = .ok { build := { switches := defaultSwitches.set k b } }))
      ∧ (∀ given ∈ valued "lib-suffix-scope".toList v,
        ∀ line ∈ [checking given generated reference, normalizing given listing],
          (∀ p, profile f (Profile.saying "normalize".toList "library_suffix_scope".toList v) = .ok p →
            asked read line = .ok p.resolved)
          ∧ ∀ r, asked read line = .ok r
            ↔ ∃ s, (v.trim.foldLower = scopeWord s ∨ v.trim.foldLower = s.shortWord)
              ∧ r = .ok { normalize := { scope := s } })
      ∧ ∀ p, profile f (Profile.saying "normalize".toList "library_suffix_scope".toList v) = .ok p
        ↔ ∃ s, v = scopeWord s ∧ p = { normalize := { scope := some s } } := by
  refine ⟨fun k given hgiven r => ?_, fun given hgiven line hline => ⟨fun p hp => ?_, fun r => ?_⟩,
    fun p => profile_scope_iff⟩
  · rw [asked_switch_iff hgenerated hreference hgiven, and_iff_left Iff.rfl]
    simp only [profile_switch_iff]
    constructor
    · rintro ⟨b, hb, rfl⟩
      exact ⟨_, ⟨b, hb, rfl⟩, (resolved_switch k b).symm⟩
    · rintro ⟨_, ⟨b, hb, rfl⟩, rfl⟩
      exact ⟨b, hb, resolved_switch k b⟩
  · obtain ⟨s, rfl, rfl⟩ := profile_scope_iff.1 hp
    exact (asked_scope_iff hgenerated hreference hlisting hgiven hline).2
      ⟨s, scopeOf?_scopeWord s, resolved_scope s⟩
  · rw [asked_scope_iff hgenerated hreference hlisting hgiven hline]
    simp only [scopeOf?_eq_some_iff]

/-- A word in lower case between blanks turns the documentation off, whether it stands in a file or is an argument
of its own, and the written form of a scope can be attached to its option. -/
theorem spellings_agree_spaced :
    let read : FileReader := fun _ => .error .missing
    let word := " off\t".toList
    let file := "[options]\ndocs = \" off\\t\"\n".toList
    let c : Config := { build := { switches := { defaultSwitches with docs := false } } }
    let c' : Config := { normalize := { scope := .anywhere } }
    (∃ p, profileOf file = .ok p ∧ p.resolved = .ok c)
      ∧ asked read (checking ["--docs".toList, word] "a".toList "b".toList) = .ok (.ok c)
      ∧ asked read (normalizing ["--lib-suffix-scope=anywhere".toList] "a".toList) = .ok (.ok c') := by
  intro read word file c c'
  have hne : ∀ a : Char, [a] ≠ [] := fun a => List.cons_ne_nil a []
  obtain ⟨hdocs, -, -⟩ := spellings_agree read .toml word (hne 'a') (hne 'b') (hne 'a')
  obtain ⟨-, hscope, -⟩ := spellings_agree read .toml "anywhere".toList (hne 'a') (hne 'b') (hne 'a')
  have hfile : profileOf file = .ok { switches := { openSwitches with docs := some false } } := by
    decide +kernel
  obtain ⟨-, hcheck⟩ := hdocs .docs ["--docs".toList, word] (.tail _ (.head _)) (.ok c)
  obtain ⟨-, hnormalize⟩ := hscope ["--lib-suffix-scope=anywhere".toList] (.head _) _ (.tail _ (.head _))
  exact ⟨⟨_, hfile, resolved_switch .docs false⟩, hcheck.2 ⟨false, by decide, rfl⟩,
    (hnormalize (.ok c')).2 ⟨.anywhere, .inl (by decide), rfl⟩⟩

/-- The short word for the directory of libraries is good for the command line, but not for a profile. -/
theorem short_scope_refused :
    let read : FileReader := fun _ => .error .missing
    let file := "[normalize]\nlibrary_suffix_scope = \"lib\"\n".toList
    let key := "library_suffix_scope".toList
    asked read (normalizing ["--lib-suffix-scope=lib".toList] "a".toList) = .ok (.ok {})
      ∧ profileOf file
        = .error (.malformed (.unknownVariant "lib".toList ["library-dir".toList, "anywhere".toList]))
      ∧ ∀ f p, profile f (Profile.saying "normalize".toList key "lib".toList) ≠ .ok p := by
  refine ⟨by decide +kernel, by decide +kernel, fun f p hp => ?_⟩
  obtain ⟨s, hs, -⟩ := profile_scope_iff.1 hp
  cases s <;> revert hs <;> decide

end InstallAudit
