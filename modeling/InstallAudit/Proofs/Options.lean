import InstallAudit.Proofs.Checking

/-!
# An option in front

The options that every command has may stand on either side of its name, and none of them may be given
twice.  A command line that does not ask for JSON can therefore be turned into one that does, and it
still names the same command.

* `raise_json`, `raiseAll_json`, `readFront_json` — what is read with the option given already.
* `parse_json_cons` — a command line with `--json` in front.
-/

namespace InstallAudit

namespace CommandLine

/-- Raising a flag on top of `--json`. -/
lemma raise_json {flag : Flag} {g h : Globals} (hr : flag.raise g = .ok h) (hj : h.json = false) :
    g.json = false ∧ flag.raise { g with json := true } = .ok { h with json := true } := by
  obtain ⟨json, verbose, trace⟩ := g
  cases flag <;> cases json <;> cases verbose <;> cases trace <;> cases hr <;>
    first | exact ⟨rfl, rfl⟩ | cases hj

lemma raiseAll_json {inFront : Bool} {g h : Globals} {letters : Text}
    (hr : raiseAll inFront g letters = .ok h) (hj : h.json = false) :
    g.json = false
      ∧ raiseAll inFront { g with json := true } letters = .ok { h with json := true } := by
  induction letters generalizing g with
  | nil =>
      cases hr
      exact ⟨hj, rfl⟩
  | cons c letters ih =>
      rw [raiseAll, List.foldlM_cons] at hr ⊢
      obtain ⟨g', hg', hrest⟩ := bind_eq_ok.1 hr
      obtain ⟨hj', hrest'⟩ := ih hrest
      cases hflag : Flag.ofLetter? inFront c with
      | none =>
          rw [hflag] at hg'
          cases hg'
      | some flag =>
          rw [hflag] at hg'
          obtain ⟨hj, hraise⟩ := raise_json hg' hj'
          exact ⟨hj, bind_eq_ok.2 ⟨_, hraise, hrest'⟩⟩

lemma readFront_json {g h : Globals} {args rest : List Text} {name : Text}
    (hr : readFront g args = .ok (h, name, rest)) (hj : h.json = false) :
    g.json = false
      ∧ readFront { g with json := true } args = .ok ({ h with json := true }, name, rest) := by
  induction args generalizing g with
  | nil => cases hr
  | cons a args ih =>
      rw [readFront] at hr ⊢
      cases htoken : Token.of a with
      | escape => simp [htoken] at hr
      | operand =>
          simp only [htoken, Except.ok.injEq, Prod.mk.injEq] at hr ⊢
          obtain ⟨rfl, rfl, rfl⟩ := hr
          exact ⟨hj, rfl, rfl, rfl⟩
      | short letters =>
          simp only [htoken] at hr ⊢
          obtain ⟨g', hg', hrest⟩ := bind_eq_ok.1 hr
          obtain ⟨hj', hrest'⟩ := ih hrest
          obtain ⟨hj, hraise⟩ := raiseAll_json hg' hj'
          exact ⟨hj, bind_eq_ok.2 ⟨_, hraise, hrest'⟩⟩
      | long name attached =>
          simp only [htoken] at hr ⊢
          cases hflag : Flag.ofName? true name with
          | none => simp [hflag] at hr
          | some flag =>
              cases attached with
              | some value => simp [hflag] at hr
              | none =>
                  simp only [hflag] at hr ⊢
                  obtain ⟨g', hg', hrest⟩ := bind_eq_ok.1 hr
                  obtain ⟨hj', hrest'⟩ := ih hrest
                  obtain ⟨hj, hraise⟩ := raise_json hg' hj'
                  exact ⟨hj, bind_eq_ok.2 ⟨_, hraise, hrest'⟩⟩

/-- **A command line with `--json` in front.** -/
lemma parse_json_cons {args : List Text} {g : Globals} {command : Command}
    (h : parse args = .ok (g, command)) (hj : g.json = false) :
    parse ("--json".toList :: args) = .ok ({ g with json := true }, command) := by
  rw [parse] at h ⊢
  obtain ⟨⟨front, name, rest⟩, hfront, hcommand⟩ := bind_eq_ok.1 h
  dsimp only at hcommand
  split at hcommand
  · cases hcommand
  · next hhelp =>
    cases hform : forms.find? fun f => f.name = name with
    | none =>
        rw [hform] at hcommand
        cases hcommand
    | some form =>
        rw [hform] at hcommand
        obtain ⟨d, hd, hfinish⟩ := bind_eq_ok.1 hcommand
        cases hfinal : form.finish d with
        | none => simp [hfinal] at hfinish
        | some command' =>
            simp only [hfinal, Except.ok.injEq, Prod.mk.injEq] at hfinish
            obtain ⟨rfl, rfl⟩ := hfinish
            -- the option was not given behind the name either, but only the front is read anew
            have hj : front.json = false := (Bool.or_eq_false_iff.1 hj).1
            have hfront' : readFront { json := true } args
                = .ok ({ front with json := true }, name, rest) := (readFront_json hfront hj).2
            have hstart : readFront {} ("--json".toList :: args)
                = readFront { json := true } args := rfl
            rw [hstart, hfront']
            refine bind_eq_ok.2 ⟨_, rfl, ?_⟩
            dsimp only
            rw [if_neg hhelp, hform]
            refine bind_eq_ok.2 ⟨d, hd, ?_⟩
            rw [hfinal]
            rfl

end CommandLine

end InstallAudit
