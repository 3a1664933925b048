import InstallAudit.Manifest

/-!
# Normalization

Manifests of different platforms name the same file differently: the library directory is `lib` or
`lib64`, a shared library ends in `.so`, `.dylib` or `.dll`, and a configuration may add a suffix
of its own to the names of libraries.  A normalizer is a list of rules that removes such
differences from a path.

* `Rule.apply` — what one rule does to a path under normalization.
* `Normalizer.pass` — all rules once, in order.
* `Normalizer.normalize` — passes until nothing changes, at most `passLimit` of them.
* `NormalizeOptions.normalizer` — the rules that a configuration selects.
-/

namespace InstallAudit

/-! ## Rules -/

/-- Where the suffix of a configuration is removed from the name of a library. -/
inductive SuffixScope where
  /-- Below a directory `lib` only. -/
  | libraryDir
  /-- In every path. -/
  | anywhere
  deriving DecidableEq, Inhabited

/-- One step of normalization. -/
inductive Rule where
  /-- Every segment that equals `old` becomes `new`. -/
  | rename (old new : Text)
  /-- The first of the suffixes that the path ends with is detached. -/
  | detach (suffixes : List Text)
  /-- The suffix is removed from a path that a suffix was detached from. -/
  | strip (suffix : Text) (scope : SuffixScope)
  deriving DecidableEq

/-- A path in the middle of a pass. -/
structure Working where
  body : Path
  /-- A suffix was detached in this pass. -/
  detached : Bool
  deriving DecidableEq

/-- Whether a path lies in a scope. -/
def SuffixScope.covers : SuffixScope → Path → Bool
  | .libraryDir, p => p.dirs.contains "lib".toList
  | .anywhere, _ => true

/-- The path with `new` for every segment that equals `old`. -/
def Path.renamed (p : Path) (old new : Text) : Path :=
  ofSegments (p.segments.map fun s => if s = old then new else s)

/-- The path without the first of the suffixes that it ends with. -/
def Path.detached? (p : Path) (suffixes : List Text) : Option Path :=
  suffixes.findSome? p.withoutSuffix?

def Rule.apply (w : Working) : Rule → Working
  | .rename old new => { w with body := w.body.renamed old new }
  | .detach suffixes =>
    match w.body.detached? suffixes with
    | some rest => ⟨rest, true⟩
    | none => w
  | .strip suffix scope =>
    if w.detached && !suffix.isEmpty && scope.covers w.body then
      { w with body := (w.body.withoutSuffix? suffix).getD w.body }
    else w

/-! ## Passes -/

/-- Repeat a step until it changes nothing, at most so many times. -/
def settle (step : Path → Path) : Nat → Path → Path
  | 0, p => p
  | n + 1, p => if step p = p then p else settle step n (step p)

/-- An ordered list of rules. -/
structure Normalizer where
  rules : List Rule
  deriving DecidableEq

namespace Normalizer

/-- The largest number of passes.  It bounds the work on rules that never come to rest. -/
def passLimit : Nat := 16

/-- All rules once, in order; no suffix counts as detached at the start. -/
def pass (n : Normalizer) (p : Path) : Path :=
  (n.rules.foldl Rule.apply ⟨p, false⟩).body

def normalize (n : Normalizer) (p : Path) : Path :=
  settle n.pass passLimit p

/-- The manifest of the normal forms of the paths of a list. -/
def manifestOf (n : Normalizer) (paths : List Path) : Manifest :=
  .ofList (paths.map n.normalize)

/-- The manifest of the normal forms of the entries of a manifest. -/
def apply (n : Normalizer) (m : Manifest) : Manifest :=
  n.manifestOf m.toList

/-- The entries of a normalized manifest are the normal forms. -/
theorem mem_apply {n : Normalizer} {m : Manifest} {x : Path} :
    x ∈ n.apply m ↔ ∃ p ∈ m, n.normalize p = x := by
  simp [apply, manifestOf]

end Normalizer

/-! ## The rules that a configuration selects -/

/-- How the paths of a manifest are normalized. -/
structure NormalizeOptions where
  /-- The text that the configuration adds to the names of libraries. -/
  librarySuffix : Option Text := none
  scope : SuffixScope := .libraryDir
  deriving DecidableEq, Inhabited

def sharedSuffixes : List Text :=
  [".so".toList, ".dylib".toList, ".dll".toList]

/-- The rules that every configuration has. -/
def commonRules : List Rule :=
  [.rename "lib64".toList "lib".toList, .detach sharedSuffixes]

/-- The normalizer of a configuration: the common rules, and the removal of the suffix of the
configuration if it has one. -/
def NormalizeOptions.normalizer (o : NormalizeOptions) : Normalizer :=
  match o.librarySuffix with
  | none => ⟨commonRules⟩
  | some [] => ⟨commonRules⟩
  | some suffix => ⟨commonRules ++ [.strip suffix o.scope]⟩

end InstallAudit
