import InstallAudit.Report
import InstallAudit.Settings.Decoding

/-!
# Sessions

A session holds a configuration and named manifests, and works on them step by step.

* `Step` — what can be done.
* `Session.step` — the session after a step, and the answer to it.
* `Session.run` — the answers to a list of steps.
-/

namespace InstallAudit

/-- A configuration and named manifests.  A name that was never used stands for the manifest
without entries. -/
structure Session where
  config : Config := {}
  slots : List (Text × Manifest) := []

/-- What can be done in a session. -/
inductive Step where
  /-- Take the configuration from a text. -/
  | configure (text : Text)
  | load (slot : Text) (listing : Text)
  | renormalize (slot : Text)
  /-- Keep the entries of `a` that are not in `b`. -/
  | difference (slot a b : Text)
  /-- Keep the entries of `a` and of `b`. -/
  | join (slot a b : Text)
  /-- Write a manifest and read it again. -/
  | reload (slot source : Text)
  | reconcile (generated reference : Text)

/-- The answer to a step. -/
inductive Answer where
  | configured (c : Config)
  /-- The configuration was refused and the old one stays. -/
  | refused (e : ConfigError)
  | stored (m : Manifest)
  | report (r : Report)

namespace Session

def get (s : Session) (slot : Text) : Manifest :=
  (s.slots.lookup slot).getD .empty

/-- The session with a manifest stored under a name, and the answer that says so. -/
def store (s : Session) (slot : Text) (m : Manifest) : Session × Answer :=
  ({ s with slots := (slot, m) :: s.slots }, .stored m)

/-- The session after a step, and the answer to the step. -/
def step (s : Session) : Step → Session × Answer
  | .configure text =>
    match (Settings.profileOf text).bind Profile.config with
    | .ok c => ({ s with config := c }, .configured c)
    | .error e => (s, .refused e)
  | .load slot listing => s.store slot (s.config.manifest listing)
  | .renormalize slot => s.store slot (s.config.normalize.normalizer.apply (s.get slot))
  | .difference slot a b => s.store slot ((s.get a).difference (s.get b))
  | .join slot a b => s.store slot ((s.get a).union (s.get b))
  | .reload slot source => s.store slot (s.config.manifest (s.get source).text)
  | .reconcile generated reference =>
    (s, .report (InstallAudit.reconcile (s.get generated) (s.get reference) s.config.build))

def run (s : Session) : List Step → List Answer
  | [] => []
  | step :: steps =>
    let (s, answer) := s.step step
    answer :: s.run steps

end Session

end InstallAudit
