import InstallAudit.Profile

/-!
# Settings in the log

The log shows the settings of a run, each record on one line with the names of its fields.
-/

namespace InstallAudit.Settings

/-- A record on one line. -/
def showRecord (name : String) (fields : List (String × Text)) : Text :=
  name.toList ++ " \x7b ".toList
    ++ List.intercalate ", ".toList (fields.map fun f => f.1.toList ++ ": ".toList ++ f.2)
    ++ " \x7d".toList

def showTexts (ts : List Text) : Text :=
  '[' :: List.intercalate ", ".toList (ts.map Text.quoted) ++ [']']

def showOption : Option Text → Text
  | none => "None".toList
  | some t => "Some(".toList ++ t.quoted ++ [')']

def showScope : SuffixScope → Text
  | .libraryDir => "LibraryDir".toList
  | .anywhere => "Anywhere".toList

def showLoad (o : LoadOptions) : Text :=
  showRecord "LoadOptions"
    [("exclude", showTexts o.exclude),
     ("root_marker", showOption o.rootMarker),
     ("install_prefix", showOption o.installPrefix)]

def showNormalize (o : NormalizeOptions) : Text :=
  showRecord "NormalizeOptions"
    [("library_suffix", showOption o.librarySuffix),
     ("library_suffix_scope", showScope o.scope)]

def showLayout (d : Directories Path) : Text :=
  showRecord "InstallLayout"
    [("examples_dir", Text.quoted d.examples),
     ("tools_dir", Text.quoted d.tools),
     ("docs_dir", Text.quoted d.docs),
     ("binding_dir", Text.quoted d.binding)]

def showBuild (o : BuildOptions) : Text :=
  showRecord "BuildOptions"
    [("shared_libs", Document.ofBool o.switches.sharedLibs),
     ("pkg_config", Document.ofBool o.switches.pkgConfig),
     ("docs", Document.ofBool o.switches.docs),
     ("examples", Document.ofBool o.switches.examples),
     ("tools", Document.ofBool o.switches.tools),
     ("bindings", Document.ofBool o.switches.bindings),
     ("layout", showLayout o.layout)]

end InstallAudit.Settings
