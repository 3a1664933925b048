import InstallAudit.CommandLine

/-!
# Texts about the program

What the program says about itself: its version, its help, the completions for a shell and the
pages of its manual.
-/

namespace InstallAudit.Guide

def programName : Text :=
  "instcheck".toList

def version : Text :=
  programName ++ " 0.1.0\n".toList

/-- The names of the commands, that for help included. -/
def commandNames : List Text :=
  CommandLine.forms.map CommandLine.Form.name ++ [CommandLine.helpWord]

/-- How the program is called. -/
def usage : Text :=
  "Usage: ".toList ++ programName ++ " [--json] [-v|--verbose] [--trace] <COMMAND>\n".toList

/-- The options of a command, one on a line. -/
def optionLines (form : CommandLine.Form) : Text :=
  form.options.flatMap fun o => "    --".toList ++ o.name ++ " <VALUE>\n".toList

def help : Text :=
  "Verify an installed file layout against a reference install manifest\n\n".toList ++ usage
    ++ "\nCommands:\n".toList
    ++ CommandLine.forms.flatMap fun form =>
      "  ".toList ++ form.name ++ ['\n'] ++ optionLines form

/-- The completions for a shell: the names of the commands. -/
def completions (shell : Shell) : Text :=
  let words := List.intercalate " ".toList commandNames
  match shell with
  | .bash => "complete -W \"".toList ++ words ++ "\" ".toList ++ programName ++ ['\n']
  | .elvish =>
    "set edit:completion:arg-completer[".toList ++ programName ++ "] = \x7b|@words| put ".toList
      ++ words ++ " \x7d\n".toList
  | .fish => "complete -c ".toList ++ programName ++ " -f -a \"".toList ++ words ++ "\"\n".toList
  | .powershell =>
    "Register-ArgumentCompleter -Native -CommandName ".toList ++ programName
      ++ " -ScriptBlock \x7b \"".toList ++ words ++ "\" -split \" \" \x7d\n".toList
  | .zsh => "#compdef ".toList ++ programName ++ "\ncompadd ".toList ++ words ++ ['\n']

/-- The pages of the manual: the name of the file and its text.  There is one page for the program
and one for each command. -/
def pages : List (Path × Text) :=
  let page (stem summary : Text) : Path × Text :=
    (stem ++ ".1".toList,
     ".TH ".toList ++ stem ++ " 1\n.SH NAME\n".toList ++ stem ++ "\n.SH SYNOPSIS\n".toList
      ++ summary)
  page programName usage
    :: CommandLine.forms.map fun form =>
      page (programName ++ ['-'] ++ form.name)
        (programName ++ [' '] ++ form.name ++ ['\n'] ++ optionLines form)

end InstallAudit.Guide
