import CaSettings.Cli.Program

/-!
# Help pages

A page of help for each level of the command line.
-/

namespace CaSettings.Cli

/-- How a level is called. -/
def Page.usage : Page → String
  | .program => "[OPTIONS] COMMAND [ARGS]..."
  | .config => "config [OPTIONS] COMMAND [ARGS]..."
  | .configShow => "config show [OPTIONS]"
  | .configGet => "config get [OPTIONS] NAME"

/-- What a level is for. -/
def Page.purpose : Page → String
  | .program =>
    "Puppet Server CA settings CLI.\n\n" ++
      "Reads puppet.conf, applies built-in defaults and reports the settings\n" ++
      "the CA uses to locate its key material."
  | .config => "Inspect resolved puppet.conf settings."
  | .configShow => "Display the effective settings after defaults and interpolation."
  | .configGet => "Print a single resolved setting."

/-- What stands behind a level's name: its options and commands, each with its purpose. -/
def Page.parts : Page → List (String × String)
  | .program =>
    [("--version, -V", "Show the version and exit."),
      ("--config PATH", "Override the path to puppet.conf."),
      ("--help", "Show this message and exit."),
      ("config", "Inspect resolved puppet.conf settings.")]
  | .config =>
    [("--help", "Show this message and exit."),
      ("show", "Display the effective settings after defaults and interpolation."),
      ("get", "Print a single resolved setting.")]
  | .configShow =>
    [("--json", "Emit settings as JSON instead of a table."),
      ("--strict", "Exit non-zero when any setting could not be resolved."),
      ("--help", "Show this message and exit.")]
  | .configGet =>
    [("NAME", "Setting name, e.g. cadir."), ("--help", "Show this message and exit.")]

/-- A page of help. -/
def Page.text (page : Page) : String :=
  let line := fun (part : String × String) =>
    "  " ++ String.ofList (Text.padTo 15 part.1.toList) ++ part.2 ++ "\n"
  s!"Usage: {programName} {page.usage}\n\n{page.purpose}\n\n" ++ String.join (page.parts.map line)

end CaSettings.Cli
