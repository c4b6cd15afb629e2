import BrainLink.CommandLine

/-
  What the command tells its user: the usage, what is wrong
  with the arguments, or the session that they ask for.

  Key definitions include:
    * `usage`
    * `UsageError.message`
    * `Report`
    * `Report.ofArguments`
-/

namespace BrainLink

/- How the command is used. -/
def usage : String :=
  String.intercalate "\n"
    [ "Usage: brainlink --brain-id <ID> --host <HOST> [OPTIONS]",
      "",
      "  --brain-id <ID>                  name of the brain",
      "  --host <HOST>                    its address or host name",
      "  --brain-port <PORT>              its port [3000]",
      "  --check-status-interval <SECS>   between checks, 0 for none"
        ++ " [10]",
      "  --callback-address <ADDRESS>     where it can call back",
      "  --callback-ports <FIRST-LAST>    ports for that [8400-8500]",
      "  --system-info                    ask for its versions first",
      "  --help, --version" ]

/- The wording of each fault of the arguments. -/
def UsageError.message : UsageError → String
| .missingOption => "a required option is missing"
| .missingValue => "an option has no value"
| .badValue => "an option has a value that cannot be read"
| .unknownArgument => "an argument is unknown"
| .repeatedArgument => "an option is given twice"
| .unexpectedValue => "a flag has a value"
| .helpAsked => usage
| .versionAsked => "brainlink 0.2.1"

/- A text for the user, and whether all is well. -/
structure Report where
  isFine : Bool
  text : String
deriving DecidableEq, Repr

namespace Report

/- What a session is going to use. -/
def ofConfig (config : Config) : Report :=
  match config.validate with
  | .error cause => ⟨false, cause.message⟩
  | .ok _ =>
      ⟨true,
        String.intercalate "\n"
          [ "brain: " ++ config.brainUrl,
            "callback path: " ++ config.callbackPath,
            "registered as: " ++ config.registrationName ]⟩

/-
  The report on some arguments; the first port of the range
  is the one to be called back on.
-/
def ofArguments (arguments : List String) : Report :=
  match CommandLine.parse arguments with
  | .error .helpAsked => ⟨true, UsageError.message .helpAsked⟩
  | .error .versionAsked =>
      ⟨true, UsageError.message .versionAsked⟩
  | .error error => ⟨false, error.message ++ "\n\n" ++ usage⟩
  | .ok line =>
      match line.validate with
      | .error message => ⟨false, message⟩
      | .ok _ =>
          ofConfig (line.config line.callbackPorts.first "local")

end Report

end BrainLink
