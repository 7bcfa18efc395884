import TagFilter.Sink
import TagFilter.Text.ControlFunction

namespace TagFilter.CommandLine

inductive Key
  | tags
  | logLevel
  deriving DecidableEq

/-- An option that is answered at once, whatever else the command line says. -/
inductive Inquiry
  | help
  | version
  deriving DecidableEq

inductive Choice
  | key (key : Key)
  | limits
  | inquiry (inquiry : Inquiry)
  deriving DecidableEq

namespace Choice

def usage : Choice → Text
  | .key .tags => "--tags <EXPR>".toList
  | .key .logLevel => "--log-level <LOG_LEVEL>".toList
  | .limits => "--limits".toList
  | .inquiry .help => "--help".toList
  | .inquiry .version => "--version".toList

/-- The names of options after two dashes. They cannot be shortened. -/
def names : List (Text × Choice) :=
  [("tags".toList, .key .tags), ("log-level".toList, .key .logLevel), ("limits".toList, .limits),
    ("help".toList, .inquiry .help), ("version".toList, .inquiry .version)]

def ofName? (name : RawText) : Option Choice := name.text?.bind (names.lookup ·)

end Choice

def Inquiry.ofLetter? : Option Char → Option Inquiry
  | some 'h' => some .help
  | some 'V' => some .version
  | _ => none

inductive Argument
  | separator
  | long (name : RawText) (value? : Option RawText)
  | short (first : Option Char) (others : RawText)
  | plain (value : RawText)

def Argument.ofRaw : RawText → Argument
  | [some '-', some '-'] => .separator
  | some '-' :: some '-' :: rest =>
    .long (Text.before (some '=') rest) (Text.after? (some '=') rest)
  | some '-' :: first :: others => .short first others
  | value => .plain value

def helpText : Text :=
  Text.join ['\n']
    ["Command-line front end for scenario-tags expressions".toList,
      [],
      "Usage: scenario-tags [OPTIONS] [TAG]...".toList,
      [],
      "Arguments:".toList,
      "  [TAG]...  Tags carried by the scenario".toList,
      [],
      "Options:".toList,
      "      --tags <EXPR>            ".toList
        ++ "Tag expression; repeat to AND several OR-clauses (e.g. `@a,~@b:2`)".toList,
      "      --limits                 Print declared limits after the verdict".toList,
      "      --log-level <LOG_LEVEL>  Log level (trace, debug, info, warn, error)".toList,
      "  -h, --help                   Print help".toList,
      "  -V, --version                Print version".toList,
      []]

def versionText : Text := "scenario-tags 0.1.0\n".toList

def Inquiry.answer : Inquiry → Text
  | .help => helpText
  | .version => versionText

inductive UsageError
  | unexpectedArgument (shown : Text)
  | unexpectedValue (value : Text) (option : Choice)
  | missingValue (key : Key)
  | repeated (option : Choice)
  | unknownLevel (unknown : UnknownLevel)
  | illFormed
  deriving DecidableEq

namespace UsageError

/-- The complaint in pieces. A control function that is left open in a piece ends with it. A piece
ends with the argument that is shown in it, but the word that names no level is shown once more, and
a string that it opens there takes in the ends of lines up to the advice. -/
def pieces : UsageError → List Text
  | .unexpectedArgument shown => ["unexpected argument '".toList ++ shown, "' found".toList]
  | .unexpectedValue value option =>
    ["unexpected value '".toList ++ value,
      "' for '".toList ++ option.usage ++ "' found; no more were expected".toList]
  | .missingValue key =>
    ["a value is required for '".toList ++ (Choice.key key).usage
      ++ "' but none was supplied".toList]
  | .repeated option =>
    ["the argument '".toList ++ option.usage ++ "' cannot be used multiple times".toList]
  | .unknownLevel unknown =>
    ["invalid value '".toList ++ unknown.word,
      "' for '".toList ++ (Choice.key .logLevel).usage ++ "': ".toList
        ++ (Failure.settings unknown).message ++ "\n\nFor more information, try '".toList,
      "--help'.\n".toList]
  | .illFormed => ["invalid UTF-8 was detected in one or more arguments".toList]

def headline (error : UsageError) : Text :=
  Text.firstLine ("error: ".toList ++ error.pieces.flatMap Text.visible)

end UsageError

end TagFilter.CommandLine
