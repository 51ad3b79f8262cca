import MarkupLint.Command.Request

/-!
The texts about the command line itself.
-/
namespace MarkupLint.Command

namespace Topic

def title : Topic → String
  | program => "tsxlint"
  | check => "tsxlint check"
  | showConfig => "tsxlint show-config"

def usageLines : Topic → List String
  | program => ["usage: tsxlint [-h] [--version] <command> ..."]
  | check =>
      ["usage: tsxlint check [-h] [--no-fail] [--json] [--repo-root REPO_ROOT] [-v]",
       "                     [paths ...]"]
  | showConfig => ["usage: tsxlint show-config [-h] [--json] [--repo-root REPO_ROOT] [key]"]

def helpLine : String :=
  "  -h, --help            show this help message and exit"

def rootLines : List String :=
  ["  --repo-root REPO_ROOT",
   "                        Project root holding .tsxlint/config (default: current",
   "                        directory)"]

/-- What follows the usage on the page of help. -/
def detailLines : Topic → List String
  | program =>
      ["",
       "Check user-visible text in JSX/TSX sources for spelling and style problems.",
       "",
       "options:",
       helpLine,
       "  --version             show program's version number and exit",
       "",
       "commands:",
       "  <command>",
       "    check               Check user-visible text in JSX/TSX files",
       "    show-config (show_config)",
       "                        Show the merged configuration"]
  | check =>
      ["",
       "positional arguments:",
       "  paths                 Files or directories to check (default: current",
       "                        directory)",
       "",
       "options:",
       helpLine,
       "  --no-fail             Exit 0 even when problems are found",
       "  --json                Output as JSON"] ++ rootLines ++
      ["  -v, --verbose         Log progress to stderr (-vv for debug)"]
  | showConfig =>
      ["",
       "positional arguments:",
       "  key                   Dot-notation key to show (e.g. attributes.target)",
       "",
       "options:",
       helpLine,
       "  --json                Output as JSON"] ++ rootLines

def linesText (lines : List String) : String :=
  String.join (lines.map (· ++ "\n"))

def usage (topic : Topic) : String :=
  linesText topic.usageLines

def help (topic : Topic) : String :=
  linesText (topic.usageLines ++ topic.detailLines)

end Topic

def versionText : String := "tsxlint 0.1.0\n"

def misuseText (topic : Topic) (e : UsageError) : String :=
  topic.usage ++ topic.title ++ ": error: " ++ e.message ++ "\n"

end MarkupLint.Command
