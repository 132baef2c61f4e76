import ViewOutline.CommandLine.Option

/-!
# Usage and help
-/

namespace ViewOutline.CommandLine

/-- The usage line. -/
def usage : String :=
  "usage: kbreakdown [-h] [-o OUTPUT] [-j JOBS] [-v] project_dir\n"

/-- The help text. -/
def helpText : String :=
  usage ++ "\n" ++
    "Break Kotlin view classes down into a JSON IR for test generation.\n\n" ++
    "positional arguments:\n" ++
    "  project_dir           Path to the project to analyze\n\n" ++
    "options:\n" ++
    "  -h, --help            show this help message and exit\n" ++
    "  -o OUTPUT, --output OUTPUT\n" ++
    "                        Output JSON file path (default: kbreakdown.json in the\n" ++
    "                        project)\n" ++
    "  -j JOBS, --jobs JOBS  Number of files to break down in parallel\n" ++
    "  -v, --verbose         Enable verbose (debug) output\n"

/-- What is printed on a usage error. -/
def UsageError.report (error : UsageError) : String :=
  usage ++ "kbreakdown: error: " ++ error.message ++ "\n"

end ViewOutline.CommandLine
