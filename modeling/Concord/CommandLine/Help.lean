import Concord.Text.Join

/-!
# Help

What the program says about itself.
-/

namespace Concord.CommandLine

/-- The variable of the process environment that selects what is logged. -/
def logVariable : String :=
  "KIP_LOG"

def versionText : String :=
  "kip 0.3.0"

def helpText : String :=
  Text.joinWith "\n"
    ["Kip Semantic Interpreter v0.3.0",
     "",
     "USAGE:",
     "    kip [OPTIONS]",
     "",
     "Reads one command per line from standard input.",
     "",
     "OPTIONS:",
     "    -h, --help         Print help information",
     "    -V, --version      Print version information",
     "        --strict       Reject unknown case and mood names instead of using defaults",
     "        --persist      Keep one environment for the whole session",
     "        --no-banner    Do not print the startup banner",
     "        --interactive  Use the line editor even when stdin is not a terminal",
     "        --pipe         Read stdin as a plain line stream",
     "",
     "ENVIRONMENT:",
     "    " ++ logVariable ++ "            Log filter for stderr output (default: warn)",
     "",
     "SYNTAX:",
     "    verb [<Mood>] \"text\" [[Case]] ...",
     "    \"text\" [[Case]]",
     "",
     "    Moods: Haber, Emir (default), Istek, Sart",
     "    Cases: Yalin (default), Belirtme, Yonelme, Bulunma, Ayrilma, Vasita",
     "",
     "EXAMPLES:",
     "    yukle \"dosya.txt\" [Belirtme]",
     "    git <Emir> \"ev\" [Yonelme]",
     "    exit"]

end Concord.CommandLine
