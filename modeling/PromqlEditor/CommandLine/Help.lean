/-!
# Help

What the program says about itself.
-/

namespace PromqlEditor.CommandLine

/-- The name and the version of the program. -/
def versionText : String := "promql-lang 0.1.0\n"

/-- What can be asked of the program. -/
def helpText : String :=
  "Usage: promql-lang [OPTIONS] <COMMAND>\n\n" ++
  "Commands:\n" ++
  "  classify <NODE_TYPE>...  Print the highlighting category of each node type\n" ++
  "  groups                   Print the declared node groups\n" ++
  "  legend                   Print the legend (index, category, token type)\n" ++
  "  complete <QUERY>         Print the suggestions for a query\n" ++
  "      --offset <OFFSET>    Byte offset of the cursor (the end of the query if not given)\n" ++
  "  -c, --config <FILE>      JSON file with options\n" ++
  "  help                     Print this help\n\n" ++
  "Options:\n" ++
  "      --no-color           Write log lines without colours\n" ++
  "      --log-level <LEVEL>  Which log lines are written\n" ++
  "      --log-file           Write a session log too\n" ++
  "  -h, --help               Print this help\n" ++
  "  -V, --version            Print the version\n"

end PromqlEditor.CommandLine
