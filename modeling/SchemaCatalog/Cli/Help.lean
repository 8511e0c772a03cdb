import SchemaCatalog.Cli.Command
/-!
# Help
-/

namespace SchemaCatalog.Cli

/-- The name and version of the program. -/
def versionText : String := "schemata 0.1.0"

/-- What help says about a topic. -/
def Topic.text : Topic → String
  | .program => "\n".intercalate [
      "Extract tables, columns and keys from a relational catalog",
      "",
      "Usage: schemata [OPTIONS] <COMMAND>",
      "",
      "Commands:",
      "  extract  Extract every table of the configured database",
      "  drivers  List the available catalog drivers",
      "  help     Print this message or the help of the given subcommand(s)",
      "",
      "Options:",
      "      --log-format <LOG_FORMAT>  Log format written to stderr [default: text] [possible values: text, json]",
      "  -h, --help                     Print help",
      "  -V, --version                  Print version"]
  | .extract => "\n".intercalate [
      "Extract every table of the configured database",
      "",
      "Usage: schemata extract [OPTIONS]",
      "",
      "Options:",
      "  -c, --config <CONFIG>          Path to TOML configuration file",
      "      --log-format <LOG_FORMAT>  Log format written to stderr [default: text] [possible values: text, json]",
      "  -o, --output <OUTPUT>          Write the result here instead of stdout",
      "  -f, --format <FORMAT>          Output format [default: json] [possible values: json, summary]",
      "      --schema <SCHEMAS>         Only extract these schemas (repeatable, overrides the config file)",
      "      --concurrency-column       Add the synthetic PostgreSQL xmin concurrency column",
      "      --password <PASSWORD>      Password, kept out of the config file [env: SCHEMATA_PASSWORD]",
      "  -h, --help                     Print help"]
  | .drivers => "\n".intercalate [
      "List the available catalog drivers",
      "",
      "Usage: schemata drivers [OPTIONS]",
      "",
      "Options:",
      "      --log-format <LOG_FORMAT>  Log format written to stderr [default: text] [possible values: text, json]",
      "  -h, --help                     Print help"]
  | .help => "\n".intercalate [
      "Print this message or the help of the given subcommand(s)",
      "",
      "Usage: schemata help [COMMAND]...",
      "",
      "Arguments:",
      "  [COMMAND]...  Print help for the subcommand(s)"]

end SchemaCatalog.Cli
