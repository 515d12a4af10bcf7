/-!
# Commands and their help

The commands of the program, in the order of their names, and what is printed to explain them.
-/

namespace OpcachePreload

/-- The commands. -/
inductive Command where
  | build
  | check
  | info
  | preload
  deriving DecidableEq, Repr

namespace Command

/-- All commands, in the order of their names. -/
def all : List Command := [.build, .check, .info, .preload]

/-- The name of a command. -/
def name : Command → String
  | build => "build"
  | check => "check"
  | info => "info"
  | preload => "preload"

/-- The command with a name. -/
def ofName? (name : String) : Option Command := all.find? (·.name = name)

/-- What a command does, in one line. -/
def description : Command → String
  | build => "Scan sources and write the preload manifest"
  | check => "Check that the runtime's cache supports preloading"
  | info => "Show manifest contents and stale classes"
  | preload => "Replay the manifest (writes the opcache preload script for PHP)"

/-- Lines, each with its end. -/
def lines (texts : List String) : String := String.join (texts.map (· ++ "\n"))

/-- The explanation of a command. -/
def help : Command → String
  | build => lines [
    "Scan sources and write the preload manifest.",
    "",
    "Applies the exclusions, preload patterns and source scans configured in",
    "preload.yaml, keeps only classes known to the class map, and writes the",
    "manifest. Every run rebuilds the whole manifest.",
    "",
    "Usage:",
    "    preloader build [options]",
    "",
    "Options:",
    "    -c, --config-path PATH   Configuration file (default: ./preload.yaml)",
    "    -o, --output PATH        Manifest path (default: `manifest` from config)",
    "    --dry-run                Print the manifest instead of writing it",
    "",
    "Examples:",
    "    preloader build",
    "    preloader build -o build/preload.json",
    "    preloader build --dry-run"]
  | check => lines [
    "Check that the runtime's cache supports preloading.",
    "",
    "For the php runtime: opcache is enabled, opcache_compile_file exists and,",
    "for the CLI SAPI, opcache.enable_cli is set.",
    "",
    "Usage:",
    "    preloader check [options]",
    "",
    "Options:",
    "    -c, --config-path PATH   Configuration file (default: ./preload.yaml)",
    "    --runtime NAME           php or python (default: `loader.runtime`)"]
  | info => lines [
    "Show information about a preload manifest.",
    "",
    "Displays:",
    "  - Number of classes, files and compile targets",
    "  - Classes no longer present in the class map (stale manifest)",
    "",
    "Usage:",
    "    preloader info [manifest] [options]",
    "",
    "Arguments:",
    "    [manifest]               Manifest path (default: `manifest` from config)",
    "",
    "Options:",
    "    -c, --config-path PATH   Configuration file (default: ./preload.yaml)",
    "    --list                   List every class, file and compile target"]
  | preload => lines [
    "Replay the preload manifest.",
    "",
    "Resolves every manifest class through the current class map, then loads the",
    "classes and files and compiles the compile targets. A class missing from the",
    "class map means the manifest is stale: nothing is loaded and the command fails.",
    "",
    "With the php runtime the result is a preload script for `opcache.preload`.",
    "With the python runtime the files are imported and byte-compiled in-process.",
    "",
    "Usage:",
    "    preloader preload [options]",
    "",
    "Options:",
    "    -c, --config-path PATH   Configuration file (default: ./preload.yaml)",
    "    -o, --output PATH        Preload script path (php runtime only)",
    "    --runtime NAME           php or python (default: `loader.runtime`)",
    "    --include-only           Do not compile the compile targets",
    "    --skip-check             Skip the environment check"]

/-- A text with blanks after it, `width` characters wide at least. -/
def padRight (width : Nat) (text : String) : String :=
  text ++ String.ofList (List.replicate (width - text.length) ' ')

/-- The line of a command in the list of commands. -/
def listed (command : Command) : String :=
  "  " ++ padRight 12 command.name ++ " " ++ command.description

/-- How the program is called. -/
def globalUsage : String := lines [
    "usage: preloader [-h] [-c CONFIG_PATH] [--logging-config LOGGING_CONFIG] [-v]",
    "                 [--version]",
    "                 [COMMAND] [ARGS ...]"]

/-- The explanation of the program. -/
def globalHelp : String := globalUsage ++ lines ([
    "",
    "preloader - opcode cache preload manifest builder and loader",
    "",
    "positional arguments:",
    "  COMMAND               Command to execute",
    "  ARGS                  Command arguments",
    "",
    "options:",
    "  -h, --help            Show this help message and exit",
    "  -c CONFIG_PATH, --config-path CONFIG_PATH",
    "                        Preload configuration file (YAML/JSON, default:",
    "                        ./preload.yaml)",
    "  --logging-config LOGGING_CONFIG",
    "                        Logging configuration file (.ini)",
    "  -v, --verbose         Verbosity level: -v (INFO), -vv (DEBUG)",
    "  --version             Show version information",
    "",
    "Available commands:"] ++ all.map listed ++ [
    "",
    "Use 'preloader <command> --help' for more information about a command."])

end Command

end OpcachePreload
