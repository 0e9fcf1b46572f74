/-! The help pages of the command line. -/
namespace IndentLint.CommandLine.Help

def page (lines : List String) : String := String.join (lines.map (· ++ "\n"))

def program : String := page
  ["usage: indentguard [-h] [--config CONFIG] [--verbose] [--no-rich] [--version]",
    "                   \x7bcheck,config\x7d ...",
    "",
    "IndentGuard - heuristic indentation checker for brace-delimited code",
    "",
    "positional arguments:",
    "  \x7bcheck,config\x7d        Available commands",
    "    check               Check indentation of a source file or directory",
    "    config              Configuration management",
    "",
    "options:",
    "  -h, --help            show this help message and exit",
    "  --config CONFIG, -c CONFIG",
    "                        Path to configuration file",
    "  --verbose, -v         Enable verbose output and debug logging",
    "  --no-rich             Disable rich terminal output (use plain text)",
    "  --version             show program's version number and exit",
    "",
    "Use \"indentguard <command> --help\" for detailed command help."]

def check : String := page
  ["usage: indentguard check [-h] [--indent-unit INDENT_UNIT]",
    "                         [--tab-width TAB_WIDTH] [--format \x7btext,json,html\x7d]",
    "                         [--output OUTPUT] [--show-lines] [--fail-on-problems]",
    "                         path",
    "",
    "positional arguments:",
    "  path                  Source file or directory to check",
    "",
    "options:",
    "  -h, --help            show this help message and exit",
    "  --indent-unit INDENT_UNIT",
    "                        Columns per nesting level (inferred from the first",
    "                        block if not specified)",
    "  --tab-width TAB_WIDTH",
    "                        Columns a tab character expands to (default: 4)",
    "  --format \x7btext,json,html\x7d",
    "                        Output format (default: from configuration, text)",
    "  --output OUTPUT, -o OUTPUT",
    "                        Output file for check results",
    "  --show-lines          List every violating line, not only the first line of",
    "                        each run",
    "  --fail-on-problems    Exit with status 2 when any problem is found"]

def config : String := page
  ["usage: indentguard config [-h] \x7bshow,init,validate\x7d ...",
    "",
    "positional arguments:",
    "  \x7bshow,init,validate\x7d",
    "    show                Show current configuration",
    "    init                Initialize configuration file",
    "    validate            Validate configuration file",
    "",
    "options:",
    "  -h, --help            show this help message and exit"]

def configShow : String := page
  ["usage: indentguard config show [-h] [--format \x7btext,json\x7d]",
    "",
    "options:",
    "  -h, --help            show this help message and exit",
    "  --format \x7btext,json\x7d  Output format"]

def configInit : String := page
  ["usage: indentguard config init [-h] [--path PATH] [--format \x7bjson,yaml\x7d]",
    "",
    "options:",
    "  -h, --help            show this help message and exit",
    "  --path PATH           Path for configuration file (default:",
    "                        indentguard.json)",
    "  --format \x7bjson,yaml\x7d  Configuration file format (default: json)"]

def configValidate : String := page
  ["usage: indentguard config validate [-h] config_file",
    "",
    "positional arguments:",
    "  config_file  Configuration file to validate",
    "",
    "options:",
    "  -h, --help   show this help message and exit"]

end IndentLint.CommandLine.Help
