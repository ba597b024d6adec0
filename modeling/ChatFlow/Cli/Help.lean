import ChatFlow.Cli.Arguments

/-!
# Help

What the program says about itself and its commands.
-/

namespace ChatFlow
namespace Cli

/-- The name and the version of the program. -/
def versionText : String := "flowbot 0.3.0\n"

/-- The lines of the help on a topic. -/
def helpLines : Topic → List String
  | .program =>
    ["Scripted conversation engine for chat devices",
      "",
      "Usage: flowbot [OPTIONS] <COMMAND>",
      "",
      "Commands:",
      "  serve     Run the ingress workers, delay loop and webhook gateway",
      "  simulate  Chat with a flow on the terminal (in-memory state)",
      "  check     Validate a flow definition file",
      "  config    Show current configuration",
      "  help      Print this message or the help of the given subcommand(s)",
      "",
      "Options:",
      "  -c, --config <CONFIG>  Path to config file [default: flowbot.toml]",
      "  -h, --help             Print help",
      "  -V, --version          Print version"]
  | .serve =>
    ["Run the ingress workers, delay loop and webhook gateway",
      "",
      "Usage: flowbot serve [OPTIONS]",
      "",
      "Options:",
      "      --no-gateway  Process continuations only, without the HTTP gateway",
      "  -h, --help        Print help"]
  | .simulate =>
    ["Chat with a flow on the terminal (in-memory state)",
      "",
      "Usage: flowbot simulate [OPTIONS] --device <DEVICE>",
      "",
      "Options:",
      "      --device <DEVICE>  Device the conversation is addressed to",
      "      --phone <PHONE>    Phone number to pose as [default: simulator]",
      "      --flow <FLOW>      Run this flow regardless of configured bindings",
      "  -h, --help             Print help"]
  | .check =>
    ["Validate a flow definition file",
      "",
      "Usage: flowbot check <FILE>",
      "",
      "Arguments:",
      "  <FILE>  ",
      "",
      "Options:",
      "  -h, --help  Print help"]
  | .config =>
    ["Show current configuration",
      "",
      "Usage: flowbot config",
      "",
      "Options:",
      "  -h, --help  Print help"]
  | .help =>
    ["Print this message or the help of the given subcommand(s)",
      "",
      "Usage: flowbot help [COMMAND]...",
      "",
      "Arguments:",
      "  [COMMAND]...  Print help for the subcommand(s)"]

/-- The help on a topic. -/
def helpText (topic : Topic) : String :=
  String.join ((helpLines topic).map (· ++ "\n"))

end Cli
end ChatFlow
