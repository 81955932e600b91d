/-!
# Help texts

## Main definitions

- `CommandLine.version`, `CommandLine.help` — what is shown on request
- `CommandLine.helpOf?` — the help text of a command
-/

namespace TunnelRelay.CommandLine

/-- The name and the version of the program. -/
def version : String := "ovpn-bridge 0.1.0\n"

/-- The commands, with what they do. -/
def commandList : String :=
  "Commands:\n" ++
  "  selftest   Run tunnels on the loopback engine: connect, echo packets, disconnect\n" ++
  "  normalize  Print a profile as the engine would receive it (secrets redacted)\n" ++
  "  help       Print this message or the help of the given subcommand(s)\n"

/-- The help text of the program. -/
def help : String :=
  "Multi-tunnel OpenVPN bridge tools\n\n" ++
  "Usage: ovpn-bridge [OPTIONS] <COMMAND>\n\n" ++
  commandList ++
  "\nOptions:\n" ++
  "  -c, --config <CONFIG>  Session configuration file (JSON)\n" ++
  "  -v, --verbose          Enable verbose logging\n" ++
  "  -h, --help             Print help\n" ++
  "  -V, --version          Print version\n"

/-- The help text of the self-test. -/
def helpSelftest : String :=
  "Run tunnels on the loopback engine: connect, echo packets, disconnect\n\n" ++
  "Usage: ovpn-bridge selftest [OPTIONS]\n\n" ++
  "Options:\n" ++
  "  -t, --tunnels <TUNNELS>  Number of tunnels to run side by side [default: 2]\n" ++
  "  -p, --packets <PACKETS>  Packets to echo per tunnel [default: 8]\n" ++
  "  -h, --help               Print help\n"

/-- The help text of the normal form. -/
def helpNormalize : String :=
  "Print a profile as the engine would receive it (secrets redacted)\n\n" ++
  "Usage: ovpn-bridge normalize <PROFILE>\n\n" ++
  "Arguments:\n" ++
  "  <PROFILE>  Path to the .ovpn profile\n\n" ++
  "Options:\n" ++
  "  -h, --help  Print help\n"

/-- The help text of the help. -/
def helpHelp : String :=
  "Print this message or the help of the given subcommand(s)\n\n" ++
  "Usage: ovpn-bridge help [COMMAND]\n\n" ++ commandList

/-- The help text of the command with a name. -/
def helpOf? : String → Option String
  | "selftest" => some helpSelftest
  | "normalize" => some helpNormalize
  | "help" => some helpHelp
  | _ => none

/-- What is shown when the arguments are not understood. -/
def usage : String :=
  "error: invalid arguments\n\n" ++
  "Usage: ovpn-bridge [OPTIONS] <COMMAND>\n\nFor more information, try '--help'.\n"

end TunnelRelay.CommandLine
