import ChainParams.Invocation.Usage
import ChainParams.Text.Quoted

/-!
# Help — what the tool says of its own use

The wording here is this library's own, and no other program is held to it: `Stop.message` names a
fault in a few words, and one `helpText` serves for the whole tool and for each subcommand, without
a line on what the tool is about. What matters beside the wording is the exit code, and the stream
that a text is printed on.
-/

namespace ChainParams

/-- How the tool ends: its exit code, the answer in `stdout`, and the report of a failure in
`stderr`. Log lines are left out. By default the tool also logs on standard error what it loads and
registers, and every `Notice` of a registration; so an empty `stderr` says that no failure is
reported, and not that nothing is printed there. -/
structure Exit where
  code : UInt8
  stdout : String
  stderr : String
  deriving DecidableEq, Repr

/-- The list of subcommands and options, which is the same at each `Level`. -/
def helpText : String :=
  "Usage: netparams [OPTIONS] <COMMAND>\n\n" ++
  "Commands:\n" ++
  "  show             Print the parameters of a built-in or custom network\n" ++
  "  check-prefix     Check which address kinds a prefix byte is registered for\n" ++
  "  hd-public        Map an HD private key magic to its public magic\n" ++
  "  generate-config  Write a configuration to start from\n" ++
  "  help             Print this message\n\n" ++
  "Options:\n" ++
  "  -c, --config <FILE>      Custom networks to register after the built-ins\n" ++
  "  -n, --network <NETWORK>  The network to show [default: mainnet]\n" ++
  "  -o, --output <FILE>      The file to write [default: netparams.toml]\n" ++
  "  -h, --help               Print help\n" ++
  "  -V, --version            Print version\n"

def versionText : String := "netparams 0.1.0\n"

/-- The fault in words of this library, with the text that was `given`. -/
def Stop.message : Stop → String
  | help => "help was asked for"
  | version => "the version was asked for"
  | noArguments => "no arguments were given"
  | unknownArgument given => "unexpected argument " ++ Text.quoted given
  | unknownSubcommand given => "unrecognized subcommand " ++ Text.quoted given
  | missingSubcommand => "a subcommand is required"
  | missingArgument slot => slot.label ++ " is required"
  | missingValue slot => slot.label ++ " requires a value"
  | surplusValue given => "unexpected value " ++ Text.quoted given
  | invalidByte given cause => cause.message given
  | repeated slot => slot.label ++ " cannot be used multiple times"

/-- How the tool ends where the arguments lead to no command: with code 0 if `helpText` or the
version was asked for, and with code 2 otherwise. -/
def Stop.exit : Stop → Exit
  | help => ⟨0, helpText, ""⟩
  | version => ⟨0, versionText, ""⟩
  | noArguments => ⟨2, "", helpText⟩
  | stop => ⟨2, "", "error: " ++ stop.message ++ "\n\nFor more information, try --help.\n"⟩

end ChainParams
