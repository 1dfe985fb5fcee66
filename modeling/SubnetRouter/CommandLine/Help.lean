import SubnetRouter.CommandLine.Invocation

/-!
# Help

How the program is used, and what it says about a command line that it cannot read.
-/

namespace SubnetRouter.CommandLine

def usage : String :=
  "Resolve subnets to their RPC endpoints\n\n"
    ++ "Usage: subnet-router [OPTIONS] <COMMAND>\n\n"
    ++ "Commands:\n"
    ++ "  networks                   List the built-in networks\n"
    ++ "  resolve <SUBNET>           Show the connection parameters of a subnet\n"
    ++ "  call <SUBNET> [ARGS]...    Dry-run a contract call on a subnet\n"
    ++ "    --contract <CONTRACT>    Contract name\n"
    ++ "    --method <METHOD>        Method of the contract\n"
    ++ "    --abi-dir <DIR>          Directory with the files of the ABIs (default: abis)\n"
    ++ "    --address <ADDRESS>      Contract address (default: the gateway of the subnet)\n\n"
    ++ "Options:\n"
    ++ "  --network <NETWORK>        Built-in network (default: $IPC_NETWORK, then calibration)\n"
    ++ "  --config <FILE>            TOML subnet registry (default: $IPC_CONFIG)\n"
    ++ "  -h, --help                 Print help"

end SubnetRouter.CommandLine

namespace SubnetRouter

def UsageFault.message : UsageFault → String
  | .help => "help requested"
  | .nothing => "nothing on the command line"
  | .noCommand => "a command is missing"
  | .unknownCommand => "unknown command"
  | .unknownArgument => "unexpected argument"
  | .unwantedValue => "an option has a value that it does not take"
  | .missingValue => "an option lacks its value"
  | .badValue => "a value cannot be read"
  | .conflict => "options conflict or are repeated"
  | .missingArgument => "a required argument is missing"

/-- The exit code for a command line that is no invocation: asking for help is no failure. -/
def UsageFault.exitCode : UsageFault → UInt32
  | .help => 0
  | _ => 2

end SubnetRouter
