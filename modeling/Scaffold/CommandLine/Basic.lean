import Scaffold.Rpc.Parser

namespace Scaffold

inductive Command
  | list (json : Bool)
  | create (service fields : String) (strict : Bool)
  | addRpc (spec : RpcSpec) (strict : Bool)
  | remove (service : String)
  | regenerate
  | status (json : Bool)
  | guide
deriving DecidableEq, Repr

structure CommandLine where
  root : Option String
  config : Option String
  verbose : Bool
  command : Command
deriving DecidableEq, Repr

-- Why a command line gives no command to run.
inductive Usage
  | help
  | version
  | unknownArgument
  | invalidSubcommand
  | missingArgument
  | missingSubcommand
  -- Nothing is given at all.
  | nothing
  -- An option is given twice at one level.
  | conflict
  | invalidValue
  -- A flag is given a value.
  | tooManyValues
deriving DecidableEq, Repr

namespace Usage

def text : Usage → String
  | help => "DisplayHelp"
  | version => "DisplayVersion"
  | unknownArgument => "UnknownArgument"
  | invalidSubcommand => "InvalidSubcommand"
  | missingArgument => "MissingRequiredArgument"
  | missingSubcommand => "MissingSubcommand"
  | nothing => "DisplayHelpOnMissingArgumentOrSubcommand"
  | conflict => "ArgumentConflict"
  | invalidValue => "InvalidValue"
  | tooManyValues => "TooManyValues"

-- Help and version are what was asked for; everything else is misuse.
def exitCode : Usage → Nat
  | help | version => 0
  | _ => 2

end Usage

namespace CommandLine

def versionText : String :=
  "protosmith 0.1.0-alpha.1\n"

end CommandLine
end Scaffold
