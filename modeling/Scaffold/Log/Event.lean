namespace Scaffold.Log

inductive Level
  | error
  | warn
  | info
  | debug
  | trace
deriving DecidableEq, Repr

namespace Level

-- How much a level lets through; a severe level lets through little.
def rank : Level → Nat
  | error => 1
  | warn => 2
  | info => 3
  | debug => 4
  | trace => 5

def text : Level → String
  | error => "ERROR"
  | warn => "WARN"
  | info => "INFO"
  | debug => "DEBUG"
  | trace => "TRACE"

end Level

structure Event where
  level : Level
  target : String
  message : String
  -- The names of the values, the message itself aside.
  fields : List String
deriving DecidableEq, Repr

end Scaffold.Log
