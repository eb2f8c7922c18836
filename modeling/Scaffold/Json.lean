namespace Scaffold

inductive Json
  | boolean (b : Bool)
  | natural (n : Nat)
  | string (s : String)
  | array (items : List Json)
  | object (members : List (String × Json))

namespace Json

def hexDigit (n : Nat) : Char :=
  if n < 10 then Char.ofNat ('0'.toNat + n) else Char.ofNat ('a'.toNat + (n - 10))

def escapeChar (c : Char) : String :=
  if c = '"' then "\\\""
  else if c = '\\' then "\\\\"
  else if c = '\x08' then "\\b"
  else if c = '\t' then "\\t"
  else if c = '\n' then "\\n"
  else if c = '\x0c' then "\\f"
  else if c = '\r' then "\\r"
  else if c.toNat < 0x20 then
    "\\u00" ++ String.ofList [hexDigit (c.toNat / 16), hexDigit (c.toNat % 16)]
  else String.ofList [c]

def quote (s : String) : String :=
  "\"" ++ String.join (s.toList.map escapeChar) ++ "\""

def indent (level : Nat) : String :=
  String.ofList (List.replicate (2 * level) ' ')

-- Members on lines of their own, one level deeper than the brackets around them.
def block (level : Nat) (left right : String) : List String → String
  | [] => left ++ right
  | ms =>
    let lines := ms.map fun m => "\n" ++ indent (level + 1) ++ m
    left ++ ",".intercalate lines ++ "\n" ++ indent level ++ right

mutual

def render (level : Nat) : Json → String
  | boolean b => if b then "true" else "false"
  | natural n => toString n
  | string s => quote s
  | array items => block level "[" "]" (renderItems (level + 1) items)
  | object members => block level "\x7b" "\x7d" (renderMembers (level + 1) members)

def renderItems (level : Nat) : List Json → List String
  | [] => []
  | v :: vs => render level v :: renderItems level vs

def renderMembers (level : Nat) : List (String × Json) → List String
  | [] => []
  | (k, v) :: ms => (quote k ++ ": " ++ render level v) :: renderMembers level ms

end

def text (v : Json) : String :=
  render 0 v

end Json
end Scaffold
