namespace Scaffold.Toml

-- How a table came to be.
inductive Origin
  -- On the way to a table with a header of its own.
  | implied
  | header
  -- On the way to a dotted key.
  | dotted
  -- Written between braces; nothing can be added to it.
  | inline
deriving DecidableEq, Repr

inductive Value
  | string (s : String)
  | boolean (b : Bool)
  -- A number, a date or a time, as it is written.
  | scalar (text : String)
  | array (items : List Value)
  | table (origin : Origin) (entries : List (String × Value))
  -- The tables under one doubled header.
  | tables (items : List (List (String × Value)))

abbrev Table :=
  List (String × Value)

namespace Table

def replace (t : Table) (key : String) (v : Value) : Table :=
  t.map fun e => if e.1 = key then (key, v) else e

-- Adds a value under a dotted key. The tables on the way are new, or came from dotted keys.
def put (t : Table) (v : Value) : List String → Option Table
  | [] => none
  | [k] => if (t.lookup k).isSome then none else some (t ++ [(k, v)])
  | k :: ks =>
    match t.lookup k with
    | none => (put [] v ks).map fun sub => t ++ [(k, .table .dotted sub)]
    | some (.table .dotted sub) => (put sub v ks).map fun sub => t.replace k (.table .dotted sub)
    | some _ => none

-- Fills the table under a header. It is new, or was only implied so far; a doubled header adds a table
-- to those under it. The tables on the way are made where they are missing.
def enter (t : Table) (doubled : Bool) (fill : Table → Option Table) : List String → Option Table
  | [] => none
  | [k] =>
    match doubled, t.lookup k with
    | false, none => (fill []).map fun sub => t ++ [(k, .table .header sub)]
    | false, some (.table .implied sub) => (fill sub).map fun sub => t.replace k (.table .header sub)
    | true, none => (fill []).map fun sub => t ++ [(k, .tables [sub])]
    | true, some (.tables subs) => (fill []).map fun sub => t.replace k (.tables (subs ++ [sub]))
    | _, some _ => none
  | k :: ks =>
    match t.lookup k with
    | none => (enter [] doubled fill ks).map fun sub => t ++ [(k, .table .implied sub)]
    | some (.table .inline _) => none
    | some (.table o sub) => (enter sub doubled fill ks).map fun sub => t.replace k (.table o sub)
    | some (.tables subs) =>
      match subs.getLast? with
      | none => none
      | some sub => (enter sub doubled fill ks).map fun sub => t.replace k (.tables (subs.dropLast ++ [sub]))
    | some _ => none

end Table
end Scaffold.Toml
