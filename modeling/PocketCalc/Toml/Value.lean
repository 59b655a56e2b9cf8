/-!
# TOML values

The values of a TOML document, tables included.  A table remembers how it came about, because that
decides who may still add to it:

* a `dotted` table was made by a dotted key, and takes further dotted keys;
* an `implied` table was made on the way to a header below it, and may still get a header;
* a `headed` table has had its own header;
* an `inline` table was written between braces, and is complete.
-/

namespace PocketCalc.Toml

/-- How a table came about. -/
inductive TableOrigin where
  | dotted
  | implied
  | headed
  | inline
  deriving DecidableEq, Repr

/-- A TOML value.  Of a date or a time only the text is kept. -/
inductive Value where
  | string (text : String)
  | integer (number : Int)
  | float (number : Float)
  | boolean (truth : Bool)
  | dateTime (text : String)
  | array (items : List Value)
  | table (origin : TableOrigin) (entries : List (String × Value))
  | tables (members : List (List (String × Value)))

/-- The entries of a table, in the order in which they were made. -/
abbrev Entries :=
  List (String × Value)

namespace Entries

def replace (entries : Entries) (key : String) (value : Value) : Entries :=
  entries.map fun entry => if entry.1 = key then (key, value) else entry

def add (entries : Entries) (key : String) (value : Value) : Entries :=
  entries ++ [(key, value)]

/-- Give a dotted key its value.  The tables on its way are made where they are missing; those that
are there must have been made by a dotted key or be implied, and the last one by a dotted key.  The
key itself must be new. -/
def assign (entries : Entries) : (path : List String) → Value → Option Entries
  | [], _ => none
  | [key], value =>
      match entries.lookup key with
      | none => some (entries.add key value)
      | some _ => none
  | key :: next :: path, value =>
      match entries.lookup key with
      | none =>
          (assign [] (next :: path) value).map fun made => entries.add key (.table .dotted made)
      | some (.table .dotted inner) =>
          (assign inner (next :: path) value).map fun made =>
            entries.replace key (.table .dotted made)
      | some (.table .implied inner) =>
          if path.isEmpty then
            none
          else
            (assign inner (next :: path) value).map fun made =>
              entries.replace key (.table .implied made)
      | some (.tables members) =>
          if path.isEmpty then
            none
          else
            match members.getLast? with
            | none => none
            | some last =>
                (assign last (next :: path) value).map fun made =>
                  entries.replace key (.tables (members.dropLast ++ [made]))
      | some _ => none

/-- Open the table at the end of a path and fill it.  Tables on the way are implied where they are
missing; of a list of tables the last one is meant. -/
def openAt
    (entries : Entries) (place : Option Value → Option Value) :
    (path : List String) → Option Entries
  | [] => none
  | [key] =>
      (place (entries.lookup key)).map fun value =>
        if (entries.lookup key).isSome then entries.replace key value else entries.add key value
  | key :: path =>
      match entries.lookup key with
      | none =>
          (openAt [] place path).map fun made => entries.add key (.table .implied made)
      | some (.tables members) =>
          match members.getLast? with
          | none => none
          | some last =>
              (openAt last place path).map fun made =>
                entries.replace key (.tables (members.dropLast ++ [made]))
      | some (.table origin inner) =>
          if origin = .inline then
            none
          else
            (openAt inner place path).map fun made =>
              entries.replace key (.table origin made)
      | some _ => none

end Entries

end PocketCalc.Toml
