/-!
# TOML tables

What a TOML document says, as a tree of items.  A table remembers how it came to be, because that
decides what may still be added to it: what one header has opened no other header opens again, and
dotted keys only go through tables that no header names.
-/

namespace TopicPress.Toml

/-! ## Values -/

structure Date where
  year : Nat
  month : Nat
  day : Nat
  deriving DecidableEq

structure Time where
  hour : Nat
  minute : Nat
  second : Nat
  /-- The digits after the point. -/
  fraction : List Char := []
  deriving DecidableEq

/-- How far a time is ahead of universal time, in minutes. -/
structure Offset where
  minutes : Int
  deriving DecidableEq

/-- A number with a point or an exponent. -/
inductive Decimal where
  /-- The number `mantissa * 10 ^ exponent`, perhaps below zero. -/
  | finite (negative : Bool) (mantissa : Nat) (exponent : Int)
  | infinite (negative : Bool)
  | notANumber
  deriving DecidableEq

inductive Scalar where
  | string (text : String)
  | integer (value : Int)
  | decimal (value : Decimal)
  | boolean (value : Bool)
  | date (date : Date)
  | time (time : Time)
  | dateTime (date : Date) (time : Time) (offset : Option Offset)
  deriving DecidableEq

/-! ## Tables -/

/-- How a table came to be. -/
inductive Origin where
  /-- It is the document itself, or a header opened it. -/
  | header
  /-- A header below it went through it. -/
  | implied
  /-- A dotted key went through it. -/
  | dotted
  deriving DecidableEq

inductive Item where
  | scalar (value : Scalar)
  | array (elements : List Item)
  /-- A table in braces.  It is complete. -/
  | inlineTable (entries : List (String × Item))
  | table (origin : Origin) (entries : List (String × Item))
  /-- The tables that headers in double brackets opened, of which the last one may still grow. -/
  | tables (earlier : List (List (String × Item))) (last : List (String × Item))

/-- The entries of a table.  No key occurs twice. -/
abbrev Entries := List (String × Item)

namespace Entries

/-- Put an item at a key, in place of what is there. -/
def put (entries : Entries) (key : String) (item : Item) : Entries :=
  if (entries.lookup key).isSome then
    entries.map fun entry => if entry.1 = key then (key, item) else entry
  else entries ++ [(key, item)]

/-- Change the table at the end of a path.  Missing tables are made, with the origin `made`; of
several tables the last one is meant. -/
def change (made : Origin) (action : Origin → Entries → Option Entries) :
    List String → Origin → Entries → Option Entries
  | [], origin, entries => action origin entries
  | key :: path, _, entries =>
    match entries.lookup key with
    | none => do
      let below ← change made action path made []
      return entries.put key (.table made below)
    | some (.table origin below) =>
      if made = .dotted ∧ origin = .header then none
      else do
        let below ← change made action path origin below
        return entries.put key (.table origin below)
    | some (.tables earlier last) => do
      let last ← change made action path .header last
      return entries.put key (.tables earlier last)
    | some _ => none

/-- Put an item at a key that is not there yet. -/
def add (entries : Entries) (key : String) (item : Item) : Option Entries :=
  if (entries.lookup key).isSome then none else some (entries ++ [(key, item)])

/-- Put an item at a dotted key, given as the keys before the last one and the last one.  What is
before the last key has to be a table of dotted keys. -/
def addDotted (entries : Entries) (path : List String) (key : String) (item : Item) :
    Option Entries :=
  entries.change .dotted
    (fun origin below => if path.isEmpty ∨ origin = .dotted then below.add key item else none)
    path .header

/-- Open the table that a header names.  It may have been gone through, but not opened. -/
def openTable (entries : Entries) (path : List String) (key : String) : Option Entries :=
  entries.change .implied
    (fun _ below =>
      match below.lookup key with
      | none => some (below.put key (.table .header []))
      | some (.table .implied inside) => some (below.put key (.table .header inside))
      | some _ => none)
    path .header

/-- Open one more of the tables that a header in double brackets names. -/
def openNextTable (entries : Entries) (path : List String) (key : String) : Option Entries :=
  entries.change .implied
    (fun _ below =>
      match below.lookup key with
      | none => some (below.put key (.tables [] []))
      | some (.tables earlier last) => some (below.put key (.tables (earlier ++ [last]) []))
      | some _ => none)
    path .header

/-- Put an item at a dotted key of the table that the last header opened. -/
def addBelow (entries : Entries) (header path : List String) (key : String) (item : Item) :
    Option Entries :=
  entries.change .implied (fun _ below => below.addDotted path key item) header .header

end Entries

end TopicPress.Toml
