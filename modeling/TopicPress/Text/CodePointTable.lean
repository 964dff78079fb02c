/-!
# Tables of code points

A property of characters that a standard gives by listing is kept as text: the runs of code points
with one value, in order, each written as a letter for the value and the length of the run in
lower-case hexadecimal; white space between them does not count.  Reading the text is done once; asking for a code point is a binary search.
-/

namespace TopicPress.CodePointTable

/-- The first code points of the runs with the letters of their values, in increasing order. -/
structure Runs where
  starts : Array (Nat × Char)

/-- The value of a hexadecimal digit in lower case; other characters count as zero. -/
def hexValue (c : Char) : Nat :=
  if '0' ≤ c && c ≤ '9' then c.toNat - '0'.toNat
  else if 'a' ≤ c && c ≤ 'f' then c.toNat - 'a'.toNat + 10
  else 0

/-- A run that is being read: where it starts and how long it is as far as it was read. -/
structure Reading where
  starts : Array (Nat × Char) := #[]
  start : Nat
  length : Nat := 0

/-- Read one more character of the text. -/
def Reading.step (reading : Reading) (c : Char) : Reading :=
  if c.isUpper then
    let start := reading.start + reading.length
    { starts := reading.starts.push (start, c), start, length := 0 }
  else if c.isWhitespace then reading
  else { reading with length := reading.length * 16 + hexValue c }

/-- Read the runs from the code point `first` on. -/
def Runs.read (first : Nat) (text : String) : Runs :=
  ⟨(text.toList.foldl Reading.step { start := first }).starts⟩

/-- The last run in `starts[low..high)` that starts at or before `code`. -/
def search (starts : Array (Nat × Char)) (code low high : Nat) : Option Char :=
  if low + 1 < high then
    let middle := (low + high) / 2
    match starts[middle]? with
    | some (start, _) =>
      if start ≤ code then search starts code middle high else search starts code low middle
    | none => none
  else
    match starts[low]? with
    | some (start, value) => if start ≤ code then some value else none
    | none => none
termination_by high - low
decreasing_by
  all_goals omega

/-- The letter of the run that holds `code`. -/
def Runs.value? (runs : Runs) (code : Nat) : Option Char :=
  search runs.starts code 0 runs.starts.size

end TopicPress.CodePointTable
