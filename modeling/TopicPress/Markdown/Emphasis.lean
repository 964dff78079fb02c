import TopicPress.Markdown.Tree
import TopicPress.Text.Blank
import TopicPress.Text.Punctuation

/-!
# Emphasis

Runs of the delimiters `*`, `_`, `~` and `^` enclose emphasis, strikethrough, superscript and
subscript.  Whether a run can open or close depends on the characters around it; runs are matched
from the first closing one on, each with the nearest run before it that can open.
-/

namespace TopicPress.Markdown

open Text

/-! ## Runs -/

/-- A run of one delimiter. -/
structure Run where
  mark : Char
  /-- The delimiters as they are written. -/
  length : Nat
  /-- The delimiters that have not been used. -/
  left : Nat
  canOpen : Bool
  canClose : Bool
  /-- Where the delimiters that have not been used begin. -/
  position : SourcePosition

/-- Does a run stand at the left of something, given the characters around it? -/
def isLeftFlanking (before after : Char) : Bool :=
  !isWhiteSpace after
    && !(isPunctuation after && !isWhiteSpace before && !isPunctuation before)

/-- Does a run stand at the right of something, given the characters around it? -/
def isRightFlanking (before after : Char) : Bool := isLeftFlanking after before

namespace Run

/-- The run of `length` marks between two characters.  An underscore within a word neither opens nor
closes.  Tildes and carets open before anything that is no white space. -/
def between (mark before after : Char) (length : Nat) (position : SourcePosition) : Run :=
  let left :=
    if mark = '~' || mark = '^' then !isWhiteSpace after else isLeftFlanking before after
  let right := isRightFlanking before after
  { mark, length, left := length, position
    canOpen := left && (mark ≠ '_' || !right || isPunctuation before)
    canClose := right && (mark ≠ '_' || !left || isPunctuation after) }

/-- A run that neither opens nor closes is text, and so are three tildes or more. -/
def isDelimiter (run : Run) : Bool :=
  (run.canOpen || run.canClose) && (run.mark ≠ '~' || run.length ≤ 2)

/-- Can `opener` be matched with `closer`?  Runs that can do both match only if their lengths do not
add up to a multiple of three, or are multiples of three themselves. -/
def matchesCloser (opener closer : Run) : Bool :=
  opener.canOpen && opener.mark == closer.mark
    && !((closer.canOpen || opener.canClose) && (opener.length + closer.length) % 3 == 0
      && !(opener.length % 3 == 0 && closer.length % 3 == 0))

/-- The text of the delimiters that have not been used. -/
def node (run : Run) : Node :=
  { kind := .text (String.ofList (List.replicate run.left run.mark)), position := run.position }

/-- The delimiters of each run that a match uses. -/
def used (opener closer : Run) : Nat := if 2 ≤ opener.left && 2 ≤ closer.left then 2 else 1

/-- What `count` delimiters on both sides enclose. -/
def kind (mark : Char) (count : Nat) : Kind :=
  if mark = '~' then (if count = 1 then .subscript else .strikethrough)
  else if mark = '^' then .superscript
  else if count = 1 then .emphasis
  else .strong

/-- The place that is `count` columns further. -/
def further (position : SourcePosition) (count : Nat) : SourcePosition :=
  { position with column := position.column + count }

/-- The node that two runs enclose.  It begins with the last `count` delimiters of the opening
run. -/
def enclose (opener : Run) (count : Nat) (children : List Node) : Node :=
  { kind := kind opener.mark count
    position := further opener.position (opener.left - count)
    children }

/-- The opening run without the last `count` delimiters. -/
def dropLast (run : Run) (count : Nat) : Run := { run with left := run.left - count }

/-- The closing run without the first `count` delimiters. -/
def dropFirst (run : Run) (count : Nat) : Run :=
  { run with left := run.left - count, position := further run.position count }

end Run

/-! ## Matching -/

/-- A part of a text: a node that is finished, or a run. -/
inductive Piece where
  | node (node : Node)
  | run (run : Run)

/-- The node that a piece is by itself. -/
def Piece.toNode : Piece → Node
  | .node inner => inner
  | .run inner => inner.node

/-- The nearest piece that matches the closing run, where the pieces come last first: those after
it, the run, and those before it. -/
def findOpener (closer : Run) : List Piece → Option (List Piece × Run × List Piece)
  | [] => none
  | piece :: before =>
    let further := (findOpener closer before).map
      (fun (between, opener, rest) => (piece :: between, opener, rest))
    match piece with
    | .run opener => if opener.matchesCloser closer then some ([], opener, before) else further
    | .node _ => further

/-- A measure of what is still to be matched. -/
def weight : List Piece → Nat
  | [] => 0
  | .node _ :: rest => 1 + weight rest
  | .run run :: rest => run.left + 1 + weight rest

/-- Match the runs of a text, where `before` holds the pieces that were passed, last first.  Tildes
match only if both runs are used up by the match; if they are not, all that remains is text. -/
def resolveAfter (before pieces : List Piece) : List Node :=
  match pieces with
  | [] => (before.map Piece.toNode).reverse
  | .node node :: rest => resolveAfter (.node node :: before) rest
  | .run closer :: rest =>
    if closer.canClose then
      match findOpener closer before with
      | none =>
        if closer.canOpen then resolveAfter (.run closer :: before) rest
        else resolveAfter (.node closer.node :: before) rest
      | some (between, opener, outer) =>
        let count := Run.used opener closer
        if opener.mark = '~' && (opener.left ≠ count || closer.left ≠ count) then
          (before.map Piece.toNode).reverse ++ pieces.map Piece.toNode
        else
          let enclosed := opener.enclose count (between.map Piece.toNode).reverse
          let outer :=
            if opener.left = count then outer
            else .run (opener.dropLast count) :: outer
          if _more : count < closer.left then
            resolveAfter (.node enclosed :: outer) (.run (closer.dropFirst count) :: rest)
          else resolveAfter (.node enclosed :: outer) rest
    else resolveAfter (.run closer :: before) rest
termination_by weight pieces
decreasing_by
  all_goals simp only [weight, Run.dropFirst]
  all_goals
    try have positive : 0 < Run.used opener closer := by unfold Run.used; split <;> omega
  all_goals omega

/-- Match the runs of a text. -/
def resolve (pieces : List Piece) : List Node := resolveAfter [] pieces

end TopicPress.Markdown
