import TopicPress.Event.Basic

/-!
# Balanced event lists

An event list is balanced when it is at most one element with everything inside it, and at most one
end of document after it.  The check goes through the list once and stops at the first event that
cannot continue a balanced list; only an element left open is found at the end.
-/

namespace TopicPress

/-- What keeps an event list from being balanced. -/
inductive BalanceError where
  /-- An element ends and none is open. -/
  | unmatchedEnd (index : Nat)
  /-- Characters stand outside every element. -/
  | strayCharacters (index : Nat)
  /-- A second element starts at the outermost level. -/
  | afterRoot (index : Nat)
  /-- The list, or the document, ends with elements open. -/
  | unclosed (depth : Nat)
  | afterEndDocument (index : Nat)
  deriving DecidableEq

namespace BalanceError

def message : BalanceError → String
  | unmatchedEnd index => "end-element at " ++ toString index ++ " has no open element"
  | strayCharacters index => "characters at " ++ toString index ++ " outside any element"
  | afterRoot index => "event at " ++ toString index ++ " follows the closed root element"
  | unclosed depth => toString depth ++ " element(s) left open"
  | afterEndDocument index => "event at " ++ toString index ++ " follows end-document"

end BalanceError

namespace Balance

/-- What has been seen of a list so far. -/
structure Progress where
  depth : Nat := 0
  rootClosed : Bool := false
  ended : Bool := false
  deriving DecidableEq

/-- Take one more event, which stands at `index`. -/
def Progress.step (progress : Progress) (index : Nat) (event : Event) :
    Except BalanceError Progress :=
  if progress.ended then .error (.afterEndDocument index)
  else
    match event with
    | .startElement _ _ _ =>
      if progress.rootClosed then .error (.afterRoot index)
      else .ok { progress with depth := progress.depth + 1 }
    | .characters _ =>
      if progress.depth = 0 then .error (.strayCharacters index) else .ok progress
    | .endElement =>
      if progress.depth = 0 then .error (.unmatchedEnd index)
      else .ok { progress with
        depth := progress.depth - 1
        rootClosed := progress.rootClosed || progress.depth == 1 }
    | .endDocument =>
      if progress.depth = 0 then .ok { progress with ended := true }
      else .error (.unclosed progress.depth)

/-- Take events from `index` on, up to the first that does not fit. -/
def Progress.run (progress : Progress) (index : Nat) : List Event → Except BalanceError Progress
  | [] => .ok progress
  | event :: rest =>
    match progress.step index event with
    | .ok next => next.run (index + 1) rest
    | .error fault => .error fault

end Balance

/-- Check that an event list is balanced. -/
def checkBalanced (events : List Event) : Except BalanceError Unit :=
  match Balance.Progress.run {} 0 events with
  | .ok progress => if progress.depth = 0 then .ok () else .error (.unclosed progress.depth)
  | .error fault => .error fault

end TopicPress
