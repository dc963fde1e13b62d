namespace Reckoner

/-!
# Outlines

An outline is a text with further outlines below it.  It is written with a line
for each text, the text of the whole first.  A text below another is led by the
branch that it hangs on.  Where a text has another one behind it, the branch of
that one goes on as a vertical stroke, past all that is below the first.

An outline is built in one pass.  What is begun stays open, with all that
contains it, until it is ended.
-/

/-- A text and what is below it. -/
inductive Outline where
  | node (text : String) (below : List Outline)

namespace Outline

/-- What leads the line of a text. -/
def branch (isLast : Bool) : String :=
  if isLast then "└─ " else "├─ "

/-- What leads all lines below a text, in the place of its branch. -/
def trunk (isLast : Bool) : String :=
  if isLast then "   " else "│  "

mutual

/-- The lines of an outline that hangs below given lines, being the last one
there or not. -/
def lines (lead : String) (isLast : Bool) : Outline -> List String
  | node text below => (lead ++ branch isLast ++ text) :: linesBelow (lead ++ trunk isLast) below

/-- The lines of what is below a text. -/
def linesBelow (lead : String) : List Outline -> List String
  | [] => []
  | outline :: rest => outline.lines lead rest.isEmpty ++ linesBelow lead rest

end

/-- An outline as a text, each line ended. -/
def written : Outline -> String
  | node text below => String.join ((text :: linesBelow "" below).map (· ++ "\n"))

example :
    (node "a" [node "b" [node "c" []], node "d" []]).written = "a\n├─ b\n│  └─ c\n└─ d\n" := by
  decide +kernel

def add : Outline -> Outline -> Outline
  | node text below, child => node text (below ++ [child])

end Outline

/-- An outline of which a part is open. -/
structure Sketch where
  /-- The part that was begun last, as far as it is known. -/
  current : Outline
  /-- The open parts that contain it, the innermost first. -/
  around : List Outline

namespace Sketch

def start (text : String) : Sketch :=
  ⟨.node text [], []⟩

/-- Begins a part. -/
def begin (text : String) (sketch : Sketch) : Sketch :=
  ⟨.node text [], sketch.current :: sketch.around⟩

/-- Ends a part.  The whole is never ended. -/
def finish (sketch : Sketch) : Sketch :=
  match sketch.around with
  | [] => sketch
  | parent :: around => ⟨parent.add sketch.current, around⟩

def leaf (text : String) (sketch : Sketch) : Sketch :=
  (sketch.begin text).finish

/-- The whole, after what is open has been ended. -/
def outline (sketch : Sketch) : Outline :=
  sketch.around.foldl (fun current parent => parent.add current) sketch.current

end Sketch
end Reckoner
