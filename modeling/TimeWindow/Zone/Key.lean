import TimeWindow.Failure.Basic
import TimeWindow.Zone.Basic

set_option autoImplicit false

/-!
# Zone keys

A zone is looked up by its key. Keys are written like relative paths: parts between slashes, none
of which is empty or a step to the same or the upper level. Other texts are refused without being
looked up.

## Main definitions

* `TimeWindow.Zone.normalParts` — the parts of a path that remain once its steps are carried out.
* `TimeWindow.Zone.find?` — the zone with a key.
-/

namespace TimeWindow.Zone

/-- One more part of a path: empty parts and `.` stay at the same level, and `..` undoes the part
before it, unless there is none to undo. The parts so far come last first. -/
def stepInto (parts : List Text) (part : Text) : List Text :=
  if part = [] ∨ part = Text.ofString "." then parts
  else if part = Text.ofString ".." then
    match parts with
    | [] => [part]
    | upper :: rest => if upper = Text.ofString ".." then part :: parts else rest
  else part :: parts

/-- The **parts of a path** once its steps are carried out. -/
def normalParts (path : Text) : List Text :=
  ((path.splitAt '/').foldl stepInto []).reverse

/-- The shortest path with the same steps; a single point if there are none. -/
def normalPath (path : Text) : Text :=
  match normalParts path with
  | [] => "."
  | parts => Text.separated "/" parts

/-- Taken from inside a folder, a key stays inside. A key that leaves the folder may come back to
it by its name, which is `_`. -/
def staysInside (key : Text) : Bool :=
  match normalParts ("_/" ++ key) with
  | folder :: _ :: _ => folder = Text.ofString "_"
  | _ => false

/-- Refuses the texts that are no keys, whether or not a zone has them. -/
def checkKey (key : Text) : Except Fault Unit :=
  if key.head? = some (CodePoint.ofChar '/') then .error (.absolute key)
  else if (normalPath key).length ≠ key.length then .error (.unnormalized key)
  else if staysInside key then .ok ()
  else .error (.outside key)

/-- The folder that a key leads into: all its parts but the last. -/
def folder (key : Text) : List Text :=
  (key.splitAt '/').dropLast

/-- There are zones in a folder. -/
def isFolder (parts : List Text) : Bool :=
  parts = [] || known.any fun z => folder (Text.ofString z.key) = parts

/-- Why a key that no zone has names none. -/
def absence (key : Text) : Fault :=
  if isFolder (folder key) && key.any (fun c => c.val == 0) then .zeroInName else .unknown key

/-- The **zone with a key**. -/
def find? (key : Text) : Except Fault Zone := do
  checkKey key
  match known.find? fun z => Text.ofString z.key = key with
  | some z => .ok z
  | none => .error (absence key)

end TimeWindow.Zone
