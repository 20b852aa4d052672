import Occupancy.FileSystem
import Occupancy.FileSystem.Error
import Occupancy.Path

/-! Where a path leads. The way along a path goes from directory to directory; at a link it goes on along the
link's own path, at most forty times for one path. Whether a link at the very end is followed is up to the caller. -/

namespace Occupancy

/-- The end of a path: an entry, or a name that is free in a directory. -/
inductive Place
  | occupied (location : Location) (entry : Entry)
  | free (location : Location)

namespace FileSystem

/-- How far a path goes without following a link. -/
inductive Walk
  | ended (place : Place)
  | linked (directory : Location) (target : Path) (rest : List Path.Step)

/-- The most bytes of a name. -/
def nameLimit : Nat := 255

/-- The most bytes of a path and the zero that ends it. -/
def pathLimit : Nat := 4096

def linkLimit : Nat := 40

/-- Walks from the directory at `location`. A link is where the walk stops, unless it is the last step and not to
be followed. -/
def walk (fs : FileSystem) (followLast : Bool) : Location → List Path.Step → Except IoError Walk
  | location, [] => .ok (.ended (.occupied location .directory))
  | location, .stay :: steps => walk fs followLast location steps
  | location, .up :: steps => walk fs followLast location.tail steps
  | location, .down name :: steps =>
    if nameLimit < name.utf8ByteSize then .error .nameTooLong
    else
      match fs.lookup (name :: location) with
      | some .directory => walk fs followLast (name :: location) steps
      | some (.link target) =>
        if steps.isEmpty && !followLast then .ok (.ended (.occupied (name :: location) (.link target)))
        else .ok (.linked location ⟨target⟩ steps)
      | some entry =>
        if steps.isEmpty then .ok (.ended (.occupied (name :: location) entry)) else .error .notADirectory
      | none => if steps.isEmpty then .ok (.ended (.free (name :: location))) else .error .notFound

/-- Where the way along a path starts, seen from a directory. -/
def start (directory : Location) (p : Path) : Location := if p.isAbsolute then [] else directory

/-- Walks from the directory at `location` and goes on along at most `links` links. -/
def follow (fs : FileSystem) (followLast : Bool) : Nat → Location → List Path.Step → Except IoError Place
  | links, location, steps =>
    match fs.walk followLast location steps with
    | .error e => .error e
    | .ok (.ended place) => .ok place
    | .ok (.linked directory target rest) =>
      match links with
      | 0 => .error .tooManyLinks
      | links + 1 => follow fs followLast links (start directory target) (target.steps ++ rest)

/-- Where a path leads; a text that cannot be a path leads nowhere. -/
def resolve (fs : FileSystem) (followLast : Bool) (p : Path) : Except IoError Place :=
  if p.text.toList.contains '\x00' then .error .nulInName
  else if p.text.isEmpty then .error .notFound
  else if pathLimit ≤ p.text.utf8ByteSize then .error .nameTooLong
  else fs.follow followLast linkLimit (start fs.workingDirectory p) p.steps

end FileSystem

end Occupancy
