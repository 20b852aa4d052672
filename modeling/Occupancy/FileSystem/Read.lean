import Occupancy.FileSystem.Resolve

/-! Looking at files: opening and reading them, listing directories, and the tree of everything below one. Links
on the way are followed; a tree shows links and does not follow them. -/

namespace Occupancy.FileSystem

def isDirectory (fs : FileSystem) (p : Path) : Bool :=
  match fs.resolve true p with
  | .ok (.occupied _ .directory) => true
  | _ => false

/-- The entry that is opened for reading. A directory can be opened. -/
def openEntry (fs : FileSystem) (p : Path) : Except IoError Entry :=
  match fs.resolve true p with
  | .error e => .error e
  | .ok (.free _) => .error .notFound
  | .ok (.occupied _ entry) => .ok entry

/-- All bytes of an opened entry; a device is at its end at once, and a directory has no bytes to read. -/
def readEntry : Entry → Except IoError (List UInt8)
  | .directory => .error .isADirectory
  | .file content => .ok content.toBytes
  | .link _ => .error .tooManyLinks
  | .device => .ok []

def read (fs : FileSystem) (p : Path) : Except IoError (List UInt8) :=
  match fs.openEntry p with
  | .error e => .error e
  | .ok entry => readEntry entry

/-- The names in the directory at a path, in no particular order, each with its entry. -/
def listDirectory (fs : FileSystem) (p : Path) : Except IoError (List (String × Entry)) :=
  match fs.resolve true p with
  | .error e => .error e
  | .ok (.occupied location .directory) => .ok (fs.children location)
  | .ok (.occupied _ _) => .error .notADirectory
  | .ok (.free _) => .error .notFound

/-- A name as it is shown in a tree. -/
def marked (name : String) : Entry → String
  | .directory => name ++ "/"
  | .link _ => name ++ "@"
  | _ => name

/-- Names on the way from the directory `top` down to a location below it, if it is below. -/
def below? (top location : Location) : Option (List String) :=
  if top.isSuffixOf location && top.length < location.length then
    some (location.take (location.length - top.length)).reverse
  else none

/-- Everything below a directory, each entry by the path to it, in the order of the texts. A directory is marked by
a slash behind it, a link by an at sign. -/
def tree (fs : FileSystem) (p : Path) : List String :=
  match fs.resolve true p with
  | .ok (.occupied top .directory) =>
    let below := fs.entries.filterMap fun (location, entry) =>
      (below? top location).map fun names => marked (p.join ⟨"/".intercalate names⟩).text entry
    below.mergeSort fun a b => decide (a ≤ b)
  | _ => []

end Occupancy.FileSystem
