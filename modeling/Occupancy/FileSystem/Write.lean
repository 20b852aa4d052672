import Occupancy.FileSystem.Read

/-! Changing a file system: making directories, writing files, making links and removing trees. An operation that
fails changes nothing. -/

namespace Occupancy.FileSystem

/-- A path without the slashes at its end, unless it has nothing else. -/
def withoutEndSlashes (p : Path) : Path :=
  match (p.text.toList.reverse.dropWhile (· == '/')).reverse with
  | [] => p
  | named => ⟨String.ofList named⟩

/-- Makes a directory at a free name. -/
def makeDirectory (fs : FileSystem) (p : Path) : Except IoError FileSystem :=
  match fs.resolve false (withoutEndSlashes p) with
  | .error e => .error e
  | .ok (.occupied _ _) => .error .alreadyExists
  | .ok (.free location) => .ok (fs.insert location .directory)

/-- Makes a directory unless there is one already. -/
def ensureDirectory (fs : FileSystem) (p : Path) : Except IoError FileSystem :=
  match fs.makeDirectory p with
  | .ok fs => .ok fs
  | .error e => if fs.isDirectory p then .ok fs else .error e

/-- Makes a directory and before it those on the way to it that are missing, at most `depth` of them. -/
def makeDirectories (fs : FileSystem) : Nat → Path → Except IoError FileSystem
  | depth, p =>
    if p.text.isEmpty then .ok fs
    else
      match depth, fs.ensureDirectory p, p.parent? with
      | depth + 1, .error .notFound, some parent => do
        let fs ← makeDirectories fs depth parent
        fs.ensureDirectory p
      | _, made, _ => made

/-- Makes all directories on the way along a path. -/
def makePath (fs : FileSystem) (p : Path) : Except IoError FileSystem := fs.makeDirectories p.text.length p

/-- Writes a file, in the place of what the file had before. -/
def write (fs : FileSystem) (p : Path) (content : Content) : Except IoError FileSystem :=
  match fs.resolve true p with
  | .error e => .error e
  | .ok (.free location) => .ok (fs.insert location (.file content))
  | .ok (.occupied location (.file _)) => .ok (fs.insert location (.file content))
  | .ok (.occupied _ .device) => .ok fs
  | .ok (.occupied _ .directory) => .error .isADirectory
  | .ok (.occupied _ (.link _)) => .error .tooManyLinks

/-- Makes a link at a free name. -/
def makeLink (fs : FileSystem) (p : Path) (target : String) : Except IoError FileSystem :=
  match fs.resolve false p with
  | .error e => .error e
  | .ok (.occupied _ _) => .error .alreadyExists
  | .ok (.free location) => .ok (fs.insert location (.link target))

/-- Removes an entry with everything below it. -/
def remove (fs : FileSystem) (p : Path) : Except IoError FileSystem :=
  match fs.resolve false p with
  | .error e => .error e
  | .ok (.free _) => .error .notFound
  | .ok (.occupied location _) =>
    .ok { fs with entries := fs.entries.filter fun (place, _) => !location.isSuffixOf place }

end Occupancy.FileSystem
