import Occupancy.Run.Error

/-! The descriptors in a results directory: its files whose names end in `.meta.json`, in the order of their names.
Directories and links of such names are no descriptors, and nothing below the directory is looked at. -/

namespace Occupancy.Run

def descriptorEnding : String := ".meta.json"

def isDescriptorName (name : String) : Bool := descriptorEnding.toList.isSuffixOf name.toList

def isFile : Entry → Bool
  | .file _ => true
  | _ => false

/-- The names of descriptors among the entries of a directory. -/
def descriptorNames (entries : List (String × Entry)) : List String :=
  let names := (entries.filter fun (name, entry) => isDescriptorName name && isFile entry).map (·.1)
  names.mergeSort fun a b => decide (a ≤ b)

/-- The paths of the descriptors in a directory, of which there has to be one. -/
def discover (fs : FileSystem) (dir : Path) : Except RunError (List Path) :=
  if !fs.isDirectory dir then .error (.missingDirectory dir)
  else
    match fs.listDirectory dir with
    | .error e => .error (.inaccessible e)
    | .ok entries =>
      match descriptorNames entries with
      | [] => .error (.noDescriptors dir)
      | names => .ok (names.map fun name => dir.join ⟨name⟩)

end Occupancy.Run
