import Occupancy.Chart.Record

/-! File systems as data. An entry has a location, the names on the way to it from the root; the table of entries
has each location at most once. The root is a directory that is always there. Permissions, hard links and media that
fail are left out: an entry has one location and is open to everyone, and a directory that is found can always be
listed, so that the search for descriptors never ends with an error of the listing. -/

namespace Occupancy

/-- Names from an entry up to the root, the entry's own name first; the root has none. -/
abbrev Location : Type := List String

/-- What a file holds: bytes, or a chart that was drawn to it. -/
inductive Content
  | bytes (bytes : List UInt8)
  | chart (drawing : Drawing Float)

namespace Content

/-- The bytes of a chart are those of its record. -/
def toBytes : Content → List UInt8
  | .bytes b => b
  | .chart d => (Chart.record d).text.toByteArray.toList

end Content

/-- A device has no content of its own: what is written to it is lost. -/
inductive Entry
  | directory
  | file (content : Content)
  | link (target : String)
  | device

structure FileSystem where
  entries : List (Location × Entry)
  /-- Where paths that are not absolute start. -/
  workingDirectory : Location

namespace FileSystem

def lookup (fs : FileSystem) (location : Location) : Option Entry :=
  match location with
  | [] => some .directory
  | location => fs.entries.lookup location

def erase (fs : FileSystem) (location : Location) : FileSystem :=
  { fs with entries := fs.entries.filter (·.1 ≠ location) }

/-- Puts an entry in the place of whatever is at the location. -/
def insert (fs : FileSystem) (location : Location) (entry : Entry) : FileSystem :=
  { fs with entries := (location, entry) :: (fs.erase location).entries }

/-- The names in a directory, each with its entry. -/
def children (fs : FileSystem) (location : Location) : List (String × Entry) :=
  fs.entries.filterMap fun (place, entry) =>
    match place with
    | name :: parent => if parent = location then some (name, entry) else none
    | [] => none

theorem lookup_insert_self (fs : FileSystem) {location : Location} (entry : Entry) (h : location ≠ []) :
    (fs.insert location entry).lookup location = some entry := by
  cases location with
  | nil => exact absurd rfl h
  | cons name parent => simp [lookup, insert]

theorem lookup_filter_ne (entries : List (Location × Entry)) {location other : Location} (h : other ≠ location) :
    (entries.filter (·.1 ≠ location)).lookup other = entries.lookup other := by
  induction entries with
  | nil => rfl
  | cons pair rest ih =>
    obtain ⟨place, entry⟩ := pair
    by_cases hplace : place = location
    · have hother : (other == place) = false := by simp [hplace, h]
      simpa [hplace, List.lookup_cons, hother, hplace ▸ hother] using ih
    · by_cases hother : other = place
      · simp [hplace, hother]
      · have hfalse : (other == place) = false := by simp [hother]
        simpa [hplace, List.lookup_cons, hfalse] using ih

theorem lookup_insert_ne (fs : FileSystem) {location other : Location} (entry : Entry) (h : other ≠ location) :
    (fs.insert location entry).lookup other = fs.lookup other := by
  cases other with
  | nil => rfl
  | cons name parent =>
    have hfalse : (name :: parent == location) = false := by simp [h]
    simp only [lookup, insert, erase, List.lookup_cons, hfalse]
    exact lookup_filter_ne fs.entries h

end FileSystem

end Occupancy
