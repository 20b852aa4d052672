import Occupancy.Counts
import Occupancy.Descriptor.Read
import Occupancy.FileSystem.Read

/-! Loading an algorithm: its descriptor, and the counts in the file that the descriptor names. The checks come in
the order of the reading, and the first that fails is the one reported: the descriptor is read and has buckets, the
counts are read and are an array of counts, and there is one count for each bucket. -/

namespace Occupancy

/-- Why a descriptor is no JSON text of a descriptor. A directory in its place can be opened but not read. -/
inductive JsonError
  | unreadable (cause : IoError)
  | malformed (cause : Json.SyntaxError)

def JsonError.message : JsonError → String
  | unreadable cause => cause.message
  | malformed cause => cause.message

inductive LoadError
  | fileRead (cause : IoError)
  | json (cause : JsonError)
  | zeroBuckets (path : Path)
  | truncatedCounts (path : Path) (length : Nat)
  | negativeCount (path : Path) (index : Nat) (value : Int)
  | lengthMismatch (path : Path) (actual : Nat) (expected : UInt64)

namespace LoadError

def message : LoadError → String
  | fileRead cause => "Failed to read input file: " ++ cause.message
  | json cause => "Failed to parse JSON: " ++ cause.message
  | zeroBuckets path => s!"Invalid metadata in {path.text}: numBuckets must be positive"
  | truncatedCounts path length =>
    s!"Counts file {path.text} is {length} bytes long, which is not a multiple of 4"
  | negativeCount path index value => s!"Counts file {path.text} holds a negative count {value} at bucket {index}"
  | lengthMismatch path actual expected =>
    s!"Counts length {actual} != numBuckets {expected} in {path.text}"

/-- A fault of the counts in the file at a path. -/
def ofCounts (path : Path) : Counts.Fault → LoadError
  | .truncated length => truncatedCounts path length
  | .negative index value => negativeCount path index value

end LoadError

/-- A descriptor with the counts it describes. -/
structure Algorithm where
  descriptor : Descriptor
  /-- Items in each bucket. -/
  counts : List UInt32
  countsPath : Path

namespace Loading

/-- The descriptor that an opened entry holds. -/
def parseDescriptor (entry : Entry) : Except JsonError Descriptor :=
  match FileSystem.readEntry entry with
  | .error e => .error (.unreadable e)
  | .ok bytes => (Descriptor.read bytes).mapError .malformed

def loadDescriptor (fs : FileSystem) (path : Path) : Except LoadError Descriptor :=
  match fs.openEntry path with
  | .error e => .error (.fileRead e)
  | .ok entry =>
    match parseDescriptor entry with
    | .error e => .error (.json e)
    | .ok d => if d.numBuckets = 0 then .error (.zeroBuckets path) else .ok d

/-- The counts that bytes from the file at a path stand for. -/
def decodeCounts (path : Path) (order : ByteOrder) (bytes : List UInt8) : Except LoadError (List UInt32) :=
  (Counts.decode order bytes).mapError (.ofCounts path)

def readCounts (fs : FileSystem) (path : Path) (order : ByteOrder) : Except LoadError (List UInt32) :=
  match fs.read path with
  | .error e => .error (.fileRead e)
  | .ok bytes => decodeCounts path order bytes

/-- Where the counts of a descriptor are: its own directory is where their path is seen from. -/
def countsPath (path : Path) (d : Descriptor) : Path := (path.parent?.getD ⟨"."⟩).join ⟨d.countsFile⟩

def loadAlgorithm (fs : FileSystem) (path : Path) : Except LoadError Algorithm :=
  match loadDescriptor fs path with
  | .error e => .error e
  | .ok d =>
    let countsPath := countsPath path d
    match readCounts fs countsPath d.byteOrder with
    | .error e => .error e
    | .ok counts =>
      if counts.length = d.numBuckets.toNat then .ok ⟨d, counts, countsPath⟩
      else .error (.lengthMismatch countsPath counts.length d.numBuckets)

end Loading

end Occupancy
