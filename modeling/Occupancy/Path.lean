/-! Paths. A path is a text with segments between slashes; it is kept and printed as it is given, and only walking
along it gives the segments a meaning. -/

namespace Occupancy

structure Path where
  text : String
deriving Repr, DecidableEq

namespace Path

def isAbsolute (p : Path) : Bool := p.text.toList.head? == some '/'

/-- The path `q` seen from the directory `p`. An absolute path is seen the same from anywhere. -/
def join (p q : Path) : Path :=
  if q.isAbsolute then q
  else if p.text.toList.getLast?.all (· == '/') then ⟨p.text ++ q.text⟩
  else ⟨p.text ++ "/" ++ q.text⟩

/-- One step of the way that a path describes. -/
inductive Step
  | stay
  | up
  | down (name : String)
deriving Repr, DecidableEq

def stepOf (segment : List Char) : Option Step :=
  match segment with
  | [] => none
  | ['.'] => some .stay
  | ['.', '.'] => some .up
  | segment => some (.down (String.ofList segment))

def segments (p : Path) : List (List Char) := p.text.toList.splitOn '/'

/-- The steps along a path. Slashes next to each other count as one; a slash at the end asks for a directory, as a
step that stays where it is does. -/
def steps (p : Path) : List Step :=
  p.segments.filterMap stepOf ++ if p.text.toList.getLast? = some '/' then [.stay] else []

/-- A segment without a step to another place. -/
def isIdle (segment : List Char) : Bool := segment == [] || segment == ['.']

def dropIdleEnd (segments : List (List Char)) : List (List Char) := (segments.reverse.dropWhile isIdle).reverse

/-- What a path begins with that is no segment between others: the root, or the directory it is seen from. -/
def lead (p : Path) : List Char :=
  match p.text.toList with
  | '/' :: _ => ['/']
  | ['.'] => ['.']
  | '.' :: '/' :: _ => ['.']
  | _ => []

/-- The path without its last segment, idle segments around it aside. The root and the empty path have none. -/
def parent? (p : Path) : Option Path :=
  let body := (p.text.toList.drop p.lead.length).splitOn '/'
  match dropIdleEnd body with
  | [] => if p.lead = ['.'] then some ⟨""⟩ else none
  | named => some ⟨String.ofList (p.lead ++ ['/'].intercalate (dropIdleEnd named.dropLast))⟩

end Path

end Occupancy
