/-! Why a file cannot be reached, read or written, with the number that the system gives to the cause. -/

namespace Occupancy

inductive IoError
  | notFound
  | alreadyExists
  | notADirectory
  | isADirectory
  | nameTooLong
  | tooManyLinks
  | nulInName
deriving Repr, DecidableEq

namespace IoError

/-- The text and the number of a cause; a name with a zero character is refused before the system sees it. -/
def cause : IoError → String × Option Nat
  | notFound => ("No such file or directory", some 2)
  | alreadyExists => ("File exists", some 17)
  | notADirectory => ("Not a directory", some 20)
  | isADirectory => ("Is a directory", some 21)
  | nameTooLong => ("File name too long", some 36)
  | tooManyLinks => ("Too many levels of symbolic links", some 40)
  | nulInName => ("file name contained an unexpected NUL byte", none)

def message (e : IoError) : String :=
  match e.cause with
  | (text, some number) => s!"{text} (os error {number})"
  | (text, none) => text

end IoError

end Occupancy
