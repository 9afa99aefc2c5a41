/-!
# Faults of reading and writing

- `IoKind` : classes of faults
- `IoFault` : why something could not be read or written
- `IoFault.message` : the wording
-/

namespace SymbolIndex

/-- Classes of faults that carry a message of their own. -/
inductive IoKind where
  | notFound
  | permissionDenied
  | invalidData
  | other
  deriving DecidableEq, Repr

/-- Why something could not be read or written. -/
inductive IoFault where
  | notFound
  | notDirectory
  | isDirectory
  | nameTooLong
  | noSpace
  /-- The bytes are not UTF-8. -/
  | notText
  /-- A path holds the character with code zero. -/
  | nulInPath
  | custom (kind : IoKind) (message : String)
  deriving DecidableEq, Repr

namespace IoFault

def message : IoFault → String
  | .notFound => "No such file or directory (os error 2)"
  | .notDirectory => "Not a directory (os error 20)"
  | .isDirectory => "Is a directory (os error 21)"
  | .nameTooLong => "File name too long (os error 36)"
  | .noSpace => "No space left on device (os error 28)"
  | .notText => "stream did not contain valid UTF-8"
  | .nulInPath => "file name contained an unexpected NUL byte"
  | .custom _ message => message

def isNotFound : IoFault → Bool
  | .notFound | .custom .notFound _ => true
  | _ => false

end IoFault
end SymbolIndex
