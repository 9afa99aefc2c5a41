import SymbolIndex.Text.CodePoints

/-!
# White space

The Unicode property `White_Space`, and the two operations on text that depend on it.

- `isBlank` : the property
- `trim` : text without leading and trailing white space
- `words` : the maximal pieces of text free of white space
-/

namespace SymbolIndex
namespace Text

/-! ## The property -/

/-- The code points with the property `White_Space`. -/
def blankRuns : List Run :=
  [ ⟨0x09, 0x0D, 1⟩, ⟨0x20, 0x20, 1⟩, ⟨0x85, 0x85, 1⟩, ⟨0xA0, 0xA0, 1⟩, ⟨0x1680, 0x1680, 1⟩,
    ⟨0x2000, 0x200A, 1⟩, ⟨0x2028, 0x2029, 1⟩, ⟨0x202F, 0x202F, 1⟩, ⟨0x205F, 0x205F, 1⟩,
    ⟨0x3000, 0x3000, 1⟩ ]

def isBlank (c : Char) : Bool :=
  inRuns blankRuns c

/-! ## Trimming and splitting -/

def trimChars (cs : List Char) : List Char :=
  ((cs.dropWhile isBlank).reverse.dropWhile isBlank).reverse

def trim (s : String) : String :=
  String.ofList (trimChars s.toList)

/-- The maximal non-empty pieces of text that hold no white space, in order. -/
def words (s : String) : List String :=
  ((s.toList.splitOnP isBlank).filter (fun w => !w.isEmpty)).map String.ofList

end Text
end SymbolIndex
