/-!
# Pipes

A pipe keeps what has been written to it and not been read. It does so in pages, of which there are
only so many: whoever writes has to wait when all of them are in use.

- `Shell.Pipe` : a pipe, with its pages
- `Shell.Pipe.write` : puts bytes into a pipe, as far as there is room
- `Shell.Pipe.read` : takes bytes out of a pipe
-/

namespace SymbolIndex
namespace Shell

def pageSize : Nat := 4096

def maxPages : Nat := 16

/-- A page: how much of it has been read, and what is left to read. -/
structure Page where
  start : Nat := 0
  bytes : List UInt8
  deriving DecidableEq, Repr

def Page.stop (p : Page) : Nat :=
  p.start + p.bytes.length

/-- What has been written and not been read, oldest first. -/
structure Pipe where
  pages : List Page := []
  deriving DecidableEq, Repr, Inhabited

namespace Pipe

def isEmpty (p : Pipe) : Bool :=
  p.pages.isEmpty

def isFull (p : Pipe) : Bool :=
  maxPages ≤ p.pages.length

/-- Puts bytes into new pages, and gives those for which there is none. -/
def addPages (p : Pipe) : Nat → List UInt8 → Pipe × List UInt8
  | 0, bytes => (p, bytes)
  | fuel + 1, bytes =>
    if bytes.isEmpty || p.isFull then (p, bytes)
    else addPages ⟨p.pages ++ [{ bytes := bytes.take pageSize }]⟩ fuel (bytes.drop pageSize)

/-- Puts bytes into a pipe, and gives those for which there is no room. What does not make whole
pages goes to the end of the last page if it fits there. -/
def write (p : Pipe) (bytes : List UInt8) : Pipe × List UInt8 :=
  let part := bytes.length % pageSize
  match p.pages.getLast? with
  | some last =>
    if part ≠ 0 && last.stop + part ≤ pageSize then
      let joined := { last with bytes := last.bytes ++ bytes.take part }
      addPages ⟨p.pages.dropLast ++ [joined]⟩ maxPages (bytes.drop part)
    else p.addPages maxPages bytes
  | none => p.addPages maxPages bytes

/-- Takes up to a number of bytes out of pages. -/
def takeBytes : Nat → List Page → List UInt8 × List Page
  | _, [] => ([], [])
  | most, page :: pages =>
    let size := page.bytes.length
    if size ≤ most then
      let (bytes, rest) := takeBytes (most - size) pages
      (page.bytes ++ bytes, rest)
    else if most = 0 then ([], page :: pages)
    else (page.bytes.take most, ⟨page.start + most, page.bytes.drop most⟩ :: pages)

/-- Takes up to a number of bytes out of a pipe. -/
def read (p : Pipe) (most : Nat) : List UInt8 × Pipe :=
  let (bytes, pages) := takeBytes most p.pages
  (bytes, ⟨pages⟩)

def bytes (p : Pipe) : List UInt8 :=
  p.pages.flatMap Page.bytes

end Pipe
end Shell
end SymbolIndex
