import SymbolIndex.Parser.Command
import SymbolIndex.Parser.Memo
import SymbolIndex.Settings.Basic

/-!
# Parsers

- `World` : the files, the remembered trees and the input
- `World.readText` : the text of a file, which may be what is left of the input
- `Parser` : a tree for each source text; parsing may change the world
- `Parser.tree`, `Parser.failing`, `Parser.command`, `Parser.memoized` : the kinds of parsers
- `Parser.ofSettings` : the parser that settings ask for
-/

namespace SymbolIndex

/-- The files, the remembered trees and the input. -/
structure World where
  store : Store
  memo : Memo
  /-- What is left of the input of the program itself, if that can be read as a file. -/
  input : Option (List UInt8) := none
  deriving Inhabited

/-- The text of the file that a path leads to. What is read from the input is gone. -/
def World.readText (w : World) (path : String) : Except IoFault String × World :=
  match w.input, w.store.channel? path with
  | some bytes, some 0 =>
    let text :=
      match Utf8.decode? bytes with
      | some text => .ok text
      | none => .error .notText
    (text, { w with input := some [] })
  | _, _ => (w.store.readText path, w)

/-- A tree for each source text. -/
abbrev Parser := String → World → Except ParserFault Json × World

namespace Parser

/-- The tree for a text that is no document. -/
def unreadable (f : Json.Fault) : Json :=
  .obj [("error", .str ("invalid tree JSON: " ++ f.message))]

def treeOf (source : String) : Json :=
  match Json.readText none source with
  | .ok tree => tree
  | .error f => unreadable f

/-- The source text is the tree. -/
def tree : Parser :=
  fun source w => (.ok (treeOf source), w)

def failing (f : ParserFault) : Parser :=
  fun _ w => (.error f, w)

def command (host : Host) (c : Command) : Parser :=
  fun source w =>
    let (result, store) := c.parse host source w.store
    (result, { w with store })

def memoized (inner : Parser) : Parser :=
  fun source w =>
    let key := sourceDigest source
    match w.memo.lookup key with
    | some (tree, memo) => (.ok tree, { w with memo })
    | none =>
      match inner source w with
      | (.ok tree, w) => (.ok tree, { w with memo := w.memo.put key tree })
      | (.error f, w) => (.error f, w)

/-- The parser that settings ask for, and the world in which it starts. Only the trees of commands
are remembered, and there has to be room from the start for all of them. -/
def ofSettings (host : Host) (s : ParserSettings) (store : Store) :
    Except Failure (Parser × World) :=
  let world : World := { store, memo := .new 0 }
  match s.kind with
  | .tree => .ok (tree, world)
  | .command =>
    match Command.ofArgv host store s.command (1000 * s.timeoutSecs) with
    | .error f => .error (.fault f.toFault)
    | .ok c =>
      if s.memoize && s.memoCapacity ≠ 0 then
        match host.refusal? s.memoCapacity with
        | some b => .error (.breakdown b)
        | none => .ok (memoized (command host c), { world with memo := .new s.memoCapacity })
      else .ok (command host c, world)

end Parser
end SymbolIndex
