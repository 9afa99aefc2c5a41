import SymbolIndex.Shell.Tool.Basic

/-!
# Parts and counts of files

- `Shell.Tally.ofBytes` : the lines, words and bytes of a file
- `Shell.wc`, `Shell.head`, `Shell.tail` : counts, and the first and last lines or bytes
- `Shell.cut` : parts of each line
- `Shell.sort`, `Shell.uniq`, `Shell.tac`, `Shell.rev` : lines in another order, or fewer of them
-/

namespace SymbolIndex
namespace Shell

/-! ## Counts -/

structure Tally where
  lines : Nat := 0
  words : Nat := 0
  bytes : Nat := 0
  longest : Nat := 0
  deriving DecidableEq, Repr

namespace Tally

/-- Counts in the making: the column, and whether a word has begun. -/
structure Counting where
  tally : Tally := {}
  column : Nat := 0
  inWord : Bool := false

def Counting.endWord (c : Counting) : Counting :=
  if c.inWord then { c with tally := { c.tally with words := c.tally.words + 1 }, inWord := false }
  else c

def Counting.endLine (c : Counting) : Counting :=
  { c with tally := { c.tally with longest := max c.tally.longest c.column }, column := 0 }

/-- Counts a byte. Only bytes that show make words. -/
def Counting.step (c : Counting) (b : UInt8) : Counting :=
  let c := { c with tally := { c.tally with bytes := c.tally.bytes + 1 } }
  match b.toNat with
  | 0x0A =>
    { c.endLine.endWord with tally := { c.endLine.endWord.tally with lines := c.tally.lines + 1 } }
  | 0x0D | 0x0C => c.endLine.endWord
  | 0x09 => { c.endWord with column := c.column + 8 - c.column % 8 }
  | 0x20 => { c.endWord with column := c.column + 1 }
  | 0x0B => c.endWord
  | n => if 0x20 < n && n < 0x7F then { c with column := c.column + 1, inWord := true } else c

def ofBytes (bytes : List UInt8) : Tally :=
  (bytes.foldl Counting.step {}).endLine.endWord.tally

def add (a b : Tally) : Tally :=
  ⟨a.lines + b.lines, a.words + b.words, a.bytes + b.bytes, max a.longest b.longest⟩

/-- The counts that options ask for, each as wide as the number says. -/
def columns (p : Parsed) (width : Nat) (t : Tally) : String :=
  let wanted (c : Char) : Bool := if p.options.isEmpty then "lwc".toList.contains c else p.has c
  let counts := [('l', t.lines), ('w', t.words), ('m', t.bytes), ('c', t.bytes), ('L', t.longest)]
  let texts := (counts.filter fun c => wanted c.1).map fun c =>
    let digits := toString c.2
    String.ofList (List.replicate (width - digits.length) ' ') ++ digits
  " ".intercalate texts

end Tally

/-- The size of what is read from an operand; nothing if it is no file. The outer nothing stands for
an operand that cannot be opened. -/
def operandSize (operand : String) : Act (Option (Option Nat)) := do
  match ← openOperand operand with
  | .error _ => return none
  | .ok n =>
    match ← streamOf? n with
    | some (_, .file f) => return some (some (← fileSize f.file))
    | some _ => return some none
    | none => return none

/-- How wide counts are shown: as the sizes of the files, but no less than seven if a size is not
known. -/
def tallyWidth (sizes : List (Option (Option Nat))) : Nat :=
  let total := (sizes.map fun s => (s.getD none).getD 0).foldl (· + ·) 0
  max (toString total).length (if sizes.contains (some none) then 7 else 1)

def wc (name : String) (args : List String) : Act Nat := do
  let flags : List Flag :=
    [ ⟨'c', "bytes", .nothing⟩, ⟨'m', "chars", .nothing⟩, ⟨'l', "lines", .nothing⟩,
      ⟨'w', "words", .nothing⟩, ⟨'L', "max-line-length", .nothing⟩ ]
  withOptions name flags args 1 fun p => do
    let operands := orInput p.operands
    let kinds := ("lwmcL".toList.filter p.has).length
    let width ←
      if operands.length = 1 && kinds = 1 then pure 1
      else do
        pure (tallyWidth (← operands.mapM operandSize))
    let line (t : Tally) (title : String) : Act (Option Trouble) := do
      let title := if title = "" then "" else " " ++ title
      match ← writeText 1 (t.columns p width ++ title ++ "\n") with
      | .ok _ => return none
      | .error t => return some t
    let (total, status, trouble) ← operands.foldlM (fun (total, status, trouble) o => do
      let title := if p.operands.isEmpty then "" else if o.toList.contains '\n' then quoteName o
        else o
      match ← openOperand o with
      | .error t =>
        toolSays name (if o = "" then "invalid zero-length file name"
          else quoteName o ++ ": " ++ t.message)
        return (total, 1, trouble)
      | .ok n =>
        match ← drain n with
        | .ok bytes =>
          let t := Tally.ofBytes bytes
          return (total.add t, status, (← line t title) <|> trouble)
        | .error t =>
          let shown := if o = "-" then "'standard input'" else quoteName o
          toolSays name (shown ++ ": " ++ t.message)
          return (total, 1, (← line {} title) <|> trouble))
            (({} : Tally), 0, (none : Option Trouble))
    let last ← if 1 < operands.length then line total "total" else pure none
    match last <|> trouble with
    | none => return status
    | some t =>
      -- lines are written at once, so at the end it is forgotten why one was not
      toolSays name ("write error" ++ if t = .badChannel then ": " ++ t.message else "")
      return 1

/-! ## First and last parts -/

def unitSize? (cs : List Char) : Option Nat :=
  let powers : List (Char × Nat) :=
    [('k', 1), ('K', 1), ('m', 2), ('M', 2), ('G', 3), ('T', 4), ('P', 5), ('E', 6), ('Z', 7),
      ('Y', 8)]
  match cs with
  | [] => some 1
  | ['b'] => some 512
  | c :: rest =>
    match powers.find? (·.1 == c), rest with
    | some (_, n), [] | some (_, n), ['i', 'B'] => some (Nat.pow 1024 n)
    | some (_, n), ['B'] => some (Nat.pow 1000 n)
    | _, _ => none

def sizeOf? (cs : List Char) : Option Nat :=
  let digits := cs.takeWhile Char.isDigit
  let unit := unitSize? (cs.drop digits.length)
  if digits.isEmpty then if cs.isEmpty then none else unit
  else unit.map fun u => digitsValue 10 digits * u

structure Portion where
  /-- Whether bytes are counted, or lines. -/
  bytes : Bool := false
  count : Nat := 10
  /-- Whether the count is that of what is left out. -/
  without : Bool := false
  /-- Whether a name is put in front of each part, if options say so. -/
  titles : Option Bool := none
  /-- The byte that ends lines. -/
  ends : UInt8 := 0x0A

namespace Portion

def linesWithEnds (ends : UInt8) (bytes : List UInt8) : List (List UInt8) :=
  let lines := bytes.splitOn ends
  let whole := lines.dropLast.map (· ++ [ends])
  match lines.getLast? with
  | none | some [] => whole
  | some last => whole ++ [last]

def first (p : Portion) (bytes : List UInt8) : List UInt8 :=
  let cut {α : Type} (xs : List α) : List α :=
    xs.take (if p.without then xs.length - p.count else p.count)
  if p.bytes then cut bytes else (cut (linesWithEnds p.ends bytes)).flatten

/-- The last part of bytes. To leave something out is to start after it. -/
def last (p : Portion) (bytes : List UInt8) : List UInt8 :=
  let cut {α : Type} (xs : List α) : List α :=
    xs.drop (if p.without then p.count - 1 else xs.length - p.count)
  if p.bytes then cut bytes else (cut (linesWithEnds p.ends bytes)).flatten

def flags : List Flag :=
  [ ⟨'c', "bytes", .value⟩, ⟨'n', "lines", .value⟩, ⟨'q', "quiet", .nothing⟩,
    ⟨'q', "silent", .nothing⟩, ⟨'v', "verbose", .nothing⟩, ⟨'z', "zero-terminated", .nothing⟩ ]

/-- Arguments in which a first one such as `-5` or `-5c` is spelled out. -/
def spelledOut (signs : List Char) : List String → List String
  | [] => []
  | a :: rest =>
    match a.toList with
    | s :: cs =>
      let digits := cs.takeWhile Char.isDigit
      let after := cs.drop digits.length
      if !signs.contains s || digits.isEmpty then a :: rest
      else
        let unit := after.takeWhile fun c => "bkm".toList.contains c
        let after := after.drop unit.length
        let count := String.ofList ((if s == '+' then ['+'] else []) ++ digits ++ unit)
        let letters := after.filter fun c => c != 'c' && c != 'l'
        let more := if letters.isEmpty then [] else [String.ofList ('-' :: letters)]
        [if after.contains 'c' then "-c" else "-n", count] ++ more ++ rest
    | [] => a :: rest

/-- The portion that options ask for. `sign` in front of a number says that something is left
out. -/
def ofParsed (p : Parsed) (sign other : Char) : Except String Portion :=
  p.options.foldlM (fun portion (c, value) =>
    match c with
    | 'q' => .ok { portion with titles := some false }
    | 'v' => .ok { portion with titles := some true }
    | 'z' => .ok { portion with ends := 0 }
    | 'n' | 'c' =>
      let (without, cs) : Bool × List Char :=
        match value.toList with
        | d :: cs =>
          if d == sign then (true, cs) else if d == other then (false, cs) else (false, d :: cs)
        | [] => (false, [])
      match sizeOf? cs with
      | some count => .ok { portion with bytes := c == 'c', count, without }
      | none =>
        .error ("invalid number of " ++ (if c == 'c' then "bytes" else "lines") ++ ": " ++
          quoteText value)
    | _ => .ok portion) {}

end Portion

/-- The size of the blocks in which files are read. -/
def blockSize : Nat := 8192

/-- Reads blocks until they hold so many bytes, or so many ends of lines. The newest one comes
first. -/
def readBlocks (id : Nat) (p : Portion) :
    Nat → Nat → List (List UInt8) → Act (Except Trouble (List (List UInt8)))
  | 0, _, _ => expire
  | fuel + 1, wanted, blocks => do
    match ← readPiece id (if p.bytes then min wanted blockSize else blockSize) with
    | .error t => return .error t
    | .ok bytes =>
      let found := if p.bytes then bytes.length else bytes.count p.ends
      if bytes.isEmpty || wanted ≤ found then return .ok (bytes :: blocks)
      readBlocks id p fuel (wanted - found) (bytes :: blocks)

/-- The first part of what is read. What is read beyond it is gone, unless it comes from a file. -/
def readFirst (channel : Nat) (p : Portion) : Act (Except Trouble (List UInt8)) := do
  if p.count = 0 && !p.without then return .ok []
  if p.without then return (← drain channel).map p.first
  match ← streamOf? channel with
  | none => return .error .badChannel
  | some (id, s) =>
    match ← readBlocks id p ((← asksSystem System.work) + 1) p.count [] with
    | .error t => return .error t
    | .ok blocks =>
      let part := p.first blocks.reverse.flatten
      if let .file f := s then
        setStream id (.file { f with offset := f.offset + part.length, rest := none })
      return .ok part

/-- Writes a part of each operand, with its name in front if there are several. -/
def writeParts (name : String) (p : Portion) (operands : List String)
    (part : Nat → Act (Except Trouble (List UInt8))) : Act Nat := do
  let titled := p.titles.getD (1 < operands.length)
  let shown (o : String) : String := if o = "-" then "standard input" else o
  let (_, status) ← operands.foldlM (fun (isFirst, status) o => do
    match ← openOperand o with
    | .error t =>
      toolSays name ("cannot open " ++ quoteAlways o ++ " for reading: " ++ t.message)
      return (isFirst, 1)
    | .ok n =>
      if titled then
        let _ ← writeOutText name ((if isFirst then "" else "\n") ++ "==> " ++ shown o ++ " <==\n")
      match ← part n with
      | .error t =>
        toolSays name ("error reading " ++ quoteAlways (shown o) ++ ": " ++ t.message)
        return (false, 1)
      | .ok bytes =>
        let isWritten ← writeOutOr name "error writing 'standard output'" bytes
        return (false, if isWritten then status else 1)) (true, 0)
  return status

def head (name : String) (args : List String) : Act Nat :=
  withOptions name Portion.flags (Portion.spelledOut ['-'] args) 1 fun p => do
    match Portion.ofParsed p '-' '+' with
    | .error message =>
      toolSays name message
      return 1
    | .ok portion => writeParts name portion (orInput p.operands) fun n => readFirst n portion

def tail (name : String) (args : List String) : Act Nat := do
  let flags := Portion.flags ++ [⟨'f', "follow", .nothing⟩, ⟨'F', "", .nothing⟩]
  withOptions name flags (Portion.spelledOut ['-', '+'] args) 1 fun p => do
    match Portion.ofParsed p '+' '-' with
    | .error message =>
      toolSays name message
      return 1
    | .ok portion =>
      let status ← writeParts name portion (orInput p.operands) fun n => do
        return (← drain n).map portion.last
      -- a file may grow forever
      if (p.has 'f' || p.has 'F') && !p.operands.isEmpty then elapse forever
      return status

/-! ## Parts of lines -/

/-- Numbers from a first to a last one, if there is a last one. -/
structure Span where
  first : Nat
  last : Option Nat
  deriving DecidableEq, Repr

namespace Span

def has (s : Span) (n : Nat) : Bool :=
  s.first ≤ n && (s.last.map fun m => decide (n ≤ m)).getD true

def ofText (kind text : String) : Except String Span :=
  let cs := text.toList
  let before := cs.takeWhile Char.isDigit
  let after := cs.drop before.length
  let number (cs : List Char) : Nat := digitsValue 10 cs
  let zero := if kind = "fields" then "fields are numbered from 1"
    else "byte/character positions are numbered from 1"
  let bad := if kind = "fields" then "invalid field value " else "invalid byte/character position "
  match after with
  | [] =>
    if before.isEmpty then .error zero
    else if number before = 0 then .error zero
    else .ok ⟨number before, some (number before)⟩
  | '-' :: last =>
    if !last.all Char.isDigit then .error (bad ++ quoteText (String.ofList last))
    else if before.isEmpty && last.isEmpty then .error "invalid range with no endpoint: -"
    else
      let first := if before.isEmpty then 1 else number before
      if first = 0 then .error zero
      else if last.isEmpty then .ok ⟨first, none⟩
      else if number last < first then .error "invalid decreasing range"
      else .ok ⟨first, some (number last)⟩
  | _ => .error (bad ++ quoteText (String.ofList after))

/-- The spans of a list with commas or blanks in it. -/
def listOf (kind text : String) : Except String (List Span) :=
  let parts := text.toList.splitOnP fun c => c == ',' || c == ' ' || c == '\t'
  parts.mapM fun cs => ofText kind (String.ofList cs)

end Span

def cut (name : String) (args : List String) : Act Nat := do
  let flags : List Flag :=
    [ ⟨'b', "bytes", .value⟩, ⟨'c', "characters", .value⟩, ⟨'f', "fields", .value⟩,
      ⟨'d', "delimiter", .value⟩, ⟨'s', "only-delimited", .nothing⟩, ⟨'n', "", .nothing⟩,
      ⟨'\x03', "complement", .nothing⟩, ⟨'\x04', "output-delimiter", .value⟩ ]
  withOptions name flags args 1 fun p => do
    let lists := p.options.filter fun o => "bcf".toList.contains o.1
    match lists with
    | [] => misuse name "you must specify a list of bytes, characters, or fields" 1
    | _ :: _ :: _ => misuse name "only one list may be specified" 1
    | [(letter, list)] =>
      let byFields := letter == 'f'
      let delimiter := (p.value? 'd').getD "\t"
      if 1 < delimiter.length then return ← misuse name "the delimiter must be a single character" 1
      if (p.has 'd') && !byFields then
        return ← misuse name "an input delimiter may be specified only when operating on fields" 1
      if p.has 's' && !byFields then
        return ← misuse name
          ("suppressing non-delimited lines makes sense\n\tonly when operating on fields") 1
      match Span.listOf (if byFields then "fields" else "bytes") list with
      | .error message => misuse name message 1
      | .ok spans =>
        let keeps (n : Nat) : Bool := spans.any (·.has n) != p.has '\x03'
        let mark := delimiter.toList.head?.getD '\x00'
        let between := (p.value? '\x04').getD (String.ofList [mark])
        let line (s : String) : Option String :=
          if byFields then
            let fields := (s.toList.splitOnP (· == mark)).map String.ofList
            if fields.length ≤ 1 then if p.has 's' then none else some s
            else some (between.intercalate ((fields.zipIdx 1).filterMap fun (f, n) =>
              if keeps n then some f else none))
          else
            some (String.ofList ((s.toList.zipIdx 1).filterMap fun (c, n) =>
              if keeps n then some c else none))
        forOperands (orInput p.operands) fun o => do
          let (bytes, status) ← inputOf name [o]
          let written ← writeOutText name (joinLines ((linesOf bytes).filterMap line))
          return max status written

/-! ## Order -/

/-- A number in front of a line: its sign, whole part and decimals. -/
def leadingNumber (s : String) : Int × List Char :=
  let cs := s.toList.dropWhile fun c => c == ' ' || c == '\t'
  let (negative, cs) : Bool × List Char :=
    match cs with
    | '-' :: rest => (true, rest)
    | _ => (false, cs)
  let whole := cs.takeWhile Char.isDigit
  let decimals : List Char :=
    match cs.drop whole.length with
    | '.' :: rest => ((rest.takeWhile Char.isDigit).reverse.dropWhile (· == '0')).reverse
    | _ => []
  let n : Int := digitsValue 10 whole
  (if negative then -n else n, if negative then decimals.map fun c => Char.ofNat (0x100 - c.toNat)
    else decimals)

/-- Whether a line comes before another one, as bytes. -/
def comesBefore (a b : List Char) : Bool :=
  decide (String.ofList a < String.ofList b)

/-- The order that options ask for: less, equal or greater, as a number. -/
def compareLines (p : Parsed) (a b : String) : Ordering :=
  let key (s : String) : List Char :=
    let cs := if p.has 'b' then s.toList.dropWhile fun c => c == ' ' || c == '\t' else s.toList
    if p.has 'f' then cs.map Char.toUpper else cs
  let byText (x y : List Char) : Ordering :=
    if comesBefore x y then .lt else if comesBefore y x then .gt else .eq
  if p.has 'n' then
    let (x, dx) := leadingNumber a
    let (y, dy) := leadingNumber b
    if x < y then .lt else if y < x then .gt else byText dx dy
  else byText (key a) (key b)

def sort (name : String) (args : List String) : Act Nat := do
  let flags : List Flag :=
    [ ⟨'r', "reverse", .nothing⟩, ⟨'n', "numeric-sort", .nothing⟩, ⟨'u', "unique", .nothing⟩,
      ⟨'f', "ignore-case", .nothing⟩, ⟨'b', "ignore-leading-blanks", .nothing⟩,
      ⟨'s', "stable", .nothing⟩ ]
  withOptions name flags args 2 fun p => do
    let troubled ← p.operands.findM? fun o => do return (← operandSize o).isNone
    if let some o := troubled then
      toolSays name ("cannot read: " ++ quoteName o ++ ": No such file or directory")
      return 2
    let (bytes, status) ← inputOf name p.operands
    if status ≠ 0 then return 2
    let byKey (a b : String) : Ordering :=
      if p.has 'r' then (compareLines p a b).swap else compareLines p a b
    let whole (a b : String) : Ordering := if p.has 'r' then compare b a else compare a b
    let inOrder (a b : String) : Bool :=
      match byKey a b with
      | .lt => true
      | .gt => false
      | .eq => p.has 's' || p.has 'u' || whole a b != .gt
    let sorted := (linesOf bytes).mergeSort inOrder
    let kept :=
      if p.has 'u' then (sorted.splitBy fun a b => compareLines p a b == .eq).filterMap List.head?
      else sorted
    let text := Octets.toBytes (joinLines kept)
    match ← writeBytes 1 text with
    | .ok _ => return 0
    | .error t =>
      let what := if text.length < bufferSize then "fflush" else "write"
      toolSays name (what ++ " failed: 'standard output': " ++ t.message)
      toolSays name "write error"
      return 2

def uniq (name : String) (args : List String) : Act Nat := do
  let flags : List Flag :=
    [ ⟨'c', "count", .nothing⟩, ⟨'d', "repeated", .nothing⟩, ⟨'u', "unique", .nothing⟩,
      ⟨'i', "ignore-case", .nothing⟩ ]
  withOptions name flags args 1 fun p => do
    match p.operands with
    | _ :: _ :: extra :: _ => misuse name ("extra operand " ++ quoteText extra) 1
    | operands =>
      let (bytes, status) ← inputOf name (operands.take 1)
      if status ≠ 0 then return 1
      let key (s : String) : List Char := if p.has 'i' then s.toList.map Char.toLower else s.toList
      let groups := (linesOf bytes).splitBy fun a b => key a == key b
      let kept := groups.filter fun g =>
        (!p.has 'd' || 1 < g.length) && (!p.has 'u' || g.length == 1)
      let line (g : List String) : String :=
        let count := toString g.length
        let number := String.ofList (List.replicate (7 - count.length) ' ') ++ count ++ " "
        (if p.has 'c' then number else "") ++ g.headD ""
      let text := joinLines (kept.map line)
      match operands with
      | [_, target] =>
        match ← openPath target .write with
        | .error t =>
          toolSays name (quoteName target ++ ": " ++ t.message)
          return 1
        | .ok id =>
          change (·.connect 1 id)
          writeOutText name text
      | _ => writeOutText name text

def tac (name : String) (args : List String) : Act Nat :=
  withOptions name [] args 1 fun p => do
    let (lines, status) ← (orInput p.operands).foldlM (fun (lines, status) o => do
      match ← openOperand o with
      | .error t =>
        toolSays name ("failed to open " ++ quoteAlways o ++ " for reading: " ++ t.message)
        return (lines, 1)
      | .ok n =>
        match ← drain n with
        | .error _ =>
          toolSays name (quoteName o ++ ": read error: Invalid argument")
          return (lines, 1)
        | .ok bytes => return (lines ++ (Portion.linesWithEnds 0x0A bytes).reverse, status))
      (([] : List (List UInt8)), 0)
    return if ← writeOutVaguely name false lines.flatten then status else 1

def rev (name : String) (args : List String) : Act Nat :=
  withOptions name [] args 1 fun p => do
    let (bytes, status) ← (orInput p.operands).foldlM (fun (bytes, status) o => do
      match ← operandBytes o with
      | .ok more => return (bytes ++ more, status)
      | .error .isDirectory =>
        toolSays name (o ++ ": Is a directory")
        return (bytes, 1)
      | .error t =>
        toolSays name ("cannot open " ++ o ++ ": " ++ t.message)
        return (bytes, 1)) (([] : List UInt8), 0)
    let lines := (bytes.splitOn 0x0A).map List.reverse
    -- an output that is not there is not missed
    if (← streamOf? 1).isNone then return status
    let written ← writeOutVaguely name false (List.intercalate [0x0A] lines)
    return if written then status else 1

end Shell
end SymbolIndex
