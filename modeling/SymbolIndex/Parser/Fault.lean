import SymbolIndex.Fault.Basic
import SymbolIndex.Json.Fault

/-!
# Faults of parsers

- `ParserFault` : why a parser gives no tree
- `durationText` : a time span in a message
- `ParserFault.message` : the wording
-/

namespace SymbolIndex

/-- Why a parser gives no tree. -/
inductive ParserFault where
  | emptyCommand
  | notFound (name : String)
  | spawn (program : String) (cause : String)
  | timeout (millis : Nat)
  | failed (code : Option Int) (stderr : String)
  | invalidOutput (fault : Json.Fault)
  | io (cause : String)
  deriving DecidableEq, Repr

/-- The digits of a fraction of a thousand, without trailing zeros. -/
def thousandths (n : Nat) : List Char :=
  let digits := [n / 100 % 10, n / 10 % 10, n % 10].map Nat.digitChar
  (digits.reverse.dropWhile (· == '0')).reverse

/-- A time span: seconds with the decimals that it needs, or milliseconds if it is shorter. -/
def durationText (millis : Nat) : String :=
  if millis = 0 then "0ns"
  else if millis < 1000 then toString millis ++ "ms"
  else
    match thousandths (millis % 1000) with
    | [] => toString (millis / 1000) ++ "s"
    | digits => toString (millis / 1000) ++ "." ++ String.ofList digits ++ "s"

namespace ParserFault

/-- How an exit status is shown; there is none if the process was killed. -/
def statusText : Option Int → String
  | none => "None"
  | some code => "Some(" ++ toString code ++ ")"

def message : ParserFault → String
  | .emptyCommand => "parser command is empty"
  | .notFound name => "parser executable not found: " ++ name
  | .spawn program cause => "failed to start parser " ++ program ++ ": " ++ cause
  | .timeout millis => "parser timed out after " ++ durationText millis
  | .failed code stderr => "parser exited with status " ++ statusText code ++ ": " ++ stderr
  | .invalidOutput fault => "parser produced invalid JSON: " ++ fault.message
  | .io cause => "parser IO error: " ++ cause

def toFault (f : ParserFault) : Fault :=
  .parser f.message

end ParserFault
end SymbolIndex
