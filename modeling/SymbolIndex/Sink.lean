import SymbolIndex.Fault.Io

/-!
# Sinks

- `Sink` : where answers go
- `Sink.put`, `Sink.flush` : writing, which may be refused
-/

namespace SymbolIndex

/-- Where answers go: what has been written, and what is refused from now on. -/
structure Sink where
  written : String := ""
  refusesWrites : Option IoFault := none
  refusesFlush : Option IoFault := none
  deriving Inhabited

namespace Sink

def put (s : Sink) (text : String) : Except IoFault Sink :=
  match s.refusesWrites with
  | some f => .error f
  | none => .ok { s with written := s.written ++ text }

def flush (s : Sink) : Except IoFault Unit :=
  match s.refusesFlush with
  | some f => .error f
  | none => .ok ()

end Sink
end SymbolIndex
