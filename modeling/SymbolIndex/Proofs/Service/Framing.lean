import Mathlib.Data.List.TakeWhile
import SymbolIndex.Service
import SymbolIndex.Proofs.Batch.Workers
import SymbolIndex.Proofs.Record.Written

/-!
# A line for each line

With a parser that depends on the source alone, each request is answered by one line that depends on
nothing but that request.

- `Service.requests` : the requests that a text holds
- `Service.answerTo`, `Service.failsOn` : the answer to a request, and whether it is about an error
- `Service.respond_pure` : that is how the service responds
- `Service.Session.afterRequests`, `Service.serveLines_encode` : where a session stands after some
  lines
- `Service.serve_answers_each_request` : the answers to a text, and to two texts one after another
-/

namespace SymbolIndex

namespace Service

/-! ## Requests -/

/-- The lines of a text without white space around them. -/
def trimmedLines (text : String) : List String :=
  (text.toList.splitOn '\n').map fun line => Text.trim (String.ofList line)

/-- What is left of trimmed lines: those before the one that ends the session, unless they are
blank. -/
def served (trimmed : List String) : List String :=
  (trimmed.takeWhile (· ≠ sentinel)).filter (· ≠ "")

def requests (text : String) : List String :=
  served (trimmedLines text)

/-- Lines are served in parts as they are served together, unless the first part ends the session.
-/
theorem served_append {trimmed : List String} (h : sentinel ∉ trimmed) (rest : List String) :
    served (trimmed ++ rest) = served trimmed ++ served rest := by
  have hall : ∀ line ∈ trimmed, decide (line ≠ sentinel) = true := by
    intro line hline
    rw [decide_eq_true_eq]
    rintro rfl
    exact h hline
  have hbefore : trimmed.takeWhile (· ≠ sentinel) = trimmed := List.takeWhile_eq_self_iff.2 hall
  rw [served, List.takeWhile_append_of_pos hall, List.filter_append, served, hbefore, served]

theorem trimmedLines_append (a b : String) :
    trimmedLines (a ++ "\n" ++ b) = trimmedLines a ++ trimmedLines b := by
  have htext : (a ++ "\n" ++ b).toList = a.toList ++ '\n' :: b.toList := by
    rw [String.toList_append, String.toList_append, List.append_assoc]
    rfl
  rw [trimmedLines, htext, List.splitOn_append_cons_self, List.map_append]
  rfl

/-- Nothing follows the line feed at the end of the first text, so requests add up. -/
theorem requests_append {a : String} (h : sentinel ∉ trimmedLines (a ++ "\n")) (b : String) :
    requests (a ++ "\n" ++ b) = requests (a ++ "\n") ++ requests b := by
  have hlast : trimmedLines (a ++ "\n") = trimmedLines a ++ [""] := by
    have happend := trimmedLines_append a ""
    rw [String.append_empty] at happend
    rw [happend]
    rfl
  have hbefore : sentinel ∉ trimmedLines a := by
    intro hmem
    apply h
    rw [hlast]
    exact List.mem_append_left _ hmem
  have hblank : served [""] = [] := rfl
  rw [requests, requests, requests, trimmedLines_append, hlast, served_append hbefore,
    served_append hbefore, hblank, List.append_nil]

/-! ## Answers -/

section Answers

variable (f : String → Except ParserFault Json) (options : Options) (w : World)

/-- The answer to a request: the summary of a file, the summaries of the files that a document
lists, or what is wrong with the document. -/
def answerTo (request : String) : Json :=
  if isDocument request then
    match Request.ofText request with
    | .error fault => .obj [("error", .str fault.message)]
    | .ok r => Response.toJson
      { files := r.filenames.map fun path =>
          (indexFile (Parser.pure f) (options.forRequest r) path w).1
        elapsedMillis := 0 }
  else (indexFile (Parser.pure f) options request w).1.toJson

/-- Whether a request is answered by an error: a document that is no request, or a file that cannot
be indexed. -/
def failsOn (request : String) : Bool :=
  if isDocument request then !(Request.ofText request).isOk
  else (indexFile (Parser.pure f) options request w).1.isError

def answerLine (request : String) : String :=
  (answerTo f options w request).compact

/-- Answers hold no numbers but exact ones. -/
theorem integral_answerTo (request : String) : (answerTo f options w request).Integral := by
  unfold answerTo
  split
  · split
    · simp [Json.Integral, Json.IntegralFields]
    · exact Response.integral_toJson (Nat.zero_le Number.maxInt)
  · exact Summary.integral_toJson _

end Answers

section Sessions

variable (f : String → Except ParserFault Json) (options : Options) (pool : Pool) (store : Store)
  (memo : Memo)

/-- What is answered is what the specification says, whoever does the work. -/
theorem respond_pure (request : String) :
    respond (Parser.pure f) options pool request { store, memo } =
      (answerTo f options { store, memo } request, failsOn f options { store, memo } request,
        { store, memo }) := by
  unfold respond answerTo failsOn
  split
  · rw [answerText]
    cases Request.ofText request with
    | error fault => rfl
    | ok r =>
      simp only [answer, indexFiles_pure]
      rfl
  · rw [indexFile_pure options request memo memo]

/-- Where a session stands once it has answered further requests. -/
def Session.afterRequests (s : Session) (rs : List String) : Session :=
  { s with
    stats :=
      ⟨s.stats.requests + rs.length, s.stats.errors + rs.countP (failsOn f options s.world)⟩
    sink :=
      { s.sink with
        written :=
          s.sink.written ++ String.join (rs.map fun r => answerLine f options s.world r ++ "\n") } }

/-- A session in the given world whose answers are not refused. -/
structure Session.Running (s : Session) : Prop where
  world : s.world = { store, memo }
  writes : s.sink.refusesWrites = none
  flushes : s.sink.refusesFlush = none

variable {f options pool store memo} {s : Session}

theorem Session.Running.afterRequests (h : s.Running store memo) (rs : List String) :
    (s.afterRequests f options rs).Running store memo :=
  ⟨h.world, h.writes, h.flushes⟩

theorem Session.afterRequests_nil (s : Session) : s.afterRequests f options [] = s := by
  simp [afterRequests]

theorem Session.afterRequests_append (s : Session) (rs rs' : List String) :
    s.afterRequests f options (rs ++ rs') =
      (s.afterRequests f options rs).afterRequests f options rs' := by
  simp [afterRequests, String.join_append, String.append_assoc, Nat.add_assoc]

/-- One request adds its answer to what has been written and counts. -/
theorem Session.Running.serve (h : s.Running store memo) (request : String) :
    s.serve (Parser.pure f) options pool request = (none, s.afterRequests f options [request]) := by
  rcases s with ⟨stats, ⟨written, writes, flushes⟩, world⟩
  obtain ⟨rfl, hwrites, hflushes⟩ := h
  simp only at hwrites hflushes
  subst hwrites hflushes
  have hjoin : ∀ line : String, String.join [line] = line := by
    intro line
    rw [String.join_cons, String.join_nil, String.append_empty]
  simp only [Session.serve, respond_pure, Sink.put, Sink.flush, Session.afterRequests, hjoin,
    List.map_cons, List.map_nil, List.countP_singleton, List.length_singleton]
  rfl

/-- One line: it is passed over, ends the session, or is answered. -/
theorem turn_encode (h : s.Running store memo) (line : String) :
    turn (Parser.pure f) options pool (Utf8.encode line) s =
      if Text.trim line = "" then .next s
      else if Text.trim line = sentinel then .over (.ok s.stats) s
      else .next (s.afterRequests f options [Text.trim line]) := by
  rw [turn, Utf8.decode?_encode]
  simp only [h.serve]

/-- A session answers the requests among the lines. -/
theorem serveLines_encode (h : s.Running store memo) (ls : List String) :
    serveLines (Parser.pure f) options pool (ls.map Utf8.encode) s =
      (.ok (s.afterRequests f options (served (ls.map Text.trim))).stats,
        s.afterRequests f options (served (ls.map Text.trim))) := by
  induction ls generalizing s with
  | nil =>
    have hnone : served [] = [] := rfl
    rw [List.map_nil, List.map_nil, serveLines, hnone, Session.afterRequests_nil]
  | cons line ls ih =>
    rw [List.map_cons, List.map_cons, serveLines, turn_encode h]
    -- the three things that a line can do are the three ways in which the list of requests goes on
    by_cases hblank : Text.trim line = ""
    · have hserved : served (Text.trim line :: ls.map Text.trim) = served (ls.map Text.trim) := by
        rw [served, hblank, List.takeWhile_cons_of_pos (by decide),
          List.filter_cons_of_neg (by decide)]
        rfl
      rw [if_pos hblank, hserved]
      exact ih h
    · rw [if_neg hblank]
      by_cases hend : Text.trim line = sentinel
      · have hserved : served (Text.trim line :: ls.map Text.trim) = [] := by
          rw [served, hend, List.takeWhile_cons_of_neg (by decide)]
          rfl
        rw [if_pos hend, hserved, Session.afterRequests_nil]
      · have hserved : served (Text.trim line :: ls.map Text.trim) =
            [Text.trim line] ++ served (ls.map Text.trim) := by
          rw [served, List.takeWhile_cons_of_pos (by simpa using hend),
            List.filter_cons_of_pos (by simpa using hblank)]
          rfl
        rw [if_neg hend, hserved, Session.afterRequests_append]
        exact ih (h.afterRequests [Text.trim line])

end Sessions

/-! ## Lines -/

/-- A line feed is not part of the bytes of any other character. -/
theorem newline_not_mem_encodeChar {c : Char} (hc : c ≠ '\n') : 0x0A ∉ String.utf8EncodeChar c := by
  intro hmem
  by_cases hascii : c.toNat < 128
  · rw [Utf8.encodeChar_of_lt hascii, List.mem_singleton] at hmem
    refine hc (Char.toNat_inj.1 ?_)
    have hbyte := congrArg UInt8.toNat hmem
    rw [UInt8.toNat_ofNat', Nat.mod_eq_of_lt (by omega)] at hbyte
    exact hbyte.symm
  · exact absurd (Utf8.le_of_mem_encodeChar (Nat.le_of_not_lt hascii) hmem) (by decide)

/-- Bytes without a line feed belong to the first line of what follows. -/
theorem splitOn_append_of_not_mem {bs : List UInt8} (h : 0x0A ∉ bs) (rest : List UInt8) :
    (bs ++ rest).splitOn 0x0A = (rest.splitOn 0x0A).modifyHead (bs ++ ·) := by
  induction bs with
  | nil =>
    rw [List.nil_append]
    cases rest.splitOn 0x0A <;> rfl
  | cons b bs ih =>
    have hb : (b == 0x0A) = false := beq_eq_false_iff_ne.2 (Ne.symm (List.ne_of_not_mem_cons h))
    rw [List.cons_append, List.splitOn_cons_eq_if_modifyHead, hb,
      ih (List.not_mem_of_not_mem_cons h)]
    cases rest.splitOn 0x0A <;> rfl

/-- A text is split into lines as its bytes are. -/
theorem splitOn_bytes (cs : List Char) :
    (Utf8.bytes cs).splitOn 0x0A = (cs.splitOn '\n').map Utf8.bytes := by
  induction cs with
  | nil => rfl
  | cons c cs ih =>
    rw [List.splitOn_cons_eq_if_modifyHead]
    by_cases hc : c = '\n'
    · subst hc
      show (0x0A :: Utf8.bytes cs).splitOn 0x0A = _
      rw [List.splitOn_cons_eq_if_modifyHead, ih]
      rfl
    · rw [Utf8.bytes_cons, splitOn_append_of_not_mem (newline_not_mem_encodeChar hc), ih,
        beq_eq_false_iff_ne.2 hc]
      cases cs.splitOn '\n' <;> rfl

/-- The empty piece behind the last line feed is passed over like any blank line. -/
theorem serveLines_lines (parser : Parser) (options : Options) (pool : Pool) (input : List UInt8)
    (s : Session) :
    serveLines parser options pool (lines input) s =
      serveLines parser options pool (input.splitOn 0x0A) s := by
  have hblank : ∀ ls s, serveLines parser options pool (ls ++ [[]]) s =
      serveLines parser options pool ls s := by
    intro ls
    induction ls with
    | nil =>
      intro s
      rfl
    | cons line ls ih =>
      intro s
      rw [List.cons_append, serveLines, serveLines]
      rcases turn parser options pool line s with s | ⟨result, s⟩
      · exact ih s
      · rfl
  unfold lines
  simp only
  split
  · rename_i hlast
    rw [← List.dropLast_append_getLast? [] hlast, hblank, List.dropLast_concat]
  · rfl

/-- Serving a text is answering its requests. -/
theorem serve_encode (f : String → Except ParserFault Json) (options : Options) (pool : Pool)
    (store : Store) (memo : Memo) (text : String) :
    ∃ s, serve (Parser.pure f) options pool (Utf8.encode text) {} { store, memo } =
        (.ok
          ⟨(requests text).length, (requests text).countP (failsOn f options { store, memo })⟩, s) ∧
      s.sink.written =
        String.join ((requests text).map fun r =>
          answerLine f options { store, memo } r ++ "\n") := by
  have hrunning : Session.Running store memo { world := { store, memo } } := ⟨rfl, rfl, rfl⟩
  have hsplit : (Utf8.encode text).splitOn 0x0A =
      ((text.toList.splitOn '\n').map String.ofList).map Utf8.encode := by
    rw [Utf8.encode_eq, splitOn_bytes, List.map_map]
    refine List.map_congr_left fun line _ => ?_
    rw [Function.comp_apply, Utf8.encode_eq, String.toList_ofList]
  have hrequests : served (((text.toList.splitOn '\n').map String.ofList).map Text.trim) =
      requests text := by
    rw [List.map_map]
    rfl
  refine ⟨Session.afterRequests f options { world := { store, memo } } (requests text), ?_, ?_⟩
  · rw [serve, serveLines_lines, hsplit, serveLines_encode hrunning, hrequests]
    simp [Session.afterRequests]
  · simp [Session.afterRequests]

/-- Texts without line feeds, each with a line feed behind it, are told apart again. -/
theorem lines_join (ls : List String) (h : ∀ l ∈ ls, '\n' ∉ l.toList) :
    lines (Utf8.encode (String.join (ls.map (· ++ "\n")))) = ls.map Utf8.encode := by
  have hsplit : (String.join (ls.map (· ++ "\n"))).toList.splitOn '\n' =
      ls.map String.toList ++ [[]] := by
    induction ls with
    | nil => rfl
    | cons l ls ih =>
      have hfirst : (l ++ "\n" ++ String.join (ls.map (· ++ "\n"))).toList =
          l.toList ++ '\n' :: (String.join (ls.map (· ++ "\n"))).toList := by
        rw [String.toList_append, String.toList_append, List.append_assoc]
        rfl
      rw [List.map_cons, String.join_cons, hfirst,
        List.splitOn_append_cons_self_of_not_mem (h l List.mem_cons_self),
        ih fun l' hl' => h l' (List.mem_cons_of_mem l hl')]
      rfl
  have hbytes : (ls.map String.toList).map Utf8.bytes = ls.map Utf8.encode := by
    rw [List.map_map]
    exact List.map_congr_left fun l _ => (Utf8.encode_eq l).symm
  have hnil : Utf8.bytes [] = [] := rfl
  rw [lines, Utf8.encode_eq, splitOn_bytes, hsplit, List.map_append, hbytes,
    List.map_singleton, hnil]
  simp only [List.getLast?_concat, if_true, List.dropLast_concat]

/-! ## The service -/

/-- The requests that fail are the documents that are no requests and the files that cannot be
indexed. -/
theorem countP_failsOn (f : String → Except ParserFault Json) (options : Options) (w : World)
    (rs : List String) :
    rs.countP (failsOn f options w) =
      (rs.filter isDocument).countP (fun r => !(Request.ofText r).isOk) +
        (rs.filter (!isDocument ·)).countP
          fun r => (indexFile (Parser.pure f) options r w).1.isError := by
  rw [List.countP_eq_countP_filter_add rs _ isDocument]
  congr 1
  · refine List.countP_congr fun r hr => ?_
    have hdocument := (List.mem_filter.1 hr).2
    rw [failsOn, if_pos hdocument]
  · refine List.countP_congr fun r hr => ?_
    have hpath : isDocument r = false := by simpa using (List.mem_filter.1 hr).2
    rw [failsOn, hpath]
    rfl

/-- A text is served by answering its requests, each by one line. The line is a document on its own
and depends on its request alone, and a reader of lines gets all of them back. Errors are the
documents that are no requests and the files that cannot be indexed. If a text ends with a line feed
and does not end the session, then whatever follows is served as on its own. -/
theorem serve_answers_each_request (f : String → Except ParserFault Json) (options : Options)
    (pool : Pool) (w : World) (hw : w.input = none) :
    (∀ request, '\n' ∉ (answerLine f options w request).toList ∧
      Json.readText none (answerLine f options w request) =
        .ok (answerTo f options w request).arranged) ∧
    (∀ text, ∃ s,
      serve (Parser.pure f) options pool (Utf8.encode text) {} w =
        (.ok ⟨(requests text).length,
          ((requests text).filter isDocument).countP (fun r => !(Request.ofText r).isOk) +
          ((requests text).filter (!isDocument ·)).countP
            fun r => (indexFile (Parser.pure f) options r w).1.isError⟩, s) ∧
      s.sink.written = String.join ((requests text).map fun r => answerLine f options w r ++ "\n") ∧
      lines (Utf8.encode s.sink.written) =
        (requests text).map fun r => Utf8.encode (answerLine f options w r)) ∧
    ∀ a b, sentinel ∉ trimmedLines (a ++ "\n") → ∃ m n sa sb s,
      serve (Parser.pure f) options pool (Utf8.encode (a ++ "\n")) {} w = (.ok m, sa) ∧
      serve (Parser.pure f) options pool (Utf8.encode b) {} w = (.ok n, sb) ∧
      serve (Parser.pure f) options pool (Utf8.encode (a ++ "\n" ++ b)) {} w =
        (.ok ⟨m.requests + n.requests, m.errors + n.errors⟩, s) ∧
      s.sink.written = sa.sink.written ++ sb.sink.written := by
  rcases w with ⟨store, memo, input⟩
  simp only at hw
  subst hw
  have hline : ∀ request, '\n' ∉ (answerLine f options { store, memo } request).toList ∧
      Json.readText none (answerLine f options { store, memo } request) =
        .ok (answerTo f options { store, memo } request).arranged :=
    fun request => Json.readText_compact (integral_answerTo f options _ request)
  refine ⟨hline, ?_, ?_⟩
  · intro text
    rcases serve_encode f options pool store memo text with ⟨s, hserve, hwritten⟩
    have hlines := lines_join ((requests text).map (answerLine f options { store, memo })) (by
      intro l hl
      rcases List.mem_map.1 hl with ⟨r, -, rfl⟩
      exact (hline r).1)
    rw [List.map_map, List.map_map] at hlines
    refine ⟨s, ?_, hwritten, ?_⟩
    · rw [hserve, countP_failsOn]
    · rw [hwritten]
      exact hlines
  · -- each of the three texts is served by its own requests, and the requests append
    intro a b ha
    rcases serve_encode f options pool store memo (a ++ "\n") with ⟨sa, hsa, hwa⟩
    rcases serve_encode f options pool store memo b with ⟨sb, hsb, hwb⟩
    rcases serve_encode f options pool store memo (a ++ "\n" ++ b) with ⟨s, hs, hw⟩
    rw [requests_append ha, List.length_append, List.countP_append] at hs
    rw [requests_append ha, List.map_append, String.join_append, ← hwa, ← hwb] at hw
    exact ⟨_, _, sa, sb, s, hsa, hsb, hs, hw⟩

/-- One file, which holds a tree. -/
def worldOfTree : World :=
  { store :=
      ⟨.dir [("u", .file 0)], [(0, { bytes := Utf8.encode "\x7b\"type\":\"Source\"\x7d" })], []⟩
    memo := .new 0 }

/-- Two workers who take the files up from the last one on. -/
def backwards : Pool :=
  ⟨2, List.reverse, List.reverse_perm⟩

/-- A file, a document that is no request, a blank line and a file that is missing. -/
def fourLines : String := "u\n\x7b\"names\": []\x7d\n\n v "

/-- A document that lists two files, and a line that ends the session before the last one. -/
def threeLines : String := "\x7b\"filenames\": [\"v\", \"u\"]\x7d\n<<EOF>>\nu"

theorem serve_answers_each_request_two :
    worldOfTree.input = none ∧ sentinel ∉ trimmedLines (fourLines ++ "\n") ∧
    ∃ sa sb s,
      serve Parser.tree {} backwards (Utf8.encode (fourLines ++ "\n")) {} worldOfTree =
        (.ok ⟨3, 2⟩, sa) ∧
      serve Parser.tree {} backwards (Utf8.encode threeLines) {} worldOfTree = (.ok ⟨1, 0⟩, sb) ∧
      sb.sink.written =
        "\x7b\"files\":[\x7b\"filename\":\"v\",\"error\":\"file not found: v\"\x7d," ++
        "\x7b\"filename\":\"u\"\x7d],\"elapsedMillis\":0\x7d\n" ∧
      serve Parser.tree {} backwards (Utf8.encode (fourLines ++ "\n" ++ threeLines)) {}
        worldOfTree = (.ok ⟨4, 2⟩, s) ∧
      s.sink.written = sa.sink.written ++ sb.sink.written := by
  have hsentinel : sentinel ∉ trimmedLines (fourLines ++ "\n") := by decide +kernel
  obtain ⟨-, -, htwo⟩ :=
    serve_answers_each_request (fun source => .ok (Parser.treeOf source)) {} backwards worldOfTree
      rfl
  rcases htwo fourLines threeLines hsentinel with ⟨m, n, sa, sb, s, hsa, hsb, hs, hwritten⟩
  have hm : (serve Parser.tree {} backwards (Utf8.encode (fourLines ++ "\n")) {}
      worldOfTree).1.toOption = some ⟨3, 2⟩ := by decide +kernel
  have hn : (serve Parser.tree {} backwards (Utf8.encode threeLines) {} worldOfTree).1.toOption =
      some ⟨1, 0⟩ := by decide +kernel
  have hlast : (serve Parser.tree {} backwards (Utf8.encode threeLines) {}
      worldOfTree).2.sink.written =
        "\x7b\"files\":[\x7b\"filename\":\"v\",\"error\":\"file not found: v\"\x7d," ++
          "\x7b\"filename\":\"u\"\x7d],\"elapsedMillis\":0\x7d\n" := by decide +kernel
  have htree : Parser.tree = Parser.pure fun source => .ok (Parser.treeOf source) := rfl
  rw [htree] at hm hn hlast ⊢
  rw [hsa] at hm
  rw [hsb] at hn hlast
  obtain rfl : m = ⟨3, 2⟩ := Option.some.inj hm
  obtain rfl : n = ⟨1, 0⟩ := Option.some.inj hn
  exact ⟨rfl, hsentinel, sa, sb, s, hsa, hsb, hlast, hs, hwritten⟩

end Service
end SymbolIndex
