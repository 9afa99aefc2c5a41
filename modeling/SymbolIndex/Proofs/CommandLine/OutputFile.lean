import SymbolIndex.CommandLine.Run
import SymbolIndex.Proofs.Batch.Agreement
import SymbolIndex.Proofs.Store.OneFile

/-!
# Indexing into a file

The file is opened and emptied before the inputs are looked at, and what has been opened is written
to in the end, wherever it is by then.

- `runIndex_cases` : a task that fails has written nothing and changed nothing
- `runIndex_eq_of_sameBut` : the same response in two stores that differ in a file that is not
  looked at
- `runIndexToFile_eq` : the file that has been opened, the task, and the file that is written
- `output_file_lost` : a task that fails has emptied the file, and an input that is the output file
  is empty
- `runIndexToFile_of_target` : the response is the one from the store with the emptied file
-/

namespace SymbolIndex

variable {host : Host} {s : Settings} {inputs : List String} {output : String} {pretty : Bool}
variable {store emptied a b : Store} {input : Option (List UInt8)} {place : List String} {id : Nat}

/-! ## Indexing -/

/-- A task that fails has written nothing and changed nothing. -/
theorem runIndex_cases (host : Host) (s : Settings) (inputs : List String) (pretty : Bool)
    (store : Store) (input : Option (List UInt8)) :
    (∃ f, runIndex host s inputs pretty {} store input = ⟨.error f, {}, store⟩) ∨
    ∃ r after, runIndex host s inputs pretty {} store input =
      ⟨.ok r, { written := emit pretty r.toJson }, after⟩ := by
  unfold runIndex
  split
  · exact Or.inl ⟨_, rfl⟩
  · cases Parser.ofSettings host s.parser store with
    | error f => exact Or.inl ⟨f, rfl⟩
    | ok built =>
      obtain ⟨parser, w⟩ := built
      dsimp only
      obtain ⟨response, w'⟩ := answer parser s.index (host.pool s.jobs)
        { filenames := store.expand inputs } { w with input }
      refine Or.inr ⟨response, w'.store, ?_⟩
      simp [writeResponse, Sink.put]

/-- Nothing is written by indexing that fails. -/
theorem written_of_error {f : Failure}
    (h : (runIndex host s inputs pretty {} store input).result = .error f) :
    (runIndex host s inputs pretty {} store input).sink.written = "" := by
  rcases runIndex_cases host s inputs pretty store input with ⟨g, hran⟩ | ⟨r, after, hran⟩
  · rw [hran]
  · rw [hran] at h
    cases h

/-- What is written is the response and nothing else. -/
theorem written_of_ok {r : Response}
    (h : (runIndex host s inputs pretty {} store input).result = .ok r) :
    (runIndex host s inputs pretty {} store input).sink.written = emit pretty r.toJson := by
  rcases runIndex_cases host s inputs pretty store input with ⟨g, hran⟩ | ⟨r', after, hran⟩
  · rw [hran] at h
    cases h
  · rw [hran] at h ⊢
    cases h
    rfl

/-- Indexing finds and writes the same in two stores in which it parses and reads the same. -/
theorem runIndex_alike (hparser : s.parser.Agrees host a b)
    (hexpand : a.expand inputs = b.expand inputs)
    (hread : ∀ path ∈ b.expand inputs,
      a.readText path = b.readText path ∧ a.channel? path = b.channel? path) (sink : Sink) :
    ∃ result after, runIndex host s inputs pretty sink a input = ⟨result, after, a⟩ ∧
      runIndex host s inputs pretty sink b input = ⟨result, after, b⟩ := by
  unfold runIndex
  split
  · exact ⟨_, _, rfl, rfl⟩
  · rw [hexpand]
    rcases Parser.exists_ofSettings hparser with ⟨f, ha, hb⟩ | ⟨parser, w, ha, hb, halike⟩
    · rw [ha, hb]
      exact ⟨_, _, rfl, rfl⟩
    · rw [ha, hb]
      have hanswer : Alike a b
          (answer parser s.index (host.pool s.jobs) { filenames := b.expand inputs }) :=
        alike_answer halike
          (fun path hpath => alike_readText (hread path hpath).1 (hread path hpath).2) _ _
      obtain ⟨response, w', hleft, hright⟩ := hanswer { w with input }
      dsimp only at hleft hright ⊢
      rw [hleft, hright]
      dsimp only [writeResponse]
      cases sink.put (emit pretty response.toJson) with
      | ok sink => exact ⟨_, _, rfl, rfl⟩
      | error f => exact ⟨_, _, rfl, rfl⟩

/-- A task that fails changes no file, and neither does one whose parser leaves all files alone. -/
theorem runIndex_store_eq
    (hstore : (∃ f, (runIndex host s inputs pretty {} store input).result = .error f) ∨
      s.parser.Agrees host store store) :
    (runIndex host s inputs pretty {} store input).store = store := by
  rcases hstore with ⟨f, hf⟩ | hagrees
  · rcases runIndex_cases host s inputs pretty store input with ⟨g, hran⟩ | ⟨r, after, hran⟩
    · rw [hran]
    · rw [hran] at hf
      cases hf
  · obtain ⟨result, after, hran, -⟩ := runIndex_alike hagrees rfl (fun _ _ => ⟨rfl, rfl⟩) {}
    rw [hran]

/-! ## Indexing into a file -/

/-- The file is opened and emptied, then comes the task, and then the file is written. -/
theorem runIndexToFile_eq (hcreate : store.create output false = .ok (.file id, emptied)) :
    runIndexToFile host s inputs output pretty store input =
      let there := runIndex host s inputs pretty {} emptied input
      { there with store := there.store.writeFile id 0 (Utf8.encode there.sink.written) } := by
  unfold runIndexToFile
  rw [hcreate]
  rfl

/-- If none of the paths that are read leads to the output file, the task does the same before and
after the file has been emptied. -/
theorem runIndex_eq_of_sameBut (hsame : Store.SameBut place.reverse id store emptied)
    (hempty : emptied.HoldsFile output place id []) (hroot : store.root.wellFormed = true)
    (hemptied : emptied.root.wellFormed = true) (hparser : s.parser.Agrees host store emptied)
    (hfree : ∀ path ∈ emptied.expand inputs, ¬ emptied.Meets path id) (pretty : Bool)
    (input : Option (List UInt8)) :
    ∃ result after, runIndex host s inputs pretty {} store input = ⟨result, after, store⟩ ∧
      runIndex host s inputs pretty {} emptied input = ⟨result, after, emptied⟩ := by
  have hexpand := Store.expand_eq_of_sameBut hsame hroot hemptied hempty.listed hfree
  refine runIndex_alike hparser hexpand ?_ {}
  intro path hpath
  have haround := hfree path hpath
  exact ⟨Store.readText_eq_of_sameBut hsame hempty.listed haround,
    Store.channel?_eq_of_sameBut hsame hempty.listed haround⟩

/-- A tree without statements. -/
def emptyTreeText : String := "\x7b\"type\":\"Source\",\"stats\":[]\x7d"

/-- A store with one source file and a device. -/
def filledStore : Store :=
  ⟨.dir [("F.scala", .file 0), ("dev", .dir [("null", .device .null)])],
    [(0, { bytes := Utf8.encode emptyTreeText })], []⟩

/-- A host whose programs write what they read. With one argument they write it to a file as well,
and with two they rename a file before. -/
def meddlingHost : Host where
  find? _ name := some ("/bin/" ++ name)
  run store _ args input _ :=
    let after : Store :=
      match args with
      | [copy] =>
        let written := (store.create copy false).bind fun made => made.2.write made.1 0 input
        written.toOption.getD store
      | [old, new] =>
        { store with
          root := (store.root.at? [old]).elim store.root fun e =>
            (store.root.put [new] e).erase [old] }
      | _ => store
    (.ended (some 0) input [], after)
  refusal? _ := none

/-- The parser is a program of the host. -/
def parsedBy (command : List String) : Settings :=
  { parser := { kind := .command, command } }

/-- A task that fails has emptied the file. An input that is the output file is read as empty, so
that the response is another one. A device does not hold the response. A parser may write to other
files, and it may move the output file away, so that the response is not where it has been asked
for. -/
theorem output_file_lost :
    ((runIndexToFile meddlingHost {} [] "F.scala" false filledStore none).result =
        .error (.fault (.invalidArguments "no input files or directories given")) ∧
      filledStore.read "F.scala" = .ok (Utf8.encode emptyTreeText) ∧
      (runIndexToFile meddlingHost {} [] "F.scala" false filledStore none).store.read "F.scala" =
        .ok []) ∧
    (runIndexToFile meddlingHost {} ["F.scala"] "F.scala" false filledStore none).result ≠
      (runIndex meddlingHost {} ["F.scala"] false {} filledStore none).result ∧
    ((runIndex meddlingHost {} ["F.scala"] false {} filledStore none).sink.written ≠ "" ∧
      (runIndexToFile meddlingHost {} ["F.scala"] "/dev/null" false filledStore none).store.read
        "/dev/null" = .ok []) ∧
    (filledStore.read "log" = .error .notFound ∧
      ((runIndexToFile meddlingHost (parsedBy ["tee", "log"]) ["F.scala"] "out.json" false
          filledStore none).store.read "log").toOption = some (Utf8.encode emptyTreeText)) ∧
    let moved := runIndexToFile meddlingHost (parsedBy ["mv", "out.json", "x"]) ["F.scala"]
      "out.json" false filledStore none
    moved.store.read "out.json" = .error .notFound ∧
      (moved.store.read "x").toOption = some (Utf8.encode moved.sink.written) := by
  refine ⟨⟨rfl, rfl, rfl⟩, ?_, ⟨by decide +kernel, rfl⟩, ⟨rfl, by decide +kernel⟩, ?_⟩
  · intro hsame
    -- one response holds an error, the other does not
    have herrors := congrArg (fun r => r.toOption.map fun r => r.files.map Summary.error) hsame
    revert herrors
    decide +kernel
  · decide +kernel

/-- A response that goes into a file is the one from the store in which that file has been emptied
or made. If the task fails, the file stays empty and nothing else has changed. If it succeeds, what
the task has written stands at the start of the file that was opened, wherever the parser has moved
it, and all else is as the task leaves it. So the path names a file with just that text, as long as
the parser leaves the empty file alone. If the task does not look at the file, all this is as in the
store from before. -/
theorem runIndexToFile_of_target (host : Host) (s : Settings) (inputs : List String) (pretty : Bool)
    (input : Option (List UInt8)) (hplace : store.target output = .ok place)
    (hfile : ∀ e, store.root.at? place.reverse = some e → e.isFile = true) :
    ∃ id emptied, store.create output false = .ok (.file id, emptied) ∧
      (store.root.at? place.reverse = some (.file id) ∨ ∀ ns, store.root.at? ns ≠ some (.file id)) ∧
      emptied.HoldsFile output place id [] ∧ Store.SameBut place.reverse id store emptied ∧
      let ran := runIndexToFile host s inputs output pretty store input
      let there := runIndex host s inputs pretty {} emptied input
      let here := runIndex host s inputs pretty {} store input
      let text := Utf8.encode there.sink.written
      ran.result = there.result ∧
      (∀ f, ran.result = .error f →
        ran.store.HoldsFile output place id [] ∧ Store.SameBut place.reverse id store ran.store) ∧
      (∀ r, ran.result = .ok r → there.sink.written = emit pretty r.toJson ∧
        Store.WritesOver there.store ran.store id text ∧
        (there.store.HoldsFile output place id [] → ran.store.HoldsFile output place id text) ∧
        (s.parser.Agrees host emptied emptied →
          ran.store.HoldsFile output place id text ∧
            Store.SameBut place.reverse id store ran.store)) ∧
      (store.root.wellFormed = true → s.parser.Agrees host store emptied →
        (∀ path ∈ emptied.expand inputs, ¬ emptied.Meets path id) →
        here.result = there.result ∧ here.sink.written = there.sink.written) := by
  obtain ⟨id, emptied, hcreate, hnumber, hsame, hempty, hwf⟩ := Store.exists_create hplace hfile
  refine ⟨id, emptied, hcreate, hnumber, hempty, hsame, ?_⟩
  intro ran there here text
  have hran : ran = { there with store := there.store.writeFile id 0 text } :=
    runIndexToFile_eq hcreate
  have hresult : ran.result = there.result := by rw [hran]
  have hwrites : Store.WritesOver there.store ran.store id text := by
    rw [hran]
    exact Store.writesOver_writeFile there.store id text
  -- if the run itself leaves the files alone, all that changes is the text in the opened file
  have hkept : there.store = emptied →
      ran.store.HoldsFile output place id text ∧
        Store.SameBut place.reverse id store ran.store := by
    intro hstore
    rw [hstore] at hwrites
    exact ⟨hwrites.holdsFile hempty, hsame.trans (hwrites.sameBut _)⟩
  refine ⟨hresult, ?_, ?_, ?_⟩
  · intro f hf
    rw [hresult] at hf
    have hnothing : text = [] := by
      show Utf8.encode there.sink.written = []
      rw [written_of_error hf]
      rfl
    rw [← hnothing]
    exact hkept (runIndex_store_eq (Or.inl ⟨f, hf⟩))
  · intro r hr
    rw [hresult] at hr
    exact ⟨written_of_ok hr, hwrites, hwrites.holdsFile,
      fun hagrees => hkept (runIndex_store_eq (Or.inr hagrees))⟩
  · intro hroot hparser hfree
    obtain ⟨result, after, hhere, hthere⟩ :=
      runIndex_eq_of_sameBut hsame hempty hroot (hwf hroot) hparser hfree pretty input
    have hhere : here = ⟨result, after, store⟩ := hhere
    have hthere : there = ⟨result, after, emptied⟩ := hthere
    rw [hhere, hthere]
    exact ⟨rfl, rfl⟩

theorem runIndexToFile_of_target_filledStore :
    filledStore.target "out.json" = .ok ["out.json"] ∧
    (runIndexToFile meddlingHost {} ["F.scala"] "out.json" false filledStore none).result =
      (runIndex meddlingHost {} ["F.scala"] false {} filledStore none).result ∧
    (runIndexToFile meddlingHost {} ["F.scala"] "out.json" false filledStore none).store.read
        "out.json" =
      .ok (Utf8.encode
        (runIndex meddlingHost {} ["F.scala"] false {} filledStore none).sink.written) := by
  have htarget : filledStore.target "out.json" = .ok ["out.json"] := rfl
  have htree : ∀ a b, ({} : Settings).parser.Agrees meddlingHost a b :=
    ParserSettings.agrees_of_tree rfl meddlingHost
  obtain ⟨id, emptied, hcreate, -, -, -, hresult, -, hok, hagree⟩ :=
    runIndexToFile_of_target meddlingHost {} ["F.scala"] false none htarget
      (fun e he => by cases he)
  -- the file is new, so that its number is the unused one
  have hmade : (Store.Handle.file filledStore.unused, (filledStore.newFile ["out.json"] {}).2) =
      (.file id, emptied) := Except.ok.inj hcreate
  obtain rfl : filledStore.unused = id := Store.Handle.file.inj (congrArg Prod.fst hmade)
  obtain rfl : (filledStore.newFile ["out.json"] {}).2 = emptied := congrArg Prod.snd hmade
  have hfree : ∀ path ∈ (filledStore.newFile ["out.json"] {}).2.expand ["F.scala"],
      ¬ (filledStore.newFile ["out.json"] {}).2.Meets path filledStore.unused := by
    intro path hpath
    obtain rfl : path = "F.scala" := List.mem_singleton.1 hpath
    rintro ⟨front, place, hfront, hfollow, hat⟩
    have hnames : Path.names "F.scala" = ["F.scala"] := by decide
    rw [hnames, List.prefix_cons_iff] at hfront
    rcases hfront with rfl | ⟨rest, rfl, hrest⟩
    · cases hfollow
      cases hat
    · cases List.prefix_nil.1 hrest
      cases hfollow
      cases hat
  obtain ⟨hhere, htext⟩ := hagree (by decide +kernel) (htree _ _) hfree
  obtain ⟨r, hr⟩ : ∃ r,
      (runIndex meddlingHost {} ["F.scala"] false {} filledStore none).result = .ok r := ⟨_, rfl⟩
  obtain ⟨-, -, -, hkept⟩ := hok r (hresult.trans (hhere.symm.trans hr))
  refine ⟨htarget, hresult.trans hhere.symm, ?_⟩
  rw [htext]
  exact (hkept (htree _ _)).1.read_eq

end SymbolIndex
