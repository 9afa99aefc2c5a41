import SymbolIndex.Proofs.Record.Decoding

/-!
# Records survive their written form

Summaries, responses and requests are decoded to what they were, whatever texts they hold, although
a summary leaves out everything that is empty.

- `Summary.shows` : the fields of a summary that are written
- `Summary.keys_written` : exactly those are written, in order
- `Summary.decode_of_sameFields`, `Response.decode_of_sameFields` : decoding, in whatever order the
  fields stand
- `records_survive` : records come back from their documents and texts
-/

namespace SymbolIndex

/-! ## Summaries -/

namespace Summary

def copyField (t s : Summary) (f : String) : Summary :=
  { filename := if f = "filename" then s.filename else t.filename
    error := if f = "error" then s.error else t.error
    tree := if f = "tree" then s.tree else t.tree
    packages := if f = "packages" then s.packages else t.packages
    imports := if f = "imports" then s.imports else t.imports
    classes := if f = "classes" then s.classes else t.classes
    traits := if f = "traits" then s.traits else t.traits
    objects := if f = "objects" then s.objects else t.objects
    vals := if f = "vals" then s.vals else t.vals
    types := if f = "types" then s.types else t.types
    names := if f = "names" then s.names else t.names
    supertypes := if f = "extends" then s.supertypes else t.supertypes }

theorem copies_copyField : Decode.Copies fieldNames copyField where
  again t s f := by
    simp only [copyField, Decode.ite_again]
  swap t s f g := by
    simp only [copyField]
    congr 1 <;> exact Decode.ite_swap _ _ _ _ _
  complete t s h := by
    cases s
    cases t
    simp_all [fieldNames, copyField]

/-- Whether a field is written: all but the file name are left out when they hold nothing. -/
def shows (s : Summary) : String → Bool
  | "filename" => true
  | "error" => s.error.isSome
  | "tree" => s.tree.isSome
  | "packages" => !s.packages.isEmpty
  | "imports" => !s.imports.isEmpty
  | "classes" => !s.classes.isEmpty
  | "traits" => !s.traits.isEmpty
  | "objects" => !s.objects.isEmpty
  | "vals" => !s.vals.isEmpty
  | "types" => !s.types.isEmpty
  | "names" => !s.names.isEmpty
  | "extends" => !s.supertypes.entries.isEmpty
  | _ => false

theorem keys_optionalText (key : String) (o : Option String) :
    Assoc.keys (optionalText key o) = if o.isSome then [key] else [] := by
  cases o <;> rfl

theorem keys_texts (key : String) (xs : List String) :
    Assoc.keys (texts key xs) = if !xs.isEmpty then [key] else [] := by
  cases xs <;> rfl

theorem keys_heritage (key : String) (t : Table (List String)) :
    Assoc.keys (heritage key t) = if !t.entries.isEmpty then [key] else [] := by
  unfold heritage
  cases t.entries <;> rfl

/-- The fields that are written stand in the order of the record. -/
theorem keys_written (s : Summary) : Assoc.keys s.written = fieldNames.filter s.shows := by
  have hfilter : ∀ (p : String → Bool) (x : String) (xs : List String),
      (x :: xs).filter p = (if p x then [x] else []) ++ xs.filter p := by
    intro p x xs
    rw [List.filter_cons]
    split <;> rfl
  have happend : ∀ xs ys : List (String × Json),
      Assoc.keys (xs ++ ys) = Assoc.keys xs ++ Assoc.keys ys := fun xs ys => List.map_append
  have hcons : ∀ (e : String × Json) (ys : List (String × Json)),
      Assoc.keys (e :: ys) = e.1 :: Assoc.keys ys := fun e ys => rfl
  simp only [written, happend, hcons, keys_optionalText, keys_texts, keys_heritage, fieldNames,
    hfilter, shows, List.filter_nil, List.append_nil, List.append_assoc, if_true, List.cons_append,
    List.nil_append]

theorem mem_optionalText_iff {key : String} {o : Option String} {e : String × Json} :
    e ∈ optionalText key o ↔ ∃ x, o = some x ∧ e = (key, .str x) := by
  cases o <;> simp [optionalText]

theorem mem_texts_iff {key : String} {xs : List String} {e : String × Json} :
    e ∈ texts key xs ↔ xs ≠ [] ∧ e = (key, .strings xs) := by
  cases xs <;> simp [texts]

theorem mem_heritage_iff {key : String} {t : Table (List String)} {e : String × Json} :
    e ∈ heritage key t ↔
      t.entries ≠ [] ∧ e = (key, .obj (t.entries.map fun e => (e.1, .strings e.2))) := by
  unfold heritage
  cases t.entries <;> simp

/-- Each field that is written is decoded to what it was. -/
theorem put_of_mem_written {s : Summary} {e : String × Json} (he : e ∈ s.written) :
    e.1 ∈ fieldNames ∧ ∀ t : Summary, t.put e.1 e.2 = .ok (t.copyField s e.1) := by
  simp only [written, List.cons_append, List.mem_cons, List.mem_append, mem_optionalText_iff,
    mem_texts_iff, mem_heritage_iff, or_assoc] at he
  rcases he with rfl | ⟨x, hx, rfl⟩ | ⟨x, hx, rfl⟩ | ⟨h, rfl⟩ | ⟨h, rfl⟩ | ⟨h, rfl⟩ | ⟨h, rfl⟩ |
      ⟨h, rfl⟩ | ⟨h, rfl⟩ | ⟨h, rfl⟩ | ⟨h, rfl⟩ | ⟨h, rfl⟩
  all_goals
    refine ⟨by simp [fieldNames], fun t => ?_⟩
    simp_all [put, copyField, Decode.text, Decode.optionalText, Decode.list_strings,
      Decode.table_entries Decode.list_strings, Except.map]

/-- A field that is left out holds what a new summary has there. -/
theorem copyField_of_not_shows {s : Summary} {f : String} (h : s.shows f = false) :
    copyField { filename := "" } s f = { filename := "" } := by
  have hempty : s.supertypes.entries = [] → s.supertypes = ∅ := fun hentries =>
    Table.eq_of_entries_eq hentries
  unfold shows at h
  split at h <;> simp_all [copyField]

/-! ### Parts of the document -/

/-- Every value is sorted, and no more than two arrays and objects are open in it at once. -/
def Flat (fields : List (String × Json)) : Prop :=
  ∀ e ∈ fields, e.2.Sorted ∧ e.2.depth ≤ 2

theorem flat_append {fields rest : List (String × Json)} :
    Flat (fields ++ rest) ↔ Flat fields ∧ Flat rest :=
  List.forall_mem_append

theorem flat_optionalText (key : String) (o : Option String) : Flat (optionalText key o) := by
  intro e he
  obtain ⟨x, -, rfl⟩ := mem_optionalText_iff.1 he
  exact ⟨Json.sorted_str x, by simp [Json.depth]⟩

theorem flat_texts (key : String) (xs : List String) : Flat (texts key xs) := by
  intro e he
  obtain ⟨-, rfl⟩ := mem_texts_iff.1 he
  refine ⟨Json.sorted_strings xs, ?_⟩
  rw [Json.depth_strings]
  decide

theorem flat_heritage (key : String) (t : Table (List String)) : Flat (heritage key t) := by
  intro e he
  obtain ⟨-, rfl⟩ := mem_heritage_iff.1 he
  refine ⟨?_, ?_⟩
  · rw [Json.sorted_obj_iff]
    refine ⟨(t.map Json.strings).sorted, ?_⟩
    intro e he
    obtain ⟨entry, -, rfl⟩ := List.mem_map.1 he
    exact Json.sorted_strings entry.2
  · have hlists : Json.depthFields (t.entries.map fun e => (e.1, Json.strings e.2)) ≤ 1 := by
      rw [Json.depthFields_le_iff]
      intro e he
      obtain ⟨entry, -, rfl⟩ := List.mem_map.1 he
      exact Nat.le_of_eq (Json.depth_strings entry.2)
    rw [Json.depth]
    omega

/-- Summaries are flat: a field holds a text, texts, or a table of texts. -/
theorem flat_written (s : Summary) : Flat s.written := by
  have hname : Flat [("filename", .str s.filename)] :=
    flat_optionalText "filename" (some s.filename)
  have hcons : ∀ {rest}, Flat (("filename", .str s.filename) :: rest) ↔ Flat rest := by
    intro rest
    rw [← List.singleton_append, flat_append]
    exact and_iff_right hname
  simp only [written, List.cons_append, hcons, flat_append, flat_optionalText, flat_texts,
    flat_heritage, and_self]

theorem depth_toJson_le (s : Summary) : s.toJson.depth ≤ 3 := by
  have hfields : Json.depthFields s.written ≤ 2 := by
    rw [Json.depthFields_le_iff]
    intro e he
    exact (s.flat_written e he).2
  show Json.depth (.obj s.written) ≤ 3
  rw [Json.depth]
  omega

theorem decode_of_sameFields {s : Summary} {entries : List (String × Json)}
    (h : Json.SameFields s.written entries) : decode (.obj entries) = .ok s := by
  have hkeys : ∀ f, f ∈ Assoc.keys entries ↔ f ∈ fieldNames ∧ s.shows f = true := by
    intro f
    rw [h.keys, keys_written, List.mem_filter]
  refine Decode.record_eq_ok copies_copyField ?_ ?_ ?_
  · intro e he
    obtain ⟨x, hx, hvalue⟩ := h.values e he
    have hsame : e.2 = x := by
      rw [Json.arranged_of_sorted (s.flat_written _ hx).1, or_self] at hvalue
      exact hvalue
    rw [hsame]
    exact put_of_mem_written hx
  · intro f hf habsent
    apply copyField_of_not_shows
    rw [hkeys] at habsent
    simpa [hf] using habsent
  · intro f hf
    have hfilename : f = "filename" := by simpa [fieldNames] using hf
    rw [hkeys, hfilename]
    exact ⟨List.mem_cons_self, rfl⟩

theorem survives (s : Summary) : Decode.Survives decode s.toJson s := by
  apply Decode.survives_of_sameFields
  · intro entries h
    exact decode_of_sameFields h
  · exact s.integral_toJson
  · exact Nat.le_trans s.depth_toJson_le (by decide)

theorem decode_arranged (s : Summary) : decode s.toJson.arranged = .ok s := by
  show decode (Json.arranged (.obj s.written)) = .ok s
  rw [Json.arranged]
  exact decode_of_sameFields (Json.sameFields_arrangedFields s.written)

end Summary

/-! ## Responses -/

namespace Response

def copyField (b a : Response) (f : String) : Response :=
  { files := if f = "files" then a.files else b.files
    elapsedMillis := if f = "elapsedMillis" then a.elapsedMillis else b.elapsedMillis
    error := if f = "error" then a.error else b.error }

theorem copies_copyField : Decode.Copies ["files", "elapsedMillis", "error"] copyField where
  again b a f := by
    simp only [copyField, Decode.ite_again]
  swap b a f g := by
    simp only [copyField]
    congr 1 <;> exact Decode.ite_swap _ _ _ _ _
  complete b a h := by
    cases a
    cases b
    simp_all [copyField]

/-- Every field that is written can be put back. -/
theorem put_of_sameFields {r : Response} {entries : List (String × Json)}
    (h : Json.SameFields r.written entries) {e : String × Json} (he : e ∈ entries) :
    e.1 ∈ ["files", "elapsedMillis", "error"] ∧
      ∀ b : Response, b.put e.1 e.2 = .ok (b.copyField r e.1) := by
  obtain ⟨key, v⟩ := e
  obtain ⟨x, hx, hvalue⟩ := h.values _ he
  simp only at hx hvalue
  simp only [written, List.mem_append, List.mem_cons, List.not_mem_nil, or_false, Prod.mk.injEq,
    Summary.mem_optionalText_iff] at hx
  rcases hx with (⟨rfl, rfl⟩ | ⟨rfl, rfl⟩) | ⟨message, hmessage, rfl, rfl⟩
  · -- each summary in the list may have been arranged
    have hfiles : Decode.list Summary.decode v = .ok r.files := by
      rcases hvalue with hv | hv
      · rw [hv]
        exact Decode.list_map fun s _ => s.survives.document
      · rw [hv, Json.arranged, Json.arrangedItems_map]
        exact Decode.list_map fun s _ => s.decode_arranged
    refine ⟨by simp, fun b => ?_⟩
    simp [put, copyField, hfiles, Except.map]
  · have hv : v = .nat r.elapsedMillis := by simpa [Json.nat, Json.arranged] using hvalue
    have hnumber : Decode.nat v = .ok r.elapsedMillis := by
      rw [hv]
      rfl
    refine ⟨by simp, fun b => ?_⟩
    simp [put, copyField, hnumber, Except.map]
  · have hv : v = .str message := by simpa [Json.arranged] using hvalue
    refine ⟨by simp, fun b => ?_⟩
    simp [put, copyField, hv, Decode.optionalText, Decode.text, hmessage, Except.map]

theorem decode_of_sameFields {r : Response} {entries : List (String × Json)}
    (h : Json.SameFields r.written entries) : decode (.obj entries) = .ok r := by
  have hkeys : ∀ f, f ∈ Assoc.keys entries ↔
      f = "files" ∨ f = "elapsedMillis" ∨ f = "error" ∧ r.error.isSome := by
    intro f
    rw [h.keys]
    cases herror : r.error <;> simp [written, Assoc.keys, Summary.optionalText, herror]
  refine Decode.record_eq_ok copies_copyField ?_ ?_ ?_
  · intro e he
    exact put_of_sameFields h he
  · intro f hf habsent
    rw [hkeys] at habsent
    simp only [List.mem_cons, List.not_mem_nil, or_false] at hf
    rcases hf with rfl | rfl | rfl
    · exact absurd (Or.inl rfl) habsent
    · exact absurd (Or.inr (Or.inl rfl)) habsent
    · have hnone : r.error = none := by simpa using habsent
      simp [copyField, hnone]
  · intro f hf
    rw [hkeys]
    simp only [List.take_succ_cons, List.take_zero, List.mem_cons, List.not_mem_nil, or_false] at hf
    exact hf.imp_right Or.inl

theorem depth_toJson_le (r : Response) : r.toJson.depth ≤ 5 := by
  have hfiles : Json.depthItems (r.files.map Summary.toJson) ≤ 3 := by
    rw [Json.depthItems_le_iff]
    intro x hx
    obtain ⟨s, -, rfl⟩ := List.mem_map.1 hx
    exact s.depth_toJson_le
  have hfields : Json.depthFields r.written ≤ 4 := by
    rw [Json.depthFields_le_iff]
    intro e he
    rcases List.mem_append.1 he with he | he
    · simp only [List.mem_cons, List.not_mem_nil, or_false] at he
      rcases he with rfl | rfl
      · rw [Json.depth]
        omega
      · simp [Json.nat, Json.depth]
    · exact Nat.le_trans (Summary.flat_optionalText "error" r.error e he).2 (by decide)
  show Json.depth (.obj r.written) ≤ 5
  rw [Json.depth]
  omega

theorem survives {r : Response} (h : r.elapsedMillis ≤ Number.maxInt) :
    Decode.Survives decode r.toJson r := by
  apply Decode.survives_of_sameFields
  · intro entries hentries
    exact decode_of_sameFields hentries
  · exact integral_toJson h
  · exact Nat.le_trans r.depth_toJson_le (by decide)

end Response

/-! ## Requests -/

namespace Request

theorem sorted_toJson (r : Request) : r.toJson.Sorted := by
  rw [toJson, Json.sorted_obj_iff]
  refine ⟨?_, ?_⟩
  · simp only [Assoc.keys, List.map_cons, List.map_nil]
    decide
  · simp [Json.sorted_strings]

theorem decode_toJson (r : Request) : decode r.toJson = .ok r := by
  simp [decode, toJson, Decode.record, put, Decode.list_strings, Decode.bool, Except.map,
    Assoc.keys, bind, Except.bind, pure, Except.pure]

theorem ofJson_toJson (r : Request) : ofJson r.toJson = .ok r := by
  have hnames : (r.filenames.map Json.str).mapM Json.asString? = some r.filenames := by
    induction r.filenames with
    | nil => rfl
    | cons x xs ih =>
      rw [List.map_cons, List.mapM_cons, ih]
      rfl
  simp [ofJson, toJson, Json.get?, Assoc.find?, Json.strings, Json.asArray?, Json.asBool?, hnames]

theorem integral_toJson (r : Request) : r.toJson.Integral := by
  simp [toJson, Json.Integral, Json.IntegralFields, Json.integral_strings]

theorem depth_toJson (r : Request) : r.toJson.depth = 2 := by
  simp [toJson, Json.depth, Json.depthFields, Json.depth_strings]

/-- A request that has been written is read as the document that it was. -/
theorem readText_emit_toJson (r : Request) (pretty : Bool) :
    Json.readText (some maxNesting) (emit pretty r.toJson) = .ok r.toJson := by
  have hdepth : r.toJson.depth ≤ maxNesting := by
    rw [depth_toJson]
    decide
  rw [Json.readText_emit r.integral_toJson pretty hdepth, Json.arranged_of_sorted r.sorted_toJson]

theorem survives (r : Request) : Decode.Survives decode r.toJson r where
  document := r.decode_toJson
  text pretty := ⟨r.toJson, r.readText_emit_toJson pretty, r.decode_toJson⟩

end Request

/-! ## All records -/

/-- Records come back from their documents and from their texts, requests in both ways of decoding
them. The document of a summary has exactly the fields that hold something. -/
theorem records_survive :
    (∀ s : Summary, Decode.Survives Summary.decode s.toJson s ∧
      ∃ fields, s.toJson = .obj fields ∧ Assoc.keys fields = Summary.fieldNames.filter s.shows) ∧
    (∀ r : Response, r.elapsedMillis < 2 ^ 64 → Decode.Survives Response.decode r.toJson r) ∧
    ∀ r : Request, Decode.Survives Request.decode r.toJson r ∧
      ∀ pretty, Request.ofText (emit pretty r.toJson) = .ok r := by
  refine ⟨?_, ?_, ?_⟩
  · intro s
    exact ⟨s.survives, s.written, rfl, s.keys_written⟩
  · intro r helapsed
    have hmax : r.elapsedMillis ≤ Number.maxInt := Nat.le_of_lt_succ helapsed
    exact Response.survives hmax
  · intro r
    refine ⟨r.survives, ?_⟩
    intro pretty
    rw [Request.ofText, r.readText_emit_toJson pretty]
    exact r.ofJson_toJson

/-- A response with the largest time, a text that has to be escaped, and a summary that leaves most
out. -/
def fullResponse : Response where
  files :=
    [{ filename := "A\n\"\x01é😀"
       tree := some ""
       supertypes := (∅ : Table (List String)).insert "class X" ["B", "B"] }]
  elapsedMillis := 18446744073709551615
  error := some "\\"

theorem records_survive_fullResponse :
    fullResponse.elapsedMillis < 2 ^ 64 ∧
      Decode.Survives Response.decode fullResponse.toJson fullResponse :=
  ⟨by decide, records_survive.2.1 fullResponse (by decide)⟩

end SymbolIndex
