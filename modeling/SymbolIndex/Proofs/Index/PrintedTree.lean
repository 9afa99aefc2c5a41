import SymbolIndex.Batch
import SymbolIndex.Proofs.Index.Bindings
import SymbolIndex.Proofs.Json.Arranged

/-!
# Printed trees as sources

A summary may hold the tree it was made from, as text. Where a source spells out its tree, that text
is a source as well, and for the same tree:

- `Json.readText_pretty` : what is read of a printed document
- `Parser.readText_of_treeError?` : a source that does not give the tree of a failed parse is a
  document
- `treeError?_of_index`, `tree_of_index` : what a summary without an error says about the tree
- `indexSource_printed` : indexing the printed tree gives the summary again
-/

namespace SymbolIndex

/-- A document that has been read and is printed can be read again. -/
theorem Json.readText_pretty {source : String} {v : Json} (h : readText none source = .ok v)
    (hintegral : v.Integral) (width : Nat) : readText none (v.pretty width) = .ok v := by
  -- what is read is sorted, so that printing and reading do not change the order of fields
  have hsorted : v.Sorted := sorted_of_read h
  have hread : readText none (v.render (.indented width)) = .ok v.arranged := by
    apply readText_render hintegral
    intro n hn
    cases hn
  rw [arranged_of_sorted hsorted] at hread
  exact hread

/-- A tree that is no failed parse is what the source spells. -/
theorem Parser.readText_of_treeError? {source : String} (h : (treeOf source).treeError? = none) :
    Json.readText none source = .ok (treeOf source) := by
  unfold treeOf at h ⊢
  split
  · assumption
  · -- the tree for a text that is no document has a message
    rename_i fault hfault
    rw [hfault] at h
    cases h

/-! ## Summaries without an error -/

/-- A summary without an error comes from a tree that is no failed parse. -/
theorem treeError?_of_index {options : Options} {filename : String} {tree : Json}
    {summary : Summary} (h : index options filename tree = .ok summary)
    (herror : summary.isError = false) :
    tree.treeError? = none := by
  cases hfailed : tree.treeError? with
  | none => rfl
  | some message =>
    simp only [index, hfailed, Except.ok.injEq] at h
    subst h
    cases herror

/-- A summary has the printed tree if that was wanted. -/
theorem tree_of_index {options : Options} {filename : String} {tree : Json} {summary : Summary}
    (hwanted : options.wantParseTree = true) (h : index options filename tree = .ok summary)
    (herror : summary.isError = false) : summary.tree = some (tree.pretty treeIndent) := by
  obtain ⟨-, -, -, hsummary⟩ := of_index_eq_ok (treeError?_of_index h herror) h
  rw [hsummary]
  exact if_pos hwanted

/-- A source that spells out its tree is indexed as that tree is, and the world stays as it is. -/
theorem indexSource_tree (options : Options) (filename source : String) (w : World) :
    indexSource Parser.tree options filename source w =
      (match index options filename (Parser.treeOf source) with
        | .ok summary => summary
        | .error f => .failed filename f.message, w) := by
  simp only [indexSource, Parser.tree]
  cases index options filename (Parser.treeOf source) <;> rfl

theorem index_of_indexSource {options : Options} {filename source : String} {w : World}
    {summary : Summary} (h : (indexSource Parser.tree options filename source w).1 = summary)
    (herror : summary.isError = false) :
    index options filename (Parser.treeOf source) = .ok summary := by
  rw [indexSource_tree] at h
  split at h
  · rename_i s hs
    rw [hs, ← h]
  · subst h
    cases herror

/-! ## The printed tree -/

/-- The printed tree in a summary without an error is a source for the tree that was read, if all
numbers in that are integers that are kept exactly. To index it gives the summary again. -/
theorem indexSource_printed (options : Options) (filename source : String) (w : World)
    (summary : Summary) (hwanted : options.wantParseTree = true)
    (h : (indexSource Parser.tree options filename source w).1 = summary)
    (herror : summary.isError = false) (hintegral : (Parser.treeOf source).Integral) :
    ∃ tree text, Json.readText none source = .ok tree ∧ summary.tree = some text ∧
      Json.readText none text = .ok tree ∧
      ∀ w', indexSource Parser.tree options filename text w' = (summary, w') := by
  have hindex := index_of_indexSource h herror
  have hsource := Parser.readText_of_treeError? (treeError?_of_index hindex herror)
  have hprinted := Json.readText_pretty hsource hintegral treeIndent
  refine ⟨_, _, hsource, tree_of_index hwanted hindex herror, hprinted, ?_⟩
  intro w'
  have hsame : Parser.treeOf ((Parser.treeOf source).pretty treeIndent) = Parser.treeOf source := by
    rw [Parser.treeOf, hprinted]
  rw [indexSource_tree, hsame, hindex]

/-- A source with a key that is given twice, keys out of order, escapes, and the largest and the
least integer. -/
def untidySource : String :=
  "\x7b\"type\": \"A\",\"b\":[],\n \"b\":[18446744073709551615,-9223372036854775808," ++
    "\"\\ud83d\\ude00\\n\"],\"a\":\x7b\"value\":\"Foo\",\"type\":\"Term.Name\"\x7d\x7d"

theorem indexSource_printed_untidySource :
    (Parser.treeOf untidySource).Integral ∧
      ∃ summary,
        (indexSource Parser.tree { wantParseTree := true } "A" untidySource default).1 = summary ∧
        summary.isError = false ∧ summary.names = ["Foo"] ∧ summary.tree ≠ some untidySource ∧
        ∃ tree text, Json.readText none untidySource = .ok tree ∧ summary.tree = some text ∧
          Json.readText none text = .ok tree ∧
          ∀ w', indexSource Parser.tree { wantParseTree := true } "A" text w' = (summary, w') := by
  have htree : Parser.treeOf untidySource =
      .obj [
        ("a", .obj [("type", .str "Term.Name"), ("value", .str "Foo")]),
        ("b", .arr [
          .num (.int 18446744073709551615), .num (.int (-9223372036854775808)), .str "😀\n"]),
        ("type", .str "A")] := rfl
  have hintegral : (Parser.treeOf untidySource).Integral := by
    rw [htree]
    simp [Json.Integral, Json.IntegralFields, Json.IntegralItems, Number.IsExact, Number.maxInt,
      Number.minIntSize]
  obtain ⟨herror, hnames, hchanged⟩ :
      let summary := (indexSource Parser.tree { wantParseTree := true } "A" untidySource default).1
      summary.isError = false ∧ summary.names = ["Foo"] ∧ summary.tree ≠ some untidySource := by
    decide +kernel
  exact ⟨hintegral, _, rfl, herror, hnames, hchanged,
    indexSource_printed { wantParseTree := true } "A" untidySource default _ rfl rfl herror
      hintegral⟩

end SymbolIndex
