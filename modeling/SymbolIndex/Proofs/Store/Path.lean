import Mathlib.Data.List.Basic
import Mathlib.Data.List.TakeWhile
import Mathlib.Tactic.MkIffOfInductiveProp
import SymbolIndex.Store.Basic

/-!
# Names below a path

- `IsName` : what a directory may list
- `Path.names_join`, `Path.names_below` : the names of a path below another
- `Path.below` : such a path, written out
- `Path.isSource_join_iff` : the names of source files
-/

namespace SymbolIndex

/-- What a directory may list: one name, which says neither to stay nor to go up. -/
@[mk_iff]
structure IsName (n : String) : Prop where
  ne_empty : n ≠ ""
  slash_not_mem : '/' ∉ n.toList
  ne_dot : n ≠ "."
  ne_up : n ≠ ".."
  size_le : n.utf8ByteSize ≤ Store.maxNameSize

instance : DecidablePred IsName := fun n => decidable_of_iff _ (isName_iff n).symm

namespace Path

variable {dir path n : String} {ns : List String}

/-! ## Names -/

theorem names_empty : names "" = [] := by
  decide

theorem names_eq_singleton (hempty : n ≠ "") (hslash : '/' ∉ n.toList) : names n = [n] := by
  have hchars : n.toList.isEmpty = false := by
    rw [List.isEmpty_eq_false_iff]
    intro h
    exact hempty (String.toList_inj.1 h)
  rw [names, List.splitOn_eq_singleton hslash]
  simp [hchars]

/-- A slash divides names. -/
theorem names_append_slash (p q : String) : names (p ++ "/" ++ q) = names p ++ names q := by
  have hchars : (p ++ "/" ++ q).toList = p.toList ++ '/' :: q.toList := by simp
  rw [names, hchars, List.splitOn_append_cons_self, List.filter_append, List.map_append]
  rfl

theorem not_mem_of_mem_splitOn {c : Char} {cs part : List Char} (h : part ∈ cs.splitOn c) :
    c ∉ part := by
  induction cs generalizing part with
  | nil =>
    rw [List.splitOn_eq_singleton List.not_mem_nil, List.mem_singleton] at h
    rw [h]
    exact List.not_mem_nil
  | cons x cs ih =>
    rw [List.splitOn_cons_eq_if_modifyHead] at h
    split at h
    · rcases List.mem_cons.1 h with rfl | h
      · exact List.not_mem_nil
      · exact ih h
    · rename_i hx
      cases hparts : cs.splitOn c with
      | nil =>
        rw [hparts] at h
        cases h
      | cons first rest =>
        rw [hparts, List.modifyHead_cons] at h
        rcases List.mem_cons.1 h with rfl | h
        · have hfirst : c ∉ first := ih (hparts ▸ List.mem_cons_self)
          have hne : c ≠ x := fun heq => hx (beq_iff_eq.2 heq.symm)
          exact List.not_mem_cons_of_ne_of_not_mem hne hfirst
        · exact ih (hparts ▸ List.mem_cons_of_mem first h)

theorem of_mem_names (h : n ∈ names path) : n ≠ "" ∧ '/' ∉ n.toList := by
  obtain ⟨cs, hcs, rfl⟩ := List.mem_map.1 h
  obtain ⟨hpart, hempty⟩ := List.mem_filter.1 hcs
  rw [String.toList_ofList]
  refine ⟨?_, not_mem_of_mem_splitOn hpart⟩
  rintro hname
  have hnil : cs = [] := by
    rw [← @String.toList_ofList cs, hname]
    rfl
  rw [hnil] at hempty
  cases hempty

theorem exists_append_slash (h : endsWithSlash path = true) : ∃ p, path = p ++ "/" := by
  obtain ⟨cs, hcs⟩ := List.getLast?_eq_some_iff.1 (eq_of_beq h)
  refine ⟨String.ofList cs, String.toList_inj.1 ?_⟩
  rw [hcs, String.toList_append, String.toList_ofList]
  rfl

/-- Joining adds one name. -/
theorem names_join (dir : String) (hn : IsName n) : names (join dir n) = names dir ++ [n] := by
  have hlast : names n = [n] := names_eq_singleton hn.ne_empty hn.slash_not_mem
  unfold join
  split
  · rename_i hdir
    rw [hdir, hlast, names_empty]
    rfl
  · split
    · rename_i hslash
      obtain ⟨p, rfl⟩ := exists_append_slash hslash
      have hfront : names (p ++ "/") = names p := by
        have h := names_append_slash p ""
        rwa [String.append_empty, names_empty, List.append_nil] at h
      rw [names_append_slash, hfront, hlast]
    · rw [names_append_slash, hlast]

theorem names_foldl_join (dir : String) (hns : ∀ n ∈ ns, IsName n) :
    names (ns.foldl join dir) = names dir ++ ns := by
  induction ns generalizing dir with
  | nil => exact (List.append_nil _).symm
  | cons n ns ih =>
    obtain ⟨hn, hns⟩ := List.forall_mem_cons.1 hns
    calc
      names ((n :: ns).foldl join dir) = names (join dir n) ++ ns := ih (join dir n) hns
      _ = names dir ++ n :: ns := by rw [names_join dir hn, List.append_assoc]; rfl

/-- The path of what the names lead to from a directory on. -/
def below (dir : String) (ns : List String) : String :=
  dir ++ (if endsWithSlash dir then "" else "/") ++ "/".intercalate ns

theorem join_eq_below (hdir : dir ≠ "") : join dir n = below dir [n] := by
  rw [join, if_neg hdir, below, String.intercalate_singleton]
  split
  · rw [String.append_empty]
  · rfl

theorem join_ne_empty (hn : IsName n) : join dir n ≠ "" := by
  intro h
  have hnames := names_join dir hn
  rw [h, names_empty] at hnames
  exact List.cons_ne_nil _ _ (List.append_eq_nil_iff.1 hnames.symm).2

theorem endsWithSlash_append (hn : IsName n) (p : String) : endsWithSlash (p ++ n) = false := by
  unfold endsWithSlash
  rw [String.toList_append]
  apply eq_false_of_ne_true
  intro h
  have hchars : n.toList ≠ [] := fun h => hn.ne_empty (String.toList_inj.1 h)
  have hlast : n.toList.getLast? = some '/' := by
    rw [List.getLast?_append_of_ne_nil _ hchars] at h
    exact eq_of_beq h
  exact hn.slash_not_mem (List.mem_of_getLast? hlast)

/-- Names joined one by one make the path below a directory. -/
theorem foldl_join_eq_below (hdir : dir ≠ "") (hne : ns ≠ []) (hns : ∀ n ∈ ns, IsName n) :
    ns.foldl join dir = below dir ns := by
  induction ns generalizing dir with
  | nil => exact absurd rfl hne
  | cons n ns ih =>
    obtain ⟨hn, hns⟩ := List.forall_mem_cons.1 hns
    cases ns with
    | nil => exact join_eq_below hdir
    | cons m ns =>
      have hopen : endsWithSlash (join dir n) = false := by
        rw [join_eq_below hdir, below, String.intercalate_singleton]
        exact endsWithSlash_append hn _
      calc
        (n :: m :: ns).foldl join dir = below (join dir n) (m :: ns) :=
          ih (join_ne_empty hn) (List.cons_ne_nil m ns) hns
        _ = below dir [n] ++ "/" ++ "/".intercalate (m :: ns) := by
          rw [below, hopen, join_eq_below hdir]
          rfl
        _ = below dir (n :: m :: ns) := by
          rw [below, below, String.intercalate_singleton, String.intercalate_cons_cons]
          simp only [String.append_assoc]

theorem names_below (hdir : dir ≠ "") (hne : ns ≠ []) (hns : ∀ n ∈ ns, IsName n) :
    names (below dir ns) = names dir ++ ns := by
  rw [← foldl_join_eq_below hdir hne hns]
  exact names_foldl_join dir hns

/-! ## Source files -/

theorem fileName?_join (dir : String) (hn : IsName n) : fileName? (join dir n) = some n := by
  unfold fileName? steps
  rw [names_join dir hn, List.filter_append]
  have hlast : [n].filter (· ≠ ".") = [n] := by simp [hn.ne_dot]
  rw [hlast, List.getLast?_concat]
  simp [hn.ne_up]

/-- An extension follows the last dot, and something stands before the dot. -/
theorem extension?_eq_some_iff {ext : String} (hext : '.' ∉ ext.toList) :
    extension? n = some ext ↔ ∃ stem, stem ≠ "" ∧ n = stem ++ "." ++ ext := by
  -- read from the end, the last dot comes first
  unfold extension?
  dsimp only
  constructor
  · intro h
    split at h
    · rename_i dot c cs hbefore
      have hdot : dot = '.' := by
        have hhead := List.head?_dropWhile_not (· ≠ '.') n.toList.reverse
        rw [hbefore] at hhead
        simpa using hhead
      have hafter : n.toList.reverse.takeWhile (· ≠ '.') = ext.toList.reverse := by
        rw [← Option.some.inj h, String.toList_ofList, List.reverse_reverse]
      have hwhole : n.toList.reverse = ext.toList.reverse ++ '.' :: c :: cs := by
        calc
          n.toList.reverse
              = n.toList.reverse.takeWhile (· ≠ '.') ++ n.toList.reverse.dropWhile (· ≠ '.') :=
                List.takeWhile_append_dropWhile.symm
          _ = ext.toList.reverse ++ '.' :: c :: cs := by rw [hafter, hbefore, hdot]
      refine ⟨String.ofList (c :: cs).reverse, ?_, ?_⟩
      · intro hstem
        have hnil := congrArg String.toList hstem
        simp at hnil
      · rw [← String.toList_inj]
        have hname := congrArg List.reverse hwhole
        rw [List.reverse_reverse] at hname
        rw [hname]
        simp
    · cases h
  · rintro ⟨stem, hstem, rfl⟩
    have hreverse : (stem ++ "." ++ ext).toList.reverse =
        ext.toList.reverse ++ '.' :: stem.toList.reverse := by simp
    have hpos : ∀ c ∈ ext.toList.reverse, decide (c ≠ '.') = true := by
      intro c hc
      rw [decide_eq_true_eq]
      rintro rfl
      exact hext (List.mem_reverse.1 hc)
    rw [hreverse, List.dropWhile_append_of_pos hpos, List.takeWhile_append_of_pos hpos]
    cases hchars : stem.toList.reverse with
    | nil => exact absurd (String.toList_inj.1 (List.reverse_eq_nil_iff.1 hchars)) hstem
    | cons c cs => simp

/-- A source file has a name that ends with `.scala` and has something in front of that. -/
theorem isSource_join_iff (dir : String) (hn : IsName n) :
    isSource (join dir n) = true ↔ ∃ stem, stem ≠ "" ∧ n = stem ++ ".scala" := by
  have hext : '.' ∉ "scala".toList := by decide
  unfold isSource
  rw [fileName?_join dir hn, Option.bind_some, beq_iff_eq, extension?_eq_some_iff hext]
  simp only [String.append_assoc]
  rfl

end Path
end SymbolIndex
