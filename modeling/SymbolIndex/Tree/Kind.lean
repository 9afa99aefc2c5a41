/-!
# Kinds of syntax nodes

- `Kind` : the node kinds that indexing tells apart
- `Kind.ofTag`, `Kind.tag` : a kind and its tag in a tree
-/

namespace SymbolIndex

inductive Kind where
  | source
  | pkg
  | pkgBody
  | pkgObject
  | importStat
  | importer
  | importeeName
  | importeeRename
  | importeeUnimport
  | importeeWildcard
  | defnObject
  | defnClass
  | defnTrait
  | defnVal
  | defnType
  | template
  | typeName
  | termName
  | typeSelect
  | termSelect
  | typeApply
  | termParam
  | patVar
  /-- A kind that is only known by its tag. -/
  | other (tag : String)
  deriving DecidableEq, Repr

namespace Kind

def tag : Kind → String
  | .source => "Source"
  | .pkg => "Pkg"
  | .pkgBody => "Pkg.Body"
  | .pkgObject => "Pkg.Object"
  | .importStat => "Import"
  | .importer => "Importer"
  | .importeeName => "Importee.Name"
  | .importeeRename => "Importee.Rename"
  | .importeeUnimport => "Importee.Unimport"
  | .importeeWildcard => "Importee.Wildcard"
  | .defnObject => "Defn.Object"
  | .defnClass => "Defn.Class"
  | .defnTrait => "Defn.Trait"
  | .defnVal => "Defn.Val"
  | .defnType => "Defn.Type"
  | .template => "Template"
  | .typeName => "Type.Name"
  | .termName => "Term.Name"
  | .typeSelect => "Type.Select"
  | .termSelect => "Term.Select"
  | .typeApply => "Type.Apply"
  | .termParam => "Term.Param"
  | .patVar => "Pat.Var"
  | .other tag => tag

def ofTag (tag : String) : Kind :=
  match tag with
  | "Source" => .source
  | "Pkg" => .pkg
  | "Pkg.Body" => .pkgBody
  | "Pkg.Object" => .pkgObject
  | "Import" => .importStat
  | "Importer" => .importer
  | "Importee.Name" => .importeeName
  | "Importee.Rename" => .importeeRename
  | "Importee.Unimport" => .importeeUnimport
  | "Importee.Wildcard" => .importeeWildcard
  | "Defn.Object" => .defnObject
  | "Defn.Class" => .defnClass
  | "Defn.Trait" => .defnTrait
  | "Defn.Val" => .defnVal
  | "Defn.Type" => .defnType
  | "Template" => .template
  | "Type.Name" => .typeName
  | "Term.Name" => .termName
  | "Type.Select" => .typeSelect
  | "Term.Select" => .termSelect
  | "Type.Apply" => .typeApply
  | "Term.Param" => .termParam
  | "Pat.Var" => .patVar
  | _ => .other tag

/-- No tag is lost: every text is the tag of a kind. -/
@[simp] theorem tag_ofTag (t : String) : (ofTag t).tag = t := by
  unfold ofTag
  split <;> rfl

end Kind
end SymbolIndex
