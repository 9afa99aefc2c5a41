import SymbolIndex.Store.Basic

/-!
# What every store holds

- `Store.tools` : the names of the programs of the system
- `Store.empty` : a store with the directories, devices and programs that are always there, and an
  empty working directory
-/

namespace SymbolIndex
namespace Store

def tools : List String :=
  ["[", "basename", "cat", "chmod", "cp", "cut", "dash", "dirname", "echo", "env", "false", "head",
    "ls", "mkdir", "mv", "printenv", "printf", "pwd", "rev", "rm", "rmdir", "seq", "sh",
    "sha256sum", "sleep", "sort", "tac", "tail", "tee", "test", "touch", "tr", "true", "uniq", "wc",
    "yes"]

def dirOf (names : List String) : Entry :=
  .dir (names.foldr (fun n entries => Assoc.insert n (.dir []) entries) [])

def toolDir : Entry :=
  .dir (tools.foldr (fun n entries => Assoc.insert n (.program n) entries) [])

def furnished : List (List String × Entry) :=
  [ (["bin"], toolDir),
    (["dev", "full"], .device .full),
    (["dev", "null"], .device .null),
    (["dev", "zero"], .device .zero),
    (["tmp", "work"], .dir []),
    (["usr"], dirOf ["include", "lib", "lib64", "libexec", "local", "sbin", "share", "src"]),
    (["usr", "bin"], toolDir),
    (["usr", "local"], dirOf ["bin", "etc", "include", "lib", "sbin", "share", "src"]),
    (["var"],
      dirOf ["cache", "lib", "local", "lock", "log", "mail", "opt", "run", "spool", "tmp"]) ]

def written : List (List String × String) :=
  [ (["etc", "group"], "root:x:0:\n"),
    (["etc", "hosts"], "127.0.0.1\tlocalhost\n"),
    (["etc", "passwd"], "root:x:0:0:root:/root:/bin/bash\n") ]

/-- A store with what is always there and an empty working directory. -/
def empty : Store :=
  let bare := dirOf
    ["bin", "boot", "dev", "etc", "home", "lib", "lib64", "media", "mnt", "opt", "proc", "root",
      "run", "sbin", "srv", "sys", "tmp", "usr", "var"]
  let root := furnished.foldl (fun root e => root.put e.1 e.2) bare
  written.foldl (fun s e => (s.newFile e.1 { bytes := Utf8.encode e.2 }).2)
    ⟨root, [], ["tmp", "work"]⟩

end Store
end SymbolIndex
