import Affinity.Tls.Pem
/-!
Files, as configuration and TLS loading see them.

A path names nothing, a directory, or a file. A file is seen twice: as text, by the
configuration reader, and as PEM sections, by certificate and key loading. A `FileStore`
answers what each normalized path names (components joined by `/`, no empty, `.` or `..`
component, `/` first for an absolute path, `.` for the starting directory); it stands for the
file system the program runs against.

`FileStore.lookup` resolves a path as the system does, one component at a time from the root or
the starting directory: every component is looked up inside a directory, an empty component or
`.` stays where it is, `..` goes to the parent (the root is its own parent; above the starting
directory nothing is known), and anything else goes down. A path through a non-directory, or the
empty path, names nothing.
-/

namespace Affinity

/-- The contents of a file: its text and its PEM sections. -/
structure FileData where
  text : String
  sections : List Pem.Section := []
  deriving DecidableEq, Repr

/-- What a path names. -/
inductive FileEntry where
  | missing
  | directory
  | file (data : FileData)
  deriving DecidableEq, Repr

/-- The file system: what each normalized path names. -/
abbrev FileStore := String → FileEntry

namespace FileStore

/-- The normalized path of a list of components, absolute or from the starting directory. -/
def key (absolute : Bool) (parts : List String) : String :=
  if absolute then "/" ++ "/".intercalate parts
  else if parts.isEmpty then "." else "/".intercalate parts

/-- Follows components from the directory `parts` (innermost last, kept reversed as `rev`). -/
def walk (fs : FileStore) (absolute : Bool) (rev : List String) : List String → FileEntry
  | [] => fs (key absolute rev.reverse)
  | c :: rest =>
    if fs (key absolute rev.reverse) != .directory then .missing
    else if c == "" || c == "." then walk fs absolute rev rest
    else if c == ".." then
      match rev with
      | _ :: up => walk fs absolute up rest
      | [] => if absolute then walk fs absolute [] rest else .missing
    else walk fs absolute (c :: rev) rest

/-- What a path names. -/
def lookup (fs : FileStore) (path : String) : FileEntry :=
  if path.isEmpty then .missing
  else
    let absolute := path.startsWith "/"
    let comps := path.splitOn "/"
    walk fs absolute [] (if absolute then comps.drop 1 else comps)

end FileStore

end Affinity
