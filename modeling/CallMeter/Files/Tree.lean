import CallMeter.Files.Entry
import CallMeter.Text.Split

/-!
# File trees

Files and directories under names joined by slashes. A path that does not begin with a slash
starts at the working directory. Empty names and single dots lead nowhere, double dots lead back,
and every name but the last has to be a directory.

## Main definitions

* `FileTree`: files, directories and the working directory
* `FileTree.put`: a file added with the directories on its way
* `FileTree.look`: what stands at a path

## Main results

* `resolve_append`: a path that goes on starts where its first part leads
-/

namespace CallMeter

/-- Names from the top directory down. -/
abbrev Trail := List String

/-- **File tree**: its files and directories by their trails, and the working directory. -/
structure FileTree where
  files : List (Trail × FileEntry)
  directories : List Trail
  home : Trail

/-- The trails from the top down to a trail. -/
def Trail.ancestors (trail : Trail) : List Trail :=
  (List.range (trail.length + 1)).map trail.take

/-- The names of a path, without those that lead nowhere. -/
def namesOf (path : String) : List String :=
  ((Text.splitOn '/' path.toList).map String.ofList).filter fun name => name != "" && name != "."

/-- A path that begins at the top directory. -/
def isAbsolute (path : String) : Bool :=
  path.toList.head? == some '/'

/-- A path that only a directory can stand at. -/
def endsInDirectory (path : String) : Bool :=
  match path.toList.reverse with
  | '/' :: _ => true
  | '.' :: '/' :: _ => true
  | _ => path == "."

namespace FileTree

/-- The tree of a working directory without files. -/
def bare (home : Trail) : FileTree :=
  ⟨[], home.ancestors, home⟩

variable (t : FileTree)

/-- A trail leads to a directory. -/
def isDirectory (trail : Trail) : Bool :=
  t.directories.contains trail

/-- One name further from a directory. -/
def step (trail : Trail) (name : String) : Trail :=
  if name == ".." then trail.dropLast else trail ++ [name]

/-- **The trail** to which names lead from another, over directories. -/
def resolve : Trail → List String → Option Trail
  | trail, [] => some trail
  | trail, name :: rest =>
    -- a double dot leads back only from a directory that is there
    if t.isDirectory trail then resolve (step trail name) rest else none

theorem resolve_append (trail : Trail) (names more : List String) :
    t.resolve trail (names ++ more) =
      (t.resolve trail names).bind fun reached => t.resolve reached more := by
  induction names generalizing trail with
  | nil => rfl
  | cons name rest ih => simp only [List.cons_append, resolve]; split <;> simp [ih]

/-- The trail of a path. -/
def trailOf? (path : String) : Option Trail :=
  t.resolve (if isAbsolute path then [] else t.home) (namesOf path)

/-- **What stands at a path.** -/
def look (path : String) : FileEntry :=
  if path.isEmpty then .nowhere
  else
    match t.trailOf? path with
    | none => .nowhere
    | some trail =>
      if t.isDirectory trail then .directory
      else if endsInDirectory path then .nowhere
      else
        match Entries.get? trail t.files with
        | some entry => entry
        | none => .vacant

/-- A file at a path below the working directory, with the directories on its way. -/
def put (path : String) (entry : FileEntry) : FileTree :=
  let trail := t.home ++ namesOf path
  { t with
    files := Entries.put trail entry t.files
    directories := t.directories ++ Trail.ancestors trail.dropLast }

end FileTree

end CallMeter
