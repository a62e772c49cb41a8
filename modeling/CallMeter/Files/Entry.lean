import CallMeter.Store.Table

/-!
# File entries

What a program finds at a path: nothing, a directory, or a file. A file is a text, other bytes,
or the database of a table store.

## Main definitions

* `FileEntry`: what stands at a path
* `FileEntry.text?`: the text of a file
-/

namespace CallMeter

/-- **What stands at a path.** -/
inductive FileEntry
  /-- Nothing, in a directory that exists. -/
  | vacant
  /-- Nothing, and no directory either. -/
  | nowhere
  | directory
  | text (content : String)
  /-- A file that is neither text nor database. -/
  | binary
  | database (s : TableStore)

/-- The text of a file, where it is one. -/
def FileEntry.text? : FileEntry → Option String
  | text content => some content
  | _ => none

end CallMeter
