import GoStubs.Go.ExportedName
import GoStubs.Proto.File
import GoStubs.Table
/-!
# The messages of a request

All messages that the files of a request declare, at every depth, under their full names with a
dot in front: the form in which methods mention them. Where two files declare the same full
name, the later declaration counts.

* `Message.paths`: the dotted paths of a message and of those inside it.
* `MessageTable.ofFiles`: the messages of a list of files.
-/

namespace GoStubs.Proto

/-- A simple name after the path of the message around it, if there is one. -/
def joinPath (parent name : String) : String := if parent = "" then name else parent ++ "." ++ name

mutual

/-- The dotted paths of the messages inside a message and of itself, those inside first. -/
def Message.paths (parent : String) : Message → List String
  | ⟨name?, nested⟩ =>
    let path := joinPath parent (name?.getD "")
    Message.pathsAll path nested ++ [path]

/-- The dotted paths of messages and of those inside them, under a common parent. -/
def Message.pathsAll (parent : String) : List Message → List String
  | [] => []
  | m :: ms => m.paths parent ++ Message.pathsAll parent ms

end

/-- The dotted paths of all messages that a file declares. -/
def File.messagePaths (f : File) : List String := Message.pathsAll "" f.messages

end GoStubs.Proto

namespace GoStubs.Rpc

open GoStubs.Proto

/-- The full name of a message, with a dot in front. -/
def messageKey (package path : String) : String :=
  if package = "" then "." ++ path else "." ++ package ++ "." ++ path

/-- Where a message is declared, and what it is in Go. -/
structure DeclaredMessage where
  file : String
  goName : String
  deriving DecidableEq, Repr

/-- Messages under their full names. -/
abbrev MessageTable := Table DeclaredMessage

/-- The messages that a file declares, under their full names. -/
def messagesOf (f : File) : List (String × DeclaredMessage) :=
  f.messagePaths.map fun path => (messageKey f.package path, ⟨f.name, Go.exportedName path⟩)

/-- The messages of files. -/
def MessageTable.ofFiles (files : List File) : MessageTable :=
  Table.ofList (files.flatMap messagesOf)

end GoStubs.Rpc
