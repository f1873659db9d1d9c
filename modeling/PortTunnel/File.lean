/-!
# Files

What is found at a path decides how reading it ends.  Paths are read part by
part: empty parts and single points do not count.
-/

namespace PortTunnel

/-- What is found at a path. -/
inductive File where
  | absent
  | directory
  | bytes (content : ByteArray)
  deriving Inhabited

namespace File

/-- Why no text was read. -/
inductive Unreadable where
  | absent
  | directory
  /-- The bytes are not text in UTF-8. -/
  | notText
  deriving DecidableEq, Repr

/-- The system's words for a failure. -/
def Unreadable.message : Unreadable → String
  | .absent => "No such file or directory (os error 2)"
  | .directory => "Is a directory (os error 21)"
  | .notText => "stream did not contain valid UTF-8"

/-- The text of a file. -/
def text? : File → Except Unreadable String
  | .absent => .error .absent
  | .directory => .error .directory
  | .bytes content =>
      match String.fromUTF8? content with
      | some text => .ok text
      | none => .error .notText

/-- Whether anything is found. -/
def isPresent : File → Bool
  | .absent => false
  | .directory | .bytes _ => true

/-- Cut a text at a mark, which is left out; there is always a first part. -/
def splitAt (mark : Char) : List Char → List (List Char)
  | [] => [[]]
  | character :: rest =>
      if character == mark then [] :: splitAt mark rest
      else
        match splitAt mark rest with
        | [] => [[character]]
        | part :: parts => (character :: part) :: parts

/-- The parts of a path that count. -/
def parts (path : String) : List (List Char) :=
  (splitAt '/' path.toList).filter fun part => !part.isEmpty && part != ['.']

/-- The name that a path ends in, if it ends in a name. -/
def name? (path : String) : Option (List Char) :=
  match (parts path).getLast? with
  | some name => if name == ['.', '.'] then none else some name
  | none => none

/-- What follows the last point of a name, unless that is its first character. -/
def extension? (path : String) : Option String := do
  let name ← name? path
  let (behind, before) := name.reverse.span (· != '.')
  match before with
  | [] | [_] => none
  | _ :: _ :: _ => some (String.ofList behind.reverse)

end File

/-- What is found at each path. -/
abbrev Files := String → File

/-- Whether something at the second path lies below the first one, or is the same. -/
def File.isAbove (folder path : String) : Bool :=
  folder.startsWith "/" == path.startsWith "/" && (parts folder).isPrefixOf (parts path)

/-- The files at listed paths; what lies above one of them is a directory. -/
def Files.ofList (entries : List (String × File)) : Files := fun path =>
  let isThere (entry : String × File) : Bool :=
    File.isAbove path entry.1 && File.isAbove entry.1 path
  match entries.find? isThere with
  | some entry => entry.2
  | none => if entries.any fun entry => File.isAbove path entry.1 then .directory else .absent

end PortTunnel
