import Quarantine.Text.Split

/-!
# Paths

A path is a text of names between slashes.  The text is kept as it was given, for messages; a
place in the file system is told by the names alone, without empty ones and single dots.

    (join p n).names = p.names ++ [n], for a name n
    temporary p is beside p, and differs from it
-/

namespace Quarantine

structure Path where
  text : String
  deriving DecidableEq, Inhabited

namespace Path

/-! ## Names -/

/-- Whether a path starts at the root of the file system. -/
def isAbsolute (p : Path) : Bool := p.text.toList.head? == some '/'

/-- The name that stands for the root of the file system. -/
def rootName : String := "/"

/-- The names on the way to a place. -/
def names (p : Path) : List String :=
  (if p.isAbsolute then [rootName] else []) ++
    ((Text.split '/' p.text.toList).filter fun n => n ≠ [] && n ≠ ['.']).map String.ofList

/-- The path of names. -/
def ofNames : List String → Path
  | [] => ⟨""⟩
  | first :: rest =>
    if first = rootName then ⟨rootName ++ "/".intercalate rest⟩
    else ⟨"/".intercalate (first :: rest)⟩

/-- The path of a name in a directory. -/
def join (p : Path) (name : String) : Path :=
  if p.text.isEmpty || p.text.toList.getLast? == some '/' then ⟨p.text ++ name⟩
  else ⟨p.text ++ "/" ++ name⟩

/-- The last name. -/
def name? (p : Path) : Option String := p.names.getLast?

/-- The path and the directories that it is in, from the inside out. -/
def ancestors (p : Path) : List Path :=
  let ns := p.names
  (List.range ns.length).map fun i => ofNames (ns.take (ns.length - i))

/-- The directories that a path is in, from the inside out. -/
def parents (p : Path) : List Path := p.ancestors.drop 1

/-! ## Extensions -/

/-- What a name has after its last dot, unless that dot comes first. -/
def extensionOf (name : String) : Option String :=
  let back := name.toList.reverse
  let extension := back.takeWhile (· ≠ '.')
  match back.drop extension.length with
  | _ :: _ :: _ => some (String.ofList extension.reverse)
  | _ => none

/-- The ending of a file that is not complete. -/
def temporaryEnding : String := ".tmp"

/-- The path that a file has until it is complete.  A name without an extension gets an empty
one first. -/
def temporary (p : Path) : Path :=
  ⟨p.text ++ (if ((p.name?).bind extensionOf).isSome then "" else ".") ++ temporaryEnding⟩

end Path
end Quarantine
