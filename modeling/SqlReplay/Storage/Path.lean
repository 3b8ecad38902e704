import SqlReplay.Text.Utf8

/-!
# Paths

A path is a byte sequence; most are texts, but none need be. Slashes separate components, and empty
components and single dots between slashes do not count, except for a leading dot.
-/

namespace SqlReplay.Storage

/-- A path. -/
structure Path where
  bytes : Bytes
deriving DecidableEq, Inhabited

namespace Path

/-- The byte between components. -/
def slash : UInt8 := 47

/-- The byte of a dot. -/
def dot : UInt8 := 46

/-- The path that a text spells. -/
def ofString (s : String) : Path := ⟨Utf8.ofString s⟩

/-- The text that spells the path, if there is one. -/
def text? (p : Path) : Option String := Utf8.decode? p.bytes

/-- The path as shown to people. -/
def display (p : Path) : String := Utf8.display p.bytes

/-- Whether the path has no bytes. -/
def isEmpty (p : Path) : Bool := p.bytes.isEmpty

/-- Whether the path starts at the root. -/
def isAbsolute (p : Path) : Bool := p.bytes.head? = some slash

/-- Whether the path ends in a slash. -/
def hasTrailingSlash (p : Path) : Bool := p.bytes.getLast? = some slash

/-- The path with bytes put after its last. -/
def withSuffix (p : Path) (suffix : String) : Path := ⟨p.bytes ++ Utf8.ofString suffix⟩

/-- `name` under the directory `dir`. An absolute name stands for itself. -/
def join (dir name : Path) : Path :=
  if name.isAbsolute then name
  else if dir.isEmpty || dir.hasTrailingSlash then ⟨dir.bytes ++ name.bytes⟩
  else ⟨dir.bytes ++ slash :: name.bytes⟩

/-- `join` with a name given as a text. -/
def child (dir : Path) (name : String) : Path := dir.join (ofString name)

/-- The stretches between slashes of bytes of which `part`, in reverse, has been read already. -/
def cutFrom (part : Bytes) : Bytes → List Bytes
  | [] => [part.reverse]
  | b :: bs => if b = slash then part.reverse :: cutFrom [] bs else cutFrom (b :: part) bs

/-- The non-empty stretches between slashes. -/
def components (p : Path) : List Bytes := (cutFrom [] p.bytes).filter fun c => !c.isEmpty

/-- Reversed bytes without the slashes and single dots that stand at the front as components. -/
def dropIdle : Bytes → Bytes
  | [] => []
  | [b] => if b = slash ∨ b = dot then [] else [b]
  | a :: b :: bs =>
    if a = slash then dropIdle (b :: bs)
    else if a = dot ∧ b = slash then dropIdle bs
    else a :: b :: bs

/-- How many bytes at the front are the root or a leading dot. -/
def headLength (p : Path) : Nat :=
  match p.bytes with
  | [] => 0
  | [b] => if b = slash ∨ b = dot then 1 else 0
  | a :: b :: _ => if a = slash ∨ (a = dot ∧ b = slash) then 1 else 0

/-- The path without its last component, unless it has none. -/
def parent? (p : Path) : Option Path :=
  let head := p.bytes.take p.headLength
  match dropIdle (p.bytes.drop p.headLength).reverse with
  | [] => if head = [dot] then some ⟨[]⟩ else none
  | body => some ⟨head ++ (dropIdle ((body.dropWhile (· ≠ slash)).drop 1)).reverse⟩

end Path

end SqlReplay.Storage
