import CoroutineEngine.Configuration.Basic

/-!
# Paths

A path names the way to a file, piece by piece. Pieces that lead nowhere else do not count for where a
path goes, but the last of them say that the way ends in a directory.

Results:
* `length_directory?_lt`: the directory of a path has fewer pieces.
-/

namespace CoroutineEngine

/-- A path: the pieces between its slashes, in order. A slash at the start, at the end or behind another
one leaves an empty piece. -/
abbrev Path := List String

namespace Path

/-! ## Definitions -/

/-- The path that a text writes. -/
def ofText (text : String) : Path := text.splitOn "/"

/-- Whether a piece leads nowhere else: an empty one, or one point. -/
def isIdle (piece : String) : Bool := piece = "" || piece = "."

/-- The number of bytes of a path's text. -/
def byteSize (p : Path) : Nat :=
  p.foldl (fun size piece => size + piece.utf8ByteSize) (p.length - 1)

/-- The pieces that are not empty. -/
def names (p : Path) : List String := p.filter (· ≠ "")

/-- Whether a path ends with a slash. -/
def isClosed (p : Path) : Bool := p.getLast? = some ""

/-- The path without its last piece that leads somewhere, idle pieces around it left out; nothing if no
piece leads anywhere. -/
def directory? (p : Path) : Option Path :=
  match p.reverse.dropWhile isIdle with
  | [] => none
  | _ :: rest => some (rest.dropWhile isIdle).reverse

/-- The greatest number of bytes that a path may have. -/
def greatestSize : Nat := 4095

/-- The greatest number of bytes that a name may have. -/
def greatestNameSize : Nat := 255

/-- Refuses paths that cannot be looked up at all: with a NUL in it, too long, or empty. -/
def check (p : Path) : Except StorageFault Unit :=
  if p.any (·.contains '\x00') then .error .nulInPath
  else if greatestSize < p.byteSize then .error .nameTooLong
  else if p = [""] then .error .notFound
  else .ok ()

/-- Refuses names that are too long. -/
def checkName (name : String) : Except StorageFault Unit :=
  if greatestNameSize < name.utf8ByteSize then .error .nameTooLong else .ok ()

/-! ## Helpers -/

theorem length_directory?_lt {p d : Path} (h : p.directory? = some d) : d.length < p.length := by
  unfold directory? at h
  split at h
  · simp at h
  · next piece rest hp =>
    simp only [Option.some.injEq] at h
    subst h
    have hd := (List.dropWhile_sublist (p := isIdle) (l := p.reverse)).length_le
    have hr := (List.dropWhile_sublist (p := isIdle) (l := rest)).length_le
    rw [hp] at hd
    simp only [List.length_cons, List.length_reverse] at *
    omega

end Path

end CoroutineEngine
