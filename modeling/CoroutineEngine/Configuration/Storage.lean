import CoroutineEngine.Configuration.Path

/-!
# Files and directories

As much of a file system as configurations need: directories, and files that hold text or something else.
Whoever follows a path passes through every directory on it, so each of them must be there, also one that
the path leaves again.

Results:
* `read_write`: a file that was written can be read.
* `follow_congr`: where a path leads depends on the directories only.
-/

namespace CoroutineEngine

/-! ## Definitions -/

/-- What a file holds: a text, or bytes that are no text. -/
inductive Content
  | text (s : String)
  | bytes
  deriving Inhabited

/-- What bytes hold. -/
def Content.ofBytes (bytes : ByteArray) : Content :=
  match String.fromUTF8? bytes with
  | some s => .text s
  | none => .bytes

/-- A place in the file system: the names on the way to it from the root. -/
abbrev Place := List String

/-- Directories and files. The root is always there. -/
structure Storage where
  directories : List Place
  files : List (Place × Content)

/-- What is found at the end of a path. -/
inductive Entry
  | directory
  | file (content : Content)

namespace Storage

/-- A file system in which nothing is. -/
def empty : Storage := ⟨[], []⟩

/-- Whether a directory is there. -/
def isDirectory (s : Storage) (p : Place) : Bool := p.isEmpty || s.directories.contains p

/-- Whether a file is there. -/
def isFile (s : Storage) (p : Place) : Bool := (s.files.lookup p).isSome

/-- Goes from a directory to the next one. One point stays, two points go back. -/
def enter (s : Storage) (here : Place) (name : String) : Except StorageFault Place :=
  if name = "." then .ok here
  else if name = ".." then .ok here.dropLast
  else do
    Path.checkName name
    if s.isDirectory (here ++ [name]) then return here ++ [name]
    else if s.isFile (here ++ [name]) then throw .notDirectory
    else throw .notFound

/-- Goes from one directory to another by names. -/
def follow (s : Storage) (here : Place) (names : List String) : Except StorageFault Place :=
  names.foldlM s.enter here

/-- The end of a path: a directory that was passed already, or a name in a directory. -/
inductive Target
  | passed
  | named (directory : Place) (name : String)

/-- Follows a path up to its last name. -/
def target (s : Storage) (p : Path) : Except StorageFault Target := do
  p.check
  match p.names.getLast? with
  | none => return .passed
  | some name =>
    let here ← s.follow [] p.names.dropLast
    if name = "." || name = ".." then return .passed else return .named here name

/-- What is found at the end of a path. A file is no place for a path that goes on with a slash. -/
def find (s : Storage) (p : Path) : Except StorageFault Entry := do
  match ← s.target p with
  | .passed => return .directory
  | .named here name =>
    Path.checkName name
    if s.isDirectory (here ++ [name]) then return .directory
    match s.files.lookup (here ++ [name]) with
    | none => throw .notFound
    | some content => if p.isClosed then throw .notDirectory else return .file content

/-- Whether something is found at the end of a path. -/
def has (s : Storage) (p : Path) : Bool := (s.find p).toBool

/-- Whether a directory is found at the end of a path. -/
def hasDirectory (s : Storage) (p : Path) : Bool :=
  match s.find p with
  | .ok .directory => true
  | _ => false

/-- What the file at the end of a path holds. -/
def read (s : Storage) (p : Path) : Except StorageFault Content := do
  match ← s.find p with
  | .directory => throw .isDirectory
  | .file content => return content

/-- Writes a file into a directory that is there. A path that ends with a slash is one of a directory,
whatever is there. -/
def write (s : Storage) (p : Path) (content : Content) : Except StorageFault Storage := do
  match ← s.target p with
  | .passed => throw .isDirectory
  | .named here name =>
    if p.isClosed then throw .isDirectory
    Path.checkName name
    if s.isDirectory (here ++ [name]) then throw .isDirectory
    return { s with
      files := (here ++ [name], content) :: s.files.filter (·.1 != here ++ [name]) }

/-- Makes a directory in one that is there. -/
def makeDirectory (s : Storage) (p : Path) : Except StorageFault Storage := do
  match ← s.target p with
  | .passed => throw .alreadyThere
  | .named here name =>
    Path.checkName name
    if s.isDirectory (here ++ [name]) || s.isFile (here ++ [name]) then throw .alreadyThere
    return { s with directories := (here ++ [name]) :: s.directories }

/-- Makes a directory unless it is there. -/
def ensureDirectory (s : Storage) (p : Path) : Except StorageFault Storage :=
  match s.makeDirectory p with
  | .ok s => .ok s
  | .error fault => if s.hasDirectory p then .ok s else .error fault

/-- Makes a directory and those on the way to it, given the pieces of its path from the last to the first.
The ones that were made stay, whatever happens after. -/
def ensureDirectories (s : Storage) : List String → Except StorageFault Unit × Storage
  | [] => (.ok (), s)
  | piece :: before =>
    if Path.isIdle piece then s.ensureDirectories before
    else
      match s.ensureDirectory (before.reverse ++ [piece]) with
      | .ok s => (.ok (), s)
      | .error .notFound =>
        match s.ensureDirectories before with
        | (.error fault, s) => (.error fault, s)
        | (.ok (), s) =>
          match s.ensureDirectory (before.reverse ++ [piece]) with
          | .ok s => (.ok (), s)
          | .error fault => (.error fault, s)
      | .error fault => (.error fault, s)

/-- Makes the directory that a path lies in, unless something is there. -/
def prepare (s : Storage) (p : Path) : Except StorageFault Unit × Storage :=
  match p.directory? with
  | none => (.ok (), s)
  | some d => if s.has d then (.ok (), s) else s.ensureDirectories d.reverse

/-- Nothing but one directory. -/
def ofDirectory (text : String) : Storage := (empty.ensureDirectories (Path.ofText text).reverse).2

/-- Writes a file, in a directory that is made for it, if that is possible. -/
def place (s : Storage) (p : Path) (content : Content) : Storage :=
  let (_, s) := s.prepare p
  (s.write p content).toOption.getD s

/-- Removes the file at the end of a path, if there is one. -/
def remove (s : Storage) (p : Path) : Storage :=
  match s.target p with
  | .ok (.named here name) => { s with files := s.files.filter (·.1 != here ++ [name]) }
  | _ => s

/-! ## Helpers -/

theorem enter_congr {s t : Storage} (h : t.directories = s.directories) {here p : Place}
    {name : String} (hs : s.enter here name = .ok p) : t.enter here name = .ok p := by
  unfold enter at *
  split at hs
  · simp_all
  · split at hs
    · simp_all
    · simp only [*, if_false]
      cases hc : Path.checkName name with
      | error fault => simp [hc, bind, Except.bind] at hs
      | ok _ =>
        simp only [hc, bind, Except.bind] at hs ⊢
        have hd (q : Place) : t.isDirectory q = s.isDirectory q := by simp [isDirectory, h]
        by_cases hq : s.isDirectory (here ++ [name])
        · simpa [hd, hq] using hs
        · simp only [hq, Bool.false_eq_true, if_false] at hs
          split at hs <;> simp [throw, throwThe, MonadExceptOf.throw] at hs

theorem follow_congr {s t : Storage} (h : t.directories = s.directories) {names : List String}
    {here p : Place} (hs : s.follow here names = .ok p) : t.follow here names = .ok p := by
  induction names generalizing here with
  | nil => simpa [follow] using hs
  | cons name rest ih =>
    simp only [follow, List.foldlM_cons, bind, Except.bind] at hs ⊢
    split at hs
    · simp at hs
    · next q hq =>
      rw [enter_congr h hq]
      exact ih hs

theorem target_congr {s t : Storage} (h : t.directories = s.directories) {p : Path} {e : Target}
    (hs : s.target p = .ok e) : t.target p = .ok e := by
  unfold target at *
  cases hc : p.check with
  | error fault => simp [hc, bind, Except.bind] at hs
  | ok _ =>
    simp only [hc, bind, Except.bind] at hs ⊢
    cases hl : p.names.getLast? with
    | none => simpa [hl] using hs
    | some name =>
      simp only [hl] at hs ⊢
      cases hf : s.follow [] p.names.dropLast with
      | error fault => simp [hf] at hs
      | ok here =>
        rw [follow_congr h hf]
        simpa [hf] using hs

theorem read_write {s t : Storage} {p : Path} {content : Content} (h : s.write p content = .ok t) :
    t.read p = .ok content := by
  unfold write at h
  cases ht : s.target p with
  | error fault => simp [ht, bind, Except.bind] at h
  | ok e =>
    cases e with
    | passed => simp [ht, bind, Except.bind, throw, throwThe, MonadExceptOf.throw] at h
    | named here name =>
      simp only [ht, bind, Except.bind] at h
      by_cases hp : p.isClosed
      · simp [hp, throw, throwThe, MonadExceptOf.throw] at h
      · cases hn : Path.checkName name with
        | error fault => simp [hp, hn] at h
        | ok _ =>
          by_cases hd : s.isDirectory (here ++ [name])
          · simp [hp, hn, hd, throw, throwThe, MonadExceptOf.throw] at h
          · simp only [hp, hn, hd, pure, Except.pure, Bool.false_eq_true, if_false,
              Except.ok.injEq] at h
            subst h
            have hd' : isDirectory ⟨s.directories, (here ++ [name], content)
                :: s.files.filter (·.1 != here ++ [name])⟩ (here ++ [name]) = false := by
              simpa [isDirectory] using hd
            unfold read find
            rw [target_congr (by rfl) ht]
            simp [hn, hd', hp, bind, Except.bind, pure, Except.pure]

end Storage

end CoroutineEngine
