import CoroutineEngine.Configuration.Loading

/-!
# Working on configurations

A workbench has one configuration at hand, another one in force, and a directory to keep files in. Each
request gives an answer and may change any of them.

Results:
* `step_current_of_failed`: a failed request leaves the configuration at hand as it was.
-/

namespace CoroutineEngine.Configuration

/-! ## Definitions -/

/-- The state of a workbench. -/
structure Workbench where
  current : Configuration
  active : Configuration
  directory : String
  storage : Storage

/-- A request.

* `load`: takes over a file of this content, unless reading it fails; `loadUser`: the user's file, after
  it was written if a content is given; it is removed afterwards.
* `override`: by the variables of an environment. `assign`: sets what is given.
* `activate`: puts the configuration at hand in force. -/
inductive Request
  | inspect
  | reset
  | load (content : Except StorageFault Content)
  | loadUser (environment : Environment) (content : Option Content)
  | locate (environment : Environment)
  | override (environment : Environment)
  | assign (stackSize : Option Nat) (reportChildren : Option Bool) (level : Option String)
  | validate
  | save (path : String)
  | activate
  | showActive
  | isStandard

/-- An answer: a configuration, an error, the user's directory and file, the outcome of an override with
the configuration after it, the word that all is well, the text of a file, or a truth value. -/
inductive Answer
  | configuration (c : Configuration)
  | failed (e : ConfigurationError)
  | locations (directory file : Option String)
  | overridden (error : Option ConfigurationError) (c : Configuration)
  | valid
  | text (s : String)
  | truth (b : Bool)

/-- Writes a configuration to a file, in a directory that is made for it; gives back the text or what went
wrong, and what the storage is then. -/
def store (s : Storage) (p : Path) (c : Configuration) :
    Except ConfigurationError String × Storage :=
  match s.prepare p with
  | (.error fault, s) => (.error (.storage fault), s)
  | (.ok (), s) =>
    match c.text? with
    | none => (.error .unwritable, s)
    | some text =>
      match s.write p (.text text) with
      | .error fault => (.error (.storage fault), s)
      | .ok s => (.ok text, s)

namespace Workbench

/-- A workbench with an empty directory. -/
def ofDirectory (directory : String) : Workbench :=
  ⟨standard, standard, directory, .ofDirectory directory⟩

/-- Takes a configuration over, unless it could not be had. -/
def accept (w : Workbench) : Except ConfigurationError Configuration → Answer × Workbench
  | .ok c => (.configuration c, { w with current := c })
  | .error e => (.failed e, w)

/-- Puts the user's file where it belongs, if a content is given and a place is known. -/
def placeUserFile (s : Storage) (e : Environment) (content : Option Content) : Storage :=
  match content, location? e with
  | some content, some path => s.place (Path.ofText path) content
  | _, _ => s

/-- Removes the user's file. -/
def removeUserFile (s : Storage) (e : Environment) : Storage :=
  match location? e with
  | some path => s.remove (Path.ofText path)
  | none => s

/-- Answers one request. -/
def step (w : Workbench) : Request → Answer × Workbench
  | .inspect => (.configuration w.current, w)
  | .reset => (.configuration standard, { w with current := standard })
  | .load content => w.accept (load content)
  | .loadUser e content =>
    let s := placeUserFile w.storage e content
    { w with storage := removeUserFile s e }.accept (loadUser (fun path => s.read (Path.ofText path)) e)
  | .locate e => (.locations (directory? e) (location? e), w)
  | .override e =>
    match w.current.overrideFrom e with
    | .ok c => (.overridden none c, { w with current := c })
    | .error error => (.overridden (some error) w.current, w)
  | .assign stackSize reportChildren level =>
    let c := w.current
    let c : Configuration :=
      { stackSize := stackSize.getD c.stackSize
        reportChildren := reportChildren.getD c.reportChildren
        level := (level.bind LogLevel.ofText?).getD c.level }
    (.configuration c, { w with current := c })
  | .validate =>
    match w.current.validate with
    | .ok () => (.valid, w)
    | .error e => (.failed e, w)
  | .save path =>
    match store w.storage (Path.ofText (join w.directory path)) w.current with
    | (.ok text, storage) => (.text text, { w with storage })
    | (.error e, storage) => (.failed e, { w with storage })
  | .activate => (.configuration w.active, { w with active := w.current })
  | .showActive => (.configuration w.active, w)
  | .isStandard => (.truth (w.current = standard), w)

/-- Answers requests one after another. -/
def run (w : Workbench) : List Request → List Answer
  | [] => []
  | r :: rest =>
    let (answer, w) := w.step r
    answer :: w.run rest

/-! ## Helpers -/

theorem accept_current_of_failed (w : Workbench) (c : Except ConfigurationError Configuration)
    (e : ConfigurationError) (h : (w.accept c).1 = .failed e) :
    (w.accept c).2.current = w.current := by
  cases c <;> simp_all [accept]

theorem step_current_of_failed (w : Workbench) (r : Request) (e : ConfigurationError)
    (h : (w.step r).1 = .failed e) : (w.step r).2.current = w.current := by
  cases r with
  | load content => exact accept_current_of_failed w _ e h
  | loadUser env content => exact accept_current_of_failed _ _ e h
  | validate => simp only [step]; split <;> rfl
  | save path => simp only [step]; split <;> rfl
  | override env => simp only [step] at h ⊢; split at h <;> simp_all
  | inspect => rfl
  | reset => simp [step] at h
  | locate env => rfl
  | assign _ _ _ => simp [step] at h
  | activate => rfl
  | showActive => rfl
  | isStandard => rfl

end Workbench

end CoroutineEngine.Configuration
