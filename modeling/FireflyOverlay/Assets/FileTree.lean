import FireflyOverlay.Assets

/-!
# Assets in files

A `FileTree` holds files by their paths, and the folders that lie on these paths.

* `FileTree.walk`    follows a path: an empty step and `.` stay, `..` goes to the parent, all other
                     steps need an entry of their name; every step starts from a folder;
* `FileTree.read`    the bytes of a file, by a path from the root;
* `FileTree.below`   the assets below a folder; a name that begins with a slash is a path from the
                     root.
-/

namespace FireflyOverlay

/-- The steps from the root. -/
abbrev FilePath := List String

inductive FileEntry where
  | file (bytes : Array UInt8)
  | folder
deriving DecidableEq

structure FileTree where
  entries : List (FilePath × FileEntry)
deriving DecidableEq

namespace FileTree

def empty : FileTree := ⟨[([], .folder)]⟩

def entry? (t : FileTree) (path : FilePath) : Option FileEntry := t.entries.lookup path

/-- A folder with all its parents. -/
def addFolder (t : FileTree) (path : FilePath) : FileTree :=
  ⟨t.entries ++ (List.range (path.length + 1)).map fun n => (path.take n, .folder)⟩

/-- A file with all its parents. -/
def addFile (t : FileTree) (path : FilePath) (bytes : Array UInt8) : FileTree :=
  ⟨(path, .file bytes) :: (t.addFolder path.dropLast).entries⟩

/-- The longest name of an entry and of a path, in bytes. -/
def longestName : Nat := 255
def longestPath : Nat := 4095

/-- One step from a place. -/
def step (t : FileTree) (name : String) (here : FilePath) (part : String) :
    Except StoreError FilePath :=
  match t.entry? here with
  | none => .error (.notFound name)
  | some (.file _) => .error (.notADirectory name)
  | some .folder =>
    if part = "" ∨ part = "." then .ok here
    else if part = ".." then .ok here.dropLast
    else if longestName < part.utf8ByteSize then .error (.nameTooLong name)
    else if (t.entry? (here ++ [part])).isSome then .ok (here ++ [part])
    else .error (.notFound name)

def walk (t : FileTree) (name : String) (here : FilePath) (parts : List String) :
    Except StoreError FilePath :=
  parts.foldlM (t.step name) here

/-- The steps of a path that is written with slashes. -/
def parts (name : String) : List String := (Text.split '/' name.toList).map String.ofList

def readAt (t : FileTree) (name : String) (start : FilePath) (steps : List String) :
    Except StoreError (Array UInt8) := do
  let place ← t.walk name start steps
  match t.entry? place with
  | some (.file bytes) => return bytes
  | some .folder => throw (.isADirectory name)
  | none => throw (.notFound name)

def below (t : FileTree) (folder : FilePath) : AssetStore := fun name =>
  if name.toList.contains '\x00' then .error (.invalidName name)
  else if longestPath < name.utf8ByteSize then .error (.nameTooLong name)
  else if name.toList.head? = some '/' then t.readAt name [] (parts name)
  else t.readAt name [] (folder ++ parts name)

end FileTree
end FireflyOverlay
