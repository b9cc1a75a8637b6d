import StepTrace.Failure
import StepTrace.Text.Cut

set_option autoImplicit false

namespace StepTrace

namespace Files

-- Contents compare by their bytes, whichever other comparison of byte arrays is in scope.
local instance decidable_content : DecidableEq ByteArray := ByteArray.instDecidableEq

inductive Entry where
  | directory
  | file (content : ByteArray)
  -- Takes in what is written and keeps nothing, or is full from the beginning.
  | device (isFull : Bool)
deriving DecidableEq

abbrev Place := List String

end Files

structure Files where
  working : Files.Place := []
  entries : List (Files.Place × Files.Entry) := []
deriving DecidableEq

namespace Files

def entry? (place : Place) (fs : Files) : Option Entry :=
  if place = [] then some .directory
  else (fs.entries.find? fun (p, _) => p = place).map Prod.snd

def enter (place : Place) (fs : Files) : Except IoFailure Unit :=
  match fs.entry? place with
  | some .directory => .ok ()
  | some _ => .error .notDirectory
  | none => .error .notFound

def follow (segment : String) (place : Place) : Place :=
  if segment = "" ∨ segment = "." then place
  else if segment = ".." then place.dropLast
  else place ++ [segment]

def nameLimit : Nat := 255

def pathLimit : Nat := 4095

def walk (fs : Files) : List String → Place → Except IoFailure Place
  | [], place => .ok place
  | segment :: rest, place =>
      match fs.enter place with
      | .error e => .error e
      | .ok () =>
          if nameLimit < segment.utf8ByteSize then .error .nameTooLong
          else walk fs rest (follow segment place)

def segments (path : String) : List String :=
  (Text.fields '/' path.toList).map String.ofList

def check (path : String) : Except IoFailure Unit :=
  if path.toList.contains '\x00' then .error .nulInPath
  else if path.isEmpty then .error .notFound
  else if pathLimit < path.utf8ByteSize then .error .nameTooLong
  else .ok ()

def startOf (path : String) (fs : Files) : Place :=
  if path.toList.head? = some '/' then [] else fs.working

-- The place that a path names, whether or not there is anything.
def resolve (path : String) (fs : Files) : Except IoFailure Place :=
  match check path with
  | .error e => .error e
  | .ok () => fs.walk (segments path) (fs.startOf path)

def read (path : String) (fs : Files) : Except IoFailure ByteArray :=
  match fs.resolve path with
  | .error e => .error e
  | .ok place =>
      match fs.entry? place with
      | some (.file content) => .ok content
      | some (.device _) => .ok .empty
      | some .directory => .error .isDirectory
      | none => .error .notFound

def readText (path : String) (fs : Files) : Except IoFailure String :=
  match fs.read path with
  | .error e => .error e
  | .ok content =>
      match String.fromUTF8? content with
      | some text => .ok text
      | none => .error .notUtf8

def isThere (path : String) (fs : Files) : Bool :=
  match fs.resolve path with
  | .error _ => false
  | .ok place => (fs.entry? place).isSome

def put (place : Place) (entry : Entry) (fs : Files) : Files :=
  { fs with entries := fs.entries.filter (fun (p, _) => p ≠ place) ++ [(place, entry)] }

-- A name with slashes after it can only be that of a directory: what is before the name.
def directoryNamed? (path : String) : Option (List String) :=
  match (segments path).reverse.dropWhile (·.isEmpty) with
  | last :: before =>
      if path.toList.getLast? = some '/' ∧ last ≠ "." ∧ last ≠ ".." then some before.reverse else none
  | [] => none

-- The place at which a path has a file written. No directory is made by writing, so the name of one
-- is refused once all before it is found to be there.
def target (path : String) (fs : Files) : Except IoFailure Place := do
  check path
  match directoryNamed? path with
  | some before =>
      fs.enter (← fs.walk before (fs.startOf path))
      .error .isDirectory
  | none => fs.resolve path

def write (path text : String) (fs : Files) : Except IoFailure Files :=
  match fs.target path with
  | .error e => .error e
  | .ok place =>
      match fs.entry? place with
      | some .directory => .error .isDirectory
      | some (.device isFull) => if isFull ∧ text ≠ "" then .error .noSpace else .ok fs
      | _ => .ok (fs.put place (.file text.toUTF8))

def isFullDevice (path : String) (fs : Files) : Bool :=
  match fs.resolve path with
  | .ok place => fs.entry? place == some (.device true)
  | .error _ => false

def addDirectories (above : Place) : List String → Files → Files
  | [], fs => fs
  | name :: names, fs =>
      let place := above ++ [name]
      addDirectories place names (if (fs.entry? place).isSome then fs else fs.put place .directory)

def addFile (path : String) (content : ByteArray) (fs : Files) : Files :=
  let names := (segments path).filter fun name => name ≠ "" && name ≠ "."
  (addDirectories fs.working names.dropLast fs).put (fs.working ++ names) (.file content)

def addDirectory (path : String) (fs : Files) : Files :=
  addDirectories fs.working ((segments path).filter fun name => name ≠ "" && name ≠ ".") fs

def changesSince (fs old : Files) : List (String × ByteArray) :=
  fs.entries.filterMap fun (place, entry) =>
    match entry with
    | .file content =>
        if fs.working.isPrefixOf place && old.entry? place ≠ some entry then
          some ("/".intercalate (place.drop fs.working.length), content)
        else none
    | _ => none

end Files

end StepTrace
