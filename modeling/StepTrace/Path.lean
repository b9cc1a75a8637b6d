import StepTrace.Text.Cut

set_option autoImplicit false

namespace StepTrace.Path

def namesNothing (segment : List Char) : Bool :=
  segment.isEmpty || segment == ['.']

def splitName? (path : List Char) : Option (List (List Char) × List Char) :=
  match (Text.fields '/' path).reverse.dropWhile namesNothing with
  | [] => none
  | name :: before => if name = ['.', '.'] then none else some (before.reverse, name)

def fileName? (path : String) : Option String :=
  (splitName? path.toList).map fun (_, name) => String.ofList name

def baseName (path : String) : String :=
  (fileName? path).getD path

-- A name's stem and its extension. A dot at the start of a name begins no extension.
def splitExtension (name : List Char) : List Char × Option (List Char) :=
  match Text.cutLast '.' name with
  | none => (name, none)
  | some ([], _) => (name, none)
  | some (stem, extension) => (stem, some extension)

def extension? (path : List Char) : Option (List Char) :=
  (splitName? path).bind fun (_, name) => (splitExtension name).2

def setExtension (path extension : List Char) : List Char :=
  match splitName? path with
  | none => path
  | some (before, name) =>
      let stem := (splitExtension name).1
      let named := if extension.isEmpty then stem else stem ++ '.' :: extension
      ['/'].intercalate (before ++ [named])

-- The path with another extension. As many characters as the present extension has are taken off
-- the end, and the extension is set on what is left. An extension with a slash in it is refused.
def withExtension? (path extension : String) : Option String :=
  if extension.toList.contains '/' then none
  else
    let present := ((extension? path.toList).getD []).length
    let bare := path.toList.take (path.toList.length - present)
    some (String.ofList (setExtension bare extension.toList))

end StepTrace.Path
