import StepTrace.Location

set_option autoImplicit false

namespace StepTrace

structure ProgramFiles where
  -- The program's name up to its first dot; empty if the program is not known.
  stem : String := ""
  extensions : List String := ["c", "h"]
  systemRoots : List String := ["/usr/"]
deriving DecidableEq, Repr

namespace ProgramFiles

def stemOf (program : String) : String :=
  String.ofList (((Path.fileName? program).getD "").toList.takeWhile (· ≠ '.'))

def ofProgram (program : String) : ProgramFiles :=
  { stem := stemOf program }

def occursIn (part : List Char) : List Char → Bool
  | [] => part.isEmpty
  | c :: rest => part.isPrefixOf (c :: rest) || occursIn part rest

def isNamedAfterProgram (fs : ProgramFiles) (baseName : String) : Bool :=
  !fs.stem.isEmpty && fs.stem.toList.isPrefixOf baseName.toList

def hasSourceExtension (fs : ProgramFiles) (baseName : String) : Bool :=
  fs.extensions.any fun extension => ('.' :: extension.toList).isSuffixOf baseName.toList

def isUnderSystemRoot (fs : ProgramFiles) (file : String) : Bool :=
  fs.systemRoots.any fun root => occursIn root.toList file.toList

def contains (fs : ProgramFiles) (file : String) : Bool :=
  if file.isEmpty then false
  else
    let baseName := Path.baseName file
    fs.isNamedAfterProgram baseName || (fs.hasSourceExtension baseName && !fs.isUnderSystemRoot file)

def holds (fs : ProgramFiles) (stop : Option Location) : Bool :=
  match stop with
  | some loc => fs.contains loc.file
  | none => false

end ProgramFiles

end StepTrace
