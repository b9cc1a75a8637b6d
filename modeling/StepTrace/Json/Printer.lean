import StepTrace.Json.Basic

set_option autoImplicit false

namespace StepTrace.Json

def row (level : Nat) : List Char :=
  '\n' :: List.replicate (2 * level) ' '

mutual
def rows (level : Nat) : Json → List Char
  | .null => ['n', 'u', 'l', 'l']
  | .bool true => ['t', 'r', 'u', 'e']
  | .bool false => ['f', 'a', 'l', 's', 'e']
  | .number digits => digits
  | .string written => '"' :: written ++ ['"']
  | .array [] => ['[', ']']
  | .array (item :: items) =>
      '[' :: row (level + 1) ++ rows (level + 1) item ++ itemRows (level + 1) items ++ row level ++ [']']
  | .object [] => ['\x7b', '\x7d']
  | .object ((name, value) :: members) =>
      '\x7b' :: row (level + 1) ++ '"' :: name ++ ['"', ':', ' '] ++ rows (level + 1) value ++
        memberRows (level + 1) members ++ row level ++ ['\x7d']

def itemRows (level : Nat) : List Json → List Char
  | [] => []
  | item :: items => ',' :: row level ++ rows level item ++ itemRows level items

def memberRows (level : Nat) : List (List Char × Json) → List Char
  | [] => []
  | (name, value) :: members =>
      ',' :: row level ++ '"' :: name ++ ['"', ':', ' '] ++ rows level value ++ memberRows level members
end

def pretty (j : Json) : String :=
  String.ofList (rows 0 j)

end StepTrace.Json
