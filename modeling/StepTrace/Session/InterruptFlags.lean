set_option autoImplicit false

namespace StepTrace.Session

-- A family of flags: for each the cell that it looks at, and for each cell whether it is raised.
structure InterruptFlags where
  cellOf : List Nat := []
  raised : List Bool := []
deriving DecidableEq, Repr

namespace InterruptFlags

def new (fs : InterruptFlags) : InterruptFlags :=
  ⟨fs.cellOf ++ [fs.raised.length], fs.raised ++ [false]⟩

def copy (i : Nat) (fs : InterruptFlags) : InterruptFlags :=
  { fs with cellOf := fs.cellOf ++ fs.cellOf[i]?.toList }

def raise (i : Nat) (fs : InterruptFlags) : InterruptFlags :=
  match fs.cellOf[i]? with
  | some cell => { fs with raised := fs.raised.set cell true }
  | none => fs

def states (fs : InterruptFlags) : List Bool :=
  fs.cellOf.map fun cell => fs.raised.getD cell false

end InterruptFlags

end StepTrace.Session
