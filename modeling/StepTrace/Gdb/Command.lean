import StepTrace.Session.Settings

set_option autoImplicit false

namespace StepTrace.Gdb

structure Invocation where
  program : String
  args : List String
deriving DecidableEq, Repr

def invocation (gdb target : String) : Invocation :=
  ⟨gdb, ["--interpreter=mi2", "-q", "-nx", target]⟩

structure Command where
  token : Nat
  text : String
deriving DecidableEq, Repr

def Command.line (c : Command) : String :=
  toString c.token ++ c.text ++ "\n"

def exitLine : String := "-gdb-exit\n"

def stepCommand : Granularity → String
  | .instruction => "-exec-step-instruction"
  | .statement => "-exec-next"

-- Characters that neither the shell nor the debugger takes for anything else.
def isPlain (c : Char) : Bool :=
  c.isAlphanum || "_./=:,+-@%".toList.contains c

-- In single quotes for the shell; a single quote is put between two such texts, behind a backslash.
def shellQuoted (cs : List Char) : List Char :=
  '\'' :: cs.flatMap (fun c => if c = '\'' then ['\'', '\\', '\'', '\''] else [c]) ++ ['\'']

def literalQuoted (cs : List Char) : List Char :=
  '"' :: cs.flatMap (fun c => if c = '\\' ∨ c = '"' then ['\\', c] else [c]) ++ ['"']

def quoteArgument (arg : String) : String :=
  if !arg.isEmpty && arg.toList.all isPlain then arg
  else String.ofList (literalQuoted (shellQuoted arg.toList))

def argumentsCommand (args : List String) : String :=
  "-exec-arguments " ++ " ".intercalate (args.map quoteArgument)

def runCommand : String := "-exec-run --start"

def frameCommand : String := "-stack-info-frame"

def setupCommands : List String :=
  ["-gdb-set pagination off", "-gdb-set confirm off"]

end StepTrace.Gdb
