set_option autoImplicit false

namespace StepTrace.Command

inductive Use where
  | switch
  | count
  | value
  | help
  | version
deriving DecidableEq, Repr

structure Opt where
  name : String
  short : Option Char := none
  use : Use := .value
  accepts : String → Bool := fun _ => true

structure Spec where
  opts : List Opt
  arguments : List (String → Bool) := []
  -- Whether the words behind two dashes are kept apart; else they are positional arguments.
  keepsRest : Bool := false
  subcommands : List String := []

inductive Stop where
  | misuse
  | help
  | version
deriving DecidableEq, Repr

structure Parts where
  options : List (String × String) := []
  positional : List String := []
  afterDashes : List String := []
  subcommand : Option (String × List String) := none
  -- The option and the value just before the name of a subcommand, which are still to be judged.
  unjudged : Option (Opt × String) := none

namespace Parts

def count (name : String) (parts : Parts) : Nat :=
  (parts.options.filter (·.1 = name)).length

def has (name : String) (parts : Parts) : Bool :=
  parts.options.any (·.1 = name)

def get? (name : String) (parts : Parts) : Option String :=
  parts.options.lookup name

def add (opt : Opt) (value : String) (parts : Parts) : Except Stop Parts :=
  if opt.use ≠ .count ∧ parts.has opt.name then .error .misuse
  else if !opt.accepts value then .error .misuse
  else .ok { parts with options := parts.options ++ [(opt.name, value)] }

def addFlag (opt : Opt) (parts : Parts) : Except Stop Parts :=
  match opt.use with
  | .help => .error .help
  | .version => .error .version
  | _ => parts.add opt ""

def addArgument (spec : Spec) (word : String) (parts : Parts) : Except Stop Parts :=
  match spec.arguments[parts.positional.length]? with
  | none => .error .misuse
  | some accepts =>
      if accepts word then .ok { parts with positional := parts.positional ++ [word] }
      else .error .misuse

def addRest (spec : Spec) (words : List String) (parts : Parts) : Except Stop Parts :=
  if spec.keepsRest then .ok { parts with afterDashes := words }
  else words.foldlM (fun parts word => parts.addArgument spec word) parts

def settle (parts : Parts) : Except Stop Parts :=
  match parts.unjudged with
  | none => .ok parts
  | some (opt, value) => { parts with unjudged := none }.add opt value

end Parts

def findLong (opts : List Opt) (name : String) : Option Opt :=
  opts.find? (·.name = name)

def findShort (opts : List Opt) (c : Char) : Option Opt :=
  opts.find? (·.short = some c)

-- Reads the letters after a single dash: flags, and perhaps an option whose value is the rest of
-- the word. An option at the end of the word awaits its value.
def readCluster (opts : List Opt) : List Char → Parts → Except Stop (Parts × Option Opt)
  | [], parts => .ok (parts, none)
  | c :: rest, parts =>
      match findShort opts c with
      | none => .error .misuse
      | some opt =>
          if opt.use = .value then
            match rest with
            | [] => .ok (parts, some opt)
            | '=' :: value => return (← parts.add opt (String.ofList value), none)
            | value => return (← parts.add opt (String.ofList value), none)
          else do readCluster opts rest (← parts.addFlag opt)

def canBeValue (word : String) : Bool :=
  match word.toList with
  | '-' :: _ :: _ => false
  | _ => true

def longWord (cs : List Char) : String × Option String :=
  let name := String.ofList (cs.takeWhile (· ≠ '='))
  match cs.dropWhile (· ≠ '=') with
  | _ :: value => (name, some (String.ofList value))
  | [] => (name, none)

def readOption (opts : List Opt) (parts : Parts) : List Char → Except Stop (Parts × Option Opt)
  | '-' :: cs =>
      match longWord cs with
      | (name, value) =>
          match findLong opts name, value with
          | none, _ => .error .misuse
          | some opt, some value =>
              if opt.use = .value then return (← parts.add opt value, none) else .error .misuse
          | some opt, none =>
              if opt.use = .value then .ok (parts, some opt)
              else return (← parts.addFlag opt, none)
  | cs => readCluster opts cs parts

-- Reads the words of a command line up to the name of a subcommand. The value of an option is
-- judged as soon as it is read, but a value just before that name is left to be judged later.
def read (spec : Spec) : List String → Parts → Except Stop Parts
  | [], parts => .ok parts
  | word :: rest, parts =>
      match word.toList with
      | ['-', '-'] => parts.addRest spec rest
      | '-' :: c :: cs => do
          match ← readOption spec.opts parts (c :: cs), rest with
          | (parts, none), rest => read spec rest parts
          | (_, some _), [] => .error .misuse
          | (parts, some opt), value :: rest =>
              if !canBeValue value then .error .misuse
              else if rest.head?.any spec.subcommands.contains then
                read spec rest { parts with unjudged := some (opt, value) }
              else do read spec rest (← parts.add opt value)
      | _ => do
          if spec.subcommands.contains word then
            return { parts with subcommand := some (word, rest) }
          else read spec rest (← parts.addArgument spec word)

end StepTrace.Command
