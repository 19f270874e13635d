import PaymentCredentials.Decimal

/-!
Arguments of commands: options by name or by letter, with or without a value, and operands. Arguments are
read from the first to the last, and the first one that decides the outcome wins: a request for help
behind a value that is refused is not heard, nor is a value behind a request for help.
-/
namespace PaymentCredentials.Console

/-- What a value has to be. -/
inductive ValueKind
  | text
  | path
  | count
  | time
  deriving DecidableEq

/-- Whether a value is what it has to be. A path is never empty. -/
def ValueKind.admits : ValueKind → String → Bool
  | .text, _ => true
  | .path, s => s ≠ ""
  | .count, s => (Decimal.readUInt64 s).toOption.isSome
  | .time, s => (Decimal.readInt64 s).toOption.isSome

/-- What an option does. A value has a name, which stands for it in the manual. -/
inductive OptionKind
  | flag
  | value (kind : ValueKind) (placeholder : String) (needed : Bool)
  | values (kind : ValueKind) (placeholder : String)
  | help
  | version
  deriving DecidableEq

/-- An option of a command. -/
structure OptionSpec where
  name : String
  letter : Option Char
  kind : OptionKind
  about : String
  deriving DecidableEq

/-- An operand of a command. -/
structure OperandSpec where
  kind : ValueKind
  placeholder : String
  about : String
  deriving DecidableEq

/-- A page of the manual: the words that name a command, what it is about, and what it takes. A page of a
group of commands has the names of these, each with what it is about. -/
structure Page where
  path : List String
  about : String
  options : List OptionSpec
  operands : List OperandSpec
  commands : List (String × String)
  deriving DecidableEq

/-- Why arguments are no command to run. -/
inductive Refusal
  | usage
  | help (page : Page)
  | version
  deriving DecidableEq

/-- What was given to a command: its options with their values, and its operands. -/
structure Given where
  options : List (String × String)
  operands : List String

namespace Given

def nothing : Given := ⟨[], []⟩

def all (g : Given) (name : String) : List String :=
  (g.options.filter fun o => o.1 = name).map (·.2)

def value? (g : Given) (name : String) : Option String := (g.all name).head?

def addValue (g : Given) (o : OptionSpec) (value : String) : Except Refusal Given :=
  let added : Given := { g with options := g.options ++ [(o.name, value)] }
  match o.kind with
  | .values kind _ => if kind.admits value then .ok added else .error .usage
  | .value kind _ _ =>
    if g.all o.name = [] ∧ kind.admits value = true then .ok added else .error .usage
  | _ => .error .usage

def addFlag (g : Given) (page : Page) (o : OptionSpec) : Except Refusal Given :=
  match o.kind with
  | .help => .error (.help page)
  | .version => .error .version
  | _ => if g.all o.name = [] then .ok { g with options := g.options ++ [(o.name, "")] } else .error .usage

/-- One more operand. -/
def addOperand (g : Given) (page : Page) (operand : String) : Except Refusal Given :=
  match page.operands.drop g.operands.length with
  | [] => .error .usage
  | spec :: _ =>
    if spec.kind.admits operand then .ok { g with operands := g.operands ++ [operand] }
    else .error .usage

end Given

def OptionSpec.hasValue (o : OptionSpec) : Bool :=
  match o.kind with
  | .value .. | .values .. => true
  | _ => false

/-- Whether an argument is an option, or several in one. A lone hyphen is an operand. -/
def isOption (a : String) : Bool := a.startsWith "-" && a ≠ "-"

/-- A name of an option and the value that an equals sign attaches to it. -/
def splitName (cs : List Char) : String × Option String :=
  (String.ofList (cs.takeWhile (· ≠ '=')),
    match cs.dropWhile (· ≠ '=') with
    | [] => none
    | _ :: value => some (String.ofList value))

/-- What was given, and an option that takes its value from the next argument. -/
abbrev Progress := Given × Option OptionSpec

/-- Enters the options that letters stand for. What follows the letter of an option with a value is its
value. -/
def enterLetters (page : Page) (g : Given) : List Char → Except Refusal Progress
  | [] => .ok (g, none)
  | c :: rest =>
    match page.options.find? fun o => o.letter = some c with
    | none => .error .usage
    | some o =>
      if o.hasValue then
        match rest with
        | [] => .ok (g, some o)
        | '=' :: value => (g.addValue o (String.ofList value)).map (·, none)
        | value => (g.addValue o (String.ofList value)).map (·, none)
      else
        match g.addFlag page o with
        | .error refusal => .error refusal
        | .ok g => enterLetters page g rest

def enterName (page : Page) (g : Given) (name : String) (value : Option String) :
    Except Refusal Progress :=
  match page.options.find? fun o => o.name = name with
  | none => .error .usage
  | some o =>
    match o.hasValue, value with
    | true, none => .ok (g, some o)
    | true, some value => (g.addValue o value).map (·, none)
    | false, none => (g.addFlag page o).map (·, none)
    | false, some _ => .error .usage

def enterOption (page : Page) (g : Given) (a : String) : Except Refusal Progress :=
  match a.toList with
  | '-' :: '-' :: cs =>
    let (name, value) := splitName cs
    enterName page g name value
  | _ :: cs => enterLetters page g cs
  | [] => .error .usage

/-- Goes through arguments: up to the name of a command of the page, and else to their end. Behind two
hyphens everything is an operand. -/
def scan (page : Page) : List String → Given → Except Refusal (Given × List String)
  | [], g => .ok (g, [])
  | a :: rest, g =>
    if page.commands.any (·.1 = a) then .ok (g, a :: rest)
    else if a = "--" then do
      let g ← rest.foldlM (fun g operand => g.addOperand page operand) g
      return (g, [])
    else if isOption a then
      match enterOption page g a with
      | .error refusal => .error refusal
      | .ok (g, none) => scan page rest g
      | .ok (g, some o) =>
        match rest with
        | [] => .error .usage
        | value :: rest =>
          if isOption value then .error .usage
          else
            match g.addValue o value with
            | .error refusal => .error refusal
            | .ok g => scan page rest g
    else
      match g.addOperand page a with
      | .error refusal => .error refusal
      | .ok g => scan page rest g

end PaymentCredentials.Console
