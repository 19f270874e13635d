import PaymentCredentials.Console.Manual

/-!
The commands of the operator's console.
-/
namespace PaymentCredentials.Console

/-- A command. -/
inductive Command
  /-- Print new keys. -/
  | keygen (count : UInt64)
  /-- Print the settings by default. -/
  | configDefault
  /-- Check the settings in a file. -/
  | configTest (path : String)
  /-- Print a token for a user. -/
  | tokenIssue (path user : String) (claims : List String)
  /-- Check a token and print its claims. -/
  | tokenInspect (path token : String)
  /-- Sign a request to initiate a payment, and print it. -/
  | signInit (secret file : String) (nonce : Option String) (timestamp : Option Int64)
  deriving DecidableEq

namespace Command

/-- A value that has to be there. -/
def needed (value : Option String) : Except Refusal String :=
  match value with
  | some s => .ok s
  | none => .error .usage

/-- A number, where there is one. -/
def number {α : Type} (read : String → Except Decimal.Fault α) :
    Option String → Except Refusal (Option α)
  | none => .ok none
  | some s =>
    match read s with
    | .ok n => .ok (some n)
    | .error _ => .error .usage

/-- The command of a page, and its arguments. -/
def ofPage (page : Page) (args : List String) : Except Refusal Command := do
  let (g, _) ← scan page args .nothing
  match page.path with
  | ["keygen"] => return .keygen ((← number Decimal.readUInt64 (g.value? "count")).getD 1)
  | ["config", "default"] => return .configDefault
  | ["config", "test"] => return .configTest (← needed (g.value? "config"))
  | ["token", "issue"] =>
    return .tokenIssue (← needed (g.value? "config")) (← needed (g.value? "user")) (g.all "claim")
  | ["token", "inspect"] =>
    return .tokenInspect (← needed (g.value? "config")) (← needed g.operands.head?)
  | ["sign-init"] =>
    let timestamp ← number Decimal.readInt64 (g.value? "timestamp")
    return .signInit (← needed (g.value? "secret")) (← needed g.operands.head?) (g.value? "nonce")
      timestamp
  | _ => throw .usage

/-- The page that words ask for. -/
def helpOn (path : List String) : Refusal :=
  match Manual.page? path with
  | some page => .help page
  | none => .usage

/-- The command of arguments to a page: behind the options of a group stands the name of one of its
commands. Groups are nested at most `depth` deep. -/
def ofArgumentsTo : (depth : Nat) → Page → List String → Except Refusal Command
  | 0, page, args => ofPage page args
  | depth + 1, page, args =>
    if page.commands = [] then ofPage page args
    else
      match scan page args .nothing with
      | .error refusal => .error refusal
      | .ok (_, []) => .error .usage
      | .ok (_, name :: rest) =>
        if name = "help" then .error (helpOn (page.path ++ rest))
        else
          match Manual.page? (page.path ++ [name]) with
          | none => .error .usage
          | some page => ofArgumentsTo depth page rest

def ofArguments (args : List String) : Except Refusal Command := ofArgumentsTo 2 Manual.root args

end Command

end PaymentCredentials.Console
