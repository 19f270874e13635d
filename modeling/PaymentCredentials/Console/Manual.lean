import PaymentCredentials.Console.Arguments

/-!
The manual of the console: a page for each command and each group of commands, and the text of a page.
-/
namespace PaymentCredentials.Console

namespace Manual

def console : String := "paymentdctl"

/-! ### Options -/

def verbose : OptionSpec := ⟨"verbose", some 'v', .flag, "Enable verbose output"⟩

def help : OptionSpec := ⟨"help", some 'h', .help, "Print help"⟩

/-- The option that asks for the version, which only the console itself has. -/
def version : OptionSpec := ⟨"version", some 'V', .version, "Print version"⟩

def count : OptionSpec :=
  ⟨"count", some 'c', .value .count "COUNT" false, "Number of keys to generate [default: 1]"⟩

def config : OptionSpec :=
  ⟨"config", some 'c', .value .path "CONFIG" true, "Configuration file (JSON)"⟩

def user : OptionSpec := ⟨"user", some 'u', .value .text "USER" true, "User id claim"⟩

def claim : OptionSpec :=
  ⟨"claim", none, .values .text "KEY=VALUE", "Additional claims as KEY=VALUE"⟩

def secret : OptionSpec := ⟨"secret", none, .value .text "SECRET" true, "Project secret (hex)"⟩

def nonce : OptionSpec :=
  ⟨"nonce", none, .value .text "NONCE" false, "Use this nonce instead of a random one"⟩

def timestamp : OptionSpec :=
  ⟨"timestamp", none, .value .time "TIMESTAMP" false, "Unix timestamp to sign with instead of now"⟩

/-! ### Pages -/

/-- The page of a command without commands of its own. -/
def leaf (path : List String) (about : String) (options : List OptionSpec)
    (operands : List OperandSpec) : Page :=
  ⟨path, about, options ++ [help], operands, []⟩

def helpAbout : String := "Print this message or the help of the given subcommand(s)"

/-- The page of a group of commands, one of which prints pages. -/
def group (path : List String) (about : String) (options : List OptionSpec) (commands : List Page) :
    Page :=
  ⟨path, about, options, [],
    commands.map (fun p => (p.path.getLastD "", p.about)) ++ [("help", helpAbout)]⟩

/-- The page of the command of a group that prints pages. -/
def helpOf (group : Page) : Page :=
  ⟨group.path ++ ["help"], helpAbout, [],
    [⟨.text, "[COMMAND]...", "Print help for the subcommand(s)"⟩], []⟩

def keygen : Page :=
  leaf ["keygen"] "Generate random hex keys for \x60auth_keys\x60 or project secrets" [count, verbose] []

def configDefault : Page :=
  leaf ["config", "default"] "Print the default configuration as JSON" [verbose] []

def configTest : Page :=
  leaf ["config", "test"] "Load, validate and summarize a configuration file" [config, verbose] []

def configGroup : Page :=
  group ["config"] "Print or check configuration" [verbose, help] [configDefault, configTest]

def tokenIssue : Page :=
  leaf ["token", "issue"] "Issue a session token for a user" [config, verbose, user, claim] []

def tokenInspect : Page :=
  leaf ["token", "inspect"] "Verify a token and print its claims" [config, verbose]
    [⟨.text, "<TOKEN>", "Token as sent in the Authorization header"⟩]

def tokenGroup : Page :=
  group ["token"] "Issue and inspect admin session tokens" [verbose, help] [tokenIssue, tokenInspect]

def signInit : Page :=
  leaf ["sign-init"] "Sign a payment initiation request body" [secret, verbose, nonce, timestamp]
    [⟨.path, "<FILE>", "Request JSON file, \x60-\x60 for stdin"⟩]

def root : Page :=
  group [] "paymentd credential utilities" [verbose, help, version]
    [keygen, configGroup, tokenGroup, signInit]

def pages : List Page :=
  [root, keygen, configGroup, configDefault, configTest, tokenGroup, tokenIssue, tokenInspect, signInit,
    helpOf root, helpOf configGroup, helpOf tokenGroup]

def page? (path : List String) : Option Page := pages.find? fun p => p.path = path

end Manual

/-! ### Text -/

/-- Two columns, the second one behind the widest entry of the first. -/
def columns (rows : List (String × String)) : List String :=
  let widest := (rows.map (·.1.length)).foldl max 0
  rows.map fun r => "  " ++ r.1 ++ String.ofList (List.replicate (widest + 2 - r.1.length) ' ') ++ r.2

def OptionSpec.synopsis (o : OptionSpec) : String :=
  match o.kind with
  | .value _ placeholder _ | .values _ placeholder => "--" ++ o.name ++ " <" ++ placeholder ++ ">"
  | _ => "--" ++ o.name

def OptionSpec.label (o : OptionSpec) : String :=
  match o.letter with
  | some c => String.ofList ['-', c, ',', ' '] ++ o.synopsis
  | none => "    " ++ o.synopsis

/-- Whether an option is part of every use of its command. -/
def OptionSpec.isNeeded (o : OptionSpec) : Bool :=
  match o.kind with
  | .value _ _ needed => needed
  | _ => false

/-- Whether an option is about the manual and not about the work of a command. -/
def OptionSpec.isAside (o : OptionSpec) : Bool := o.kind = .help || o.kind = .version

namespace Page

def usage (p : Page) : String :=
  " ".intercalate <| Manual.console :: p.path ++
    (if p.options.any fun o => !o.isNeeded && !o.isAside then ["[OPTIONS]"] else []) ++
    (p.options.filter (·.isNeeded)).map OptionSpec.synopsis ++ p.operands.map (·.placeholder) ++
    if p.commands = [] then [] else ["<COMMAND>"]

/-- A titled part of a page, if there is something in it. -/
def part (title : String) (rows : List (String × String)) : List String :=
  if rows = [] then [] else "" :: title :: columns rows

def text (p : Page) : List String :=
  [p.about, "", "Usage: " ++ p.usage] ++ part "Commands:" p.commands ++
    part "Arguments:" (p.operands.map fun o => (o.placeholder, o.about)) ++
    part "Options:" (p.options.map fun o => (o.label, o.about))

end Page

end PaymentCredentials.Console
