import PaymentCredentials.Console.Command
import PaymentCredentials.Console.Inspection
import PaymentCredentials.Message.InitRequest
import PaymentCredentials.Text.Pieces

/-!
Running commands. A command sees the files, the standard input, the time and a supply of random bytes, and
answers with what it prints and whether it failed.
-/
namespace PaymentCredentials.Console

/-- What a command sees. -/
structure World where
  file : String → Except FileFault Bytes
  input : Bytes
  now : Instant
  entropy : Entropy

/-- What a command prints, and the status it ends with. -/
structure Report where
  code : Nat
  output : String
  errors : String
  deriving DecidableEq

/-- Why a command fails. -/
inductive Failure
  | zeroCount
  | loading (path : String) (fault : CredentialFault)
  | throwawayKey (path : String)
  | emptyUser
  | notAClaim (argument : String)
  | userAsClaim
  | noKeys (path : String)
  | inspection (fault : InspectionFault)
  | secretNotHex
  | reading (path reason : String)
  | timestampOutOfRange
  | request (fault : RequestFault)
  | credential (fault : CredentialFault)

def InspectionFault.message : InspectionFault → String
  | .unreadable fault => "token is not a readable authorization: " ++ fault.message
  | .unmatched _ fault => "no configured key verifies this token: " ++ fault.message
  | .undecodable _ fault => "token does not decrypt: " ++ fault.message

def Failure.message : Failure → String
  | .zeroCount => "count must be at least 1"
  | .loading path fault => "loading " ++ path ++ ": " ++ fault.message
  | .throwawayKey path =>
    path ++ " has no auth_keys; a token signed with a throwaway key cannot be verified"
  | .emptyUser => "user id must not be empty"
  | .notAClaim argument => "invalid claim " ++ Text.quoted argument ++ ", expected KEY=VALUE"
  | .userAsClaim => "use --user to set " ++ Claims.userKey
  | .noKeys path => path ++ " has no auth_keys"
  | .inspection fault => fault.message
  | .secretNotHex => "secret must be hex encoded"
  | .reading path reason => "reading " ++ path ++ ": " ++ reason
  | .timestampOutOfRange => "timestamp out of range"
  | .request fault => fault.message
  | .credential fault => fault.message

/-! ### Lines -/

def lines (ls : List String) : String := String.join (ls.map fun l => l ++ "\n")

def success (s : String) : String := "✓ " ++ s

def failure (s : String) : String := "✗ " ++ s

def warning (s : String) : String := "⚠ " ++ s

def info (s : String) : String := "ℹ " ++ s

/-- A title with an empty line in front of it. -/
def header (s : String) : List String := ["", s]

def entry (key value : String) : String := "  " ++ key ++ ": " ++ value

/-- The report of a command that ended well. -/
def done (output : String) (errors : List String) : Report := ⟨0, output, lines errors⟩

/-- The report of a command that failed after printing some lines. -/
def failed (errors : List String) (f : Failure) : Report :=
  ⟨1, "", lines (errors ++ [failure f.message])⟩

/-! ### Commands -/

/-- So many new keys, a line each. -/
def keyLines : (count : Nat) → Entropy → Except CredentialFault (List String)
  | 0, _ => .ok []
  | n + 1, e => do
    let (key, e) ← Key.generate e
    return key.toHex :: (← keyLines n e)

def keygen (w : World) (count : UInt64) : Except Failure Report := do
  if count = 0 then throw .zeroCount
  let keys ← (keyLines count.toNat w.entropy).mapError .credential
  return done (lines keys) []

def load (w : World) (path : String) : Except Failure Settings :=
  (Settings.ofFile path (w.file path)).mapError (.loading path)

def retentionText : RetentionPolicy → String
  | .unbounded => "unbounded"
  | .keepLatest count => "keep latest " ++ Decimal.ofInt count.toNat
  | .overlapWindow secs => "overlap window " ++ Decimal.ofInt secs.toNat ++ "s"

/-- Checks the settings in a file, and sums them up. -/
def configTest (w : World) (path : String) : Except Failure Report := do
  let s ← load w path
  let (keychain, generated, _) ← (s.buildKeychain w.now w.entropy).mapError .credential
  let seconds (n : UInt64) : String := Decimal.ofInt n.toNat ++ "s"
  return done "" <|
    header "Configuration" ++
      [entry "Keys" (Decimal.ofInt keychain.keyCount),
        entry "Hash" s.hash.name,
        entry "Session lifetime" (seconds s.lifetime),
        entry "Max message size" (Decimal.ofInt s.maxMessageSize.toNat),
        entry "Key retention" (retentionText s.retention),
        entry "Request max age" (seconds s.requestMaxAge),
        entry "Cookie auth" (if s.cookie.allowCookieAuth then "enabled" else "disabled")] ++
      (if generated.isSome then
        [warning "no auth_keys configured; paymentd would generate a key on every start",
          info "Run 'paymentdctl keygen' and add the key to auth_keys"]
      else []) ++
      [success "configuration OK"]

/-- A claim from an argument: what stands in front of the first equals sign, and what stands behind
it. -/
def readClaim (argument : String) : Except Failure (String × String) :=
  match splitName argument.toList with
  | (_, none) => .error (.notAClaim argument)
  | (key, some value) => if key = Claims.userKey then .error .userAsClaim else .ok (key, value)

def tokenIssue (w : World) (path user : String) (arguments : List String) : Except Failure Report := do
  let s ← load w path
  if s.authKeys = [] then throw (.throwawayKey path)
  if user = "" then throw .emptyUser
  let extra ← arguments.mapM readClaim
  let claims := extra.foldl (fun c e => c.insert e.1 (.ofText e.2)) (Claims.ofUser user)
  let (keychain, _, e) ← (s.buildKeychain w.now w.entropy).mapError .credential
  let authority : SessionAuthority := ⟨keychain, s.session⟩
  let (session, _) ← (authority.issueAt claims w.now e).mapError .credential
  return done (lines [session.token]) <|
    entry "Expires" session.expiresAt.rfc3339 ::
      match authority.cookieFor session with
      | none => []
      | some cookie => [entry "Set-Cookie" cookie]

def inspectionHeader (expiry : Instant) : List String :=
  header "Token" ++ [entry "Expiry" expiry.rfc3339]

def verdictLine : Verdict → String
  | .expired => warning "token is expired"
  | .noUser => warning "token carries no user id and would be rejected"
  | .valid => success "token is valid"

def inspectionReport : Except InspectionFault Inspection → Report
  | .ok i =>
    done (lines [i.claims.toJson.prettyText])
      (inspectionHeader i.expiry ++ [entry "User" (i.claims.user?.getD "<none>"),
        verdictLine i.verdict])
  | .error (.unreadable fault) => failed [] (.inspection (.unreadable fault))
  | .error (.unmatched expiry fault) =>
    failed (inspectionHeader expiry) (.inspection (.unmatched expiry fault))
  | .error (.undecodable expiry fault) =>
    failed (inspectionHeader expiry) (.inspection (.undecodable expiry fault))

/-- Checks a token, and prints its claims. -/
def tokenInspect (w : World) (path token : String) : Except Failure Report := do
  let s ← load w path
  let (keychain, generated, _) ← (s.buildKeychain w.now w.entropy).mapError .credential
  if generated.isSome then throw (.noKeys path)
  return inspectionReport (inspectToken s.session keychain token w.now)

/-- Whether a path stands for the standard input: it is a hyphen, and nothing but empty steps follow. -/
def isInput (path : String) : Bool :=
  match Text.pieces (· = '/') path.toList with
  | first :: rest => first = ['-'] && rest.all fun step => step = [] || step = ['.']
  | [] => false

/-- The bytes of a file, or of the standard input. -/
def readInput (w : World) (path : String) : Except Failure Bytes :=
  if isInput path then .ok w.input
  else (w.file path).mapError fun fault => .reading path fault.reason

/-- The instant of a timestamp, or the time at hand. -/
def signingTime (w : World) : Option Int64 → Except Failure Instant
  | none => .ok w.now
  | some t =>
    match Instant.ofUnix? t.toInt 0 with
    | some time => .ok time
    | none => .error .timestampOutOfRange

/-- The nonce given, or a new one. -/
def signingNonce (w : World) : Option String → Except Failure String
  | some nonce => .ok nonce
  | none => do
    let (nonce, _) ← (Nonce.generate w.entropy).mapError .credential
    return nonce.value

/-- Signs a request, and prints it. -/
def signInit (w : World) (secret file : String) (nonce : Option String) (timestamp : Option Int64) :
    Except Failure Report := do
  let secret ←
    match Hex.decode? (Text.trim secret) with
    | some b => pure b
    | none => throw .secretNotHex
  let body ← readInput w file
  let request ← (InitRequest.ofBytes body).mapError fun cause => .request (.invalid cause)
  let time ← signingTime w timestamp
  let nonce ← signingNonce w nonce
  let signed ← (signAt request time nonce secret).mapError .credential
  return done (lines [signed.toJson.prettyText]) <|
    match signed.validate with
    | .ok () => []
    | .error fault => [warning ("request would be rejected: " ++ fault.message)]

def Command.run (w : World) (c : Command) : Report :=
  let result :=
    match c with
    | .keygen count => Console.keygen w count
    | .configDefault => .ok (done (lines [Settings.standard.toJson.prettyText]) [])
    | .configTest path => Console.configTest w path
    | .tokenIssue path user claims => Console.tokenIssue w path user claims
    | .tokenInspect path token => Console.tokenInspect w path token
    | .signInit secret file nonce timestamp => Console.signInit w secret file nonce timestamp
  match result with
  | .ok report => report
  | .error f => failed [] f

/-- How many random bytes a command may need. -/
def Command.randomBytes : Command → Nat
  | .keygen count => Key.generatedSize * count.toNat
  | _ => Key.generatedSize + saltSize + Cipher.blockSize

def Refusal.report : Refusal → Report
  | .usage => ⟨2, "", lines ["error: invalid arguments", "", "Usage: " ++ Manual.root.usage]⟩
  | .help page => ⟨0, lines page.text, ""⟩
  | .version => ⟨0, lines [Manual.console ++ " 0.1.0"], ""⟩

def run (w : World) (args : List String) : Report :=
  match Command.ofArguments args with
  | .ok c => c.run w
  | .error refusal => refusal.report

end PaymentCredentials.Console
