/-!
# Command line arguments

    [-c PATH | --config PATH] trial [--auth-value] [--pcr N]...
    [-c PATH | --config PATH] authorize [--policy-ref TEXT]
    [-c PATH | --config PATH] exec COMMAND

An option's value follows it or is attached with `=`; a separate value may not look like an option.
After `--` nothing is an option.
-/

namespace TrustedPlatform.CommandLine

/-- What to do. -/
inductive Task
  /-- Compute a policy digest through a trial session. -/
  | trial (authValue : Bool) (pcrs : List UInt32)
  /-- Approve a policy with a new key and satisfy it through the approval. -/
  | authorize (policyRef : String)
  /-- Execute one request envelope, given in hexadecimal digits. -/
  | exec (command : String)
  deriving DecidableEq, Repr

/-- What the arguments ask for. -/
structure Invocation where
  /-- The file that holds the configuration. -/
  configPath : Option String
  task : Task
  deriving DecidableEq, Repr

/-- Why there is nothing to do. -/
inductive NoInvocation
  /-- The arguments are wrong. -/
  | usage
  /-- The arguments ask for help. -/
  | help
  /-- The arguments ask for the version. -/
  | version
  deriving DecidableEq, Repr

/-- Whether an argument looks like an option, or like the end of the options. -/
def looksLikeOption (argument : String) : Bool :=
  argument.startsWith "-" && argument ≠ "-"

/-- The value attached to the option `name`, if that is what the argument is. -/
def attached? (name argument : String) : Option String :=
  let start := (name ++ "=").toList
  if start.isPrefixOf argument.toList then some (String.ofList (argument.toList.drop start.length))
  else none

/-- The value of the option `name` at the front of the arguments and what follows it; none if
another argument is at the front. -/
def optionValue? (name : String) : List String → Option (Except NoInvocation (String × List String))
  | [] => none
  | argument :: rest =>
    if argument = name then
      match rest with
      | value :: rest =>
        if looksLikeOption value then some (.error .usage) else some (.ok (value, rest))
      | [] => some (.error .usage)
    else (attached? name argument).map fun value => .ok (value, rest)

/-- The value of an index: digits after an optional sign, of a number below `2 ^ 32`. -/
def index? (text : String) : Option UInt32 :=
  let (negative, digits) : Bool × List Char :=
    match text.toList with
    | '+' :: digits => (false, digits)
    | '-' :: digits => (true, digits)
    | digits => (false, digits)
  if digits.isEmpty || !digits.all Char.isDigit then none
  else
    let n := digits.foldl (fun n c => 10 * n + (c.toNat - '0'.toNat)) 0
    if n < UInt32.size ∧ (negative → n = 0) then some (UInt32.ofNat n) else none

/-- Whether an argument asks for help; of short options in one argument the first decides. -/
def asksForHelp (argument : String) : Bool :=
  argument = "--help" || argument.startsWith "-h"

/-- Whether an argument asks for the version. -/
def asksForVersion (argument : String) : Bool :=
  argument = "--version" || argument.startsWith "-V"

/-! ## The tasks

Each option takes one or two arguments, so reading them takes no more steps than there are
arguments. -/

/-- Reads the arguments of `trial`. -/
def trial (authValue : Bool) (pcrs : List UInt32) : (steps : Nat) → List String →
    Except NoInvocation Task
  | _, [] => .ok (.trial authValue pcrs)
  | 0, _ => .error .usage
  | steps + 1, arguments =>
    match optionValue? "--pcr" arguments with
    | some (.ok (value, rest)) =>
      match index? value with
      | some pcr => trial authValue (pcrs ++ [pcr]) steps rest
      | none => .error .usage
    | some (.error reason) => .error reason
    | none =>
      match arguments with
      | "--auth-value" :: rest => if authValue then .error .usage else trial true pcrs steps rest
      | ["--"] => .ok (.trial authValue pcrs)
      | argument :: _ => .error (if asksForHelp argument then .help else .usage)
      | [] => .error .usage

/-- Reads the arguments of `authorize`. -/
def authorize (policyRef : Option String) : (steps : Nat) → List String → Except NoInvocation Task
  | _, [] => .ok (.authorize (policyRef.getD ""))
  | 0, _ => .error .usage
  | steps + 1, arguments =>
    match optionValue? "--policy-ref" arguments with
    | some (.ok (value, rest)) =>
      if policyRef.isSome then .error .usage else authorize (some value) steps rest
    | some (.error reason) => .error reason
    | none =>
      match arguments with
      | ["--"] => .ok (.authorize (policyRef.getD ""))
      | argument :: _ => .error (if asksForHelp argument then .help else .usage)
      | [] => .error .usage

/-- Reads the arguments of `exec`. -/
def exec : List String → Except NoInvocation Task
  | ["--", command] => .ok (.exec command)
  | command :: rest =>
    if asksForHelp command then .error .help
    else if looksLikeOption command then .error .usage
    else
      match rest with
      | [] | ["--"] => .ok (.exec command)
      | argument :: _ => .error (if asksForHelp argument then .help else .usage)
  | [] => .error .usage

/-- Reads a task and its arguments. -/
def task : List String → Except NoInvocation Task
  | "trial" :: rest => trial false [] rest.length rest
  | "authorize" :: rest => authorize none rest.length rest
  | "exec" :: rest => exec rest
  | ["help"] | ["help", "trial"] | ["help", "authorize"] | ["help", "exec"] | ["help", "help"] =>
    .error .help
  | argument :: _ =>
    .error (if asksForHelp argument then .help else if asksForVersion argument then .version
      else .usage)
  | [] => .error .usage

/-! ## All arguments -/

/-- The value of the short option at the front of the arguments, attached or not, and what follows
it; none if another argument is at the front. -/
def shortConfig? : List String → Option (Except NoInvocation (String × List String))
  | [] => none
  | argument :: rest =>
    match argument.toList with
    | ['-', 'c'] => optionValue? "-c" (argument :: rest)
    | '-' :: 'c' :: '=' :: value => some (.ok (String.ofList value, rest))
    | '-' :: 'c' :: value => some (.ok (String.ofList value, rest))
    | _ => none

/-- What the arguments ask for; the path of a file is not empty. -/
def invocation (arguments : List String) : Except NoInvocation Invocation :=
  match (optionValue? "--config" arguments).orElse fun _ => shortConfig? arguments with
  | some (.ok (path, rest)) =>
    if path.isEmpty then .error .usage else do return ⟨some path, ← task rest⟩
  | some (.error reason) => .error reason
  | none => do return ⟨none, ← task arguments⟩

end TrustedPlatform.CommandLine
