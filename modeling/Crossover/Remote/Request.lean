import Crossover.Text.Base64
import Crossover.Trading.Failure

/-!
# Requests

A request goes over a transport and comes back with a response, or with the reason why none came.
A response counts only with a status from 200 to 299. Paths travel percent-encoded. The transport
of a program without a network answers every request with the same reason.
-/

namespace Crossover.Remote

inductive Method
  | get
  | post
  | delete
deriving DecidableEq, Repr

def Method.text : Method → String
  | .get => "GET"
  | .post => "POST"
  | .delete => "DELETE"

inductive Authorization
  | basic (user password : String)
  | bearer (token : String)
deriving DecidableEq, Repr

def Authorization.text : Authorization → String
  | .basic user password => "Basic " ++ Base64.ofText s!"{user}:{password}"
  | .bearer token => "Bearer " ++ token

structure Request where
  method : Method
  base : String
  path : String
  authorization : Option Authorization
  /-- A JSON body. -/
  body : Option String
deriving DecidableEq, Repr

structure Response where
  status : Nat
  body : String
deriving DecidableEq, Repr

/-- Why no response came, the outermost text first. -/
structure NoResponse where
  message : String
  because : List String
deriving DecidableEq, Repr

/-- A transport with states in `κ`. -/
abbrev Transport (κ : Type) := Request → κ → Except NoResponse Response × κ

/-- Makes a transport ready, given the seconds a request may take, or says why it cannot. -/
abbrev Opening := Nat → Except NoResponse Unit

def opened : Opening := fun _ => .ok ()

namespace Request

/-- Bytes that stand for themselves in a path: visible ASCII characters but `"`, `<`, `>`, the
grave accent and braces. -/
def isPathByte (b : Nat) : Bool :=
  0x20 < b && b < 0x7f && !([0x22, 0x3c, 0x3e, 0x60, 0x7b, 0x7d].contains b)

/-- Bytes that stand for themselves in a query: visible ASCII characters but quotes, `<` and
`>`. -/
def isQueryByte (b : Nat) : Bool :=
  0x20 < b && b < 0x7f && !([0x22, 0x27, 0x3c, 0x3e].contains b)

def encodedByte (isPlain : Nat → Bool) (b : Nat) : List Char :=
  if isPlain b then [Char.ofNat b]
  else ['%', (Nat.digitChar (b / 16)).toUpper, (Nat.digitChar (b % 16)).toUpper]

def encoded (isPlain : Nat → Bool) (cs : List Char) : List Char :=
  ((String.ofList cs).toUTF8.toList.map UInt8.toNat).flatMap (encodedByte isPlain)

/-- The path as it travels: line ends and tabs are dropped, a backslash counts as a slash, and a
`#` and what follows it stay behind. -/
def encodedPath (path : String) : String :=
  let kept := (path.toList.filter fun c => c != '\t' && c != '\n' && c != '\r').takeWhile (· != '#')
  let slashed := (kept.takeWhile (· != '?')).map fun c => if c = '\\' then '/' else c
  String.ofList (encoded isPathByte slashed ++ encoded isQueryByte (kept.dropWhile (· != '?')))

def url (r : Request) : String := r.base ++ encodedPath r.path

end Request

/-- Every request fails for lack of a network. -/
def unreachable (κ : Type) : Transport κ := fun request s =>
  let root := "Network is unreachable (os error 101)"
  let connect := "tcp connect error: " ++ root
  let trying := "error trying to connect: " ++ connect
  (.error ⟨s!"error sending request for url ({request.url}): {trying}", [trying, connect, root]⟩, s)

variable {κ : Type}

/-- A response that counts. -/
def send (transport : Transport κ) (request : Request) (s : κ) :
    Except (Failure Float) Response × κ :=
  match transport request s with
  | (.error why, s) => (.error (.outside .transport why.message why.because), s)
  | (.ok response, s) =>
    if 200 ≤ response.status ∧ response.status ≤ 299 then (.ok response, s)
    else (.error (.ofFault (.unexpectedStatus response.status)), s)

end Crossover.Remote
