import Crossover.Remote.Request
import Crossover.Remote.Wire
import Crossover.Session.Feed
import Crossover.Trading.Exchange

/-!
# The client of an exchange

A client speaks to an exchange over a transport: it logs in once with a name and a password and
sends the token it got with every later request. Positions come in pages of ten, the newest
first; the last page is the first one that is not full. A position is created in two requests,
one for the position and one for its opening order. After closing a position the newest one is
looked up. An empty list may come as null.
-/

namespace Crossover.Remote

structure Client where
  base : String
  username : String
  password : String
  token : Option String
deriving DecidableEq, Repr

/-- A client and the state of its transport. -/
structure Connection (κ : Type) where
  client : Client
  link : κ

namespace Client

def withoutSlashes (cs : List Char) : List Char :=
  (cs.reverse.dropWhile (· == '/')).reverse

/-- A client that has not logged in; slashes at the end of the address do not count. -/
def new (base username password : String) : Client :=
  ⟨String.ofList (withoutSlashes base.toList), username, password, none⟩

def request (c : Client) (method : Method) (path : String) (body : Option String) : Request :=
  ⟨method, c.base, path, c.token.map .bearer, body⟩

end Client

variable {κ : Type} {α : Type}

def decode (read : Json.Reader α) (response : Response) : Except (Failure Float) α :=
  match read.run response.body.toList with
  | .ok a => .ok a
  | .error e =>
    .error (.outside .body ("error decoding response body: " ++ e.message) [e.message])

namespace Connection

def send (transport : Transport κ) (request : Request) (s : Connection κ) :
    Except (Failure Float) Response × Connection κ :=
  let (reply, link) := Remote.send transport request s.link
  (reply, { s with link := link })

def fetch (transport : Transport κ) (read : Json.Reader α) (method : Method) (path : String)
    (body : Option String) (s : Connection κ) : Except (Failure Float) α × Connection κ :=
  let (reply, s) := s.send transport (s.client.request method path body)
  (reply >>= decode read, s)

def fetchList (transport : Transport κ) (read : Json.Reader α) (path : String)
    (s : Connection κ) : Except (Failure Float) (List α) × Connection κ :=
  let (reply, s) := s.fetch transport (.nullable (.list read)) .get path none
  (reply.map (·.getD []), s)

def tokenPath : String := "/v1/users/token"

def logIn (transport : Transport κ) (s : Connection κ) :
    Except (Failure Float) Unit × Connection κ :=
  let c := s.client
  let ask : Request := ⟨.get, c.base, tokenPath, some (.basic c.username c.password), none⟩
  match s.send transport ask with
  | (.error f, s) => (.error f, s)
  | (.ok response, s) =>
    match inContext "decoding token response" (decode Wire.token.read response) with
    | .error f => (.error f, s)
    | .ok answer => (.ok (), { s with client := { s.client with token := some answer.token } })

def candles (transport : Transport κ) (q : Question) (s : Connection κ) :
    Except (Failure Float) (List (Candle Float)) × Connection κ :=
  s.fetchList transport Wire.candle.read
    s!"/v1/candles/{q.symbol}/{q.interval}/{q.page}/{q.rows}"

def positions (transport : Transport κ) (page rows : Nat) (s : Connection κ) :
    Except (Failure Float) (List (Position Float)) × Connection κ :=
  s.fetchList transport Wire.position.read s!"/v1/positions/{page}/{rows}"

def pageRows : Nat := 10

/-- Pages are numbered by 32-bit words. -/
def lastPage : Nat := Nat.pow 2 32 - 1

/-- The positions from a page on, for at most so many pages. -/
def positionsFrom (transport : Transport κ) : (pages : Nat) → (page : Nat) → Connection κ →
    Except (Failure Float) (List (Position Float)) × Connection κ
  | 0, _, s => (.ok [], s)
  | pages + 1, page, s =>
    match s.positions transport page pageRows with
    | (.error f, s) => (.error f, s)
    | (.ok batch, s) =>
      if batch.length < pageRows then (.ok batch, s)
      else
        let (rest, s) := positionsFrom transport pages (page + 1) s
        (rest.map (batch ++ ·), s)

def list (transport : Transport κ) (s : Connection κ) :
    Except (Failure Float) (List (Position Float)) × Connection κ :=
  positionsFrom transport lastPage 1 s

def newest (transport : Transport κ) (s : Connection κ) :
    Except (Failure Float) (Option (Position Float)) × Connection κ :=
  let (reply, s) := s.positions transport 1 1
  (reply.map List.getLast?, s)

def order (transport : Transport κ) (s : Connection κ) (new : NewOrder Float) :
    Except (Failure Float) (Order Float) × Connection κ :=
  s.fetch transport Wire.order.read .post "/v1/orders"
    (some (String.ofList (Wire.newOrder.text new)))

def orderContext (position : String) : String :=
  "unable to create order for position " ++ position

def create (transport : Transport κ) (s : Connection κ) (new : NewPosition) (quantity : Float) :
    Except (Failure Float) (Position Float) × Connection κ :=
  let body := String.ofList (Wire.newPosition.text new)
  match s.fetch transport Wire.position.read .post "/v1/positions" (some body) with
  | (.error f, s) => (.error f, s)
  | (.ok p, s) =>
    let (opening, s) := s.order transport ⟨p.id, quantity, p.side⟩
    ((inContext (orderContext p.id) opening).map fun o => { p with orders := p.orders ++ [o] }, s)

def close (transport : Transport κ) (s : Connection κ) (id : String) :
    Except (Failure Float) (Option (Position Float)) × Connection κ :=
  match s.send transport (s.client.request .delete ("/v1/positions/" ++ id) none) with
  | (.error f, s) => (.error f, s)
  | (.ok _, s) => s.newest transport

end Connection

def exchange (transport : Transport κ) : Exchange Float (Connection κ) where
  list := Connection.list transport
  newest := Connection.newest transport
  create := Connection.create transport
  order := Connection.order transport
  close := Connection.close transport

/-- The candles behind a connection; answers take no time. -/
def source (transport : Transport κ) : Source Float (Connection κ) := fun q s =>
  let (reply, s) := s.candles transport q
  ((0, reply), s)

end Crossover.Remote
