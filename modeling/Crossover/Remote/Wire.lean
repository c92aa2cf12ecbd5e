import Crossover.Json.Record
import Crossover.Time.Stamp
import Crossover.Trading.Position

/-!
# Wire forms

How candles, orders and positions travel as JSON. Identifiers that the exchange knows from the
context may be missing, and an empty list of orders may come as null; a candle does not carry its
symbol identifier back. Times are timestamps in universal time.
-/

namespace Crossover

namespace Wire

open Json (Field Reader Record)

def sides : List (String × Side) := [("BUY", .buy), ("SELL", .sell)]

def sideText : Side → List Char
  | .buy => Json.stringText "BUY"
  | .sell => Json.stringText "SELL"

def readSide : Reader Side := Reader.alternative sides

def statuses : List (String × Status) := [("OPEN", .opened), ("CLOSED", .closed)]

def statusText : Status → List Char
  | .opened => Json.stringText "OPEN"
  | .closed => Json.stringText "CLOSED"

def readStatus : Reader Status := Reader.alternative statuses

def orderKinds : List (String × OrderKind) := [("MARKET", .market)]

def orderKindText : OrderKind → List Char
  | .market => Json.stringText "MARKET"

def readOrderKind : Reader OrderKind := Reader.alternative orderKinds

def instantText (t : Instant) : List Char :=
  '"' :: Stamp.wireChars t ++ ['"']

def readInstant : Reader Instant := fun _ c => do
  let c := c.skipBlanks
  match c.rest with
  | '"' :: _ =>
    let (s, c) ← c.advance.string
    match Stamp.read s.toList with
    | .ok t => return (t, c)
    | .error problem => c.fail (.data problem.message)
  | _ => c.refuse "an RFC 3339 formatted date and time string"

def required {α : Type} (name : String) (read : Reader α) (write : α → List Char) : Field :=
  ⟨name, α, read, write, none, false⟩

def optional {α : Type} (name : String) (read : Reader α) (write : α → List Char)
    (fallback : α) : Field :=
  ⟨name, α, read, write, some fallback, false⟩

def text (name : String) : Field := required name Reader.text Json.stringText

def optionalText (name : String) : Field := optional name Reader.text Json.stringText ""

def number (name : String) : Field := required name Reader.float Json.floatText

def time (name : String) : Field := required name readInstant instantText

def side : Field := required "side" readSide sideText

/-- A list that may come as null when it is empty. -/
def listOrNull {α : Type} (name : String) (read : Reader α) (write : α → List Char) : Field :=
  optional name (fun levels c => do
      let (items, c) ← Reader.nullable (Reader.list read) levels c
      return (items.getD [], c))
    (fun items => Json.listText (items.map write)) []

def candle : Record (Candle Float) where
  name := "Candle"
  fields :=
    [optionalText "id", { optionalText "symbol_id" with isHidden := true }, text "symbol",
      text "interval", time "open_time", number "open_price", number "close_price",
      time "close_time", number "low", number "high", number "volume"]
  ofValues
    | (id, symbolId, symbol, interval, openTime, openPrice, closePrice, closeTime, low, high,
        volume, ()) =>
      ⟨id, symbolId, symbol, interval, openTime, openPrice, closePrice, closeTime, low, high,
        volume⟩
  toValues c :=
    (c.id, c.symbolId, c.symbol, c.interval, c.openTime, c.openPrice, c.closePrice, c.closeTime,
      c.low, c.high, c.volume, ())

def order : Record (Order Float) where
  name := "Order"
  fields :=
    [text "order_id", optionalText "symbol_id", optionalText "position_id", time "creation_time",
      number "price", number "quantity", optionalText "status",
      optional "type" readOrderKind orderKindText .market, side]
  ofValues
    | (id, symbolId, positionId, creationTime, price, quantity, status, kind, side, ()) =>
      ⟨id, symbolId, positionId, creationTime, price, quantity, status, kind, side⟩
  toValues o :=
    (o.id, o.symbolId, o.positionId, o.creationTime, o.price, o.quantity, o.status, o.kind,
      o.side, ())

def position : Record (Position Float) where
  name := "Position"
  fields :=
    [text "position_id", optionalText "symbol_id", side,
      required "status" readStatus statusText, time "creation_time", optionalText "user",
      optionalText "symbol", listOrNull "orders" order.read order.text]
  ofValues
    | (id, symbolId, side, status, creationTime, user, symbol, orders, ()) =>
      ⟨id, symbolId, side, status, creationTime, user, symbol, orders⟩
  toValues p :=
    (p.id, p.symbolId, p.side, p.status, p.creationTime, p.user, p.symbol, p.orders, ())

def newPosition : Record NewPosition where
  name := "NewPosition"
  fields := [text "symbol_id", side]
  ofValues | (symbolId, side, ()) => ⟨symbolId, side⟩
  toValues p := (p.symbolId, p.side, ())

def newOrder : Record (NewOrder Float) where
  name := "NewOrder"
  fields := [text "position_id", number "quantity", side]
  ofValues | (positionId, quantity, side, ()) => ⟨positionId, quantity, side⟩
  toValues o := (o.positionId, o.quantity, o.side, ())

structure Token where
  token : String

def token : Record Token where
  name := "TokenResponse"
  fields := [text "token"]
  ofValues | (token, ()) => ⟨token⟩
  toValues t := (t.token, ())

end Wire

end Crossover
