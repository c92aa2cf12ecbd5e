import Crossover.Json.Value

/-!
# Log events

An event has a level, the part of the program it comes from, a message and named data. It is
written as a line of text, with the data after the message, or as a JSON object.
-/

namespace Crossover.Log

inductive Level
  | error
  | warn
  | info
  | debug
  | trace
deriving DecidableEq, Repr

namespace Level

def name : Level → String
  | .error => "ERROR"
  | .warn => "WARN"
  | .info => "INFO"
  | .debug => "DEBUG"
  | .trace => "TRACE"

/-- Higher ranks are more verbose. -/
def rank : Level → Nat
  | .error => 1
  | .warn => 2
  | .info => 3
  | .debug => 4
  | .trace => 5

end Level

inductive Datum
  | real (x : Float)
  | count (n : Nat)
  | text (s : String)

structure Event where
  level : Level
  origin : String
  message : String
  data : List (String × Datum)

namespace Datum

/-- Reals always show that they are reals. -/
def plain : Datum → String
  | .real x => NumberNotation.exact.text x
  | .count n => toString n
  | .text s => s

def value : Datum → Json.Value
  | .real x => if Binary64.isFinite x.toBits then .number (.real x) else .null
  | .count n => .number (.natural n)
  | .text s => .string s

end Datum

namespace Event

def plain (e : Event) : String :=
  " ".intercalate
    (e.level.name :: e.message :: e.data.map fun (name, d) => s!"{name}={d.plain}")

def withOrigin (e : Event) : String :=
  let data := e.data.map fun (name, d) => s!" {name}={d.plain}"
  s!"{e.level.name} {e.origin}: {e.message}" ++ String.join data

def value (e : Event) : Json.Value :=
  .object [
    ("fields", .object (("message", .string e.message) :: e.data.map fun (name, d) =>
      (name, d.value))),
    ("level", .string e.level.name),
    ("target", .string e.origin)]

end Event

end Crossover.Log
