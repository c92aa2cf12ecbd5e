import Crossover.Number.Notation
import Crossover.Text.Quoted

/-!
# Failures

What can go wrong. A fault is a condition the library itself detects; a failure is a fault, or a
cause from outside with the causes behind it, under any number of contexts that say what was
being done. Only a lack of funds and the closing of a closed position are recoverable: a trader
skips the bar and goes on, whatever contexts surround the fault.
-/

namespace Crossover

inductive Fault (α : Type)
  | insufficientFunds (base alt : α)
  | alreadyClosed
  | orderCount (expected got : Nat)
  | ruleUnavailable
  | unexpectedStatus (code : Nat)
  | malformedKline (index : Nat) (reason : String)
  | invalidSettings (reason : String)
deriving DecidableEq, Repr

/-- Where a cause that is not a fault comes from. -/
inductive Outside
  | transport
  | body
  | file
  | other
deriving DecidableEq, Repr

inductive Cause (α : Type)
  | fault (fault : Fault α)
  | outside (source : Outside) (message : String) (because : List String)
deriving DecidableEq, Repr

structure Failure (α : Type) where
  /-- What was being done, the outermost first. -/
  contexts : List String
  cause : Cause α
deriving DecidableEq, Repr

namespace Failure

variable {α : Type}

def ofFault (f : Fault α) : Failure α := ⟨[], .fault f⟩

def outside (source : Outside) (message : String) (because : List String) : Failure α :=
  ⟨[], .outside source message because⟩

def within (context : String) (f : Failure α) : Failure α :=
  { f with contexts := context :: f.contexts }

def fault? (f : Failure α) : Option (Fault α) :=
  match f.cause with
  | .fault fault => some fault
  | .outside .. => none

def isRecoverable (f : Failure α) : Bool :=
  match f.cause with
  | .fault (.insufficientFunds _ _) => true
  | .fault .alreadyClosed => true
  | _ => false

theorem isRecoverable_within (context : String) (f : Failure α) :
    (f.within context).isRecoverable = f.isRecoverable := rfl

end Failure

/-- A result whose failure has one more context around it. -/
def inContext {α β : Type} (context : String) (r : Except (Failure α) β) :
    Except (Failure α) β :=
  r.mapError (Failure.within context)

namespace Fault

def message : Fault Float → String
  | .insufficientFunds base alt =>
    let coins := s!"B[{NumberNotation.plain.text base}] T[{NumberNotation.plain.text alt}]"
    "not enough in fund. In fund: " ++ coins
  | .alreadyClosed => "can't close a position that is already closed"
  | .orderCount expected got => s!"wrong orders.len, need {expected} but got {got}"
  | .ruleUnavailable => "rule was lost by a previous run"
  | .unexpectedStatus code =>
    s!"status code [{code}] out of range, expecting 200 <= status code <= 299"
  | .malformedKline index reason => s!"malformed kline at index {index}: {reason}"
  | .invalidSettings reason => s!"invalid configuration: {reason}"

end Fault

namespace Failure

/-- All texts of a failure, the outermost first. -/
def chain (f : Failure Float) : List String :=
  f.contexts ++
    match f.cause with
    | .fault fault => [fault.message]
    | .outside _ message because => message :: because

def message (f : Failure Float) : String :=
  f.chain.headD ""

/-- A text whose lines after the first are set in by some blanks. -/
def setIn (blanks : String) (text : String) : String :=
  ("\n" ++ blanks).intercalate (text.splitOn "\n")

/-- The text printed when a failure ends the program: the outermost text and, if there are
any, the causes below it, set in, and numbered when there are several. -/
def report (f : Failure Float) : String :=
  let causes := f.chain.drop 1
  let lines := match causes with
    | [] => []
    | [cause] => ["", "Caused by:", "    " ++ setIn "    " cause]
    | _ => "" :: "Caused by:" ::
        causes.zipIdx.map fun (cause, index) => s!"    {index}: " ++ setIn "       " cause
  "\n".intercalate (("Error: " ++ f.message) :: lines)

end Failure

end Crossover
