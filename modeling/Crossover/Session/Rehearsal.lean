import Crossover.Rehearsal.Doubles
import Crossover.Rehearsal.Scripted

/-!
# Rehearsals

Stand-ins with which a part of a session is tried out alone: doubles of a budget, an exchange and
a rule, and scripted tasks for either end of the line.
-/
