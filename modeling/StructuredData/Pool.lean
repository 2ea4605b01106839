/-!
# Pools of workers

The tasks of a pool finish in any order.  Each outcome is filed under the position of its task as
it comes in, and the outcomes are delivered by position: the first failure in that order is the
pool's failure, whichever task failed first.
-/

namespace StructuredData

namespace Pool

variable {ε α : Type}

/-- Files the outcome of the task at a position. -/
def file (tasks : List (Except ε α)) (filed : List (Nat × Except ε α)) (i : Nat) :
    List (Nat × Except ε α) :=
  match tasks[i]? with
  | some outcome => (i, outcome) :: filed
  | none => filed

/-- The outcomes filed once the tasks have finished in the given order. -/
def fileAll (finish : List Nat) (tasks : List (Except ε α)) : List (Nat × Except ε α) :=
  finish.foldl (file tasks) []

/-- The outcomes delivered by position, from position `i` on. -/
def deliver (filed : List (Nat × Except ε α)) : Nat → Nat → Except ε (List α)
  | 0, _ => .ok []
  | count + 1, i =>
    match filed.find? fun entry => entry.1 = i with
    | some (_, .ok a) => do return a :: (← deliver filed count (i + 1))
    | some (_, .error e) => .error e
    | none => deliver filed count (i + 1)

/-- The results of the tasks, in the order of the tasks. -/
def collect (finish : List Nat) (tasks : List (Except ε α)) : Except ε (List α) :=
  deliver (fileAll finish tasks) tasks.length 0

end Pool

end StructuredData
