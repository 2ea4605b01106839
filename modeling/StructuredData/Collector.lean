import StructuredData.Finding

/-!
# Collectors

A collector is where findings come together.  Findings are recorded one at a time; at any point what
is there can be frozen into a result, and the results are kept in the order in which they were
frozen.  Everything in a result can be taken in again later, by the number of the result.
-/

namespace StructuredData

/-- Findings that are being collected, and the results frozen so far. -/
structure Collector where
  findings : Findings
  results : List Findings
deriving DecidableEq

namespace Collector

/-- What can be done with a collector.  Results are numbered from zero. -/
inductive Step
  | record (severity : Severity) (message : Text) (path suggestion : Option Text)
  | freeze
  | extend (result : Nat)
deriving DecidableEq

/-- A collector with nothing in it. -/
def empty : Collector := ⟨.empty, []⟩

/-- The collector after one step.  A result that is not there cannot be taken in. -/
def step (c : Collector) : Step → Option Collector
  | .record severity message path suggestion =>
    some { c with findings := c.findings.record ⟨severity, message, path, suggestion⟩ }
  | .freeze => some { c with results := c.results ++ [c.findings] }
  | .extend result => c.results[result]?.map fun fs => { c with findings := c.findings ++ fs }

/-- The collector after some steps. -/
def after (c : Collector) (steps : List Step) : Option Collector := steps.foldlM step c

/-- What a collector that was empty has come to after some steps. -/
def run (steps : List Step) : Option Collector := empty.after steps

end Collector

end StructuredData
