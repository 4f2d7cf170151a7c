import DocTemplate.Scan.Parameters
import DocTemplate.Scan.Finish

/-!
# Reading a declaration

Each token goes to the readers of classes, functions, parameters and variables in this order, until
one takes it.  `run` reads tokens until nothing is left to read, and `read` gives the record:

    l.read mixed ts = l.finish mixed (l.run ts {})

-/

namespace DocTemplate.Language

/-- The readers that a token passes. -/
inductive Stage where
  | classHead
  | function
  | parameters
  | var
  deriving DecidableEq, Repr

def Stage.all : List Stage := [.classHead, .function, .parameters, .var]

def readStage (l : Language) : Stage → Token → Scan → Outcome
  | .classHead => l.readClass
  | .function => l.readFunction
  | .parameters => l.readParameters
  | .var => l.readVariable

/-- In Java annotations say nothing about the declaration. -/
def skips (l : Language) (t : Token) : Bool := l = .java && t.text.toList.head? = some '@'

/-- The readers for the next token.  Once the scan is done, only an open parameter list goes on. -/
def stages (l : Language) (t : Token) (s : Scan) : List Stage :=
  if l.skips t then [] else if s.done then [.parameters] else Stage.all

/-- Passes a token through readers until one takes it, and tells which were passed. -/
def pass (l : Language) (t : Token) : List Stage → Scan → List (Stage × Bool) × Scan
  | [], s => ([], s)
  | g :: gs, s =>
    let o := l.readStage g t s
    if o.taken then ([(g, true)], o.scan)
    else
      let (later, s) := pass l t gs o.scan
      ((g, false) :: later, s)

def visits (l : Language) (t : Token) (s : Scan) : List (Stage × Bool) :=
  (l.pass t (l.stages t s) s).1

def step (l : Language) (t : Token) (s : Scan) : Scan := (l.pass t (l.stages t s) s).2

def run (l : Language) : List Token → Scan → Scan
  | [], s => s
  | t :: ts, s => if s.finished then s else run l ts (l.step t s)

/-- The scans that a run goes through, each with the readers that its token passed. -/
def trace (l : Language) : List Token → Scan → List (List (Stage × Bool) × Scan)
  | [], _ => []
  | t :: ts, s =>
    if s.finished then []
    else
      let s' := l.step t s
      (l.visits t s, s') :: trace l ts s'

/-- The declaration of a list of tokens. -/
def read (l : Language) (mixed : Bool) (ts : List Token) : Declaration :=
  l.finish mixed (l.run ts {})

end DocTemplate.Language
