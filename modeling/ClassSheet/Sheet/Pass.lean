import ClassSheet.Config.Basic
import ClassSheet.Name.Compile
import ClassSheet.Sheet.Basic

/-! # A pass over a document

A pass compiles every encoded class name below the body, collects the rules in a sheet and writes
the new ones to the document. A name that does not compile is reported, and the pass goes on. -/

namespace ClassSheet

/-! ### Reports -/

/-- What a pass did. -/
structure Report where
  /-- The body opts out, so nothing was looked at. -/
  optedOut : Bool
  /-- The elements with a `class` attribute. -/
  scanned : Nat
  /-- The encoded names among their classes. -/
  matched : Nat
  /-- The rules that were new to the sheet. -/
  emitted : Nat
  /-- The rules that were in the sheet already. -/
  duplicates : Nat
  /-- The rules that were written to the document. -/
  flushed : Nat
  /-- Why names did not compile, in document order. -/
  failures : List CompileError
deriving DecidableEq

/-- The report of a pass that has not done anything. -/
def Report.empty : Report := ⟨false, 0, 0, 0, 0, 0, []⟩

namespace Pass

/-! ### What is looked at -/

/-- The elements with a `class` attribute below a node, in document order, each with its classes. An
    element that opts out is listed without classes. -/
def collect (c : Config) (t : Dom.Tree) (below : Dom.NodeRef) : List (Nat × List String) :=
  ((t.descendants below).filter fun i => t.hasAttribute (some i) "class").map fun i =>
    (i, if c.isOptedOut t (some i) then [] else ((t.classes? (some i)).map (·.tokens)).getD [])

/-! ### Compiling -/

/-- A tree, a sheet and a report on the way through a pass. -/
structure State where
  tree : Dom.Tree
  sheet : Sheet
  report : Report

namespace State

/-- The state with one more failure. -/
def addFailure (s : State) (e : CompileError) : State :=
  { s with report := { s.report with failures := s.report.failures ++ [e] } }

/-- The state with a rule in its sheet, counted as new or as known. -/
def addRule (s : State) (rule : Css.Rule) : State :=
  match s.sheet.insert rule with
  | (true, sheet) => { s with sheet, report := { s.report with emitted := s.report.emitted + 1 } }
  | (false, sheet) =>
    { s with sheet, report := { s.report with duplicates := s.report.duplicates + 1 } }

/-- The state after an encoded name on an element. -/
def addName (s : State) (element : Nat) (n : EncodedName) : State :=
  let s := { s with report := { s.report with matched := s.report.matched + 1 } }
  match n.compile s.tree (some element) with
  | .error e => s.addFailure e
  | .ok (compiled, tree) => { s with tree }.addRule compiled.rule

/-- The state after a class of an element; a class that is not encoded changes nothing. -/
def addClass (c : Config) (element : Nat) (s : State) (token : String) : State :=
  match EncodedName.parse? c.marker token with
  | none => s
  | some n => s.addName element n

/-- The state after an element and its classes. -/
def addElement (c : Config) (s : State) (entry : Nat × List String) : State :=
  entry.2.foldl (addClass c entry.1)
    { s with report := { s.report with scanned := s.report.scanned + 1 } }

end State

/-- The state after every element below the body. The elements and their classes are listed before
    the first of them is compiled, so that generated classes are not looked at. -/
def compileAll (c : Config) (t : Dom.Tree) (body : Dom.NodeRef) (sheet : Sheet) : State :=
  (collect c t body).foldl (State.addElement c) ⟨t, sheet, .empty⟩

/-! ### Running -/

/-- A pass over a document: its report, and the document and the sheet as the pass leaves them.
    Without a body there is nothing to do, and a body that opts out ends the pass. If the rules
    cannot be written, the classes that were added and the rules that were collected stay. -/
def run (c : Config) (d : Dom.Document) (sheet : Sheet) :
    Except Dom.Error Report × Dom.Document × Sheet :=
  if d.body.isNone then (.ok .empty, d, sheet)
  else if c.isOptedOut d.tree d.body then (.ok { Report.empty with optedOut := true }, d, sheet)
  else
    let s := compileAll c d.tree d.body sheet
    -- from here on the classes stay, whether the rules can be written or not
    let d := { d with tree := s.tree }
    match s.sheet.flush d with
    | .error e => (.error e, d, s.sheet)
    | .ok (flushed, sheet, d) => (.ok { s.report with flushed }, d, sheet)

end Pass

end ClassSheet
