import ClassSheet.Css.Property
import ClassSheet.Css.Rule
import ClassSheet.Css.Value
import ClassSheet.Dom.InPlace
import ClassSheet.Dom.Serialize
import ClassSheet.Name.Encoded
import ClassSheet.Text.Quoted

/-! # From a class name to a rule

An encoded name on an element becomes a rule: its property and value tokens are read and paired, its
media token becomes the condition and its reach the selector. `EncodedName.plan` makes the rule and
`EncodedName.compile` also puts the generated class on the element; `EncodedName.compileInPlace`
does so in a tree that others see as well. -/

namespace ClassSheet

open ClassSheet.Text

/-! ### Tokens -/

/-- The tokens of a list that were accepted, with what they stand for, and those that were not. -/
structure Sifted (α : Type) where
  accepted : List α
  rejected : List String
deriving DecidableEq

/-- Sifts the tokens of a text with dots between them. A token that stands for nothing is
    rejected. -/
def Sifted.ofTokens {α : Type} (read : String → List α) (tokens : String) : Sifted α :=
  let parts := (pieces (· == '.') tokens.toList).map String.ofList
  ⟨parts.flatMap read, parts.filter fun part => (read part).isEmpty⟩

/-- The properties that a text of property tokens stands for. -/
def siftProperties (tokens : String) : Sifted String := .ofTokens Css.Property.resolve tokens

/-- The values that a text of value tokens stands for. -/
def siftValues (tokens : String) : Sifted Css.Value :=
  .ofTokens (fun token => (Css.Value.ofToken? token).toList) tokens

/-- The condition that a media token stands for; a token that stands for none is passed over. -/
def condition? (token : String) : Option Media.Condition :=
  (Media.Condition.ofToken token).toOption

/-! ### Errors -/

/-- What is known about a name whose properties and values do not pair up. -/
structure Mismatch where
  className : String
  properties : String
  values : String
  acceptedProperties : List String
  rejectedProperties : List String
  acceptedValues : List String
  rejectedValues : List String
  /-- The start tag of the element. -/
  element : String
deriving DecidableEq

/-- The text of a mismatch. -/
def Mismatch.message (m : Mismatch) : String :=
  "properties and values count mismatch in `" ++ m.className ++ "`: " ++
    toString m.acceptedProperties.length ++ " properties " ++ quotedList m.acceptedProperties ++
    " (rejected " ++ quotedList m.rejectedProperties ++ ") from `" ++ m.properties ++ "`, " ++
    toString m.acceptedValues.length ++ " values " ++ quotedList m.acceptedValues ++
    " (rejected " ++ quotedList m.rejectedValues ++ ") from `" ++ m.values ++ "`, element " ++
    m.element

/-- Why a name does not become a rule. -/
inductive CompileError where
  /-- There are not as many properties as values. -/
  | mismatch (m : Mismatch)
  /-- There are no properties and no values. -/
  | noDeclarations (className : String)
  /-- The element does not hang below the document. -/
  | detached (node : Dom.NodeRef)
  /-- There is no such element. -/
  | dom (e : Dom.Error)
deriving DecidableEq

namespace CompileError

/-- The text of an error. -/
def message : CompileError → String
  | mismatch m => m.message
  | noDeclarations className => "class name `" ++ className ++ "` resolved to no declarations"
  | detached node => "element " ++ node.label ++ " is not attached to the document"
  | dom e => e.message

/-- The name that an error is about, where it is known. -/
def className? : CompileError → Option String
  | mismatch m => some m.className
  | noDeclarations className => some className
  | detached _ | dom _ => none

end CompileError

/-! ### Compiling -/

/-- A rule, and the class that it needs on the element. -/
structure Compiled where
  rule : Css.Rule
  /-- Missing if the selector goes by tags only. -/
  className : Option String
deriving DecidableEq

namespace EncodedName

/-- The selector of a name on an element with a tag, below a parent with a tag. -/
def selector (n : EncodedName) (tag : String) (parentTag : Option String) : Selector :=
  Reach.selectorOfToken n.reach ⟨n.className, tag, parentTag⟩

/-- The declarations of a name for properties and values in pairs. -/
def declarations (n : EncodedName) (properties : List String) (values : List Css.Value) :
    List Css.Declaration :=
  List.zipWith (fun property value => ⟨property, value.css, n.important⟩) properties values

/-- The rule of a name on an element, with the tree left as it is. The element has to exist,
    properties and values have to pair up, there has to be at least one pair, and the element has to
    hang below the document; the first of these that fails decides the error. -/
def plan (n : EncodedName) (t : Dom.Tree) (element : Dom.NodeRef) : Except CompileError Compiled :=
  match t.requireElement element with
  | .error e => .error (.dom e)
  | .ok e =>
    let properties := siftProperties n.properties
    let values := siftValues n.values
    if properties.accepted.length != values.accepted.length then
      .error (.mismatch
        { className := n.raw, properties := n.properties, values := n.values
          acceptedProperties := properties.accepted, rejectedProperties := properties.rejected
          acceptedValues := values.accepted.map Css.Value.css, rejectedValues := values.rejected
          element := e.startTag })
    else if properties.accepted.isEmpty then .error (.noDeclarations n.raw)
    else if !t.isConnected element then .error (.detached element)
    else
      let selector := n.selector e.tag (t.tag? (t.parentElement element))
      .ok
        { rule :=
            { selector := selector.css n.pseudo
              declarations := n.declarations properties.accepted values.accepted
              media := n.media.bind condition? }
          className := if selector.usesClass then some n.className else none }

/-- The rule of a name on an element, and the tree in which the element has the class that the rule
    needs. -/
def compile (n : EncodedName) (t : Dom.Tree) (element : Dom.NodeRef) :
    Except CompileError (Compiled × Dom.Tree) :=
  match n.plan t element with
  | .error e => .error e
  | .ok compiled =>
    match compiled.className with
    | none => .ok (compiled, t)
    | some className =>
      match t.addClass element className with
      | .error e => .error (.dom e)
      | .ok (_, t) => .ok (compiled, t)

/-- Makes the rule of a name on an element of a tree that others see as well, and puts the class
    that the rule needs on the element. -/
def compileInPlace (n : EncodedName) (element : Dom.NodeRef) :
    Work Dom.Tree CompileError Compiled := do
  let compiled ← MonadExcept.ofExcept (n.plan (← get) element)
  match compiled.className with
  | none => return compiled
  | some className =>
    let _ ← (Dom.InPlace.addClass element className).onPart id (fun _ t => t) .dom
    return compiled

/-- Compiling in place comes to what `compile` says, and a name that does not compile leaves the
    tree as it was. -/
theorem run_compileInPlace (n : EncodedName) (element : Dom.NodeRef) (t : Dom.Tree) :
    (n.compileInPlace element).run t = Work.kept t (n.compile t element) := by
  rw [compileInPlace, compile, Work.run_bind_ok (Work.run_get t)]
  cases hplan : n.plan t element with
  | error e =>
    rw [Work.run_bind_error (Work.run_ofExcept _ t)]
    rfl
  | ok compiled =>
    rw [Work.run_bind_ok (Work.run_ofExcept _ t)]
    dsimp only
    cases compiled.className with
    | none => rfl
    | some className =>
      -- the class is the only change, and one that is refused has not changed the tree
      have hadd : ((Dom.InPlace.addClass element className).onPart id (fun _ t => t) .dom).run t =
          Work.kept t (((t.addClass element className).mapError CompileError.dom).map id) :=
        Work.run_onPart id _ CompileError.dom rfl (Dom.InPlace.run_addClass element className t)
      dsimp only
      cases hclass : t.addClass element className with
      | error e =>
        rw [hclass] at hadd
        rw [Work.run_bind_error hadd]
        rfl
      | ok result =>
        rw [hclass] at hadd
        rw [Work.run_bind_ok hadd]
        rfl

end EncodedName

end ClassSheet
