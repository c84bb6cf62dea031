import ClassSheet.Dom.ClassList
import ClassSheet.Text.Lowercase

/-! # Elements

The data of an element: its tag, its attributes in the order in which they were first set, and its
class list. The class list always holds the words of the `class` attribute. -/

namespace ClassSheet.Dom

open ClassSheet.Text

/-- An attribute of an element. -/
structure Attribute where
  name : String
  value : String
deriving DecidableEq

/-- An element without its place in the tree. -/
structure Element where
  /-- The tag, in lower case. -/
  tag : String
  attributes : List Attribute
  classes : ClassList
deriving DecidableEq

namespace Element

/-- An element without attributes. -/
def ofTag (tag : String) : Element := ⟨asciiLowercase tag, [], .empty⟩

/-- The value of an attribute. Names are told apart by case. -/
def attribute? (e : Element) (name : String) : Option String :=
  (e.attributes.find? (·.name == name)).map (·.value)

/-- Whether an element has an attribute. -/
def hasAttribute (e : Element) (name : String) : Bool := e.attributes.any (·.name == name)

/-- Attributes with one of them set: the first of that name takes the value, or a new one is added
    at the end. -/
def putAttribute (name value : String) : List Attribute → List Attribute
  | [] => [⟨name, value⟩]
  | a :: as => if a.name == name then ⟨name, value⟩ :: as else a :: putAttribute name value as

/-- An element with an attribute set. The name is kept in lower case, and setting `class` renews the
    class list. -/
def setAttribute (e : Element) (name value : String) : Element :=
  let name := asciiLowercase name
  { e with
    attributes := putAttribute name value e.attributes
    classes := if name == "class" then .ofValue value else e.classes }

/-- The old value of an attribute and the element without it; nothing if there is none of that name.
    Removing `class` empties the class list. -/
def removeAttribute (e : Element) (name : String) : Option String × Element :=
  match e.attribute? name with
  | none => (none, e)
  | some value =>
    (some value,
      { e with
        attributes := e.attributes.eraseP (·.name == name)
        classes := if name == "class" then .empty else e.classes })

/-- An element with a class list, and its `class` attribute accordingly. -/
def withClasses (e : Element) (classes : ClassList) : Element :=
  { e with classes, attributes := putAttribute "class" classes.value e.attributes }

/-- An element with a class added, and whether that changed it. -/
def addClass (e : Element) (token : String) : Bool × Element :=
  match e.classes.add token with
  | (true, classes) => (true, e.withClasses classes)
  | (false, _) => (false, e)

/-- An element with a class removed, and whether that changed it. -/
def removeClass (e : Element) (token : String) : Bool × Element :=
  match e.classes.remove token with
  | (true, classes) => (true, e.withClasses classes)
  | (false, _) => (false, e)

end Element

end ClassSheet.Dom
