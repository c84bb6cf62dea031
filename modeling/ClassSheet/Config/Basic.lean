import ClassSheet.Dom.Tree
import ClassSheet.Name.Encoded

/-! # Settings

What a pass over a document can be told: how encoded names are marked, how an element opts out, and
which `style` element takes the rules. -/

namespace ClassSheet

open ClassSheet.Text

/-- The settings of a pass. -/
structure Config where
  /-- The text that marks encoded class names. -/
  marker : String
  /-- The attribute by which the body or an element opts out. -/
  optOutAttribute : String
  /-- The value of that attribute that means opting out. -/
  optOutValue : String
  /-- The `id` of the `style` element. -/
  styleId : String
deriving DecidableEq

namespace Config

/-- The settings that hold unless others are given. -/
def default : Config := ⟨EncodedName.defaultMarker, "data-dystyle", "false", "dySTYLEInternalCSS"⟩

/-- A setting, for reading it and for naming it. -/
inductive Field where
  | marker | optOutAttribute | optOutValue | styleId
deriving DecidableEq

namespace Field

/-- Every setting, in the order in which settings are written. -/
def all : List Field := [marker, optOutAttribute, optOutValue, styleId]

/-- The name of a setting. -/
def name : Field → String
  | marker => "prefix"
  | optOutAttribute => "opt_out_attribute"
  | optOutValue => "opt_out_value"
  | styleId => "style_element_id"

/-- The setting with a given name. -/
def ofName? (name : String) : Option Field := all.find? (·.name == name)

end Field

/-- The value of a setting. -/
def get (c : Config) : Field → String
  | .marker => c.marker
  | .optOutAttribute => c.optOutAttribute
  | .optOutValue => c.optOutValue
  | .styleId => c.styleId

/-- The settings with one of them changed. -/
def set (c : Config) (field : Field) (value : String) : Config :=
  match field with
  | .marker => { c with marker := value }
  | .optOutAttribute => { c with optOutAttribute := value }
  | .optOutValue => { c with optOutValue := value }
  | .styleId => { c with styleId := value }

/-! ### Checking -/

/-- Why settings are refused. -/
inductive Error where
  /-- The settings cannot be read. -/
  | json
  /-- A setting that must not be empty is. -/
  | empty (field : Field)
  /-- The `id` of the `style` element holds white space. -/
  | invalidStyleId (styleId : String)
deriving DecidableEq

/-- The text of an error. -/
def Error.message : Error → String
  | json => "invalid config JSON"
  | empty field => "config field `" ++ field.name ++ "` must not be empty"
  | invalidStyleId styleId => "style element id `" ++ styleId ++ "` must not contain whitespace"

/-- Why settings cannot be used, if they cannot. The first fault in the order of the settings
    counts. -/
def check (c : Config) : Except Error Unit :=
  match [Field.marker, .optOutAttribute, .styleId].find? fun field => (c.get field).isEmpty with
  | some field => .error (.empty field)
  | none =>
    if c.styleId.toList.any isBlank then .error (.invalidStyleId c.styleId) else .ok ()

/-! ### Opting out -/

/-- Whether an element opts out. -/
def isOptedOut (c : Config) (t : Dom.Tree) (r : Dom.NodeRef) : Bool :=
  t.attribute? r c.optOutAttribute == some c.optOutValue

end Config

end ClassSheet
