import QueryBridge.Fields
import QueryBridge.Text.CodeString

/-!
# Configurable properties

The host fills in named properties; a property may be required, and a sensitive one
is masked in listings.  A map keeps its properties in the order in which their names
were first defined, and the last definition of a name counts.  Values given to
unknown names are dropped.
-/

namespace QueryBridge

structure Property where
  name : String
  required : Bool
  sensitive : Bool
  value : Option CodeString
deriving Repr, DecidableEq

/-- A property as listings show it. -/
structure Listing where
  name : String
  required : Bool
  sensitive : Bool
  value : Option CodeString
deriving Repr, DecidableEq

/-- The named properties in order. -/
structure PropertyMap where
  entries : Fields Property
deriving Repr, DecidableEq

namespace Property

def mask : String := "********"

/-- Whether the property has a value that is not empty. -/
def isFilled (property : Property) : Bool :=
  match property.value with
  | none => false
  | some value => value != ""

/-- The value as listings show it. -/
def displayValue (property : Property) : Option CodeString :=
  if property.sensitive && property.isFilled then some ↑mask else property.value

def listing (property : Property) : Listing :=
  ⟨property.name, property.required, property.sensitive, property.displayValue⟩

end Property

namespace PropertyMap

def ofDefinitions (definitions : List Property) : PropertyMap :=
  ⟨Fields.ofList (definitions.map fun property => (property.name, property))⟩

def contains (map : PropertyMap) (name : String) : Bool :=
  Fields.contains map.entries name

def properties (map : PropertyMap) : List Property :=
  map.entries.map Prod.snd

/-- The properties as listings show them, in order. -/
def listings (map : PropertyMap) : List Listing :=
  map.properties.map Property.listing

def value? (map : PropertyMap) (name : String) : Option CodeString :=
  (Fields.get? map.entries name).bind Property.value

/-- Gives a value to one name, if there is such a property. -/
def set (map : PropertyMap) (name : String) (value : Option CodeString) : PropertyMap :=
  ⟨map.entries.map fun entry =>
    if entry.1 = name then (entry.1, { entry.2 with value := value }) else entry⟩

def setValues (map : PropertyMap) (values : List (String × Option CodeString)) : PropertyMap :=
  values.foldl (fun map pair => map.set pair.1 pair.2) map

/-- The required properties without a value, in order. -/
def missing (map : PropertyMap) : List String :=
  (map.properties.filter fun property => property.required && !property.isFilled).map
    Property.name

/-! ## The credentials -/

def usernameKey : String := "Username"

def passwordKey : String := "Password"

/-- The properties of an adapter: the credentials, of which the password is
sensitive. -/
def credentials : PropertyMap :=
  ofDefinitions [⟨usernameKey, true, false, none⟩, ⟨passwordKey, true, true, none⟩]

end PropertyMap

end QueryBridge
