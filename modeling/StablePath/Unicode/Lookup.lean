import StablePath.Unicode.Property

/-!
Finding a class of code points by name.

Names are compared loosely: case, blanks, underscores and hyphens do not count, nor does a leading
"is". A class is a binary property, a general category or a script; with a property named in front
it is a value of that property.
-/

namespace StablePath.Unicode

/-- What counts of a name, in lower case. -/
def nameKey (name : List Char) : List Char :=
  (name.filter fun c => c.val < 128 && c != ' ' && c != '_' && c != '-').map Char.toLower

/-- A name without its leading "is". The name "isc" keeps it, so as not to mean "c". -/
def looseName (name : List Char) : List Char :=
  match name.take 2 with
  | [a, b] =>
    if a.toLower == 'i' && b.toLower == 's' then
      let key := nameKey (name.drop 2)
      if key == ['c'] then ['i', 's', 'c'] else key
    else nameKey name
  | _ => nameKey name

/-- The first field of the word in which a name occurs. -/
def codeOf? (table : String) (key : List Char) : Option String :=
  (words table).findSome? fun word =>
    let names := fields word
    if names.any fun name => looseName name == key then names.head?.map String.ofList else none

def category? (key : List Char) : Option CharSet :=
  match String.ofList key with
  | "any" => some (.range 0 CharSet.lastCode)
  | "assigned" => some (.complement CharSet.lastCode (inCategories ["Cn"]))
  | "ascii" => some (.range 0 0x7F)
  | _ => (codeOf? categoryNames key).map fun code => inCategories (categoriesOf code)

def script? (key : List Char) : Option CharSet := (codeOf? scriptNames key).map inScript

def binaryProperty? (key : List Char) : Option CharSet := do
  let row ← propertyRows.find? fun row => row.names.any fun name => looseName name.toList == key
  let longName ← row.names[1]?
  return binaryProperty longName

/-- The class with a name: the property, else the category, else the script of that name. -/
def classNamed? (name : List Char) : Option CharSet :=
  let key := looseName name
  binaryProperty? key <|> category? key <|> script? key

/-- The class of the code points for which a property has a value. -/
def classWithValue? (property value : List Char) : Option CharSet :=
  let key := looseName value
  match String.ofList (looseName property) with
  | "gc" | "generalcategory" => category? key
  | "sc" | "script" => script? key
  | "scx" | "scriptextensions" => (codeOf? scriptNames key).map usedWithScript
  | _ => none

end StablePath.Unicode
