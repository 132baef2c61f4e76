import ViewOutline.Statement
import ViewOutline.Text.Bracket
import ViewOutline.Text.Search
import ViewOutline.Text.Uppercase

/-!
# Classifying properties

A property is classified by the end of the access chain it is initialised or
delegated to, and by its declared type only where it has neither.  A declared
type is always kept; otherwise the type is inferred where the initial value
shows it.
-/

namespace ViewOutline

/-- What a property holds. -/
inductive PropertyKind where
  | value
  | observable
  | collection
  | injected
  | unclassified
  deriving DecidableEq

/-- The name of a property kind. -/
def PropertyKind.name : PropertyKind → String
  | .value => "Value"
  | .observable => "Observable"
  | .collection => "Collection"
  | .injected => "Injected"
  | .unclassified => "Unclassified"

/-- A property of a class, with its initial value or delegate as a text. -/
structure Property where
  name : String
  kind : PropertyKind
  type : Option String
  summary : Option String
  deriving DecidableEq

/-- The type a literal shows. -/
def LiteralKind.typeName? : LiteralKind → Option String
  | .int => some "Int"
  | .double => some "Double"
  | .string => some "String"
  | .boolean => some "Boolean"
  | .char => some "Char"
  | .null => some "Nothing?"
  | .collection => some "Array"
  | .other _ => none

/-- Declared types that make a property a collection. -/
def collectionTypes : List String :=
  ["Array", "ArrayList", "Collection", "HashMap", "HashSet", "Iterable", "List", "Map",
   "MutableCollection", "MutableList", "MutableMap", "MutableSet", "Set"]

/-- The type name of a type text: no type arguments, no mark of nullability, no
qualification. -/
def baseType (type : String) : String :=
  let plain := Text.eraseSpans '<' '>' type.toList
  let trimmed := Text.trim Text.isBlank (Text.trimEnd (· == '?') plain)
  String.ofList (Text.afterLast '.' trimmed)

/-- The families of collections and the words by which builders name them. -/
def collectionFamilies : List (String × String) :=
  [("Map", "map"), ("Set", "set"), ("List", "list"), ("Array", "array")]

/-- The collection a builder makes: a constructor makes its own type, another
builder the first family that its name mentions. -/
def collectionFamily (builder : String) : String :=
  if Text.startsUppercase builder then builder
  else
    let lowered := Text.lowered builder.toList
    match collectionFamilies.find? fun (_, word) => Text.occursIn word.toList lowered with
    | some (family, _) => family
    | none => "Collection"

/-- The type an initial value shows: that of a literal, or the constructor an
access chain ends in. -/
def Node.shownType? : Node → Option String
  | .literal _ kind => kind.typeName?
  | node =>
      match node.tailCall? with
      | some tail => if Text.startsUppercase tail.name then some tail.name else none
      | none => none

/-- Whether an initial value of this shape has a value of its own. -/
def Node.isValue : Node → Bool
  | .literal .. => true
  | .name _ => true
  | .call _ => true
  | .binary .. => true
  | .reference .. => true
  | _ => false

/-- Whether an initial value is a collection literal. -/
def Node.isCollectionLiteral : Node → Bool
  | .literal _ .collection => true
  | _ => false

/-- The kind and type that an initial value gives, if it can be classified. -/
def Node.classifyValue? (vocabulary : Vocabulary) (value : Node) :
    Option (PropertyKind × Option String) :=
  let reactive := value.tailCall?.filter fun tail =>
    vocabulary.reactiveWrappers.contains tail.name
  let builder := value.tailCall?.filter fun tail =>
    vocabulary.collectionBuilders.contains tail.name
  match reactive with
  | some tail =>
      some (.observable,
        some (if Text.startsUppercase tail.name then tail.name else "Observable"))
  | none =>
      if value.isCollectionLiteral then some (.collection, some "Array")
      else
        match builder with
        | some tail => some (.collection, some (collectionFamily tail.name))
        | none => if value.isValue then some (.value, value.shownType?) else none

/-- The type that an injection delegate names in its type arguments. -/
def injectedType? (typeArgs : Option String) : Option String :=
  (Text.given typeArgs).map fun text =>
    String.ofList (Text.trim (fun c => c == '<' || c == '>') text.toList)

/-- The kind and type that a delegate gives, if it is an injection. -/
def Node.classifyDelegate? (vocabulary : Vocabulary) (delegate : Node) :
    Option (PropertyKind × Option String) :=
  match delegate.tailCall? with
  | some tail =>
      if vocabulary.injectionDelegates.contains tail.name then
        some (.injected, injectedType? tail.typeArgs)
      else none
  | none => none

/-- A property of a declaration, with its declared type if there is one. -/
def PropertyDecl.toProperty (decl : PropertyDecl) (kind : PropertyKind)
    (inferred : Option String) (summary : Option String) : Property :=
  { name := decl.name, kind, type := (Text.given decl.type).or inferred, summary }

/-- The property of a declaration whose initial value or delegate was read as
the given class.  What could not be classified is noted. -/
def PropertyDecl.settle (decl : PropertyDecl) (summary : String)
    (found : Option (PropertyKind × Option String)) : Analysis Property :=
  match found with
  | some (kind, inferred) => return decl.toProperty kind inferred (some summary)
  | none => do
      Analysis.degrade s!"property {decl.name}" summary
      return decl.toProperty .unclassified none (some summary)

/-- Classify a property. -/
def PropertyDecl.classify (scope : Scope) (decl : PropertyDecl) : Analysis Property :=
  if decl.name = "" then Analysis.fail .namelessProperty
  else
    match decl.initializer, decl.delegate with
    | some value, _ => do
        let summary ← value.render scope
        decl.settle summary.text (value.classifyValue? scope.vocabulary)
    | none, some delegate => do
        let summary ← delegate.render scope
        decl.settle ("by " ++ summary.text) (delegate.classifyDelegate? scope.vocabulary)
    | none, none =>
        match Text.given decl.type with
        | some type =>
            if collectionTypes.contains (baseType type) then
              return decl.toProperty .collection none none
            else
              return decl.toProperty .value none none
        | none => do
            Analysis.degrade s!"property {decl.name}" "no type, initializer, or delegate"
            return decl.toProperty .unclassified none none

end ViewOutline
