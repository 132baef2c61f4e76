import ViewOutline.Vocabulary.Setting
import ViewOutline.Text.Search

/-!
# The recognition vocabulary

A vocabulary says which names build widgets, wrap observable values, build
collections and inject dependencies, and how deep an expression may nest.  A
project can replace the name lists, add widgets and set the ceiling in a table
of settings; everything it leaves out keeps its default.
-/

namespace ViewOutline

/-- The number of levels an expression may nest.  A configuration may write the
ceiling `1` as the flag `true`; messages show it as it was written. -/
inductive Ceiling where
  | levels (count : Nat) (positive : 0 < count)
  | flag

/-- The number of levels a ceiling admits. -/
def Ceiling.height : Ceiling → Nat
  | .levels count _ => count
  | .flag => 1

/-- The ceiling as messages show it. -/
def Ceiling.shown : Ceiling → String
  | .levels count _ => toString count
  | .flag => "True"

/-- Every ceiling admits at least one level. -/
theorem Ceiling.height_pos (ceiling : Ceiling) : 0 < ceiling.height := by
  cases ceiling with
  | levels count positive => exact positive
  | flag => exact Nat.one_pos

/-- The names an analysis recognises, and the nesting it admits.  The name
lists are used as sets. -/
structure Vocabulary where
  /-- Functions that build a widget. -/
  widgets : List String
  /-- Functions and constructors that make a value observable. -/
  reactiveWrappers : List String
  /-- Functions and constructors that build a collection. -/
  collectionBuilders : List String
  /-- Property delegates that inject a dependency. -/
  injectionDelegates : List String
  /-- How deep an expression may nest. -/
  ceiling : Ceiling

namespace Vocabulary

/-- The widget builders known without configuration. -/
def defaultWidgets : List String :=
  ["anchorpane", "borderpane", "button", "buttonbar", "checkbox", "choicebox", "colorpicker",
   "combobox", "datepicker", "drawer", "field", "fieldset", "flowpane", "form", "gridpane",
   "hbox", "hyperlink", "imageview", "label", "listview", "menu", "menubar", "menuitem", "pane",
   "passwordfield", "progressbar", "progressindicator", "radiobutton", "row", "scrollpane",
   "separator", "slider", "spinner", "splitpane", "squeezebox", "stackpane", "tab", "tableview",
   "tabpane", "text", "textarea", "textfield", "textflow", "tilepane", "titledpane",
   "togglebutton", "toolbar", "treeview", "treetableview", "vbox"]

/-- The reactive wrappers known without configuration. -/
def defaultReactiveWrappers : List String :=
  ["asObservable", "observable", "observableArrayList", "observableList", "observableListOf",
   "observableMapOf", "observableSetOf", "SimpleBooleanProperty", "SimpleDoubleProperty",
   "SimpleFloatProperty", "SimpleIntegerProperty", "SimpleListProperty", "SimpleLongProperty",
   "SimpleMapProperty", "SimpleObjectProperty", "SimpleSetProperty", "SimpleStringProperty",
   "stringProperty", "booleanProperty", "doubleProperty", "intProperty", "objectProperty"]

/-- The collection builders known without configuration. -/
def defaultCollectionBuilders : List String :=
  ["ArrayList", "HashMap", "HashSet", "LinkedHashMap", "LinkedHashSet", "LinkedList",
   "arrayListOf", "arrayOf", "emptyArray", "emptyList", "emptyMap", "emptySet", "hashMapOf",
   "hashSetOf", "linkedMapOf", "listOf", "mapOf", "mutableListOf", "mutableMapOf",
   "mutableSetOf", "setOf", "sortedMapOf", "sortedSetOf"]

/-- The injection delegates known without configuration. -/
def defaultInjectionDelegates : List String :=
  ["di", "inject", "nullableParam", "param"]

/-- The vocabulary of a project without configuration. -/
def default : Vocabulary where
  widgets := defaultWidgets
  reactiveWrappers := defaultReactiveWrappers
  collectionBuilders := defaultCollectionBuilders
  injectionDelegates := defaultInjectionDelegates
  ceiling := .levels 200 (by decide)

instance : Inhabited Vocabulary :=
  ⟨default⟩

/-- Whether a call of this name builds a widget. -/
def isWidget (vocabulary : Vocabulary) (name : String) : Bool :=
  vocabulary.widgets.contains name

/-- What is wrong with a table of settings. -/
inductive SettingError where
  /-- A list was expected and the value has no members. -/
  | notIterable (kind : String)
  /-- A table was expected. -/
  | notATable (kind : String)
  /-- The ceiling is not a positive whole number. -/
  | badCeiling (shown : String)
  /-- A value to be shown holds a number of too many digits. -/
  | longNumber

/-- The wording of a settings error. -/
def SettingError.message : SettingError → String
  | .notIterable kind => s!"'{kind}' object is not iterable"
  | .notATable kind => s!"'{kind}' object has no attribute 'get'"
  | .badCeiling shown => s!"max_depth must be a positive integer, got {shown}"
  | .longNumber =>
      s!"Exceeds the limit ({Text.digitLimit} digits) for integer string conversion; " ++
        "use sys.set_int_max_str_digits() to increase the limit"

/-- The names a value lists. -/
def namesOf (value : Setting) : Except SettingError (List String) :=
  match value.members? with
  | some members =>
      if Setting.itemsHoldLongNumber members then .error .longNumber
      else .ok (members.map Setting.asName)
  | none => .error (.notIterable value.kindName)

/-- The names listed under a key, or the default where the key says nothing. -/
def namesAt (entries : List (String × Setting)) (key : String) (default : List String) :
    Except SettingError (List String) :=
  match Setting.lookup entries key with
  | some value => namesOf value
  | none => .ok default

/-- The widgets a table adds to those it lists. -/
def extraWidgets (entries : List (String × Setting)) : Except SettingError (List String) :=
  match Setting.lookup entries "extra_widgets" with
  | some value => if value.isVoid then .ok [] else namesOf value
  | none => .ok []

/-- The ceiling a value stands for. -/
def ceilingOf (value : Setting) : Except SettingError Ceiling :=
  match value with
  | .flag true => .ok .flag
  | .int (.ofNat (count + 1)) => .ok (.levels (count + 1) (Nat.succ_pos count))
  | other =>
      if other.holdsLongNumber then .error .longNumber else .error (.badCeiling other.shown)

/-- The ceiling a table sets. -/
def ceilingAt (entries : List (String × Setting)) : Except SettingError Ceiling :=
  match Setting.lookup entries "max_depth" with
  | some value => ceilingOf value
  | none => .ok default.ceiling

/-- The vocabulary of a table of settings.  The name lists are read first, then
the added widgets, then the ceiling, so the first fault in that order is the
one reported. -/
def ofEntries (entries : List (String × Setting)) : Except SettingError Vocabulary := do
  let widgets ← namesAt entries "widgets" defaultWidgets
  let reactiveWrappers ← namesAt entries "reactive_wrappers" defaultReactiveWrappers
  let collectionBuilders ← namesAt entries "collection_builders" defaultCollectionBuilders
  let injectionDelegates ← namesAt entries "injection_delegates" defaultInjectionDelegates
  let extra ← extraWidgets entries
  let ceiling ← ceilingAt entries
  return {
    widgets := widgets ++ extra
    reactiveWrappers, collectionBuilders, injectionDelegates, ceiling }

/-- The vocabulary of a value that should be a table of settings. -/
def ofSetting : Setting → Except SettingError Vocabulary
  | .table entries => ofEntries entries
  | other => .error (.notATable other.kindName)

end Vocabulary

end ViewOutline
