import ViewOutline.Vocabulary
import Mathlib.Order.WellFounded

/-!
# Which tables of settings give a vocabulary

A table lists names under five keys, which are read in a fixed order, and then
the ceiling.  A value under one of the five is at fault if it has no members, or
if one of its members holds a number of too many digits, which cannot be written
out.  The first fault in the order of reading is the one that counts, and a fault
of the ceiling counts only if there is no other.

Without a fault there is a vocabulary: every set of names is the default one
where its key says nothing, and otherwise the members of the value written out.
Keys other than these six have no part in it.
-/

namespace ViewOutline

/-! ## Members and numbers of a value -/

namespace Setting

/-- A value has members. -/
inductive IsIterable : Setting → Prop
  | text (value : String) : IsIterable (.text value)
  | list (items : List Setting) : IsIterable (.list items)
  | table (entries : List (String × Setting)) : IsIterable (.table entries)

/-- A value has a member: a text its characters, a list its items, a table its
keys. -/
inductive Yields : Setting → Setting → Prop
  | text {value : String} {c : Char} : c ∈ value.toList →
      Yields (.text value) (.text (String.singleton c))
  | list {items : List Setting} {item : Setting} : item ∈ items → Yields (.list items) item
  | table {entries : List (String × Setting)} {entry : String × Setting} : entry ∈ entries →
      Yields (.table entries) (.text entry.1)

/-- A number stands in a value, at any depth. -/
inductive Holds : Setting → Int → Prop
  | int (number : Int) : Holds (.int number) number
  | list {items : List Setting} {item : Setting} {number : Int} :
      item ∈ items → Holds item number → Holds (.list items) number
  | table {entries : List (String × Setting)} {entry : String × Setting} {number : Int} :
      entry ∈ entries → Holds entry.2 number → Holds (.table entries) number

/-- A value holds a number of more digits than are written out. -/
def IsUnwritable (value : Setting) : Prop :=
  ∃ number, value.Holds number ∧ Text.digitLimit < (Nat.toDigits 10 number.natAbs).length

theorem exceedsDigitLimit_iff (number : Int) :
    Text.exceedsDigitLimit number = true ↔
      Text.digitLimit < (Nat.toDigits 10 number.natAbs).length := by
  have positive : 0 < Text.digitLimit := by decide
  rw [Text.exceedsDigitLimit, Nat.pow_eq, decide_eq_true_eq, ← Nat.not_le,
    Nat.length_toDigits_le_iff (by decide) positive, Nat.not_lt]

mutual

theorem holdsLongNumber_iff : ∀ value : Setting, value.holdsLongNumber = true ↔ value.IsUnwritable
  | .int number => by
      rw [holdsLongNumber, exceedsDigitLimit_iff]
      constructor
      · intro long
        exact ⟨number, .int number, long⟩
      · rintro ⟨_, ⟨⟩, long⟩
        exact long
  | .list items => by
      rw [holdsLongNumber, itemsHoldLongNumber_iff items]
      constructor
      · rintro ⟨item, member, number, holds, long⟩
        exact ⟨number, .list member holds, long⟩
      · rintro ⟨number, holds, long⟩
        cases holds with
        | list member holds => exact ⟨_, member, number, holds, long⟩
  | .table entries => by
      rw [holdsLongNumber, entriesHoldLongNumber_iff entries]
      constructor
      · rintro ⟨entry, member, number, holds, long⟩
        exact ⟨number, .table member holds, long⟩
      · rintro ⟨number, holds, long⟩
        cases holds with
        | table member holds => exact ⟨_, member, number, holds, long⟩
  | .absent => iff_of_false (by simp [holdsLongNumber]) (by rintro ⟨_, ⟨⟩, _⟩)
  | .flag _ => iff_of_false (by simp [holdsLongNumber]) (by rintro ⟨_, ⟨⟩, _⟩)
  | .real _ => iff_of_false (by simp [holdsLongNumber]) (by rintro ⟨_, ⟨⟩, _⟩)
  | .text _ => iff_of_false (by simp [holdsLongNumber]) (by rintro ⟨_, ⟨⟩, _⟩)
  | .moment _ => iff_of_false (by simp [holdsLongNumber]) (by rintro ⟨_, ⟨⟩, _⟩)

theorem itemsHoldLongNumber_iff : ∀ items : List Setting,
    itemsHoldLongNumber items = true ↔ ∃ item ∈ items, item.IsUnwritable
  | [] => by simp [itemsHoldLongNumber]
  | item :: rest => by
      simp [itemsHoldLongNumber, holdsLongNumber_iff item, itemsHoldLongNumber_iff rest]

theorem entriesHoldLongNumber_iff : ∀ entries : List (String × Setting),
    entriesHoldLongNumber entries = true ↔ ∃ entry ∈ entries, entry.2.IsUnwritable
  | [] => by simp [entriesHoldLongNumber]
  | (_, value) :: rest => by
      simp [entriesHoldLongNumber, holdsLongNumber_iff value, entriesHoldLongNumber_iff rest]

end

/-- What is iterated are the members of a value that has members. -/
theorem exists_members_of_isIterable {value : Setting} (iterable : value.IsIterable) :
    ∃ members, value.members? = some members ∧
      ∀ member, member ∈ members ↔ value.Yields member := by
  cases iterable with
  | text value =>
      refine ⟨_, rfl, fun member => ?_⟩
      rw [List.mem_map]
      constructor
      · rintro ⟨c, found, rfl⟩
        exact .text found
      · rintro ⟨found⟩
        exact ⟨_, found, rfl⟩
  | list items =>
      refine ⟨items, rfl, fun member => ⟨.list, ?_⟩⟩
      rintro ⟨⟩
      assumption
  | table entries =>
      refine ⟨_, rfl, fun member => ?_⟩
      rw [List.mem_map]
      constructor
      · rintro ⟨entry, found, rfl⟩
        exact .table found
      · intro yields
        cases yields with
        | table found => exact ⟨_, found, rfl⟩

theorem members?_eq_none {value : Setting} (notIterable : ¬ value.IsIterable) :
    value.members? = none := by
  cases value with
  | text value => exact absurd (.text value) notIterable
  | list items => exact absurd (.list items) notIterable
  | table entries => exact absurd (.table entries) notIterable
  | _ => rfl

end Setting

namespace Vocabulary

/-! ## Reading one list of names -/

theorem namesOf_of_not_iterable {value : Setting} (notIterable : ¬ value.IsIterable) :
    namesOf value = .error (.notIterable value.kindName) := by
  simp only [namesOf, Setting.members?_eq_none notIterable]

theorem namesOf_of_unwritable {value member : Setting} (yields : value.Yields member)
    (unwritable : member.IsUnwritable) : namesOf value = .error .longNumber := by
  have iterable : value.IsIterable := by cases yields <;> constructor
  obtain ⟨members, found, mem_iff⟩ := Setting.exists_members_of_isIterable iterable
  have long : Setting.itemsHoldLongNumber members = true :=
    (Setting.itemsHoldLongNumber_iff members).mpr
      ⟨member, (mem_iff member).mpr yields, unwritable⟩
  simp only [namesOf, found, long, if_true]

theorem exists_namesOf {value : Setting} (iterable : value.IsIterable)
    (writable : ∀ member, value.Yields member → ¬ member.IsUnwritable) :
    ∃ names, namesOf value = .ok names ∧
      ∀ name, name ∈ names ↔ ∃ member, value.Yields member ∧ member.asName = name := by
  obtain ⟨members, found, mem_iff⟩ := Setting.exists_members_of_isIterable iterable
  have short : ¬ Setting.itemsHoldLongNumber members = true := by
    rw [Setting.itemsHoldLongNumber_iff]
    rintro ⟨member, isMember, unwritable⟩
    exact writable member ((mem_iff member).mp isMember) unwritable
  refine ⟨members.map Setting.asName, ?_, fun name => ?_⟩
  · simp only [namesOf, found, if_neg short]
  · simp only [List.mem_map, mem_iff]

/-- A key under which a table lists names. -/
inductive NameKey where
  | widgets
  | reactiveWrappers
  | collectionBuilders
  | injectionDelegates
  | extraWidgets

namespace NameKey

/-- A key as it is written. -/
def written : NameKey → String
  | .widgets => "widgets"
  | .reactiveWrappers => "reactive_wrappers"
  | .collectionBuilders => "collection_builders"
  | .injectionDelegates => "injection_delegates"
  | .extraWidgets => "extra_widgets"

/-- The place of a key in the order of reading. -/
def position : NameKey → Nat
  | .widgets => 0
  | .reactiveWrappers => 1
  | .collectionBuilders => 2
  | .injectionDelegates => 3
  | .extraWidgets => 4

/-- The names that stand for a key that says nothing. -/
def defaults : NameKey → List String
  | .widgets => defaultWidgets
  | .reactiveWrappers => defaultReactiveWrappers
  | .collectionBuilders => defaultCollectionBuilders
  | .injectionDelegates => defaultInjectionDelegates
  | .extraWidgets => []

/-- The value that a key is read from.  No value counts as a missing key, and for
the added widgets so does a value that is void. -/
def value? (entries : List (String × Setting)) : NameKey → Option Setting
  | .extraWidgets => (Setting.lookup entries extraWidgets.written).filter fun value => !value.isVoid
  | key => Setting.lookup entries key.written

/-- The names that a key is read as. -/
def read (entries : List (String × Setting)) (key : NameKey) : Except SettingError (List String) :=
  match key.value? entries with
  | some value => namesOf value
  | none => .ok key.defaults

/-- A key has a value without members. -/
def IsUnlisted (entries : List (String × Setting)) (key : NameKey) : Prop :=
  ∃ value, key.value? entries = some value ∧ ¬ value.IsIterable

/-- A key has a value with a member that cannot be written out. -/
def IsUnwritable (entries : List (String × Setting)) (key : NameKey) : Prop :=
  ∃ value member, key.value? entries = some value ∧ value.Yields member ∧ member.IsUnwritable

/-- A key gives a name: it is a member of its value, or a default where the key
says nothing. -/
inductive Gives (entries : List (String × Setting)) (key : NameKey) (name : String) : Prop
  | member {value member : Setting} : key.value? entries = some value → value.Yields member →
      member.asName = name → Gives entries key name
  | default : key.value? entries = none → name ∈ key.defaults → Gives entries key name

variable {entries : List (String × Setting)} {key : NameKey}

theorem position_injective {first second : NameKey} (same : first.position = second.position) :
    first = second := by
  cases first <;> cases second <;> first | rfl | cases same

/-- Reading a key meets one of its two faults, or gives its names. -/
theorem read_cases (entries : List (String × Setting)) (key : NameKey) :
    (key.IsUnlisted entries ∧ ∃ kind, key.read entries = .error (.notIterable kind)) ∨
    (key.IsUnwritable entries ∧ key.read entries = .error .longNumber) ∨
    ∃ names, key.read entries = .ok names ∧ ∀ name, name ∈ names ↔ key.Gives entries name := by
  cases found : key.value? entries with
  | none =>
      refine .inr (.inr ⟨key.defaults, by rw [read, found], fun name => ⟨.default found, ?_⟩⟩)
      rintro (⟨given, _, _⟩ | ⟨_, member⟩)
      · cases found.symm.trans given
      · exact member
  | some value =>
      have reads : key.read entries = namesOf value := by rw [read, found]
      rw [reads]
      by_cases iterable : value.IsIterable
      · by_cases unwritable : ∃ member, value.Yields member ∧ member.IsUnwritable
        · obtain ⟨member, yields, long⟩ := unwritable
          exact .inr (.inl ⟨⟨value, member, found, yields, long⟩,
            namesOf_of_unwritable yields long⟩)
        · obtain ⟨names, read, mem_iff⟩ := exists_namesOf iterable fun member yields long =>
            unwritable ⟨member, yields, long⟩
          refine .inr (.inr ⟨names, read, fun name => (mem_iff name).trans ⟨?_, ?_⟩⟩)
          · rintro ⟨member, yields, named⟩
            exact .member found yields named
          · rintro (⟨given, yields, named⟩ | ⟨missing, _⟩)
            · cases found.symm.trans given
              exact ⟨_, yields, named⟩
            · cases found.symm.trans missing
      · exact .inl ⟨⟨value, found, iterable⟩, _, namesOf_of_not_iterable iterable⟩

theorem IsUnlisted.read_eq (unlisted : key.IsUnlisted entries) :
    ∃ kind, key.read entries = .error (.notIterable kind) := by
  obtain ⟨value, found, notIterable⟩ := unlisted
  refine ⟨value.kindName, ?_⟩
  rw [read, found]
  exact namesOf_of_not_iterable notIterable

theorem IsUnwritable.read_eq (unwritable : key.IsUnwritable entries) :
    key.read entries = .error .longNumber := by
  obtain ⟨value, member, found, yields, long⟩ := unwritable
  rw [read, found]
  exact namesOf_of_unwritable yields long

end NameKey

/-! ## Reading a table -/

/-- The vocabulary of the names read under the keys and of a ceiling. -/
def ofNames (names : NameKey → List String) (ceiling : Ceiling) : Vocabulary where
  widgets := names .widgets ++ names .extraWidgets
  reactiveWrappers := names .reactiveWrappers
  collectionBuilders := names .collectionBuilders
  injectionDelegates := names .injectionDelegates
  ceiling := ceiling

section

variable {entries : List (String × Setting)}

theorem extraWidgets_eq (entries : List (String × Setting)) :
    extraWidgets entries = NameKey.extraWidgets.read entries := by
  unfold extraWidgets NameKey.read NameKey.value? NameKey.written
  cases Setting.lookup entries "extra_widgets" with
  | none => rfl
  | some value => cases void : value.isVoid <;> simp [void, Option.filter, NameKey.defaults]

/-- The keys are read in the order of their positions. -/
theorem ofEntries_eq (entries : List (String × Setting)) : ofEntries entries = do
    let widgets ← NameKey.widgets.read entries
    let reactiveWrappers ← NameKey.reactiveWrappers.read entries
    let collectionBuilders ← NameKey.collectionBuilders.read entries
    let injectionDelegates ← NameKey.injectionDelegates.read entries
    let extra ← NameKey.extraWidgets.read entries
    let ceiling ← ceilingAt entries
    return {
      widgets := widgets ++ extra
      reactiveWrappers, collectionBuilders, injectionDelegates, ceiling } := by
  rw [← extraWidgets_eq]
  rfl

/-- The first fault is the one that is reported. -/
theorem ofEntries_of_fault {key : NameKey} {error : SettingError}
    (fault : key.read entries = .error error)
    (first : ∀ earlier : NameKey, earlier.position < key.position →
      ∃ names, earlier.read entries = .ok names) :
    ofEntries entries = .error error := by
  cases key with
  | widgets =>
      rw [ofEntries_eq, fault]
      rfl
  | reactiveWrappers =>
      obtain ⟨widgets, widgetsRead⟩ := first .widgets (by decide)
      rw [ofEntries_eq, widgetsRead, fault]
      rfl
  | collectionBuilders =>
      obtain ⟨widgets, widgetsRead⟩ := first .widgets (by decide)
      obtain ⟨wrappers, wrappersRead⟩ := first .reactiveWrappers (by decide)
      rw [ofEntries_eq, widgetsRead, wrappersRead, fault]
      rfl
  | injectionDelegates =>
      obtain ⟨widgets, widgetsRead⟩ := first .widgets (by decide)
      obtain ⟨wrappers, wrappersRead⟩ := first .reactiveWrappers (by decide)
      obtain ⟨builders, buildersRead⟩ := first .collectionBuilders (by decide)
      rw [ofEntries_eq, widgetsRead, wrappersRead, buildersRead, fault]
      rfl
  | extraWidgets =>
      obtain ⟨widgets, widgetsRead⟩ := first .widgets (by decide)
      obtain ⟨wrappers, wrappersRead⟩ := first .reactiveWrappers (by decide)
      obtain ⟨builders, buildersRead⟩ := first .collectionBuilders (by decide)
      obtain ⟨delegates, delegatesRead⟩ := first .injectionDelegates (by decide)
      rw [ofEntries_eq, widgetsRead, wrappersRead, buildersRead, delegatesRead, fault]
      rfl

/-- Without a fault the ceiling decides. -/
theorem ofEntries_of_read {names : NameKey → List String}
    (read : ∀ key : NameKey, key.read entries = .ok (names key)) :
    ofEntries entries = (ceilingAt entries).map (ofNames names) := by
  rw [ofEntries_eq, read, read, read, read, read]
  cases ceilingAt entries <;> rfl

/-- Some key is the first at fault, or all names are read. -/
theorem first_fault_or_names (entries : List (String × Setting)) :
    (∃ (key : NameKey) (error : SettingError), key.read entries = .error error ∧
      ofEntries entries = .error error ∧
      ∀ earlier : NameKey, earlier.position < key.position →
        ∃ names, earlier.read entries = .ok names) ∨
    ∃ names : NameKey → List String, ∀ key : NameKey, key.read entries = .ok (names key) := by
  by_cases all : ∀ key : NameKey, ∃ names, key.read entries = .ok names
  · exact .inr (Classical.skolem.mp all)
  · rw [not_forall] at all
    obtain ⟨key, fault, least⟩ := WellFounded.has_min (measure NameKey.position).wf
      {key | ¬ ∃ names, key.read entries = .ok names} all
    have first : ∀ earlier : NameKey, earlier.position < key.position →
        ∃ names, earlier.read entries = .ok names := by
      intro earlier before
      by_contra earlierFault
      exact least earlier earlierFault before
    cases read : key.read entries with
    | ok names => exact absurd ⟨names, read⟩ fault
    | error error => exact .inl ⟨key, error, read, ofEntries_of_fault read first, first⟩

end

/-! ## The ceiling -/

end Vocabulary

/-- A value stands for a whole number: a number for itself, a flag for one or
zero. -/
inductive Setting.Counts : Setting → Int → Prop
  | flag (value : Bool) : Counts (.flag value) value.toInt
  | int (number : Int) : Counts (.int number) number

namespace Vocabulary

theorem ceilingOf_of_counts {value : Setting} {number : Int} (counts : value.Counts number)
    (positive : 1 ≤ number) :
    ∃ ceiling, ceilingOf value = .ok ceiling ∧ (ceiling.height : Int) = number ∧
      ceiling.shown = value.shown := by
  cases counts with
  | flag value =>
      cases value with
      | true => exact ⟨.flag, rfl, rfl, rfl⟩
      | false => cases positive
  | int =>
      obtain ⟨count, rfl⟩ : ∃ count : Nat, number = Int.ofNat (count + 1) :=
        ⟨(number - 1).toNat, by simp; omega⟩
      exact ⟨.levels (count + 1) (Nat.succ_pos count), rfl, rfl, rfl⟩

theorem ceilingOf_of_not_counts {value : Setting}
    (bad : ∀ number, value.Counts number → number < 1) :
    ceilingOf value = .error .longNumber ∨
      ∃ shown, ceilingOf value = .error (.badCeiling shown) := by
  unfold ceilingOf
  split
  · exact absurd (bad _ (.flag true)) (by decide)
  · exact absurd (bad _ (.int _)) (Int.not_lt.mpr (Int.ofNat_le.mpr (Nat.succ_pos _)))
  · split
    · exact .inl rfl
    · exact .inr ⟨_, rfl⟩

/-- The key of the ceiling. -/
def ceilingKey : String :=
  "max_depth"

/-- The ceiling of a table is no whole number, or one below 1. -/
def BadCeiling (entries : List (String × Setting)) : Prop :=
  ∃ value, Setting.lookup entries ceilingKey = some value ∧
    ∀ number, value.Counts number → number < 1

/-- A ceiling as a table sets it. -/
structure SetsCeiling (entries : List (String × Setting)) (ceiling : Ceiling) : Prop where
  default : Setting.lookup entries ceilingKey = none → ceiling = Vocabulary.default.ceiling
  given : ∀ value, Setting.lookup entries ceilingKey = some value →
    value.Counts ceiling.height ∧ ceiling.shown = value.shown

/-- A table has a bad ceiling or sets one. -/
theorem ceilingAt_cases (entries : List (String × Setting)) :
    (BadCeiling entries ∧ (ceilingAt entries = .error .longNumber ∨
      ∃ shown, ceilingAt entries = .error (.badCeiling shown))) ∨
    (¬ BadCeiling entries ∧ ∃ ceiling, ceilingAt entries = .ok ceiling ∧
      SetsCeiling entries ceiling) := by
  cases found : Setting.lookup entries ceilingKey with
  | none =>
      have reads : ceilingAt entries = .ok default.ceiling := by
        rw [ceilingAt, ← ceilingKey, found]
      refine .inr ⟨?_, _, reads, fun _ => rfl, ?_⟩
      · rintro ⟨value, given, _⟩
        cases found.symm.trans given
      · intro value given
        cases found.symm.trans given
  | some value =>
      have reads : ceilingAt entries = ceilingOf value := by
        rw [ceilingAt, ← ceilingKey, found]
      rw [reads]
      by_cases bad : ∀ number, value.Counts number → number < 1
      · exact .inl ⟨⟨value, found, bad⟩, ceilingOf_of_not_counts bad⟩
      · simp only [not_forall, Int.not_lt] at bad
        obtain ⟨number, counts, positive⟩ := bad
        obtain ⟨ceiling, ok, rfl, shown⟩ := ceilingOf_of_counts counts positive
        refine .inr ⟨?_, ceiling, ok, ?_, ?_⟩
        · rintro ⟨_, given, bad⟩
          cases found.symm.trans given
          exact absurd (bad _ counts) (Int.not_lt.mpr positive)
        · intro missing
          cases found.symm.trans missing
        · rintro _ given
          cases found.symm.trans given
          exact ⟨counts, shown⟩

/-! ## What a table decides -/

/-- The vocabulary of a table without faults. -/
structure Follows (entries : List (String × Setting)) (vocabulary : Vocabulary) : Prop where
  widgets : ∀ name, name ∈ vocabulary.widgets ↔
    NameKey.widgets.Gives entries name ∨ NameKey.extraWidgets.Gives entries name
  reactiveWrappers : ∀ name, name ∈ vocabulary.reactiveWrappers ↔
    NameKey.reactiveWrappers.Gives entries name
  collectionBuilders : ∀ name, name ∈ vocabulary.collectionBuilders ↔
    NameKey.collectionBuilders.Gives entries name
  injectionDelegates : ∀ name, name ∈ vocabulary.injectionDelegates ↔
    NameKey.injectionDelegates.Gives entries name
  ceiling : SetsCeiling entries vocabulary.ceiling

/-- A table was refused for a value of the wrong type. -/
def RefusesType (entries : List (String × Setting)) : Prop :=
  ∃ kind, ofEntries entries = .error (.notIterable kind)

/-- A table was refused for a value that is wrong in itself. -/
def RefusesValue (entries : List (String × Setting)) : Prop :=
  ofEntries entries = .error .longNumber ∨
    ∃ shown, ofEntries entries = .error (.badCeiling shown)

/-- A key without members comes before all that cannot be written out. -/
def UnlistedFirst (entries : List (String × Setting)) : Prop :=
  ∃ key : NameKey, key.IsUnlisted entries ∧
    ∀ earlier : NameKey, earlier.position < key.position → ¬ earlier.IsUnwritable entries

/-- A key that cannot be written out comes before all without members. -/
def UnwritableFirst (entries : List (String × Setting)) : Prop :=
  ∃ key : NameKey, key.IsUnwritable entries ∧
    ∀ earlier : NameKey, earlier.position < key.position → ¬ earlier.IsUnlisted entries

/-- No key is at fault. -/
def Faultless (entries : List (String × Setting)) : Prop :=
  ∀ key : NameKey, ¬ key.IsUnlisted entries ∧ ¬ key.IsUnwritable entries

/-- What a table of settings decides. -/
structure Decides (entries : List (String × Setting)) : Prop where
  /-- A value has the wrong type. -/
  refusesType : RefusesType entries ↔ UnlistedFirst entries
  /-- A value is wrong in itself. -/
  refusesValue : RefusesValue entries ↔
    UnwritableFirst entries ∨ (Faultless entries ∧ BadCeiling entries)
  /-- There is a vocabulary in all other cases. -/
  returns : (∃ vocabulary, ofEntries entries = .ok vocabulary) ↔
    Faultless entries ∧ ¬ BadCeiling entries
  /-- The vocabulary is the one that the table sets. -/
  follows : ∀ vocabulary, ofEntries entries = .ok vocabulary →
    1 ≤ vocabulary.ceiling.height ∧ Follows entries vocabulary
  /-- Nothing else in the table matters. -/
  known : ∀ others, (∀ key : NameKey,
      Setting.lookup others key.written = Setting.lookup entries key.written) →
    Setting.lookup others ceilingKey = Setting.lookup entries ceilingKey →
      ofEntries others = ofEntries entries

section

variable {entries : List (String × Setting)}

/-- A key has at most one of the two faults. -/
theorem NameKey.IsUnlisted.not_unwritable {key : NameKey} (unlisted : key.IsUnlisted entries) :
    ¬ key.IsUnwritable entries := by
  intro unwritable
  obtain ⟨kind, read⟩ := unlisted.read_eq
  cases read.symm.trans unwritable.read_eq

theorem UnlistedFirst.not_unwritableFirst (unlistedFirst : UnlistedFirst entries) :
    ¬ UnwritableFirst entries := by
  obtain ⟨key, unlisted, first⟩ := unlistedFirst
  rintro ⟨other, unwritable, otherFirst⟩
  rcases Nat.lt_trichotomy key.position other.position with before | same | after
  · exact otherFirst key before unlisted
  · rw [NameKey.position_injective same] at unlisted
    exact unlisted.not_unwritable unwritable
  · exact first other after unwritable

theorem follows_ofNames {names : NameKey → List String} {ceiling : Ceiling}
    (gives : ∀ (key : NameKey) name, name ∈ names key ↔ key.Gives entries name)
    (sets : SetsCeiling entries ceiling) : Follows entries (ofNames names ceiling) where
  widgets name := by
    rw [← gives, ← gives]
    exact List.mem_append
  reactiveWrappers := gives .reactiveWrappers
  collectionBuilders := gives .collectionBuilders
  injectionDelegates := gives .injectionDelegates
  ceiling := sets

/-- Reading a table ends in one of four ways. -/
theorem ofEntries_cases (entries : List (String × Setting)) :
    (UnlistedFirst entries ∧ RefusesType entries) ∨
    (UnwritableFirst entries ∧ ofEntries entries = .error .longNumber) ∨
    (Faultless entries ∧ BadCeiling entries ∧ RefusesValue entries) ∨
    (Faultless entries ∧ ¬ BadCeiling entries ∧
      ∃ vocabulary, ofEntries entries = .ok vocabulary ∧ Follows entries vocabulary) := by
  rcases first_fault_or_names entries with ⟨key, error, fault, refused, first⟩ | ⟨names, read⟩
  · rcases key.read_cases entries with ⟨unlisted, kind, found⟩ | ⟨unwritable, found⟩ | ⟨_, found, _⟩
    · cases fault.symm.trans found
      refine .inl ⟨⟨key, unlisted, fun earlier before otherwise => ?_⟩, kind, refused⟩
      obtain ⟨_, earlierFound⟩ := first earlier before
      cases earlierFound.symm.trans otherwise.read_eq
    · cases fault.symm.trans found
      refine .inr (.inl ⟨⟨key, unwritable, fun earlier before otherwise => ?_⟩, refused⟩)
      obtain ⟨_, earlierFound⟩ := first earlier before
      obtain ⟨_, otherFound⟩ := otherwise.read_eq
      cases earlierFound.symm.trans otherFound
    · cases fault.symm.trans found
  · have faultless : Faultless entries := by
      refine fun key => ⟨fun unlisted => ?_, fun unwritable => ?_⟩
      · obtain ⟨_, found⟩ := unlisted.read_eq
        cases (read key).symm.trans found
      · cases (read key).symm.trans unwritable.read_eq
    have gives : ∀ (key : NameKey) name, name ∈ names key ↔ key.Gives entries name := by
      intro key
      rcases key.read_cases entries with ⟨unlisted, _⟩ | ⟨unwritable, _⟩ | ⟨_, found, gives⟩
      · exact absurd unlisted (faultless key).1
      · exact absurd unwritable (faultless key).2
      · cases (read key).symm.trans found
        exact gives
    have reads := ofEntries_of_read read
    rcases ceilingAt_cases entries with ⟨bad, long | ⟨shown, found⟩⟩ | ⟨good, ceiling, found, sets⟩
    · refine .inr (.inr (.inl ⟨faultless, bad, .inl ?_⟩))
      rw [reads, long]
      rfl
    · refine .inr (.inr (.inl ⟨faultless, bad, .inr ⟨shown, ?_⟩⟩))
      rw [reads, found]
      rfl
    · refine .inr (.inr (.inr ⟨faultless, good, ofNames names ceiling, ?_,
        follows_ofNames gives sets⟩))
      rw [reads, found]
      rfl

theorem ofEntries_congr {others : List (String × Setting)}
    (names : ∀ key : NameKey,
      Setting.lookup others key.written = Setting.lookup entries key.written)
    (ceiling : Setting.lookup others ceilingKey = Setting.lookup entries ceilingKey) :
    ofEntries others = ofEntries entries := by
  have sameValue : ∀ key : NameKey, key.value? others = key.value? entries := by
    intro key
    cases key with
    | extraWidgets => rw [NameKey.value?, NameKey.value?, names]
    | _ => exact names _
  have sameRead : ∀ key : NameKey, key.read others = key.read entries := by
    intro key
    rw [NameKey.read, NameKey.read, sameValue]
  have sameCeiling : ceilingAt others = ceilingAt entries := by
    rw [ceilingAt, ceilingAt, ← ceilingKey, ceiling]
  rw [ofEntries_eq, ofEntries_eq, sameCeiling]
  simp only [sameRead]

theorem UnlistedFirst.not_faultless (unlistedFirst : UnlistedFirst entries) :
    ¬ Faultless entries := by
  obtain ⟨key, unlisted, _⟩ := unlistedFirst
  intro faultless
  exact (faultless key).1 unlisted

theorem UnwritableFirst.not_faultless (unwritableFirst : UnwritableFirst entries) :
    ¬ Faultless entries := by
  obtain ⟨key, unwritable, _⟩ := unwritableFirst
  intro faultless
  exact (faultless key).2 unwritable

/-- Every table is refused for its first fault or gives the vocabulary that it
sets. -/
theorem decides (entries : List (String × Setting)) : Decides entries := by
  have known := fun others => @ofEntries_congr entries others
  rcases ofEntries_cases entries with ⟨unlisted, kind, refused⟩ | ⟨unwritable, refused⟩ |
    ⟨faultless, bad, refused⟩ | ⟨faultless, good, vocabulary, returned, follows⟩
  · refine ⟨iff_of_true ⟨kind, refused⟩ unlisted, iff_of_false ?_ ?_, iff_of_false ?_ ?_, ?_, known⟩
    · simp [RefusesValue, refused]
    · rintro (unwritable | ⟨faultless, _⟩)
      · exact unlisted.not_unwritableFirst unwritable
      · exact unlisted.not_faultless faultless
    · simp [refused]
    · exact fun both => unlisted.not_faultless both.1
    · simp [refused]
  · refine ⟨iff_of_false ?_ ?_, iff_of_true (.inl refused) (.inl unwritable),
      iff_of_false ?_ ?_, ?_, known⟩
    · simp [RefusesType, refused]
    · exact fun unlisted => unlisted.not_unwritableFirst unwritable
    · simp [refused]
    · exact fun both => unwritable.not_faultless both.1
    · simp [refused]
  · have noReturn : ∀ vocabulary, ofEntries entries ≠ .ok vocabulary := by
      rcases refused with long | ⟨shown, found⟩
      · simp [long]
      · simp [found]
    refine ⟨iff_of_false ?_ ?_, iff_of_true refused (.inr ⟨faultless, bad⟩), iff_of_false ?_ ?_, ?_,
      known⟩
    · rintro ⟨kind, refusedType⟩
      simp [RefusesValue, refusedType] at refused
    · exact fun unlisted => unlisted.not_faultless faultless
    · rintro ⟨vocabulary, returned⟩
      exact noReturn vocabulary returned
    · exact fun both => both.2 bad
    · intro vocabulary returned
      exact absurd returned (noReturn vocabulary)
  · refine ⟨iff_of_false ?_ ?_, iff_of_false ?_ ?_, iff_of_true ⟨vocabulary, returned⟩
      ⟨faultless, good⟩, ?_, known⟩
    · simp [RefusesType, returned]
    · exact fun unlisted => unlisted.not_faultless faultless
    · simp [RefusesValue, returned]
    · rintro (unwritable | ⟨_, bad⟩)
      · exact unwritable.not_faultless faultless
      · exact good bad
    · intro other otherReturned
      cases returned.symm.trans otherReturned
      exact ⟨vocabulary.ceiling.height_pos, follows⟩

end

end Vocabulary

end ViewOutline
