import ViewOutline.Project.Configuration
import ViewOutline.Proofs.Vocabulary.Table

/-!
# Where the vocabulary of a project comes from

The file of this program decides alone once it is a TOML document, also if the
document has no table for this program.  The shared file is looked at otherwise,
and if that is no document either, the vocabulary is the default one.

In a document the table lies at the end of a way of keys.  The way can break off
at a missing key, which leaves the default vocabulary, or at a value that is no
table, which is an error.
-/

namespace ViewOutline

namespace Configuration

/-! ## The way to the table -/

/-- What lies at the end of a way of keys. -/
inductive Found where
  | table (settings : List (String × Setting))
  | missing
  | misfit (value : Setting)

/-- Going from table to table along a way of keys. -/
inductive Leads : Toml.Entries → List String → Found → Prop
  | arrived (entries : Toml.Entries) : Leads entries [] (.table entries)
  | missing {entries : Toml.Entries} {key : String} {rest : List String} :
      entries.lookup key = none → Leads entries (key :: rest) .missing
  | misfit {entries : Toml.Entries} {key : String} {rest : List String} {value : Setting} :
      entries.lookup key = some value → (∀ inner, value ≠ .table inner) →
        Leads entries (key :: rest) (.misfit value)
  | onward {entries inner : Toml.Entries} {key : String} {rest : List String} {found : Found} :
      entries.lookup key = some (.table inner) → Leads inner rest found →
        Leads entries (key :: rest) found

/-- The vocabulary of what was found. -/
def Found.vocabulary : Found → Except ConfigError Vocabulary
  | .table settings => (Vocabulary.ofEntries settings).mapError .setting
  | .missing => .ok .default
  | .misfit value => .error (.setting (.notATable value.kindName))

theorem ofEntries_nil : Vocabulary.ofEntries [] = .ok .default :=
  rfl

/-- A value at the end of a way is the table or a misfit. -/
theorem vocabularyOf_eq {entries : Toml.Entries} {key : String} {value : Setting}
    (given : entries.lookup key = some value) :
    ∃ found, Leads entries [key] found ∧ vocabularyOf value = found.vocabulary := by
  cases value with
  | table settings => exact ⟨.table settings, .onward given (.arrived settings), rfl⟩
  | _ => exact ⟨.misfit _, .misfit given (by rintro _ ⟨⟩), rfl⟩

theorem ownVocabulary_eq (entries : Toml.Entries) :
    ∃ found, Leads entries [tableName] found ∧ ownVocabulary entries = found.vocabulary := by
  cases given : entries.lookup tableName with
  | none =>
      refine ⟨.missing, .missing given, ?_⟩
      rw [ownVocabulary, given]
      exact congrArg (Except.mapError ConfigError.setting) ofEntries_nil
  | some value =>
      rw [ownVocabulary, given]
      exact vocabularyOf_eq given

theorem sharedVocabulary_eq (entries : Toml.Entries) :
    ∃ found, Leads entries ["tool", tableName] found ∧
      sharedVocabulary entries = found.vocabulary := by
  rw [sharedVocabulary]
  cases given : entries.lookup "tool" with
  | none => exact ⟨.missing, .missing given, rfl⟩
  | some value =>
      cases value with
      | table tools =>
          rw [Option.getD_some]
          cases inner : tools.lookup tableName with
          | none =>
              exact ⟨.missing, .onward given (.missing inner), by simp only [inner]; rfl⟩
          | some value =>
              obtain ⟨found, leads, same⟩ := vocabularyOf_eq inner
              exact ⟨found, .onward given leads, by simp only [inner, same]⟩
      | _ => exact ⟨.misfit _, .misfit given (by rintro _ ⟨⟩), rfl⟩

/-! ## The two files -/

/-- What a project offers under the name of a configuration file: a document, or
none if there is no such file or its text is not TOML. -/
inductive Offers (project : Entry) (name : String) : Option Toml.Entries → Prop
  | missing : project.child? name = none → Offers project name none
  | malformed {bytes : List UInt8} {text : List Char} :
      project.child? name = some (.file bytes) → Text.Utf8.decode bytes = .ok text →
        Toml.parse text = .error .malformed → Offers project name none
  | document {bytes : List UInt8} {text : List Char} {entries : Toml.Entries} :
      project.child? name = some (.file bytes) → Text.Utf8.decode bytes = .ok text →
        Toml.parse text = .ok entries → Offers project name (some entries)

theorem Offers.value_document? {project : Entry} {name : String} {found : Option Toml.Entries}
    (offers : Offers project name found) : (document? project name).value = .ok found := by
  cases offers with
  | missing missing => simp only [document?, missing, Logged.value_pure]
  | malformed file decoded parsed =>
      simp only [document?, file, decoded, parsed, Logged.value_bind, Logged.value_pure]
  | document file decoded parsed =>
      simp only [document?, file, decoded, parsed, Logged.value_pure]

/-- Where the vocabulary of a project comes from. -/
structure Loads (project : Entry) : Prop where
  /-- The file of this program decides alone if it is a document. -/
  own : ∀ entries, Offers project ownFile (some entries) →
    ∃ found, Leads entries [tableName] found ∧ (vocabulary project).value = found.vocabulary
  /-- Otherwise the shared file decides. -/
  shared : ∀ entries, Offers project ownFile none → Offers project sharedFile (some entries) →
    ∃ found, Leads entries ["tool", tableName] found ∧
      (vocabulary project).value = found.vocabulary
  /-- Without either the default counts. -/
  neither : Offers project ownFile none → Offers project sharedFile none →
    (vocabulary project).value = .ok .default

theorem value_vocabulary_of_own {project : Entry} {entries : Toml.Entries}
    (own : Offers project ownFile (some entries)) :
    (vocabulary project).value = ownVocabulary entries := by
  rw [vocabulary, Logged.value_bind, own.value_document?]
  rfl

theorem value_vocabulary_of_shared {project : Entry} {entries : Toml.Entries}
    (own : Offers project ownFile none) (shared : Offers project sharedFile (some entries)) :
    (vocabulary project).value = sharedVocabulary entries := by
  rw [vocabulary, Logged.value_bind, own.value_document?]
  dsimp only
  rw [Logged.value_bind, shared.value_document?]
  rfl

theorem value_vocabulary_of_neither {project : Entry}
    (own : Offers project ownFile none) (shared : Offers project sharedFile none) :
    (vocabulary project).value = .ok .default := by
  rw [vocabulary, Logged.value_bind, own.value_document?]
  dsimp only
  rw [Logged.value_bind, shared.value_document?]
  rfl

/-- Every table decides its vocabulary, and every project its table. -/
theorem table_decides_and_project_loads (entries : List (String × Setting)) (project : Entry) :
    Vocabulary.Decides entries ∧ Loads project := by
  refine ⟨Vocabulary.decides entries, ?_, ?_, value_vocabulary_of_neither⟩
  · intro document own
    rw [value_vocabulary_of_own own]
    exact ownVocabulary_eq document
  · intro document own shared
    rw [value_vocabulary_of_shared own shared]
    exact sharedVocabulary_eq document

/-- A table that lists one number as a widget, the least that is not written out. -/
def longWidget : List (String × Setting) :=
  [("widgets", .list [.int (Nat.pow 10 Text.digitLimit)])]

/-- No value has the wrong type and no ceiling is set, and yet a value is refused. -/
theorem refusesValue_longWidget :
    (∀ key : Vocabulary.NameKey, ¬ key.IsUnlisted longWidget) ∧
      ¬ Vocabulary.BadCeiling longWidget ∧ Vocabulary.RefusesValue longWidget := by
  have least (limit : Nat) : Nat.pow 10 limit ≤ (Nat.pow 10 limit : Int).natAbs :=
    (Int.natAbs_natCast _).ge
  have long := (Setting.exceedsDigitLimit_iff _).mp (decide_eq_true (least Text.digitLimit))
  have unwritable : Vocabulary.NameKey.widgets.IsUnwritable longWidget :=
    ⟨_, _, rfl, .list List.mem_cons_self, _, .int _, long⟩
  refine ⟨?_, ?_, .inl ?_⟩
  · rintro key ⟨value, given, notIterable⟩
    cases key with
    | widgets =>
        cases given
        exact notIterable (.list _)
    | _ => cases given
  · rintro ⟨value, given, _⟩
    cases given
  · exact Vocabulary.ofEntries_of_fault unwritable.read_eq fun earlier before => by cases before

end Configuration

end ViewOutline
