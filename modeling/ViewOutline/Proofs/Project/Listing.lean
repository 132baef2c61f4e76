import ViewOutline.Project.Discovery
import ViewOutline.Proofs.Table
import Mathlib.Data.List.Sort
import Mathlib.Data.String.Basic

/-!
# Which files a project lists

In a project whose names are as file systems have them, every file has one path
and is listed once, in the order of paths.  What is listed depends on which
folders and files there are, and not on the order in which a folder holds them.
-/

namespace ViewOutline

/-! ## The order of paths -/

theorem Text.codePointLE_iff (first second : List Char) :
    codePointLE first second = true ↔ ¬ second < first := by
  induction first generalizing second with
  | nil => simp [codePointLE]
  | cons c rest ih =>
      cases second with
      | nil => simp [codePointLE]
      | cons d others =>
          have less : c < d ↔ c.toNat < d.toNat := Iff.rfl
          have greater : d < c ↔ d.toNat < c.toNat := Iff.rfl
          rw [codePointLE, List.cons_lt_cons_iff]
          simp only [← less, ← greater]
          rcases lt_trichotomy c d with before | rfl | after
          · simp [before, before.asymm, before.ne']
          · simp [ih]
          · simp [after, after.asymm]

/-- Paths are ordered as lists of names. -/
theorem Path.le_iff (first second : Path) : Path.le first second = true ↔ first ≤ second := by
  rw [← not_lt]
  induction first generalizing second with
  | nil => simp [Path.le]
  | cons name rest ih =>
      cases second with
      | nil => simp [Path.le]
      | cons other others =>
          rw [Path.le, List.cons_lt_cons_iff]
          by_cases same : name = other
          · subst same
            simp [ih]
          · rw [if_neg same, Text.codePointLE_iff, ← String.lt_iff_toList_lt]
            simp [Ne.symm same]

theorem Path.splitOn_text {path : Path} (proper : path ≠ [])
    (plain : ∀ name ∈ path, '/' ∉ name.toList) :
    path.text.toList.splitOn '/' = path.map String.toList := by
  rw [Path.text, String.toList_intercalate]
  exact List.splitOn_intercalate '/' (List.forall_mem_map.mpr plain) (by simpa using proper)

namespace Entry

/-! ## What lies at a path -/

/-- Names are unique in each folder, and none holds a slash. -/
inductive WellNamed : Entry → Prop
  | file (bytes : List UInt8) : WellNamed (.file bytes)
  | folder {entries : List (String × Entry)} :
      (entries.map Prod.fst).Nodup →
      (∀ entry ∈ entries, '/' ∉ entry.1.toList) →
      (∀ entry ∈ entries, WellNamed entry.2) →
      WellNamed (.folder entries)

variable {entry inner : Entry} {entries : List (String × Entry)} {name : String} {path : Path}
  {bytes : List UInt8}

theorem WellNamed.single {name : String} {inner : Entry} (plain : '/' ∉ name.toList)
    (wellNamed : inner.WellNamed) : (Entry.folder [(name, inner)]).WellNamed :=
  .folder (List.nodup_singleton _) (List.forall_mem_singleton.mpr plain)
    (List.forall_mem_singleton.mpr wellNamed)

theorem at?_cons (entry : Entry) (name : String) (path : Path) :
    entry.at? (name :: path) = (entry.child? name).bind fun inner => inner.at? path := by
  rw [at?]
  cases entry.child? name <;> rfl

theorem at?_append (entry : Entry) (first second : Path) :
    entry.at? (first ++ second) = (entry.at? first).bind fun inner => inner.at? second := by
  induction first generalizing entry with
  | nil => rw [List.nil_append, at?, Option.bind_some]
  | cons name rest ih =>
      rw [List.cons_append, at?_cons, at?_cons, Option.bind_assoc]
      simp only [ih]

/-- What lies around something is a folder. -/
theorem hasFolder_of_at?_append {first second : Path} (proper : second ≠ [])
    (found : entry.at? (first ++ second) = some inner) : entry.hasFolder first = true := by
  rw [at?_append, Option.bind_eq_some_iff] at found
  obtain ⟨outer, atFirst, below⟩ := found
  rw [hasFolder, atFirst]
  cases outer with
  | folder entries => rfl
  | file bytes =>
      cases second with
      | nil => exact absurd rfl proper
      | cons name rest => cases below

theorem child?_eq_some_iff (nodup : (entries.map Prod.fst).Nodup) :
    (folder entries).child? name = some inner ↔ (name, inner) ∈ entries :=
  Table.find?_eq_some_iff ⟨entries, nodup⟩ name inner

theorem WellNamed.child (wellNamed : entry.WellNamed) (found : entry.child? name = some inner) :
    '/' ∉ name.toList ∧ inner.WellNamed := by
  cases wellNamed with
  | file bytes => cases found
  | folder nodup plain wellNamed =>
      have member := (child?_eq_some_iff nodup).mp found
      exact ⟨plain _ member, wellNamed _ member⟩

theorem WellNamed.at? (wellNamed : entry.WellNamed) (found : entry.at? path = some inner) :
    (∀ name ∈ path, '/' ∉ name.toList) ∧ inner.WellNamed := by
  induction path generalizing entry with
  | nil =>
      cases found
      exact ⟨by rintro _ ⟨⟩, wellNamed⟩
  | cons name rest ih =>
      rw [at?_cons, Option.bind_eq_some_iff] at found
      obtain ⟨child, childFound, found⟩ := found
      obtain ⟨plain, childWellNamed⟩ := wellNamed.child childFound
      obtain ⟨restPlain, innerWellNamed⟩ := ih childWellNamed found
      exact ⟨List.forall_mem_cons.mpr ⟨plain, restPlain⟩, innerWellNamed⟩

/-! ## All files of a folder -/

mutual

theorem mem_filesAt_iff (place path : Path) (bytes : List UInt8) : ∀ entry : Entry,
    entry.WellNamed → ((place, bytes) ∈ filesAt path entry ↔
      ∃ rest, place = path ++ rest ∧ entry.at? rest = some (.file bytes))
  | .file content, _ => by
      rw [filesAt, List.mem_singleton, Prod.mk.injEq]
      constructor
      · rintro ⟨rfl, rfl⟩
        exact ⟨[], (List.append_nil _).symm, rfl⟩
      · rintro ⟨rest, rfl, found⟩
        cases rest with
        | nil =>
            cases found
            exact ⟨List.append_nil _, rfl⟩
        | cons name rest => cases found
  | .folder entries, wellNamed => by
      cases wellNamed with
      | folder nodup plain wellNamed =>
          rw [filesAt, mem_filesAmong_iff place path bytes entries wellNamed]
          constructor
          · rintro ⟨name, inner, rest, member, rfl, found⟩
            refine ⟨name :: rest, rfl, ?_⟩
            rw [at?_cons, (child?_eq_some_iff nodup).mpr member, Option.bind_some, found]
          · rintro ⟨rest, rfl, found⟩
            cases rest with
            | nil => cases found
            | cons name rest =>
                rw [at?_cons, Option.bind_eq_some_iff] at found
                obtain ⟨inner, member, found⟩ := found
                exact ⟨name, inner, rest, (child?_eq_some_iff nodup).mp member, rfl, found⟩

theorem mem_filesAmong_iff (place path : Path) (bytes : List UInt8) :
    ∀ entries : List (String × Entry), (∀ entry ∈ entries, entry.2.WellNamed) →
      ((place, bytes) ∈ filesAmong path entries ↔
        ∃ name inner rest, (name, inner) ∈ entries ∧ place = path ++ name :: rest ∧
          inner.at? rest = some (.file bytes))
  | [], _ => by
      simp [filesAmong]
  | (name, entry) :: others, wellNamed => by
      rw [List.forall_mem_cons] at wellNamed
      rw [filesAmong, List.mem_append,
        mem_filesAt_iff place (path ++ [name]) bytes entry wellNamed.1,
        mem_filesAmong_iff place path bytes others wellNamed.2]
      constructor
      · rintro (⟨rest, rfl, found⟩ | ⟨other, inner, rest, member, rfl, found⟩)
        · exact ⟨name, entry, rest, List.mem_cons_self, List.append_assoc .., found⟩
        · exact ⟨other, inner, rest, List.mem_cons_of_mem _ member, rfl, found⟩
      · rintro ⟨other, inner, rest, member, rfl, found⟩
        rcases List.mem_cons.mp member with here | later
        · cases here
          exact .inl ⟨rest, List.append_cons path name rest, found⟩
        · exact .inr ⟨other, inner, rest, later, rfl, found⟩

end

mutual

theorem nodup_filesAt (path : Path) : ∀ entry : Entry, entry.WellNamed →
    ((filesAt path entry).map Prod.fst).Nodup
  | .file _, _ => List.nodup_singleton _
  | .folder entries, wellNamed => by
      cases wellNamed with
      | folder nodup _ wellNamed =>
          rw [filesAt]
          exact nodup_filesAmong path entries nodup wellNamed

theorem nodup_filesAmong (path : Path) : ∀ entries : List (String × Entry),
    (entries.map Prod.fst).Nodup → (∀ entry ∈ entries, entry.2.WellNamed) →
      ((filesAmong path entries).map Prod.fst).Nodup
  | [], _, _ => List.nodup_nil
  | (name, entry) :: others, nodup, wellNamed => by
      rw [List.map_cons, List.nodup_cons] at nodup
      rw [List.forall_mem_cons] at wellNamed
      rw [filesAmong, List.map_append, List.nodup_append]
      refine ⟨nodup_filesAt (path ++ [name]) entry wellNamed.1,
        nodup_filesAmong path others nodup.2 wellNamed.2, ?_⟩
      -- The next name after the folder tells the two parts of the list apart.
      intro first firstMember second secondMember same
      obtain ⟨⟨_, bytes⟩, listed, rfl⟩ := List.mem_map.mp firstMember
      obtain ⟨⟨_, otherBytes⟩, otherListed, rfl⟩ := List.mem_map.mp secondMember
      obtain ⟨rest, here, _⟩ := (mem_filesAt_iff _ _ _ entry wellNamed.1).mp listed
      obtain ⟨other, inner, otherRest, member, there, _⟩ :=
        (mem_filesAmong_iff _ _ _ others wellNamed.2).mp otherListed
      simp only at same
      rw [here, there, List.append_assoc, List.append_cancel_left_eq, List.singleton_append,
        List.cons.injEq] at same
      exact nodup.1 (List.mem_map.mpr ⟨(other, inner), member, same.1.symm⟩)

end

/-- The files below a folder are those that lie at some path in it. -/
theorem mem_files_iff (wellNamed : entry.WellNamed) (place : Path) (bytes : List UInt8) :
    (place, bytes) ∈ entry.files ↔ place ≠ [] ∧ entry.at? place = some (.file bytes) := by
  cases entry with
  | file content =>
      cases place with
      | nil => simp [files]
      | cons name rest => simp [files, at?_cons, child?]
  | folder entries =>
      have listed := mem_filesAt_iff place [] bytes (.folder entries) wellNamed
      rw [filesAt] at listed
      rw [files, List.mem_mergeSort, listed]
      simp only [List.nil_append, exists_eq_left']
      constructor
      · intro found
        refine ⟨?_, found⟩
        rintro rfl
        cases found
      · exact And.right

/-- The files below a folder are listed in the order of their paths. -/
theorem pairwise_files (wellNamed : entry.WellNamed) :
    entry.files.Pairwise fun first second => first.1 < second.1 := by
  cases wellNamed with
  | file => exact List.Pairwise.nil
  | @folder entries nodup plain wellNamed =>
      have sorted : (folder entries).files.Pairwise fun first second => first.1 ≤ second.1 := by
        simp only [← Path.le_iff, files]
        apply List.pairwise_mergeSort
        · simp only [Path.le_iff]
          exact fun _ _ _ => le_trans
        · simp only [Bool.or_eq_true, Path.le_iff]
          exact fun _ _ => le_total _ _
      have distinct : ((folder entries).files.map Prod.fst).Nodup :=
        ((List.mergeSort_perm _ _).map Prod.fst).nodup_iff.mpr
          (nodup_filesAmong [] entries nodup wellNamed)
      rw [List.nodup_iff_pairwise_ne, List.pairwise_map] at distinct
      exact (sorted.and distinct).imp fun both => lt_of_le_of_ne both.1 both.2

end Entry

namespace Discovery

open Entry

variable {frontEnds : List FrontEnd} {project other : Entry} {root path : Path}

/-! ## The source files of a project -/

/-- A source file below a root is a file there that no name of its path excludes
and that some front-end takes. -/
theorem mem_filesBelow_iff (wellNamed : project.WellNamed) (place : Path) (bytes : List UInt8) :
    (place, bytes) ∈ filesBelow frontEnds project root ↔
      (root <+: place ∧ place ≠ root) ∧ project.at? place = some (.file bytes) ∧
        isKept place = true ∧ isSource frontEnds place = true := by
  rw [filesBelow]
  cases found : project.at? root with
  | none =>
      simp only [List.not_mem_nil, false_iff]
      rintro ⟨⟨⟨rest, rfl⟩, _⟩, placeFound, _⟩
      rw [at?_append, found] at placeFound
      cases placeFound
  | some entry =>
      simp only [List.mem_filter, List.mem_map, Bool.and_eq_true, Prod.mk.injEq, Prod.exists]
      constructor
      · rintro ⟨⟨rest, content, listed, rfl, rfl⟩, counts⟩
        obtain ⟨proper, fileFound⟩ := (mem_files_iff (wellNamed.at? found).2 _ _).mp listed
        refine ⟨⟨List.prefix_append .., by simpa using proper⟩, ?_, counts⟩
        rw [at?_append, found, Option.bind_some, fileFound]
      · rintro ⟨⟨⟨rest, rfl⟩, proper⟩, fileFound, counts⟩
        rw [at?_append, found, Option.bind_some] at fileFound
        have listed := (mem_files_iff (wellNamed.at? found).2 rest bytes).mpr
          ⟨by simpa using proper, fileFound⟩
        exact ⟨⟨rest, bytes, listed, rfl, rfl⟩, counts⟩

/-- Below a root the source files come in the order of their paths. -/
theorem pairwise_filesBelow (wellNamed : project.WellNamed) (root : Path) :
    (filesBelow frontEnds project root).Pairwise fun first second => first.1 < second.1 := by
  rw [filesBelow]
  cases found : project.at? root with
  | none => exact List.Pairwise.nil
  | some entry =>
      apply List.Pairwise.filter
      rw [List.pairwise_map]
      exact (pairwise_files (wellNamed.at? found).2).imp List.append_left_lt

/-- The roots of a project with a source set are its source sets. -/
theorem sourceRoots_eq_filter {set : Path} (isSet : set ∈ sourceSets)
    (present : project.hasFolder set = true) :
    sourceRoots project = sourceSets.filter project.hasFolder := by
  have member : set ∈ sourceSets.filter project.hasFolder :=
    List.mem_filter.mpr ⟨isSet, present⟩
  rw [sourceRoots]
  split
  · rename_i none
    rw [none] at member
    cases member
  · rfl

/-- No root lies inside another. -/
theorem sourceRoots_apart (project : Entry) :
    (sourceRoots project).Pairwise fun first second => ¬ first <+: second ∧ ¬ second <+: first := by
  have apart : sourceSets.Pairwise fun first second =>
      ¬ first <+: second ∧ ¬ second <+: first := by
    decide
  rw [sourceRoots]
  split
  · exact List.pairwise_singleton _ _
  · exact apart.sublist List.filter_sublist

/-- No file is listed twice. -/
theorem nodup_sourceFiles (wellNamed : project.WellNamed) :
    ((sourceFiles frontEnds project).map Prod.fst).Nodup := by
  rw [sourceFiles, List.map_flatMap, List.nodup_flatMap]
  constructor
  · intro root _
    rw [List.nodup_iff_pairwise_ne, List.pairwise_map]
    exact (pairwise_filesBelow wellNamed root).imp ne_of_lt
  · refine (sourceRoots_apart project).imp ?_
    intro first second apart place firstMember secondMember
    obtain ⟨⟨_, bytes⟩, listed, rfl⟩ := List.mem_map.mp firstMember
    obtain ⟨⟨_, otherBytes⟩, otherListed, same⟩ := List.mem_map.mp secondMember
    obtain ⟨⟨below, _⟩, _⟩ := (mem_filesBelow_iff wellNamed _ _).mp listed
    obtain ⟨⟨otherBelow, _⟩, _⟩ := (mem_filesBelow_iff wellNamed _ _).mp otherListed
    simp only at same
    rw [same] at otherBelow
    rcases List.prefix_or_prefix_of_prefix below otherBelow with inside | inside
    · exact apart.1 inside
    · exact apart.2 inside

end Discovery

end ViewOutline
