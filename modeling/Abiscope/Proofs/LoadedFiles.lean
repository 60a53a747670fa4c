import Abiscope.Proofs.PatternProperties
import Abiscope.Suppression.FileReader
import Mathlib.Data.List.Perm.Basic

/-!
# Loaded files

A suppression file can be loaded exactly if all its tables are sound: every keyword is one of those for
its place, every parameter entry has a type, and every pattern that is not empty is well-formed. What is
loaded is complete and in order: there is one rule for each table, about the same kind of thing, and the
rules stand in the order of the tables in the text, whatever their kinds. No pattern in it is malformed.
-/

namespace Abiscope.Suppression

/-- A table that is complete and whose patterns are empty or well-formed. -/
structure Table.IsSound (table : Table) : Prop where
  complete : table.IsComplete
  patterns : ∀ property source, table.patternText? property = some source → source ≠ "" →
    (Pattern.compile? source).isSome = true

/-- The rule of a table passes the check of patterns exactly if the patterns of the table are empty or
well-formed. -/
theorem Table.checkPatterns_toRule_iff {table : Table} {rule : Suppression}
    (made : table.toRule = .ok rule) :
    checkPatterns rule = .ok () ↔
      ∀ property source, table.patternText? property = some source → source ≠ "" →
        (Pattern.compile? source).isSome = true := by
  rw [checkPatterns_eq_ok_iff]
  refine forall_congr' fun property => ?_
  rw [table.patternAt_toRule made, isWellFormed_patternOf_iff]

/-- A file can be loaded exactly if its tables are sound. -/
theorem File.exists_suppressions_iff (file : File) :
    (∃ rules, file.suppressions = .ok rules) ↔ ∀ entry ∈ file.tables, entry.2.IsSound := by
  constructor
  · rintro ⟨rules, loaded⟩ entry member
    obtain ⟨placed, converted, passed, _⟩ := suppressions_eq_ok_iff.mp loaded
    obtain ⟨result, inside, made⟩ := exists_of_forall₂ converted member
    have made := (Table.placed_eq_ok_iff.mp made).2
    exact ⟨entry.2.exists_toRule_iff.mp ⟨_, made⟩,
      (Table.checkPatterns_toRule_iff made).mp (passed result inside)⟩
  · intro sound
    have each : ∀ entry ∈ file.tables, ∃ result, Table.placed entry = .ok result := by
      intro entry member
      obtain ⟨rule, made⟩ := entry.2.exists_toRule_iff.mpr (sound entry member).complete
      exact ⟨(entry.1, rule), Table.placed_eq_ok_iff.mpr ⟨rfl, made⟩⟩
    obtain ⟨placed, converted⟩ := exists_mapM_eq_ok_iff.mpr each
    have converted := mapM_eq_ok_iff.mp converted
    refine ⟨_, suppressions_eq_ok_iff.mpr ⟨placed, converted, fun result inside => ?_, rfl⟩⟩
    obtain ⟨entry, member, made⟩ := exists_of_forall₂ converted.flip inside
    exact (Table.checkPatterns_toRule_iff (Table.placed_eq_ok_iff.mp made).2).mpr
      (sound entry member).patterns

/-- The rules that are loaded are those of the tables in the order of their places. -/
theorem File.exists_ordered {file : File} {rules : List Suppression}
    (loaded : file.suppressions = .ok rules) :
    ∃ ordered : List (Nat × Table), ordered.Perm file.tables ∧
      ordered.Pairwise (fun first second => first.1 ≤ second.1) ∧
      List.Forall₂ (fun entry rule => entry.2.toRule = .ok rule) ordered rules := by
  obtain ⟨placed, converted, _, rfl⟩ := suppressions_eq_ok_iff.mp loaded
  have sorted : (placed.mergeSort fun left right => left.1 ≤ right.1).Pairwise
      (fun first second => first.1 ≤ second.1) := by
    refine (List.pairwise_mergeSort ?_ ?_ placed).imp of_decide_eq_true
    · exact fun _ _ _ first second =>
        decide_eq_true (Nat.le_trans (of_decide_eq_true first) (of_decide_eq_true second))
    · exact fun left right => by simpa using Nat.le_total left.1 right.1
  -- The tables are put into the order that sorting gives to their rules.
  obtain ⟨ordered, pairs, same⟩ :=
    List.perm_comp_forall₂ (List.mergeSort_perm placed fun left right => left.1 ≤ right.1)
      converted.flip
  have pairs := pairs.imp fun _ _ made => Table.placed_eq_ok_iff.mp made
  refine ⟨ordered, same, ?_, ?_⟩
  · have places : List.map Prod.fst ordered =
        (placed.mergeSort fun left right => left.1 ≤ right.1).map Prod.fst := by
      rw [← List.forall₂_eq_eq_eq, List.forall₂_map_left_iff, List.forall₂_map_right_iff]
      exact pairs.flip.imp fun _ _ made => made.1.symm
    rw [← List.pairwise_map (f := Prod.fst) (R := (· ≤ ·)), places, List.pairwise_map]
    exact sorted
  · rw [inOrder, List.forall₂_map_right_iff]
    exact pairs.flip.imp fun _ _ made => made.2

/-- Every rule that is loaded passes the check of patterns. -/
theorem File.checkPatterns_of_mem {file : File} {rules : List Suppression}
    (loaded : file.suppressions = .ok rules) {rule : Suppression} (member : rule ∈ rules) :
    checkPatterns rule = .ok () := by
  obtain ⟨placed, _, passed, rfl⟩ := suppressions_eq_ok_iff.mp loaded
  obtain ⟨result, inside, rfl⟩ := List.mem_map.mp member
  exact passed result ((List.mergeSort_perm ..).mem_iff.mp inside)

/-- A text that has the shape of a suppression file can be loaded exactly if its tables are sound. What is
loaded are the rules of all tables, each about the kind of thing that its table is about, in the order of
the tables in the text; and every pattern that is set, of whatever property, is usable. -/
theorem parseFile_loads {text : String} {file : File} (origin : String)
    (shape : FileReader.file? text = some file) :
    ((∃ rules, parseFile text origin = .ok rules) ↔ ∀ entry ∈ file.tables, entry.2.IsSound) ∧
      ∀ rules, parseFile text origin = .ok rules →
        (∃ ordered : List (Nat × Table), ordered.Perm file.tables ∧
          ordered.Pairwise (fun first second => first.1 ≤ second.1) ∧
          List.Forall₂ (fun entry rule => entry.2.toRule = .ok rule) ordered rules) ∧
        ∀ rule ∈ rules, ∀ property, (rule.patternAt property).isSet = true →
          (rule.patternAt property).usable.isSome = true := by
  rw [parseFile, shape]
  refine ⟨file.exists_suppressions_iff, fun rules loaded => ⟨File.exists_ordered loaded, ?_⟩⟩
  intro rule member property
  have passed := (checkPatterns_eq_ok_iff rule).mp (File.checkPatterns_of_mem loaded member)
  exact (isWellFormed_iff _).mp (passed property)

/-- A text with a table about a type before one about functions. -/
def listedText : String :=
  "[[suppress_type]]\nname = \"struct point\"\n\n[[suppress_function]]\nname_regexp = \"^put\"\n"

/-- The tables of the text. -/
def listedFile : File where
  functions := [(41, { namePattern := some "^put" })]
  types := [(0, { name := some "struct point" })]

/-- The tables are sound, so the text is loaded, and what is loaded has no malformed pattern. -/
theorem parseFile_loads_listed :
    FileReader.file? listedText = some listedFile ∧
      ∃ rules, parseFile listedText "listed" = .ok rules ∧
        ∀ rule ∈ rules, ∀ property, (rule.patternAt property).isSet = true →
          (rule.patternAt property).usable.isSome = true := by
  have shape : FileReader.file? listedText = some listedFile := by rfl
  have ofFunctions : (Table.aboutFunction { namePattern := some "^put" }).IsSound := by
    refine ⟨⟨fun _ impossible => by contradiction, fun _ impossible => by contradiction⟩, ?_⟩
    intro property source written _
    cases property <;> cases written
    decide +kernel
  have ofType : (Table.aboutType { name := some "struct point" }).IsSound := by
    refine ⟨⟨fun _ impossible => by contradiction, fun _ impossible => by contradiction,
      fun _ impossible => by contradiction, fun _ impossible => by contradiction⟩, ?_⟩
    intro property source written _
    cases property <;> cases written
  have loads := parseFile_loads "listed" shape
  obtain ⟨rules, loaded⟩ := loads.1.mpr fun entry member => by
    rcases List.mem_pair.mp member with rfl | rfl
    · exact ofFunctions
    · exact ofType
  exact ⟨shape, rules, loaded, (loads.2 rules loaded).2⟩

end Abiscope.Suppression
