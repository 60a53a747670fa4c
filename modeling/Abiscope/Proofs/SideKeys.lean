import Abiscope.Difference
import Mathlib.Logic.Basic

/-!
# Keys of the sides of a comparison

The maps of a side are built by inserting one entry after the other. This module says what they hold in
terms of the corpus alone: the interface maps an id string exactly if a listed symbol that the
interface selects has it, and declarations are found under a key exactly if one of them goes by it, in
which case the first such declaration is the one that takes part.

From this follow the entries of the lists that compare two maps key by key.
-/

namespace Abiscope

namespace Corpus

/-- An id string that other binaries can bind to. -/
def Offers (corpus : Corpus) (id : String) : Prop :=
  ∃ place ∈ corpus.table.select corpus.table.interface,
    (corpus.table.symbol? place).map Symbol.idString = some id

/-- The linkage names and names under which functions are declared. -/
def functionNames (corpus : Corpus) : List (Option String × String) :=
  corpus.functions.map fun function => (function.linkageName, function.name)

/-- The linkage names and names under which variables are declared. -/
def globalNames (corpus : Corpus) : List (Option String × String) :=
  corpus.globals.map fun declared => (declared.linkageName, declared.name)

/-- Some function or variable is bound to a symbol of an id string. -/
def Declares (corpus : Corpus) (id : String) : Prop :=
  ∃ declared ∈ corpus.functionNames ++ corpus.globalNames,
    ∃ place, corpus.bound? declared.1 = some place ∧ Side.idStringOf corpus place = id

/-- One of some declarations takes part in a comparison under a key. -/
def Keys (corpus : Corpus) (names : List (Option String × String)) (key : String) : Prop :=
  ∃ declared ∈ names,
    Side.key? corpus (Side.interfaceOf corpus) declared.1 declared.2 = some key

/-- One of some declarations is bound to no symbol and goes by a key: its linkage name unless that is
missing or empty, or else its own name. -/
def KeysUnbound (corpus : Corpus) (names : List (Option String × String)) (key : String) : Prop :=
  ∃ declared ∈ names, corpus.bound? declared.1 = none ∧
    (declared.1.filter (· != "")).getD declared.2 = key

end Corpus

namespace Side

/-- Insertion keeps other keys, and the last insertion under a key is the one that counts. -/
theorem get?_foldl_insert {α : Type} (keyOf : α → String) (valueOf : α → Nat) (items : List α)
    (start : Std.TreeMap String Nat) (key : String) (value : Nat)
    (found : (items.foldl (fun keyed item => keyed.insert (keyOf item) (valueOf item))
      start).get? key = some value) :
    start.get? key = some value ∨ ∃ item ∈ items, keyOf item = key ∧ valueOf item = value := by
  induction items generalizing start with
  | nil => exact Or.inl found
  | cons item rest inductionHypothesis =>
    rw [List.foldl_cons] at found
    rcases inductionHypothesis _ found with inserted | ⟨later, member, named⟩
    · rw [Std.TreeMap.get?_eq_getElem?, Std.TreeMap.getElem?_insert] at inserted
      by_cases same : compare (keyOf item) key = .eq
      · rw [if_pos same] at inserted
        exact Or.inr ⟨item, by simp, Std.LawfulEqOrd.eq_of_compare same,
          Option.some.inj inserted⟩
      · rw [if_neg same] at inserted
        exact Or.inl inserted
    · exact Or.inr ⟨later, by simp [member], named⟩

/-- Every key that was inserted is there. -/
theorem contains_foldl_insert {α : Type} (keyOf : α → String) (valueOf : α → Nat) (items : List α)
    (start : Std.TreeMap String Nat) (key : String) :
    (items.foldl (fun keyed item => keyed.insert (keyOf item) (valueOf item)) start).contains key =
      (start.contains key || items.any fun item => keyOf item == key) := by
  induction items generalizing start with
  | nil => simp
  | cons item rest inductionHypothesis =>
    rw [List.foldl_cons, inductionHypothesis, Std.TreeMap.contains_insert, List.any_cons]
    have same : (compare (keyOf item) key == .eq) = (keyOf item == key) := by
      rw [Bool.eq_iff_iff]
      simp
    rw [same]
    cases start.contains key <;> simp

/-- A place that is selected holds a symbol. -/
theorem exists_symbol_of_mem_select {table : Symbol.Table} {selection : Symbol.Selection}
    {place : Nat} (selected : place ∈ table.select selection) :
    ∃ symbol, table.symbol? place = some symbol := by
  have accepted := (List.mem_filter.mp selected).2
  obtain ⟨symbol, held, _⟩ := (Option.any_eq_true _ _).mp accepted
  exact ⟨symbol, held⟩

/-- The interface of a side maps exactly the id strings that its corpus offers. -/
theorem contains_interfaceOf (corpus : Corpus) (id : String) :
    (interfaceOf corpus).contains id = true ↔ corpus.Offers id := by
  rw [interfaceOf, contains_foldl_insert]
  simp only [Std.TreeMap.contains_emptyc, Bool.false_or, List.any_eq_true, beq_iff_eq]
  constructor
  · rintro ⟨place, selected, named⟩
    obtain ⟨symbol, held⟩ := exists_symbol_of_mem_select selected
    refine ⟨place, selected, ?_⟩
    simpa [idStringOf, held] using named
  · rintro ⟨place, selected, named⟩
    exact ⟨place, selected, by simp [idStringOf, named]⟩

/-- What the interface maps an id string to is a symbol of that id string. -/
theorem exists_symbol_of_interfaceOf {corpus : Corpus} {id : String} {place : Nat}
    (mapped : (interfaceOf corpus).get? id = some place) :
    ∃ symbol, corpus.table.symbol? place = some symbol ∧ symbol.idString = id := by
  rcases get?_foldl_insert _ _ _ _ _ _ mapped with impossible | ⟨found, selected, named, same⟩
  · simp at impossible
  · subst same
    obtain ⟨symbol, held⟩ := exists_symbol_of_mem_select selected
    exact ⟨symbol, held, by simpa [idStringOf, held] using named⟩

/-- A declaration stands under its key, unless another one does so already. -/
def enter {δ : Type} (corpus : Corpus) (interface : Std.TreeMap String Nat)
    (linkageName : δ → Option String) (name : δ → String) (keyed : Std.TreeMap String (Bound δ))
    (declaration : δ) : Std.TreeMap String (Bound δ) :=
  (key? corpus interface (linkageName declaration) (name declaration)).elim keyed fun key =>
    keyed.insertIfNew key (declaration, corpus.bound? (linkageName declaration))

/-- Declarations are entered one after the other. -/
theorem byKey_eq_foldl {δ : Type} (corpus : Corpus) (interface : Std.TreeMap String Nat)
    (linkageName : δ → Option String) (name : δ → String) (declarations : List δ) :
    byKey corpus interface linkageName name declarations =
      declarations.foldl (enter corpus interface linkageName name) ∅ := by
  refine congrArg (fun step => declarations.foldl step ∅) (funext₂ fun keyed declaration => ?_)
  rw [enter]
  cases key? corpus interface (linkageName declaration) (name declaration) <;> rfl

/-- Under a key stands the first of the declarations that go by it. -/
theorem get?_byKey {δ : Type} (corpus : Corpus) (interface : Std.TreeMap String Nat)
    (linkageName : δ → Option String) (name : δ → String) (declarations : List δ) (key : String) :
    (byKey corpus interface linkageName name declarations).get? key =
      (declarations.find? fun declaration =>
        key? corpus interface (linkageName declaration) (name declaration) == some key).map
          fun declaration => (declaration, corpus.bound? (linkageName declaration)) := by
  -- The fold starts from any map: what is there already takes precedence over all declarations.
  have general (start : Std.TreeMap String (Bound δ)) :
      (declarations.foldl (enter corpus interface linkageName name) start).get? key =
        (start.get? key <|> (declarations.find? fun declaration =>
          key? corpus interface (linkageName declaration) (name declaration) == some key).map
            fun declaration => (declaration, corpus.bound? (linkageName declaration))) := by
    induction declarations generalizing start with
    | nil => simp
    | cons declaration rest inductionHypothesis =>
      rw [List.foldl_cons, inductionHypothesis, List.find?_cons, enter]
      cases keyed : key? corpus interface (linkageName declaration) (name declaration) with
      | none => simp
      | some own =>
        rw [Option.elim_some]
        simp only [Std.TreeMap.get?_eq_getElem?, Std.TreeMap.getElem?_insertIfNew]
        by_cases same : own = key
        · subst same
          cases held : start[own]? with
          | none => simp [Std.TreeMap.mem_iff_isSome_getElem?, held]
          | some value => simp [Std.TreeMap.mem_iff_isSome_getElem?, held]
        · have other : (own == key) = false := by simpa using same
          simp [same, other]
  rw [byKey_eq_foldl, general]
  simp

/-- A key is taken exactly if some declaration goes by it. -/
theorem contains_byKey {δ : Type} (corpus : Corpus) (linkageName : δ → Option String)
    (name : δ → String) (declarations : List δ) (key : String) :
    (byKey corpus (interfaceOf corpus) linkageName name declarations).contains key = true ↔
      corpus.Keys (declarations.map fun declared => (linkageName declared, name declared)) key := by
  rw [Std.TreeMap.contains_eq_isSome_getElem?, ← Std.TreeMap.get?_eq_getElem?, get?_byKey,
    Option.isSome_map, List.find?_isSome]
  simp only [beq_iff_eq, Corpus.Keys, List.mem_map, exists_exists_and_eq_and]

/-- The map of functions has exactly the keys of the functions. -/
theorem contains_functions (corpus : Corpus) (key : String) :
    (ofCorpus corpus).functions.contains key = true ↔ corpus.Keys corpus.functionNames key :=
  contains_byKey corpus _ _ corpus.functions key

/-- The map of variables has exactly the keys of the variables. -/
theorem contains_globals (corpus : Corpus) (key : String) :
    (ofCorpus corpus).globals.contains key = true ↔ corpus.Keys corpus.globalNames key :=
  contains_byKey corpus _ _ corpus.globals key

/-- A symbol counts as referenced exactly if some declaration is bound to one of its id string. -/
theorem referenced_contains (corpus : Corpus) (id : String) :
    (ofCorpus corpus).referenced.contains id = true ↔ corpus.Declares id := by
  have linkageNames : corpus.functions.map FunctionDeclaration.linkageName ++
      corpus.globals.map VariableDeclaration.linkageName =
        (corpus.functionNames ++ corpus.globalNames).map Prod.fst := by
    simp [Corpus.functionNames, Corpus.globalNames, Function.comp_def]
  simp only [List.contains_iff_mem, ofCorpus, linkageNames, List.mem_filterMap,
    Option.map_eq_some_iff, List.mem_map, exists_exists_and_eq_and, Corpus.Declares]

/-- A bound declaration goes by an offered id string only, so what goes by a key that is not offered
is bound to nothing. -/
theorem keys_iff_keysUnbound {corpus : Corpus} {key : String} (absent : ¬corpus.Offers key)
    (names : List (Option String × String)) :
    corpus.Keys names key ↔ corpus.KeysUnbound names key := by
  have notOffered : (interfaceOf corpus).contains key = false := by
    rw [Bool.eq_false_iff, Ne, contains_interfaceOf]
    exact absent
  constructor
  · rintro ⟨declared, member, keyed⟩
    refine ⟨declared, member, ?_⟩
    cases bound : corpus.bound? declared.1 with
    | none => simpa [key?, bound] using keyed
    | some place =>
      simp only [key?, bound, Option.ite_none_right_eq_some, Option.some.injEq] at keyed
      obtain ⟨offered, rfl⟩ := keyed
      rw [notOffered] at offered
      contradiction
  · rintro ⟨declared, member, bound, keyed⟩
    exact ⟨declared, member, by simp [key?, bound, keyed]⟩

end Side

namespace Difference

/-- What is in one map only are the entries of its keys that the other map lacks. -/
theorem mem_onlyIn {δ ε : Type} (entity : String → δ → ε) (here there : Std.TreeMap String δ)
    (entry : ε) :
    entry ∈ onlyIn entity here there ↔
      ∃ key bound, here.get? key = some bound ∧ there.contains key = false ∧
        entity key bound = entry := by
  simp only [onlyIn, List.mem_filterMap, Prod.exists, Std.TreeMap.mem_toList_iff_getElem?_eq_some,
    Std.TreeMap.get?_eq_getElem?]
  constructor
  · rintro ⟨key, bound, held, made⟩
    cases taken : there.contains key with
    | true => simp only [taken, if_true, reduceCtorEq] at made
    | false => exact ⟨key, bound, held, taken, by simpa [taken] using made⟩
  · rintro ⟨key, bound, held, lacking, made⟩
    exact ⟨key, bound, held, by simp [lacking, made]⟩

/-- What is in both of two maps is what both have under one key. -/
theorem mem_inBoth {δ : Type} (first second : Std.TreeMap String δ) (item : String × δ × δ) :
    item ∈ inBoth first second ↔
      first.get? item.1 = some item.2.1 ∧ second.get? item.1 = some item.2.2 := by
  obtain ⟨key, old, new⟩ := item
  simp only [inBoth, List.mem_filterMap, Prod.exists, Std.TreeMap.mem_toList_iff_getElem?_eq_some,
    Std.TreeMap.get?_eq_getElem?, Option.map_eq_some_iff, Prod.mk.injEq]
  constructor
  · rintro ⟨_, _, held, _, found, rfl, rfl, rfl⟩
    exact ⟨held, found⟩
  · rintro ⟨held, found⟩
    exact ⟨key, old, held, new, found, rfl, rfl, rfl⟩

/-- The changes of symbols on one side only are those of the id strings that the side offers, no
declaration of it refers to, and the other side does not offer. -/
theorem mem_unreferenced (context : Suppression.Context) (kinds : Suppression.Changes)
    (here there : Side) (change : SymbolChange) :
    change ∈ unreferenced context kinds here there ↔
      ∃ idString place symbol, here.interface.get? idString = some place ∧
        here.referenced.contains idString = false ∧ there.interface.contains idString = false ∧
        here.corpus.table.symbol? place = some symbol ∧
        ⟨symbol, symbolLabel? context kinds here place symbol⟩ = change := by
  simp only [unreferenced, List.mem_filterMap, Prod.exists,
    Std.TreeMap.mem_toList_iff_getElem?_eq_some, Std.TreeMap.get?_eq_getElem?]
  constructor
  · rintro ⟨idString, place, held, made⟩
    by_cases skipped :
        (here.referenced.contains idString || there.interface.contains idString) = true
    · rw [if_pos skipped] at made
      contradiction
    · rw [if_neg skipped, Option.map_eq_some_iff] at made
      obtain ⟨symbol, placed, made⟩ := made
      simp only [Bool.or_eq_true, not_or, Bool.not_eq_true] at skipped
      exact ⟨idString, place, symbol, held, skipped.1, skipped.2, placed, made⟩
  · rintro ⟨idString, place, symbol, held, unreferred, lacking, placed, made⟩
    exact ⟨idString, place, held, by simp only [unreferred, lacking, Bool.or_self,
      Bool.false_eq_true, if_false, placed, Option.map_some, made]⟩

end Difference

end Abiscope
