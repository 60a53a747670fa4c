import Abiscope.Command.Run
import Abiscope.Proofs.ReadingWithRules
import Abiscope.Proofs.RelatedDeclarations

/-!
# A further rule

A rule is there to make a comparison report less. Added to the others it hides more of what is found, but
a rule that drops things also acts when each binary is read, and there it is asked about that binary
alone. If it withholds a symbol of one binary and leaves its counterpart in the other, the counterpart is
on one side only, and there is more to report than before.

This is the only way in which a rule can do harm. If a rule accounts for all symbols of an id string once
it withholds one of them, then a symbol on one side only was so before.
-/

namespace Abiscope

/-- Whether a rule withholds the symbol at a place of a corpus. -/
def Corpus.isWithheld (corpus : Corpus) (rule : Suppression) (place : Nat) : Bool :=
  (corpus.table.symbol? place).any (rule.withholds corpus.binary)

/-- A rule withholds some symbol that a corpus offers under an id string. -/
def Corpus.Loses (corpus : Corpus) (rule : Suppression) (id : String) : Prop :=
  ∃ place ∈ corpus.offeredUnder id, corpus.isWithheld rule place = true

namespace Difference

open Suppression (Binary Changes Context)

/-- Added to others, a rule accounts for the symbols of a corpus that may be found there only: if it
withholds some symbol of an id string, here or there, then it withholds each symbol that is offered here
under this id string, or the rules hide the change. -/
def AccountsFor (suppressions : List Suppression) (rule : Suppression) (binary : Binary)
    (change : Changes) (here there : Corpus) : Prop :=
  ∀ id, here.Loses rule id ∨ there.Loses rule id → ∀ place ∈ here.offeredUnder id,
    ∀ symbol, here.table.symbol? place = some symbol →
      rule.withholds here.binary symbol = true ∨
        (symbolLabel? ⟨suppressions ++ [rule], binary⟩ change (Side.ofCorpus here) place
          symbol).isSome = true

/-- A rule treats alike what goes by one id string in two corpora, in so far as it accounts for the rest
wherever it withholds something. Changes are judged for the first of the binaries. -/
structure Evenhanded (suppressions : List Suppression) (rule : Suppression) (first second : Corpus) :
    Prop where
  removals : AccountsFor suppressions rule first.binary Changes.onlyDeleted first second
  additions : AccountsFor suppressions rule first.binary Changes.onlyAdded second first

/-- A rule that drops nothing is evenhanded. -/
theorem Evenhanded.of_keeps {rule : Suppression} (keeps : rule.header.drops = false)
    (suppressions : List Suppression) (first second : Corpus) :
    Evenhanded suppressions rule first second := by
  have nothing (corpus : Corpus) (place : Nat) : ¬corpus.isWithheld rule place = true := by
    rw [Corpus.isWithheld, Option.any_eq_true]
    rintro ⟨symbol, _, withheld⟩
    rw [Suppression.withholds_eq, keeps] at withheld
    exact Bool.false_ne_true withheld
  have accounts (binary : Binary) (change : Changes) (here there : Corpus) :
      AccountsFor suppressions rule binary change here there := by
    rintro id (⟨place, _, withheld⟩ | ⟨place, _, withheld⟩)
    · exact absurd withheld (nothing here place)
    · exact absurd withheld (nothing there place)
  exact ⟨accounts _ _ _ _, accounts _ _ _ _⟩

/-- The symbols that are offered under one id string, here or there, are of one name and one sort. -/
def OffersAlike (here there : Corpus) : Prop :=
  ∀ id, ∀ place ∈ here.offeredUnder id, ∀ symbol, here.table.symbol? place = some symbol →
    ∀ counterpart, ((∃ other ∈ here.offeredUnder id, here.table.symbol? other = some counterpart) ∨
        ∃ other ∈ there.offeredUnder id, there.table.symbol? other = some counterpart) →
      symbol.name = counterpart.name ∧ symbol.isFunction = counterpart.isFunction ∧
        symbol.isVariable = counterpart.isVariable

/-- A rule that is for both binaries or for neither withholds all symbols of an id string or none, if
they are alike. -/
theorem accountsFor_of_concerns {rule : Suppression} {here there : Corpus}
    (concerned : rule.header.concerns here.binary = rule.header.concerns there.binary)
    (alike : OffersAlike here there) (suppressions : List Suppression) (binary : Binary)
    (change : Changes) : AccountsFor suppressions rule binary change here there := by
  intro id withheld place offered symbol held
  left
  rcases withheld with ⟨other, member, withheld⟩ | ⟨other, member, withheld⟩ <;>
    obtain ⟨counterpart, placed, withholds⟩ := (Option.any_eq_true _ _).mp withheld
  · rwa [Suppression.withholds_congr rfl
      (alike id place offered symbol held counterpart (Or.inl ⟨other, member, placed⟩))]
  · rwa [Suppression.withholds_congr concerned
      (alike id place offered symbol held counterpart (Or.inr ⟨other, member, placed⟩))]

/-- A rule that is for both binaries or for neither is evenhanded, if what goes by one id string is
alike. -/
theorem Evenhanded.of_concerns {rule : Suppression} {first second : Corpus}
    (concerned : rule.header.concerns first.binary = rule.header.concerns second.binary)
    (alike : OffersAlike first second) (reversely : OffersAlike second first)
    (suppressions : List Suppression) : Evenhanded suppressions rule first second :=
  ⟨accountsFor_of_concerns concerned alike _ _ _,
    accountsFor_of_concerns concerned.symm reversely _ _ _⟩

/-! ## Corpora without declarations -/

/-- Some symbol is on one side only, and no rule hides it. -/
def LeavesSymbol (changes : List SymbolChange) : Prop :=
  ∃ change ∈ changes, change.isSuppressed = false

/-- What is left of functions and of the other symbols is what is left of all. -/
theorem leavesSymbol_iff (changes : List SymbolChange) (isFunction : SymbolChange → Bool) :
    ((changes.filter isFunction).any (fun change => !change.isSuppressed) = true ∨
      (changes.filter fun change => !isFunction change).any (fun change => !change.isSuppressed) =
        true) ↔ LeavesSymbol changes := by
  simp only [List.any_eq_true, List.mem_filter, Bool.not_eq_true', LeavesSymbol]
  constructor
  · rintro (⟨change, ⟨member, _⟩, left⟩ | ⟨change, ⟨member, _⟩, left⟩) <;> exact ⟨change, member, left⟩
  · rintro ⟨change, member, left⟩
    cases sort : isFunction change with
    | true => exact Or.inl ⟨change, ⟨member, sort⟩, left⟩
    | false => exact Or.inr ⟨change, ⟨member, sort⟩, left⟩

variable {first second : Corpus}

/-- A corpus without declarations takes part with symbols only. -/
theorem side_of_bare {corpus : Corpus} (bare : corpus.functions = [] ∧ corpus.globals = []) :
    (Side.ofCorpus corpus).functions = ∅ ∧ (Side.ofCorpus corpus).globals = ∅ ∧
      (Side.ofCorpus corpus).referenced = [] := by
  simp only [Side.ofCorpus, bare.1, bare.2]
  exact ⟨rfl, rfl, rfl⟩

/-- Nothing is in an empty map only. -/
theorem onlyIn_empty {δ ε : Type} (entity : String → δ → ε) (there : Std.TreeMap String δ) :
    onlyIn entity ∅ there = [] :=
  rfl

/-- Nothing is in an empty map and in another one. -/
theorem inBoth_empty {δ : Type} (second : Std.TreeMap String δ) : inBoth ∅ second = [] :=
  rfl

/-- Of two corpora without declarations, no declarations are listed. -/
theorem declarations_of_bare (firstBare : first.functions = [] ∧ first.globals = [])
    (secondBare : second.functions = [] ∧ second.globals = []) (suppressions : List Suppression)
    (options : Options) :
    let difference := ofCorpora first second suppressions options
    (difference.removedFunctions = [] ∧ difference.removedVariables = []) ∧
      (difference.addedFunctions = [] ∧ difference.addedVariables = []) ∧
      difference.changedFunctions = [] ∧ difference.changedVariables = [] := by
  obtain ⟨firstFunctions, firstGlobals, _⟩ := side_of_bare firstBare
  obtain ⟨secondFunctions, secondGlobals, _⟩ := side_of_bare secondBare
  refine ⟨⟨?_, ?_⟩, ⟨?_, ?_⟩, ?_, ?_⟩
  · rw [ofCorpora, firstFunctions, onlyIn_empty]
  · rw [ofCorpora, firstGlobals, onlyIn_empty]
  · rw [ofCorpora, secondFunctions, onlyIn_empty]
  · rw [ofCorpora, secondGlobals, onlyIn_empty]
  · rw [changedFunctions_ofCorpora, firstFunctions, inBoth_empty]
    rfl
  · rw [changedVariables_ofCorpora, firstGlobals, inBoth_empty]
    rfl

/-- Of two corpora without declarations, symbols that are left decide, and changes of the binaries. -/
theorem status_of_bare (firstBare : first.functions = [] ∧ first.globals = [])
    (secondBare : second.functions = [] ∧ second.globals = []) (suppressions : List Suppression)
    (options : Options) :
    ((ofCorpora first second suppressions options).isIncompatible = true ↔
        LeavesSymbol (listedSymbols options (contextOf first suppressions) Changes.onlyDeleted first
          second)) ∧
      ((ofCorpora first second suppressions options).isReportable = true ↔
        (ofCorpora first second suppressions options).hasBinaryChanges = true ∨
          LeavesSymbol (listedSymbols options (contextOf first suppressions) Changes.onlyDeleted first
            second) ∨
          LeavesSymbol (listedSymbols options (contextOf first suppressions) Changes.onlyAdded second
            first)) := by
  obtain ⟨⟨removedFunctions, removedVariables⟩, ⟨addedFunctions, addedVariables⟩, changedFunctions,
    changedVariables⟩ := declarations_of_bare firstBare secondBare suppressions options
  have incompatible : (ofCorpora first second suppressions options).isIncompatible = true ↔
      LeavesSymbol (listedSymbols options (contextOf first suppressions) Changes.onlyDeleted first
        second) := by
    rw [isIncompatible, removedFunctions, removedVariables, List.any_nil, Bool.or_self, Bool.false_or,
      Bool.or_eq_true]
    exact leavesSymbol_iff _ _
  have added : ((ofCorpora first second suppressions options).addedFunctionSymbols.any
        (fun change => !change.isSuppressed) = true ∨
      (ofCorpora first second suppressions options).addedVariableSymbols.any
        (fun change => !change.isSuppressed) = true) ↔
      LeavesSymbol (listedSymbols options (contextOf first suppressions) Changes.onlyAdded second
        first) :=
    leavesSymbol_iff _ _
  refine ⟨incompatible, ?_⟩
  rw [isReportable, addedFunctions, addedVariables, changedFunctions, changedVariables, ← incompatible,
    ← added]
  simp only [List.any_nil, Bool.or_false, Bool.or_eq_true, or_assoc]

/-! ## Symbols on one side only -/

/-- A symbol on one side only that rules do not hide is not hidden by the first of them either. -/
theorem symbolLabel?_eq_none_of_append {suppressions further : List Suppression} {binary : Binary}
    {change : Changes} {side : Side} {place : Nat} {symbol : Symbol}
    (unhidden : symbolLabel? ⟨suppressions ++ further, binary⟩ change side place symbol = none) :
    symbolLabel? ⟨suppressions, binary⟩ change side place symbol = none := by
  revert unhidden
  rw [symbolLabel?, symbolLabel?]
  split <;> simp only [Context.functionLabel?, Context.variableLabel?, Context.functionRules,
    Context.variableRules, List.filterMap_append, Option.map_eq_none_iff, List.find?_append,
    Option.or_eq_none_iff] <;> exact And.left

/-- The label of a symbol depends on the aliases that the side has for it. -/
theorem symbolLabel?_congr (context : Context) (change : Changes) {here there : Side}
    (same : ∀ id, here.aliasNames id = there.aliasNames id) (place : Nat) (symbol : Symbol) :
    symbolLabel? context change here place symbol = symbolLabel? context change there place symbol := by
  rw [symbolLabel?, symbolLabel?, same]

variable {rule : Suppression} {binary : Binary} {change : Changes}
  {here there partHere partThere : Corpus}

/-- A symbol that is on one side only, and not hidden, was so before a rule was added that accounts for
what it withholds.

Proof: the rule neither withholds nor hides this symbol. So it withholds no symbol of the same id string
on either side, and what is offered under this id string is the same as before. -/
theorem leavesSymbol_of_further (ofHere : here.Withholds (rule.withholds here.binary) partHere)
    (ofThere : there.Withholds (rule.withholds there.binary) partThere)
    {suppressions : List Suppression}
    (accounts : AccountsFor suppressions rule binary change here there) (options : Options)
    (left : LeavesSymbol
      (listedSymbols options ⟨suppressions ++ [rule], binary⟩ change partHere partThere)) :
    LeavesSymbol (listedSymbols options ⟨suppressions, binary⟩ change here there) := by
  obtain ⟨entry, member, unhidden⟩ := left
  by_cases shown : options.showUnreferenced = true
  · rw [listedSymbols, if_pos shown] at member ⊢
    obtain ⟨id, place, symbol, held, unreferred, lacking, placed, rfl⟩ :=
      (mem_unreferenced _ _ _ _ entry).mp member
    rw [SymbolChange.isSuppressed, Option.isSome_eq_false_iff, Option.isNone_iff_eq_none,
      symbolLabel?_congr _ change ofHere.aliasNames] at unhidden
    dsimp only at unhidden
    have last : (partHere.offeredUnder id).getLast? = some place :=
      (partHere.get?_interfaceOf id).symm.trans held
    obtain ⟨offered, placed, kept⟩ := ofHere.offered_of_offered (List.mem_of_getLast? last) placed
    have clear (withheld : here.Loses rule id ∨ there.Loses rule id) : False := by
      rcases accounts id withheld place offered symbol placed with withholds | hides
      · exact Bool.false_ne_true (kept.symm.trans withholds)
      · rw [unhidden] at hides
        contradiction
    have sameHere := ofHere.offeredUnder_eq id fun other member withheld =>
      clear (Or.inl ⟨other, member, withheld⟩)
    have sameThere := ofThere.offeredUnder_eq id fun other member withheld =>
      clear (Or.inr ⟨other, member, withheld⟩)
    refine ⟨⟨symbol, none⟩, (mem_unreferenced _ _ _ _ _).mpr
      ⟨id, place, symbol, ?_, ?_, ?_, placed, ?_⟩, rfl⟩
    · rw [sameHere] at last
      exact (here.get?_interfaceOf id).trans last
    · rw [(side_of_bare ofHere.wholeBare).2.2]
      rfl
    · rw [← Bool.not_eq_true] at lacking ⊢
      refine fun present => lacking ((partThere.contains_interfaceOf_iff id).mpr ?_)
      rw [sameThere]
      exact (there.contains_interfaceOf_iff id).mp present
    · rw [symbolLabel?_eq_none_of_append unhidden]
  · rw [listedSymbols, if_neg shown] at member
    contradiction

/-! ## Reading and comparing -/

/-- What is found about the binaries themselves does not depend on rules. -/
theorem hasBinaryChanges_of_withholds {partFirst partSecond : Corpus}
    {fromFirst fromSecond : Symbol → Bool} (ofFirst : first.Withholds fromFirst partFirst)
    (ofSecond : second.Withholds fromSecond partSecond) (suppressions further : List Suppression)
    (options : Options) :
    (ofCorpora partFirst partSecond further options).hasBinaryChanges =
      (ofCorpora first second suppressions options).hasBinaryChanges := by
  have firstName : partFirst.soname = first.soname := congrArg Binary.soname ofFirst.binary
  have secondName : partSecond.soname = second.soname := congrArg Binary.soname ofSecond.binary
  simp only [hasBinaryChanges, ofCorpora, firstName, secondName, ofFirst.architecture,
    ofSecond.architecture, ofFirst.needed, ofSecond.needed]

/-- With a further rule that is evenhanded, the flags of the status are among those without it. -/
theorem status_of_withholds {partFirst partSecond : Corpus}
    (ofFirst : first.Withholds (rule.withholds first.binary) partFirst)
    (ofSecond : second.Withholds (rule.withholds second.binary) partSecond)
    {suppressions : List Suppression} (evenhanded : Evenhanded suppressions rule first second)
    (options : Options) :
    (ofCorpora first second suppressions options).status.join
        (ofCorpora partFirst partSecond (suppressions ++ [rule]) options).status =
      (ofCorpora first second suppressions options).status := by
  have context : contextOf partFirst (suppressions ++ [rule]) =
      ⟨suppressions ++ [rule], first.binary⟩ :=
    congrArg (Context.mk (suppressions ++ [rule])) ofFirst.binary
  obtain ⟨incompatible, reportable⟩ :=
    status_of_bare ofFirst.wholeBare ofSecond.wholeBare suppressions options
  obtain ⟨incompatibleFurther, reportableFurther⟩ :=
    status_of_bare ofFirst.partBare ofSecond.partBare (suppressions ++ [rule]) options
  rw [context] at incompatibleFurther reportableFurther
  rw [hasBinaryChanges_of_withholds ofFirst ofSecond suppressions] at reportableFurther
  have removals := leavesSymbol_of_further ofFirst ofSecond evenhanded.removals options
  have additions := leavesSymbol_of_further ofSecond ofFirst evenhanded.additions options
  have lessIncompatible :
      (ofCorpora partFirst partSecond (suppressions ++ [rule]) options).isIncompatible = true →
        (ofCorpora first second suppressions options).isIncompatible = true :=
    fun left => incompatible.mpr (removals (incompatibleFurther.mp left))
  have lessReportable :
      (ofCorpora partFirst partSecond (suppressions ++ [rule]) options).isReportable = true →
        (ofCorpora first second suppressions options).isReportable = true :=
    fun left => reportable.mpr
      ((reportableFurther.mp left).imp_right (Or.imp removals additions))
  simp only [status, Status.join, Bool.or_false, Status.mk.injEq, true_and]
  exact ⟨Bool.or_eq_left_iff_imp.mpr lessReportable, Bool.or_eq_left_iff_imp.mpr lessIncompatible⟩

end Difference

namespace Command.Surroundings

open Difference (Evenhanded)

variable (around : Surroundings) (suppressions : List Suppression) (rule : Suppression)

/-- With a further rule a binary can be read as before, but for the symbols that it withholds. -/
theorem corpus_withholds (path : String) :
    (∃ failure, around.corpus suppressions path = .error failure ∧
        around.corpus (suppressions ++ [rule]) path = .error failure) ∨
      ∃ whole part, around.corpus suppressions path = .ok whole ∧
        around.corpus (suppressions ++ [rule]) path = .ok part ∧
        whole.Withholds (rule.withholds whole.binary) part := by
  cases found : around.read path with
  | error reason =>
    have fails (suppressions : List Suppression) :
        around.corpus suppressions path = .error (.unreadable reason) := by
      rw [corpus, found]
      rfl
    exact Or.inl ⟨_, fails _, fails _⟩
  | ok image =>
    have reads (suppressions : List Suppression) : around.corpus suppressions path =
        (Corpus.ofImage path image suppressions).mapError .binary := by
      rw [corpus, found]
      rfl
    rw [reads, reads]
    rcases Corpus.ofImage_withholds path image suppressions rule with
      ⟨error, wholeFails, partFails⟩ | ⟨whole, part, ofWhole, ofPart, withholds⟩
    · rw [wholeFails, partFails]
      exact Or.inl ⟨.binary error, rfl, rfl⟩
    · rw [ofWhole, ofPart]
      exact Or.inr ⟨whole, part, rfl, rfl, withholds⟩

/-- A further rule never makes a comparison report more, provided that it is evenhanded: the comparison
fails as before, or succeeds with no flag of the status that it did not have.

Proof: with the rule both binaries are read as before, but for what it withholds. A symbol that is on one
side only, and not hidden, was so before. -/
theorem difference_further (options : Options) (old new : String)
    (evenhanded : ∀ first second, around.corpus suppressions old = .ok first →
      around.corpus suppressions new = .ok second → Evenhanded suppressions rule first second) :
    (∀ failure, around.difference suppressions options old new = .error failure →
        around.difference (suppressions ++ [rule]) options old new = .error failure) ∧
      ∀ before, around.difference suppressions options old new = .ok before →
        ∃ after, around.difference (suppressions ++ [rule]) options old new = .ok after ∧
          before.status.join after.status = before.status := by
  rw [difference, difference]
  rcases around.corpus_withholds suppressions rule old with
    ⟨failure, fails, furtherFails⟩ | ⟨first, partFirst, readsFirst, readsPartFirst, ofFirst⟩
  · rw [fails, furtherFails]
    refine ⟨fun _ same => same, fun _ impossible => ?_⟩
    cases impossible
  rcases around.corpus_withholds suppressions rule new with
    ⟨failure, fails, furtherFails⟩ | ⟨second, partSecond, readsSecond, readsPartSecond, ofSecond⟩
  · rw [readsFirst, readsPartFirst, fails, furtherFails]
    refine ⟨fun _ same => same, fun _ impossible => ?_⟩
    cases impossible
  rw [readsFirst, readsPartFirst, readsSecond, readsPartSecond]
  constructor
  · intro failure impossible
    cases impossible
  · rintro before ⟨rfl⟩
    exact ⟨_, rfl, Difference.status_of_withholds ofFirst ofSecond
      (evenhanded first second readsFirst readsSecond) options⟩

/-! ## A release in which nothing changed -/

/-- The image of a binary that defines the function `reset` and nothing else. -/
def resetImage : ByteArray := ⟨#[
    -- The header: three sections, described from byte 92 on.
    0x7f, 0x45, 0x4c, 0x46, 1, 1, 1, 0, 0, 0, 0, 0, 0, 0, 0, 0, 3, 0, 3, 0,
    1, 0, 0, 0, 0, 0, 0, 0, 0, 0, 0, 0, 0x5c, 0, 0, 0, 0, 0, 0, 0,
    0x34, 0, 0, 0, 0, 0, 0x28, 0, 3, 0, 2, 0,
    -- The symbols: an empty one and a global function.
    0, 0, 0, 0, 0, 0, 0, 0, 0, 0, 0, 0, 0, 0, 0, 0, 1, 0, 0, 0,
    0, 0x10, 0, 0, 0, 0, 0, 0, 0x12, 0, 1, 0,
    -- The names.
    0, 0x72, 0x65, 0x73, 0x65, 0x74, 0, 0,
    -- The sections: an empty one, the symbols and the names.
    0, 0, 0, 0, 0, 0, 0, 0, 0, 0, 0, 0, 0, 0, 0, 0, 0, 0, 0, 0,
    0, 0, 0, 0, 0, 0, 0, 0, 0, 0, 0, 0, 0, 0, 0, 0, 0, 0, 0, 0,
    0, 0, 0, 0, 2, 0, 0, 0, 0, 0, 0, 0, 0, 0, 0, 0, 0x34, 0, 0, 0,
    0x20, 0, 0, 0, 2, 0, 0, 0, 1, 0, 0, 0, 0, 0, 0, 0, 0x10, 0, 0, 0,
    0, 0, 0, 0, 3, 0, 0, 0, 0, 0, 0, 0, 0, 0, 0, 0, 0x54, 0, 0, 0,
    8, 0, 0, 0, 0, 0, 0, 0, 0, 0, 0, 0, 0, 0, 0, 0, 0, 0, 0, 0]⟩

/-- A release in which nothing changed: the old and the new file are the same. -/
def unchangedRelease : Surroundings where
  lookup _ := none
  read path := if path ∈ ["old.so", "new.so"] then .ok resetImage else .error "no such file"
  isPresent _ := false
  canHold _ := false

/-- A rule that drops the function `reset` of binaries whose paths satisfy a pattern. -/
def droppingReset (path : Pattern) : Suppression :=
  .aboutFunction
    { header := { drops := true, fileName := { only := path } }
      symbolName := { exact := some "reset" } }

/-- A comparison that succeeds, as far as its status shows. -/
theorem exists_of_status {result : Except Failure Difference} {status : Status}
    (found : result.toOption.map Difference.status = some status) :
    ∃ difference, result = .ok difference ∧ difference.status = status := by
  cases result with
  | error failure => contradiction
  | ok difference => exact ⟨difference, rfl, Option.some.inj found⟩

/-- There is nothing to report about the release. -/
theorem status_unchangedRelease : ∃ difference,
    unchangedRelease.difference [] {} "old.so" "new.so" = .ok difference ∧
      difference.status = {} :=
  exists_of_status (by decide +kernel)

/-- All symbols of both files are functions of one name. -/
theorem symbols_unchangedRelease {path : String} (member : path ∈ ["old.so", "new.so"])
    {corpus : Corpus} (reads : unchangedRelease.corpus [] path = .ok corpus) {place : Nat}
    {symbol : Symbol} (held : corpus.table.symbol? place = some symbol) :
    symbol.name = "reset" ∧ symbol.kind = .function := by
  have all : ∀ path ∈ ["old.so", "new.so"], (unchangedRelease.corpus [] path).toOption.all
      (fun corpus => corpus.table.symbols.all fun symbol =>
        symbol.name = "reset" ∧ symbol.kind = .function) = true := by
    decide +kernel
  have these := all path member
  rw [reads, Except.toOption, Option.all_some, Array.all_eq_true_iff_forall_mem] at these
  exact of_decide_eq_true (these symbol (Array.mem_of_getElem? held))

/-- What one file offers is as what the other one offers. -/
theorem offersAlike_unchangedRelease {one other : String} (ofOne : one ∈ ["old.so", "new.so"])
    (ofOther : other ∈ ["old.so", "new.so"]) {here there : Corpus}
    (readsHere : unchangedRelease.corpus [] one = .ok here)
    (readsThere : unchangedRelease.corpus [] other = .ok there) :
    Difference.OffersAlike here there := by
  intro id place _ symbol held counterpart found
  have named : symbol.name = "reset" ∧ symbol.kind = .function :=
    symbols_unchangedRelease ofOne readsHere held
  have likewise : counterpart.name = "reset" ∧ counterpart.kind = .function := by
    rcases found with ⟨other, _, placed⟩ | ⟨other, _, placed⟩
    · exact symbols_unchangedRelease ofOne readsHere placed
    · exact symbols_unchangedRelease ofOther readsThere placed
  simp only [named, likewise, Symbol.isFunction, Symbol.isVariable, and_self]

/-- A rule that drops the function of both files does no harm. -/
theorem difference_further_unchangedRelease : ∃ before after,
    unchangedRelease.difference [] {} "old.so" "new.so" = .ok before ∧
      unchangedRelease.difference ([] ++ [droppingReset Pattern.absent]) {} "old.so" "new.so" =
        .ok after ∧
      before.status.join after.status = before.status := by
  obtain ⟨before, compared, _⟩ := status_unchangedRelease
  have evenhanded (first second : Corpus)
      (readsFirst : unchangedRelease.corpus [] "old.so" = .ok first)
      (readsSecond : unchangedRelease.corpus [] "new.so" = .ok second) :
      Evenhanded [] (droppingReset Pattern.absent) first second := by
    have concerned : (droppingReset Pattern.absent).header.concerns first.binary =
        (droppingReset Pattern.absent).header.concerns second.binary := rfl
    have ofOld : "old.so" ∈ ["old.so", "new.so"] := by decide
    have ofNew : "new.so" ∈ ["old.so", "new.so"] := by decide
    exact .of_concerns concerned
      (offersAlike_unchangedRelease ofOld ofNew readsFirst readsSecond)
      (offersAlike_unchangedRelease ofNew ofOld readsSecond readsFirst) []
  obtain ⟨after, further, fewer⟩ := (unchangedRelease.difference_further []
    (droppingReset Pattern.absent) {} "old.so" "new.so" evenhanded).2 before compared
  exact ⟨before, after, compared, further, fewer⟩

/-- A rule that drops a function of the new file only makes it look as if the function were gone. -/
theorem dropping_reports_more : ∃ before after,
    unchangedRelease.difference [] {} "old.so" "new.so" = .ok before ∧
      unchangedRelease.difference ([] ++ [droppingReset (Pattern.ofText "^new")]) {} "old.so"
        "new.so" = .ok after ∧
      before.status = {} ∧ after.status = { isChanged := true, isIncompatible := true } := by
  obtain ⟨before, compared, unchanged⟩ := status_unchangedRelease
  obtain ⟨after, further, changed⟩ : ∃ difference,
      unchangedRelease.difference ([] ++ [droppingReset (Pattern.ofText "^new")]) {} "old.so"
        "new.so" = .ok difference ∧
      difference.status = { isChanged := true, isIncompatible := true } :=
    exists_of_status (by decide +kernel)
  exact ⟨before, after, compared, further, unchanged, changed⟩

end Command.Surroundings

end Abiscope
