import Abiscope.Corpus.Reading
import Abiscope.Proofs.Drafts

/-!
# Reading with a further rule

Rules that drop things are asked already when a binary is read, and then they suppress symbols by name.
Nothing else about a corpus depends on rules: neither the symbols and their places and addresses, nor
what the binary tells about itself, nor whether it can be read at all. So with one more rule a binary is
read as before, but for the symbols that this rule withholds. These are no longer offered.
-/

namespace Abiscope

/-- A symbol that is suppressed also if it is withheld. -/
def Symbol.withhold (withheld : Symbol → Bool) (symbol : Symbol) : Symbol :=
  { symbol with isSuppressed := symbol.isSuppressed || withheld symbol }

/-- Whether a rule, asked when a binary is read, suppresses a symbol of it. -/
def Suppression.withholds (rule : Suppression) (binary : Suppression.Binary) (symbol : Symbol) : Bool :=
  (⟨Corpus.dropping [rule], binary⟩ : Suppression.Context).suppressesSymbol symbol.name symbol.kind

/-- Whether a rule is about symbols of this sort and accepts the name. -/
def Suppression.picks (rule : Suppression) (symbol : Symbol) : Bool :=
  match rule with
  | aboutFunction rule =>
    symbol.isFunction && (symbol.name != "" && rule.symbolName.accepts symbol.name)
  | aboutVariable rule =>
    symbol.isVariable && (symbol.name != "" && rule.symbolName.accepts symbol.name)
  | aboutType _ => false

/-- A rule withholds the symbols that it picks, if it drops things and is for the binary. -/
theorem Suppression.withholds_eq (rule : Suppression) (binary : Suppression.Binary)
    (symbol : Symbol) :
    rule.withholds binary symbol =
      (rule.header.drops && rule.header.concerns binary && rule.picks symbol) := by
  simp only [withholds, Corpus.dropping, List.filter_singleton, Context.suppressesSymbol,
    Context.suppressesFunction, Context.suppressesVariable, Context.functionRules,
    Context.variableRules]
  cases drops : rule.header.drops with
  | false => simp
  | true =>
    cases rule with
    | aboutFunction rule =>
      cases sort : symbol.kind.isFunction <;>
        simp [functionRule?, variableRule?, Context.counts, Context.acceptsEither, picks, header,
          Symbol.isFunction, sort]
    | aboutVariable rule =>
      cases sort : symbol.kind.isFunction with
      | false =>
        cases held : symbol.kind.isVariable <;>
          simp [variableRule?, Context.counts, Context.acceptsEither, picks, header,
            Symbol.isVariable, held]
      | true =>
        simp [functionRule?, picks, Symbol.isVariable, Symbol.Kind.isVariable_of_isFunction sort]
    | aboutType rule => simp [functionRule?, variableRule?, picks]

/-- A rule withholds alike what goes by one name and is of one sort, if it is for both binaries or for
neither. -/
theorem Suppression.withholds_congr {rule : Suppression} {one other : Suppression.Binary}
    (concerned : rule.header.concerns one = rule.header.concerns other) {symbol counterpart : Symbol}
    (alike : symbol.name = counterpart.name ∧ symbol.isFunction = counterpart.isFunction ∧
      symbol.isVariable = counterpart.isVariable) :
    rule.withholds one symbol = rule.withholds other counterpart := by
  obtain ⟨names, sort, otherSort⟩ := alike
  rw [withholds_eq, withholds_eq, concerned]
  cases rule <;> simp only [picks, names, sort, otherSort]

/-- The names by which rules ask for the binary of a corpus. -/
def Corpus.binary (corpus : Corpus) : Suppression.Binary := ⟨corpus.soname, corpus.path⟩

/-! ## Tables -/

namespace Symbol.Table

/-- A table is another one, in which some symbols are withheld. -/
structure Withholds (withheld : Symbol → Bool) (whole part : Table) : Prop where
  symbols : part.symbols = whole.symbols.map (Symbol.withhold withheld)
  aliasIndex : part.aliasIndex = whole.aliasIndex
  flavor : part.flavor = whole.flavor
  wholeLists : whole.ListsUnsuppressed
  partLists : part.ListsUnsuppressed

/-- Whether symbols are suppressed does not matter for where they are. -/
theorem map_address_withhold (withheld : Symbol → Bool) (symbols : List Symbol) :
    (symbols.map (Symbol.withhold withheld)).map Symbol.address = symbols.map Symbol.address := by
  rw [List.map_map]
  rfl

/-- Exports are marked alike whether or not further symbols are suppressed by name and kind. -/
theorem markExports_withhold {withheld : Symbol → Bool}
    (byName : ∀ one other : Symbol, one.name = other.name → one.kind = other.kind →
      withheld one = withheld other) (exports : List String) (symbol : Symbol) (suppressed : Bool) :
    markExports exports { symbol with isSuppressed := suppressed || withheld symbol } =
      Symbol.withhold withheld (markExports exports { symbol with isSuppressed := suppressed }) := by
  have exported (flag : Bool) : markExports exports { symbol with isSuppressed := flag } =
      { symbol with
        isSuppressed := flag
        isExported := (symbol.isPublic && exports.contains symbol.name) || symbol.isExported } := by
    rw [markExports]
    change (if (symbol.isPublic && exports.contains symbol.name) = true then _ else _) = _
    cases symbol.isPublic && exports.contains symbol.name <;> rfl
  rw [exported, exported, Symbol.withhold]
  congr 1
  exact congrArg _ (byName _ _ rfl rfl)

/-- Whether entries make a table does not depend on what is suppressed, and suppressing further symbols by
name and kind withholds these. -/
theorem ofEntries_withholds (entries : List Entry) (flavor : Flavor) (suppresses : Symbol → Bool)
    {withheld : Symbol → Bool}
    (byName : ∀ one other : Symbol, one.name = other.name → one.kind = other.kind →
      withheld one = withheld other) :
    (∃ error, ofEntries entries flavor suppresses = .error error ∧
        ofEntries entries flavor (fun symbol => suppresses symbol || withheld symbol) =
          .error error) ∨
      ∃ whole part, ofEntries entries flavor suppresses = .ok whole ∧
        ofEntries entries flavor (fun symbol => suppresses symbol || withheld symbol) = .ok part ∧
        Withholds withheld whole part := by
  by_cases distinct : (markersOf flavor entries).Nodup
  · refine Or.inr ⟨_, _, ofEntries_of_nodup suppresses distinct, ofEntries_of_nodup _ distinct, ?_⟩
    have marked : Entry.recorded (markersOf flavor entries)
        (fun symbol => suppresses symbol || withheld symbol) =
          fun entry => Symbol.withhold withheld
            (Entry.recorded (markersOf flavor entries) suppresses entry) := by
      funext entry
      rw [Entry.recorded, Entry.added, byName { entry.toSymbol with address := none } entry.toSymbol rfl rfl]
      exact markExports_withhold byName _ entry.toSymbol _
    refine ⟨?_, ?_, rfl, listsUnsuppressed_ofSymbols _ Symbol.name,
      listsUnsuppressed_ofSymbols _ Symbol.name⟩
    · simp only [ofSymbols, marked, List.map_toArray, List.map_map, Function.comp_def]
    · simp only [ofSymbols, marked, ← List.map_map, ← Function.comp_def, map_address_withhold]
  · obtain ⟨name, ends⟩ := exists_ofEntries_eq_error distinct
    exact Or.inl ⟨_, ends _, ends _⟩

end Symbol.Table

/-- Whether the symbols of a binary can be read does not depend on what is suppressed, and suppressing
further symbols by name and kind withholds these. -/
theorem Elf.symbolTable_withholds (image : ByteArray) (suppresses : Symbol → Bool)
    {withheld : Symbol → Bool}
    (byName : ∀ one other : Symbol, one.name = other.name → one.kind = other.kind →
      withheld one = withheld other) :
    (∃ error, Elf.symbolTable image suppresses = .error error ∧
        Elf.symbolTable image (fun symbol => suppresses symbol || withheld symbol) = .error error) ∨
      ∃ whole part, Elf.symbolTable image suppresses = .ok whole ∧
        Elf.symbolTable image (fun symbol => suppresses symbol || withheld symbol) = .ok part ∧
        Symbol.Table.Withholds withheld whole part := by
  simp only [Elf.symbolTable, bind, Except.bind]
  cases layoutOf image with
  | error error => exact Or.inl ⟨error, rfl, rfl⟩
  | ok layout =>
    obtain ⟨header, sections⟩ := layout
    dsimp only
    cases entriesOf header image sections with
    | error error => exact Or.inl ⟨error, rfl, rfl⟩
    | ok found =>
      obtain ⟨entries, flavor⟩ := found
      dsimp only
      rcases Symbol.Table.ofEntries_withholds entries flavor suppresses byName with
        ⟨error, wholeFails, partFails⟩ | ⟨whole, part, ofWhole, ofPart, withholds⟩
      · exact Or.inl ⟨.invalidEntries error, by rw [wholeFails]; rfl, by rw [partFails]; rfl⟩
      · exact Or.inr ⟨whole, part, by rw [ofWhole]; rfl, by rw [ofPart]; rfl, withholds⟩

/-! ## Corpora -/

namespace Corpus

/-- A corpus without declarations is another one, in which some symbols are withheld. -/
structure Withholds (withheld : Symbol → Bool) (whole part : Corpus) : Prop where
  binary : part.binary = whole.binary
  architecture : part.architecture = whole.architecture
  needed : part.needed = whole.needed
  table : whole.table.Withholds withheld part.table
  wholeBare : whole.functions = [] ∧ whole.globals = []
  partBare : part.functions = [] ∧ part.globals = []

/-- With one more rule that drops things, the symbols that it withholds are suppressed as well. -/
theorem suppressesSymbol_append (suppressions : List Suppression) (rule : Suppression)
    (binary : Suppression.Binary) (symbol : Symbol) :
    (⟨dropping (suppressions ++ [rule]), binary⟩ : Suppression.Context).suppressesSymbol symbol.name
        symbol.kind =
      ((⟨dropping suppressions, binary⟩ : Suppression.Context).suppressesSymbol symbol.name
        symbol.kind || rule.withholds binary symbol) := by
  simp only [Suppression.withholds, Suppression.Context.suppressesSymbol,
    Suppression.Context.suppressesFunction, Suppression.Context.suppressesVariable,
    Suppression.Context.functionRules, Suppression.Context.variableRules, dropping,
    List.filter_append, List.filterMap_append, List.any_append]
  cases symbol.kind.isFunction <;> cases symbol.kind.isVariable <;> rfl

/-- Whether a binary can be read does not depend on rules, and a further rule withholds symbols. -/
theorem ofImage_withholds (path : String) (image : ByteArray) (suppressions : List Suppression)
    (rule : Suppression) :
    (∃ error, ofImage path image suppressions = .error error ∧
        ofImage path image (suppressions ++ [rule]) = .error error) ∨
      ∃ whole part, ofImage path image suppressions = .ok whole ∧
        ofImage path image (suppressions ++ [rule]) = .ok part ∧
        whole.Withholds (rule.withholds whole.binary) part := by
  simp only [ofImage, bind, Except.bind]
  cases Elf.identity image with
  | error error => exact Or.inl ⟨error, rfl, rfl⟩
  | ok identity =>
    let binary : Suppression.Binary := ⟨identity.dynamic.soname.getD "", path⟩
    have further := funext fun symbol => suppressesSymbol_append suppressions rule binary symbol
    have byName (one other : Symbol) (names : one.name = other.name) (kinds : one.kind = other.kind) :
        rule.withholds binary one = rule.withholds binary other := by
      rw [Suppression.withholds, Suppression.withholds, names, kinds]
    dsimp only
    rcases Elf.symbolTable_withholds image
      (fun symbol => (⟨dropping suppressions, binary⟩ : Suppression.Context).suppressesSymbol
        symbol.name symbol.kind) byName with
      ⟨error, wholeFails, partFails⟩ | ⟨whole, part, ofWhole, ofPart, withholds⟩
    · exact Or.inl ⟨error, by rw [wholeFails], by rw [further, partFails]⟩
    · refine Or.inr ⟨_, _, by rw [ofWhole]; rfl, by rw [further, ofPart]; rfl, ?_⟩
      exact ⟨rfl, rfl, rfl, withholds, ⟨rfl, rfl⟩, rfl, rfl⟩

/-! ## What is withheld is not offered -/

namespace Withholds

variable {withheld : Symbol → Bool} {whole part : Corpus}

/-- Every symbol keeps its place. -/
theorem symbol? (withholds : whole.Withholds withheld part) (place : Nat) :
    part.table.symbol? place = (whole.table.symbol? place).map (Symbol.withhold withheld) := by
  rw [Symbol.Table.symbol?, Symbol.Table.symbol?, withholds.table.symbols, Array.getElem?_map]

/-- A symbol has the same aliases. -/
theorem aliasNames (withholds : whole.Withholds withheld part) (id : Option Nat) :
    (Side.ofCorpus part).aliasNames id = (Side.ofCorpus whole).aliasNames id := by
  cases id with
  | none => rfl
  | some id =>
    have aliases : part.table.aliases id = whole.table.aliases id := by
      rw [Symbol.Table.aliases, Symbol.Table.aliases, withholds.table.aliasIndex]
    change (part.table.aliases id).filterMap _ = (whole.table.aliases id).filterMap _
    rw [aliases]
    refine List.filterMap_congr fun other _ => ?_
    change (part.table.symbol? other).map _ = (whole.table.symbol? other).map _
    rw [withholds.symbol?, Option.map_map]
    rfl

/-- What is offered is what was offered before, without what is withheld. -/
theorem offeredUnder (withholds : whole.Withholds withheld part) (id : String) :
    part.offeredUnder id = (whole.offeredUnder id).filter fun place =>
      !(whole.table.symbol? place).any withheld := by
  have size : part.table.symbols.size = whole.table.symbols.size := by
    rw [withholds.table.symbols, Array.size_map]
  have interface : part.table.interface = whole.table.interface := by
    rw [Symbol.Table.interface, Symbol.Table.interface, withholds.table.flavor]
  rw [offeredUnder_eq_filter withholds.table.wholeLists,
    offeredUnder_eq_filter withholds.table.partLists, size, List.filter_filter]
  refine List.filter_congr fun place _ => ?_
  rw [withholds.symbol?]
  cases whole.table.symbol? place with
  | none => rfl
  | some symbol =>
    rw [Option.map_some, Option.any_some, Option.any_some, Option.any_some, offers, offers, interface,
      Symbol.withhold]
    change (!(symbol.isSuppressed || withheld symbol) && whole.table.interface.accepts symbol &&
      symbol.idString == id) = _
    rw [Bool.not_or, Bool.and_comm (!symbol.isSuppressed), Bool.and_assoc, Bool.and_assoc, Bool.and_assoc]

/-- What is offered still was offered before, and is not withheld. -/
theorem offered_of_offered (withholds : whole.Withholds withheld part) {id : String} {place : Nat}
    {symbol : Symbol} (offered : place ∈ part.offeredUnder id)
    (held : part.table.symbol? place = some symbol) :
    place ∈ whole.offeredUnder id ∧ whole.table.symbol? place = some symbol ∧
      withheld symbol = false := by
  rw [withholds.offeredUnder, List.mem_filter, Bool.not_eq_true'] at offered
  rw [withholds.symbol?] at held
  obtain ⟨original, placed, rfl⟩ := Option.map_eq_some_iff.mp held
  rw [placed, Option.any_some] at offered
  have same : Symbol.withhold withheld original = original := by
    rw [Symbol.withhold, offered.2, Bool.or_false]
  rw [same]
  exact ⟨offered.1, placed, offered.2⟩

/-- Where nothing is withheld, everything is offered still. -/
theorem offeredUnder_eq (withholds : whole.Withholds withheld part) (id : String)
    (none : ∀ place ∈ whole.offeredUnder id, ¬(whole.table.symbol? place).any withheld = true) :
    part.offeredUnder id = whole.offeredUnder id := by
  rw [withholds.offeredUnder, List.filter_eq_self]
  intro place member
  rw [Bool.not_eq_true', ← Bool.not_eq_true]
  exact none place member

end Withholds

end Corpus

end Abiscope
