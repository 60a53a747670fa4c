import Abiscope.Mangling.Punycode
import Abiscope.Text.Escape
import Abiscope.Text.Utf8

/-!
# Names mangled by grammar

The newer mangling is a prefix code: every path, type and constant opens with a letter that says which
kind it is, and a part that occurred before is written as the place where it began. Printing follows
the code from left to right.

A name is accepted when its path, and the path of the crate that instantiated it, can be followed to
the end with the output muted. A muted run does not look behind back references, so what stands there
can still be faulty when the name is printed; the fault is then shown in place, and a question mark
stands for every part that can no longer be read.

Nesting is limited to `maxDepth` levels and the printed text to `maxSize` bytes, which ends names whose
back references multiply without end.
-/

namespace Abiscope.Mangling.V0

/-- Paths, types and constants nest at most this deep. -/
def maxDepth : Nat := 500

/-- The printed name has at most this many bytes. -/
def maxSize : Nat := 1000000

/-- Why a name cannot be followed further. -/
inductive Fault where
  | malformed
  | tooDeep
deriving DecidableEq, Repr

/-- What is shown where the fault is met. -/
def Fault.message : Fault → String
  | .malformed => "\x7binvalid syntax\x7d"
  | .tooDeep => "\x7brecursion limit reached\x7d"

/-- A place in the mangled text and the number of levels around it. -/
structure Cursor where
  position : Nat
  rest : List Char
  depth : Nat

/-- Steps that read the mangled text, which is at hand as a whole for back references. -/
abbrev Reader := ReaderT (List Char) (StateT Cursor (Except Fault))

namespace Reader

def refuse {α : Type} : Reader α := fun _ _ => .error .malformed

/-- Moves over characters that have been read. -/
def advance (count : Nat) : Reader Unit :=
  modify fun cursor =>
    { cursor with position := cursor.position + count, rest := cursor.rest.drop count }

/-- Enters a level. -/
def enter : Reader Unit := fun _ cursor =>
  if cursor.depth < maxDepth then .ok ((), { cursor with depth := cursor.depth + 1 })
  else .error .tooDeep

/-- Moves over a character if it is the expected one. -/
def skip (expected : Char) : Reader Bool := do
  if (← get).rest.head? == some expected then
    advance 1
    return true
  else return false

/-- The next character. -/
def next : Reader Char := do
  match (← get).rest with
  | [] => refuse
  | c :: _ =>
    advance 1
    return c

/-- A number that fits into a word. -/
def word (value : Nat) : Reader Nat := if value < UInt64.size then pure value else refuse

/-- Lower case hexadecimal digits up to an underscore. -/
def hexDigits : Reader (List Char) := do
  let rest := (← get).rest
  let digits := rest.takeWhile fun c => c.isDigit || ('a' ≤ c && c ≤ 'f')
  if rest[digits.length]? == some '_' then
    advance (digits.length + 1)
    return digits
  else refuse

/-- The value of a digit in base 62: decimal digits, lower case letters, upper case letters. -/
def digit62? (c : Char) : Option Nat :=
  if c.isDigit then some (c.toNat - '0'.toNat)
  else if c.isLower then some (10 + (c.toNat - 'a'.toNat))
  else if c.isUpper then some (36 + (c.toNat - 'A'.toNat))
  else none

/-- A number in base 62 up to an underscore. No digits mean zero, and digits one more than their
value. -/
def number : Reader Nat := do
  let rest := (← get).rest
  let digits := rest.takeWhile fun c => (digit62? c).isSome
  if rest[digits.length]? != some '_' then refuse
  advance (digits.length + 1)
  if digits.isEmpty then return 0
  word (digits.foldl (fun value c => value * 62 + (digit62? c).getD 0) 0 + 1)

/-- A number behind its mark: zero without the mark, one more than the number with it. -/
def optionalNumber (mark : Char) : Reader Nat := do
  if ← skip mark then word ((← number) + 1) else return 0

/-- What tells apart definitions of one name. -/
def disambiguator : Reader Nat := optionalNumber 's'

/-- The kind of a nested name: a letter for special ones, nothing for ordinary ones. -/
def nameKind : Reader (Option Char) := do
  let c ← next
  if c.isUpper then return some c
  else if c.isLower then return none
  else refuse

/-- The place that a back reference, whose letter has been read, points to. It lies before the letter
and one level deeper. -/
def backReference : Reader Cursor := do
  let start := (← get).position - 1
  let target ← number
  if target ≥ start then refuse
  let cursor : Cursor := ⟨target, (← read).drop target, (← get).depth⟩
  match enter (← read) cursor with
  | .ok (_, cursor) => return cursor
  | .error fault => throw fault

end Reader

/-- An identifier: its ASCII characters, and the digits that insert the others. -/
structure Identifier where
  ascii : List Char
  digits : List Char

namespace Identifier

def isEmpty (identifier : Identifier) : Bool := identifier.ascii.isEmpty && identifier.digits.isEmpty

/-- The pieces in which an identifier is printed. One that cannot be decoded is shown encoded. -/
def pieces (identifier : Identifier) : List String :=
  match Punycode.decode identifier.ascii identifier.digits with
  | some text => text.map String.singleton
  | none =>
    if identifier.digits.isEmpty then [String.ofList identifier.ascii]
    else
      ["punycode\x7b"] ++
        (if identifier.ascii.isEmpty then [] else [String.ofList identifier.ascii, "-"]) ++
        [String.ofList identifier.digits, "\x7d"]

/-- Splits encoded text at its last underscore. -/
def ofEncoded (text : List Char) : Identifier :=
  if text.contains '_' then
    let digits := (text.reverse.takeWhile (· != '_')).reverse
    ⟨text.take (text.length - digits.length - 1), digits⟩
  else ⟨[], text⟩

end Identifier

/-- An identifier behind its length. A length of zero is a single digit, and an underscore may separate
the length from a text that opens with a digit or an underscore. -/
def Reader.identifier : Reader Identifier := do
  let encoded ← skip 'u'
  let rest := (← get).rest
  let digits := match rest with
    | '0' :: _ => ['0']
    | _ => rest.takeWhile Char.isDigit
  if digits.isEmpty then refuse
  let length ← word (Nat.ofDigitChars 10 digits 0)
  advance digits.length
  let _ ← skip '_'
  let cursor ← get
  let _ ← word (cursor.position + length)
  if cursor.rest.length < length then refuse
  advance length
  let text := cursor.rest.take length
  if encoded then
    let identifier := Identifier.ofEncoded text
    if identifier.digits.isEmpty then refuse
    return identifier
  else return ⟨text, []⟩

/-- The state of printing: where to read on, unless a fault was met; whether output is muted; how many
lifetimes are bound around this place; the text so far and the room for more. -/
structure Printer where
  cursor : Except Fault Cursor
  muted : Bool
  bound : Nat
  written : String
  room : Nat

/-- Printing stops as soon as a piece does not fit. -/
inductive Stop where
  | outOfRoom

/-- Steps that print. What was printed before a stop is kept. -/
abbrev Print := ReaderT (List Char) (EStateM Stop Printer)

/-- Prints a piece. -/
def emit (text : String) : Print Unit := do
  let printer ← get
  unless printer.muted do
    if text.utf8ByteSize ≤ printer.room then
      set { printer with written := printer.written ++ text, room := printer.room - text.utf8ByteSize }
    else throw .outOfRoom

def emitAll (pieces : List String) : Print Unit := pieces.forM emit

/-- Shows a fault and reads no further. -/
def fail (fault : Fault) : Print Unit := do
  emit fault.message
  modify fun printer => { printer with cursor := .error fault }

/-- Reads from the mangled text. A fault is shown where it is met, and a question mark afterwards. -/
def parse {α : Type} (step : Reader α) : Print (Option α) := do
  match (← get).cursor with
  | .error _ =>
    emit "?"
    return none
  | .ok cursor =>
    match step (← read) cursor with
    | .error fault =>
      fail fault
      return none
    | .ok (value, cursor) =>
      modify fun printer => { printer with cursor := .ok cursor }
      return some value

/-- Moves over a character if it is the expected one and no fault was met. -/
def accept (expected : Char) : Print Bool := do
  match (← get).cursor with
  | .error _ => return false
  | .ok cursor =>
    match Reader.skip expected (← read) cursor with
    | .error _ => return false
    | .ok (found, cursor) =>
      modify fun printer => { printer with cursor := .ok cursor }
      return found

/-- Leaves a level. -/
def leave : Print Unit :=
  modify fun printer =>
    { printer with cursor := printer.cursor.map fun cursor => { cursor with depth := cursor.depth - 1 } }

/-- Runs a step without output. -/
def mute (step : Print Unit) : Print Unit := do
  let muted := (← get).muted
  modify fun printer => { printer with muted := true }
  step
  modify fun printer => { printer with muted := muted }

/-- Prints what a back reference points to, then reads on behind the reference. Muted steps only pass
over the reference. -/
def behindReference {α : Type} (default : α) (step : Print α) : Print α := do
  let some target ← parse Reader.backReference | return default
  if (← get).muted then return default
  let here := (← get).cursor
  modify fun printer => { printer with cursor := .ok target }
  let value ← step
  modify fun printer => { printer with cursor := here }
  return value

/-- Prints elements up to the closing letter and tells how many there were. Each element reads a
character or meets a fault, so as many rounds as characters are left are enough. -/
def separated (separator : String) (element : Print Unit) : (rounds printed : Nat) → Print Nat
  | 0, printed => return printed
  | rounds + 1, printed => do
    match (← get).cursor with
    | .error _ => return printed
    | .ok _ =>
      if ← accept 'E' then return printed
      if printed > 0 then emit separator
      element
      separated separator element rounds (printed + 1)

/-- The number of rounds that a list at this place can take. -/
def roundsLeft : Print Nat := do
  match (← get).cursor with
  | .error _ => return 1
  | .ok cursor => return cursor.rest.length + 1

/-- Prints a list up to its closing letter. -/
def list (separator : String) (element : Print Unit) : Print Nat := do
  separated separator element (← roundsLeft) 0

/-- Prints a lifetime by its distance from the innermost bound one. Letters come first, then numbers;
zero is an elided lifetime. -/
def lifetime (index : Nat) : Print Unit := do
  unless (← get).muted do
    emit "'"
    if index == 0 then emit "_"
    else
      let bound := (← get).bound
      if bound < index then fail .malformed
      else if bound - index < 26 then
        emit (String.singleton (Char.ofNat ('a'.toNat + (bound - index))))
      else
        emit "_"
        emit (toString (bound - index))

/-- Binds lifetimes and prints their names. -/
def bindLifetimes : (count : Nat) → (first : Bool) → Print Unit
  | 0, _ => return ()
  | count + 1, first => do
    unless first do emit ", "
    modify fun printer => { printer with bound := printer.bound + 1 }
    lifetime 1
    bindLifetimes count false

/-- Runs a step inside a binder, if there is one here. -/
def insideBinder (step : Print Unit) : Print Unit := do
  let some count ← parse (Reader.optionalNumber 'G') | return ()
  if (← get).muted then step
  else
    if count > 0 then
      emit "for<"
      bindLifetimes count true
      emit "> "
    step
    modify fun printer => { printer with bound := printer.bound - count }

/-- The types written as a single letter. -/
def basicType? : Char → Option String
  | 'b' => some "bool"
  | 'c' => some "char"
  | 'e' => some "str"
  | 'u' => some "()"
  | 'a' => some "i8"
  | 's' => some "i16"
  | 'l' => some "i32"
  | 'x' => some "i64"
  | 'n' => some "i128"
  | 'i' => some "isize"
  | 'h' => some "u8"
  | 't' => some "u16"
  | 'm' => some "u32"
  | 'y' => some "u64"
  | 'o' => some "u128"
  | 'j' => some "usize"
  | 'f' => some "f32"
  | 'd' => some "f64"
  | 'z' => some "!"
  | 'p' => some "_"
  | 'v' => some "..."
  | _ => none

/-- The value of digits that fit into a word. -/
def wordOfHex? (digits : List Char) : Option Nat :=
  let digits := digits.dropWhile (· == '0')
  if digits.length > 16 then none
  else some (digits.foldl (fun value c => value * 16 + (Text.hexValue? c).getD 0) 0)

/-- The bytes that pairs of digits stand for. -/
def bytesOfHex? : List Char → Option (List UInt8)
  | [] => some []
  | [_] => none
  | high :: low :: rest =>
    let byte := (Text.hexValue? high).getD 0 * 16 + (Text.hexValue? low).getD 0
    (bytesOfHex? rest).map (UInt8.ofNat byte :: ·)

/-- Prints characters between quotes. The other kind of quote is not escaped. -/
def quoted (quote : Char) (text : List Char) : Print Unit := do
  emit (String.singleton quote)
  for c in text do
    if (c == '"' || c == '\'') && c != quote then emit (String.singleton c)
    else emitAll ((Text.escape c).map String.singleton)
  emit (String.singleton quote)

/-- Prints an unsigned constant. One that does not fit into a word stays hexadecimal. -/
def unsignedConstant : Print Unit := do
  let some digits ← parse Reader.hexDigits | return ()
  match wordOfHex? digits with
  | some value => emit (toString value)
  | none =>
    emit "0x"
    emit (String.ofList digits)

/-- Prints a string constant. -/
def textConstant : Print Unit := do
  let some digits ← parse Reader.hexDigits | return ()
  match (bytesOfHex? digits).bind Text.Utf8.decode? with
  | some text => quoted '"' text
  | none => fail .malformed

/-- Puts the text back before a character that was read. -/
def putBack (c : Char) : Print Unit :=
  modify fun printer =>
    { printer with cursor := printer.cursor.map fun cursor =>
        { cursor with position := cursor.position - 1, rest := c :: cursor.rest } }

/-- Prints the calling convention of a function type, in which underscores stand for hyphens. -/
def convention (name : List Char) : Print Unit := do
  emit "extern \""
  match (String.ofList name).splitOn "_" with
  | [] => return ()
  | first :: others =>
    emit first
    for part in others do
      emit "-"
      emit part
  emit "\" "

/-- Calls between two levels are few, so this many nested calls are never used up. -/
def callLimit : Nat := 8 * (maxDepth + 2)

mutual

/-- Prints a path. Inside an expression, generic arguments follow a double colon. -/
def path (calls : Nat) (inValue : Bool) : Print Unit := do
  match calls with
  | 0 => fail .tooDeep
  | calls + 1 =>
    let some _ ← parse Reader.enter | return ()
    let some tag ← parse Reader.next | return ()
    match tag with
    | 'C' =>
      let some _ ← parse Reader.disambiguator | return ()
      let some name ← parse Reader.identifier | return ()
      emitAll name.pieces
    | 'N' =>
      let some kind ← parse Reader.nameKind | return ()
      path calls inValue
      if (← get).cursor matches .error _ then emit "::"
      let some index ← parse Reader.disambiguator | return ()
      let some name ← parse Reader.identifier | return ()
      match kind with
      | some kind =>
        emit "::\x7b"
        match kind with
        | 'C' => emit "closure"
        | 'S' => emit "shim"
        | other => emit (String.singleton other)
        unless name.isEmpty do
          emit ":"
          emitAll name.pieces
        emit "#"
        emit (toString index)
        emit "\x7d"
      | none =>
        unless name.isEmpty do
          emit "::"
          emitAll name.pieces
    | 'M' | 'X' | 'Y' =>
      if tag != 'Y' then
        let some _ ← parse Reader.disambiguator | return ()
        mute (path calls false)
      emit "<"
      type calls
      if tag != 'M' then
        emit " as "
        path calls false
      emit ">"
    | 'I' =>
      path calls inValue
      if inValue then emit "::"
      emit "<"
      let _ ← list ", " (genericArgument calls)
      emit ">"
    | 'B' => behindReference () (path calls inValue)
    | _ =>
      fail .malformed
      return ()
    leave

/-- Prints a generic argument: a lifetime, a constant or a type. -/
def genericArgument (calls : Nat) : Print Unit := do
  match calls with
  | 0 => fail .tooDeep
  | calls + 1 =>
    if ← accept 'L' then
      let some index ← parse Reader.number | return ()
      lifetime index
    else if ← accept 'K' then constant calls false
    else type calls

/-- Prints a type. -/
def type (calls : Nat) : Print Unit := do
  match calls with
  | 0 => fail .tooDeep
  | calls + 1 =>
    let some tag ← parse Reader.next | return ()
    if let some name := basicType? tag then
      emit name
      return ()
    let some _ ← parse Reader.enter | return ()
    match tag with
    | 'R' | 'Q' =>
      emit "&"
      if ← accept 'L' then
        let some index ← parse Reader.number | return ()
        if index != 0 then
          lifetime index
          emit " "
      if tag != 'R' then emit "mut "
      type calls
    | 'P' | 'O' =>
      emit "*"
      emit (if tag == 'P' then "const " else "mut ")
      type calls
    | 'A' | 'S' =>
      emit "["
      type calls
      if tag == 'A' then
        emit "; "
        constant calls true
      emit "]"
    | 'T' =>
      emit "("
      let count ← list ", " (type calls)
      if count == 1 then emit ","
      emit ")"
    | 'F' => insideBinder (functionType calls)
    | 'D' =>
      emit "dyn "
      insideBinder do
        let _ ← list " + " (boundTrait calls)
      unless ← accept 'L' do
        fail .malformed
        return ()
      let some index ← parse Reader.number | return ()
      if index != 0 then
        emit " + "
        lifetime index
    | 'B' => behindReference () (type calls)
    | 'W' =>
      type calls
      emit " is "
      pattern calls
    | _ =>
      putBack tag
      path calls false
    leave

/-- Prints a function type behind its binder. -/
def functionType (calls : Nat) : Print Unit := do
  match calls with
  | 0 => fail .tooDeep
  | calls + 1 =>
    let isUnsafe ← accept 'U'
    let mut named : Option (List Char) := none
    if ← accept 'K' then
      if ← accept 'C' then named := some ['C']
      else
        let some identifier ← parse Reader.identifier | return ()
        if identifier.ascii.isEmpty || !identifier.digits.isEmpty then
          fail .malformed
          return ()
        named := some identifier.ascii
    if isUnsafe then emit "unsafe "
    if let some name := named then convention name
    emit "fn("
    let _ ← list ", " (type calls)
    emit ")"
    unless ← accept 'u' do
      emit " -> "
      type calls

/-- Prints the path of a trait and tells whether its generic arguments were left open. -/
def openPath (calls : Nat) : Print Bool := do
  match calls with
  | 0 =>
    fail .tooDeep
    return false
  | calls + 1 =>
    if ← accept 'B' then behindReference false (openPath calls)
    else if ← accept 'I' then
      path calls false
      emit "<"
      let _ ← list ", " (genericArgument calls)
      return true
    else
      path calls false
      return false

/-- Prints bindings of associated types, each behind a letter, and tells whether any bracket is open.
Each binding reads a character, so as many rounds as characters are left are enough. -/
def bindings (calls rounds : Nat) (isOpen : Bool) : Print (Option Bool) := do
  match calls, rounds with
  | calls + 1, rounds + 1 =>
    if ← accept 'p' then
      emit (if isOpen then ", " else "<")
      let some name ← parse Reader.identifier | return none
      emitAll name.pieces
      emit " = "
      type calls
      bindings calls rounds true
    else return some isOpen
  | _, _ => return some isOpen

/-- Prints a trait of a trait object. -/
def boundTrait (calls : Nat) : Print Unit := do
  match calls with
  | 0 => fail .tooDeep
  | calls + 1 =>
    let isOpen ← openPath calls
    let some isOpen ← bindings calls (← roundsLeft) isOpen | return ()
    if isOpen then emit ">"

/-- Prints a constant. Outside an expression, all but plain literals stand in braces. -/
def constant (calls : Nat) (inValue : Bool) : Print Unit := do
  match calls with
  | 0 => fail .tooDeep
  | calls + 1 =>
    let some tag ← parse Reader.next | return ()
    let some _ ← parse Reader.enter | return ()
    let isText ← if tag == 'R' then accept 'e' else pure false
    let braced := !inValue && !isText && ['e', 'R', 'Q', 'A', 'T', 'V'].contains tag
    if braced then emit "\x7b"
    match tag with
    | 'p' => emit "_"
    | 'h' | 't' | 'm' | 'y' | 'o' | 'j' => unsignedConstant
    | 'a' | 's' | 'l' | 'x' | 'n' | 'i' =>
      if ← accept 'n' then emit "-"
      unsignedConstant
    | 'b' =>
      let some digits ← parse Reader.hexDigits | return ()
      match wordOfHex? digits with
      | some 0 => emit "false"
      | some 1 => emit "true"
      | _ =>
        fail .malformed
        return ()
    | 'c' =>
      let some digits ← parse Reader.hexDigits | return ()
      match (wordOfHex? digits).bind Punycode.char? with
      | some c => quoted '\'' [c]
      | none =>
        fail .malformed
        return ()
    | 'e' =>
      emit "*"
      textConstant
    | 'R' | 'Q' =>
      if isText then textConstant
      else
        emit "&"
        if tag != 'R' then emit "mut "
        constant calls true
    | 'A' =>
      emit "["
      let _ ← list ", " (constant calls true)
      emit "]"
    | 'T' =>
      emit "("
      let count ← list ", " (constant calls true)
      if count == 1 then emit ","
      emit ")"
    | 'V' =>
      path calls true
      let some shape ← parse Reader.next | return ()
      match shape with
      | 'U' => pure ()
      | 'T' =>
        emit "("
        let _ ← list ", " (constant calls true)
        emit ")"
      | 'S' =>
        emit " \x7b "
        let _ ← list ", " (field calls)
        emit " \x7d"
      | _ =>
        fail .malformed
        return ()
    | 'B' => behindReference () (constant calls inValue)
    | _ =>
      fail .malformed
      return ()
    if braced then emit "\x7d"
    leave

/-- Prints a named field of a constant. -/
def field (calls : Nat) : Print Unit := do
  match calls with
  | 0 => fail .tooDeep
  | calls + 1 =>
    let some _ ← parse Reader.disambiguator | return ()
    let some name ← parse Reader.identifier | return ()
    emitAll name.pieces
    emit ": "
    constant calls true

/-- Prints the pattern of a type that is narrowed by one. -/
def pattern (calls : Nat) : Print Unit := do
  match calls with
  | 0 => fail .tooDeep
  | calls + 1 =>
    let some tag ← parse Reader.next | return ()
    match tag with
    | 'R' =>
      constant calls false
      emit "..="
      constant calls false
    | 'O' =>
      let some _ ← parse Reader.enter | return ()
      let _ ← list " | " (pattern calls)
      leave
    | 'N' => emit "!null"
    | _ => fail .malformed

end

/-- Follows a path without output from a place at the outermost level. -/
def followPath (text : List Char) (cursor : Cursor) : Except Fault Cursor :=
  match path callLimit false text ⟨.ok cursor, true, 0, "", 0⟩ with
  | .ok _ printer => printer.cursor
  | .error _ printer => printer.cursor

/-- The text behind an opening mark. Some linkers drop or double the leading underscore. -/
def body? (symbol : String) : Option (List Char) :=
  match symbol.toList with
  | '_' :: 'R' :: c :: body => some (c :: body)
  | 'R' :: c :: body => some (c :: body)
  | '_' :: '_' :: 'R' :: c :: body => some (c :: body)
  | _ => none

/-- The text of a mangled name and what follows it. The first path is the named one; a second path may
name the crate that it was instantiated for. -/
def accept? (symbol : String) : Option (List Char × List Char) := do
  let body ← body? symbol
  if (body.head?.map Char.isUpper).getD false && body.all (·.toNat < 0x80) then
    let named ← (followPath body ⟨0, body, 0⟩).toOption
    let last ←
      if (named.rest.head?.map Char.isUpper).getD false then (followPath body named).toOption
      else some named
    some (body, last.rest)
  else none

/-- Prints an accepted name. Text that outgrows its limit is cut off with a remark. -/
def render (body : List Char) : String :=
  match path callLimit true body ⟨.ok ⟨0, body, 0⟩, false, 0, "", maxSize⟩ with
  | .ok _ printer => printer.written
  | .error .outOfRoom printer => printer.written ++ "\x7bsize limit reached\x7d"

/-- The shown name and the text behind the mangled one. -/
def demangle? (symbol : String) : Option (String × List Char) :=
  (accept? symbol).map fun (body, suffix) => (render body, suffix)

end Abiscope.Mangling.V0
