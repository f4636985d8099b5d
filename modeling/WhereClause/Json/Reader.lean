import WhereClause.Json.Numeral

/-!
# Reading JSON Texts

From a text to the value it stands for, or to its first fault.

Reading is a run of a machine over the characters of the text. The machine
has a stack with a frame for every array and object that is still open around
the current place, and a mode that says what it is in the middle of. Each
character takes the machine to its next state or shows a fault, so reading is
a fold and ends with the text.

Two things follow from that shape. The texts of values compose: what a run
does on the text of an item inside an array is what it does on that text
alone, with a longer stack. And the stack says at any time where in the value
the current place is, which is what `Json.Selective` goes by.

Arrays and objects may be nested 127 deep.

## Main definitions

* `Reader.Frame`, `Reader.Place`, `Reader.Mode`, `Reader.State`: The states of
  the machine.
* `Reader.step`: One character.
* `Reader.finish`: The end of the text.
* `Reader.run`: A text from a state.
* `parse`: The value of a text, with repeated keys as they stand.
* `document`: The value of a text, with one entry per key.
-/

namespace WhereClause

namespace Json

namespace Reader

/-- An array or object around the current place, with what has been read of
    it, newest first. -/
inductive Frame where
  | array (items : List Json)
  | entry (entries : List (String × Json)) (key : String)
deriving Repr

/-- What a string that is being read is. -/
inductive Role where
  | value
  | key (entries : List (String × Json))
deriving Repr

/-- Where inside an escape reading stands. -/
inductive Escape where
  /-- Not in an escape. -/
  | plain
  /-- After a backslash. -/
  | backslash
  /-- In the digits of a numbered escape: the bytes still to come, the number
      so far, whether all of it were digits, and the first half of the pair if
      this is the second. -/
  | digits (left code : Nat) (hexadecimal : Bool) (high : Option Nat)
  /-- After the first half of a pair. -/
  | pair (high : Nat)
  /-- After the first half of a pair and a backslash. -/
  | pairBackslash (high : Nat)
deriving DecidableEq, Repr

/-- A place between the parts of a text, where white space means nothing. -/
inductive Place where
  /-- Before a value, which may be an item after a comma. -/
  | value (afterComma : Bool)
  /-- After an opening bracket. -/
  | firstItem
  /-- After an item. -/
  | afterItem (items : List Json)
  /-- After an opening brace. -/
  | firstKey
  /-- After a comma in an object. -/
  | nextKey (entries : List (String × Json))
  /-- After a key. -/
  | colon (entries : List (String × Json)) (key : String)
  /-- After an entry. -/
  | afterEntry (entries : List (String × Json))
  /-- After the whole value. -/
  | done (value : Json)
deriving Repr

/-- What the machine is in the middle of. -/
inductive Mode where
  | between (place : Place)
  /-- In a string. -/
  | text (role : Role) (done : String) (escape : Escape)
  /-- In one of the three words, with the rest of it to come. -/
  | word (next : Char) (rest : List Char) (value : Json)
  | number (numeral : Numeral)
deriving Repr

/-- The frames around the current place, innermost first, and the mode. -/
structure State where
  stack : List Frame
  mode : Mode
deriving Repr

/-- A fault at a character: the cause, and how many bytes of the text from
    that character on were looked at. -/
structure Fault where
  cause : ReadError.Cause
  bytes : Nat
deriving DecidableEq, Repr

/-- How deep arrays and objects may be nested. -/
def depthLimit : Nat := 127

/-- Whether a character is white space between the parts of a JSON text. -/
def isSpace (c : Char) : Bool :=
  c = ' ' || c = '\n' || c = '\t' || c = '\r'

/-- A fault at a character that was looked at. -/
def fail (cause : ReadError.Cause) : Except Fault State :=
  .error ⟨cause, 1⟩

/-- The state at a place. -/
def stand (stack : List Frame) (place : Place) : State :=
  ⟨stack, .between place⟩

/-- The stack and the place when a value is complete: it goes into the
    innermost frame. -/
def landing (stack : List Frame) (value : Json) : List Frame × Place :=
  match stack with
  | [] => ([], .done value)
  | .array items :: outer => (outer, .afterItem (value :: items))
  | .entry entries key :: outer => (outer, .afterEntry ((key, value) :: entries))

/-- The state when a value is complete. -/
def complete (stack : List Frame) (value : Json) : State :=
  stand (landing stack value).1 (landing stack value).2

/-- The state after the opening bracket of an array or object, which the
    depth has to allow. -/
def enter (stack : List Frame) (place : Place) : Except Fault State :=
  if stack.length < depthLimit then .ok (stand stack place) else fail .tooDeep

/-- A character where a value has to begin. -/
def begin (stack : List Frame) (c : Char) : Except Fault State :=
  match c with
  | 'n' => .ok ⟨stack, .word 'u' ['l', 'l'] .null⟩
  | 't' => .ok ⟨stack, .word 'r' ['u', 'e'] (.bool true)⟩
  | 'f' => .ok ⟨stack, .word 'a' ['l', 's', 'e'] (.bool false)⟩
  | '"' => .ok ⟨stack, .text .value "" .plain⟩
  | '[' => enter stack .firstItem
  | '\x7b' => enter stack .firstKey
  | c =>
      match Numeral.start? c with
      | some numeral => .ok ⟨stack, .number numeral⟩
      | none => fail .expectedValue

/-- A character after an item of an array. -/
def afterItem (stack : List Frame) (items : List Json) (c : Char) : Except Fault State :=
  match c with
  | ',' => .ok (stand (.array items :: stack) (.value true))
  | ']' => .ok (complete stack (.array items.reverse))
  | _ => fail .expectedListEnd

/-- A character after an entry of an object. -/
def afterEntry (stack : List Frame) (entries : List (String × Json)) (c : Char) :
    Except Fault State :=
  match c with
  | ',' => .ok (stand stack (.nextKey entries))
  | '\x7d' => .ok (complete stack (.object entries.reverse))
  | _ => fail .expectedObjectEnd

/-- The value of a hexadecimal digit. -/
def hexValue? (c : Char) : Option Nat :=
  if c.isDigit then some (c.toNat - '0'.toNat)
  else if 'a' ≤ c && c ≤ 'f' then some (c.toNat - 'a'.toNat + 10)
  else if 'A' ≤ c && c ≤ 'F' then some (c.toNat - 'A'.toNat + 10)
  else none

/-- Whether a number is the first half of a surrogate pair. -/
def isHigh (n : Nat) : Bool :=
  0xD800 ≤ n && n ≤ 0xDBFF

/-- Whether a number is the second half of a surrogate pair. -/
def isLow (n : Nat) : Bool :=
  0xDC00 ≤ n && n ≤ 0xDFFF

/-- The string after a numbered escape, alone or as the second half of a
    pair. -/
def numbered (done : String) (high : Option Nat) (n : Nat) :
    Except ReadError.Cause (String × Escape) :=
  match high with
  | none =>
      if isLow n then .error .loneSurrogate
      else if isHigh n then .ok (done, .pair n)
      else .ok (done.push (Char.ofNat n), .plain)
  | some first =>
      if isLow n then
        .ok (done.push (Char.ofNat (0x10000 + 0x400 * (first - 0xD800) + (n - 0xDC00))), .plain)
      else .error .loneSurrogate

/-- The character that a letter after a backslash stands for. -/
def letterEscape? (c : Char) : Option Char :=
  match c with
  | '"' => some '"'
  | '\\' => some '\\'
  | '/' => some '/'
  | 'b' => some '\x08'
  | 'f' => some '\x0c'
  | 'n' => some '\n'
  | 'r' => some '\r'
  | 't' => some '\t'
  | _ => none

/-- The state when a string is complete. -/
def closeText (stack : List Frame) (done : String) : Role → State
  | .value => complete stack (.text done)
  | .key entries => stand stack (.colon entries done)

/-- A character inside a string. -/
def textStep (stack : List Frame) (role : Role) (done : String) (escape : Escape) (c : Char) :
    Except Fault State :=
  let more := fun done escape => Except.ok ⟨stack, .text role done escape⟩
  match escape with
  | .plain =>
      if c = '"' then .ok (closeText stack done role)
      else if c = '\\' then more done .backslash
      else if c.toNat < 0x20 then fail .controlCharacter
      else more (done.push c) .plain
  | .backslash =>
      if c = 'u' then more done (.digits 4 0 true none)
      else (letterEscape? c).elim (fail .invalidEscape) fun meant => more (done.push meant) .plain
  | .digits left code hexadecimal high =>
      -- The escape is four bytes long, whatever characters those belong to.
      let code := 16 * code + (hexValue? c).getD 0
      let hexadecimal := hexadecimal && (hexValue? c).isSome
      if c.utf8Size < left then more done (.digits (left - c.utf8Size) code hexadecimal high)
      else if hexadecimal then
        match numbered done high code with
        | .ok (done, escape) => more done escape
        | .error cause => fail cause
      else .error ⟨.invalidEscape, left⟩
  | .pair high => if c = '\\' then more done (.pairBackslash high) else fail .unfinishedPair
  | .pairBackslash high =>
      if c = 'u' then more done (.digits 4 0 true (some high)) else fail .unfinishedPair

/-- A character at a place, other than white space. -/
def partStep (stack : List Frame) (place : Place) (c : Char) : Except Fault State :=
  match place with
  | .value afterComma =>
      if c = ']' && afterComma then fail .trailingComma else begin stack c
  | .firstItem =>
      if c = ']' then .ok (complete stack (.array [])) else begin (.array [] :: stack) c
  | .afterItem items => afterItem stack items c
  | .firstKey =>
      match c with
      | '"' => .ok ⟨stack, .text (.key []) "" .plain⟩
      | '\x7d' => .ok (complete stack (.object []))
      | _ => fail .keyNotText
  | .nextKey entries =>
      match c with
      | '"' => .ok ⟨stack, .text (.key entries) "" .plain⟩
      | '\x7d' => fail .trailingComma
      | _ => fail .keyNotText
  | .colon entries key =>
      if c = ':' then .ok (stand (.entry entries key :: stack) (.value false))
      else fail .expectedColon
  | .afterEntry entries => afterEntry stack entries c
  | .done _ => fail .trailingCharacters

/-- A character at a place. -/
def placeStep (stack : List Frame) (place : Place) (c : Char) : Except Fault State :=
  if isSpace c then .ok (stand stack place) else partStep stack place c

/-- One character. A number ends at the first character that is not part of
    it, which then is read at the place after the number. -/
def step (s : State) (c : Char) : Except Fault State :=
  match s.mode with
  | .between place => placeStep s.stack place c
  | .text role done escape => textStep s.stack role done escape c
  | .word next rest value =>
      if c = next then
        match rest with
        | [] => .ok (complete s.stack value)
        | next :: rest => .ok ⟨s.stack, .word next rest value⟩
      else fail .expectedIdent
  | .number numeral =>
      match numeral.step c with
      | .more numeral => .ok ⟨s.stack, .number numeral⟩
      | .fail cause => fail cause
      | .stop =>
          match numeral.value with
          | .ok n =>
              let (stack, place) := landing s.stack (.number n)
              placeStep stack place c
          | .error cause => .error ⟨cause, 0⟩

/-- The value when the text ends at a place. -/
def settle : Place → Except ReadError.Cause Json
  | .done value => .ok value
  | .firstItem | .afterItem _ => .error .endInList
  | .firstKey | .colon .. | .afterEntry _ => .error .endInObject
  | .value _ | .nextKey _ => .error .endInValue

/-- The value when the text ends. A number that ends the text is complete;
    inside an array or object what is missing is the rest of that. -/
def finish (s : State) : Except ReadError.Cause Json :=
  match s.mode with
  | .between place => settle place
  | .text .. => .error .endInText
  | .word .. => .error .endInValue
  | .number numeral => do
      let n ← numeral.value
      settle (landing s.stack (.number n)).2

/-- The state before a text. -/
def State.initial : State :=
  stand [] (.value false)

/-- The value of a text that is read from a state at a position, or its first
    fault. -/
def run (s : State) (p : Position) : List Char → Except ReadError Json
  | [] => (finish s).mapError fun cause => ⟨cause, p⟩
  | c :: rest =>
      match step s c with
      | .ok next => run next (p.advance c) rest
      | .error fault => .error ⟨fault.cause, p.within c fault.bytes⟩

end Reader

/-- The value of a text. Repeated keys stay as they stand in it. -/
def parse (text : String) : Except ReadError Json :=
  Reader.run .initial .start text.toList

/-- The value of a text, with one entry per key in each of its objects. -/
def document (text : String) : Except ReadError Json :=
  (parse text).map merged

end Json

end WhereClause
