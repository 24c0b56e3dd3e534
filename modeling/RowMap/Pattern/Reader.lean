import RowMap.Pattern.Class

/-!
# Pattern expressions

`Pattern.read?` reads the text of a pattern: characters and escapes, classes in brackets, groups,
alternatives, repetitions, assertions and switches. There are no look-around assertions and no
references to groups. A pattern is refused if it is nested too deeply or if its automaton would be
too large.

The text is read from left to right with the groups that are still open on a stack. Each round takes
at least one character, so as many rounds as there are characters suffice.
-/

namespace RowMap.Pattern

/-- The switches that can be set inside a pattern. -/
structure Flags where
  ignoreCase : Bool
  multiLine : Bool
  dotAll : Bool
  unicode : Bool
  crlf : Bool
  verbose : Bool

/-- Only Unicode classes are switched on at the start. -/
def Flags.initial : Flags :=
  ⟨false, false, false, true, false, false⟩

/-- Turns the switch of a letter on or off; `U` has no influence on whether a text matches. -/
def Flags.put? (f : Flags) (letter : Char) (on : Bool) : Option Flags :=
  if letter = 'i' then some { f with ignoreCase := on }
  else if letter = 'm' then some { f with multiLine := on }
  else if letter = 's' then some { f with dotAll := on }
  else if letter = 'u' then some { f with unicode := on }
  else if letter = 'R' then some { f with crlf := on }
  else if letter = 'x' then some { f with verbose := on }
  else if letter = 'U' then some f
  else none

/-- Sets switches by their letters; those after a hyphen are turned off. No letter stands twice, and
one follows the hyphen. -/
def readFlags (f : Flags) (letters : List Char) : Option Flags :=
  let on := letters.takeWhile (· ≠ '-')
  let negation := letters.dropWhile (· ≠ '-')
  let off := negation.tail
  let all := on ++ off
  if all.eraseDups.length ≠ all.length ∨ (negation ≠ [] ∧ off = []) then none
  else do
    let f ← on.foldlM (fun f letter => f.put? letter true) f
    off.foldlM (fun f letter => f.put? letter false) f

/-- Drops the blanks and comments that a verbose pattern may contain. -/
def skipRemarks (inComment : Bool) : List Char → List Char
  | [] => []
  | c :: rest =>
    if inComment then skipRemarks (c ≠ '\n') rest
    else if c = '#' then skipRemarks true rest
    else if Text.isBlank c then skipRemarks false rest
    else c :: rest

/-- Blanks and remarks mean nothing where remarks are allowed. -/
def Flags.skip (f : Flags) (cs : List Char) : List Char :=
  if f.verbose then skipRemarks false cs else cs

/-- A class as the switches make it: closed under case if case is ignored. -/
def Flags.fold (f : Flags) (cls : CharClass) : CharClass :=
  if f.ignoreCase then cls.ignoringCase f.unicode else cls

/-- Whether a line begins between two characters. -/
def atLineStart (crlf : Bool) (before after : Option Char) : Bool :=
  before.isNone || before = some '\n' || (crlf && before = some '\r' && after != some '\n')

/-- Whether a line ends between two characters. -/
def atLineEnd (crlf : Bool) (before after : Option Char) : Bool :=
  after.isNone || (after = some '\n' && !(crlf && before = some '\r'))
    || (crlf && after = some '\r')

/-- Whether a character of a word stands there. -/
def wordAt (f : Flags) (c : Option Char) : Bool :=
  c.any ((CharClass.word f.unicode).accepts)

/-- Whether a word begins between two characters. -/
def wordStart (f : Flags) (before after : Option Char) : Bool :=
  !wordAt f before && wordAt f after

/-- Whether a word ends between two characters. -/
def wordEnd (f : Flags) (before after : Option Char) : Bool :=
  wordAt f before && !wordAt f after

/-! ## Escapes -/

/-- What an escape sequence or a plain character denotes. -/
inductive Primitive where
  | literal (c : Char)
  | charClass (cls : CharClass)
  | assertion (holds : Option Char → Option Char → Bool)

/-- A code point of the given number of digits, or of any number in braces. -/
def readCodePoint (width : Nat) (cs : List Char) : Option (Char × List Char) :=
  if cs.head? = some (Char.ofNat 123) then
    let digits := cs.tail.takeWhile (· ≠ Char.ofNat 125)
    match cs.tail.dropWhile (· ≠ Char.ofNat 125) with
    | [] => none
    | _ :: rest => (Text.codedChar? digits).map (·, rest)
  else Text.readCodedChar width cs

/-- The name of a class after `\p`: one letter, or a name in braces. -/
def readClassName (cs : List Char) : Option (List Char × List Char) :=
  match cs with
  | [] => none
  | c :: rest =>
    if c = Char.ofNat 123 then
      match rest.dropWhile (· ≠ Char.ofNat 125) with
      | [] => none
      | _ :: after => some (rest.takeWhile (· ≠ Char.ofNat 125), after)
    else if c = '\\' then none
    else some ([c], rest)

/-- The assertion named in braces after `\b`; what cannot be such a name is left to be read as a
repetition. -/
def readWordBoundary (f : Flags) (cs : List Char) : Option (Primitive × List Char) :=
  let plain := some (Primitive.assertion fun a b => wordAt f a != wordAt f b, cs)
  if cs.head? = some (Char.ofNat 123) then
    let isNameChar (c : Char) : Bool := c.isAlpha || c = '-'
    let name := cs.tail.takeWhile isNameChar
    if cs.tail = [] then none
    else if name = [] then plain
    else
      let rest := cs.tail.dropWhile isNameChar
      if rest.head? ≠ some (Char.ofNat 125) then none
      else if name = "start".toList then some (.assertion (wordStart f), rest.tail)
      else if name = "end".toList then some (.assertion (wordEnd f), rest.tail)
      else if name = "start-half".toList then
        some (.assertion fun before _ => !wordAt f before, rest.tail)
      else if name = "end-half".toList then
        some (.assertion fun _ after => !wordAt f after, rest.tail)
      else none
  else plain

/-- The class of a letter, or what is not in it. Without Unicode no class may reach beyond ASCII. -/
def letterClass (f : Flags) (negated : Bool) (cls : CharClass) (rest : List Char) :
    Option (Primitive × List Char) :=
  if negated && !f.unicode then none else some (.charClass (cls.negatedIf negated), rest)

/-- What follows a backslash. -/
def readEscape (f : Flags) : List Char → Option (Primitive × List Char)
  | [] => none
  | c :: rest =>
    if c = 'x' then do
      let (d, after) ← readCodePoint 2 rest
      if !f.unicode && rest.head? ≠ some (Char.ofNat 123) && 128 ≤ d.toNat then none
      else some (.literal d, after)
    else if c = 'u' then (readCodePoint 4 rest).map fun (c, rest) => (.literal c, rest)
    else if c = 'U' then (readCodePoint 8 rest).map fun (c, rest) => (.literal c, rest)
    else if c = 'p' ∨ c = 'P' then do
      let (name, rest) ← readClassName rest
      let cls ← CharClass.named? name
      if f.unicode then
        some (.charClass ((f.fold cls).negatedIf (c = 'P')), rest)
      else none
    else if c = 'd' ∨ c = 'D' then letterClass f (c = 'D') (.digit f.unicode) rest
    else if c = 's' ∨ c = 'S' then letterClass f (c = 'S') (.blank f.unicode) rest
    else if c = 'w' ∨ c = 'W' then letterClass f (c = 'W') (.word f.unicode) rest
    else if c = 'a' then some (.literal (Char.ofNat 7), rest)
    else if c = 'f' then some (.literal (Char.ofNat 12), rest)
    else if c = 't' then some (.literal '\t', rest)
    else if c = 'n' then some (.literal '\n', rest)
    else if c = 'r' then some (.literal '\r', rest)
    else if c = 'v' then some (.literal (Char.ofNat 11), rest)
    else if c = 'A' then some (.assertion fun before _ => before.isNone, rest)
    else if c = 'z' then some (.assertion fun _ after => after.isNone, rest)
    else if c = 'b' then readWordBoundary f rest
    else if c = 'B' then some (.assertion fun a b => wordAt f a == wordAt f b, rest)
    else if c = '<' then some (.assertion (wordStart f), rest)
    else if c = '>' then some (.assertion (wordEnd f), rest)
    else if c.toNat < 128 ∧ !c.isAlphanum then some (.literal c, rest)
    else none

/-! ## Classes in brackets -/

/-- What is still open while a class is read: an enclosing bracket with the items before it, or an
operator with its left side. -/
inductive ClassFrame where
  | bracket (outer : List CharClass) (negated : Bool)
  | operator (apply : CharClass → CharClass → CharClass) (left : CharClass)

/-- The class of the items in a bracket, the latest first. -/
def unionOf : List CharClass → CharClass
  | [] => .none
  | [only] => only
  | items =>
    let all := items.foldr (fun item all => CharClass.union all item) CharClass.none
    { all with depth := all.depth + 1 }

/-- Applies the operator that waits for its right side, if one does. -/
def closeOperator (f : Flags) (right : CharClass) : List ClassFrame → CharClass × List ClassFrame
  | .operator apply left :: frames =>
    (apply (f.fold left) (f.fold right), frames)
  | frames => (right, frames)

/-- A named ASCII class such as `[:alpha:]`, or `[:^alpha:]` for what is not in it. -/
def readAsciiClass (f : Flags) (cs : List Char) : Option (CharClass × List Char) :=
  match cs with
  | '[' :: ':' :: rest =>
    let negated : Bool := rest.head? = some '^'
    let rest := if negated then rest.tail else rest
    let name := rest.takeWhile (· ≠ ':')
    match rest.dropWhile (· ≠ ':') with
    | ':' :: ']' :: rest =>
      (CharClass.ascii? (String.ofList name)).map fun cls => ((f.fold cls).negatedIf negated, rest)
    | _ => none
  | _ => none

/-- The beginning of a bracket: perhaps a circumflex, then hyphens and, if nothing came before it, a
closing bracket that stand for themselves. -/
def openBracket (f : Flags) (cs : List Char) : Bool × List CharClass × List Char :=
  let cs := f.skip cs
  let negated : Bool := cs.head? = some '^'
  let cs := if negated then f.skip cs.tail else cs
  let hyphens := cs.takeWhile (· = '-')
  let rest := f.skip (cs.dropWhile (· = '-'))
  if hyphens = [] ∧ rest.head? = some ']' then (negated, [.single ']'], rest.tail)
  else (negated, hyphens.map CharClass.single, rest)

/-- One end of a range inside brackets. -/
def readClassItem (f : Flags) : List Char → Option (Primitive × List Char)
  | [] => none
  | '\\' :: rest => readEscape f rest
  | c :: rest => some (.literal c, rest)

/-- A single class item: a character, a range, or a class with a name. -/
def readClassRange (f : Flags) (cs : List Char) : Option (CharClass × List Char) := do
  let allowed (c : Char) : Bool := f.unicode || c.toNat < 128
  let (first, rest) ← readClassItem f cs
  let rest := f.skip rest
  let after := f.skip rest.tail
  if rest = [] then none
  if rest.head? ≠ some '-' ∨ after.head? = some ']' ∨ after.head? = some '-' then
    match first with
    | .literal c => if allowed c then some (.single c, rest) else none
    | .charClass cls => some (cls, rest)
    | .assertion _ => none
  else
    let (last, rest) ← readClassItem f after
    match first, last with
    | .literal low, .literal high =>
      if low ≤ high ∧ allowed high then some (.range low high, rest) else none
    | _, _ => none

/-- The rest of a class in brackets, with the items of the innermost bracket so far. -/
def readClass (f : Flags) : (rounds : Nat) → List CharClass → List ClassFrame → List Char →
    Option (CharClass × List Char)
  | 0, _, _, _ => none
  | rounds + 1, items, frames, cs =>
    match f.skip cs with
    | [] => none
    | c :: rest =>
      let operate (apply : CharClass → CharClass → CharClass) :=
        let (left, frames) := closeOperator f (unionOf items) frames
        readClass f rounds [] (.operator apply left :: frames) rest.tail
      let item :=
        match readClassRange f (c :: rest) with
        | some (cls, rest) => readClass f rounds (cls :: items) frames rest
        | none => none
      if c = '[' then
        match readAsciiClass f (c :: rest) with
        | some (cls, rest) =>
          if cls.accepts (Char.ofNat 233) && !f.unicode then none
          else readClass f rounds (cls :: items) frames rest
        | none =>
          let (negated, inner, rest) := openBracket f rest
          readClass f rounds inner (.bracket items negated :: frames) rest
      else if c = ']' then
        let (set, frames) := closeOperator f (unionOf items) frames
        match frames with
        | .bracket outer negated :: frames =>
          if negated && !f.unicode then none
          else
            let cls := (f.fold set).negatedIf negated
            let cls := { cls with depth := cls.depth + 1 }
            if frames.isEmpty then some (cls, rest)
            else readClass f rounds (cls :: outer) frames rest
        | _ => none
      else if rest.head? = some c then
        if c = '&' then operate .intersection
        else if c = '-' then operate .difference
        else if c = '~' then operate .symmetricDifference
        else item
      else item

/-! ## Pieces -/

/-- A part of a pattern with its nesting depth and about the size of its automaton. A switch is a
part that cannot be repeated. -/
structure Piece where
  pattern : Pattern
  depth : Nat
  weight : Nat
  repeatable : Bool

namespace Piece

/-- The piece that matches the empty text. -/
def nothing : Piece :=
  ⟨.empty, 0, 0, false⟩

/-- One character of a class. -/
def ofClass (cls : CharClass) : Piece :=
  ⟨.one cls.accepts, cls.depth, cls.weight, true⟩

/-- A condition on the two characters around a place. -/
def ofAssertion (holds : Option Char → Option Char → Bool) : Piece :=
  ⟨.boundary holds, 0, 32, true⟩

/-- A character outside of brackets. -/
def literal (f : Flags) (c : Char) : Piece :=
  ofClass (f.fold (.single c))

/-- The piece that an escape stands for. -/
def ofPrimitive (f : Flags) : Primitive → Piece
  | .literal c => literal f c
  | .charClass cls => ofClass cls
  | .assertion holds => ofAssertion holds

/-- The pieces, the latest first, one after the other. -/
def sequenceOf : List Piece → Piece
  | [] => nothing
  | [only] => only
  | latest :: earlier =>
    let all := earlier.foldl (fun after p =>
      ⟨.sequence p.pattern after.pattern, max p.depth after.depth, p.weight + after.weight, true⟩)
      latest
    { all with depth := all.depth + 1 }

/-- The alternatives, the latest first. -/
def choiceOf : List Piece → Piece
  | [] => nothing
  | [only] => only
  | latest :: earlier =>
    let all := earlier.foldl (fun after p =>
      ⟨.choice p.pattern after.pattern, max p.depth after.depth, p.weight + after.weight + 8, true⟩)
      latest
    { all with depth := all.depth + 1 }

/-- A piece in a group, one level deeper. -/
def grouped (p : Piece) : Piece :=
  { p with depth := p.depth + 1, repeatable := true }

/-- A piece that is repeated; its weight grows with the number of rounds. -/
def times (p : Piece) (min : Nat) (max : Option Nat) : Piece :=
  ⟨.repeated p.pattern min max, p.depth + 1, p.weight * (max.getD (Nat.max min 1)), true⟩

end Piece

/-- A group that is still open: the switches, alternatives and pieces before it. -/
structure Level where
  flags : Flags
  choices : List Piece
  pieces : List Piece

/-- What has been read of a pattern. -/
structure Progress where
  flags : Flags
  choices : List Piece
  pieces : List Piece
  levels : List Level
  names : List (List Char)

namespace Progress

/-- Nothing is read yet. -/
def initial : Progress :=
  ⟨.initial, [], [], [], []⟩

/-- One more piece behind those of the sequence. -/
def push (p : Progress) (piece : Piece) : Progress :=
  { p with pieces := piece :: p.pieces }

/-- Repeats the last piece. -/
def repeatLast? (p : Progress) (min : Nat) (max : Option Nat) : Option Progress :=
  match p.pieces with
  | last :: pieces =>
    if last.repeatable then some { p with pieces := last.times min max :: pieces } else none
  | [] => none

/-- Opens a group under the given switches. -/
def openGroup (p : Progress) (flags : Flags) : Progress :=
  ⟨flags, [], [], ⟨p.flags, p.choices, p.pieces⟩ :: p.levels, p.names⟩

/-- The sequence so far is one choice, and the next one begins. -/
def nextChoice (p : Progress) : Progress :=
  { p with choices := Piece.sequenceOf p.pieces :: p.choices, pieces := [] }

/-- All that stands on the present level. -/
def whole (p : Progress) : Piece :=
  Piece.choiceOf (Piece.sequenceOf p.pieces :: p.choices)

/-- The innermost group becomes a piece of the level around it. -/
def closeGroup? (p : Progress) : Option Progress :=
  match p.levels with
  | level :: levels =>
    some ⟨level.flags, level.choices, p.whole.grouped :: level.pieces, levels, p.names⟩
  | [] => none

end Progress

/-- Characters that the name of a group can begin with. -/
def isNameStart (c : Char) : Bool :=
  c = '_' || (if c.toNat < 128 then c.isAlpha else (Text.isLetter c || Text.isOf ["Nl"] c))

/-- Characters inside the name of a group. -/
def isNameChar (c : Char) : Bool :=
  isNameStart c || c = '.' || c = '[' || c = ']'
    || (if c.toNat < 128 then c.isDigit else Text.isOf ["Nd", "No"] c)

/-- The name of a group up to its closing angle bracket. -/
def readGroupName (cs : List Char) : Option (List Char × List Char) :=
  let name := cs.takeWhile isNameChar
  match cs.dropWhile isNameChar with
  | '>' :: rest => if name.head?.any isNameStart then some (name, rest) else none
  | _ => none

/-- What follows an opening parenthesis: a group of one of the kinds, or switches for the rest of
the present group. -/
def openParenthesis (p : Progress) (cs : List Char) : Option (Progress × List Char) :=
  match cs with
  | '?' :: rest =>
    let named := match rest with
      | 'P' :: '<' :: rest => some rest
      | '<' :: rest => some rest
      | _ => none
    match named with
    | some rest => do
      let (name, rest) ← readGroupName rest
      if p.names.contains name then none
      else some ({ p.openGroup p.flags with names := name :: p.names }, rest)
    | none => do
      let letters := rest.takeWhile fun c => c ≠ ':' && c ≠ ')'
      let flags ← readFlags p.flags letters
      match rest.dropWhile fun c => c ≠ ':' && c ≠ ')' with
      | ':' :: rest => some (p.openGroup flags, rest)
      | ')' :: rest =>
        if letters = [] then none else some ({ p.push .nothing with flags := flags }, rest)
      | _ => none
  | _ => some (p.openGroup p.flags, cs)

/-! ## Repetitions -/

/-- A number of repetitions with blanks around it. -/
def readCount (cs : List Char) : Option (Nat × List Char) :=
  let cs := Text.trimLeft cs
  let digits := cs.takeWhile Decimal.isDigit
  let count := Decimal.value digits
  if digits = [] ∨ 0x100000000 ≤ count then none
  else some (count, Text.trimLeft (cs.dropWhile Decimal.isDigit))

/-- The bounds of a repetition after its opening brace. -/
def readBounds (f : Flags) (cs : List Char) : Option (Nat × Option Nat × List Char) := do
  let (min, rest) ← readCount (f.skip cs)
  match rest with
  | [] => none
  | c :: rest =>
    if c = Char.ofNat 125 then some (min, some min, rest)
    else if c = ',' then
      let rest := f.skip rest
      if rest.head? = some (Char.ofNat 125) then some (min, none, rest.tail)
      else
        let (max, rest) ← readCount rest
        if rest.head? = some (Char.ofNat 125) ∧ min ≤ max then some (min, some max, rest.tail)
        else none
    else none

/-- Drops the mark of a lazy repetition, which has no influence on whether a text matches. -/
def skipLazy : List Char → List Char
  | '?' :: rest => rest
  | cs => cs

/-! ## Whole patterns -/

/-- The deepest nesting that is allowed. -/
def maxDepth : Nat := 250

/-- The largest automaton that is allowed. -/
def maxWeight : Nat := 10 * 0x100000

/-- The pattern, if all groups are closed and it is not too large. -/
def finish? (p : Progress) : Option Pattern :=
  let all := p.whole
  if p.levels.isEmpty ∧ all.depth ≤ maxDepth ∧ all.weight ≤ maxWeight then some all.pattern
  else none

/-- Any character; without the switch for it, any one that ends no line. -/
def dot? (f : Flags) : Option Piece :=
  if f.unicode then
    some (.ofClass ⟨fun c => f.dotAll || (c ≠ '\n' && !(f.crlf && c = '\r')), 0,
      CharClass.wideWeight⟩)
  else none

/-- The start of the text, or of a line. -/
def startAnchor (f : Flags) : Piece :=
  .ofAssertion (if f.multiLine then atLineStart f.crlf else fun before _ => before.isNone)

/-- The end of the text, or of a line. -/
def endAnchor (f : Flags) : Piece :=
  .ofAssertion (if f.multiLine then atLineEnd f.crlf else fun _ after => after.isNone)

/-- Reads the next part of a pattern, which begins with the character `c`. -/
def readNext (p : Progress) (c : Char) (rest : List Char) : Option (Progress × List Char) :=
  if c = '(' then openParenthesis p (p.flags.skip rest)
  else if c = ')' then p.closeGroup?.map (·, rest)
  else if c = '|' then some (p.nextChoice, rest)
  else if c = '[' then
    let (negated, items, inner) := openBracket p.flags rest
    (readClass p.flags (rest.length + 1) items [.bracket [] negated] inner).map fun (cls, rest) =>
      (p.push (.ofClass cls), rest)
  else if c = '?' then (p.repeatLast? 0 (some 1)).map (·, skipLazy rest)
  else if c = '*' then (p.repeatLast? 0 none).map (·, skipLazy rest)
  else if c = '+' then (p.repeatLast? 1 none).map (·, skipLazy rest)
  else if c = Char.ofNat 123 then do
    let (min, max, rest) ← readBounds p.flags rest
    (p.repeatLast? min max).map (·, skipLazy (p.flags.skip rest))
  else if c = '\\' then do
    let (primitive, rest) ← readEscape p.flags rest
    some (p.push (.ofPrimitive p.flags primitive), rest)
  else if c = '.' then (dot? p.flags).map fun piece => (p.push piece, rest)
  else if c = '^' then some (p.push (startAnchor p.flags), rest)
  else if c = '$' then some (p.push (endAnchor p.flags), rest)
  else some (p.push (.literal p.flags c), rest)

/-- Reads part after part to the end of the pattern. -/
def readParts : (rounds : Nat) → Progress → List Char → Option Pattern
  | rounds, p, cs =>
    match p.flags.skip cs, rounds with
    | [], _ => finish? p
    | _ :: _, 0 => none
    | c :: rest, rounds + 1 =>
      match readNext p c rest with
      | some (p, rest) => readParts rounds p rest
      | none => none

/-- The pattern that a text denotes. -/
def read? (text : String) : Option Pattern :=
  let cs := text.toList
  readParts cs.length .initial cs

end RowMap.Pattern
