import Intel8080.Text.BreakClass

/-! Where a line may end: the rules of the Unicode line breaking algorithm. A text is read
character by character. What has been read is kept as far as it matters for the next one, and of
what follows the rules see one character. -/
namespace Intel8080.Text
namespace BreakClass

def endsLine : BreakClass → Bool
  | .hardBreak | .carriageReturn | .lineFeed | .nextLine => true
  | _ => false

def combines : BreakClass → Bool
  | .combining | .joiner => true
  | _ => false

def isOpening : BreakClass → Bool
  | .opening | .wideOpening => true
  | _ => false

def isQuotation : BreakClass → Bool
  | .quotation | .openingQuotation | .closingQuotation => true
  | _ => false

/-- Spaces behind the character do not hide it from what follows. -/
def isSeenOverSpaces : BreakClass → Bool
  | .zeroWidthSpace | .opening | .wideOpening | .openingQuotation | .closing
  | .closingParenthesis | .dash => true
  | _ => false

def neverBegins : BreakClass → Bool
  | .closing | .closingParenthesis | .exclamation | .separator | .slash => true
  | _ => false

/-- Behind the character a quotation mark opens. Behind spaces it does so too. -/
def precedesQuotation (k : BreakClass) : Bool :=
  k.endsLine || k.isOpening || k.isQuotation || k == .glue || k == .zeroWidthSpace

def followsQuotation (k : BreakClass) : Bool :=
  k.endsLine || k.neverBegins || k.isQuotation || k == .glue || k == .zeroWidthSpace ||
  k == .space || k == .wordJoiner

def isLetter : BreakClass → Bool
  | .alphabetic | .hebrewLetter | .dottedCircle => true
  | _ => false

def isPictorial : BreakClass → Bool
  | .ideograph | .reservedPictograph | .emojiBase | .emojiModifier => true
  | _ => false

def isHangul : BreakClass → Bool
  | .leadingJamo | .vowelJamo | .trailingJamo | .openSyllable | .closedSyllable => true
  | _ => false

def isAksara : BreakClass → Bool
  | .aksara | .aksaraStart | .dottedCircle => true
  | _ => false

/-- Behind two dotted circles, which stand for a syllable, no line ends in front of the
character. -/
def followsSyllable : BreakClass → Bool
  | .alphabetic | .hebrewLetter | .opening | .openingQuotation | .virama | .finalVirama => true
  | _ => false

def isNumberSign : BreakClass → Bool
  | .beforeNumber | .afterNumber => true
  | _ => false

/-- Two parts of one number. -/
def inNumber (last next : BreakClass) : Bool :=
  match last with
  | .closing | .closingParenthesis => next.isNumberSign
  | .digit => next.isNumberSign || next == .digit
  | .beforeNumber | .afterNumber => next.isOpening || next == .digit
  | .hyphen | .separator | .slash => next == .digit
  | _ => false

def inSyllable (last next : BreakClass) : Bool :=
  match last with
  | .leadingJamo =>
    next == .leadingJamo || next == .vowelJamo || next == .openSyllable || next == .closedSyllable
  | .vowelJamo | .openSyllable => next == .vowelJamo || next == .trailingJamo
  | .trailingJamo | .closedSyllable => next == .trailingJamo
  | .aksaraPrefix => next.isAksara
  | .aksara | .aksaraStart | .dottedCircle => next == .virama || next == .finalVirama
  | _ => false

def inPicture (last next : BreakClass) : Bool :=
  (last == .emojiBase || last == .reservedPictograph) && next == .emojiModifier

/-- Two parts of one word, number, syllable or picture, between which no line ends. -/
def holdTogether (last next : BreakClass) : Bool :=
  next == .inseparable || last == .slash && next == .hebrewLetter ||
  last.isLetter && (next.isLetter || next == .digit || next.isNumberSign || next == .opening) ||
  next.isLetter && (last == .digit || last.isNumberSign || last == .separator ||
    last == .closingParenthesis) ||
  last == .digit && next == .opening || last == .closingParenthesis && next == .digit ||
  last == .beforeNumber && (next.isPictorial || next.isHangul) ||
  next == .afterNumber && (last.isPictorial || last.isHangul) ||
  inNumber last next || inSyllable last next || inPicture last next

/-- A line may end between two characters that no space parts. -/
def mayPart (last next : BreakClass) : Bool :=
  if last.isQuotation || next.isQuotation then false
  else if last == .object || next == .object then true
  else !(last == .breakBefore || next == .breakAfter || next == .hyphen || next == .nonstarter ||
    holdTogether last next)

def following? (s : List BreakClass) : Option BreakClass := s.find? (!·.combines)

end BreakClass

open BreakClass

/-- What has been read of a text. -/
structure LineContext where
  /-- The last character that counts: none at the start, and otherwise the last one that is no
  combining mark, or the one before spaces if it is seen over them. -/
  last? : Option BreakClass := none
  /-- The one in front of it, if no space parts them and it is not the second of two dotted
  circles. -/
  before? : Option BreakClass := none
  spaced : Bool := false
  joined : Bool := false
  halfFlag : Bool := false
  /-- The last character is the second of two dotted circles. -/
  paired : Bool := false

namespace LineContext

def attaches (k : LineContext) (c : BreakClass) : Bool :=
  c.combines && !k.spaced && k.last?.any fun last => !last.endsLine && last != .zeroWidthSpace

def endsHebrew (k : LineContext) : Bool :=
  k.before? == some .hebrewLetter && (k.last? == some .hyphen || k.last? == some .breakAfter)

def joinsAksara (k : LineContext) : Bool :=
  k.before?.any isAksara && k.last? == some .virama

/-- What a character counts as when it is read. A combining mark that has nothing to go with is
alphabetic, and a quotation mark opens only where a quotation can begin. -/
def resolve (k : LineContext) (c : BreakClass) : BreakClass :=
  if c.combines then .alphabetic
  else if c = .openingQuotation ∧ !k.spaced ∧ k.last?.any (!·.precedesQuotation) then .quotation
  else c

/-- A line may end between a character and the next, with or without spaces between them, if they
are neither hard breaks nor combined. `following?` stands behind the next one. -/
def mayPart (k : LineContext) (last next : BreakClass) (following? : Option BreakClass) : Bool :=
  if last = .zeroWidthSpace then true
  else if next = .wordJoiner ∨ next.neverBegins ∨ last.isOpening ∨ last = .openingQuotation then
    false
  else if next = .closingQuotation ∧ following?.all followsQuotation then false
  else if k.spaced then
    !(last == .dash && next == .dash ||
      (last == .closing || last == .closingParenthesis) && next == .nonstarter)
  else if last = .wordJoiner ∨ last = .glue then false
  else if next = .glue then (last == .breakAfter || last == .hyphen) && !k.endsHebrew
  else if last = .dash ∧ next = .dash then false
  else if k.halfFlag ∧ next = .regionalIndicator then false
  else if k.endsHebrew ∧ next ≠ .object then false
  else if k.joinsAksara ∧ (next = .aksara ∨ next = .dottedCircle) then false
  else if last.isAksara ∧ next.isAksara ∧ following? = some .finalVirama then false
  else last.mayPart next

def mayEnd (k : LineContext) (c : BreakClass) (following? : Option BreakClass) : Bool :=
  match k.last? with
  | none => false
  | some last =>
    if last.endsLine ∧ !k.spaced then !(last == .carriageReturn && c == .lineFeed)
    else if k.paired ∧ !k.joined ∧ !k.attaches c ∧ !c.followsSyllable then true
    else if c.endsLine ∨ c = .space ∨ c = .zeroWidthSpace ∨ k.joined ∨ k.attaches c then false
    else k.mayPart last (k.resolve c) following?

def read (k : LineContext) (c : BreakClass) : LineContext :=
  if k.attaches c then { k with joined := c == .joiner }
  else if c = .space then
    { last? := some (match k.last? with
        | some last => if last.isSeenOverSpaces then last else .space
        | none => .space)
      spaced := true }
  else
    let behind? := if k.spaced then none else k.last?
    { last? := some (k.resolve c)
      before? := if k.paired then none else behind?
      joined := c == .joiner
      halfFlag := c == .regionalIndicator && !(behind? == some .regionalIndicator && k.halfFlag)
      paired := c == .dottedCircle && behind? == some .dottedCircle && !k.paired }

end LineContext

/-- For every character of a text, given by its class, whether a line may end in front of it. -/
def mayEndFrom (k : LineContext) : List BreakClass → List Bool
  | [] => []
  | c :: rest => k.mayEnd c (following? rest) :: mayEndFrom (k.read c) rest

theorem length_mayEndFrom (k : LineContext) (s : List BreakClass) :
    (mayEndFrom k s).length = s.length := by
  induction s generalizing k with
  | nil => rfl
  | cons c rest ih => simp [mayEndFrom, ih]

def lineEnds (s : List Char) : List Bool := mayEndFrom {} (s.map breakClass)

theorem length_lineEnds (s : List Char) : (lineEnds s).length = s.length := by
  simp [lineEnds, length_mayEndFrom]

end Intel8080.Text
