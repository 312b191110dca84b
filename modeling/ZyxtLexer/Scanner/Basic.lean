import ZyxtLexer.Text.Classes
import ZyxtLexer.Token.Vocabulary

/-! The scanner: a machine that reads a text one character at a time and never goes back. It
rejects nothing. Words are ended by blanks, a colon before the first ordinary word is a flag, and
a comment may stand wherever a word may begin, so that a comment mode carries what is needed to go
on after it. -/
namespace ZyxtLexer

/-- What a comment interrupts: the kind of the token before it, and whether a flag's label was
being read. -/
structure Resume where
  last : Kind
  inFlag : Bool
deriving DecidableEq

inductive Mode where
  | code
  /-- After the colon that opens a flag, while its label is read. -/
  | label
  | lineComment (resume : Resume)
  | blockComment (resume : Resume)
deriving DecidableEq

namespace Mode

/-- Outside comments a blank ends a word; inside them it is part of the text. -/
def endsWords : Mode → Bool
  | code | label => true
  | lineComment _ | blockComment _ => false

theorem endsWords_iff {m : Mode} : m.endsWords ↔ m = code ∨ m = label := by
  cases m <;> simp [endsWords]

/-- What to remember of a mode in which a token of kind `last` was the latest. -/
def suspend (m : Mode) (last : Kind) : Resume := ⟨last, m = label⟩

end Mode

namespace Resume

def mode (r : Resume) : Mode := if r.inFlag then .label else .code

@[simp] theorem endsWords_mode (r : Resume) : r.mode.endsWords := by
  unfold mode; split <;> rfl

/-- A comment gives back the mode that it interrupts. -/
theorem mode_suspend {m : Mode} (h : m.endsWords) (last : Kind) : (m.suspend last).mode = m := by
  cases m <;> simp_all [Mode.suspend, mode, Mode.endsWords]

end Resume

inductive Event where
  | emit (token : Token)
  /-- Text before the first flag of a text, lost to the colon that stands at `colon`. -/
  | drop (text : String) (colon : Position)
deriving DecidableEq

def Event.token? : Event → Option Token
  | .emit t => some t
  | .drop _ _ => none

structure Scanner where
  mode : Mode := .code
  /-- The kind of the latest token; before the first one, that of a finished statement. -/
  last : Kind := .statementEnd
  /-- The pending text, latest character first. -/
  held : List Char := []
  /-- Where the pending text begins, or would begin. -/
  start : Position := .origin
  cursor : Position := .origin
deriving DecidableEq

namespace Scanner

def text (s : Scanner) : String := String.ofList s.held.reverse

/-- Whether a colon read now is a flag: within a label it closes one, and otherwise it opens one
if no token but flags and comments came before. -/
def opensFlag (s : Scanner) : Bool :=
  match s.mode with
  | .label => true
  | .code => s.last = .statementEnd || s.last = .flag
  | .lineComment _ | .blockComment _ => false

def hold (s : Scanner) (c : Char) : Scanner :=
  { s with held := c :: s.held, cursor := s.cursor.advance c }

/-- Goes on after `c` with nothing pending. -/
def restart (s : Scanner) (c : Char) (mode : Mode) (last : Kind) : Scanner :=
  { mode, last, held := [], start := s.cursor.advance c, cursor := s.cursor.advance c }

/-- A carriage return outside comments leaves no trace but its column. -/
def skip (s : Scanner) (c : Char) : Scanner :=
  { s with
    start := if s.held.isEmpty then s.cursor.advance c else s.start
    cursor := s.cursor.advance c }

/-- What becomes of the pending text at a flag: a label, except that text before the first flag
is dropped. -/
def beforeFlag (s : Scanner) : List Event :=
  if s.held.isEmpty then []
  else if s.mode = .code ∧ s.last = .statementEnd then [.drop s.text s.cursor]
  else [.emit ⟨⟨.flagLabel, s.text⟩, s.start⟩]

def readFlag (s : Scanner) : List Event × Scanner :=
  (s.beforeFlag ++ [.emit ⟨⟨.flag, ":"⟩, s.cursor⟩],
    s.restart ':' (if s.mode = .label then .code else .label) .flag)

def endedKind (s : Scanner) : Kind := if s.mode = .label then .flagLabel else wordKind s.text

/-- A blank ends the pending word; with nothing pending it only moves on. -/
def readBlank (s : Scanner) (c : Char) : List Event × Scanner :=
  if s.held.isEmpty then ([], s.restart c s.mode s.last)
  else ([.emit ⟨⟨s.endedKind, s.text⟩, s.start⟩], s.restart c .code s.endedKind)

/-- Completes a comment opener, whose first character is pending. -/
def openComment (s : Scanner) (c : Char) (kind : Kind) (mode : Resume → Mode) :
    List Event × Scanner :=
  ([.emit ⟨⟨kind, s.text.push c⟩, s.start⟩], s.restart c (mode (s.mode.suspend s.last)) kind)

/-- Completes a comment with the text `held` and goes on with what the comment interrupted. -/
def closeComment (s : Scanner) (c : Char) (resume : Resume) (held : List Char)
    (closer : Lexeme) (pos : Position) : List Event × Scanner :=
  ([.emit ⟨⟨.comment, String.ofList held.reverse⟩, s.start⟩, .emit ⟨closer, pos⟩],
    s.restart c resume.mode resume.last)

def readCode (s : Scanner) (c : Char) : List Event × Scanner :=
  if c = '\r' then ([], s.skip c)
  else if c = ':' ∧ s.opensFlag then s.readFlag
  else if Text.isBlank c then s.readBlank c
  else if s.held = ['/'] ∧ c = '/' then s.openComment c .commentStart .lineComment
  else if s.held = ['/'] ∧ c = '*' then s.openComment c .multilineCommentStart .blockComment
  else ([], s.hold c)

def readLine (s : Scanner) (resume : Resume) (c : Char) : List Event × Scanner :=
  if c = '\n' then s.closeComment c resume s.held ⟨.commentEnd, "\n"⟩ s.cursor
  else ([], s.hold c)

/-- Within a block comment. The closer stands where its pending `*` does. -/
def readBlock (s : Scanner) (resume : Resume) (c : Char) : List Event × Scanner :=
  if s.held.head? = some '*' ∧ c = '/' then
    s.closeComment c resume s.held.tail ⟨.multilineCommentEnd, "*/"⟩ s.cursor.left
  else ([], s.hold c)

def step (s : Scanner) (c : Char) : List Event × Scanner :=
  match s.mode with
  | .code | .label => s.readCode c
  | .lineComment resume => s.readLine resume c
  | .blockComment resume => s.readBlock resume c

/-- Where the text of a block comment begins that has not been closed. -/
def unclosed? (s : Scanner) : Option Position :=
  match s.mode with
  | .blockComment _ => some s.start
  | .code | .label | .lineComment _ => none

/-- Reads all of `cs`, with the latest events in front of `es`. -/
def runOnto (es : List Event) (s : Scanner) : List Char → List Event × Scanner
  | [] => (es, s)
  | c :: cs => runOnto ((s.step c).1.reverse ++ es) (s.step c).2 cs

/-- Reads all of `cs`: the events in the order in which they arise, and the scanner after them. -/
def run (s : Scanner) (cs : List Char) : List Event × Scanner :=
  ((runOnto [] s cs).1.reverse, (runOnto [] s cs).2)

theorem runOnto_eq (es : List Event) (s : Scanner) (cs : List Char) :
    runOnto es s cs = ((runOnto [] s cs).1 ++ es, (runOnto [] s cs).2) := by
  induction cs generalizing es s with
  | nil => rfl
  | cons c cs ih =>
    rw [runOnto, ih, runOnto, ih ((s.step c).1.reverse ++ [])]
    simp

@[simp] theorem run_nil (s : Scanner) : s.run [] = ([], s) := rfl

theorem run_cons (s : Scanner) (c : Char) (cs : List Char) :
    s.run (c :: cs) = ((s.step c).1 ++ ((s.step c).2.run cs).1, ((s.step c).2.run cs).2) := by
  rw [run, runOnto, runOnto_eq]
  simp [run]

theorem run_append (s : Scanner) (cs ds : List Char) :
    s.run (cs ++ ds) = ((s.run cs).1 ++ ((s.run cs).2.run ds).1, ((s.run cs).2.run ds).2) := by
  induction cs generalizing s with
  | nil => rfl
  | cons c cs ih => simp [run_cons, ih]

/-- The tokens that come forth as `s` reads `cs`. -/
def tokens (s : Scanner) (cs : List Char) : List Token := (s.run cs).1.filterMap Event.token?

theorem tokens_append (s : Scanner) (cs ds : List Char) :
    s.tokens (cs ++ ds) = s.tokens cs ++ (s.run cs).2.tokens ds := by
  rw [tokens, run_append, List.filterMap_append]
  rfl

end Scanner

/-- What a text is to the scanner: its characters and a newline that ends the last word. -/
def closed (source : String) : List Char := source.toList ++ ['\n']

def events (source : String) : List Event := (Scanner.run {} (closed source)).1

def tokenize (source : String) : List Token := (events source).filterMap Event.token?

theorem Scanner.tokenize_eq_tokens (source : String) :
    tokenize source = tokens {} (closed source) := rfl

end ZyxtLexer
