import QueryGate.Statement.Layout.Token
import QueryGate.Text.Split
/-!
Statements laid out on several lines for people to read: a line for each clause and for each column, short blocks in
brackets kept on one line and long ones broken up. Laying out changes nothing but the white space between the tokens
of a statement.
-/
set_option autoImplicit false

namespace QueryGate.Statement.Layout

/-- What an indentation is for. -/
inductive Indent where
  | clause
  | block
deriving DecidableEq, Repr

/-- A text under construction: its characters with the last one first, the indentations with the innermost first, how
many short blocks are open, and whether the last phrase or keyword was the one that limits the rows. -/
structure State where
  written : List Char
  indents : List Indent
  inline : Nat
  inLimit : Bool
deriving Repr

namespace State

/-- Nothing is written. -/
def empty : State := ⟨[], [], 0, false⟩

/-- Appends characters. -/
def put (s : State) (cs : List Char) : State := { s with written := cs.reverse ++ s.written }

/-- Removes blanks at the end. -/
def stripBlanks (s : State) : State := { s with written := s.written.dropWhile fun c => c = ' ' || c = '\t' }

/-- Removes blanks and ends of lines at the end. -/
def stripWhite (s : State) : State := { s with written := s.written.dropWhile Text.isBlank }

/-- The indentation that is due. -/
def indentation (s : State) : List Char := List.replicate (2 * s.indents.length) ' '

/-- Begins a line with the indentation that is due, unless one has just begun. -/
def newLine (s : State) : State :=
  let s := s.stripBlanks
  let s := if s.written.head? = some '\n' then s else s.put ['\n']
  s.put s.indentation

/-- Leaves the clause that is open, if there is one. -/
def leaveClause (s : State) : State :=
  match s.indents with
  | .clause :: rest => { s with indents := rest }
  | _ => s

/-- Leaves the innermost block with everything that is open inside it. -/
def leaveBlock (s : State) : State := { s with indents := (s.indents.dropWhile (· = .clause)).drop 1 }

end State

/-- A block with at most so many bytes is short. -/
def shortBlock : Nat := 50

/-- Whether a token cannot stand in a block on one line. -/
def breaksLine (t : Token) : Bool :=
  t.kind = .clause || t.kind = .line || t.kind = .lineComment || t.kind = .blockComment || t.chars = [';']

/-- Whether the block that begins the tokens is short: it closes soon, and nothing in it begins a line. -/
def isShort (level size : Nat) : List Token → Bool
  | [] => false
  | t :: rest =>
    let size := size + t.chars.foldl (fun n c => n + c.utf8Size) 0
    if shortBlock < size then false
    else
      match t.kind with
      | .opening => isShort (level + 1) size rest
      | .closing => if level ≤ 1 then true else isShort (level - 1) size rest
      | _ => if breaksLine t then false else isShort level size rest

/-- A phrase with single spaces between its words. -/
def singleSpaced (cs : List Char) : List Char :=
  List.intercalate [' '] ((Text.splitAll Text.isBlank cs).filter (· ≠ []))

/-- A comment in its place: its lines that begin with white space are indented, by one more than what is around it. -/
def indentComment (indentation cs : List Char) : List Char :=
  match Text.splitAll (· = '\n') cs with
  | [] => []
  | first :: lines =>
    first ++ lines.flatMap fun line =>
      let text := line.dropWhile fun c => c = ' ' || c = '\t'
      '\n' :: (if text.length < line.length then indentation ++ ' ' :: text else line)

/-- Whether a comment that begins a line goes with what follows it, which is then on the next line. -/
def leadsOn : List Token → Bool
  | blank :: next :: _ =>
    blank.kind = .blank
      && ([.number, .quoted, .word, .clause, .divider, .line, .keyword] : List Kind).contains next.kind
  | _ => false

/-- Writes a comment up to the end of its line: on a line of its own if it has one and goes with what follows it, after
two spaces on the line of a comma that stands before it, and otherwise where the text has come to. `before` are the
tokens before it, with the last one first. -/
def State.comment (s : State) (before : List Token) (t : Token) (rest : List Token) : State :=
  let s :=
    if (before.head?.any fun p => p.chars.contains '\n') && leadsOn rest then s.newLine
    else if before[1]?.any fun p => p.chars = [','] then s.stripWhite.put [' ', ' ']
    else s
  (s.put t.chars).newLine

/-- Writes an opening bracket; `rest` are the tokens from it on. A blank before it stays if there was one, if it follows
another one, or if it follows a comment. -/
def State.open (s : State) (previous : Option Token) (t : Token) (rest : List Token) : State :=
  let keepsBlank := previous.any fun p => p.kind = .blank || p.kind = .opening || p.kind = .lineComment
  let s := (if keepsBlank then s else s.stripBlanks).put t.chars
  if 0 < s.inline then { s with inline := s.inline + 1 }
  else if isShort 0 0 rest then { s with inline := 1 }
  else ({ s with indents := .block :: s.indents } : State).newLine

/-- Writes a closing bracket. -/
def State.close (s : State) (t : Token) : State :=
  if 0 < s.inline then (({ s with inline := s.inline - 1 } : State).stripBlanks).put (t.chars ++ [' '])
  else (s.leaveBlock.newLine).put (t.chars ++ [' '])

/-- Writes a sign, a word or a quoted text. -/
def State.writePlain (s : State) (t : Token) : State :=
  if t.chars = [','] then
    let s := s.stripBlanks.put [',', ' ']
    if 0 < s.inline ∨ s.inLimit then s else s.newLine
  else if t.chars = [':'] then s.stripBlanks.put [':', ' ']
  else if t.chars = ['.'] then s.stripBlanks.put ['.']
  else if t.chars = [';'] then ({ s with indents := [] } : State).stripBlanks.put [';', '\n']
  else s.put (t.chars ++ [' '])

/-- Notes a phrase or a keyword. -/
def State.noted (s : State) (t : Token) : State := { s with inLimit := t.chars.map Char.toLower = "limit".toList }

/-- Writes one token between those before it, with the last one first, and those after it. -/
def State.write (s : State) (before : List Token) (t : Token) (rest : List Token) : State :=
  match t.kind with
  | .blank => s
  | .lineComment => s.comment before t rest
  | .blockComment =>
    let s := s.newLine
    (s.put (indentComment s.indentation t.chars)).newLine
  | .opening => s.open before.head? t (t :: rest)
  | .closing => s.close t
  | .clause =>
    let s := s.leaveClause.newLine
    ((({ s with indents := .clause :: s.indents } : State).put (singleSpaced t.chars)).newLine).noted t
  | .divider => ((s.leaveClause.newLine.put (singleSpaced t.chars)).newLine).noted t
  | .line => (s.newLine.put (singleSpaced t.chars ++ [' '])).noted t
  | .keyword => (s.put (singleSpaced t.chars ++ [' '])).noted t
  | .placeholder => s.put (t.chars ++ [' '])
  | .quoted => s.writePlain t
  | .number => s.writePlain t
  | .word => s.writePlain t
  | .sign => s.writePlain t

/-- Writes tokens one after the other. -/
def State.writeAll (s : State) (before : List Token) : List Token → State
  | [] => s
  | t :: rest => (s.write before t rest).writeAll (t :: before) rest

/-- A statement laid out on several lines. -/
def layOut (text : String) : String :=
  let s := State.empty.writeAll [] (tokensOf text.toList)
  String.ofList (Text.trimChars s.written.reverse)

end QueryGate.Statement.Layout
