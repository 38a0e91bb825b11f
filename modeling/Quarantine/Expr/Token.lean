import Quarantine.Text.Alphabet
import Quarantine.Text.Blank
import Quarantine.Text.Quoted

/-!
# Tokens of the rule notation

    token  =  '(' | ')' | ',' | '-' | digits | word | 'text' | "text" | `name`

Blanks separate tokens and mean nothing.  In a text a backslash escapes itself, both quotes
and the letters `n` and `t`; before anything else it stands for itself, so that the escapes of
a pattern pass through.  In a quoted name a backtick is written twice.

    tokens s  =  the tokens of s, each with the byte at which it starts
-/

namespace Quarantine.Expr

open Quarantine.Text

/-! ## Tokens -/

/-- A whole number that may be written: below 2⁶³. -/
abbrev Natural63 := Fin 0x8000000000000000

inductive Token where
  | word (s : String)
  | name (s : String)
  | text (s : String)
  | number (n : Natural63)
  | openParen
  | closeParen
  | comma
  | minus
  | stop
  deriving DecidableEq, Inhabited

/-- A token as error messages show it. -/
def Token.display : Token → String
  | word s => "Ident(" ++ quote s ++ ")"
  | name s => "Quoted(" ++ quote s ++ ")"
  | text s => "Str(" ++ quote s ++ ")"
  | number n => "Int(" ++ toString n.val ++ ")"
  | openParen => "LParen"
  | closeParen => "RParen"
  | comma => "Comma"
  | minus => "Minus"
  | stop => "Eof"

/-- A token and the byte of the text at which it starts. -/
structure Lexeme where
  offset : Nat
  token : Token
  deriving DecidableEq

/-- Why a text has no tokens. -/
inductive LexFault where
  | unexpectedChar (c : Char)
  | unclosedText
  | unclosedName
  | numberTooLarge
  deriving DecidableEq

def LexFault.message : LexFault → String
  | unexpectedChar c => "unexpected character '" ++ c.toString ++ "'"
  | unclosedText => "unterminated string literal"
  | unclosedName => "unterminated quoted identifier"
  | numberTooLarge => "integer literal out of range"

/-! ## Reading one token -/

def isWordStart (c : Char) : Bool := isAlphabetic c || c == '_'

def isWordChar (c : Char) : Bool := isAlphanumeric c || c == '_'

/-- What a backslash and the character after it stand for. -/
def unescape (c : Char) : List Char :=
  match c with
  | '\\' => ['\\']
  | '\'' => ['\'']
  | '"' => ['"']
  | 'n' => ['\n']
  | 't' => ['\t']
  | c => ['\\', c]

/-- The characters of a text up to its closing quote, and the rest. -/
def textBody (quote : Char) : List Char → Option (List Char × List Char)
  | [] => none
  | ['\\'] => none
  | '\\' :: c :: rest => (textBody quote rest).map fun (s, r) => (unescape c ++ s, r)
  | c :: rest =>
    if c = quote then some ([], rest) else (textBody quote rest).map fun (s, r) => (c :: s, r)

/-- The characters of a quoted name up to its closing backtick, and the rest. -/
def nameBody : List Char → Option (List Char × List Char)
  | [] => none
  | '`' :: '`' :: rest => (nameBody rest).map fun (s, r) => ('`' :: s, r)
  | '`' :: rest => some ([], rest)
  | c :: rest => (nameBody rest).map fun (s, r) => (c :: s, r)

/-- The value of decimal digits. -/
def digitsValue (cs : List Char) : Nat := cs.foldl (fun n c => n * 10 + (c.toNat - 48)) 0

/-- The number that digits write, if it is small enough. -/
def number? (digits : List Char) : Option Natural63 :=
  let n := digitsValue digits
  if h : n < 0x8000000000000000 then some ⟨n, h⟩ else none

/-- The token at the start of a text, and the rest. -/
def readToken (c : Char) (rest : List Char) : Except LexFault (Token × List Char) :=
  match c with
  | '(' => .ok (.openParen, rest)
  | ')' => .ok (.closeParen, rest)
  | ',' => .ok (.comma, rest)
  | '-' => .ok (.minus, rest)
  | '`' =>
    match nameBody rest with
    | some (s, r) => .ok (.name (String.ofList s), r)
    | none => .error .unclosedName
  | c =>
    if c = '\'' ∨ c = '"' then
      match textBody c rest with
      | some (s, r) => .ok (.text (String.ofList s), r)
      | none => .error .unclosedText
    else if c.isDigit then
      match number? (c :: rest.takeWhile Char.isDigit) with
      | some n => .ok (.number n, rest.dropWhile Char.isDigit)
      | none => .error .numberTooLarge
    else if isWordStart c then
      .ok (.word (String.ofList (c :: rest.takeWhile isWordChar)), rest.dropWhile isWordChar)
    else .error (.unexpectedChar c)

/-! ## Reading all tokens -/

/-- The number of bytes that characters take. -/
def byteLength : List Char → Nat
  | [] => 0
  | c :: cs => c.utf8Size + byteLength cs

theorem byteLength_append (cs ds : List Char) :
    byteLength (cs ++ ds) = byteLength cs + byteLength ds := by
  induction cs with
  | nil => simp [byteLength]
  | cons c cs ih => simp [byteLength, ih, Nat.add_assoc]

/-- The tokens of a text that starts at byte `offset` of a larger one, and the byte after it. -/
def tokensFrom : (fuel offset : Nat) → List Char → Except (Nat × LexFault) (List Lexeme × Nat)
  | 0, offset, _ => .ok ([], offset)
  | fuel + 1, offset, cs =>
    let start := offset + byteLength (cs.takeWhile isBlank)
    match cs.dropWhile isBlank with
    | [] => .ok ([], start)
    | c :: rest =>
      match readToken c rest with
      | .error fault => .error (start, fault)
      | .ok (token, more) =>
        let next := start + byteLength ((c :: rest).take (rest.length + 1 - more.length))
        match tokensFrom fuel next more with
        | .error e => .error e
        | .ok (ts, stop) => .ok (⟨start, token⟩ :: ts, stop)

/-- The tokens of a text, and its length in bytes; or the first fault and its place. -/
def tokens (text : String) : Except (Nat × LexFault) (List Lexeme × Nat) :=
  tokensFrom (text.toList.length + 1) 0 text.toList

end Quarantine.Expr
