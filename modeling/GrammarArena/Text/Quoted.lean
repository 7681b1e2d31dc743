import GrammarArena.Text.Unprintable

/-!
Quoted characters and texts. Each character is escaped on its own: a few by a backslash and one
letter, the unprintable ones by their code point in hexadecimal, all others not at all. Only the
quote of the same kind is escaped.
-/

namespace GrammarArena.Text

def escapeLetter? (quote char : Char) : Option Char :=
  if char = '\x00' then some '0'
  else if char = '\t' then some 't'
  else if char = '\n' then some 'n'
  else if char = '\r' then some 'r'
  else if char = '\\' ∨ char = quote then some char
  else none

variable [Unprintables]

def escapeChar (quote char : Char) : Text :=
  match escapeLetter? quote char with
  | some letter => ['\\', letter]
  | none =>
      if Unprintables.isUnprintable char then
        '\\' :: 'u' :: '{' :: Nat.toDigits 16 char.toNat ++ ['}']
      else [char]

def quoteWith (quote : Char) (text : Text) : Text :=
  quote :: text.flatMap (escapeChar quote) ++ [quote]

def quotedChar (char : Char) : Text :=
  quoteWith '\'' [char]

def quoted (text : Text) : Text :=
  quoteWith '"' text

end GrammarArena.Text
