import DongleLink.Toml.Reader

/-!
# DongleLink.Toml.Writer

Writing keys and values of a TOML document.  A text takes the plainest of the
four quoted forms that needs no escape; where all need one, it is escaped.
-/

namespace DongleLink.Toml.Writer

open Text

/-! ## What a text holds -/

/-- A control character other than a tab. -/
def isControl (c : Char) : Bool := c ≠ '\t' && (c.toNat < 0x20 || c.toNat == 0x7F)

/-- The longest run of a mark in a text, given the length of the run before it. -/
def longestRun (mark : Char) (before : Nat) : List Char → Nat
  | [] => before
  | c :: r =>
    if c = mark then longestRun mark (before + 1) r else max before (longestRun mark 0 r)

/-! ## Escapes -/

/-- A number as four upper-case hexadecimal digits. -/
def fourDigits (n : Nat) : List Char :=
  [hexDigit (n / 4096 % 16), hexDigit (n / 256 % 16), hexDigit (n / 16 % 16), hexDigit (n % 16)]

/-- The escape of a character, if it has one. -/
def escape? (c : Char) : Option (List Char) :=
  if c = '\x08' then some ['\\', 'b']
  else if c = '\t' then some ['\\', 't']
  else if c = '\n' then some ['\\', 'n']
  else if c = '\x0c' then some ['\\', 'f']
  else if c = '\r' then some ['\\', 'r']
  else if c = '\\' then some ['\\', '\\']
  else if c.toNat < 0x20 ∨ c.toNat = 0x7F then some ('\\' :: 'u' :: fourDigits c.toNat)
  else none

/-- A text with escapes on one line. -/
def escaped : List Char → List Char
  | [] => []
  | c :: r =>
    if c = '"' then '\\' :: '"' :: escaped r
    else (escape? c).getD [c] ++ escaped r

/-- A text with escapes on many lines: line ends stay, and of the quotes in a row
every third is escaped.  `run` counts the quotes just before. -/
def escapedLines (run : Nat) : List Char → List Char
  | [] => []
  | c :: r =>
    if c = '"' then
      if run < 2 then '"' :: escapedLines (run + 1) r else '\\' :: '"' :: escapedLines 0 r
    else if c = '\n' then '\n' :: escapedLines 0 r
    else (escape? c).getD [c] ++ escapedLines 0 r

/-! ## Texts -/

/-- A text between triple marks; a line end right after them is needed if the text
has one. -/
def onLines (mark : Char) (s body : List Char) : List Char :=
  let marks := List.replicate 3 mark
  marks ++ (if s.contains '\n' then ['\n'] else []) ++ body ++ marks

/-- A quoted text. -/
def text (s : List Char) : List Char :=
  let controls := s.any fun c => isControl c && c ≠ '\n'
  let lines := s.contains '\n'
  let escapes := s.contains '\\'
  if !controls && !lines && !escapes && !s.contains '"' then '"' :: escaped s ++ ['"']
  else if !controls && !lines && !s.contains '\'' then '\'' :: s ++ ['\'']
  else if !controls && !escapes && longestRun '"' 0 s ≤ 2 then
    onLines '"' s (escapedLines 0 s)
  else if !controls && longestRun '\'' 0 s ≤ 2 then onLines '\'' s s
  else if lines then onLines '"' s (escapedLines 0 s)
  else '"' :: escaped s ++ ['"']

/-! ## Keys and lines -/

/-- A key, without quotes if it needs none. -/
def key (s : List Char) : List Char :=
  if !s.isEmpty && s.all isBareKeyChar then s
  else
    let controls := s.any isControl
    if !controls && !s.contains '\\' && !s.contains '"' then '"' :: escaped s ++ ['"']
    else if !controls && !s.contains '\'' then '\'' :: s ++ ['\'']
    else '"' :: escaped s ++ ['"']

/-- A line with a key and the text of its value. -/
def entry (k value : List Char) : List Char := key k ++ [' ', '=', ' '] ++ value ++ ['\n']

/-- A line with a header. -/
def header (path : List (List Char)) : List Char :=
  '[' :: List.intercalate ['.'] (path.map key) ++ [']', '\n']

end DongleLink.Toml.Writer
