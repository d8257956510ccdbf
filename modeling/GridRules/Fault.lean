/-! The ways in which an operation on data can break off. -/

namespace GridRules

inductive Fault where
  /-- A number is beyond the range of doubles, a repetition count beyond what a regular expression
  may have, or a date beyond the calendar. -/
  | tooLarge
  /-- An integer is written in digits that have no decimal value, or in too many of them. -/
  | unreadableInteger
  /-- An integer has too many digits to be written. -/
  | unwritableInteger
  /-- A regular expression asks for ASCII characters only and for all characters at once. -/
  | charsetClash
  /-- A text is nested too deeply to be read. -/
  | nestedTooDeep
  /-- Bytes are sent in an encoding that is none of texts. -/
  | undecodable
  deriving DecidableEq

/-- The result of a check that fails on numbers beyond the range of doubles. -/
def orTooLarge {α : Type} : Option α → Except Fault α
  | some a => .ok a
  | none => .error .tooLarge

end GridRules
