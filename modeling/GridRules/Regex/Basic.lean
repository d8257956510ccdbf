import GridRules.Text.Alphanumeric
import GridRules.Text.Blank
import GridRules.Text.Digit
import GridRules.Text.Lowercase
/-!
Regular expressions: alternatives, quantifiers of three kinds, captures and references to them,
assertions, atomic groups and conditionals. Options can be switched for a part of the expression.
What is looked up behind must take a fixed number of characters.
-/

namespace GridRules

namespace Regex

/-- What an expression ignores or lets through. -/
structure Options where
  ignoreCase : Bool
  multiline : Bool
  dotAll : Bool
  verbose : Bool
  ascii : Bool
  unicode : Bool
  template : Bool
  deriving DecidableEq

namespace Options

def none : Options := ⟨false, false, false, false, false, false, false⟩

def union (a b : Options) : Options :=
  ⟨a.ignoreCase || b.ignoreCase, a.multiline || b.multiline, a.dotAll || b.dotAll,
    a.verbose || b.verbose, a.ascii || b.ascii, a.unicode || b.unicode, a.template || b.template⟩

def without (a b : Options) : Options :=
  ⟨a.ignoreCase && !b.ignoreCase, a.multiline && !b.multiline, a.dotAll && !b.dotAll,
    a.verbose && !b.verbose, a.ascii && !b.ascii, a.unicode && !b.unicode,
    a.template && !b.template⟩

def meets (a b : Options) : Bool :=
  a.without (a.without b) != none

/-- The options inside a group that switches some on and some off; choosing a character set
replaces the one in force. -/
def switch (a on off : Options) : Options :=
  let base := if on.ascii || on.unicode then { a with ascii := false, unicode := false } else a
  (base.union on).without off

end Options

inductive Category where
  | digit
  | space
  | word
  deriving DecidableEq

/-- A member of a character set. -/
inductive SetItem where
  | range (first last : Nat)
  | category (kind : Category) (complement : Bool)
  deriving DecidableEq

inductive Anchor where
  | lineStart
  | lineEnd
  | textStart
  | textEnd
  | boundary
  | noBoundary
  deriving DecidableEq

inductive Greed where
  | greedy
  | lazy
  | possessive
  deriving DecidableEq

end Regex

open Regex in
inductive Regex where
  | empty
  | seq (first second : Regex)
  | alt (first second : Regex)
  | any
  | oneOf (complement : Bool) (items : List SetItem)
  | anchor (kind : Anchor)
  | group (index : Nat) (body : Regex)
  | scoped (on off : Options) (body : Regex)
  | atomic (body : Regex)
  | reference (index : Nat)
  | conditional (index : Nat) (present absent : Regex)
  | look (behind negated : Bool) (body : Regex)
  | repeated (greed : Greed) (least : Nat) (most : Option Nat) (body : Regex)
  deriving DecidableEq

namespace Regex

def Category.contains (kind : Category) (ascii : Bool) (c : Char) : Bool :=
  match kind with
  | .digit => if ascii then c.isDigit else isDecimal c
  | .space =>
    if ascii then c == ' ' || (9 ≤ c.toNat && c.toNat ≤ 13) else isBlank c
  | .word => if ascii then c.isAlphanum || c == '_' else isWordChar c

/-- The code points that stand for `c` under the options. -/
def Options.variants (options : Options) (c : Char) : List Nat :=
  if !options.ignoreCase then [c.toNat]
  else if options.ascii then
    if c.isUpper then [c.toNat, c.toNat + 32]
    else if c.isLower then [c.toNat, c.toNat - 32]
    else [c.toNat]
  else caseVariants c

def SetItem.contains (item : SetItem) (options : Options) (c : Char) (variants : List Nat) :
    Bool :=
  match item with
  | .range first last => variants.any fun code => first ≤ code && code ≤ last
  | .category kind complement => kind.contains options.ascii c != complement

/-- Whether a character set takes the character. -/
def inSet (complement : Bool) (items : List SetItem) (options : Options) (c : Char) : Bool :=
  let variants := options.variants c
  (items.any fun item => item.contains options c variants) != complement

/-- The letters under which two characters are compared when case is ignored. -/
def Options.fold (options : Options) (c : Char) : Char :=
  if !options.ignoreCase then c
  else if options.ascii then c.toLower
  else lowerChar c


/-- Stands for an unbounded width. -/
def unbounded : Nat := Nat.pow 2 64

/-- A look behind reaches back at most this far. -/
def maxLookBehind : Nat := Nat.pow 2 32 - 1

/-- Least and greatest width; `captured` gives the widths of the groups that are referred to. -/
def width (captured : Nat → Nat × Nat) : Regex → Nat × Nat
  | .empty => (0, 0)
  | .seq a b =>
    let x := a.width captured
    let y := b.width captured
    (x.1 + y.1, x.2 + y.2)
  | .alt a b =>
    let x := a.width captured
    let y := b.width captured
    (min x.1 y.1, max x.2 y.2)
  | .any => (1, 1)
  | .oneOf .. => (1, 1)
  | .anchor _ => (0, 0)
  | .group _ a => a.width captured
  | .scoped _ _ a => a.width captured
  | .atomic a => a.width captured
  | .reference i => captured i
  | .conditional _ a b =>
    let x := a.width captured
    let y := b.width captured
    (min x.1 y.1, max x.2 y.2)
  | .look .. => (0, 0)
  | .repeated _ least most a =>
    let x := a.width captured
    match most with
    | some n => (x.1 * least, x.2 * n)
    | none => (x.1 * least, if x.2 = 0 then 0 else unbounded)

/-- Whether every look behind has a fixed width, and no quantifier stands in a template. -/
def compiles (captured : Nat → Nat × Nat) (options : Options) : Regex → Bool
  | .seq a b => a.compiles captured options && b.compiles captured options
  | .alt a b => a.compiles captured options && b.compiles captured options
  | .group _ a => a.compiles captured options
  | .scoped on off a => a.compiles captured (options.switch on off)
  | .atomic a => a.compiles captured options
  | .conditional _ a b => a.compiles captured options && b.compiles captured options
  | .look behind _ a =>
    (!behind || ((a.width captured).1 == (a.width captured).2 &&
      (a.width captured).1 ≤ maxLookBehind)) && a.compiles captured options
  | .repeated _ _ _ a => !options.template && a.compiles captured options
  | _ => true

end Regex

end GridRules
