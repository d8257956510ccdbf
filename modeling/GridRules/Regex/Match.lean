import GridRules.Fault
import GridRules.Regex.Parse
import GridRules.Value.Basic
/-!
Matching by backtracking, and searching a text for a pattern whose options are given as letters. A
match goes on with a continuation, and the first way in which all of it succeeds counts.
-/

namespace GridRules

namespace Regex

/-- Where a match has come to and what it has captured so far, latest capture first. -/
structure Progress where
  position : Nat
  captures : List (Nat × Nat × Nat)

def Progress.capture? (s : Progress) (index : Nat) : Option (Nat × Nat) :=
  s.captures.lookup index

abbrev Matcher := Progress → (Progress → Option Progress) → Option Progress

/-- Repeats `step`. Beyond the least number a repetition that starts where the one before it
started is the last. -/
def repeatGreedy (step : Matcher) (least : Nat) (most : Option Nat) :
    Nat → Nat → Option Nat → Matcher
  | 0, _, _, _, _ => none
  | fuel + 1, count, last, s, k =>
    if count < least then
      step s fun t => repeatGreedy step least most fuel (count + 1) last t k
    else
      let more :=
        if (match most with
          | some n => decide (count < n)
          | none => true) && last != some s.position then
          step s fun t => repeatGreedy step least most fuel (count + 1) (some s.position) t k
        else none
      match more with
      | some t => some t
      | none => k s

/-- As `repeatGreedy`, but stopping is tried before going on. -/
def repeatLazy (step : Matcher) (least : Nat) (most : Option Nat) :
    Nat → Nat → Option Nat → Matcher
  | 0, _, _, _, _ => none
  | fuel + 1, count, last, s, k =>
    if count < least then
      step s fun t => repeatLazy step least most fuel (count + 1) last t k
    else
      match k s with
      | some t => some t
      | none =>
        if (match most with
          | some n => decide (count < n)
          | none => true) && last != some s.position then
          step s fun t => repeatLazy step least most fuel (count + 1) (some s.position) t k
        else none

/-- The number of repetitions that a text of the given length can need. -/
def repetitions (least length position : Nat) : Nat :=
  least + (length - position) + 3

def Anchor.holds (kind : Anchor) (options : Options) (text : Array Char) (i : Nat) : Bool :=
  let isNewline (n : Nat) := text[n]? == some '\n'
  let isWord (n : Nat) := match text[n]? with
    | some c => Category.word.contains options.ascii c
    | none => false
  let crossing := isWord i != (0 < i && isWord (i - 1))
  match kind with
  | .textStart => i == 0
  | .lineStart => i == 0 || (options.multiline && isNewline (i - 1))
  | .textEnd => i == text.size
  | .lineEnd =>
    i == text.size || (isNewline i && (options.multiline || i + 1 == text.size))
  | .boundary => text.size != 0 && crossing
  | .noBoundary => text.size != 0 && !crossing

/-- Whether the texts at two places agree for `length` characters. -/
def agree (options : Options) (text : Array Char) (i j length : Nat) : Bool :=
  (List.range length).all fun n =>
    match text[i + n]?, text[j + n]? with
    | some c, some d => options.fold c == options.fold d
    | _, _ => false

/-- Matches an expression at a place and goes on with `k`. -/
def run (captured : Nat → Nat × Nat) (text : Array Char) : Regex → Options → Matcher
  | .empty, _, s, k => k s
  | .seq a b, o, s, k => a.run captured text o s fun t => b.run captured text o t k
  | .alt a b, o, s, k =>
    match a.run captured text o s k with
    | some t => some t
    | none => b.run captured text o s k
  | .any, o, s, k =>
    match text[s.position]? with
    | some c => if o.dotAll || c != '\n' then k { s with position := s.position + 1 } else none
    | none => none
  | .oneOf complement items, o, s, k =>
    match text[s.position]? with
    | some c =>
      if inSet complement items o c then k { s with position := s.position + 1 } else none
    | none => none
  | .anchor kind, o, s, k => if kind.holds o text s.position then k s else none
  | .group index a, o, s, k =>
    a.run captured text o s fun t =>
      k { t with captures := (index, s.position, t.position) :: t.captures }
  | .scoped on off a, o, s, k => a.run captured text (o.switch on off) s k
  | .atomic a, o, s, k =>
    match a.run captured text o s some with
    | some t => k t
    | none => none
  | .reference index, o, s, k =>
    match s.capture? index with
    | some (first, last) =>
      if agree o text first s.position (last - first) then
        k { s with position := s.position + (last - first) }
      else none
    | none => none
  | .conditional index a b, o, s, k =>
    if (s.capture? index).isSome then a.run captured text o s k else b.run captured text o s k
  | .look behind negated a, o, s, k =>
    let back := if behind then (a.width captured).1 else 0
    let found :=
      if s.position < back then none
      else a.run captured text o { s with position := s.position - back } some
    match found, negated with
    | some t, false => k { t with position := s.position }
    | none, true => k s
    | _, _ => none
  | .repeated greed least most a, o, s, k =>
    let step : Matcher := a.run captured text o
    let fuel := repetitions least text.size s.position
    match greed with
    | .greedy => repeatGreedy step least most fuel 0 none s k
    | .lazy => repeatLazy step least most fuel 0 none s k
    | .possessive =>
      match repeatGreedy step least most fuel 0 none s some with
      | some t => k t
      | none => none

/-- Whether the expression matches somewhere in the text. -/
def Compiled.occursIn (e : Compiled) (text : String) : Bool :=
  let chars := text.toList.toArray
  (List.range (chars.size + 1)).any fun i =>
    (e.regex.run e.captured chars e.options ⟨i, []⟩ some).isSome

/-- The letters `i`, `m` and `s` switch options on; all others are ignored. -/
def Options.ofLetters (letters : String) : Options :=
  ⟨letters.toList.contains 'i', letters.toList.contains 'm', letters.toList.contains 's', false,
    false, false, false⟩

def Options.ofFlags : Value → Options
  | .str letters => .ofLetters letters
  | _ => .none

/-- Whether the pattern occurs in the text. A malformed pattern occurs nowhere; with a count that is
too large or with character sets that clash, the search breaks off. -/
def search (pattern : String) (options : Options) (text : String) : Except Fault Bool :=
  match compile pattern options with
  | .ok e => .ok (e.occursIn text)
  | .error .malformed => .ok false
  | .error .countTooLarge => .error .tooLarge
  | .error .charsetClash => .error .charsetClash
end Regex

end GridRules
