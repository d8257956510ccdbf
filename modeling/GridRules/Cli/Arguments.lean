import GridRules.Assoc
/-!
Splitting the words of a command line into options and arguments. A long option has its value behind
an equals sign or in the next word, a short one right behind it or in the next word. Whatever comes
behind two dashes is an argument.
-/

namespace GridRules

namespace Cli

/-- An option by its name, with the ways to write it. -/
structure OptionSpec where
  name : String
  spellings : List String
  takesValue : Bool

/-- Options in the order they are given, and the other words. -/
structure Words where
  options : Assoc String
  arguments : List String

namespace OptionSpec

def flag (name : String) (spellings : List String) : OptionSpec := ⟨name, spellings, false⟩

def valued (name : String) (spellings : List String) : OptionSpec := ⟨name, spellings, true⟩

end OptionSpec

def findOption? (specs : List OptionSpec) (spelling : String) : Option OptionSpec :=
  specs.find? fun spec => spec.spellings.contains spelling

def isLong (spelling : String) : Bool :=
  "--".toList.isPrefixOf spelling.toList

/-- The part before an equals sign, and the part behind it if there is one. -/
def splitAtEquals (word : String) : String × Option String :=
  let isName (c : Char) : Bool := c != '='
  match word.toList.dropWhile isName with
  | [] => (word, none)
  | _ :: value => (String.ofList (word.toList.takeWhile isName), some (String.ofList value))

/-- What a word with options gives: the options, the last of which may want the next word. -/
structure OptionWord where
  complete : Assoc String
  pending : Option String

/-- A word as one long option. -/
def longOption? (spec : OptionSpec) (value : Option String) : Option OptionWord :=
  match spec.takesValue, value with
  | true, some v => some ⟨[(spec.name, v)], none⟩
  | true, none => some ⟨[], some spec.name⟩
  | false, none => some ⟨[(spec.name, "")], none⟩
  | false, some _ => none

/-- The letters of a word as short options; what follows one with a value is its value. -/
def shortOptions? (specs : List OptionSpec) : List Char → Option OptionWord
  | [] => some ⟨[], none⟩
  | letter :: rest => do
    let spec ← findOption? specs (String.ofList ['-', letter])
    if !spec.takesValue then
      let more ← shortOptions? specs rest
      return { more with complete := (spec.name, "") :: more.complete }
    else if rest.isEmpty then return ⟨[], some spec.name⟩
    else return ⟨[(spec.name, String.ofList rest)], none⟩

/-- The options of a word that begins with a dash. -/
def optionWord? (specs : List OptionSpec) (word : String) : Option OptionWord :=
  let (spelling, value) := splitAtEquals word
  match findOption? specs spelling with
  | some spec =>
    if spelling.length ≤ 2 && value.isSome then shortOptions? specs (word.toList.drop 1)
    else longOption? spec value
  | none => if isLong word then none else shortOptions? specs (word.toList.drop 1)

def isOption (word : String) : Bool :=
  word.startsWith "-" && 1 < word.length

/-- Splits words. With `mixed`, options may come behind arguments; without it the first argument
ends the options. There is no result for unknown options, or for values that are missing or not
wanted. -/
def splitWords (specs : List OptionSpec) (mixed : Bool) : List String → Option Words
  | [] => some ⟨[], []⟩
  | word :: rest =>
    if word = "--" then some ⟨[], rest⟩
    else if isOption word then do
      let found ← optionWord? specs word
      match found.pending, rest with
      | none, rest =>
        let more ← splitWords specs mixed rest
        return { more with options := found.complete ++ more.options }
      | some name, value :: rest =>
        let more ← splitWords specs mixed rest
        return { more with options := found.complete ++ (name, value) :: more.options }
      | some _, [] => none
    else if mixed then do
      let more ← splitWords specs mixed rest
      return { more with arguments := word :: more.arguments }
    else some ⟨[], word :: rest⟩

namespace Words

/-- The value of an option; of several the last one counts. -/
def option? (words : Words) (name : String) : Option String :=
  Assoc.get? words.options.reverse name

def hasOption (words : Words) (name : String) : Bool :=
  (words.option? name).isSome

/-- All values of an option. -/
def allOf (words : Words) (name : String) : List String :=
  (words.options.filter fun entry => entry.1 == name).map (·.2)

end Words

end Cli

end GridRules
