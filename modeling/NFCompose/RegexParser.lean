/-
The patterns of Python's `re` module, and how they are read from a text: alternatives,
repetitions, groups, character sets, escapes and flags.
-/
import Mathlib.Data.List.Basic

namespace PythonRe

section Syntax

/-- The inline flags: `i`, `m`, `s`, `x`, `a`, `t` and `u`. -/
inductive Flag
  | ignorecase
  | multiline
  | dotall
  | verbose
  | ascii
  | template
  | unicode
deriving DecidableEq, Repr

def flagOf : Char → Option Flag
  | 'i' => some .ignorecase
  | 'm' => some .multiline
  | 's' => some .dotall
  | 'x' => some .verbose
  | 'a' => some .ascii
  | 't' => some .template
  | 'u' => some .unicode
  | _ => none

/-- The flags of which only one may be on. -/
def typeFlags : List Flag := [.ascii, .unicode]

inductive Category
  | digit
  | space
  | word
deriving DecidableEq, Repr

/-- An element of a character set.  Characters are given by their code. -/
inductive SetItem
  | literal (code : Nat)
  | range (lo hi : Nat)
  | category (negated : Bool) (kind : Category)
deriving DecidableEq, Repr

inductive AtCode
  | beginning
  | beginningString
  | boundary
  | nonBoundary
  | ending
  | endString
deriving DecidableEq, Repr

inductive RepeatKind
  | greedy
  | lazy
  | possessive
deriving DecidableEq, Repr

/-- A pattern.  Without a maximum a repetition is not bounded. -/
inductive Pattern
  | empty
  | literal (code : Nat)
  | any
  | charset (negated : Bool) (items : List SetItem)
  | at (code : AtCode)
  | seq (first second : Pattern)
  | branch (first second : Pattern)
  | subpattern (group : Option Nat) (addFlags delFlags : List Flag) (pattern : Pattern)
  | atomicGroup (pattern : Pattern)
  | repeated (kind : RepeatKind) (min : Nat) (max : Option Nat) (pattern : Pattern)
  | groupref (group : Nat)
  | assertion (behind : Option Nat) (negated : Bool) (pattern : Pattern)
  | grouprefExists (group : Nat) (yes no : Pattern)
deriving DecidableEq, Repr

def seqOf (items : List Pattern) : Pattern := items.foldr .seq .empty

def branchOf : List (List Pattern) → Pattern
  | [] => .empty
  | [items] => seqOf items
  | items :: more => .branch (seqOf items) (branchOf more)

/-- What is known about the characters beyond ASCII. -/
structure CharacterDatabase where
  decimal : Char → Option Nat
  isSpace : Char → Bool
  isWord : Char → Bool
  sameLetter : Char → Char → Bool
  isIdentifier : List Char → Bool
  lookup : List Char → Option Nat

end Syntax

section Widths

def maxRepeat : Nat := 4294967295

def maxGroups : Nat := 1073741823

def maxCode : Nat := 4294967295

def maxWidth : Nat := 18446744073709551616

/-- The least and the greatest number of characters that a pattern matches. -/
structure Width where
  lo : Nat
  hi : Nat
deriving DecidableEq, Repr

def Width.capped (width : Width) : Width := ⟨min width.lo maxWidth, min width.hi maxWidth⟩

/-- `getwidth`, by the widths of the groups. -/
def getwidth (groupwidths : List (Option Width)) : Pattern → Width
  | .empty => ⟨0, 0⟩
  | .literal _ => ⟨1, 1⟩
  | .any => ⟨1, 1⟩
  | .charset _ _ => ⟨1, 1⟩
  | .at _ => ⟨0, 0⟩
  | .seq first second =>
      let one := getwidth groupwidths first
      let two := getwidth groupwidths second
      Width.capped ⟨one.lo + two.lo, one.hi + two.hi⟩
  | .branch first second =>
      let one := getwidth groupwidths first
      let two := getwidth groupwidths second
      ⟨min one.lo two.lo, max one.hi two.hi⟩
  | .subpattern _ _ _ pattern => getwidth groupwidths pattern
  | .atomicGroup pattern => getwidth groupwidths pattern
  | .repeated _ min max pattern =>
      let one := getwidth groupwidths pattern
      let hi := match max with
        | none => if one.hi = 0 then 0 else maxWidth
        | some max => one.hi * max
      Width.capped ⟨one.lo * min, hi⟩
  | .groupref group => (groupwidths[group]?.bind id).getD ⟨0, 0⟩
  | .assertion _ _ _ => ⟨0, 0⟩
  | .grouprefExists _ yes no =>
      let one := getwidth groupwidths yes
      let two := getwidth groupwidths no
      ⟨min one.lo two.lo, max one.hi two.hi⟩

/-- A pattern with a repetition in it. -/
def Pattern.repeats : Pattern → Bool
  | .seq first second => first.repeats || second.repeats
  | .branch first second => first.repeats || second.repeats
  | .subpattern _ _ _ pattern => pattern.repeats
  | .atomicGroup pattern => pattern.repeats
  | .repeated _ _ _ _ => true
  | .assertion _ _ pattern => pattern.repeats
  | .grouprefExists _ yes no => yes.repeats || no.repeats
  | _ => false

end Widths

section Reading

/-- A character, or a character behind a backslash. -/
inductive Token
  | char (c : Char)
  | escape (c : Char)
deriving DecidableEq, Repr

def Token.text : Token → List Char
  | .char c => [c]
  | .escape c => ['\\', c]

/-- A backslash at the end is an error. -/
def tokenize : List Char → Option (List Token)
  | [] => some []
  | ['\\'] => none
  | '\\' :: c :: rest => (tokenize rest).map (.escape c :: ·)
  | c :: rest => (tokenize rest).map (.char c :: ·)

/-- The groups and flags that have been read.  A group without a width is still open, and the
whole pattern is group 0. -/
structure State where
  flags : List Flag
  groupdict : List (List Char × Nat)
  groupwidths : List (Option Width)
  lookbehindgroups : Option Nat
  grouprefpos : List Nat

def State.initial : State := ⟨[], [], [none], none, []⟩

def State.groups (state : State) : Nat := state.groupwidths.length

def State.checkgroup (state : State) (group : Nat) : Bool :=
  (state.groupwidths[group]?.bind id).isSome

def State.checklookbehindgroup (state : State) (group : Nat) : Bool :=
  match state.lookbehindgroups with
  | none => true
  | some groups => state.checkgroup group && decide (group < groups)

structure Source where
  state : State
  rest : List Token

/-- A reader of a part of a pattern.  There is no result when the pattern is not valid. -/
abbrev Reader (α : Type) : Type := StateT Source Option α

variable {α : Type}

def getState : Reader State := fun source => some (source.state, source)

def modifyState (change : State → State) : Reader Unit :=
  fun source => some ((), { source with state := change source.state })

def check (condition : Bool) : Reader Unit :=
  fun source => if condition then some ((), source) else none

def ofOption (value : Option α) : Reader α := fun source => value.map fun a => (a, source)

def sourceget : Reader Token := fun source =>
  match source.rest with
  | [] => none
  | token :: rest => some (token, { source with rest })

/-- Whether a character comes next, which is then skipped. -/
def sourcematch (c : Char) : Reader Bool := fun source =>
  if source.rest.head? = some (.char c) then some (true, { source with rest := source.rest.tail })
  else some (false, source)

/-- At most so many characters of a kind. -/
def spanUpTo (kind : Char → Bool) : Nat → List Token → List Char × List Token
  | n + 1, .char c :: rest =>
      if kind c then (c :: (spanUpTo kind n rest).1, (spanUpTo kind n rest).2)
      else ([], .char c :: rest)
  | _, rest => ([], rest)

def getwhile (n : Nat) (kind : Char → Bool) : Reader (List Char) := fun source =>
  some ((spanUpTo kind n source.rest).1, { source with rest := (spanUpTo kind n source.rest).2 })

/-- The characters of a kind in front of others. -/
def spanWhile (kind : Char → Bool) : List Token → List Char × List Token
  | .char c :: rest =>
      if kind c then (c :: (spanWhile kind rest).1, (spanWhile kind rest).2)
      else ([], .char c :: rest)
  | rest => ([], rest)

def getall (kind : Char → Bool) : Reader (List Char) := fun source =>
  some ((spanWhile kind source.rest).1, { source with rest := (spanWhile kind source.rest).2 })

/-- The text in front of a terminator. -/
def spanUntil (terminator : Char) : List Token → Option (List Char × List Token)
  | [] => none
  | token :: rest =>
      if token = .char terminator then some ([], rest)
      else (spanUntil terminator rest).map fun found => (token.text ++ found.1, found.2)

def skipUntil (terminator : Char) : Reader (List Char) := fun source =>
  (spanUntil terminator source.rest).map fun found => (found.1, { source with rest := found.2 })

/-- A name in front of a terminator. -/
def getuntil (terminator : Char) : Reader (List Char) := do
  let name ← skipUntil terminator
  check (name ≠ [])
  return name

end Reading

section Characters

def isDigit (c : Char) : Bool := decide (48 ≤ c.toNat ∧ c.toNat ≤ 57)

def isOctDigit (c : Char) : Bool := decide (48 ≤ c.toNat ∧ c.toNat ≤ 55)

def isHexDigit (c : Char) : Bool :=
  isDigit c || decide (65 ≤ c.toNat ∧ c.toNat ≤ 70) || decide (97 ≤ c.toNat ∧ c.toNat ≤ 102)

def isAsciiLetter (c : Char) : Bool :=
  decide (65 ≤ c.toNat ∧ c.toNat ≤ 90) || decide (97 ≤ c.toNat ∧ c.toNat ≤ 122)

def isWhitespace (c : Char) : Bool := decide (c.toNat = 32 ∨ 9 ≤ c.toNat ∧ c.toNat ≤ 13)

/-- The value of an ASCII digit, also of a hexadecimal one. -/
def digitValue (c : Char) : Nat :=
  if isDigit c then c.toNat - 48 else if c.toNat ≤ 70 then c.toNat - 55 else c.toNat - 87

def number (base : Nat) (digits : List Char) : Nat :=
  digits.foldl (fun value c => base * value + digitValue c) 0

variable (database : CharacterDatabase)

/-- Digits between which there may be single underscores. -/
def digitsValue (value : Nat) : List Char → Option Nat
  | [] => some value
  | '_' :: c :: rest => do
      let digit ← database.decimal c
      digitsValue (10 * value + digit) rest
  | c :: rest => do
      let digit ← database.decimal c
      digitsValue (10 * value + digit) rest

/-- The number that `int` reads from a text without a minus. -/
def intOf (text : List Char) : Option Nat :=
  let stripped := ((text.dropWhile database.isSpace).reverse.dropWhile database.isSpace).reverse
  match stripped with
  | '+' :: c :: rest => do
      let digit ← database.decimal c
      digitsValue database digit rest
  | c :: rest => do
      let digit ← database.decimal c
      digitsValue database digit rest
  | [] => none

/-- The control characters that have an escape of their own. -/
def controlEscape : Char → Option Nat
  | 'a' => some 7
  | 'b' => some 8
  | 'f' => some 12
  | 'n' => some 10
  | 'r' => some 13
  | 't' => some 9
  | 'v' => some 11
  | '\\' => some 92
  | _ => none

def categoryEscape : Char → Option SetItem
  | 'd' => some (.category false .digit)
  | 'D' => some (.category true .digit)
  | 's' => some (.category false .space)
  | 'S' => some (.category true .space)
  | 'w' => some (.category false .word)
  | 'W' => some (.category true .word)
  | _ => none

def atEscape : Char → Option AtCode
  | 'A' => some .beginningString
  | 'b' => some .boundary
  | 'B' => some .nonBoundary
  | 'Z' => some .endString
  | _ => none

/-- So many hexadecimal digits. -/
def hexEscape (n : Nat) : Reader Nat := do
  let digits ← getwhile n isHexDigit
  check (digits.length = n)
  return number 16 digits

/-- An escape that stands for a character, apart from those with digits. -/
def codeEscape (c : Char) : Reader Nat :=
  match c with
  | 'x' => hexEscape 2
  | 'u' => hexEscape 4
  | 'U' => do
      let code ← hexEscape 8
      check (code ≤ 0x10ffff)
      return code
  | 'N' => do
      let opened ← sourcematch '{'
      check opened
      let charname ← getuntil '}'
      ofOption (database.lookup charname)
  | _ => do
      check (!isAsciiLetter c)
      return c.toNat

/-- `_class_escape` -/
def classEscape (c : Char) : Reader SetItem :=
  match controlEscape c, categoryEscape c with
  | some code, _ => pure (.literal code)
  | none, some item => pure item
  | none, none =>
      if isOctDigit c then do
        let digits ← getwhile 2 isOctDigit
        check (number 8 (c :: digits) ≤ 0o377)
        return .literal (number 8 (c :: digits))
      else do
        check (!isDigit c)
        let code ← codeEscape database c
        return .literal code

/-- A reference to a group by its number. -/
def groupNumber (group : Nat) : Reader Pattern := do
  let state ← getState
  check (state.checkgroup group && state.checklookbehindgroup group)
  return .groupref group

/-- An escape with a digit other than 0: an octal number or a reference to a group. -/
def digitEscape (c : Char) : Reader Pattern := do
  let second ← getwhile 1 isDigit
  let third ← getwhile (if isOctDigit c && second.any isOctDigit then 1 else 0) isOctDigit
  if third = [] then groupNumber (number 10 (c :: second))
  else do
    check (number 8 (c :: second ++ third) ≤ 0o377)
    return .literal (number 8 (c :: second ++ third))

/-- `_escape` -/
def escape (c : Char) : Reader Pattern :=
  match atEscape c, categoryEscape c, controlEscape c with
  | some code, _, _ => pure (.at code)
  | none, some item, _ => pure (.charset false [item])
  | none, none, some code => pure (.literal code)
  | none, none, none =>
      if c = '0' then do
        let digits ← getwhile 2 isOctDigit
        return .literal (number 8 digits)
      else if isDigit c then digitEscape c
      else do
        let code ← codeEscape database c
        return .literal code

end Characters

section Sets

variable (database : CharacterDatabase)

def setItem : Token → Reader SetItem
  | .escape c => classEscape database c
  | .char c => pure (.literal c.toNat)

def rangeOf : SetItem → SetItem → Option SetItem
  | .literal lo, .literal hi => if hi < lo then none else some (.range lo hi)
  | _, _ => none

/-- The elements of a set up to its closing bracket, which may also be the first element. -/
def setItems : Nat → List SetItem → Reader (List SetItem)
  | 0, _ => fun _ => none
  | fuel + 1, items => do
      let this ← sourceget
      if this = .char ']' ∧ items ≠ [] then return items
      else do
        let item ← setItem database this
        let dash ← sourcematch '-'
        if dash then do
          let that ← sourceget
          if that = .char ']' then return items ++ [item, .literal 45]
          else do
            let last ← setItem database that
            let range ← ofOption (rangeOf item last)
            setItems fuel (items ++ [range])
        else setItems fuel (items ++ [item])

def characterSet : Reader Pattern := do
  let negated ← sourcematch '^'
  let items ← fun source => setItems database (source.rest.length + 1) [] source
  return .charset negated items

end Sets

section Items

/-- What is read next in a sequence. -/
inductive Step
  | bar
  | append (pattern : Pattern)
  | again (kind : RepeatKind) (min : Nat) (max : Option Nat)
  | comment
  | globalFlags (flag : Flag) (more : List Flag)
deriving DecidableEq, Repr

/-- The bounds up to a closing brace, if this is a repetition. -/
def bounds : Reader (Option (List Char × Option (List Char))) := do
  let lo ← getall isDigit
  let comma ← sourcematch ','
  if comma then do
    let hi ← getall isDigit
    let closed ← sourcematch '}'
    return if closed then some (lo, some hi) else none
  else do
    let closed ← sourcematch '}'
    return if closed ∧ lo ≠ [] then some (lo, none) else none

/-- Where there are no bounds, the text behind the opening brace is read once more. -/
def tryBounds : Reader (Option (List Char × Option (List Char))) := fun source =>
  (bounds source).map fun read => (read.1, if read.1.isSome then read.2 else source)

def repeatKind : Reader RepeatKind := do
  let question ← sourcematch '?'
  if question then return .lazy
  else do
    let plus ← sourcematch '+'
    return if plus then .possessive else .greedy

/-- The upper bound that is written between braces. -/
def upperBound (lo : List Char) : Option (List Char) → Option Nat
  | none => some (number 10 lo)
  | some [] => none
  | some hi => some (number 10 hi)

def repetition : Char → Reader Step
  | '?' => do
      let kind ← repeatKind
      return .again kind 0 (some 1)
  | '*' => do
      let kind ← repeatKind
      return .again kind 0 none
  | '+' => do
      let kind ← repeatKind
      return .again kind 1 none
  | _ => do
      let found ← tryBounds
      match found with
      | none => return .append (.literal 123)
      | some (lo, hi) => do
          check (number 10 lo < maxRepeat)
          check ((upperBound lo hi).all fun max => max < maxRepeat && number 10 lo ≤ max)
          let kind ← repeatKind
          return .again kind (number 10 lo) (upperBound lo hi)

/-- Flags up to one of the characters that end them. -/
def flagRun (stops : List Char) : List Token → Option ((List Flag × Char) × List Token)
  | .char c :: rest =>
      if c ∈ stops then some (([], c), rest)
      else do
        let flag ← flagOf c
        let ((more, stop), rest) ← flagRun stops rest
        some ((flag :: more, stop), rest)
  | _ => none

def readFlags (stops : List Char) : Reader (List Flag × Char) := fun source =>
  (flagRun stops source.rest).map fun found => (found.1, { source with rest := found.2 })

/-- The flags that are turned on: those behind the first one, which has been read, and what
ends them. -/
def addedFlags : Option Flag → Reader (List Flag × Char)
  | none => pure ([], '-')
  | some _ => readFlags [')', '-', ':']

/-- The flags that are turned off, if there are any. -/
def removedFlags (stop : Char) : Reader (List Flag) :=
  if stop = '-' then do
    let removed ← readFlags [':']
    check (removed.1 ≠ [])
    return removed.1
  else pure []

/-- The flags behind a question mark, the first of which has been read: global ones, or those
that a group turns on and off. -/
def parseFlags (first : Option Flag) : Reader (Step ⊕ (List Flag × List Flag)) := do
  let (more, stop) ← addedFlags first
  let addFlags := first.toList ++ more
  check (!(addFlags.contains .ascii && addFlags.contains .unicode))
  match first, stop with
  | some flag, ')' => return .inl (.globalFlags flag more)
  | _, _ => do
      check (!addFlags.contains .template)
      let delFlags ← removedFlags stop
      check (delFlags.all fun flag => flag ∉ typeFlags ∧ flag ≠ .template ∧ flag ∉ addFlags)
      return .inr (addFlags, delFlags)

end Items

section Groups

variable (database : CharacterDatabase)
-- reads the branches of a group and its closing parenthesis, in the verbose mode or not
variable (branches : Bool → Reader (List (List Pattern)))

def State.opengroup (name : Option (List Char)) (state : State) : State :=
  { state with
    groupwidths := state.groupwidths ++ [none]
    groupdict := (name.map fun name => (name, state.groups)).toList ++ state.groupdict }

def State.closegroup (group : Nat) (pattern : Pattern) (state : State) : State :=
  { state with
    groupwidths := state.groupwidths.set group (some (getwidth state.groupwidths pattern)) }

def capture (verbose : Bool) (name : Option (List Char)) : Reader Step := do
  let state ← getState
  check (name.all fun name => (state.groupdict.lookup name).isNone)
  check (state.groups < maxGroups)
  modifyState (State.opengroup name)
  let pattern ← branchOf <$> branches verbose
  modifyState (State.closegroup state.groups pattern)
  return .append (.subpattern (some state.groups) [] [] pattern)

def flagged (verbose : Bool) (first : Option Flag) : Reader Step := do
  let read ← parseFlags first
  match read with
  | .inl step => return step
  | .inr (add, del) => do
      let pattern ← branchOf <$>
        branches ((verbose || add.contains .verbose) && !del.contains .verbose)
      return .append (.subpattern none add del pattern)

def lookahead (verbose negated : Bool) : Reader Step := do
  let pattern ← branchOf <$> branches verbose
  return .append (.assertion none negated pattern)

/-- The pattern of a lookbehind has a fixed width, and does not refer to its own groups. -/
def lookbehind (verbose negated : Bool) : Reader Step := do
  let state ← getState
  modifyState fun state =>
    { state with lookbehindgroups := some (state.lookbehindgroups.getD state.groups) }
  let pattern ← branchOf <$> branches verbose
  modifyState fun after => { after with lookbehindgroups := state.lookbehindgroups }
  let after ← getState
  let width := getwidth after.groupwidths pattern
  check (width.lo ≤ maxCode && width.lo == width.hi)
  return .append (.assertion (some width.lo) negated pattern)

/-- The group that a condition is about.  Whether a number is one of a group is checked at the
end. -/
def conditionGroup (condname : List Char) : Reader Nat := do
  let state ← getState
  if database.isIdentifier condname then ofOption (state.groupdict.lookup condname)
  else do
    let group ← ofOption (intOf database condname)
    check (group ≠ 0 && group < maxGroups)
    modifyState fun state => { state with grouprefpos := group :: state.grouprefpos }
    return group

def condition (verbose : Bool) : Reader Step := do
  let condname ← getuntil ')'
  let group ← conditionGroup database condname
  let state ← getState
  check (state.checklookbehindgroup group)
  let read ← branches verbose
  match read with
  | [yes] => return .append (.grouprefExists group (seqOf yes) .empty)
  | [yes, no] => return .append (.grouprefExists group (seqOf yes) (seqOf no))
  | _ => fun _ => none

/-- A group with a name, or a reference to one. -/
def namedGroup (verbose : Bool) : Reader Step := do
  let opened ← sourcematch '<'
  if opened then do
    let name ← getuntil '>'
    check (database.isIdentifier name)
    capture branches verbose (some name)
  else do
    let equals ← sourcematch '='
    check equals
    let name ← getuntil ')'
    check (database.isIdentifier name)
    let state ← getState
    let group ← ofOption (state.groupdict.lookup name)
    let pattern ← groupNumber group
    return .append pattern

/-- What follows an opening parenthesis and a question mark. -/
def extension (verbose : Bool) : Token → Reader Step
  | .char 'P' => namedGroup database branches verbose
  | .char ':' => do
      let pattern ← branchOf <$> branches verbose
      return .append (.subpattern none [] [] pattern)
  | .char '#' => do
      let _ ← skipUntil ')'
      return .comment
  | .char '=' => lookahead branches verbose false
  | .char '!' => lookahead branches verbose true
  | .char '<' => do
      let this ← sourceget
      if this = .char '=' then lookbehind branches verbose false
      else do
        check (this = .char '!')
        lookbehind branches verbose true
  | .char '(' => condition database branches verbose
  | .char '>' => do
      let pattern ← branchOf <$> branches verbose
      return .append (.atomicGroup pattern)
  | .char '-' => flagged branches verbose none
  | .char c => do
      let flag ← ofOption (flagOf c)
      flagged branches verbose (some flag)
  | .escape _ => fun _ => none

def group (verbose : Bool) : Reader Step := do
  let question ← sourcematch '?'
  if question then do
    let this ← sourceget
    extension database branches verbose this
  else capture branches verbose none

/-- The next item of a sequence. -/
def parseItem (verbose : Bool) : Token → Reader Step
  | .escape c => .append <$> escape database c
  | .char '[' => .append <$> characterSet database
  | .char '(' => group database branches verbose
  | .char '.' => pure (.append .any)
  | .char '^' => pure (.append (.at .beginning))
  | .char '$' => pure (.append (.at .ending))
  | .char c =>
      if c = '*' ∨ c = '+' ∨ c = '?' ∨ c = '{' then repetition c
      else pure (.append (.literal c.toNat))

end Groups

section Sequences

variable (database : CharacterDatabase)

/-- The items of a sequence with one more step.  Global flags stand in front of all items. -/
def Step.apply (top : Bool) (items : List Pattern) : Step → Option (List Pattern)
  | .bar => none
  | .append pattern => some (items ++ [pattern])
  | .again kind min max =>
      match items.getLast? with
      | none => none
      | some (.at _) => none
      | some (.repeated _ _ _ _) => none
      | some item => some (items.dropLast ++ [.repeated kind min max item])
  | .comment => some items
  | .globalFlags _ _ => if top ∧ items = [] then some items else none

/-- The branches of a pattern, from the items of the first one on.  Only the first branch of
the whole pattern may have global flags. -/
def branchesOf (top : Bool) (items : List Pattern) : List Step → Option (List (List Pattern))
  | [] => some [items]
  | .bar :: steps => (branchesOf false [] steps).map (items :: ·)
  | step :: steps => do
      let items ← step.apply top items
      branchesOf top items steps

def Step.flags : Step → List Flag
  | .globalFlags flag more => flag :: more
  | _ => []

def Source.noteFlags (source : Source) (step : Step) : Source :=
  { source with state := { source.state with flags := source.state.flags ++ step.flags } }

/-- The verbose mode behind a step, which only global flags change. -/
def verboseAfter (verbose : Bool) (source : Source) (step : Step) : Bool :=
  if step.flags = [] then verbose else source.state.flags.contains .verbose

/-- The text behind a comment of the verbose mode. -/
def dropLine (tokens : List Token) : List Token :=
  (tokens.dropWhile (· ≠ .char '\n')).tail

/-- A character that the verbose mode leaves out. -/
def isBlank : Token → Bool
  | .char c => isWhitespace c
  | .escape _ => false

/-- The branches of a group, and its closing parenthesis. -/
def closedBranches (steps : Bool → Reader (List Step)) (verbose : Bool) :
    Reader (List (List Pattern)) := do
  let read ← steps verbose
  let closed ← sourcematch ')'
  check closed
  ofOption (branchesOf false [] read)

/-- The steps up to the end of the pattern or a closing parenthesis. -/
def readSteps : Nat → Bool → Reader (List Step)
  | 0, _ => fun _ => none
  | fuel + 1, verbose => fun source =>
      match source.rest with
      | [] => some ([], source)
      | this :: rest =>
          if this = .char ')' then some ([], source)
          else if this = .char '|' then
            (readSteps fuel verbose { source with rest }).map fun read => (.bar :: read.1, read.2)
          else if verbose ∧ isBlank this then readSteps fuel verbose { source with rest }
          else if verbose ∧ this = .char '#' then
            readSteps fuel verbose { source with rest := dropLine rest }
          else do
            let (step, source) ← parseItem database (closedBranches (readSteps fuel)) verbose this
              { source with rest }
            let source := source.noteFlags step
            (readSteps fuel (verboseAfter verbose source step) source).map fun read =>
              (step :: read.1, read.2)

/-- A pattern that is ready for matching, with its global flags. -/
structure Compiled where
  flags : List Flag
  branches : List (List Pattern)
deriving DecidableEq, Repr

/-- Groups that conditions are about exist, and the flags fit together. -/
def Compiled.isValid (compiled : Compiled) (state : State) : Bool :=
  (state.grouprefpos.all fun group => group < state.groups) &&
    !(compiled.flags.contains .ascii && compiled.flags.contains .unicode) &&
      !(compiled.flags.contains .template && (branchOf compiled.branches).repeats)

/-- `re.compile`.  There is no result when it raises an error. -/
def compile (pattern : List Char) : Option Compiled := do
  let tokens ← tokenize pattern
  let (steps, after) ← readSteps database (tokens.length + 1) false ⟨.initial, tokens⟩
  let branches ← branchesOf true [] steps
  let compiled : Compiled := ⟨after.state.flags, branches⟩
  if after.rest = [] ∧ compiled.isValid after.state then some compiled else none

end Sequences

end PythonRe
