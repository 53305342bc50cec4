import PoolConsole.Text.Digits

/-!
The form of a command line: words, and options written `--name value` or `--name=value`, some of
which may also be written as a letter behind a dash. Behind `--` there are only words.
-/

namespace PoolConsole.Cli

/-- Why a command line is not carried out. -/
inductive Refusal where
  | usage
  | help
  | version
  deriving DecidableEq, Repr

/-- What a value of the command line has to be. -/
inductive ValueKind where
  | text
  /-- Any text but the empty one. -/
  | filled
  /-- A whole number of 32 bits. -/
  | natural32
  /-- A whole number of 64 bits. -/
  | natural64
  | oneOf (words : List String)
  deriving DecidableEq, Repr

/-- A whole number of 32 bits; zero may have a sign of either kind. -/
def natural32? (text : String) : Option Nat :=
  (Text.signed? text.toList).bind fun i =>
    if 0 ≤ i.toInt ∧ i.toInt < UInt32.size then some i.toInt.toNat else none

/-- A whole number of 64 bits, without a minus sign. -/
def natural64? (text : String) : Option Nat :=
  (Text.unsigned? text.toList).map UInt64.toNat

def ValueKind.accepts (text : String) : ValueKind → Bool
  | .text => true
  | .filled => text ≠ ""
  | .natural32 => (natural32? text).isSome
  | .natural64 => (natural64? text).isSome
  | .oneOf words => words.contains text

inductive OptionKind where
  /-- Takes no value and stands at most once. -/
  | flag
  /-- Takes a value and stands at most once. -/
  | single
  /-- Takes a value and may stand repeatedly. -/
  | many
  /-- Asks for something else than the command. -/
  | ask (r : Refusal)
  deriving DecidableEq, Repr

structure OptionForm where
  name : String
  kind : OptionKind := .single
  letter : Option Char := none
  value : ValueKind := .text
  deriving DecidableEq, Repr

/-- The words that a command takes. -/
structure WordsForm where
  /-- What the words have to be, one by one. -/
  kinds : List ValueKind := []
  /-- How many of them there have to be. -/
  least : Nat := 0
  /-- Whether there may be any number of words like the last one. -/
  repeated : Bool := false
  deriving DecidableEq, Repr

/-- What the word behind `n` others has to be, if there may be one. -/
def WordsForm.kind? (form : WordsForm) (n : Nat) : Option ValueKind :=
  form.kinds[n]?.or (if form.repeated then form.kinds.getLast? else none)

/-- What a command line gives: values by option, and words, both in the order written. -/
structure Given where
  values : List (String × String) := []
  words : List String := []
  deriving DecidableEq, Repr

namespace Given

def get? (g : Given) (name : String) : Option String :=
  g.values.lookup name

def all (g : Given) (name : String) : List String :=
  (g.values.filter fun v => v.1 = name).map Prod.snd

def has (g : Given) (name : String) : Bool :=
  (g.get? name).isSome

/-- Adds an option, unless its value is of another kind, or it stands for the second time and may
not. -/
def add (g : Given) (form : OptionForm) (value : String) : Except Refusal Given :=
  if form.kind ≠ .many ∧ g.has form.name then .error .usage
  else if form.value.accepts value then
    .ok { g with values := g.values ++ [(form.name, value)] }
  else .error .usage

/-- Adds a word, unless there may be none or it is of another kind. -/
def addWord (form : WordsForm) (g : Given) (word : String) : Except Refusal Given :=
  if (form.kind? g.words.length).any (·.accepts word) then
    .ok { g with words := g.words ++ [word] }
  else .error .usage

end Given

/-- What a single argument is. -/
inductive Shape where
  | long (name : String) (value : Option String)
  | letters (cs : List Char)
  | wordsFollow
  | word
  deriving DecidableEq, Repr

def Shape.ofChars : List Char → Shape
  | ['-', '-'] => .wordsFollow
  | '-' :: '-' :: rest =>
    .long (String.ofList (rest.takeWhile (· ≠ '=')))
      (match rest.dropWhile (· ≠ '=') with
        | [] => none
        | _ :: value => some (String.ofList value))
  | '-' :: c :: cs => .letters (c :: cs)
  | _ => .word

def shape (arg : String) : Shape :=
  .ofChars arg.toList

/-- Flags written as letters behind one dash. -/
def addLetters (forms : List OptionForm) : List Char → Given → Except Refusal Given
  | [], g => .ok g
  | c :: cs, g =>
    match forms.find? fun f => f.letter = some c with
    | none => .error .usage
    | some form =>
      match form.kind with
      | .flag => g.add form "" >>= addLetters forms cs
      | .ask r => .error r
      | .single | .many => .error .usage

/-- Reads arguments with options and words of the given forms, and refuses what does not fit as
soon as it is met. Without a form for words reading ends before the first one. Gives what was read,
and the arguments that are left. -/
def scan (forms : List OptionForm) (words : Option WordsForm) :
    List String → Given → Except Refusal (Given × List String)
  | [], g => .ok (g, [])
  | arg :: rest, g =>
    match shape arg, words with
    | .wordsFollow, none => .error .usage
    | .wordsFollow, some form => (rest.foldlM (Given.addWord form) g).map (·, [])
    | .word, none => .ok (g, arg :: rest)
    | .word, some form => g.addWord form arg >>= scan forms words rest
    | .letters cs, _ => addLetters forms cs g >>= scan forms words rest
    | .long name value, _ =>
      match forms.find? fun f => f.name = name with
      | none => .error .usage
      | some form =>
        match form.kind, value with
        | .ask r, none => .error r
        | .flag, none => g.add form "" >>= scan forms words rest
        | .ask _, some _ | .flag, some _ => .error .usage
        | .single, some value | .many, some value => g.add form value >>= scan forms words rest
        | .single, none | .many, none =>
          match rest with
          | [] => .error .usage
          | value :: rest =>
            if shape value = .word then g.add form value >>= scan forms words rest
            else .error .usage

end PoolConsole.Cli
