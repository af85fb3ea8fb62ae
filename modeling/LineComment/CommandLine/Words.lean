import LineComment.CommandLine.Given

namespace LineComment.CommandLine

def isNegative : List Char → Bool
  | '-' :: s =>
    let whole := s.takeWhile Char.isDigit
    match s.dropWhile Char.isDigit with
    | [] => !whole.isEmpty
    | '.' :: fraction => !fraction.isEmpty && fraction.all Char.isDigit
    | _ => false
  | _ => false

def isDashed (word : String) : Bool :=
  word.toList.head? = some '-' && !isNegative word.toList

def isShortDashed (word : String) : Bool :=
  !isNegative word.toList &&
    match word.toList with
    | '-' :: '-' :: c :: _ => c ≠ '-'
    | '-' :: c :: _ => c ≠ '-'
    | _ => false

def unquote (s : List Char) : String :=
  match s with
  | q :: c :: rest =>
    if (q = '\'' ∨ q = '"') ∧ (c :: rest).getLast? = some q then .ofList (c :: rest).dropLast
    else .ofList s
  | _ => .ofList s

def isExponent : List Char → Bool
  | [] => true
  | 'e' :: s => !(dropSign s).isEmpty && (dropSign s).all Char.isDigit
  | _ => false

def isAttachedNumber (s : List Char) : Bool :=
  let whole := (dropSign s).takeWhile Char.isDigit
  !whole.isEmpty &&
    match (dropSign s).dropWhile Char.isDigit with
    | '.' :: s => isExponent (s.dropWhile Char.isDigit)
    | s => isExponent s

def isWordChar (c : Char) : Bool :=
  c.isAlphanum || c = '_'

def isLineEnd (c : Char) : Bool :=
  c = '\n' || c = '\r' || c = '\u2028' || c = '\u2029'

def firstLine (s : List Char) : List Char :=
  s.takeWhile (!isLineEnd ·)

/-- A name and a text, if the text is attached to the name: an equals sign stands in the first line,
after one character or more. The first equals sign of all ends the name. -/
def attached? (s : List Char) : Option (List Char × List Char) :=
  if '=' ∈ (firstLine s).drop 1 then
    some (s.takeWhile (· ≠ '='), (s.dropWhile (· ≠ '=')).drop 1)
  else none

def isPair (c : Char) : Bool :=
  1 < (Text.unitsOf c).length

namespace Given

def collect (given : Given) (name : String) (attached : Option (List Char)) (rest : List String) :
    Given × Nat :=
  let taken := rest.takeWhile (!isDashed ·)
  let isLone := match attached with
    | none => taken.isEmpty
    | some text => text.isEmpty && rest.isEmpty
  let texts := if isLone then (given.standard? name).getD []
    else (attached.map unquote).toList ++ taken
  (given.give name (.list (texts.map some)), taken.length)

def attach (given : Given) (name : String) (text : List Char) (quoted : Bool) (rest : List String) :
    Given × Nat :=
  if given.kind? name = some .list then given.collect name (some text) rest
  else (given.give name (.text (if quoted then unquote text else .ofList text)), 0)

def detach (given : Given) (name : String) (looksOption : String → Bool) (rest : List String) :
    Given × Nat :=
  match given.kind? name, rest with
  | some .list, _ => given.collect name none rest
  | _, [] => (given.give name (given.lone name), 0)
  | kind, next :: _ =>
    if next = "true" ∨ next = "false" ∨ kind ≠ some .switch ∧ !looksOption next then
      (given.give name (.text next), 1)
    else (given.give name (given.lone name), 0)

/-- What a group of short options gives. Each stands alone, up to one with a text attached: after
an equals sign, a number, or anything that begins with no letter. The last may take the words after
it. -/
def group (given : Given) : List Char → List String → Given × Nat
  | [], _ => (given, 0)
  | [c], rest =>
    if c = '-' then (given, 0) else given.detach c.toString isShortDashed rest
  | c :: next :: more, rest =>
    let name := c.toString
    let giveRest := (given.give name (.text (.ofList (next :: more))), 0)
    if isPair c then (given, 0)
    else if next = '=' ∧ !more.isEmpty then given.attach name more false rest
    else if next = '-' ∧ more.isEmpty then giveRest
    else if c.isAlpha ∧ isAttachedNumber (next :: more) then giveRest
    else if (!more.isEmpty || isPair next) ∧ !isWordChar next then giveRest
    else (given.give name (given.lone name)).group (next :: more) rest

def long (given : Given) (word : String) (s : List Char) (rest : List String) : Given × Nat :=
  match attached? s with
  | some (name, text) =>
    if name = [] then (given, 0) else given.attach (.ofList name) text true rest
  | none =>
    let plain (s : List Char) : Given × Nat :=
      if firstLine s = [] then ({ given with words := given.words ++ [word] }, 0)
      else given.detach (.ofList (firstLine s)) isDashed rest
    match s with
    | 'n' :: 'o' :: '-' :: denied =>
      let name := String.ofList (firstLine denied)
      if name = "" then plain s
      else
        let off := if given.kind? name = some .list then Value.list [none] else .flag false
        (given.give name off, 0)
    | _ => plain s

def short (given : Given) (word : String) (s : List Char) (rest : List String) : Given × Nat :=
  let plain : Given × Nat :=
    if isNegative word.toList then ({ given with words := given.words ++ [word] }, 0)
    else given.group s rest
  match s with
  | c :: '.' :: inner =>
    if isLineEnd c || isPair c || firstLine inner = [] then plain
    else if (attached? inner).isSome then
      let text := (s.dropWhile (· ≠ '=')).drop 1
      if c = '=' then (given, 0)
      else (given.give (.ofList (s.takeWhile (· ≠ '='))) (.text (.ofList text)), 0)
    else if isNegative word.toList then plain
    else given.detach (.ofList (c :: '.' :: firstLine inner))
      (fun next => next.toList.head? = some '-') rest
  | _ => plain

/-- What one word gives, with the number of words after it that belong to it. Dashes alone are a
word, but two of them take all that follows and give nothing. -/
def interpret (given : Given) (word : String) (rest : List String) : Given × Nat :=
  let plain : Given × Nat := ({ given with words := given.words ++ [word] }, 0)
  match word.toList with
  | ['-', '-'] => (given, rest.length)
  | '-' :: '-' :: s =>
    match s with
    | '-' :: _ =>
      match s.dropWhile (· = '-') with
      | [] | '=' :: _ => plain
      | _ => given.long word s rest
    | _ => given.long word s rest
  | '-' :: c :: s => given.short word (c :: s) rest
  | _ => plain

def readWords (given : Given) : List String → Given
  | [] => given
  | word :: rest =>
    let (given, taken) := given.interpret word rest
    given.readWords (rest.drop taken)
termination_by words => words.length
decreasing_by simp only [List.length_drop, List.length_cons]; omega

end Given

def parse (grammar : Grammar) (words : List String) : Given :=
  Given.readWords { grammar } words

end LineComment.CommandLine
