import Scriptlet.Shell.Builtin.Variables

/-!
# Builtins about arguments and options

The options and the arguments of the shell, and reading options off arguments.
-/

namespace Scriptlet.Shell

def optionNames : List (String × Option Char) :=
  [("errexit", some 'e'), ("noglob", some 'f'), ("ignoreeof", some 'I'), ("interactive", some 'i'),
   ("monitor", some 'm'), ("noexec", some 'n'), ("stdin", some 's'), ("xtrace", some 'x'),
   ("verbose", some 'v'), ("vi", some 'V'), ("emacs", some 'E'), ("noclobber", some 'C'),
   ("allexport", some 'a'), ("notify", some 'b'), ("nounset", some 'u'), ("nolog", none),
   ("debug", none)]

def setOption (isSet : Bool) (letter : Char) : Act Unit := do
  unless optionNames.any fun o => o.2 = some letter do
    refuse ("Illegal option -" ++ String.singleton letter)
  change fun p =>
    let options := (optionNames.filterMap Prod.snd).reverse.filter fun c =>
      if c = letter then isSet else p.options.contains c
    { p with options }

/-- Writes how the options are set. -/
def listOptions (asCommands : Bool) : Act Nat := do
  let p ← asks id
  let isSet (letter : Option Char) : Bool := letter.any fun c => p.options.contains c
  let line (name : String) (letter : Option Char) : String :=
    if asCommands then "set " ++ (if isSet letter then "-o " else "+o ") ++ name ++ "\n"
    else
      let gap := String.ofList (List.replicate (16 - name.length) ' ')
      name ++ gap ++ (if isSet letter then "on" else "off") ++ "\n"
  let all := String.join (optionNames.map fun (name, letter) => line name letter)
  put (if asCommands then all else "Current option settings\n" ++ all) 0

/-- Sets options by the letters in an argument; a letter may ask for a name, which the next argument
is. Gives the arguments that are left, or nothing if the options are to be listed. -/
def setLetters (isSet : Bool) (rest : List String) : List Char → Act (Option (List String))
  | [] => return some rest
  | 'o' :: letters => do
    match rest with
    | [] => return none
    | name :: rest =>
      match optionNames.lookup name with
      | some (some letter) =>
        setOption isSet letter
        setLetters isSet rest letters
      | some none => setLetters isSet rest letters
      | none => refuse ("Illegal option -o " ++ name)
  | c :: letters => do
    setOption isSet c
    setLetters isSet rest letters

/-- Sets options, at most so many times, and gives the arguments behind them, and whether they are
to replace those of the shell. -/
def setOptions : Nat → List String → Act (Option (List String × Bool))
  | 0, arguments => return some (arguments, false)
  | n + 1, arguments => do
    match arguments with
    | [] => return some ([], false)
    | "--" :: rest => return some (rest, true)
    | "-" :: rest =>
      setOption false 'x'
      setOption false 'v'
      return some (rest, !rest.isEmpty)
    | s :: rest =>
      let sign := s.toList.headD ' '
      if sign = '-' || sign = '+' then
        match ← setLetters (sign = '-') rest s.toList.tail with
        | some rest => setOptions n rest
        | none =>
          let _ ← listOptions (sign = '+')
          return none
      else return some (s :: rest, true)

/-- Sets options and arguments. -/
def setArguments : Builtin := fun arguments => do
  if arguments.isEmpty then
    listVariables "" ((← orderedVariables).filter fun v => v.2.value.isSome)
  else
    match ← setOptions (arguments.length + 1) arguments with
    | some (rest, true) => change fun p => { p with arguments := rest }
    | _ => pure ()
    return 0

def shift : Builtin := fun arguments => do
  let n ← match arguments with
    | [] => pure 1
    | s :: _ => numberOf s
  if n > (← asks Process.arguments).length then refuse "can't shift that many"
  change fun p => { p with arguments := p.arguments.drop n }
  return 0

/-- The letters of options that are left of the word before an index, or those of the word at it,
and the index behind. No letters are left if that is not a word of options. -/
def optionLetters (all : List String) (index place : Nat) : Nat × List Char :=
  match if place = 0 then [] else (all.getD (index - 2) "").toList.drop place with
  | c :: cs => (index, c :: cs)
  | [] =>
    match (all.getD (index - 1) "").toList with
    | ['-', '-'] => (index + 1, [])
    | '-' :: c :: cs => (index + 1, c :: cs)
    | _ => (index, [])

/-- Reads the next option off arguments, by the letters in the first argument, into the variable
that the second one names. -/
def getOptions : Builtin := fun arguments => do
  match arguments with
  | letters :: name :: rest =>
    let all ← if rest.isEmpty then asks Process.arguments else pure rest
    let index := max 1 (((← value? "OPTIND").bind Numeral.natural10?).getD 1)
    let isQuiet := letters.toList.head? = some ':'
    let found (code : Nat) (option : Char) (index place : Nat) : Act Nat := do
      assign "OPTIND" (toString index) false
      change fun p => { p with optionPlace := place }
      assign name (String.singleton option) false
      return code
    let wrong (c instead : Char) (message : String) (index place : Nat) : Act Nat := do
      if isQuiet then assign "OPTARG" (String.singleton c) false
      else
        let _ ← write 2 (message ++ "\n")
        putVariable "OPTARG" none
      found 0 (if isQuiet then instead else '?') index place
    match optionLetters all index (← asks Process.optionPlace) with
    | (index, []) => found 1 '?' index 0
    | (index, c :: more) =>
      let place := if more.isEmpty then 0
        else (all.getD (index - 2) "").length - more.length
      match if c = ':' then [] else letters.toList.dropWhile (· != c) with
      | [] => wrong c '?' ("Illegal option -" ++ String.singleton c) index place
      | _ :: ':' :: _ =>
        match more, all[index - 1]? with
        | [], none => wrong c ':' ("No arg for -" ++ String.singleton c ++ " option") index 0
        | [], some value =>
          assign "OPTARG" value false
          found 0 c (index + 1) 0
        | more, _ =>
          assign "OPTARG" (String.ofList more) false
          found 0 c index 0
      | _ =>
        assign "OPTARG" "" false
        found 0 c index place
  | _ => refuse "Usage: getopts optstring var [arg]"

end Scriptlet.Shell
