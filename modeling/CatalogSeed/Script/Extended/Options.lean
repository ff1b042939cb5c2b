import CatalogSeed.Script.Setting

/-!
Options of the commands in the extended dialect, and the commands that set the options of the shell
itself.
-/

namespace CatalogSeed.Script.Extended

/-- How commands are to be called. -/
def usages : List (String × String) := [
  (".", ". filename [arguments]"),
  ("alias", "alias [-p] [name[=value] ... ]"),
  ("builtin", "builtin [shell-builtin [arg ...]]"),
  ("cd", "cd [-L|[-P [-e]] [-@]] [dir]"),
  ("command", "command [-pVv] command [arg ...]"),
  ("declare", "declare [-aAfFgiIlnrtux] [name[=value] ...] or declare -p [-aAfFilnrtux] " ++
    "[name ...]"),
  ("eval", "eval [arg ...]"),
  ("exec", "exec [-cl] [-a name] [command [argument ...]] [redirection ...]"),
  ("export", "export [-fn] [name[=value] ...] or export -p"),
  ("getopts", "getopts optstring name [arg ...]"),
  ("hash", "hash [-lr] [-p pathname] [-dt] [name ...]"),
  ("kill", "kill [-s sigspec | -n signum | -sigspec] pid | jobspec ... or kill -l [sigspec]"),
  ("local", "local [option] name[=value] ..."),
  ("mapfile", "mapfile [-d delim] [-n count] [-O origin] [-s count] [-t] [-u fd] [-C callback] " ++
    "[-c quantum] [array]"),
  ("printf", "printf [-v var] format [arguments]"),
  ("pwd", "pwd [-LP]"),
  ("read", "read [-ers] [-a array] [-d delim] [-i text] [-n nchars] [-N nchars] [-p prompt] " ++
    "[-t timeout] [-u fd] [name ...]"),
  ("readarray", "readarray [-d delim] [-n count] [-O origin] [-s count] [-t] [-u fd] " ++
    "[-C callback] [-c quantum] [array]"),
  ("readonly", "readonly [-aAf] [name[=value] ...] or readonly -p"),
  ("set", "set [-abefhkmnptuvxBCEHPT] [-o option-name] [--] [-] [arg ...]"),
  ("shopt", "shopt [-pqsu] [-o] [optname ...]"),
  ("source", "source filename [arguments]"),
  ("trap", "trap [-lp] [[arg] signal_spec ...]"),
  ("type", "type [-afptP] name [name ...]"),
  ("typeset", "typeset [-aAfFgiIlnrtux] name[=value] ... or typeset -p [-aAfFilnrtux] " ++
    "[name ...]"),
  ("ulimit", "ulimit [-SHabcdefiklmnpqrstuvxPRT] [limit]"),
  ("umask", "umask [-p] [-S] [mode]"),
  ("unalias", "unalias [-a] name [name ...]"),
  ("unset", "unset [-f] [-v] [-n] [name ...]"),
  ("wait", "wait [-fn] [-p var] [id ...]")]

/-- Says how the command is to be called, and stops it. -/
def showUsage {α : Type} : Run α := do
  let name := (← get).command.getD ""
  Run.writeError (name ++ ": usage: " ++ (usages.lookup name).getD name ++ "\n")
  Run.status 2
  Run.stop .error

/-- Complains about the call of a command, and stops it. -/
def misused {α : Type} (message : String) : Run α := do
  Run.warn message
  showUsage

/-- Complains, and goes on with status 1. -/
def complain (message : String) : Run Unit := do
  Run.warn message
  Run.status 1

/-- Complains about a name that cannot be one. -/
def refuseName (name : String) : Run Unit :=
  complain ("\x60" ++ name ++ "': not a valid identifier")

/-- Takes options off the front of words. Known letters with a colon behind them take a word; a
plus sign counts as an option where this is wanted. -/
def takeOptions (known : List Char) (plus : Bool) :
    Nat → List String → Run (List (Char × String) × List String)
  | 0, words => return ([], words)
  | fuel + 1, words => do
      match words with
      | "--" :: rest => return ([], rest)
      | word :: rest =>
          match word.toList with
          | sign :: letter :: more =>
              if sign ≠ '-' && !(plus && sign = '+') then return ([], words)
              let place := known.findIdx (· = letter)
              if letter = ':' ∨ known.length ≤ place then
                misused (sign.toString ++ letter.toString ++ ": invalid option")
              let found (value : String) (rest : List String) :
                  Run (List (Char × String) × List String) := do
                let (options, left) ← takeOptions known plus fuel rest
                let letter := if sign = '+' then letter.toNat + 128 else letter.toNat
                return ((Char.ofNat letter, value) :: options, left)
              if known[place + 1]? ≠ some ':' then
                found "" (if more = [] then rest else String.ofList (sign :: more) :: rest)
              else
                match more, rest with
                | [], [] => misused ("-" ++ letter.toString ++ ": option requires an argument")
                | [], value :: rest => found value rest
                | value, rest => found (String.ofList value) rest
          | _ => return ([], words)
      | [] => return ([], [])

/-- The options of a command, and the words behind them. -/
def options (known : String) (words : List String) :
    Run (List (Char × String) × List String) :=
  takeOptions known.toList false (words.foldl (fun sum word => sum + word.length + 1) 1) words

/-- The same where a plus sign takes an option back; its letter is kept with 128 added. -/
def signedOptions (known : String) (words : List String) :
    Run (List (Char × String) × List String) :=
  takeOptions known.toList true (words.foldl (fun sum word => sum + word.length + 1) 1) words

/-- The options of the shell by name, in their order. -/
def optionNames : List (String × Char) := [
  ("allexport", 'a'), ("braceexpand", 'B'), ("emacs", '1'), ("errexit", 'e'), ("errtrace", 'E'),
  ("functrace", 'T'), ("hashall", 'h'), ("histexpand", 'H'), ("history", '2'),
  ("ignoreeof", '3'), ("interactive-comments", '4'), ("keyword", 'k'), ("monitor", 'm'),
  ("noclobber", 'C'), ("noexec", 'n'), ("noglob", 'f'), ("nolog", '5'), ("notify", 'b'),
  ("nounset", 'u'), ("onecmd", 't'), ("physical", 'P'), ("pipefail", '|'), ("posix", '6'),
  ("privileged", 'p'), ("verbose", 'v'), ("vi", '7'), ("xtrace", 'x')]

/-- Options that are on unless they are turned off; turned off, they are kept as other letters. -/
def standing : List Char := ['B', 'h', '4']

def isOn (options : List Char) (letter : Char) : Bool :=
  if standing.contains letter then !options.contains (Char.ofNat (letter.toNat + 128))
  else options.contains letter

def setOption (on : Bool) (letter : Char) : Run Unit :=
  if standing.contains letter then Builtin.setOption (!on) (Char.ofNat (letter.toNat + 128))
  else Builtin.setOption on letter

def padded (width : Nat) (text : String) : String :=
  text ++ String.ofList (List.replicate (width - text.length) ' ')

def listOptions (asCommands : Bool) : Run Unit := do
  let options := (← get).options
  let line (option : String × Char) : String :=
    let on := isOn options option.2
    if asCommands then "set " ++ (if on then "-" else "+") ++ "o " ++ option.1 ++ "\n"
    else padded 15 option.1 ++ "\t" ++ (if on then "on" else "off") ++ "\n"
  Run.print (String.join (optionNames.map line))

def setNamed (on : Bool) (name : String) : Run Unit := do
  match optionNames.lookup name with
  | some letter => setOption on letter
  | none => complain (name ++ ": invalid option name")

/-- Sets options as words say, and gives the words behind them; none if there are no such
words. -/
def setOptions : Nat → List String → Run (Option (List String))
  | 0, _ => return none
  | fuel + 1, words => do
      match words with
      | [] => return none
      | "--" :: rest => return some rest
      | "-" :: rest =>
          setOption false 'x'
          setOption false 'v'
          return if rest = [] then none else some rest
      | word :: rest =>
          match word.toList with
          | sign :: letters =>
              if sign ≠ '-' ∧ sign ≠ '+' then return some words
              let plain := letters.filter (· ≠ 'o')
              match plain.find? fun c => !"abefhkmnptuvxBCEHPT".toList.contains c with
              | some letter => misused (sign.toString ++ letter.toString ++ ": invalid option")
              | none => pure ()
              for letter in plain do
                setOption (sign = '-') letter
              if letters.contains 'o' then
                match rest with
                | [] =>
                    listOptions (sign = '+')
                    return none
                | name :: rest =>
                    setNamed (sign = '-') name
                    if (optionNames.lookup name).isNone then return none
                    setOptions fuel rest
              else setOptions fuel rest
          | [] => return some words

/-- A text between double quotes, as declarations are listed. -/
def doubleQuote (text : String) : String :=
  if text.toList.any fun c => !ShellQuoted.isPrintable c then inputText text
  else
    let escaped (c : Char) : List Char :=
      if "\"\\$\x60".toList.contains c then ['\\', c] else [c]
    String.ofList ('"' :: text.toList.flatMap escaped ++ ['"'])

/-- The entries of a list as they are set. -/
def shownItems (items : Items) : String :=
  let entries := items.entries.map fun (key, value) =>
    let key := if ShellQuoted.needsQuotes key then doubleQuote key else key
    "[" ++ key ++ "]=" ++ doubleQuote value ++ if items.named then " " else ""
  "(" ++ (if items.named then "" else " ").intercalate entries ++ ")"

def changeOptions (words : List String) : Run Unit := do
  if words = [] then
    let entries := (← get).vars.filterMap fun (name, entry) =>
      match entry.items with
      | some items => some (name, shownItems items)
      | none => entry.value.map fun value => (name, shownValue value)
    let lines := (entries.mergeSort fun a b => a.1 ≤ b.1).map fun (name, value) =>
      name ++ "=" ++ value ++ "\n"
    Run.print (String.join lines)
  else
    match ← setOptions (words.length + 1) words with
    | some arguments => modify fun shell => { shell with arguments, optionOffset := 0 }
    | none => return

/-- Further settings of the shell, each with whether it is on from the start. -/
def featureNames : List (String × Bool) := [
  ("autocd", false), ("assoc_expand_once", false), ("cdable_vars", false), ("cdspell", false),
  ("checkhash", false), ("checkjobs", false), ("checkwinsize", true), ("cmdhist", true),
  ("compat31", false), ("compat32", false), ("compat40", false), ("compat41", false),
  ("compat42", false), ("compat43", false), ("compat44", false), ("complete_fullquote", true),
  ("direxpand", false), ("dirspell", false), ("dotglob", false), ("execfail", false),
  ("expand_aliases", false), ("extdebug", false), ("extglob", false), ("extquote", true),
  ("failglob", false), ("force_fignore", true), ("globasciiranges", true),
  ("globskipdots", true), ("globstar", false), ("gnu_errfmt", false), ("histappend", false),
  ("histreedit", false), ("histverify", false), ("hostcomplete", true), ("huponexit", false),
  ("inherit_errexit", false), ("interactive_comments", true), ("lastpipe", false),
  ("lithist", false), ("localvar_inherit", false), ("localvar_unset", false),
  ("login_shell", false), ("mailwarn", false), ("no_empty_cmd_completion", false),
  ("nocaseglob", false), ("nocasematch", false), ("noexpand_translation", false),
  ("nullglob", false), ("patsub_replacement", true), ("progcomp", true),
  ("progcomp_alias", false), ("promptvars", true), ("restricted_shell", false),
  ("shift_verbose", false), ("sourcepath", true), ("syslog_history", false),
  ("varredir_close", false), ("xpg_echo", false)]

/-- The settings that are on from the start. -/
def startFeatures : List String :=
  featureNames.filterMap fun (name, on) => if on then some name else none

/-- Shows or changes further settings. -/
def changeFeatures (words : List String) : Run Unit := do
  let (options, names) ← options "pqsuo" words
  let has (letter : Char) : Bool := options.any (·.1 = letter)
  let shell ← get
  let isOn (name : String) : Bool :=
    if has 'o' then ((optionNames.lookup name).map (isOn shell.options)).getD false
    else shell.features.contains name
  let isKnown (name : String) : Bool :=
    if has 'o' then (optionNames.lookup name).isSome else (featureNames.lookup name).isSome
  let line (name : String) : String :=
    if has 'p' then
      if has 'o' then "set " ++ (if isOn name then "-" else "+") ++ "o " ++ name ++ "\n"
      else "shopt " ++ (if isOn name then "-s " else "-u ") ++ name ++ "\n"
    else
      padded 15 name ++ "\t" ++ (if isOn name then "on" else "off") ++
        "\n"
  let all := if has 'o' then optionNames.map Prod.fst else featureNames.map Prod.fst
  if has 's' && has 'u' then
    complain "cannot set and unset shell options simultaneously"
  else if names = [] then
    let chosen := all.filter fun name =>
      if has 's' then isOn name else if has 'u' then !isOn name else true
    unless has 'q' do
      Run.print (String.join (chosen.map line))
  else
    for name in names do
      if !isKnown name then
        complain (name ++ ": invalid shell option name")
      else if has 's' || has 'u' then
        if has 'o' then setNamed (has 's') name
        else
          modify fun shell =>
            let others := shell.features.filter (· ≠ name)
            { shell with features := if has 's' then name :: others else others }
      else
        unless has 'q' do
          Run.print (line name)
        unless isOn name do
          Run.status 1

end CatalogSeed.Script.Extended
