import CatalogSeed.Script.Extended.Options

/-!
Commands of the extended dialect that declare variables, list them and take them away.
-/

namespace CatalogSeed.Script.Extended

/-- The declaration of a variable. -/
def declaration (name : String) (entry : Variable) : String :=
  let flag (holds : Bool) (letter : String) : String := if holds then letter else ""
  let trait (letter : Char) : String := flag (entry.traits.contains letter) letter.toString
  let isNamed := (entry.items.map (·.named)).getD false
  let flags := flag (entry.items.isSome && !isNamed) "a" ++ flag isNamed "A" ++ trait 'i' ++
    trait 'l' ++ flag entry.readOnly "r" ++ trait 'u' ++ flag entry.exported "x"
  let value := match entry.items, entry.value with
    | some items, _ => "=" ++ shownItems items
    | none, some value => "=" ++ doubleQuote value
    | none, none => ""
  "declare -" ++ (if flags = "" then "-" else flags) ++ " " ++ name ++ value ++ "\n"

/-- Lists the variables of a kind. -/
def listDeclarations (kind : Variable → Bool) : Run Unit := do
  let chosen := (← get).vars.filter fun (_, entry) => kind entry
  let lines := (chosen.mergeSort fun a b => a.1 ≤ b.1).map fun (name, entry) =>
    declaration name entry
  Run.print (String.join lines)

/-- A word of a declaration: a name, perhaps with a key, and a value. -/
def settingOf (word : String) : Setting × Bool :=
  let (front, value) := partSetting word
  let chars := front.toList
  let append := value.isSome && chars.getLast? = some '+'
  let front := if append then String.ofList chars.dropLast else front
  let (name, key) := settingName front
  (⟨name, key, value.getD "", none, append⟩, value.isSome)

/-- What a declaration does to variables besides setting them. -/
structure Declaring where
  isLocal : Bool
  change : Variable → Variable
  afterwards : Variable → Variable

/-- Complains about a variable that cannot be changed. -/
def refuseChange (name : String) : Run Unit := do
  let message := name ++ ": readonly variable"
  if ["declare", "typeset", "local"].contains ((← get).command.getD "") then Run.warn message
  else Run.report message
  Run.status 1
  Run.stop .error

/-- Declares what a word says; a list of values is among the settings. -/
def declareOne (declaring : Declaring) (settings : List Setting) (word : String) : Run Unit := do
  let (plain, hasValue) := settingOf word
  let listed := settings.find? fun setting => setting.name = word && setting.items.isSome
  let setting := listed.getD plain
  if !isName setting.name then
    refuseName word
  else
    let shell ← get
    let entry := (shell.vars.lookup setting.name).getD .fresh
    let frame := shell.locals.headD []
    if declaring.isLocal && (frame.lookup setting.name).isNone then
      if entry.readOnly then
        refuseChange setting.name
      Builtin.keep setting.name
      Run.setVariable setting.name fun _ => { Variable.fresh with exported := entry.exported }
    else if entry.readOnly && (hasValue || listed.isSome) then
      refuseChange setting.name
    Run.setVariable setting.name declaring.change
    if hasValue || listed.isSome then
      setting.apply
    Run.setVariable setting.name declaring.afterwards

def declareAll (declaring : Declaring) (settings : List Setting) : List String → Run Unit
  | [] => return
  | word :: rest => do
      try declareOne declaring settings word
      catch
        | .error => pure ()
        | reason => throw reason
      declareAll declaring settings rest

/-- Commands that mark variables as exported or read-only. -/
def markNames (known : String) (kind : Variable → Bool)
    (mark : List Char → Variable → Variable) (words : List String) (settings : List Setting) :
    Run Unit := do
  let (options, names) ← options known words
  let letters := options.map Prod.fst
  if names = [] then
    listDeclarations kind
  else if letters.contains 'f' then
    for name in names do
      if ((← get).functions.lookup name).isNone then
        complain (name ++ ": not a function")
  else
    declareAll ⟨false, id, mark letters⟩ settings names

def exportNames : List String → List Setting → Run Unit :=
  markNames "fnp" (·.exported) fun letters entry =>
    { entry with exported := !letters.contains 'n' }

def readOnlyNames : List String → List Setting → Run Unit :=
  markNames "aAfp" (·.readOnly) fun _ entry => { entry with readOnly := true }

/-- Declares variables, local ones in a function, or lists them. -/
def declareNames (words : List String) (settings : List Setting) : Run Unit := do
  let isLocal := (← get).command = some "local"
  if isLocal && (← get).locals = [] then
    complain "can only be used in a function"
  else
    let (options, names) ← signedOptions "aAfFgiIlnrtuxp" words
    let has (letter : Char) : Bool := options.any (·.1 = letter)
    let drops (letter : Char) : Bool := options.any (·.1 = Char.ofNat (letter.toNat + 128))
    if has 'f' || has 'F' then
      for name in names do
        if ((← get).functions.lookup name).isSome then
          Run.print (name ++ "\n")
        else Run.status 1
    else if has 'p' && names ≠ [] then
      for name in names do
        match (← get).vars.lookup name with
        | some entry => Run.print (declaration name entry)
        | none => complain (name ++ ": not found")
    else if names = [] then
      if !isLocal then
        let kind (entry : Variable) : Bool :=
          (!has 'x' || entry.exported) && (!has 'r' || entry.readOnly) &&
            (!has 'i' || entry.traits.contains 'i') && (!has 'a' || entry.items.isSome)
        listDeclarations kind
    else
      let traits := ['i', 'l', 'u']
      let change (entry : Variable) : Variable :=
        let items := if has 'A' then some ((entry.items.filter (·.named)).getD ⟨true, []⟩)
          else if has 'a' then some entry.toItems else entry.items
        { entry with
          items
          traits := (traits.filter has) ++
            entry.traits.filter fun letter => !drops letter && !has letter }
      let afterwards (entry : Variable) : Variable := { entry with
        readOnly := entry.readOnly || has 'r'
        exported := (entry.exported || has 'x') && !drops 'x' }
      let within := (isLocal || (← get).locals ≠ []) && !has 'g'
      declareAll ⟨within, change, afterwards⟩ settings names

def unsetNames (words : List String) : Run Unit := do
  let (options, names) ← options "fvn" words
  let functions := options.any (·.1 = 'f')
  let vars := options.any (·.1 = 'v')
  for word in names do
    let (name, key) := settingName word
    let shell ← get
    let entry? := shell.vars.lookup name
    if functions then
      set { shell with functions := shell.functions.filter (·.1 ≠ word) }
    else if !isName name then
      if vars then refuseName word
      else set { shell with functions := shell.functions.filter (·.1 ≠ word) }
    else match entry?, key with
      | none, _ =>
          unless vars do
            set { shell with functions := shell.functions.filter (·.1 ≠ word) }
      | some entry, key =>
          if entry.readOnly then complain (name ++ ": cannot unset: readonly variable")
          else match key with
            | none => Run.unset name
            | some key =>
                if key = "@" ∨ key = "*" then Run.unset name
                else if entry.toItems.named then Run.unsetItem name key
                else
                  let number ← calculate key
                  match entry.toItems.keyOf number with
                  | some key => Run.unsetItem name key
                  | none => complain ("[" ++ key ++ "]: bad array subscript")

end CatalogSeed.Script.Extended
