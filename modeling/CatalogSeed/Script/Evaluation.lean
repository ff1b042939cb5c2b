import CatalogSeed.Script.Calling

/-!
Running commands. The function that runs a command is given to the parts it is made of; at the end
of the module they are tied together, with a bound on how deeply commands can be nested.
-/

namespace CatalogSeed.Script

namespace Engine

/-- The words of a command that is filled in, and the lists of values among them. -/
structure Filled where
  words : List String
  settings : List Setting

/-- The words of a command. Behind a command that sets variables, settings are not parted. -/
def commandWords (engine : Engine) (words : List Word) : Run Filled := do
  match words with
  | [] => return ⟨[], []⟩
  | first :: rest =>
      let front ← expandWords engine.capture [first]
      match front with
      | [] => engine.commandWords rest
      | name :: _ =>
          let declares := declaringCommands.contains name &&
            ((← Run.isExtended) || !(["declare", "typeset"].contains name))
          let fields ← rest.mapM fun word => do
            if declares && Word.isSetting word then
              let setting ← expandSetting engine.capture word
              if setting.items.isSome then return ([setting.name], [setting])
              else return ([setting.text], [])
            else return (← expandWords engine.capture [word], [])
          return ⟨front ++ (fields.map Prod.fst).flatten, (fields.map Prod.snd).flatten⟩

/-- Writes what is being run to a channel, if that is wished. -/
def showLine (engine : Engine) (channel : Option Nat) (text : String) : Run Unit := do
  let shell ← get
  if shell.options.contains 'x' then
    let mark := (← Run.lookup? "PS4").getD ""
    let depth := if shell.dialect = .extended then shell.depth else 0
    let front := String.ofList (List.replicate depth (mark.toList.headD '+'))
    let mark ← if mark.contains '$' || mark.contains '\x60' then do
        set { shell with options := shell.options.filter (· ≠ 'x') }
        let word := Word.ofText shell.dialect mark
        let pieces ← Filling.pieces ⟨engine.capture, false, .nowhere⟩ false word
        modify fun after => { after with options := shell.options, status := shell.status }
        pure (pieceText pieces)
      else pure mark
    let shell ← get
    match channel.bind fun number => shell.world.write number (front ++ mark ++ text ++ "\n") with
    | some world => set { shell with world }
    | none => return

/-- Shows something in the extended dialect. -/
def showExtended (engine : Engine) (text : String) : Run Unit := do
  if ← Run.isExtended then
    engine.showLine ((← get).channels.lookup 2) text

/-- A setting as the extended dialect shows it; the values of a list may stand between quotes in
any case. -/
def shownSetting (quotes : Bool) (word : Word) (setting : Setting) : String :=
  match setting.items with
  | none => { setting with value := "" }.text ++
      if setting.value = "" then "" else shownWord setting.value
  | some items =>
      let shown (value : String) : String :=
        if quotes && shownWord value = value then "'" ++ value ++ "'" else shownWord value
      let values := items.map fun (key, value) =>
        (key.map fun key => "[" ++ key ++ "]=").getD "" ++ shown value
      let sign := match word with
        | .setting _ _ true :: _ => "+="
        | _ => "="
      setting.name ++ sign ++ "(" ++ " ".intercalate values ++ ")"

/-- Gives variables values, one after the other, and gives back what was set. In the extended
dialect they are shown, and one that cannot be changed does not keep a command from being run. -/
def assignAll (engine : Engine) (exported lasting : Bool) : List Word → Run (List Setting)
  | [] => return []
  | word :: rest => do
      let setting ← expandSetting engine.capture word
      engine.showExtended (shownSetting false word setting)
      try setting.apply
      catch reason =>
        if lasting || reason ≠ .discard then throw reason
      if exported then
        Run.setVariable setting.name fun entry => { entry with exported := true }
      return setting :: (← engine.assignAll exported lasting rest)

/-- Puts variables back as they were before. -/
def restoreVariables (names : List String) (before after : Shell) : Shell :=
  names.foldl (fun shell name => shell.withVariable name (before.vars.lookup name)) after

/-- Shows a command of the extended dialect. -/
def showCommand (engine : Engine) (filled : Filled) : Run Unit := do
  if filled.words ≠ [] then
    for setting in filled.settings do
      engine.showExtended (shownSetting true [] setting)
    engine.showExtended (" ".intercalate (filled.words.map shownWord))
    if ["export", "readonly"].contains (filled.words.headD "") then
      for word in filled.words.drop 1 do
        if word.contains '=' then
          let (name, value) := partSetting word
          engine.showExtended (name ++ "=" ++ shownWord (value.getD ""))

def simple (engine : Engine) (line : Nat) (settings words : List Word)
    (redirections : List Redirection) : Run Unit := do
  modify fun shell => { shell with line, captured := 0 }
  let status := (← get).status
  engine.runEvent "DEBUG" 'T'
  let filled ← engine.commandWords words
  let shell ← get
  let extended := shell.dialect = .extended
  let errors := shell.channels.lookup 2
  let (found, fields) := find shell false filled.words
  let (special, builtin) := match found with
    | .builtin special => (special, true)
    | _ => (false, false)
  let lasting := special || fields.isEmpty
  let isExec := builtin && fields.head? = some "exec"
  let exported := !lasting || (isExec && 1 < fields.length)
  let perform : Run Unit := engine.perform found status fields filled.settings
  let assign : Run (List Setting) := engine.assignAll exported lasting settings
  let restoring (values : List Setting) (action : Run Unit) : Run Unit := do
    if lasting then action
    else Run.restoring (fun _ after => restoreVariables (values.map (·.name)) shell after) action
  let refused : Run Unit := do
    if special then Run.stop .error
  let within (action : Run Unit) : Run Unit := do
    if isExec then
      if ← engine.redirectAll redirections then action else refused
    else engine.redirected redirections action refused
  if extended then
    let values ← assign
    engine.showCommand filled
    restoring values (within perform)
    let last := filled.words.getLast?.getD ""
    modify fun shell => shell.withVariable "_" (some (.ofText last false))
  else
    within do
      let values ← assign
      engine.showLine errors (" ".intercalate (values.map Setting.text ++ filled.words))
      restoring values perform

/-- Runs one round of a loop, and tells whether there may be a next one. -/
def inLoop (action : Run Bool) : Run Bool := do
  try action
  catch
    | .broken levels => if levels ≤ 1 then return false else throw (.broken (levels - 1))
    | .continued levels => if levels ≤ 1 then return true else throw (.continued (levels - 1))
    | reason => throw reason

def whileLoop (engine : Engine) (whileDone : Bool) (test body : Command) :
    Nat → Nat → Run Unit
  | 0, status => Run.status status
  | rounds + 1, status => do
      let goesOn ← inLoop do
        Run.testing (engine.run test)
        if ((← get).status = 0) = whileDone then
          engine.run body
          return true
        else
          Run.status status
          return false
      if goesOn then engine.whileLoop whileDone test body rounds (← get).status

def eachLoop (engine : Engine) (name : String) (before : Run Unit) (body : Command) :
    List String → Run Unit
  | [] => return
  | word :: rest => do
      before
      Run.assign name word
      let goesOn ← inLoop do
        engine.run body
        return true
      if goesOn then engine.eachLoop name before body rest

/-- Works out an expression of the script. -/
def reckon (engine : Engine) (text : Word) : Run Int := do
  let text := pieceText (← Filling.pieces ⟨engine.capture, false, .nowhere⟩ false text)
  if text.toList.all isSpace then return 1
  engine.showExtended ("(( " ++ String.ofList (text.toList.dropWhile isSpace) ++ " ))")
  calculate text

/-- Runs a body as long as an expression is not zero. -/
def countLoop (engine : Engine) (test next : Word) (body : Command) : Nat → Run Unit
  | 0 => return
  | rounds + 1 => do
      if (← engine.reckon test) = 0 then return
      let goesOn ← inLoop do
        engine.run body
        return true
      if goesOn then
        let _ ← engine.reckon next
        engine.countLoop test next body rounds

/-- Does something as a loop within the loops that are running. -/
def asLoop (action : Run Unit) : Run Unit :=
  Run.restoring (fun before shell => { shell with loops := before.loops }) do
    modify fun shell => { shell with loops := shell.loops + 1 }
    action

/-- Runs the first clause with a pattern that fits, or that the one before goes on with; `ran`
tells that there was one before. -/
def choose (engine : Engine) (text : String) (ran goesOn : Bool) :
    List (List Word × Option Command × Clausing) → Run Unit
  | [] => unless ran do Run.status 0
  | (patterns, body, ending) :: rest => do
      let fits ← if goesOn then pure true
        else patterns.anyM fun word => do
          fitsPattern (← expandPattern engine.capture word) text
      if fits then
        match body with
        | some body => engine.run body
        | none => Run.status 0
        match ending with
        | .ended => return
        | .through => engine.choose text true true rest
        | .tested => engine.choose text true false rest
      else engine.choose text ran false rest

/-- How much a command of a pipeline may write before those behind it have to prove that they want
more. -/
def firstRoom : Nat := 2 * waitingRoom

/-- When a place in a text was written, of which the pieces are given in order. -/
def momentAt (now : Int) : Nat → List (Int × String) → Int
  | _, [] => now
  | count, (moment, text) :: rest =>
      if count < text.length then moment else momentAt now (count - text.length) rest

/-- Runs commands that read what the one before writes, and gives the status of each. A command may
write as much as is wanted: it begins with little room, and begins anew with more if it turns out
that all of this is read. -/
def pipe (engine : Engine) (input : Option Nat) : List Command → Run (List Nat)
  | [] => return []
  | [last] => do
      engine.separately do
        if let some number := input then point 0 number
        engine.run last
      return [(← get).status]
  | command :: rest => within command rest (engine.pipe · rest) 5 firstRoom
where
  within (command : Command) (rest : List Command) (next : Option Nat → Run (List Nat)) :
      Nat → Nat → Run (List Nat)
    | tries, room => do
        let start ← get
        let room? := if tries = 0 then none else some room
        let (output, world) := start.world.openStream (.sink [] room?)
        modify fun shell => { shell with world }
        engine.separately do
          if let some number := input then point 0 number
          point 1 output
          engine.run command
        let status := (← get).status
        Run.status start.status
        let world := (← get).world
        let full := world.isFull output
        let pieces := match world.stream output with
          | .sink pieces _ => pieces.reverse
          | _ => []
        let text := Octets.toBytes (String.join (pieces.map Prod.snd))
        Run.changeWorld fun world => world.setStream output (.source text)
        let statuses ← next (some output)
        let left := (((← get).world.left output).getD []).length
        let cut := statuses.head? = some (128 + 13)
        match tries with
        | tries + 1 =>
            if full && left = 0 && !cut then
              set start
              within command rest next tries (16 * room)
            else
              if full then
                Run.changeWorld fun world =>
                  let now := max start.world.tree.now
                    (momentAt world.tree.now (text.length - left) pieces)
                  { world with tree := { world.tree with now } }
              return (if waitingRoom < left then 128 + 13 else status) :: statuses
        | 0 => return status :: statuses

/-- Keeps the statuses of the commands of a pipeline, where they can be asked for. -/
def keepStatuses (statuses : List Nat) : Run Unit := do
  if ← Run.isExtended then
    Run.assignList "PIPESTATUS" (statuses.map decimal)

def pipeline (engine : Engine) (commands : List Command) : Run Unit := do
  for command in commands do
    if let .simple _ _ (word :: _) _ := command then
      if let some name := (Word.plain? word).filter isName then Builtin.noteIfProgram name
  let statuses ← engine.pipe none commands
  keepStatuses statuses
  if (← get).options.contains '|' then
    Run.status ((statuses.filter (· ≠ 0)).getLast?.getD 0)

/-- Runs a command beside the shell, which does not wait for its end. -/
def inBackground (engine : Engine) (command : Command) : Run Unit := do
  let process := (← get).world.processes
  let before := { (← get).world with processes := process + 1 }
  Run.changeWorld fun _ => { before.silent with deadline := none, expired := false }
  engine.separately do
    let (number, world) := (← get).world.openStream .nothing
    modify fun shell => { shell with world, tested := false }
    point 0 number
    engine.run command
  modify fun shell => { shell with
    world := World.hold process shell.status before shell.world
    background := some process
    status := 0 }

/-- Runs one command with what it is made of. -/
def step (engine : Engine) : Command → Run Unit
  | .simple line settings words redirections => do
      engine.simple line settings words redirections
      engine.settleSignals
      keepStatuses [(← get).status]
      engine.checkFailure
  | .pipeline commands => do
      engine.pipeline commands
      engine.checkFailure
  | .negated command => do
      Run.testing (engine.run command)
      Run.status (if (← get).status = 0 then 1 else 0)
  | .ifDone first second => do
      Run.testing (engine.run first)
      if (← get).status = 0 then engine.run second
  | .ifFailed first second => do
      Run.testing (engine.run first)
      if (← get).status ≠ 0 then engine.run second
  | .sequence commands => do
      for command in commands do
        engine.run command
  | .background line command => do
      modify fun shell => { shell with line }
      engine.inBackground command
      engine.settleSignals
  | .subshell line command => do
      modify fun shell => { shell with line }
      engine.separately (engine.run command)
      engine.checkFailure
  | .redirected line (.subshell _ command) redirections => do
      modify fun shell => { shell with line }
      engine.separately do
        if ← engine.redirectAll redirections then engine.run command
      engine.checkFailure
  | .redirected line command redirections => do
      modify fun shell => { shell with line }
      engine.redirected redirections (engine.run command) engine.checkFailure
  | .branch test yes no => do
      Run.testing (engine.run test)
      if (← get).status = 0 then engine.run yes
      else match no with
        | some no => engine.run no
        | none => Run.status 0
  | .loop whileDone test body => asLoop (engine.whileLoop whileDone test body engine.rounds 0)
  | .each line name words body => do
      modify fun shell => { shell with line }
      let fields ← expandWords engine.capture words
      Run.status 0
      let before := engine.showExtended
        ("for " ++ name ++ " in " ++ " ".intercalate (words.map Word.text))
      asLoop (engine.eachLoop name before body fields)
  | .choice line word clauses => do
      modify fun shell => { shell with line }
      let text ← expandText engine.capture word
      engine.showExtended ("case " ++ Word.text word ++ " in")
      engine.choose text false false clauses
  | .definition name body => do
      modify fun shell => { shell with
        functions := (name, body) :: shell.functions.filter (·.1 ≠ name), status := 0 }
  | .condition line test => do
      modify fun shell => { shell with line }
      let render (words : List String) : Run Unit :=
        engine.showExtended ("[[ " ++ " ".intercalate words ++ " ]]")
      try
        Run.status (if ← Verdict.holds engine.capture render test then 0 else 1)
      catch
        | .error => pure ()
        | reason => throw reason
      keepStatuses [(← get).status]
      engine.checkFailure
  | .calculation line text => do
      modify fun shell => { shell with line }
      let text := pieceText (← Filling.pieces ⟨engine.capture, false, .nowhere⟩ false text)
      engine.showExtended ("(( " ++ text ++ " ))")
      try
        modify fun shell => { shell with command := some "((" }
        let value ← calculate text
        modify fun shell => { shell with command := none }
        Run.status (if value = 0 then 1 else 0)
      catch
        | .discard => modify fun shell => { shell with command := none }
        | reason => throw reason
      keepStatuses [(← get).status]
      engine.checkFailure
  | .counted line first test next body => do
      modify fun shell => { shell with line }
      let _ ← engine.reckon first
      Run.status 0
      asLoop (engine.countLoop test next body engine.rounds)

end Engine

/-- How many rounds a loop may take. -/
def mostRounds : Nat := 10000000

/-- Runs a command that is nested at most so deeply. -/
def Command.run (utility : Utility.Job → Utility.Result) : Nat → Command → Run Unit
  | 0, _ => Run.stop .exit
  | depth + 1, command => do
      unless (← get).options.contains 'n' do
        Engine.step ⟨Command.run utility depth, utility, mostRounds⟩ command

/-- How deeply commands may be nested. -/
def deepest : Nat := 100000

def engine (utility : Utility.Job → Utility.Result) : Engine :=
  ⟨Command.run utility deepest, utility, mostRounds⟩

end CatalogSeed.Script
