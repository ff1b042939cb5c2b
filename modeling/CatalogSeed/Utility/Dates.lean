import CatalogSeed.Utility.MomentText

/-!
Telling the date: now, of a file, or as a text says.
-/

namespace CatalogSeed.Utility

/-- The formats that have names, by how exact they are. -/
def exactFormats (between : String) : List (String × String) := [
  ("date", "%Y-%m-%d"), ("hours", "%Y-%m-%d" ++ between ++ "%H%:z"),
  ("minutes", "%Y-%m-%d" ++ between ++ "%H:%M%:z"),
  ("seconds", "%Y-%m-%d" ++ between ++ "%H:%M:%S%:z"),
  ("ns", "%Y-%m-%d" ++ between ++ "%H:%M:%S" ++ (if between = "T" then "," else ".") ++ "%N%:z")]

/-- The format that the name of an exactness stands for. -/
def exactFormat? (between name : String) : Option String :=
  let found := (exactFormats between).filter fun (other, _) => other.startsWith name
  (found.head?.filter fun _ => name ≠ "").map Prod.snd

def date (job : Job) : Result :=
  let long := [("date", "d", true), ("utc", "u", false), ("universal", "u", false),
    ("iso-8601", "I", false), ("rfc-email", "R", false), ("rfc-2822", "R", false),
    ("rfc-3339", "rfc", true), ("reference", "r", true), ("file", "f", true),
    ("debug", "debug", false), ("set", "s", true)]
  let words := job.arguments.map fun word =>
    if word = "-I" ∨ word = "--iso-8601" then "--iso-8601=date"
    else if word.startsWith "-I" then "--iso-8601=" ++ String.ofList (word.toList.drop 2)
    else word
  match ({ job with arguments := words } : Job).call "uR" "drfs" long false 1 with
  | .error result => result
  | .ok call =>
      let moment : Except Result Int := match call.value? ["d", "s"], call.value? ["r"] with
        | some text, _ =>
            match MomentText.parse? job.tree.now text with
            | some moment => .ok moment
            | none => .error (job.fail 1 ("invalid date " ++ quoted text))
        | none, some path =>
            match job.tree.nodeAt (Octets.toText path) with
            | .ok node => .ok node.changed
            | .error error => .error (job.fail 1 (shown path ++ ": " ++ reason error))
        | none, none => .ok job.tree.now
      let named? : Except Result (Option String) :=
        match call.value? ["I"], call.value? ["rfc"] with
        | some name, _ =>
            match exactFormat? "T" name with
            | some text => .ok (some text)
            | none => .error (job.usage 1 ("invalid argument " ++ quoted name ++ " for " ++
                quoted "--iso-8601" ++ "\nValid arguments are:\n  - 'hours'\n  - 'minutes'\n" ++
                "  - 'date'\n  - 'seconds'\n  - 'ns'"))
        | none, some name =>
            match exactFormat? " " name with
            | some text => .ok (some text)
            | none => .error (job.usage 1 ("invalid argument " ++ quoted name ++ " for " ++
                quoted "--rfc-3339" ++ "\nValid arguments are:\n" ++
                "  - 'date'\n  - 'seconds'\n  - 'ns'"))
        | none, none => .ok (if call.has ["R"] then some "%a, %d %b %Y %T %z" else none)
      match named?, moment, call.operands with
      | .error result, _, _ | _, .error result, _ => result
      | .ok named?, .ok moment, operands =>
          let render (text : String) : Result := job.output (Moment.render moment text ++ "\n")
          match operands, named? with
          | [], some text => render text
          | [], none => render "%a %b %e %T %Z %Y"
          | [text], named? =>
              if !text.startsWith "+" then job.fail 1 ("invalid date " ++ quoted text)
              else if named?.isSome then job.fail 1 "multiple output formats specified"
              else render (String.ofList (text.toList.drop 1))
          | _ :: extra :: _, _ => job.usage 1 ("extra operand " ++ quoted extra)

end CatalogSeed.Utility
