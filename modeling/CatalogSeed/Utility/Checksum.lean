import CatalogSeed.Utility.WideDigest

/-!
The programs that show digests of files and check them.
-/

namespace CatalogSeed.Utility

namespace Digest

/-- What became of the lines of a list of digests. -/
structure Checks where
  good : Nat
  wrong : Nat
  missing : Nat
  illegible : Nat

/-- The digest and the file name of a line. -/
def entry? (width : Nat) (line : List Char) : Option (String × String) :=
  let digest := line.takeWhile fun c => c.isDigit || ('a' ≤ c && c ≤ 'f') || ('A' ≤ c && c ≤ 'F')
  match line.drop digest.length with
  | ' ' :: mark :: name =>
      if digest.length = width && name ≠ [] && (mark = ' ' || mark = '*') then
        some ((String.ofList digest).toLower, String.ofList name)
      else none
  | _ => none

/-- A count of things and what they were. -/
def counted (n : Nat) (one many : String) : String :=
  "WARNING: " ++ decimal n ++ " " ++ if n = 1 then one else many

def checkLine (job : Job) (call : Call) (digest : List UInt8 → String) (checks : Checks)
    (line : List Char) : Task Checks := do
  let report (text : String) : Task Unit :=
    if call.has ["status"] then pure () else Task.print (text ++ "\n")
  match entry? (digest []).length line with
  | none => return { checks with illegible := checks.illegible + 1 }
  | some (expected, name) =>
      match job.readFile name with
      | .error error =>
          if call.has ["ignore-missing"] && error = .notFound then return checks
          job.warn (shown name ++ ": " ++ reason error)
          report (name ++ ": FAILED open or read")
          return { checks with missing := checks.missing + 1 }
      | .ok content =>
          if digest (Octets.toBytes (String.ofList content)) = expected then
            unless call.has ["quiet"] do report (name ++ ": OK")
            return { checks with good := checks.good + 1 }
          else
            report (name ++ ": FAILED")
            return { checks with wrong := checks.wrong + 1 }

def checkFile (job : Job) (call : Call) (digest : List UInt8 → String) (name : String) :
    Task Unit := do
  match job.readFile name with
  | .error error => job.complain (shown name ++ ": " ++ reason error)
  | .ok content =>
      let lines := ((linesOf content).map chop).filter fun line => line.head? ≠ some '#'
      let checks ← lines.foldlM (checkLine job call digest) ⟨0, 0, 0, 0⟩
      if checks.good + checks.wrong + checks.missing = 0 && !call.has ["ignore-missing"] then
        let label := if Job.isInput name then "'standard input'" else shown name
        job.complain (label ++ ": no properly formatted checksum lines found")
      else
        let warn (n : Nat) (one many : String) : Task Unit :=
          if n = 0 || call.has ["status"] then pure () else job.warn (counted n one many)
        warn checks.illegible "line is improperly formatted" "lines are improperly formatted"
        warn checks.missing "listed file could not be read" "listed files could not be read"
        warn checks.wrong "computed checksum did NOT match" "computed checksums did NOT match"
        if checks.wrong + checks.missing > 0 || (call.has ["strict"] && checks.illegible > 0) then
          Task.setStatus 1

end Digest

/-- Shows the digest of each file, or checks lists of such digests. -/
def digestFiles (job : Job) (digest : List UInt8 → String) : Result :=
  let long := [("binary", "b", false), ("check", "c", false), ("text", "t", false),
    ("warn", "w", false), ("zero", "z", false), ("quiet", "quiet", false),
    ("status", "status", false), ("strict", "strict", false),
    ("ignore-missing", "ignore-missing", false)]
  match job.call "bctwz" "" long false 1 with
  | .error result => result
  | .ok call =>
      if call.has ["c"] then
        let names := call.files
        job.perform (names.contains "-") (names.forM (Digest.checkFile job call digest))
      else
        let mark := if call.has ["b"] then " *" else "  "
        let final := if call.has ["z"] then "\x00" else "\n"
        job.overFiles call.operands id 1 fun name content =>
          digest (Octets.toBytes (String.ofList content)) ++ mark ++ name ++ final

def cksum (job : Job) : Result :=
  job.withOptions "" fun call =>
  job.overFiles call.operands shown 1 fun name content =>
    let bytes := Octets.toBytes (String.ofList content)
    decimal (Digest.crc bytes) ++ " " ++ decimal bytes.length ++
      (if call.operands = [] then "" else " " ++ name) ++ "\n"

/-- Shows the sums of files: rotating ones over blocks of 1024 bytes, or plain ones over blocks of
512. -/
def sum (job : Job) : Result :=
  match job.call "rs" "" [("sysv", "s", false)] false 1 with
  | .error result => result
  | .ok call =>
      let plain := (call.options.getLast?).map Prod.fst = some "s"
      job.overFiles call.operands shown 1 fun name content =>
        let bytes := Octets.toBytes (String.ofList content)
        let label := if call.operands = [] then "" else " " ++ name
        if plain then
          decimal (Digest.foldedSum bytes) ++ " " ++ decimal ((bytes.length + 511) / 512) ++
            label ++ "\n"
        else
          let digits := decimal (Digest.rotatingSum bytes)
          let count := decimal ((bytes.length + 1023) / 1024)
          let fill (c : Char) (size : Nat) (text : String) : String :=
            String.ofList (List.replicate (size - text.length) c) ++ text
          fill '0' 5 digits ++ " " ++ fill ' ' 5 count ++ label ++ "\n"

end CatalogSeed.Utility
