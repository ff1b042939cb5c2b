import CatalogSeed.Script.Condition
import CatalogSeed.Script.Printing
import CatalogSeed.Utility.Blocks
import CatalogSeed.Utility.Checksum
import CatalogSeed.Utility.Columns
import CatalogSeed.Utility.Dates
import CatalogSeed.Utility.Difference
import CatalogSeed.Utility.Dump
import CatalogSeed.Utility.EditCall
import CatalogSeed.Utility.Encoding
import CatalogSeed.Utility.Exchange
import CatalogSeed.Utility.Joining
import CatalogSeed.Utility.Launching
import CatalogSeed.Utility.Listing
import CatalogSeed.Utility.Names
import CatalogSeed.Utility.Numbers
import CatalogSeed.Utility.Paragraphs
import CatalogSeed.Utility.Search
import CatalogSeed.Utility.Sections
import CatalogSeed.Utility.Splitting
import CatalogSeed.Utility.Transfer

/-!
All utilities by name.
-/

namespace CatalogSeed.Utility

def printf (job : Job) : Result :=
  match job.arguments with
  | [] => job.missingOperand
  | format :: words =>
      let filled := Script.fillIn .program format words
      let pieces := filled.pieces.map fun (complains, text) =>
        if complains then job.complaint text else ⟨false, text⟩
      job.written pieces filled.status false

def test (job : Job) (words : List String) : Result :=
  match Script.Condition.outcome job.tree (words.length + 1) words with
  | .ok outcome => job.done "" (if outcome then 0 else 1)
  | .error message => job.fail 2 message

def sleep (job : Job) : Result :=
  job.withOptions "" fun call =>
  match call.operands with
  | [] => job.missingOperand
  | words =>
      let wrong := words.filter fun word => (spanOf? word).isNone
      match wrong.getLast? with
      | some _ =>
          let lines := wrong.map fun word => "invalid time interval " ++ quoted word
          job.usage 1 (("\n" ++ job.name ++ ": ").intercalate lines)
      | none =>
          let spans := words.map fun word => (spanOf? word).getD none
          let whole := spans.foldl (fun sum span =>
            sum.bind fun sum => span.map (sum + ·)) (some 0)
          { job.output "" with duration := whole }

def yes (job : Job) : Result :=
  let line := if job.arguments = [] then "y" else " ".intercalate job.arguments
  let count := job.room / (line.utf8ByteSize + 1) + 1
  { job.output (joinLines (List.replicate count line)) with duration := none }

def tty (job : Job) : Result :=
  match job.call "s" "" [("silent", "s", false), ("quiet", "s", false)] false 2 with
  | .error result => result
  | .ok call => job.done (if call.has ["s"] then "" else "not a tty\n") 1

def letters : String := "abcdefghijklmnopqrstuvwxyzABCDEFGHIJKLMNOPQRSTUVWXYZ0123456789"

/-- Runs a utility. Of one that only shows what this system is like nothing is known. -/
def run (job : Job) : Result :=
  match job.utility with
  | "[" =>
      if job.arguments.getLast? = some "]" then test job job.arguments.dropLast
      else job.fail 2 "missing ']'"
  | "arch" => job.withOptions "" fun _ => job.output "x86_64\n"
  | "b2sum" => digestFiles job Digest.blake2
  | "base32" | "base64" => encodeFile job (some job.utility)
  | "basename" => basename job
  | "basenc" => encodeFile job none
  | "cat" => cat job
  | "chgrp" => changeOwner job true
  | "chmod" => chmod job
  | "chown" => changeOwner job false
  | "cksum" => cksum job
  | "cmp" => cmp job
  | "comm" => comm job
  | "cp" => cp job
  | "csplit" => csplit job
  | "cut" => cut job
  | "date" => date job
  | "dd" => dd job
  | "diff" => diff job
  | "dir" | "ls" | "vdir" => ls job
  | "dirname" => dirname job
  | "echo" => job.output (Script.echoAsGiven job.arguments)
  | "egrep" | "fgrep" | "grep" => grep job
  | "expand" => expand job
  | "expr" => expr job
  | "false" => job.done "" 1
  | "fmt" => fmt job
  | "fold" => fold job
  | "head" => head job
  | "id" => userIds job
  | "install" => install job
  | "join" => join job
  | "link" => link job
  | "ln" => ln job
  | "md5sum" => digestFiles job Digest.md5
  | "mkdir" => mkdir job
  | "mkfifo" => mkfifo job
  | "mktemp" => mktemp job
  | "mv" => mv job
  | "nl" => nl job
  | "od" => od job
  | "paste" => paste job
  | "printenv" => printenv job
  | "printf" => printf job
  | "pwd" => job.withOptions "LP" fun _ => job.output (pathOf job.tree.workingDirectory ++ "\n")
  | "readlink" => readlink job
  | "realpath" => realpath job
  | "rev" => rev job
  | "rm" => rm job
  | "rmdir" => rmdir job
  | "sed" => sed job
  | "seq" => seq job
  | "sha1sum" => digestFiles job Digest.sha1
  | "sha224sum" => digestFiles job Digest.sha224
  | "sha256sum" => digestFiles job Digest.sha256
  | "sha384sum" => digestFiles job Digest.sha384
  | "sha512sum" => digestFiles job Digest.sha512
  | "sleep" => sleep job
  | "sort" => sort job
  | "split" => split job
  | "stat" => stat job
  | "sum" => sum job
  | "tac" => tac job
  | "tail" => tail job
  | "tee" => tee job
  | "test" => test job job.arguments
  | "touch" => touch job
  | "tr" => tr job
  | "true" => job.output ""
  | "truncate" => truncate job
  | "tty" => tty job
  | "uname" => uname job
  | "uniq" => uniq job
  | "unlink" => unlink job
  | "wc" => wc job
  | "which" => which job
  | "whoami" => job.withOptions "" fun _ => job.output "root\n"
  | "yes" => yes job
  | _ => job.withOptions letters fun _ => job.output ""

end CatalogSeed.Utility
