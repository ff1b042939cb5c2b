import CatalogSeed.Files.FileTree
import CatalogSeed.Text.Utf8

/-!
An empty working directory, and around it what every system has.
-/

namespace CatalogSeed.FileTree

/-- The moment at which everything begins, in nanoseconds. -/
def beginning : Int := 1767225600 * 1000000000

/-- The programs that every system has, besides shells. -/
def utilities : List String :=
  ["[", "arch", "awk", "b2sum", "base32", "base64", "basename", "basenc", "cat", "chgrp", "chmod",
    "chown", "cksum", "cmp", "comm", "cp", "csplit", "cut", "date", "dd", "df", "diff", "dir",
    "dirname", "du", "echo", "egrep", "env", "expand", "expr", "factor", "false", "fgrep", "find",
    "flock", "fmt", "fold", "getopt", "grep", "groups", "head", "hostid", "hostname", "id",
    "install", "join", "kill", "link", "ln", "logname", "ls", "mawk", "md5sum", "mkdir", "mkfifo",
    "mknod", "mktemp", "mv", "nice", "nl", "nohup", "nproc", "numfmt", "od", "paste", "pathchk",
    "pr", "printenv", "printf", "ps", "pwd", "readlink", "realpath", "rev", "rm", "rmdir", "sed",
    "seq", "setsid", "sha1sum", "sha224sum", "sha256sum", "sha384sum", "sha512sum", "shred",
    "shuf", "sleep", "sort", "split", "stat", "stdbuf", "stty", "sum", "sync", "tac", "tail",
    "tee", "test", "timeout", "touch", "tr", "true", "truncate", "tsort", "tty", "uname",
    "unexpand", "uniq", "unlink", "users", "vdir", "wc", "which", "who", "whoami", "xargs", "yes"]

/-- The devices that every system has, by their names. -/
def devices : List (List String × Device) :=
  [(["null"], .nothing), (["zero"], .zeros), (["full"], .full), (["random"], .nothing),
    (["urandom"], .nothing), (["tty"], .terminal), (["stdin"], .input), (["stdout"], .output),
    (["stderr"], .errors), (["fd", "0"], .input), (["fd", "1"], .output), (["fd", "2"], .errors)]

/-- The directories that every system has, with what is permitted in them. -/
def directories : List (List String × Nat) :=
  [([], 0o755), (["tmp"], 0o1777), (["tmp", "work"], 0o755), (["usr"], 0o755),
    (["usr", "bin"], 0o755), (["usr", "sbin"], 0o755), (["usr", "local"], 0o755),
    (["usr", "local", "bin"], 0o755), (["usr", "local", "sbin"], 0o755), (["dev"], 0o755),
    (["dev", "fd"], 0o755), (["dev", "shm"], 0o1777), (["usr", "lib"], 0o755),
    (["usr", "lib64"], 0o755), (["usr", "share"], 0o755), (["usr", "include"], 0o755),
    (["usr", "src"], 0o755), (["usr", "local", "lib"], 0o755), (["usr", "local", "share"], 0o755),
    (["usr", "local", "etc"], 0o755), (["var", "log"], 0o755), (["var", "tmp"], 0o1777),
    (["var", "lib"], 0o755), (["var", "cache"], 0o755), (["root"], 0o700), (["proc"], 0o555),
    (["sys"], 0o555)] ++
  ["boot", "etc", "home", "media", "mnt", "opt", "run", "srv", "var"].map fun name =>
    ([name], 0o755)

/-- The symbolic links that every system has. -/
def standardLinks : List (List String × String) :=
  [(["bin"], "usr/bin"), (["sbin"], "usr/sbin"), (["lib"], "usr/lib"), (["lib64"], "usr/lib64"),
    (["usr", "bin", "sh"], "dash"), (["var", "run"], "/run")]

/-- The users that every system has: names, numbers, numbers of their groups, remarks, homes and
shells. -/
def users : List (String × Nat × Nat × String × String × String) :=
  [
    ("root", 0, 0, "root", "/root", "/bin/bash"),
    ("daemon", 1, 1, "daemon", "/usr/sbin", "/usr/sbin/nologin"),
    ("bin", 2, 2, "bin", "/bin", "/usr/sbin/nologin"),
    ("sys", 3, 3, "sys", "/dev", "/usr/sbin/nologin"),
    ("sync", 4, 65534, "sync", "/bin", "/bin/sync"),
    ("games", 5, 60, "games", "/usr/games", "/usr/sbin/nologin"),
    ("man", 6, 12, "man", "/var/cache/man", "/usr/sbin/nologin"),
    ("lp", 7, 7, "lp", "/var/spool/lpd", "/usr/sbin/nologin"),
    ("mail", 8, 8, "mail", "/var/mail", "/usr/sbin/nologin"),
    ("news", 9, 9, "news", "/var/spool/news", "/usr/sbin/nologin"),
    ("uucp", 10, 10, "uucp", "/var/spool/uucp", "/usr/sbin/nologin"),
    ("proxy", 13, 13, "proxy", "/bin", "/usr/sbin/nologin"),
    ("www-data", 33, 33, "www-data", "/var/www", "/usr/sbin/nologin"),
    ("backup", 34, 34, "backup", "/var/backups", "/usr/sbin/nologin"),
    ("list", 38, 38, "Mailing List Manager", "/var/list", "/usr/sbin/nologin"),
    ("irc", 39, 39, "ircd", "/run/ircd", "/usr/sbin/nologin"),
    ("_apt", 42, 65534, "", "/nonexistent", "/usr/sbin/nologin"),
    ("nobody", 65534, 65534, "nobody", "/nonexistent", "/usr/sbin/nologin")]

/-- The groups that every system has. -/
def groups : List (String × Nat) :=
  [("root", 0), ("daemon", 1), ("bin", 2), ("sys", 3), ("adm", 4), ("tty", 5), ("disk", 6),
    ("lp", 7), ("mail", 8), ("news", 9), ("uucp", 10), ("man", 12), ("proxy", 13), ("kmem", 15),
    ("dialout", 20), ("fax", 21), ("voice", 22), ("cdrom", 24), ("floppy", 25), ("tape", 26),
    ("sudo", 27), ("audio", 29), ("dip", 30), ("www-data", 33), ("backup", 34), ("operator", 37),
    ("list", 38), ("irc", 39), ("src", 40), ("shadow", 42), ("utmp", 43), ("video", 44),
    ("sasl", 45), ("plugdev", 46), ("staff", 50), ("games", 60), ("users", 100), ("nogroup", 65534)]

def usersText : String :=
  String.join (users.map fun (name, user, group, remark, home, shell) =>
    ":".intercalate [name, "x", toString user, toString group, remark, home, shell] ++ "\n")

def groupsText : String :=
  String.join (groups.map fun (name, group) => name ++ ":x:" ++ toString group ++ ":\n")

def standardNodes : List (List String × Node) :=
  let node (item : Item) (mode : Nat) : Node := ⟨item, mode, 0, 0, beginning, beginning⟩
  directories.map (fun (location, mode) => (location, node .directory mode)) ++
    standardLinks.map (fun (location, target) => (location, node (.link target) 0o777)) ++
    [(["etc", "passwd"], node (.file (Utf8.encode usersText)) 0o644),
      (["etc", "group"], node (.file (Utf8.encode groupsText)) 0o644)] ++
    devices.map (fun (name, device) => ("dev" :: name, node (.device device) 0o666)) ++
    ([("dash", "sh"), ("bash", "bash")] ++ utilities.map fun name => (name, name)).map
      fun (name, utility) => (["usr", "bin", name], node (.utility utility) 0o755)

def fresh : FileTree where
  names := standardNodes.mapIdx fun number (location, _) => (location, number)
  nodes := standardNodes.mapIdx fun number (_, node) => (number, node)
  made := standardNodes.length
  numbered := by
    intro name member
    obtain ⟨number, small, rfl⟩ := List.mem_mapIdx.1 member
    exact small
  workingDirectory := ["tmp", "work"]
  mask := 0o022
  limits := []
  now := beginning
  output := []
  errors := []

end CatalogSeed.FileTree
