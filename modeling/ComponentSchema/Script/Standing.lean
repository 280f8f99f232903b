import ComponentSchema.Script.Text

/-!
What stands on every system outside the directory that scripts work in: the directories that are
known by their names, and the tools that lie in some of them.
-/

namespace ComponentSchema.Script

namespace Standing

def tools : List String :=
  ["[", "arch", "awk", "b2sum", "base32", "base64", "basename", "basenc", "bash", "cat", "chcon",
    "chgrp", "chmod", "chown", "chroot", "cksum", "cmp", "comm", "cp", "csplit", "cut", "dash",
    "date", "dd", "df", "diff", "dir", "dircolors", "dirname", "du", "echo", "egrep", "env",
    "expand", "expr", "factor", "false", "fgrep", "find", "fmt", "fold", "grep", "groups", "head",
    "hostid", "id", "install", "join", "link", "ln", "logname", "ls", "mawk", "md5sum", "mkdir",
    "mkfifo", "mknod", "mktemp", "mv", "nice", "nl", "nohup", "nproc", "numfmt", "od", "paste",
    "pathchk", "perl", "pinky", "pr", "printenv", "printf", "ptx", "pwd", "readlink", "realpath",
    "rev", "rm", "rmdir", "runcon", "sed", "seq", "sh", "sha1sum", "sha224sum", "sha256sum",
    "sha384sum", "sha512sum", "shred", "shuf", "sleep", "sort", "split", "stat", "stdbuf", "sum",
    "sync", "tac", "tail", "tar", "tee", "test", "timeout", "touch", "tr", "true", "truncate",
    "tsort", "tty", "uname", "unexpand", "uniq", "unlink", "users", "vdir", "wc", "which", "who",
    "whoami", "xargs", "yes"]

def toolDirectories : List Text := ["/bin".toList, "/usr/bin".toList]

def toolAt? (path : Text) : Option Text :=
  let name := (path.reverse.takeWhile (· != '/')).reverse
  let directory := path.take (path.length - name.length - 1)
  if toolDirectories.contains directory && tools.contains (String.ofList name) then some name
  else none

def isDirectoryAt (path : Text) : Bool :=
  let kept := (path.reverse.dropWhile (· == '/')).reverse
  ["/bin", "/boot", "/dev", "/etc", "/home", "/lib", "/mnt", "/opt", "/proc", "/root", "/run",
    "/sbin", "/srv", "/sys", "/tmp", "/usr", "/usr/bin", "/usr/lib", "/usr/local",
    "/usr/local/bin", "/usr/sbin", "/usr/share", "/var", "/var/tmp"].contains (String.ofList kept)

end Standing

end ComponentSchema.Script
