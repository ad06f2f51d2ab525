import CompilerLauncher.FileTree.Edit
import CompilerLauncher.Process.Image

/-!
The files of a system on which programs run: the programs themselves, the directory for temporary
files and the device that holds nothing.
-/

namespace CompilerLauncher

namespace Programs

/-- The programs of the system, with the names they are found under. -/
def listed : List (String × String) :=
  [("dash", "sh"), ("[", "["), ("basename", "basename"), ("cat", "cat"),
    ("chmod", "chmod"), ("cp", "cp"), ("cut", "cut"), ("dirname", "dirname"), ("echo", "echo"),
    ("env", "env"), ("false", "false"), ("head", "head"), ("id", "id"), ("kill", "kill"),
    ("ln", "ln"), ("ls", "ls"), ("mkdir", "mkdir"), ("mv", "mv"), ("printenv", "printenv"),
    ("printf", "printf"), ("pwd", "pwd"), ("readlink", "readlink"), ("realpath", "realpath"),
    ("rm", "rm"), ("rmdir", "rmdir"), ("seq", "seq"), ("sleep", "sleep"), ("sort", "sort"),
    ("tac", "tac"), ("tail", "tail"), ("tee", "tee"), ("test", "test"), ("touch", "touch"),
    ("tr", "tr"), ("true", "true"), ("uniq", "uniq"), ("wc", "wc"), ("which", "which")]

/-- The directory of the programs. -/
def directory : Place := [Utf8.encode "usr", Utf8.encode "bin"]

/-- The entry of a program. -/
def program (name : String) : Entry :=
  .file (Image.programMark ++ Utf8.encode name) 0o755

/-- The directories of the system. -/
def directories : List (List String) :=
  [["dev"], ["etc"], ["home"], ["opt"], ["root"], ["usr"], ["usr", "bin"], ["usr", "lib"],
    ["usr", "local"], ["usr", "local", "bin"], ["usr", "sbin"], ["usr", "share"], ["var"]]

/-- The tree of a system on which nothing else is. -/
def tree : FileTree :=
  { entries :=
      [([Utf8.encode "dev", Utf8.encode "null"], .sink),
        ([Utf8.encode "tmp"], .directory 0o777),
        ([Utf8.encode "bin"], .link (Utf8.encode "usr/bin")),
        ([Utf8.encode "lib"], .link (Utf8.encode "usr/lib")),
        ([Utf8.encode "sbin"], .link (Utf8.encode "usr/sbin")),
        (directory ++ [Utf8.encode "sh"], .link (Utf8.encode "dash"))] ++
      (directories.map fun names => (names.map Utf8.encode, .directory 0o755)) ++
      listed.map fun (name, program) =>
        (directory ++ [Utf8.encode name], Programs.program program) }

end Programs

end CompilerLauncher
