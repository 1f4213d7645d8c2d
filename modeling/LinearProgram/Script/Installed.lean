import LinearProgram.Script.Utility.Table

/-!
The programs of a host and the directories that are always there.

A program is a file like any other: it can be copied, linked to, and removed. Its content is the mark of programs with
the name of what it does.

* `programNames`: the programs.
* `imageOf`, `programOf?`: the content of the file of a program.
* `installed`: the files of a host before anything has been done.
-/

namespace LinearProgram

namespace Script

/-- The utilities that run other commands, apart from the shell. -/
def runners : List String := ["env", "nice", "nohup", "timeout", "xargs"]

/-- The shells. They all do the same. -/
def shells : List String := ["bash", "dash"]

/-- The names of the programs of a host. -/
def programNames : List String := Utility.table.map Prod.fst ++ runners ++ shells

/-- What the file of a program begins with. -/
def programMark : List UInt8 := [127, 69, 76, 70]

/-- The content of the file of a program. -/
def imageOf (name : String) : List UInt8 := programMark ++ Utf8.encode name

/-- The program in a file with a content. -/
def programOf? (bytes : List UInt8) : Option String := programNames.find? fun name => imageOf name = bytes

/-- The directories that are always there. -/
def systemDirectories : List String :=
  ["/dev", "/etc", "/home", "/opt", "/proc", "/root", "/tmp", "/usr/bin", "/usr/lib", "/usr/local/bin",
   "/usr/local/sbin", "/usr/sbin", "/var"]

/-- The links that are always there, with where they lead. -/
def systemLinks : List (String × String) :=
  [("/bin", "usr/bin"), ("/lib", "usr/lib"), ("/sbin", "usr/sbin"), ("/usr/bin/sh", "dash")]

/-- The devices that are always there. -/
def systemDevices : List (String × Device) := [("null", .null), ("zero", .zero), ("full", .full)]

/-- The files of a host before anything has been done: its programs, its devices, and a file that belongs to the
system. -/
def installed : Files :=
  let fs := systemDirectories.foldl (fun fs directory => (fs.makeDirectories directory).2) Files.empty
  let fs := programNames.foldl (fun fs name => fs.add ["usr", "bin", name] ⟨imageOf name, true⟩) fs
  let fs := systemLinks.foldl (fun fs (path, target) => (fs.link target path).toOption.getD fs) fs
  let fs := systemDevices.foldl (fun fs (name, d) => fs.put ["dev", name] (.device d)) fs
  fs.add ["etc", "passwd"] ⟨[], false⟩

end Script

end LinearProgram
