import BuildPipeline.FileSystem.Operations
import BuildPipeline.Shell.Tools.Table

/-!
The files of a usual system: its programs, devices and folders. A program's file holds a mark and
the program's name, so that a copy of it is the same program.
-/
namespace BuildPipeline.Shell.Installation

/-- What the file of a program begins with, which no text does. -/
def mark : Bytes := [0x7F, 0x45, 0x4C, 0x46, 0xFF]

def programFile (name : String) : Node := .file (mark ++ Bytes.ofText name).toByteArray true

def programOf? (content : ByteArray) : Option String :=
  if (content.extract 0 mark.length).toList = mark then
    String.fromUTF8? (content.extract mark.length content.size)
  else none

/-- Programs that start others. -/
def starters : List String :=
  ["bash", "dash", "env", "find", "nice", "nohup", "setsid", "sh", "stdbuf", "timeout", "which",
    "xargs"]

def programNames : List String := starters ++ Tools.table.map (·.1)

def device (d : Device) : Node := .device d

def devices : List (String × Node) :=
  [("null", .device .null), ("zero", .device .zero), ("full", .device .full),
    ("random", .device .zero), ("urandom", .device .zero), ("tty", .device .null),
    ("stdin", .device (.descriptor 0)), ("stdout", .device (.descriptor 1)),
    ("stderr", .device (.descriptor 2)), ("fd", .folder ((List.range 10).map fun n =>
      (toString n, .device (.descriptor n))))]

def bare (names : List String) : List (String × Node) := names.map fun n => (n, .folder [])

def root : List (String × Node) :=
  [("bin", .link "usr/bin"), ("sbin", .link "usr/sbin"), ("lib", .link "usr/lib"),
    ("dev", .folder devices),
    ("usr", .folder
      ([("bin", .folder (programNames.map fun n => (n, programFile n)))] ++
        bare ["sbin", "lib", "share", "include"] ++
        [("local", .folder (bare ["bin", "sbin", "lib"]))])),
    ("etc", .folder [("passwd", .file "root:x:0:0:root:/root:/bin/bash\n".toUTF8)])] ++
    bare ["tmp", "root", "home", "opt", "var", "proc", "sys", "run", "mnt", "srv"]

end BuildPipeline.Shell.Installation
